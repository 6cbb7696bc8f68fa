import Genavb.Avdecc.AdpDiscovery
import Genavb.Avdecc.MilanEvents

/-! The two receivers of advertisements: the discovery table of a port and the sinks of a Milan listener. They keep a
talker for different times, compare its available indexes differently, and both read what the sender has stored. -/
namespace Genavb.Avdecc
open Support List
open Maap (MacAddress)
open MilanListener AdpPorts StreamInputDynamicDesc
open UInt32 (toNat_inj toNat_ofNat' toNat_sub)

/-- An advertisement as the sinks of an interface with that grandmaster and domain read it (`adp_milan_check_gptp`). -/
def AdpHdr.milan (gptpGrandmasterId : UInt64) (domainNumber : UInt8) (pdu : AdpHdr) : AdpPdu :=
  ⟨pdu.entityId,pdu.availableIndex,pdu.interfaceIndex,
    fun _ => gptpGrandmasterId = pdu.gptpGrandmasterId && domainNumber = pdu.gptpDomainNumber⟩

namespace MilanListener
open BoundListener (modifySink_modifySink)

def sinkDiscoveryTimeout (validTime : UInt8) : UInt32 := .ofNat (max 1 validTime.toNat * 1000)

/-- The discovery timer of a sink after an advertisement, with the milliseconds that it was started for. -/
def availableTimer (index : UInt16) (pdu : AdpPdu) (validTime : UInt8) (timer : Option UInt32)
    (listener : MilanListener) : Option UInt32 :=
  let sink := listener.sinks index
  if !sink.talkerDiscovered then
    if !pdu.checkGptp index then timer else some (sinkDiscoveryTimeout validTime)
  else if sink.interfaceIndex ≠ pdu.interfaceIndex then timer
  else if (pdu.availableIndex - sink.availableIndex).toBitVec.toInt ≤ 0 ∧ !pdu.checkGptp index then none
  else some (sinkDiscoveryTimeout validTime)

def Takes (index : UInt16) (pdu : AdpPdu) (listener : MilanListener) : Prop :=
  pdu.checkGptp index = true ∧
    ((listener.sinks index).talkerDiscovered = true → (listener.sinks index).interfaceIndex = pdu.interfaceIndex)

def Restarts (index : UInt16) (pdu : AdpPdu) (listener : MilanListener) : Prop :=
  listener.discoverySm index (.rcvAdpAvailable pdu) =
    (listener.discoverySm index (.rcvAdpDeparting pdu)).discoverySm index (.rcvAdpAvailable pdu)

def Refreshes (index : UInt16) (pdu : AdpPdu) (listener : MilanListener) : Prop :=
  listener.discoverySm index (.rcvAdpAvailable pdu) =
    listener.modifySink index ({· with availableIndex := pdu.availableIndex,adpDiscoveryTimer := true})

section Sinks
variable {listener : MilanListener} {index : UInt16} {pdu : AdpPdu} {validTime : UInt8} {timer : Option UInt32}

def departed (sink : StreamInputDynamicDesc) : StreamInputDynamicDesc :=
  match sink.state with
  | .prbWDelay => ({sink with acmpDelayTimer := false}.setProbing .passive).enter .prbWAvail
  | .prbWResp | .prbWResp2 => (sink.setProbing .passive).enter .prbWAvail
  | .prbWRetry => ({sink with acmpRetryTimer := false}.setProbing .passive).enter .prbWAvail
  | _ => sink

def discovered (sink : StreamInputDynamicDesc) : StreamInputDynamicDesc :=
  match sink.state with
  | .prbWAvail => ({sink with acmpDelayTimer := true}.setProbing .active).enter .prbWDelay
  | _ => sink

def stopWaiting (index : UInt16) (listener : MilanListener) : MilanListener :=
  if listener.sinkValid index && (listener.sinks index).isWaiting then
    listener.inflightCancel (listener.sinks index).probeTxSeqId
  else listener

private theorem modifySink_id : listener.modifySink index id = listener := by
  unfold modifySink
  rw [id,Function.update_eq_self]

private theorem sinkEvent_departed : listener.sinkEvent index .evtTkDeparted =
    (listener.stopWaiting index).modifySink index (if listener.sinkValid index then departed else id) := by
  unfold sinkEvent
  split
  next valid =>
    unfold sinkSm stopWaiting isWaiting modifySink departed
    rw [valid]
    cases state : (listener.sinks index).state <;> simp [state,inflightCancel]
  next outside =>
    rw [modifySink_id]
    unfold stopWaiting
    simp [outside]

private theorem sinkEvent_discovered : listener.sinkEvent index .evtTkDiscovered =
    listener.modifySink index (if listener.sinkValid index then discovered else id) := by
  unfold sinkEvent
  split
  next valid =>
    unfold sinkSm modifySink discovered
    dsimp only
    cases state : (listener.sinks index).state <;> simp
  · exact modifySink_id.symm

private theorem modifySink_congr {first second : StreamInputDynamicDesc → StreamInputDynamicDesc}
    (same : first (listener.sinks index) = second (listener.sinks index)) :
    listener.modifySink index first = listener.modifySink index second := by
  unfold modifySink
  rw [same]

theorem stopWaiting_modify {change : StreamInputDynamicDesc → StreamInputDynamicDesc}
    (state : (change (listener.sinks index)).state = (listener.sinks index).state)
    (probe : (change (listener.sinks index)).probeTxSeqId = (listener.sinks index).probeTxSeqId) :
    (listener.modifySink index change).stopWaiting index = (listener.stopWaiting index).modifySink index change := by
  unfold stopWaiting isWaiting
  rw [modifySink_same,state,probe]
  change (if listener.sinkValid index && _ then _ else _) = _
  split
  · rfl
  · rfl

theorem stopWaiting_sinks : (listener.stopWaiting index).sinks = listener.sinks := by
  unfold stopWaiting
  split
  · rfl
  · rfl

theorem stopWaiting_valid : (listener.stopWaiting index).sinkValid index = listener.sinkValid index := by
  unfold stopWaiting
  split
  · rfl
  · rfl

theorem discoverySm_departing (known : (listener.sinks index).talkerDiscovered = true)
    (interface : (listener.sinks index).interfaceIndex = pdu.interfaceIndex) :
    listener.discoverySm index (.rcvAdpDeparting pdu) =
      (listener.sinkEvent index .evtTkDeparted).modifySink index
        ({· with adpDiscoveryTimer := false,talkerDiscovered := false}) := by
  have stopped := @stopWaiting_modify listener index ({· with adpDiscoveryTimer := false}) rfl rfl
  unfold discoverySm
  simp only [known,Bool.not_true,Bool.false_eq_true,↓reduceIte,interface,ne_eq,not_true_eq_false]
  rw [sinkEvent_departed,sinkEvent_departed,stopped,modifySink_modifySink,modifySink_modifySink,modifySink_modifySink]
  refine modifySink_congr ?_
  change {(if listener.sinkValid index then departed else id) _ with talkerDiscovered := false} = _
  split
  · unfold departed
    dsimp only
    split <;> rfl
  · rfl

theorem rediscovered {sink : StreamInputDynamicDesc} (valid : Bool) (known : sink.talkerDiscovered = true)
    (interface : sink.interfaceIndex = pdu.interfaceIndex) :
    let leave := if valid then departed else id
    let find := if valid then discovered else id
    {find (leave sink) with availableIndex := pdu.availableIndex,adpDiscoveryTimer := true} =
      {find {leave sink with
        talkerDiscovered := false
        availableIndex := pdu.availableIndex
        interfaceIndex := pdu.interfaceIndex
        adpDiscoveryTimer := true} with talkerDiscovered := true} := by
  obtain ⟨binding,srp,state,seqId,probing,status,srpState,srpStatus,talker,available,index,delay,retry,registration,timer⟩ :=
    sink
  cases known
  cases interface
  cases valid with
  | false => rfl
  | true => cases state <;> rfl

theorem discoverySm_behind (known : (listener.sinks index).talkerDiscovered = true)
    (interface : (listener.sinks index).interfaceIndex = pdu.interfaceIndex)
    (behind : (pdu.availableIndex - (listener.sinks index).availableIndex).toBitVec.toInt ≤ 0) :
    listener.Restarts index pdu := by
  unfold Restarts
  rw [discoverySm_departing known interface]
  unfold discoverySm
  simp only [known,Bool.not_true,Bool.false_eq_true,↓reduceIte,interface,ne_eq,not_true_eq_false,behind,modifySink_same,
    Bool.not_false]
  split
  · rfl
  · rw [sinkEvent_departed,sinkEvent_discovered,sinkEvent_discovered]
    have valid (change : StreamInputDynamicDesc → StreamInputDynamicDesc) :
        ((listener.stopWaiting index).modifySink index change).sinkValid index = listener.sinkValid index :=
      stopWaiting_valid
    simp only [modifySink_modifySink,valid]
    refine modifySink_congr ?_
    rw [stopWaiting_sinks]
    exact rediscovered (listener.sinkValid index) known interface

theorem discoverySm_ahead (known : (listener.sinks index).talkerDiscovered = true)
    (interface : (listener.sinks index).interfaceIndex = pdu.interfaceIndex)
    (ahead : ¬ (pdu.availableIndex - (listener.sinks index).availableIndex).toBitVec.toInt ≤ 0) :
    listener.Refreshes index pdu := by
  unfold Refreshes discoverySm
  simp only [known,Bool.not_true,Bool.false_eq_true,↓reduceIte,interface,ne_eq,not_true_eq_false,ahead]

private theorem discoverySm_new (unknown : (listener.sinks index).talkerDiscovered = false) (near : pdu.checkGptp index = true) :
    ((listener.discoverySm index (.rcvAdpAvailable pdu)).sinks index).talkerDiscovered = true ∧
      ((listener.discoverySm index (.rcvAdpAvailable pdu)).sinks index).availableIndex = pdu.availableIndex ∧
        ((listener.discoverySm index (.rcvAdpAvailable pdu)).sinks index).interfaceIndex = pdu.interfaceIndex := by
  unfold discoverySm
  simp only [unknown,Bool.not_false,↓reduceIte,near,Bool.not_true,Bool.false_eq_true]
  rw [sinkEvent_discovered,modifySink_modifySink,modifySink_modifySink,modifySink_same]
  split
  · unfold discovered
    split <;> simp [enter,setProbing]
  · simp

theorem discoverySm_far (unknown : (listener.sinks index).talkerDiscovered = false) (far : pdu.checkGptp index = false) :
    listener.discoverySm index (.rcvAdpAvailable pdu) = listener := by
  unfold discoverySm
  simp only [unknown,Bool.not_false,↓reduceIte,far]

theorem availableTimer_taken (takes : listener.Takes index pdu) :
    listener.availableTimer index pdu validTime timer = some (sinkDiscoveryTimeout validTime) := by
  unfold availableTimer
  cases known : (listener.sinks index).talkerDiscovered with
  | false => simp [takes.1,known]
  | true => simp [takes.1,takes.2 known,known]

end Sinks

end MilanListener

namespace AdpDiscoveryCtx
variable {disc next : AdpDiscoveryCtx} {last : UInt64 → Option EntityInfo} {index : Nat} {info : EntityInfo} {ms : UInt32}
variable {entityId : UInt64}

def keptFor (entityId : UInt64) (disc : AdpDiscoveryCtx) : Option UInt32 :=
  (disc.adpDiscoveryFind entityId).bind fun index => disc.entities[index]?.bind (·.timeout)

theorem Holds.cleared_entry (holds : disc.Holds last) (got : disc.adpDiscoveryGet = some (index,next)) :
    next.modifyEntry index ({· with info := .zero}) = next := by
  unfold adpDiscoveryGet at got
  split at got
  · cases got
  next free found =>
    cases got
    obtain ⟨entityDisc,at',idle⟩ := lastFree_some found
    have empty := holds.cleared entityDisc (mem_of_getElem? at') idle
    obtain ⟨inside,same⟩ := List.getElem?_eq_some_iff.mp at'
    unfold modifyEntry
    rw [modify_modify_eq,Slots.modify_inside _ inside,Slots.modify_inside _ inside]
    congr 2
    rw [Function.comp_apply,same,← empty]

theorem Holds.find (holds : disc.Holds last) (knows : disc.Knows entityId index) :
    disc.adpDiscoveryFind entityId = some index := by
  cases found : disc.adpDiscoveryFind entityId with
  | none =>
    obtain ⟨entityDisc,at',busy,same⟩ := knows
    exact absurd same (adpDiscoveryFind_none.mp found entityDisc (mem_of_getElem? at') busy)
  | some position =>
    obtain ⟨entityDisc,at',busy,same⟩ := adpDiscoveryFind_some found
    rw [holds.alone knows at' busy same]

theorem Advertised.written (advertised : disc.Advertised info ms next) (accepted : disc.accepts info.entityId = true) :
    ∃ place : Nat, next.entities[place]? = some ⟨info,some ms,true⟩ := by
  cases advertised with
  | full refused => exact absurd (accepted.symm.trans refused) (by decide)
  | entered free | restarted _ _ free => exact ⟨_,List.getElem?_set_self free.inside⟩
  | refreshed knows => exact ⟨_,List.getElem?_set_self knows.inside⟩

theorem Holds.keptFor_eq (holds : disc.Holds last) (at' : disc.entities[index]? = some ⟨info,some ms,true⟩) :
    disc.keptFor info.entityId = some ms := by
  unfold keptFor
  rw [holds.find ⟨_,at',rfl,rfl⟩,Option.bind_some,at']
  rfl

end AdpDiscoveryCtx

def AdpNotice.Departs : AdpNotice → Prop
  | .ipcTx msg => msg.msgType = .entityDeparting
  | .talkerLeft _ => True
  | .discoveryUpdate .. => False

namespace AdpPorts
variable {ports : AdpPorts} {portId index : Nat} {pdu : AdpHdr} {macSrc : MacAddress} {validTime : UInt8}
variable {last : UInt64 → Option EntityInfo}

def Restarts (portId : Nat) (pdu : AdpHdr) (validTime : UInt8) (macSrc : MacAddress) (ports : AdpPorts) : Prop :=
  ports.adpDiscoveryUpdate portId pdu validTime macSrc =
    (ports.adpDiscoveryRemove portId pdu).adpDiscoveryUpdate portId pdu validTime macSrc

/-- A known entity stays in its entry, and nobody is told that it departed. -/
def Refreshes (portId : Nat) (pdu : AdpHdr) (validTime : UInt8) (macSrc : MacAddress) (ports : AdpPorts) : Prop :=
  ∃ index rest, (ports.discovery portId).Knows pdu.entityId index ∧
    (ports.adpDiscoveryUpdate portId pdu validTime macSrc).discovery portId =
      (ports.discovery portId).refresh index (pdu.info macSrc (ports.port portId).localPhysicalMac)
        (discoveryTimeout validTime) ∧
    (ports.adpDiscoveryUpdate portId pdu validTime macSrc).sent = ports.sent ++ rest ∧ ∀ notice ∈ rest, ¬ notice.Departs

private theorem update_behind (holds : (ports.discovery portId).Holds last)
    (knows : (ports.discovery portId).Knows pdu.entityId index)
    (behind : pdu.availableIndex ≤ ((ports.discovery portId).infoAt index).availableIndex) :
    ports.Restarts portId pdu validTime macSrc := by
  have found := holds.find knows
  have left := @departure ports portId index knows.inside
  have gone := holds.leave knows
  have removed : ports.adpDiscoveryRemove portId pdu =
      (ports.modifyDiscovery portId (·.modifyEntry index (·.timerStop))).adpDiscoveryPut portId index := by
    unfold adpDiscoveryRemove
    rw [found]
  have entry : ports.advertisedEntry portId pdu = (ports.adpDiscoveryRemove portId pdu).advertisedEntry portId pdu := by
    rw [removed]
    unfold advertisedEntry
    dsimp only
    rw [found,left.2,AdpDiscoveryCtx.adpDiscoveryFind_none.mpr gone.2]
    dsimp only
    rw [if_pos behind]
    cases got : ((ports.discovery portId).leave index).adpDiscoveryGet with
    | none => rw [left.2,got]
    | some pair =>
      obtain ⟨fresh,next⟩ := pair
      rw [left.2,got]
      dsimp only
      rw [gone.1.cleared_entry got]
  unfold Restarts adpDiscoveryUpdate
  rw [entry]

theorem tellController_available (info : EntityInfo) : ∃ rest,
    (ports.tellController portId .entityAvailable info).sent = ports.sent ++ rest ∧ ∀ notice ∈ rest, ¬ notice.Departs := by
  unfold tellController
  split
  · refine ⟨_,rfl,fun notice member => ?_⟩
    rw [mem_singleton.mp member]
    intro departs
    cases departs
  · exact ⟨[],(append_nil _).symm,fun _ member => absurd member not_mem_nil⟩

theorem updateEntity_sent : ∃ rest, (ports.adpDiscoveryUpdateEntity portId index pdu macSrc).sent = ports.sent ++ rest ∧
    ∀ notice ∈ rest, ¬ notice.Departs := by
  unfold adpDiscoveryUpdateEntity
  dsimp only
  split
  · exact tellController_available _
  · exact ⟨[],(append_nil _).symm,fun _ member => absurd member not_mem_nil⟩

private theorem update_ahead (holds : (ports.discovery portId).Holds last)
    (knows : (ports.discovery portId).Knows pdu.entityId index)
    (ahead : ((ports.discovery portId).infoAt index).availableIndex < pdu.availableIndex) :
    ports.Refreshes portId pdu validTime macSrc := by
  have entry : ports.advertisedEntry portId pdu = (some index,ports) := by
    unfold advertisedEntry
    dsimp only
    rw [holds.find knows]
    dsimp only
    rw [if_neg (UInt32.not_le.mpr ahead)]
  have written := @stored ports portId index pdu macSrc validTime ports entry
  obtain ⟨rest,told,stays⟩ := @updateEntity_sent ports portId index pdu macSrc
  have sent : ∃ rest, (ports.adpDiscoveryUpdate portId pdu validTime macSrc).sent = ports.sent ++ rest ∧
      ∀ notice ∈ rest, ¬ notice.Departs := by
    unfold adpDiscoveryUpdate
    rw [entry]
    dsimp only
    split
    · refine ⟨_,(congrArg (· ++ [_]) told).trans (append_assoc ..),fun notice member => ?_⟩
      rcases mem_append.mp member with early | late
      · exact stays notice early
      · rw [mem_singleton.mp late]
        exact id
    · exact ⟨rest,told,stays⟩
  obtain ⟨rest,sent,stays⟩ := sent
  refine ⟨index,rest,knows,?_,sent,stays⟩
  rw [written.2,AdpDiscoveryCtx.store_busy knows.inside (knows.busy knows.inside).1]

end AdpPorts

structure Reception where
  ports : AdpPorts
  portId : Nat
  listener : MilanListener
  sink : UInt16
  timer : Option UInt32
  gptpGrandmasterId : UInt64
  domainNumber : UInt8
  pdu : AdpHdr
  validTime : UInt8
  macSrc : MacAddress

namespace Reception

def sinkPdu (reception : Reception) : AdpPdu :=
  reception.pdu.milan reception.gptpGrandmasterId reception.domainNumber

def tableKeeps (reception : Reception) : Option UInt32 :=
  ((reception.ports.adpDiscoveryUpdate reception.portId reception.pdu reception.validTime reception.macSrc).discovery
    reception.portId).keptFor reception.pdu.entityId

def sinkKeeps (reception : Reception) : Option UInt32 :=
  reception.listener.availableTimer reception.sink reception.sinkPdu reception.validTime reception.timer

def advertisedTime (reception : Reception) : UInt32 := .ofNat (2 * reception.validTime.toNat * 1000)

def TableRefreshes (reception : Reception) : Prop :=
  reception.ports.Refreshes reception.portId reception.pdu reception.validTime reception.macSrc

def TableRestarts (reception : Reception) : Prop :=
  reception.ports.Restarts reception.portId reception.pdu reception.validTime reception.macSrc

def SinkRefreshes (reception : Reception) : Prop := reception.listener.Refreshes reception.sink reception.sinkPdu

def SinkRestarts (reception : Reception) : Prop := reception.listener.Restarts reception.sink reception.sinkPdu

def KnownWith (old : UInt32) (reception : Reception) : Prop :=
  (∃ entry, (reception.ports.discovery reception.portId).Knows reception.pdu.entityId entry ∧
    ((reception.ports.discovery reception.portId).infoAt entry).availableIndex = old) ∧
  (reception.listener.sinks reception.sink).talkerDiscovered = true ∧
    (reception.listener.sinks reception.sink).availableIndex = old

def GoesBack (old new : UInt32) : Prop := 0 < (old - new).toNat ∧ (old - new).toNat < 2^31

/-- Both receivers keep the talker for the time advertised, take the next index for a refresh and one that goes back
for a restart. -/
structure Agree (reception : Reception) : Prop where
  kept : reception.tableKeeps = some reception.advertisedTime ∧ reception.sinkKeeps = some reception.advertisedTime
  forward : ∀ old, reception.KnownWith old → reception.pdu.availableIndex = old + 1 →
    reception.TableRefreshes ∧ reception.SinkRefreshes
  back : ∀ old, reception.KnownWith old → GoesBack old reception.pdu.availableIndex →
    reception.TableRestarts ∧ reception.SinkRestarts

def Reached (ports : AdpPorts) : Prop :=
  ∃ milanMode maxEntitiesDiscovery localPhysicalMac controller inputs,
    ports = run step inputs (.start milanMode maxEntitiesDiscovery localPhysicalMac controller)

structure Taken (reception : Reception) : Prop where
  reached : Reached reception.ports
  accepted : (reception.ports.discovery reception.portId).accepts reception.pdu.entityId = true
  takes : reception.listener.Takes reception.sink reception.sinkPdu

variable {reception : Reception} {old new : UInt32}

theorem Reached.holds {ports : AdpPorts} (reached : Reached ports) (portId : Nat) :
    ∃ last, (ports.discovery portId).Holds last := by
  obtain ⟨milanMode,maxEntitiesDiscovery,localPhysicalMac,controller,inputs,rfl⟩ := reached
  exact ⟨_,run_holds inputs (init_holds maxEntitiesDiscovery)⟩

private theorem tableKeeps_eq (taken : reception.Taken) :
    reception.tableKeeps = some (discoveryTimeout reception.validTime) := by
  obtain ⟨last,holds⟩ := taken.reached.holds reception.portId
  have advertised := (@update_advertised reception.ports reception.portId reception.pdu reception.macSrc
    reception.validTime).2
  obtain ⟨place,at'⟩ := advertised.written taken.accepted
  exact (advertised.holds holds).keptFor_eq at'

private theorem sinkKeeps_eq (taken : reception.Taken) :
    reception.sinkKeeps = some (sinkDiscoveryTimeout reception.validTime) :=
  availableTimer_taken taken.takes

variable {validTime : UInt8}

theorem discoveryTimeout_eq : discoveryTimeout validTime = .ofNat (2 * validTime.toNat * 1000) ↔ validTime ≠ 0 := by
  unfold discoveryTimeout
  rw [← toNat_inj,toNat_ofNat',toNat_ofNat',ne_eq,← UInt8.toNat_inj,UInt8.toNat_zero]
  omega

theorem sinkDiscoveryTimeout_ne : sinkDiscoveryTimeout validTime ≠ .ofNat (2 * validTime.toNat * 1000) := by
  have small := validTime.toNat_lt
  unfold sinkDiscoveryTimeout
  rw [ne_eq,← toNat_inj,toNat_ofNat',toNat_ofNat']
  omega

theorem discoveryTimeout_sink : discoveryTimeout validTime = sinkDiscoveryTimeout validTime ↔ validTime = 0 := by
  have small := validTime.toNat_lt
  unfold discoveryTimeout sinkDiscoveryTimeout
  rw [← toNat_inj,toNat_ofNat',toNat_ofNat',← UInt8.toNat_inj,UInt8.toNat_zero]
  omega

theorem forward_ahead : ¬ ((old + 1 - old).toBitVec.toInt ≤ 0) := by
  rw [UInt32.add_comm,UInt32.add_sub_cancel]
  decide

theorem GoesBack.behind (back : GoesBack old new) : (new - old).toBitVec.toInt ≤ 0 := by
  obtain ⟨some,half⟩ := back
  have low := old.toNat_lt
  have high := new.toNat_lt
  rw [BitVec.toInt_eq_toNat_cond]
  rw [toNat_sub] at some half
  have value : (new - old).toBitVec.toNat = (2^32 - old.toNat + new.toNat) % 2^32 := toNat_sub ..
  split
  · omega
  · omega

/-- The table keeps a talker for the time advertised, and a Milan sink for half of it. A sink compares indexes modulo
2^32, and the table does not. -/
theorem receivers_apart (reception : Reception) (taken : reception.Taken) :
    ¬ reception.Agree ∧
    (reception.tableKeeps = some reception.advertisedTime ↔ reception.validTime ≠ 0) ∧
    reception.sinkKeeps ≠ some reception.advertisedTime ∧
    (reception.tableKeeps = reception.sinkKeeps ↔ reception.validTime = 0) ∧
    (∀ old, reception.KnownWith old → reception.pdu.availableIndex = old + 1 → reception.SinkRefreshes ∧
      (old ≠ 0xffffffff → reception.TableRefreshes) ∧ (old = 0xffffffff → reception.TableRestarts)) ∧
    (∀ old, reception.KnownWith old → GoesBack old reception.pdu.availableIndex → reception.SinkRestarts ∧
      (reception.pdu.availableIndex < old → reception.TableRestarts) ∧
      (old < reception.pdu.availableIndex → reception.TableRefreshes)) := by
  obtain ⟨last,holds⟩ := taken.reached.holds reception.portId
  have sink : reception.sinkKeeps ≠ some reception.advertisedTime := by
    rw [sinkKeeps_eq taken]
    exact fun same => sinkDiscoveryTimeout_ne (Option.some.inj same)
  refine ⟨fun agree => sink agree.kept.2,?_,sink,?_,fun old known forward => ?_,fun old known back => ?_⟩
  · rw [tableKeeps_eq taken,Option.some_inj]
    exact discoveryTimeout_eq
  · rw [tableKeeps_eq taken,sinkKeeps_eq taken,Option.some_inj]
    exact discoveryTimeout_sink
  · obtain ⟨⟨entry,knows,index⟩,discovered,sinkIndex⟩ := known
    refine ⟨discoverySm_ahead discovered (taken.takes.2 discovered) ?_,fun inside => ?_,fun wraps => ?_⟩
    · rw [sinkIndex]
      change ¬ (reception.pdu.availableIndex - old).toBitVec.toInt ≤ 0
      rw [forward]
      exact forward_ahead
    · refine update_ahead holds knows ?_
      rw [index,forward,UInt32.lt_iff_toNat_lt,UInt32.toNat_add]
      have below := old.toNat_lt
      have last : old.toNat ≠ 0xffffffff := fun same => inside (toNat_inj.mp same)
      change old.toNat < (old.toNat + 1) % 2^32
      omega
    · refine update_behind holds knows ?_
      rw [index,forward,wraps]
      decide
  · obtain ⟨⟨entry,knows,index⟩,discovered,sinkIndex⟩ := known
    refine ⟨discoverySm_behind discovered (taken.takes.2 discovered) ?_,fun less => ?_,fun more => ?_⟩
    · rw [sinkIndex]
      exact back.behind
    · refine update_behind holds knows ?_
      rw [index]
      exact UInt32.le_of_lt less
    · refine update_ahead holds knows ?_
      rw [index]
      exact more

def tenUnits (ports : AdpPorts) (listener : MilanListener) (availableIndex : UInt32) : Reception where
  ports := ports
  portId := 0
  listener := listener
  sink := 0
  timer := none
  gptpGrandmasterId := 1
  domainNumber := 0
  pdu := ⟨5,0,0,0,0,0,0,0,availableIndex,1,0,0,0,0⟩
  validTime := 10
  macSrc := ⟨0,0,0,0,0,1⟩

def twoPorts : AdpPorts := .start true 4 (fun _ => ⟨0,0,0,0,0,2⟩) fun _ => some 2

def boundListener : MilanListener :=
  (acmpMilanInit 7 2 4 none).sinkStep (.bindRxCommand ⟨9,5,0,7,0,0,⟨0,0,0,0,0,0⟩,0,0,0,0⟩)

theorem twoPorts_taken : (tenUnits twoPorts boundListener 0xffffffff).Taken where
  reached := ⟨true,4,_,_,[],rfl⟩
  accepted := by decide
  takes := ⟨by decide,fun known => absurd known (by decide +kernel)⟩

theorem boundListener_apart :
    ¬ (tenUnits twoPorts boundListener 0xffffffff).Agree ∧
    (tenUnits twoPorts boundListener 0xffffffff).tableKeeps = some 20000 ∧
    (tenUnits twoPorts boundListener 0xffffffff).sinkKeeps = some 10000 :=
  ⟨(receivers_apart _ twoPorts_taken).1,by decide +kernel,by decide +kernel⟩

theorem tenUnits_apart :
    let first := tenUnits twoPorts boundListener 0xffffffff
    let later := tenUnits (twoPorts.adpDiscoveryUpdate 0 first.pdu 10 first.macSrc) boundListener 0
    ¬ first.Agree ∧ ¬ later.TableRefreshes := by
  refine ⟨fun agree => absurd agree.kept.2 (by decide +kernel),fun refreshes => ?_⟩
  obtain ⟨_,rest,_,_,sent,stays⟩ := refreshes
  let entity (availableIndex : UInt32) : EntityInfo :=
    ⟨5,0,0,0,0,0,0,0,1,0,0,0,availableIndex,0,⟨0,0,0,0,0,1⟩,⟨0,0,0,0,0,2⟩⟩
  have told : AdpNotice.ipcTx ⟨.entityDeparting,1,entity 0xffffffff⟩ ∈ rest := by
    have same : (twoPorts.adpDiscoveryUpdate 0 ⟨5,0,0,0,0,0,0,0,0xffffffff,1,0,0,0,0⟩ 10 ⟨0,0,0,0,0,1⟩).sent ++
        [.ipcTx ⟨.entityDeparting,1,entity 0xffffffff⟩,.ipcTx ⟨.entityAvailable,1,entity 0⟩] = _ ++ rest :=
      Eq.trans (by decide +kernel) sent
    rw [← append_cancel_left same]
    exact mem_cons_self
  exact stays _ told rfl

end Reception

/-- An entity that advertises on one of its interfaces, with the byte order of its host. -/
structure Advertiser where
  byteOrder : ByteOrder
  desc : EntityDescriptor
  validTime : UInt32
  gptpGrandmasterId : UInt64
  domainNumber : UInt8
  interfaceIndex : UInt32

namespace Advertiser

def pdu (advertiser : Advertiser) : AdpHdr :=
  advertisePdu advertiser.byteOrder advertiser.desc advertiser.gptpGrandmasterId advertiser.interfaceIndex

def received (advertiser : Advertiser) : UInt8 := avtpGetStatus (availableStatus advertiser.validTime)

structure Describes (advertiser : Advertiser) (info : EntityInfo) : Prop where
  entityId : info.entityId = advertiser.desc.entityId
  entityModelId : info.entityModelId = advertiser.desc.entityModelId
  entityCapabilities : info.entityCapabilities = advertiser.desc.entityCapabilities
  talkerCapabilities : info.talkerCapabilities = advertiser.desc.talkerCapabilities
  listenerCapabilities : info.listenerCapabilities = advertiser.desc.listenerCapabilities
  controllerCapabilities : info.controllerCapabilities = advertiser.desc.controllerCapabilities
  availableIndex : info.availableIndex = advertiser.desc.availableIndex
  gptpGrandmasterId : info.gptpGrandmasterId = advertiser.gptpGrandmasterId
  gptpDomainNumber : info.gptpDomainNumber = advertiser.domainNumber
  interfaceIndex : info.interfaceIndex.toNat = advertiser.interfaceIndex.toNat

/-- A sink of the same network knows the talker as it advertises itself. -/
structure Discovers (advertiser : Advertiser) (sink : StreamInputDynamicDesc) : Prop where
  discovered : sink.talkerDiscovered = true
  availableIndex : sink.availableIndex = advertiser.desc.availableIndex
  interfaceIndex : sink.interfaceIndex.toNat = advertiser.interfaceIndex.toNat

/-- The receive path of a stack reads what the entity has: the valid time, the table of every port that accepts the
advertisement, and every sink on the network of the entity that does not know its talker yet. -/
structure RoundTrips (advertiser : Advertiser) : Prop where
  validTime : 2 * advertiser.received.toNat = advertiser.validTime.toNat
  table : ∀ (ports : AdpPorts) (portId : Nat) (macSrc : MacAddress), Reception.Reached ports →
    (ports.discovery portId).accepts advertiser.desc.entityId = true →
      let next := (ports.adpDiscoveryUpdate portId advertiser.pdu advertiser.received macSrc).discovery portId
      ∃ index entityDisc, next.adpDiscoveryFind advertiser.desc.entityId = some index ∧
        next.entities[index]? = some entityDisc ∧ advertiser.Describes entityDisc.info
  sink : ∀ (listener : MilanListener) (index : UInt16), (listener.sinks index).talkerDiscovered = false →
    advertiser.Discovers ((listener.discoverySm index (.rcvAdpAvailable
      (advertiser.pdu.milan advertiser.gptpGrandmasterId advertiser.domainNumber))).sinks index)

/-- What the PDU can say of an advertiser: its domain is 0, its valid time is a number of units of two seconds, and
its interface index is the same number in both byte orders. -/
structure Told (advertiser : Advertiser) : Prop where
  domain : advertiser.domainNumber = 0
  even : advertiser.validTime.toNat % 2 = 0
  short : advertiser.validTime.toNat ≤ 62
  swapped : (ntohs advertiser.byteOrder advertiser.interfaceIndex.toUInt16).toNat = advertiser.interfaceIndex.toNat

variable {advertiser : Advertiser}

theorem avtpGetStatus_set (status : UInt8) :
    (avtpGetStatus (avtpSetCtrlDataStatus status ADP_PDU_LEN)).toNat = status.toNat % 32 := by
  have all : ∀ value < 256,
      (avtpGetStatus (avtpSetCtrlDataStatus (.ofNat value) ADP_PDU_LEN)).toNat = value % 32 := by decide +kernel
  have same := all status.toNat status.toNat_lt
  rw [UInt8.ofNat_toNat] at same
  exact same

theorem received_eq : advertiser.received.toNat = advertiser.validTime.toNat / 2 % 32 := by
  unfold received availableStatus
  rw [avtpGetStatus_set,UInt32.toNat_toUInt8,UInt32.toNat_div]
  change advertiser.validTime.toNat / 2 % 256 % 32 = _
  omega

private theorem validTime_told : 2 * advertiser.received.toNat = advertiser.validTime.toNat ↔
    advertiser.validTime.toNat % 2 = 0 ∧ advertiser.validTime.toNat ≤ 62 := by
  rw [received_eq]
  omega

theorem describes_iff (macAddr localMacAddr : MacAddress) :
    advertiser.Describes (advertiser.pdu.info macAddr localMacAddr) ↔ advertiser.domainNumber = 0 ∧
      (ntohs advertiser.byteOrder advertiser.interfaceIndex.toUInt16).toNat = advertiser.interfaceIndex.toNat := by
  constructor
  · intro describes
    exact ⟨describes.gptpDomainNumber.symm,describes.interfaceIndex⟩
  · intro told
    exact ⟨rfl,rfl,rfl,rfl,rfl,rfl,rfl,rfl,told.1.symm,told.2⟩

/-- An advertisement can be decoded to what the entity has exactly if the entity is one that the PDU can tell of. -/
theorem roundTrips_iff (advertiser : Advertiser) : advertiser.RoundTrips ↔ advertiser.Told := by
  constructor
  · intro trips
    have valid := validTime_told.mp trips.validTime
    have discovers := trips.sink (acmpMilanInit 0 1 1 none) 0 rfl
    cases near : (advertiser.pdu.milan advertiser.gptpGrandmasterId advertiser.domainNumber).checkGptp 0 with
    | false =>
      have hidden := discovers.discovered
      rw [discoverySm_far rfl near] at hidden
      cases hidden
    | true =>
      have interface := (@discoverySm_new (acmpMilanInit 0 1 1 none) 0 _ rfl near).2.2
      refine ⟨?_,valid.1,valid.2,?_⟩
      · unfold AdpHdr.milan at near
        exact of_decide_eq_true (Bool.and_eq_true_iff.mp near).2
      · rw [← discovers.interfaceIndex,interface]
        rfl
  · intro told
    refine ⟨validTime_told.mpr ⟨told.even,told.short⟩,fun ports portId macSrc reached accepted => ?_,
      fun listener index unknown => ?_⟩
    · obtain ⟨last,holds⟩ := reached.holds portId
      have advertised := (@update_advertised ports portId advertiser.pdu macSrc advertiser.received).2
      obtain ⟨place,at'⟩ := advertised.written accepted
      exact ⟨place,_,(advertised.holds holds).find ⟨_,at',rfl,rfl⟩,at',(describes_iff _ _).mpr ⟨told.domain,told.swapped⟩⟩
    · have near : (advertiser.pdu.milan advertiser.gptpGrandmasterId advertiser.domainNumber).checkGptp index = true := by
        simp [AdpHdr.milan,pdu,advertisePdu,told.domain]
      obtain ⟨discovered,available,interface⟩ := discoverySm_new unknown near
      refine ⟨discovered,available,?_⟩
      rw [interface]
      exact told.swapped

theorem swapped_untold :
    let desc : EntityDescriptor := ⟨5,0,0,0,0,0,0,0,1,0⟩
    ¬ (Advertiser.mk .little desc 20 1 0 1).RoundTrips ∧ (Advertiser.mk .little desc 20 1 0 1).pdu.interfaceIndex = 256 ∧
      ¬ (Advertiser.mk .little desc 20 1 1 0).RoundTrips := by
  refine ⟨fun trips => ?_,by decide +kernel,fun trips => ?_⟩
  · have read := (trips.sink (acmpMilanInit 7 2 4 none) 0 rfl).interfaceIndex
    exact absurd read (by decide +kernel)
  · have found := (trips.sink (acmpMilanInit 7 2 4 none) 0 rfl).discovered
    exact absurd found (by decide +kernel)

end Advertiser

end Genavb.Avdecc
