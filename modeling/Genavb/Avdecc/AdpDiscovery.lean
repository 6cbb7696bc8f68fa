import Genavb.Avdecc.Adp
import Genavb.Support.Run
import Genavb.Support.Slots

/-! The discovery tables over whole runs: the number of entities, the entries in use, their timers and what they
hold change together. An application that asks for an entity is answered from the tables of all ports, but told by the
last one whether it was found. -/
namespace Genavb.Avdecc
open Support List
open Maap (MacAddress)
open Function (update update_of_ne update_self)
open Slots

namespace AdpDiscoveryCtx

/-- A table that is in order, with the advertisement last accepted of each entity. -/
structure Holds (last : UInt64 → Option EntityInfo) (disc : AdpDiscoveryCtx) : Prop where
  counted : disc.numDiscoveredEntities = disc.entities.countP (·.inUse)
  distinct : Distinct (·.inUse) (·.info.entityId) disc.entities
  timed : ∀ entityDisc ∈ disc.entities, entityDisc.inUse = true ↔ entityDisc.timeout.isSome = true
  current : ∀ entityDisc ∈ disc.entities, entityDisc.inUse = true →
    last entityDisc.info.entityId = some entityDisc.info
  cleared : ∀ entityDisc ∈ disc.entities, entityDisc.inUse = false → entityDisc.info = .zero

def enter (index : Nat) (info : EntityInfo) (ms : UInt32) (disc : AdpDiscoveryCtx) : AdpDiscoveryCtx :=
  ⟨disc.numDiscoveredEntities + 1,disc.entities.set index ⟨info,some ms,true⟩⟩

def refresh (index : Nat) (info : EntityInfo) (ms : UInt32) (disc : AdpDiscoveryCtx) : AdpDiscoveryCtx :=
  {disc with entities := disc.entities.set index ⟨info,some ms,true⟩}

def leave (index : Nat) (disc : AdpDiscoveryCtx) : AdpDiscoveryCtx :=
  ⟨disc.numDiscoveredEntities - 1,disc.entities.set index ⟨.zero,none,false⟩⟩

def Knows (entityId : UInt64) (index : Nat) (disc : AdpDiscoveryCtx) : Prop :=
  ∃ entityDisc, disc.entities[index]? = some entityDisc ∧ entityDisc.inUse = true ∧ entityDisc.info.entityId = entityId

def Free (index : Nat) (disc : AdpDiscoveryCtx) : Prop :=
  ∃ entityDisc, disc.entities[index]? = some entityDisc ∧ entityDisc.inUse = false

def Unknown (entityId : UInt64) (disc : AdpDiscoveryCtx) : Prop :=
  ∀ entityDisc ∈ disc.entities, entityDisc.inUse = true → entityDisc.info.entityId ≠ entityId

def accepts (entityId : UInt64) (disc : AdpDiscoveryCtx) : Bool :=
  disc.entities.any fun entityDisc => !entityDisc.inUse || entityDisc.info.entityId = entityId

inductive Advertised (info : EntityInfo) (ms : UInt32) (disc : AdpDiscoveryCtx) : AdpDiscoveryCtx → Prop
  | full (refused : disc.accepts info.entityId = false) : Advertised info ms disc disc
  | entered {index : Nat} (free : disc.Free index) (unknown : disc.Unknown info.entityId) :
    Advertised info ms disc (disc.enter index info ms)
  | refreshed {index : Nat} (knows : disc.Knows info.entityId index)
    (ahead : (disc.infoAt index).availableIndex < info.availableIndex) : Advertised info ms disc (disc.refresh index info ms)
  | restarted {index fresh : Nat} (knows : disc.Knows info.entityId index)
    (back : info.availableIndex ≤ (disc.infoAt index).availableIndex) (free : (disc.leave index).Free fresh) :
    Advertised info ms disc ((disc.leave index).enter fresh info ms)

section Tables
variable {disc : AdpDiscoveryCtx} {last : UInt64 → Option EntityInfo} {index : Nat} {info : EntityInfo} {ms : UInt32}
variable {entityId : UInt64}

theorem adpDiscoveryFind_none : disc.adpDiscoveryFind entityId = none ↔ disc.Unknown entityId := by
  unfold adpDiscoveryFind Unknown EntityDiscovery.holds
  simp

theorem adpDiscoveryFind_some (found : disc.adpDiscoveryFind entityId = some index) : disc.Knows entityId index := by
  obtain ⟨inside,holds,_⟩ := List.findIdx?_eq_some_iff_getElem.mp found
  unfold EntityDiscovery.holds at holds
  rw [Bool.and_eq_true,decide_eq_true_eq] at holds
  exact ⟨_,List.getElem?_eq_getElem inside,holds.1,holds.2⟩

theorem lastFree_some {entities : List EntityDiscovery} (found : lastFree entities = some index) :
    ∃ entityDisc, entities[index]? = some entityDisc ∧ entityDisc.inUse = false := by
  induction entities generalizing index with
  | nil => cases found
  | cons first rest ih =>
    unfold lastFree at found
    split at found
    next later there =>
      cases found
      exact ih there
    · split at found
      · cases found
      next free =>
        cases found
        exact ⟨first,rfl,by simpa using free⟩

private theorem lastFree_none {entities : List EntityDiscovery} :
    lastFree entities = none ↔ ∀ entityDisc ∈ entities, entityDisc.inUse = true := by
  induction entities with
  | nil => simp [lastFree]
  | cons first rest ih =>
    unfold lastFree
    split
    next later there =>
      have some := mt ih.mpr (by simp [there])
      simp only [reduceCtorEq,forall_mem_cons,false_iff,not_and]
      exact fun _ => some
    next none =>
      have all := ih.mp none
      simp only [ite_eq_left_iff,reduceCtorEq,imp_false,Bool.not_eq_true,Bool.not_eq_false,forall_mem_cons]
      exact ⟨fun busy => ⟨busy,all⟩,fun busy => busy.1⟩

theorem Knows.inside (knows : disc.Knows entityId index) : index < disc.entities.length := by
  obtain ⟨_,at',_⟩ := knows
  exact (List.getElem?_eq_some_iff.mp at').1

theorem Free.inside (free : disc.Free index) : index < disc.entities.length := by
  obtain ⟨_,at',_⟩ := free
  exact (List.getElem?_eq_some_iff.mp at').1

theorem Free.idle (free : disc.Free index) (inside : index < disc.entities.length) :
    disc.entities[index].inUse = false := by
  obtain ⟨entityDisc,at',idle⟩ := free
  obtain ⟨_,same⟩ := List.getElem?_eq_some_iff.mp at'
  rw [same]
  exact idle

theorem Knows.busy (knows : disc.Knows entityId index) (inside : index < disc.entities.length) :
    disc.entities[index].inUse = true ∧ disc.entities[index].info.entityId = entityId := by
  obtain ⟨entityDisc,at',busy⟩ := knows
  obtain ⟨_,same⟩ := List.getElem?_eq_some_iff.mp at'
  rw [same]
  exact busy

theorem accepts_iff : disc.accepts entityId = false ↔
    ∀ entityDisc ∈ disc.entities, entityDisc.inUse = true ∧ entityDisc.info.entityId ≠ entityId := by
  unfold accepts
  simp

theorem full_refuses (unknown : disc.Unknown entityId) (full : lastFree disc.entities = none) :
    disc.accepts entityId = false :=
  accepts_iff.mpr fun entityDisc member =>
    have busy := lastFree_none.mp full entityDisc member
    ⟨busy,unknown entityDisc member busy⟩

theorem Knows.accepts (knows : disc.Knows entityId index) : disc.accepts entityId = true := by
  obtain ⟨entityDisc,at',_,same⟩ := knows
  exact any_eq_true.mpr ⟨entityDisc,mem_of_getElem? at',by simp [same]⟩

theorem Free.accepts (free : disc.Free index) : disc.accepts entityId = true := by
  obtain ⟨entityDisc,at',idle⟩ := free
  exact any_eq_true.mpr ⟨entityDisc,mem_of_getElem? at',by simp [idle]⟩

section
variable (holds : disc.Holds last)
include holds

theorem Holds.enter (free : disc.Free index) (unknown : disc.Unknown info.entityId) :
    (disc.enter index info ms).Holds (update last info.entityId (some info)) := by
  have inside := free.inside
  constructor
  · change disc.numDiscoveredEntities + 1 = ((disc.entities.set index _).countP _ : Nat)
    rw [countP_enter inside (free.idle inside) rfl,holds.counted]
    rfl
  · exact distinct_enter holds.distinct unknown
  · intro entityDisc member
    rcases mem_or_eq_of_mem_set member with old | rfl
    · exact holds.timed entityDisc old
    · simp
  · intro entityDisc member busy
    rcases mem_or_eq_of_mem_set member with old | rfl
    · rw [update_of_ne (unknown entityDisc old busy)]
      exact holds.current entityDisc old busy
    · exact update_self ..
  · intro entityDisc member idle
    rcases mem_or_eq_of_mem_set member with old | rfl
    · exact holds.cleared entityDisc old idle
    · cases idle

theorem Holds.alone (knows : disc.Knows entityId index) {position : Nat}
    {entityDisc : EntityDiscovery} (at' : disc.entities[position]? = some entityDisc)
    (busy : entityDisc.inUse = true) (same : entityDisc.info.entityId = entityId) : position = index := by
  obtain ⟨other,there,used,alike⟩ := knows
  exact holds.distinct position index entityDisc other at' there busy used (same.trans alike.symm)

theorem Holds.leave (knows : disc.Knows entityId index) :
    (disc.leave index).Holds last ∧ (disc.leave index).Unknown entityId := by
  have inside := knows.inside
  have busy := (knows.busy inside).1
  refine ⟨⟨?_,distinct_clear holds.distinct rfl,?_,?_,?_⟩,?_⟩
  · have some : 0 < disc.entities.countP (·.inUse) := countP_pos inside busy
    have cleared : (disc.entities.set index ⟨.zero,none,false⟩).countP (·.inUse) = disc.entities.countP (·.inUse) - 1 :=
      countP_clear inside busy rfl
    change disc.numDiscoveredEntities - 1 = ((disc.entities.set index ⟨.zero,none,false⟩).countP (·.inUse) : Nat)
    rw [cleared,holds.counted]
    omega
  · intro entityDisc member
    rcases mem_or_eq_of_mem_set member with old | rfl
    · exact holds.timed entityDisc old
    · simp
  · intro entityDisc member used
    rcases mem_or_eq_of_mem_set member with old | rfl
    · exact holds.current entityDisc old used
    · cases used
  · intro entityDisc member idle
    rcases mem_or_eq_of_mem_set member with old | rfl
    · exact holds.cleared entityDisc old idle
    · rfl
  · intro entityDisc member used same
    obtain ⟨position,at'⟩ := List.getElem?_of_mem member
    change (disc.entities.set index _)[position]? = _ at at'
    by_cases here : index = position
    · subst here
      rw [List.getElem?_set_self inside] at at'
      cases at'
      cases used
    · rw [List.getElem?_set_ne here] at at'
      exact here (holds.alone knows at' used same).symm

theorem Holds.refresh (knows : disc.Knows info.entityId index) :
    (disc.refresh index info ms).Holds (update last info.entityId (some info)) := by
  have inside := knows.inside
  have left := holds.leave knows
  have free : (disc.leave index).Free index := ⟨_,List.getElem?_set_self inside,rfl⟩
  have same : (disc.leave index).enter index info ms = disc.refresh index info ms := by
    unfold AdpDiscoveryCtx.enter AdpDiscoveryCtx.leave AdpDiscoveryCtx.refresh
    simp
  rw [← same]
  exact left.1.enter free left.2

end

def record (info : EntityInfo) (disc : AdpDiscoveryCtx) (last : UInt64 → Option EntityInfo) :
    UInt64 → Option EntityInfo :=
  if disc.accepts info.entityId then update last info.entityId (some info) else last

theorem Advertised.holds {next : AdpDiscoveryCtx} (advertised : disc.Advertised info ms next)
     (holds : disc.Holds last) : next.Holds (disc.record info last) := by
  unfold record
  cases advertised with
  | full refused =>
    rw [if_neg (by simp [refused])]
    exact holds
  | entered free unknown =>
    rw [if_pos free.accepts]
    exact holds.enter free unknown
  | refreshed knows =>
    rw [if_pos knows.accepts]
    exact holds.refresh knows
  | restarted knows _ free =>
    rw [if_pos knows.accepts]
    have left := holds.leave knows
    exact left.1.enter free left.2

theorem release_stopped (inside : index < disc.entities.length) :
    (disc.modifyEntry index (·.timerStop)).release index = disc.leave index := by
  unfold modifyEntry release AdpDiscoveryCtx.leave modifyEntry
  dsimp only
  rw [modify_modify_eq,modify_inside _ inside]
  rfl

def store (index : Nat) (info : EntityInfo) (ms : UInt32) (disc : AdpDiscoveryCtx) : AdpDiscoveryCtx :=
  disc.modifyEntry index fun entityDisc => ⟨info,some ms,entityDisc.inUse⟩

theorem store_eq (ms_ne : ms ≠ 0) : (disc.modifyEntry index ({· with info := info})).modifyEntry index
    (fun entityDisc => entityDisc.timerStop.timerStart ms) = disc.store index info ms := by
  unfold modifyEntry store modifyEntry
  rw [modify_modify_eq]
  congr 2
  funext entityDisc
  simp [EntityDiscovery.timerStart,EntityDiscovery.timerStop,ms_ne]

theorem store_busy (inside : index < disc.entities.length) (busy : disc.entities[index].inUse = true) :
    disc.store index info ms = disc.refresh index info ms := by
  unfold store modifyEntry AdpDiscoveryCtx.refresh
  rw [modify_inside _ inside,busy]

theorem store_cleared (other : EntityInfo) :
    (disc.modifyEntry index ({· with info := other})).store index info ms = disc.store index info ms := by
  unfold store modifyEntry
  rw [modify_modify_eq]
  rfl

private theorem adpDiscoveryGet_some {next : AdpDiscoveryCtx} (got : disc.adpDiscoveryGet = some (index,next)) :
    disc.Free index ∧ ∀ info ms, next.store index info ms = disc.enter index info ms := by
  unfold adpDiscoveryGet at got
  split at got
  · cases got
  next free found =>
    cases got
    have idle : disc.Free index := lastFree_some found
    refine ⟨idle,fun info ms => ?_⟩
    unfold store modifyEntry AdpDiscoveryCtx.enter
    dsimp only
    rw [modify_modify_eq,modify_inside _ idle.inside]
    rfl

private theorem adpDiscoveryGet_none (got : disc.adpDiscoveryGet = none) : lastFree disc.entities = none := by
  unfold adpDiscoveryGet at got
  split at got
  next found => exact found
  · cases got

end Tables

end AdpDiscoveryCtx

open AdpDiscoveryCtx

namespace AdpPorts
variable {ports : AdpPorts} {portId other : Nat} {index : Nat} {pdu : AdpHdr} {macSrc : MacAddress} {validTime : UInt8}

private theorem discovery_modify_self (change : AdpDiscoveryCtx → AdpDiscoveryCtx) :
    (ports.modifyDiscovery portId change).discovery portId = change (ports.discovery portId) := by
  unfold modifyDiscovery discovery
  dsimp only
  rw [update_self]

theorem discovery_modify_of_ne (change : AdpDiscoveryCtx → AdpDiscoveryCtx) (apart : other ≠ portId) :
    (ports.modifyDiscovery portId change).discovery other = ports.discovery other := by
  unfold modifyDiscovery discovery
  dsimp only
  rw [update_of_ne apart]

def Alike (portId : Nat) (before after : AdpPorts) : Prop :=
  (∀ other, (after.port other).localPhysicalMac = (before.port other).localPhysicalMac) ∧
    ∀ other ≠ portId, after.discovery other = before.discovery other

private theorem alike_modify (change : AdpDiscoveryCtx → AdpDiscoveryCtx) :
    Alike portId ports (ports.modifyDiscovery portId change) := by
  refine ⟨fun other => ?_,fun other apart => discovery_modify_of_ne change apart⟩
  unfold modifyDiscovery
  dsimp only
  by_cases same : other = portId
  · subst same
    rw [update_self]
  · rw [update_of_ne same]

theorem Alike.refl : Alike portId ports ports := ⟨fun _ => rfl,fun _ _ => rfl⟩

theorem Alike.trans {middle after : AdpPorts} (first : Alike portId ports middle) (second : Alike portId middle after) :
    Alike portId ports after :=
  ⟨fun other => (second.1 other).trans (first.1 other),
    fun other apart => (second.2 other apart).trans (first.2 other apart)⟩

theorem Alike.sending {after : AdpPorts} (alike : Alike portId ports after) (sent : List AdpNotice) :
    Alike portId ports {after with sent := sent} := alike

private theorem tellController_eq (msgType : AdpMessageType) (info : EntityInfo) :
    ∃ sent, ports.tellController portId msgType info = {ports with sent := sent} := by
  unfold tellController
  split
  · exact ⟨_,rfl⟩
  · exact ⟨_,rfl⟩

theorem put_eq : ∃ sent, ports.adpDiscoveryPut portId index =
    {ports.modifyDiscovery portId (·.release index) with sent := sent} := by
  unfold adpDiscoveryPut
  obtain ⟨sent,told⟩ := @tellController_eq ports portId .entityDeparting ((ports.discovery portId).infoAt index)
  dsimp only
  rw [told]
  split
  · exact ⟨_,rfl⟩
  · exact ⟨_,rfl⟩

theorem departure (knows : index < (ports.discovery portId).entities.length) :
    Alike portId ports ((ports.modifyDiscovery portId (·.modifyEntry index (·.timerStop))).adpDiscoveryPut portId index) ∧
    ((ports.modifyDiscovery portId (·.modifyEntry index (·.timerStop))).adpDiscoveryPut portId index).discovery portId =
      (ports.discovery portId).leave index := by
  obtain ⟨sent,put⟩ := @put_eq (ports.modifyDiscovery portId (·.modifyEntry index (·.timerStop))) portId index
  rw [put]
  constructor
  · exact (alike_modify _).trans ((alike_modify _).sending sent)
  · change (modifyDiscovery _ _ _).discovery portId = _
    rw [discovery_modify_self,discovery_modify_self]
    exact release_stopped knows

theorem discoveryTimeout_ne : discoveryTimeout validTime ≠ 0 := by
  intro zero
  have value := congrArg UInt32.toNat zero
  have small := validTime.toNat_lt
  unfold discoveryTimeout at value
  rw [UInt32.toNat_ofNat'] at value
  simp only [UInt32.toNat_zero] at value
  omega

theorem updateEntity_eq : ∃ sent, ports.adpDiscoveryUpdateEntity portId index pdu macSrc =
    {ports.modifyDiscovery portId
      (·.modifyEntry index ({· with info := pdu.info macSrc (ports.port portId).localPhysicalMac})) with sent := sent} := by
  unfold adpDiscoveryUpdateEntity
  dsimp only
  split
  · exact tellController_eq ..
  · exact ⟨_,rfl⟩

theorem stored {found : AdpPorts} (entry : ports.advertisedEntry portId pdu = (some index,found)) :
    Alike portId found (ports.adpDiscoveryUpdate portId pdu validTime macSrc) ∧
    (ports.adpDiscoveryUpdate portId pdu validTime macSrc).discovery portId =
      (found.discovery portId).store index (pdu.info macSrc (found.port portId).localPhysicalMac)
        (discoveryTimeout validTime) := by
  have written : ∃ sent, ports.adpDiscoveryUpdate portId pdu validTime macSrc =
      {(found.modifyDiscovery portId
          (·.modifyEntry index ({· with info := pdu.info macSrc (found.port portId).localPhysicalMac}))).modifyDiscovery
        portId (·.modifyEntry index fun entityDisc => entityDisc.timerStop.timerStart (discoveryTimeout validTime)) with
        sent := sent} := by
    obtain ⟨sent,updated⟩ := @updateEntity_eq found portId index pdu macSrc
    unfold adpDiscoveryUpdate
    rw [entry]
    dsimp only
    rw [updated]
    split
    · exact ⟨_,rfl⟩
    · exact ⟨_,rfl⟩
  obtain ⟨sent,written⟩ := written
  rw [written]
  constructor
  · exact (alike_modify _).trans ((alike_modify _).sending sent)
  · change (modifyDiscovery _ _ _).discovery portId = _
    rw [discovery_modify_self,discovery_modify_self]
    exact store_eq discoveryTimeout_ne

theorem update_advertised : Alike portId ports (ports.adpDiscoveryUpdate portId pdu validTime macSrc) ∧
    (ports.discovery portId).Advertised (pdu.info macSrc (ports.port portId).localPhysicalMac)
      (discoveryTimeout validTime) ((ports.adpDiscoveryUpdate portId pdu validTime macSrc).discovery portId) := by
  have refused {same : AdpPorts} (entry : ports.advertisedEntry portId pdu = (none,same)) :
      ports.adpDiscoveryUpdate portId pdu validTime macSrc = same := by
    unfold adpDiscoveryUpdate
    rw [entry]
  cases found : (ports.discovery portId).adpDiscoveryFind pdu.entityId with
  | none =>
    have unknown := adpDiscoveryFind_none.mp found
    cases got : (ports.discovery portId).adpDiscoveryGet with
    | none =>
      rw [refused (by
        unfold advertisedEntry
        dsimp only
        rw [found]
        rw [got])]
      exact ⟨.refl,.full (full_refuses unknown (adpDiscoveryGet_none got))⟩
    | some entry =>
      obtain ⟨index,next⟩ := entry
      obtain ⟨free,entered⟩ := adpDiscoveryGet_some got
      have written := @stored ports portId index pdu macSrc validTime
        (ports.modifyDiscovery portId fun _ => next.modifyEntry index ({· with info := .zero}))
        (by
        unfold advertisedEntry
        dsimp only
        rw [found]
        rw [got])
      refine ⟨(alike_modify _).trans written.1,?_⟩
      rw [written.2,discovery_modify_self,(alike_modify _).1 portId,store_cleared,entered]
      exact .entered free unknown
  | some index =>
    have knows := adpDiscoveryFind_some found
    by_cases behind : pdu.availableIndex ≤ ((ports.discovery portId).infoAt index).availableIndex
    · have left := @departure ports portId index knows.inside
      cases got : ((ports.discovery portId).leave index).adpDiscoveryGet with
      | none =>
        have free : ((ports.discovery portId).leave index).Free index :=
          ⟨_,List.getElem?_set_self knows.inside,rfl⟩
        have full := lastFree_none.mp (adpDiscoveryGet_none got)
        obtain ⟨entityDisc,at',idle⟩ := free
        rw [full entityDisc (mem_of_getElem? at')] at idle
        cases idle
      | some entry =>
        obtain ⟨fresh,next⟩ := entry
        obtain ⟨free,entered⟩ := adpDiscoveryGet_some got
        have written := @stored ports portId fresh pdu macSrc validTime _
          (by
            unfold advertisedEntry
            dsimp only
            rw [found]
            dsimp only
            rw [if_pos behind,left.2,got])
        refine ⟨(left.1.trans (alike_modify _)).trans written.1,?_⟩
        rw [written.2,discovery_modify_self,(left.1.trans (alike_modify _)).1 portId,entered]
        exact .restarted knows behind free
    · have written := @stored ports portId index pdu macSrc validTime ports
        (by
          unfold advertisedEntry
          dsimp only
          rw [found]
          dsimp only
          rw [if_neg behind])
      refine ⟨written.1,?_⟩
      have busy := (knows.busy knows.inside).1
      rw [written.2,store_busy knows.inside busy]
      exact .refreshed knows (UInt32.not_le.mp behind)

variable {last : UInt64 → Option EntityInfo}

theorem remove_holds (holds : (ports.discovery other).Holds last) :
    ((ports.adpDiscoveryRemove portId pdu).discovery other).Holds last := by
  unfold adpDiscoveryRemove
  split
  · exact holds
  next index found =>
    have knows := adpDiscoveryFind_some found
    have left := @departure ports portId index knows.inside
    by_cases here : other = portId
    · subst here
      rw [left.2]
      exact (holds.leave knows).1
    · rw [left.1.2 other here]
      exact holds

theorem timeout_holds (holds : (ports.discovery other).Holds last) :
    ((ports.adpDiscoveryTimeout portId index).discovery other).Holds last := by
  unfold adpDiscoveryTimeout
  split
  · exact holds
  next ms runs =>
    obtain ⟨entityDisc,at',timer⟩ := Option.bind_eq_some_iff.mp runs
    have left := @departure ports portId index (List.getElem?_eq_some_iff.mp at').1
    by_cases here : other = portId
    · subst here
      have busy := (holds.timed entityDisc (mem_of_getElem? at')).mpr (by rw [timer]; rfl)
      rw [left.2]
      exact (holds.leave ⟨entityDisc,at',busy,rfl⟩).1
    · rw [left.1.2 other here]
      exact holds

def record (portId : Nat) (input : AdpInput) (ports : AdpPorts) (last : UInt64 → Option EntityInfo) :
    UInt64 → Option EntityInfo :=
  match input with
  | .available receivedOn pdu _ macSrc =>
    if receivedOn = portId then
      (ports.discovery portId).record (pdu.info macSrc (ports.port portId).localPhysicalMac) last
    else last
  | _ => last

/-- Of each entity, the advertisement that the table of a port has accepted last in a run. -/
def lastAccepted (portId : Nat) : List AdpInput → AdpPorts → (UInt64 → Option EntityInfo) → UInt64 → Option EntityInfo
  | [],_,last => last
  | input :: rest,ports,last => lastAccepted portId rest (ports.step input) (ports.record portId input last)

theorem step_holds (input : AdpInput) (holds : (ports.discovery portId).Holds last) :
    ((ports.step input).discovery portId).Holds (ports.record portId input last) := by
  cases input with
  | available receivedOn pdu validTime macSrc =>
    have advertised := @update_advertised ports receivedOn pdu macSrc validTime
    unfold step record
    dsimp only
    by_cases here : receivedOn = portId
    · subst here
      rw [if_pos rfl]
      exact advertised.2.holds holds
    · rw [if_neg here,advertised.1.2 portId (Ne.symm here)]
      exact holds
  | departing receivedOn pdu => exact remove_holds holds
  | timeout receivedOn index => exact timeout_holds holds
  | controller receivedOn numInterfaces =>
    have same : (ports.step (.controller receivedOn numInterfaces)).discovery portId = ports.discovery portId := by
      unfold step discovery
      dsimp only
      by_cases here : portId = receivedOn
      · subst here
        rw [update_self]
      · rw [update_of_ne here]
    rw [same]
    exact holds

theorem run_holds (inputs : List AdpInput) (holds : (ports.discovery portId).Holds last) :
    ((run step inputs ports).discovery portId).Holds (lastAccepted portId inputs ports last) := by
  induction inputs generalizing ports last with
  | nil => exact holds
  | cons input rest ih => exact ih (step_holds input holds)

theorem init_holds (maxEntitiesDiscovery : Nat) : (init maxEntitiesDiscovery).Holds fun _ => none := by
  have idle {entityDisc : EntityDiscovery} (member : entityDisc ∈ (init maxEntitiesDiscovery).entities) :
      entityDisc = ⟨.zero,none,false⟩ := eq_of_mem_replicate member
  refine ⟨?_,?_,fun entityDisc member => ?_,fun entityDisc member busy => ?_,fun entityDisc member _ => ?_⟩
  · change (0 : Int) = ((List.replicate _ _).countP _ : Nat)
    rw [countP_replicate]
    rfl
  · intro first second a b atFirst atSecond busy
    rw [idle (mem_of_getElem? atFirst)] at busy
    cases busy
  · rw [idle member]
    simp
  · rw [idle member] at busy
    cases busy
  · rw [idle member]

/-- In every run each table counts its entries in use, has one entry for an entity, runs the timers of exactly the
entries in use, and holds the advertisements accepted last. -/
theorem tables_hold (milanMode : Bool) (maxEntitiesDiscovery : Nat)
    (localPhysicalMac : Nat → MacAddress) (controller : Nat → Option Nat) (portId : Nat) (inputs : List AdpInput) :
    let ports := start milanMode maxEntitiesDiscovery localPhysicalMac controller
    ((run step inputs ports).discovery portId).Holds (lastAccepted portId inputs ports fun _ => none) :=
  run_holds inputs (init_holds maxEntitiesDiscovery)

section Queries
variable {entityId : UInt64} {numInterfaces : Nat}

/-- A query for an entity is answered with its information if a port knows it, and with NOTFOUND if none does. -/
structure QueryAnswered (numInterfaces : Nat) (entityId : UInt64) (ports : AdpPorts) : Prop where
  informed : ∀ portNum < numInterfaces, ¬ (ports.discovery portNum).Unknown entityId →
    ∃ entityDisc ∈ (ports.discovery portNum).entities, entityDisc.holds entityId = true ∧
      ∃ msg ∈ ports.adpIpcRx numInterfaces .entityAvailable entityId,
        msg.msgType = .entityAvailable ∧ msg.info = entityDisc.info
  notFound : (∃ msg ∈ ports.adpIpcRx numInterfaces .entityAvailable entityId, msg.msgType = .entityNotfound) ↔
    ∀ portNum < numInterfaces, (ports.discovery portNum).Unknown entityId

def portReplies (numInterfaces : Nat) (entityId : UInt64) (ports : AdpPorts) (portNum : Nat) : List GenavbAdpMsg :=
  match (ports.discovery portNum).adpDiscoveryFind entityId with
  | some index =>
    [ports.adpIpcMsg numInterfaces .entityAvailable (some ((ports.discovery portNum).infoAt index))]
  | none => []

def lastSearch (entityId : UInt64) (ports : AdpPorts) : Nat → Option Nat
  | 0 => none
  | portNum + 1 => (ports.discovery portNum).adpDiscoveryFind entityId

theorem search_ports (count : Nat) :
    (List.range count).foldl (ports.queryPort numInterfaces entityId) (none,[]) =
      (ports.lastSearch entityId count,(List.range count).flatMap (ports.portReplies numInterfaces entityId)) := by
  induction count with
  | zero => rfl
  | succ count ih =>
    rw [range_succ,foldl_append,ih,flatMap_append]
    unfold lastSearch portReplies queryPort
    simp only [foldl_cons,foldl_nil,flatMap_cons,flatMap_nil,append_nil]
    split
    next found => rw [found]
    next none => rw [none,append_nil]

private theorem adpIpcRx_available : ports.adpIpcRx numInterfaces .entityAvailable entityId =
    (List.range numInterfaces).flatMap (ports.portReplies numInterfaces entityId) ++
      if (ports.lastSearch entityId numInterfaces).isNone then [ports.adpIpcMsg numInterfaces .entityNotfound none]
      else [] := by
  have searched := @search_ports ports entityId numInterfaces numInterfaces
  unfold adpIpcRx
  dsimp only
  rw [searched]
  split
  · rfl
  · exact (append_nil _).symm

theorem portReplies_available {portNum : Nat} {msg : GenavbAdpMsg}
    (member : msg ∈ ports.portReplies numInterfaces entityId portNum) : msg.msgType = .entityAvailable := by
  unfold portReplies at member
  split at member
  · rw [mem_singleton.mp member]
    rfl
  · cases member

theorem portReplies_informed {portNum : Nat} (known : ¬ (ports.discovery portNum).Unknown entityId) :
    ∃ entityDisc ∈ (ports.discovery portNum).entities, entityDisc.holds entityId = true ∧
      ∃ msg ∈ ports.portReplies numInterfaces entityId portNum,
        msg.msgType = .entityAvailable ∧ msg.info = entityDisc.info := by
  unfold portReplies
  cases found : (ports.discovery portNum).adpDiscoveryFind entityId with
  | none => exact absurd (adpDiscoveryFind_none.mp found) known
  | some index =>
    obtain ⟨inside,holds,_⟩ := List.findIdx?_eq_some_iff_getElem.mp found
    refine ⟨_,getElem_mem inside,holds,_,mem_singleton_self _,rfl,?_⟩
    unfold infoAt
    rw [List.getElem?_eq_getElem inside]
    rfl

private theorem notfound_told : (∃ msg ∈ ports.adpIpcRx numInterfaces .entityAvailable entityId, msg.msgType = .entityNotfound) ↔
    ports.lastSearch entityId numInterfaces = none := by
  rw [adpIpcRx_available]
  constructor
  · rintro ⟨msg,member,told⟩
    rcases mem_append.mp member with reply | last
    · obtain ⟨portNum,_,reply⟩ := mem_flatMap.mp reply
      exact absurd (told.symm.trans (portReplies_available reply)) (by decide)
    · split at last
      next none => exact Option.isNone_iff_eq_none.mp none
      · cases last
  · intro none
    rw [none]
    exact ⟨_,mem_append_right _ (mem_singleton_self _),rfl⟩

theorem queryAnswered_iff (numInterfaces : Nat) (entityId : UInt64) (ports : AdpPorts) :
    ports.QueryAnswered numInterfaces entityId ↔
      ∀ portNum < numInterfaces, ¬ (ports.discovery portNum).Unknown entityId →
        ¬ (ports.discovery (numInterfaces - 1)).Unknown entityId := by
  have last (portNum : Nat) (below : portNum < numInterfaces) : ports.lastSearch entityId numInterfaces = none ↔
      (ports.discovery (numInterfaces - 1)).Unknown entityId := by
    obtain ⟨count,rfl⟩ : ∃ count, numInterfaces = count + 1 := ⟨numInterfaces - 1,by omega⟩
    exact adpDiscoveryFind_none
  constructor
  · intro answered portNum below known unknown
    exact known (answered.notFound.mp (notfound_told.mpr ((last portNum below).mpr unknown)) portNum below)
  · intro covered
    refine ⟨fun portNum below known => ?_,?_⟩
    · obtain ⟨entityDisc,member,holds,msg,reply,told⟩ := @portReplies_informed ports entityId numInterfaces portNum known
      refine ⟨entityDisc,member,holds,msg,?_,told⟩
      rw [adpIpcRx_available]
      exact mem_append_left _ (mem_flatMap.mpr ⟨portNum,mem_range.mpr below,reply⟩)
    · rw [notfound_told]
      constructor
      · intro none portNum below
        by_contra known
        exact covered portNum below known ((last portNum below).mp none)
      · intro unknown
        cases numInterfaces with
        | zero => rfl
        | succ count => exact (last count (by omega)).mpr (unknown count (by omega))

/-- An entity that the first of two ports has discovered is reported, and then reported as not found. -/
theorem query_contradicted :
    let advertised : AdpInput := .available 0 ⟨5,0,0,0,0,0,0,0,1,0,0,0,0,0⟩ 10 ⟨0,0,0,0,0,1⟩
    let ports := run step [advertised] (start false 4 (fun _ => ⟨0,0,0,0,0,2⟩) fun _ => none)
    ¬ ports.QueryAnswered 2 5 ∧
      (ports.adpIpcRx 2 .entityAvailable 5).map (·.msgType) = [.entityAvailable,.entityNotfound] := by
  have replies : (((run step [.available 0 ⟨5,0,0,0,0,0,0,0,1,0,0,0,0,0⟩ 10 ⟨0,0,0,0,0,1⟩]
      (start false 4 (fun _ => ⟨0,0,0,0,0,2⟩) fun _ => none)).adpIpcRx 2 .entityAvailable 5).map
      (·.msgType)) = [.entityAvailable,.entityNotfound] := by decide +kernel
  refine ⟨fun answered => ?_,replies⟩
  obtain ⟨msg,member,told⟩ := mem_map.mp (show AdpMessageType.entityNotfound ∈ _ by
    rw [replies]
    exact mem_cons_of_mem _ (mem_singleton_self _))
  have unknown := answered.notFound.mp ⟨msg,member,told⟩ 0 (by decide)
  exact absurd (adpDiscoveryFind_none.mpr unknown) (by decide +kernel)

end Queries

end AdpPorts

end Genavb.Avdecc
