import Genavb.Maap.Address
import Genavb.Support.Places

/-! What the IEEE and the Milan variants of ACMP share (`acmp.h`, `acmp.c`). -/
namespace Genavb.Avdecc
open Maap (MacAddress)

inductive AcmpStatus where
  | success
  | listenerUnknownId
  | talkerUnknownId
  | talkerDestMacFail
  | talkerNoStreamIndex
  | talkerNoBandwidth
  | talkerExclusive
  | listenerTalkerTimeout
  | listenerExclusive
  | stateUnavailable
  | notConnected
  | noSuchConnection
  | couldNotSendMessage
  | talkerMisbehaving
  | listenerMisbehaving
  | controllerNotAuthorized
  | incompatibleRequest
  | notSupported
  deriving DecidableEq

structure StackCalls where
  withdraw : Bool
  avtpDisconnect : Bool
  declare : Bool
  avtpConnect : Bool

def isInvalidMacAddr (addr : MacAddress) : Bool := addr = ⟨0,0,0,0,0,0⟩

end Genavb.Avdecc

/-! Commands in flight (`avdecc.c`, `acmp.c`): all of an entity's ACMP commands share one list and
one sequence counter. -/
namespace Genavb.Avdecc
open List
open Maap (MacAddress)

structure AcmpPdu where
  controllerEntityId : UInt64
  talkerEntityId : UInt64
  talkerUniqueId : UInt16
  listenerEntityId : UInt64
  listenerUniqueId : UInt16
  streamId : UInt64
  streamDestMac : MacAddress
  connectionCount : UInt16
  sequenceId : UInt16
  flags : UInt16
  streamVlanId : UInt16
  deriving DecidableEq

inductive InflightCommand where
  | connectTx
  | disconnectTx
  | controller
  deriving DecidableEq

structure InflightCtx where
  msgType : InflightCommand
  retried : Bool
  sequenceId : UInt16
  origSeqId : UInt16
  pdu : AcmpPdu
  deriving DecidableEq

structure AcmpCtx where
  inflight : List InflightCtx
  freeInflight : Nat
  sequenceId : UInt16
  deriving DecidableEq

/-- `acmp_net_tx_init` for a command or a response of a listener. -/
def acmpNetTxInit (pdu : AcmpPdu) : AcmpPdu where
  controllerEntityId := pdu.controllerEntityId
  talkerEntityId := pdu.talkerEntityId
  talkerUniqueId := pdu.talkerUniqueId
  listenerEntityId := pdu.listenerEntityId
  listenerUniqueId := pdu.listenerUniqueId
  streamId := 0
  streamDestMac := ⟨0,0,0,0,0,0⟩
  connectionCount := 0
  sequenceId := 0
  flags := 0
  streamVlanId := 0

namespace AcmpCtx

def inflightFind (sequenceId : UInt16) (acmp : AcmpCtx) : Option InflightCtx :=
  acmp.inflight.find? (·.sequenceId = sequenceId)

/-- `avdecc_inflight_cancel`: the entry that is found is put back to the free ones. -/
def inflightCancel (sequenceId : UInt16) (acmp : AcmpCtx) : AcmpCtx :=
  match acmp.inflightFind sequenceId with
  | none => acmp
  | some _ => {acmp with
    inflight := acmp.inflight.eraseP (·.sequenceId = sequenceId)
    freeInflight := acmp.freeInflight + 1}

/-- `acmp_send_cmd` for a command that is not a retry: the command is sent even when no entry is
free. -/
def acmpSendCmd (msgType : InflightCommand) (origSeqId : UInt16) (pdu : AcmpPdu) (acmp : AcmpCtx) : AcmpPdu × AcmpCtx :=
  let pdu := {pdu with sequenceId := acmp.sequenceId}
  let entry : InflightCtx := ⟨msgType,false,acmp.sequenceId,origSeqId,pdu⟩
  match acmp.freeInflight with
  | 0 => (pdu,{acmp with sequenceId := acmp.sequenceId + 1})
  | free + 1 => (pdu,{inflight := entry :: acmp.inflight,freeInflight := free,sequenceId := acmp.sequenceId + 1})

def inflightRemove (index : Nat) (acmp : AcmpCtx) : AcmpCtx :=
  {acmp with inflight := acmp.inflight.eraseIdx index,freeInflight := acmp.freeInflight + 1}

def inflightRetry (index : Nat) (acmp : AcmpCtx) : AcmpCtx :=
  {acmp with inflight := acmp.inflight.modify index fun entry => {entry with retried := true}}

section Entries
variable {acmp : AcmpCtx} {sequenceId : UInt16} {entry : InflightCtx}

theorem inflightFind_mem (found : acmp.inflightFind sequenceId = some entry) :
    entry ∈ acmp.inflight ∧ entry.sequenceId = sequenceId :=
  ⟨mem_of_find?_eq_some found,by simpa using List.find?_some found⟩

theorem mem_inflightCancel (member : entry ∈ (acmp.inflightCancel sequenceId).inflight) : entry ∈ acmp.inflight := by
  unfold inflightCancel at member
  split at member
  · exact member
  · exact mem_of_mem_eraseP member

theorem inflightCancel_perm (found : acmp.inflightFind sequenceId = some entry) :
    acmp.inflight.Perm (entry :: (acmp.inflightCancel sequenceId).inflight) := by
  unfold inflightCancel
  rw [found]
  exact Support.perm_eraseP found

theorem mem_acmpSendCmd {msgType : InflightCommand} {origSeqId : UInt16} {pdu : AcmpPdu}
    (member : entry ∈ (acmp.acmpSendCmd msgType origSeqId pdu).2.inflight) :
    entry = ⟨msgType,false,acmp.sequenceId,origSeqId,{pdu with sequenceId := acmp.sequenceId}⟩ ∨
      entry ∈ acmp.inflight := by
  unfold acmpSendCmd at member
  split at member
  · exact .inr member
  · exact mem_cons.mp member

theorem mem_inflightRemove {index : Nat} (member : entry ∈ (acmp.inflightRemove index).inflight) :
    entry ∈ acmp.inflight := mem_of_mem_eraseIdx member

theorem mem_inflightRetry {index : Nat} (member : entry ∈ (acmp.inflightRetry index).inflight) :
    ∃ old ∈ acmp.inflight, entry = old ∨ entry = {old with retried := true} := by
  obtain ⟨position,at'⟩ := mem_iff_getElem?.mp member
  unfold inflightRetry at at'
  rw [List.getElem?_modify] at at'
  obtain ⟨old,present,same⟩ := Option.map_eq_some_iff.mp at'
  refine ⟨old,mem_of_getElem? present,?_⟩
  split at same
  · exact .inr same.symm
  · exact .inl same.symm

theorem mem_rest_iff {entries rest : List InflightCtx} (split : entries.Perm (entry :: rest))
    (distinct : (entries.map (·.sequenceId)).Nodup) (other : InflightCtx) :
    other ∈ rest ↔ other ∈ entries ∧ other.sequenceId ≠ entry.sequenceId := by
  have apart : (entry.sequenceId :: rest.map (·.sequenceId)).Nodup := (split.map _).nodup_iff.mp distinct
  rw [split.mem_iff,mem_cons]
  constructor
  · intro member
    refine ⟨.inr member,fun same => (nodup_cons.mp apart).1 ?_⟩
    rw [← same]
    exact mem_map_of_mem member
  · rintro ⟨rfl | member,differs⟩
    · exact absurd rfl differs
    · exact member

theorem rest_distinct {entries rest : List InflightCtx} (split : entries.Perm (entry :: rest))
    (distinct : (entries.map (·.sequenceId)).Nodup) : (rest.map (·.sequenceId)).Nodup :=
  (nodup_cons.mp ((split.map _).nodup_iff.mp distinct : (entry.sequenceId :: rest.map _).Nodup)).2

theorem inflightCancel_distinct (distinct : (acmp.inflight.map (·.sequenceId)).Nodup) :
    ((acmp.inflightCancel sequenceId).inflight.map (·.sequenceId)).Nodup := by
  cases found : acmp.inflightFind sequenceId with
  | none =>
    unfold inflightCancel
    rw [found]
    exact distinct
  | some entry => exact rest_distinct (inflightCancel_perm found) distinct

theorem mem_inflightCancel_iff (distinct : (acmp.inflight.map (·.sequenceId)).Nodup) (other : InflightCtx) :
    other ∈ (acmp.inflightCancel sequenceId).inflight ↔ other ∈ acmp.inflight ∧ other.sequenceId ≠ sequenceId := by
  cases found : acmp.inflightFind sequenceId with
  | none =>
    unfold inflightCancel
    rw [found]
    refine ⟨fun member => ⟨member,?_⟩,And.left⟩
    simpa using List.find?_eq_none.mp found other member
  | some entry =>
    rw [mem_rest_iff (inflightCancel_perm found) distinct,(inflightFind_mem found).2]

theorem inflightRemove_perm {position : Nat} (found : acmp.inflight[position]? = some entry) :
    acmp.inflight.Perm (entry :: (acmp.inflightRemove position).inflight) := by
  obtain ⟨inside,here⟩ := List.getElem?_eq_some_iff.mp found
  rw [← here]
  exact (getElem_cons_eraseIdx_perm inside).symm

theorem inflightRetry_perm {position : Nat} (found : acmp.inflight[position]? = some entry) :
    (acmp.inflightRetry position).inflight.Perm ({entry with retried := true} :: (acmp.inflightRemove position).inflight) := by
  obtain ⟨inside,here⟩ := List.getElem?_eq_some_iff.mp found
  unfold inflightRetry inflightRemove
  rw [modify_eq_set_getElem?,found]
  exact set_perm_cons_eraseIdx inside _

theorem acmpSendCmd_room {msgType : InflightCommand} {origSeqId : UInt16} {pdu : AcmpPdu}
    (room : acmp.freeInflight ≠ 0) :
    (acmp.acmpSendCmd msgType origSeqId pdu).2.inflight =
      ⟨msgType,false,acmp.sequenceId,origSeqId,{pdu with sequenceId := acmp.sequenceId}⟩ :: acmp.inflight := by
  unfold acmpSendCmd
  split
  next none => exact absurd none room
  · rfl

end Entries

end AcmpCtx

end Genavb.Avdecc
