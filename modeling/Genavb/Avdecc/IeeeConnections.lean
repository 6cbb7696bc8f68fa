import Genavb.Avdecc.IeeeEntity
import Genavb.Support.Run
import Genavb.Support.Slots

/-! The connections of an IEEE talker: the table of pairs, the counter and the two stacks agree in
every run in which no call of a stack fails halfway. -/
namespace Genavb.Avdecc
open Support Slots ListenerPair

def ListenerPair.listener (pair : ListenerPair) : UInt64 × UInt16 := (pair.listenerEntityId,pair.listenerUniqueId)

namespace IeeeTalker

structure PairsHold (config : IeeeTalkerConfig) (talker : IeeeTalker) : Prop where
  slots : talker.listeners.length = config.maxListenerPairs
  counted : talker.connectionCount.toNat = talker.listeners.countP connected
  bounded : talker.connectionCount.toNat ≤ config.maxListenerPairs
  different : Distinct connected listener talker.listeners

structure ConnectionsHold (config : IeeeTalkerConfig) (talker : IeeeTalker) : Prop extends PairsHold config talker where
  declared : talker.srpDeclared = true ↔ 0 < talker.connectionCount.toNat
  streaming : talker.avtpConnected = true ↔ 0 < talker.connectionCount.toNat

def FailsUnchanged (config : IeeeTalkerConfig) (talker : IeeeTalker) (input : TalkerCommand × StackCalls) : Prop :=
  ∀ pdu, input.1 = .connectTx pdu → (talker.rcv config input).1 ≠ .success → (talker.rcv config input).2 = talker

def CommandHolds (config : IeeeTalkerConfig) (talker : IeeeTalker) (input : TalkerCommand × StackCalls) : Prop :=
  ConnectionsHold config (talkerStep config input talker) ∧ FailsUnchanged config talker input

structure FirstConnection (config : IeeeTalkerConfig) (talker : IeeeTalker) (pdu : TalkerPdu) (macAddress : Maap.MacAddress) :
    Prop where
  new : talker.connectedTo pdu = none
  free : (talker.getFreeListener config).isSome
  interface : config.macAddress = some macAddress
  supported : classSupported config (requestedClass pdu) = true
  first : talker.connectionCount = 0

/-- The stacks do what the first and the last connection ask of them; a declaration may fail that
would not have changed the parameters. -/
def StacksKept (config : IeeeTalkerConfig) (talker : IeeeTalker) (input : TalkerCommand × StackCalls) : Prop :=
  match input.1 with
  | .connectTx pdu => ∀ macAddress, FirstConnection config talker pdu macAddress →
    if input.2.declare then input.2.avtpConnect = true
    else talker.params = streamParams config macAddress (requestedClass pdu)
  | .disconnectTx pdu => (talker.connectedTo pdu).isSome → talker.connectionCount = 1 →
    input.2.withdraw = true ∧ input.2.avtpDisconnect = true
  | _ => True

section Table
variable {config : IeeeTalkerConfig} {talker : IeeeTalker} {pdu : TalkerPdu} {index : Nat}

theorem connectedTo_some (found : talker.connectedTo pdu = some index) :
    ∃ inside : index < talker.listeners.length, talker.listeners[index].connected = true := by
  obtain ⟨inside,same,-⟩ := List.findIdx?_eq_some_iff_getElem.mp found
  exact ⟨inside,by simp_all⟩

theorem connectedTo_none (absent : talker.connectedTo pdu = none) :
    ∀ pair ∈ talker.listeners, pair.connected = true →
      pair.listener ≠ (pdu.listenerEntityId,pdu.listenerUniqueId) := by
  intro pair member connected same
  have differs := List.findIdx?_eq_none_iff.mp absent pair member
  unfold listener at same
  simp_all

theorem getFreeListener_some (found : talker.getFreeListener config = some index) :
    talker.connectionCount.toNat < config.maxListenerPairs ∧
      ∃ inside : index < talker.listeners.length, talker.listeners[index].connected = false := by
  unfold getFreeListener at found
  split at found
  · cases found
  next room =>
    obtain ⟨inside,free,-⟩ := List.findIdx?_eq_some_iff_getElem.mp found
    exact ⟨by omega,inside,by simpa using free⟩

theorem accept_pairs (holds : talker.PairsHold config) (absent : talker.connectedTo pdu = none)
    (found : talker.getFreeListener config = some index) :
    (talker.accept pdu index).PairsHold config ∧ 0 < (talker.accept pdu index).connectionCount.toNat := by
  obtain ⟨room,inside,free⟩ := getFreeListener_some found
  have clipped := config.clipped
  have count : (talker.connectionCount + 1).toNat = talker.connectionCount.toNat + 1 := by
    unfold CFG_ACMP_MAX_NUM_LISTENER_PAIRS at clipped
    simp
    omega
  refine ⟨⟨?_,?_,?_,?_⟩,?_⟩
  · simpa [accept] using holds.slots
  · show (talker.connectionCount + 1).toNat = (talker.listeners.set _ _).countP _
    rw [count,countP_enter inside free rfl,holds.counted]
  · show (talker.connectionCount + 1).toNat ≤ _
    omega
  · exact distinct_enter holds.different (connectedTo_none absent)
  · show 0 < (talker.connectionCount + 1).toNat
    omega

def release (index : Nat) (talker : IeeeTalker) : IeeeTalker :=
  {talker with
    listeners := talker.listeners.modify index fun pair => {pair with connected := false}
    connectionCount := talker.connectionCount - 1}

theorem release_pairs (holds : talker.PairsHold config) (found : talker.connectedTo pdu = some index) :
    (talker.release index).PairsHold config ∧
      (talker.release index).connectionCount.toNat = talker.connectionCount.toNat - 1 ∧
      0 < talker.connectionCount.toNat := by
  obtain ⟨inside,connected⟩ := connectedTo_some found
  have positive : 0 < talker.connectionCount.toNat := holds.counted ▸ countP_pos inside connected
  have count : (talker.connectionCount - 1).toNat = talker.connectionCount.toNat - 1 :=
    UInt16.toNat_sub_of_le _ _ (UInt16.le_iff_toNat_le.mpr positive)
  have bounded := holds.bounded
  refine ⟨⟨?_,?_,?_,?_⟩,count,positive⟩
  · simpa [release] using holds.slots
  · show (talker.connectionCount - 1).toNat = (talker.listeners.modify _ _).countP _
    rw [modify_inside _ inside,countP_clear inside connected rfl,count,holds.counted]
  · show (talker.connectionCount - 1).toNat ≤ _
    omega
  · show Distinct _ _ (talker.listeners.modify _ _)
    rw [modify_inside _ inside]
    exact distinct_clear holds.different rfl

end Table

section Step
variable {config : IeeeTalkerConfig} {talker : IeeeTalker} {pdu : TalkerPdu} {calls : StackCalls} {index : Nat}
  {macAddress : Maap.MacAddress}

section
variable (holds : talker.ConnectionsHold config)
include holds

section
variable (absent : talker.connectedTo pdu = none)
include absent

theorem connectFirst_iff
    (found : talker.getFreeListener config = some index) (interface : config.macAddress = some macAddress)
    (supported : classSupported config (requestedClass pdu) = true) (first : talker.connectionCount = 0) :
    (ConnectionsHold config (talker.connect config calls pdu).2 ∧
      ((talker.connect config calls pdu).1 ≠ .success → (talker.connect config calls pdu).2 = talker)) ↔
    if calls.declare then calls.avtpConnect = true
    else talker.params = streamParams config macAddress (requestedClass pdu) := by
  have empty : ¬ 0 < talker.connectionCount.toNat := by simp [first]
  have undeclared : talker.srpDeclared = false := by simpa [empty] using holds.declared
  unfold connect
  rw [found,interface]
  dsimp only
  rw [supported,if_neg (by decide),if_pos first]
  cases declares : calls.declare with
  | false =>
    constructor
    · intro fails
      exact (congrArg params (fails.2 (by simp))).symm
    · intro same
      have unchanged : {talker with params := streamParams config macAddress (requestedClass pdu)} = talker := by
        rw [← same]
      rw [unchanged]
      exact ⟨holds,fun _ => rfl⟩
  | true =>
    cases connects : calls.avtpConnect with
    | false =>
      rw [if_neg (by decide),if_pos (by decide),if_pos rfl]
      refine iff_of_false (fun fails => ?_) (by decide)
      have same := congrArg srpDeclared (fails.2 (by simp))
      rw [undeclared] at same
      cases same
    | true =>
      have pairs : PairsHold config {talker with
          params := streamParams config macAddress (requestedClass pdu),srpDeclared := true,avtpConnected := true} :=
        {holds with}
      have accepted := accept_pairs pairs absent found
      rw [if_neg (by decide),if_neg (by decide),if_pos rfl,iff_true_right rfl]
      exact ⟨⟨accepted.1,⟨fun _ => accepted.2,fun _ => rfl⟩,⟨fun _ => accepted.2,fun _ => rfl⟩⟩,fun no => absurd rfl no⟩

theorem connectNext_holds
    (next : ∀ macAddress, ¬ FirstConnection config talker pdu macAddress) :
    ConnectionsHold config (talker.connect config calls pdu).2 ∧
      ((talker.connect config calls pdu).1 ≠ .success → (talker.connect config calls pdu).2 = talker) := by
  unfold connect
  split
  · exact ⟨holds,fun _ => rfl⟩
  · exact ⟨holds,fun _ => rfl⟩
  next index macAddress found interface =>
    dsimp only
    split
    · exact ⟨holds,fun _ => rfl⟩
    next supported =>
      split
      next first =>
        exact absurd ⟨absent,by simp [found],interface,by simpa using supported,first⟩ (next macAddress)
      next more =>
        split
        · exact ⟨holds,fun _ => rfl⟩
        · have accepted := accept_pairs holds.toPairsHold absent found
          have positive : 0 < talker.connectionCount.toNat :=
            Nat.pos_of_ne_zero fun zero => more (UInt16.toNat_inj.mp zero)
          refine ⟨⟨accepted.1,?_,?_⟩,fun no => absurd rfl no⟩
          · exact ⟨fun _ => accepted.2,fun _ => holds.declared.mpr positive⟩
          · exact ⟨fun _ => accepted.2,fun _ => holds.streaming.mpr positive⟩

theorem connect_iff :
    (ConnectionsHold config (talker.connect config calls pdu).2 ∧
      ((talker.connect config calls pdu).1 ≠ .success → (talker.connect config calls pdu).2 = talker)) ↔
    ∀ macAddress, FirstConnection config talker pdu macAddress →
      if calls.declare then calls.avtpConnect = true
      else talker.params = streamParams config macAddress (requestedClass pdu) := by
  by_cases connectable : ∃ macAddress, FirstConnection config talker pdu macAddress
  · obtain ⟨macAddress,connectable⟩ := connectable
    obtain ⟨index,found⟩ := Option.isSome_iff_exists.mp connectable.free
    rw [connectFirst_iff holds absent found connectable.interface connectable.supported connectable.first]
    constructor
    · intro kept other again
      have same : macAddress = other := Option.some.inj (connectable.interface.symm.trans again.interface)
      exact same ▸ kept
    · exact fun kept => kept macAddress connectable
  · have next := not_exists.mp connectable
    exact iff_of_true (connectNext_holds holds absent next) fun macAddress first => absurd first (next macAddress)

end

theorem disconnect_iff (found : talker.connectedTo pdu = some index) :
    ConnectionsHold config (talker.disconnect calls index).2 ↔
      (talker.connectionCount = 1 → calls.withdraw = true ∧ calls.avtpDisconnect = true) := by
  obtain ⟨released,count,positive⟩ := release_pairs holds.toPairsHold found
  have declared := holds.declared.mpr positive
  have streaming := holds.streaming.mpr positive
  have last : talker.connectionCount - 1 = 0 ↔ talker.connectionCount = 1 := by
    rw [← UInt16.toNat_inj,← UInt16.toNat_inj,show (talker.connectionCount - 1).toNat = _ from count]
    simp
    omega
  have none_left (zero : talker.connectionCount - 1 = 0) : ¬ 0 < (talker.release index).connectionCount.toNat := by
    simp [release,zero]
  have result : talker.disconnect calls index =
      if talker.connectionCount - 1 = 0 then
        if !calls.withdraw then (.talkerMisbehaving,talker.release index)
        else if !calls.avtpDisconnect then (.talkerMisbehaving,{talker.release index with srpDeclared := false})
        else (.success,{talker.release index with srpDeclared := false,avtpConnected := false})
      else (.success,talker.release index) := rfl
  rw [result]
  split
  next zero =>
    have one := last.mp zero
    simp only [one,forall_const]
    cases withdraws : calls.withdraw with
    | false =>
      refine iff_of_false (fun after => none_left zero (after.declared.mp declared)) (by simp)
    | true =>
      cases disconnects : calls.avtpDisconnect with
      | false => refine iff_of_false (fun after => none_left zero (after.streaming.mp streaming)) (by simp)
      | true =>
        refine iff_of_true ⟨{released with},?_,?_⟩ ⟨rfl,rfl⟩
        · exact iff_of_false (by simp) (none_left zero)
        · exact iff_of_false (by simp) (none_left zero)
  next more =>
    have left : 0 < (talker.release index).connectionCount.toNat :=
      Nat.pos_of_ne_zero fun zero => more (UInt16.toNat_inj.mp zero)
    refine iff_of_true ⟨released,?_,?_⟩ fun one => absurd (last.mpr one) more
    · exact iff_of_true declared left
    · exact iff_of_true streaming left

end

theorem rcv_connect (absent : talker.connectedTo pdu = none) :
    talker.rcv config (.connectTx pdu,calls) = talker.connect config calls pdu := by
  simp only [rcv,absent]

theorem rcv_connected (present : talker.connectedTo pdu = some index) :
    talker.rcv config (.connectTx pdu,calls) = (.success,talker) := by
  simp only [rcv,present]

theorem rcv_disconnect (present : talker.connectedTo pdu = some index) :
    talker.rcv config (.disconnectTx pdu,calls) = talker.disconnect calls index := by
  simp only [rcv,present]

theorem rcv_absent (absent : talker.connectedTo pdu = none) :
    talker.rcv config (.disconnectTx pdu,calls) = (.noSuchConnection,talker) := by
  simp only [rcv,absent]

theorem rcv_query (count : UInt16) : (talker.rcv config (.getTxConnection count,calls)).2 = talker := by
  unfold rcv
  dsimp only
  split
  · rfl
  · rfl

theorem command_iff (input : TalkerCommand × StackCalls) (holds : talker.ConnectionsHold config) :
    StacksKept config talker input ↔ CommandHolds config talker input := by
  obtain ⟨command,calls⟩ := input
  unfold CommandHolds FailsUnchanged talkerStep StacksKept
  cases command with
  | connectTx pdu =>
    cases present : talker.connectedTo pdu with
    | none =>
      rw [rcv_connect present]
      exact (connect_iff holds present).symm.trans (and_congr_right fun _ => ⟨fun fails _ _ => fails,fun fails => fails pdu rfl⟩)
    | some index =>
      rw [rcv_connected present]
      refine iff_of_true (fun macAddress first => ?_) ⟨holds,fun _ _ no => absurd rfl no⟩
      exact absurd (first.new.symm.trans present) (by simp)
  | disconnectTx pdu =>
    cases present : talker.connectedTo pdu with
    | none =>
      rw [rcv_absent present]
      exact iff_of_true (fun no => by simp [present] at no) ⟨holds,fun _ no => by cases no⟩
    | some index =>
      rw [rcv_disconnect present,and_iff_left (fun _ no => by cases no)]
      simpa [present] using (disconnect_iff holds present).symm
  | getTxState => exact iff_of_true trivial ⟨holds,fun _ no => by cases no⟩
  | getTxConnection count =>
    rw [rcv_query]
    exact iff_of_true trivial ⟨holds,fun _ no => by cases no⟩

end Step

section Runs
variable (config : IeeeTalkerConfig) (params : StreamParams)

theorem acmpIeeeInit_holds : (acmpIeeeInit config params).ConnectionsHold config := by
  have free : (List.replicate config.maxListenerPairs (⟨0,0,false⟩ : ListenerPair)).countP connected = 0 :=
    List.countP_eq_zero.mpr fun pair member => by simp [List.eq_of_mem_replicate member]
  refine ⟨⟨List.length_replicate,free.symm,Nat.zero_le _,?_⟩,?_,?_⟩
  · intro first second a b atFirst _ usedA
    have member := List.mem_of_getElem? atFirst
    rw [List.eq_of_mem_replicate member] at usedA
    cases usedA
  · simp [acmpIeeeInit]
  · simp [acmpIeeeInit]

/-- The table, the counter and the stacks agree after every command, and every connect that returns
an error changes nothing, exactly in the runs in which the stacks are kept. -/
theorem connections_hold (inputs : List (TalkerCommand × StackCalls)) :
    (acmpIeeeInit config params).ConnectionsHold config ∧
    (Steps (talkerStep config) (CommandHolds config) inputs (acmpIeeeInit config params) ↔
      Steps (talkerStep config) (StacksKept config) inputs (acmpIeeeInit config params)) := by
  refine ⟨acmpIeeeInit_holds config params,?_⟩
  exact steps_iff (I := ConnectionsHold config) (talkerStep config)
    (fun talker input holds => (command_iff input holds).symm)
    (fun talker input _ kept => kept.1) (acmpIeeeInit_holds config params)

end Runs

section Failing

def exampleConfig : IeeeTalkerConfig where
  maxListenerPairs := 2
  clipped := by decide
  entityId := [0,1,2,3,4,5,6,7]
  descriptorIndex := [0,0]
  classA := true
  classB := false
  macAddress := some ⟨0,1,2,3,4,5⟩

def exampleParams : StreamParams := ⟨SR_CLASS_A,⟨0,0,0,0,0,0⟩,0,⟨⟨0,0,0,0,0,0⟩,[0,0]⟩⟩

def failingConnect : TalkerCommand × StackCalls := (.connectTx ⟨7,0,0⟩,⟨true,true,true,false⟩)

/-- The connect returns an error and leaves the talker declared with other parameters. -/
theorem failingConnect_declared :
    ¬ CommandHolds exampleConfig (acmpIeeeInit exampleConfig exampleParams) failingConnect := by
  intro holds
  have positive := holds.1.declared.mp (by decide +kernel)
  exact absurd positive (by decide +kernel)

end Failing

end IeeeTalker

end Genavb.Avdecc
