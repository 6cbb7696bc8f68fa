import Genavb.Avdecc.IeeeConnections

/-! The enumeration of the listeners of an IEEE talker: GET_TX_CONNECTION takes its number for a
position in the table of pairs, which has holes after disconnects. -/
namespace Genavb.Avdecc
open Support TalkerMessage Slots

namespace IeeeTalker

def reportedCount (pdu : AcmpPdu) (talker : IeeeTalker) : UInt16 :=
  (TalkerMessage.getTxState.response pdu talker talker).connectionCount

/-- The status of the response to GET_TX_CONNECTION and the listener in it. -/
def getTxConnection (config : IeeeTalkerConfig) (calls : StackCalls) (pdu : AcmpPdu) (talker : IeeeTalker) :
    AcmpStatus × (UInt64 × UInt16) :=
  let acmpRsp := TalkerMessage.getTxConnection.response pdu talker talker
  ((talker.rcv config (TalkerMessage.getTxConnection.talkerCommand pdu,calls)).1,
    (acmpRsp.listenerEntityId,acmpRsp.listenerUniqueId))

/-- The numbers below the count of the talker are its listeners, each of them once, and there are no others. -/
structure Enumerates (config : IeeeTalkerConfig) (talker : IeeeTalker) : Prop where
  answered : ∀ state query calls, query.connectionCount < talker.reportedCount state →
    (talker.getTxConnection config calls query).1 = .success ∧
      ∃ pair ∈ talker.listeners, pair.connected = true ∧ (talker.getTxConnection config calls query).2 = pair.listener
  once : ∀ state, ∀ pair ∈ talker.listeners, pair.connected = true →
    ∃! number, number < talker.reportedCount state ∧
      ∀ query calls, query.connectionCount = number → (talker.getTxConnection config calls query).2 = pair.listener
  rest : ∀ state query calls, ¬ query.connectionCount < talker.reportedCount state →
    (talker.getTxConnection config calls query).1 = .noSuchConnection

def LastLeaves (talker : IeeeTalker) (input : TalkerCommand × StackCalls) : Prop :=
  match input.1 with
  | .disconnectTx pdu => ∀ index, talker.connectedTo pdu = some index →
    ∀ (later : Nat) (pair : ListenerPair), index < later → talker.listeners[later]? = some pair → pair.connected = false
  | _ => True

def NoHoles (talker : IeeeTalker) : Prop := Compact ListenerPair.connected talker.listeners

section Queries
variable {config : IeeeTalkerConfig} {calls : StackCalls} {talker : IeeeTalker} {pdu : AcmpPdu} {pair : ListenerPair}

private theorem reportedCount_eq : talker.reportedCount pdu = talker.connectionCount := by
  unfold reportedCount response copyStreamInfo
  dsimp only
  split
  next none => exact none.symm
  · rfl

private theorem getTxConnection_connected (at' : talker.listeners[pdu.connectionCount.toNat]? = some pair)
    (connected : pair.connected = true) : talker.getTxConnection config calls pdu = (.success,pair.listener) := by
  unfold getTxConnection rcv talkerCommand response copyStreamInfo
  dsimp only
  rw [at']
  dsimp only
  rw [if_pos connected,if_pos connected]
  split
  · rfl
  · rfl

theorem getTxConnection_success_iff : (talker.getTxConnection config calls pdu).1 = .success ↔
    ∃ pair, talker.listeners[pdu.connectionCount.toNat]? = some pair ∧ pair.connected = true := by
  unfold getTxConnection rcv talkerCommand
  dsimp only
  split
  next pair at' =>
    rw [at']
    cases connected : pair.connected with
    | true | false => simp [connected]
  next absent => simp [absent]

private theorem getTxConnection_noSuch_iff : (talker.getTxConnection config calls pdu).1 = .noSuchConnection ↔
    ∀ pair, talker.listeners[pdu.connectionCount.toNat]? = some pair → pair.connected = false := by
  unfold getTxConnection rcv talkerCommand
  dsimp only
  split
  next pair at' =>
    rw [at']
    cases connected : pair.connected with
    | true | false => simp [connected]
  next absent => simp [absent]

def connectionQuery (number : UInt16) : AcmpPdu := ⟨0,0,0,0,0,0,⟨0,0,0,0,0,0⟩,number,0,0,0⟩

private theorem enumerates_iff (holds : talker.PairsHold config) : talker.Enumerates config ↔ talker.NoHoles := by
  have small {position : Nat} {pair : ListenerPair} (at' : talker.listeners[position]? = some pair) :
      (UInt16.ofNat position).toNat = position := by
    have inside := (List.getElem?_eq_some_iff.mp at').1
    have slots := holds.slots
    have clipped := config.clipped
    unfold CFG_ACMP_MAX_NUM_LISTENER_PAIRS at clipped
    simp only [UInt16.toNat_ofNat']
    omega
  constructor
  · intro lists
    refine compact_of_used fun position pair at' => ?_
    have number := small at'
    have here : talker.listeners[(connectionQuery (.ofNat position)).connectionCount.toNat]? = some pair := by
      rw [connectionQuery,number]
      exact at'
    rw [← holds.counted]
    constructor
    · intro connected
      by_contra late
      have refused := lists.rest (connectionQuery 0) (connectionQuery (.ofNat position)) ⟨true,true,true,true⟩
        (by rw [reportedCount_eq,UInt16.lt_iff_toNat_lt,connectionQuery,number]; exact late)
      have free := getTxConnection_noSuch_iff.mp refused pair here
      exact absurd (connected.symm.trans free) (by decide)
    · intro early
      have answered := lists.answered (connectionQuery 0) (connectionQuery (.ofNat position)) ⟨true,true,true,true⟩
        (by rw [reportedCount_eq,UInt16.lt_iff_toNat_lt,connectionQuery,number]; exact early)
      obtain ⟨other,same,connected⟩ := getTxConnection_success_iff.mp answered.1
      cases here.symm.trans same
      exact connected
  · intro compact
    have used {position : Nat} {pair : ListenerPair} (at' : talker.listeners[position]? = some pair) :
        pair.connected = true ↔ position < talker.connectionCount.toNat := by
      rw [holds.counted]
      exact Compact.used_iff compact at'
    refine ⟨fun state query calls below => ?_,fun state pair member connected => ?_,fun state query calls beyond => ?_⟩
    · rw [reportedCount_eq,UInt16.lt_iff_toNat_lt] at below
      have bounded := holds.bounded
      have slots := holds.slots
      have at' := List.getElem?_eq_getElem (show query.connectionCount.toNat < talker.listeners.length by omega)
      have connected := (used at').mpr below
      rw [getTxConnection_connected at' connected]
      exact ⟨rfl,_,List.getElem_mem _,connected,rfl⟩
    · obtain ⟨position,at'⟩ := List.getElem?_of_mem member
      have number := small at'
      refine ⟨.ofNat position,⟨?_,fun query calls same => ?_⟩,fun other listed => ?_⟩
      · rw [reportedCount_eq,UInt16.lt_iff_toNat_lt,number]
        exact (used at').mp connected
      · rw [getTxConnection_connected (by rw [same,number]; exact at') connected]
      · have below : other.toNat < talker.connectionCount.toNat := by
          rw [← UInt16.lt_iff_toNat_lt,← reportedCount_eq]
          exact listed.1
        have bounded := holds.bounded
        have slots := holds.slots
        have there := List.getElem?_eq_getElem (show other.toNat < talker.listeners.length by omega)
        have alike := listed.2 (connectionQuery other) ⟨true,true,true,true⟩ rfl
        rw [getTxConnection_connected there ((used there).mpr below)] at alike
        have same := holds.different _ _ _ _ there at' ((used there).mpr below) connected alike
        rw [← UInt16.toNat_inj,number,same]
    · rw [reportedCount_eq,UInt16.lt_iff_toNat_lt] at beyond
      refine getTxConnection_noSuch_iff.mpr fun pair at' => ?_
      have late := mt (used at').mp beyond
      simpa using late

end Queries

section Runs
variable {config : IeeeTalkerConfig} {calls : StackCalls} {talker : IeeeTalker} {pdu : AcmpPdu}

private theorem talkerStep_table (input : TalkerCommand × StackCalls) (talker : IeeeTalker) :
    ((talkerStep config input talker).listeners = talker.listeners ∧
      (talkerStep config input talker).connectionCount = talker.connectionCount ∧
      ∀ pdu, input.1 = .disconnectTx pdu → talker.connectedTo pdu = none) ∨
    (∃ pdu index, input.1 = .connectTx pdu ∧ talker.connectedTo pdu = none ∧
      talker.getFreeListener config = some index ∧
      (talkerStep config input talker).listeners = (talker.accept pdu index).listeners ∧
      (talkerStep config input talker).connectionCount = (talker.accept pdu index).connectionCount) ∨
    (∃ pdu index, input.1 = .disconnectTx pdu ∧ talker.connectedTo pdu = some index ∧
      (talkerStep config input talker).listeners = (talker.release index).listeners ∧
      (talkerStep config input talker).connectionCount = (talker.release index).connectionCount) := by
  obtain ⟨command,calls⟩ := input
  unfold talkerStep
  cases command with
  | connectTx pdu =>
    cases present : talker.connectedTo pdu with
    | some index =>
      rw [rcv_connected present]
      exact .inl ⟨rfl,rfl,nofun⟩
    | none =>
      rw [rcv_connect present]
      unfold connect
      split
      · exact .inl ⟨rfl,rfl,nofun⟩
      · exact .inl ⟨rfl,rfl,nofun⟩
      next index macAddress found interface =>
        dsimp only
        split
        · exact .inl ⟨rfl,rfl,nofun⟩
        · split
          · split
            · exact .inl ⟨rfl,rfl,nofun⟩
            · split
              · exact .inl ⟨rfl,rfl,nofun⟩
              · exact .inr (.inl ⟨pdu,index,rfl,present,found,rfl,rfl⟩)
          · split
            · exact .inl ⟨rfl,rfl,nofun⟩
            · exact .inr (.inl ⟨pdu,index,rfl,present,found,rfl,rfl⟩)
  | disconnectTx pdu =>
    cases present : talker.connectedTo pdu with
    | none =>
      rw [rcv_absent present]
      refine .inl ⟨rfl,rfl,fun other same => ?_⟩
      cases same
      exact present
    | some index =>
      rw [rcv_disconnect present]
      refine .inr (.inr ⟨pdu,index,rfl,present,?_⟩)
      unfold disconnect release
      dsimp only
      split
      · split
        · exact ⟨rfl,rfl⟩
        · split
          · exact ⟨rfl,rfl⟩
          · exact ⟨rfl,rfl⟩
      · exact ⟨rfl,rfl⟩
  | getTxState => exact .inl ⟨rfl,rfl,nofun⟩
  | getTxConnection count =>
    rw [rcv_query]
    exact .inl ⟨rfl,rfl,nofun⟩

theorem PairsHold.of_table {other : IeeeTalker} (holds : talker.PairsHold config)
    (listeners : other.listeners = talker.listeners) (count : other.connectionCount = talker.connectionCount) :
    other.PairsHold config := by
  refine ⟨?_,?_,?_,?_⟩
  · rw [listeners]
    exact holds.slots
  · rw [listeners,count]
    exact holds.counted
  · rw [count]
    exact holds.bounded
  · rw [listeners]
    exact holds.different

private theorem talkerStep_pairs (holds : talker.PairsHold config) (input : TalkerCommand × StackCalls) :
    (talkerStep config input talker).PairsHold config := by
  rcases @talkerStep_table config input talker with ⟨same,count,-⟩ | ⟨pdu,index,-,absent,found,same,count⟩ |
    ⟨pdu,index,-,found,same,count⟩
  · exact holds.of_table same count
  · exact (accept_pairs holds absent found).1.of_table same count
  · exact (release_pairs holds found).1.of_table same count

theorem talkerStep_noHoles (compact : talker.NoHoles) (input : TalkerCommand × StackCalls) :
    (talkerStep config input talker).NoHoles ↔ talker.LastLeaves input := by
  rcases @talkerStep_table config input talker with ⟨same,-,stays⟩ | ⟨pdu,index,connects,-,found,same,-⟩ |
    ⟨pdu,index,leaves,found,same,-⟩
  · unfold NoHoles LastLeaves
    rw [same]
    refine iff_of_true compact ?_
    split
    next pdu leaves =>
      intro index present
      rw [stays pdu leaves] at present
      cases present
    · trivial
  · unfold NoHoles LastLeaves
    rw [same,connects]
    refine iff_of_true ?_ trivial
    obtain ⟨-,inside,free⟩ := getFreeListener_some found
    refine compact_enter compact inside free (fun before bound => ?_) rfl
    unfold getFreeListener at found
    split at found
    · cases found
    · obtain ⟨_,_,earlier⟩ := List.findIdx?_eq_some_iff_getElem.mp found
      simpa using earlier before bound
  · unfold NoHoles LastLeaves
    rw [same,leaves]
    obtain ⟨inside,connected⟩ := connectedTo_some found
    unfold release
    rw [modify_inside _ inside,compact_clear_iff compact inside rfl]
    constructor
    · intro last other present
      rw [found] at present
      cases present
      exact last
    · intro last
      exact last index found

end Runs

section Reached
variable (config : IeeeTalkerConfig) (params : StreamParams)

theorem acmpIeeeInit_noHoles : (acmpIeeeInit config params).NoHoles := by
  intro free taken a b _ atTaken _ connected
  have member := List.mem_of_getElem? atTaken
  rw [List.eq_of_mem_replicate member] at connected
  cases connected

/-- In every state that connects and disconnects lead to, the talker lists its listeners exactly if its
table has no holes; it does so in all states of a run exactly if only last listeners disconnect. -/
theorem enumeration_holds (inputs : List (TalkerCommand × StackCalls)) :
    let start := acmpIeeeInit config params
    ((run (talkerStep config) inputs start).Enumerates config ↔ (run (talkerStep config) inputs start).NoHoles) ∧
    start.Enumerates config ∧
    (Steps (talkerStep config) (fun talker input => (talkerStep config input talker).Enumerates config) inputs start ↔
      Steps (talkerStep config) LastLeaves inputs start) := by
  have holds := (acmpIeeeInit_holds config params).toPairsHold
  have compact := acmpIeeeInit_noHoles config params
  refine ⟨?_,(enumerates_iff holds).mpr compact,?_⟩
  · have reached := run_invariant (talkerStep config) (I := PairsHold config)
      (fun talker input kept _ => talkerStep_pairs kept input) holds (steps_always _ inputs _)
    exact enumerates_iff reached
  · refine steps_iff (I := fun talker => talker.PairsHold config ∧ talker.NoHoles) (talkerStep config)
      (fun talker input kept => ?_) (fun talker input kept lists => ?_) ⟨holds,compact⟩
    · rw [enumerates_iff (talkerStep_pairs kept.1 input)]
      exact talkerStep_noHoles kept.2 input
    · have pairs := talkerStep_pairs kept.1 input
      exact ⟨pairs,(enumerates_iff pairs).mp lists⟩

end Reached

section Hole

def holeInputs : List (TalkerCommand × StackCalls) :=
  [(.connectTx ⟨7,0,0⟩,⟨true,true,true,true⟩),(.connectTx ⟨8,0,0⟩,⟨true,true,true,true⟩),
    (.disconnectTx ⟨7,0,0⟩,⟨true,true,true,true⟩)]

theorem hole_unlisted :
    ¬ (run (talkerStep exampleConfig) holeInputs (acmpIeeeInit exampleConfig exampleParams)).Enumerates
      exampleConfig := by
  intro lists
  have answered := lists.answered (connectionQuery 0) (connectionQuery 0) ⟨true,true,true,true⟩ (by decide +kernel)
  exact absurd answered.1 (by decide +kernel)

end Hole

end IeeeTalker

end Genavb.Avdecc
