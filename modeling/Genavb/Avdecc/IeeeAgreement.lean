import Genavb.Avdecc.IeeeEntity
import Genavb.Support.Run

/-! A listener, its controllers and the talkers agree: a stream input is connected by the response to
a command in flight, and a success tells a controller that its command has been carried out. -/
namespace Genavb.Avdecc
open Support IeeeListener AcmpCtx

structure ListenerHistory where
  listener : IeeeListener
  commands : List AcmpPdu

structure Forwards (command : AcmpPdu) (entry : InflightCtx) : Prop where
  msgType : entry.msgType = .connectTx
  origSeqId : entry.origSeqId = command.sequenceId
  controller : entry.pdu.controllerEntityId = command.controllerEntityId
  talker : entry.pdu.talkerEntityId = command.talkerEntityId
  talkerUnique : entry.pdu.talkerUniqueId = command.talkerUniqueId

/-- A response has the sequence id of a connect command in flight to the same talker. -/
structure Answers (acmp : AcmpCtx) (pdu : AcmpPdu) (entry : InflightCtx) : Prop where
  outstanding : acmp.inflightFind pdu.sequenceId = some entry
  msgType : entry.msgType = .connectTx
  talker : entry.pdu.talkerEntityId = pdu.talkerEntityId
  talkerUnique : entry.pdu.talkerUniqueId = pdu.talkerUniqueId

/-- What a successful response to a controller says: its command is the one that was in flight, and
the listener is connected to the talker it names. -/
structure Carried (history : ListenerHistory) (listener : IeeeListener) (response rsp command : AcmpPdu)
    (entry : InflightCtx) : Prop where
  outstanding : history.listener.acmp.inflightFind response.sequenceId = some entry
  received : command ∈ history.commands
  forwards : Forwards command entry
  controller : rsp.controllerEntityId = command.controllerEntityId
  sequenceId : rsp.sequenceId = command.sequenceId
  connected : listener.info.connected = true
  talker : listener.info.talkerEntityId = command.talkerEntityId
  talkerUnique : listener.info.talkerUniqueId = command.talkerUniqueId

namespace ListenerStreamInfo

section Connect
variable {info : ListenerStreamInfo} {pdu : AcmpPdu} {stackConnect : Bool}

private theorem connect_connected : (info.connect pdu stackConnect).2.connected = true ↔
    info.connected = true ∨ stackConnect = true := by
  unfold connect
  cases connected : info.connected <;> cases stackConnect <;> simp [connected]

private theorem connect_success : (info.connect pdu stackConnect).1 = .success ↔
    info.connected = true ∨ stackConnect = true := by
  unfold connect
  cases info.connected <;> cases stackConnect <;> simp

theorem connect_fastConnect : (info.connect pdu stackConnect).2.fastConnect = info.fastConnect := by
  unfold connect
  cases info.connected <;> cases stackConnect <;> simp

private theorem connect_talker :
    (info.connect pdu stackConnect).2.talkerEntityId =
        (if info.connected then info.talkerEntityId else pdu.talkerEntityId) ∧
      (info.connect pdu stackConnect).2.talkerUniqueId =
        (if info.connected then info.talkerUniqueId else pdu.talkerUniqueId) := by
  unfold connect
  cases info.connected <;> cases stackConnect <;> simp

end Connect

end ListenerStreamInfo

namespace ListenerHistory
open ListenerStreamInfo (connect_connected connect_success connect_fastConnect connect_talker)

def step (input : ListenerInput) (history : ListenerHistory) : ListenerHistory where
  listener := (history.listener.rcv input).2
  commands :=
    match input with
    | .connectRxCommand pdu => history.commands ++ [pdu]
    | _ => history.commands

structure AgreementHolds (history : ListenerHistory) (input : ListenerInput) : Prop where
  connects : history.listener.info.connected = false → (history.listener.rcv input).2.info.connected = true →
    ∃ pdu stackConnect entry, input = .connectTxResponse pdu .success stackConnect ∧
      Answers history.listener.acmp pdu entry
  succeeds : ∀ rsp, (history.listener.rcv input).1 = some (.connectRxResponse .success,rsp) →
    ∃ pdu status stackConnect entry command, input = .connectTxResponse pdu status stackConnect ∧
      Carried history (history.listener.rcv input).2 pdu rsp command entry

/-- A successful response is the one to a connect command in flight: to the talker that it comes from
when it connects the listener, to the talker that is connected when it is passed on. -/
def ResponseExpected (history : ListenerHistory) (input : ListenerInput) : Prop :=
  match input with
  | .connectTxResponse pdu .success stackConnect =>
    let info := history.listener.info
    (info.connected = false → stackConnect = true → ∃ entry, Answers history.listener.acmp pdu entry) ∧
      (info.connected = true ∨ stackConnect = true → info.fastConnect = false →
        ∃ entry, history.listener.acmp.inflightFind pdu.sequenceId = some entry ∧ entry.msgType = .connectTx ∧
          entry.pdu.controllerEntityId = pdu.controllerEntityId ∧
          if info.connected then
            entry.pdu.talkerEntityId = info.talkerEntityId ∧ entry.pdu.talkerUniqueId = info.talkerUniqueId
          else entry.pdu.talkerEntityId = pdu.talkerEntityId ∧ entry.pdu.talkerUniqueId = pdu.talkerUniqueId)
  | _ => True

def Forwarded (history : ListenerHistory) : Prop :=
  ∀ entry ∈ history.listener.acmp.inflight, entry.msgType = .connectTx → ∃ command ∈ history.commands, Forwards command entry

section Step
variable {history : ListenerHistory}

theorem rcv_inflight {entry : InflightCtx} (input : ListenerInput)
    (member : entry ∈ (history.listener.rcv input).2.acmp.inflight) (connects : entry.msgType = .connectTx) :
    (∃ old ∈ history.listener.acmp.inflight, entry = old ∨ entry = {old with retried := true}) ∨
      ∃ pdu, input = .connectRxCommand pdu ∧ Forwards pdu entry := by
  have kept (old : entry ∈ history.listener.acmp.inflight) :
      ∃ old ∈ history.listener.acmp.inflight, entry = old ∨ entry = {old with retried := true} := ⟨entry,old,.inl rfl⟩
  cases input with
  | connectRxCommand pdu =>
    unfold rcv at member
    dsimp only at member
    split at member
    · rcases mem_acmpSendCmd member with rfl | old
      · exact .inr ⟨pdu,rfl,rfl,rfl,rfl,rfl,rfl⟩
      · exact .inl (kept old)
    · exact .inl (kept member)
  | connectTxResponse | disconnectTxResponse
  | controllerResponse => exact .inl (kept (mem_inflightCancel member))
  | disconnectRxCommand pdu stackDisconnect =>
    unfold rcv at member
    dsimp only at member
    split at member
    · split at member
      · rcases mem_acmpSendCmd member with rfl | old
        · cases connects
        · exact .inl (kept old)
      · exact .inl (kept member)
    · exact .inl (kept member)
  | getRxStateCommand pdu => exact .inl (kept member)
  | inflightTimeout index =>
    unfold rcv inflightTimeout at member
    dsimp only at member
    split at member
    · exact .inl (kept member)
    · split at member
      · split at member <;> exact .inl (mem_inflightRetry member)
      · split at member
        · exact .inl (kept (mem_inflightRemove member))
        · split at member <;> exact .inl (kept (mem_inflightRemove member))
  | controllerCommand pdu =>
    rcases mem_acmpSendCmd member with rfl | old
    · cases connects
    · exact .inl (kept old)

theorem step_forwarded (input : ListenerInput) (forwarded : history.Forwarded) : (history.step input).Forwarded := by
  have received (command : AcmpPdu) (member : command ∈ history.commands) : command ∈ (history.step input).commands := by
    unfold step
    split
    · exact List.mem_append_left _ member
    · exact member
  intro entry member connects
  rcases rcv_inflight input member connects with ⟨old,before,same⟩ | ⟨pdu,rfl,forwards⟩
  · have oldConnects : old.msgType = .connectTx := by
      rcases same with rfl | rfl
      · exact connects
      · exact connects
    obtain ⟨command,known,forwards⟩ := forwarded old before oldConnects
    refine ⟨command,received command known,?_⟩
    rcases same with rfl | rfl
    · exact forwards
    · exact {forwards with}
  · exact ⟨pdu,List.mem_append_right _ List.mem_cons_self,forwards⟩

theorem rcv_quiet (input : ListenerInput)
    (other : ∀ pdu stackConnect, input ≠ .connectTxResponse pdu .success stackConnect) :
    ((history.listener.rcv input).2.info.connected = true → history.listener.info.connected = true) ∧
      ∀ rsp, (history.listener.rcv input).1 ≠ some (.connectRxResponse .success,rsp) := by
  cases input with
  | connectRxCommand pdu =>
    unfold rcv
    dsimp only
    split
    · exact ⟨id,fun _ no => nomatch no⟩
    · exact ⟨id,fun _ no => nomatch no⟩
  | connectTxResponse pdu status stackConnect =>
    have failed : status ≠ .success := fun same => other pdu stackConnect (same ▸ rfl)
    unfold rcv rcvConnectTxResponse
    dsimp only
    rw [if_neg failed]
    refine ⟨id,fun rsp no => ?_⟩
    split at no
    · cases no
    · cases no
      exact failed rfl
  | disconnectRxCommand pdu stackDisconnect =>
    unfold rcv ListenerStreamInfo.disconnect
    dsimp only
    split
    · split
      · exact ⟨fun no => (nomatch no),fun _ no => (nomatch no)⟩
      · exact ⟨fun no => (nomatch no),fun _ no => (nomatch no)⟩
    · exact ⟨id,fun _ no => nomatch no⟩
  | disconnectTxResponse | getRxStateCommand | controllerCommand
  | controllerResponse => exact ⟨id,fun _ no => nomatch no⟩
  | inflightTimeout index =>
    unfold rcv inflightTimeout
    dsimp only
    split
    · exact ⟨id,fun _ no => nomatch no⟩
    · split
      · split <;> exact ⟨id,fun _ no => nomatch no⟩
      · split
        · exact ⟨id,fun _ no => nomatch no⟩
        · split <;> exact ⟨id,fun _ no => nomatch no⟩

section Response
variable {pdu : AcmpPdu} {stackConnect : Bool}

private theorem response_info : (history.listener.rcv (.connectTxResponse pdu .success stackConnect)).2.info =
    (history.listener.info.connect pdu stackConnect).2 := rfl

private theorem response_sent {rsp : AcmpPdu} :
    (history.listener.rcv (.connectTxResponse pdu .success stackConnect)).1 = some (.connectRxResponse .success,rsp) →
      (history.listener.info.connected = true ∨ stackConnect = true) ∧ history.listener.info.fastConnect = false ∧
        rsp.controllerEntityId = pdu.controllerEntityId ∧
        ∀ entry, history.listener.acmp.inflightFind pdu.sequenceId = some entry → rsp.sequenceId = entry.origSeqId := by
  unfold rcv rcvConnectTxResponse
  dsimp only
  rw [if_pos rfl]
  intro sent
  split at sent
  · cases sent
  next slow =>
    obtain ⟨success,same⟩ := Prod.mk.inj (Option.some.inj sent)
    have connected := connect_success.mp (ListenerSent.connectRxResponse.inj success)
    rw [connect_fastConnect] at slow
    refine ⟨connected,by simpa using slow,?_,?_⟩
    · rw [← same]
      split
      · rfl
      · rfl
    · intro entry found
      rw [← same,found]

theorem response_passes (connected : history.listener.info.connected = true ∨ stackConnect = true)
    (slow : history.listener.info.fastConnect = false) :
    ∃ rsp, (history.listener.rcv (.connectTxResponse pdu .success stackConnect)).1 =
      some (.connectRxResponse .success,rsp) := by
  unfold rcv rcvConnectTxResponse
  dsimp only
  rw [if_pos rfl,connect_success.mpr connected,if_neg (by rw [connect_fastConnect,slow]; decide)]
  exact ⟨_,rfl⟩

theorem response_iff (forwarded : history.Forwarded) :
    history.AgreementHolds (.connectTxResponse pdu .success stackConnect) ↔
      history.ResponseExpected (.connectTxResponse pdu .success stackConnect) := by
  constructor
  · intro holds
    refine ⟨fun idle stack => ?_,fun connected slow => ?_⟩
    · obtain ⟨other,_,entry,same,answers⟩ := holds.connects idle (connect_connected.mpr (.inr stack))
      cases same
      exact ⟨entry,answers⟩
    · obtain ⟨rsp,sent⟩ := response_passes connected slow
      obtain ⟨other,_,_,entry,command,same,carried⟩ := holds.succeeds rsp sent
      cases same
      have talker := carried.talker
      have talkerUnique := carried.talkerUnique
      rw [response_info,connect_talker.1] at talker
      rw [response_info,connect_talker.2] at talkerUnique
      refine ⟨entry,carried.outstanding,carried.forwards.msgType,?_,?_⟩
      · exact carried.forwards.controller.trans (carried.controller.symm.trans (response_sent sent).2.2.1)
      · split
        next already =>
          rw [if_pos already] at talker talkerUnique
          exact ⟨carried.forwards.talker.trans talker.symm,carried.forwards.talkerUnique.trans talkerUnique.symm⟩
        next idle =>
          rw [if_neg idle] at talker talkerUnique
          exact ⟨carried.forwards.talker.trans talker.symm,carried.forwards.talkerUnique.trans talkerUnique.symm⟩
  · intro expected
    refine ⟨fun idle after => ?_,fun rsp sent => ?_⟩
    · obtain ⟨entry,answers⟩ := expected.1 idle ((connect_connected.mp after).resolve_left (by simp [idle]))
      exact ⟨pdu,stackConnect,entry,rfl,answers⟩
    · obtain ⟨connected,slow,controller,sequenceId⟩ := response_sent sent
      obtain ⟨entry,found,connects,sameController,sameTalker⟩ := expected.2 connected slow
      obtain ⟨command,received,forwards⟩ := forwarded entry (inflightFind_mem found).1 connects
      refine ⟨pdu,.success,stackConnect,entry,command,rfl,found,received,forwards,?_,?_,?_,?_,?_⟩
      · exact controller.trans (sameController.symm.trans forwards.controller)
      · exact (sequenceId entry found).trans forwards.origSeqId
      · exact connect_connected.mpr connected
      · rw [response_info,connect_talker.1,← forwards.talker]
        split at sameTalker
        next already => rw [if_pos already,sameTalker.1]
        next idle => rw [if_neg idle,sameTalker.1]
      · rw [response_info,connect_talker.2,← forwards.talkerUnique]
        split at sameTalker
        next already => rw [if_pos already,sameTalker.2]
        next idle => rw [if_neg idle,sameTalker.2]

end Response

theorem agreement_iff (input : ListenerInput) (forwarded : history.Forwarded) :
    history.AgreementHolds input ↔ history.ResponseExpected input := by
  by_cases successful : ∃ pdu stackConnect, input = .connectTxResponse pdu .success stackConnect
  · obtain ⟨pdu,stackConnect,rfl⟩ := successful
    exact response_iff forwarded
  · have other (pdu : AcmpPdu) (stackConnect : Bool) (same : input = .connectTxResponse pdu .success stackConnect) : False :=
      successful ⟨pdu,stackConnect,same⟩
    obtain ⟨kept,quiet⟩ : (_ → history.listener.info.connected = true) ∧ _ := rcv_quiet input other
    refine iff_of_true ⟨fun idle after => ?_,fun rsp sent => absurd sent (quiet rsp)⟩ ?_
    · exact absurd (idle.symm.trans (kept after)) (by decide)
    · unfold ResponseExpected
      split
      next pdu stackConnect => exact (other pdu stackConnect rfl).elim
      · trivial

end Step

def begun (fastConnect : Bool) (maxInflights : Nat) (sequenceId : UInt16) : ListenerHistory :=
  ⟨.acmpInit fastConnect maxInflights sequenceId,[]⟩

/-- The listener, its controllers and the talkers agree at every step exactly in the runs in which
every successful response is expected. -/
theorem listener_agrees (fastConnect : Bool) (maxInflights : Nat) (sequenceId : UInt16) (inputs : List ListenerInput) :
    Steps step AgreementHolds inputs (begun fastConnect maxInflights sequenceId) ↔
      Steps step ResponseExpected inputs (begun fastConnect maxInflights sequenceId) :=
  steps_iff (I := Forwarded) step (fun _ input forwarded => agreement_iff input forwarded)
    (fun _ input forwarded _ => step_forwarded input forwarded) (fun _ member => nomatch member)

def unsolicitedResponse : ListenerInput :=
  .connectTxResponse ⟨1,2,0,3,0,4,⟨0x91,0xe0,0xf0,0,0xfe,1⟩,1,7,0,2⟩ .success true

theorem unsolicited_connects : ¬ Steps step AgreementHolds [unsolicitedResponse] (begun false 8 0) := by
  rintro ⟨holds,-⟩
  obtain ⟨_,_,_,same,answers⟩ := holds.connects rfl rfl
  cases same
  exact nomatch answers.outstanding

end ListenerHistory

end Genavb.Avdecc
