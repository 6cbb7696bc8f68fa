import Genavb.Avdecc.IeeeAgreement
import Mathlib.Algebra.Ring.Nat

/-! The responses of an IEEE entity: every command of a controller has been answered exactly once, or
it waits in a command in flight, in every run in which no command is forgotten or mistaken. -/
namespace Genavb.Avdecc
open Support IeeeEntity AcmpCtx ListenerSent List Option
open List (append_assoc filterMap_map map_cons nil_perm not_mem_nil sum_cons)

structure AcmpTicket where
  type : AcmpCommand
  controllerEntityId : UInt64
  sequenceId : UInt16
  deriving DecidableEq

structure Forwarding where
  entry : InflightCtx
  origin : Option AcmpTicket

def Forwarding.retry (forwarding : Forwarding) : Forwarding :=
  {forwarding with entry := {forwarding.entry with retried := true}}

def Forwarding.expiries (forwarding : Forwarding) : Nat := if forwarding.entry.retried then 1 else 2

/-- An entity with what its commands in flight have been sent for, the commands that it has received and
the responses that it has sent. -/
structure AcmpHistory where
  entity : IeeeEntity
  forwardings : List Forwarding
  commands : List AcmpTicket
  responses : List AcmpTicket

def InflightCommand.forwards : InflightCommand → Option AcmpCommand
  | .connectTx => some .connectRx
  | .disconnectTx => some .disconnectRx
  | .controller => none

def AcmpSent.answers : AcmpSent → Option AcmpTicket
  | .command _ _ => none
  | .response type _ pdu => some ⟨type,pdu.controllerEntityId,pdu.sequenceId⟩

def ListenerSent.answers (sent : ListenerSent × AcmpPdu) : Option AcmpTicket := (sent.1.acmpSent sent.2).answers

def IeeeEntityInput.received : IeeeEntityInput → Option AcmpTicket
  | .listener (.connectRxCommand pdu) => some ⟨.connectRx,pdu.controllerEntityId,pdu.sequenceId⟩
  | .listener (.disconnectRxCommand pdu _) => some ⟨.disconnectRx,pdu.controllerEntityId,pdu.sequenceId⟩
  | .listener (.getRxStateCommand pdu) => some ⟨.getRxState,pdu.controllerEntityId,pdu.sequenceId⟩
  | .talker message pdu _ => some ⟨message.command,pdu.controllerEntityId,pdu.sequenceId⟩
  | _ => none

namespace IeeeListener
variable {listener : IeeeListener} {pdu : AcmpPdu}

theorem rcv_connectRx (free : listener.info.listenerConnected pdu = false) :
    (listener.rcv (.connectRxCommand pdu)).2.acmp =
        (listener.acmp.acmpSendCmd .connectTx pdu.sequenceId {acmpNetTxInit pdu with flags := pdu.flags}).2 ∧
      ∃ sent, (listener.rcv (.connectRxCommand pdu)).1 = some (.connectTxCommand,sent) := by
  unfold rcv
  dsimp only
  rw [free]
  exact ⟨rfl,_,rfl⟩

theorem rcv_connectRx_exclusive (connected : listener.info.listenerConnected pdu = true) :
    listener.rcv (.connectRxCommand pdu) =
      (some (.connectRxResponse .listenerExclusive,{acmpNetTxInit pdu with sequenceId := pdu.sequenceId}),listener) := by
  unfold rcv
  dsimp only
  rw [connected]
  rfl

theorem rcv_disconnectRx (connected : listener.info.listenerConnectedTo pdu = true) :
    (listener.rcv (.disconnectRxCommand pdu true)).2.acmp =
        (listener.acmp.acmpSendCmd .disconnectTx pdu.sequenceId {acmpNetTxInit pdu with flags := pdu.flags}).2 ∧
      ∃ sent, (listener.rcv (.disconnectRxCommand pdu true)).1 = some (.disconnectTxCommand,sent) := by
  unfold rcv
  dsimp only
  rw [connected]
  exact ⟨rfl,_,rfl⟩

theorem rcv_disconnectRx_answered {stackDisconnect : Bool}
    (here : listener.info.listenerConnectedTo pdu = true → stackDisconnect = false) :
    (listener.rcv (.disconnectRxCommand pdu stackDisconnect)).2.acmp = listener.acmp ∧
      ∃ status, (listener.rcv (.disconnectRxCommand pdu stackDisconnect)).1 =
        some (.disconnectRxResponse status,{acmpNetTxInit pdu with sequenceId := pdu.sequenceId}) := by
  unfold rcv
  dsimp only
  cases connected : listener.info.listenerConnectedTo pdu with
  | false => exact ⟨rfl,_,rfl⟩
  | true =>
    rw [here connected]
    exact ⟨rfl,_,rfl⟩

theorem rcvConnectTxResponse_sent (status : AcmpStatus) (stackConnect : Bool) :
    (listener.rcv (.connectTxResponse pdu status stackConnect)).1.toList.filterMap answers =
      if listener.info.fastConnect then []
      else [⟨.connectRx,pdu.controllerEntityId,(listener.acmp.inflightFind pdu.sequenceId).elim 0 (·.origSeqId)⟩] := by
  have fast : (if status = .success then listener.info.connect pdu stackConnect else (status,listener.info)).2.fastConnect =
      listener.info.fastConnect := by
    split
    · exact ListenerStreamInfo.connect_fastConnect
    · rfl
  show (rcvConnectTxResponse ..).1.toList.filterMap _ = _
  unfold rcvConnectTxResponse
  dsimp only
  rw [fast]
  split
  · rfl
  · cases listener.acmp.inflightFind pdu.sequenceId with
    | none | some => rfl

theorem rcvDisconnectTxResponse_sent (status : AcmpStatus) :
    (listener.rcv (.disconnectTxResponse pdu status)).1.toList.filterMap answers =
      [⟨.disconnectRx,pdu.controllerEntityId,(listener.acmp.inflightFind pdu.sequenceId).elim 0 (·.origSeqId)⟩] := by
  unfold rcv
  dsimp only
  cases listener.acmp.inflightFind pdu.sequenceId with
  | none | some => rfl

theorem inflightTimeout_missing {index : Nat} (missing : listener.acmp.inflight[index]? = none) :
    listener.rcv (.inflightTimeout index) = (none,listener) := by
  show listener.inflightTimeout index = _
  unfold inflightTimeout
  rw [missing]

theorem inflightTimeout_retry {index : Nat} {entry : InflightCtx} (found : listener.acmp.inflight[index]? = some entry)
    (first : entry.retried = false) :
    (listener.rcv (.inflightTimeout index)).2.acmp = listener.acmp.inflightRetry index ∧
      (listener.rcv (.inflightTimeout index)).1.toList.filterMap answers = [] := by
  show (listener.inflightTimeout index).2.acmp = _ ∧ (listener.inflightTimeout index).1.toList.filterMap _ = _
  unfold inflightTimeout
  rw [found]
  dsimp only
  rw [first]
  cases entry.msgType with
  | connectTx | disconnectTx | controller => exact ⟨rfl,rfl⟩

theorem inflightTimeout_last {index : Nat} {entry : InflightCtx} (found : listener.acmp.inflight[index]? = some entry)
    (retried : entry.retried = true) :
    (listener.rcv (.inflightTimeout index)).2.acmp = listener.acmp.inflightRemove index ∧
      (listener.rcv (.inflightTimeout index)).1.toList.filterMap answers =
        if entry.pdu.flags &&& ACMP_FLAG_FAST_CONNECT ≠ 0 then []
        else (entry.msgType.forwards.map fun type => ⟨type,entry.pdu.controllerEntityId,entry.pdu.sequenceId⟩).toList := by
  show (listener.inflightTimeout index).2.acmp = _ ∧ (listener.inflightTimeout index).1.toList.filterMap _ = _
  unfold inflightTimeout
  rw [found]
  dsimp only
  rw [retried]
  split
  next again => cases again
  · split
    · exact ⟨rfl,rfl⟩
    · cases entry.msgType with
      | connectTx | disconnectTx | controller => exact ⟨rfl,rfl⟩

end IeeeListener

namespace AcmpHistory
variable (config : IeeeEntityConfig)

def find (sequenceId : UInt16) (history : AcmpHistory) : Option Forwarding :=
  history.forwardings.find? (·.entry.sequenceId = sequenceId)

def cancelled (sequenceId : UInt16) (history : AcmpHistory) : List Forwarding :=
  history.forwardings.eraseP (·.entry.sequenceId = sequenceId)

/-- The commands that are put in flight have been sent for the command that has been received. -/
def forwarded (input : IeeeEntityInput) (history : AcmpHistory) : List Forwarding :=
  match input with
  | .listener (.inflightTimeout index) =>
    match history.forwardings[index]? with
    | none => history.forwardings
    | some forwarding =>
      if !forwarding.entry.retried then history.forwardings.modify index Forwarding.retry
      else history.forwardings.eraseIdx index
  | .listener (.connectTxResponse pdu _ _) =>
    if pdu.listenerUniqueId.toNat < config.maxListenerStreams then history.cancelled pdu.sequenceId
    else history.forwardings
  | .listener (.disconnectTxResponse pdu _) =>
    if pdu.listenerUniqueId.toNat < config.maxListenerStreams then history.cancelled pdu.sequenceId
    else history.forwardings
  | .listener (.controllerResponse pdu) => history.cancelled pdu.sequenceId
  | input =>
    let inflight := (history.entity.rcv config input).2.acmp.inflight
    (inflight.take (inflight.length - history.forwardings.length)).map (⟨·,input.received⟩) ++ history.forwardings

def step (input : IeeeEntityInput) (history : AcmpHistory) : AcmpHistory where
  entity := (history.entity.rcv config input).2
  forwardings := history.forwarded config input
  commands := history.commands ++ input.received.toList
  responses := history.responses ++ (history.entity.rcv config input).1.filterMap AcmpSent.answers

def pending (history : AcmpHistory) : List AcmpTicket := history.forwardings.filterMap Forwarding.origin

def Accounted (history : AcmpHistory) : Prop := history.commands.Perm (history.responses ++ history.pending)

def Expected (type : AcmpCommand) (pdu : AcmpPdu) (history : AcmpHistory) : Prop :=
  ∃ forwarding ticket, history.find pdu.sequenceId = some forwarding ∧ forwarding.origin = some ticket ∧
    ticket.type = type ∧ ticket.controllerEntityId = pdu.controllerEntityId

/-- A command is forwarded only when an entry is free; a talker answers a command in flight, and on an
input that is in fast connect mode no command of a controller; a controller's response is not taken for
one of a talker; and a command that times out is no fast connect and has been forwarded with its own
sequence id. -/
def Attended (input : IeeeEntityInput) (history : AcmpHistory) : Prop :=
  match input with
  | .listener (.connectRxCommand pdu) =>
    let index := pdu.listenerUniqueId.toNat
    index < config.maxListenerStreams → (history.entity.streamInputs index).info.listenerConnected pdu = false →
      history.entity.acmp.freeInflight ≠ 0
  | .listener (.disconnectRxCommand pdu stackDisconnect) =>
    let index := pdu.listenerUniqueId.toNat
    index < config.maxListenerStreams → (history.entity.streamInputs index).info.listenerConnectedTo pdu = true →
      stackDisconnect = true → history.entity.acmp.freeInflight ≠ 0
  | .listener (.connectTxResponse pdu _ _) =>
    let index := pdu.listenerUniqueId.toNat
    index < config.maxListenerStreams →
      if (history.entity.streamInputs index).info.fastConnect then
        ∀ forwarding, history.find pdu.sequenceId = some forwarding → forwarding.origin = none
      else history.Expected .connectRx pdu
  | .listener (.disconnectTxResponse pdu _) =>
    pdu.listenerUniqueId.toNat < config.maxListenerStreams → history.Expected .disconnectRx pdu
  | .listener (.controllerResponse pdu) =>
    ∀ forwarding, history.find pdu.sequenceId = some forwarding → forwarding.origin = none
  | .listener (.inflightTimeout index) => ∀ forwarding ticket, history.forwardings[index]? = some forwarding →
    forwarding.entry.retried = true → forwarding.origin = some ticket →
      forwarding.entry.pdu.flags &&& ACMP_FLAG_FAST_CONNECT = 0 ∧ forwarding.entry.sequenceId = ticket.sequenceId
  | _ => True

structure Records (forwarding : Forwarding) : Prop where
  sequenceId : forwarding.entry.pdu.sequenceId = forwarding.entry.sequenceId
  origin : ∀ ticket, forwarding.origin = some ticket →
    forwarding.entry.msgType.forwards = some ticket.type ∧ forwarding.entry.origSeqId = ticket.sequenceId ∧
      forwarding.entry.pdu.controllerEntityId = ticket.controllerEntityId
  own : forwarding.origin = none → forwarding.entry.msgType ≠ .controller →
    forwarding.entry.pdu.flags &&& ACMP_FLAG_FAST_CONNECT ≠ 0

structure Recorded (history : AcmpHistory) : Prop where
  inflight : history.forwardings.map Forwarding.entry = history.entity.acmp.inflight
  records : ∀ forwarding, forwarding ∈ history.forwardings → Records forwarding

structure Grows (origin : Option AcmpTicket) (entity next : IeeeEntity) (news : List InflightCtx) : Prop where
  inflight : next.acmp.inflight = news ++ entity.acmp.inflight
  records : ∀ entry, entry ∈ news → Records ⟨entry,origin⟩

section Accounts
variable {config : IeeeEntityConfig} {history : AcmpHistory} {input : IeeeEntityInput} {news : List InflightCtx}

def answered (config : IeeeEntityConfig) (input : IeeeEntityInput) (history : AcmpHistory) : List AcmpTicket :=
  (history.entity.rcv config input).1.filterMap AcmpSent.answers

theorem accounted_iff (accounted : history.Accounted) : (history.step config input).Accounted ↔
    (input.received.toList ++ history.pending).Perm
      (history.answered config input ++ (history.step config input).pending) := by
  unfold Accounted at accounted ⊢
  have before : (history.commands ++ input.received.toList).Perm
      (history.responses ++ (input.received.toList ++ history.pending)) := by
    apply (accounted.append_right _).trans
    rw [append_assoc]
    exact perm_append_comm.append_left _
  have after : (history.step config input).responses = history.responses ++ history.answered config input := rfl
  apply Iff.trans _ (perm_append_left_iff history.responses)
  rw [after,append_assoc]
  exact ⟨before.symm.trans,before.trans⟩

theorem recorded_length (recorded : history.Recorded) :
    history.forwardings.length = history.entity.acmp.inflight.length := by
  rw [← recorded.inflight,length_map]

private theorem grown_forwardings (recorded : history.Recorded) {next : IeeeEntity} {origin : Option AcmpTicket}
    (grows : Grows origin history.entity next news) :
    (next.acmp.inflight.take (next.acmp.inflight.length - history.forwardings.length)).map (⟨·,origin⟩) ++
      history.forwardings = news.map (⟨·,origin⟩) ++ history.forwardings := by
  rw [recorded_length recorded,grows.inflight,length_append,Nat.add_sub_cancel,take_left' rfl]

theorem origins_new (origin : Option AcmpTicket) : (news.map (Forwarding.mk · origin)).filterMap Forwarding.origin =
    news.flatMap fun _ => origin.toList := by
  induction news with
  | nil => rfl
  | cons entry rest ih =>
    rw [map_cons,filterMap_cons,ih,flatMap_cons]
    cases origin with
    | none | some => rfl

private theorem grown_step (recorded : history.Recorded) (accounted : history.Accounted)
    (grows : Grows input.received history.entity (history.entity.rcv config input).2 news)
    (forwards : history.forwarded config input = news.map (⟨·,input.received⟩) ++ history.forwardings) :
    (history.step config input).Recorded ∧ ((history.step config input).Accounted ↔
      input.received.toList.Perm (history.answered config input ++ news.flatMap fun _ => input.received.toList)) := by
  have waits : (history.step config input).pending =
      (news.flatMap fun _ => input.received.toList) ++ history.pending := by
    show (history.forwarded config input).filterMap _ = _
    rw [forwards,List.filterMap_append,origins_new]
    rfl
  refine ⟨⟨?_,?_⟩,?_⟩
  · show (history.forwarded config input).map _ = (history.entity.rcv config input).2.acmp.inflight
    rw [forwards,List.map_append,recorded.inflight,grows.inflight,List.map_map]
    congr 1
    exact List.map_id' _
  · show ∀ forwarding, forwarding ∈ history.forwarded config input → _
    rw [forwards]
    intro forwarding member
    obtain new | old := List.mem_append.mp member
    · obtain ⟨entry,inside,rfl⟩ := List.mem_map.mp new
      exact grows.records entry inside
    · exact recorded.records forwarding old
  · rw [accounted_iff accounted,waits,← append_assoc,List.perm_append_right_iff]

private theorem taken_step (recorded : history.Recorded) (accounted : history.Accounted) (received : input.received = none)
    (inflight : (history.forwarded config input).map Forwarding.entry =
      (history.entity.rcv config input).2.acmp.inflight)
    {forwarding : Forwarding} (taken : history.forwardings.Perm (forwarding :: history.forwarded config input)) :
    (history.step config input).Recorded ∧
      ((history.step config input).Accounted ↔ forwarding.origin.toList.Perm (history.answered config input)) := by
  have waited : history.pending.Perm (forwarding.origin.toList ++ (history.step config input).pending) := by
    apply (taken.filterMap Forwarding.origin).trans
    rw [filterMap_cons]
    cases forwarding.origin with
    | none | some => exact .refl _
  refine ⟨⟨inflight,fun other member => ?_⟩,?_⟩
  · exact recorded.records other (taken.mem_iff.mpr (mem_cons_of_mem _ member))
  · rw [accounted_iff accounted,received,toList_none,nil_append]
    apply Iff.trans _ (perm_append_right_iff (history.step config input).pending)
    exact ⟨waited.symm.trans,waited.trans⟩

theorem kept_step (accounted : history.Accounted) (received : input.received = none)
    (inflight : (history.forwarded config input).map Forwarding.entry =
      (history.entity.rcv config input).2.acmp.inflight)
    (records : ∀ forwarding, forwarding ∈ history.forwarded config input → Records forwarding)
    (kept : (history.forwarded config input).filterMap Forwarding.origin = history.pending) :
    (history.step config input).Recorded ∧
      ((history.step config input).Accounted ↔ history.answered config input = []) := by
  have pending : (history.step config input).pending = history.pending := kept
  refine ⟨⟨inflight,records⟩,?_⟩
  rw [accounted_iff accounted,received,toList_none,pending,perm_append_right_iff]
  exact nil_perm

end Accounts

section Step
variable {config : IeeeEntityConfig} {history : AcmpHistory} {pdu : AcmpPdu}

private theorem quiet_step (recorded : history.Recorded) (accounted : history.Accounted) {input : IeeeEntityInput}
    (inflight : (history.entity.rcv config input).2.acmp.inflight = history.entity.acmp.inflight)
    (forwards : history.forwarded config input =
      ((history.entity.rcv config input).2.acmp.inflight.take
        ((history.entity.rcv config input).2.acmp.inflight.length - history.forwardings.length)).map
          (⟨·,input.received⟩) ++ history.forwardings)
    (answers : history.answered config input = input.received.toList) :
    (history.step config input).Recorded ∧ (history.step config input).Accounted := by
  have grows : Grows input.received history.entity (history.entity.rcv config input).2 [] :=
    ⟨inflight,fun _ member => absurd member not_mem_nil⟩
  obtain ⟨next,iff⟩ := grown_step recorded accounted grows (forwards.trans (grown_forwardings recorded grows))
  refine ⟨next,iff.mpr ?_⟩
  rw [answers]
  exact .of_eq (append_nil _).symm

private theorem rcv_unknown {input : ListenerInput} (message : input.message = some pdu)
    (unknown : ¬pdu.listenerUniqueId.toNat < config.maxListenerStreams) :
    history.entity.rcv config (.listener input) =
      (input.command.toList.map fun type =>
        .response type .listenerUnknownId {acmpNetTxInit pdu with sequenceId := pdu.sequenceId},history.entity) := by
  show history.entity.listenerRcv config input = _
  unfold listenerRcv
  rw [message]
  exact if_neg unknown

private theorem rcv_known {input : ListenerInput} (message : input.message = some pdu)
    (valid : pdu.listenerUniqueId.toNat < config.maxListenerStreams) :
    (history.entity.rcv config (.listener input)).2.acmp =
        ((history.entity.listener pdu.listenerUniqueId.toNat).rcv input).2.acmp ∧
      history.answered config (.listener input) =
        ((history.entity.listener pdu.listenerUniqueId.toNat).rcv input).1.toList.filterMap answers := by
  unfold answered
  rw [rcv]
  unfold listenerRcv
  rw [message]
  dsimp only
  rw [if_pos valid]
  exact ⟨rfl,filterMap_map ..⟩

private theorem rcv_timer {input : ListenerInput} (message : input.message = none) :
    (history.entity.rcv config (.listener input)).2.acmp = ((history.entity.listener 0).rcv input).2.acmp ∧
      history.answered config (.listener input) =
        ((history.entity.listener 0).rcv input).1.toList.filterMap answers := by
  unfold answered
  rw [rcv]
  unfold listenerRcv
  rw [message]
  exact ⟨rfl,filterMap_map ..⟩

section
variable (recorded : history.Recorded)
include recorded

section
variable (accounted : history.Accounted)
include accounted

private theorem forwarded_step {input : IeeeEntityInput} (msgType : InflightCommand) (acmpCmd : AcmpPdu) {ticket : AcmpTicket}
    (acmp : (history.entity.rcv config input).2.acmp =
      (history.entity.acmp.acmpSendCmd msgType ticket.sequenceId acmpCmd).2)
    (forwards : history.forwarded config input =
      ((history.entity.rcv config input).2.acmp.inflight.take
        ((history.entity.rcv config input).2.acmp.inflight.length - history.forwardings.length)).map
          (⟨·,input.received⟩) ++ history.forwardings)
    (received : input.received = some ticket) (type : msgType.forwards = some ticket.type)
    (controller : acmpCmd.controllerEntityId = ticket.controllerEntityId)
    (silent : history.answered config input = []) :
    (history.step config input).Recorded ∧
      ((history.step config input).Accounted ↔ history.entity.acmp.freeInflight ≠ 0) := by
  by_cases room : history.entity.acmp.freeInflight = 0
  · have grows : Grows input.received history.entity (history.entity.rcv config input).2 [] := by
      refine ⟨?_,fun _ member => absurd member not_mem_nil⟩
      rw [acmp]
      unfold acmpSendCmd
      rw [room]
      rfl
    obtain ⟨next,iff⟩ := grown_step recorded accounted grows (forwards.trans (grown_forwardings recorded grows))
    refine ⟨next,iff.trans (iff_of_false ?_ fun free => absurd room free)⟩
    rw [silent,received]
    intro answered
    cases answered.length_eq
  · have grows : Grows input.received history.entity (history.entity.rcv config input).2
        [⟨msgType,false,history.entity.acmp.sequenceId,ticket.sequenceId,
          {acmpCmd with sequenceId := history.entity.acmp.sequenceId}⟩] := by
      refine ⟨?_,fun entry member => ?_⟩
      · rw [acmp,acmpSendCmd_room room]
        rfl
      · obtain rfl := mem_singleton.mp member
        refine ⟨rfl,fun other same => ?_,fun none => ?_⟩
        · cases received.symm.trans same
          exact ⟨type,rfl,controller⟩
        · cases received.symm.trans none
    obtain ⟨next,iff⟩ := grown_step recorded accounted grows (forwards.trans (grown_forwardings recorded grows))
    refine ⟨next,iff.trans (iff_of_true ?_ room)⟩
    rw [silent,received]
    exact .refl _

theorem connectRx_step :
    (history.step config (.listener (.connectRxCommand pdu))).Recorded ∧
      ((history.step config (.listener (.connectRxCommand pdu))).Accounted ↔
        history.Attended config (.listener (.connectRxCommand pdu))) := by
  by_cases valid : pdu.listenerUniqueId.toNat < config.maxListenerStreams
  · obtain ⟨acmp,answers⟩ := @rcv_known config history pdu (.connectRxCommand pdu) rfl valid
    cases connected : (history.entity.listener pdu.listenerUniqueId.toNat).info.listenerConnected pdu with
    | true =>
      rw [IeeeListener.rcv_connectRx_exclusive connected] at acmp answers
      obtain ⟨next,holds⟩ := quiet_step recorded accounted (congrArg inflight acmp) rfl answers
      exact ⟨next,iff_of_true holds fun _ apart => Bool.noConfusion (connected.symm.trans apart)⟩
    | false =>
      obtain ⟨sends,_,sent⟩ := IeeeListener.rcv_connectRx connected
      rw [sent] at answers
      obtain ⟨next,iff⟩ := forwarded_step recorded accounted .connectTx {acmpNetTxInit pdu with flags := pdu.flags}
        (acmp.trans sends) rfl rfl rfl rfl answers
      exact ⟨next,iff.trans ⟨fun room _ _ => room,fun attended => attended valid connected⟩⟩
  · have rcv := @rcv_unknown config history pdu (.connectRxCommand pdu) rfl valid
    obtain ⟨next,holds⟩ := quiet_step recorded accounted (congrArg (·.2.acmp.inflight) rcv) rfl
      (congrArg (·.1.filterMap AcmpSent.answers) rcv)
    exact ⟨next,iff_of_true holds fun known => absurd known valid⟩

theorem disconnectRx_step {stackDisconnect : Bool} :
    (history.step config (.listener (.disconnectRxCommand pdu stackDisconnect))).Recorded ∧
      ((history.step config (.listener (.disconnectRxCommand pdu stackDisconnect))).Accounted ↔
        history.Attended config (.listener (.disconnectRxCommand pdu stackDisconnect))) := by
  by_cases valid : pdu.listenerUniqueId.toNat < config.maxListenerStreams
  · obtain ⟨acmp,answers⟩ := @rcv_known config history pdu (.disconnectRxCommand pdu stackDisconnect) rfl valid
    by_cases forwards : (history.entity.listener pdu.listenerUniqueId.toNat).info.listenerConnectedTo pdu = true ∧
      stackDisconnect = true
    · obtain ⟨connected,rfl⟩ := forwards
      obtain ⟨sends,_,sent⟩ := IeeeListener.rcv_disconnectRx connected
      rw [sent] at answers
      obtain ⟨next,iff⟩ := forwarded_step recorded accounted .disconnectTx {acmpNetTxInit pdu with flags := pdu.flags}
        (acmp.trans sends) rfl rfl rfl rfl answers
      exact ⟨next,iff.trans ⟨fun room _ _ _ => room,fun attended => attended valid connected rfl⟩⟩
    · obtain ⟨same,_,sent⟩ := IeeeListener.rcv_disconnectRx_answered fun connected =>
        Bool.eq_false_iff.mpr fun success => forwards ⟨connected,success⟩
      rw [sent] at answers
      obtain ⟨next,holds⟩ := quiet_step recorded accounted (congrArg inflight (acmp.trans same)) rfl answers
      exact ⟨next,iff_of_true holds fun _ connected success => absurd ⟨connected,success⟩ forwards⟩
  · have rcv := @rcv_unknown config history pdu (.disconnectRxCommand pdu stackDisconnect) rfl valid
    obtain ⟨next,holds⟩ := quiet_step recorded accounted (congrArg (·.2.acmp.inflight) rcv) rfl
      (congrArg (·.1.filterMap AcmpSent.answers) rcv)
    exact ⟨next,iff_of_true holds fun known => absurd known valid⟩

theorem getRxState_step :
    (history.step config (.listener (.getRxStateCommand pdu))).Recorded ∧
      (history.step config (.listener (.getRxStateCommand pdu))).Accounted := by
  by_cases valid : pdu.listenerUniqueId.toNat < config.maxListenerStreams
  · obtain ⟨acmp,answers⟩ := @rcv_known config history pdu (.getRxStateCommand pdu) rfl valid
    exact quiet_step recorded accounted (congrArg inflight acmp) rfl answers
  · have rcv := @rcv_unknown config history pdu (.getRxStateCommand pdu) rfl valid
    exact quiet_step recorded accounted (congrArg (·.2.acmp.inflight) rcv) rfl
      (congrArg (·.1.filterMap AcmpSent.answers) rcv)

end

theorem find_entry (sequenceId : UInt16) :
    history.entity.acmp.inflightFind sequenceId = (history.find sequenceId).map Forwarding.entry := by
  unfold inflightFind find
  rw [← recorded.inflight,List.find?_map]
  rfl

theorem cancelled_entries (sequenceId : UInt16) :
    (history.cancelled sequenceId).map Forwarding.entry = (history.entity.acmp.inflightCancel sequenceId).inflight := by
  have erased : (history.cancelled sequenceId).map Forwarding.entry =
      history.entity.acmp.inflight.eraseP (·.sequenceId = sequenceId) := by
    rw [← recorded.inflight,eraseP_map]
    rfl
  rw [erased]
  unfold inflightCancel
  split
  next none =>
    apply eraseP_of_forall_not
    exact List.find?_eq_none.mp none
  · rfl

private theorem cancel_step (accounted : history.Accounted) {input : IeeeEntityInput}
    {sequenceId : UInt16} (received : input.received = none)
    (acmp : (history.entity.rcv config input).2.acmp = history.entity.acmp.inflightCancel sequenceId)
    (forwards : history.forwarded config input = history.cancelled sequenceId) :
    (history.step config input).Recorded ∧ ((history.step config input).Accounted ↔
      ((history.find sequenceId).bind Forwarding.origin).toList.Perm (history.answered config input)) := by
  have inflight : (history.forwarded config input).map Forwarding.entry =
      (history.entity.rcv config input).2.acmp.inflight := by
    rw [forwards,acmp]
    exact cancelled_entries recorded sequenceId
  cases found : history.find sequenceId with
  | none =>
    have same : history.forwarded config input = history.forwardings := by
      rw [forwards]
      apply eraseP_of_forall_not
      exact List.find?_eq_none.mp found
    obtain ⟨next,iff⟩ := kept_step accounted received inflight (by rw [same]; exact recorded.records)
      (by rw [same]; rfl)
    exact ⟨next,iff.trans nil_perm.symm⟩
  | some forwarding =>
    have taken : history.forwardings.Perm (forwarding :: history.forwarded config input) := by
      rw [forwards]
      exact perm_eraseP found
    exact taken_step recorded accounted received inflight taken

private theorem expected_iff (type : AcmpCommand) :
    ((history.find pdu.sequenceId).bind Forwarding.origin).toList.Perm
      [⟨type,pdu.controllerEntityId,(history.entity.acmp.inflightFind pdu.sequenceId).elim 0 (·.origSeqId)⟩] ↔
    history.Expected type pdu := by
  rw [perm_singleton,find_entry recorded]
  unfold Expected
  cases found : history.find pdu.sequenceId with
  | none =>
    refine iff_of_false (fun answers => ?_) fun expected => ?_
    · cases answers
    · obtain ⟨_,_,present,_⟩ := expected
      cases present
  | some forwarding =>
    have records := recorded.records forwarding (mem_of_find?_eq_some found)
    constructor
    · intro answers
      cases origin : forwarding.origin with
      | none =>
        rw [bind_some,origin] at answers
        cases answers
      | some ticket =>
        rw [bind_some,origin] at answers
        obtain rfl := singleton_inj.mp answers
        exact ⟨forwarding,_,rfl,origin,rfl,rfl⟩
    · rintro ⟨_,ticket,same,origin,rfl,controller⟩
      obtain rfl := Option.some.inj same
      have sequenceId : forwarding.entry.origSeqId = ticket.sequenceId := (records.origin ticket origin).2.1
      rw [bind_some,origin,← controller]
      show [ticket] = [⟨ticket.type,ticket.controllerEntityId,forwarding.entry.origSeqId⟩]
      rw [sequenceId]

end

private theorem unexpected_iff {sequenceId : UInt16} :
    ((history.find sequenceId).bind Forwarding.origin).toList.Perm [] ↔
      ∀ forwarding, history.find sequenceId = some forwarding → forwarding.origin = none := by
  rw [perm_nil,toList_eq_nil_iff,bind_eq_none_iff]

section
variable (recorded : history.Recorded)
include recorded

variable (accounted : history.Accounted)
include accounted

private theorem ignored_step {input : ListenerInput}
    (message : input.message = some pdu) (unknown : ¬pdu.listenerUniqueId.toNat < config.maxListenerStreams)
    (response : input.command = none) (received : IeeeEntityInput.received (.listener input) = none)
    (same : history.forwarded config (.listener input) = history.forwardings) :
    (history.step config (.listener input)).Recorded ∧ (history.step config (.listener input)).Accounted := by
  have rcv := @rcv_unknown config history pdu input message unknown
  rw [response] at rcv
  have silent : history.answered config (.listener input) = [] := congrArg (·.1.filterMap AcmpSent.answers) rcv
  obtain ⟨next,iff⟩ := kept_step accounted received (by rw [same,rcv]; exact recorded.inflight)
    (by rw [same]; exact recorded.records) (by rw [same]; rfl)
  exact ⟨next,iff.mpr silent⟩

theorem connectTxResponse_step {status : AcmpStatus} {stackConnect : Bool} :
    (history.step config (.listener (.connectTxResponse pdu status stackConnect))).Recorded ∧
      ((history.step config (.listener (.connectTxResponse pdu status stackConnect))).Accounted ↔
        history.Attended config (.listener (.connectTxResponse pdu status stackConnect))) := by
  by_cases valid : pdu.listenerUniqueId.toNat < config.maxListenerStreams
  · obtain ⟨acmp,answers⟩ := @rcv_known config history pdu (.connectTxResponse pdu status stackConnect) rfl valid
    rw [IeeeListener.rcvConnectTxResponse_sent] at answers
    have cancels : (history.entity.rcv config (.listener (.connectTxResponse pdu status stackConnect))).2.acmp =
        history.entity.acmp.inflightCancel pdu.sequenceId := acmp
    obtain ⟨next,iff⟩ := cancel_step recorded accounted rfl cancels (if_pos valid)
    refine ⟨next,iff.trans ?_⟩
    apply Iff.trans _ (forall_prop_of_true valid).symm
    rw [answers]
    cases fast : (history.entity.streamInputs pdu.listenerUniqueId.toNat).info.fastConnect with
    | true =>
      rw [if_pos (by exact fast)]
      exact unexpected_iff
    | false =>
      rw [if_neg (by exact Bool.eq_false_iff.mp fast)]
      exact expected_iff recorded .connectRx
  · obtain ⟨next,holds⟩ := @ignored_step config history pdu recorded accounted (.connectTxResponse pdu status stackConnect)
      rfl valid rfl rfl (if_neg valid)
    exact ⟨next,iff_of_true holds fun known => absurd known valid⟩

theorem disconnectTxResponse_step {status : AcmpStatus} :
    (history.step config (.listener (.disconnectTxResponse pdu status))).Recorded ∧
      ((history.step config (.listener (.disconnectTxResponse pdu status))).Accounted ↔
        history.Attended config (.listener (.disconnectTxResponse pdu status))) := by
  by_cases valid : pdu.listenerUniqueId.toNat < config.maxListenerStreams
  · obtain ⟨acmp,answers⟩ := @rcv_known config history pdu (.disconnectTxResponse pdu status) rfl valid
    rw [IeeeListener.rcvDisconnectTxResponse_sent] at answers
    have cancels : (history.entity.rcv config (.listener (.disconnectTxResponse pdu status))).2.acmp =
        history.entity.acmp.inflightCancel pdu.sequenceId := acmp
    obtain ⟨next,iff⟩ := cancel_step recorded accounted rfl cancels (if_pos valid)
    refine ⟨next,iff.trans ?_⟩
    apply Iff.trans _ (forall_prop_of_true valid).symm
    rw [answers]
    exact expected_iff recorded .disconnectRx
  · obtain ⟨next,holds⟩ := @ignored_step config history pdu recorded accounted (.disconnectTxResponse pdu status)
      rfl valid rfl rfl (if_neg valid)
    exact ⟨next,iff_of_true holds fun known => absurd known valid⟩

theorem controllerResponse_step :
    (history.step config (.listener (.controllerResponse pdu))).Recorded ∧
      ((history.step config (.listener (.controllerResponse pdu))).Accounted ↔
        history.Attended config (.listener (.controllerResponse pdu))) := by
  obtain ⟨acmp,answers⟩ := @rcv_timer config history (.controllerResponse pdu) rfl
  have cancels : (history.entity.rcv config (.listener (.controllerResponse pdu))).2.acmp =
      history.entity.acmp.inflightCancel pdu.sequenceId := acmp
  have silent : history.answered config (.listener (.controllerResponse pdu)) = [] := answers
  obtain ⟨next,iff⟩ := cancel_step recorded accounted rfl cancels rfl
  refine ⟨next,iff.trans ?_⟩
  exact unexpected_iff

end

private theorem map_modify {α β : Type} {read : α → β} {change : α → α} {after : β → β}
    (same : ∀ item, read (change item) = after (read item)) (items : List α) (index : Nat) :
    (items.modify index change).map read = (items.map read).modify index after := by
  apply ext_getElem?
  intro position
  rw [List.getElem?_map,List.getElem?_modify,List.getElem?_modify,List.getElem?_map]
  cases items[position]? with
  | none => rfl
  | some item =>
    by_cases here : index = position
    · simp [here,same]
    · simp [here]

theorem inflightTimeout_step {index : Nat} (recorded : history.Recorded) (accounted : history.Accounted) :
    (history.step config (.listener (.inflightTimeout index))).Recorded ∧
      ((history.step config (.listener (.inflightTimeout index))).Accounted ↔
        history.Attended config (.listener (.inflightTimeout index))) := by
  obtain ⟨acmp,answers⟩ := @rcv_timer config history (.inflightTimeout index) rfl
  have entries : (history.entity.listener 0).acmp.inflight[index]? = history.forwardings[index]?.map Forwarding.entry := by
    rw [← List.getElem?_map,recorded.inflight]
    rfl
  cases found : history.forwardings[index]? with
  | none =>
    rw [found] at entries
    rw [IeeeListener.inflightTimeout_missing entries] at acmp answers
    have same : history.forwarded config (.listener (.inflightTimeout index)) = history.forwardings := by
      unfold forwarded
      dsimp only
      rw [found]
    obtain ⟨next,iff⟩ := kept_step accounted rfl (by rw [same,acmp]; exact recorded.inflight)
      (by rw [same]; exact recorded.records) (by rw [same]; rfl)
    refine ⟨next,iff.trans (iff_of_true answers ?_)⟩
    intro forwarding _ here
    cases found.symm.trans here
  | some forwarding =>
    rw [found] at entries
    have member := mem_of_getElem? found
    have records := recorded.records forwarding member
    cases retried : forwarding.entry.retried with
    | false =>
      obtain ⟨sends,silent⟩ := IeeeListener.inflightTimeout_retry entries retried
      have retry : history.forwarded config (.listener (.inflightTimeout index)) =
          history.forwardings.modify index Forwarding.retry := by
        unfold forwarded
        dsimp only
        rw [found]
        dsimp only
        rw [retried]
        rfl
      have inflight : (history.forwarded config (.listener (.inflightTimeout index))).map Forwarding.entry =
          (history.entity.rcv config (.listener (.inflightTimeout index))).2.acmp.inflight := by
        rw [retry,acmp,sends,@map_modify _ _ Forwarding.entry Forwarding.retry ({· with retried := true}) fun _ => rfl,
          recorded.inflight]
        rfl
      have records : ∀ other, other ∈ history.forwarded config (.listener (.inflightTimeout index)) → Records other := by
        rw [retry]
        intro other inside
        obtain ⟨position,at'⟩ := mem_iff_getElem?.mp inside
        rw [List.getElem?_modify] at at'
        obtain ⟨old,present,rfl⟩ := map_eq_some_iff.mp at'
        have own := recorded.records old (mem_of_getElem? present)
        split
        · exact {own with}
        · exact own
      have kept : (history.forwarded config (.listener (.inflightTimeout index))).filterMap Forwarding.origin =
          history.pending := by
        have origins : (history.forwardings.modify index Forwarding.retry).map Forwarding.origin =
            history.forwardings.map Forwarding.origin := by
          rw [@map_modify _ _ Forwarding.origin Forwarding.retry id fun _ => rfl]
          exact modify_id ..
        have waits := congrArg (List.filterMap id) origins
        rw [filterMap_map,filterMap_map] at waits
        rw [retry]
        exact waits
      obtain ⟨next,iff⟩ := kept_step accounted rfl inflight records kept
      refine ⟨next,iff.trans (iff_of_true (answers.trans silent) ?_)⟩
      intro other _ here again
      cases found.symm.trans here
      cases retried.symm.trans again
    | true =>
      obtain ⟨sends,sent⟩ := IeeeListener.inflightTimeout_last entries retried
      rw [sent] at answers
      have expires : history.forwarded config (.listener (.inflightTimeout index)) =
          history.forwardings.eraseIdx index := by
        unfold forwarded
        dsimp only
        rw [found]
        dsimp only
        rw [retried]
        rfl
      have taken : history.forwardings.Perm
          (forwarding :: history.forwarded config (.listener (.inflightTimeout index))) := by
        obtain ⟨inside,here⟩ := List.getElem?_eq_some_iff.mp found
        rw [expires,← here]
        exact (getElem_cons_eraseIdx_perm inside).symm
      have inflight : (history.forwarded config (.listener (.inflightTimeout index))).map Forwarding.entry =
          (history.entity.rcv config (.listener (.inflightTimeout index))).2.acmp.inflight := by
        rw [expires,acmp,sends,← eraseIdx_map,recorded.inflight]
        rfl
      obtain ⟨next,iff⟩ := taken_step recorded accounted rfl inflight taken
      refine ⟨next,iff.trans ?_⟩
      rw [answers]
      cases origin : forwarding.origin with
      | none =>
        refine iff_of_true ?_ ?_
        · split
          · exact .refl _
          next slow =>
            have controller : forwarding.entry.msgType = .controller :=
              Decidable.by_contra fun own => slow (records.own origin own)
            rw [controller]
            exact .refl _
        · intro other _ here _ owed
          cases found.symm.trans here
          cases origin.symm.trans owed
      | some ticket =>
        obtain ⟨type,_,controller⟩ := records.origin ticket origin
        have attended : history.Attended config (.listener (.inflightTimeout index)) ↔
            forwarding.entry.pdu.flags &&& ACMP_FLAG_FAST_CONNECT = 0 ∧
              forwarding.entry.sequenceId = ticket.sequenceId := by
          refine ⟨fun attended => attended forwarding ticket found retried origin,fun holds other wanted here _ owed => ?_⟩
          cases found.symm.trans here
          cases origin.symm.trans owed
          exact holds
        rw [attended]
        split
        next fast =>
          refine iff_of_false (fun answered => ?_) fun holds => fast holds.1
          cases answered.length_eq
        next slow =>
          rw [type,controller,records.sequenceId]
          show [ticket].Perm [⟨ticket.type,ticket.controllerEntityId,forwarding.entry.sequenceId⟩] ↔ _
          rw [perm_singleton]
          constructor
          · intro same
            exact ⟨Decidable.not_not.mp slow,(congrArg AcmpTicket.sequenceId (singleton_inj.mp same)).symm⟩
          · rintro ⟨_,same⟩
            rw [same]

private theorem own_step (recorded : history.Recorded) (accounted : history.Accounted) {input : IeeeEntityInput}
    {news : List InflightCtx} (received : input.received = none)
    (grows : Grows none history.entity (history.entity.rcv config input).2 news)
    (forwards : history.forwarded config input =
      ((history.entity.rcv config input).2.acmp.inflight.take
        ((history.entity.rcv config input).2.acmp.inflight.length - history.forwardings.length)).map
          (⟨·,input.received⟩) ++ history.forwardings) (silent : history.answered config input = []) :
    (history.step config input).Recorded ∧ (history.step config input).Accounted := by
  rw [← received] at grows
  obtain ⟨next,iff⟩ := grown_step recorded accounted grows (forwards.trans (grown_forwardings recorded grows))
  have unowed : (news.flatMap fun _ => input.received.toList) = [] := by
    rw [received]
    exact flatMap_eq_nil_iff.mpr fun _ _ => rfl
  refine ⟨next,iff.mpr ?_⟩
  rw [silent,unowed,received]
  exact .refl _

private theorem sends_grow {entity next : IeeeEntity} {msgType : InflightCommand} {origSeqId : UInt16} {acmpCmd : AcmpPdu}
    (acmp : next.acmp = (entity.acmp.acmpSendCmd msgType origSeqId acmpCmd).2)
    (own : Records ⟨⟨msgType,false,entity.acmp.sequenceId,origSeqId,
      {acmpCmd with sequenceId := entity.acmp.sequenceId}⟩,none⟩) : ∃ news, Grows none entity next news := by
  by_cases room : entity.acmp.freeInflight = 0
  · refine ⟨[],?_,fun _ member => absurd member not_mem_nil⟩
    rw [acmp]
    unfold acmpSendCmd
    rw [room]
    rfl
  · refine ⟨[⟨msgType,false,entity.acmp.sequenceId,origSeqId,{acmpCmd with sequenceId := entity.acmp.sequenceId}⟩],
      ?_,fun entry member => ?_⟩
    · rw [acmp,acmpSendCmd_room room]
      rfl
    · obtain rfl := mem_singleton.mp member
      exact own

theorem controllerCommand_step (recorded : history.Recorded) (accounted : history.Accounted) :
    (history.step config (.listener (.controllerCommand pdu))).Recorded ∧
      (history.step config (.listener (.controllerCommand pdu))).Accounted := by
  obtain ⟨acmp,answers⟩ := @rcv_timer config history (.controllerCommand pdu) rfl
  have sends : (history.entity.rcv config (.listener (.controllerCommand pdu))).2.acmp =
      (history.entity.acmp.acmpSendCmd .controller history.entity.acmp.sequenceId pdu).2 := acmp
  obtain ⟨news,grows⟩ := sends_grow sends ⟨rfl,fun _ none => (nomatch none),fun _ own => absurd rfl own⟩
  exact own_step recorded accounted rfl grows rfl answers

theorem talker_step {message : TalkerMessage} {calls : StackCalls} (recorded : history.Recorded)
    (accounted : history.Accounted) : (history.step config (.talker message pdu calls)).Recorded ∧
      (history.step config (.talker message pdu calls)).Accounted := by
  have controller (talker next : IeeeTalker) :
      (message.response pdu talker next).controllerEntityId = pdu.controllerEntityId ∧
        (message.response pdu talker next).sequenceId = pdu.sequenceId := by
    have copies (acmpRsp : AcmpPdu) (talker : IeeeTalker) :
        (talker.copyStreamInfo acmpRsp).controllerEntityId = acmpRsp.controllerEntityId ∧
          (talker.copyStreamInfo acmpRsp).sequenceId = acmpRsp.sequenceId := by
      unfold IeeeTalker.copyStreamInfo
      split
      · exact ⟨rfl,rfl⟩
      · exact ⟨rfl,rfl⟩
    unfold TalkerMessage.response
    cases message with
    | connectTx | getTxState => exact copies _ _
    | disconnectTx =>
      dsimp only
      split
      · exact copies _ _
      · exact ⟨rfl,rfl⟩
    | getTxConnection =>
      dsimp only
      split
      · split
        · exact copies _ _
        · exact ⟨rfl,rfl⟩
      · exact ⟨rfl,rfl⟩
  have rcv : (history.entity.rcv config (.talker message pdu calls)).2.acmp = history.entity.acmp ∧
      history.answered config (.talker message pdu calls) =
        [⟨message.command,pdu.controllerEntityId,pdu.sequenceId⟩] := by
    have talker : history.entity.rcv config (.talker message pdu calls) =
      history.entity.talkerRcv config message pdu calls := rfl
    unfold answered
    rw [talker]
    unfold talkerRcv
    dsimp only
    split
    · refine ⟨rfl,?_⟩
      rw [← (controller _ _).1,← (controller _ _).2]
      rfl
    · exact ⟨rfl,rfl⟩
  exact quiet_step recorded accounted (congrArg inflight rcv.1) rfl rcv.2

end Step

section FastConnect
variable {config : IeeeEntityConfig} {history : AcmpHistory}

theorem Grows.refl (origin : Option AcmpTicket) (entity : IeeeEntity) : Grows origin entity entity [] :=
  ⟨rfl,fun _ member => absurd member not_mem_nil⟩

theorem Grows.trans {origin : Option AcmpTicket} {entity next last : IeeeEntity} {news more : List InflightCtx}
    (first : Grows origin entity next news) (second : Grows origin next last more) :
    Grows origin entity last (more ++ news) := by
  constructor
  · rw [second.inflight,first.inflight,append_assoc]
  · intro entry member
    obtain late | early := mem_append.mp member
    · exact second.records entry late
    · exact first.records entry early

theorem fastConnect_grows (entityId : UInt64) (portId index : Nat) (entity : IeeeEntity) :
    (∃ news, Grows none entity (entity.fastConnect config entityId portId index).2 news) ∧
      (entity.fastConnect config entityId portId index).1.filterMap AcmpSent.answers = [] := by
  have flagged (flags : UInt16) : (flags ||| ACMP_FLAG_FAST_CONNECT) &&& ACMP_FLAG_FAST_CONNECT ≠ 0 := by
    intro none
    have bit := congrArg (·.toBitVec.getLsbD 1) none
    simp [ACMP_FLAG_FAST_CONNECT] at bit
  unfold fastConnect
  dsimp only
  split
  · exact ⟨sends_grow rfl ⟨rfl,fun _ none => (nomatch none),fun _ _ => flagged _⟩,rfl⟩
  · exact ⟨⟨[],.refl _ _⟩,rfl⟩

theorem fastConnects_grow (entityId : UInt64) (portId : Nat) (streams : List Nat) (sent : List AcmpSent)
    (entity : IeeeEntity) (silent : sent.filterMap AcmpSent.answers = []) :
    let after := streams.foldl (fun (sent,entity) index =>
      let (more,next) := fastConnect config entityId portId index entity
      (sent ++ more,next)) (sent,entity)
    (∃ news, Grows none entity after.2 news) ∧ after.1.filterMap AcmpSent.answers = [] := by
  induction streams generalizing sent entity with
  | nil => exact ⟨⟨[],.refl _ _⟩,silent⟩
  | cons index rest ih =>
    obtain ⟨⟨news,grows⟩,quiet⟩ := @fastConnect_grows config entityId portId index entity
    have both : (sent ++ (entity.fastConnect config entityId portId index).1).filterMap AcmpSent.answers = [] := by
      rw [filterMap_append,silent,quiet]
      rfl
    obtain ⟨⟨more,next⟩,done⟩ := ih _ (entity.fastConnect config entityId portId index).2 both
    exact ⟨⟨more ++ news,grows.trans next⟩,done⟩

private theorem foldl_acmp {step : IeeeEntity → Nat → IeeeEntity} (same : ∀ entity index, (step entity index).acmp = entity.acmp)
    (streams : List Nat) (entity : IeeeEntity) : (streams.foldl step entity).acmp = entity.acmp := by
  induction streams generalizing entity with
  | nil => rfl
  | cons index rest ih => exact (ih _).trans (same _ _)

private theorem step_iff (recorded : history.Recorded) (accounted : history.Accounted) (input : IeeeEntityInput) :
    (history.step config input).Recorded ∧
      ((history.step config input).Accounted ↔ history.Attended config input) := by
  cases input with
  | listener input =>
    cases input with
    | connectRxCommand pdu => exact connectRx_step recorded accounted
    | connectTxResponse pdu status stackConnect => exact connectTxResponse_step recorded accounted
    | disconnectRxCommand pdu stackDisconnect => exact disconnectRx_step recorded accounted
    | disconnectTxResponse pdu status => exact disconnectTxResponse_step recorded accounted
    | getRxStateCommand pdu =>
      obtain ⟨next,holds⟩ := @getRxState_step config history pdu recorded accounted
      exact ⟨next,iff_of_true holds trivial⟩
    | inflightTimeout index => exact inflightTimeout_step recorded accounted
    | controllerCommand pdu =>
      obtain ⟨next,holds⟩ := @controllerCommand_step config history pdu recorded accounted
      exact ⟨next,iff_of_true holds trivial⟩
    | controllerResponse pdu => exact controllerResponse_step recorded accounted
  | talker message pdu calls =>
    obtain ⟨next,holds⟩ := @talker_step config history pdu message calls recorded accounted
    exact ⟨next,iff_of_true holds trivial⟩
  | fastConnectBtb entityId portId =>
    have acmp : (history.entity.rcv config (.fastConnectBtb entityId portId)).2.acmp = history.entity.acmp := by
      unfold rcv
      dsimp only
      split
      · apply foldl_acmp
        intro entity index
        unfold fastConnectBtb
        dsimp only
        split
        · rfl
        · rfl
      · rfl
    obtain ⟨next,holds⟩ := quiet_step recorded accounted (congrArg inflight acmp) rfl rfl
    exact ⟨next,iff_of_true holds trivial⟩
  | fastConnect entityId portId =>
    have grows : (∃ news, Grows none history.entity (history.entity.rcv config (.fastConnect entityId portId)).2 news) ∧
        history.answered config (.fastConnect entityId portId) = [] := by
      unfold answered rcv
      dsimp only
      split
      · exact fastConnects_grow entityId portId _ [] history.entity rfl
      · exact ⟨⟨[],.refl _ _⟩,rfl⟩
    obtain ⟨⟨news,grows⟩,silent⟩ := grows
    obtain ⟨next,holds⟩ := own_step recorded accounted rfl grows rfl silent
    exact ⟨next,iff_of_true holds trivial⟩
  | talkerLeft entityId stackDisconnect =>
    have acmp : (history.entity.rcv config (.talkerLeft entityId stackDisconnect)).2.acmp = history.entity.acmp := by
      unfold rcv
      dsimp only
      split
      · apply foldl_acmp
        intro entity index
        unfold talkerLeft
        dsimp only
        split
        · rfl
        · rfl
      · rfl
    obtain ⟨next,holds⟩ := quiet_step recorded accounted (congrArg inflight acmp) rfl rfl
    exact ⟨next,iff_of_true holds trivial⟩
  | aecpInflightGet =>
    have quiet : (history.entity.rcv config .aecpInflightGet).2.acmp.inflight = history.entity.acmp.inflight ∧
        history.answered config .aecpInflightGet = [] := by
      unfold answered rcv
      dsimp only
      split
      · exact ⟨rfl,rfl⟩
      · exact ⟨rfl,rfl⟩
    obtain ⟨next,holds⟩ := quiet_step recorded accounted quiet.1 rfl quiet.2
    exact ⟨next,iff_of_true holds trivial⟩
  | aecpInflightRemove =>
    have quiet : (history.entity.rcv config .aecpInflightRemove).2.acmp.inflight = history.entity.acmp.inflight ∧
        history.answered config .aecpInflightRemove = [] := by
      unfold answered rcv
      dsimp only
      split
      · exact ⟨rfl,rfl⟩
      · exact ⟨rfl,rfl⟩
    obtain ⟨next,holds⟩ := quiet_step recorded accounted quiet.1 rfl quiet.2
    exact ⟨next,iff_of_true holds trivial⟩

end FastConnect

section Expiries
variable {config : IeeeEntityConfig}

def expiries (history : AcmpHistory) : Nat := (history.forwardings.map Forwarding.expiries).sum

theorem expiries_le (history : AcmpHistory) : history.expiries ≤ 2 * history.forwardings.length := by
  unfold expiries
  induction history.forwardings with
  | nil => exact Nat.le_refl _
  | cons forwarding rest ih =>
    have each : forwarding.expiries ≤ 2 := by
      unfold Forwarding.expiries
      split <;> omega
    rw [map_cons,sum_cons,length_cons]
    omega

theorem expiries_step (history : AcmpHistory) :
    (history.step config (.listener (.inflightTimeout 0))).expiries = history.expiries - 1 := by
  have after : (history.step config (.listener (.inflightTimeout 0))).forwardings =
      history.forwarded config (.listener (.inflightTimeout 0)) := rfl
  unfold expiries
  rw [after]
  unfold forwarded
  cases history.forwardings with
  | nil => rfl
  | cons forwarding rest =>
    rw [map_cons,sum_cons]
    dsimp only [List.getElem?_cons_zero]
    cases retried : forwarding.entry.retried with
    | true =>
      have one : forwarding.expiries = 1 := if_pos retried
      rw [one,Nat.add_sub_cancel_left]
      rfl
    | false =>
      have two : forwarding.expiries = 2 := if_neg (Bool.eq_false_iff.mp retried)
      show 1 + (rest.map Forwarding.expiries).sum = _
      omega

theorem expired_quiet (history : AcmpHistory) : (run (step config)
    (List.replicate (2 * history.forwardings.length) (.listener (.inflightTimeout 0))) history).pending = [] := by
  have left (count : Nat) : (run (step config) (List.replicate count (.listener (.inflightTimeout 0))) history).expiries =
      history.expiries - count := by
    induction count with
    | zero => rfl
    | succ count ih => rw [replicate_succ',run_append,run_cons,run_nil,expiries_step,ih,Nat.sub_sub]
  have bound := history.expiries_le
  specialize left (2 * history.forwardings.length)
  rw [Nat.sub_eq_zero_of_le bound] at left
  generalize run (step config) _ history = last at left
  unfold pending
  cases forwardings : last.forwardings with
  | nil => rfl
  | cons forwarding rest =>
    unfold expiries at left
    rw [forwardings,map_cons,sum_cons] at left
    have some : 0 < forwarding.expiries := by
      unfold Forwarding.expiries
      split <;> omega
    omega

end Expiries

def begun (streamInputs : Nat → IeeeStreamInput) (streamOutputs : Nat → IeeeTalker) (maxInflights : Nat) :
    AcmpHistory :=
  ⟨.acmpInit streamInputs streamOutputs maxInflights,[],[],[]⟩

/-- Every command has been answered exactly once or waits in a command in flight after every step of
exactly the runs whose steps are attended; and nothing waits for longer than the timers run. -/
theorem commands_answered (config : IeeeEntityConfig) (streamInputs : Nat → IeeeStreamInput)
    (streamOutputs : Nat → IeeeTalker) (maxInflights : Nat) (inputs : List IeeeEntityInput) :
    let first := begun streamInputs streamOutputs maxInflights
    let last := run (step config) inputs first
    (Steps (step config) (fun history input => (history.step config input).Accounted) inputs first ↔
      Steps (step config) (fun history input => history.Attended config input) inputs first) ∧
    (run (step config) (List.replicate (2 * last.forwardings.length) (.listener (.inflightTimeout 0))) last).pending = [] := by
  intro first last
  refine ⟨?_,expired_quiet last⟩
  apply @steps_iff _ _ (step config) _ _ fun history => history.Recorded ∧ history.Accounted
  · intro history input holds
    exact (step_iff holds.1 holds.2 input).2
  · intro history input holds accounted
    exact ⟨(step_iff holds.1 holds.2 input).1,accounted⟩
  · exact ⟨⟨rfl,fun _ member => absurd member not_mem_nil⟩,.refl _⟩

def oneStreamInput : IeeeEntityConfig where
  entityId := 3
  fastConnectMode := false
  fastConnectBtb := false
  maxListenerStreams := 1
  maxTalkerStreams := 0
  avbInterfaceIndex := fun _ => 0
  talkers := fun _ => ⟨0,by decide,[],[],true,false,none⟩

def silentTalker : List IeeeEntityInput :=
  [.listener (.connectRxCommand ⟨1,2,0,3,0,0,⟨0,0,0,0,0,0⟩,0,5,0,0⟩),.listener (.inflightTimeout 0),
    .listener (.inflightTimeout 0)]

def silentTalkerHistory : AcmpHistory :=
  run (step oneStreamInput) silentTalker
    (begun (fun _ => ⟨⟨0,0,0,0,⟨0,0,0,0,0,0⟩,0,0,false,false⟩,false,false⟩)
      (fun _ => ⟨⟨0,⟨0,0,0,0,0,0⟩,0,⟨⟨0,0,0,0,0,0⟩,[]⟩⟩,0,[],false,false⟩) 4)

/-- The controller is answered with the sequence id of the command to the talker. -/
theorem silentTalker_misanswered : silentTalkerHistory.commands = [⟨.connectRx,1,5⟩] ∧
    silentTalkerHistory.responses = [⟨.connectRx,1,0⟩] ∧ silentTalkerHistory.pending = [] ∧
    ¬silentTalkerHistory.Accounted := by
  have commands : silentTalkerHistory.commands = [⟨.connectRx,1,5⟩] := rfl
  have responses : silentTalkerHistory.responses = [⟨.connectRx,1,0⟩] := rfl
  have pending : silentTalkerHistory.pending = [] := rfl
  refine ⟨commands,responses,pending,fun accounted => ?_⟩
  unfold Accounted at accounted
  rw [commands,responses,pending] at accounted
  exact absurd (perm_singleton.mp accounted) (by decide)

end AcmpHistory

end Genavb.Avdecc
