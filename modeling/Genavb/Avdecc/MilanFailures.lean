import Genavb.Avdecc.MilanExclusive

/-! The sinks of a Milan listener when a message of theirs cannot be sent: what a bind command or an
expired delay timer leaves behind, and whether a later bind command probes again. -/
namespace Genavb.Avdecc

/-- What becomes of the response to a command: it is transmitted, no buffer is allocated for it, or
its transmission fails. -/
inductive ResponseFate where
  | sent
  | noBuffer
  | lost
  deriving DecidableEq

inductive SendingEvent where
  | bindRxCommand (pdu : AcmpPdu) (response : ResponseFate) (probe : ProbeFate)
  | delayTimer (index : UInt16) (probe : ProbeFate)

namespace MilanListener
open StreamInputDynamicDesc BoundListener

/-- `acmp_listener_sink_delay_timer_handler`: the state does not depend on what the probe returns. -/
def sinkDelayTimerHandler (index : UInt16) (probe : ProbeFate) (listener : MilanListener) : MilanListener :=
  if listener.sinkValid index = true ∧ (listener.sinks index).state = .prbWDelay then
    (listener.probeFate index probe).modifySink index (·.enter .prbWResp)
  else listener

/-- `acmp_milan_listener_sink_sm`: without a buffer for the response it returns at once. -/
def sends (event : SendingEvent) (listener : MilanListener) : MilanListener :=
  match event with
  | .bindRxCommand pdu .sent probe => listener.rcvBindRxFate pdu ⟨true,probe⟩
  | .bindRxCommand _ .noBuffer _ => listener
  | .bindRxCommand pdu .lost probe => listener.rcvBindRxFate pdu ⟨false,probe⟩
  | .delayTimer index probe => listener.sinkDelayTimerHandler index probe

def commandOf (event : SendingEvent) (listener : MilanListener) : AcmpPdu :=
  match event with
  | .bindRxCommand pdu _ _ => pdu
  | .delayTimer index _ => listener.probeTxCommand index

def ProbeInFlight (index : UInt16) (listener : MilanListener) : Prop :=
  ∃ entry, entry ∈ listener.acmp.inflight ∧ entry.ProbeOf index

/-- The sink is bound, and what takes it out of its state is still to come. -/
def Pends (index : UInt16) (listener : MilanListener) : Prop :=
  match (listener.sinks index).state with
  | .unbound => False
  | .prbWAvail => (listener.sinks index).talkerDiscovered = false
  | .prbWDelay => (listener.sinks index).acmpDelayTimer = true
  | .prbWResp | .prbWResp2 => listener.ProbeInFlight index
  | .prbWRetry => (listener.sinks index).acmpRetryTimer = true
  | .settledNoRsv => (listener.sinks index).acmpTalkerRegistrationTimer = true
  | .settledRsvOk => (listener.sinks index).srpState = .registering

structure Accepts (pdu : AcmpPdu) (listener : MilanListener) : Prop where
  valid : listener.sinkValid pdu.listenerUniqueId = true
  unlocked : listener.isLocked pdu.controllerEntityId = false
  free : listener.alreadyBoundTo pdu.listenerUniqueId pdu = false

structure Repeats (pdu later : AcmpPdu) : Prop where
  sink : later.listenerUniqueId = pdu.listenerUniqueId
  talker : later.binding.talker = pdu.binding.talker

def SendsProbe (before after : MilanListener) : Prop :=
  ∃ command, .probeTxCommand command ∈ after.sent.drop before.sent.length

def ProbeFails (probe : ProbeFate) (listener : MilanListener) : Prop :=
  probe ≠ .sent ∨ listener.acmp.freeInflight = 0

/-- A message of the event is not sent or gets no entry. -/
def Fails (event : SendingEvent) (listener : MilanListener) : Prop :=
  match event with
  | .bindRxCommand pdu response probe => response ≠ .sent ∨ listener.Accepts pdu ∧
    (listener.sinks pdu.listenerUniqueId).needBindingRestart pdu = true ∧ listener.ProbeFails probe
  | .delayTimer index probe => listener.sinkValid index = true ∧ (listener.sinks index).state = .prbWDelay ∧
    listener.ProbeFails probe

/-- The sink is as before the event, or is bound with something to come. -/
def EndsRight (event : SendingEvent) (listener : MilanListener) : Prop :=
  (listener.sends event).sinks (listener.commandOf event).listenerUniqueId =
      listener.sinks (listener.commandOf event).listenerUniqueId ∨
    (listener.sends event).Pends (listener.commandOf event).listenerUniqueId

/-- A bind command after the event, for its talker, sends a probe if it is accepted. -/
def ProbesAgain (event : SendingEvent) (listener : MilanListener) : Prop :=
  ∀ later, Repeats (listener.commandOf event) later → (listener.sends event).Accepts later →
    SendsProbe (listener.sends event) ((listener.sends event).rcvBindRx later)

/-- A probe that restarts a binding stays in flight, or another one of the sink does. -/
def RestartAwaited (index : UInt16) (listener : MilanListener) : Prop :=
  let sink := listener.sinks index
  if listener.acmp.freeInflight = 0 then
    (if sink.isWaiting then listener.inflightCancel sink.probeTxSeqId else listener).ProbeInFlight index
  else sink.isWaiting = true → sink.probeTxSeqId = listener.acmp.sequenceId → listener.ProbeInFlight index

def ProbeStarts (probe : ProbeFate) (listener : MilanListener) : Prop :=
  probe ≠ .noBuffer ∧ listener.acmp.freeInflight ≠ 0

/-- What an accepted bind command finds when it leaves the sink right. -/
def BindEndsWhen (pdu : AcmpPdu) (response : ResponseFate) (probe : ProbeFate) (listener : MilanListener) : Prop :=
  let index := pdu.listenerUniqueId
  let sink := listener.sinks index
  if sink.needBindingRestart pdu then
    if response = .sent ∧ probe = .sent then listener.RestartAwaited index
    else listener.Pends index ∨ sink.isWaiting = true ∧ listener.ProbeStarts probe
  else if sink.state = .unbound ∧ response = .sent then listener.ProbeInFlight index
  else sink.binding = pdu.binding ∨ listener.Pends index

def EndsRightWhen (event : SendingEvent) (listener : MilanListener) : Prop :=
  match event with
  | .bindRxCommand pdu response probe => response ≠ .noBuffer → listener.Accepts pdu →
    listener.BindEndsWhen pdu response probe
  | .delayTimer index probe => listener.sinkValid index = true → (listener.sinks index).state = .prbWDelay →
    listener.ProbeInFlight index ∨ listener.ProbeStarts probe

/-- The bind command changes nothing and names a talker that the sink does not hold; a talker that
another sink holds is refused later as well. -/
def ProbesAgainWhen (event : SendingEvent) (listener : MilanListener) : Prop :=
  match event with
  | .bindRxCommand pdu response _ => listener.sinkValid pdu.listenerUniqueId = true →
    listener.alreadyBoundTo pdu.listenerUniqueId pdu = false →
    (response = .noBuffer ∨ listener.isLocked pdu.controllerEntityId = true) ∧
      (listener.sinks pdu.listenerUniqueId).needBindingRestart pdu = true
  | .delayTimer index _ => listener.sinkValid index = true →
    listener.alreadyBoundTo index (listener.probeTxCommand index) = true

section Sends
variable {listener : MilanListener} {index : UInt16} {pdu : AcmpPdu} {probe : ProbeFate}

theorem sinkDelayTimerHandler_but : SameBut index listener (listener.sinkDelayTimerHandler index probe) := by
  unfold sinkDelayTimerHandler
  split
  · exact SameBut.modifySink (probeFate_but probe) _
  · exact SameBut.refl

private theorem sendIf_but (sent : Bool) (message : MilanSent) : SameBut index listener (listener.sendIf sent message) := by
  refine ⟨sendIf_streams ..,fun other _ => ?_⟩
  rw [sendIf_sinks]

theorem rcvBindRxFate_but {fate : BindFate} :
    SameBut pdu.listenerUniqueId listener (listener.rcvBindRxFate pdu fate) := by
  unfold rcvBindRxFate
  dsimp only
  split
  · exact sendIf_but ..
  · split
    · exact sendIf_but ..
    · split
      · exact sendIf_but ..
      · split
        · exact listenerBindFails_but
        · exact sinkSm_but _

theorem sends_but (event : SendingEvent) :
    SameBut (listener.commandOf event).listenerUniqueId listener (listener.sends event) := by
  cases event with
  | bindRxCommand pdu response probe =>
    cases response with
    | noBuffer => exact SameBut.refl
    | sent | lost => exact rcvBindRxFate_but
  | delayTimer index probe => exact sinkDelayTimerHandler_but

private theorem sends_bind {response : ResponseFate} (buffered : response ≠ .noBuffer) :
    listener.sends (.bindRxCommand pdu response probe) =
      listener.rcvBindRxFate pdu ⟨decide (response = .sent),probe⟩ := by
  cases response with
  | noBuffer => exact absurd rfl buffered
  | sent | lost => rfl

private theorem rcvBindRxFate_refused {fate : BindFate} (refused : ¬listener.Accepts pdu) :
    (listener.rcvBindRxFate pdu fate).sinks = listener.sinks := by
  unfold rcvBindRxFate
  dsimp only
  split
  · exact sendIf_sinks ..
  next valid =>
    split
    · exact sendIf_sinks ..
    next unlocked =>
      split
      · exact sendIf_sinks ..
      next free => exact absurd ⟨by simpa using valid,by simpa using unlocked,by simpa using free⟩ refused

private theorem rcvBindRxFate_accepted {fate : BindFate} (accepts : listener.Accepts pdu) :
    listener.rcvBindRxFate pdu fate =
      if fate.fails ((listener.sinks pdu.listenerUniqueId).needBindingRestart pdu) then
        listener.listenerBindFails pdu.listenerUniqueId pdu fate
      else listener.sinkSm pdu.listenerUniqueId (.rcvBindRxCmd pdu) := by
  unfold rcvBindRxFate
  dsimp only
  rw [accepts.valid,accepts.unlocked,accepts.free]
  rfl

end Sends

section Repeated
variable {listener after : MilanListener} {index : UInt16} {pdu later : AcmpPdu}

theorem rebind_sent {stop : MilanListener → MilanListener} (free : listener.alreadyBoundTo index pdu = false)
    (stops : ∀ next : MilanListener, (stop next).sent = next.sent) :
    (listener.rebind index pdu stop).sent = (listener.listenerBind index pdu).sent := by
  unfold rebind
  rw [free,if_neg Bool.false_ne_true]
  split
  · exact stops _
  · rfl

theorem bind_sent (free : listener.alreadyBoundTo index pdu = false) :
    (listener.sinkSm index (.rcvBindRxCmd pdu)).sent = (listener.listenerBind index pdu).sent := by
  unfold sinkSm
  dsimp only
  cases (listener.sinks index).state with
  | unbound =>
    rw [free,if_neg Bool.false_ne_true]
    rfl
  | _ => exact rebind_sent free fun _ => rfl

private theorem bind_probes_iff (accepts : listener.Accepts pdu) : SendsProbe listener (listener.rcvBindRx pdu) ↔
    (listener.sinks pdu.listenerUniqueId).needBindingRestart pdu = true := by
  have handled : listener.rcvBindRx pdu = listener.sinkSm pdu.listenerUniqueId (.rcvBindRxCmd pdu) := by
    unfold rcvBindRx
    rw [accepts.valid,accepts.unlocked]
    rfl
  unfold SendsProbe
  rw [handled,bind_sent accepts.free]
  cases restart : (listener.sinks pdu.listenerUniqueId).needBindingRestart pdu with
  | false =>
    rw [listenerBind_kept restart]
    simp [bindAnswered,send,modifySink]
  | true =>
    rw [listenerBind_restart restart]
    simp [bindAnswered,send,modifySink,sendProbeTxCommand]

theorem Repeats.isTalker (repeats : Repeats pdu later) (sink : StreamInputDynamicDesc) :
    sink.isTalker later.talkerEntityId later.talkerUniqueId = sink.isTalker pdu.talkerEntityId pdu.talkerUniqueId := by
  rw [Bool.eq_iff_iff,isTalker_iff,isTalker_iff,repeats.talker]

theorem Repeats.restart (repeats : Repeats pdu later) (sink : StreamInputDynamicDesc) :
    sink.needBindingRestart later = sink.needBindingRestart pdu := congrArg not (repeats.isTalker sink)

theorem Repeats.free (repeats : Repeats pdu later) :
    listener.alreadyBoundTo index later = listener.alreadyBoundTo index pdu := by
  unfold alreadyBoundTo
  simp only [repeats.isTalker]

theorem isLocked_holder (listener : MilanListener) : ∃ controller, listener.isLocked controller = false := by
  unfold isLocked
  cases listener.lock with
  | none => exact ⟨0,rfl⟩
  | some holder => exact ⟨holder,by simp⟩

theorem repeats_probe_iff :
    (∀ later, Repeats pdu later → after.Accepts later → SendsProbe after (after.rcvBindRx later)) ↔
      (after.sinkValid pdu.listenerUniqueId = true → after.alreadyBoundTo pdu.listenerUniqueId pdu = false →
        (after.sinks pdu.listenerUniqueId).needBindingRestart pdu = true) := by
  constructor
  · intro probes valid free
    obtain ⟨controller,unlocked⟩ := isLocked_holder after
    have repeats : Repeats pdu {pdu with controllerEntityId := controller} := ⟨rfl,rfl⟩
    have accepts : after.Accepts {pdu with controllerEntityId := controller} := ⟨valid,unlocked,free⟩
    exact (bind_probes_iff accepts).mp (probes _ repeats accepts)
  · intro restarts later repeats accepts
    rw [bind_probes_iff accepts,repeats.restart,repeats.sink]
    have valid := accepts.valid
    have free := accepts.free
    rw [repeats.free] at free
    rw [repeats.sink] at valid free
    exact restarts valid free

end Repeated

section InFlight
variable {listener after : MilanListener} {index : UInt16} {pdu : AcmpPdu} {probe : ProbeFate}

variable {acmp : AcmpCtx} {command : AcmpPdu}

private theorem acmpSendCmd_full (full : acmp.freeInflight = 0) :
    (acmp.acmpSendCmd .connectTx acmp.sequenceId command).2.inflight = acmp.inflight := by
  unfold AcmpCtx.acmpSendCmd
  simp [full]

private theorem acmpSendCmd_probe (own : command.listenerUniqueId = index) :
    (∃ entry, entry ∈ (acmp.acmpSendCmd .connectTx acmp.sequenceId command).2.inflight ∧ entry.ProbeOf index) ↔
      (∃ entry, entry ∈ acmp.inflight ∧ entry.ProbeOf index) ∨ acmp.freeInflight ≠ 0 := by
  by_cases full : acmp.freeInflight = 0
  · rw [acmpSendCmd_full full]
    simp [full]
  · rw [AcmpCtx.acmpSendCmd_room full]
    exact iff_of_true ⟨_,List.mem_cons_self,rfl,own⟩ (.inr full)

private theorem probeFate_inFlight : (listener.probeFate index probe).ProbeInFlight index ↔
    listener.ProbeInFlight index ∨ listener.ProbeStarts probe := by
  have sent : (listener.sendProbeTxCommand index).ProbeInFlight index ↔
      listener.ProbeInFlight index ∨ listener.acmp.freeInflight ≠ 0 := acmpSendCmd_probe rfl
  unfold ProbeStarts
  cases probe with
  | noBuffer => simp [probeFate]
  | sent | lost => exact sent.trans (by simp)

theorem listenerBindFails_inFlight {fate : BindFate} :
    (listener.listenerBindFails index pdu fate).ProbeInFlight index ↔ listener.ProbeInFlight index ∨
      (listener.sinks index).needBindingRestart pdu = true ∧ listener.ProbeStarts fate.probe := by
  have answered : ∀ sent : Bool, ((listener.modifySink index ({· with binding := pdu.binding})).sendIf sent
      (.bindRxResponse index .success)).acmp = listener.acmp := by
    intro sent
    cases sent with
    | false | true => rfl
  unfold listenerBindFails
  split
  next restart =>
    rw [restart]
    refine Iff.trans (@probeFate_inFlight _ index fate.probe) ?_
    unfold ProbeInFlight ProbeStarts
    rw [answered]
    simp
  next kept =>
    unfold ProbeInFlight
    rw [answered]
    simp [kept]

variable {sequenceId : UInt16}

private theorem pends_same {binding : BindingParams} {probing : ProbingStatus} {status : AcmpStatus}
    (same : after.sinks index = {listener.sinks index with
      binding := binding
      probeTxSeqId := sequenceId
      probingStatus := probing
      acmpStatus := status}) :
    after.Pends index ↔
      if (listener.sinks index).isWaiting then after.ProbeInFlight index else listener.Pends index := by
  unfold Pends isWaiting
  rw [same]
  cases (listener.sinks index).state with
  | _ => simp

private theorem pends_waiting (waiting : (listener.sinks index).isWaiting = true) :
    listener.Pends index ↔ listener.ProbeInFlight index := by
  unfold Pends
  rcases isWaiting_iff.mp waiting with state | state
  · rw [state]
  · rw [state]

private theorem inflightCancel_inflight :
    (acmp.inflightCancel sequenceId).inflight = acmp.inflight.eraseP (·.sequenceId = sequenceId) := by
  unfold AcmpCtx.inflightCancel AcmpCtx.inflightFind
  split
  next absent => rw [List.eraseP_of_forall_not (List.find?_eq_none.mp absent)]
  · rfl

theorem acmpSendCmd_cancel (room : acmp.freeInflight ≠ 0) :
    ((acmp.acmpSendCmd .connectTx acmp.sequenceId command).2.inflightCancel sequenceId).inflight =
      if sequenceId = acmp.sequenceId then acmp.inflight
      else ⟨.connectTx,false,acmp.sequenceId,acmp.sequenceId,{command with sequenceId := acmp.sequenceId}⟩ ::
        (acmp.inflightCancel sequenceId).inflight := by
  rw [inflightCancel_inflight,inflightCancel_inflight,AcmpCtx.acmpSendCmd_room room]
  split
  next same =>
    subst same
    exact List.eraseP_cons_of_pos (by simp)
  next apart => exact List.eraseP_cons_of_neg (by simpa using Ne.symm apart)

end InFlight

section Restart
variable {listener : MilanListener} {index : UInt16} {pdu : AcmpPdu}

structure Restarted (index : UInt16) (pdu : AcmpPdu) (listener after : MilanListener) : Prop where
  state : (after.sinks index).state = .prbWResp
  acmp : after.acmp = if (listener.sinks index).isWaiting then
      (listener.listenerBind index pdu).acmp.inflightCancel (listener.sinks index).probeTxSeqId
    else (listener.listenerBind index pdu).acmp

theorem rebind_restarts {stop : MilanListener → MilanListener} (free : listener.alreadyBoundTo index pdu = false)
    (restart : (listener.sinks index).needBindingRestart pdu = true)
    (stops : (stop (listener.listenerBind index pdu)).acmp = if (listener.sinks index).isWaiting then
        (listener.listenerBind index pdu).acmp.inflightCancel (listener.sinks index).probeTxSeqId
      else (listener.listenerBind index pdu).acmp) :
    Restarted index pdu listener (listener.rebind index pdu stop) := by
  unfold rebind
  rw [free,if_neg Bool.false_ne_true,if_pos restart]
  refine ⟨?_,stops⟩
  rw [modifySink_same]
  rfl

theorem bind_restarts (free : listener.alreadyBoundTo index pdu = false)
    (restart : (listener.sinks index).needBindingRestart pdu = true) :
    Restarted index pdu listener (listener.sinkSm index (.rcvBindRxCmd pdu)) := by
  unfold sinkSm
  dsimp only
  cases state : (listener.sinks index).state with
  | unbound =>
    rw [free,if_neg Bool.false_ne_true]
    refine ⟨?_,?_⟩
    · rw [modifySink_same]
      rfl
    · simp [isWaiting,state]
  | _ =>
    refine rebind_restarts free restart ?_
    simp [isWaiting,state,inflightCancel]

theorem Restarted.inFlight {after : MilanListener} (restarted : Restarted index pdu listener after)
    (restart : (listener.sinks index).needBindingRestart pdu = true) :
    after.ProbeInFlight index ↔ listener.RestartAwaited index := by
  have own : ((listener.bindAnswered index pdu).probeTxCommand index).listenerUniqueId = index := rfl
  unfold ProbeInFlight RestartAwaited
  rw [restarted.acmp,listenerBind_acmp restart]
  by_cases full : listener.acmp.freeInflight = 0
  · rw [if_pos full]
    split
    · rw [inflightCancel_inflight,acmpSendCmd_full full,← inflightCancel_inflight]
      rfl
    · rw [acmpSendCmd_full full]
      rfl
  · rw [if_neg full]
    split
    next waiting =>
      rw [acmpSendCmd_cancel full]
      split
      next same => simp [waiting,same,ProbeInFlight]
      next apart =>
        refine iff_of_true ⟨_,List.mem_cons_self,rfl,own⟩ ?_
        exact fun _ same => absurd same apart
    next idle =>
      refine iff_of_true ((acmpSendCmd_probe own).mpr (.inr full)) ?_
      exact fun waiting => absurd waiting idle

theorem Restarted.pends {after : MilanListener} (restarted : Restarted index pdu listener after)
    (restart : (listener.sinks index).needBindingRestart pdu = true) :
    after.Pends index ↔ listener.RestartAwaited index := by
  rw [pends_waiting (isWaiting_iff.mpr (.inl restarted.state)),restarted.inFlight restart]

end Restart

section Ends
variable {listener after : MilanListener} {index : UInt16} {pdu : AcmpPdu} {probe : ProbeFate} {fate : BindFate}

private theorem restart_rebinds (restart : (listener.sinks index).needBindingRestart pdu = true) :
    (listener.sinks index).binding ≠ pdu.binding := by
  intro same
  have talker := isTalker_iff.mpr (congrArg BindingParams.talker same)
  unfold needBindingRestart at restart
  rw [talker] at restart
  exact absurd restart (by decide)

private theorem kept_ends {binding : BindingParams} (same : after.sinks index = {listener.sinks index with binding := binding})
    (inflight : after.acmp = listener.acmp) :
    (after.sinks index = listener.sinks index ∨ after.Pends index) ↔
      (listener.sinks index).binding = binding ∨ listener.Pends index := by
  have unchanged : after.sinks index = listener.sinks index ↔ (listener.sinks index).binding = binding := by
    rw [same]
    constructor
    · intro equal
      exact (congrArg (·.binding) equal).symm
    · rintro rfl
      rfl
  have pends : after.Pends index ↔ listener.Pends index := by
    rw [pends_same (same.trans rfl)]
    split
    next waiting =>
      rw [pends_waiting waiting]
      unfold ProbeInFlight
      rw [inflight]
    · exact Iff.rfl
  rw [unchanged,pends]

theorem listenerBindFails_kept (kept : (listener.sinks index).needBindingRestart pdu = false) :
    (listener.listenerBindFails index pdu fate).sinks index = {listener.sinks index with binding := pdu.binding} ∧
      (listener.listenerBindFails index pdu fate).acmp = listener.acmp := by
  unfold listenerBindFails
  rw [kept]
  rw [if_neg Bool.false_ne_true]
  constructor
  · rw [sendIf_sinks,modifySink_same]
  · cases fate.response with
    | false | true => rfl

theorem failed_ends (restart : (listener.sinks index).needBindingRestart pdu = true) :
    ((listener.listenerBindFails index pdu fate).sinks index = listener.sinks index ∨
        (listener.listenerBindFails index pdu fate).Pends index) ↔
      listener.Pends index ∨ (listener.sinks index).isWaiting = true ∧ listener.ProbeStarts fate.probe := by
  obtain ⟨sequenceId,probing,status,same⟩ := @listenerBindFails_same listener index pdu fate
  have changed : (listener.listenerBindFails index pdu fate).sinks index ≠ listener.sinks index := by
    intro equal
    rw [same] at equal
    exact restart_rebinds restart (congrArg (·.binding) equal).symm
  rw [or_iff_right changed,pends_same same]
  split
  next waiting =>
    rw [listenerBindFails_inFlight,pends_waiting waiting]
    simp [restart,waiting]
  next idle => simp [idle]

private theorem bound_ends (free : listener.alreadyBoundTo index pdu = false) :
    ((listener.sinkSm index (.rcvBindRxCmd pdu)).sinks index = listener.sinks index ∨
        (listener.sinkSm index (.rcvBindRxCmd pdu)).Pends index) ↔
      if (listener.sinks index).needBindingRestart pdu then listener.RestartAwaited index
      else if (listener.sinks index).state = .unbound then listener.ProbeInFlight index
      else (listener.sinks index).binding = pdu.binding ∨ listener.Pends index := by
  cases restart : (listener.sinks index).needBindingRestart pdu with
  | true =>
    have changed : (listener.sinkSm index (.rcvBindRxCmd pdu)).sinks index ≠ listener.sinks index := by
      intro equal
      exact restart_rebinds restart ((congrArg (·.binding) equal).symm.trans (bind_binding free))
    rw [or_iff_right changed,if_pos rfl,(bind_restarts free restart).pends restart]
  | false =>
    rw [if_neg Bool.false_ne_true]
    have bound :
        (listener.bindAnswered index pdu).sinks index = {listener.sinks index with binding := pdu.binding} := by
      unfold bindAnswered
      rw [send_sinks,modifySink_same]
    split
    next unbound =>
      have after : listener.sinkSm index (.rcvBindRxCmd pdu) =
          (listener.bindAnswered index pdu).modifySink index (·.discoveryReset.enter .prbWResp) := by
        unfold sinkSm
        dsimp only
        rw [unbound]
        rw [free,if_neg Bool.false_ne_true,listenerBind_kept restart]
      have state : ((listener.sinkSm index (.rcvBindRxCmd pdu)).sinks index).state = .prbWResp := by
        rw [after,modifySink_same]
        rfl
      have changed : (listener.sinkSm index (.rcvBindRxCmd pdu)).sinks index ≠ listener.sinks index := by
        intro equal
        rw [equal,unbound] at state
        exact absurd state (by decide)
      rw [or_iff_right changed,pends_waiting (isWaiting_iff.mpr (.inl state)),after]
      exact Iff.rfl
    next isBound =>
      have after : listener.sinkSm index (.rcvBindRxCmd pdu) = listener.bindAnswered index pdu := by
        unfold sinkSm rebind
        dsimp only
        rw [free,restart,if_neg Bool.false_ne_true,if_neg Bool.false_ne_true,listenerBind_kept restart]
        cases state : (listener.sinks index).state with
        | unbound => exact absurd state isBound
        | _ => rfl
      rw [after]
      exact kept_ends bound rfl

theorem accepted_ends {response : ResponseFate} (accepts : listener.Accepts pdu) :
    ((listener.rcvBindRxFate pdu ⟨decide (response = .sent),probe⟩).sinks pdu.listenerUniqueId =
          listener.sinks pdu.listenerUniqueId ∨
        (listener.rcvBindRxFate pdu ⟨decide (response = .sent),probe⟩).Pends pdu.listenerUniqueId) ↔
      listener.BindEndsWhen pdu response probe := by
  rw [rcvBindRxFate_accepted accepts]
  unfold BindEndsWhen BindFate.fails
  dsimp only
  cases restart : (listener.sinks pdu.listenerUniqueId).needBindingRestart pdu with
  | true =>
    rw [if_pos rfl]
    by_cases allSent : response = .sent ∧ probe = .sent
    · rw [if_pos allSent,if_neg (by simp [allSent]),bound_ends accepts.free,restart,if_pos rfl]
    · rw [if_neg allSent,if_pos (by simpa [Classical.or_iff_not_imp_left] using allSent)]
      exact failed_ends restart
  | false =>
    rw [if_neg Bool.false_ne_true]
    by_cases answered : response = .sent
    · rw [if_neg (by simp [answered]),bound_ends accepts.free,restart,if_neg Bool.false_ne_true]
      simp [answered]
    · obtain ⟨same,inflight⟩ := @listenerBindFails_kept listener pdu.listenerUniqueId pdu
        ⟨decide (response = .sent),probe⟩ restart
      rw [if_pos (by simp [answered]),if_neg fun both => answered both.2]
      exact kept_ends same inflight

private theorem endsRight_iff (event : SendingEvent) (listener : MilanListener) :
    listener.EndsRight event ↔ listener.EndsRightWhen event := by
  cases event with
  | bindRxCommand pdu response probe =>
    unfold EndsRight EndsRightWhen
    dsimp only [commandOf]
    by_cases buffered : response = .noBuffer
    · subst buffered
      exact iff_of_true (.inl rfl) fun absent => absurd rfl absent
    · rw [sends_bind buffered]
      by_cases accepts : listener.Accepts pdu
      · rw [accepted_ends accepts]
        exact ⟨fun ends _ _ => ends,fun ends => ends buffered accepts⟩
      · rw [rcvBindRxFate_refused accepts]
        exact iff_of_true (.inl rfl) fun _ accepted => absurd accepted accepts
  | delayTimer index probe =>
    unfold EndsRight EndsRightWhen
    dsimp only [commandOf,probeTxCommand,sends]
    by_cases delayed : listener.sinkValid index = true ∧ (listener.sinks index).state = .prbWDelay
    · have after : listener.sinkDelayTimerHandler index probe =
          (listener.probeFate index probe).modifySink index (·.enter .prbWResp) := if_pos delayed
      have state : ((listener.sinkDelayTimerHandler index probe).sinks index).state = .prbWResp := by
        rw [after,modifySink_same]
        rfl
      have changed : (listener.sinkDelayTimerHandler index probe).sinks index ≠ listener.sinks index := by
        intro equal
        rw [equal,delayed.2] at state
        exact absurd state (by decide)
      rw [or_iff_right changed,pends_waiting (isWaiting_iff.mpr (.inl state)),after]
      refine Iff.trans probeFate_inFlight ?_
      exact ⟨fun ends _ _ => ends,fun ends => ends delayed.1 delayed.2⟩
    · have after : listener.sinkDelayTimerHandler index probe = listener := if_neg delayed
      rw [after]
      exact iff_of_true (.inl rfl) fun valid state => absurd ⟨valid,state⟩ delayed

end Ends

section Again
variable {listener after : MilanListener} {index : UInt16} {pdu : AcmpPdu}

theorem alreadyBoundTo_same (same : SameBut index listener after) :
    after.alreadyBoundTo index pdu = listener.alreadyBoundTo index pdu := by
  unfold alreadyBoundTo
  rw [same.streams]
  congr 1
  funext other
  by_cases own : UInt16.ofNat other = index
  · simp [own]
  · rw [same.others _ own]

theorem sinkValid_same (same : SameBut index listener after) : after.sinkValid index = listener.sinkValid index := by
  unfold sinkValid
  rw [same.streams]

private theorem held_kept {sink : StreamInputDynamicDesc} (holds : sink.binding.talker = pdu.binding.talker) :
    sink.needBindingRestart pdu = false := by
  unfold needBindingRestart
  rw [isTalker_iff.mpr holds]
  rfl

theorem accepted_binding {fate : BindFate} (accepts : listener.Accepts pdu) :
    ((listener.rcvBindRxFate pdu fate).sinks pdu.listenerUniqueId).binding = pdu.binding := by
  rw [rcvBindRxFate_accepted accepts]
  split
  · obtain ⟨_,_,_,same⟩ := @listenerBindFails_same listener pdu.listenerUniqueId pdu fate
    rw [same]
  · exact bind_binding accepts.free

theorem sinkDelayTimerHandler_binding {probe : ProbeFate} :
    ((listener.sinkDelayTimerHandler index probe).sinks index).binding = (listener.sinks index).binding := by
  unfold sinkDelayTimerHandler
  split
  · obtain ⟨_,same⟩ := @probeFate_same listener index probe
    rw [modifySink_same,same]
    rfl
  · rfl

private theorem probesAgain_iff (event : SendingEvent) (listener : MilanListener) :
    listener.ProbesAgain event ↔ listener.ProbesAgainWhen event := by
  have same := @sends_but listener event
  unfold ProbesAgain
  rw [repeats_probe_iff,sinkValid_same same,alreadyBoundTo_same same]
  cases event with
  | bindRxCommand pdu response probe =>
    dsimp only [commandOf]
    refine forall_congr' fun valid => forall_congr' fun free => ?_
    by_cases buffered : response = .noBuffer
    · subst buffered
      simp [sends]
    · rw [sends_bind buffered,or_iff_right buffered]
      cases locked : listener.isLocked pdu.controllerEntityId with
      | true =>
        have refused : ¬listener.Accepts pdu := fun accepts => absurd (locked.symm.trans accepts.unlocked) (by decide)
        rw [rcvBindRxFate_refused refused]
        simp
      | false =>
        rw [held_kept (congrArg BindingParams.talker (accepted_binding ⟨valid,locked,free⟩))]
        simp
  | delayTimer index probe =>
    have held : ((listener.sinkDelayTimerHandler index probe).sinks index).needBindingRestart
        (listener.probeTxCommand index) = false := by
      apply held_kept
      rw [sinkDelayTimerHandler_binding]
      rfl
    dsimp only [commandOf,sends]
    refine forall_congr' fun valid => ?_
    have listens : (listener.probeTxCommand index).listenerUniqueId = index := rfl
    rw [listens,held]
    simp

/-- When an event of which a message fails leaves its sink as it was or with something to come, and
when a later bind command for its talker probes. -/
theorem failures_recovered (event : SendingEvent) (listener : MilanListener) :
    (listener.EndsRight event ↔ listener.EndsRightWhen event) ∧
      ((listener.Fails event → listener.ProbesAgain event) ↔ (listener.Fails event → listener.ProbesAgainWhen event)) :=
  ⟨endsRight_iff event listener,forall_congr' fun _ => probesAgain_iff event listener⟩

def unprobedBind : SendingEvent := .bindRxCommand ⟨1,10,0,2,0,0,⟨0,0,0,0,0,0⟩,0,0,0,0⟩ .sent .noBuffer

/-- An unbound sink is answered that it is bound; it stays unbound with the parameters of the command,
and no bind command for the same talker makes it probe. -/
theorem unprobedBind_wedges : (acmpMilanInit 2 2 5 none).Fails unprobedBind ∧
    ¬(acmpMilanInit 2 2 5 none).EndsRight unprobedBind ∧ ¬(acmpMilanInit 2 2 5 none).ProbesAgain unprobedBind := by
  have accepts : (acmpMilanInit 2 2 5 none).Accepts ((acmpMilanInit 2 2 5 none).commandOf unprobedBind) :=
    ⟨by decide,by decide,by decide⟩
  refine ⟨.inr ⟨accepts,by decide,.inl (by decide)⟩,?_,?_⟩
  · rw [endsRight_iff]
    intro ends
    rcases ends (by decide) accepts with pends | waits
    · exact pends
    · exact absurd waits.1 (by decide)
  · rw [probesAgain_iff]
    intro again
    rcases (again accepts.valid accepts.free).1 with unbuffered | locked
    · exact absurd unbuffered (by decide)
    · exact absurd locked (by decide)

end Again

end MilanListener

end Genavb.Avdecc
