import Genavb.Avdecc.MilanCommands

/-! The runs of a Milan listener: when every bound sink has the element that moves it on, and no
other. -/
namespace Genavb.Avdecc
open Support
open Maap (MacAddress)

namespace BoundListener
open MilanListener

section Runs

def answered (before after : MilanListener) : Option MilanSent := after.sent[before.sent.length]?

/-- The bindings after a step: a command is accepted if its response says so, and saved parameters
are if the sink is not bound. -/
def bindingsAfter (input : SinkInput) (before after : MilanListener) (bindings : UInt16 → Option BindingParams) :
    UInt16 → Option BindingParams :=
  match input with
  | .bindRxCommand pdu =>
    if answered before after = some (.bindRxResponse pdu.listenerUniqueId .success) then
      Function.update bindings pdu.listenerUniqueId (some pdu.binding)
    else bindings
  | .unbindRxCommand pdu =>
    if answered before after = some (.unbindRxResponse pdu.listenerUniqueId .success) then
      Function.update bindings pdu.listenerUniqueId none
    else bindings
  | .savedBinding index params =>
    if before.sinkValid index ∧ params.talkerEntityId ≠ 0 ∧ params.controllerEntityId ≠ 0 ∧
        (before.sinks index).state = .unbound then
      Function.update bindings index (some params)
    else bindings
  | _ => bindings

def step (input : SinkInput) (state : BoundListener) : BoundListener :=
  ⟨state.listener.sinkStep input,bindingsAfter input state.listener (state.listener.sinkStep input) state.bindings⟩

/-- The sink has the parameters of the last accepted binding and exactly the pending element of its
state: the one probe that waits in flight, or the timer. -/
structure SinkRight (state : BoundListener) (index : UInt16) : Prop where
  bound : (state.listener.sinks index).BoundBy (state.bindings index)
  waiting : (state.listener.sinks index).isWaiting = true → ∃ entry, entry ∈ state.listener.acmp.inflight ∧
    (state.listener.sinks index).Outstanding index entry ∧
    ∀ other, other ∈ state.listener.acmp.inflight → other.ProbeOf index → other = entry
  idle : (state.listener.sinks index).isWaiting = false →
    ∀ entry, entry ∈ state.listener.acmp.inflight → ¬ entry.ProbeOf index
  timers : (state.listener.sinks index).TimersRight

structure PendingRight (state : BoundListener) : Prop where
  once : state.listener.acmp.inflight.Nodup
  sinks : ∀ index, SinkRight state index

/-- An accepted bind command gives an unbound sink a talker, and a probe that is sent finds a free
entry and an unused sequence id; a response to a waiting sink carries the sequence id of its own
probe or none that is in flight; saved parameters do not change those of a bound sink. -/
def Sound (state : BoundListener) : SinkInput → Prop
  | .bindRxCommand pdu => state.listener.sinkValid pdu.listenerUniqueId = true →
    state.listener.isLocked pdu.controllerEntityId = false →
    state.listener.alreadyBoundTo pdu.listenerUniqueId pdu = false → BindSound state.listener pdu.listenerUniqueId pdu
  | .delayTimer index => (state.listener.sinks index).acmpDelayTimer = true → state.listener.Room
  | .probeTxResponse pdu _ => (state.listener.sinks pdu.listenerUniqueId).isWaiting = true →
    state.listener.acmp.inflightFind pdu.sequenceId ≠ none →
    pdu.sequenceId = (state.listener.sinks pdu.listenerUniqueId).probeTxSeqId
  | .savedBinding index params => (state.listener.sinks index).state ≠ .unbound → params.talkerEntityId ≠ 0 →
    params.controllerEntityId ≠ 0 → params = (state.listener.sinks index).binding
  | _ => True

variable {state : BoundListener} {listener : MilanListener} {bindings : UInt16 → Option BindingParams} {index : UInt16}
  {pdu : AcmpPdu}

theorem answered_first {after : MilanListener} {message : MilanSent} {rest : List MilanSent}
    (sent : after.sent = listener.sent ++ message :: rest) : answered listener after = some message := by
  unfold answered
  rw [sent,List.getElem?_append_right le_rfl,Nat.sub_self]
  rfl

theorem listenerBind_sent : ∃ rest, (listener.listenerBind index pdu).sent =
    listener.sent ++ .bindRxResponse index .success :: rest := by
  cases restart : (listener.sinks index).needBindingRestart pdu with
  | false =>
    rw [listenerBind_kept restart]
    exact ⟨[],rfl⟩
  | true =>
    rw [listenerBind_restart restart]
    exact ⟨_,List.append_assoc ..⟩

theorem bind_answered : answered listener (listener.sinkSm index (.rcvBindRxCmd pdu)) =
    some (.bindRxResponse index (if listener.alreadyBoundTo index pdu then .talkerExclusive else .success)) := by
  obtain ⟨rest,sent⟩ := listenerBind_sent
  unfold sinkSm rebind
  dsimp only
  cases taken : listener.alreadyBoundTo index pdu with
  | true =>
    have refused : answered listener (listener.refuseBind index) = some (.bindRxResponse index .talkerExclusive) :=
      answered_first rfl
    cases state : (listener.sinks index).state with
    | _ => exact refused
  | false =>
    have accepted : answered listener (listener.listenerBind index pdu) = some (.bindRxResponse index .success) :=
      answered_first sent
    cases state : (listener.sinks index).state with
    | unbound => exact accepted
    | _ =>
      dsimp only
      rw [if_neg Bool.false_ne_true,if_neg Bool.false_ne_true]
      split
      · exact accepted
      · exact accepted

theorem unbind_answered : answered listener (listener.sinkSm index .rcvUnbindRxCmd) =
    some (.unbindRxResponse index .success) := by
  unfold sinkSm
  dsimp only
  cases state : (listener.sinks index).state with
  | _ => exact answered_first rfl

theorem rcvBindRx_cases (listener : MilanListener) (pdu : AcmpPdu) :
    (∃ status, status ≠ .success ∧ listener.rcvBindRx pdu = listener.send (.bindRxResponse pdu.listenerUniqueId status)) ∨
    (listener.sinkValid pdu.listenerUniqueId = true ∧ listener.isLocked pdu.controllerEntityId = false ∧
      listener.alreadyBoundTo pdu.listenerUniqueId pdu = false ∧
      listener.rcvBindRx pdu = listener.sinkSm pdu.listenerUniqueId (.rcvBindRxCmd pdu)) := by
  unfold rcvBindRx
  cases valid : listener.sinkValid pdu.listenerUniqueId with
  | false => exact .inl ⟨.listenerUnknownId,by decide,rfl⟩
  | true =>
    cases locked : listener.isLocked pdu.controllerEntityId with
    | true => exact .inl ⟨.controllerNotAuthorized,by decide,rfl⟩
    | false =>
      cases free : listener.alreadyBoundTo pdu.listenerUniqueId pdu with
      | false => exact .inr ⟨rfl,rfl,rfl,rfl⟩
      | true =>
        refine .inl ⟨.talkerExclusive,by decide,?_⟩
        unfold sinkSm rebind
        dsimp only
        rw [free]
        cases (listener.sinks pdu.listenerUniqueId).state with
        | _ => rfl

theorem rcvUnbindRx_cases (listener : MilanListener) (pdu : AcmpPdu) :
    (∃ status, status ≠ .success ∧
      listener.rcvUnbindRx pdu = listener.send (.unbindRxResponse pdu.listenerUniqueId status)) ∨
    (listener.sinkValid pdu.listenerUniqueId = true ∧
      listener.rcvUnbindRx pdu = listener.sinkSm pdu.listenerUniqueId .rcvUnbindRxCmd) := by
  unfold rcvUnbindRx
  cases valid : listener.sinkValid pdu.listenerUniqueId with
  | false => exact .inl ⟨.listenerUnknownId,by decide,rfl⟩
  | true =>
    cases locked : listener.isLocked pdu.controllerEntityId with
    | true => exact .inl ⟨.controllerNotAuthorized,by decide,rfl⟩
    | false => exact .inr ⟨rfl,rfl⟩

section
variable (tracked : Tracked ⟨listener,bindings⟩)
include tracked

theorem Tracked.bindStep
    (sound : Sound ⟨listener,bindings⟩ (.bindRxCommand pdu)) :
    Tracked (step (.bindRxCommand pdu) ⟨listener,bindings⟩) := by
  unfold step bindingsAfter sinkStep
  dsimp only
  rcases rcvBindRx_cases listener pdu with ⟨status,failed,refused⟩ | ⟨valid,locked,free,accepted⟩
  · have answer : answered listener (listener.rcvBindRx pdu) = some (.bindRxResponse pdu.listenerUniqueId status) := by
      rw [refused]
      exact answered_first rfl
    rw [answer,if_neg (by simp [failed]),refused]
    exact tracked.send _
  · have answer : answered listener (listener.rcvBindRx pdu) = some (.bindRxResponse pdu.listenerUniqueId .success) := by
      rw [accepted,bind_answered,free]
      rfl
    rw [answer,if_pos rfl,accepted]
    exact tracked.bind valid free (sound valid locked free)

theorem Tracked.unbindStep : Tracked (step (.unbindRxCommand pdu) ⟨listener,bindings⟩) := by
  unfold step bindingsAfter sinkStep
  dsimp only
  rcases rcvUnbindRx_cases listener pdu with ⟨status,failed,refused⟩ | ⟨valid,accepted⟩
  · have answer : answered listener (listener.rcvUnbindRx pdu) = some (.unbindRxResponse pdu.listenerUniqueId status) := by
      rw [refused]
      exact answered_first rfl
    rw [answer,if_neg (by simp [failed]),refused]
    exact tracked.send _
  · have answer : answered listener (listener.rcvUnbindRx pdu) =
        some (.unbindRxResponse pdu.listenerUniqueId .success) := by
      rw [accepted,unbind_answered]
    rw [answer,if_pos rfl,accepted]
    exact tracked.unbind valid

theorem Tracked.savedStep {params : BindingParams} (sound : Sound ⟨listener,bindings⟩ (.savedBinding index params)) :
    Tracked (step (.savedBinding index params) ⟨listener,bindings⟩) := by
  unfold step bindingsAfter sinkStep rcvBindingParams
  dsimp only
  cases valid : listener.sinkValid index with
  | false =>
    rw [Bool.not_false,if_pos rfl,if_neg fun inside => Bool.false_ne_true inside.1]
    exact tracked
  | true =>
    rw [Bool.not_true,if_neg Bool.false_ne_true]
    by_cases empty : params.talkerEntityId = 0 ∨ params.controllerEntityId = 0
    · rw [if_pos empty,if_neg fun given => empty.elim given.2.1 given.2.2.1]
      exact tracked
    · have given := not_or.mp empty
      rw [if_neg empty]
      by_cases state : (listener.sinks index).state = .unbound
      · rw [if_pos ⟨rfl,given.1,given.2,state⟩]
        exact tracked.saved valid state
      · rw [if_neg fun accepted => state accepted.2.2.2]
        have same := sound state given.1 given.2
        rw [modifySink_kept (by rw [same]),sinkSm_savedBound state]
        exact tracked

theorem Tracked.getRxStateStep : Tracked ⟨listener.sinkStep (.getRxStateCommand pdu),bindings⟩ := by
  unfold sinkStep rcvGetRxState
  dsimp only
  split
  · exact tracked.send _
  · unfold sinkSm
    dsimp only
    split <;> exact tracked.send _

end

theorem step_tracked (input : SinkInput) (tracked : state.Tracked) (sound : state.Sound input) :
    (step input state).Tracked := by
  obtain ⟨listener,bindings⟩ := state
  cases input with
  | bindRxCommand pdu => exact tracked.bindStep sound
  | unbindRxCommand pdu => exact tracked.unbindStep
  | getRxStateCommand pdu => exact tracked.getRxStateStep
  | probeTxResponse pdu status => exact tracked.event fun _ => tracked.response sound
  | savedBinding index params => exact tracked.savedStep sound
  | adpAvailable | adpDeparting => exact tracked.adpRcv _ _
  | listenerStatus status params => exact tracked.listenerStatus _ _
  | delayTimer index => exact tracked.delayTimer sound
  | retryTimer index => exact tracked.retryTimer
  | talkerRegistrationTimer index => exact tracked.talkerRegistrationTimer
  | discoveryTimer index => exact tracked.discoveryTimer
  | inflightTimer position => exact tracked.inflightTimer

theorem Tracked.pendingRight (tracked : state.Tracked) : state.PendingRight := by
  refine ⟨.of_map _ tracked.distinct,fun index => ⟨tracked.bound index,?_,?_,tracked.timers index⟩⟩
  · intro waiting
    obtain ⟨entry,member,names⟩ := tracked.probed index waiting
    have waits := tracked.waits entry member
    rw [names] at waits
    refine ⟨entry,member,waits.outstanding,fun other present probe => ?_⟩
    have sequenceId := (tracked.own waiting present).mpr probe.2
    exact List.inj_on_of_nodup_map tracked.distinct present member (sequenceId.trans waits.outstanding.sequenceId.symm)
  · intro idle entry member probe
    exact tracked.idle idle member probe.2

def begun (entityId : UInt64) (maxListenerStreams maxInflights : Nat) (lock : Option UInt64) : BoundListener :=
  ⟨acmpMilanInit entityId maxListenerStreams maxInflights lock,fun _ => none⟩

theorem begun_tracked (entityId : UInt64) (maxListenerStreams maxInflights : Nat) (lock : Option UInt64) :
    (begun entityId maxListenerStreams maxInflights lock).Tracked := by
  refine ⟨List.nodup_nil,fun _ member => (nomatch member),fun _ waiting => (nomatch waiting),fun _ => ?_,fun _ => rfl,
    fun _ isBound => absurd rfl isBound⟩
  constructor
  · rfl
  · rfl
  · rfl
  · exact ⟨fun registering => (nomatch registering),fun settled => (nomatch settled)⟩

/-- No sink is ever left without what it waits for, in the runs in which every input is sound. -/
theorem sinks_pending (entityId : UInt64) (maxListenerStreams maxInflights : Nat) (lock : Option UInt64)
    {inputs : List SinkInput} (sound : Steps step Sound inputs (begun entityId maxListenerStreams maxInflights lock)) :
    (run step inputs (begun entityId maxListenerStreams maxInflights lock)).PendingRight :=
  (run_invariant (I := Tracked) step (fun _ input tracked sound => step_tracked input tracked sound)
    (begun_tracked entityId maxListenerStreams maxInflights lock) sound).pendingRight

def bindCommand : SinkInput := .bindRxCommand ⟨1,10,0,2,0,0,⟨0,0,0,0,0,0⟩,0,0,0,0⟩

theorem sinks_pending_bound : (run step [bindCommand] (begun 2 2 5 none)).PendingRight :=
  sinks_pending 2 2 5 none ⟨fun _ _ _ => ⟨fun _ => ⟨by decide,fun _ member => nomatch member⟩,fun _ => by decide⟩,trivial⟩

def savedWhileProbing : List SinkInput := [bindCommand,.savedBinding 0 ⟨1,11,0,0⟩]

/-- The sink then has the saved parameters in place of those of the bind command. -/
theorem savedWhileProbing_wrong : ¬ (run step savedWhileProbing (begun 2 2 5 none)).PendingRight := by
  intro right
  have bound : (⟨1,11,0,0⟩ : BindingParams) = ⟨1,10,0,0⟩ := (right.sinks 0).bound.2
  exact absurd bound (by decide)

end Runs

end BoundListener

end Genavb.Avdecc

/-! A Milan entity, with all that reaches its stream inputs: the lock, the start and the stop of a
stream, and the bind commands of which a message cannot be sent. -/
namespace Genavb.Avdecc
open BoundListener

/-- What becomes of a probe: it is transmitted, no buffer is allocated for it, or it is put in flight
and not transmitted. -/
inductive ProbeFate where
  | sent
  | noBuffer
  | lost
  deriving DecidableEq

structure BindFate where
  response : Bool
  probe : ProbeFate

inductive EntityInput where
  | milan (input : MilanInput)
  | bindRxCommand (pdu : AcmpPdu) (fate : BindFate)
  | lock (holder : Option UInt64)
  | startStreaming (index : UInt16)
  | stopStreaming (index : UInt16)

def BindFate.fails (restart : Bool) (fate : BindFate) : Bool :=
  !fate.response || (restart && decide (fate.probe ≠ .sent))

namespace MilanListener

def sendIf (sent : Bool) (message : MilanSent) (listener : MilanListener) : MilanListener :=
  if sent then listener.send message else listener

/-- `acmp_milan_send_probe_tx_command`. -/
def probeFate (index : UInt16) (fate : ProbeFate) (listener : MilanListener) : MilanListener :=
  match fate with
  | .sent => listener.sendProbeTxCommand index
  | .noBuffer => listener
  | .lost => {listener.sendProbeTxCommand index with sent := listener.sent}

def listenerBindFails (index : UInt16) (pdu : AcmpPdu) (fate : BindFate) (listener : MilanListener) : MilanListener :=
  let next := (listener.modifySink index ({· with binding := pdu.binding})).sendIf fate.response
    (.bindRxResponse index .success)
  if (listener.sinks index).needBindingRestart pdu then
    (next.probeFate index fate.probe).modifySink index (·.setProbing .active)
  else next

def rcvBindRxFate (pdu : AcmpPdu) (fate : BindFate) (listener : MilanListener) : MilanListener :=
  let index := pdu.listenerUniqueId
  if !listener.sinkValid index then listener.sendIf fate.response (.bindRxResponse index .listenerUnknownId)
  else if listener.isLocked pdu.controllerEntityId then
    listener.sendIf fate.response (.bindRxResponse index .controllerNotAuthorized)
  else if listener.alreadyBoundTo index pdu then listener.sendIf fate.response (.bindRxResponse index .talkerExclusive)
  else if fate.fails ((listener.sinks index).needBindingRestart pdu) then listener.listenerBindFails index pdu fate
  else listener.sinkSm index (.rcvBindRxCmd pdu)

def startStreaming (index : UInt16) (listener : MilanListener) : MilanListener :=
  let sink := listener.sinks index
  if listener.sinkValid index ∧ sink.isBound ∧ sink.binding.flags &&& ACMP_FLAG_STREAMING_WAIT ≠ 0 then
    listener.modifySink index fun sink =>
      {sink with binding := {sink.binding with flags := sink.binding.flags &&& ~~~ACMP_FLAG_STREAMING_WAIT}}
  else listener

def stopStreaming (index : UInt16) (listener : MilanListener) : MilanListener :=
  let sink := listener.sinks index
  if listener.sinkValid index ∧ sink.isBound ∧ sink.binding.flags &&& ACMP_FLAG_STREAMING_WAIT = 0 then
    listener.modifySink index fun sink =>
      {sink with binding := {sink.binding with flags := sink.binding.flags ||| ACMP_FLAG_STREAMING_WAIT}}
  else listener

def entityStep (input : EntityInput) (listener : MilanListener) : MilanListener :=
  match input with
  | .milan input => listener.milanStep input
  | .bindRxCommand pdu fate => listener.rcvBindRxFate pdu fate
  | .lock holder => {listener with lock := holder}
  | .startStreaming index => listener.startStreaming index
  | .stopStreaming index => listener.stopStreaming index

section Sinks
variable {listener : MilanListener} {index other : UInt16} {pdu : AcmpPdu} {fate : BindFate}

@[simp] theorem sendIf_sinks (sent : Bool) (message : MilanSent) :
    (listener.sendIf sent message).sinks = listener.sinks := by
  cases sent with
  | false | true => rfl

@[simp] theorem sendIf_streams (sent : Bool) (message : MilanSent) :
    (listener.sendIf sent message).maxListenerStreams = listener.maxListenerStreams := by
  cases sent with
  | false | true => rfl

theorem sinkSm_refuses (taken : listener.alreadyBoundTo index pdu = true) :
    listener.sinkSm index (.rcvBindRxCmd pdu) = listener.refuseBind index := by
  unfold sinkSm rebind
  dsimp only
  cases state : (listener.sinks index).state with
  | _ => exact if_pos taken

theorem rcvBindRxFate_sent (listener : MilanListener) (pdu : AcmpPdu) :
    listener.rcvBindRxFate pdu ⟨true,.sent⟩ = listener.rcvBindRx pdu := by
  unfold rcvBindRxFate rcvBindRx
  dsimp only
  split
  · rfl
  · split
    · rfl
    · split
      next taken =>
        rw [sinkSm_refuses taken]
        rfl
      · simp [BindFate.fails]

theorem probeFate_but (fate : ProbeFate) : SameBut index listener (listener.probeFate index fate) := by
  cases fate with
  | sent | lost => exact ⟨rfl,fun _ apart => sendProbeTxCommand_other apart⟩
  | noBuffer => exact ⟨rfl,fun _ _ => rfl⟩

theorem probeFate_same (fate : ProbeFate) : ∃ sequenceId, (listener.probeFate index fate).sinks index =
    {listener.sinks index with probeTxSeqId := sequenceId} := by
  cases fate with
  | sent | lost => exact ⟨_,sendProbeTxCommand_same⟩
  | noBuffer => exact ⟨_,rfl⟩

theorem listenerBindFails_but : SameBut index listener (listener.listenerBindFails index pdu fate) := by
  unfold listenerBindFails
  split
  · obtain ⟨streams,others⟩ := @probeFate_but ((listener.modifySink index
      ({· with binding := pdu.binding})).sendIf fate.response (.bindRxResponse index .success)) index fate.probe
    refine ⟨?_,fun other apart => ?_⟩
    · exact streams.trans (sendIf_streams ..)
    · rw [modifySink_other apart,others other apart,sendIf_sinks,modifySink_other apart]
  · refine ⟨sendIf_streams ..,fun other apart => ?_⟩
    rw [sendIf_sinks,modifySink_other apart]

theorem SameBut.refl : SameBut index listener listener := ⟨rfl,fun _ _ => rfl⟩

theorem SameBut.modifySink {after : MilanListener} (same : SameBut index listener after)
    (change : StreamInputDynamicDesc → StreamInputDynamicDesc) :
    SameBut index listener (after.modifySink index change) := by
  refine ⟨same.streams,fun other apart => ?_⟩
  rw [modifySink_other apart]
  exact same.others other apart

theorem SameBut.send {after : MilanListener} (same : SameBut index listener after) (message : MilanSent) :
    SameBut index listener (after.send message) := ⟨same.streams,same.others⟩

private theorem rebind_but {stop : MilanListener → MilanListener}
    (stops : ∀ next, SameBut index listener next → SameBut index listener (stop next)) :
    SameBut index listener (listener.rebind index pdu stop) := by
  unfold rebind
  split
  · exact SameBut.send SameBut.refl _
  · split
    · exact SameBut.modifySink (stops _ listenerBind_but) _
    · exact listenerBind_but

theorem sinkSm_but (event : ListenerSinkSmEvent) : SameBut index listener (listener.sinkSm index event) := by
  have cancelled (sequenceId : UInt16) : SameBut index listener (listener.inflightCancel sequenceId) :=
    ⟨rfl,fun _ _ => rfl⟩
  unfold sinkSm
  dsimp only
  cases event with
  | rcvBindRxCmd pdu =>
    cases (listener.sinks index).state with
    | unbound =>
      dsimp only
      split
      · exact SameBut.send SameBut.refl _
      · exact SameBut.modifySink listenerBind_but _
    | prbWAvail => exact rebind_but fun _ same => same
    | prbWResp | prbWResp2 => exact rebind_but fun _ same => ⟨same.streams,same.others⟩
    | _ => exact rebind_but fun _ same => SameBut.modifySink same _
  | rcvUnbindRxCmd =>
    cases (listener.sinks index).state with
    | prbWResp | prbWResp2 => exact SameBut.send (SameBut.modifySink (cancelled _) _) _
    | _ => exact SameBut.send (SameBut.modifySink SameBut.refl _) _
  | rcvProbeTxResp pdu status =>
    cases (listener.sinks index).state with
    | prbWResp | prbWResp2 =>
      dsimp only
      split
      · exact SameBut.refl
      · exact ⟨by unfold rcvProbeTxResp; dsimp only; split <;> rfl,fun _ apart => rcvProbeTxResp_other apart⟩
    | _ => exact SameBut.refl
  | tmrNoResp =>
    cases (listener.sinks index).state with
    | prbWResp | prbWResp2 =>
      dsimp only
      split
      · exact SameBut.modifySink SameBut.refl _
      · exact SameBut.modifySink SameBut.refl _
    | _ => exact SameBut.refl
  | tmrDelay =>
    cases (listener.sinks index).state with
    | prbWDelay => exact SameBut.modifySink (probeFate_but .sent) _
    | _ => exact SameBut.refl
  | evtTkDeparted =>
    cases (listener.sinks index).state with
    | prbWResp | prbWResp2 => exact SameBut.modifySink (cancelled _) _
    | prbWDelay | prbWRetry => exact SameBut.modifySink SameBut.refl _
    | _ => exact SameBut.refl
  | rcvGetRxState =>
    cases (listener.sinks index).state with
    | _ => exact SameBut.send SameBut.refl _
  | _ =>
    cases (listener.sinks index).state with
    | _ => first | exact SameBut.refl | exact SameBut.modifySink SameBut.refl _

theorem listenerBindFails_same : ∃ sequenceId probing status,
    (listener.listenerBindFails index pdu fate).sinks index =
      {listener.sinks index with
        binding := pdu.binding
        probeTxSeqId := sequenceId
        probingStatus := probing
        acmpStatus := status} := by
  unfold listenerBindFails
  split
  · obtain ⟨sequenceId,same⟩ := @probeFate_same ((listener.modifySink index
      ({· with binding := pdu.binding})).sendIf fate.response (.bindRxResponse index .success)) index fate.probe
    refine ⟨sequenceId,.active,.success,?_⟩
    rw [modifySink_same,same,sendIf_sinks,modifySink_same]
    rfl
  · refine ⟨(listener.sinks index).probeTxSeqId,(listener.sinks index).probingStatus,(listener.sinks index).acmpStatus,?_⟩
    rw [sendIf_sinks,modifySink_same]

end Sinks

end MilanListener

end Genavb.Avdecc
