import Genavb.Avdecc.MilanPending

/-! The discovery of the talker of a Milan sink, the state of the sink and that of its reservation:
what they agree on in every run of an entity. -/
namespace Genavb.Avdecc
open Support BoundListener

namespace StreamInputDynamicDesc

/-- The states of a sink and of its reservation agree with the discovery of the talker. -/
structure AgreesWith (discovered : Bool) (sink : StreamInputDynamicDesc) : Prop where
  away : sink.state = .unbound ∨ sink.state = .prbWAvail → discovered = false
  delay : sink.state = .prbWDelay → discovered = true
  reserved : sink.state = .settledRsvOk ↔ sink.srpState = .registering

structure Agrees (sink : StreamInputDynamicDesc) : Prop where
  timer : sink.adpDiscoveryTimer = sink.talkerDiscovered
  states : sink.AgreesWith sink.talkerDiscovered

/-- A state that a bound sink may be in whether its talker is discovered or not, without reservation. -/
def IsNeutral (state : ListenerSinkSmState) : Prop :=
  state = .prbWResp ∨ state = .prbWResp2 ∨ state = .prbWRetry ∨ state = .settledNoRsv

def joint (sink : StreamInputDynamicDesc) : ListenerSinkSmState × ListenerSinkSrpState × Bool × Bool :=
  (sink.state,sink.srpState,sink.talkerDiscovered,sink.adpDiscoveryTimer)

variable {sink after : StreamInputDynamicDesc} {discovered : Bool}

theorem AgreesWith.congr (agrees : sink.AgreesWith discovered) (state : after.state = sink.state)
    (reservation : after.srpState = sink.srpState) : after.AgreesWith discovered := by
  constructor
  · rw [state]
    exact agrees.away
  · rw [state]
    exact agrees.delay
  · rw [state,reservation]
    exact agrees.reserved

theorem Agrees.congr (agrees : sink.Agrees) (same : after.joint = sink.joint) : after.Agrees := by
  obtain ⟨state,reservation,talker,timer⟩ : after.state = sink.state ∧ after.srpState = sink.srpState ∧
    after.talkerDiscovered = sink.talkerDiscovered ∧ after.adpDiscoveryTimer = sink.adpDiscoveryTimer := by
      simpa [joint] using same
  constructor
  · rw [timer,talker]
    exact agrees.timer
  · rw [talker]
    exact agrees.states.congr state reservation

theorem AgreesWith.agrees (agrees : sink.AgreesWith discovered) (state : after.state = sink.state)
    (reservation : after.srpState = sink.srpState) (talker : after.talkerDiscovered = discovered)
    (timer : after.adpDiscoveryTimer = discovered) : after.Agrees := by
  constructor
  · rw [timer,talker]
  · rw [talker]
    exact agrees.congr state reservation

theorem Agrees.neutral (agrees : sink.Agrees) (talker : after.talkerDiscovered = sink.talkerDiscovered)
    (timer : after.adpDiscoveryTimer = sink.adpDiscoveryTimer) (free : after.srpState = .notRegistering)
    (neutral : IsNeutral after.state) : after.Agrees := by
  constructor
  · rw [timer,talker]
    exact agrees.timer
  · obtain state | state | state | state := neutral
    all_goals exact ⟨by simp [state],by simp [state],by simp [state,free]⟩

theorem AgreesWith.notRegistering (agrees : sink.AgreesWith discovered) (free : sink.state ≠ .settledRsvOk) :
    sink.srpState = .notRegistering := by
  cases srp : sink.srpState with
  | notRegistering => rfl
  | registering => exact absurd (agrees.reserved.mpr srp) free

private theorem reset_agrees {state : ListenerSinkSmState} (timer : sink.adpDiscoveryTimer = sink.talkerDiscovered)
    (free : sink.srpState = .notRegistering) (delay : state ≠ .prbWDelay) (reserved : state ≠ .settledRsvOk) :
    (sink.discoveryReset.enter state).Agrees := by
  rw [discoveryReset_eq]
  unfold enter
  constructor
  · dsimp only
    rw [timer,Bool.and_not_self]
  · constructor
    · intro _
      rfl
    · intro delayed
      exact absurd delayed delay
    · dsimp only
      rw [free]
      exact iff_of_false reserved (by decide)

private theorem probeAgain_agrees (timer : sink.adpDiscoveryTimer = sink.talkerDiscovered)
    (free : sink.srpState = .notRegistering) : sink.probeAgain.Agrees := by
  unfold probeAgain
  split
  next discovered =>
    refine ⟨timer,?_,?_,?_⟩
    · intro away
      simp [enter] at away
    · intro _
      exact discovered
    · exact iff_of_false (by simp [enter]) (by simp [enter,free])
  next hidden =>
    refine ⟨timer,?_,?_,?_⟩
    · intro _
      exact Bool.eq_false_of_not_eq_true hidden
    · intro delayed
      cases delayed
    · exact iff_of_false (by simp [enter]) (by simp [enter,setProbing,free])

private theorem unbound_agrees (timer : sink.adpDiscoveryTimer = false) (hidden : sink.talkerDiscovered = false)
    (free : sink.srpState = .notRegistering) : sink.unbound.Agrees := by
  refine ⟨timer.trans hidden.symm,?_,?_,?_⟩
  · intro _
    exact hidden
  · intro delayed
    cases delayed
  · exact iff_of_false (by simp [unbound,enter]) (by simp [unbound,enter,setProbing,free])

private theorem released_agrees (timer : sink.adpDiscoveryTimer = sink.talkerDiscovered) : sink.released.Agrees := by
  unfold released
  split
  · exact probeAgain_agrees timer rfl
  · exact probeAgain_agrees timer rfl

end StreamInputDynamicDesc

def DiscoveryEvent.IsMessage : DiscoveryEvent → Prop
  | .rcvAdpAvailable _ => True
  | .rcvAdpDeparting _ => True
  | _ => False

namespace MilanListener
open StreamInputDynamicDesc

structure DiscoveryAgrees (listener : MilanListener) : Prop where
  agrees : ∀ index, (listener.sinks index).Agrees
  inside : ∀ index, (listener.sinks index).state ≠ .unbound → listener.sinkValid index = true

variable {listener : MilanListener} {index : UInt16} {pdu : AcmpPdu}

private theorem listenerBind_joint : ((listener.listenerBind index pdu).sinks index).joint = (listener.sinks index).joint := by
  cases restart : (listener.sinks index).needBindingRestart pdu with
  | false =>
    rw [listenerBind_kept restart]
    unfold bindAnswered
    rw [send_sinks,modifySink_same]
    rfl
  | true =>
    rw [listenerBind_same restart]
    rfl

section
variable (agrees : (listener.sinks index).Agrees)
include agrees

private theorem rebind_agrees {stop : MilanListener → MilanListener}
    (stops : ∀ next : MilanListener, (next.sinks index).joint = (listener.sinks index).joint →
      ((stop next).sinks index).adpDiscoveryTimer = ((stop next).sinks index).talkerDiscovered ∧
      ((stop next).sinks index).srpState = .notRegistering) :
    ((listener.rebind index pdu stop).sinks index).Agrees := by
  unfold rebind
  split
  · exact agrees
  · split
    · rw [modifySink_same]
      obtain ⟨timer,free⟩ := stops _ listenerBind_joint
      exact reset_agrees timer free (by decide) (by decide)
    · exact agrees.congr listenerBind_joint

private theorem bind_agrees : ((listener.sinkSm index (.rcvBindRxCmd pdu)).sinks index).Agrees := by
  have timer (next : MilanListener) (same : (next.sinks index).joint = (listener.sinks index).joint) :
      (next.sinks index).adpDiscoveryTimer = (next.sinks index).talkerDiscovered := (agrees.congr same).timer
  have free (next : MilanListener) (same : (next.sinks index).joint = (listener.sinks index).joint)
      (closed : (listener.sinks index).state ≠ .settledRsvOk) : (next.sinks index).srpState = .notRegistering := by
    refine (agrees.congr same).states.notRegistering ?_
    rw [show (next.sinks index).state = (listener.sinks index).state from congrArg (·.1) same]
    exact closed
  unfold sinkSm
  dsimp only
  cases state : (listener.sinks index).state with
  | unbound =>
    dsimp only
    split
    · exact agrees
    · rw [modifySink_same]
      refine reset_agrees (timer _ listenerBind_joint) (free _ listenerBind_joint ?_) (by decide) (by decide)
      simp [state]
  | prbWAvail => exact rebind_agrees agrees fun next same => ⟨timer next same,free next same (by simp [state])⟩
  | prbWResp | prbWResp2 =>
    exact rebind_agrees agrees fun next same => ⟨timer next same,free next same (by simp [state])⟩
  | prbWDelay | prbWRetry =>
    refine rebind_agrees agrees fun next same => ?_
    rw [modifySink_same]
    exact ⟨timer next same,free next same (by simp [state])⟩
  | settledNoRsv | settledRsvOk =>
    refine rebind_agrees agrees fun next same => ?_
    rw [modifySink_same]
    exact ⟨timer next same,rfl⟩

theorem unbind_agrees : ((listener.sinkSm index .rcvUnbindRxCmd).sinks index).Agrees := by
  have timer := agrees.timer
  unfold sinkSm listenerUnbind
  dsimp only
  cases state : (listener.sinks index).state with
  | unbound =>
    have hidden := agrees.states.away (.inl state)
    rw [send_sinks,modifySink_same]
    exact unbound_agrees (timer.trans hidden) hidden (agrees.states.notRegistering (by simp [state]))
  | prbWAvail | prbWDelay | prbWResp | prbWResp2 | prbWRetry =>
    have free := agrees.states.notRegistering (by simp [state])
    rw [send_sinks,modifySink_same]
    apply unbound_agrees
    · simp [discoveryReset_eq,timer]
    · simp [discoveryReset_eq]
    · simp [discoveryReset_eq,free]
  | settledNoRsv | settledRsvOk =>
    rw [send_sinks,modifySink_same]
    apply unbound_agrees
    · simp [discoveryReset_eq,srpStateClear,timer]
    · simp [discoveryReset_eq]
    · simp [discoveryReset_eq,srpStateClear]

theorem getRxState_agrees : ((listener.sinkSm index .rcvGetRxState).sinks index).Agrees := by
  unfold sinkSm
  dsimp only
  cases state : (listener.sinks index).state with
  | _ => exact agrees

theorem noResp_agrees : ((listener.sinkSm index .tmrNoResp).sinks index).Agrees := by
  unfold sinkSm
  dsimp only
  cases state : (listener.sinks index).state with
  | prbWResp | prbWResp2 =>
    have free := agrees.states.notRegistering (by simp [state])
    dsimp only
    split
    · rw [modifySink_same]
      exact agrees.neutral rfl rfl free (.inr (.inl rfl))
    · rw [modifySink_same]
      exact agrees.neutral rfl rfl free (.inr (.inr (.inl rfl)))
  | _ => exact agrees

theorem response_agrees (status : AcmpStatus) :
    ((listener.sinkSm index (.rcvProbeTxResp pdu status)).sinks index).Agrees := by
  unfold sinkSm rcvProbeTxResp
  dsimp only
  cases state : (listener.sinks index).state with
  | prbWResp | prbWResp2 =>
    have free := agrees.states.notRegistering (by simp [state])
    dsimp only
    split
    · exact agrees
    · split
      · rw [modifySink_same]
        exact agrees.neutral rfl rfl free (.inr (.inr (.inl rfl)))
      · rw [modifySink_same]
        exact agrees.neutral rfl rfl free (.inr (.inr (.inr rfl)))
  | _ => exact agrees

theorem saved_agrees : ((listener.sinkSm index .savedBindingParams).sinks index).Agrees := by
  unfold sinkSm
  dsimp only
  cases state : (listener.sinks index).state with
  | unbound =>
    rw [modifySink_same]
    have reset : ((listener.sinks index).discoveryReset.enter .prbWAvail).Agrees :=
      reset_agrees agrees.timer (agrees.states.notRegistering (by simp [state])) (by decide) (by decide)
    exact reset.congr rfl
  | _ => exact agrees

theorem delay_agrees : ((listener.sinkSm index .tmrDelay).sinks index).Agrees := by
  unfold sinkSm
  dsimp only
  cases state : (listener.sinks index).state with
  | prbWDelay =>
    rw [modifySink_same,sendProbeTxCommand_same]
    exact agrees.neutral rfl rfl (agrees.states.notRegistering (by simp [state])) (.inl rfl)
  | _ => exact agrees

theorem retry_agrees : ((listener.sinkSm index .tmrRetry).sinks index).Agrees := by
  unfold sinkSm
  dsimp only
  cases state : (listener.sinks index).state with
  | prbWRetry =>
    rw [modifySink_same]
    exact probeAgain_agrees agrees.timer (agrees.states.notRegistering (by simp [state]))
  | _ => exact agrees

theorem noTk_agrees : ((listener.sinkSm index .tmrNoTk).sinks index).Agrees := by
  unfold sinkSm
  dsimp only
  cases state : (listener.sinks index).state with
  | settledNoRsv =>
    rw [modifySink_same]
    exact released_agrees agrees.timer
  | _ => exact agrees

end

theorem registered_agrees (timer : (listener.sinks index).adpDiscoveryTimer = (listener.sinks index).talkerDiscovered)
    (state : (listener.sinks index).state = .settledNoRsv) (reserved : (listener.sinks index).srpState = .registering) :
    ((listener.sinkSm index .evtTkRegistered).sinks index).Agrees := by
  unfold sinkSm
  dsimp only
  rw [state]
  rw [modifySink_same]
  refine ⟨timer,?_,?_,?_⟩
  · intro away
    simp [enter] at away
  · intro delayed
    cases delayed
  · exact iff_of_true rfl reserved

theorem unregistered_agrees (timer : (listener.sinks index).adpDiscoveryTimer = (listener.sinks index).talkerDiscovered)
    (state : (listener.sinks index).state = .settledRsvOk) :
    ((listener.sinkSm index .evtTkUnregistered).sinks index).Agrees := by
  unfold sinkSm
  dsimp only
  rw [state]
  rw [modifySink_same]
  exact released_agrees timer

private theorem departed_agrees {discovered : Bool} (agrees : (listener.sinks index).AgreesWith discovered) :
    ((listener.sinkSm index .evtTkDeparted).sinks index).AgreesWith false := by
  unfold sinkSm
  dsimp only
  cases state : (listener.sinks index).state with
  | prbWDelay | prbWResp | prbWResp2 | prbWRetry =>
    have free := agrees.notRegistering (by simp [state])
    rw [modifySink_same]
    refine ⟨fun _ => rfl,?_,?_⟩
    · intro delayed
      cases delayed
    · exact iff_of_false (by simp [enter]) (by simp [enter,setProbing,free])
  | _ => exact ⟨fun _ => rfl,by simp [state],agrees.reserved⟩

private theorem discovered_agrees (agrees : (listener.sinks index).AgreesWith false)
    (isBound : (listener.sinks index).state ≠ .unbound) :
    ((listener.sinkSm index .evtTkDiscovered).sinks index).AgreesWith true := by
  unfold sinkSm
  dsimp only
  cases state : (listener.sinks index).state with
  | prbWAvail =>
    have free := agrees.notRegistering (by simp [state])
    refine ⟨?_,fun _ => rfl,?_⟩
    · intro away
      simp [enter] at away
    · exact iff_of_false (by simp [enter]) (by simp [enter,setProbing,free])
  | unbound => exact absurd state isBound
  | prbWDelay => exact absurd (agrees.delay state) (by decide)
  | _ => exact ⟨by simp [state],fun _ => rfl,agrees.reserved⟩

private theorem discovered_kept (next : MilanListener) :
    ((next.sinkSm index .evtTkDiscovered).sinks index).adpDiscoveryTimer = (next.sinks index).adpDiscoveryTimer ∧
    ((next.sinkSm index .evtTkDiscovered).sinks index).talkerDiscovered = (next.sinks index).talkerDiscovered := by
  unfold sinkSm
  dsimp only
  cases state : (next.sinks index).state with
  | prbWAvail =>
    rw [modifySink_same]
    exact ⟨rfl,rfl⟩
  | _ => exact ⟨rfl,rfl⟩

private theorem departed_kept (next : MilanListener) :
    ((next.sinkSm index .evtTkDeparted).sinks index).adpDiscoveryTimer = (next.sinks index).adpDiscoveryTimer ∧
    ((next.sinkSm index .evtTkDeparted).sinks index).talkerDiscovered = (next.sinks index).talkerDiscovered ∧
    ((next.sinks index).state ≠ .unbound → ((next.sinkSm index .evtTkDeparted).sinks index).state ≠ .unbound) := by
  unfold sinkSm
  dsimp only
  cases state : (next.sinks index).state with
  | prbWDelay | prbWResp | prbWResp2 | prbWRetry =>
    rw [modifySink_same]
    exact ⟨rfl,rfl,fun _ => by simp [enter]⟩
  | _ => exact ⟨rfl,rfl,fun isBound => by rwa [state]⟩

private theorem discoverySm_but (event : DiscoveryEvent) : SameBut index listener (listener.discoverySm index event) := by
  have told (next : MilanListener) (same : SameBut index listener next) (event : ListenerSinkSmEvent) :
      SameBut index listener (next.sinkEvent index event) := by
    unfold sinkEvent
    split
    · have changed := @sinkSm_but next index event
      exact ⟨changed.streams.trans same.streams,
        fun other apart => (changed.others other apart).trans (same.others other apart)⟩
    · exact same
  have gone := told listener SameBut.refl .evtTkDeparted
  unfold discoverySm
  dsimp only
  split
  · split
    · split
      · exact SameBut.refl
      · exact SameBut.modifySink (told _ (SameBut.modifySink SameBut.refl _) _) _
    · exact SameBut.refl
  · split
    · split
      · exact SameBut.refl
      · split
        · split
          · exact SameBut.modifySink gone _
          · exact SameBut.modifySink (told _ gone _) _
        · exact SameBut.modifySink SameBut.refl _
    · split
      · exact SameBut.refl
      · exact SameBut.modifySink (told _ (SameBut.modifySink SameBut.refl _) _) _
    · exact SameBut.modifySink gone _
    · exact SameBut.modifySink SameBut.refl _

private theorem sinkEvent_valid (valid : listener.sinkValid index = true) (event : ListenerSinkSmEvent) :
    listener.sinkEvent index event = listener.sinkSm index event := if_pos valid

theorem noAdp_agrees (states : (listener.sinks index).AgreesWith (listener.sinks index).talkerDiscovered)
    (stopped : (listener.sinks index).adpDiscoveryTimer = false) (valid : listener.sinkValid index = true) :
    ((listener.discoverySm index .tmrNoAdp).sinks index).Agrees := by
  unfold discoverySm
  dsimp only
  split
  next hidden =>
    refine ⟨?_,states⟩
    rw [stopped]
    simpa using hidden
  · rw [sinkEvent_valid valid,modifySink_same]
    refine (departed_agrees states).agrees rfl rfl rfl ?_
    exact (departed_kept listener).1.trans stopped

theorem rcvAdp_agrees (agrees : (listener.sinks index).Agrees) (valid : listener.sinkValid index = true)
    (isBound : (listener.sinks index).state ≠ .unbound) {event : DiscoveryEvent} (message : event.IsMessage) :
    ((listener.discoverySm index event).sinks index).Agrees := by
  have gone := departed_agrees agrees.states
  obtain ⟨goneTimer,goneTalker,goneBound⟩ := @departed_kept index listener
  have goneValid : (listener.sinkSm index .evtTkDeparted).sinkValid index = true := by
    rw [← valid]
    unfold sinkValid
    rw [(sinkSm_but .evtTkDeparted).streams]
  unfold discoverySm
  dsimp only
  split
  next hidden =>
    have hidden : (listener.sinks index).talkerDiscovered = false := by simpa using hidden
    split
    next pdu =>
      split
      · exact agrees
      · have away : ((listener.modifySink index ({· with
            availableIndex := pdu.availableIndex
            interfaceIndex := pdu.interfaceIndex
            adpDiscoveryTimer := true})).sinks index).AgreesWith false := by
          rw [modifySink_same,← hidden]
          exact agrees.states.congr rfl rfl
        rw [sinkEvent_valid (by exact valid),modifySink_same]
        refine (discovered_agrees away ?_).agrees rfl rfl rfl ?_
        · rw [modifySink_same]
          exact isBound
        · dsimp only
          rw [(discovered_kept _).1,modifySink_same]
    · exact agrees
  next shown =>
    have shown : (listener.sinks index).talkerDiscovered = true := by simpa using shown
    rw [sinkEvent_valid valid]
    split
    next pdu =>
      split
      · exact agrees
      · split
        · split
          · rw [modifySink_same]
            exact gone.agrees rfl rfl rfl rfl
          · rw [modifySink_same,sinkEvent_valid goneValid]
            refine (discovered_agrees gone (goneBound isBound)).agrees rfl rfl ?_ rfl
            rw [(discovered_kept _).2,goneTalker,shown]
        · rw [modifySink_same]
          refine agrees.states.agrees rfl rfl rfl ?_
          exact shown.symm
    next pdu =>
      split
      · exact agrees
      · have stopped : ((listener.modifySink index ({· with adpDiscoveryTimer := false})).sinks index).AgreesWith
            (listener.sinks index).talkerDiscovered := by
          rw [modifySink_same]
          exact agrees.states.congr rfl rfl
        rw [sinkEvent_valid (by exact valid),modifySink_same]
        refine (departed_agrees stopped).agrees rfl rfl rfl ?_
        rw [(departed_kept _).1,modifySink_same]
    · exact message.elim
    · exact message.elim

section Runs

section
variable (agrees : listener.DiscoveryAgrees)
include agrees

theorem DiscoveryAgrees.change {after : MilanListener}
    (valid : listener.sinkValid index = true) (same : SameBut index listener after)
    (own : (after.sinks index).Agrees) : after.DiscoveryAgrees := by
  constructor
  · intro other
    by_cases here : other = index
    · rw [here]
      exact own
    · rw [same.others other here]
      exact agrees.agrees other
  · intro other isBound
    unfold sinkValid
    rw [same.streams]
    by_cases here : other = index
    · rw [here]
      exact valid
    · rw [same.others other here] at isBound
      exact agrees.inside other isBound

theorem DiscoveryAgrees.congr {after : MilanListener}
    (streams : after.maxListenerStreams = listener.maxListenerStreams)
    (same : ∀ index, (after.sinks index).joint = (listener.sinks index).joint) : after.DiscoveryAgrees := by
  constructor
  · intro index
    exact (agrees.agrees index).congr (same index)
  · intro index isBound
    unfold sinkValid
    rw [streams]
    refine agrees.inside index ?_
    rwa [← show (after.sinks index).state = (listener.sinks index).state from congrArg (·.1) (same index)]

theorem DiscoveryAgrees.modify {change : StreamInputDynamicDesc → StreamInputDynamicDesc}
    (same : ∀ sink, (change sink).joint = sink.joint) : (listener.modifySink index change).DiscoveryAgrees := by
  refine agrees.congr rfl fun other => ?_
  by_cases here : other = index
  · rw [here,modifySink_same]
    exact same _
  · rw [modifySink_other here]

variable {event : ListenerSinkSmEvent}

theorem DiscoveryAgrees.sinkSm (valid : listener.sinkValid index = true)
    (keeps : ((listener.sinkSm index event).sinks index).Agrees) :
    (listener.sinkSm index event).DiscoveryAgrees := agrees.change valid (sinkSm_but event) keeps

theorem DiscoveryAgrees.sinkEvent
    (keeps : ((listener.sinkSm index event).sinks index).Agrees) : (listener.sinkEvent index event).DiscoveryAgrees := by
  unfold MilanListener.sinkEvent
  split
  next valid => exact agrees.sinkSm valid keeps
  · exact agrees

theorem DiscoveryAgrees.adpRcv (entityId : UInt64) {event : DiscoveryEvent}
    (message : event.IsMessage) : (listener.adpRcv entityId event).DiscoveryAgrees := by
  unfold MilanListener.adpRcv
  generalize List.range listener.maxListenerStreams = indices
  induction indices generalizing listener with
  | nil => exact agrees
  | cons index rest ih =>
    rw [List.foldl_cons]
    apply ih
    dsimp only
    split
    next bound =>
      have isBound : (listener.sinks (.ofNat index)).state ≠ .unbound := by simpa [isBound] using bound.1
      have valid := agrees.inside _ isBound
      exact agrees.change valid (discoverySm_but event) (rcvAdp_agrees (agrees.agrees _) valid isBound message)
    · exact agrees

theorem DiscoveryAgrees.discoveryTimer : (listener.sinkStep (.discoveryTimer index)).DiscoveryAgrees := by
  unfold sinkStep
  dsimp only
  split
  next runs =>
    have own := agrees.agrees index
    have shown : (listener.sinks index).talkerDiscovered = true := own.timer.symm.trans runs
    have valid : listener.sinkValid index = true := by
      refine agrees.inside index fun unbound => ?_
      exact absurd (shown.symm.trans (own.states.away (.inl unbound))) (by decide)
    have but := @discoverySm_but (listener.modifySink index ({· with adpDiscoveryTimer := false})) index
      .tmrNoAdp
    refine agrees.change valid ⟨but.streams,fun other apart => ?_⟩ (noAdp_agrees ?_ ?_ valid)
    · rw [but.others other apart,modifySink_other apart]
    · rw [modifySink_same]
      exact own.states.congr rfl rfl
    · rw [modifySink_same]
  · exact agrees

theorem DiscoveryAgrees.timerExpires {runs : StreamInputDynamicDesc → Bool}
    {stop : StreamInputDynamicDesc → StreamInputDynamicDesc} (same : ∀ sink, (stop sink).joint = sink.joint)
    (keeps : ∀ next : MilanListener, (next.sinks index).Agrees → ((next.sinkSm index event).sinks index).Agrees) :
    (listener.timerExpires index runs stop event).DiscoveryAgrees := by
  unfold MilanListener.timerExpires
  split
  · have stopped : (listener.modifySink index stop).DiscoveryAgrees := agrees.modify same
    exact stopped.sinkEvent (keeps _ (stopped.agrees index))
  · exact agrees

theorem DiscoveryAgrees.srpStateSm (status : ListenerStreamStatus) (params : SrpParams) :
    (listener.srpStateSm index status params).DiscoveryAgrees := by
  have own := agrees.agrees index
  unfold MilanListener.srpStateSm
  dsimp only
  split
  · exact agrees
  next settled =>
    have settled : (listener.sinks index).state = .settledNoRsv ∨ (listener.sinks index).state = .settledRsvOk := by
      simpa [isSettled,or_iff_not_imp_left] using settled
    have isBound : (listener.sinks index).state ≠ .unbound := by
      obtain state | state := settled
      all_goals simp [state]
    have valid := agrees.inside index isBound
    split
    · exact agrees
    · have noted : (listener.modifySink index ({· with srpStreamStatus := status})).DiscoveryAgrees :=
        agrees.modify fun _ => rfl
      -- The two states of the reservation are those of the settled sink.
      cases srp : (listener.sinks index).srpState with
      | notRegistering =>
        have state : (listener.sinks index).state = .settledNoRsv := by
          obtain state | state := settled
          · exact state
          · exact absurd (srp.symm.trans (own.states.reserved.mp state)) (by decide)
        dsimp only
        split
        · rw [modifySink_modifySink,sinkEvent_valid (by exact valid)]
          have but := @sinkSm_but (listener.modifySink index fun sink =>
            {sink with srpStreamStatus := status,srpState := .registering}) index .evtTkRegistered
          refine agrees.change valid ⟨but.streams,fun other apart => ?_⟩ (registered_agrees ?_ ?_ ?_)
          · rw [but.others other apart,modifySink_other apart]
          all_goals rw [modifySink_same]
          · exact own.timer
          · exact state
        · exact noted
      | registering =>
        dsimp only
        split
        · rw [modifySink_modifySink,sinkEvent_valid (by exact valid)]
          have but := @sinkSm_but (listener.modifySink index fun sink =>
            {sink with srpStreamStatus := status,srpState := .notRegistering}) index .evtTkUnregistered
          refine agrees.change valid ⟨but.streams,fun other apart => ?_⟩ (unregistered_agrees ?_ ?_)
          · rw [but.others other apart,modifySink_other apart]
          all_goals rw [modifySink_same]
          · exact own.timer
          · exact own.states.reserved.mpr srp
        · exact noted

theorem DiscoveryAgrees.inflightTimeout (position : Nat) : (listener.inflightTimeout position).DiscoveryAgrees := by
  have noResp (index : UInt16) : (listener.sinkEvent index .tmrNoResp).DiscoveryAgrees :=
    agrees.sinkEvent (noResp_agrees (agrees.agrees index))
  unfold MilanListener.inflightTimeout
  split
  · exact agrees
  next entry _ =>
    split
    · exact (noResp entry.pdu.listenerUniqueId).congr rfl fun _ => rfl
    · split
      · exact agrees.congr rfl fun _ => rfl
      · exact (noResp entry.pdu.listenerUniqueId).congr rfl fun _ => rfl

theorem DiscoveryAgrees.saved (binding : BindingParams) :
    (listener.rcvBindingParams index binding).DiscoveryAgrees := by
  unfold rcvBindingParams
  split
  · exact agrees
  next valid =>
    have valid : listener.sinkValid index = true := by simpa using valid
    split
    · exact agrees
    · have written : (listener.modifySink index ({· with binding := binding})).DiscoveryAgrees :=
        agrees.modify fun _ => rfl
      exact written.sinkSm valid (saved_agrees (written.agrees index))

theorem DiscoveryAgrees.bind (pdu : AcmpPdu) : (listener.rcvBindRx pdu).DiscoveryAgrees := by
  obtain ⟨status,_,refused⟩ | ⟨valid,_,_,told⟩ := rcvBindRx_cases listener pdu
  · rw [refused]
    exact agrees.congr rfl fun _ => rfl
  · rw [told]
    exact agrees.sinkSm valid (bind_agrees (agrees.agrees _))

theorem DiscoveryAgrees.sinkStep (input : SinkInput) : (listener.sinkStep input).DiscoveryAgrees := by
  cases input with
  | bindRxCommand pdu => exact agrees.bind pdu
  | unbindRxCommand pdu =>
    unfold MilanListener.sinkStep
    dsimp only
    obtain ⟨status,_,refused⟩ | ⟨valid,told⟩ := rcvUnbindRx_cases listener pdu
    · rw [refused]
      exact agrees.congr rfl fun _ => rfl
    · rw [told]
      exact agrees.sinkSm valid (unbind_agrees (agrees.agrees _))
  | getRxStateCommand pdu =>
    unfold MilanListener.sinkStep rcvGetRxState
    dsimp only
    split
    · exact agrees.congr rfl fun _ => rfl
    next valid => exact agrees.sinkSm (by simpa using valid) (getRxState_agrees (agrees.agrees _))
  | probeTxResponse pdu status => exact agrees.sinkEvent (response_agrees (agrees.agrees _) status)
  | savedBinding index binding => exact agrees.saved binding
  | adpAvailable pdu | adpDeparting pdu => exact agrees.adpRcv pdu.entityId trivial
  | listenerStatus status params =>
    unfold MilanListener.sinkStep MilanListener.listenerStatus
    dsimp only
    split
    · exact agrees
    · exact agrees.srpStateSm status params
  | delayTimer index => exact agrees.timerExpires (fun _ => rfl) fun _ => delay_agrees
  | retryTimer index => exact agrees.timerExpires (fun _ => rfl) fun _ => retry_agrees
  | talkerRegistrationTimer index => exact agrees.timerExpires (fun _ => rfl) fun _ => noTk_agrees
  | discoveryTimer index => exact agrees.discoveryTimer
  | inflightTimer position => exact agrees.inflightTimeout position

theorem DiscoveryAgrees.bindFate (pdu : AcmpPdu) (fate : BindFate) :
    (listener.rcvBindRxFate pdu fate).DiscoveryAgrees := by
  have answered (status : AcmpStatus) :
      (listener.sendIf fate.response (.bindRxResponse pdu.listenerUniqueId status)).DiscoveryAgrees :=
    agrees.congr (sendIf_streams ..) fun _ => by rw [sendIf_sinks]
  unfold rcvBindRxFate
  dsimp only
  split
  · exact answered _
  next valid =>
    have valid : listener.sinkValid pdu.listenerUniqueId = true := by simpa using valid
    split
    · exact answered _
    · split
      · exact answered _
      · split
        · refine agrees.change valid listenerBindFails_but ?_
          obtain ⟨_,_,_,same⟩ := @listenerBindFails_same listener pdu.listenerUniqueId pdu fate
          rw [same]
          exact (agrees.agrees _).congr rfl
        · exact agrees.sinkSm valid (bind_agrees (agrees.agrees _))

theorem DiscoveryAgrees.entityStep (input : EntityInput) : (listener.entityStep input).DiscoveryAgrees := by
  cases input with
  | milan input =>
    cases input with
    | sink input => exact agrees.sinkStep input
    | controllerCommand | controllerResponse => exact agrees.congr rfl fun _ => rfl
  | bindRxCommand pdu fate => exact agrees.bindFate pdu fate
  | lock holder => exact agrees.congr rfl fun _ => rfl
  | startStreaming index =>
    unfold MilanListener.entityStep startStreaming
    dsimp only
    split
    · exact agrees.modify fun _ => rfl
    · exact agrees
  | stopStreaming index =>
    unfold MilanListener.entityStep stopStreaming
    dsimp only
    split
    · exact agrees.modify fun _ => rfl
    · exact agrees

end

theorem acmpMilanInit_agrees (entityId : UInt64) (maxListenerStreams maxInflights : Nat) (lock : Option UInt64) :
    (acmpMilanInit entityId maxListenerStreams maxInflights lock).DiscoveryAgrees := by
  constructor
  · intro index
    refine ⟨rfl,fun _ => rfl,?_,?_⟩
    · intro delayed
      cases delayed
    · exact iff_of_false (by simp [acmpMilanInit,unboundSink]) (by simp [acmpMilanInit,unboundSink])
  · intro index isBound
    exact absurd rfl isBound

/-- In every run of an entity the discovery timer of a sink runs exactly while its talker is
discovered, and the states of the sink and of its reservation agree with it. -/
theorem discovery_agrees (entityId : UInt64) (maxListenerStreams maxInflights : Nat) (lock : Option UInt64)
    (inputs : List EntityInput) (index : UInt16) :
    let sink := (run entityStep inputs (acmpMilanInit entityId maxListenerStreams maxInflights lock)).sinks index
    sink.adpDiscoveryTimer = sink.talkerDiscovered ∧
    (sink.state = .unbound ∨ sink.state = .prbWAvail → sink.talkerDiscovered = false) ∧
    (sink.state = .prbWDelay → sink.talkerDiscovered = true) ∧
    (sink.state = .settledRsvOk ↔ sink.srpState = .registering) := by
  have agrees : (run entityStep inputs (acmpMilanInit entityId maxListenerStreams maxInflights lock)).DiscoveryAgrees :=
    run_invariant entityStep (fun _ input agrees _ => agrees.entityStep input) (acmpMilanInit_agrees ..)
      (steps_always entityStep inputs _)
  obtain ⟨timer,away,delay,reserved⟩ := agrees.agrees index
  exact ⟨timer,away,delay,reserved⟩

end Runs

end MilanListener

end Genavb.Avdecc
