import Genavb.Avdecc.MilanSinks

/-! The events of a sink of a Milan listener, with the discovery of its talker and its timers. -/
namespace Genavb.Avdecc
open Maap (MacAddress)

namespace StreamInputDynamicDesc

def core (sink : StreamInputDynamicDesc) : StreamInputDynamicDesc :=
  {sink with
    srp := .zero
    probingStatus := .disabled
    acmpStatus := .success
    srpStreamStatus := .noTalker
    talkerDiscovered := false
    availableIndex := 0
    interfaceIndex := 0
    adpDiscoveryTimer := false}

variable {sink first second : StreamInputDynamicDesc} {binding : Option BindingParams}

theorem core_congr (same : first.core = second.core) {β : Type} (field : StreamInputDynamicDesc → β)
    (reads : ∀ sink, field sink.core = field sink) : field first = field second := by
  rw [← reads first,← reads second,same]

theorem TimersRight.congr (same : first.core = second.core) (right : first.TimersRight) : second.TimersRight := by
  have state := core_congr same (·.state) fun _ => rfl
  have delay := core_congr same (·.acmpDelayTimer) fun _ => rfl
  have retry := core_congr same (·.acmpRetryTimer) fun _ => rfl
  have registration := core_congr same (·.acmpTalkerRegistrationTimer) fun _ => rfl
  have reserved := core_congr same (·.srpState) fun _ => rfl
  constructor
  · rw [← delay,← state,right.delay]
  · rw [← retry,← state,right.retry]
  · rw [← registration,← state,right.registration]
  · rw [← reserved,← state]
    exact right.reserved

theorem BoundBy.congr (bound : first.BoundBy binding) (unbound : second.state = .unbound ↔ first.state = .unbound)
    (same : second.binding = first.binding) : second.BoundBy binding := by
  cases binding with
  | none => exact unbound.mpr bound
  | some params => exact ⟨fun given => bound.1 (unbound.mp given),same.trans bound.2⟩

end StreamInputDynamicDesc

namespace BoundListener
open MilanListener
open StreamInputDynamicDesc

section Events
variable {listener after : MilanListener} {bindings : UInt16 → Option BindingParams} {index : UInt16}

theorem Tracked.of_update (tracked : Tracked ⟨after,Function.update bindings index (bindings index)⟩) :
    Tracked ⟨after,bindings⟩ := by rwa [Function.update_eq_self] at tracked

section
variable (tracked : Tracked ⟨listener,bindings⟩)
include tracked

theorem Tracked.congr (inflight : after.acmp = listener.acmp)
    (streams : after.maxListenerStreams = listener.maxListenerStreams)
    (same : ∀ index, (after.sinks index).core = (listener.sinks index).core) : Tracked ⟨after,bindings⟩ := by
  have state (index : UInt16) : (after.sinks index).state = (listener.sinks index).state :=
    core_congr (same index) (·.state) fun _ => rfl
  have binding (index : UInt16) : (after.sinks index).binding = (listener.sinks index).binding :=
    core_congr (same index) (·.binding) fun _ => rfl
  have waiting (index : UInt16) : (after.sinks index).isWaiting = (listener.sinks index).isWaiting :=
    core_congr (same index) isWaiting fun _ => rfl
  refine ⟨?_,?_,?_,fun index => (tracked.timers index).congr (same index).symm,?_,?_⟩
  · dsimp only
    rw [inflight]
    exact tracked.distinct
  · intro entry member
    rw [inflight] at member
    have before := tracked.waits entry member
    refine ⟨⟨before.outstanding.probe,?_,?_⟩,(waiting _).trans before.waiting,?_⟩
    · exact before.outstanding.sequenceId.trans (core_congr (same _) (·.probeTxSeqId) fun _ => rfl).symm
    · exact (core_congr (same _) (isTalker _ _) fun _ => rfl).trans before.outstanding.talker
    · rw [state]
      exact before.retried
  · intro index waits
    rw [inflight]
    exact tracked.probed index ((waiting index).symm.trans waits)
  · intro index
    exact (tracked.bound index).congr (by dsimp only; rw [state]) (binding index)
  · intro index isBound
    rw [state] at isBound
    unfold sinkValid
    rw [streams]
    exact tracked.inside index isBound

theorem Tracked.modify
    {change : StreamInputDynamicDesc → StreamInputDynamicDesc} (same : ∀ sink, (change sink).core = sink.core) :
    Tracked ⟨listener.modifySink index change,bindings⟩ := by
  refine tracked.congr rfl rfl fun other => ?_
  by_cases here : other = index
  · rw [here,modifySink_same]
    exact same _
  · rw [modifySink_other here]

theorem Tracked.moves (valid : listener.sinkValid index = true)
    (idle : (listener.sinks index).isWaiting = false) {change : StreamInputDynamicDesc → StreamInputDynamicDesc}
    (stillIdle : (change (listener.sinks index)).isWaiting = false) (timers : (change (listener.sinks index)).TimersRight)
    (bound : (change (listener.sinks index)).BoundBy (bindings index)) :
    Tracked ⟨listener.modifySink index change,bindings⟩ := by
  refine .of_update (tracked.quiet valid idle ⟨rfl,fun _ apart => modifySink_other apart⟩ rfl ?_ ?_ ?_)
  all_goals rw [modifySink_same]
  · exact stillIdle
  · exact timers
  · exact bound

end

theorem idle_of_state {sink : StreamInputDynamicDesc} {state : ListenerSinkSmState} (same : sink.state = state)
    (first : state ≠ .prbWResp) (second : state ≠ .prbWResp2) : sink.isWaiting = false := by
  unfold StreamInputDynamicDesc.isWaiting
  simp [same,first,second]

section
variable (tracked : Tracked ⟨listener,bindings⟩)
include tracked

theorem Tracked.departed (valid : listener.sinkValid index = true) :
    Tracked ⟨listener.sinkSm index .evtTkDeparted,bindings⟩ := by
  obtain ⟨delay,retry,registration,reserved⟩ := tracked.timers index
  have bound := tracked.bound index
  dsimp only at delay retry registration reserved bound
  unfold sinkSm
  dsimp only
  cases state : (listener.sinks index).state with
  | prbWDelay =>
    rw [state] at delay retry registration reserved
    refine tracked.moves valid (idle_of_state state (by decide) (by decide)) rfl ?_ (bound.congr (by simp [enter,state]) rfl)
    constructor <;> simp [enter,setProbing,retry,registration,reserved]
  | prbWRetry =>
    rw [state] at delay retry registration reserved
    refine tracked.moves valid (idle_of_state state (by decide) (by decide)) rfl ?_ (bound.congr (by simp [enter,state]) rfl)
    constructor <;> simp [enter,setProbing,delay,registration,reserved]
  | prbWResp | prbWResp2 =>
    rw [state] at delay retry registration reserved
    refine .of_update (tracked.cancels ?_ (by rw [state]; decide) ⟨rfl,fun _ apart => modifySink_other apart⟩ rfl ?_ ?_ ?_)
    · exact isWaiting_iff.mpr (by simp [state])
    all_goals rw [modifySink_same]
    · rfl
    · constructor <;> simp [enter,setProbing,delay,retry,registration,reserved]
    · exact bound.congr (by simp [enter,state]) rfl
  | _ => exact tracked

theorem Tracked.discovered (valid : listener.sinkValid index = true) :
    Tracked ⟨listener.sinkSm index .evtTkDiscovered,bindings⟩ := by
  obtain ⟨delay,retry,registration,reserved⟩ := tracked.timers index
  have bound := tracked.bound index
  dsimp only at delay retry registration reserved bound
  unfold sinkSm
  dsimp only
  cases state : (listener.sinks index).state with
  | prbWAvail =>
    rw [state] at delay retry registration reserved
    refine tracked.moves valid (idle_of_state state (by decide) (by decide)) rfl ?_ (bound.congr (by simp [enter,state]) rfl)
    constructor <;> simp [enter,setProbing,retry,registration,reserved]
  | _ => exact tracked

theorem Tracked.event {event : ListenerSinkSmEvent}
    (keeps : listener.sinkValid index = true → Tracked ⟨listener.sinkSm index event,bindings⟩) :
    Tracked ⟨listener.sinkEvent index event,bindings⟩ := by
  unfold sinkEvent
  split
  next valid => exact keeps valid
  · exact tracked

theorem Tracked.discoverySm (event : DiscoveryEvent) : Tracked ⟨listener.discoverySm index event,bindings⟩ := by
  unfold MilanListener.discoverySm
  dsimp only
  split
  · split
    · split
      · exact tracked
      · refine Tracked.modify ?_ fun _ => rfl
        refine Tracked.event ?_ (Tracked.discovered ?_)
        all_goals exact tracked.modify fun _ => rfl
    · exact tracked
  · split
    · split
      · exact tracked
      · split
        · have gone : Tracked ⟨listener.sinkEvent index .evtTkDeparted,bindings⟩ := tracked.event tracked.departed
          split
          · exact gone.modify fun _ => rfl
          · exact (gone.event gone.discovered).modify fun _ => rfl
        · exact tracked.modify fun _ => rfl
    · split
      · exact tracked
      · refine Tracked.modify ?_ fun _ => rfl
        refine Tracked.event ?_ (Tracked.departed ?_)
        all_goals exact tracked.modify fun _ => rfl
    · exact (tracked.event tracked.departed).modify fun _ => rfl
    · refine tracked.modify fun sink => ?_
      rw [discoveryReset_eq]
      rfl

theorem Tracked.adpRcv (entityId : UInt64) (event : DiscoveryEvent) :
    Tracked ⟨listener.adpRcv entityId event,bindings⟩ := by
  unfold MilanListener.adpRcv
  generalize List.range listener.maxListenerStreams = indices
  induction indices generalizing listener with
  | nil => exact tracked
  | cons index rest ih =>
    refine ih ?_
    dsimp only
    split
    · exact tracked.discoverySm event
    · exact tracked

end

end Events

section Timers
variable {listener : MilanListener} {bindings : UInt16 → Option BindingParams} {index : UInt16}

theorem modifySink_modifySink (first second : StreamInputDynamicDesc → StreamInputDynamicDesc) :
    (listener.modifySink index first).modifySink index second =
      listener.modifySink index fun sink => second (first sink) := by
  unfold modifySink
  dsimp only
  rw [Function.update_idem,Function.update_self]

private theorem probeAgain_right {sink : StreamInputDynamicDesc} (delay : sink.acmpDelayTimer = false)
    (retry : sink.acmpRetryTimer = false) (registration : sink.acmpTalkerRegistrationTimer = false)
    (reserved : sink.srpState = .notRegistering) : sink.probeAgain.TimersRight := by
  unfold probeAgain
  split
  · constructor <;> simp [enter,retry,registration,reserved]
  · constructor <;> simp [enter,setProbing,delay,retry,registration,reserved]

theorem probeAgain_idle (sink : StreamInputDynamicDesc) :
    sink.probeAgain.isWaiting = false ∧ sink.probeAgain.state ≠ .unbound ∧ sink.probeAgain.binding = sink.binding := by
  unfold probeAgain
  split
  · exact ⟨rfl,by simp [enter],rfl⟩
  · exact ⟨rfl,by simp [enter],rfl⟩

private theorem released_right {sink : StreamInputDynamicDesc} (delay : sink.acmpDelayTimer = false)
    (retry : sink.acmpRetryTimer = false) (registration : sink.acmpTalkerRegistrationTimer = false) :
    sink.released.TimersRight := by
  unfold released
  split
  · exact probeAgain_right delay retry registration rfl
  · exact probeAgain_right delay retry registration rfl

theorem released_idle (sink : StreamInputDynamicDesc) :
    sink.released.isWaiting = false ∧ sink.released.state ≠ .unbound ∧ sink.released.binding = sink.binding := by
  unfold released
  split
  · exact probeAgain_idle _
  · exact probeAgain_idle _

section
variable (tracked : Tracked ⟨listener,bindings⟩)
include tracked

theorem Tracked.state_of {timer : Bool} {state : ListenerSinkSmState}
    (runs : timer = true) (right : timer = decide ((listener.sinks index).state = state)) (isBound : state ≠ .unbound) :
    (listener.sinks index).state = state ∧ listener.sinkValid index = true := by
  have here : (listener.sinks index).state = state := of_decide_eq_true (right.symm.trans runs)
  exact ⟨here,tracked.inside index (by rw [here]; exact isBound)⟩

theorem Tracked.delayTimer
    (room : (listener.sinks index).acmpDelayTimer = true → listener.Room) :
    Tracked ⟨listener.sinkStep (.delayTimer index),bindings⟩ := by
  unfold sinkStep timerExpires sinkEvent
  dsimp only
  split
  next runs =>
    obtain ⟨delay,retry,registration,reserved⟩ := tracked.timers index
    obtain ⟨state,valid⟩ := tracked.state_of runs delay (by decide)
    dsimp only at delay retry registration reserved
    rw [state] at retry registration reserved
    have same : SameBut index listener (((listener.modifySink index ({· with acmpDelayTimer := false})).sendProbeTxCommand
        index).modifySink index (·.enter .prbWResp)) :=
      ⟨rfl,fun _ apart => by rw [modifySink_other apart,sendProbeTxCommand_other apart,modifySink_other apart]⟩
    have sent : (((listener.modifySink index ({· with acmpDelayTimer := false})).sendProbeTxCommand index).modifySink index
        (·.enter .prbWResp)).sinks index = enter .prbWResp
          {listener.sinks index with acmpDelayTimer := false,probeTxSeqId := listener.acmp.sequenceId} := by
      rw [modifySink_same,sendProbeTxCommand_same,modifySink_same]
      rfl
    rw [if_pos (show (listener.modifySink index _).sinkValid index = true from valid)]
    unfold sinkSm
    simp only [modifySink_same,state]
    refine .of_update (tracked.sends valid (idle_of_state state (by decide) (by decide)) same (room runs) rfl ?_ ?_ ?_)
    · refine ⟨by rw [sent]; rfl,by rw [sent]; rfl,?_,rfl⟩
      rw [sent]
      unfold isTalker probeTxCommand
      simp [enter]
    · rw [sent]
      constructor <;> simp [enter,retry,registration,reserved]
    · rw [sent]
      exact (tracked.bound index).congr (by simp [enter,state]) rfl
  · exact tracked

theorem Tracked.retryTimer : Tracked ⟨listener.sinkStep (.retryTimer index),bindings⟩ := by
  unfold sinkStep timerExpires sinkEvent
  dsimp only
  split
  next runs =>
    obtain ⟨delay,retry,registration,reserved⟩ := tracked.timers index
    obtain ⟨state,valid⟩ := tracked.state_of runs retry (by decide)
    rw [state] at delay registration reserved
    rw [if_pos (show (listener.modifySink index _).sinkValid index = true from valid)]
    unfold sinkSm
    simp only [modifySink_same,state,modifySink_modifySink]
    obtain ⟨idle,isBound,binding⟩ := probeAgain_idle {listener.sinks index with acmpRetryTimer := false}
    refine tracked.moves valid (idle_of_state state (by decide) (by decide)) idle ?_ ?_
    · refine probeAgain_right ?_ rfl ?_ ?_
      · simpa using delay
      · simpa using registration
      · cases srp : (listener.sinks index).srpState with
        | notRegistering => rfl
        | registering => exact absurd (reserved.mp srp) (by decide)
    · exact (tracked.bound index).congr (iff_of_false isBound (by rw [state]; decide)) binding
  · exact tracked

theorem Tracked.talkerRegistrationTimer : Tracked ⟨listener.sinkStep (.talkerRegistrationTimer index),bindings⟩ := by
  unfold sinkStep timerExpires sinkEvent
  dsimp only
  split
  next runs =>
    obtain ⟨delay,retry,registration,-⟩ := tracked.timers index
    obtain ⟨state,valid⟩ := tracked.state_of runs registration (by decide)
    rw [state] at delay retry
    rw [if_pos (show (listener.modifySink index _).sinkValid index = true from valid)]
    unfold sinkSm
    simp only [modifySink_same,state,modifySink_modifySink]
    obtain ⟨idle,isBound,binding⟩ := released_idle {listener.sinks index with acmpTalkerRegistrationTimer := false}
    refine tracked.moves valid (idle_of_state state (by decide) (by decide)) idle (released_right ?_ ?_ rfl) ?_
    · simpa using delay
    · simpa using retry
    · exact (tracked.bound index).congr (iff_of_false isBound (by rw [state]; decide)) binding
  · exact tracked

theorem Tracked.discoveryTimer : Tracked ⟨listener.sinkStep (.discoveryTimer index),bindings⟩ := by
  unfold sinkStep
  dsimp only
  split
  · refine Tracked.discoverySm ?_ _
    exact tracked.modify fun _ => rfl
  · exact tracked

end

end Timers

section Reservation
variable {listener : MilanListener} {bindings : UInt16 → Option BindingParams} {index : UInt16}

theorem Tracked.srpStateSm (tracked : Tracked ⟨listener,bindings⟩) (status : ListenerStreamStatus)
    (params : SrpParams) :
    Tracked ⟨listener.srpStateSm index status params,bindings⟩ := by
  unfold MilanListener.srpStateSm
  dsimp only
  split
  · exact tracked
  next settled =>
    split
    · exact tracked
    · have noted : Tracked ⟨listener.modifySink index ({· with srpStreamStatus := status}),bindings⟩ :=
        tracked.modify fun _ => rfl
      obtain ⟨delay,retry,registration,reserved⟩ := tracked.timers index
      dsimp only at delay retry registration reserved
      have valid : listener.sinkValid index = true := by
        refine tracked.inside index fun unbound => settled ?_
        dsimp only at unbound
        simp [isSettled,unbound]
      have settled : (listener.sinks index).state = .settledNoRsv ∨ (listener.sinks index).state = .settledRsvOk := by
        simpa [isSettled,or_iff_not_imp_left] using settled
      cases srp : (listener.sinks index).srpState with
      | notRegistering =>
        dsimp only
        have state : (listener.sinks index).state = .settledNoRsv := by
          rcases settled with waiting | reservedNow
          · exact waiting
          · exact absurd (srp.symm.trans (reserved.mpr reservedNow)) (by decide)
        rw [state] at delay retry registration
        split
        · unfold sinkEvent
          rw [modifySink_modifySink,if_pos (show (listener.modifySink index _).sinkValid index = true from valid)]
          unfold sinkSm
          simp only [modifySink_same,state,modifySink_modifySink]
          refine tracked.moves valid (idle_of_state state (by decide) (by decide)) rfl ?_
            ((tracked.bound index).congr (by simp [enter,state]) rfl)
          constructor <;> simp [enter,delay,retry]
        · exact noted
      | registering =>
        dsimp only
        have state : (listener.sinks index).state = .settledRsvOk := reserved.mp srp
        rw [state] at delay retry registration
        split
        · unfold sinkEvent
          rw [modifySink_modifySink,if_pos (show (listener.modifySink index _).sinkValid index = true from valid)]
          unfold sinkSm
          simp only [modifySink_same,state,modifySink_modifySink]
          obtain ⟨idle,isBound,binding⟩ := released_idle
            {listener.sinks index with srpStreamStatus := status,srpState := .notRegistering}
          refine tracked.moves valid (idle_of_state state (by decide) (by decide)) idle (released_right ?_ ?_ ?_)
            ((tracked.bound index).congr (iff_of_false isBound (by rw [state]; decide)) binding)
          · simpa using delay
          · simpa using retry
          · simpa using registration
        · exact noted

theorem Tracked.listenerStatus (tracked : Tracked ⟨listener,bindings⟩) (status : ListenerStreamStatus)
    (params : SrpParams) :
    Tracked ⟨listener.listenerStatus status params,bindings⟩ := by
  unfold MilanListener.listenerStatus
  split
  · exact tracked
  · exact tracked.srpStateSm status params

end Reservation

end BoundListener

end Genavb.Avdecc
