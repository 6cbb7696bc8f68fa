import Genavb.Avdecc.MilanEvents

/-! The commands, responses and repeated probes of the sinks of a Milan listener, and its whole
runs: when no sink is left without what it waits for. -/
namespace Genavb.Avdecc
open Maap (MacAddress)
open Function (update update_eq_self)

namespace BoundListener
open MilanListener
open StreamInputDynamicDesc

section Unbind
variable {listener : MilanListener} {bindings : UInt16 → Option BindingParams} {index : UInt16}

theorem Tracked.send (tracked : Tracked ⟨listener,bindings⟩) (message : MilanSent) :
    Tracked ⟨listener.send message,bindings⟩ := tracked.congr rfl rfl fun _ => rfl

private theorem unbound_sink (sink : StreamInputDynamicDesc) :
    sink.unbound.state = .unbound ∧ sink.unbound.isWaiting = false := ⟨rfl,rfl⟩

private theorem unbound_right {sink : StreamInputDynamicDesc} (delay : sink.acmpDelayTimer = false)
    (retry : sink.acmpRetryTimer = false) (registration : sink.acmpTalkerRegistrationTimer = false)
    (reserved : sink.srpState = .notRegistering) : sink.unbound.TimersRight := by
  unfold unbound
  constructor <;> simp [enter,setProbing,delay,retry,registration,reserved]

theorem Tracked.unbinds (tracked : Tracked ⟨listener,bindings⟩) (valid : listener.sinkValid index = true)
    (idle : (listener.sinks index).isWaiting = false) {stop : StreamInputDynamicDesc → StreamInputDynamicDesc}
    (timers : (stop (listener.sinks index)).unbound.TimersRight) :
    Tracked ⟨listener.listenerUnbind index stop,update bindings index none⟩ := by
  have sink : (listener.listenerUnbind index stop).sinks index = (stop (listener.sinks index)).unbound := by
    unfold listenerUnbind
    rw [send_sinks,modifySink_same]
  have same : SameBut index listener (listener.listenerUnbind index stop) := by
    refine ⟨rfl,fun _ apart => ?_⟩
    unfold listenerUnbind
    rw [send_sinks,modifySink_other apart]
  refine tracked.quiet valid idle same rfl ?_ ?_ ?_
  all_goals rw [sink]
  · exact (unbound_sink _).2
  · exact timers
  · exact (unbound_sink _).1

private theorem notRegistering_of {sink : StreamInputDynamicDesc} (right : sink.TimersRight)
    (open' : sink.state ≠ .settledRsvOk) :
    sink.srpState = .notRegistering := by
  cases srp : sink.srpState with
  | notRegistering => rfl
  | registering => exact absurd (right.reserved.mp srp) open'

theorem Tracked.unbind (tracked : Tracked ⟨listener,bindings⟩) (valid : listener.sinkValid index = true) :
    Tracked ⟨listener.sinkSm index .rcvUnbindRxCmd,update bindings index none⟩ := by
  have timers := tracked.timers index
  have reserved := notRegistering_of timers
  obtain ⟨delay,retry,registration,-⟩ := timers
  unfold sinkSm
  dsimp only
  cases state : (listener.sinks index).state with
  | prbWResp | prbWResp2 =>
    rw [state] at delay retry registration reserved
    have sink : ((listener.inflightCancel (listener.sinks index).probeTxSeqId).listenerUnbind index (·.discoveryReset)).sinks
        index = (listener.sinks index).discoveryReset.unbound := by
      unfold listenerUnbind
      rw [send_sinks,modifySink_same,inflightCancel_sinks]
    have same : SameBut index listener
        ((listener.inflightCancel (listener.sinks index).probeTxSeqId).listenerUnbind index (·.discoveryReset)) := by
      refine ⟨rfl,fun _ apart => ?_⟩
      unfold listenerUnbind
      rw [send_sinks,modifySink_other apart,inflightCancel_sinks]
    refine tracked.cancels (isWaiting_iff.mpr (by simp [state])) (by rw [state]; decide) same rfl ?_ ?_ ?_
    all_goals rw [sink]
    · exact (unbound_sink _).2
    · rw [discoveryReset_eq]
      exact unbound_right (by simpa using delay) (by simpa using retry) (by simpa using registration) (reserved (by decide))
    · exact (unbound_sink _).1
  | _ =>
    rw [state] at delay retry registration reserved
    refine tracked.unbinds valid (idle_of_state state (by decide) (by decide)) ?_
    try rw [discoveryReset_eq]
    refine unbound_right ?_ ?_ ?_ ?_
    all_goals first | exact delay | exact retry | exact registration | exact reserved (by decide) | rfl

end Unbind

section Bind
variable {listener after : MilanListener} {bindings : UInt16 → Option BindingParams} {index : UInt16} {pdu : AcmpPdu}

private theorem probing_bind (state : (after.sinks index).state = .prbWResp)
    (probe : (after.sinks index).probeTxSeqId = listener.acmp.sequenceId)
    (binding : (after.sinks index).binding = pdu.binding) :
    Probing index ((listener.bindAnswered index pdu).probeTxCommand index) listener after := by
  refine ⟨state,probe,?_,rfl⟩
  unfold isTalker probeTxCommand bindAnswered
  rw [send_sinks,modifySink_same,binding]
  simp

theorem Tracked.rebound (tracked : Tracked ⟨listener,bindings⟩) (isBound : (listener.sinks index).state ≠ .unbound)
    (kept : (listener.sinks index).needBindingRestart pdu = false) :
    Tracked ⟨listener.listenerBind index pdu,update bindings index (some pdu.binding)⟩ := by
  have talker : (listener.sinks index).isTalker pdu.talkerEntityId pdu.talkerUniqueId = true := by
    simpa [needBindingRestart] using kept
  have sink : (listener.bindAnswered index pdu).sinks index = {listener.sinks index with binding := pdu.binding} := by
    unfold bindAnswered
    rw [send_sinks,modifySink_same]
  rw [listenerBind_kept kept]
  have same : (listener.sinks index).binding.talkerEntityId = pdu.talkerEntityId ∧
      (listener.sinks index).binding.talkerUniqueId = pdu.talkerUniqueId := by
    simpa [isTalker] using talker
  refine tracked.steady ⟨rfl,fun _ apart => bindAnswered_other apart⟩ rfl ?_ ?_ ?_ ?_ isBound ?_ ?_
  all_goals rw [sink]
  · exact same.1.symm
  · exact same.2.symm
  · obtain ⟨delay,retry,registration,reserved⟩ := tracked.timers index
    exact ⟨delay,retry,registration,reserved⟩
  · exact ⟨isBound,rfl⟩

def bindProbed (pdu : AcmpPdu) (sequenceId : UInt16) (sink : StreamInputDynamicDesc) : StreamInputDynamicDesc :=
  StreamInputDynamicDesc.setProbing .active {sink with binding := pdu.binding,probeTxSeqId := sequenceId}

structure EntersWait (change : StreamInputDynamicDesc → StreamInputDynamicDesc) : Prop where
  state : ∀ sink, (change sink).state = .prbWResp
  probe : ∀ sink, (change sink).probeTxSeqId = sink.probeTxSeqId
  binding : ∀ sink, (change sink).binding = sink.binding

variable {change : StreamInputDynamicDesc → StreamInputDynamicDesc}

theorem entersWait (probe : ∀ sink, (change sink).probeTxSeqId = sink.probeTxSeqId)
    (binding : ∀ sink, (change sink).binding = sink.binding) :
    EntersWait fun sink => (change sink).discoveryReset.enter .prbWResp := by
  refine ⟨fun _ => rfl,fun sink => ?_,fun sink => ?_⟩
  · rw [discoveryReset_eq]
    exact probe sink
  · rw [discoveryReset_eq]
    exact binding sink

private theorem listenerBind_modified (restart : (listener.sinks index).needBindingRestart pdu = true)
    (change : StreamInputDynamicDesc → StreamInputDynamicDesc) :
    ((listener.listenerBind index pdu).modifySink index change).sinks index =
      change (bindProbed pdu listener.acmp.sequenceId (listener.sinks index)) := by
  rw [modifySink_same,listenerBind_same restart]
  rfl

theorem Tracked.binds (tracked : Tracked ⟨listener,bindings⟩) (valid : listener.sinkValid index = true)
    (idle : (listener.sinks index).isWaiting = false) (restart : (listener.sinks index).needBindingRestart pdu = true)
    (room : listener.Room) (enters : EntersWait change)
    (timers : (change (bindProbed pdu listener.acmp.sequenceId (listener.sinks index))).TimersRight) :
    Tracked ⟨(listener.listenerBind index pdu).modifySink index change,
      update bindings index (some pdu.binding)⟩ := by
  have sink := listenerBind_modified restart change
  have same : SameBut index listener ((listener.listenerBind index pdu).modifySink index change) :=
    ⟨listenerBind_but.streams,fun _ apart => (modifySink_other apart).trans (listenerBind_but.others _ apart)⟩
  refine tracked.sends valid idle same room (listenerBind_acmp restart) (probing_bind ?_ ?_ ?_) ?_ ?_
  all_goals rw [sink]
  · exact enters.state _
  · exact enters.probe _
  · exact enters.binding _
  · exact timers
  · refine ⟨?_,enters.binding _⟩
    rw [enters.state]
    decide

theorem Tracked.bindsAgain (tracked : Tracked ⟨listener,bindings⟩) (waiting : (listener.sinks index).isWaiting = true)
    (isBound : (listener.sinks index).state ≠ .unbound)
    (restart : (listener.sinks index).needBindingRestart pdu = true) (room : listener.Room)
    (enters : EntersWait change)
    (timers : (change (bindProbed pdu listener.acmp.sequenceId (listener.sinks index))).TimersRight) :
    Tracked ⟨((listener.listenerBind index pdu).inflightCancel (listener.sinks index).probeTxSeqId).modifySink index change,
      update bindings index (some pdu.binding)⟩ := by
  have sink : (((listener.listenerBind index pdu).inflightCancel (listener.sinks index).probeTxSeqId).modifySink index
      change).sinks index = _ := listenerBind_modified restart change
  have same : SameBut index listener
      (((listener.listenerBind index pdu).inflightCancel (listener.sinks index).probeTxSeqId).modifySink index change) :=
    ⟨listenerBind_but.streams,fun _ apart => (modifySink_other apart).trans (listenerBind_but.others _ apart)⟩
  have sends : ((listener.listenerBind index pdu).inflightCancel (listener.sinks index).probeTxSeqId).acmp = _ :=
    congrArg (AcmpCtx.inflightCancel (listener.sinks index).probeTxSeqId) (listenerBind_acmp restart)
  refine tracked.resends waiting isBound same room sends (probing_bind ?_ ?_ ?_) ?_ ?_
  all_goals rw [sink]
  · exact enters.state _
  · exact enters.probe _
  · exact enters.binding _
  · exact timers
  · refine ⟨?_,enters.binding _⟩
    rw [enters.state]
    decide

/-- What a bind command that is accepted needs: a probe that is sent can be tracked, and the sink
gets a talker that is not the one of the cleared parameters. -/
structure BindSound (listener : MilanListener) (index : UInt16) (pdu : AcmpPdu) : Prop where
  room : (listener.sinks index).needBindingRestart pdu = true → listener.Room
  fresh : (listener.sinks index).state = .unbound → (listener.sinks index).needBindingRestart pdu = true

theorem Tracked.bind (tracked : Tracked ⟨listener,bindings⟩) (valid : listener.sinkValid index = true)
    (free : listener.alreadyBoundTo index pdu = false) (sound : BindSound listener index pdu) :
    Tracked ⟨listener.sinkSm index (.rcvBindRxCmd pdu),update bindings index (some pdu.binding)⟩ := by
  have timers := tracked.timers index
  have reserved := notRegistering_of timers
  obtain ⟨delay,retry,registration,-⟩ := timers
  dsimp only at delay retry registration reserved
  unfold sinkSm rebind
  dsimp only
  rw [free]
  cases state : (listener.sinks index).state with
  | unbound =>
    rw [state] at delay retry registration reserved
    have restart := sound.fresh state
    refine tracked.binds valid (idle_of_state state (by decide) (by decide)) restart (sound.room restart)
      (entersWait (fun _ => rfl) fun _ => rfl) ?_
    rw [discoveryReset_eq]
    constructor <;> simp [bindProbed,enter,setProbing,delay,retry,registration,reserved]
  | prbWResp | prbWResp2 =>
    rw [state] at delay retry registration reserved
    have isBound : (listener.sinks index).state ≠ .unbound := by
      rw [state]
      decide
    cases restart : (listener.sinks index).needBindingRestart pdu with
    | false => exact tracked.rebound isBound restart
    | true =>
      refine tracked.bindsAgain (isWaiting_iff.mpr (by simp [state])) isBound restart (sound.room restart)
        (entersWait (fun _ => rfl) fun _ => rfl) ?_
      rw [discoveryReset_eq]
      constructor <;> simp [bindProbed,enter,setProbing,delay,retry,registration,reserved]
  | _ =>
    rw [state] at delay retry registration reserved
    dsimp only
    rw [if_neg Bool.false_ne_true]
    cases restart : (listener.sinks index).needBindingRestart pdu with
    | false => exact tracked.rebound (by rw [state]; decide) restart
    | true =>
      rw [if_pos rfl]
      try rw [modifySink_modifySink]
      refine tracked.binds valid (idle_of_state state (by decide) (by decide)) restart (sound.room restart)
        (entersWait (fun _ => rfl) fun _ => rfl) ?_
      rw [discoveryReset_eq]
      constructor <;> simp [bindProbed,enter,setProbing,srpStateClear,delay,retry,registration,reserved]

end Bind

section Responses
variable {listener : MilanListener} {bindings : UInt16 → Option BindingParams} {index : UInt16} {pdu : AcmpPdu}
  {status : AcmpStatus}

theorem Tracked.response (tracked : Tracked ⟨listener,bindings⟩)
    (own : (listener.sinks index).isWaiting = true → listener.acmp.inflightFind pdu.sequenceId ≠ none →
      pdu.sequenceId = (listener.sinks index).probeTxSeqId) :
    Tracked ⟨listener.sinkSm index (.rcvProbeTxResp pdu status),bindings⟩ := by
  cases waiting : (listener.sinks index).isWaiting with
  | false =>
    rw [sinkSm_notWaiting waiting]
    exact tracked
  | true =>
    rw [sinkSm_waiting waiting]
    split
    · exact tracked
    next found =>
      have timers := tracked.timers index
      have sequenceId := own waiting (by rw [found]; exact Option.some_ne_none _)
      have isBound : (listener.sinks index).state ≠ .unbound := by
        rcases isWaiting_iff.mp waiting with state | state
        all_goals
          rw [state]
          decide
      have closed : (listener.sinks index).state ≠ .settledRsvOk ∧ (listener.sinks index).state ≠ .prbWDelay ∧
          (listener.sinks index).state ≠ .prbWRetry ∧ (listener.sinks index).state ≠ .settledNoRsv := by
        rcases isWaiting_iff.mp waiting with state | state
        all_goals
          rw [state]
          decide
      have reserved := notRegistering_of timers closed.1
      obtain ⟨delay,retry,registration,-⟩ := timers
      dsimp only at delay retry registration reserved
      simp only [closed.2.1,closed.2.2.1,closed.2.2.2,decide_false] at delay retry registration
      have same : SameBut index listener (listener.rcvProbeTxResp index pdu status) := by
        refine ⟨?_,fun _ apart => rcvProbeTxResp_other apart⟩
        unfold MilanListener.rcvProbeTxResp
        split <;> rfl
      refine .of_update (tracked.cancels waiting isBound same (by rw [rcvProbeTxResp_acmp,sequenceId])
        rcvProbeTxResp_leaves ?_ ?_)
      · unfold MilanListener.rcvProbeTxResp
        split
        all_goals
          constructor <;> simp [enter,setProbing,delay,retry,registration,reserved]
      · refine (tracked.bound index).congr (iff_of_false ?_ isBound) ?_
        all_goals
          unfold MilanListener.rcvProbeTxResp
          dsimp only
          split
        all_goals rw [modifySink_same,inflightCancel_sinks]
        · simp [enter]
        · simp [enter]
        · rfl
        · rfl

theorem Tracked.saved {params : BindingParams} (tracked : Tracked ⟨listener,bindings⟩)
    (valid : listener.sinkValid index = true) (state : (listener.sinks index).state = .unbound) :
    Tracked ⟨(listener.modifySink index ({· with binding := params})).sinkSm index .savedBindingParams,
      update bindings index (some params)⟩ := by
  have timers := tracked.timers index
  have reserved := notRegistering_of timers
  obtain ⟨delay,retry,registration,-⟩ := timers
  dsimp only at delay retry registration reserved
  rw [state] at delay retry registration reserved
  unfold sinkSm
  simp only [modifySink_same,state,modifySink_modifySink]
  refine tracked.quiet valid (idle_of_state state (by decide) (by decide)) ⟨rfl,fun _ apart => modifySink_other apart⟩ rfl
    ?_ ?_ ?_
  all_goals
    rw [modifySink_same,discoveryReset_eq]
  · rfl
  · constructor <;> simp [enter,setProbing,delay,retry,registration,reserved]
  · exact ⟨by simp [enter],rfl⟩

theorem sinkSm_savedBound (isBound : (listener.sinks index).state ≠ .unbound) :
    listener.sinkSm index .savedBindingParams = listener := by
  unfold sinkSm
  dsimp only
  cases state : (listener.sinks index).state with
  | unbound => exact absurd state isBound
  | _ => rfl

theorem modifySink_kept {change : StreamInputDynamicDesc → StreamInputDynamicDesc}
    (kept : change (listener.sinks index) = listener.sinks index) : listener.modifySink index change = listener := by
  unfold modifySink
  rw [kept,update_eq_self]

end Responses

section Repeats
variable {listener : MilanListener} {bindings : UInt16 → Option BindingParams} {position : Nat}

section
variable (tracked : Tracked ⟨listener,bindings⟩)
include tracked

theorem Tracked.repeats {entry : InflightCtx}
    (found : listener.acmp.inflight[position]? = some entry) (first : entry.retried = false)
    {after : MilanListener} (same : SameBut entry.pdu.listenerUniqueId listener after)
    (acmp : after.acmp = listener.acmp.inflightRetry position) (sink : after.sinks entry.pdu.listenerUniqueId =
      (listener.sinks entry.pdu.listenerUniqueId).enter .prbWResp2) : Tracked ⟨after,bindings⟩ := by
  have waits := tracked.waits entry (List.mem_of_getElem? found)
  have removed := AcmpCtx.inflightRemove_perm found
  have retry := AcmpCtx.inflightRetry_perm found
  rw [← acmp] at retry
  have state : (listener.sinks entry.pdu.listenerUniqueId).state = .prbWResp := by
    rcases isWaiting_iff.mp waits.waiting with state | state
    · exact state
    · exact absurd (first.symm.trans waits.retried) (by dsimp only; rw [state]; decide)
  have isBound : (listener.sinks entry.pdu.listenerUniqueId).state ≠ .unbound := by
    rw [state]
    decide
  have timers := tracked.timers entry.pdu.listenerUniqueId
  have reserved := notRegistering_of timers (by dsimp only; rw [state]; decide)
  obtain ⟨delay,retries,registration,-⟩ := timers
  dsimp only at delay retries registration reserved
  rw [state] at delay retries registration
  have members (other : InflightCtx) : other ∈ after.acmp.inflight ↔ other = {entry with retried := true} ∨
      other ∈ listener.acmp.inflight ∧ other.pdu.listenerUniqueId ≠ entry.pdu.listenerUniqueId := by
    rw [retry.mem_iff,List.mem_cons,AcmpCtx.mem_rest_iff removed tracked.distinct]
    refine or_congr_right (and_congr_right fun member => not_congr ?_)
    rw [waits.outstanding.sequenceId]
    exact tracked.own waits.waiting member
  refine .of_update (tracked.change (tracked.inside _ isBound) same ?_ ?_ ?_ ?_ ?_ ?_)
  · rw [(retry.map _).nodup_iff]
    exact (removed.map _).nodup_iff.mp tracked.distinct
  · intro other apart
    rw [members]
    constructor
    · rintro (rfl | old)
      · exact absurd rfl apart
      · exact old.1
    · intro old
      exact .inr ⟨old,apart⟩
  · intro other member own
    rcases (members other).mp member with rfl | old
    · rw [sink]
      exact ⟨{waits.outstanding with},rfl,rfl⟩
    · exact absurd own old.2
  · intro _
    exact ⟨_,(members _).mpr (.inl rfl),rfl⟩
  · rw [sink]
    constructor <;> simp [enter,delay,retries,registration,reserved]
  · rw [sink]
    exact (tracked.bound _).congr (by simp [enter,state]) rfl

theorem Tracked.gives {entry : InflightCtx} (found : listener.acmp.inflight[position]? = some entry)
    {after : MilanListener} (same : SameBut entry.pdu.listenerUniqueId listener after)
    (acmp : after.acmp = listener.acmp.inflightRemove position)
    (idle : (after.sinks entry.pdu.listenerUniqueId).isWaiting = false)
    (timers : (after.sinks entry.pdu.listenerUniqueId).TimersRight)
    (bound : (after.sinks entry.pdu.listenerUniqueId).BoundBy (bindings entry.pdu.listenerUniqueId)) :
    Tracked ⟨after,bindings⟩ := by
  have waits := tracked.waits entry (List.mem_of_getElem? found)
  have removed := AcmpCtx.inflightRemove_perm found
  rw [← acmp] at removed
  have isBound : (listener.sinks entry.pdu.listenerUniqueId).state ≠ .unbound := by
    rcases isWaiting_iff.mp waits.waiting with state | state
    all_goals
      rw [state]
      decide
  have members (other : InflightCtx) : other ∈ after.acmp.inflight ↔
      other ∈ listener.acmp.inflight ∧ other.pdu.listenerUniqueId ≠ entry.pdu.listenerUniqueId := by
    rw [AcmpCtx.mem_rest_iff removed tracked.distinct]
    refine and_congr_right fun member => not_congr ?_
    rw [waits.outstanding.sequenceId]
    exact tracked.own waits.waiting member
  refine .of_update (tracked.change (tracked.inside _ isBound) same
    (AcmpCtx.rest_distinct removed tracked.distinct) ?_ ?_ ?_ timers bound)
  · intro other apart
    rw [members]
    exact and_iff_left apart
  · intro other member own
    exact absurd own ((members other).mp member).2
  · intro waiting
    exact absurd (waiting.symm.trans idle) (by decide)

theorem Tracked.inflightTimer : Tracked ⟨listener.inflightTimeout position,bindings⟩ := by
  unfold inflightTimeout
  split
  · exact tracked
  next entry found =>
    have waits := tracked.waits entry (List.mem_of_getElem? found)
    have isBound : (listener.sinks entry.pdu.listenerUniqueId).state ≠ .unbound := by
      rcases isWaiting_iff.mp waits.waiting with state | state
      all_goals
        rw [state]
        decide
    have valid := tracked.inside _ isBound
    have retried := waits.retried
    unfold sinkEvent
    rw [if_pos valid]
    cases again : entry.retried with
    | false =>
      have state : (listener.sinks entry.pdu.listenerUniqueId).state = .prbWResp := by
        rcases isWaiting_iff.mp waits.waiting with state | state
        · exact state
        · exact absurd (again.symm.trans retried) (by dsimp only at state; rw [state]; decide)
      unfold sinkSm
      simp only [state]
      exact tracked.repeats found again ⟨rfl,fun _ apart => modifySink_other apart⟩ rfl modifySink_same
    | true =>
      have state : (listener.sinks entry.pdu.listenerUniqueId).state = .prbWResp2 :=
        of_decide_eq_true (retried.symm.trans again)
      have timers := tracked.timers entry.pdu.listenerUniqueId
      have reserved := notRegistering_of timers (by dsimp only; rw [state]; decide)
      obtain ⟨delay,retry,registration,-⟩ := timers
      dsimp only at delay retry registration reserved
      rw [state] at delay retry registration
      rw [Bool.not_true,if_neg Bool.false_ne_true,waits.outstanding.probe.1]
      unfold sinkSm
      simp only [state,reduceCtorEq,if_false]
      refine tracked.gives found ⟨rfl,fun _ apart => ?_⟩ rfl ?_ ?_ ?_
      · dsimp only
        rw [modifySink_other apart]
      all_goals
        rw [modifySink_same]
      · rfl
      · constructor <;> simp [enter,delay,registration,reserved]
      · exact (tracked.bound _).congr (by simp [enter,state]) rfl

end

end Repeats

end BoundListener

end Genavb.Avdecc
