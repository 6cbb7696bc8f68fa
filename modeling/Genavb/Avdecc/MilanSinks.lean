import Genavb.Support.Run
import Genavb.Avdecc.MilanListener

/-! The responses to the probes of a Milan listener: when each one reaches the sink that asked. -/
namespace Genavb.Avdecc
open Support
open Maap (MacAddress)

def InflightCtx.ProbeOf (index : UInt16) (entry : InflightCtx) : Prop :=
  entry.msgType = .connectTx ∧ entry.pdu.listenerUniqueId = index

namespace MilanListener

/-- A sink that a response takes out of its wait has asked its talker with that sequence id and has
the stream of the response; no other entry is removed and no other sink is changed. -/
structure ResponseRight (pdu : AcmpPdu) (status : AcmpStatus) (before after : MilanListener) : Prop where
  asked : (before.sinks pdu.listenerUniqueId).isWaiting = true → (after.sinks pdu.listenerUniqueId).isWaiting = false →
    pdu.sequenceId = (before.sinks pdu.listenerUniqueId).probeTxSeqId ∧
      (before.sinks pdu.listenerUniqueId).isTalker pdu.talkerEntityId pdu.talkerUniqueId = true
  stored : (before.sinks pdu.listenerUniqueId).isWaiting = true → (after.sinks pdu.listenerUniqueId).isWaiting = false →
    status = .success → (after.sinks pdu.listenerUniqueId).srp = ⟨pdu.streamId,pdu.streamDestMac,pdu.streamVlanId⟩
  kept : ∃ own, before.acmp.inflight.Perm (own ++ after.acmp.inflight) ∧
    ∀ entry, entry ∈ own → entry.ProbeOf pdu.listenerUniqueId
  others : ∀ other, other ≠ pdu.listenerUniqueId → after.sinks other = before.sinks other

def ResponsesRight (listener : MilanListener) : MilanInput → Prop
  | .sink (.probeTxResponse pdu status) =>
    ResponseRight pdu status listener (listener.milanStep (.sink (.probeTxResponse pdu status)))
  | _ => True

/-- A response to a waiting sink whose sequence id is in flight carries the sequence id and the
talker of that sink's own probe. -/
def ResponseOwn (listener : MilanListener) : MilanInput → Prop
  | .sink (.probeTxResponse pdu _) =>
    listener.sinkValid pdu.listenerUniqueId = true → (listener.sinks pdu.listenerUniqueId).isWaiting = true →
    ∀ entry, listener.acmp.inflightFind pdu.sequenceId = some entry →
      entry.ProbeOf pdu.listenerUniqueId ∧
      pdu.sequenceId = (listener.sinks pdu.listenerUniqueId).probeTxSeqId ∧
      (listener.sinks pdu.listenerUniqueId).isTalker pdu.talkerEntityId pdu.talkerUniqueId = true
  | _ => True

section Response
variable {listener : MilanListener} {index : UInt16} {pdu : AcmpPdu} {status : AcmpStatus} {entry : InflightCtx}

theorem isWaiting_iff {sink : StreamInputDynamicDesc} :
    sink.isWaiting = true ↔ sink.state = .prbWResp ∨ sink.state = .prbWResp2 := by
  unfold StreamInputDynamicDesc.isWaiting
  simp

theorem sinkSm_notWaiting (idle : (listener.sinks index).isWaiting = false) :
    listener.sinkSm index (.rcvProbeTxResp pdu status) = listener := by
  have idle : ¬ ((listener.sinks index).state = .prbWResp ∨ (listener.sinks index).state = .prbWResp2) := by
    rw [← isWaiting_iff,idle]
    exact Bool.false_ne_true
  unfold sinkSm
  dsimp only
  cases state : (listener.sinks index).state with
  | prbWResp => exact absurd (.inl state) idle
  | prbWResp2 => exact absurd (.inr state) idle
  | _ => rfl

theorem sinkSm_waiting (waits : (listener.sinks index).isWaiting = true) :
    listener.sinkSm index (.rcvProbeTxResp pdu status) = match listener.acmp.inflightFind pdu.sequenceId with
      | none => listener
      | some _ => listener.rcvProbeTxResp index pdu status := by
  unfold sinkSm
  rcases isWaiting_iff.mp waits with state | state
  all_goals cases found : listener.acmp.inflightFind pdu.sequenceId <;> simp only [state,found]

theorem rcvProbeTxResp_acmp :
    (listener.rcvProbeTxResp index pdu status).acmp = listener.acmp.inflightCancel pdu.sequenceId := by
  unfold rcvProbeTxResp
  split <;> rfl

theorem rcvProbeTxResp_leaves : ((listener.rcvProbeTxResp index pdu status).sinks index).isWaiting = false := by
  unfold rcvProbeTxResp
  split <;> rw [modifySink_same] <;> rfl

theorem rcvProbeTxResp_stores (success : status = .success) :
    ((listener.rcvProbeTxResp index pdu status).sinks index).srp = ⟨pdu.streamId,pdu.streamDestMac,pdu.streamVlanId⟩ := by
  unfold rcvProbeTxResp
  rw [if_neg (not_not_intro success),modifySink_same]
  rfl

theorem rcvProbeTxResp_other {other : UInt16} (apart : other ≠ index) :
    (listener.rcvProbeTxResp index pdu status).sinks other = listener.sinks other := by
  unfold rcvProbeTxResp
  split <;> rw [modifySink_other apart,inflightCancel_sinks]

private theorem responseRight_ignored : ResponseRight pdu status listener listener := by
  refine ⟨fun waits idle => ?_,fun waits idle => ?_,⟨[],.refl _,fun _ member => nomatch member⟩,fun _ _ => rfl⟩
  · exact absurd (waits.symm.trans idle) (by decide)
  · exact absurd (waits.symm.trans idle) (by decide)

theorem responseRight_iff (waits : (listener.sinks pdu.listenerUniqueId).isWaiting = true)
    (found : listener.acmp.inflightFind pdu.sequenceId = some entry) :
    ResponseRight pdu status listener (listener.rcvProbeTxResp pdu.listenerUniqueId pdu status) ↔
      entry.ProbeOf pdu.listenerUniqueId ∧ pdu.sequenceId = (listener.sinks pdu.listenerUniqueId).probeTxSeqId ∧
      (listener.sinks pdu.listenerUniqueId).isTalker pdu.talkerEntityId pdu.talkerUniqueId = true := by
  have removed := AcmpCtx.inflightCancel_perm found
  constructor
  · intro right
    refine ⟨?_,right.asked waits rcvProbeTxResp_leaves⟩
    obtain ⟨own,split,probes⟩ := right.kept
    rw [rcvProbeTxResp_acmp] at split
    have single : own.Perm [entry] := (List.perm_append_right_iff _).mp (split.symm.trans removed)
    exact probes entry (single.symm.mem_iff.mp List.mem_cons_self)
  · rintro ⟨probe,asked⟩
    refine ⟨fun _ _ => asked,fun _ _ => rcvProbeTxResp_stores,⟨[entry],?_,?_⟩,fun _ => rcvProbeTxResp_other⟩
    · rw [rcvProbeTxResp_acmp]
      exact removed
    · intro member here
      rw [List.mem_singleton.mp here]
      exact probe

theorem response_iff (input : MilanInput) : listener.ResponsesRight input ↔ listener.ResponseOwn input := by
  cases input with
  | sink input =>
    cases input with
    | probeTxResponse pdu status =>
      unfold ResponsesRight ResponseOwn milanStep sinkStep sinkEvent
      dsimp only
      by_cases valid : listener.sinkValid pdu.listenerUniqueId = true
      · rw [if_pos valid]
        cases waits : (listener.sinks pdu.listenerUniqueId).isWaiting with
        | false =>
          rw [sinkSm_notWaiting waits]
          exact iff_of_true responseRight_ignored fun _ idle => nomatch idle
        | true =>
          rw [sinkSm_waiting waits]
          cases found : listener.acmp.inflightFind pdu.sequenceId with
          | none => exact iff_of_true responseRight_ignored fun _ _ _ missing => nomatch missing
          | some entry =>
            rw [responseRight_iff waits found]
            constructor
            · intro own _ _ other same
              cases same
              exact own
            · intro own
              exact own valid rfl entry rfl
      · rw [if_neg valid]
        exact iff_of_true responseRight_ignored fun inside => absurd inside valid
    | _ => exact Iff.rfl
  | _ => exact Iff.rfl

end Response

/-- Every response of a run goes to the sink that asked exactly if every one that meets a waiting
sink and a command in flight is the answer to that sink's own probe. -/
theorem responses_right (listener : MilanListener) (inputs : List MilanInput) :
    Steps milanStep ResponsesRight inputs listener ↔ Steps milanStep ResponseOwn inputs listener :=
  steps_iff (I := fun _ => True) milanStep (fun _ input _ => response_iff input) (fun _ _ _ _ => trivial) trivial

def bindCommand (sink : UInt16) (talker : UInt64) : MilanInput :=
  .sink (.bindRxCommand ⟨1,talker,0,2,sink,0,⟨0,0,0,0,0,0⟩,0,0,0,0⟩)

def crossedResponse : List MilanInput :=
  [bindCommand 0 10,bindCommand 1 11,.sink (.probeTxResponse ⟨1,11,0,2,0,7,⟨0x91,0xe0,0xf0,0,0xfe,1⟩,0,1,0,2⟩ .success)]

theorem crossedResponse_wrong : ¬ Steps milanStep ResponsesRight crossedResponse (acmpMilanInit 2 2 5 none) := by
  rintro ⟨-,-,right,-⟩
  exact absurd (right.asked (by decide) (by decide)).1 (by decide)

end MilanListener

end Genavb.Avdecc

/-! What a sink of a Milan listener waits for: the invariant that ties the states of the sinks to
their timers, their bindings and the probes in flight, and what keeps it. -/
namespace Genavb.Avdecc
open Maap (MacAddress)

structure StreamInputDynamicDesc.TimersRight (sink : StreamInputDynamicDesc) : Prop where
  delay : sink.acmpDelayTimer = decide (sink.state = .prbWDelay)
  retry : sink.acmpRetryTimer = decide (sink.state = .prbWRetry)
  registration : sink.acmpTalkerRegistrationTimer = decide (sink.state = .settledNoRsv)
  reserved : sink.srpState = .registering ↔ sink.state = .settledRsvOk

def StreamInputDynamicDesc.BoundBy (sink : StreamInputDynamicDesc) (binding : Option BindingParams) : Prop :=
  match binding with
  | none => sink.state = .unbound
  | some binding => sink.state ≠ .unbound ∧ sink.binding = binding

structure StreamInputDynamicDesc.Outstanding (index : UInt16) (sink : StreamInputDynamicDesc) (entry : InflightCtx) :
    Prop where
  probe : entry.ProbeOf index
  sequenceId : entry.sequenceId = sink.probeTxSeqId
  talker : sink.isTalker entry.pdu.talkerEntityId entry.pdu.talkerUniqueId = true

structure BoundListener where
  listener : MilanListener
  bindings : UInt16 → Option BindingParams

namespace MilanListener

structure Waits (index : UInt16) (sink : StreamInputDynamicDesc) (entry : InflightCtx) : Prop where
  outstanding : sink.Outstanding index entry
  waiting : sink.isWaiting = true
  retried : entry.retried = decide (sink.state = .prbWResp2)

def Room (listener : MilanListener) : Prop :=
  listener.acmp.freeInflight ≠ 0 ∧ ∀ entry, entry ∈ listener.acmp.inflight → entry.sequenceId ≠ listener.acmp.sequenceId

end MilanListener

namespace BoundListener
open MilanListener

structure Tracked (state : BoundListener) : Prop where
  distinct : (state.listener.acmp.inflight.map (·.sequenceId)).Nodup
  waits : ∀ entry, entry ∈ state.listener.acmp.inflight →
    Waits entry.pdu.listenerUniqueId (state.listener.sinks entry.pdu.listenerUniqueId) entry
  probed : ∀ index, (state.listener.sinks index).isWaiting = true →
    ∃ entry, entry ∈ state.listener.acmp.inflight ∧ entry.pdu.listenerUniqueId = index
  timers : ∀ index, (state.listener.sinks index).TimersRight
  bound : ∀ index, (state.listener.sinks index).BoundBy (state.bindings index)
  inside : ∀ index, (state.listener.sinks index).state ≠ .unbound → state.listener.sinkValid index = true

section Changes
variable {listener after : MilanListener} {bindings : UInt16 → Option BindingParams} {index : UInt16}
  {binding : Option BindingParams}

structure SameBut (index : UInt16) (listener after : MilanListener) : Prop where
  streams : after.maxListenerStreams = listener.maxListenerStreams
  others : ∀ other, other ≠ index → after.sinks other = listener.sinks other

section
variable (tracked : Tracked ⟨listener,bindings⟩)
include tracked

theorem Tracked.change (valid : listener.sinkValid index = true) (same : SameBut index listener after)
    (distinct : (after.acmp.inflight.map (·.sequenceId)).Nodup) (apart : ∀ entry, entry.pdu.listenerUniqueId ≠ index →
      (entry ∈ after.acmp.inflight ↔ entry ∈ listener.acmp.inflight))
    (waits : ∀ entry, entry ∈ after.acmp.inflight → entry.pdu.listenerUniqueId = index →
      Waits index (after.sinks index) entry) (probed : (after.sinks index).isWaiting = true →
      ∃ entry, entry ∈ after.acmp.inflight ∧ entry.pdu.listenerUniqueId = index)
    (timers : (after.sinks index).TimersRight) (bound : (after.sinks index).BoundBy binding) :
    Tracked ⟨after,Function.update bindings index binding⟩ := by
  have validSame (other : UInt16) : after.sinkValid other = listener.sinkValid other := by
    unfold sinkValid
    rw [same.streams]
  refine ⟨distinct,?_,?_,?_,?_,?_⟩
  · intro entry member
    by_cases own : entry.pdu.listenerUniqueId = index
    · rw [own]
      exact waits entry member own
    · dsimp only
      rw [same.others _ own]
      exact tracked.waits entry ((apart entry own).mp member)
  · intro other waiting
    by_cases own : other = index
    · subst own
      exact probed waiting
    · dsimp only at waiting
      rw [same.others _ own] at waiting
      obtain ⟨entry,member,names⟩ := tracked.probed other waiting
      exact ⟨entry,(apart entry (names ▸ own)).mpr member,names⟩
  · intro other
    by_cases own : other = index
    · subst own
      exact timers
    · dsimp only
      rw [same.others _ own]
      exact tracked.timers other
  · intro other
    by_cases own : other = index
    · subst own
      dsimp only
      rw [Function.update_self]
      exact bound
    · dsimp only
      rw [same.others _ own,Function.update_of_ne own]
      exact tracked.bound other
  · intro other isBound
    rw [validSame]
    by_cases own : other = index
    · rw [own]
      exact valid
    · rw [same.others _ own] at isBound
      exact tracked.inside other isBound

theorem Tracked.idle (idle : (listener.sinks index).isWaiting = false)
    {entry : InflightCtx} (member : entry ∈ listener.acmp.inflight) : entry.pdu.listenerUniqueId ≠ index := by
  rintro rfl
  exact absurd ((tracked.waits entry member).waiting.symm.trans idle) (by decide)

theorem Tracked.quiet (valid : listener.sinkValid index = true)
    (idle : (listener.sinks index).isWaiting = false) (same : SameBut index listener after)
    (inflight : after.acmp = listener.acmp) (stillIdle : (after.sinks index).isWaiting = false)
    (timers : (after.sinks index).TimersRight) (bound : (after.sinks index).BoundBy binding) :
    Tracked ⟨after,Function.update bindings index binding⟩ := by
  refine tracked.change valid same ?_ ?_ ?_ ?_ timers bound
  · rw [inflight]
    exact tracked.distinct
  · intro entry _
    rw [inflight]
  · intro entry member own
    rw [inflight] at member
    exact absurd own (tracked.idle idle member)
  · intro waiting
    exact absurd (waiting.symm.trans stillIdle) (by decide)

theorem Tracked.steady (same : SameBut index listener after)
    (inflight : after.acmp = listener.acmp) (state : (after.sinks index).state = (listener.sinks index).state)
    (probe : (after.sinks index).probeTxSeqId = (listener.sinks index).probeTxSeqId)
    (talkerEntity : (after.sinks index).binding.talkerEntityId = (listener.sinks index).binding.talkerEntityId)
    (talkerUnique : (after.sinks index).binding.talkerUniqueId = (listener.sinks index).binding.talkerUniqueId)
    (isBound : (listener.sinks index).state ≠ .unbound)
    (timers : (after.sinks index).TimersRight) (bound : (after.sinks index).BoundBy binding) :
    Tracked ⟨after,Function.update bindings index binding⟩ := by
  have waiting : (after.sinks index).isWaiting = (listener.sinks index).isWaiting := by
    unfold StreamInputDynamicDesc.isWaiting
    rw [state]
  refine tracked.change (tracked.inside index isBound) same ?_ ?_ ?_ ?_ timers bound
  · rw [inflight]
    exact tracked.distinct
  · intro entry _
    rw [inflight]
  · intro entry member own
    rw [inflight] at member
    have before := tracked.waits entry member
    rw [own] at before
    refine ⟨⟨before.outstanding.probe,before.outstanding.sequenceId.trans probe.symm,?_⟩,waiting.trans before.waiting,?_⟩
    · unfold StreamInputDynamicDesc.isTalker
      rw [talkerEntity,talkerUnique]
      exact before.outstanding.talker
    · rw [state]
      exact before.retried
  · intro waits
    rw [inflight]
    exact tracked.probed index (waiting.symm.trans waits)

end

end Changes

end BoundListener

end Genavb.Avdecc

/-! Each event of a sink of a Milan listener keeps the invariant of the sinks. -/
namespace Genavb.Avdecc
open Maap (MacAddress)
open AcmpCtx

theorem StreamInputDynamicDesc.discoveryReset_eq (sink : StreamInputDynamicDesc) : sink.discoveryReset =
    {sink with
      adpDiscoveryTimer := sink.adpDiscoveryTimer && !sink.talkerDiscovered
      talkerDiscovered := false} := by
  unfold discoveryReset
  cases discovered : sink.talkerDiscovered with
  | false =>
    rw [if_neg Bool.false_ne_true,Bool.not_false,Bool.and_true,← discovered]
  | true => rw [if_pos rfl,Bool.not_true,Bool.and_false]

namespace MilanListener

section Binding
variable {listener : MilanListener} {index : UInt16} {pdu : AcmpPdu}

def bindAnswered (index : UInt16) (pdu : AcmpPdu) (listener : MilanListener) : MilanListener :=
  (listener.modifySink index ({· with binding := pdu.binding})).send (.bindRxResponse index .success)

theorem sendProbeTxCommand_same : (listener.sendProbeTxCommand index).sinks index =
    {listener.sinks index with probeTxSeqId := listener.acmp.sequenceId} := by
  unfold sendProbeTxCommand
  rw [send_sinks,modifySink_same]

theorem sendProbeTxCommand_other {other : UInt16} (apart : other ≠ index) :
    (listener.sendProbeTxCommand index).sinks other = listener.sinks other := by
  unfold sendProbeTxCommand
  rw [send_sinks,modifySink_other apart]

theorem bindAnswered_other {other : UInt16} (apart : other ≠ index) :
    (listener.bindAnswered index pdu).sinks other = listener.sinks other := by
  unfold bindAnswered
  rw [send_sinks,modifySink_other apart]

theorem listenerBind_restart (restart : (listener.sinks index).needBindingRestart pdu = true) :
    listener.listenerBind index pdu =
      ((listener.bindAnswered index pdu).sendProbeTxCommand index).modifySink index (·.setProbing .active) := if_pos restart

theorem listenerBind_kept (kept : (listener.sinks index).needBindingRestart pdu = false) :
    listener.listenerBind index pdu = listener.bindAnswered index pdu :=
  if_neg (by rw [kept]; exact Bool.false_ne_true)

theorem listenerBind_same (restart : (listener.sinks index).needBindingRestart pdu = true) :
    (listener.listenerBind index pdu).sinks index =
      StreamInputDynamicDesc.setProbing .active
        {listener.sinks index with binding := pdu.binding,probeTxSeqId := listener.acmp.sequenceId} := by
  rw [listenerBind_restart restart,modifySink_same,sendProbeTxCommand_same]
  unfold bindAnswered
  rw [send_sinks,modifySink_same]
  rfl

theorem listenerBind_acmp (restart : (listener.sinks index).needBindingRestart pdu = true) :
    (listener.listenerBind index pdu).acmp =
      (listener.acmp.acmpSendCmd .connectTx listener.acmp.sequenceId ((listener.bindAnswered index pdu).probeTxCommand index)).2 := by
  rw [listenerBind_restart restart]
  rfl

theorem listenerBind_but : BoundListener.SameBut index listener (listener.listenerBind index pdu) := by
  cases restart : (listener.sinks index).needBindingRestart pdu with
  | false =>
    rw [listenerBind_kept restart]
    exact ⟨rfl,fun _ apart => bindAnswered_other apart⟩
  | true =>
    rw [listenerBind_restart restart]
    refine ⟨rfl,fun _ apart => ?_⟩
    rw [modifySink_other apart,sendProbeTxCommand_other apart,bindAnswered_other apart]

end Binding

end MilanListener

namespace BoundListener
open MilanListener

section Entries
variable {listener after : MilanListener} {bindings : UInt16 → Option BindingParams} {index : UInt16}
  {binding : Option BindingParams} {pdu : AcmpPdu}

theorem Tracked.own (tracked : Tracked ⟨listener,bindings⟩) (waiting : (listener.sinks index).isWaiting = true)
    {entry : InflightCtx} (member : entry ∈ listener.acmp.inflight) :
    entry.sequenceId = (listener.sinks index).probeTxSeqId ↔ entry.pdu.listenerUniqueId = index := by
  constructor
  · intro same
    obtain ⟨own,present,names⟩ := tracked.probed index waiting
    have sequenceId := (tracked.waits own present).outstanding.sequenceId
    rw [names] at sequenceId
    have equal := List.inj_on_of_nodup_map tracked.distinct member present (same.trans sequenceId.symm)
    rw [equal]
    exact names
  · rintro rfl
    exact (tracked.waits entry member).outstanding.sequenceId

theorem Tracked.cancels (tracked : Tracked ⟨listener,bindings⟩) (waiting : (listener.sinks index).isWaiting = true)
    (isBound : (listener.sinks index).state ≠ .unbound) (same : SameBut index listener after)
    (cancels : after.acmp = listener.acmp.inflightCancel (listener.sinks index).probeTxSeqId)
    (idle : (after.sinks index).isWaiting = false)
    (timers : (after.sinks index).TimersRight) (bound : (after.sinks index).BoundBy binding) :
    Tracked ⟨after,Function.update bindings index binding⟩ := by
  have members (entry : InflightCtx) : entry ∈ after.acmp.inflight ↔
      entry ∈ listener.acmp.inflight ∧ entry.pdu.listenerUniqueId ≠ index := by
    rw [cancels,mem_inflightCancel_iff tracked.distinct]
    exact and_congr_right fun member => not_congr (tracked.own waiting member)
  refine tracked.change (tracked.inside index isBound) same ?_ ?_ ?_ ?_ timers bound
  · rw [cancels]
    exact inflightCancel_distinct tracked.distinct
  · intro entry apart
    rw [members]
    exact and_iff_left apart
  · intro entry member own
    exact absurd own ((members entry).mp member).2
  · intro waits
    exact absurd (waits.symm.trans idle) (by decide)

structure Probing (index : UInt16) (pdu : AcmpPdu) (listener after : MilanListener) : Prop where
  state : (after.sinks index).state = .prbWResp
  probe : (after.sinks index).probeTxSeqId = listener.acmp.sequenceId
  talker : (after.sinks index).isTalker pdu.talkerEntityId pdu.talkerUniqueId = true
  listens : pdu.listenerUniqueId = index

theorem Probing.waits (probing : Probing index pdu listener after) :
    Waits index (after.sinks index)
      ⟨.connectTx,false,listener.acmp.sequenceId,listener.acmp.sequenceId,{pdu with sequenceId := listener.acmp.sequenceId}⟩ := by
  refine ⟨⟨⟨rfl,probing.listens⟩,probing.probe.symm,probing.talker⟩,?_,?_⟩
  · exact isWaiting_iff.mpr (.inl probing.state)
  · rw [probing.state]
    rfl

theorem Tracked.sends (tracked : Tracked ⟨listener,bindings⟩) (valid : listener.sinkValid index = true)
    (idle : (listener.sinks index).isWaiting = false) (same : SameBut index listener after) (room : listener.Room)
    (sends : after.acmp = (listener.acmp.acmpSendCmd .connectTx listener.acmp.sequenceId pdu).2) (probing : Probing index pdu listener after)
    (timers : (after.sinks index).TimersRight) (bound : (after.sinks index).BoundBy binding) :
    Tracked ⟨after,Function.update bindings index binding⟩ := by
  have inflight : (listener.acmp.acmpSendCmd .connectTx listener.acmp.sequenceId pdu).2.inflight = _ := acmpSendCmd_room room.1
  rw [← sends] at inflight
  refine tracked.change valid same ?_ ?_ ?_ ?_ timers bound
  · rw [inflight,List.map_cons,List.nodup_cons]
    refine ⟨fun used => ?_,tracked.distinct⟩
    obtain ⟨entry,member,taken⟩ := List.mem_map.mp used
    exact room.2 entry member taken
  · intro entry apart
    rw [inflight,List.mem_cons]
    refine or_iff_right fun new => apart ?_
    rw [new]
    exact probing.listens
  · intro entry member own
    rw [inflight] at member
    rcases List.mem_cons.mp member with rfl | old
    · exact probing.waits
    · exact absurd own (tracked.idle idle old)
  · intro _
    rw [inflight]
    exact ⟨_,List.mem_cons_self,probing.listens⟩

theorem Tracked.resends (tracked : Tracked ⟨listener,bindings⟩) (waiting : (listener.sinks index).isWaiting = true)
    (isBound : (listener.sinks index).state ≠ .unbound) (same : SameBut index listener after) (room : listener.Room)
    (sends : after.acmp =
      (listener.acmp.acmpSendCmd .connectTx listener.acmp.sequenceId pdu).2.inflightCancel (listener.sinks index).probeTxSeqId)
    (probing : Probing index pdu listener after)
    (timers : (after.sinks index).TimersRight) (bound : (after.sinks index).BoundBy binding) :
    Tracked ⟨after,Function.update bindings index binding⟩ := by
  have inflight : (listener.acmp.acmpSendCmd .connectTx listener.acmp.sequenceId pdu).2.inflight = _ := acmpSendCmd_room room.1
  have distinct : ((listener.acmp.acmpSendCmd .connectTx listener.acmp.sequenceId pdu).2.inflight.map (·.sequenceId)).Nodup := by
    rw [inflight,List.map_cons,List.nodup_cons]
    refine ⟨fun used => ?_,tracked.distinct⟩
    obtain ⟨entry,member,taken⟩ := List.mem_map.mp used
    exact room.2 entry member taken
  have fresh : listener.acmp.sequenceId ≠ (listener.sinks index).probeTxSeqId := by
    obtain ⟨own,present,names⟩ := tracked.probed index waiting
    rw [← (tracked.own waiting present).mpr names]
    exact (room.2 own present).symm
  have members (entry : InflightCtx) : entry ∈ after.acmp.inflight ↔
      entry = ⟨.connectTx,false,listener.acmp.sequenceId,listener.acmp.sequenceId,{pdu with sequenceId := listener.acmp.sequenceId}⟩ ∨
        entry ∈ listener.acmp.inflight ∧ entry.pdu.listenerUniqueId ≠ index := by
    rw [sends,mem_inflightCancel_iff distinct,inflight,List.mem_cons]
    constructor
    · rintro ⟨rfl | old,apart⟩
      · exact .inl rfl
      · exact .inr ⟨old,fun own => apart ((tracked.own waiting old).mpr own)⟩
    · rintro (rfl | ⟨old,apart⟩)
      · exact ⟨.inl rfl,fresh⟩
      · exact ⟨.inr old,fun own => apart ((tracked.own waiting old).mp own)⟩
  refine tracked.change (tracked.inside index isBound) same ?_ ?_ ?_ ?_ timers bound
  · rw [sends]
    exact inflightCancel_distinct distinct
  · intro entry apart
    rw [members]
    constructor
    · rintro (rfl | old)
      · exact absurd probing.listens apart
      · exact old.1
    · intro old
      exact .inr ⟨old,apart⟩
  · intro entry member own
    rcases (members entry).mp member with rfl | old
    · exact probing.waits
    · exact absurd own old.2
  · intro _
    exact ⟨_,(members _).mpr (.inl rfl),probing.listens⟩

end Entries

end BoundListener

end Genavb.Avdecc
