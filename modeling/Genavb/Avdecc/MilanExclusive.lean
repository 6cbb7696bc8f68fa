import Genavb.Avdecc.MilanDiscovery

/-! The talkers of the bound sinks of a Milan entity: when no two sinks are bound to one talker, and
when a bind command is refused for that reason. -/
namespace Genavb.Avdecc
open Support List

def StreamInputDynamicDesc.boundTalker (sink : StreamInputDynamicDesc) : Option (UInt64 × UInt16) :=
  if sink.isBound then some (sink.binding.talkerEntityId,sink.binding.talkerUniqueId) else none

def BindingParams.talker (binding : BindingParams) : UInt64 × UInt16 := (binding.talkerEntityId,binding.talkerUniqueId)

def EntityInput.bindCommand : EntityInput → Option AcmpPdu
  | .milan (.sink (.bindRxCommand pdu)) => some pdu
  | .bindRxCommand pdu _ => some pdu
  | _ => none

namespace MilanListener
open StreamInputDynamicDesc BoundListener

def Exclusive (listener : MilanListener) : Prop :=
  ∀ first second talker, first ≠ second → (listener.sinks first).boundTalker = some talker →
    (listener.sinks second).boundTalker ≠ some talker

def BoundElsewhere (listener : MilanListener) (pdu : AcmpPdu) : Prop :=
  ∃ other, other ≠ pdu.listenerUniqueId ∧ (listener.sinks other).boundTalker = some pdu.binding.talker

/-- The step leaves the talkers exclusive, and a bind command that it refuses for its talker names
that of another bound sink. -/
structure ExclusiveStep (listener : MilanListener) (input : EntityInput) : Prop where
  exclusive : (listener.entityStep input).Exclusive
  refusal : ∀ pdu, input.bindCommand = some pdu →
    answered listener (listener.entityStep input) = some (.bindRxResponse pdu.listenerUniqueId .talkerExclusive) →
    listener.BoundElsewhere pdu

/-- If a sink that is not bound still holds the talker of the command, a bound one does as well. -/
def NotLeftOver (listener : MilanListener) (pdu : AcmpPdu) : Prop :=
  listener.sinkValid pdu.listenerUniqueId = true → listener.isLocked pdu.controllerEntityId = false →
    ∀ other, other ≠ pdu.listenerUniqueId → listener.sinkValid other = true → (listener.sinks other).isBound = false →
      (listener.sinks other).isTalker pdu.talkerEntityId pdu.talkerUniqueId = true → listener.BoundElsewhere pdu

/-- Saved parameters name a talker that no other sink is bound to, and a bind command whose response
is sent one that is not left over in the sinks that are not bound. -/
def TalkerFree (listener : MilanListener) : EntityInput → Prop
  | .milan (.sink (.savedBinding index binding)) => listener.sinkValid index = true → binding.talkerEntityId ≠ 0 →
    binding.controllerEntityId ≠ 0 → ∀ other, other ≠ index → (listener.sinks other).boundTalker ≠ some binding.talker
  | .milan (.sink (.bindRxCommand pdu)) => listener.NotLeftOver pdu
  | .bindRxCommand pdu fate => fate.response = true → listener.NotLeftOver pdu
  | _ => True

structure KeepsTalkers (listener after : MilanListener) : Prop where
  streams : after.maxListenerStreams = listener.maxListenerStreams
  kept : ∀ index, (after.sinks index).boundTalker = (listener.sinks index).boundTalker ∨
    (after.sinks index).boundTalker = none

section Talkers
variable {listener after : MilanListener} {index : UInt16} {sink : StreamInputDynamicDesc}
  {change : StreamInputDynamicDesc → StreamInputDynamicDesc} {talker : UInt64 × UInt16} {pdu : AcmpPdu}

private theorem boundTalker_eq_some :
    sink.boundTalker = some talker ↔ sink.state ≠ .unbound ∧ sink.binding.talker = talker := by
  unfold boundTalker isBound BindingParams.talker
  simp

private theorem boundTalker_congr {other : StreamInputDynamicDesc} (state : other.state = .unbound ↔ sink.state = .unbound)
    (binding : other.binding.talker = sink.binding.talker) : other.boundTalker = sink.boundTalker := by
  apply Option.ext
  intro talker
  rw [boundTalker_eq_some,boundTalker_eq_some,Ne,state,binding]

theorem KeepsTalkers.refl (listener : MilanListener) : KeepsTalkers listener listener := ⟨rfl,fun _ => .inl rfl⟩

theorem KeepsTalkers.trans {last : MilanListener} (first : KeepsTalkers listener after)
    (second : KeepsTalkers after last) :
    KeepsTalkers listener last := by
  refine ⟨second.streams.trans first.streams,fun index => ?_⟩
  obtain same | none := second.kept index
  · rw [same]
    exact first.kept index
  · exact .inr none

theorem KeepsTalkers.of_but (same : SameBut index listener after)
    (own : (after.sinks index).boundTalker = (listener.sinks index).boundTalker ∨ (after.sinks index).boundTalker = none) :
    KeepsTalkers listener after := by
  refine ⟨same.streams,fun other => ?_⟩
  by_cases here : other = index
  · rw [here]
    exact own
  · rw [same.others other here]
    exact .inl rfl

theorem KeepsTalkers.modifySink
    (same : (change (listener.sinks index)).boundTalker = (listener.sinks index).boundTalker) :
    KeepsTalkers listener (listener.modifySink index change) := by
  refine .of_but ⟨rfl,fun _ apart => modifySink_other apart⟩ (.inl ?_)
  rw [modifySink_same,same]

theorem KeepsTalkers.exclusive (keeps : KeepsTalkers listener after) (exclusive : listener.Exclusive) :
    after.Exclusive := by
  intro first second talker apart holds again
  obtain same | none := keeps.kept first
  · obtain same' | none' := keeps.kept second
    · exact exclusive first second talker apart (same.symm.trans holds) (same'.symm.trans again)
    · rw [none'] at again
      cases again
  · rw [none] at holds
    cases holds

def KeepsEvent : ListenerSinkSmEvent → Prop
  | .rcvBindRxCmd _ => False
  | .savedBindingParams => False
  | _ => True

private theorem moved_talker {next : MilanListener} (same : next.sinks = listener.sinks)
    (bound : (listener.sinks index).state ≠ .unbound) (stays : (change (listener.sinks index)).state ≠ .unbound)
    (binding : (change (listener.sinks index)).binding = (listener.sinks index).binding) :
    ((next.modifySink index change).sinks index).boundTalker = (listener.sinks index).boundTalker := by
  rw [modifySink_same,same]
  exact boundTalker_congr (iff_of_false stays bound) (congrArg _ binding)

variable {event : ListenerSinkSmEvent}

theorem sinkSm_keeps (keeps : KeepsEvent event) : KeepsTalkers listener (listener.sinkSm index event) := by
  apply KeepsTalkers.of_but (sinkSm_but event)
  unfold sinkSm
  dsimp only
  cases event with
  | rcvBindRxCmd | savedBindingParams => exact keeps.elim
  | rcvUnbindRxCmd =>
    right
    cases (listener.sinks index).state with
    | _ =>
      unfold listenerUnbind
      rw [send_sinks,modifySink_same]
      rfl
  | rcvProbeTxResp pdu status =>
    left
    unfold rcvProbeTxResp
    cases state : (listener.sinks index).state with
    | prbWResp | prbWResp2 =>
      dsimp only
      split
      · rfl
      · split
        · exact moved_talker rfl (by simp [state]) (by simp [enter]) rfl
        · exact moved_talker rfl (by simp [state]) (by simp [enter]) rfl
    | _ => rfl
  | tmrNoResp =>
    left
    cases state : (listener.sinks index).state with
    | prbWResp | prbWResp2 =>
      dsimp only
      split
      · exact moved_talker rfl (by simp [state]) (by simp [enter]) rfl
      · exact moved_talker rfl (by simp [state]) (by simp [enter]) rfl
    | _ => rfl
  | tmrDelay =>
    left
    cases state : (listener.sinks index).state with
    | prbWDelay =>
      rw [modifySink_same,sendProbeTxCommand_same]
      exact boundTalker_congr (iff_of_false (by simp [enter]) (by simp [state])) rfl
    | _ => rfl
  | tmrRetry =>
    left
    cases state : (listener.sinks index).state with
    | prbWRetry => exact moved_talker rfl (by simp [state]) (probeAgain_idle _).2.1 (probeAgain_idle _).2.2
    | _ => rfl
  | tmrNoTk =>
    left
    cases state : (listener.sinks index).state with
    | settledNoRsv => exact moved_talker rfl (by simp [state]) (released_idle _).2.1 (released_idle _).2.2
    | _ => rfl
  | evtTkUnregistered =>
    left
    cases state : (listener.sinks index).state with
    | settledRsvOk => exact moved_talker rfl (by simp [state]) (released_idle _).2.1 (released_idle _).2.2
    | _ => rfl
  | rcvGetRxState =>
    left
    cases state : (listener.sinks index).state with
    | _ => rfl
  | evtTkDiscovered =>
    left
    cases state : (listener.sinks index).state with
    | prbWAvail => exact moved_talker rfl (by simp [state]) (by simp [enter]) rfl
    | _ => rfl
  | evtTkDeparted =>
    left
    cases state : (listener.sinks index).state with
    | prbWDelay | prbWResp | prbWResp2 | prbWRetry => exact moved_talker rfl (by simp [state]) (by simp [enter]) rfl
    | _ => rfl
  | evtTkRegistered =>
    left
    cases state : (listener.sinks index).state with
    | settledNoRsv => exact moved_talker rfl (by simp [state]) (by simp [enter]) rfl
    | _ => rfl

section
variable (keeps : KeepsTalkers listener after)
include keeps

theorem KeepsTalkers.sinkSm
    (own : KeepsEvent event) :
    KeepsTalkers listener (after.sinkSm index event) := keeps.trans (sinkSm_keeps own)

theorem KeepsTalkers.sinkEvent
    (own : KeepsEvent event) :
    KeepsTalkers listener (after.sinkEvent index event) := by
  unfold MilanListener.sinkEvent
  split
  · exact keeps.sinkSm own
  · exact keeps

theorem KeepsTalkers.modify
    (same : ∀ sink, (change sink).boundTalker = sink.boundTalker) :
    KeepsTalkers listener (after.modifySink index change) := keeps.trans (.modifySink (same _))

end

private theorem discoverySm_keeps (event : DiscoveryEvent) : KeepsTalkers listener (listener.discoverySm index event) := by
  have unchanged := KeepsTalkers.refl listener
  have gone : KeepsTalkers listener (listener.sinkEvent index .evtTkDeparted) := unchanged.sinkEvent trivial
  unfold discoverySm
  dsimp only
  split
  · split
    · split
      · exact unchanged
      · refine KeepsTalkers.modify (KeepsTalkers.sinkEvent ?_ trivial) fun _ => rfl
        exact unchanged.modify fun _ => rfl
    · exact unchanged
  · split
    · split
      · exact unchanged
      · split
        · split
          · exact gone.modify fun _ => rfl
          · refine KeepsTalkers.modify (KeepsTalkers.sinkEvent ?_ trivial) fun _ => rfl
            exact gone
        · exact unchanged.modify fun _ => rfl
    · split
      · exact unchanged
      · refine KeepsTalkers.modify (KeepsTalkers.sinkEvent ?_ trivial) fun _ => rfl
        exact unchanged.modify fun _ => rfl
    · exact gone.modify fun _ => rfl
    · refine unchanged.modify fun sink => ?_
      rw [discoveryReset_eq]
      rfl

theorem adpRcv_keeps (entityId : UInt64) (event : DiscoveryEvent) :
    KeepsTalkers listener (listener.adpRcv entityId event) := by
  unfold adpRcv
  generalize List.range listener.maxListenerStreams = indices
  induction indices generalizing listener with
  | nil => exact .refl listener
  | cons index rest ih =>
    rw [foldl_cons]
    refine KeepsTalkers.trans ?_ ih
    dsimp only
    split
    · exact discoverySm_keeps event
    · exact .refl listener

theorem srpStateSm_keeps (status : ListenerStreamStatus) (params : SrpParams) :
    KeepsTalkers listener (listener.srpStateSm index status params) := by
  have noted : KeepsTalkers listener (listener.modifySink index ({· with srpStreamStatus := status})) :=
    (KeepsTalkers.refl listener).modify fun _ => rfl
  unfold srpStateSm
  dsimp only
  split
  · exact .refl listener
  · split
    · exact .refl listener
    · split
      · split
        · refine KeepsTalkers.sinkEvent ?_ trivial
          exact noted.modify fun _ => rfl
        · exact noted
      · split
        · refine KeepsTalkers.sinkEvent ?_ trivial
          exact noted.modify fun _ => rfl
        · exact noted

theorem inflightTimeout_keeps (position : Nat) : KeepsTalkers listener (listener.inflightTimeout position) := by
  have told (index : UInt16) : KeepsTalkers listener (listener.sinkEvent index .tmrNoResp) :=
    (KeepsTalkers.refl listener).sinkEvent trivial
  unfold inflightTimeout
  split
  · exact .refl listener
  next entry _ =>
    split
    · exact ⟨(told entry.pdu.listenerUniqueId).streams,(told entry.pdu.listenerUniqueId).kept⟩
    · split
      · exact ⟨rfl,fun _ => .inl rfl⟩
      · exact ⟨(told entry.pdu.listenerUniqueId).streams,(told entry.pdu.listenerUniqueId).kept⟩

def Binds : EntityInput → Prop
  | .milan (.sink (.savedBinding _ _)) => True
  | input => input.bindCommand ≠ none

theorem entityStep_keeps {input : EntityInput} (plain : ¬Binds input) :
    KeepsTalkers listener (listener.entityStep input) := by
  have unchanged := KeepsTalkers.refl listener
  cases input with
  | milan input =>
    cases input with
    | controllerCommand | controllerResponse => exact ⟨rfl,fun _ => .inl rfl⟩
    | sink input =>
      unfold entityStep milanStep sinkStep
      cases input with
      | bindRxCommand pdu => exact absurd (by simp [Binds,EntityInput.bindCommand]) plain
      | savedBinding index binding => exact absurd trivial plain
      | unbindRxCommand pdu =>
        obtain ⟨status,_,refused⟩ | ⟨_,told⟩ := rcvUnbindRx_cases listener pdu
        · dsimp only
          rw [refused]
          exact ⟨rfl,fun _ => .inl rfl⟩
        · dsimp only
          rw [told]
          exact unchanged.sinkSm trivial
      | getRxStateCommand pdu =>
        dsimp only
        unfold rcvGetRxState
        split
        · exact ⟨rfl,fun _ => .inl rfl⟩
        · exact unchanged.sinkSm trivial
      | probeTxResponse pdu status => exact unchanged.sinkEvent trivial
      | adpAvailable | adpDeparting => exact adpRcv_keeps ..
      | listenerStatus status params =>
        dsimp only
        unfold listenerStatus
        split
        · exact unchanged
        · exact srpStateSm_keeps ..
      | delayTimer index | retryTimer index | talkerRegistrationTimer index =>
        dsimp only
        unfold timerExpires
        split
        · refine KeepsTalkers.sinkEvent ?_ trivial
          exact unchanged.modify fun _ => rfl
        · exact unchanged
      | discoveryTimer index =>
        dsimp only
        split
        · refine KeepsTalkers.trans ?_ (discoverySm_keeps _)
          exact unchanged.modify fun _ => rfl
        · exact unchanged
      | inflightTimer position => exact inflightTimeout_keeps position
  | bindRxCommand pdu fate => exact absurd (by simp [Binds,EntityInput.bindCommand]) plain
  | lock holder => exact ⟨rfl,fun _ => .inl rfl⟩
  | startStreaming index =>
    unfold entityStep startStreaming
    dsimp only
    split
    · exact unchanged.modify fun _ => rfl
    · exact unchanged
  | stopStreaming index =>
    unfold entityStep stopStreaming
    dsimp only
    split
    · exact unchanged.modify fun _ => rfl
    · exact unchanged

theorem isTalker_iff : sink.isTalker pdu.talkerEntityId pdu.talkerUniqueId = true ↔
    sink.binding.talker = pdu.binding.talker := by
  unfold isTalker BindingParams.talker AcmpPdu.binding
  simp

private theorem alreadyBoundTo_iff : listener.alreadyBoundTo index pdu = true ↔
    ∃ other, other ≠ index ∧ listener.sinkValid other = true ∧ (listener.sinks other).binding.talker = pdu.binding.talker := by
  unfold alreadyBoundTo sinkValid
  simp only [any_eq_true,mem_range,Bool.and_eq_true,decide_eq_true_eq,isTalker_iff]
  constructor
  · rintro ⟨other,inside,apart,talker⟩
    refine ⟨.ofNat other,apart,?_,talker⟩
    exact lt_of_le_of_lt (by rw [UInt16.toNat_ofNat']; exact Nat.mod_le ..) inside
  · rintro ⟨other,apart,inside,talker⟩
    refine ⟨other.toNat,inside,?_⟩
    rw [UInt16.ofNat_toNat]
    exact ⟨apart,talker⟩

theorem Exclusive.changed (exclusive : listener.Exclusive) (same : SameBut index listener after)
    (own : ∀ talker, (after.sinks index).boundTalker = some talker → ∀ other, other ≠ index →
      (listener.sinks other).boundTalker ≠ some talker) : after.Exclusive := by
  intro first second talker apart holds again
  by_cases here : first = index
  · rw [here] at holds apart
    rw [same.others second apart.symm] at again
    exact own talker holds second apart.symm again
  · rw [same.others first here] at holds
    by_cases there : second = index
    · rw [there] at again
      exact own talker again first here holds
    · rw [same.others second there] at again
      exact exclusive first second talker apart holds again

private theorem listenerBind_binding : ((listener.listenerBind index pdu).sinks index).binding = pdu.binding := by
  cases restart : (listener.sinks index).needBindingRestart pdu with
  | false =>
    rw [listenerBind_kept restart]
    unfold bindAnswered
    rw [send_sinks,modifySink_same]
  | true =>
    rw [listenerBind_same restart]
    rfl

private theorem rebind_binding {stop : MilanListener → MilanListener} (free : listener.alreadyBoundTo index pdu = false)
    (stops : ∀ next : MilanListener, ((stop next).sinks index).binding = (next.sinks index).binding) :
    ((listener.rebind index pdu stop).sinks index).binding = pdu.binding := by
  unfold rebind
  rw [free,if_neg Bool.false_ne_true]
  split
  · rw [modifySink_same,discoveryReset_eq]
    exact (stops _).trans listenerBind_binding
  · exact listenerBind_binding

theorem bind_binding (free : listener.alreadyBoundTo index pdu = false) :
    ((listener.sinkSm index (.rcvBindRxCmd pdu)).sinks index).binding = pdu.binding := by
  unfold sinkSm
  dsimp only
  cases (listener.sinks index).state with
  | unbound =>
    rw [free,if_neg Bool.false_ne_true,modifySink_same,discoveryReset_eq]
    exact listenerBind_binding
  | prbWAvail | prbWResp | prbWResp2 => exact rebind_binding free fun _ => rfl
  | prbWDelay | prbWRetry | settledNoRsv | settledRsvOk =>
    exact rebind_binding free fun _ => congrArg (·.binding) modifySink_same

private theorem answered_mem {rest : List MilanSent} {message : MilanSent} (sent : after.sent = listener.sent ++ rest)
    (first : answered listener after = some message) : message ∈ rest := by
  unfold answered at first
  rw [sent,List.getElem?_append_right le_rfl] at first
  exact mem_of_getElem? first

private theorem sendIf_answered {sent : Bool} {message first : MilanSent}
    (given : answered listener (listener.sendIf sent message) = some first) : sent = true ∧ first = message := by
  cases sent with
  | false =>
    have none : _ ∈ ([] : List MilanSent) := answered_mem (append_nil _).symm given
    cases none
  | true => exact ⟨rfl,mem_singleton.mp (answered_mem rfl given)⟩

private theorem sendIf_sent (sent : Bool) (message : MilanSent) :
    (listener.sendIf sent message).sent = listener.sent ++ if sent then [message] else [] := by
  cases sent with
  | false => exact (append_nil _).symm
  | true => rfl

theorem probeFate_sent (fate : ProbeFate) : ∃ probes,
    (listener.probeFate index fate).sent = listener.sent ++ probes ∧
    ∀ message, message ∈ probes → ∃ pdu, message = .probeTxCommand pdu := by
  cases fate with
  | sent => exact ⟨_,rfl,fun message member => ⟨_,mem_singleton.mp member⟩⟩
  | noBuffer | lost => exact ⟨[],(append_nil _).symm,fun _ member => absurd member not_mem_nil⟩

theorem listenerBindFails_answered (fate : BindFate) :
    answered listener (listener.listenerBindFails index pdu fate) ≠ some (.bindRxResponse index .talkerExclusive) := by
  intro refused
  have response {message : MilanSent} (member : message ∈ if fate.response then [MilanSent.bindRxResponse index .success] else []) :
      message = .bindRxResponse index .success := by
    split at member
    · exact mem_singleton.mp member
    · exact absurd member not_mem_nil
  unfold listenerBindFails at refused
  split at refused
  · obtain ⟨probes,sent,isProbe⟩ := @probeFate_sent ((listener.modifySink index
      ({· with binding := pdu.binding})).sendIf fate.response (.bindRxResponse index .success)) index fate.probe
    rw [sendIf_sent,append_assoc] at sent
    obtain member | member := mem_append.mp (answered_mem sent refused)
    · cases response member
    · obtain ⟨probe,same⟩ := isProbe _ member
      cases same
  · cases response (answered_mem (sendIf_sent ..) refused)

theorem bindFate_iff (exclusive : listener.Exclusive)
    (inside : ∀ index, (listener.sinks index).state ≠ .unbound → listener.sinkValid index = true) (fate : BindFate) :
    ((listener.rcvBindRxFate pdu fate).Exclusive ∧
      (answered listener (listener.rcvBindRxFate pdu fate) = some (.bindRxResponse pdu.listenerUniqueId .talkerExclusive) →
        listener.BoundElsewhere pdu)) ↔
    (fate.response = true → listener.NotLeftOver pdu) := by
  have same {message : MilanSent} : (listener.sendIf fate.response message).Exclusive := by
    unfold Exclusive
    rw [sendIf_sinks]
    exact exclusive
  unfold rcvBindRxFate
  dsimp only
  cases valid : listener.sinkValid pdu.listenerUniqueId with
  | false =>
    refine iff_of_true ⟨same,fun refused => ?_⟩ fun _ valid' => ?_
    · cases (sendIf_answered refused).2
    · exact absurd (valid.symm.trans valid') (by decide)
  | true =>
    rw [Bool.not_true,if_neg Bool.false_ne_true]
    cases locked : listener.isLocked pdu.controllerEntityId with
    | true =>
      refine iff_of_true ⟨same,fun refused => ?_⟩ fun _ _ unlocked => ?_
      · cases (sendIf_answered refused).2
      · exact absurd (locked.symm.trans unlocked) (by decide)
    | false =>
      rw [if_neg Bool.false_ne_true]
      cases taken : listener.alreadyBoundTo pdu.listenerUniqueId pdu with
      | true =>
        constructor
        · intro promised sent _ _ other _ _ _ _
          refine promised.2 ?_
          rw [sent]
          exact @answered_first _ _ _ [] rfl
        · intro notLeftOver
          refine ⟨same,fun refused => ?_⟩
          obtain ⟨other,apart,inTable,talker⟩ := alreadyBoundTo_iff.mp taken
          cases isBound : (listener.sinks other).isBound with
          | false =>
            exact notLeftOver (sendIf_answered refused).1 valid locked other apart inTable isBound (isTalker_iff.mpr talker)
          | true => exact ⟨other,apart,boundTalker_eq_some.mpr ⟨by simpa [StreamInputDynamicDesc.isBound] using isBound,talker⟩⟩
      | false =>
        rw [if_neg Bool.false_ne_true]
        have nobody (other : UInt16) (apart : other ≠ pdu.listenerUniqueId) :
            (listener.sinks other).boundTalker ≠ some pdu.binding.talker := by
          intro holds
          obtain ⟨isBound,talker⟩ := boundTalker_eq_some.mp holds
          have found := alreadyBoundTo_iff.mpr ⟨other,apart,inside other isBound,talker⟩
          exact absurd (taken.symm.trans found) (by decide)
        have free {after : MilanListener} (but : SameBut pdu.listenerUniqueId listener after)
            (binding : (after.sinks pdu.listenerUniqueId).binding = pdu.binding) : after.Exclusive := by
          refine exclusive.changed but fun talker holds => ?_
          rw [← (boundTalker_eq_some.mp holds).2,binding]
          exact nobody
        refine iff_of_true ?_ fun _ _ _ other apart inTable _ talker => ?_
        · split
          · obtain ⟨_,_,_,own⟩ := @listenerBindFails_same listener pdu.listenerUniqueId pdu fate
            exact ⟨free listenerBindFails_but (by rw [own]),fun refused => absurd refused (listenerBindFails_answered fate)⟩
          · refine ⟨free (sinkSm_but _) (bind_binding taken),fun refused => ?_⟩
            rw [bind_answered,taken] at refused
            cases refused
        · have found := alreadyBoundTo_iff.mpr ⟨other,apart,inTable,isTalker_iff.mp talker⟩
          exact absurd (taken.symm.trans found) (by decide)

private theorem saved_binds (listener : MilanListener) (index : UInt16) (binding : BindingParams) :
    (((listener.modifySink index ({· with binding := binding})).sinkSm index .savedBindingParams).sinks index).boundTalker =
      some binding.talker := by
  rw [boundTalker_eq_some]
  have written : ((listener.modifySink index ({· with binding := binding})).sinks index).binding = binding :=
    congrArg (·.binding) modifySink_same
  generalize listener.modifySink index ({· with binding := binding}) = next at written
  unfold sinkSm
  dsimp only
  cases state : (next.sinks index).state with
  | unbound =>
    rw [modifySink_same,discoveryReset_eq]
    exact ⟨by simp [enter],congrArg _ written⟩
  | _ => exact ⟨by simp [state],congrArg _ written⟩

theorem saved_iff (exclusive : listener.Exclusive) (binding : BindingParams) :
    (listener.rcvBindingParams index binding).Exclusive ↔
    (listener.sinkValid index = true → binding.talkerEntityId ≠ 0 → binding.controllerEntityId ≠ 0 →
      ∀ other, other ≠ index → (listener.sinks other).boundTalker ≠ some binding.talker) := by
  unfold rcvBindingParams
  cases valid : listener.sinkValid index with
  | false => exact iff_of_true exclusive fun valid' => absurd valid' Bool.false_ne_true
  | true =>
    rw [Bool.not_true,if_neg Bool.false_ne_true]
    split
    next missing => exact iff_of_true exclusive fun _ talker controller => absurd missing (by simp [talker,controller])
    next given =>
      obtain ⟨talker,controller⟩ : binding.talkerEntityId ≠ 0 ∧ binding.controllerEntityId ≠ 0 := not_or.mp given
      have but := @sinkSm_but (listener.modifySink index ({· with binding := binding})) index
        .savedBindingParams
      have others (other : UInt16) (apart : other ≠ index) :
          ((listener.modifySink index ({· with binding := binding})).sinkSm index .savedBindingParams).sinks other =
            listener.sinks other := (but.others other apart).trans (modifySink_other apart)
      constructor
      · intro after _ _ _ other apart holds
        refine after index other _ apart.symm (saved_binds listener index binding) ?_
        rw [others other apart]
        exact holds
      · intro free
        refine exclusive.changed ⟨but.streams,others⟩ fun _ own => ?_
        rw [saved_binds] at own
        rw [← Option.some.inj own]
        exact free rfl talker controller

theorem plain_free {input : EntityInput} (plain : ¬Binds input) :
    input.bindCommand = none ∧ listener.TalkerFree input := by
  have command (pdu : AcmpPdu) : some pdu ≠ none := Option.some_ne_none pdu
  cases input with
  | milan input =>
    cases input with
    | sink input =>
      cases input with
      | savedBinding index binding => exact absurd trivial plain
      | bindRxCommand pdu => exact absurd (command pdu) plain
      | _ => exact ⟨rfl,trivial⟩
    | _ => exact ⟨rfl,trivial⟩
  | bindRxCommand pdu fate => exact absurd (command pdu) plain
  | _ => exact ⟨rfl,trivial⟩

theorem exclusiveStep_iff (exclusive : listener.Exclusive) (agrees : listener.DiscoveryAgrees) (input : EntityInput) :
    listener.ExclusiveStep input ↔ listener.TalkerFree input := by
  have bound (pdu : AcmpPdu) (fate : BindFate) : listener.ExclusiveStep (.bindRxCommand pdu fate) ↔
      (fate.response = true → listener.NotLeftOver pdu) := by
    rw [← bindFate_iff exclusive agrees.inside fate]
    constructor
    · intro step
      exact ⟨step.exclusive,step.refusal pdu rfl⟩
    · rintro ⟨kept,refusal⟩
      refine ⟨kept,fun named given => ?_⟩
      cases given
      exact refusal
  by_cases plain : Binds input
  · cases input with
    | milan input =>
      cases input with
      | sink input =>
        cases input with
        | savedBinding index binding =>
          refine Iff.trans ⟨fun step => step.exclusive,fun kept => ⟨kept,?_⟩⟩ (saved_iff exclusive binding)
          intro pdu given
          cases given
        | bindRxCommand pdu =>
          have sent := bound pdu ⟨true,.sent⟩
          have all : listener.entityStep (.bindRxCommand pdu ⟨true,.sent⟩) =
              listener.entityStep (.milan (.sink (.bindRxCommand pdu))) := rcvBindRxFate_sent listener pdu
          constructor
          · intro step
            exact sent.mp ⟨all ▸ step.exclusive,all ▸ step.refusal⟩ rfl
          · intro free
            have step := sent.mpr fun _ => free
            exact ⟨all ▸ step.exclusive,all ▸ step.refusal⟩
        | _ => exact absurd rfl plain
      | _ => exact absurd rfl plain
    | bindRxCommand pdu fate => exact bound pdu fate
    | _ => exact absurd rfl plain
  · obtain ⟨none,free⟩ := @plain_free listener _ plain
    refine iff_of_true ⟨(entityStep_keeps plain).exclusive exclusive,fun pdu given => ?_⟩ free
    rw [none] at given
    cases given

/-- The talkers stay exclusive, and every refusal is right, in exactly the runs whose saved parameters
and bind commands name a free talker. -/
theorem talkers_exclusive (entityId : UInt64) (maxListenerStreams maxInflights : Nat) (lock : Option UInt64)
    (inputs : List EntityInput) :
    Steps entityStep ExclusiveStep inputs (acmpMilanInit entityId maxListenerStreams maxInflights lock) ↔
      Steps entityStep TalkerFree inputs (acmpMilanInit entityId maxListenerStreams maxInflights lock) := by
  refine steps_iff entityStep (I := fun listener => listener.Exclusive ∧ listener.DiscoveryAgrees) ?_ ?_ ⟨?_,?_⟩
  · intro listener input inv
    exact exclusiveStep_iff inv.1 inv.2 input
  · intro listener input inv step
    exact ⟨step.exclusive,inv.2.entityStep input⟩
  · intro first second talker _ holds
    cases holds
  · exact acmpMilanInit_agrees ..

def savedTwice : List EntityInput :=
  [.milan (.sink (.bindRxCommand ⟨1,10,0,2,0,0,⟨0,0,0,0,0,0⟩,0,0,0,0⟩)),
    .milan (.sink (.savedBinding 1 ⟨1,10,0,0⟩))]

theorem savedTwice_shared : ¬ Steps entityStep ExclusiveStep savedTwice (acmpMilanInit 2 2 5 none) := by
  intro steps
  exact steps.2.1.exclusive 0 1 (10,0) (by decide) (by decide) (by decide)

end Talkers

end MilanListener

end Genavb.Avdecc
