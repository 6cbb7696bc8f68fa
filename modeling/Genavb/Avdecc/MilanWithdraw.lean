import Genavb.Avdecc.MilanStreaming

/-! The delay between the withdrawal of a talker and the declaration of another one, over whole
runs: it is kept as long as the address of a declared talker does not change and no re-declaration
fails. -/
namespace Genavb.Avdecc
open Support List
open Maap (MacAddress)

section Events

/-- The attribute that is declared and the one whose withdrawal has not ended, after the events. -/
def declaredAndWithdrawn (events : List TalkerEvent) : Option SrpTalkerParams × Option SrpTalkerParams :=
  events.foldl (fun known event =>
    match event with
    | .talkerDeclare params => (some params,none)
    | .talkerWithdraw _ => (none,known.1)
    | .srpTalkerWithdrawTimer => (known.1,none)
    | .avtpStackConnect .. | .avtpStackDisconnect _ | .probeTxResponse _ => known) (none,none)

/-- Until the withdrawal of an attribute ends, no other one is declared. -/
def DeclareDelayed (before : List TalkerEvent) : TalkerEvent → Prop
  | .talkerDeclare params => ∀ withdrawn, (declaredAndWithdrawn before).2 = some withdrawn → params = withdrawn
  | .talkerWithdraw _ | .srpTalkerWithdrawTimer | .avtpStackConnect .. | .avtpStackDisconnect _
  | .probeTxResponse _ => True

variable {events : List TalkerEvent}

private theorem declaredAndWithdrawn_declare (params : SrpTalkerParams) :
    declaredAndWithdrawn (events ++ [.talkerDeclare params]) = (some params,none) := by
  unfold declaredAndWithdrawn
  rw [foldl_append]
  rfl

private theorem declaredAndWithdrawn_withdraw (streamId : UInt64) :
    declaredAndWithdrawn (events ++ [.talkerWithdraw streamId]) = (none,(declaredAndWithdrawn events).1) := by
  unfold declaredAndWithdrawn
  rw [foldl_append]
  rfl

private theorem declaredAndWithdrawn_timer :
    declaredAndWithdrawn (events ++ [.srpTalkerWithdrawTimer]) = ((declaredAndWithdrawn events).1,none) := by
  unfold declaredAndWithdrawn
  rw [foldl_append]
  rfl

private theorem declaredAndWithdrawn_connect (streamId : UInt64) (dstMac : MacAddress) :
    declaredAndWithdrawn (events ++ [.avtpStackConnect streamId dstMac]) = declaredAndWithdrawn events := by
  unfold declaredAndWithdrawn
  rw [foldl_append]
  rfl

private theorem declaredAndWithdrawn_disconnect (streamId : UInt64) :
    declaredAndWithdrawn (events ++ [.avtpStackDisconnect streamId]) = declaredAndWithdrawn events := by
  unfold declaredAndWithdrawn
  rw [foldl_append]
  rfl

private theorem declaredAndWithdrawn_response (status : AcmpStatus) :
    declaredAndWithdrawn (events ++ [.probeTxResponse status]) = declaredAndWithdrawn events := by
  unfold declaredAndWithdrawn
  rw [foldl_append]
  rfl

end Events

namespace MilanTalker

/-- The withdrawal in progress is that of the attribute that was really declared, its timer runs,
and only that attribute is declared meanwhile, at once. -/
structure RedeclarationHolds (talker : MilanTalker) : Prop where
  running : talker.output.srpTalkerWithdrawTimer =
    if talker.output.srpTalkerWithdrawInProgress then some ACMP_MILAN_TALKER_TMR_SRP_WITHDRAW_MS else none
  saved : (declaredAndWithdrawn talker.events).2 =
    if talker.output.srpTalkerWithdrawInProgress then some talker.output.srpTalkerWithdrawParams else none
  delayed : History DeclareDelayed talker.events
  again : ∀ calls, (declaredAndWithdrawn talker.events).2 = some talker.output.params →
    talker.output.hasValidSrpParams = true → calls.avtpDisconnect = true → calls.declare = true →
      (talker.update calls).2.output.talkerDeclared = true

structure WithdrawHolds (talker : MilanTalker) : Prop where
  apart : talker.output.WithdrawnApart
  running : talker.output.srpTalkerWithdrawTimer =
    if talker.output.srpTalkerWithdrawInProgress then some ACMP_MILAN_TALKER_TMR_SRP_WITHDRAW_MS else none
  declared : (declaredAndWithdrawn talker.events).1 =
    if talker.output.talkerDeclared then some talker.output.params else none
  saved : (declaredAndWithdrawn talker.events).2 =
    if talker.output.srpTalkerWithdrawInProgress then some talker.output.srpTalkerWithdrawParams else none
  delayed : History DeclareDelayed talker.events

/-- The declaration of the attribute that is being withdrawn succeeds. -/
def RedeclareSucceeds (calls : StackCalls) (talker : MilanTalker) : Prop :=
  talker.output.srpTalkerWithdrawInProgress = true → talker.output.redeclaringSameTalker = true →
    talker.output.hasValidSrpParams = true → calls.declare = true

/-- The address of a declared talker does not change, and no re-declaration fails. -/
def DeclarationKept (talker : MilanTalker) (input : TalkerInput × StackCalls) : Prop :=
  (talker.output.talkerDeclared = true →
    (talker.prepare input.1).1.output.streamDestMac = talker.output.streamDestMac) ∧
  ((talker.prepare input.1).2 = true → RedeclareSucceeds input.2 (talker.prepare input.1).1)

section Stages
variable {calls : StackCalls} {talker : MilanTalker}

theorem updateWithdraw_keeps :
    Keeps (fun talker => talker.WithdrawHolds ∧ talker.RedeclareSucceeds calls) (updateWithdraw calls) := by
  rintro talker ⟨holds,succeeds⟩
  unfold updateWithdraw
  dsimp only
  split
  next withdraw =>
    simp only [Bool.and_eq_true,Bool.not_eq_true'] at withdraw
    obtain ⟨invalid,declared⟩ := withdraw
    split
    · exact ⟨holds,succeeds⟩
    · refine ⟨⟨fun _ => rfl,rfl,?_,?_,history_append holds.delayed trivial⟩,fun _ _ valid => ?_⟩
      · rw [declaredAndWithdrawn_withdraw]
        rfl
      · rw [declaredAndWithdrawn_withdraw,holds.declared,declared]
        rfl
      · exact absurd (invalid.symm.trans valid) (by decide)
  · exact ⟨holds,succeeds⟩

theorem updateDisconnect_keeps :
    Keeps (fun talker => talker.WithdrawHolds ∧ talker.RedeclareSucceeds calls) (updateDisconnect calls) := by
  rintro talker ⟨holds,succeeds⟩
  unfold updateDisconnect
  dsimp only
  split
  · split
    · exact ⟨holds,succeeds⟩
    · refine ⟨⟨holds.apart,holds.running,?_,?_,history_append holds.delayed trivial⟩,succeeds⟩
      · rw [declaredAndWithdrawn_disconnect]
        exact holds.declared
      · rw [declaredAndWithdrawn_disconnect]
        exact holds.saved
  · exact ⟨holds,succeeds⟩

theorem updateConnect_keeps :
    Keeps (fun talker => talker.WithdrawHolds ∧ talker.RedeclareSucceeds calls) (updateConnect calls) := by
  rintro talker ⟨holds,succeeds⟩
  unfold updateConnect
  dsimp only
  split
  · split
    · exact ⟨holds,succeeds⟩
    · refine ⟨⟨holds.apart,holds.running,?_,?_,history_append holds.delayed trivial⟩,succeeds⟩
      · rw [declaredAndWithdrawn_connect]
        exact holds.declared
      · rw [declaredAndWithdrawn_connect]
        exact holds.saved
  · exact ⟨holds,succeeds⟩

theorem updateDeclare_keeps (valid : talker.output.hasValidSrpParams = true)
    (known : talker.WithdrawHolds ∧ talker.RedeclareSucceeds calls) :
    Leaves (fun talker => talker.WithdrawHolds ∧ talker.RedeclareSucceeds calls) (talker.updateDeclare calls) := by
  obtain ⟨holds,succeeds⟩ := known
  unfold updateDeclare
  dsimp only
  split
  · exact ⟨holds,succeeds⟩
  next undeclared =>
  split
  · exact ⟨holds,succeeds⟩
  next allowed =>
  cases progress : talker.output.srpTalkerWithdrawInProgress with
  | true =>
    rw [progress,Bool.true_and,Bool.not_eq_true',Bool.not_eq_false] at allowed
    have same : talker.output.srpTalkerWithdrawParams = talker.output.params := of_decide_eq_true allowed
    have saved := holds.saved
    rw [progress,if_pos rfl,same] at saved
    rw [succeeds progress allowed valid,if_pos rfl,if_neg (by decide)]
    refine ⟨⟨fun no => (nomatch no),rfl,?_,?_,history_append holds.delayed ?_⟩,fun no => (nomatch no)⟩
    · rw [declaredAndWithdrawn_declare]
      rfl
    · rw [declaredAndWithdrawn_declare]
      rfl
    · intro withdrawn last
      exact Option.some.inj (saved.symm.trans last)
  | false =>
    have saved := holds.saved
    have running := holds.running
    rw [progress,if_neg Bool.false_ne_true] at saved running
    rw [if_neg Bool.false_ne_true]
    split
    · exact ⟨holds,succeeds⟩
    · refine ⟨⟨fun waiting => ?_,?_,?_,?_,history_append holds.delayed ?_⟩,fun waiting => ?_⟩
      · exact absurd (progress.symm.trans waiting) (by decide)
      · unfold StreamOutputDynamicDesc.setWithdrawSrpParams
        rw [progress]
        exact running
      · rw [declaredAndWithdrawn_declare]
        rfl
      · rw [declaredAndWithdrawn_declare]
        unfold StreamOutputDynamicDesc.setWithdrawSrpParams
        rw [progress]
        rfl
      · intro withdrawn last
        exact absurd (saved.symm.trans last) (by simp)
      · exact absurd (progress.symm.trans waiting) (by decide)

theorem updateConnect_declared : Keeps (fun talker => talker.output.talkerDeclared = true) (updateConnect calls) := by
  intro talker declared
  unfold updateConnect
  dsimp only
  split
  · split <;> exact declared
  · exact declared

theorem updateDisconnect_done (talker : MilanTalker) (disconnects : calls.avtpDisconnect = true) :
    ∃ connected events, talker.updateDisconnect calls =
      .ok ⟨{talker.output with avtpConnected := connected},events⟩ := by
  unfold updateDisconnect
  dsimp only
  rw [disconnects]
  split
  · exact ⟨false,_,rfl⟩
  · exact ⟨talker.output.avtpConnected,talker.events,rfl⟩

theorem update_redeclares (progress : talker.output.srpTalkerWithdrawInProgress = true)
    (undeclared : talker.output.talkerDeclared = false)
    (same : talker.output.srpTalkerWithdrawParams = talker.output.params)
    (valid : talker.output.hasValidSrpParams = true) (disconnects : calls.avtpDisconnect = true)
    (declares : calls.declare = true) : (talker.update calls).2.output.talkerDeclared = true := by
  have withdraw : talker.updateWithdraw calls = .ok talker := by
    unfold updateWithdraw
    dsimp only
    rw [valid]
    rfl
  obtain ⟨connected,events,disconnect⟩ := updateDisconnect_done talker disconnects
  have again : talker.output.redeclaringSameTalker = true := decide_eq_true same
  have declare : Leaves (fun talker => talker.output.talkerDeclared = true)
      (updateDeclare calls ⟨{talker.output with avtpConnected := connected},events⟩) := by
    unfold updateDeclare
    dsimp only
    rw [undeclared,progress,declares,if_neg Bool.false_ne_true]
    change Leaves _ (if (true && !talker.output.redeclaringSameTalker) = true then _ else _)
    rw [again]
    exact rfl
  refine Leaves.update (P := fun talker => talker.output.talkerDeclared = true) ?_
  rw [withdraw]
  change Leaves _ (updateDisconnect calls talker >>= updateValid calls)
  rw [disconnect]
  change Leaves _ (updateValid calls ⟨{talker.output with avtpConnected := connected},events⟩)
  unfold updateValid
  split
  · exact declare.bind updateConnect_declared
  next invalid => exact absurd valid invalid

end Stages

section Runs
variable {talker : MilanTalker}

theorem WithdrawHolds.redeclaration (holds : talker.WithdrawHolds) : talker.RedeclarationHolds := by
  refine ⟨holds.running,holds.saved,holds.delayed,?_⟩
  intro calls last valid disconnects declares
  have saved := holds.saved
  rw [last] at saved
  cases progress : talker.output.srpTalkerWithdrawInProgress with
  | false =>
    rw [progress,if_neg Bool.false_ne_true] at saved
    cases saved
  | true =>
    rw [progress,if_pos rfl] at saved
    exact update_redeclares progress (holds.apart progress) (Option.some.inj saved).symm valid disconnects declares

theorem prepare_holds (input : TalkerInput) (holds : talker.WithdrawHolds)
    (kept : talker.output.talkerDeclared = true →
      (talker.prepare input).1.output.streamDestMac = talker.output.streamDestMac) :
    (talker.prepare input).1.WithdrawHolds := by
  have apart := prepare_apart input holds.apart
  have address (mac : MacAddress) (same : talker.output.talkerDeclared = true → mac = talker.output.streamDestMac) :
      (declaredAndWithdrawn talker.events).1 =
        if talker.output.talkerDeclared then some ⟨talker.output.streamId,talker.output.streamVlanId,mac⟩ else none := by
    rw [holds.declared]
    split
    next declared =>
      rw [same declared]
      rfl
    · rfl
  unfold prepare at apart kept ⊢
  cases input with
  | probeTxCommand sameInterface =>
    cases sameInterface with
    | false => exact holds
    | true => exact {holds with apart := apart}
  | talkerStatus status => exact {holds with apart := apart}
  | maapConflict concerned | maapValid concerned =>
    cases concerned with
    | false => exact holds
    | true => exact ⟨apart,holds.running,address _ kept,holds.saved,holds.delayed⟩
  | probeTxReceptionTimer =>
    dsimp only at apart ⊢
    split
    · exact {holds with}
    · exact holds
  | srpTalkerWithdrawTimer =>
    dsimp only at apart ⊢
    split
    · refine ⟨fun no => (nomatch no),rfl,?_,?_,history_append holds.delayed trivial⟩
      · rw [declaredAndWithdrawn_timer]
        exact holds.declared
      · rw [declaredAndWithdrawn_timer]
        rfl
    · exact holds

private theorem respond_holds (input : TalkerInput) (status : Option AcmpStatus) (holds : talker.WithdrawHolds) :
    (talker.respond input status).WithdrawHolds := by
  unfold respond
  cases input with
  | probeTxCommand sameInterface =>
    refine ⟨holds.apart,holds.running,?_,?_,history_append holds.delayed trivial⟩
    · rw [declaredAndWithdrawn_response]
      exact holds.declared
    · rw [declaredAndWithdrawn_response]
      exact holds.saved
  | talkerStatus | maapConflict | maapValid | probeTxReceptionTimer | srpTalkerWithdrawTimer => exact holds

theorem talkerStep_holds (input : TalkerInput × StackCalls) (holds : talker.WithdrawHolds)
    (kept : talker.DeclarationKept input) : (talkerStep input talker).WithdrawHolds := by
  have prepared := prepare_holds input.1 holds kept.1
  unfold talkerStep
  dsimp only
  split
  next updates =>
    refine respond_holds _ _ ?_
    exact (update_keeps updateWithdraw_keeps updateDisconnect_keeps
      (updateValid_keeps (fun _ valid known => updateDeclare_keeps valid known) updateConnect_keeps)
      ⟨prepared,kept.2 updates⟩).1
  · exact respond_holds _ _ prepared

/-- In every run in which the address of a declared talker does not change and no re-declaration
fails, a different talker is declared only after the delay. -/
theorem talkerRedeclaration_delayed (streamId : UInt64) (streamVlanId : UInt16) (streamDestMac : MacAddress)
    (inputs : List (TalkerInput × StackCalls))
    (kept : Steps talkerStep DeclarationKept inputs (acmpMilanInit streamId streamVlanId streamDestMac)) :
    (run talkerStep inputs (acmpMilanInit streamId streamVlanId streamDestMac)).RedeclarationHolds := by
  refine WithdrawHolds.redeclaration (run_invariant talkerStep
    (fun talker input holds kept => talkerStep_holds input holds kept) ?_ kept)
  exact ⟨fun no => (nomatch no),rfl,rfl,rfl,history_nil _⟩

def returningInputs : List (TalkerInput × StackCalls) :=
  [(.talkerStatus .noListener,allCalls),(.talkerStatus .activeListener,allCalls)]

theorem returningListener_delayed :
    (run talkerStep (listenerInputs ++ returningInputs) exampleStream).RedeclarationHolds := by
  refine talkerRedeclaration_delayed 1 2 ⟨0,0,0,0,0,0⟩ _ ⟨⟨?_,?_⟩,⟨?_,?_⟩,⟨?_,?_⟩,⟨?_,?_⟩,trivial⟩
  · decide +kernel
  · exact fun _ _ _ _ => rfl
  · decide +kernel
  · exact fun _ _ _ _ => rfl
  · decide +kernel
  · exact fun _ _ _ _ => rfl
  · decide +kernel
  · exact fun _ _ _ _ => rfl

/-- A MAAP conflict withdraws the talker, but what is saved of it has no address any more. -/
theorem conflict_forgotten :
    ¬ (run talkerStep (listenerInputs ++ [(.maapConflict true,allCalls)]) exampleStream).RedeclarationHolds :=
  fun holds => absurd holds.saved (by decide +kernel)

end Runs

end MilanTalker

end Genavb.Avdecc
