import Genavb.Srp.Mrp.Invariant

/-! What an MRP user learns of registrations. Its record of an attribute is read off the
indications it was given and the immediate leaves it asked for, and agrees with the registrar. -/
namespace Genavb.Mrp
open Support

variable {V : Type}

/-- The record of one attribute. An immediate leave is not answered by an indication: with
`immediate` set, the user drops its record when it asks for one. -/
def registeredStep (immediate : Bool) (id : AttrId) (registered : Bool) : Observation → Bool
  | .created other => if other = id then false else registered
  | .indication .leave other _ => if other = id then false else registered
  | .indication _ other _ => if other = id then true else registered
  | .leaveImmediate other => if immediate && other = id then false else registered
  | .released _ other _ _ => if other = id then false else registered
  | _ => registered

def registered (immediate : Bool) (id : AttrId) (log : List Observation) : Bool :=
  log.foldl (registeredStep immediate id) false

@[simp] theorem registered_append (immediate : Bool) (id : AttrId) (log : List Observation)
    (entry : Observation) : registered immediate id (log ++ [entry]) =
      registeredStep immediate id (registered immediate id log) entry := by
  simp [registered]

/-- A Join is for an unregistered attribute and a Leave for a registered one, and the check
releases unregistered attributes only. -/
def mirrorEntry (immediate : Bool) (before : List Observation) : Observation → Prop
  | .indication .join id _ => registered immediate id before = false
  | .indication .leave id _ => registered immediate id before = true
  | .released .check id _ _ => registered immediate id before = false
  | _ => True

/-- The record of each attribute is what its registrar says, and no indication was out of turn. -/
structure Mirrors (immediate : Bool) (app : MrpApplication V) : Prop where
  record : ∀ id attr, app.heap id = some attr →
    (registered immediate id app.observed = true ↔ attr.registrar.state ≠ .MT)
  history : History (mirrorEntry immediate) app.observed

namespace Mirrors

variable {app : MrpApplication V}

section
variable (mirrors : Mirrors true app)
include mirrors

theorem observe (entry : Observation)
    (same : ∀ id attr, app.heap id = some attr →
      registeredStep true id (registered true id app.observed) entry = registered true id app.observed)
    (right : mirrorEntry true app.observed entry) : Mirrors true (app.observe entry) where
  record := by
    intro id attr found
    rw [MrpApplication.observe,registered_append,same id attr found]
    exact mirrors.record id attr found
  history := history_append mirrors.history right

private theorem record_entry (id : AttrId)
    (attr : MrpAttribute V) (entry : Observation)
    (others : ∀ other before, other ≠ id → registeredStep true other before entry = before)
    (told : registeredStep true id (registered true id app.observed) entry = true ↔ attr.registrar.state ≠ .MT)
    (right : mirrorEntry true app.observed entry) : Mirrors true ((app.write id attr).observe entry) where
  record := by
    intro other item found
    rw [MrpApplication.observe,registered_append]
    by_cases same : other = id
    · subst same
      simp only [MrpApplication.observe,MrpApplication.write,Function.update_self,Option.some.injEq] at found
      rw [← found]
      exact told
    · rw [MrpApplication.write,others _ _ same]
      exact mirrors.record other item (by simpa [MrpApplication.observe,MrpApplication.write,same] using found)
  history := history_append mirrors.history right

theorem write (id : AttrId) (attr : MrpAttribute V)
    (told : registered true id app.observed = true ↔ attr.registrar.state ≠ .MT) :
    Mirrors true (app.write id attr) where
  record := by
    intro other item found
    by_cases same : other = id
    · subst same
      simp only [MrpApplication.write,Function.update_self,Option.some.injEq] at found
      rw [← found]
      exact told
    · exact mirrors.record other item (by simpa [MrpApplication.write,same] using found)
  history := mirrors.history

theorem free (cause : FreeCause) {id : AttrId} {attr : MrpAttribute V} (found : app.heap id = some attr)
    (idle : cause = .check → attr.registrar.state = .MT) : Mirrors true (mrpFreeAttribute cause id app) := by
  have record := mirrors.record id attr found
  unfold mrpFreeAttribute
  rw [found]
  refine ⟨?_,history_append mirrors.history ?_⟩
  · intro other item live
    by_cases same : other = id
    · simp [same] at live
    · rw [registered_append]
      simpa [registeredStep,Ne.symm same] using mirrors.record other item (by simpa [same] using live)
  · cases cause with
    | check =>
      have empty := idle rfl
      simpa [mirrorEntry,empty] using record
    | immediate | disable => trivial

theorem registrarSm {id : AttrId} {attr : MrpAttribute V} (found : app.heap id = some attr) {event : MrpEvent}
    (told : match actionIndication (registrarMachine app.config event attr.registrar).action with
      | none => attr.registrar.state = .MT ↔ (registrarMachine app.config event attr.registrar).state = .MT
      | some .new => (registrarMachine app.config event attr.registrar).state ≠ .MT
      | some .join => attr.registrar.state = .MT ∧
          (registrarMachine app.config event attr.registrar).state ≠ .MT
      | some .leave => attr.registrar.state ≠ .MT ∧
          (registrarMachine app.config event attr.registrar).state = .MT) :
    Mirrors true (mrpRegistrarSm event id app).1 := by
  have record := mirrors.record id attr found
  unfold mrpRegistrarSm
  rw [found]
  dsimp only
  generalize registrarMachine app.config event attr.registrar = next at told ⊢
  let begun := if next.state = .LV ∧ attr.registrar.state ≠ .LV then app.observe (.leaving id) else app
  have begins : Mirrors true begun ∧ registered true id begun.observed = registered true id app.observed := by
    unfold begun
    split
    · exact ⟨mirrors.observe _ (fun _ _ _ => rfl) trivial,by simp [MrpApplication.observe,registeredStep]⟩
    · exact ⟨mirrors,rfl⟩
  have commuted : (if next.state = .LV ∧ attr.registrar.state ≠ .LV then
      (app.write id {attr with registrar := next}).observe (.leaving id)
      else app.write id {attr with registrar := next}) = begun.write id {attr with registrar := next} := by
    unfold begun
    split <;> rfl
  rw [commuted]
  obtain ⟨mirrored,same⟩ := begins
  rw [← same] at record
  generalize actionIndication next.action = given at told ⊢
  cases given with
  | none => exact mirrored.write id _ (record.trans (not_congr told))
  | some kind =>
    refine mirrored.record_entry id _ _ (fun other before different => ?_) ?_ ?_
    · cases kind <;> simp [registeredStep,Ne.symm different]
    · cases kind with
      | new => simpa [registeredStep] using told
      | join | leave => simpa [registeredStep] using told.2
    · cases kind with
      | new => trivial
      | join => simpa [mirrorEntry,told.1] using record
      | leave => exact record.mpr told.1

end

end Mirrors

/-- The primitive changes keep the records of the user true, whatever is called. -/
private theorem mirrors_rule [DecidableEq V] :
    StepRule (V := V) (fun _ _ _ => True) (fun app => app.config.full = true ∧ Mirrors true app) where
  frame := by
    rintro app next ⟨config,heap,-,-,-,observed⟩ ⟨full,record,history⟩
    exact ⟨by rw [config]; exact full,by rw [heap,observed]; exact record,by rw [observed]; exact history⟩
  applicant := by
    rintro app id attr applicant found ⟨full,mirrors⟩
    exact ⟨full,mirrors.write id _ (mirrors.record id attr found)⟩
  reorder := by
    rintro app id attr _ ⟨full,mirrors⟩
    exact ⟨full,mirrors.record,mirrors.history⟩
  received := by
    rintro app id attr _ ⟨event,rfl⟩ found ⟨full,mirrors⟩
    obtain ⟨entries,outcome,-⟩ := mrpRegistrarSm_outcome (attributeToRxEvent event) found
    refine ⟨by rw [outcome]; exact full,mirrors.registrarSm found ?_⟩
    have change := registrarMachine_received full event attr.registrar
    generalize registrarMachine app.config (attributeToRxEvent event) attr.registrar = next at change ⊢
    cases change with
    | keep => simp [actionIndication]
    | register action given =>
      rcases given with rfl | rfl
      · simp [actionIndication]
      · cases before : attr.registrar.state <;> simp [actionIndication]
    | withdraw registered | leaving registered => simp [actionIndication,registered]
  immediate := by
    rintro own app id attr found - ⟨full,mirrors⟩
    have outcome : (mrpRegistrarSm .RLV_IMMEDIATE id (app.observe (.leaveImmediate id))).1 =
        (app.write id {attr with registrar.state := .MT, registrar.action := .NONE}).observe
          (.leaveImmediate id) := by
      simp [mrpRegistrarSm,MrpApplication.observe,MrpApplication.write,found,
        registrarMachine_immediate full,actionIndication]
    rw [outcome]
    refine ⟨full,mirrors.record_entry id _ _ (fun other before different => ?_) ?_ trivial⟩
    · simp [registeredStep,Ne.symm different]
    · simp [registeredStep]
  stale := by
    rintro app id absent ⟨full,mirrors⟩
    refine ⟨full,mirrors.observe _ (fun other attr found => ?_) trivial⟩
    have different : id ≠ other := by
      rintro rfl
      rw [absent] at found
      cases found
    simp [registeredStep,different]
  tick := by
    rintro app id attr ms found - - ⟨full,mirrors⟩
    have ticked := mirrors.observe (.leaveTick id ms) (fun _ _ _ => rfl) trivial
    exact ⟨full,ticked.write id _ (by simpa [MrpApplication.observe,registeredStep] using mirrors.record id attr found)⟩
  expire := by
    rintro app id attr ms found - - ⟨full,mirrors⟩
    have ticked := mirrors.observe (.leaveTick id ms) (fun _ _ _ => rfl) trivial
    have record : registered true id (app.observe (.leaveTick id ms)).observed = true ↔
        attr.registrar.state ≠ .MT := by
      simpa [MrpApplication.observe,registeredStep] using mirrors.record id attr found
    let stopped := timerStop {attr.registrar.leave with ms := attr.registrar.leave.ms - ms}
    have expired : Mirrors true (app.expire id attr ms) :=
      (ticked.write id {attr with registrar.leave := stopped} record).observe _ (fun _ _ _ => rfl) trivial
    have live : (app.expire id attr ms).heap id = some {attr with registrar.leave := stopped} :=
      Function.update_self _ _ _
    have same : (app.expire id attr ms).config = app.config := rfl
    obtain ⟨entries,outcome,-⟩ := mrpRegistrarSm_outcome .LEAVETIMER live
    refine ⟨by rw [outcome]; exact full,expired.registrarSm live ?_⟩
    rw [same]
    cases before : attr.registrar.state <;>
      simp [registrarMachine,registrarLeaveTimer,actionIndication,full,before]
  check := by
    rintro app id attr found idle ⟨full,mirrors⟩
    have empty : attr.registrar.state = .MT := by simpa [unused,full] using (Bool.and_eq_true_iff.mp idle).2
    refine ⟨?_,mirrors.free .check found fun _ => empty⟩
    simpa [mrpFreeAttribute,found] using full
  freeImmediate := by
    rintro own app id attr found - ⟨full,mirrors⟩
    refine ⟨?_,mirrors.free .immediate found (by simp)⟩
    simpa [mrpFreeAttribute,found] using full
  disable := by
    rintro app id attr found ⟨full,mirrors⟩
    refine ⟨?_,mirrors.free .disable found (by simp)⟩
    simpa [mrpFreeAttribute,found] using full
  create := by
    rintro app type val registrar empty - ⟨full,mirrors⟩
    have linked : Mirrors true (app.link type) := ⟨mirrors.record,mirrors.history⟩
    refine ⟨full,linked.record_entry app.nextId _ _ (fun other before different => ?_) ?_ trivial⟩
    · simp [registeredStep,Ne.symm different]
    · simp [registeredStep,MrpAttribute.begun,empty full]
  refused := by
    rintro own app type val - - - ⟨full,mirrors⟩
    exact ⟨full,mirrors.record,mirrors.history⟩

private theorem logged_rule [DecidableEq V] (log : List Observation) :
    StepRule (V := V) (fun _ _ _ => True) (fun app => log <+: app.observed) where
  frame := fun same before => same.observed ▸ before
  applicant := fun _ _ before => before
  reorder := fun _ before => before
  received := by
    rintro app id attr event - found before
    obtain ⟨entries, outcome, -⟩ := mrpRegistrarSm_outcome event found
    rw [outcome]
    exact before.trans (List.prefix_append _ _)
  immediate := by
    rintro own app id attr found - before
    obtain ⟨entries, outcome, -⟩ := mrpRegistrarSm_outcome .RLV_IMMEDIATE
      (show (app.observe (.leaveImmediate id)).heap id = some attr from found)
    rw [outcome]
    exact before.trans ((List.prefix_append _ _).trans (List.prefix_append _ _))
  stale := fun _ before => before.trans (List.prefix_append _ _)
  tick := fun _ _ _ _ before => before.trans (List.prefix_append _ _)
  expire := by
    rintro app id attr ms - - - before
    obtain ⟨entries, outcome, -⟩ := mrpRegistrarSm_outcome .LEAVETIMER
      (show (app.expire id attr ms).heap id = some _ from Function.update_self ..)
    rw [outcome]
    exact before.trans ((List.prefix_append _ _).trans ((List.prefix_append _ _).trans (List.prefix_append _ _)))
  check := by
    rintro app id attr found - before
    rw [mrpFreeAttribute, found]
    exact before.trans (List.prefix_append _ _)
  freeImmediate := by
    rintro own app id attr found - before
    rw [mrpFreeAttribute, found]
    exact before.trans (List.prefix_append _ _)
  disable := by
    rintro app id attr found before
    rw [mrpFreeAttribute, found]
    exact before.trans (List.prefix_append _ _)
  create := fun _ _ _ before => before.trans (List.prefix_append _ _)
  refused := fun _ _ _ before => before

section News
variable [DecidableEq V] {app next : MrpApplication V} {type : AttrType} {val : V} {alloc : AllocOutcome} {id : AttrId}

theorem findAttribute_block {heap : AttrId → Option (MrpAttribute V)} {ids : List AttrId}
    (found : findAttribute heap val ids = .found id) : ∃ attr, heap id = some attr := by
  induction ids with
  | nil => cases found
  | cons first rest ih =>
    rw [findAttribute] at found
    split at found
    · cases found
    next attr live =>
      split at found
      · cases found
        exact ⟨attr, live⟩
      · exact ih found

theorem mrpGetAttribute_block (got : mrpGetAttribute type val alloc app = (next, some id)) :
    ∃ attr, next.heap id = some attr := by
  unfold mrpGetAttribute at got
  split at got
  next found =>
    cases got
    exact findAttribute_block found
  · cases alloc with
    | noMemory | noTimer => cases got
    | ok applicant registrar =>
      rw [mrpAllocAttribute_ok] at got
      cases got
      refine ⟨.begun app.config type val (if app.config.full then .MT else registrar), ?_⟩
      dsimp only
      split <;> exact Function.update_self ..
  · cases got

/-- A New that is received for an attribute is indicated. -/
def MrpApplication.NewTold (app : MrpApplication V) : Prop :=
  ∀ type val alloc calls next id, app.enabled = true → mrpGetAttribute type val alloc app = (next, some id) →
    ∃ before log, (mrpStep (.receive type val (some .NEW) alloc calls) app).observed = app.observed ++ log ∧
      .indication .new id before ∈ log

theorem newTold_full (full : app.config.full = true) (mirrors : Mirrors true app) : app.NewTold := by
  intro type val alloc calls next id on got
  have begun := @StepRule.getAttribute V _ _ _ (logged_rule app.observed) app type val none alloc false on trivial
    (List.prefix_refl _)
  have kept := @StepRule.getAttribute V _ _ _ mirrors_rule app type val none alloc false on trivial ⟨full, mirrors⟩
  rw [got] at begun kept
  have config : next.config.full = true := kept.1
  obtain ⟨attr, live⟩ := mrpGetAttribute_block got
  have told : mrpRegistrarSm .RNEW id next =
      ((next.write id {attr with registrar := registrarMachine next.config .RNEW attr.registrar}).observe
        (.indication .new id attr.registrar.state), some .new) := by
    simp [mrpRegistrarSm, live, registrarMachine, config, actionIndication]
  have rule := @logged_rule V _ (next.observed ++ [.indication .new id attr.registrar.state])
  have after : next.observed ++ [.indication .new id attr.registrar.state] <+:
      (mrpStep (.receive type val (some .NEW) alloc calls) app).observed := by
    unfold mrpStep MrpClient.mrpProcessAttribute
    dsimp only
    rw [if_neg (by simp [on]), scripted_app, got]
    apply rule.freeAttributeCheck
    apply rule.applicantSm
    apply rule.indicate
    · rw [attributeToRxEvent, scripted_setApp, told]
      exact List.prefix_refl _
    · exact fun _ _ _ => steps_always ..
  obtain ⟨early, same⟩ := begun
  obtain ⟨late, all⟩ := after
  refine ⟨attr.registrar.state, early ++ [.indication .new id attr.registrar.state] ++ late, ?_, by simp⟩
  rw [← all, ← same]
  simp

end News

/-- Every run: the record a user keeps of an attribute is its registration, a Join comes only for
an unregistered and a Leave only for a registered attribute, no attribute is released by the
check while it is registered, and each New that is received is indicated. -/
theorem indications_mirror_registrations [DecidableEq V] (config : MrpConfig) (full : config.full = true)
    (random : Nat) (inputs : List (MrpInput V)) :
    Mirrors true (run mrpStep inputs (mrpInit config random)) ∧
      (run mrpStep inputs (mrpInit config random)).NewTold := by
  have initial : Mirrors true (MrpApplication.cleared (V := V) config) :=
    ⟨by simp [MrpApplication.cleared],history_nil _⟩
  obtain ⟨kept, mirrors⟩ := mirrors_rule.run ⟨full, initial⟩ (allowed_always inputs (mrpInit config random))
  exact ⟨mirrors, newTold_full kept mirrors⟩

theorem indications_mirror_one_leave :
    Mirrors true (run mrpStep
      [.receive 3 7 (some .JOININ) (.ok .VO .MT) fun _ _ => [],.receive 3 7 (some .LV) .noMemory fun _ _ => []]
      (mrpInit (V := Nat) (.ofMsrp 5000 (by decide)) 10000)) :=
  (indications_mirror_registrations _ rfl _ _).1

/-- Read with Leave indications alone, the second Join below comes for a registered attribute:
the immediate leave between the two ended the first registration without an indication. -/
theorem indications_skip_immediate_leave :
    ¬Mirrors false (run mrpStep
      [.receive 3 7 (some .JOININ) (.ok .VO .MT) fun _ _ => [],.call (.leaveImmediate 0),
        .receive 3 7 (some .JOININ) .noMemory fun _ _ => []]
      (mrpInit (V := Nat) (.ofMsrp 5000 (by decide)) 10000)) := by
  intro mirrors
  have unregistered : registered false 0 [.created 0,.indication .join 0 .MT,.leaveImmediate 0] = false :=
    mirrors.history _ (.indication .join 0 .MT) [] (by decide)
  revert unregistered
  decide

end Genavb.Mrp
