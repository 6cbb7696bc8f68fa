import Genavb.Srp.Mrp.Invariant

/-! The leave timer of a registrar. It runs exactly in state LV, with one exception: an
immediate leave takes a registrar out of LV and leaves its timer running. -/
namespace Genavb.Mrp
open Support

variable {V : Type}

def graceStep (id : AttrId) (granted : Nat) : Observation → Nat
  | .leaving other => if other = id then 0 else granted
  | .leaveTick other ms => if other = id then granted + ms else granted
  | _ => granted

def grace (id : AttrId) (log : List Observation) : Nat := log.foldl (graceStep id) 0

@[simp] theorem grace_append (id : AttrId) (log : List Observation) (entry : Observation) :
    grace id (log ++ [entry]) = graceStep id (grace id log) entry := by
  simp [grace]

/-- The timer fires in LV only, and a Leave indication from LV comes after a full leave timeout. -/
def leaveEntry (config : MrpConfig) (before : List Observation) : Observation → Prop
  | .leaveTimeout _ state => state = .LV
  | .indication .leave id .LV => config.leaveTimeout ≤ grace id before
  | _ => True

/-- The leave timers run exactly in LV and grant what they have to. -/
def LeaveTimersFollow (app : MrpApplication V) : Prop :=
  (∀ id attr, app.heap id = some attr →
    (attr.registrar.leave.started = true ↔ attr.registrar.state = .LV)) ∧
  History (leaveEntry app.config) app.observed

/-- One timer next to its registrar: what remains of it and what was granted add up. -/
structure LeaveTimerRight (config : MrpConfig) (registrar : MrpRegistrar) (granted : Nat) : Prop where
  created : registrar.leave.created = true
  granularity : registrar.leave.granularity = min config.leaveTimeout 100
  running : registrar.leave.started = true ↔ registrar.state = .LV
  remaining : registrar.state = .LV → 0 < registrar.leave.ms ∧
    registrar.leave.ms + granted = config.leaveTimeout + (min config.leaveTimeout 100 : Nat)

structure LeaveTimers (app : MrpApplication V) : Prop where
  full : app.config.full = true
  right : ∀ id attr, app.heap id = some attr →
    LeaveTimerRight app.config attr.registrar (grace id app.observed)
  history : History (leaveEntry app.config) app.observed

def outsideLeaving (_own : Option AttrId) (app : MrpApplication V) : MrpCall V → Prop
  | .leaveImmediate id => ∀ attr, app.heap id = some attr → attr.registrar.state ≠ .LV
  | _ => True

namespace LeaveTimerRight

variable {config : MrpConfig} {registrar : MrpRegistrar}

theorem idle {granted : Nat} (right : LeaveTimerRight config registrar granted) (outside : registrar.state ≠ .LV) :
    registrar.leave.started = false := by
  cases started : registrar.leave.started with
  | false => rfl
  | true => exact absurd (right.running.mp started) outside

theorem rest {next : MrpRegistrar} {granted later : Nat}
    (right : LeaveTimerRight config registrar granted) (outside : next.state ≠ .LV)
    (idle : next.leave.started = false) (created : next.leave.created = registrar.leave.created)
    (granularity : next.leave.granularity = registrar.leave.granularity) :
    LeaveTimerRight config next later where
  created := created.trans right.created
  granularity := granularity.trans right.granularity
  running := by simp [idle,outside]
  remaining := fun inside => absurd inside outside

theorem change {next : MrpRegistrar} {granted : Nat}
    (right : LeaveTimerRight config registrar granted) (change : RegistrarChange config registrar next) :
    LeaveTimerRight config next (if next.state = .LV ∧ registrar.state ≠ .LV then 0 else granted) := by
  cases change with
  | keep => 
    have stays : ¬(registrar.state = .LV ∧ registrar.state ≠ .LV) := fun both => both.2 both.1
    rw [if_neg stays]
    exact {right with}
  | register action given =>
    refine right.rest (by simp) ?_ ?_ ?_ <;> dsimp only <;> split
    · rfl
    next outside => exact right.idle outside
    all_goals rfl
  | withdraw registered =>
    exact right.rest (by simp) (right.idle (by simp [registered])) rfl rfl
  | leaving registered =>
    have positive : 0 < config.leaveTimeout := by have := config.leaveTimeout_bounds; omega
    have idle : registrar.leave.started = false := right.idle (by simp [registered])
    rw [timerStart_idle _ _ right.created idle positive]
    refine ⟨right.created,right.granularity,by simp,fun _ => ?_⟩
    simp only [right.granularity,registered]
    constructor
    · omega
    · simp

end LeaveTimerRight

namespace LeaveTimers

variable {app : MrpApplication V}

theorem observe (timers : LeaveTimers app) (entry : Observation)
    (same : ∀ id granted, graceStep id granted entry = granted)
    (right : leaveEntry app.config app.observed entry) : LeaveTimers (app.observe entry) where
  full := timers.full
  right := by
    intro id attr found
    simpa [MrpApplication.observe,same] using timers.right id attr found
  history := history_append timers.history right

theorem write (timers : LeaveTimers app) (id : AttrId) (attr : MrpAttribute V)
    (right : LeaveTimerRight app.config attr.registrar (grace id app.observed)) :
    LeaveTimers (app.write id attr) where
  full := timers.full
  right := by
    intro other item found
    by_cases same : other = id
    · subst same
      simp only [MrpApplication.write,Function.update_self,Option.some.injEq] at found
      rw [← found]
      exact right
    · exact timers.right other item (by simpa [MrpApplication.write,same] using found)
  history := timers.history

theorem record (timers : LeaveTimers app) (id : AttrId) (attr : MrpAttribute V)
    (entry : Observation) (others : ∀ other granted, other ≠ id → graceStep other granted entry = granted)
    (right : LeaveTimerRight app.config attr.registrar (graceStep id (grace id app.observed) entry))
    (told : leaveEntry app.config app.observed entry) : LeaveTimers ((app.write id attr).observe entry) where
  full := timers.full
  right := by
    intro other item found
    simp only [MrpApplication.observe,grace_append]
    by_cases same : other = id
    · subst same
      simp only [MrpApplication.observe,MrpApplication.write,Function.update_self,Option.some.injEq] at found
      rw [← found]
      exact right
    · rw [others _ _ same]
      exact timers.right other item (by simpa [MrpApplication.observe,MrpApplication.write,same] using found)
  history := history_append timers.history told

variable {attr : MrpAttribute V}

theorem registrarSm (timers : LeaveTimers app) {id : AttrId} (found : app.heap id = some attr) {event : MrpEvent}
    (right : LeaveTimerRight app.config (registrarMachine app.config event attr.registrar)
      (if (registrarMachine app.config event attr.registrar).state = .LV ∧ attr.registrar.state ≠ .LV then 0
       else grace id app.observed))
    (told : actionIndication (registrarMachine app.config event attr.registrar).action = some .leave →
      attr.registrar.state = .LV → app.config.leaveTimeout ≤ grace id app.observed) :
    LeaveTimers (mrpRegistrarSm event id app).1 := by
  unfold mrpRegistrarSm
  rw [found]
  dsimp only
  generalize registrarMachine app.config event attr.registrar = next at right told ⊢
  have moved : LeaveTimers
      (if next.state = .LV ∧ attr.registrar.state ≠ .LV then
        (app.write id {attr with registrar := next}).observe (.leaving id)
      else app.write id {attr with registrar := next}) := by
    split
    next entered =>
      rw [if_pos entered] at right
      refine timers.record id _ _ (fun other granted different => ?_) ?_ trivial
      · simp [graceStep,Ne.symm different]
      · simpa [graceStep] using right
    next stayed =>
      rw [if_neg stayed] at right
      exact timers.write id _ right
  split
  · exact moved
  next kind given =>
    refine moved.observe _ (fun _ _ => rfl) ?_
    cases kind with
    | new | join => trivial
    | leave =>
      cases before : attr.registrar.state with
      | IN | MT => trivial
      | LV => simpa [leaveEntry,before,MrpApplication.write] using told given before

theorem free (timers : LeaveTimers app) (cause : FreeCause) {id : AttrId}
    (found : app.heap id = some attr) : LeaveTimers (mrpFreeAttribute cause id app) := by
  unfold mrpFreeAttribute
  rw [found]
  refine ⟨timers.full,?_,history_append timers.history trivial⟩
  intro other item live
  rw [grace_append]
  by_cases same : other = id
  · simp [same] at live
  · exact timers.right other item (by simpa [same] using live)

theorem expire (timers : LeaveTimers app) {id : AttrId}
    (found : app.heap id = some attr) (running : attr.registrar.leave.started = true) (ms : Nat)
    (expired : attr.registrar.leave.ms - ms ≤ (0 : Int)) :
    LeaveTimers (mrpRegistrarSm .LEAVETIMER id (app.expire id attr ms)).1 := by
  have right := timers.right id attr found
  have leaving := right.running.mp running
  have total := (right.remaining leaving).2
  let next : MrpRegistrar := {attr.registrar with
    state := .MT
    action := .LV
    leave := timerStop {attr.registrar.leave with ms := attr.registrar.leave.ms - ms}}
  have outcome : (mrpRegistrarSm .LEAVETIMER id (app.expire id attr ms)).1 =
      ((((app.write id {attr with registrar := next}).observe (.leaveTick id ms)).observe
        (.leaveTimeout id .LV)).observe (.indication .leave id .LV)) := by
    simp [mrpRegistrarSm,MrpApplication.expire,MrpApplication.observe,MrpApplication.write,registrarMachine,
      registrarLeaveTimer,actionIndication,timers.full,leaving,next]
  rw [outcome]
  have ticked : LeaveTimers ((app.write id {attr with registrar := next}).observe (.leaveTick id ms)) := by
    refine timers.record id _ _ (fun other granted different => ?_) ?_ trivial
    · simp [graceStep,Ne.symm different]
    · exact right.rest (by simp [next]) rfl rfl rfl
  refine (ticked.observe (.leaveTimeout id .LV) (fun _ _ => rfl) rfl).observe _ (fun _ _ => rfl) ?_
  change app.config.leaveTimeout ≤ grace id ((app.observed ++ [.leaveTick id ms]) ++ [.leaveTimeout id .LV])
  simp only [grace_append,graceStep,if_true]
  omega

end LeaveTimers

/-- The primitive changes keep the leave timers right as long as no immediate leave meets LV. -/
theorem leaveTimers_rule [DecidableEq V] : StepRule (V := V) outsideLeaving LeaveTimers where
  frame := by
    rintro app next ⟨config,heap,-,-,-,observed⟩ ⟨full,right,history⟩
    exact ⟨by rw [config]; exact full,by rw [config,heap,observed]; exact right,
      by rw [config,observed]; exact history⟩
  applicant := by
    intro app id attr applicant found timers
    exact timers.write id _ (timers.right id attr found)
  reorder := by
    intro app id attr _ timers
    exact {timers with}
  received := by
    rintro app id attr _ ⟨event,rfl⟩ found timers
    have change := registrarMachine_received timers.full event attr.registrar
    refine timers.registrarSm found ((timers.right id attr found).change change) ?_
    intro given leaving
    generalize registrarMachine app.config (attributeToRxEvent event) attr.registrar = next at change given
    cases change with
    | keep => simp [actionIndication] at given
    | register action kind =>
      rcases kind with rfl | rfl
      · simp [actionIndication] at given
      · simp [actionIndication,leaving] at given
    | withdraw registered | leaving registered => simp [registered] at leaving
  immediate := by
    intro own app id attr found outside timers
    have asked := timers.observe (.leaveImmediate id) (fun _ _ => rfl) trivial
    have outside : attr.registrar.state ≠ .LV := outside attr found
    have idle := (timers.right id attr found).idle outside
    refine asked.registrarSm found ?_ ?_
    · rw [registrarMachine_immediate asked.full]
      exact (timers.right id attr found).rest (by simp) idle rfl rfl
    · intro _ leaving
      exact absurd leaving outside
  stale := by
    intro app id _ timers
    exact timers.observe _ (fun _ _ => rfl) trivial
  tick := by
    intro app id attr ms found running positive timers
    have right := timers.right id attr found
    have leaving := right.running.mp running
    refine timers.record id _ (.leaveTick id ms) (fun other granted different => ?_) ?_ trivial
    · simp [graceStep,Ne.symm different]
    · refine ⟨right.created,right.granularity,right.running,fun _ => ⟨positive,?_⟩⟩
      have total := (right.remaining leaving).2
      simp only [graceStep,if_true]
      push_cast
      omega
  expire := by
    intro app id attr ms found running expired timers
    exact timers.expire found running ms expired
  check := by
    intro app id attr found _ timers
    exact timers.free .check found
  freeImmediate := by
    intro own app id attr found _ timers
    exact timers.free .immediate found
  disable := by
    intro app id attr found timers
    exact timers.free .disable found
  create := by
    intro app type val registrar empty _ timers
    have linked : LeaveTimers (app.link type) := {timers with}
    refine (linked.write app.nextId _ ?_).observe (.created app.nextId) (fun _ _ => rfl) trivial
    refine ⟨rfl,rfl,?_,?_⟩ <;> simp [empty timers.full,MrpAttribute.begun,timerInit]
  refused := by
    intro own app type val _ _ _ timers
    exact {timers with}

/-- Runs without an immediate leave in LV: the timer of every attribute runs exactly while its
registrar is in LV, fires in no other state, and a peer in LV has its full leave timeout. -/
theorem leave_timers_follow_registrars [DecidableEq V] (config : MrpConfig) (full : config.full = true)
    (random : Nat) (inputs : List (MrpInput V))
    (outside : Steps mrpStep (Allowed outsideLeaving) inputs (mrpInit config random)) :
    LeaveTimersFollow (run mrpStep inputs (mrpInit config random)) := by
  have initial : LeaveTimers (MrpApplication.cleared (V := V) config) :=
    ⟨full,by simp [MrpApplication.cleared],history_nil _⟩
  have timers := leaveTimers_rule.run initial outside
  exact ⟨fun id attr found => (timers.right id attr found).running,timers.history⟩

/-- A registration that a LeaveAll and its timer end. -/
theorem leave_timers_follow_one_leaveall :
    Steps mrpStep (Allowed outsideLeaving)
      [.receive 3 7 (some .JOININ) (.ok .VO .MT) fun _ _ => [],.leaveAll 3 12000,.leaveTimer 0 51 fun _ _ => []]
      (mrpInit (V := Nat) (.ofMsrp 5000 (by decide)) 10000) ∧
    LeaveTimersFollow (run mrpStep
      [.receive 3 7 (some .JOININ) (.ok .VO .MT) fun _ _ => [],.leaveAll 3 12000,.leaveTimer 0 51 fun _ _ => []]
      (mrpInit (V := Nat) (.ofMsrp 5000 (by decide)) 10000)) := by
  have outside : Steps mrpStep (Allowed outsideLeaving)
      [.receive 3 7 (some .JOININ) (.ok .VO .MT) fun _ _ => [],.leaveAll 3 12000,.leaveTimer 0 51 fun _ _ => []]
      (mrpInit (V := Nat) (.ofMsrp 5000 (by decide)) 10000) :=
    ⟨⟨trivial,fun _ _ _ _ => trivial⟩,fun _ _ _ _ => trivial,fun _ _ _ _ => trivial,trivial⟩
  exact ⟨outside,leave_timers_follow_registrars _ rfl _ _ outside⟩

/-- An immediate leave in LV: the attribute stays, in MT, and its timer runs on. -/
theorem leave_timer_strays :
    ¬LeaveTimersFollow (run mrpStep
      [.receive 3 7 (some .JOININ) (.ok .VO .MT) fun _ _ => [],.leaveAll 3 12000,.call (.leaveImmediate 0)]
      (mrpInit (V := Nat) (.ofMsrp 5000 (by decide)) 10000)) := by
  intro follow
  have running := follow.1 0 _ rfl
  revert running
  decide

end Genavb.Mrp
