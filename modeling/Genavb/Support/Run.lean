import Mathlib.Data.List.Induction
import Mathlib.Tactic.Common

/-! Runs of a deterministic machine over a list of inputs, with the induction
rules that carry an invariant from one step to a whole run. -/
namespace Genavb.Support
open List

variable {σ ι α : Type}

def run (step : ι → σ → σ) (inputs : List ι) (start : σ) : σ :=
  inputs.foldl (fun state input => step input state) start

/-- Every step of the run meets `allowed` in the state it is taken in. -/
def Steps (step : ι → σ → σ) (allowed : σ → ι → Prop) : List ι → σ → Prop
  | [],_ => True
  | input :: rest,state => allowed state input ∧ Steps step allowed rest (step input state)

section
variable (step : ι → σ → σ)
include step

@[simp] theorem run_nil (start : σ) : run step [] start = start := rfl

@[simp] theorem run_cons (input : ι) (rest : List ι) (start : σ) :
    run step (input :: rest) start = run step rest (step input start) := rfl

theorem run_append (first second : List ι) (start : σ) :
    run step (first ++ second) start = run step second (run step first start) := by
  simp [run,foldl_append]

@[simp] theorem steps_nil (allowed : σ → ι → Prop) (start : σ) :
    Steps step allowed [] start := trivial

@[simp] theorem steps_cons (allowed : σ → ι → Prop) (input : ι)
    (rest : List ι) (start : σ) :
    Steps step allowed (input :: rest) start ↔
      allowed start input ∧ Steps step allowed rest (step input start) := Iff.rfl

theorem steps_append (allowed : σ → ι → Prop) (first second : List ι) (start : σ) :
    Steps step allowed (first ++ second) start ↔
      Steps step allowed first start ∧ Steps step allowed second (run step first start) := by
  induction first generalizing start with
  | nil => simp
  | cons input rest ih => simp [ih,and_assoc]

theorem steps_mono {weak strong : σ → ι → Prop}
    (weaken : ∀ state input, strong state input → weak state input) {inputs : List ι} {start : σ}
    (steps : Steps step strong inputs start) : Steps step weak inputs start := by
  induction inputs generalizing start with
  | nil => trivial
  | cons input rest ih => exact ⟨weaken _ _ steps.1,ih steps.2⟩

theorem steps_always (inputs : List ι) (start : σ) : Steps step (fun _ _ => True) inputs start := by
  induction inputs generalizing start with
  | nil => trivial
  | cons input rest ih => exact ⟨trivial,ih (step input start)⟩

/-- The run rule: what every allowed step preserves, every allowed run preserves. -/
theorem run_invariant {allowed : σ → ι → Prop} {I : σ → Prop}
    (preserved : ∀ state input, I state → allowed state input → I (step input state))
    {inputs : List ι} {start : σ} (initial : I start) (steps : Steps step allowed inputs start) :
    I (run step inputs start) := by
  induction inputs generalizing start with
  | nil => exact initial
  | cons input rest ih => exact ih (preserved _ _ initial steps.1) steps.2

/-- The rule for runs that end: where every allowed step lowers a measure, no run is longer than it. -/
theorem run_measure {allowed : σ → ι → Prop} {I : σ → Prop} {measure : σ → Nat}
    (lowers : ∀ state input, I state → allowed state input →
      I (step input state) ∧ measure (step input state) < measure state)
    {inputs : List ι} {start : σ} (initial : I start) (steps : Steps step allowed inputs start) :
    inputs.length + measure (run step inputs start) ≤ measure start := by
  induction inputs generalizing start with
  | nil => exact Nat.le_of_eq (Nat.zero_add _)
  | cons input rest ih =>
    obtain ⟨kept,lower⟩ := lowers start input initial steps.1
    have later := ih kept steps.2
    rw [length_cons,run_cons]
    omega

/-- What every allowed step from a state of the invariant promises, every step of an allowed run
promises. -/
theorem steps_kept {allowed promised : σ → ι → Prop} {I : σ → Prop}
    (kept : ∀ state input, I state → allowed state input → I (step input state) ∧ promised state input)
    {inputs : List ι} {start : σ} (initial : I start) (steps : Steps step allowed inputs start) :
    Steps step promised inputs start := by
  induction inputs generalizing start with
  | nil => trivial
  | cons input rest ih =>
    have next := kept start input initial steps.1
    exact ⟨next.2,ih next.1 steps.2⟩

/-- Two conditions on steps agree along a run if they agree in the states of an invariant that one of
them keeps. -/
theorem steps_iff {first second : σ → ι → Prop} {I : σ → Prop}
    (agree : ∀ state input, I state → (first state input ↔ second state input))
    (kept : ∀ state input, I state → first state input → I (step input state))
    {inputs : List ι} {start : σ} (initial : I start) :
    Steps step first inputs start ↔ Steps step second inputs start := by
  induction inputs generalizing start with
  | nil => exact Iff.rfl
  | cons input rest ih =>
    rw [steps_cons,steps_cons,← agree start input initial]
    exact and_congr_right fun allowed => ih (kept start input initial allowed)

end

def without (step : ι → σ → σ) (dropped : σ → ι → Bool) : List ι → σ → List ι
  | [],_ => []
  | input :: rest,state =>
    if dropped state input then without step dropped rest (step input state)
    else input :: without step dropped rest (step input state)

theorem run_without (step : ι → σ → σ) {dropped : σ → ι → Bool} {allowed : σ → ι → Prop} {I : σ → Prop}
    {Alike : σ → σ → Prop} (trans : ∀ first second third, Alike first second → Alike second third → Alike first third)
    (congr : ∀ input first second, Alike first second → Alike (step input first) (step input second))
    (silent : ∀ state input, I state → allowed state input → dropped state input = true → Alike (step input state) state)
    (preserved : ∀ state input, I state → allowed state input → I (step input state))
    {inputs : List ι} {start other : σ} (initial : I start) (alike : Alike start other)
    (steps : Steps step allowed inputs start) :
    Alike (run step inputs start) (run step (without step dropped inputs start) other) := by
  induction inputs generalizing start other with
  | nil => exact alike
  | cons input rest ih =>
    have next := preserved start input initial steps.1
    unfold without
    split
    next drop =>
      have same := silent start input initial steps.1 drop
      exact ih next (trans _ _ _ same alike) steps.2
    · exact ih next (congr input start other alike) steps.2

def History (right : List α → α → Prop) (log : List α) : Prop :=
  ∀ before entry after, log = before ++ entry :: after → right before entry

theorem history_nil (right : List α → α → Prop) : History right [] := by
  intro before entry after equal
  simp at equal

theorem history_append {right : List α → α → Prop} {log : List α} {entry : α}
    (past : History right log) (last : right log entry) : History right (log ++ [entry]) := by
  intro before item after equal
  cases after using List.reverseRecOn with
  | nil =>
    obtain ⟨rfl,same⟩ := append_inj' equal rfl
    cases same
    exact last
  | append_singleton rest final =>
    have equal : log ++ [entry] = (before ++ item :: rest) ++ [final] := by simpa using equal
    exact past before item rest (append_inj_left' equal rfl)

theorem history_append_iff {right : List α → α → Prop} {log : List α} {entry : α} :
    History right (log ++ [entry]) ↔ History right log ∧ right log entry := by
  constructor
  · intro past
    refine ⟨fun before item after equal => ?_,past log entry [] rfl⟩
    apply past before item (after ++ [entry])
    rw [equal,append_assoc,cons_append]
  · intro past
    exact history_append past.1 past.2

/-- The log of a run is right exactly if every step meets the condition under which its entry is. -/
theorem history_run (step : ι → σ → σ) (log : σ → List α) {right : List α → α → Prop} {allowed : σ → ι → Prop}
    {I : σ → Prop} (preserved : ∀ state input, I state → I (step input state))
    (logged : ∀ state input, I state → (log (step input state) = log state ∧ allowed state input) ∨
      ∃ entry, log (step input state) = log state ++ [entry] ∧ (right (log state) entry ↔ allowed state input))
    {inputs : List ι} {start : σ} (initial : I start) :
    History right (log (run step inputs start)) ↔ History right (log start) ∧ Steps step allowed inputs start := by
  induction inputs generalizing start with
  | nil => simp
  | cons input rest ih =>
    rw [run_cons,steps_cons,ih (preserved start input initial)]
    rcases logged start input initial with ⟨same,fine⟩ | ⟨entry,longer,exact⟩
    · rw [same]
      simp [fine]
    · rw [longer,history_append_iff,exact,and_assoc]

end Genavb.Support

/-! Loops whose body can get stuck, with a bound on the number of turns. -/
namespace Genavb.Support

variable {σ : Type}

/-- A loop that goes on after `fuel` turns has no result. -/
def loop (goes : σ → Bool) (body : σ → Option σ) : Nat → σ → Option σ
  | 0,state => if goes state then none else some state
  | fuel + 1,state => if goes state then (body state).bind (loop goes body fuel) else some state

/-- The rule for partial correctness: what every turn with a result keeps, the loop keeps. -/
theorem loop_kept {goes : σ → Bool} {body : σ → Option σ} {I : σ → Prop}
    (turn : ∀ state next, I state → goes state = true → body state = some next → I next)
    {fuel : Nat} {state final : σ} (sound : I state) (result : loop goes body fuel state = some final) : I final := by
  induction fuel generalizing state with
  | zero =>
    rw [loop] at result
    split at result
    · cases result
    · exact Option.some.inj result ▸ sound
  | succ fuel ih =>
    rw [loop] at result
    split at result
    next more =>
      obtain ⟨next,turned,rest⟩ := Option.bind_eq_some_iff.mp result
      exact ih (turn state next sound more turned) rest
    · exact Option.some.inj result ▸ sound

theorem foldlM_kept {α : Type} {step : σ → α → Option σ} {I : σ → Prop}
    (kept : ∀ state item next, I state → step state item = some next → I next) {items : List α} {state final : σ}
    (sound : I state) (result : items.foldlM step state = some final) : I final := by
  induction items generalizing state with
  | nil => exact Option.some.inj result ▸ sound
  | cons item rest ih =>
    obtain ⟨next,stepped,rest⟩ := Option.bind_eq_some_iff.mp result
    exact ih (kept state item next sound stepped) rest

theorem foldl_kept {α : Type} {step : σ → α → σ} {I : σ → Prop} {items : List α}
    (kept : ∀ state, I state → ∀ item ∈ items, I (step state item)) {state : σ} (sound : I state) :
    I (items.foldl step state) := by
  induction items generalizing state with
  | nil => exact sound
  | cons item rest ih =>
    exact ih (fun other sound item inside => kept other sound item (List.mem_cons_of_mem _ inside))
      (kept state sound item List.mem_cons_self)

end Genavb.Support
