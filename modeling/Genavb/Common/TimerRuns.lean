import Genavb.Common.TimerLinks

/-! When the callbacks of software timers run: `timer_process` does what an observer expects,
whatever the callbacks do to other timers (`timer.c`). -/
namespace Genavb.Common
open Genavb.Support List Option
open Function (update update_of_ne update_self)

/-- All events so far were right, no callback is outstanding, and the timers that run are those that wait. -/
structure OnTime (extra : Nat → Nat) (tctx : TimerCtx) : Prop where
  history : History (RightEvent extra) tctx.events
  settled : ∀ timer wait, observed extra tctx.events timer = some wait → 0 < wait.remaining
  running : ∀ timer, (observed extra tctx.events timer).isSome ↔ tctx.timerIsRunning timer = 1

inductive TimerInput
  | call (request : TimerCall)
  | tick (sys count : Nat) (func : Nat → List TimerCall)

def timerStep (input : TimerInput) (tctx : TimerCtx) : TimerCtx :=
  match input with
  | .call request => tctx.call request
  | .tick sys count func => (tctx.timerProcess sys count func).getD tctx

/-- The operating system starts its timers, and what is left of the time of a timer fits its `int` after a tick. -/
def TimerInput.Allowed (tctx : TimerCtx) : TimerInput → Prop
  | .call request => request.Granted
  | .tick sys count func =>
    (∀ timer, ∀ request ∈ func timer, request.Granted) ∧
      ∀ timer wait, observed id tctx.events timer = some wait → wait.sys = sys →
        InRange (wait.remaining - (tctx.timerSysTable sys).ms.toNat * count)

structure Processed (extra : Nat → Nat) (tctx : TimerCtx) (input : TimerInput) : Prop where
  ends : ∀ sys count func, input = .tick sys count func → (tctx.timerProcess sys count func).isSome
  onTime : OnTime extra (timerStep input tctx)

namespace TimerCtx

section Processing
variable {sys count timer : Nat} {func : Nat → List TimerCall} {late rest : List Nat} {elapsed : Int} {rate : UInt32}
  {tctx : TimerCtx}

theorem Kept.setMs (kept : Kept sys late elapsed tctx) (idle : (tctx.timer timer).started = false) (ms : Int) :
    Kept sys late elapsed (tctx.setTimer timer {tctx.timer timer with ms := ms}) := by
  have started (other : Nat) : ((tctx.setTimer timer {tctx.timer timer with ms := ms}).timer other).started =
      (tctx.timer other).started := by
    by_cases same : other = timer
    case pos => simp [setTimer,same]
    case neg => simp [setTimer,update_of_ne same]
  have home (other : Nat) : ((tctx.setTimer timer {tctx.timer timer with ms := ms}).timer other).timerSys =
      (tctx.timer other).timerSys := by
    by_cases same : other = timer
    case pos => simp [setTimer,same]
    case neg => simp [setTimer,update_of_ne same]
  constructor
  case toLinked =>
    constructor
    case linked =>
      intro other second
      rw [started,home]
      exact kept.linked other second
    case attached =>
      intro second
      rw [started,home]
      exact kept.attached second
    case distinct => exact kept.distinct
    case sole =>
      intro other dedicated first second
      rw [home,home]
      exact kept.sole other dedicated first second
    case suffix => exact kept.suffix
  case idle =>
    intro second
    rw [started]
    exact kept.idle second
  case waiting =>
    intro other second runs
    rw [started] at runs
    have same : second ≠ timer := by
      rintro rfl
      rw [idle] at runs
      cases runs
    have value : (tctx.setTimer timer {tctx.timer timer with ms := ms}).timer second = tctx.timer second := by
      simp [setTimer,update_of_ne same]
    rw [value]
    exact kept.waiting other second runs
  case history => exact kept.history

def moved (sys timer : Nat) (ms : Int) (tctx : TimerCtx) : TimerCtx :=
  (tctx.setSys sys {tctx.timerSysTable sys with
    nextToProcess := listNext timer (tctx.timerSysTable sys).head}).setTimer timer {tctx.timer timer with ms := ms}

private theorem moved_started (ms : Int) (other : Nat) :
    ((tctx.moved sys timer ms).timer other).started = (tctx.timer other).started := by
  by_cases same : other = timer
  case pos => simp [moved,setTimer,same]
  case neg => simp [moved,setTimer,setSys,update_of_ne same]

private theorem moved_timerSys (ms : Int) (other : Nat) :
    ((tctx.moved sys timer ms).timer other).timerSys = (tctx.timer other).timerSys := by
  by_cases same : other = timer
  case pos => simp [moved,setTimer,same]
  case neg => simp [moved,setTimer,setSys,update_of_ne same]

private theorem moved_sys (ms : Int) (other : Nat) :
    ((tctx.moved sys timer ms).timerSysTable other).head = (tctx.timerSysTable other).head ∧
    ((tctx.moved sys timer ms).timerSysTable other).typeSys = (tctx.timerSysTable other).typeSys ∧
    ((tctx.moved sys timer ms).timerSysTable other).ms = (tctx.timerSysTable other).ms := by
  by_cases same : other = sys
  case pos => simp [moved,setTimer,setSys,same]
  case neg => simp [moved,setTimer,setSys,update_of_ne same]

section
variable (kept : Linked sys (timer :: rest) tctx)
include kept

theorem Linked.moved (ms : Int) :
    Linked sys rest (tctx.moved sys timer ms) where
  linked := by
    intro other second
    rw [moved_started,moved_timerSys,(moved_sys ms other).1]
    exact kept.linked other second
  attached := by
    intro second
    rw [moved_started,moved_timerSys]
    exact kept.attached second
  distinct := by
    intro other
    rw [(moved_sys ms other).1]
    exact kept.distinct other
  sole := by
    intro other
    rw [(moved_sys ms other).2.1]
    intro dedicated first second
    rw [moved_timerSys,moved_timerSys]
    exact kept.sole other dedicated first second
  suffix := by
    rw [(moved_sys ms sys).1]
    exact (suffix_cons timer rest).trans kept.suffix

theorem Linked.not_behind : timer ∉ rest := by
  obtain ⟨front,head⟩ := kept.suffix
  have distinct := kept.distinct sys
  rw [← head] at distinct
  exact (nodup_cons.mp (nodup_append.mp distinct).2.1).1

theorem Walking.moved (same : (tctx.timerSysTable sys).ms = rate) (ms : Int) :
    Walking sys rest rate (tctx.moved sys timer ms) where
  next := by
    obtain ⟨front,head⟩ := kept.suffix
    have distinct := kept.distinct sys
    rw [← head] at distinct
    have ahead : timer ∉ front := fun inside => disjoint_of_nodup_append distinct inside mem_cons_self
    rw [← listNext_behind ahead,head]
    simp [TimerCtx.moved,setSys,setTimer]
  same := fun _ => by rw [(moved_sys ms sys).2.2,same]

end

section
variable (kept : Kept sys (timer :: rest) elapsed tctx)
include kept

theorem Kept.expired {remaining : Int}
    (waits : observed id tctx.events timer = some ⟨sys,remaining⟩) (ended : remaining ≤ 0) (ms : Int) :
    Kept sys rest elapsed (((tctx.moved sys timer ms).timerStop timer).emit (.processed timer)) := by
  have member := (kept.linked sys timer).mp (kept.suffix.subset mem_cons_self)
  have stopped : Kept sys rest elapsed ((tctx.timerStop timer).emit (.processed timer)) := by
    rw [← erase_cons_head (a := timer) (l := rest)]
    exact kept.stop forgets_processed ⟨_,waits,ended⟩
  have first := alike_timerStop member.2 member.1
  have second : Alike ((tctx.moved sys timer ms).timerStop timer) ((tctx.moved sys timer ms).unlink timer sys) := by
    apply alike_timerStop
    · rw [moved_timerSys,member.2]
    · rw [moved_started,member.1]
  apply (stopped.setMs (timerStop_stopped kept.toLinked) ms).of_same
  · ext1 other
    change ((tctx.moved sys timer ms).timerStop timer).timer other =
      update (tctx.timerStop timer).timer timer {(tctx.timerStop timer).timer timer with ms := ms} other
    rw [first.timer,second.timer]
    by_cases same : other = timer
    case pos =>
      rw [same,update_self,unlink_timer_same,unlink_timer_same]
      simp [TimerCtx.moved,setTimer]
    case neg =>
      rw [update_of_ne same,unlink_timer_other same,unlink_timer_other same]
      simp [TimerCtx.moved,setTimer,setSys,update_of_ne same]
  · change ((tctx.moved sys timer ms).timerStop timer).events ++ _ = (tctx.timerStop timer).events ++ _
    rw [first.events,second.events]
    rfl
  · intro other
    change (((tctx.moved sys timer ms).timerStop timer).timerSysTable other).head =
      ((tctx.timerStop timer).timerSysTable other).head
    rw [first.head,second.head,(kept.toLinked.moved ms).unlink_head (by rw [moved_timerSys,member.2]),
      kept.unlink_head member.2,(moved_sys ms other).1]
  · intro other
    change (((tctx.moved sys timer ms).timerStop timer).timerSysTable other).typeSys =
      ((tctx.timerStop timer).timerSysTable other).typeSys
    rw [first.typeSys,second.typeSys,unlink_typeSys,unlink_typeSys,(moved_sys ms other).2.1]

theorem Kept.passed {remaining : Int}
    (waits : observed id tctx.events timer = some ⟨sys,remaining⟩) (range : InRange remaining) (left : 0 < remaining) :
    Kept sys rest elapsed (tctx.moved sys timer remaining) where
  toLinked := kept.toLinked.moved remaining
  idle := by
    intro second
    rw [moved_started]
    exact kept.idle second
  waiting := by
    intro other second
    rw [moved_started,moved_timerSys]
    intro started home
    by_cases same : second = timer
    case pos =>
      subst same
      have member := (kept.linked sys second).mp (kept.suffix.subset mem_cons_self)
      have here : other = sys := Option.some.inj (home.symm.trans member.2)
      subst here
      refine ⟨remaining,waits,?_,fun _ => left,fun inside => absurd inside kept.not_behind⟩
      rw [if_neg kept.not_behind,Int.add_zero,bmod_inRange range]
      simp [moved,setTimer]
    case neg =>
      have value : (tctx.moved sys timer remaining).timer second = tctx.timer second := by
        simp [moved,setTimer,setSys,update_of_ne same]
      have found := kept.waiting other second started home
      simp only [mem_cons,same,false_or] at found
      rw [value]
      exact found
  history := kept.history

theorem Kept.visit (same : (tctx.timerSysTable sys).ms = rate)
    (counted : elapsed = rate.toNat * count) (granted : ∀ request ∈ func timer, request.Granted) :
    ∃ left, left.Sublist rest ∧ Kept sys left elapsed (timerVisit sys count func timer tctx) ∧
      Walking sys left rate (timerVisit sys count func timer tctx) := by
  have member := (kept.linked sys timer).mp (kept.suffix.subset mem_cons_self)
  obtain ⟨remaining,waits,ms,_,range⟩ := kept.waiting sys timer member.1 member.2
  have range := range mem_cons_self
  rw [if_pos mem_cons_self] at ms
  have told : ((tctx.timer timer).ms - (tctx.timerSysTable sys).ms.toNat * count).bmod (2^32) = remaining := by
    rw [ms,same,← counted,Int.bmod_sub_bmod,Int.add_sub_cancel,bmod_inRange range]
  have visit : timerVisit sys count func timer tctx = if remaining ≤ 0 then
      (((tctx.moved sys timer remaining).timerStop timer).emit (.processed timer)).calls (func timer)
      else tctx.moved sys timer remaining := by
    rw [← told]
    rfl
  have walking := Walking.moved kept.toLinked same remaining
  rw [visit]
  split
  next expired =>
    have next := kept.expired waits expired remaining
    have walking : Walking sys (rest.erase timer) rate ((tctx.moved sys timer remaining).timerStop timer) :=
      walking.stop (kept.toLinked.moved remaining)
    rw [erase_of_not_mem kept.not_behind] at walking
    obtain ⟨left,fewer,last,walks⟩ := @Kept.calls _ _ _ rate _ _ granted next
    exact ⟨left,fewer,last,walks (walking.emit _)⟩
  next left => exact ⟨rest,.refl rest,kept.passed waits range (by omega),walking⟩

end

theorem Kept.walk {fuel : Nat} (enough : late.length ≤ fuel) (granted : ∀ timer, ∀ request ∈ func timer, request.Granted)
    (counted : elapsed = rate.toNat * count) (kept : Kept sys late elapsed tctx)
    (same : late ≠ [] → (tctx.timerSysTable sys).ms = rate) :
    ∃ after, timerWalk sys count func fuel late.head? tctx = some after ∧ Kept sys [] elapsed after := by
  induction fuel generalizing late tctx with
  | zero =>
    have none : late = [] := eq_nil_of_length_eq_zero (by omega)
    subst none
    refine ⟨_,rfl,kept.of_same rfl rfl (fun other => ?_) fun other => ?_⟩
    all_goals
      by_cases here : other = sys
      case pos => simp [setSys,here]
      case neg => simp [setSys,update_of_ne here]
  | succ fuel ih =>
    cases late with
    | nil =>
      refine ⟨_,rfl,kept.of_same rfl rfl (fun other => ?_) fun other => ?_⟩
      all_goals
        by_cases here : other = sys
        case pos => simp [setSys,here]
        case neg => simp [setSys,update_of_ne here]
    | cons timer rest =>
      obtain ⟨left,fewer,next,walking⟩ := kept.visit (same (cons_ne_nil _ _)) counted (granted timer)
      have shorter := fewer.length_le
      rw [length_cons] at enough
      rw [List.head?_cons,timerWalk,walking.next]
      exact ih (by omega) next walking.same

section
variable (kept : Kept sys [] elapsed tctx)
include kept

theorem Kept.elsewhere (other : Nat) (ms : Int) : Kept other [] ms tctx where
  toLinked := ⟨kept.linked,kept.attached,kept.distinct,kept.sole,nil_suffix⟩
  idle := kept.idle
  waiting := by simpa using kept.waiting
  history := kept.history

theorem Kept.settled {wait : Waiting} (waits : observed id tctx.events timer = some wait) : 0 < wait.remaining := by
  cases started : (tctx.timer timer).started with
  | true =>
    obtain ⟨own,attached⟩ := ne_none_iff_exists'.mp (kept.attached timer started)
    obtain ⟨remaining,seen,_,left,_⟩ := kept.waiting own timer started attached
    rw [waits] at seen
    cases seen
    exact left not_mem_nil
  | false =>
    rw [kept.idle timer started] at waits
    cases waits

theorem Kept.onTime : OnTime id tctx where
  history := kept.history
  settled := fun timer wait waits => kept.settled waits
  running := by
    intro timer
    unfold timerIsRunning
    cases started : (tctx.timer timer).started with
    | true =>
      have attached := kept.attached timer started
      obtain ⟨own,home⟩ := ne_none_iff_exists'.mp attached
      obtain ⟨remaining,seen,_⟩ := kept.waiting own timer started home
      simp [seen,home]
    | false =>
      rw [kept.idle timer started]
      split <;> simp

theorem Kept.tick {ms : Int}
    (range : ∀ timer wait, observed id tctx.events timer = some wait → wait.sys = sys → InRange (wait.remaining - ms)) :
    Kept sys (tctx.timerSysTable sys).head ms (tctx.emit (.ticked sys ms)) where
  toLinked := ⟨kept.linked,kept.attached,kept.distinct,kept.sole,suffix_refl _⟩
  idle := by
    intro timer idle
    change observed id (tctx.events ++ [_]) timer = none
    change (tctx.timer timer).started = false at idle
    rw [observed_emit,observe]
    dsimp only
    rw [kept.idle timer idle]
    rfl
  waiting := by
    intro other timer
    change (tctx.timer timer).started = true → (tctx.timer timer).timerSys = some other →
      ∃ remaining, observed id (tctx.events ++ [_]) timer = some ⟨other,remaining⟩ ∧ (tctx.timer timer).ms = _ ∧ _ ∧ _
    intro started home
    obtain ⟨remaining,seen,told,left,_⟩ := kept.waiting other timer started home
    rw [if_neg not_mem_nil,Int.add_zero] at told
    have left := left not_mem_nil
    have member := kept.linked sys timer
    rw [observed_emit,observe]
    dsimp only
    rw [seen,map_some]
    by_cases here : other = sys
    case pos =>
      have inside := member.mpr ⟨started,here ▸ home⟩
      refine ⟨remaining - ms,by rw [if_pos here],?_,fun out => absurd inside out,fun _ => range timer _ seen here⟩
      rw [if_pos inside,Int.sub_add_cancel,told]
    case neg =>
      have out : timer ∉ (tctx.timerSysTable sys).head := by
        rw [member,home]
        exact fun inside => here (Option.some.inj inside.2)
      refine ⟨remaining,by rw [if_neg here],?_,fun _ => left,fun inside => absurd inside out⟩
      rw [if_neg out,Int.add_zero,told]
  history := history_append kept.history fun _ _ waits => kept.settled waits

theorem Kept.process (granted : ∀ timer, ∀ request ∈ func timer, request.Granted)
    (range : ∀ timer wait, observed id tctx.events timer = some wait → wait.sys = sys →
      InRange (wait.remaining - (tctx.timerSysTable sys).ms.toNat * count)) :
    ∃ after, tctx.timerProcess sys count func = some after ∧ ∃ ms, Kept sys [] ms after := by
  obtain ⟨after,walked,last⟩ := (kept.tick range).walk (Nat.le_refl _) granted rfl fun _ => rfl
  exact ⟨after,walked,_,last⟩

end

end Processing

section Initial
variable {sys timer : Nat} {typeSys created : Bool} {ms : UInt32} {tctx : TimerCtx}

structure Fresh (tctx : TimerCtx) : Prop where
  empty : ∀ sys, (tctx.timerSysTable sys).head = []
  idle : ∀ timer, (tctx.timer timer).started = false
  created : ∀ timer sys, (tctx.timer timer).timerSys = some sys → (tctx.timerSysTable sys).created = true
  sole : ∀ sys, (tctx.timerSysTable sys).typeSys = true → ∀ first second,
    (tctx.timer first).timerSys = some sys → (tctx.timer second).timerSys = some sys → first = second
  events : tctx.events = []

theorem Fresh.kept (fresh : Fresh tctx) : Kept sys [] 0 tctx where
  linked := by
    intro other second
    rw [fresh.empty,fresh.idle]
    simp
  attached := by
    intro second started
    rw [fresh.idle] at started
    cases started
  distinct := by
    intro other
    rw [fresh.empty]
    exact nodup_nil
  sole := fresh.sole
  suffix := nil_suffix
  idle := by
    intro second _
    rw [fresh.events]
    rfl
  waiting := by
    intro other second started
    rw [fresh.idle] at started
    cases started
  history := by
    rw [fresh.events]
    exact history_nil _

theorem fresh_timerPoolInit (n : Nat) : Fresh (timerPoolInit n) := by
  constructor <;> simp [timerPoolInit]

/-- A timer of the operating system that is given to a timer: it is shared, or has no timer yet. -/
structure Given (sys : Nat) (before after : TimerCtx) : Prop where
  timer : after.timer = before.timer
  events : after.events = before.events
  head : ∀ other, (after.timerSysTable other).head = (before.timerSysTable other).head
  created : ∀ other, (before.timerSysTable other).created = true → (after.timerSysTable other).created = true
  exists' : (after.timerSysTable sys).created = true
  typeSys : ∀ other, other ≠ sys → (after.timerSysTable other).typeSys = (before.timerSysTable other).typeSys
  free : (after.timerSysTable sys).typeSys = true → (before.timerSysTable sys).created = false

private theorem timerSysNew_given {after : TimerCtx} (made : tctx.timerSysNew typeSys ms created = some (sys,after)) :
    Given sys tctx after := by
  unfold timerSysNew at made
  split at made
  · cases made
  · split at made
    · cases made
    next found search =>
      split at made
      · cases made
      · cases made
        have free : (tctx.timerSysTable sys).created = false := by simpa using List.find?_some search
        constructor
        case timer => rfl
        case events => rfl
        case free => exact fun _ => free
        case exists' => simp [addUser,setSys]
        all_goals
          intro other
          by_cases same : other = sys
          case pos => simp [addUser,setSys,same]
          case neg => simp [addUser,setSys,update_of_ne same]

theorem timerSysCreate_given {after : TimerCtx} (made : tctx.timerSysCreate typeSys ms created = some (sys,after)) :
    Given sys tctx after := by
  unfold timerSysCreate at made
  split at made
  · exact timerSysNew_given made
  · dsimp only at made
    split at made
    next found search =>
      cases made
      have shared := List.find?_some search
      simp only [Bool.and_eq_true,Bool.not_eq_true',decide_eq_true_eq] at shared
      constructor
      case timer => rfl
      case events => rfl
      case free => simp [addUser,setSys,shared]
      case exists' => simp [addUser,setSys,shared]
      all_goals
        intro other
        by_cases same : other = sys
        case pos => simp [addUser,setSys,same]
        case neg => simp [addUser,setSys,update_of_ne same]
    · exact timerSysNew_given made

theorem Fresh.timerInit (fresh : Fresh tctx) : Fresh (tctx.timerInit timer typeSys ms created).1 := by
  unfold TimerCtx.timerInit
  split
  · exact fresh
  next sys after made =>
    have given := timerSysCreate_given made
    have home (other : Nat) {own : Nat} (attached : ((after.setTimer timer {after.timer timer with
        timerSys := some sys, created := true, started := false}).timer other).timerSys = some own) :
        other = timer ∧ own = sys ∨ (tctx.timer other).timerSys = some own := by
      by_cases same : other = timer
      case pos =>
        simp only [same,setTimer,update_self] at attached
        exact .inl ⟨same,(Option.some.inj attached).symm⟩
      case neg =>
        simp only [setTimer,update_of_ne same,given.timer] at attached
        exact .inr attached
    constructor
    case empty =>
      intro other
      exact (given.head other).trans (fresh.empty other)
    case idle =>
      intro other
      by_cases same : other = timer
      case pos => simp [setTimer,same]
      case neg =>
        simp only [setTimer,update_of_ne same,given.timer]
        exact fresh.idle other
    case created =>
      intro other own attached
      rcases home other attached with ⟨_,rfl⟩ | before
      · exact given.exists'
      · exact given.created own (fresh.created other own before)
    case sole =>
      intro own dedicated first second one two
      -- no other timer has got a timer of the operating system that is not shared
      have lone (other : Nat) (attached : (tctx.timer other).timerSys = some own) : own ≠ sys := by
        rintro rfl
        have taken := fresh.created other own attached
        rw [given.free dedicated] at taken
        cases taken
      rcases home first one with ⟨rfl,rfl⟩ | before
      · rcases home second two with ⟨rfl,_⟩ | before
        · rfl
        · exact absurd rfl (lone second before)
      · have other := lone first before
        rcases home second two with ⟨_,same⟩ | before'
        · exact absurd same other
        · have typeSys := given.typeSys own other
          exact fresh.sole own (typeSys ▸ dedicated) first second before before'
    case events => exact given.events.trans fresh.events

end Initial

end TimerCtx

structure TimerConfig where
  timer : Nat
  typeSys : Bool
  ms : UInt32
  created : Bool

def timerInits (n : Nat) (configs : List TimerConfig) : TimerCtx :=
  configs.foldl (fun tctx config => (tctx.timerInit config.timer config.typeSys config.ms config.created).1)
    (.timerPoolInit n)

theorem fresh_timerInits (n : Nat) (configs : List TimerConfig) : (timerInits n configs).Fresh := by
  induction configs using List.reverseRecOn with
  | nil => exact TimerCtx.fresh_timerPoolInit n
  | append_singleton configs config ih =>
    unfold timerInits
    rw [foldl_append]
    exact ih.timerInit

theorem processed_of_kept {tctx : TimerCtx} {input : TimerInput} (kept : ∀ sys, tctx.Kept sys [] 0)
    (allowed : input.Allowed tctx) : (∀ sys, (timerStep input tctx).Kept sys [] 0) ∧ Processed id tctx input := by
  cases input with
  | call request =>
    have next (sys : Nat) : (timerStep (.call request) tctx).Kept sys [] 0 := by
      obtain ⟨left,fewer,next,_⟩ := @TimerCtx.Kept.call _ _ _ 0 _ (kept sys) request allowed
      rwa [eq_nil_of_sublist_nil fewer] at next
    refine ⟨next,?_,(next 0).onTime⟩
    rintro _ _ _ ⟨⟩
  | tick sys count func =>
    obtain ⟨after,ended,ms,last⟩ := ((kept sys).elsewhere sys 0).process allowed.1 allowed.2
    have step : timerStep (.tick sys count func) tctx = after := by rw [timerStep,ended,getD_some]
    rw [step]
    refine ⟨fun other => last.elsewhere other 0,?_,?_⟩
    · rintro _ _ _ ⟨⟩
      rw [ended]
      rfl
    · rw [step]
      exact last.onTime

/-- Callbacks run once for each start, in the first tick in which the time asked for and the granularity are over. -/
theorem timers_on_time (n : Nat) (configs : List TimerConfig) (inputs : List TimerInput)
    (allowed : Steps timerStep (fun tctx input => input.Allowed tctx) inputs (timerInits n configs)) :
    Steps timerStep (Processed id) inputs (timerInits n configs) := by
  have initial (sys : Nat) : (timerInits n configs).Kept sys [] 0 := (fresh_timerInits n configs).kept
  exact steps_kept timerStep (I := fun tctx => ∀ sys, tctx.Kept sys [] 0)
    (fun tctx input kept allowed => processed_of_kept kept allowed) initial allowed

/-- Two timers of 10 and 15 ms, of which the one that runs first stops the other and starts itself again. -/
theorem timers_on_time_two : Steps timerStep (Processed id)
    [.call (.start 0 10 true),.call (.start 1 15 true),.tick 0 2 fun timer => if timer = 0 then [.stop 1,.start 0 5 true] else []]
    (timerInits 2 [⟨0,false,10,true⟩,⟨1,false,10,true⟩]) := by
  apply timers_on_time
  refine ⟨rfl,rfl,⟨?_,?_⟩,trivial⟩
  · intro timer request member
    dsimp only at member
    by_cases first : timer = 0
    case pos =>
      rw [if_pos first] at member
      rcases mem_cons.mp member with rfl | last
      · trivial
      · rw [mem_singleton.mp last]
        rfl
    case neg =>
      rw [if_neg first] at member
      cases member
  · intro timer wait seen _
    by_cases first : timer = 0
    case pos =>
      subst first
      cases seen
      exact ⟨by decide,by decide⟩
    case neg =>
      by_cases second : timer = 1
      case pos =>
        subst second
        cases seen
        exact ⟨by decide,by decide⟩
      case neg =>
        have unseen : observed id [.started 0 0 10 10,.started 1 0 15 10] timer = none := by
          simp [observed,observe,update_of_ne first,update_of_ne second]
        have same : some wait = none := seen.symm.trans unseen
        cases same

/-- A timer of 10 ms that is started with the periodic timer of 10 ms waits for its second tick. -/
theorem second_tick : ¬∀ (n : Nat) (configs : List TimerConfig) (inputs : List TimerInput),
    Steps timerStep (Processed fun _ => 0) inputs (timerInits n configs) := by
  intro onTime
  have steps := onTime 1 [⟨0,false,10,true⟩] [.call (.start 0 10 true),.tick 0 1 fun _ => []]
  have settled := steps.2.1.onTime.settled 0 ⟨0,0⟩ (by decide)
  revert settled
  decide

end Genavb.Common
