import Genavb.Common.Timer
import Genavb.Support.Run

/-! What an observer of the calls and ticks of software timers expects (`timer.c`), and what calls change of it. -/
namespace Genavb.Common
open Genavb.Support List
open Function (update update_eq_self_iff update_of_ne update_self)

structure Waiting where
  sys : Nat
  remaining : Int
  deriving DecidableEq

/-- What an observer knows of the timers after an event, if a timer waits for `extra` of the granularity in addition to
the time asked for. -/
def observe (extra : Nat → Nat) (waiting : Nat → Option Waiting) : TimerEvent → Nat → Option Waiting
  | .started timer sys ms granularity => update waiting timer (some ⟨sys,ms + extra granularity⟩)
  | .stopped timer => update waiting timer none
  | .processed timer => update waiting timer none
  | .ticked sys ms => fun timer =>
    (waiting timer).map fun wait => if wait.sys = sys then {wait with remaining := wait.remaining - ms} else wait

def observed (extra : Nat → Nat) (events : List TimerEvent) : Nat → Option Waiting :=
  events.foldl (observe extra) fun _ => none

/-- A timer is not started twice, a callback runs for a timer that has been started and neither stopped nor processed
since, when its time is over, and no callback is outstanding when time goes on. -/
def RightEvent (extra : Nat → Nat) (before : List TimerEvent) : TimerEvent → Prop
  | .started timer _ _ _ => observed extra before timer = none
  | .stopped _ => True
  | .processed timer => ∃ wait, observed extra before timer = some wait ∧ wait.remaining ≤ 0
  | .ticked _ _ => ∀ timer wait, observed extra before timer = some wait → 0 < wait.remaining

def TimerCall.Granted : TimerCall → Prop
  | .start _ _ granted => granted = true
  | .restart _ _ granted => granted = true
  | .stop _ => True
  | .destroy _ => True

def InRange (ms : Int) : Prop := -2^31 ≤ ms ∧ ms < 2^31

section Observer
variable {extra : Nat → Nat} {events : List TimerEvent} {event : TimerEvent}

@[simp] theorem observed_emit : observed extra (events ++ [event]) = observe extra (observed extra events) event := by
  simp [observed]

end Observer

theorem bmod_inRange {ms : Int} (range : InRange ms) : ms.bmod (2^32) = ms := by
  apply Int.bmod_eq_of_le
  · have least := range.1
    omega
  · have most := range.2
    omega

namespace TimerCtx

/-- Contexts that differ in nothing that the timers see. -/
structure Alike (first second : TimerCtx) : Prop where
  timer : first.timer = second.timer
  events : first.events = second.events
  head : ∀ sys, (first.timerSysTable sys).head = (second.timerSysTable sys).head
  next : ∀ sys, (first.timerSysTable sys).nextToProcess = (second.timerSysTable sys).nextToProcess
  ms : ∀ sys, (first.timerSysTable sys).ms = (second.timerSysTable sys).ms
  typeSys : ∀ sys, (first.timerSysTable sys).typeSys = (second.timerSysTable sys).typeSys

/-- The links of the timers, some of which are left at the end of a list that is being processed. -/
structure Linked (sys : Nat) (late : List Nat) (tctx : TimerCtx) : Prop where
  linked : ∀ other timer, timer ∈ (tctx.timerSysTable other).head ↔
    (tctx.timer timer).started = true ∧ (tctx.timer timer).timerSys = some other
  attached : ∀ timer, (tctx.timer timer).started = true → (tctx.timer timer).timerSys ≠ none
  distinct : ∀ other, (tctx.timerSysTable other).head.Nodup
  sole : ∀ other, (tctx.timerSysTable other).typeSys = true → ∀ first second,
    (tctx.timer first).timerSys = some other → (tctx.timer second).timerSys = some other → first = second
  suffix : late <:+ (tctx.timerSysTable sys).head

/-- The timers are on time, apart from those that are left and have not been told of `elapsed` yet. -/
structure Kept (sys : Nat) (late : List Nat) (elapsed : Int) (tctx : TimerCtx) : Prop extends Linked sys late tctx where
  idle : ∀ timer, (tctx.timer timer).started = false → observed id tctx.events timer = none
  waiting : ∀ other timer, (tctx.timer timer).started = true → (tctx.timer timer).timerSys = some other →
    ∃ remaining, observed id tctx.events timer = some ⟨other,remaining⟩ ∧
      (tctx.timer timer).ms = (remaining + if timer ∈ late then elapsed else 0).bmod (2^32) ∧
      (timer ∉ late → 0 < remaining) ∧ (timer ∈ late → InRange remaining)
  history : History (RightEvent id) tctx.events

structure Walking (sys : Nat) (late : List Nat) (ms : UInt32) (tctx : TimerCtx) : Prop where
  next : (tctx.timerSysTable sys).nextToProcess = late.head?
  same : late ≠ [] → (tctx.timerSysTable sys).ms = ms

section Alike
variable {first second : TimerCtx} {sys : Nat} {late : List Nat} {elapsed : Int} {ms : UInt32}

theorem Alike.emit (alike : Alike first second) (event : TimerEvent) : Alike (first.emit event) (second.emit event) :=
  ⟨alike.timer,by rw [TimerCtx.emit,TimerCtx.emit,alike.events],alike.head,alike.next,alike.ms,alike.typeSys⟩

private theorem alike_setSys {tctx : TimerCtx} {value : TimerSys} (head : value.head = (tctx.timerSysTable sys).head)
    (next : value.nextToProcess = (tctx.timerSysTable sys).nextToProcess) (ms : value.ms = (tctx.timerSysTable sys).ms)
    (typeSys : value.typeSys = (tctx.timerSysTable sys).typeSys) : Alike (tctx.setSys sys value) tctx := by
  refine ⟨rfl,rfl,fun other => ?_,fun other => ?_,fun other => ?_,fun other => ?_⟩
  all_goals
    by_cases same : other = sys
    case pos => simp_all [setSys]
    case neg => simp [setSys,update_of_ne same]

private theorem alike_refl (tctx : TimerCtx) : Alike tctx tctx := ⟨rfl,rfl,fun _ => rfl,fun _ => rfl,fun _ => rfl,fun _ => rfl⟩

theorem alike_timerSysStart (granted : Bool) (tctx : TimerCtx) : Alike (tctx.timerSysStart sys granted).1 tctx := by
  unfold timerSysStart
  dsimp only
  split
  · exact alike_refl tctx
  · split
    · exact alike_setSys rfl rfl rfl rfl
    · exact alike_refl tctx

theorem alike_timerSysStop (tctx : TimerCtx) : Alike (tctx.timerSysStop sys) tctx := by
  unfold timerSysStop
  dsimp only
  split
  · exact alike_setSys rfl rfl rfl rfl
  · exact alike_refl tctx

theorem alike_timerSysDestroy (tctx : TimerCtx) : Alike (tctx.timerSysDestroy sys) tctx := by
  unfold timerSysDestroy
  dsimp only
  split
  · have alike : Alike (tctx.setSys sys {tctx.timerSysTable sys with
        users := (tctx.timerSysTable sys).users - 1, created := false}) tctx := alike_setSys rfl rfl rfl rfl
    exact {alike with}
  · exact alike_setSys rfl rfl rfl rfl

theorem Kept.of_same (kept : Kept sys late elapsed second) (timer : first.timer = second.timer)
    (events : first.events = second.events)
    (head : ∀ sys, (first.timerSysTable sys).head = (second.timerSysTable sys).head)
    (typeSys : ∀ sys, (first.timerSysTable sys).typeSys = (second.timerSysTable sys).typeSys) :
    Kept sys late elapsed first where
  linked := fun other entry => by rw [head,timer]; exact kept.linked other entry
  attached := by rw [timer]; exact kept.attached
  distinct := fun other => by rw [head]; exact kept.distinct other
  sole := fun other => by rw [typeSys,timer]; exact kept.sole other
  suffix := by rw [head]; exact kept.suffix
  idle := by rw [timer,events]; exact kept.idle
  waiting := by rw [timer,events]; exact kept.waiting
  history := by rw [events]; exact kept.history

theorem Kept.congr (kept : Kept sys late elapsed second) (alike : Alike first second) : Kept sys late elapsed first :=
  kept.of_same alike.timer alike.events alike.head alike.typeSys

theorem Walking.congr (walking : Walking sys late ms second) (alike : Alike first second) :
    Walking sys late ms first where
  next := by rw [alike.next]; exact walking.next
  same := by rw [alike.ms]; exact walking.same

theorem Walking.emit {tctx : TimerCtx} (walking : Walking sys late ms tctx) (event : TimerEvent) :
    Walking sys late ms (tctx.emit event) := ⟨walking.next,walking.same⟩

end Alike

section Stop
variable {sys own timer : Nat} {late : List Nat} {elapsed : Int} {ms : UInt32} {event : TimerEvent} {tctx : TimerCtx}

def unlink (timer own : Nat) (tctx : TimerCtx) : TimerCtx :=
  let timerSys := tctx.timerSysTable own
  let next := if timerSys.nextToProcess = some timer then listNext timer timerSys.head else timerSys.nextToProcess
  (tctx.setSys own {timerSys with
    nextToProcess := next
    head := timerSys.head.erase timer}).setTimer timer {tctx.timer timer with started := false}

private theorem timerStop_idle (idle : (tctx.timer timer).started = false) : tctx.timerStop timer = tctx := by
  unfold timerStop
  dsimp only
  rw [idle]
  split
  · rfl
  · rfl

theorem alike_timerStop (attached : (tctx.timer timer).timerSys = some own)
    (started : (tctx.timer timer).started = true) :
    Alike (tctx.timerStop timer) (tctx.unlink timer own) := by
  have stop : tctx.timerStop timer = (tctx.unlink timer own).timerSysStop own := by
    unfold timerStop unlink
    dsimp only
    rw [attached]
    rw [started]
    rfl
  rw [stop]
  exact alike_timerSysStop _

theorem suffix_erase {list : List Nat} (suffix : late <:+ list) (distinct : list.Nodup) :
    late.erase timer <:+ list.erase timer := by
  obtain ⟨front,rfl⟩ := suffix
  by_cases ahead : timer ∈ front
  case pos =>
    have behind : timer ∉ late := disjoint_of_nodup_append distinct ahead
    rw [erase_append_left _ ahead,erase_of_not_mem behind]
    exact suffix_append _ _
  case neg =>
    rw [erase_append_right _ ahead]
    exact suffix_append _ _

theorem Linked.not_linked (kept : Linked sys late tctx) (idle : (tctx.timer timer).started = false) (other : Nat) :
    timer ∉ (tctx.timerSysTable other).head := by
  rw [kept.linked,idle]
  simp

theorem Linked.not_late (kept : Linked sys late tctx) (idle : (tctx.timer timer).started = false) : timer ∉ late :=
  fun inside => kept.not_linked idle sys (kept.suffix.subset inside)

theorem Linked.unlink_head (kept : Linked sys late tctx) (attached : (tctx.timer timer).timerSys = some own)
    (other : Nat) :
    ((tctx.unlink timer own).timerSysTable other).head = (tctx.timerSysTable other).head.erase timer := by
  by_cases same : other = own
  case pos => simp [unlink,setSys,setTimer,same]
  case neg =>
    have out : timer ∉ (tctx.timerSysTable other).head := by
      rw [kept.linked,attached]
      intro member
      exact same (Option.some.inj member.2).symm
    rw [erase_of_not_mem out]
    simp [unlink,setSys,setTimer,update_of_ne same]

theorem unlink_typeSys (other : Nat) :
    ((tctx.unlink timer own).timerSysTable other).typeSys = (tctx.timerSysTable other).typeSys := by
  by_cases same : other = own
  case pos => simp [unlink,setSys,setTimer,same]
  case neg => simp [unlink,setSys,setTimer,update_of_ne same]

theorem unlink_timer_same : (tctx.unlink timer own).timer timer = {tctx.timer timer with started := false} := by
  simp [unlink,setTimer]

theorem unlink_timer_other {other : Nat} (apart : other ≠ timer) :
    (tctx.unlink timer own).timer other = tctx.timer other := by
  simp [unlink,setTimer,setSys,update_of_ne apart]

private theorem unlink_timerSys (other : Nat) :
    ((tctx.unlink timer own).timer other).timerSys = (tctx.timer other).timerSys := by
  by_cases same : other = timer
  case pos => rw [same,unlink_timer_same]
  case neg => rw [unlink_timer_other same]

def Forgets (timer : Nat) (event : TimerEvent) : Prop :=
  ∀ waiting, observe id waiting event = update waiting timer none

theorem Kept.unlinked (kept : Kept sys late elapsed tctx) (attached : (tctx.timer timer).timerSys = some own)
    (forgets : Forgets timer event) (right : RightEvent id tctx.events event) :
    Kept sys (late.erase timer) elapsed ((tctx.unlink timer own).emit event) where
  linked := by
    intro other second
    change second ∈ ((tctx.unlink timer own).timerSysTable other).head ↔
      ((tctx.unlink timer own).timer second).started = true ∧ ((tctx.unlink timer own).timer second).timerSys = some other
    rw [kept.unlink_head attached]
    by_cases same : second = timer
    case pos =>
      rw [same,unlink_timer_same]
      simp [(kept.distinct other).mem_erase_iff]
    case neg =>
      rw [unlink_timer_other same,mem_erase_of_ne same]
      exact kept.linked other second
  attached := by
    intro second started
    change ((tctx.unlink timer own).timer second).timerSys ≠ none
    change ((tctx.unlink timer own).timer second).started = true at started
    rw [unlink_timerSys]
    by_cases same : second = timer
    case pos =>
      rw [same,attached]
      simp
    case neg =>
      rw [unlink_timer_other same] at started
      exact kept.attached second started
  distinct := by
    intro other
    change ((tctx.unlink timer own).timerSysTable other).head.Nodup
    rw [kept.unlink_head attached]
    exact (kept.distinct other).erase timer
  sole := by
    intro other
    change ((tctx.unlink timer own).timerSysTable other).typeSys = true → ∀ first second,
      ((tctx.unlink timer own).timer first).timerSys = some other →
        ((tctx.unlink timer own).timer second).timerSys = some other → first = second
    simp only [unlink_typeSys,unlink_timerSys]
    exact kept.sole other
  suffix := by
    change late.erase timer <:+ ((tctx.unlink timer own).timerSysTable sys).head
    rw [kept.unlink_head attached]
    exact suffix_erase kept.suffix (kept.distinct sys)
  idle := by
    intro second idle
    change observed id (tctx.events ++ [event]) second = none
    change ((tctx.unlink timer own).timer second).started = false at idle
    rw [observed_emit,forgets]
    by_cases same : second = timer
    case pos => rw [same,update_self]
    case neg =>
      rw [unlink_timer_other same] at idle
      rw [update_of_ne same]
      exact kept.idle second idle
  waiting := by
    intro other second
    change ((tctx.unlink timer own).timer second).started = true → ((tctx.unlink timer own).timer second).timerSys =
      some other → ∃ remaining, observed id (tctx.events ++ [event]) second = some ⟨other,remaining⟩ ∧
        ((tctx.unlink timer own).timer second).ms = _ ∧ _ ∧ _
    by_cases same : second = timer
    case pos =>
      rw [same,unlink_timer_same]
      intro started
      cases started
    case neg =>
      rw [unlink_timer_other same,observed_emit,forgets,update_of_ne same]
      simp only [mem_erase_of_ne same]
      exact kept.waiting other second
  history := history_append kept.history right

theorem Kept.stop (kept : Kept sys late elapsed tctx) (forgets : Forgets timer event)
    (right : RightEvent id tctx.events event) :
    Kept sys (late.erase timer) elapsed ((tctx.timerStop timer).emit event) := by
  cases started : (tctx.timer timer).started with
  | true =>
    obtain ⟨own,attached⟩ := Option.ne_none_iff_exists'.mp (kept.attached timer started)
    exact (kept.unlinked attached forgets right).congr ((alike_timerStop attached started).emit event)
  | false =>
    rw [timerStop_idle started,erase_of_not_mem (kept.not_late started)]
    have unseen : observed id (tctx.emit event).events = observed id tctx.events := by
      change observed id (tctx.events ++ [event]) = _
      rw [observed_emit,forgets]
      exact update_eq_self_iff.mpr (kept.idle timer started).symm
    exact {kept with
      idle := by
        rw [unseen]
        exact kept.idle
      waiting := by
        rw [unseen]
        exact kept.waiting
      history := history_append kept.history right}

theorem Walking.unlinked (walking : Walking sys late ms tctx) (kept : Linked sys late tctx)
    (attached : (tctx.timer timer).timerSys = some own) :
    Walking sys (late.erase timer) ms (tctx.unlink timer own) := by
  have next := walking.next
  constructor
  case same =>
    intro left
    have before : late ≠ [] := by
      rintro rfl
      exact left rfl
    rw [← walking.same before]
    by_cases same : sys = own
    case pos => simp [unlink,setSys,setTimer,same]
    case neg => simp [unlink,setSys,setTimer,update_of_ne same]
  case next =>
    cases late with
    | nil =>
      by_cases same : sys = own
      case pos =>
        subst same
        rw [List.head?_nil] at next
        simp [unlink,setSys,setTimer,next]
      case neg => simpa [unlink,setSys,setTimer,update_of_ne same] using next
    | cons first rest =>
      rw [List.head?_cons] at next
      by_cases own_first : first = timer
      case pos =>
        subst own_first
        have member := (kept.linked sys first).mp (kept.suffix.subset mem_cons_self)
        have same : own = sys := Option.some.inj (attached.symm.trans member.2)
        subst same
        obtain ⟨front,head⟩ := kept.suffix
        have distinct := kept.distinct own
        rw [← head] at distinct
        have ahead : first ∉ front := fun inside => disjoint_of_nodup_append distinct inside mem_cons_self
        rw [erase_cons_head,← listNext_behind ahead,head]
        simp [unlink,setSys,setTimer,next]
      case neg =>
        rw [erase_cons_tail (by simpa using own_first),List.head?_cons]
        by_cases same : sys = own
        case pos =>
          subst same
          simp [unlink,setSys,setTimer,next,own_first]
        case neg => simpa [unlink,setSys,setTimer,update_of_ne same] using next

theorem Walking.stop (walking : Walking sys late ms tctx) (kept : Linked sys late tctx) :
    Walking sys (late.erase timer) ms (tctx.timerStop timer) := by
  cases started : (tctx.timer timer).started with
  | true =>
    obtain ⟨own,attached⟩ := Option.ne_none_iff_exists'.mp (kept.attached timer started)
    exact (walking.unlinked kept attached).congr (alike_timerStop attached started)
  | false =>
    rw [timerStop_idle started,erase_of_not_mem (kept.not_late started)]
    exact walking

end Stop

section Start
variable {sys own timer : Nat} {late : List Nat} {elapsed : Int} {ms rate : UInt32} {granted : Bool} {tctx : TimerCtx}

private theorem link_head (other : Nat) : ((tctx.link timer own ms).timerSysTable other).head =
    if other = own then timer :: (tctx.timerSysTable other).head else (tctx.timerSysTable other).head := by
  by_cases same : other = own
  case pos => simp [link,setSys,setTimer,same]
  case neg => simp [link,setSys,setTimer,same]

theorem link_typeSys (other : Nat) :
    ((tctx.link timer own ms).timerSysTable other).typeSys = (tctx.timerSysTable other).typeSys := by
  by_cases same : other = own
  case pos => simp [link,setSys,setTimer,same]
  case neg => simp [link,setSys,setTimer,update_of_ne same]

theorem link_next (other : Nat) :
    ((tctx.link timer own ms).timerSysTable other).nextToProcess = (tctx.timerSysTable other).nextToProcess := by
  by_cases same : other = own
  case pos => simp [link,setSys,setTimer,same]
  case neg => simp [link,setSys,setTimer,update_of_ne same]

theorem link_ms (other : Nat) (shared : other = own → (tctx.timerSysTable own).typeSys = false) :
    ((tctx.link timer own ms).timerSysTable other).ms = (tctx.timerSysTable other).ms := by
  by_cases same : other = own
  case pos => simp [link,setSys,setTimer,same,shared same]
  case neg => simp [link,setSys,setTimer,update_of_ne same]

private theorem link_timer_same : (tctx.link timer own ms).timer timer = {tctx.timer timer with
    ms := ((ms.toNat + granularity (tctx.timerSysTable own) : Nat) : Int).bmod (2^32)
    started := true} := by
  simp [link,setTimer]

private theorem link_timer_other {other : Nat} (apart : other ≠ timer) :
    (tctx.link timer own ms).timer other = tctx.timer other := by
  simp [link,setTimer,setSys,update_of_ne apart]

private theorem link_timerSys (other : Nat) :
    ((tctx.link timer own ms).timer other).timerSys = (tctx.timer other).timerSys := by
  by_cases same : other = timer
  case pos => rw [same,link_timer_same]
  case neg => rw [link_timer_other same]

theorem Kept.link (kept : Kept sys late elapsed tctx) (attached : (tctx.timer timer).timerSys = some own)
    (idle : (tctx.timer timer).started = false) (nonzero : ms ≠ 0) :
    Kept sys late elapsed ((tctx.link timer own ms).emit
      (.started timer own ms.toNat (granularity (tctx.timerSysTable own)))) where
  linked := by
    intro other second
    change second ∈ ((tctx.link timer own ms).timerSysTable other).head ↔
      ((tctx.link timer own ms).timer second).started = true ∧ ((tctx.link timer own ms).timer second).timerSys = _
    rw [link_timerSys,link_head]
    by_cases same : second = timer
    case pos =>
      subst same
      have out := kept.not_linked idle other
      rw [link_timer_same,attached]
      split
      next own_other => simp [own_other]
      next apart =>
        simp only [out,true_and,false_iff]
        exact fun equal => apart (Option.some.inj equal).symm
    case neg =>
      rw [link_timer_other same]
      split
      · rw [mem_cons,or_iff_right same]
        exact kept.linked other second
      · exact kept.linked other second
  attached := by
    intro second started
    change ((tctx.link timer own ms).timer second).timerSys ≠ none
    change ((tctx.link timer own ms).timer second).started = true at started
    rw [link_timerSys]
    by_cases same : second = timer
    case pos =>
      rw [same,attached]
      simp
    case neg =>
      rw [link_timer_other same] at started
      exact kept.attached second started
  distinct := by
    intro other
    change ((tctx.link timer own ms).timerSysTable other).head.Nodup
    rw [link_head]
    split
    · exact nodup_cons.mpr ⟨kept.not_linked idle other,kept.distinct other⟩
    · exact kept.distinct other
  sole := by
    intro other
    change ((tctx.link timer own ms).timerSysTable other).typeSys = true → ∀ first second,
      ((tctx.link timer own ms).timer first).timerSys = _ → ((tctx.link timer own ms).timer second).timerSys = _ → _
    simp only [link_typeSys,link_timerSys]
    exact kept.sole other
  suffix := by
    change late <:+ ((tctx.link timer own ms).timerSysTable sys).head
    rw [link_head]
    split
    · exact kept.suffix.trans (suffix_cons _ _)
    · exact kept.suffix
  idle := by
    intro second
    change ((tctx.link timer own ms).timer second).started = false → observed id (tctx.events ++ [_]) second = none
    rw [observed_emit]
    by_cases same : second = timer
    case pos =>
      rw [same,link_timer_same]
      intro stopped
      cases stopped
    case neg =>
      rw [link_timer_other same,observe,update_of_ne same]
      exact kept.idle second
  waiting := by
    intro other second
    change ((tctx.link timer own ms).timer second).started = true → ((tctx.link timer own ms).timer second).timerSys =
      some other → ∃ remaining, observed id (tctx.events ++ [_]) second = some ⟨other,remaining⟩ ∧
        ((tctx.link timer own ms).timer second).ms = _ ∧ _ ∧ _
    rw [observed_emit]
    by_cases same : second = timer
    case pos =>
      subst same
      rw [link_timer_same,observe,update_self]
      have out := kept.not_late idle
      have positive : 0 < ms.toNat := by
        rw [Nat.pos_iff_ne_zero]
        intro zero
        exact nonzero (UInt32.toNat_inj.mp zero)
      intro _ home
      rw [attached] at home
      refine ⟨ms.toNat + granularity (tctx.timerSysTable own),by rw [Option.some.inj home]; rfl,?_,fun _ => ?_,?_⟩
      · rw [if_neg out,Int.add_zero]
        push_cast
        rfl
      · omega
      · intro inside
        exact absurd inside out
    case neg =>
      rw [link_timer_other same,observe,update_of_ne same]
      exact kept.waiting other second
  history := history_append kept.history (kept.idle timer idle)

theorem Walking.link (walking : Walking sys late rate tctx) (kept : Linked sys late tctx)
    (attached : (tctx.timer timer).timerSys = some own) (idle : (tctx.timer timer).started = false) :
    Walking sys late rate (tctx.link timer own ms) where
  next := by rw [link_next,walking.next]
  same := by
    intro left
    rw [link_ms]
    · exact walking.same left
    · -- a timer of the operating system that is not shared has no second timer to start
      rintro rfl
      by_contra shared
      obtain ⟨second,member⟩ := exists_mem_of_ne_nil late left
      have started := (kept.linked sys second).mp (kept.suffix.subset member)
      have same := kept.sole sys (by simpa using shared) second timer started.2 attached
      rw [← same,started.1] at idle
      cases idle

private theorem start_cases (grants : granted = true) : tctx.start timer ms granted = tctx ∨
    ∃ own, (tctx.timer timer).timerSys = some own ∧ (tctx.timer timer).started = false ∧ ms ≠ 0 ∧
      Alike (tctx.start timer ms granted) ((tctx.link timer own ms).emit
        (.started timer own ms.toNat (granularity (tctx.timerSysTable own)))) := by
  unfold start
  cases attached : (tctx.timer timer).timerSys with
  | none => exact .inl (by simp [timerStart,attached])
  | some own =>
    dsimp only
    rcases @timerStart_cases timer ms granted tctx with fine | ⟨failed,_⟩ | ⟨⟨_,_,_,_,_,refused⟩,_⟩
    · by_cases started : (tctx.timer timer).started = true ∨ ms = 0
      case pos =>
        have failed : (tctx.timerStart timer ms granted).2 = -1 := by
          rcases started with running | zero
          · simp [timerStart,attached,running]
          · simp [timerStart,attached,zero]
        rw [failed] at fine
        cases fine
      case neg =>
        rw [not_or,Bool.not_eq_true] at started
        refine .inr ⟨own,rfl,started.1,started.2,?_⟩
        rw [if_neg (by rw [fine]; decide),timerStart_eq attached started.1 started.2]
        exact (alike_timerSysStart granted _).emit _
    · rw [failed]
      exact .inl rfl
    · rw [grants] at refused
      cases refused

theorem Kept.start (kept : Kept sys late elapsed tctx) (grants : granted = true) :
    Kept sys late elapsed (tctx.start timer ms granted) := by
  rcases @start_cases timer ms _ tctx grants with same | ⟨own,attached,idle,nonzero,alike⟩
  · rwa [same]
  · exact (kept.link attached idle nonzero).congr alike

theorem Walking.start (walking : Walking sys late rate tctx) (kept : Linked sys late tctx)
    (grants : granted = true) : Walking sys late rate (tctx.start timer ms granted) := by
  rcases @start_cases timer ms _ tctx grants with same | ⟨own,attached,idle,nonzero,alike⟩
  · rwa [same]
  · have linked : Walking sys late rate (tctx.link timer own ms) := walking.link kept attached idle
    exact (linked.emit _).congr alike

end Start

section Destroy
variable {sys own timer : Nat} {late : List Nat} {elapsed : Int} {rate : UInt32} {tctx : TimerCtx}

theorem timerStop_stopped (kept : Linked sys late tctx) : ((tctx.timerStop timer).timer timer).started = false := by
  cases started : (tctx.timer timer).started with
  | true =>
    obtain ⟨own,attached⟩ := Option.ne_none_iff_exists'.mp (kept.attached timer started)
    rw [(alike_timerStop attached started).timer,unlink_timer_same]
  | false => rw [timerStop_idle started,started]

private theorem forgets_stopped : Forgets timer (.stopped timer) := fun _ => rfl

theorem forgets_processed : Forgets timer (.processed timer) := fun _ => rfl

def detach (timer : Nat) (tctx : TimerCtx) : TimerCtx :=
  tctx.setTimer timer {tctx.timer timer with timerSys := none, created := false}

private theorem detach_started (other : Nat) : ((tctx.detach timer).timer other).started = (tctx.timer other).started := by
  by_cases same : other = timer
  case pos => simp [detach,setTimer,same]
  case neg => simp [detach,setTimer,update_of_ne same]

private theorem detach_timer_other {other : Nat} (apart : other ≠ timer) :
    (tctx.detach timer).timer other = tctx.timer other := by
  simp [detach,setTimer,update_of_ne apart]

private theorem detach_timerSys {other : Nat} (still : ((tctx.detach timer).timer other).timerSys = some own) :
    (tctx.timer other).timerSys = some own := by
  by_cases same : other = timer
  case pos => simp [detach,setTimer,same] at still
  case neg => rwa [detach_timer_other same] at still

theorem Kept.detach (kept : Kept sys late elapsed tctx) (idle : (tctx.timer timer).started = false) :
    Kept sys late elapsed (tctx.detach timer) where
  __ := kept
  linked := by
    intro other second
    rw [detach_started]
    by_cases same : second = timer
    case pos =>
      subst same
      have out := kept.not_linked idle other
      simpa [detach,setTimer] using out
    case neg =>
      rw [detach_timer_other same]
      exact kept.linked other second
  attached := by
    intro second started
    by_cases same : second = timer
    case pos =>
      rw [same,detach_started,idle] at started
      cases started
    case neg =>
      rw [detach_timer_other same] at started ⊢
      exact kept.attached second started
  sole := fun other dedicated first second one two =>
    kept.sole other dedicated first second (detach_timerSys one) (detach_timerSys two)
  idle := by
    intro second stopped
    rw [detach_started] at stopped
    exact kept.idle second stopped
  waiting := by
    intro other second started home
    have same : second ≠ timer := by
      rintro rfl
      rw [detach_started,idle] at started
      cases started
    rw [detach_timer_other same] at started home ⊢
    exact kept.waiting other second started home

private theorem alike_destroy : Alike (tctx.destroy timer) (((tctx.timerStop timer).emit (.stopped timer)).detach timer) ∨
    tctx.destroy timer = (tctx.timerStop timer).emit (.stopped timer) := by
  unfold destroy timerDestroy
  dsimp only
  split
  · exact .inr rfl
  next own attached =>
    have alike := (@alike_timerSysDestroy own ((tctx.timerStop timer).detach timer)).emit (.stopped timer)
    exact .inl {alike with}

theorem Kept.destroy (kept : Kept sys late elapsed tctx) :
    Kept sys (late.erase timer) elapsed (tctx.destroy timer) := by
  have stopped : Kept sys (late.erase timer) elapsed ((tctx.timerStop timer).emit (.stopped timer)) :=
    kept.stop forgets_stopped trivial
  rcases @alike_destroy timer tctx with alike | same
  · exact (stopped.detach (timerStop_stopped kept.toLinked)).congr alike
  · rwa [same]

theorem Walking.destroy (walking : Walking sys late rate tctx) (kept : Linked sys late tctx) :
    Walking sys (late.erase timer) rate (tctx.destroy timer) := by
  have stopped : Walking sys (late.erase timer) rate (tctx.timerStop timer) := walking.stop kept
  rcases @alike_destroy timer tctx with alike | same
  · have detached : Walking sys (late.erase timer) rate (((tctx.timerStop timer).emit (.stopped timer)).detach timer) :=
      ⟨stopped.next,stopped.same⟩
    exact detached.congr alike
  · rw [same]
    exact stopped.emit _

end Destroy

section Calls
variable {sys : Nat} {late : List Nat} {elapsed : Int} {rate : UInt32} {tctx : TimerCtx}

theorem Kept.call (kept : Kept sys late elapsed tctx) {request : TimerCall} (granted : request.Granted) :
    ∃ left, left.Sublist late ∧ Kept sys left elapsed (tctx.call request) ∧
      (Walking sys late rate tctx → Walking sys left rate (tctx.call request)) := by
  cases request with
  | start timer ms grants => exact ⟨late,.refl late,kept.start granted,fun walking => walking.start kept.toLinked granted⟩
  | stop timer =>
    exact ⟨late.erase timer,erase_sublist,kept.stop forgets_stopped trivial,fun walking =>
      (walking.stop kept.toLinked).emit _⟩
  | destroy timer => exact ⟨late.erase timer,erase_sublist,kept.destroy,fun walking => walking.destroy kept.toLinked⟩
  | restart timer ms grants =>
    change ∃ left, left.Sublist late ∧ Kept sys left elapsed (tctx.timerRestart timer ms grants).1 ∧
      (Walking sys late rate tctx → Walking sys left rate (tctx.timerRestart timer ms grants).1)
    unfold timerRestart
    dsimp only
    split
    · exact ⟨late,.refl late,kept,id⟩
    · split
      · have stopped : Kept sys (late.erase timer) elapsed (tctx.stop timer) := kept.stop forgets_stopped trivial
        exact ⟨late.erase timer,erase_sublist,stopped.start granted,fun walking =>
          Walking.start ((walking.stop kept.toLinked).emit _) stopped.toLinked granted⟩
      · exact ⟨late,.refl late,kept.start granted,fun walking => walking.start kept.toLinked granted⟩

theorem Kept.calls {todo : List TimerCall} (granted : ∀ request ∈ todo, request.Granted)
    (kept : Kept sys late elapsed tctx) :
    ∃ left, left.Sublist late ∧ Kept sys left elapsed (tctx.calls todo) ∧
      (Walking sys late rate tctx → Walking sys left rate (tctx.calls todo)) := by
  induction todo generalizing late tctx with
  | nil => exact ⟨late,.refl late,kept,id⟩
  | cons request rest ih =>
    obtain ⟨left,fewer,next,walks⟩ := @Kept.call _ _ _ rate _ kept request (granted request mem_cons_self)
    obtain ⟨final,fewest,last,walksOn⟩ := ih (fun request member => granted request (mem_cons_of_mem _ member)) next
    exact ⟨final,fewest.trans fewer,last,fun walking => walksOn (walks walking)⟩

end Calls

end TimerCtx

end Genavb.Common
