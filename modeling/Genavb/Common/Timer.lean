import Genavb.Support.ListWalk
import Mathlib.Data.Int.Init
import Mathlib.Logic.Function.Basic
import Mathlib.Algebra.Group.Int.Defs
import Mathlib.Algebra.Group.Nat.Defs

/-! Software timers (`timer.c`): timers that share the periodic timers of the operating system or have a one-shot timer
of their own. -/
namespace Genavb.Common
open Genavb.Support

structure Timer where
  ms : Int
  created : Bool
  started : Bool
  timerSys : Option Nat
  deriving DecidableEq

/-- A timer of the operating system with the timers linked to it; the entry to process next is `none` at the head. -/
structure TimerSys where
  head : List Nat
  nextToProcess : Option Nat
  ms : UInt32
  typeSys : Bool
  created : Bool
  started : Bool
  users : Nat
  deriving DecidableEq

/-- What happened to timers: `started` with the time asked for and the granularity, `ticked` with the time counted. -/
inductive TimerEvent
  | started (timer sys : Nat) (ms granularity : Nat)
  | stopped (timer : Nat)
  | ticked (sys : Nat) (ms : Int)
  | processed (timer : Nat)
  deriving DecidableEq

structure TimerCtx where
  maxSysTimers : Nat
  numSoftTimers : Nat
  numSysTimers : Nat
  timer : Nat → Timer
  timerSysTable : Nat → TimerSys
  events : List TimerEvent

/-- A call of a timer function; the timers of the operating system are created and started as `created` and `granted`
say. -/
inductive TimerCall
  | start (timer : Nat) (ms : UInt32) (granted : Bool)
  | stop (timer : Nat)
  | restart (timer : Nat) (ms : UInt32) (granted : Bool)
  | destroy (timer : Nat)

namespace TimerCtx

def setTimer (timer : Nat) (value : Timer) (tctx : TimerCtx) : TimerCtx :=
  {tctx with timer := Function.update tctx.timer timer value}

def setSys (sys : Nat) (value : TimerSys) (tctx : TimerCtx) : TimerCtx :=
  {tctx with timerSysTable := Function.update tctx.timerSysTable sys value}

def emit (event : TimerEvent) (tctx : TimerCtx) : TimerCtx := {tctx with events := tctx.events ++ [event]}

section Creation

def timerPoolInit (n : Nat) : TimerCtx where
  maxSysTimers := n
  numSoftTimers := 0
  numSysTimers := 0
  timer := fun _ => ⟨0,false,false,none⟩
  timerSysTable := fun _ => ⟨[],none,0,false,false,false,0⟩
  events := []

def timerSysFind (ms : UInt32) (tctx : TimerCtx) : Option Nat :=
  (List.range tctx.maxSysTimers).find? fun sys =>
    let timerSys := tctx.timerSysTable sys
    timerSys.created && !timerSys.typeSys && timerSys.ms = ms

def addUser (sys : Nat) (tctx : TimerCtx) : TimerCtx :=
  tctx.setSys sys {tctx.timerSysTable sys with users := (tctx.timerSysTable sys).users + 1}

def timerSysNew (typeSys : Bool) (ms : UInt32) (created : Bool) (tctx : TimerCtx) : Option (Nat × TimerCtx) :=
  if tctx.numSysTimers = tctx.maxSysTimers then none
  else match (List.range tctx.maxSysTimers).find? fun sys => !(tctx.timerSysTable sys).created with
    | none => none
    | some sys =>
      if !created then none
      else
        let timerSys := {tctx.timerSysTable sys with
          created := true
          typeSys := typeSys
          started := false
          ms := ms}
        some (sys,addUser sys {tctx.setSys sys timerSys with numSysTimers := tctx.numSysTimers + 1})

def timerSysCreate (typeSys : Bool) (ms : UInt32) (created : Bool) (tctx : TimerCtx) : Option (Nat × TimerCtx) :=
  if typeSys then tctx.timerSysNew typeSys ms created
  else
    let ms := if ms > 100 then 100 else ms
    match tctx.timerSysFind ms with
    | some sys => some (sys,tctx.addUser sys)
    | none => tctx.timerSysNew typeSys ms created

def timerInit (timer : Nat) (typeSys : Bool) (ms : UInt32) (created : Bool) (tctx : TimerCtx) : TimerCtx × Int :=
  match tctx.timerSysCreate typeSys ms created with
  | none => (tctx,-1)
  | some (sys,tctx) =>
    ({tctx.setTimer timer {tctx.timer timer with timerSys := some sys, created := true, started := false} with
      numSoftTimers := tctx.numSoftTimers + 1},0)

def timerSysDestroy (sys : Nat) (tctx : TimerCtx) : TimerCtx :=
  let timerSys := tctx.timerSysTable sys
  let users := timerSys.users - 1
  if users = 0 then
    {tctx.setSys sys {timerSys with users := users, created := false} with numSysTimers := tctx.numSysTimers - 1}
  else tctx.setSys sys {timerSys with users := users}

end Creation

section Running

def timerSysStart (sys : Nat) (granted : Bool) (tctx : TimerCtx) : TimerCtx × Int :=
  let timerSys := tctx.timerSysTable sys
  if timerSys.started then (tctx,0)
  else if granted then (tctx.setSys sys {timerSys with started := true},0)
  else (tctx,-1)

def timerSysStop (sys : Nat) (tctx : TimerCtx) : TimerCtx :=
  let timerSys := tctx.timerSysTable sys
  if timerSys.started && timerSys.head.isEmpty then tctx.setSys sys {timerSys with started := false} else tctx

def granularity (timerSys : TimerSys) : Nat := if timerSys.typeSys then 0 else timerSys.ms.toNat

def timerStart (timer : Nat) (ms : UInt32) (granted : Bool) (tctx : TimerCtx) : TimerCtx × Int :=
  let t := tctx.timer timer
  match t.timerSys with
  | none => (tctx,-1)
  | some sys =>
    if t.started then (tctx,-1)
    else if ms = 0 then (tctx,-1)
    else
      let timerSys := tctx.timerSysTable sys
      let timerSys := {timerSys with
        ms := if timerSys.typeSys then ms else timerSys.ms
        head := timer :: timerSys.head}
      let t := {t with
        ms := ((ms.toNat + granularity timerSys : Nat) : Int).bmod (2^32)
        started := true}
      ((tctx.setSys sys timerSys).setTimer timer t).timerSysStart sys granted

def timerStop (timer : Nat) (tctx : TimerCtx) : TimerCtx :=
  let t := tctx.timer timer
  match t.timerSys with
  | none => tctx
  | some sys =>
    if !t.started then tctx
    else
      let timerSys := tctx.timerSysTable sys
      let next := if timerSys.nextToProcess = some timer then listNext timer timerSys.head else timerSys.nextToProcess
      ((tctx.setSys sys {timerSys with
        nextToProcess := next
        head := timerSys.head.erase timer}).setTimer timer {t with started := false}).timerSysStop sys

def timerIsRunning (timer : Nat) (tctx : TimerCtx) : Int :=
  if (tctx.timer timer).timerSys = none then -1 else if (tctx.timer timer).started then 1 else 0

def timerDestroy (timer : Nat) (tctx : TimerCtx) : TimerCtx × Int :=
  let tctx := tctx.timerStop timer
  match (tctx.timer timer).timerSys with
  | none => (tctx,-1)
  | some sys =>
    let tctx := (tctx.setTimer timer {tctx.timer timer with timerSys := none, created := false}).timerSysDestroy sys
    ({tctx with numSoftTimers := tctx.numSoftTimers - 1},0)

end Running

section Calls

def start (timer : Nat) (ms : UInt32) (granted : Bool) (tctx : TimerCtx) : TimerCtx :=
  let (after,rc) := tctx.timerStart timer ms granted
  match (tctx.timer timer).timerSys with
  | none => after
  | some sys =>
    if rc < 0 then after
    else after.emit (.started timer sys ms.toNat (granularity (tctx.timerSysTable sys)))

def stop (timer : Nat) (tctx : TimerCtx) : TimerCtx := (tctx.timerStop timer).emit (.stopped timer)

/-- `timer_restart`, which ignores whether the start succeeds. -/
def timerRestart (timer : Nat) (ms : UInt32) (granted : Bool) (tctx : TimerCtx) : TimerCtx × Int :=
  let rc := tctx.timerIsRunning timer
  if rc < 0 then (tctx,rc)
  else
    let tctx := if rc ≠ 0 then tctx.stop timer else tctx
    (tctx.start timer ms granted,rc)

def destroy (timer : Nat) (tctx : TimerCtx) : TimerCtx := (tctx.timerDestroy timer).1.emit (.stopped timer)

def call (tctx : TimerCtx) : TimerCall → TimerCtx
  | .start timer ms granted => tctx.start timer ms granted
  | .stop timer => tctx.stop timer
  | .restart timer ms granted => (tctx.timerRestart timer ms granted).1
  | .destroy timer => tctx.destroy timer

def calls (todo : List TimerCall) (tctx : TimerCtx) : TimerCtx := todo.foldl call tctx

end Calls

section Processing
variable (sys : Nat) (count : Nat) (func : Nat → List TimerCall)

/-- What `timer_process` does with an entry: its time goes down, and at its end the callback runs. -/
def timerVisit (timer : Nat) (tctx : TimerCtx) : TimerCtx :=
  let timerSys := tctx.timerSysTable sys
  let tctx := tctx.setSys sys {timerSys with nextToProcess := listNext timer timerSys.head}
  let t := tctx.timer timer
  let ms := (t.ms - timerSys.ms.toNat * count).bmod (2^32)
  let tctx := tctx.setTimer timer {t with ms := ms}
  if ms ≤ 0 then ((tctx.timerStop timer).emit (.processed timer)).calls (func timer) else tctx

/-- The loop of `timer_process` from an entry, or without a result when it does not come to the head. -/
def timerWalk : Nat → Option Nat → TimerCtx → Option TimerCtx
  | _,none,tctx =>
    let timerSys := tctx.timerSysTable sys
    some (tctx.setSys sys {timerSys with nextToProcess := timerSys.head.head?})
  | 0,some _,_ => none
  | fuel + 1,some timer,tctx =>
    let tctx := timerVisit sys count func timer tctx
    timerWalk fuel (tctx.timerSysTable sys).nextToProcess tctx

def timerProcess (tctx : TimerCtx) : Option TimerCtx :=
  let timerSys := tctx.timerSysTable sys
  timerWalk sys count func timerSys.head.length timerSys.head.head? (tctx.emit (.ticked sys (timerSys.ms.toNat * count)))

end Processing

section Failures
variable {timer sys : Nat} {ms : UInt32} {granted : Bool} {tctx : TimerCtx}

/-- A start that fails changes nothing, and an idle timer can be started afterwards. -/
structure Atomic (timer : Nat) (ms : UInt32) (granted : Bool) (tctx : TimerCtx) : Prop where
  unchanged : (tctx.timerStart timer ms granted).2 < 0 → (tctx.timerStart timer ms granted).1 = tctx
  later : (tctx.timerStart timer ms granted).2 < 0 → (tctx.timer timer).timerSys ≠ none →
    (tctx.timer timer).started = false →
      ∀ later : UInt32, later ≠ 0 → ((tctx.timerStart timer ms granted).1.timerStart timer later true).2 = 0

def Refused (timer : Nat) (ms : UInt32) (granted : Bool) (tctx : TimerCtx) : Prop :=
  ∃ sys, (tctx.timer timer).timerSys = some sys ∧ (tctx.timer timer).started = false ∧ ms ≠ 0 ∧
    (tctx.timerSysTable sys).started = false ∧ granted = false

def link (timer sys : Nat) (ms : UInt32) (tctx : TimerCtx) : TimerCtx :=
  (tctx.setSys sys {tctx.timerSysTable sys with
    ms := if (tctx.timerSysTable sys).typeSys then ms else (tctx.timerSysTable sys).ms
    head := timer :: (tctx.timerSysTable sys).head}).setTimer timer {tctx.timer timer with
      ms := ((ms.toNat + granularity (tctx.timerSysTable sys) : Nat) : Int).bmod (2^32)
      started := true}

theorem link_started : ((tctx.link timer sys ms).timer timer).started = true := by
  simp [link,setTimer]

theorem timerStart_eq (attached : (tctx.timer timer).timerSys = some sys) (idle : (tctx.timer timer).started = false)
    (some : ms ≠ 0) : tctx.timerStart timer ms granted = (tctx.link timer sys ms).timerSysStart sys granted := by
  have same : granularity {tctx.timerSysTable sys with
      ms := if (tctx.timerSysTable sys).typeSys then ms else (tctx.timerSysTable sys).ms
      head := timer :: (tctx.timerSysTable sys).head} = granularity (tctx.timerSysTable sys) := by
    unfold granularity
    split <;> rfl
  unfold timerStart link
  dsimp only
  rw [attached]
  dsimp only
  rw [idle,if_neg (by simp),if_neg some,same]

private theorem timerSysStart_cases : (tctx.timerSysStart sys granted).2 = 0 ∨
    (tctx.timerSysTable sys).started = false ∧ granted = false ∧ tctx.timerSysStart sys granted = (tctx,-1) := by
  unfold timerSysStart
  dsimp only
  split
  · exact .inl rfl
  next stopped =>
    split
    · exact .inl rfl
    next refused => exact .inr ⟨by simpa using stopped,by simpa using refused,rfl⟩

theorem timerSysStart_granted : (tctx.timerSysStart sys true).2 = 0 := by
  rcases @timerSysStart_cases sys true tctx with fine | ⟨_,refused,_⟩
  · exact fine
  · cases refused

private theorem link_sys_started : ((tctx.link timer sys ms).timerSysTable sys).started = (tctx.timerSysTable sys).started := by
  simp [link,setTimer,setSys]

theorem timerStart_cases : (tctx.timerStart timer ms granted).2 = 0 ∨
    tctx.timerStart timer ms granted = (tctx,-1) ∧ ((tctx.timer timer).timerSys = none ∨
      (tctx.timer timer).started = true ∨ ms = 0) ∨
    tctx.Refused timer ms granted ∧ (tctx.timerStart timer ms granted).2 = -1 ∧
      ((tctx.timerStart timer ms granted).1.timer timer).started = true := by
  cases attached : (tctx.timer timer).timerSys with
  | none => exact .inr (.inl ⟨by simp [timerStart,attached],.inl rfl⟩)
  | some sys =>
    cases idle : (tctx.timer timer).started with
    | true => exact .inr (.inl ⟨by simp [timerStart,attached,idle],.inr (.inl rfl)⟩)
    | false =>
      by_cases zero : ms = 0
      case pos => exact .inr (.inl ⟨by simp [timerStart,attached,idle,zero],.inr (.inr zero)⟩)
      case neg =>
        rw [timerStart_eq attached idle zero]
        rcases @timerSysStart_cases sys granted (tctx.link timer sys ms) with fine | ⟨stopped,refused,failed⟩
        · exact .inl fine
        · rw [link_sys_started] at stopped
          rw [failed]
          exact .inr (.inr ⟨⟨sys,attached,idle,zero,stopped,refused⟩,rfl,link_started⟩)

end Failures

end TimerCtx

open TimerCtx

/-- A failing start changes nothing exactly if it is not the operating system that refuses. -/
theorem timerStart_atomic (timer : Nat) (ms : UInt32) (granted : Bool) (tctx : TimerCtx) :
    tctx.Atomic timer ms granted ↔ ¬tctx.Refused timer ms granted := by
  rcases @timerStart_cases timer ms granted tctx with fine | ⟨failed,why⟩ | ⟨refused,failed,started⟩
  · constructor
    · rintro - ⟨sys,attached,idle,some,stopped,refused⟩
      rw [timerStart_eq attached idle some,timerSysStart,link_sys_started,stopped,
        refused] at fine
      cases fine
    · intro _
      refine ⟨fun negative => ?_,fun negative => ?_⟩
      · rw [fine] at negative
        cases negative
      · rw [fine] at negative
        cases negative
  · constructor
    · rintro - ⟨sys,attached,idle,some,_⟩
      rcases why with none | running | zero
      · rw [none] at attached
        cases attached
      · rw [running] at idle
        cases idle
      · exact some zero
    · intro _
      refine ⟨fun _ => by rw [failed],fun _ attached idle later some => ?_⟩
      obtain ⟨sys,attached⟩ := Option.ne_none_iff_exists'.mp attached
      rw [failed,timerStart_eq attached idle some]
      exact timerSysStart_granted
  · constructor
    · intro atomic
      obtain ⟨sys,_,idle,_⟩ := refused
      rw [atomic.unchanged (by rw [failed]; decide),idle] at started
      cases started
    · intro fine
      exact absurd refused fine

/-- A timer that the operating system does not start is linked, and cannot be started any more. -/
theorem refused_start_stays : ¬∀ (timer : Nat) (ms : UInt32) (granted : Bool) (tctx : TimerCtx),
    tctx.Atomic timer ms granted := by
  intro atomic
  have later := (atomic 0 10 false ((timerPoolInit 1).timerInit 0 false 10 true).1).later (by decide)
    (by decide) (by decide) 10 (by decide)
  revert later
  decide

end Genavb.Common
