import Genavb.Support.Run
import Mathlib.Algebra.Group.Int.Defs
import Mathlib.Data.List.Chain
import Mathlib.Logic.Function.Basic

/-! Media clock recovery (`media_clock_rec`): the timestamps of a stream are measured before they are handed to the
hardware. A division by zero has no result. -/
namespace Genavb.Avtp
open Genavb.Support List

inductive MediaClockRecState
  | INIT
  | MEASUREMENT
  | READY
  | RUNNING
  | RUNNING_LOCKED
  | ERR
  deriving DecidableEq

inductive OsMediaClockRecState
  | error
  | running
  | runningLocked
  deriving DecidableEq

/-- The 32 bits of a value, and these as an `int`. -/
def bits (n : Int) : Nat := (n % 4294967296).toNat

def asInt (n : Int) : Int := (n + 2147483648) % 4294967296 - 2147483648

/-- The fields of `struct media_clock_rec`. Since the measurement began `measured` are its periods, `handed` the
timestamps for the driver after it and `written` those in the array; `started` are the two that the driver was started
with, until it is stopped. `localTime` is missing while the rest of a call is left out. -/
structure MediaClockRec where
  state : MediaClockRecState
  running : Bool
  array : Nat → Nat
  arraySize : Nat
  tsPeriod : Nat
  writeIdx : Nat
  cleanIdx : Nat
  delay : Nat
  periodMean : Nat
  periodMin : Nat
  periodMax : Nat
  offsetMin : Int
  offsetMax : Int
  maxOffsetVal : Int
  lastTs : Nat
  ts : Nat → Nat
  ready : Nat
  nbMeas : Nat
  nbCleanTotal : Nat
  nbTsTotal : Nat
  nbPending : Nat
  localTime : Option Nat
  measured : List Nat
  handed : List Nat
  written : List Nat
  started : Option (Nat × Nat)

/-- What the driver answers while a timestamp is gone through, and the times read after its flags. -/
structure RecTimestamp where
  tsNsec : Nat
  restart : Bool
  uncertain : Bool
  restartTime : Option Nat
  uncertainTime : Option Nat
  stopped : Bool
  reset : Bool
  started : Bool
  clean : OsMediaClockRecState
  nbClean : Nat

def tsWa (ts : Nat) : Nat := if ts < 8 then 8 else if 4294967287 < ts then 4294967287 else ts

def periodError (p1 p2 : Nat) : Bool := p1 / 32 < (asInt (p1 - p2)).natAbs

def tsOffset (period : Nat) : Nat :=
  bits (2 * period + bits (5000000 + period - 1) / period * period)

namespace MediaClockRec

def writeTs (ts : Nat) (clock : MediaClockRec) : MediaClockRec :=
  let next := (clock.writeIdx + 1) &&& (clock.arraySize - 1)
  {clock with
    array := Function.update (Function.update clock.array clock.writeIdx (tsWa ts)) next 0
    writeIdx := next
    nbTsTotal := bits (clock.nbTsTotal + 1)
    nbPending := bits (clock.nbPending + 1)
    handed := clock.handed ++ [ts]
    written := clock.written ++ [tsWa ts]}

def clean (ts : RecTimestamp) (clock : MediaClockRec) : MediaClockRec × OsMediaClockRecState :=
  if ts.clean = .error then (clock,.error)
  else
    let clock := {clock with
      nbCleanTotal := bits (clock.nbCleanTotal + ts.nbClean)
      nbPending := bits (clock.nbPending - ts.nbClean)
      cleanIdx := (clock.cleanIdx + ts.nbClean) &&& (clock.arraySize - 1)}
    (clock,if clock.arraySize ≤ clock.nbPending ∨ clock.nbPending = 0 then .error else ts.clean)

def refuse (clock : MediaClockRec) : MediaClockRec := {clock with state := .INIT}

def recInit (ts : RecTimestamp) (localTime : Nat) (clock : MediaClockRec) : MediaClockRec :=
  let offset := asInt (ts.tsNsec - localTime)
  let period := bits (ts.tsNsec - clock.lastTs)
  let clock := {clock with
    maxOffsetVal := min (bits (bits (3 * clock.arraySize) / 4 * period)) 100000000
    delay := tsOffset clock.tsPeriod
    lastTs := ts.tsNsec}
  if asInt (offset + clock.delay) < 0 then clock
  else
    let clock := {clock with
      state := .MEASUREMENT, periodMean := 0, offsetMax := offset, offsetMin := offset, writeIdx := 0, cleanIdx := 0
      nbCleanTotal := 0, nbMeas := 0, nbTsTotal := 0, nbPending := 0, measured := [], handed := [], written := []}
    if clock.running then
      if ts.stopped && ts.reset then {clock with running := false, started := none}
      else {clock with state := .ERR}
    else clock

def note (offset : Int) (period : Nat) (clock : MediaClockRec) : MediaClockRec :=
  let first := clock.nbMeas = 0
  {clock with
    periodMean := if first then period else bits (clock.periodMean + period) / 2
    periodMin := if first then period else min clock.periodMin period
    periodMax := if first then period else max clock.periodMax period
    offsetMin := min clock.offsetMin offset
    offsetMax := max clock.offsetMax offset
    nbMeas := clock.nbMeas + 1
    measured := clock.measured ++ [period]}

def ahead (ts : RecTimestamp) (localTime : Nat) (clock : MediaClockRec) : Int :=
  asInt (ts.tsNsec + clock.delay - localTime)

def settle (lastTs : Nat) (clock : MediaClockRec) : Option MediaClockRec :=
  if periodError clock.periodMin clock.periodMax then some clock.refuse
  else if clock.periodMean = 0 then none
  else
    let delay := tsOffset clock.periodMean
    let clock := {clock with delay := delay,offsetMax := asInt (clock.offsetMax + delay),offsetMin := asInt (clock.offsetMin + delay)}
    if clock.offsetMax < 0 ∨ clock.offsetMin < 0 then some clock.refuse
    else if bits (3 * clock.arraySize) / 4 < clock.offsetMax.toNat / clock.periodMean then some clock.refuse
    else if periodError clock.tsPeriod clock.periodMean then some clock.refuse
    else some {clock with state := .READY,ready := 0,lastTs := lastTs}

def recMeasurement (ts : RecTimestamp) (localTime : Nat) (clock : MediaClockRec) : Option MediaClockRec :=
  let period := bits (ts.tsNsec - clock.lastTs)
  let ahead := clock.ahead ts localTime
  if ahead < 0 ∨ clock.maxOffsetVal < ahead then some clock.refuse
  else if 20000000 < period then some clock.refuse
  else
    let clock := clock.note (asInt (ts.tsNsec - localTime)) period
    if clock.nbMeas < 100 then some {clock with lastTs := ts.tsNsec} else clock.settle ts.tsNsec

def recReady (ts : RecTimestamp) (clock : MediaClockRec) : MediaClockRec :=
  if periodError clock.tsPeriod (bits (ts.tsNsec - clock.lastTs)) then clock.refuse
  else
    let value := bits (ts.tsNsec + clock.delay)
    let clock := {clock with lastTs := ts.tsNsec}
    if clock.ready < 2 then
      {clock with
        ts := Function.update clock.ts clock.ready value
        handed := clock.handed ++ [value]
        ready := clock.ready + 1}
    else if clock.ready < 4 then
      let clock := clock.writeTs value
      if clock.ready = 3 then
        if ts.started then
          {clock with
            state := .RUNNING
            running := true
            started := some (tsWa (clock.ts 0),tsWa (clock.ts 1))
            ready := clock.ready + 1}
        else {clock with state := .ERR}
      else {clock with ready := clock.ready + 1}
    else {clock with ready := clock.ready + 1}

def lock (ts : RecTimestamp) (clock : MediaClockRec) : MediaClockRec :=
  let (clock,rc) := clock.clean ts
  if rc = .runningLocked ∧ clock.state = .RUNNING then {clock with state := .RUNNING_LOCKED}
  else if rc = .error then {clock with state := .INIT}
  else clock

def recRunning (ts : RecTimestamp) (localTime : Nat) (clock : MediaClockRec) : MediaClockRec :=
  if periodError clock.tsPeriod (bits (ts.tsNsec - clock.lastTs)) then clock.refuse
  else if clock.ahead ts localTime < 0 ∨ clock.maxOffsetVal < clock.ahead ts localTime then clock.refuse
  else
    let clock := {clock.writeTs (bits (ts.tsNsec + clock.delay)) with lastTs := ts.tsNsec}
    if clock.writeIdx % 32 = 0 then clock.lock ts else clock

def recSwitch (ts : RecTimestamp) (localTime : Nat) (clock : MediaClockRec) : Option MediaClockRec :=
  match clock.state with
  | .INIT => some (clock.recInit ts localTime)
  | .MEASUREMENT => clock.recMeasurement ts localTime
  | .READY => some (clock.recReady ts)
  | .RUNNING | .RUNNING_LOCKED => some (clock.recRunning ts localTime)
  | .ERR => some {clock with lastTs := ts.tsNsec}

/-- A turn of the loop: both flags read the time again, and a time that cannot be read ends the call. -/
def recTimestamp (ts : RecTimestamp) (clock : MediaClockRec) : Option MediaClockRec :=
  match clock.localTime with
  | none => some clock
  | some localTime =>
    let clock := if ts.restart then {clock with state := .INIT,localTime := ts.restartTime} else clock
    match if ts.restart then ts.restartTime else some localTime with
    | none => some clock
    | some localTime =>
      if ts.uncertain then some {clock with state := .INIT,localTime := ts.uncertainTime}
      else clock.recSwitch ts localTime

end MediaClockRec

/-- A call of `media_clock_rec` with the time that it reads, and each of its timestamps. -/
inductive RecInput
  | call (localTime : Option Nat)
  | timestamp (ts : RecTimestamp)

def recStep (clock : MediaClockRec) : RecInput → Option MediaClockRec
  | .call localTime => some {clock with localTime := if clock.state = .ERR ∨ clock.tsPeriod = 0 then none else localTime}
  | .timestamp ts => clock.recTimestamp ts

def MediaClockRec.opened (arraySize tsPeriod : Nat) : MediaClockRec where
  state := .INIT
  running := false
  array := fun _ => 0
  arraySize := arraySize
  tsPeriod := tsPeriod
  writeIdx := 0
  cleanIdx := 0
  delay := 0
  periodMean := 0
  periodMin := 0
  periodMax := 0
  offsetMin := 0
  offsetMax := 0
  maxOffsetVal := 0
  lastTs := 0
  ts := fun _ => 0
  ready := 0
  nbMeas := 0
  nbCleanTotal := 0
  nbTsTotal := 0
  nbPending := 0
  localTime := none
  measured := []
  handed := []
  written := []
  started := none

/-- The smallest and the largest period of a measurement, and a mean between them. -/
structure Measured (clock : MediaClockRec) : Prop where
  bounded : ∀ period ∈ clock.measured, period ≤ 20000000 ∧ clock.periodMin ≤ period ∧ period ≤ clock.periodMax
  reached : clock.measured ≠ [] → clock.periodMin ∈ clock.measured ∧ clock.periodMax ∈ clock.measured
  mean : clock.measured ≠ [] → clock.periodMin ≤ clock.periodMean ∧ clock.periodMean ≤ clock.periodMax

/-- The timestamps handed to the driver follow each other with the nominal period, up to a 32nd of it. -/
def InStep (tsPeriod : Nat) (handed : List Nat) : Prop :=
  handed.IsChain fun (first second : Nat) => periodError tsPeriod (bits (second - first)) = false

structure Steady (clock : MediaClockRec) : Prop extends Measured clock where
  full : clock.measured.length = 100
  close : periodError clock.periodMin clock.periodMax = false
  nominal : periodError clock.tsPeriod clock.periodMean = false
  delayed : clock.delay = tsOffset clock.periodMean
  inStep : InStep clock.tsPeriod clock.handed
  last : ∀ value ∈ clock.handed.getLast?, value = bits (clock.lastTs + clock.delay)

/-- The driver is to be started with the first two timestamps, and the others go into the array. -/
structure Delivered (clock : MediaClockRec) : Prop where
  first : clock.handed.take 2 = [clock.ts 0,clock.ts 1].take clock.handed.length
  written : clock.written = (clock.handed.drop 2).map tsWa

structure Playing (clock : MediaClockRec) : Prop extends Delivered clock where
  many : 4 ≤ clock.handed.length
  started : clock.started = some (tsWa (clock.ts 0),tsWa (clock.ts 1))

def RecRight (clock : MediaClockRec) : Prop :=
  match clock.state with
  | .MEASUREMENT =>
    Measured clock ∧ clock.nbMeas = clock.measured.length ∧ clock.measured.length < 100 ∧
      clock.handed = [] ∧ clock.written = []
  | .READY => Steady clock ∧ clock.handed.length = clock.ready ∧ clock.ready < 4 ∧ Delivered clock
  | .RUNNING | .RUNNING_LOCKED => Steady clock ∧ Playing clock
  | _ => True

section Measurements
variable {clock : MediaClockRec} {period : Nat}

theorem Measured.note (right : Measured clock) (count : clock.nbMeas = clock.measured.length) (offset : Int)
    (small : period ≤ 20000000) : Measured (clock.note offset period) := by
  unfold MediaClockRec.note
  cases some : clock.measured with
  | nil =>
    have first : clock.nbMeas = 0 := by rw [count,some,length_nil]
    simp only [first,if_true,nil_append]
    constructor <;> simp [small]
  | cons head others =>
    have more : clock.measured ≠ [] := by rw [some]; exact nofun
    have first : ¬ clock.nbMeas = 0 := by rw [count,some]; exact Nat.succ_ne_zero _
    obtain ⟨least,most⟩ := right.reached more
    have below := (right.bounded _ most).1
    have mean := right.mean more
    rw [← some]
    simp only [if_neg first]
    refine ⟨?_,?_,?_⟩
    · intro each member
      rcases mem_append.mp member with old | new
      · have bounds := right.bounded each old
        dsimp only
        omega
      · obtain rfl := mem_singleton.mp new
        exact ⟨small,Nat.min_le_right ..,Nat.le_max_right ..⟩
    · intro _
      constructor
      · rcases Nat.le_total clock.periodMin period with old | new
        · rw [Nat.min_eq_left old]
          exact mem_append_left _ least
        · rw [Nat.min_eq_right new]
          exact mem_append_right _ (mem_singleton_self _)
      · rcases Nat.le_total clock.periodMax period with new | old
        · rw [Nat.max_eq_right new]
          exact mem_append_right _ (mem_singleton_self _)
        · rw [Nat.max_eq_left old]
          exact mem_append_left _ most
    · intro _
      unfold bits
      dsimp only
      omega

private theorem periodError_small {p1 p2 : Nat} (first : p1 ≤ 20000000) (second : p2 ≤ 20000000) :
    periodError p1 p2 = false ↔ p1 ≤ p2 + p1 / 32 ∧ p2 ≤ p1 + p1 / 32 := by
  unfold periodError asInt
  rw [decide_eq_false_iff_not]
  omega

theorem Measured.zero (right : Measured clock) (some : clock.measured ≠ [])
    (close : periodError clock.periodMin clock.periodMax = false) :
    clock.periodMean = 0 ↔ ∀ period ∈ clock.measured, period = 0 := by
  obtain ⟨least,most⟩ := right.reached some
  have mean := right.mean some
  have near := (periodError_small (right.bounded _ least).1 (right.bounded _ most).1).mp close
  constructor
  · intro zero period member
    have bounds := right.bounded period member
    omega
  · intro zero
    have max := zero _ most
    omega

end Measurements

section Steps
variable {clock : MediaClockRec} {ts : RecTimestamp} {localTime : Nat}

structure Handed (ts : Nat) (clock next : MediaClockRec) : Prop where
  measured : next.measured = clock.measured
  min : next.periodMin = clock.periodMin
  max : next.periodMax = clock.periodMax
  mean : next.periodMean = clock.periodMean
  period : next.tsPeriod = clock.tsPeriod
  delay : next.delay = clock.delay
  last : next.lastTs = ts
  handed : next.handed = clock.handed ++ [bits (ts + clock.delay)]

theorem Steady.hand (steady : Steady clock) {ts : Nat} {next : MediaClockRec} (handed : Handed ts clock next)
    (fine : periodError clock.tsPeriod (bits (ts - clock.lastTs)) = false) : Steady next where
  bounded := by
    rw [handed.measured,handed.min,handed.max]
    exact steady.bounded
  reached := by
    rw [handed.measured,handed.min,handed.max]
    exact steady.reached
  mean := by
    rw [handed.measured,handed.min,handed.max,handed.mean]
    exact steady.mean
  full := handed.measured ▸ steady.full
  close := by
    rw [handed.min,handed.max]
    exact steady.close
  nominal := by
    rw [handed.period,handed.mean]
    exact steady.nominal
  delayed := by
    rw [handed.delay,handed.mean]
    exact steady.delayed
  inStep := by
    rw [handed.period,handed.handed]
    refine isChain_append.mpr ⟨steady.inStep,.singleton _,?_⟩
    intro before last after head
    obtain rfl := steady.last before last
    obtain rfl := Option.some.inj head
    rw [← fine]
    congr 1
    unfold bits
    omega
  last := by
    rw [handed.handed,handed.last,handed.delay]
    intro value last
    rw [List.getLast?_append,List.getLast?_singleton] at last
    exact (Option.some.inj last).symm

theorem Delivered.keep (delivered : Delivered clock) (few : clock.handed.length < 2) (value : Nat) {next : MediaClockRec}
    (handed : next.handed = clock.handed ++ [value]) (kept : next.ts = Function.update clock.ts clock.handed.length value)
    (written : next.written = clock.written) : Delivered next := by
  have short : (clock.handed ++ [value]).drop 2 = [] := drop_eq_nil_of_le (by rw [length_append,length_singleton]; omega)
  refine ⟨?_,?_⟩
  · have first := delivered.first
    rw [handed,kept]
    cases some : clock.handed with
    | nil => rfl
    | cons head rest =>
      rw [some] at first few
      obtain rfl : rest = [] := eq_nil_of_length_eq_zero (by rw [length_cons] at few; omega)
      obtain rfl := (cons.inj first).1
      rfl
  · rw [written,handed,short,delivered.written,drop_eq_nil_of_le (Nat.le_of_lt few)]

theorem Delivered.write (delivered : Delivered clock) (enough : 2 ≤ clock.handed.length) (value : Nat)
    {next : MediaClockRec} (handed : next.handed = clock.handed ++ [value]) (kept : next.ts = clock.ts)
    (written : next.written = clock.written ++ [tsWa value]) : Delivered next := by
  have whole (n : Nat) (more : 2 ≤ n) : [clock.ts 0,clock.ts 1].take n = [clock.ts 0,clock.ts 1] := take_of_length_le more
  refine ⟨?_,?_⟩
  · rw [handed,kept,take_append_of_le_length enough,delivered.first,whole _ enough,length_append,
      whole _ (Nat.le_add_right_of_le enough)]
  · rw [written,handed,drop_append_of_le_length enough,map_append,delivered.written]
    rfl

theorem recReady_right (steady : Steady clock) (count : clock.handed.length = clock.ready) (early : clock.ready < 4)
    (delivered : Delivered clock) (state : clock.state = .READY) : RecRight (clock.recReady ts) := by
  have longer (value : Nat) : (clock.handed ++ [value]).length = clock.ready + 1 := by
    rw [length_append,count,length_singleton]
  unfold MediaClockRec.recReady
  split
  · trivial
  next fine =>
    rw [Bool.not_eq_true] at fine
    dsimp only
    split
    next few =>
      rw [state]
      exact ⟨steady.hand ⟨rfl,rfl,rfl,rfl,rfl,rfl,rfl,rfl⟩ fine,longer _,
        Nat.lt_of_lt_of_le (Nat.succ_lt_succ few) (by decide),delivered.keep (count ▸ few) _ rfl (by rw [count]) rfl⟩
    next enough =>
      have more : 2 ≤ clock.handed.length := count ▸ Nat.not_lt.mp enough
      unfold MediaClockRec.writeTs
      split
      next third =>
        split
        · refine ⟨steady.hand ⟨rfl,rfl,rfl,rfl,rfl,rfl,rfl,rfl⟩ fine,delivered.write more _ rfl rfl rfl,?_,rfl⟩
          rw [longer,third]
        · trivial
      next second =>
        rw [state]
        exact ⟨steady.hand ⟨rfl,rfl,rfl,rfl,rfl,rfl,rfl,rfl⟩ fine,longer _,
          Nat.succ_lt_succ (Nat.lt_of_le_of_ne (Nat.le_of_lt_succ early) second),delivered.write more _ rfl rfl rfl⟩

theorem Steady.running (steady : Steady clock) (playing : Playing clock)
    (state : clock.state = .RUNNING ∨ clock.state = .RUNNING_LOCKED) : RecRight clock := by
  unfold RecRight
  rcases state with state | state <;> rw [state] <;> exact ⟨steady,playing⟩

theorem Steady.alike (steady : Steady clock) (state : MediaClockRecState) (total pending place : Nat) (time : Option Nat) :
    Steady {clock with
      state := state,nbCleanTotal := total,nbPending := pending,cleanIdx := place,localTime := time} :=
  ⟨{steady with},steady.full,steady.close,steady.nominal,steady.delayed,steady.inStep,
    steady.last⟩

theorem Playing.alike (playing : Playing clock) (state : MediaClockRecState) (total pending place : Nat)
    (time : Option Nat) :
    Playing {clock with
      state := state,nbCleanTotal := total,nbPending := pending,cleanIdx := place,localTime := time} :=
  ⟨⟨playing.first,playing.written⟩,playing.many,playing.started⟩

theorem lock_right (steady : Steady clock) (playing : Playing clock)
    (state : clock.state = .RUNNING ∨ clock.state = .RUNNING_LOCKED) : RecRight (clock.lock ts) := by
  unfold MediaClockRec.lock MediaClockRec.clean
  split
  next _ found =>
    split at found
    next failed =>
      obtain ⟨rfl,rfl⟩ := Prod.mk.inj found
      trivial
    next cleaned =>
      obtain ⟨rfl,_⟩ := Prod.mk.inj found
      split
      · exact ⟨steady.alike _ _ _ _ _,playing.alike _ _ _ _ _⟩
      · split
        · trivial
        · exact (steady.alike _ _ _ _ _).running (playing.alike _ _ _ _ _) state

theorem Playing.write (playing : Playing clock) (value last : Nat) :
    Playing {clock.writeTs value with lastTs := last} where
  toDelivered := playing.toDelivered.write ((by decide : 2 ≤ 4).trans playing.many) value rfl rfl rfl
  many := by
    unfold MediaClockRec.writeTs
    rw [length_append]
    exact Nat.le_add_right_of_le playing.many
  started := playing.started

private theorem recRunning_right (steady : Steady clock) (playing : Playing clock)
    (state : clock.state = .RUNNING ∨ clock.state = .RUNNING_LOCKED) : RecRight (clock.recRunning ts localTime) := by
  unfold MediaClockRec.recRunning
  split
  · trivial
  next fine =>
    rw [Bool.not_eq_true] at fine
    split
    · trivial
    · dsimp only
      split
      · exact lock_right (steady.hand ⟨rfl,rfl,rfl,rfl,rfl,rfl,rfl,rfl⟩ fine) (playing.write _ _) state
      · exact Steady.running (steady.hand ⟨rfl,rfl,rfl,rfl,rfl,rfl,rfl,rfl⟩ fine) (playing.write _ _) state

theorem settle_right (right : Measured clock) (full : clock.measured.length = 100) (fresh : clock.handed = [])
    (unwritten : clock.written = []) {last : Nat} {next : MediaClockRec} (settled : clock.settle last = some next) : RecRight next := by
  unfold MediaClockRec.settle at settled
  split at settled
  · obtain rfl := Option.some.inj settled
    trivial
  next close =>
    split at settled
    · exact nomatch settled
    · dsimp only at settled
      split at settled
      · obtain rfl := Option.some.inj settled
        trivial
      · split at settled
        · obtain rfl := Option.some.inj settled
          trivial
        · split at settled
          · obtain rfl := Option.some.inj settled
            trivial
          next nominal =>
            obtain rfl := Option.some.inj settled
            rw [Bool.not_eq_true] at close nominal
            refine ⟨⟨{right with},full,close,nominal,rfl,?_,?_⟩,?_,Nat.zero_lt_succ 3,?_,?_⟩
            · dsimp only
              rw [fresh]
              exact .nil
            · dsimp only
              rw [fresh]
              exact nofun
            · dsimp only
              rw [fresh,length_nil]
            · dsimp only
              rw [fresh]
              rfl
            · dsimp only
              rw [fresh,unwritten]
              rfl

theorem settle_none (right : Measured clock) (full : clock.measured.length = 100) (last : Nat) :
    clock.settle last = none ↔ ∀ period ∈ clock.measured, period = 0 := by
  have some : clock.measured ≠ [] := by
    intro empty
    rw [empty] at full
    exact nomatch full
  obtain ⟨least,most⟩ := right.reached some
  unfold MediaClockRec.settle
  split
  next wide =>
    constructor
    · exact nofun
    · intro zero
      rw [zero _ least,zero _ most] at wide
      exact absurd wide (by decide)
  next close =>
    rw [Bool.not_eq_true] at close
    rw [← right.zero some close]
    split
    next zero => exact iff_of_true rfl zero
    next mean =>
      refine iff_of_false ?_ mean
      dsimp only
      split
      · exact nofun
      · split
        · exact nofun
        · split <;> exact nofun

theorem recMeasurement_right (right : Measured clock) (count : clock.nbMeas = clock.measured.length)
    (few : clock.measured.length < 100) (fresh : clock.handed = []) (unwritten : clock.written = [])
    (state : clock.state = .MEASUREMENT) {next : MediaClockRec} (stepped : clock.recMeasurement ts localTime = some next) : RecRight next := by
  unfold MediaClockRec.recMeasurement at stepped
  dsimp only at stepped
  split at stepped
  · obtain rfl := Option.some.inj stepped
    trivial
  · split at stepped
    · obtain rfl := Option.some.inj stepped
      trivial
    next small =>
      have noted := right.note count (asInt (ts.tsNsec - localTime)) (Nat.not_lt.mp small)
      have longer : (clock.note (asInt (ts.tsNsec - localTime)) (bits (ts.tsNsec - clock.lastTs))).measured.length =
          clock.measured.length + 1 := length_append
      have counted : (clock.note (asInt (ts.tsNsec - localTime)) (bits (ts.tsNsec - clock.lastTs))).nbMeas =
          clock.measured.length + 1 := congrArg (· + 1) count
      rw [counted] at stepped
      split at stepped
      next more =>
        obtain rfl := Option.some.inj stepped
        dsimp only [MediaClockRec.note]
        rw [state]
        exact ⟨{noted with},longer.symm,longer ▸ more,fresh,unwritten⟩
      next enough => exact settle_right noted (by omega) fresh unwritten stepped

theorem recInit_right (idle : clock.state = .INIT) : RecRight (clock.recInit ts localTime) := by
  unfold MediaClockRec.recInit
  dsimp only
  split
  · unfold RecRight
    rw [idle]
    trivial
  · split
    · split
      · exact ⟨⟨nofun,nofun,nofun⟩,rfl,Nat.zero_lt_succ 99,rfl,rfl⟩
      · trivial
    · exact ⟨⟨nofun,nofun,nofun⟩,rfl,Nat.zero_lt_succ 99,rfl,rfl⟩

private theorem recSwitch_right (right : RecRight clock) {next : MediaClockRec}
    (stepped : clock.recSwitch ts localTime = some next) : RecRight next := by
  unfold MediaClockRec.recSwitch at stepped
  unfold RecRight at right
  cases state : clock.state <;> rw [state] at stepped right
  case INIT =>
    obtain rfl := Option.some.inj stepped
    exact recInit_right state
  case MEASUREMENT =>
    obtain ⟨measured,count,few,fresh,unwritten⟩ := right
    exact recMeasurement_right measured count few fresh unwritten state stepped
  case READY =>
    obtain rfl := Option.some.inj stepped
    exact recReady_right right.1 right.2.1 right.2.2.1 right.2.2.2 state
  case RUNNING =>
    obtain rfl := Option.some.inj stepped
    exact recRunning_right right.1 right.2 (.inl state)
  case RUNNING_LOCKED =>
    obtain rfl := Option.some.inj stepped
    exact recRunning_right right.1 right.2 (.inr state)
  case ERR =>
    obtain rfl := Option.some.inj stepped
    trivial

theorem RecRight.timed (right : RecRight clock) (time : Option Nat) : RecRight {clock with localTime := time} := by
  unfold RecRight at right ⊢
  cases state : clock.state <;> rw [state] at right
  case MEASUREMENT => exact ⟨{right.1 with},right.2⟩
  case READY =>
    exact ⟨right.1.alike _ _ _ _ time,right.2.1,right.2.2.1,right.2.2.2.first,right.2.2.2.written⟩
  case RUNNING | RUNNING_LOCKED => exact ⟨right.1.alike _ _ _ _ time,right.2.alike _ _ _ _ time⟩
  case INIT | ERR => trivial

theorem recTimestamp_cases {next : MediaClockRec} (stepped : recStep clock (.timestamp ts) = some next) :
    (clock.localTime = none ∧ next = clock) ∨ (∃ time, next = {clock with state := .INIT,localTime := time}) ∨
      ∃ begun localTime, (begun = clock ∨ ∃ time, begun = {clock with state := .INIT,localTime := time}) ∧
        begun.localTime = some localTime ∧ begun.recSwitch ts localTime = some next := by
  unfold recStep MediaClockRec.recTimestamp at stepped
  cases time : clock.localTime with
  | none =>
    rw [time] at stepped
    exact .inl ⟨rfl,(Option.some.inj stepped).symm⟩
  | some localTime =>
    rw [time] at stepped
    dsimp only at stepped
    right
    cases restarts : ts.restart with
    | false =>
      rw [restarts,if_neg Bool.false_ne_true,if_neg Bool.false_ne_true] at stepped
      dsimp only at stepped
      split at stepped
      · exact .inl ⟨_,(Option.some.inj stepped).symm⟩
      · exact .inr ⟨clock,localTime,.inl rfl,time,stepped⟩
    | true =>
      rw [restarts,if_pos rfl,if_pos rfl] at stepped
      split at stepped
      · exact .inl ⟨_,(Option.some.inj stepped).symm⟩
      next again =>
        split at stepped
        · exact .inl ⟨_,(Option.some.inj stepped).symm⟩
        · exact .inr ⟨_,_,.inr ⟨_,rfl⟩,again,stepped⟩

theorem recStep_right {input : RecInput} (right : RecRight clock) {next : MediaClockRec}
    (stepped : recStep clock input = some next) : RecRight next := by
  cases input with
  | call time =>
    obtain rfl := Option.some.inj stepped
    exact right.timed _
  | timestamp ts =>
    obtain ⟨_,rfl⟩ | ⟨_,rfl⟩ | ⟨_,_,rfl | ⟨_,rfl⟩,_,switched⟩ := recTimestamp_cases stepped
    · exact right
    · trivial
    · exact recSwitch_right right switched
    · exact recSwitch_right (by exact trivial) switched

/-- A timestamp that repeats the one before it behind 99 periods of 0 ends the measurement with a mean of 0. -/
def Divides (clock : MediaClockRec) : RecInput → Prop
  | .call _ => False
  | .timestamp ts => ts.restart = false ∧ ts.uncertain = false ∧ clock.state = .MEASUREMENT ∧
      clock.measured = List.replicate 99 0 ∧ bits (ts.tsNsec - clock.lastTs) = 0 ∧
      ∃ localTime, clock.localTime = some localTime ∧ 0 ≤ clock.ahead ts localTime ∧
        clock.ahead ts localTime ≤ clock.maxOffsetVal

theorem recMeasurement_none (right : Measured clock) (count : clock.nbMeas = clock.measured.length)
    (few : clock.measured.length < 100) :
    clock.recMeasurement ts localTime = none ↔
      clock.measured = List.replicate 99 0 ∧ bits (ts.tsNsec - clock.lastTs) = 0 ∧
        0 ≤ clock.ahead ts localTime ∧ clock.ahead ts localTime ≤ clock.maxOffsetVal := by
  unfold MediaClockRec.recMeasurement
  dsimp only
  split
  next out =>
    refine iff_of_false nofun ?_
    rintro ⟨_,_,low,high⟩
    omega
  next inside =>
    split
    next large =>
      refine iff_of_false nofun ?_
      rintro ⟨_,zero,_⟩
      rw [zero] at large
      exact absurd large (by decide)
    next small =>
      have noted := right.note count (asInt (ts.tsNsec - localTime)) (Nat.not_lt.mp small)
      have counted : (clock.note (asInt (ts.tsNsec - localTime)) (bits (ts.tsNsec - clock.lastTs))).nbMeas =
          clock.measured.length + 1 := congrArg (· + 1) count
      rw [counted]
      split
      next more =>
        refine iff_of_false nofun ?_
        rintro ⟨full,_⟩
        rw [full,length_replicate] at more
        exact absurd more (by decide)
      next enough =>
        have whole : clock.measured.length = 99 := by omega
        have full : (clock.measured ++ [bits (ts.tsNsec - clock.lastTs)]).length = 100 := by
          rw [length_append,whole,length_singleton]
        rw [settle_none noted full]
        constructor
        · intro zero
          refine ⟨eq_replicate_iff.mpr ⟨whole,fun period member => zero period (mem_append_left _ member)⟩,
            zero _ (mem_append_right _ (mem_singleton_self _)),by omega,by omega⟩
        · rintro ⟨zeros,zero,_⟩ period member
          rcases mem_append.mp member with old | new
          · exact (eq_replicate_iff.mp zeros).2 period old
          · rw [mem_singleton.mp new]
            exact zero

theorem recStep_none {input : RecInput} (right : RecRight clock) : recStep clock input = none ↔ Divides clock input := by
  cases input with
  | call time => exact iff_of_false nofun nofun
  | timestamp ts =>
    unfold recStep MediaClockRec.recTimestamp Divides
    cases time : clock.localTime with
    | none =>
      refine iff_of_false nofun ?_
      rintro ⟨_,_,_,_,_,localTime,same,_⟩
      exact nomatch same
    | some localTime =>
      dsimp only
      cases restarts : ts.restart with
      | true =>
        refine iff_of_false ?_ nofun
        split
        · exact nofun
        · split <;> exact nofun
      | false =>
        cases doubtful : ts.uncertain with
        | true => exact iff_of_false nofun nofun
        | false =>
          simp only [Bool.false_eq_true,if_false,true_and,Option.some.injEq,exists_eq_left']
          unfold MediaClockRec.recSwitch
          unfold RecRight at right
          cases state : clock.state <;> rw [state] at right
          case MEASUREMENT =>
            simp only [true_and]
            exact recMeasurement_none right.1 right.2.1 right.2.2.1
          all_goals exact iff_of_false nofun nofun

end Steps

theorem RecRight.reached {arraySize tsPeriod : Nat} {inputs : List RecInput} {clock : MediaClockRec}
    (reached : inputs.foldlM recStep (.opened arraySize tsPeriod) = some clock) : RecRight clock :=
  foldlM_kept (fun _ _ _ right stepped => recStep_right right stepped) (by exact trivial) reached

/-- The recovery divides by zero exactly where a measurement comes to a hundred periods of 0. -/
theorem recovery_divides (arraySize tsPeriod : Nat) (inputs : List RecInput) (input : RecInput) {clock : MediaClockRec}
    (reached : inputs.foldlM recStep (.opened arraySize tsPeriod) = some clock) :
    recStep clock input = none ↔ Divides clock input :=
  recStep_none (.reached reached)

def plainTimestamp (tsNsec : Nat) : RecTimestamp := ⟨tsNsec,false,false,none,none,true,true,true,.running,0⟩

def equalTimestamps : List RecInput :=
  .call (some 0) :: List.replicate 100 (.timestamp (plainTimestamp 1000000))

theorem recovery_divides_equal : ∃ clock, equalTimestamps.foldlM recStep (.opened 64 1000000) = some clock ∧
    Divides clock (.timestamp (plainTimestamp 1000000)) := by
  have whole : ((equalTimestamps.foldlM recStep (.opened 64 1000000)).any fun clock =>
      (recStep clock (.timestamp (plainTimestamp 1000000))).isNone) = true := by
    decide +kernel
  obtain ⟨clock,reached,none⟩ := (Option.any_eq_true _ _).mp whole
  exact ⟨clock,reached,(recovery_divides 64 1000000 _ _ reached).mp (Option.isNone_iff_eq_none.mp none)⟩

/-- What a step hands to the driver: nothing but perhaps its stop. -/
def Withholds (clock next : MediaClockRec) : Prop :=
  next.array = clock.array ∧ (next.started = clock.started ∨ next.started = none)

private theorem recSwitch_withholds {clock next : MediaClockRec} {ts : RecTimestamp} {localTime : Nat}
    (early : clock.state = .INIT ∨ clock.state = .MEASUREMENT) (stepped : clock.recSwitch ts localTime = some next) :
    Withholds clock next := by
  unfold MediaClockRec.recSwitch at stepped
  rcases early with state | state <;> rw [state] at stepped
  · obtain rfl := Option.some.inj stepped
    unfold MediaClockRec.recInit
    dsimp only
    split
    · exact ⟨rfl,.inl rfl⟩
    · split
      · split
        · exact ⟨rfl,.inr rfl⟩
        · exact ⟨rfl,.inl rfl⟩
      · exact ⟨rfl,.inl rfl⟩
  · unfold MediaClockRec.recMeasurement MediaClockRec.settle at stepped
    dsimp only at stepped
    repeat' split at stepped
    all_goals cases stepped
    all_goals exact ⟨rfl,.inl rfl⟩

theorem recStep_withholds {clock next : MediaClockRec} {input : RecInput}
    (early : clock.state = .INIT ∨ clock.state = .MEASUREMENT) (stepped : recStep clock input = some next) :
    Withholds clock next := by
  cases input with
  | call time =>
    obtain rfl := Option.some.inj stepped
    exact ⟨rfl,.inl rfl⟩
  | timestamp ts =>
    obtain ⟨_,rfl⟩ | ⟨_,rfl⟩ | ⟨_,_,rfl | ⟨_,rfl⟩,_,switched⟩ := recTimestamp_cases stepped
    · exact ⟨rfl,.inl rfl⟩
    · exact ⟨rfl,.inl rfl⟩
    · exact recSwitch_withholds early switched
    · have withholds := recSwitch_withholds (.inl rfl) switched
      exact ⟨withholds.1,withholds.2⟩

/-- Nothing is handed to the driver before a hundred periods have been measured that differ by a 32nd at most, with a
mean as near to the nominal one. The timestamps behind them follow each other as closely; it is started with the first
two, and gets the others in the array. -/
theorem recovery_steady (arraySize tsPeriod : Nat) (inputs : List RecInput) {clock : MediaClockRec}
    (reached : inputs.foldlM recStep (.opened arraySize tsPeriod) = some clock) :
    (clock.state = .INIT ∨ clock.state = .MEASUREMENT →
      ∀ input next, recStep clock input = some next → Withholds clock next) ∧
    (clock.state = .READY ∨ clock.state = .RUNNING ∨ clock.state = .RUNNING_LOCKED →
      clock.measured.length = 100 ∧
      (∀ first ∈ clock.measured, ∀ second ∈ clock.measured, first ≤ 20000000 ∧ second ≤ first + first / 32) ∧
      (∃ first ∈ clock.measured, ∃ second ∈ clock.measured, first ≤ clock.periodMean ∧ clock.periodMean ≤ second) ∧
      periodError clock.tsPeriod clock.periodMean = false ∧ clock.delay = tsOffset clock.periodMean ∧
      InStep clock.tsPeriod clock.handed ∧ clock.written = (clock.handed.drop 2).map tsWa ∧
      (clock.state ≠ .READY → 4 ≤ clock.handed.length ∧ ∃ first second, clock.handed.take 2 = [first,second] ∧
        clock.started = some (tsWa first,tsWa second))) := by
  have right := RecRight.reached reached
  refine ⟨fun early input next stepped => recStep_withholds early stepped,fun state => ?_⟩
  unfold RecRight at right
  have steady : Steady clock ∧ Delivered clock ∧ (clock.state ≠ .READY → Playing clock) := by
    rcases state with state | state | state <;> rw [state] at right ⊢
    · exact ⟨right.1,right.2.2.2,fun other => absurd rfl other⟩
    · exact ⟨right.1,right.2.toDelivered,fun _ => right.2⟩
    · exact ⟨right.1,right.2.toDelivered,fun _ => right.2⟩
  obtain ⟨steady,delivered,playing⟩ := steady
  have some : clock.measured ≠ [] := by
    intro empty
    have full := steady.full
    rw [empty] at full
    exact nomatch full
  obtain ⟨least,most⟩ := steady.reached some
  have near := (periodError_small (steady.bounded _ least).1 (steady.bounded _ most).1).mp steady.close
  refine ⟨steady.full,?_,⟨_,least,_,most,steady.mean some⟩,steady.nominal,steady.delayed,steady.inStep,
    delivered.written,?_⟩
  · intro first member second other
    have one := steady.bounded first member
    have two := steady.bounded second other
    omega
  · intro apart
    have plays := playing apart
    refine ⟨plays.many,_,_,?_,plays.started⟩
    rw [plays.first]
    exact take_of_length_le ((by decide : 2 ≤ 4).trans plays.many)

def everyMillisecond (count : Nat) : List RecInput :=
  (List.range count).flatMap fun k =>
    [.call (some (1000000 * (k + 1))),.timestamp (plainTimestamp (1000000 * (k + 1)))]

theorem recovery_steady_millisecond : ∃ clock,
    (everyMillisecond 105).foldlM recStep (.opened 64 1000000) = some clock ∧ clock.state = .RUNNING ∧
      clock.handed = [109000000,110000000,111000000,112000000] ∧ InStep clock.tsPeriod clock.handed ∧
      clock.written = [111000000,112000000] := by
  have whole : (((everyMillisecond 105).foldlM recStep (.opened 64 1000000)).any fun clock =>
      clock.state = .RUNNING ∧ clock.handed = [109000000,110000000,111000000,112000000]) = true := by
    decide +kernel
  obtain ⟨clock,reached,facts⟩ := (Option.any_eq_true _ _).mp whole
  obtain ⟨state,handed⟩ := of_decide_eq_true facts
  obtain ⟨_,_,_,_,_,inStep,written,_⟩ := (recovery_steady 64 1000000 _ reached).2 (.inr (.inl state))
  rw [handed] at written
  exact ⟨clock,reached,state,handed,inStep,written⟩

end Genavb.Avtp
