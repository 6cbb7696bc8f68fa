import Genavb.Avtp.StreamReceive
import Genavb.Support.Run
import Mathlib.Tactic.Ring

/-! The consumers of a clock grid (`media_clock.c`), which hide what its producer does to the timestamps from those who
read them. -/
namespace Genavb.Avtp
open Genavb.Support BitVec

def wordMin (a b : Word) : Word := if a < b then a else b

/-- What `clock_grid_init` sets and no producer changes. -/
structure ClockGridConfig where
  ringSize : Word
  nominalFreqP : Word
  nominalFreqQ : Word

namespace ClockGridConfig
variable (config : ClockGridConfig)

def nominalPeriod : Word := BitVec.ofNat 32 (config.nominalFreqQ.toNat * 1000000000 / config.nominalFreqP.toNat)

def periodJitter : Word := config.nominalPeriod * 100 / 1000000

def maxValidCount : Word := wordMin (config.ringSize / 2) (config.nominalFreqP / (config.nominalFreqQ * 10))

def maxStartCount : Word := wordMin (config.ringSize / 4) (config.nominalFreqP / (2 * config.nominalFreqQ * 10))

def Steady (period : Word) : Prop := (period - config.nominalPeriod).toInt.natAbs ≤ config.periodJitter.toNat

instance (period : Word) : Decidable (config.Steady period) := by unfold Steady; infer_instance

/-- The periods that the mean is taken over are no longer together than the timestamps can tell. -/
def Short : Prop := 9 * (config.nominalPeriod.toNat + config.periodJitter.toNat) < 2 ^ 32

end ClockGridConfig

/-- What the producer of a grid does change. -/
structure ClockGrid where
  ts : Word → Word
  validCount : Word
  count : Word
  writeIndex : Word

structure ClockGridConsumer where
  alignment : Word
  readIndex : Word
  offset : Word
  prevTs : Word
  prevPeriod : Word
  init : Bool
  count : Word

/-- A call of `clock_grid_consumer_get_ts`: the grid that it finds, the `ts_update` of its producer with the flag that it
raises, and the time of `MCG_FLAGS_DO_ALIGN`. -/
structure ClockGridRequest where
  grid : ClockGrid
  tsUpdate : Option (ClockGrid → Word → ClockGrid × Bool)
  tsN : Word
  align : Option Word

namespace ClockGridConsumer
variable (config : ClockGridConfig) (grid : ClockGrid) (consumer : ClockGridConsumer)

def attach (offset alignment : Word) : ClockGridConsumer :=
  {consumer with offset := offset,alignment := alignment,init := false,prevPeriod := config.nominalPeriod}

def tsAvailable : Word :=
  if consumer.readIndex ≤ grid.writeIndex then grid.writeIndex - consumer.readIndex
  else grid.writeIndex + config.ringSize - consumer.readIndex

def tsPeekN (n : Nat) : Word := grid.ts ((consumer.readIndex + BitVec.ofNat 32 n) &&& (config.ringSize - 1))

def tsPeek : Word := grid.ts consumer.readIndex

def indexReset : ClockGridConsumer :=
  let startCount := wordMin grid.count config.maxStartCount
  {consumer with
    readIndex := (grid.writeIndex - startCount) % config.ringSize
    count := grid.count - startCount}

def tsGet : Word × ClockGridConsumer :=
  let ts := consumer.tsPeek grid
  let period := ts - consumer.prevTs
  let after :=
    if !consumer.init then consumer
    else if config.Steady period then {consumer with prevPeriod := period}
    else {consumer with offset := consumer.offset + (consumer.prevTs + consumer.prevPeriod - ts)}
  (ts + after.offset,
    {after with
      prevTs := ts
      readIndex := (consumer.readIndex + 1) &&& (config.ringSize - 1)
      count := consumer.count + 1
      init := true})

def reset : ClockGridConsumer :=
  let after := consumer.indexReset config grid
  if after.init then
    let newTs := after.tsPeek grid
    {after with
      offset := after.offset + (after.prevTs + after.prevPeriod - newTs)
      prevTs := newTs - after.prevPeriod}
  else after

def overflowCheck : ClockGridConsumer :=
  if grid.validCount.toInt < (grid.count - consumer.count).toInt then consumer.reset config grid else consumer

def tsUpdate (request : ClockGridRequest) : ClockGrid × ClockGridConsumer × Bool :=
  match request.tsUpdate with
  | none => (request.grid,consumer,false)
  | some update =>
    let checked := if consumer.init then consumer.overflowCheck config request.grid else consumer
    let avail := checked.tsAvailable config request.grid
    if consumer.init && request.tsN ≤ avail then (request.grid,checked,false)
    else
      let (grid,reset) := update request.grid (if consumer.init then request.tsN - avail else request.tsN)
      let grid := {grid with validCount := wordMin grid.count config.maxValidCount}
      (grid,if checked.init then checked.overflowCheck config grid else checked.indexReset config grid,reset)

/-- The loop of `clock_grid_consumer_mean_period`, which stops at a discontinuity. -/
def steadyPeriods (i : Nat) : Nat → Nat
  | 0 => i
  | left + 1 =>
    if config.Steady (consumer.tsPeekN config grid (i + 1) - consumer.tsPeekN config grid i) then
      steadyPeriods (i + 1) left
    else i

def meanPeriod : Word :=
  let nTs := min 10 (consumer.tsAvailable config grid).toNat
  let i := consumer.steadyPeriods config grid 0 (nTs - 1)
  let mean := (consumer.tsPeekN config grid i - consumer.tsPeekN config grid 0) / BitVec.ofNat 32 i
  if mean = 0 then config.nominalPeriod else mean

def computeOffset (alignmentTs : Word) : ClockGridConsumer :=
  if consumer.tsAvailable config grid = 0 then {consumer with offset := 0}
  else
    let newTs := consumer.tsPeek grid
    let offset := alignmentTs - newTs
    {consumer with
      offset :=
        if consumer.alignment = 0 then offset
        else (offset + consumer.alignment - 1) / consumer.alignment * consumer.alignment
      prevTs := newTs - consumer.meanPeriod config grid}

def tsGetN : Nat → ClockGridConsumer → List Word × ClockGridConsumer
  | 0,consumer => ([],consumer)
  | n + 1,consumer =>
    let (ts,consumer) := consumer.tsGet config grid
    let (rest,consumer) := tsGetN n consumer
    (ts :: rest,consumer)

/-- The grid and the consumer that the alignment of a request finds, and whether the producer has started anew. -/
def updated (request : ClockGridRequest) : ClockGrid × ClockGridConsumer × Bool :=
  if request.tsN = 0 then (request.grid,consumer,false) else consumer.tsUpdate config request

def getTs (request : ClockGridRequest) : List Word × ClockGridConsumer × Bool :=
  let (grid,consumer,reset) := consumer.updated config request
  let consumer :=
    match request.align with
    | none => consumer
    | some alignmentTs => consumer.computeOffset config grid alignmentTs
  let (ts,consumer) := consumer.tsGetN config grid (min request.tsN.toNat (consumer.tsAvailable config grid).toNat)
  (ts,consumer,reset)

end ClockGridConsumer

/-- A timestamp that a consumer returns, with the one before it since the last alignment and the time of an alignment
that it is the first one after. -/
structure ClockReading where
  ts : Word
  last : Option Word
  due : Option Word
  deriving DecidableEq

structure ClockReadings where
  last : Option Word
  due : Option Word
  readings : List ClockReading

def ClockReadings.read (heard : ClockReadings) (ts : Word) : ClockReadings :=
  ⟨some ts,none,heard.readings ++ [⟨ts,heard.last,heard.due⟩]⟩

structure ClockReader where
  consumer : ClockGridConsumer
  heard : ClockReadings

namespace ClockReader
variable (config : ClockGridConfig)

def attach (consumer : ClockGridConsumer) (offset alignment : Word) : ClockReader :=
  ⟨consumer.attach config offset alignment,none,none,[]⟩

/-- An alignment without timestamps asks for nothing. -/
def aligned (request : ClockGridRequest) (reader : ClockReader) : ClockReadings :=
  match request.align with
  | none => reader.heard
  | some alignmentTs =>
    let (grid,consumer,_) := reader.consumer.updated config request
    ⟨none,if consumer.tsAvailable config grid = 0 then none else some alignmentTs,reader.heard.readings⟩

def getTs (request : ClockGridRequest) (reader : ClockReader) : ClockReader :=
  let (ts,consumer,_) := reader.consumer.getTs config request
  ⟨consumer,ts.foldl ClockReadings.read (reader.aligned config request)⟩

end ClockReader

/-- The reading is a steady period after the one before it, and rounds its alignment up by less than a unit. -/
def ClockReading.Smooth (config : ClockGridConfig) (alignment : Word) (reading : ClockReading) : Prop :=
  (∀ last, reading.last = some last → config.Steady (reading.ts - last)) ∧
    ∀ due, reading.due = some due → (reading.ts - due).toNat < max 1 alignment.toNat

namespace ClockGridConfig
variable {config : ClockGridConfig}

private theorem steady_nominal : config.Steady config.nominalPeriod := by simp [Steady]

theorem periodJitter_le : config.periodJitter.toNat ≤ config.nominalPeriod.toNat := by
  rw [periodJitter,toNat_udiv,toNat_mul]
  have kept := Nat.mod_le (config.nominalPeriod.toNat * (100 : Word).toNat) (2 ^ 32)
  apply Nat.div_le_of_le_mul
  simp at kept ⊢
  omega

theorem Short.steady_iff (short : config.Short) {period : Word} : config.Steady period ↔
    config.nominalPeriod.toNat - config.periodJitter.toNat ≤ period.toNat ∧
      period.toNat ≤ config.nominalPeriod.toNat + config.periodJitter.toNat := by
  have jitter := config.periodJitter_le
  have inside := period.isLt
  unfold Short at short
  rw [Steady,toInt_eq_toNat_cond,toNat_sub]
  split <;> omega

end ClockGridConfig

theorem roundUp_lt {offset alignment : Word} (some : alignment ≠ 0) :
    ((offset + alignment - 1) / alignment * alignment - offset).toNat < alignment.toNat := by
  have positive : 0 < alignment.toNat := by
    rw [Nat.pos_iff_ne_zero]
    exact fun zero => some (eq_of_toNat_eq zero)
  have sum : (offset + alignment - 1).toNat = (offset.toNat + alignment.toNat - 1) % 2 ^ 32 := by bv_omega
  have split := Nat.div_add_mod (offset + alignment - 1).toNat alignment.toNat
  have rest := Nat.mod_lt (offset + alignment - 1).toNat positive
  rw [toNat_sub,toNat_mul,toNat_udiv]
  rw [Nat.mul_comm] at split
  generalize (offset + alignment - 1).toNat / alignment.toNat * alignment.toNat = product at *
  omega

namespace ClockGridConsumer
variable {config : ClockGridConfig} {grid : ClockGrid} {consumer : ClockGridConsumer}

theorem steadyPeriods_total (short : config.Short) (i left : Nat) : ∃ n total,
    consumer.steadyPeriods config grid i left = i + n ∧ n ≤ left ∧
      consumer.tsPeekN config grid (i + n) - consumer.tsPeekN config grid i = BitVec.ofNat 32 total ∧
      n * (config.nominalPeriod.toNat - config.periodJitter.toNat) ≤ total ∧
      total ≤ n * (config.nominalPeriod.toNat + config.periodJitter.toNat) := by
  induction left generalizing i with
  | zero => exact ⟨0,0,rfl,Nat.le_refl _,by simp,by simp,by simp⟩
  | succ left ih =>
    rw [steadyPeriods]
    split
    next steady =>
      obtain ⟨n,total,stops,few,apart,least,most⟩ := ih (i + 1)
      obtain ⟨above,below⟩ := short.steady_iff.mp steady
      refine ⟨n + 1,total + (consumer.tsPeekN config grid (i + 1) - consumer.tsPeekN config grid i).toNat,?_,?_,?_,?_,?_⟩
      · rw [stops,Nat.add_assoc,Nat.add_comm 1]
      · exact Nat.succ_le_succ few
      · rw [ofNat_add,ofNat_toNat,setWidth_eq,← apart,Nat.add_assoc,Nat.add_comm 1]
        ring
      · rw [Nat.add_mul,Nat.one_mul]
        exact Nat.add_le_add least above
      · rw [Nat.add_mul,Nat.one_mul]
        exact Nat.add_le_add most below
    · exact ⟨0,0,rfl,Nat.zero_le _,by simp,by simp,by simp⟩

theorem meanPeriod_steady (short : config.Short) : config.Steady (consumer.meanPeriod config grid) := by
  unfold meanPeriod
  dsimp only
  split
  · exact config.steady_nominal
  next nonzero =>
    obtain ⟨n,total,stops,few,apart,least,most⟩ := @steadyPeriods_total config grid consumer short 0
      (min 10 (consumer.tsAvailable config grid).toNat - 1)
    rw [Nat.zero_add] at stops apart
    rw [stops,apart] at nonzero ⊢
    have some : 0 < n := by
      apply Nat.pos_of_ne_zero
      intro none
      simp [none] at nonzero
    have nine : n * (config.nominalPeriod.toNat + config.periodJitter.toNat) ≤
        9 * (config.nominalPeriod.toNat + config.periodJitter.toNat) := Nat.mul_le_mul_right _ (by omega)
    have inside : total < 2 ^ 32 := Nat.lt_of_le_of_lt (Nat.le_trans most nine) short
    have mean : (BitVec.ofNat 32 total / BitVec.ofNat 32 n).toNat = total / n := by
      rw [toNat_udiv,toNat_ofNat,toNat_ofNat,Nat.mod_eq_of_lt inside,Nat.mod_eq_of_lt (by omega)]
    rw [short.steady_iff,mean]
    constructor
    · rw [Nat.le_div_iff_mul_le some,Nat.mul_comm]
      exact least
    · exact Nat.div_le_of_le_mul most

/-- What a consumer keeps: a steady period to go on with, and the place of the timestamp it has returned last. -/
structure Held (config : ClockGridConfig) (alignment : Word) (last : Option Word) (consumer : ClockGridConsumer) :
    Prop where
  unit : consumer.alignment = alignment
  steady : config.Steady consumer.prevPeriod
  follows : ∀ ts, last = some ts → consumer.init = true ∧ consumer.prevTs + consumer.offset = ts

variable {alignment : Word} {last : Option Word}

section
variable (held : consumer.Held config alignment last)
include held

theorem Held.indexReset :
    (consumer.indexReset config grid).Held config alignment last := {held with}

theorem Held.reset :
    (consumer.reset config grid).Held config alignment last := by
  unfold ClockGridConsumer.reset
  dsimp only
  split
  · refine ⟨held.unit,held.steady,fun ts returned => ?_⟩
    obtain ⟨valid,place⟩ := held.follows ts returned
    refine ⟨valid,?_⟩
    rw [← place]
    simp only [ClockGridConsumer.indexReset]
    ring
  · exact held.indexReset

theorem Held.overflowCheck :
    (consumer.overflowCheck config grid).Held config alignment last := by
  unfold ClockGridConsumer.overflowCheck
  split
  · exact held.reset
  · exact held

theorem Held.updated (request : ClockGridRequest) :
    (consumer.updated config request).2.1.Held config alignment last := by
  have checked : (if consumer.init then consumer.overflowCheck config request.grid else consumer).Held config alignment
      last := by
    split
    · exact held.overflowCheck
    · exact held
  unfold ClockGridConsumer.updated ClockGridConsumer.tsUpdate
  dsimp only
  generalize (if consumer.init then consumer.overflowCheck config request.grid else consumer) = now at checked ⊢
  split
  · exact held
  · split
    · exact held
    · split
      · exact checked
      · dsimp only
        split
        · exact checked.overflowCheck
        · exact checked.indexReset

end

private theorem tsGet_steady (unit : consumer.alignment = alignment) (steady : config.Steady consumer.prevPeriod)
    (expected : config.Steady (consumer.tsPeek grid - consumer.prevTs)) :
    (consumer.tsGet config grid).1 = consumer.tsPeek grid + consumer.offset ∧
      (consumer.tsGet config grid).2.Held config alignment (some (consumer.tsPeek grid + consumer.offset)) := by
  unfold ClockGridConsumer.tsGet
  dsimp only
  split
  · exact ⟨rfl,unit,steady,fun _ same => ⟨rfl,Option.some.inj same⟩⟩
  · exact ⟨rfl,unit,expected,fun _ same => ⟨rfl,Option.some.inj same⟩⟩

theorem Held.tsGet (held : consumer.Held config alignment last) :
    (∀ ts, last = some ts → config.Steady ((consumer.tsGet config grid).1 - ts)) ∧
      (consumer.tsGet config grid).2.Held config alignment (some (consumer.tsGet config grid).1) := by
  by_cases expected : config.Steady (consumer.tsPeek grid - consumer.prevTs)
  case pos =>
    obtain ⟨returned,after⟩ := tsGet_steady held.unit held.steady expected
    rw [returned]
    refine ⟨fun ts known => ?_,after⟩
    rw [← (held.follows ts known).2]
    convert expected using 1
    ring
  case neg =>
    unfold ClockGridConsumer.tsGet
    dsimp only
    split
    next fresh =>
      refine ⟨fun ts known => ?_,held.unit,held.steady,fun _ same => ⟨rfl,Option.some.inj same⟩⟩
      simp [(held.follows ts known).1] at fresh
    · refine ⟨fun ts known => ?_,held.unit,held.steady,fun _ same => ⟨rfl,Option.some.inj same⟩⟩
      rw [← (held.follows ts known).2]
      convert held.steady using 1
      ring

theorem Held.computeOffset_none (held : consumer.Held config alignment last)
    (none : consumer.tsAvailable config grid = 0) (alignmentTs : Word) :
    (consumer.computeOffset config grid alignmentTs).Held config alignment Option.none := by
  unfold ClockGridConsumer.computeOffset
  rw [if_pos none]
  exact ⟨held.unit,held.steady,by simp⟩

theorem Held.computeOffset_tsGet (held : consumer.Held config alignment last) (short : config.Short)
    (some : consumer.tsAvailable config grid ≠ 0) (alignmentTs : Word) :
    (((consumer.computeOffset config grid alignmentTs).tsGet config grid).1 - alignmentTs).toNat <
        max 1 alignment.toNat ∧
      ((consumer.computeOffset config grid alignmentTs).tsGet config grid).2.Held config alignment
        (Option.some ((consumer.computeOffset config grid alignmentTs).tsGet config grid).1) := by
  have expected : config.Steady ((consumer.computeOffset config grid alignmentTs).tsPeek grid -
      (consumer.computeOffset config grid alignmentTs).prevTs) := by
    rw [ClockGridConsumer.computeOffset,if_neg some]
    convert @meanPeriod_steady config grid consumer short using 1
    exact sub_sub_cancel _ _
  have kept : (consumer.computeOffset config grid alignmentTs).alignment = alignment ∧
      config.Steady (consumer.computeOffset config grid alignmentTs).prevPeriod := by
    rw [ClockGridConsumer.computeOffset,if_neg some]
    exact ⟨held.unit,held.steady⟩
  obtain ⟨returned,after⟩ := tsGet_steady kept.1 kept.2 expected
  rw [returned]
  refine ⟨?_,after⟩
  rw [← held.unit,ClockGridConsumer.computeOffset,if_neg some]
  dsimp only [tsPeek]
  split
  next unrounded => simp [unrounded]
  next rounded =>
    apply Nat.lt_of_lt_of_le _ (Nat.le_max_right _ _)
    convert @roundUp_lt (alignmentTs - consumer.tsPeek grid) _ rounded using 2
    unfold tsPeek
    ring

end ClockGridConsumer

namespace ClockReader
variable {config : ClockGridConfig} {grid : ClockGrid} {alignment : Word} {heard : ClockReadings} {reader : ClockReader}
  {consumer : ClockGridConsumer}

/-- What holds of a reader between two requests. -/
structure Held (config : ClockGridConfig) (alignment : Word) (reader : ClockReader) : Prop where
  consumer : reader.consumer.Held config alignment reader.heard.last
  paid : reader.heard.due = none
  smooth : ∀ reading ∈ reader.heard.readings, reading.Smooth config alignment

theorem Held.read {ts : Word} (smooth : ∀ reading ∈ heard.readings, reading.Smooth config alignment)
    (returned : ClockReading.Smooth config alignment ⟨ts,heard.last,heard.due⟩)
    (held : consumer.Held config alignment (some ts)) : Held config alignment ⟨consumer,heard.read ts⟩ := by
  refine ⟨held,rfl,fun reading inside => ?_⟩
  rcases List.mem_append.mp inside with earlier | now
  · exact smooth reading earlier
  · rwa [List.mem_singleton.mp now]

theorem Held.tsGetN (held : Held config alignment ⟨consumer,heard⟩) (n : Nat) :
    Held config alignment ⟨(consumer.tsGetN config grid n).2,
      (consumer.tsGetN config grid n).1.foldl ClockReadings.read heard⟩ := by
  induction n generalizing consumer heard with
  | zero => exact held
  | succ n ih =>
    obtain ⟨follows,after⟩ := @ClockGridConsumer.Held.tsGet config grid consumer alignment _ held.consumer
    exact ih (.read held.smooth ⟨follows,fun due owed => nomatch held.paid.symm.trans owed⟩ after)

theorem getTs_held (short : config.Short) (held : reader.Held config alignment) (request : ClockGridRequest)
    (asked : request.align ≠ none → request.tsN ≠ 0) : (reader.getTs config request).Held config alignment := by
  have updated := held.consumer.updated request
  unfold getTs aligned ClockGridConsumer.getTs
  generalize reader.consumer.updated config request = now at updated ⊢
  obtain ⟨grid,consumer,reset⟩ := now
  cases align : request.align with
  | none => exact @Held.tsGetN config grid alignment reader.heard consumer ⟨updated,held.paid,held.smooth⟩ _
  | some alignmentTs =>
    dsimp only
    split
    next none => exact @Held.tsGetN _ grid _ ⟨_,_,_⟩ _ ⟨updated.computeOffset_none none alignmentTs,rfl,held.smooth⟩ _
    next here =>
      have same : (consumer.computeOffset config grid alignmentTs).tsAvailable config grid =
          consumer.tsAvailable config grid := by
        rw [ClockGridConsumer.computeOffset,if_neg here]
        rfl
      have nonzero : 0 < min request.tsN.toNat (consumer.tsAvailable config grid).toNat := by
        have wanted := asked (by simp [align])
        bv_omega
      rw [same]
      obtain ⟨n,more⟩ := Nat.exists_eq_succ_of_ne_zero (Nat.ne_of_gt nonzero)
      rw [more]
      obtain ⟨near,after⟩ := updated.computeOffset_tsGet short here alignmentTs
      have first := @Held.read config alignment ⟨none,some alignmentTs,reader.heard.readings⟩ _ _ held.smooth
        ⟨fun last known => (by simp at known),fun due owed => Option.some.inj owed ▸ near⟩ after
      exact first.tsGetN n

/-- Every timestamp that a consumer returns is a steady period after the one before it, and the first one after an
alignment rounds its time up by less than a unit. -/
theorem getTs_smooth (short : config.Short) (offset alignment : Word) {requests : List ClockGridRequest}
    (asked : ∀ request ∈ requests, request.align ≠ none → request.tsN ≠ 0) :
    ∀ reading ∈ (run (getTs config) requests (attach config consumer offset alignment)).heard.readings,
      reading.Smooth config alignment := by
  have start : (attach config consumer offset alignment).Held config alignment :=
    ⟨⟨rfl,config.steady_nominal,by simp [attach]⟩,rfl,by simp [attach]⟩
  have whole : (run (getTs config) requests (attach config consumer offset alignment)).Held config alignment := by
    generalize attach config consumer offset alignment = reader at start
    induction requests generalizing reader with
    | nil => exact start
    | cons request rest ih =>
      have now := getTs_held short start request (asked request (List.mem_cons_self ..))
      exact ih (fun other inside => asked other (List.mem_cons_of_mem _ inside)) _ now
  exact whole.smooth

def grid300 : ClockGridConfig := ⟨64,300,1⟩

def twenty : ClockGrid := ⟨fun index => index * 3333333,20,20,20⟩

def unread : ClockGridConsumer := ⟨0,0,0,0,0,false,0⟩

/-- An alignment for two timestamps, and one more request after a jump of the producer. -/
def jump : List ClockGridRequest :=
  [⟨twenty,some fun grid _ => (grid,false),2,some 1000⟩,
    ⟨{twenty with ts := fun index => index * 3333333 + 5000},none,1,none⟩]

theorem getTs_smooth_jump : (run (getTs grid300) jump (attach grid300 unread 0 1)).heard.readings ≠ [] ∧
    ∀ reading ∈ (run (getTs grid300) jump (attach grid300 unread 0 1)).heard.readings, reading.Smooth grid300 1 :=
  ⟨by decide +kernel,getTs_smooth (by unfold ClockGridConfig.Short; decide) 0 1 (by simp [jump])⟩

/-- A change of phase asks for an alignment while there is nothing to send. The next request moves the consumer to
another timestamp. -/
theorem alignment_lost : ∃ reading ∈ (run (getTs grid300) [⟨twenty,some fun grid _ => (grid,false),0,some 1000⟩,
      ⟨twenty,some fun grid _ => (grid,false),1,none⟩] (attach grid300 unread 0 1)).heard.readings,
    ¬ reading.Smooth grid300 1 :=
  ⟨⟨16667665,none,some 1000⟩,by decide +kernel,fun smooth => absurd (smooth.2 1000 rfl) (by decide)⟩

end ClockReader
end Genavb.Avtp
