import Genavb.Avtp.CrfListener
import Mathlib.Data.List.Chain

/-! The output of a CRF listener over its runs: that the timestamps handed to the clock producer follow each other, that
every received one is measured, and that the free-wheeling flag tells the state. -/
namespace Genavb.Avtp
open Genavb.Support CrfConfig List BitVec

namespace CrfConfig
variable (config : CrfConfig)

/-- A timestamp follows another one after the nominal period, within `period_err`. -/
def Near (first second : Word) : Prop := osAbs (second - first - config.periodNominal) ≤ config.periodErr

def longest : Nat := config.periodNominal.toNat + config.periodNominal.toNat / 64

def shortest : Nat := config.periodNominal.toNat - config.periodNominal.toNat / 64

private theorem near_iff (first second : Word) :
    config.Near first second ↔ config.shortest ≤ (second - first).toNat ∧ (second - first).toNat ≤ config.longest := by
  have bounded := config.bounded
  unfold Near periodErr longest shortest
  generalize second - first = period
  have error : (config.periodNominal / 64).toNat = config.periodNominal.toNat / 64 := toNat_udiv
  rw [le_def,error,osAbs]
  have difference : (period - config.periodNominal).toNat =
      if config.periodNominal.toNat ≤ period.toNat then period.toNat - config.periodNominal.toNat
      else 2 ^ 32 - config.periodNominal.toNat + period.toNat := by
    rw [toNat_sub]
    split <;> omega
  split
  next negative =>
    rw [msb_eq_decide,decide_eq_true_eq] at negative
    rw [toNat_neg]
    split at difference <;> omega
  next positive =>
    rw [msb_eq_decide,decide_eq_true_eq] at positive
    split at difference <;> omega

private theorem near_periodOff (first second : Word) :
    CrfListener.periodOff config (second - first) = false ↔ config.Near first second := by
  unfold CrfListener.periodOff Near
  rw [decide_eq_false_iff_not,BitVec.not_lt]

end CrfConfig

namespace CrfListener
variable {config : CrfConfig}

def MeanIn (config : CrfConfig) (crf : CrfListener) : Prop :=
  config.shortest ≤ crf.period.toNat ∧ crf.period.toNat ≤ config.longest

def RoundsUp (config : CrfConfig) (mean period : Word) : Prop :=
  config.longest % 4 = 2 ∧ mean.toNat = config.longest ∧ period.toNat = config.longest

theorem averaged_in {mean period : Word} (first : config.shortest ≤ mean.toNat ∧ mean.toNat ≤ config.longest)
    (second : config.shortest ≤ period.toNat ∧ period.toNat ≤ config.longest)
    (exact : ¬ RoundsUp config mean period) : config.shortest ≤ (averaged mean period).toNat ∧
      (averaged mean period).toNat ≤ config.longest := by
  have bounded := config.bounded
  have size : config.longest < 2 ^ 30 := by
    unfold longest
    omega
  have value : (averaged mean period).toNat = (mean.toNat * 3 + 2) / 4 + (period.toNat + 2) / 4 := by
    have two : (2 : Word).toNat = 2 := rfl
    have three : (3 : Word).toNat = 3 := rfl
    have four : (4 : Word).toNat = 4 := rfl
    unfold averaged
    rw [toNat_add,toNat_udiv,toNat_udiv,toNat_add,toNat_add,toNat_mul,two,
      three,four,Nat.mod_eq_of_lt (by omega : mean.toNat * 3 < 2 ^ 32),
      Nat.mod_eq_of_lt (by omega : mean.toNat * 3 + 2 < 2 ^ 32),
      Nat.mod_eq_of_lt (by omega : period.toNat + 2 < 2 ^ 32)]
    exact Nat.mod_eq_of_lt (by omega)
  unfold RoundsUp at exact
  refine ⟨?_,?_⟩
  · have mono : (config.shortest * 3 + 2) / 4 ≤ (mean.toNat * 3 + 2) / 4 := Nat.div_le_div_right (by omega)
    omega
  · generalize config.longest = longest at first second exact
    obtain ⟨quarter,rest,small,rfl⟩ : ∃ quarter rest, rest < 4 ∧ longest = 4 * quarter + rest :=
      ⟨longest / 4,longest % 4,Nat.mod_lt _ (by decide),by omega⟩
    have whole : rest = 0 ∨ rest = 1 ∨ rest = 2 ∨ rest = 3 := by omega
    rcases whole with rfl | rfl | rfl | rfl <;> omega

/-- No mean is rounded up above the periods that it is made of. -/
def MeansHeld (config : CrfConfig) : List Word → CrfListener → Prop
  | [],_ => True
  | ts :: rest,crf =>
    (1 < crf.timestamp → ¬ RoundsUp config crf.period (ts - crf.receivedTsLast)) ∧
      MeansHeld config rest (measureTimestamp config ts crf).2

def unmeasured (crf : CrfListener) : CrfState × Word × Bool × Word × Bool × Bool × List CrfHanded × List Word :=
  (crf.state,crf.tsLast,crf.tsLastSet,crf.gptpCurrent,crf.source,crf.freeWheeling,crf.handed,crf.received)

structure Measured (config : CrfConfig) (crf : CrfListener) (ts : List Word) (off : Bool) (after : CrfListener) : Prop where
  unmeasured : after.unmeasured = crf.unmeasured
  measured : after.measured = crf.measured ++ ts
  last : after.receivedTsLast = ts.getLastD crf.receivedTsLast
  counted : ts ≠ [] ∨ crf.timestamp ≠ 0 → after.timestamp ≠ 0
  inside : off = false → List.IsChain config.Near ts
  first : off = false → crf.timestamp ≠ 0 → ∀ head ∈ ts.head?, config.Near crf.receivedTsLast head
  mean : MeanIn config crf → MeansHeld config ts crf → MeanIn config after

theorem timestamp_positive {timestamp : Word} : 0 < timestamp ↔ timestamp ≠ 0 := pos_iff_ne_zero _

theorem measureTimestamp_measured (ts : Word) (crf : CrfListener) :
    Measured config crf [ts] (measureTimestamp config ts crf).1 (measureTimestamp config ts crf).2 := by
  unfold measureTimestamp
  dsimp only
  refine ⟨rfl,rfl,rfl,?_,fun _ => .singleton _,?_,?_⟩
  · intro _
    dsimp only
    generalize (if (0 < crf.timestamp && periodOff config (ts - crf.receivedTsLast) : Bool) then (0 : Word)
      else crf.timestamp) = timestamp
    split
    next room =>
      have low := lt_def.mp room
      intro none
      have wrapped := congrArg BitVec.toNat none
      rw [toNat_add] at wrapped
      change (timestamp.toNat + 1) % 2 ^ 32 = 0 at wrapped
      change timestamp.toNat < 2 ^ 32 - 1 at low
      omega
    next full =>
      rintro rfl
      exact full (by decide)
  · intro passed some head member
    obtain rfl := Option.some.inj member
    rw [decide_eq_true (timestamp_positive.mpr some),Bool.true_and] at passed
    exact (config.near_periodOff _ _).mp passed
  · intro mean held
    unfold MeanIn
    split
    next usable =>
      rw [Bool.and_eq_true,Bool.not_eq_true',decide_eq_true_eq] at usable
      obtain ⟨some,passed⟩ := usable
      rw [decide_eq_true some,Bool.true_and] at passed
      have near := (config.near_iff _ _).mp ((config.near_periodOff _ _).mp passed)
      split
      · exact near
      next several =>
        apply averaged_in mean near
        apply held.1
        rw [lt_def]
        have low := lt_def.mp some
        have other : crf.timestamp.toNat ≠ 1 := fun one => several (eq_of_toNat_eq one)
        change 1 < _
        change 0 < _ at low
        omega
    · exact mean

theorem measureTimestamps_measured (ts : List Word) (crf : CrfListener) :
    Measured config crf ts (measureTimestamps config ts crf).1 (measureTimestamps config ts crf).2 := by
  induction ts generalizing crf with
  | nil =>
    exact ⟨rfl,(List.append_nil _).symm,rfl,fun some => some.resolve_left fun none => none rfl,fun _ => .nil,
      fun _ _ _ member => (nomatch member),fun mean _ => mean⟩
  | cons ts rest ih =>
    have head := @measureTimestamp_measured config ts crf
    have tail := ih (measureTimestamp config ts crf).2
    have follows : MeansHeld config (ts :: rest) crf → MeansHeld config rest (measureTimestamp config ts crf).2 :=
      And.right
    rw [measureTimestamps]
    generalize measureTimestamp config ts crf = first at head tail follows
    obtain ⟨off,middle⟩ := first
    dsimp only at head tail follows ⊢
    generalize measureTimestamps config rest middle = second at tail
    obtain ⟨others,after⟩ := second
    have count := head.counted (.inl (List.cons_ne_nil _ _))
    have stored : middle.receivedTsLast = ts := head.last
    refine ⟨tail.unmeasured.trans head.unmeasured,?_,?_,fun _ => tail.counted (.inr count),?_,?_,?_⟩
    · rw [tail.measured,head.measured,List.append_assoc]
      rfl
    · rw [tail.last,stored]
      cases rest <;> rfl
    · intro passed
      obtain ⟨_,later⟩ := Bool.or_eq_false_iff.mp passed
      have next := tail.first later count
      rw [stored] at next
      exact List.isChain_cons.mpr ⟨next,tail.inside later⟩
    · intro passed some
      exact head.first (Bool.or_eq_false_iff.mp passed).1 some
    · intro mean held
      exact tail.mean (head.mean mean ⟨held.1,trivial⟩) (follows held)

def measuredFrom (crf : CrfListener) : CrfListener :=
  match crf.state with
  | .freeWheeling => {crf with receivedTsLast := crf.tsLast,timestamp := 1}
  | .lockedToFreeWheeling => {crf with receivedTsLast := crf.tsLast}
  | _ => crf

def Flagged (crf : CrfListener) : Prop :=
  crf.source = true → (crf.freeWheeling = true ↔ crf.state = .freeWheeling ∨ crf.state = .freeWheelingToLocked)

/-- What is known of a transition: timestamps go on to the clock producer only when the machine is locked, and then
their periods were checked. -/
structure Turned (config : CrfConfig) (event : CrfEvent) (ts : List Word) (crf : CrfListener) (turn : Transition) :
    Prop where
  kept : turn.crf.tsLast = crf.tsLast ∧ turn.crf.tsLastSet = crf.tsLastSet ∧ turn.crf.source = crf.source ∧
    turn.crf.handed = crf.handed ∧ turn.crf.received = crf.received
  measured : turn.crf.measured = crf.measured ++ if event = .timestamps then ts else []
  mean : MeanIn config crf → (event = .timestamps → MeansHeld config ts crf.measuredFrom) → MeanIn config turn.crf
  generating : turn.generate = true → turn.crf.state ≠ .locked
  passing : turn.generate = false → event = .timestamps ∧ turn.crf.state = .locked ∧ turn.crf.timestamp ≠ 0 ∧
    turn.crf.receivedTsLast = ts.getLastD 0 ∧ List.IsChain config.Near ts ∧
    (crf.measuredFrom.timestamp ≠ 0 → ∀ head ∈ ts.head?, config.Near crf.measuredFrom.receivedTsLast head)
  stitched : turn.doStitch = true ↔ crf.state = .freeWheelingToLocked ∧ turn.crf.state = .locked
  flagged : crf.Flagged → turn.crf.Flagged

@[simp] theorem measuredFrom_unmeasured (crf : CrfListener) : crf.measuredFrom.unmeasured = crf.unmeasured := by
  unfold measuredFrom
  split <;> rfl

@[simp] theorem measuredFrom_measured (crf : CrfListener) : crf.measuredFrom.measured = crf.measured := by
  unfold measuredFrom
  split <;> rfl

@[simp] theorem measuredFrom_period (crf : CrfListener) : crf.measuredFrom.period = crf.period := by
  unfold measuredFrom
  split <;> rfl

variable {crf : CrfListener}

theorem Measured.turned {after : CrfListener} {ts : List Word} {off : Bool}
    (found : Measured config crf.measuredFrom ts off after) (some : ts ≠ []) (state : CrfState)
    (flag generate doStitch : Bool) (generating : generate = true → state ≠ .locked)
    (passing : generate = false → off = false ∧ state = .locked)
    (stitched : doStitch = true ↔ crf.state = .freeWheelingToLocked ∧ state = .locked)
    (flagged : crf.Flagged → Flagged {after with state := state,freeWheeling := flag}) :
    Turned config .timestamps ts crf ⟨{after with state := state,freeWheeling := flag},generate,doStitch⟩ := by
  have same := found.unmeasured
  rw [measuredFrom_unmeasured] at same
  simp only [CrfListener.unmeasured,Prod.mk.injEq] at same
  obtain ⟨_,last,set,_,source,_,handed,received⟩ := same
  refine ⟨⟨last,set,source,handed,received⟩,?_,?_,generating,?_,stitched,flagged⟩
  · simpa using found.measured
  · intro mean held
    apply found.mean _ (held rfl)
    simpa [MeanIn] using mean
  · intro passed
    obtain ⟨passed,locked⟩ := passing passed
    refine ⟨rfl,locked,found.counted (.inl some),?_,found.inside passed,found.first passed⟩
    change after.receivedTsLast = _
    rw [found.last]
    cases ts with
    | nil => exact absurd rfl some
    | cons _ _ => rfl

private theorem timeout_turned (ts : List Word) (state : CrfState) (flag : Bool) (away : state ≠ .locked)
    (flagged : crf.Flagged → Flagged {crf with state := state,freeWheeling := flag}) :
    Turned config .timeout ts crf ⟨{crf with state := state,freeWheeling := flag},true,false⟩ := by
  refine ⟨⟨rfl,rfl,rfl,rfl,rfl⟩,(append_nil _).symm,fun mean _ => mean,fun _ => away,nofun,?_,flagged⟩
  exact ⟨nofun,fun locked => absurd locked.2 away⟩

theorem crfMeasurePeriod_measured (ts : List Word) (crf : CrfListener) : ∃ rc after,
    crfMeasurePeriod config ts crf = (rc,after) ∧ Measured config crf ts (decide (rc < 0)) after := by
  have found := @measureTimestamps_measured config ts crf
  refine ⟨_,_,rfl,?_⟩
  generalize measureTimestamps config ts crf = outcome at found
  obtain ⟨off,after⟩ := outcome
  cases off
  · change Measured config crf ts
      (decide ((if config.freeWheelingToLockedDelay < after.timestamp then (1 : Int) else 0) < 0)) after
    split <;> exact found
  · exact found

theorem Flagged.crfSetState {after : CrfListener} (flagged : crf.Flagged) (source : after.source = crf.source)
    (flag : after.freeWheeling = crf.freeWheeling) (state : CrfState)
    (turn : state = .freeWheeling ∨ state = .locked ∨ state = .freeWheelingToLocked ∧ crf.state = .freeWheeling ∨
      state = .lockedToFreeWheeling ∧ crf.state = .locked) : (after.crfSetState state).Flagged := by
  intro attached
  change after.source = true at attached
  have before := flagged (source.symm.trans attached)
  unfold CrfListener.crfSetState
  rw [attached,if_pos rfl,flag]
  rcases turn with rfl | rfl | ⟨rfl,idle⟩ | ⟨rfl,idle⟩
  · simp
  · simp
  · simpa [idle] using before
  · simpa [idle] using before

theorem crfTransition_turned (event : CrfEvent) {ts : List Word} (some : ts ≠ []) (crf : CrfListener) :
    Turned config event ts crf (crfTransition config event ts crf) := by
  cases event with
  | timeout =>
    unfold crfTransition
    cases state : crf.state
    case freeWheeling =>
      apply timeout_turned ts crf.state crf.freeWheeling
      · simp [state]
      · exact id
    case locked =>
      apply timeout_turned ts .lockedToFreeWheeling _ (by decide)
      exact fun flagged => flagged.crfSetState rfl rfl _ (by simp [state])
    all_goals
      apply timeout_turned ts .freeWheeling _ (by decide)
      exact fun flagged => flagged.crfSetState rfl rfl _ (by simp)
  | timestamps =>
    obtain ⟨rc,after,value,found⟩ := @crfMeasurePeriod_measured config ts crf.measuredFrom
    have same := found.unmeasured
    rw [measuredFrom_unmeasured] at same
    simp only [CrfListener.unmeasured,Prod.mk.injEq] at same
    obtain ⟨kept,_,_,_,source,flag,_,_⟩ := same
    have unmoved (flagged : crf.Flagged) : after.Flagged := by
      unfold Flagged
      rw [kept,source,flag]
      exact flagged
    have freed : Turned config .timestamps ts crf ⟨after.crfSetState .freeWheeling,true,false⟩ := by
      apply found.turned some .freeWheeling _ true false
      · decide
      · exact nofun
      · simp
      · exact fun flagged => flagged.crfSetState source flag _ (by simp)
    unfold crfTransition
    cases state : crf.state <;> simp only [measuredFrom,state] at value <;> dsimp only <;> rw [value] <;> dsimp only
    case locked =>
      split
      · exact freed
      next fine =>
        apply found.turned some after.state after.freeWheeling false false
        · exact nofun
        · simp [fine,kept,state]
        · simp [state]
        · exact unmoved
    case freeWheeling =>
      split
      · apply found.turned some .freeWheelingToLocked _ true false
        · decide
        · exact nofun
        · simp
        · exact fun flagged => flagged.crfSetState source flag _ (by simp [state])
      next fine =>
        apply found.turned some .locked _ false false
        · exact nofun
        · simp [fine]
        · simp [state]
        · exact fun flagged => flagged.crfSetState source flag _ (by simp)
    case freeWheelingToLocked =>
      split
      · exact freed
      next fine =>
        split
        · apply found.turned some .locked _ false true
          · exact nofun
          · simp [fine]
          · simp [state]
          · exact fun flagged => flagged.crfSetState source flag _ (by simp)
        · apply found.turned some after.state after.freeWheeling true false
          · simp [kept,state]
          · exact nofun
          · simp [kept,state]
          · exact unmoved
    case lockedToFreeWheeling =>
      split
      · exact freed
      next fine =>
        apply found.turned some .locked _ false false
        · exact nofun
        · simp [fine]
        · simp [state]
        · exact fun flagged => flagged.crfSetState source flag _ (by simp)

theorem crfGenerateTimestamps_length (crf : CrfListener) (left : Nat) (tsLast : Word) :
    (crf.crfGenerateTimestamps left tsLast).length = left := by
  induction left generalizing tsLast with
  | zero => rfl
  | succ left ih =>
    rw [crfGenerateTimestamps,length_cons,ih]

theorem crfGenerateTimestamps_chain (mean : MeanIn config crf) (left : Nat) (tsLast : Word) :
    List.IsChain config.Near (tsLast :: crf.crfGenerateTimestamps left tsLast) := by
  induction left generalizing tsLast with
  | zero => exact .singleton _
  | succ left ih =>
    apply List.IsChain.cons_cons _ (ih _)
    rw [config.near_iff,add_comm,add_sub_cancel]
    exact mean

end CrfListener

namespace CrfHanded

def Switch (handed : CrfHanded) : Prop := handed.before = .freeWheelingToLocked ∧ handed.after = .locked

def Follows (config : CrfConfig) (earlier later : CrfHanded) : Prop :=
  later.Switch ∨ config.Near (earlier.ts.getLastD 0) (later.ts.headD 0)

/-- Consecutive timestamps of the clock producer are a period apart, and a jump is stitched. -/
structure Continuous (config : CrfConfig) (handed : List CrfHanded) : Prop where
  inside : ∀ batch ∈ handed, batch.ts ≠ [] ∧ List.IsChain config.Near batch.ts
  across : List.IsChain (Follows config) handed
  stitched : ∀ batch ∈ handed, batch.doStitch = true ↔ batch.Switch

variable {config : CrfConfig}

theorem Continuous.nothing : Continuous config [] := ⟨nofun,.nil,nofun⟩

theorem Continuous.append {handed : List CrfHanded} (continuous : Continuous config handed) {batch : CrfHanded}
    (some : batch.ts ≠ []) (inside : List.IsChain config.Near batch.ts) (stitched : batch.doStitch = true ↔ batch.Switch)
    (follows : ∀ earlier ∈ handed.getLast?, Follows config earlier batch) : Continuous config (handed ++ [batch]) := by
  refine ⟨?_,?_,?_⟩
  · intro each member
    rcases mem_append.mp member with old | new
    · exact continuous.inside each old
    · obtain rfl := mem_singleton.mp new
      exact ⟨some,inside⟩
  · apply isChain_append.mpr ⟨continuous.across,.singleton _,?_⟩
    intro earlier last later first
    obtain rfl := Option.some.inj first
    exact follows earlier last
  · intro each member
    rcases mem_append.mp member with old | new
    · exact continuous.stitched each old
    · obtain rfl := mem_singleton.mp new
      exact stitched

end CrfHanded

namespace CrfListener
open CrfHanded (Continuous Follows)
variable {config : CrfConfig}

/-- The mean is not rounded up above a period that is allowed, and a batch whose first period is not checked after the
machine has started to free-wheel follows the generated timestamps. -/
def Checked (config : CrfConfig) (ts : List Word) (crf : CrfListener) : Prop :=
  MeansHeld config ts crf.measuredFrom ∧
    (crf.source = true → crf.state = .lockedToFreeWheeling → crf.timestamp = 0 → List.IsChain config.Near ts →
      config.Near crf.tsLast (ts.headD 0))

structure Sound (config : CrfConfig) (crf : CrfListener) : Prop where
  mean : MeanIn config crf
  locked : crf.state = .locked → crf.tsLastSet = true → crf.timestamp ≠ 0 ∧ crf.receivedTsLast = crf.tsLast
  unset : crf.tsLastSet = false → crf.state = .locked ∧ crf.handed = []
  last : crf.source = true → ∀ batch ∈ crf.handed.getLast?, batch.ts.getLastD 0 = crf.tsLast
  continuous : Continuous config crf.handed
  flagged : crf.Flagged

variable {crf : CrfListener}

theorem Turned.timestamps {event : CrfEvent} {ts : List Word} {turn : Transition}
    (turned : Turned config event ts crf turn) (some : ts ≠ []) (sound : Sound config crf)
    (checked : event = .timestamps → Checked config ts crf) (sent : List Word)
    (same : sent = if turn.generate then crfGenerateTimestamps turn.crf ts.length turn.crf.generateFrom else ts) :
    sent ≠ [] ∧ List.IsChain config.Near sent ∧ (crf.source = true → crf.tsLastSet = true →
      ¬ (crf.state = .freeWheelingToLocked ∧ turn.crf.state = .locked) → config.Near crf.tsLast (sent.headD 0)) := by
  have mean := turned.mean sound.mean fun found => (checked found).1
  cases generate : turn.generate with
  | true =>
    rw [generate,if_pos rfl] at same
    have chain := @crfGenerateTimestamps_chain config turn.crf mean ts.length turn.crf.generateFrom
    have size := crfGenerateTimestamps_length turn.crf ts.length turn.crf.generateFrom
    rw [← same] at chain size
    have there : sent ≠ [] := by
      intro none
      rw [none] at size
      exact some (eq_nil_of_length_eq_zero size.symm)
    refine ⟨there,chain.tail,?_⟩
    intro _ set _
    have start : turn.crf.generateFrom = crf.tsLast := by
      unfold generateFrom
      rw [turned.kept.2.1,set,if_pos rfl,turned.kept.1]
    rw [start] at chain
    cases sent with
    | nil => exact absurd rfl there
    | cons head _ => exact (isChain_cons_cons.mp chain).1
  | false =>
    rw [generate,if_neg (by decide)] at same
    subst same
    obtain ⟨batch,locked,_,_,chain,first⟩ := turned.passing generate
    refine ⟨some,chain,?_⟩
    intro source set jump
    cases sent with
    | nil => exact absurd rfl some
    | cons head rest =>
      change config.Near crf.tsLast head
      unfold measuredFrom at first
      cases state : crf.state <;> simp only [state] at first
      · obtain ⟨measured,last⟩ := sound.locked state set
        rw [← last]
        exact first measured head rfl
      · exact first (by decide) head rfl
      · exact absurd ⟨state,locked⟩ jump
      · by_cases measured : crf.timestamp = 0
        · exact (checked batch).2 source state measured chain
        · exact first measured head rfl

private theorem crfStateHandler_sound (event : CrfEvent) {ts : List Word} (some : ts ≠ [])
    (sound : Sound config crf) (checked : event = .timestamps → Checked config ts crf) :
    let outcome := crfStateHandler config event ts crf
    Sound config outcome.2 ∧ outcome.2.measured = crf.measured ++ (if event = .timestamps then ts else []) ∧
      outcome.2.received = crf.received ∧ outcome.2.source = crf.source ∧ (crf.source = true → outcome.1 = []) := by
  have turned := @crfTransition_turned config event ts some crf
  obtain ⟨there,inside,follows⟩ := turned.timestamps some sound checked _ rfl
  unfold crfStateHandler
  dsimp only
  generalize crfTransition config event ts crf = turn at turned there inside follows
  generalize sent : (if turn.generate then crfGenerateTimestamps turn.crf ts.length turn.crf.generateFrom else ts) = out
    at there inside follows
  obtain ⟨_,_,source,handed,received⟩ := turned.kept
  have locked : turn.crf.state = .locked → turn.crf.timestamp ≠ 0 ∧ turn.crf.receivedTsLast = out.getLastD 0 := by
    intro locked
    cases generate : turn.generate with
    | true => exact absurd locked (turned.generating generate)
    | false =>
      rw [generate,if_neg (by decide)] at sent
      rw [← sent]
      exact ⟨(turned.passing generate).2.2.1,(turned.passing generate).2.2.2.1⟩
  have mean := turned.mean sound.mean fun found => (checked found).1
  have flagged := turned.flagged sound.flagged
  split
  next attached =>
    have attached : crf.source = true := source.symm.trans attached
    refine ⟨⟨mean,fun state _ => locked state,nofun,?_,?_,flagged⟩,turned.measured,received,source,fun _ => rfl⟩
    · intro _ batch last
      rw [List.getLast?_concat] at last
      obtain rfl := Option.some.inj last
      rfl
    · dsimp only
      rw [handed]
      apply sound.continuous.append there inside turned.stitched
      intro earlier last
      by_cases jump : crf.state = .freeWheelingToLocked ∧ turn.crf.state = .locked
      · exact .inl jump
      · right
        rw [sound.last attached earlier last]
        apply follows attached _ jump
        cases set : crf.tsLastSet with
        | true => rfl
        | false =>
          rw [(sound.unset set).2] at last
          exact nomatch last
  next detached =>
    refine ⟨⟨mean,fun state _ => locked state,nofun,?_,?_,flagged⟩,turned.measured,received,source,?_⟩
    · exact fun attached => absurd attached detached
    · dsimp only
      rw [handed]
      exact sound.continuous
    · exact fun attached => absurd (source.trans attached) detached

private theorem readClock_sound (sound : Sound config crf) (gptp : Option Word) : Sound config (crf.readClock gptp) :=
  {sound with}

end CrfListener

namespace CrfRx
open CrfListener (Checked Sound)
variable {config : CrfConfig}

def accepted (config : CrfConfig) (frame : NetRxDesc) : Bool := !mismatch config frame && tsValid config frame

def BatchesChecked (config : CrfConfig) : List NetRxDesc → CrfRx → Prop
  | [],rx => rx.ts ≠ [] → Checked config rx.ts rx.crf
  | frame :: rest,rx =>
    (mismatch config frame = true → rx.ts ≠ [] → Checked config rx.ts rx.crf) ∧
      BatchesChecked config rest (rx.receive config frame)

def FlushedOnce (config : CrfConfig) : List NetRxDesc → Prop :=
  List.Pairwise fun earlier later => ¬ (accepted config earlier = true ∧ mismatch config later = true)

structure Going (config : CrfConfig) (rest : List NetRxDesc) (rx : CrfRx) : Prop where
  sound : Sound config rx.crf
  counted : rx.crf.received = rx.crf.measured ++ rx.ts
  flushed : rx.crf.source = false → FlushedOnce config rest
  kept : rx.crf.source = false → rx.ts ≠ [] → ∀ frame ∈ rest, mismatch config frame = false

variable {rest : List NetRxDesc}

private theorem descFlush_going {rx : CrfRx} (going : Going config rest rx)
    (checked : rx.ts ≠ [] → Checked config rx.ts rx.crf) :
    let flushed := rx.descFlush config
    Sound config flushed.crf ∧ flushed.crf.received = flushed.crf.measured ∧ flushed.crf.source = rx.crf.source ∧
      (rx.crf.source = true ∨ rx.ts = [] → flushed.ts = []) := by
  unfold descFlush
  cases some : rx.ts with
  | nil =>
    refine ⟨going.sound,?_,rfl,fun _ => rfl⟩
    have counted := going.counted
    rw [some,append_nil] at counted
    exact counted
  | cons head tail =>
    rw [some] at checked
    have there := cons_ne_nil head tail
    obtain ⟨sound,measured,received,source,emptied⟩ :=
      CrfListener.crfStateHandler_sound .timestamps there going.sound fun _ => checked there
    have same : rx.crf.received = rx.crf.measured ++ if CrfEvent.timestamps = .timestamps then head :: tail else [] := by
      rw [if_pos rfl,going.counted,some]
    refine ⟨sound,?_,source,?_⟩
    · exact received.trans (same.trans measured.symm)
    · exact fun attached => emptied (attached.resolve_right there)

theorem receive_going {frame : NetRxDesc} {rx : CrfRx} (going : Going config (frame :: rest) rx)
    (checked : mismatch config frame = true → rx.ts ≠ [] → Checked config rx.ts rx.crf) :
    Going config rest (rx.receive config frame) := by
  unfold receive
  split
  next flush =>
    obtain ⟨sound,counted,source,emptied⟩ := descFlush_going going (checked flush)
    have none : (rx.descFlush config).ts = [] := by
      apply emptied
      cases attached : rx.crf.source with
      | true => exact .inl rfl
      | false =>
        right
        by_contra some
        have fits := going.kept attached some frame (List.mem_cons_self ..)
        exact Bool.noConfusion (flush.symm.trans fits)
    refine ⟨sound,?_,?_,fun _ some => absurd none some⟩
    · dsimp only
      rw [counted,none,List.append_nil]
    · exact fun detached => (going.flushed (source.symm.trans detached)).tail
  next fits =>
    split
    next valid =>
      have sound := going.sound
      refine ⟨{sound with},?_,?_,?_⟩
      · dsimp only
        rw [going.counted,List.append_assoc]
      · exact fun detached => (going.flushed detached).tail
      · intro detached _ later member
        have once := (List.pairwise_cons.mp (going.flushed detached)).1 later member
        rw [Bool.not_eq_true] at fits
        have taken : accepted config frame = true := by
          rw [accepted,fits,valid]
          rfl
        exact Bool.eq_false_iff.mpr fun flush => once ⟨taken,flush⟩
    next invalid =>
      exact ⟨going.sound,going.counted,fun detached => (going.flushed detached).tail,
        fun detached some other member => going.kept detached some other (.tail _ member)⟩

theorem batches_going {rx : CrfRx} (going : Going config rest rx) (checked : BatchesChecked config rest rx) :
    let last := (rest.foldl (CrfRx.receive config) rx).descFlush config
    Sound config last.crf ∧ last.crf.received = last.crf.measured := by
  induction rest generalizing rx with
  | nil =>
    obtain ⟨sound,counted,_⟩ := descFlush_going going checked
    exact ⟨sound,counted⟩
  | cons frame rest ih => exact ih (receive_going going checked.1) checked.2

end CrfRx

namespace CrfListener
open CrfHanded (Continuous)
variable {config : CrfConfig}

/-- What an input must be in the state that it finds: batches are checked, none is measured twice
without a clock source, and a source is not attached while the machine free-wheels. -/
def Steady (config : CrfConfig) (crf : CrfListener) : CrfInput → Prop
  | .receive gptp desc =>
    CrfRx.BatchesChecked config desc ⟨crf.readClock gptp,[],[],[]⟩ ∧
      (crf.source = false → CrfRx.FlushedOnce config desc)
  | .sourceOpen => crf.source = false → crf.state = .locked ∨ crf.state = .lockedToFreeWheeling
  | _ => True

/-- The output of a CRF listener is right: it is continuous, each timestamp was measured once, and
the flag is that of the state. -/
structure Right (config : CrfConfig) (crf : CrfListener) : Prop where
  continuous : Continuous config crf.handed
  once : crf.measured = crf.received
  flagged : crf.Flagged

theorem step_sound (crf : CrfListener) (input : CrfInput) (state : Sound config crf ∧ crf.received = crf.measured)
    (steady : Steady config crf input) :
    Sound config (step config input crf) ∧ (step config input crf).received = (step config input crf).measured := by
  obtain ⟨sound,counted⟩ := state
  cases input with
  | receive gptp desc =>
    apply CrfRx.batches_going ?_ steady.1
    refine ⟨readClock_sound sound gptp,?_,steady.2,fun _ some => absurd rfl some⟩
    exact counted.trans (append_nil _).symm
  | timer gptp =>
    have some : List.replicate config.timestampsPerPdu (0 : Word) ≠ [] := by
      rw [Ne,replicate_eq_nil_iff]
      exact Nat.ne_of_gt config.some
    obtain ⟨after,measured,received,_⟩ :=
      crfStateHandler_sound .timeout some (readClock_sound sound gptp) nofun
    refine ⟨after,received.trans (counted.trans ?_)⟩
    exact (measured.trans (append_nil _)).symm
  | sourceOpen =>
    simp only [step]
    split
    · exact ⟨sound,counted⟩
    next detached =>
      have idle := steady (Bool.eq_false_iff.mpr detached)
      refine ⟨⟨sound.mean,sound.locked,fun unset => ⟨(sound.unset unset).1,rfl⟩,nofun,Continuous.nothing,?_⟩,counted⟩
      intro _
      rcases idle with state | state <;> simp [state]
  | sourceClose =>
    exact ⟨⟨sound.mean,sound.locked,sound.unset,nofun,sound.continuous,nofun⟩,counted⟩

theorem init_sound (config : CrfConfig) : Sound config (init config) := by
  refine ⟨?_,nofun,fun _ => ⟨rfl,rfl⟩,nofun,Continuous.nothing,nofun⟩
  unfold MeanIn init shortest longest
  dsimp only
  omega

/-- A listener whose inputs are all steady has the right output in every state. -/
theorem crf_continuous (config : CrfConfig) (inputs : List CrfInput)
    (steady : Steps (step config) (Steady config) inputs (init config)) :
    Right config (run (step config) inputs (init config)) := by
  obtain ⟨sound,counted⟩ := run_invariant (step config)
    (fun crf input state allowed => step_sound crf input state allowed) ⟨init_sound config,rfl⟩ steady
  exact ⟨sound.continuous,counted.symm,sound.flagged⟩

def crfFormat : CrfConfig := ⟨1,(0,0),1,2000000,1000,2000000,125000,by decide,by decide⟩

def crfFrame (rx : Word) (ts : List Byte) : NetRxDesc :=
  ⟨0,128,60,146,rx,Memory.write (Memory.write (fun _ => 0) 149 [1]) 170 ts⟩

theorem crfFrames_continuous : Right crfFormat (run (step crfFormat)
    [.sourceOpen,.receive none [crfFrame 2000000 [0,0x26,0x25,0xa0]],.receive none [crfFrame 4000000 [0,0x44,0xaa,0x20]]]
    (init crfFormat)) := by
  apply crf_continuous
  refine ⟨fun _ => .inl rfl,⟨⟨nofun,?_⟩,nofun⟩,⟨⟨nofun,?_⟩,nofun⟩,trivial⟩
  · intro _
    refine ⟨⟨nofun,trivial⟩,nofun⟩
  · intro _
    refine ⟨⟨nofun,trivial⟩,nofun⟩

/-- After a timestamp that is not valid, free-wheeling starts and the first valid timestamp is not checked. -/
theorem crfFrame_jumps : ¬ Right crfFormat (run (step crfFormat)
    [.sourceOpen,.receive (some 0) [crfFrame 0 [0x40,0,0,0]],.timer (some 1000000),
      .receive (some 2000000) [crfFrame 2000000 [0,0x26,0x25,0xa0]]] (init crfFormat)) := by
  intro right
  have across := right.continuous.across
  rw [handed] at across
  rcases (isChain_cons_cons.mp across).1 with jump | near
  · exact absurd jump.1 (by decide)
  · exact absurd near (by unfold Near; decide)

end CrfListener

end Genavb.Avtp
