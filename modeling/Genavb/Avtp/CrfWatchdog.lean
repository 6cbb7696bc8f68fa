import Genavb.Avtp.CrfContinuity

/-! The watchdog of a CRF listener: the timer that each event of its state machine starts for the timestamps that come
next, and that generates others when they do not come. -/
namespace Genavb.Avtp
open Genavb.Support CrfListener List BitVec

def MCR_DELAY : Word := 5000000

def NSECS_PER_MS : Word := 1000000

/-- `timer_start`, which refuses a timer that runs and a time of zero. -/
def timerStart (ms : Word) (timer : Option Word) : Option Word := if timer.isSome || ms == 0 then timer else some ms

namespace CrfListener
variable (config : CrfConfig)

def stitchOffset (stitchTsOffset : Word) (crf : CrfListener) : Word := if crf.source then stitchTsOffset else 0

def crfNextTimeout (stitchTsOffset : Word) (crf : CrfListener) : Word :=
  (crf.tsLast + crf.stitchOffset stitchTsOffset + crf.period + MCR_DELAY / 2 - crf.gptpCurrent) / NSECS_PER_MS

variable (event : CrfEvent) (ts : List Word) (crf : CrfListener)

/-- The last timestamp that an event uses: of those received, or of as many generated ones. -/
def lastUsed : Word :=
  let turn := crfTransition config event ts crf
  if turn.generate then turn.crf.generateFrom + BitVec.ofNat 32 ts.length * turn.crf.period else ts.getLastD 0

/-- The time that is left to the next required timestamp when an event is handled, and the margin to recover. -/
def timeLeft (stitchTsOffset : Word) : Word :=
  lastUsed config event ts crf + crf.stitchOffset stitchTsOffset + (crfTransition config event ts crf).crf.period +
    MCR_DELAY / 2 - crf.gptpCurrent

variable {config} {event} {ts} {crf}

theorem crfTransition_kept : (crfTransition config event ts crf).crf.source = crf.source ∧
    (crfTransition config event ts crf).crf.gptpCurrent = crf.gptpCurrent := by
  obtain ⟨rc,after,value,found⟩ := @crfMeasurePeriod_measured config ts crf.measuredFrom
  have same := found.unmeasured
  rw [measuredFrom_unmeasured] at same
  simp only [unmeasured,Prod.mk.injEq] at same
  obtain ⟨_,_,_,gptp,source,_⟩ := same
  unfold crfTransition
  cases event with
  | timeout => cases crf.state <;> exact ⟨rfl,rfl⟩
  | timestamps =>
    cases state : crf.state <;> simp only [measuredFrom,state] at value <;> dsimp only <;> rw [value] <;> dsimp only
    case freeWheelingToLocked => split <;> [skip;split] <;> exact ⟨source,gptp⟩
    all_goals split <;> exact ⟨source,gptp⟩

theorem crfGenerateTimestamps_last (left : Nat) (tsLast : Word) : (crfGenerateTimestamps crf left tsLast).getLastD tsLast =
    tsLast + BitVec.ofNat 32 left * crf.period := by
  induction left generalizing tsLast with
  | zero => simp [crfGenerateTimestamps]
  | succ left ih =>
    rw [crfGenerateTimestamps,List.getLastD_cons,ih,BitVec.ofNat_add,BitVec.add_mul,BitVec.one_mul,BitVec.add_assoc,
      BitVec.add_comm crf.period]

theorem crfStateHandler_timeout (some : ts ≠ []) (stitchTsOffset : Word) :
    (crf.crfStateHandler config event ts).2.crfNextTimeout stitchTsOffset =
      crf.timeLeft config event ts stitchTsOffset / NSECS_PER_MS := by
  obtain ⟨source,gptp⟩ := @crfTransition_kept config event ts crf
  have last : (if (crfTransition config event ts crf).generate then
        crfGenerateTimestamps (crfTransition config event ts crf).crf ts.length
          (crfTransition config event ts crf).crf.generateFrom
      else ts).getLastD 0 = lastUsed config event ts crf := by
    unfold lastUsed
    dsimp only
    split
    next generating =>
      rw [← crfGenerateTimestamps_last]
      cases ts with
      | nil => exact absurd rfl some
      | cons _ _ => rfl
    · rfl
  unfold timeLeft crfNextTimeout stitchOffset
  rw [← source,← gptp]
  unfold crfStateHandler
  dsimp only
  split <;> dsimp only <;> rw [last]

end CrfListener

/-- An event of the state machine, in the state that it found, and the timer that it left. -/
structure CrfHandling where
  event : CrfEvent
  ts : List Word
  stitchTsOffset : Word
  before : CrfListener
  timer : Option Word

namespace CrfHandling
variable (config : CrfConfig) (handling : CrfHandling)

def left : Int := (handling.before.timeLeft config handling.event handling.ts handling.stitchTsOffset).toInt

/-- The timer runs, for one unit at least and no longer than the time that is left. -/
def Guarded : Prop :=
  ∃ ms, handling.timer = some ms ∧ 1 ≤ ms.toNat ∧ (ms.toNat * NSECS_PER_MS.toNat : Nat) ≤ handling.left config

def InTime : Prop := NSECS_PER_MS.toNat ≤ handling.left config

end CrfHandling

structure CrfWatch where
  rx : CrfRx
  timer : Option Word
  handled : List CrfHandling

namespace CrfWatch
variable (config : CrfConfig) (stitch : Nat → Word)

def init : CrfWatch := ⟨⟨CrfListener.init config,[],[],[]⟩,none,[]⟩

/-- `crf_state_handler`, which timestamps find with the timer stopped and a timeout with the timer expired. The offset
is what the clock producer has set it to so far. -/
def crfStateHandler (event : CrfEvent) (ts : List Word) (watch : CrfWatch) : CrfWatch :=
  let stitchTsOffset := stitch watch.handled.length
  let (rest,crf) := watch.rx.crf.crfStateHandler config event ts
  let timer := timerStart (crf.crfNextTimeout stitchTsOffset) none
  ⟨{watch.rx with crf := crf,ts := rest},timer,watch.handled ++ [⟨event,ts,stitchTsOffset,watch.rx.crf,timer⟩]⟩

def descFlush (watch : CrfWatch) : CrfWatch :=
  let watch :=
    if watch.rx.ts.isEmpty then {watch with timer := timerStart 1 watch.timer}
    else watch.crfStateHandler config stitch .timestamps watch.rx.ts
  {watch with rx := {watch.rx with desc := [],freed := watch.rx.freed ++ watch.rx.desc}}

def receive (watch : CrfWatch) (frame : NetRxDesc) : CrfWatch :=
  if CrfRx.mismatch config frame then
    let watch := watch.descFlush config stitch
    {watch with rx := {watch.rx with freed := watch.rx.freed ++ [frame.id]}}
  else {watch with rx := watch.rx.receive config frame}

def readClock (gptp : Option Word) (watch : CrfWatch) : CrfWatch :=
  {watch with rx := ⟨watch.rx.crf.readClock gptp,[],[],[]⟩}

def step : CrfInput → CrfWatch → CrfWatch
  | .receive gptp desc,watch => (desc.foldl (receive config stitch) (watch.readClock gptp)).descFlush config stitch
  | .timer gptp,watch =>
    if watch.timer.isSome then
      (watch.readClock gptp).crfStateHandler config stitch .timeout (List.replicate config.timestampsPerPdu 0)
    else watch
  | input,watch => {watch with rx := {watch.rx with crf := watch.rx.crf.step config input}}

variable {config : CrfConfig} {stitch : Nat → Word}

/-- What a run keeps: every event has started its timer for the time that was left to it, and a timer that the last
event has started is not stopped without another one. -/
structure Timed (config : CrfConfig) (watch : CrfWatch) : Prop where
  started : ∀ handling ∈ watch.handled, handling.timer = timerStart (handling.before.timeLeft config handling.event
    handling.ts handling.stitchTsOffset / NSECS_PER_MS) none
  running : watch.timer = none → ∀ handling ∈ watch.handled.getLast?, handling.timer = none

private theorem crfStateHandler_timed {event : CrfEvent} {ts : List Word} {watch : CrfWatch} (timed : Timed config watch)
    (some : ts ≠ []) : Timed config (watch.crfStateHandler config stitch event ts) := by
  refine ⟨fun handling member => ?_,fun stopped handling member => ?_⟩
  · obtain former | rfl := (mem_append.mp member).imp_right mem_singleton.mp
    · exact timed.started handling former
    · exact congrArg (timerStart · none) (crfStateHandler_timeout some _)
  · change handling ∈ (watch.handled ++ [_]).getLast? at member
    rw [List.getLast?_concat] at member
    obtain rfl := Option.some.inj member
    exact stopped

private theorem descFlush_timed {watch : CrfWatch} (timed : Timed config watch) :
    Timed config (watch.descFlush config stitch) := by
  unfold descFlush
  split
  · refine ⟨timed.started,fun stopped => timed.running ?_⟩
    cases running : watch.timer with
    | none => rfl
    | some ms => simp [timerStart,running] at stopped
  next some =>
    have after := @crfStateHandler_timed config stitch .timestamps _ _ timed fun none => some (isEmpty_iff.mpr none)
    exact ⟨after.started,after.running⟩

theorem receive_timed {watch : CrfWatch} (timed : Timed config watch) (frame : NetRxDesc) :
    Timed config (watch.receive config stitch frame) := by
  unfold receive
  split
  · have after := @descFlush_timed config stitch _ timed
    exact ⟨after.started,after.running⟩
  · exact ⟨timed.started,timed.running⟩

theorem step_timed (watch : CrfWatch) (input : CrfInput) (timed : Timed config watch) :
    Timed config (watch.step config stitch input) := by
  have read (gptp : Option Word) : Timed config (watch.readClock gptp) := ⟨timed.started,timed.running⟩
  cases input with
  | receive gptp desc =>
    apply descFlush_timed
    exact List.foldlRecOn desc _ (read gptp) fun _ timed frame _ => receive_timed timed frame
  | timer gptp =>
    rw [step]
    split
    · apply crfStateHandler_timed (read gptp)
      rw [Ne,replicate_eq_nil_iff]
      exact Nat.ne_of_gt config.some
    · exact timed
  | sourceOpen | sourceClose => exact ⟨timed.started,timed.running⟩

/-- The timer layer takes the time that is left in whole units, and takes it only when it is not over. -/
theorem guarded_iff {handling : CrfHandling} (started : handling.timer = timerStart
    (handling.before.timeLeft config handling.event handling.ts handling.stitchTsOffset / NSECS_PER_MS) none) :
    handling.Guarded config ↔ handling.InTime config := by
  unfold CrfHandling.Guarded CrfHandling.InTime CrfHandling.left
  generalize handling.before.timeLeft config handling.event handling.ts handling.stitchTsOffset = left at started ⊢
  have unit : NSECS_PER_MS.toNat = 1000000 := rfl
  have units : (left / NSECS_PER_MS).toNat = left.toNat / 1000000 := toNat_udiv
  have signed := toInt_eq_toNat_cond left
  rw [started,unit]
  constructor
  · rintro ⟨ms,_,one,held⟩
    omega
  · intro later
    have whole : left.toInt = left.toNat := by
      split at signed <;> omega
    clear signed started
    have some : left / NSECS_PER_MS ≠ 0 := by
      intro none
      have zero := congrArg BitVec.toNat none
      rw [units] at zero
      change _ = 0 at zero
      omega
    refine ⟨left / NSECS_PER_MS,?_,?_,?_⟩
    · simpa [timerStart] using some
    · omega
    · rw [units,whole]
      omega

/-- The watchdog is awake: every event was guarded, the timer still runs after the last one, and when it expires
timestamps are generated, under a timer of their own. -/
structure Awake (config : CrfConfig) (stitch : Nat → Word) (watch : CrfWatch) : Prop where
  guarded : ∀ handling ∈ watch.handled, handling.Guarded config
  running : watch.handled ≠ [] → watch.timer ≠ none
  generating : watch.timer ≠ none → ∀ gptp,
    let crf := watch.rx.crf.readClock gptp
    let generated := crf.crfGenerateTimestamps config.timestampsPerPdu crf.generateFrom
    let after := (watch.step config stitch (.timer gptp)).rx
    (crf.source = false → after.ts = generated) ∧
      (crf.source = true → ∃ state, after.crf.handed = crf.handed ++ [⟨crf.state,state,generated,false⟩])

theorem timeout_generates (watch : CrfWatch) : let crf := watch.rx.crf
    let generated := crf.crfGenerateTimestamps config.timestampsPerPdu crf.generateFrom
    let after := (watch.crfStateHandler config stitch .timeout (List.replicate config.timestampsPerPdu 0)).rx
    (crf.source = false → after.ts = generated) ∧
      (crf.source = true → ∃ state, after.crf.handed = crf.handed ++ [⟨crf.state,state,generated,false⟩]) := by
  have periodic (after : CrfListener) (period : after.period = watch.rx.crf.period) (left : Nat) (tsLast : Word) :
      after.crfGenerateTimestamps left tsLast = watch.rx.crf.crfGenerateTimestamps left tsLast := by
    induction left generalizing tsLast with
    | zero => rfl
    | succ left ih => rw [CrfListener.crfGenerateTimestamps,ih,period,CrfListener.crfGenerateTimestamps]
  unfold crfStateHandler CrfListener.crfStateHandler CrfListener.crfTransition
  cases state : watch.rx.crf.state <;> cases source : watch.rx.crf.source <;>
    simp [crfSetState,generateFrom,state,source,periodic]

/-- The watchdog is awake after a run exactly when each event was handled in time. -/
theorem watch_awake (config : CrfConfig) (stitch : Nat → Word) (inputs : List CrfInput) :
    Awake config stitch (run (step config stitch) inputs (init config)) ↔
      ∀ handling ∈ (run (step config stitch) inputs (init config)).handled, handling.InTime config := by
  have timed : Timed config (run (step config stitch) inputs (init config)) :=
    List.foldlRecOn inputs _ ⟨nofun,fun _ => nofun⟩ fun watch timed input _ => step_timed watch input timed
  generalize run (step config stitch) inputs (init config) = watch at timed
  constructor
  · intro awake handling member
    exact (guarded_iff (timed.started handling member)).mp (awake.guarded handling member)
  · intro inTime
    have guarded (handling : CrfHandling) (member : handling ∈ watch.handled) : handling.Guarded config :=
      (guarded_iff (timed.started handling member)).mpr (inTime handling member)
    refine ⟨guarded,fun some stopped => ?_,fun running gptp => ?_⟩
    · have last := List.getLast?_eq_some_getLast some
      obtain ⟨ms,started,_⟩ := guarded _ (getLast_mem some)
      rw [timed.running stopped _ last] at started
      exact nomatch started
    · have ticked : watch.step config stitch (.timer gptp) = (watch.readClock gptp).crfStateHandler config stitch .timeout
          (List.replicate config.timestampsPerPdu 0) := if_pos (Option.isSome_iff_ne_none.mpr running)
      rw [ticked]
      exact timeout_generates (watch.readClock gptp)

/-- A packet that is handled 4.2 ms after it was received leaves less than a unit to the next timestamp, and no timer. -/
theorem watch_silent : ¬ ∀ (config : CrfConfig) (stitch : Nat → Word) (inputs : List CrfInput),
    Awake config stitch (run (step config stitch) inputs (init config)) := by
  intro always
  have awake := always crfFormat (fun _ => 0)
    [.receive (some 6200000) [crfFrame 2000000 [0,0x26,0x25,0xa0]]]
  exact awake.running (ne_nil_of_length_pos (by decide)) (by decide)

end CrfWatch

end Genavb.Avtp
