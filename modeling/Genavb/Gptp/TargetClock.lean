import Genavb.Support.Run
import Mathlib.Tactic.NormNum

/-! The control loop of the target clock (`target_clock_adj.c`). -/
namespace Genavb.Gptp
open Genavb.Support BitVec Option

def PTP_MAXFREQ_PPB : Int := 200000
def PTP_PHASE_DISCONT_THRESHOLD : Int := 4000

/-- A result of signed 64-bit arithmetic, with none for an overflow. -/
def s64 (x : Int) : Option Int := if -2^63 ≤ x ∧ x < 2^63 then some x else none

def s64Div (x y : Int) : Option Int := if y = 0 then none else s64 (x.tdiv y)

/-- `os_abs` takes and returns an `int`. -/
def osAbs (j : Int) : Int :=
  let j := BitVec.ofInt 32 j
  if j.toInt < 0 then (-j).toInt else j.toInt

def osLlabs (j : Int) : Option Int := if j < 0 then s64 (-j) else some j

inductive TargetPll
  | unlocked
  | locking
  | locked
  deriving DecidableEq

structure TargetClkadjParams where
  hwOffset : Bool
  hwRatio : Bool
  state : TargetPll
  freqChange : Bool
  phaseChange : Bool
  previousReceiptTime : BitVec 64
  previousReceiptLocalTime : BitVec 64
  integral : Int
  previousErr : Int
  lastPpb : Int
  deriving DecidableEq

/-- A sync with its times on the two clocks, and the ppb that `gm_rate_ratio` amounts to. -/
structure SyncTimes where
  receiptTime : BitVec 64
  receiptLocalTime : BitVec 64
  gmPpb : Int

/-- What a call does to the clock: the arguments of `os_clock_setfreq` and `os_clock_setoffset`. -/
structure ClockAdjustment where
  setfreq : Option Int
  setoffset : Option Int
  rejected : Bool
  discontinuity : Bool
  deriving DecidableEq

namespace TargetClkadjParams

def unlock (params : TargetClkadjParams) : TargetClkadjParams := {params with state := .unlocked}

def reset (params : TargetClkadjParams) : TargetClkadjParams :=
  {params.unlock with freqChange := true,lastPpb := 0}

def exit (params : TargetClkadjParams) (sync : SyncTimes) (freqChange phaseChange : Bool) : TargetClkadjParams :=
  {params with
    freqChange := freqChange
    phaseChange := phaseChange
    previousReceiptTime := sync.receiptTime
    previousReceiptLocalTime := sync.receiptLocalTime}

def waits (params : TargetClkadjParams) (sync : SyncTimes) (rejected : Bool) : TargetClkadjParams × ClockAdjustment :=
  (params.exit sync false false,⟨none,none,rejected,false⟩)

def adjust (params : TargetClkadjParams) (sync : SyncTimes) (ppb err : Int) (offset : Option Int) :
    TargetClkadjParams × ClockAdjustment :=
  let freqChange : Bool := ppb ≠ params.lastPpb
  ({params.exit sync freqChange offset.isSome with lastPpb := ppb,previousErr := err},
    ⟨if freqChange then some ppb else none,offset,false,offset.isSome && params.hwOffset⟩)

/-- The correction estimated from two syncs, or none if it takes another one. -/
def estimate (params : TargetClkadjParams) (sync : SyncTimes) (dtNs : Int) : Option (Option Int) :=
  if ¬(params.hwOffset || params.hwRatio) then some (some sync.gmPpb)
  else if params.freqChange then some none
  else if params.hwOffset && params.phaseChange then some none
  else if ¬ params.previousReceiptLocalTime < sync.receiptLocalTime then some none
  else do
    let dtLocal := (sync.receiptLocalTime - params.previousReceiptLocalTime).toInt
    let ratio ← s64Div (← s64 (dtNs * 1000000000)) dtLocal
    let ppb ← s64 (ratio - 1000000000)
    return some (← s64 (ppb + params.lastPpb))

def locking (params : TargetClkadjParams) (sync : SyncTimes) (errNs absErrNs dtNs : Int) :
    Option (TargetClkadjParams × ClockAdjustment) := do
  let params := {params with state := .locking}
  match ← params.estimate sync dtNs with
  | none => return params.waits sync false
  | some ppb =>
    if PTP_MAXFREQ_PPB < osAbs ppb then return params.waits sync true
    let offset := if PTP_PHASE_DISCONT_THRESHOLD < absErrNs then some errNs else none
    let integral ← s64 ((← s64 (ppb + 1000000000)) * 16)
    return {params with integral := integral,state := .locked}.adjust sync ppb 0 offset

def locked (params : TargetClkadjParams) (sync : SyncTimes) (errNs dtNs : Int) :
    Option (TargetClkadjParams × ClockAdjustment) := do
  let err ← s64Div (← s64 (errNs * 1000000000)) dtNs
  let integral ← s64 (params.integral + (← s64 (err + params.previousErr)).tdiv 2)
  let ppb ← s64 ((← s64 (err.tdiv 2 + integral.tdiv 16)) - 1000000000)
  return {params with integral := integral}.adjust sync ppb err none

def errNs (sync : SyncTimes) : Int := (sync.receiptTime - sync.receiptLocalTime).toInt

def dtNs (params : TargetClkadjParams) (sync : SyncTimes) : Int :=
  (sync.receiptTime - params.previousReceiptTime).toInt

def dtLocal (params : TargetClkadjParams) (sync : SyncTimes) : Int :=
  (sync.receiptLocalTime - params.previousReceiptLocalTime).toInt

/-- `target_clock_adjust_on_sync`, which is none where its arithmetic has no result. -/
def adjustOnSync (params : TargetClkadjParams) (sync : SyncTimes) : Option (TargetClkadjParams × ClockAdjustment) := do
  let errNs := errNs sync
  let dtNs := params.dtNs sync
  let absErrNs ← osLlabs errNs
  if params.state = .locked ∧ absErrNs ≤ PTP_PHASE_DISCONT_THRESHOLD then params.locked sync errNs dtNs
  else params.locking sync errNs absErrNs dtNs

end TargetClkadjParams

inductive TargetClkadjEvent
  | sync (times : SyncTimes)
  | gmChange
  | systemRoleChange (isGrandmaster : Bool)

namespace TargetClkadjParams

def handle (params : TargetClkadjParams) : TargetClkadjEvent → Option (TargetClkadjParams × ClockAdjustment)
  | .sync times => params.adjustOnSync times
  | .gmChange => some (params.unlock,⟨none,none,false,false⟩)
  | .systemRoleChange isGrandmaster =>
    if isGrandmaster then some (params.reset,⟨some 0,none,false,params.hwOffset⟩)
    else some (params,⟨none,none,false,false⟩)

def step (event : TargetClkadjEvent) (params : TargetClkadjParams) : TargetClkadjParams :=
  ((params.handle event).map Prod.fst).getD params

/-- The controller as `target_clkadj_params_init` leaves it, in whatever memory it was. -/
def init (memory : TargetClkadjParams) : TargetClkadjParams := memory.reset

end TargetClkadjParams

private theorem s64_fits {x : Int} (low : -2^63 ≤ x) (high : x < 2^63) : s64 x = some x := if_pos ⟨low,high⟩

private theorem s64_eq_some {x y : Int} : s64 x = some y ↔ (-2^63 ≤ x ∧ x < 2^63) ∧ y = x := by
  unfold s64
  split
  next fits => exact ⟨fun same => ⟨fits,(Option.some.inj same).symm⟩,fun ⟨_,same⟩ => congrArg some same.symm⟩
  next beyond => exact ⟨fun none => (nomatch none),fun range => absurd range.1 beyond⟩

private theorem tdiv_within {x bound : Int} (y : Int) (low : -bound ≤ x) (high : x ≤ bound) :
    -bound ≤ x.tdiv y ∧ x.tdiv y ≤ bound := by
  have smaller := Int.natAbs_tdiv_le_natAbs x y
  omega

private theorem s64Div_fits {x y bound : Int} (apart : y ≠ 0) (low : -bound ≤ x) (high : x ≤ bound) (small : bound < 2^63) :
    s64Div x y = some (x.tdiv y) := by
  have within := tdiv_within y low high
  rw [s64Div,if_neg apart]
  exact s64_fits (by omega) (by omega)

private theorem osLlabs_fits {j : Int} (low : -2^63 < j) (high : j < 2^63) : osLlabs j = some |j| := by
  unfold osLlabs
  split
  next below => rw [abs_of_neg below]; exact s64_fits (by omega) (by omega)
  next above => rw [abs_of_nonneg (by omega)]

namespace TargetClkadjParams
variable {params : TargetClkadjParams} {sync : SyncTimes}

theorem errNs_range : -2^63 ≤ errNs sync ∧ errNs sync < 2^63 :=
  ⟨le_toInt _,toInt_lt⟩

def Tracks (params : TargetClkadjParams) (sync : SyncTimes) : Prop :=
  params.state = .locked ∧ |errNs sync| ≤ PTP_PHASE_DISCONT_THRESHOLD

/-- The sync ends an interval without an adjustment, from which the ratio is estimated. -/
def Measures (params : TargetClkadjParams) (sync : SyncTimes) : Prop :=
  ¬params.Tracks sync ∧ params.freqChange = false ∧ (params.hwOffset && params.phaseChange) = false ∧
    params.previousReceiptLocalTime < sync.receiptLocalTime

/-- The phase error for each second of the interval, in ppb. -/
def phaseRate (params : TargetClkadjParams) (sync : SyncTimes) : Int :=
  (errNs sync * 1000000000).tdiv (params.dtNs sync)

/-- How much faster than the local clock the master runs over the interval, in ppb. -/
def rateOffset (params : TargetClkadjParams) (sync : SyncTimes) : Int :=
  (params.dtNs sync * 1000000000).tdiv (params.dtLocal sync) - 1000000000

structure Admissible (params : TargetClkadjParams) (sync : SyncTimes) : Prop where
  phase : errNs sync ≠ -2^63
  elapsed : params.Tracks sync → params.dtNs sync ≠ 0
  controlled : params.Tracks sync →
    |(params.phaseRate sync).tdiv 2 + (params.integral + (params.phaseRate sync + params.previousErr).tdiv 2).tdiv 16 -
      1000000000| ≤ PTP_MAXFREQ_PPB
  gap : params.Measures sync → |params.dtNs sync| ≤ 9223372036
  room : params.Measures sync → -2^63 ≤ params.rateOffset sync ∧ -2^63 ≤ params.rateOffset sync + params.lastPpb
  whole : params.Measures sync → osAbs (params.rateOffset sync + params.lastPpb) ≤ PTP_MAXFREQ_PPB →
    |params.rateOffset sync + params.lastPpb| ≤ PTP_MAXFREQ_PPB

def AdmissibleEvent (params : TargetClkadjParams) : TargetClkadjEvent → Prop
  | .sync times => params.Admissible times
  | _ => True

/-- The event has a result, the clock is given no correction out of range, and a rejected sync leaves the clock and
the controller as they are, waiting for the next one. -/
def Safe (params : TargetClkadjParams) (event : TargetClkadjEvent) : Prop :=
  ∃ next adjustment, params.handle event = some (next,adjustment) ∧
    (∀ ppb, adjustment.setfreq = some ppb → |ppb| ≤ PTP_MAXFREQ_PPB) ∧
    (adjustment.rejected = true → adjustment.setfreq = none ∧ adjustment.setoffset = none ∧
      next.state = .locking ∧ next.lastPpb = params.lastPpb ∧ next.integral = params.integral ∧
      next.previousErr = params.previousErr)

/-- What the controller stores while it is locked leaves room for its next sync. -/
structure Bounded (params : TargetClkadjParams) : Prop where
  mode : (params.hwOffset || params.hwRatio) = true
  last : |params.lastPpb| ≤ PTP_MAXFREQ_PPB
  err : params.state = .locked → |params.previousErr| ≤ 4000000000000
  integral : params.state = .locked → |params.integral| ≤ 33000000000000

def controlledIntegral (params : TargetClkadjParams) (sync : SyncTimes) : Int :=
  params.integral + (params.phaseRate sync + params.previousErr).tdiv 2

def controlledPpb (params : TargetClkadjParams) (sync : SyncTimes) : Int :=
  (params.phaseRate sync).tdiv 2 + (params.controlledIntegral sync).tdiv 16 - 1000000000

private theorem phaseRate_range (tracks : params.Tracks sync) :
    -4000000000000 ≤ params.phaseRate sync ∧ params.phaseRate sync ≤ 4000000000000 := by
  have small := abs_le.mp tracks.2
  unfold PTP_PHASE_DISCONT_THRESHOLD at small
  exact tdiv_within _ (by omega) (by omega)

section Steps
variable (bounded : params.Bounded)
include bounded

theorem controlledIntegral_range (tracks : params.Tracks sync) :
    -41000000000000 ≤ params.controlledIntegral sync ∧ params.controlledIntegral sync ≤ 41000000000000 := by
  have rate := phaseRate_range tracks
  have err := abs_le.mp (bounded.err tracks.1)
  have integral := abs_le.mp (bounded.integral tracks.1)
  have half := @tdiv_within (params.phaseRate sync + params.previousErr) 8000000000000 2 (by omega) (by omega)
  unfold controlledIntegral
  omega

private theorem locked_result (tracks : params.Tracks sync) (elapsed : params.dtNs sync ≠ 0) :
    params.locked sync (errNs sync) (params.dtNs sync) =
      some ({params with integral := params.controlledIntegral sync}.adjust sync (params.controlledPpb sync)
        (params.phaseRate sync) none) := by
  have rate := phaseRate_range tracks
  have err := abs_le.mp (bounded.err tracks.1)
  have integral := controlledIntegral_range bounded tracks
  have proportional := tdiv_within 2 rate.1 rate.2
  have integrated := tdiv_within 16 integral.1 integral.2
  have small := abs_le.mp tracks.2
  unfold PTP_PHASE_DISCONT_THRESHOLD at small
  have scaled : s64 (errNs sync * 1000000000) = some (errNs sync * 1000000000) := s64_fits (by omega) (by omega)
  have divided : s64Div (errNs sync * 1000000000) (params.dtNs sync) = some (params.phaseRate sync) :=
    s64Div_fits elapsed (by omega : -4000000000000 ≤ _) (by omega) (by decide)
  have summed : s64 (params.phaseRate sync + params.previousErr) = some (params.phaseRate sync + params.previousErr) :=
    s64_fits (by omega) (by omega)
  have stored : s64 (params.integral + (params.phaseRate sync + params.previousErr).tdiv 2) =
      some (params.controlledIntegral sync) := s64_fits (by unfold controlledIntegral at integral; omega)
    (by unfold controlledIntegral at integral; omega)
  have output : s64 ((params.phaseRate sync).tdiv 2 + (params.controlledIntegral sync).tdiv 16) =
      some ((params.phaseRate sync).tdiv 2 + (params.controlledIntegral sync).tdiv 16) := s64_fits (by omega) (by omega)
  have less : s64 ((params.phaseRate sync).tdiv 2 + (params.controlledIntegral sync).tdiv 16 - 1000000000) =
      some (params.controlledPpb sync) := s64_fits (by omega) (by omega)
  simp only [locked,scaled,divided,summed,stored,output,less,bind_eq_bind,bind_some,pure_def]

end Steps

section Results
variable (last : |params.lastPpb| ≤ PTP_MAXFREQ_PPB)
include last

theorem adjust_setfreq {ppb err : Int} {offset : Option Int} :
    (∀ freq, (params.adjust sync ppb err offset).2.setfreq = some freq → |freq| ≤ PTP_MAXFREQ_PPB) ↔
      |ppb| ≤ PTP_MAXFREQ_PPB := by
  simp only [adjust]
  constructor
  · intro written
    by_cases same : ppb = params.lastPpb
    · rw [same]; exact last
    · exact written ppb (by simp [same])
  · intro fits freq written
    split at written
    next moved => exact Option.some.inj written ▸ fits
    next kept => cases written

private theorem adjust_safe {event : TargetClkadjEvent} {a : TargetClkadjParams} {ppb err : Int} {offset : Option Int}
    (kept : a.lastPpb = params.lastPpb) (result : params.handle event = some (a.adjust sync ppb err offset)) :
    params.Safe event ↔ |ppb| ≤ PTP_MAXFREQ_PPB := by
  have written := @adjust_setfreq a sync (kept ▸ last) ppb err offset
  rw [← written]
  constructor
  · rintro ⟨next,adjustment,same,freq,-⟩
    cases Option.some.inj (result.symm.trans same)
    exact freq
  · intro freq
    exact ⟨_,_,result,freq,fun rejected => (nomatch rejected)⟩

end Results

private theorem tracks_result (tracks : params.Tracks sync) :
    params.adjustOnSync sync = params.locked sync (errNs sync) (params.dtNs sync) := by
  have small := abs_le.mp tracks.2
  unfold PTP_PHASE_DISCONT_THRESHOLD at small
  have phase : osLlabs (errNs sync) = some |errNs sync| := osLlabs_fits (by omega) (by omega)
  simp only [adjustOnSync,phase,bind_eq_bind,bind_some]
  exact if_pos tracks

private theorem locking_result (phase : errNs sync ≠ -2^63) (lost : ¬params.Tracks sync) :
    params.adjustOnSync sync = params.locking sync (errNs sync) |errNs sync| (params.dtNs sync) := by
  have range := @errNs_range sync
  have phase : osLlabs (errNs sync) = some |errNs sync| := osLlabs_fits (by omega) (by omega)
  simp only [adjustOnSync,phase,bind_eq_bind,bind_some]
  exact if_neg lost

theorem phase_overflow (phase : errNs sync = -2^63) : params.adjustOnSync sync = none := by
  simp only [adjustOnSync,phase]
  rfl

section Estimates
variable (mode : (params.hwOffset || params.hwRatio) = true)
include mode

theorem estimate_waits (lost : ¬params.Tracks sync) (idle : ¬params.Measures sync) :
    params.estimate sync (params.dtNs sync) = some none := by
  unfold estimate
  rw [if_neg (not_not_intro mode)]
  split
  · rfl
  next steady =>
    split
    · rfl
    next unmoved =>
      split
      · rfl
      next later => exact absurd ⟨lost,by simpa using steady,by simpa using unmoved,not_not.mp later⟩ idle

private theorem estimate_measures (last : |params.lastPpb| ≤ PTP_MAXFREQ_PPB) (measures : params.Measures sync)
    {measured : Option Int} :
    params.estimate sync (params.dtNs sync) = some measured ↔ |params.dtNs sync| ≤ 9223372036 ∧
      (-2^63 ≤ params.rateOffset sync ∧ -2^63 ≤ params.rateOffset sync + params.lastPpb) ∧
      measured = some (params.rateOffset sync + params.lastPpb) := by
  obtain ⟨-,steady,unmoved,later⟩ := measures
  have apart : params.dtLocal sync ≠ 0 := by
    intro same
    have equal : sync.receiptLocalTime - params.previousReceiptLocalTime = 0 :=
      eq_of_toInt_eq (same.trans (toInt_zero).symm)
    bv_omega
  have last := abs_le.mp last
  unfold PTP_MAXFREQ_PPB at last
  unfold estimate
  rw [if_neg (not_not_intro mode),if_neg (by simp [steady]),if_neg (by simp [unmoved]),if_neg (not_not_intro later)]
  simp only [bind_eq_bind,bind_eq_some_iff,s64_eq_some,pure_def,abs_le]
  constructor
  · rintro ⟨scaled,⟨range,rfl⟩,ratio,divided,ppb,⟨room,rfl⟩,corrected,⟨left,rfl⟩,same⟩
    change s64Div _ (params.dtLocal sync) = _ at divided
    rw [s64Div,if_neg apart] at divided
    obtain ⟨-,rfl⟩ := s64_eq_some.mp divided
    exact ⟨by omega,⟨room.1,left.1⟩,(Option.some.inj same).symm⟩
  · rintro ⟨gap,room,rfl⟩
    have whole := @tdiv_within (params.dtNs sync * 1000000000) 9223372036000000000 (params.dtLocal sync)
      (by omega) (by omega)
    have divided : s64Div (params.dtNs sync * 1000000000) (params.dtLocal sync) =
        some ((params.dtNs sync * 1000000000).tdiv (params.dtLocal sync)) :=
      s64Div_fits apart (by omega) (by omega) (by decide : (9223372036000000000 : Int) < 2^63)
    unfold rateOffset at room
    exact ⟨_,⟨by omega,rfl⟩,_,divided,_,⟨by omega,rfl⟩,_,⟨by omega,rfl⟩,rfl⟩

end Estimates

theorem waits_safe {event : TargetClkadjEvent} {waiting : TargetClkadjParams}
    (result : params.handle event = some (waiting.waits sync false)) : params.Safe event :=
  ⟨_,_,result,fun _ written => (nomatch written),fun rejected => (nomatch rejected)⟩

private theorem unsafe_none {event : TargetClkadjEvent} (result : params.handle event = none) : ¬params.Safe event := by
  rintro ⟨next,adjustment,same,-⟩
  cases result.symm.trans same

private theorem step_sync {next : TargetClkadjParams × ClockAdjustment} (result : params.handle (.sync sync) = some next) :
    params.step (.sync sync) = next.1 := by
  rw [step,result]
  rfl

private theorem small_zero : |(0 : Int)| ≤ PTP_MAXFREQ_PPB := by decide

private theorem seed_fits {ppb : Int} (small : |ppb| ≤ PTP_MAXFREQ_PPB) :
    s64 (ppb + 1000000000) = some (ppb + 1000000000) ∧
      s64 ((ppb + 1000000000) * 16) = some ((ppb + 1000000000) * 16) := by
  have small := abs_le.mp small
  unfold PTP_MAXFREQ_PPB at small
  exact ⟨s64_fits (by omega) (by omega),s64_fits (by omega) (by omega)⟩

private theorem admissible_iff : params.Admissible sync ↔ errNs sync ≠ -2^63 ∧
    (params.Tracks sync → params.dtNs sync ≠ 0 ∧ |params.controlledPpb sync| ≤ PTP_MAXFREQ_PPB) ∧
    (params.Measures sync → |params.dtNs sync| ≤ 9223372036 ∧
      (-2^63 ≤ params.rateOffset sync ∧ -2^63 ≤ params.rateOffset sync + params.lastPpb) ∧
      (osAbs (params.rateOffset sync + params.lastPpb) ≤ PTP_MAXFREQ_PPB →
        |params.rateOffset sync + params.lastPpb| ≤ PTP_MAXFREQ_PPB)) :=
  ⟨fun fine => ⟨fine.phase,fun tracks => ⟨fine.elapsed tracks,fine.controlled tracks⟩,
    fun measures => ⟨fine.gap measures,fine.room measures,fine.whole measures⟩⟩,
  fun fine => ⟨fine.1,fun tracks => (fine.2.1 tracks).1,fun tracks => (fine.2.1 tracks).2,
    fun measures => (fine.2.2 measures).1,fun measures => (fine.2.2 measures).2.1,
    fun measures => (fine.2.2 measures).2.2⟩⟩

section Safety
variable (bounded : params.Bounded)
include bounded

theorem tracks_safe (tracks : params.Tracks sync) :
    params.Safe (.sync sync) ↔ params.dtNs sync ≠ 0 ∧ |params.controlledPpb sync| ≤ PTP_MAXFREQ_PPB := by
  by_cases elapsed : params.dtNs sync = 0
  · have stuck : params.handle (.sync sync) = none := by
      rw [handle,tracks_result tracks,locked,elapsed]
      simp [s64Div]
    exact ⟨fun safe => absurd safe (unsafe_none stuck),fun fine => absurd elapsed fine.1⟩
  · have result : params.handle (.sync sync) = _ := (tracks_result tracks).trans (locked_result bounded tracks elapsed)
    rw [adjust_safe (a := {params with integral := params.controlledIntegral sync}) bounded.last rfl result]
    exact (and_iff_right elapsed).symm

private theorem idle_result (phase : errNs sync ≠ -2^63) (lost : ¬params.Tracks sync) (idle : ¬params.Measures sync) :
    params.handle (.sync sync) = some ({params with state := .locking}.waits sync false) := by
  rw [handle,locking_result phase lost,locking]
  change (params.estimate sync (params.dtNs sync)).bind _ = _
  rw [estimate_waits bounded.mode lost idle]
  rfl

private theorem measures_result (phase : errNs sync ≠ -2^63) (measures : params.Measures sync)
    (gap : |params.dtNs sync| ≤ 9223372036)
    (room : -2^63 ≤ params.rateOffset sync ∧ -2^63 ≤ params.rateOffset sync + params.lastPpb) :
    params.handle (.sync sync) =
      if PTP_MAXFREQ_PPB < osAbs (params.rateOffset sync + params.lastPpb) then
        some ({params with state := .locking}.waits sync true)
      else (s64 (params.rateOffset sync + params.lastPpb + 1000000000)).bind fun seed =>
        (s64 (seed * 16)).bind fun integral =>
          some ({params with integral := integral,state := .locked}.adjust sync
            (params.rateOffset sync + params.lastPpb) 0
            (if PTP_PHASE_DISCONT_THRESHOLD < |errNs sync| then some (errNs sync) else none)) := by
  have estimated := (estimate_measures bounded.mode bounded.last measures).mpr ⟨gap,room,rfl⟩
  have result : params.handle (.sync sync) = (params.estimate sync (params.dtNs sync)).bind _ :=
    locking_result phase measures.1
  rw [estimated] at result
  exact result

theorem measures_safe (phase : errNs sync ≠ -2^63) (measures : params.Measures sync) :
    params.Safe (.sync sync) ↔ |params.dtNs sync| ≤ 9223372036 ∧
      (-2^63 ≤ params.rateOffset sync ∧ -2^63 ≤ params.rateOffset sync + params.lastPpb) ∧
      (osAbs (params.rateOffset sync + params.lastPpb) ≤ PTP_MAXFREQ_PPB →
        |params.rateOffset sync + params.lastPpb| ≤ PTP_MAXFREQ_PPB) := by
  by_cases fits : |params.dtNs sync| ≤ 9223372036 ∧
      (-2^63 ≤ params.rateOffset sync ∧ -2^63 ≤ params.rateOffset sync + params.lastPpb)
  · have stores := measures_result bounded phase measures fits.1 fits.2
    rw [and_iff_right fits.1,and_iff_right fits.2]
    generalize params.rateOffset sync + params.lastPpb = ppb at stores
    by_cases rejected : PTP_MAXFREQ_PPB < osAbs ppb
    · rw [if_pos rejected] at stores
      refine ⟨fun _ passed => absurd rejected (not_lt_of_ge passed),fun _ => ?_⟩
      exact ⟨_,_,stores,fun _ written => (nomatch written),fun _ => ⟨rfl,rfl,rfl,rfl,rfl,rfl⟩⟩
    · rw [if_neg rejected] at stores
      rw [imp_iff_right (not_lt.mp rejected)]
      cases sum : s64 (ppb + 1000000000) with
      | none =>
        refine ⟨fun safe => absurd safe (unsafe_none (by rw [stores,sum]; rfl)),fun small => ?_⟩
        cases sum.symm.trans (seed_fits small).1
      | some seed =>
        obtain ⟨-,rfl⟩ := s64_eq_some.mp sum
        cases product : s64 ((ppb + 1000000000) * 16) with
        | none =>
          refine ⟨fun safe => absurd safe (unsafe_none (by rw [stores,sum,bind_some,product]; rfl)),
            fun small => ?_⟩
          cases product.symm.trans (seed_fits small).2
        | some integral =>
          rw [sum,bind_some,product] at stores
          exact adjust_safe (a := {params with integral := integral,state := .locked}) bounded.last rfl stores
  · refine ⟨fun safe => ?_,fun fine => absurd ⟨fine.1,fine.2.1⟩ fits⟩
    have result : params.handle (.sync sync) = (params.estimate sync (params.dtNs sync)).bind _ :=
      locking_result phase measures.1
    cases estimated : params.estimate sync (params.dtNs sync) with
    | none =>
      rw [estimated] at result
      exact absurd safe (unsafe_none result)
    | some measured =>
      obtain ⟨gap,room,-⟩ := (estimate_measures bounded.mode bounded.last measures).mp estimated
      exact absurd ⟨gap,room⟩ fits

private theorem safe_iff (event : TargetClkadjEvent) : params.Safe event ↔ params.AdmissibleEvent event := by
  cases event with
  | gmChange => exact iff_of_true ⟨_,_,rfl,fun _ written => (nomatch written),fun rejected => (nomatch rejected)⟩ trivial
  | systemRoleChange isGrandmaster =>
    refine iff_of_true ?_ trivial
    cases isGrandmaster with
    | false => exact ⟨_,_,rfl,fun _ written => (nomatch written),fun rejected => (nomatch rejected)⟩
    | true =>
      refine ⟨_,_,rfl,fun ppb written => ?_,fun rejected => (nomatch rejected)⟩
      cases Option.some.inj written
      decide
  | sync sync =>
    by_cases phase : errNs sync = -2^63
    · exact iff_of_false (unsafe_none (phase_overflow phase)) (fun fine => fine.phase phase)
    change _ ↔ params.Admissible sync
    rw [admissible_iff,and_iff_right phase]
    by_cases tracks : params.Tracks sync
    · rw [tracks_safe bounded tracks,imp_iff_right tracks]
      exact (and_iff_left fun measures => absurd tracks measures.1).symm
    by_cases measures : params.Measures sync
    · rw [measures_safe bounded phase measures,imp_iff_right measures]
      exact (and_iff_right fun other => absurd other tracks).symm
    · have safe := waits_safe (idle_result bounded phase tracks measures)
      exact iff_of_true safe ⟨fun other => absurd other tracks,fun other => absurd other measures⟩

private theorem waits_bounded {rejected : Bool} : ({params with state := .locking}.waits sync rejected).1.Bounded :=
  ⟨bounded.mode,bounded.last,fun locked => (nomatch locked),fun locked => (nomatch locked)⟩

theorem tracks_bounded (tracks : params.Tracks sync) (small : |params.controlledPpb sync| ≤ PTP_MAXFREQ_PPB) :
    ({params with integral := params.controlledIntegral sync}.adjust sync (params.controlledPpb sync)
      (params.phaseRate sync) none).1.Bounded := by
  have rate := phaseRate_range tracks
  have half : ((params.phaseRate sync).tdiv 2).natAbs = (params.phaseRate sync).natAbs / 2 := Int.natAbs_tdiv _ 2
  refine ⟨bounded.mode,small,fun _ => abs_le.mpr rate,fun _ => ?_⟩
  change |params.controlledIntegral sync| ≤ _
  have small := abs_le.mp small
  have sixteenth : ((params.controlledIntegral sync).tdiv 16).natAbs = (params.controlledIntegral sync).natAbs / 16 :=
    Int.natAbs_tdiv _ 16
  unfold PTP_MAXFREQ_PPB controlledPpb at small
  rw [abs_le]
  omega

theorem step_bounded {event : TargetClkadjEvent} (admissible : params.AdmissibleEvent event) :
    (params.step event).Bounded := by
  cases event with
  | gmChange => exact ⟨bounded.mode,bounded.last,fun locked => (nomatch locked),fun locked => (nomatch locked)⟩
  | systemRoleChange isGrandmaster =>
    cases isGrandmaster with
    | false => exact bounded
    | true => exact ⟨bounded.mode,small_zero,fun locked => (nomatch locked),fun locked => (nomatch locked)⟩
  | sync sync =>
    by_cases tracks : params.Tracks sync
    · have result : params.handle (.sync sync) = _ :=
        (tracks_result tracks).trans (locked_result bounded tracks (admissible.elapsed tracks))
      rw [step_sync result]
      exact tracks_bounded bounded tracks (admissible.controlled tracks)
    by_cases measures : params.Measures sync
    · have result := measures_result bounded admissible.phase measures (admissible.gap measures)
        (admissible.room measures)
      have small := admissible.whole measures
      generalize params.rateOffset sync + params.lastPpb = ppb at result small
      split at result
      next rejected =>
        rw [step_sync result]
        exact waits_bounded bounded
      next passed =>
        have small := small (not_lt.mp passed)
        rw [(seed_fits small).1,bind_some,(seed_fits small).2,bind_some] at result
        rw [step_sync result]
        refine ⟨bounded.mode,small,fun _ => (by decide : |(0 : Int)| ≤ 4000000000000),fun _ => ?_⟩
        change |(ppb + 1000000000) * 16| ≤ _
        have small := abs_le.mp small
        unfold PTP_MAXFREQ_PPB at small
        rw [abs_le]
        omega
    · have result := idle_result bounded admissible.phase tracks measures
      rw [step_sync result]
      exact waits_bounded bounded

end Safety

/-- In every run of the controller in a mode that estimates the ratio, all steps are safe exactly if all are
admissible. -/
theorem targetClock_safe {memory : TargetClkadjParams} (mode : (memory.hwOffset || memory.hwRatio) = true)
    (events : List TargetClkadjEvent) :
    Steps step Safe events (init memory) ↔ Steps step AdmissibleEvent events (init memory) := by
  have initial : (init memory).Bounded := ⟨mode,small_zero,fun locked => (nomatch locked),fun locked => (nomatch locked)⟩
  refine steps_iff _ (I := Bounded) (fun params event bounded => safe_iff bounded event) ?_ initial
  intro params event bounded safe
  exact step_bounded bounded ((safe_iff bounded event).mp safe)

def fresh : TargetClkadjParams := ⟨true,true,.unlocked,false,false,0,0,0,0,0⟩

def syncAt (receiptTime receiptLocalTime : BitVec 64) : TargetClkadjEvent := .sync ⟨receiptTime,receiptLocalTime,0⟩

instance : Decidable (params.Tracks sync) := inferInstanceAs (Decidable (_ ∧ _))
instance : Decidable (params.Measures sync) := inferInstanceAs (Decidable (_ ∧ _))

instance : Decidable (params.Admissible sync) := decidable_of_iff' _ admissible_iff

/-- The clock locks on its second sync and is corrected on the next two. -/
theorem targetClock_safe_locks :
    Steps step Safe [syncAt 1000 900,syncAt 125001000 125000900,syncAt 250001050 250000900,syncAt 375001050 375000800]
      (init fresh) := by
  apply (targetClock_safe (by rfl) _).mpr
  refine ⟨?_,?_,?_,?_,trivial⟩
  all_goals
    change Admissible _ _
    decide +kernel

/-- A locked clock gets the receipt time of the last sync once more. -/
theorem repeatedSync_divides :
    ¬Steps step Safe [syncAt 1000 900,syncAt 125001000 125000900,syncAt 125001000 125000900] (init fresh) := by
  rintro ⟨-,-,safe,-⟩
  exact unsafe_none (by decide +kernel) safe

end TargetClkadjParams
end Genavb.Gptp
