import Genavb.Avtp.ClockRecovery

/-! The clock producer of a stream (`clock_producer_stream_rx`) in front of the media clock recovery: what it adds to the
timestamps hides the discontinuities that the listener announces. -/
namespace Genavb.Avtp
open List Option

/-- The grid of a stream with its recovery, and whether its domain is locked. -/
structure ClockProducer where
  clock : MediaClockRec
  nominalPeriod : Nat
  stitchTsOffset : Nat
  domainLocked : Bool

structure ProducerCall where
  ts : List RecTimestamp
  doStitch : Bool
  localTime : Option Nat

namespace ClockProducer

def stitch (call : ProducerCall) (producer : ClockProducer) : ClockProducer :=
  let first := (call.ts.map RecTimestamp.tsNsec).headD 0
  if call.doStitch && periodError producer.nominalPeriod (bits (first + producer.stitchTsOffset - producer.clock.lastTs)) then
    {producer with
      stitchTsOffset := bits (producer.nominalPeriod - (first - producer.clock.lastTs)),domainLocked := false}
  else producer

def shift (offset : Nat) (ts : RecTimestamp) : RecTimestamp := {ts with tsNsec := bits (ts.tsNsec + offset)}

def offered (call : ProducerCall) (producer : ClockProducer) : ClockProducer × List RecInput :=
  if producer.clock.state = .RUNNING_LOCKED then
    let producer := producer.stitch call
    let ts := if producer.stitchTsOffset = 0 then call.ts else call.ts.map (shift producer.stitchTsOffset)
    (producer,.call call.localTime :: ts.map .timestamp)
  else (producer,.call call.localTime :: call.ts.map .timestamp)

def clockProducerStreamRx (call : ProducerCall) (producer : ClockProducer) : Option ClockProducer :=
  ((producer.offered call).2.foldlM recStep (producer.offered call).1.clock).map fun clock =>
    if clock.state = .RUNNING_LOCKED then {(producer.offered call).1 with clock := clock,domainLocked := true}
    else {(producer.offered call).1 with clock := clock,domainLocked := false,stitchTsOffset := 0}

end ClockProducer

/-- A recovery that is locked refuses no timestamp for its period. -/
def PeriodsPass : List RecInput → MediaClockRec → Prop
  | [],_ => True
  | input :: rest,clock =>
    (∀ ts, input = .timestamp ts → clock.state = .RUNNING_LOCKED → ts.restart = false →
        periodError clock.tsPeriod (bits (ts.tsNsec - clock.lastTs)) = false) ∧
      ∀ next, recStep clock input = some next → PeriodsPass rest next

/-- A timestamp follows another one after the nominal period, up to a 64th of it. -/
def NearPeriod (nominal : Nat) (first second : RecTimestamp) : Prop :=
  (asInt (second.tsNsec - first.tsNsec - nominal)).natAbs ≤ nominal / 64

/-- What the listener of the stream promises of a call behind the timestamp `last`. -/
structure Promised (nominal : Nat) (last : Option RecTimestamp) (call : ProducerCall) : Prop where
  some : call.ts ≠ []
  timed : call.localTime ≠ none
  inside : call.ts.IsChain (NearPeriod nominal)
  follows : call.doStitch = false → ∀ before ∈ last, ∀ first ∈ call.ts.head?, NearPeriod nominal before first

def AllPromised (nominal : Nat) : Option RecTimestamp → List ProducerCall → Prop
  | _,[] => True
  | last,call :: rest => Promised nominal last call ∧ AllPromised nominal call.ts.getLast? rest

section Recovery
variable {clock next : MediaClockRec} {ts : RecTimestamp} {localTime : Nat}

private theorem periodError_near {nominal : Nat} {first second : RecTimestamp} {value last offset : Nat} (near : NearPeriod nominal first second)
    (now : bits value = bits (second.tsNsec + offset)) (before : bits last = bits (first.tsNsec + offset)) :
    periodError nominal (bits (value - last)) = false := by
  have period : bits (value - last) = bits (second.tsNsec - first.tsNsec) := by
    unfold bits at *
    omega
  unfold NearPeriod at near
  rw [period,periodError,decide_eq_false_iff_not]
  generalize (second.tsNsec - first.tsNsec : Int) = period at near ⊢
  unfold bits
  unfold asInt at *
  omega

theorem periodError_nominal {nominal : Nat} {value : Int} (same : bits value = bits nominal) :
    periodError nominal (bits value) = false := by
  unfold periodError
  rw [same,decide_eq_false_iff_not]
  unfold bits asInt
  omega

structure Switched (ts : RecTimestamp) (clock next : MediaClockRec) : Prop where
  period : next.tsPeriod = clock.tsPeriod
  time : next.localTime = clock.localTime
  last : next.state = .RUNNING_LOCKED → next.lastTs = ts.tsNsec

theorem recRunning_switched : Switched ts clock (clock.recRunning ts localTime) := by
  unfold MediaClockRec.recRunning MediaClockRec.lock MediaClockRec.clean MediaClockRec.writeTs
  dsimp only
  repeat' split
  all_goals exact ⟨rfl,rfl,fun state => by first | rfl | cases state⟩

theorem recReady_switched : Switched ts clock (clock.recReady ts) := by
  unfold MediaClockRec.recReady MediaClockRec.writeTs
  dsimp only
  repeat' split
  all_goals exact ⟨rfl,rfl,fun state => by first | rfl | cases state⟩

theorem recInit_switched : Switched ts clock (clock.recInit ts localTime) := by
  unfold MediaClockRec.recInit
  dsimp only
  repeat' split
  all_goals exact ⟨rfl,rfl,fun _ => rfl⟩

theorem recMeasurement_switched (stepped : clock.recMeasurement ts localTime = some next) : Switched ts clock next := by
  unfold MediaClockRec.recMeasurement MediaClockRec.settle at stepped
  dsimp only at stepped
  repeat' split at stepped
  all_goals cases stepped
  all_goals exact ⟨rfl,rfl,fun state => by first | rfl | cases state⟩

theorem recSwitch_switched (stepped : clock.recSwitch ts localTime = some next) : Switched ts clock next := by
  unfold MediaClockRec.recSwitch at stepped
  cases state : clock.state <;> rw [state] at stepped
  case MEASUREMENT => exact recMeasurement_switched stepped
  all_goals obtain rfl := Option.some.inj stepped
  case INIT => exact recInit_switched
  case READY => exact recReady_switched
  case RUNNING | RUNNING_LOCKED => exact recRunning_switched
  case ERR => exact ⟨rfl,rfl,fun _ => rfl⟩

/-- A call goes on while the recovery is locked. -/
def Live (clock : MediaClockRec) : Prop := clock.state = .RUNNING_LOCKED → clock.localTime ≠ none

theorem recTimestamp_live (live : Live clock) (stepped : recStep clock (.timestamp ts) = some next) :
    Live next ∧ next.tsPeriod = clock.tsPeriod ∧ (next.state = .RUNNING_LOCKED → next.lastTs = ts.tsNsec) := by
  obtain ⟨none,rfl⟩ | ⟨_,rfl⟩ | ⟨begun,localTime,begins,time,stepped⟩ := recTimestamp_cases stepped
  · exact ⟨live,rfl,fun state => absurd none (live state)⟩
  · exact ⟨nofun,rfl,nofun⟩
  · have switched := recSwitch_switched stepped
    have period : begun.tsPeriod = clock.tsPeriod := by
      obtain rfl | ⟨_,rfl⟩ := begins
      · rfl
      · rfl
    refine ⟨fun _ => ?_,switched.period.trans period,switched.last⟩
    rw [switched.time,time]
    exact nofun

end Recovery

section Calls
variable {clock : MediaClockRec} {nominal offset : Nat} {change : RecTimestamp → RecTimestamp}

/-- The timestamps of a call, all changed by one offset. -/
def Offset (offset : Nat) (change : RecTimestamp → RecTimestamp) : Prop :=
  ∀ ts, bits (change ts).tsNsec = bits (ts.tsNsec + offset)

theorem timestamps_pass (shifts : Offset offset change) {ts : List RecTimestamp} (near : ts.IsChain (NearPeriod nominal))
    (live : Live clock) (period : clock.tsPeriod = nominal)
    (head : clock.state = .RUNNING_LOCKED → ∀ first ∈ ts.head?,
      periodError nominal (bits ((change first).tsNsec - clock.lastTs)) = false) :
    PeriodsPass ((ts.map change).map .timestamp) clock ∧
      ∀ after, ((ts.map change).map RecInput.timestamp).foldlM recStep clock = some after →
        after.tsPeriod = nominal ∧
          (ts ≠ [] → after.state = .RUNNING_LOCKED → ∃ before ∈ ts.getLast?, after.lastTs = (change before).tsNsec) := by
  induction ts generalizing clock with
  | nil =>
    refine ⟨trivial,fun after same => ?_⟩
    obtain rfl := Option.some.inj same
    exact ⟨period,fun some => absurd rfl some⟩
  | cons first rest ih =>
    have turn {next : MediaClockRec} (stepped : recStep clock (.timestamp (change first)) = some next) :
        Live next ∧ next.tsPeriod = nominal ∧ (next.state = .RUNNING_LOCKED → next.lastTs = (change first).tsNsec) := by
      obtain ⟨alive,kept,last⟩ := recTimestamp_live live stepped
      exact ⟨alive,kept.trans period,last⟩
    have others {next : MediaClockRec} (stepped : recStep clock (.timestamp (change first)) = some next) := by
      obtain ⟨alive,kept,last⟩ := turn stepped
      refine ih near.tail alive kept fun state second member => ?_
      rw [last state]
      exact periodError_near ((isChain_cons.mp near).1 second member) (shifts second) (shifts first)
    refine ⟨⟨?_,fun next stepped => (others stepped).1⟩,?_⟩
    · rintro _ ⟨⟩ state _
      rw [period]
      exact head state first rfl
    · intro after reached
      rw [map_cons,map_cons,foldlM_cons,bind_eq_bind,bind_eq_some_iff] at reached
      obtain ⟨next,stepped,reached⟩ := reached
      obtain ⟨kept,last⟩ := (others stepped).2 after reached
      refine ⟨kept,fun _ state => ?_⟩
      cases rest with
      | nil =>
        obtain rfl := Option.some.inj reached
        exact ⟨first,rfl,(turn stepped).2.2 state⟩
      | cons second others =>
        exact last nofun state

end Calls

namespace ClockProducer
variable {producer after : ClockProducer} {call : ProducerCall} {nominal : Nat} {last : Option RecTimestamp}

/-- Between the calls: an offset stands only while the recovery is locked, and its last timestamp is then the last one
handed over with this offset. -/
structure Right (nominal : Nat) (last : Option RecTimestamp) (producer : ClockProducer) : Prop where
  sameNominal : producer.nominalPeriod = nominal
  period : producer.clock.tsPeriod = nominal
  positive : nominal ≠ 0
  domain : producer.domainLocked = true ↔ producer.clock.state = .RUNNING_LOCKED
  unlocked : producer.clock.state ≠ .RUNNING_LOCKED → producer.stitchTsOffset = 0
  last : producer.clock.state = .RUNNING_LOCKED →
    ∃ before ∈ last, bits producer.clock.lastTs = bits (before.tsNsec + producer.stitchTsOffset)

private theorem offset_zero : Offset 0 id := fun ts => by rw [Int.natCast_zero,Int.add_zero]; rfl

theorem offset_shift (offset : Nat) : Offset offset (shift offset) := fun ts => by
  unfold shift bits
  dsimp only
  omega

theorem stitch_clock : (producer.stitch call).clock = producer.clock := by
  unfold stitch
  dsimp only
  split <;> rfl

theorem stitch_nominal : (producer.stitch call).nominalPeriod = producer.nominalPeriod := by
  unfold stitch
  dsimp only
  split <;> rfl

theorem offered_clock : (producer.offered call).1.clock = producer.clock := by
  unfold offered
  split
  · exact stitch_clock
  · rfl

private theorem offered_nominal : (producer.offered call).1.nominalPeriod = producer.nominalPeriod := by
  unfold offered
  split
  · exact stitch_nominal
  · rfl

section
variable (right : producer.Right nominal last)
include right

theorem offered_offset :
    ∃ change, Offset (producer.offered call).1.stitchTsOffset change ∧
      (producer.offered call).2 = .call call.localTime :: (call.ts.map change).map .timestamp := by
  unfold offered
  split
  · dsimp only
    split
    next zero =>
      rw [zero]
      exact ⟨id,offset_zero,by rw [List.map_id]⟩
    · exact ⟨_,offset_shift _,rfl⟩
  next state =>
    rw [right.unlocked state]
    exact ⟨id,offset_zero,by rw [List.map_id]⟩

theorem first_passes (promised : Promised nominal last call)
    (state : producer.clock.state = .RUNNING_LOCKED) {first : RecTimestamp} (head : first ∈ call.ts.head?) {value : Nat}
    (same : bits value = bits (first.tsNsec + (producer.offered call).1.stitchTsOffset)) :
    periodError nominal (bits (value - producer.clock.lastTs)) = false := by
  have headed : (call.ts.map RecTimestamp.tsNsec).headD 0 = first.tsNsec := by
    rw [headD_eq_head?_getD,List.head?_map,head]
    rfl
  unfold offered at same
  rw [if_pos state] at same
  unfold stitch at same
  dsimp only at same
  rw [headed,right.sameNominal] at same
  split at same
  · apply periodError_nominal
    dsimp only at same
    unfold bits at *
    omega
  next accepted =>
    cases stitches : call.doStitch with
    | true =>
      rw [stitches,Bool.true_and,Bool.not_eq_true] at accepted
      rw [← accepted]
      congr 1
      unfold bits at *
      omega
    | false =>
      obtain ⟨before,member,known⟩ := right.last state
      exact periodError_near (promised.follows stitches before member first head) same known

theorem streamRx_right (promised : Promised nominal last call) :
    PeriodsPass (producer.offered call).2 producer.clock ∧
      ∀ after, producer.clockProducerStreamRx call = some after → after.Right nominal call.ts.getLast? := by
  obtain ⟨change,shifts,inputs⟩ := @offered_offset producer call nominal last right
  unfold clockProducerStreamRx
  rw [inputs,offered_clock]
  have live {begun : MediaClockRec} (begins : recStep producer.clock (.call call.localTime) = some begun) : Live begun := by
    obtain rfl := Option.some.inj begins
    intro state
    have state : producer.clock.state = .RUNNING_LOCKED := state
    rw [if_neg (by simp [state,right.period,right.positive])]
    exact promised.timed
  have same {begun : MediaClockRec} (begins : recStep producer.clock (.call call.localTime) = some begun) :
      begun.tsPeriod = nominal ∧ begun.state = producer.clock.state ∧ begun.lastTs = producer.clock.lastTs := by
    obtain rfl := Option.some.inj begins
    exact ⟨right.period,rfl,rfl⟩
  have pass {begun : MediaClockRec} (begins : recStep producer.clock (.call call.localTime) = some begun) :=
    timestamps_pass shifts promised.inside (live begins) (same begins).1 fun state first head =>
      (same begins).2.2 ▸ first_passes right promised ((same begins).2.1 ▸ state) head (shifts first)
  refine ⟨⟨nofun,fun begun begins => (pass begins).1⟩,?_⟩
  intro after reached
  obtain ⟨clock,ran,rfl⟩ := map_eq_some_iff.mp reached
  rw [foldlM_cons,bind_eq_bind,bind_eq_some_iff] at ran
  obtain ⟨begun,begins,ran⟩ := ran
  obtain ⟨period,last⟩ := (pass begins).2 clock ran
  split
  next locked =>
    refine ⟨offered_nominal.trans right.sameNominal,period,right.positive,iff_of_true rfl locked,fun unlocked => absurd locked unlocked,?_⟩
    intro state
    obtain ⟨before,member,same⟩ := last promised.some state
    exact ⟨before,member,by rw [same]; exact shifts before⟩
  next unlocked =>
    exact ⟨offered_nominal.trans right.sameNominal,period,right.positive,iff_of_false Bool.false_ne_true unlocked,fun _ => rfl,
      fun locked => absurd locked unlocked⟩

end

def Passes : List ProducerCall → ClockProducer → Prop
  | [],_ => True
  | call :: rest,producer =>
    PeriodsPass (producer.offered call).2 producer.clock ∧
      ∀ after, producer.clockProducerStreamRx call = some after →
        (after.domainLocked = true ↔ after.clock.state = .RUNNING_LOCKED) ∧ Passes rest after

theorem Right.passes (right : producer.Right nominal last) {calls : List ProducerCall}
    (promised : AllPromised nominal last calls) : Passes calls producer := by
  induction calls generalizing producer last with
  | nil => trivial
  | cons call rest ih =>
    obtain ⟨now,later⟩ := promised
    obtain ⟨pass,kept⟩ := streamRx_right right now
    exact ⟨pass,fun after reached => ⟨(kept after reached).domain,ih (kept after reached) later⟩⟩

def opened (arraySize nominal : Nat) : ClockProducer := ⟨.opened arraySize nominal,nominal,0,false⟩

end ClockProducer

/-- While the timestamps of the listener follow each other, up to the discontinuities that it announces, a recovery that
is locked refuses none of them for its period, and the domain is locked exactly while the recovery is. -/
theorem producer_passes (arraySize nominal : Nat) (positive : nominal ≠ 0) (calls : List ProducerCall)
    (promised : AllPromised nominal none calls) : (ClockProducer.opened arraySize nominal).Passes calls := by
  have fresh : (ClockProducer.opened arraySize nominal).clock.state ≠ .RUNNING_LOCKED := MediaClockRecState.noConfusion
  exact ClockProducer.Right.passes ⟨rfl,rfl,positive,iff_of_false Bool.false_ne_true fresh,fun _ => rfl,
    fun locked => absurd locked fresh⟩ promised

def lockingTimestamp (k : Nat) : RecTimestamp := {plainTimestamp (1000000 * (k + 1)) with clean := .runningLocked}

def lockingCall (k : Nat) : ProducerCall := ⟨[lockingTimestamp k],false,some (1000000 * (k + 1))⟩

/-- A stream of 1 kHz, which jumps back when the recovery is locked. -/
def jumpingCalls (count : Nat) : List ProducerCall :=
  (List.range' 1 count).map lockingCall ++ [⟨[plainTimestamp 900],true,some 141000000⟩]

theorem jumpingCalls_promised (k count : Nat) :
    AllPromised 1000000 (some (lockingTimestamp k))
      ((List.range' (k + 1) count).map lockingCall ++ [⟨[plainTimestamp 900],true,some 141000000⟩]) := by
  induction count generalizing k with
  | zero => exact ⟨⟨nofun,nofun,.singleton _,nofun⟩,trivial⟩
  | succ count ih =>
    refine ⟨⟨nofun,nofun,.singleton _,?_⟩,ih (k + 1)⟩
    intro _ before last first head
    obtain rfl : lockingTimestamp k = before := Option.some.inj last
    obtain rfl : lockingTimestamp (k + 1) = first := Option.some.inj head
    unfold NearPeriod asInt lockingTimestamp plainTimestamp
    dsimp only
    omega

theorem producer_passes_jump :
    (ClockProducer.opened 64 1000000).Passes (lockingCall 0 :: jumpingCalls 139) ∧
      (((lockingCall 0 :: jumpingCalls 139).foldlM (fun producer call => ClockProducer.clockProducerStreamRx call producer)
        (ClockProducer.opened 64 1000000)).map fun producer => (producer.clock.state,producer.stitchTsOffset)) =
          some (MediaClockRecState.RUNNING_LOCKED,140999100) :=
  ⟨producer_passes 64 1000000 (by decide) _ ⟨⟨nofun,nofun,.singleton _,nofun⟩,jumpingCalls_promised 0 139⟩,
    by decide +kernel⟩

end Genavb.Avtp
