import Mathlib.Tactic.IntervalCases
import Genavb.Common.TimerLinks
import Genavb.Gptp.TimeoutSteps

/-! The times of the receipt timeouts: how a timer is restarted with them, and when the timers run. -/
namespace Genavb.Gptp
open Common

section Delays

def receiptMs (timeout : UInt8) (logInterval : Int8) : Nat := timeout.toNat * logToNs logInterval / NS_PER_MS

def InRange (timeout : UInt8) (logInterval : Int8) : Prop :=
  0 < receiptMs timeout logInterval ∧ receiptMs timeout logInterval < 2^32

instance (timeout : UInt8) (logInterval : Int8) : Decidable (InRange timeout logInterval) :=
  inferInstanceAs (Decidable (_ ∧ _))

theorem logToNs_le (logInterval : Int8) : logToNs logInterval ≤ 10^9 * 2^22 := by
  unfold logToNs
  generalize clipped : max CFG_GPTP_MIN_LOG_INTERVAL (min CFG_GPTP_MAX_LOG_INTERVAL logInterval.toInt) = interval
  have least : -5 ≤ interval := clipped ▸ le_max_left _ _
  have most : interval ≤ 22 := by
    rw [← clipped]
    exact max_le (by decide) (min_le_left _ _)
  interval_cases interval <;> decide

def receiptInterval (timeout : UInt8) (logInterval : Int8) : UInt64 :=
  timeout.toUInt64 * .ofNat (logToNs logInterval)

theorem receiptInterval_toNat (timeout : UInt8) (logInterval : Int8) :
    (receiptInterval timeout logInterval).toNat = timeout.toNat * logToNs logInterval := by
  have interval := logToNs_le logInterval
  have small : timeout.toNat < 256 := timeout.toNat_lt
  have product : timeout.toNat * logToNs logInterval ≤ 255 * (10^9 * 2^22) :=
    Nat.mul_le_mul (Nat.le_of_lt_succ small) interval
  have exact : (UInt64.ofNat (logToNs logInterval)).toNat = logToNs logInterval :=
    UInt64.toNat_ofNat_of_lt' (interval.trans_lt (by decide))
  rw [receiptInterval,UInt64.toNat_mul,exact,UInt8.toNat_toUInt64]
  exact Nat.mod_eq_of_lt (by omega)

theorem InRange.restart {timeout : UInt8} {logInterval : Int8} (inRange : InRange timeout logInterval) :
    restartMs (receiptInterval timeout logInterval).toNat = some (receiptMs timeout logInterval) := by
  have ⟨positive,small⟩ := inRange
  rw [receiptInterval_toNat]
  unfold restartMs
  change (if receiptMs timeout logInterval % 2^32 = 0 then none else some (receiptMs timeout logInterval % 2^32)) = _
  rw [Nat.mod_eq_of_lt small,if_neg positive.ne']

end Delays

end Genavb.Gptp

/-! The timer of the gPTP-capable TLVs runs while the neighbor is considered capable. -/
namespace Genavb.Gptp
open Function (update update_self update_of_ne)

namespace TimedInstance

section Neighbor
variable {timed first second : TimedInstance} {port : Nat} {event : CapableReceiveEvent}

structure Supervised (sm : CapableReceive) : Prop where
  runs : sm.neighborGptpCapable = true → sm.timeoutTimer = some (receiptMs sm.gptpCapableReceiptTimeout sm.takenLog)
  pending : sm.rcvdGptpCapableTlv = true → sm.signalingLog = sm.tlvLog ∧ InRange sm.gptpCapableReceiptTimeout sm.tlvLog
  initialized : sm.state = .initialized → sm.neighborGptpCapable = false

variable {sm : CapableReceive}

theorem Supervised.stopped (supervised : Supervised sm) : Supervised {sm with state := .notEnabled} :=
  ⟨supervised.runs,supervised.pending,nofun⟩

/-- The state of the machine and its timer are known, but for a timer that has just expired. -/
structure Expecting (sm : CapableReceive) : Prop where
  pending : sm.rcvdGptpCapableTlv = true → sm.signalingLog = sm.tlvLog ∧ InRange sm.gptpCapableReceiptTimeout sm.tlvLog
  initialized : sm.state = .initialized → sm.neighborGptpCapable = false

theorem Supervised.expecting (supervised : Supervised sm) : Expecting sm :=
  ⟨supervised.pending,supervised.initialized⟩

/-- What the machine makes of the port; without a TLV it leaves the timer as it is. -/
structure Turns (port : Nat) (first second : TimedInstance) : Prop where
  moved : Moved first second
  capable : ∃ after, second.capable = update first.capable port after ∧ Supervised after ∧
    ((first.capable port).rcvdGptpCapableTlv = false → after.rcvdGptpCapableTlv = false ∧
      after.timeoutTimer = (first.capable port).timeoutTimer)

private theorem turns_refl (supervised : Supervised (timed.capable port)) : Turns port timed timed :=
  ⟨.refl timed,timed.capable port,(Function.update_eq_self port _).symm,supervised,fun noTlv => ⟨noTlv,rfl⟩⟩

theorem Turns.supervised (turns : Turns port first second) : Supervised (second.capable port) := by
  obtain ⟨after,same,supervised,_⟩ := turns.capable
  rw [same,update_self]
  exact supervised

theorem Turns.trans {third : TimedInstance} (left : Turns port first second) (right : Turns port second third) :
    Turns port first third := by
  obtain ⟨middle,to_middle,_,quiet⟩ := left.capable
  obtain ⟨after,to_after,supervised,quiet'⟩ := right.capable
  have here : second.capable port = middle := by rw [to_middle,update_self]
  rw [here] at quiet'
  refine ⟨left.moved.trans right.moved,after,?_,supervised,?_⟩
  · rw [to_after,to_middle,Function.update_idem]
  · intro noTlv
    have ⟨still,timer⟩ := quiet noTlv
    exact ⟨(quiet' still).1,(quiet' still).2.trans timer⟩

section
variable (silent : timed.Silent) (inside : port < timed.inst.numberPorts)
include silent inside

variable (expecting : Expecting (timed.capable port))
include expecting

private theorem capableInitialize_turns :
    Turns port timed (timed.capableInitialize port) := by
  have ⟨moved,same⟩ := capableInitialize_moved silent inside
  exact ⟨moved,_,same,⟨nofun,expecting.pending,fun _ => rfl⟩,fun noTlv => ⟨noTlv,rfl⟩⟩

private theorem capableReceivedTlv_turns
    (pending : (timed.capable port).rcvdGptpCapableTlv = true) : Turns port timed (timed.capableReceivedTlv port) := by
  have ⟨moved,same⟩ := capableReceivedTlv_moved silent inside
  have received := expecting.pending pending
  refine ⟨moved,_,same,⟨fun _ => ?_,nofun,nofun⟩,fun noTlv => absurd (noTlv.symm.trans pending) (by decide)⟩
  rw [received.1]
  exact received.2.restart

private theorem capablePass_turns {e : CapableReceiveEvent}
    (known : Supervised (timed.capable port) ∨ e = .timeout ∧ timed.capableStopped port = false) :
    Turns port timed (timed.capablePass e port) := by
  unfold capablePass
  dsimp only
  cases state : (timed.capable port).state with
  | notEnabled =>
    dsimp only
    split
    · exact capableInitialize_turns silent inside expecting
    next closed =>
      obtain supervised | ⟨_,runs⟩ := known
      · exact turns_refl supervised
      · unfold capableStopped at runs
        simp only [Bool.or_eq_false_iff,Bool.not_eq_false'] at runs
        exact absurd (by simp [runs.1.2,runs.2]) closed
  | initialized =>
    dsimp only
    split
    next pending => exact capableReceivedTlv_turns silent inside expecting pending
    · have down := expecting.initialized state
      exact turns_refl ⟨fun up => absurd (down.symm.trans up) (by decide),expecting.pending,expecting.initialized⟩
  | receivedTlv =>
    dsimp only
    split
    next pending => exact capableReceivedTlv_turns silent inside expecting pending
    · split
      · exact capableInitialize_turns silent inside expecting
      next going =>
        obtain supervised | ⟨ended,_⟩ := known
        · exact turns_refl supervised
        · exact absurd ended going

end

theorem capableLoop_turns (passes : Nat) {timed : TimedInstance} (silent : timed.Silent)
    (inside : port < timed.inst.numberPorts) (supervised : Supervised (timed.capable port)) :
    Turns port timed (timed.capableLoop event port passes) := by
  induction passes generalizing timed with
  | zero => exact turns_refl supervised
  | succ passes ih =>
    have pass := capablePass_turns (e := event) silent inside supervised.expecting (.inl supervised)
    unfold capableLoop
    dsimp only
    split
    · exact pass
    · exact pass.trans (ih (pass.moved.silent silent) (pass.moved.inside inside) pass.supervised)

theorem portGptpCapableReceiveSm_turns (silent : timed.Silent) (inside : port < timed.inst.numberPorts)
    (expecting : Expecting (timed.capable port))
    (known : Supervised (timed.capable port) ∨ event = .timeout ∧ timed.capableStopped port = false) :
    Turns port timed (timed.portGptpCapableReceiveSm event port) := by
  unfold portGptpCapableReceiveSm
  split
  next stopped =>
    obtain supervised | ⟨_,runs⟩ := known
    · exact ⟨setCapable_moved timed port _,_,rfl,supervised.stopped,fun noTlv => ⟨noTlv,rfl⟩⟩
    · exact absurd (stopped.symm.trans runs) (by decide)
  · have pass := capablePass_turns silent inside expecting known
    unfold capableLoop
    dsimp only
    split
    · exact pass
    · exact pass.trans (capableLoop_turns 4 (pass.moved.silent silent) (pass.moved.inside inside) pass.supervised)

end Neighbor

end TimedInstance

end Genavb.Gptp
