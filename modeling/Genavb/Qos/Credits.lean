import Genavb.Qos.TxSockets
import Mathlib.Order.Lattice
import Mathlib.Algebra.Order.Ring.Int

/-! The increments of the credits of streams, classes and ports against exact addition with a limit. -/
namespace Genavb.Qos
open Common Support
open Function (update)

namespace CreditUpdate

def dt (u : CreditUpdate) : BitVec 32 := u.tnow - u.before.tlast

def elapsed (u : CreditUpdate) : Nat := u.now - u.before.seen

def limit (u : CreditUpdate) : Int := if u.wakes then 0 else 0x40000000

def sum (u : CreditUpdate) : Int := u.before.credit.toInt + u.elapsed * u.rate.toNat

/-- The update is the exact sum up to the limit, and no credit below the limit is lowered. -/
structure Exact (u : CreditUpdate) : Prop where
  value : u.after.toInt = min u.limit u.sum
  kept : min u.before.credit.toInt u.limit ≤ u.after.toInt

/-- The shaper has counted the intervals since its last update, and if these are many or its credit is saturated, the
exact sum has reached the limit; else the sum does not pass the saturation, or the range of an int if the shaper wakes,
and the count is right, or nothing depends on it: the shaper has no rate, or both sums have reached the limit. -/
def Timely (u : CreditUpdate) : Prop :=
  if 0x10000 < u.dt ∨ 0x40000000 ≤ u.before.credit.toInt then u.limit ≤ u.sum
  else u.before.credit.toInt + u.dt.toNat * u.rate.toNat ≤ (if u.wakes then 0x7fffffff else 0x40000000) ∧
    (u.dt.toNat = u.elapsed ∨ u.rate = 0 ∨
      u.limit ≤ u.before.credit.toInt + u.dt.toNat * u.rate.toNat ∧ u.limit ≤ u.sum)

instance (u : CreditUpdate) : Decidable u.Timely := inferInstanceAs (Decidable (ite _ _ _))

def Made (u : CreditUpdate) : Prop := u.after = (u.before.incr u.wakes u.tnow u.now u.rate).credit

end CreditUpdate

open CreditUpdate

section Updates
variable {u : CreditUpdate}

theorem toInt_increment (credit dt rate : BitVec 32) :
    (credit + dt * rate).toInt = (credit.toInt + dt.toNat * rate.toNat).bmod (2^32) := by
  rw [BitVec.toInt_add,BitVec.toInt_eq_toNat_bmod (dt * rate),BitVec.toNat_mul,Int.natCast_emod,Int.emod_bmod]
  simp

theorem Timely.exact (made : u.Made) (timely : u.Timely) : u.Exact := by
  have low := u.before.credit.le_toInt
  unfold Timely at timely
  have value : u.after.toInt = min u.limit u.sum := by
    rw [made,Credit.incr]
    change (if u.wakes = true ∧ 0 < (incrCredit u.before.credit u.dt u.rate).toInt then 0
      else incrCredit u.before.credit u.dt u.rate).toInt = _
    unfold incrCredit
    split at timely
    next saturates =>
      rw [if_pos saturates,min_eq_left timely]
      cases wakes : u.wakes with
      | true | false => simp [limit,wakes]
    next counts =>
      obtain ⟨bound,counted⟩ := timely
      have same : min u.limit (u.before.credit.toInt + u.dt.toNat * u.rate.toNat) = min u.limit u.sum := by
        rcases counted with counted | none | ⟨reached,passed⟩
        · rw [sum,counted]
        · simp [sum,none]
        · rw [min_eq_left reached,min_eq_left passed]
      have whole : (u.before.credit + u.dt * u.rate).toInt =
          u.before.credit.toInt + u.dt.toNat * u.rate.toNat := by
        rw [toInt_increment]
        apply Int.bmod_eq_of_le
        · have := Int.mul_nonneg (Int.natCast_nonneg u.dt.toNat) (Int.natCast_nonneg u.rate.toNat)
          omega
        · split at bound <;> omega
      rw [if_neg counts,← same]
      cases wakes : u.wakes with
      | true =>
        simp only [limit,wakes,true_and,if_true]
        split
        next above => rw [min_eq_left (by omega)]; rfl
        next below => rw [min_eq_right (by omega),whole]
      | false =>
        simp only [limit,wakes,Bool.false_eq_true,false_and,if_false] at bound ⊢
        rw [min_eq_right bound,whole]
  refine ⟨value,?_⟩
  have := Int.mul_nonneg (Int.natCast_nonneg u.elapsed) (Int.natCast_nonneg u.rate.toNat)
  rw [value,sum]
  exact le_min (min_le_right _ _) ((min_le_left _ _).trans (by omega))

theorem timely_short (wakes : u.wakes = true) (counted : u.dt.toNat = u.elapsed) (short : u.elapsed ≤ 1)
    (below : u.before.credit.toInt < 0) (rate : u.rate.toNat < 2^31) : u.Timely := by
  have near : ¬(0x10000 < u.dt ∨ 0x40000000 ≤ u.before.credit.toInt) := by
    have many : (0x10000 : BitVec 32).toNat = 0x10000 := rfl
    rw [BitVec.lt_def]
    omega
  have product : u.elapsed * u.rate.toNat ≤ u.rate.toNat := by simpa using Nat.mul_le_mul_right u.rate.toNat short
  unfold Timely
  rw [if_neg near,counted]
  refine ⟨?_,.inl rfl⟩
  rw [if_pos wakes]
  norm_cast
  omega

end Updates

/-- The increments of a port are made as the source makes them, those of the port itself in time, and the port counts
the intervals since its last one. -/
structure Recorded (gap : Nat) (port : TxPort) : Prop where
  updates : ∀ u ∈ port.updates, u.Made ∧ (u.shaper = .port → u.Timely)
  counted : port.intervals = port.credit.seen + gap ∧ (port.intervalN - port.credit.tlast).toNat = gap
  rate : port.shaper.rate.toNat < 2^31

def TxPort.record (port : TxPort) : List CreditUpdate × Nat × BitVec 32 × BitVec 32 × Nat × Shaper :=
  (port.updates,port.credit.seen,port.credit.tlast,port.intervalN,port.intervals,port.shaper)

section Ports
variable {gap : Nat} {port : TxPort} (recorded : Recorded gap port)
include recorded

omit recorded in
theorem Recorded.congr {p next : TxPort} (recorded : Recorded gap p) (same : next.record = p.record) :
    Recorded gap next := by
  simp only [TxPort.record,Prod.mk.injEq] at same
  obtain ⟨updates,seen,tlast,intervalN,intervals,shaper⟩ := same
  refine ⟨updates ▸ recorded.updates,?_,shaper ▸ recorded.rate⟩
  rw [seen,tlast,intervalN,intervals]
  exact recorded.counted

theorem Recorded.append {next : TxPort} {u : CreditUpdate}
    (same : next.record = {port with updates := port.updates ++ [u]}.record) (made : u.Made)
    (other : u.shaper ≠ .port) : Recorded gap next := by
  refine Recorded.congr (p := {port with updates := port.updates ++ [u]}) ⟨fun old inside => ?_,recorded.counted,
    recorded.rate⟩ same
  rcases List.mem_append.mp inside with before | last
  · exact recorded.updates old before
  · rw [List.mem_singleton.mp last]
    exact ⟨made,fun same => absurd same other⟩

theorem Recorded.streamIncrCredit (wakes : Bool) (c i : Nat) : Recorded gap (port.streamIncrCredit wakes c i) :=
  recorded.append rfl rfl ShaperId.noConfusion

theorem Recorded.srClassIncrCredit (wakes : Bool) (c : Nat) : Recorded gap (port.srClassIncrCredit wakes c) :=
  recorded.append rfl rfl ShaperId.noConfusion

theorem Recorded.portIncrCredit (short : gap ≤ 1) : Recorded 0 port.portIncrCredit := by
  obtain ⟨seen,counted⟩ := recorded.counted
  have elapsed : port.intervals - port.credit.seen = gap := by omega
  have rate := recorded.rate
  unfold TxPort.portIncrCredit
  split
  next below =>
    refine ⟨fun u inside => ?_,⟨rfl,by simp [Credit.incr]⟩,rate⟩
    rcases List.mem_append.mp inside with old | last
    · exact recorded.updates u old
    · rw [List.mem_singleton.mp last]
      exact ⟨rfl,fun _ => timely_short rfl (counted.trans elapsed.symm) (elapsed.le.trans short) below rate⟩
  next above => exact ⟨recorded.updates,⟨rfl,by simp⟩,rate⟩

end Ports

section Traffics
variable {gap : Nat} {traffic next : Traffic} {c t q i : Nat}

variable (recorded : Recorded gap traffic.port)
include recorded

theorem Recorded.decCredits {len : BitVec 32}
    (result : traffic.srClassDecCredit c t q len = some next) : Recorded gap next.port := by
  simp only [Traffic.srClassDecCredit,Option.bind_eq_bind,Option.bind_eq_some_iff,Option.pure_def] at result
  obtain ⟨i,-,ready,-,result⟩ := result
  split at result
  · cases result
    refine Recorded.congr (p := _) recorded ?_
    split <;> rfl
  · split at result
    · cases result
      exact recorded.congr rfl
    · cases result
      exact recorded.congr rfl

theorem Recorded.schedulePending :
    Recorded gap (traffic.schedulePending c t q i).port := by
  unfold Traffic.schedulePending
  split
  · exact recorded.congr rfl
  · exact recorded

theorem Recorded.newPending (result : traffic.newPending c t q = some next) :
    Recorded gap next.port := by
  simp only [Traffic.newPending,Option.bind_eq_bind,Option.bind_eq_some_iff,Option.pure_def] at result
  obtain ⟨i,-,ready,-,result⟩ := result
  split at result
  · cases result
    apply Recorded.schedulePending
    refine Recorded.streamIncrCredit ?_ true c i
    exact recorded.congr rfl
  · cases result
    exact recorded

theorem Recorded.oldPending (result : traffic.oldPending c t q = some next) :
    Recorded gap next.port := by
  simp only [Traffic.oldPending,Option.bind_eq_bind,Option.bind_eq_some_iff,Option.pure_def] at result
  obtain ⟨i,-,result⟩ := result
  cases result
  apply Recorded.schedulePending
  exact recorded.streamIncrCredit false c i

theorem Recorded.srClassUpdate (result : traffic.srClassUpdate c t = some next) :
    Recorded gap next.port := by
  simp only [Traffic.srClassUpdate,Option.bind_eq_bind,Option.bind_eq_some_iff,Option.pure_def] at result
  obtain ⟨first,new,second,old,result⟩ := result
  have middle : Recorded gap first.port :=
    foldlM_kept (I := fun traffic => Recorded gap traffic.port) (fun _ _ _ before step => before.newPending step) recorded new
  have after : Recorded gap second.port :=
    foldlM_kept (I := fun traffic => Recorded gap traffic.port) (fun _ _ _ before step => before.oldPending step) middle old
  split at result
  · cases result
    exact after
  · cases result
    exact after.srClassIncrCredit _ c

theorem Recorded.trafficClassUpdate : Recorded gap (traffic.trafficClassUpdate t).port := by
  refine foldl_kept (I := fun traffic : Traffic => Recorded gap traffic.port) ?_ recorded
  intro traffic before q _
  split
  · exact before.congr rfl
  · exact before

theorem Recorded.updateQueue :
    Recorded gap (traffic.trafficClassUpdateQueue t q).port := by
  unfold Traffic.trafficClassUpdateQueue
  dsimp only
  split
  · exact recorded.congr rfl
  · exact recorded.congr rfl

end Traffics

section Ticks
variable {s next : Sending} {gap c t q : Nat} {grid : PtpGrid} {xmit : Nat → Xmit}

variable (recorded : Recorded gap s.port)
include recorded

theorem Recorded.transmit {account : BitVec 32 → Traffic → Option Traffic}
    (accounts : ∀ len traffic after, Recorded gap traffic.port → account len traffic = some after → Recorded gap after.port)
    (result : s.transmit t q account xmit = some next) : Recorded gap next.port := by
  obtain ⟨r,-,result⟩ := Option.bind_eq_some_iff.mp result
  split at result
  · cases result
  · split at result
    · cases result
      exact recorded
    · obtain ⟨after,accounted,result⟩ := Option.bind_eq_some_iff.mp result
      cases result
      refine accounts _ _ after ?_ accounted
      exact recorded.congr rfl

theorem Recorded.srClassTurn (result : s.srClassTurn c t xmit = some next) :
    Recorded gap next.port := by
  unfold Sending.srClassTurn at result
  split at result
  · cases result
    exact recorded
  · obtain ⟨i,-,result⟩ := Option.bind_eq_some_iff.mp result
    refine Recorded.transmit ?_ (fun _ _ _ before accounted => before.decCredits accounted) result
    refine Recorded.streamIncrCredit ?_ false c i
    exact recorded.congr rfl

theorem Recorded.trafficClassTurn (result : s.trafficClassTurn t xmit = some next) :
    Recorded gap next.port := by
  unfold Sending.trafficClassTurn at result
  split at result
  · cases result
    exact recorded
  · refine Recorded.transmit ?_ (fun _ traffic after before accounted => ?_) result
    · exact recorded.congr rfl
    · cases accounted
      exact before.updateQueue

theorem Recorded.srClassScheduler
    (result : s.srClassScheduler c t grid xmit = some next) : Recorded gap next.port := by
  unfold Sending.srClassScheduler at result
  dsimp only at result
  split at result
  · cases result
    exact recorded
  · obtain ⟨updated,update_result,result⟩ := Option.bind_eq_some_iff.mp result
    obtain ⟨ended,turns,result⟩ := Option.bind_eq_some_iff.mp result
    have before : Recorded gap updated.port := by
      refine Recorded.srClassUpdate ?_ update_result
      exact recorded.congr rfl
    have after : Recorded gap ended.port := loop_kept (I := fun s : Sending => Recorded gap s.port)
      (fun _ _ before _ turn => before.srClassTurn turn) before turns
    split at result
    · cases result
      exact after
    · cases result
      exact after.congr rfl

theorem Recorded.classScheduler (result : s.classScheduler grid xmit t = some next) :
    Recorded gap next.port := by
  unfold Sending.classScheduler at result
  split at result
  · exact recorded.srClassScheduler result
  · exact loop_kept (I := fun s : Sending => Recorded gap s.port) (fun _ _ before _ turn => before.trafficClassTurn turn)
      recorded.trafficClassUpdate result

end Ticks

section Ports
variable {gap : Nat} {port : TxPort}

theorem Recorded.nextInterval (recorded : Recorded 0 port) (tnow : BitVec 32) :
    Recorded 1 {port with tnow := tnow, intervalN := port.intervalN + 1, intervals := port.intervals + 1} := by
  obtain ⟨seen,counted⟩ := recorded.counted
  refine ⟨recorded.updates,⟨congrArg (· + 1) seen,?_⟩,recorded.rate⟩
  change (port.intervalN + 1 - port.credit.tlast).toNat = 1
  bv_omega

theorem Recorded.portScheduler {traffic next : Traffic} {grid : PtpGrid} {xmit : Nat → Xmit} (short : gap ≤ 1)
    (recorded : Recorded gap traffic.port) (result : portScheduler grid xmit traffic = some next) :
    Recorded 1 next.port := by
  obtain ⟨ended,classes,result⟩ := Option.bind_eq_some_iff.mp result
  cases result
  have after : Recorded 0 ended.port := foldlM_kept (I := fun s : Sending => Recorded 0 s.port)
    (fun _ _ _ before step => before.classScheduler step) (recorded.portIncrCredit short) classes
  exact after.nextInterval _

theorem openRate_small (rate : BitVec 32) : (rate * HW_TIMER_PERIOD_NS / 1000 -
    (rate * HW_TIMER_PERIOD_NS / 1000 + 4999) / 5000).toNat < 2^31 := by
  generalize rate * HW_TIMER_PERIOD_NS = product
  have bits : (product / 1000).toNat = product.toNat / 1000 := by rw [BitVec.toNat_udiv]; rfl
  have drift : ((product / 1000 + 4999) / 5000).toNat = (product.toNat / 1000 + 4999) / 5000 := by
    rw [BitVec.toNat_udiv,BitVec.toNat_add,bits]
    change (product.toNat / 1000 + 4999) % 2^32 / 5000 = _
    omega
  have below : (product / 1000 + 4999) / 5000 ≤ product / 1000 := by
    rw [BitVec.le_def,bits,drift]
    omega
  rw [BitVec.toNat_sub_of_le below,bits,drift]
  omega

theorem Recorded.ethAvbOpen (short : gap ≤ 1) (recorded : Recorded gap port) (phySpeed : Nat) :
    ∃ gap ≤ 1, Recorded gap (port.ethAvbOpen phySpeed) := by
  unfold TxPort.ethAvbOpen
  split
  · exact ⟨gap,short,recorded⟩
  · exact ⟨0,Nat.zero_le 1,recorded.updates,⟨rfl,by simp⟩,openRate_small _⟩

end Ports

section Flushes
variable {gap : Nat} {traffic : Traffic}

theorem Recorded.queueFlush (recorded : Recorded gap traffic.port) (t q : Nat) : Recorded gap (traffic.queueFlush t q).port := by
  unfold Traffic.queueFlush
  split
  · exact recorded
  · dsimp only
    split
    · exact recorded.congr rfl
    · exact recorded.congr rfl

theorem Recorded.streamFlush (recorded : Recorded gap traffic.port) (c i : Nat) :
    Recorded gap (traffic.streamFlush c i).port := by
  unfold Traffic.streamFlush
  dsimp only
  split
  · exact recorded
  · split
    · exact recorded
    · refine Recorded.queueFlush ?_ _ _
      exact recorded.congr rfl

theorem Recorded.portFlush (recorded : Recorded gap traffic.port) : Recorded gap traffic.portFlush.port := by
  refine foldl_kept (I := fun traffic : Traffic => Recorded gap traffic.port) ?_ ?_
  · intro traffic before c _
    exact foldl_kept (I := fun traffic : Traffic => Recorded gap traffic.port) (fun _ before i _ => before.streamFlush c i)
      before
  · refine foldl_kept (I := fun traffic : Traffic => Recorded gap traffic.port) (fun _ before t _ => ?_) recorded
    exact foldl_kept (I := fun traffic : Traffic => Recorded gap traffic.port) (fun _ before q _ => before.queueFlush t q)
      before

theorem Recorded.disconnect (recorded : Recorded gap traffic.port) (t q : Nat) :
    Recorded gap (traffic.disconnect t q).port := by
  have flushed := recorded.queueFlush t q
  unfold Traffic.disconnect
  split
  next c _ =>
    unfold Traffic.streamDisconnect
    split
    · exact recorded
    · refine Recorded.congr (p := _) flushed ?_
      dsimp only
      split <;> rfl
  · exact flushed.congr rfl

end Flushes

section Requests
variable {gap : Nat} {traffic : Traffic}

theorem Recorded.srConfig (recorded : Recorded gap traffic.port) (c : Nat) (request : NetSrConfig) :
    Recorded gap (traffic.srConfig c request).port := by
  unfold Traffic.srConfig
  split
  · exact recorded.congr rfl
  · dsimp only
    split <;> split
    · refine Recorded.streamFlush ?_ c _
      exact recorded.congr rfl
    · exact recorded.congr rfl
    · refine Recorded.streamFlush ?_ c _
      exact recorded.congr rfl
    · exact recorded.congr rfl

theorem Recorded.enqueue (recorded : Recorded gap traffic.port) (t q : Nat) (r : TxRing) (descs : List TxDesc) :
    Recorded gap (traffic.enqueue t q r descs).port := by
  unfold Traffic.enqueue
  dsimp only
  split
  · exact recorded
  · exact recorded.congr rfl

private theorem queueConnect_record (port : TxPort) (priority : Nat) (r : TxRing) :
    (port.queueConnect priority r).1.record = port.record := by
  unfold TxPort.queueConnect
  split
  · rfl
  · split
    · rfl
    · split <;> rfl

theorem streamConnect_record (port : TxPort) (config : SrClassConfig) (srClass : Nat) (streamId : StreamId)
    (r : TxRing) : (port.streamConnect config srClass streamId r).1.record = port.record := by
  unfold TxPort.streamConnect
  split <;> rfl

end Requests

namespace NetTx

def Recorded (net : NetTx) : Prop := ∀ p, ∃ gap ≤ 1, Qos.Recorded gap (net.port p)

variable {net : NetTx} (recorded : net.Recorded)
include recorded

theorem Recorded.setPort {p : Nat} {port : TxPort} (kept : ∃ gap ≤ 1, Qos.Recorded gap port) {next : NetTx}
    (same : next.port = update net.port p port) : next.Recorded := by
  intro r
  rw [same]
  by_cases here : r = p
  case pos =>
    subst here
    rw [Function.update_self]
    exact kept
  case neg =>
    rw [Function.update_of_ne here]
    exact recorded r

theorem Recorded.putPort {p : Nat} {port : TxPort} (kept : ∃ gap ≤ 1, Qos.Recorded gap port) :
    NetTx.Recorded {net with port := update net.port p port} := recorded.setPort kept rfl

theorem Recorded.modifyTraffic {f : Traffic → Traffic}
    (kept : ∀ gap traffic, Qos.Recorded gap traffic.port → Qos.Recorded gap (f traffic).port) (p : Nat) :
    (net.modifyTraffic p f).Recorded := by
  obtain ⟨gap,short,port⟩ := recorded p
  exact recorded.setPort ⟨gap,short,kept gap _ port⟩ rfl

theorem Recorded.socketDisconnect (l s : Nat) : (net.socketDisconnect l s).Recorded := by
  have disconnects {other : NetTx} (same : other.port = net.port) (queue : TxQueueId) :
      (other.modifyTraffic queue.p (Traffic.disconnect queue.t queue.q)).Recorded := by
    have other_recorded : other.Recorded := fun p => same ▸ recorded p
    exact other_recorded.modifyTraffic (fun _ _ before => before.disconnect queue.t queue.q) queue.p
  unfold NetTx.socketDisconnect
  dsimp only
  split
  · exact recorded
  · split
    · split <;> exact disconnects rfl _
    · split <;> exact recorded

theorem Recorded.connectFresh (l p s : Nat) (address : TxAddress) : (net.connectFresh l p s address).Recorded := by
  have connects : (net.queueConnect p address s).1.Recorded := by
    obtain ⟨gap,short,port⟩ := recorded p
    refine recorded.setPort (p := p) ⟨gap,short,Qos.Recorded.congr port ?_⟩ rfl
    split
    · exact streamConnect_record _ _ _ _ _
    all_goals exact queueConnect_record _ _ _
  unfold NetTx.connectFresh
  split
  · exact recorded
  · split
    next connected =>
      rw [connected] at connects
      exact connects
    next connected =>
      rw [connected] at connects
      split
      · split <;> exact connects
      all_goals exact connects

theorem Recorded.step (event : TxEvent) : (net.step event).Recorded := by
  unfold NetTx.step
  cases event with
  | connect l s address =>
    unfold NetTx.handle NetTx.socketConnect
    dsimp only [Option.getD_some]
    split
    · exact recorded
    · exact (recorded.socketDisconnect l s).connectFresh l _ s address
  | disconnect s => exact recorded.socketDisconnect _ s
  | write s descs =>
    unfold NetTx.handle NetTx.socketWrite
    dsimp only [Option.getD_some]
    split
    · split
      · exact recorded.modifyTraffic (fun _ _ before => before.enqueue _ _ _ descs) _
      · exact recorded
    · exact recorded
  | hostWrite p desc =>
    unfold NetTx.handle NetTx.hostWrite
    dsimp only [Option.getD_some]
    split
    · exact recorded.modifyTraffic (fun _ _ before => before.enqueue _ _ _ [desc]) p
    · exact recorded
  | srConfig request =>
    unfold NetTx.handle
    dsimp only
    split
    · exact recorded.modifyTraffic (fun _ _ before => before.srConfig _ request) _
    · exact recorded
  | linkUp p phySpeed =>
    obtain ⟨gap,short,port⟩ := recorded p
    have opened := port.ethAvbOpen short phySpeed
    unfold NetTx.handle
    rw [Option.getD_some]
    generalize (net.port p).ethAvbOpen phySpeed = next at opened ⊢
    exact recorded.putPort opened
  | linkDown p =>
    unfold NetTx.handle NetTx.ethAvbClose
    rw [Option.getD_some]
    refine recorded.modifyTraffic (fun _ traffic before => ?_) p
    refine Qos.Recorded.portFlush ?_
    exact before.congr rfl
  | tick p grid xmit =>
    obtain ⟨gap,short,port⟩ := recorded p
    unfold NetTx.handle NetTx.tick
    dsimp only
    split
    · cases ticked : portScheduler grid xmit ⟨net.port p,net.ring⟩ with
      | none => exact recorded
      | some traffic =>
        exact recorded.setPort ⟨1,Nat.le_refl 1,Qos.Recorded.portScheduler short port ticked⟩ rfl
    · exact recorded

end NetTx

theorem init_recorded (config : SrClassConfig) (logicalPort : Nat → Option Nat) (bridge : Nat → Bool) :
    (NetTx.init config logicalPort bridge).Recorded := by
  intro p
  refine ⟨0,Nat.zero_le 1,Recorded.congr ?_ (queueConnect_record _ _ _)⟩
  refine ⟨fun u inside => ?_,⟨rfl,congrArg BitVec.toNat (BitVec.sub_self 0)⟩,Nat.two_pow_pos 31⟩
  exact (List.not_mem_nil inside).elim

/-- Every increment of a credit in a run is exact if those of the classes and streams are made in time. -/
theorem credits_exact (config : SrClassConfig) (logicalPort : Nat → Option Nat) (bridge : Nat → Bool)
    (events : List TxEvent) (p : Nat)
    (timely : ∀ u ∈ ((run NetTx.step events (.init config logicalPort bridge)).port p).updates,
      u.shaper ≠ .port → u.Timely) :
    ∀ u ∈ ((run NetTx.step events (.init config logicalPort bridge)).port p).updates, u.Exact := by
  have recorded : (run NetTx.step events (.init config logicalPort bridge)).Recorded :=
    run_invariant NetTx.step (I := NetTx.Recorded)
      (fun net event recorded _ => recorded.step event) (init_recorded config logicalPort bridge) (steps_always _ _ _)
  obtain ⟨_,_,port⟩ := recorded p
  intro u inside
  obtain ⟨made,own⟩ := port.updates u inside
  by_cases shaper : u.shaper = .port
  · exact Timely.exact made (own shaper)
  · exact Timely.exact made (timely u inside shaper)

def onePacket : List TxEvent :=
  [.linkUp 0 1000,.connect 0 0 (.stream (some 0) 7 true 3),.srConfig ⟨0,2,3,8000000,7⟩,
    .tick 0 ⟨0,125000⟩ fun _ => .sent,.write 0 [⟨1500,none⟩],.tick 0 ⟨0,125000⟩ fun _ => .sent]

theorem credits_exact_onePacket :
    ((run NetTx.step onePacket (.init ⟨0,1,by decide⟩ some fun _ => false)).port 0).updates ≠ [] ∧
      ∀ u ∈ ((run NetTx.step onePacket (.init ⟨0,1,by decide⟩ some fun _ => false)).port 0).updates, u.Exact :=
  ⟨by decide +kernel,credits_exact ⟨0,1,by decide⟩ some (fun _ => false) onePacket 0 (by decide +kernel)⟩

/-- The link goes down and up before the next packet. The port then counts its intervals from zero, the stream still
from the last update, and its debt is gone after one interval. -/
theorem relinked_not_exact :
    ∃ u ∈ ((run NetTx.step (onePacket ++ [.linkDown 0,.linkUp 0 1000,.write 0 [⟨1500,none⟩],
        .tick 0 ⟨0,125000⟩ fun _ => .sent]) (.init ⟨0,1,by decide⟩ some fun _ => false)).port 0).updates,
      u.before.credit.toInt = -12192 ∧ u.elapsed = 1 ∧ u.rate = 1000 ∧ u.after.toInt = 0 ∧ ¬u.Exact := by
  have lifted : ∃ u ∈ ((run NetTx.step (onePacket ++ [.linkDown 0,.linkUp 0 1000,.write 0 [⟨1500,none⟩],
        .tick 0 ⟨0,125000⟩ fun _ => .sent]) (.init ⟨0,1,by decide⟩ some fun _ => false)).port 0).updates,
      u.before.credit.toInt = -12192 ∧ u.elapsed = 1 ∧ u.rate = 1000 ∧ u.after.toInt = 0 ∧
        u.after.toInt ≠ min u.limit u.sum := by decide +kernel
  obtain ⟨u,inside,credit,elapsed,rate,after,lost⟩ := lifted
  exact ⟨u,inside,credit,elapsed,rate,after,fun exact => lost exact.value⟩

end Genavb.Qos
