import Genavb.Qos.State
import Genavb.Support.Slots
import Mathlib.Data.Finset.Card
import Mathlib.Combinatorics.Pigeonhole

/-! What a reservation changes: the slot of the stream, its queue, and the totals of the class and the port. -/
namespace Genavb.Qos
open Common Support StreamQueue SrClass BitVec

namespace StreamQueue

def slope (stream : StreamQueue) : Nat := if stream.configured then stream.idleSlope.toNat else 0

def bits (stream : StreamQueue) : Nat := if stream.configured then stream.shaper.rate.toNat else 0

def count (stream : StreamQueue) : Nat := if stream.configured then 1 else 0

end StreamQueue

namespace SrClass

def reserved (sr : SrClass) : Nat := total sr.streamMax slope sr.stream

/-- The totals of a class are those of its first `n` streams. -/
structure Counted (n : Nat) (sr : SrClass) : Prop where
  idleSlope : sr.idleSlope = BitVec.ofNat 32 (total n slope sr.stream)
  streams : sr.streams = total n count sr.stream
  rate : sr.shaper.rate = BitVec.ofNat 32 (total n StreamQueue.bits sr.stream)
  creditMin : sr.shaper.creditMin = -BitVec.ofNat 32 (total n StreamQueue.bits sr.stream)

def configured (idleSlope : BitVec 32) (stream : StreamQueue) (sr : SrClass) : StreamQueue :=
  {stream with
    configured := idleSlope != 0
    shaper := shaperSet (sr.scaleIdleSlope idleSlope)
    idleSlope := idleSlope}

def configure (i : Nat) (idleSlope : BitVec 32) (sr : SrClass) : SrClass :=
  {sr with
    stream := Function.update sr.stream i (sr.configured idleSlope (sr.stream i))
    qosQueue := (sr.enableQueue i (idleSlope != 0)).qosQueue
    shaper := ⟨sr.shaper.rate - BitVec.ofNat 32 (sr.stream i).bits + sr.scaleIdleSlope idleSlope,
      sr.shaper.creditMin + BitVec.ofNat 32 (sr.stream i).bits - sr.scaleIdleSlope idleSlope⟩
    idleSlope := sr.idleSlope - (sr.stream i).idleSlope + idleSlope
    streams := sr.streams - (sr.stream i).count + (sr.configured idleSlope (sr.stream i)).count}

end SrClass

def PortQos.configure (c i : Nat) (idleSlope : BitVec 32) (port : PortQos) : PortQos :=
  let sr := port.srClass c
  {port.setClass c (sr.configure i idleSlope) with
    usedRate := port.usedRate - (sr.stream i).idleSlope + idleSlope
    streams := port.streams - (sr.stream i).count + (sr.configured idleSlope (sr.stream i)).count}

section Classes
variable {sr : SrClass} {i n : Nat} {idleSlope : BitVec 32}

private theorem enableQueue_same (i : Nat) (enabled : Bool) (sr : SrClass) : sr.enableQueue i enabled =
    {sr with qosQueue := (sr.enableQueue i enabled).qosQueue} := by
  unfold enableQueue
  split
  · rfl
  · split <;> rfl

private theorem enableQueue_qosQueue {other : SrClass} {enabled : Bool}
    (connected : (other.stream i).connected = (sr.stream i).connected)
    (queue : (other.stream i).qosQueue = (sr.stream i).qosQueue) (queues : other.qosQueue = sr.qosQueue) :
    (other.enableQueue i enabled).qosQueue = (sr.enableQueue i enabled).qosQueue := by
  unfold enableQueue
  rw [queue]
  split
  · exact queues
  · rw [connected]
    split
    · unfold modifyQueue
      rw [queues]
    · exact queues

private theorem scale_zero (sr : SrClass) : sr.scaleIdleSlope 0 = 0 := by
  simp [scaleIdleSlope]

theorem interval_short (srClass : Nat) :
    ((srClassInterval srClass).getD (0,1)).1 ≤ 1000000000 * ((srClassInterval srClass).getD (0,1)).2 := by
  match srClass with
  | 0 | 1 | 2 | 3 | 4 => decide
  | _ + 5 => exact Nat.zero_le _

theorem scale_le (idleSlope : BitVec 32) (sr : SrClass) : (sr.scaleIdleSlope idleSlope).toNat ≤ idleSlope.toNat := by
  have short := interval_short sr.srClass
  unfold scaleIdleSlope
  refine (Nat.mod_le _ _).trans (Nat.div_le_of_le_mul ?_)
  rw [Nat.mul_comm]
  exact Nat.mul_le_mul_right _ short

theorem ofNat_replace {before after : Nat} {old new : BitVec 32} (same : after + old.toNat = before + new.toNat) :
    BitVec.ofNat 32 before - old + new = BitVec.ofNat 32 after := by
  have equal := congrArg (BitVec.ofNat 32) same
  rw [ofNat_add,ofNat_add,ofNat_toNat,ofNat_toNat,setWidth_eq,setWidth_eq] at equal
  bv_omega

theorem configured_slope (stream : StreamQueue) : (sr.configured idleSlope stream).slope = idleSlope.toNat := by
  unfold StreamQueue.slope SrClass.configured
  by_cases zero : idleSlope = 0
  case pos => simp [zero]
  case neg => rw [if_pos (by simpa using zero)]

theorem configured_bits (stream : StreamQueue) :
    (sr.configured idleSlope stream).bits = (sr.scaleIdleSlope idleSlope).toNat := by
  unfold StreamQueue.bits SrClass.configured shaperSet
  by_cases zero : idleSlope = 0
  case pos =>
    rw [zero,scale_zero]
    simp
  case neg => rw [if_pos (by simpa using zero)]

theorem bits_toNat (stream : StreamQueue) : (BitVec.ofNat 32 stream.bits).toNat = stream.bits := by
  apply Nat.mod_eq_of_lt
  unfold StreamQueue.bits
  split <;> omega

theorem slope_idleSlope {stream : StreamQueue} (cleared : stream.configured = false → stream.idleSlope = 0) :
    stream.slope = stream.idleSlope.toNat := by
  unfold StreamQueue.slope
  cases configured : stream.configured with
  | true => rfl
  | false => simp [cleared configured]

theorem SrClass.Counted.configure (counted : sr.Counted n) (inside : i < n)
    (cleared : (sr.stream i).configured = false → (sr.stream i).idleSlope = 0) :
    (sr.configure i idleSlope).Counted n := by
  have slopes := @total_update _ n i sr.stream slope inside (sr.configured idleSlope (sr.stream i))
  have counts := @total_update _ n i sr.stream count inside (sr.configured idleSlope (sr.stream i))
  have bits := @total_update _ n i sr.stream StreamQueue.bits inside (sr.configured idleSlope (sr.stream i))
  have least : (sr.stream i).count ≤ total n count sr.stream := weight_le_total inside
  rw [configured_slope,slope_idleSlope cleared] at slopes
  rw [configured_bits,← bits_toNat] at bits
  have replaced := ofNat_replace bits
  refine ⟨?_,?_,?_,?_⟩
  · change sr.idleSlope - (sr.stream i).idleSlope + idleSlope = _
    rw [counted.idleSlope]
    exact ofNat_replace slopes
  · change sr.streams - (sr.stream i).count + _ = total n count (Function.update sr.stream i _)
    rw [counted.streams]
    omega
  · change sr.shaper.rate - BitVec.ofNat 32 (sr.stream i).bits + sr.scaleIdleSlope idleSlope = _
    rw [counted.rate]
    exact replaced
  · change sr.shaper.creditMin + BitVec.ofNat 32 (sr.stream i).bits - sr.scaleIdleSlope idleSlope =
      -BitVec.ofNat 32 (total n StreamQueue.bits (Function.update sr.stream i _))
    rw [counted.creditMin,← replaced]
    bv_omega

theorem SrClass.Counted.next (counted : sr.Counted n) (idle : (sr.stream n).configured = false) :
    sr.Counted (n + 1) := by
  obtain ⟨slopes,counts,rates,credits⟩ := counted
  have none : (sr.stream n).slope = 0 ∧ (sr.stream n).count = 0 ∧ (sr.stream n).bits = 0 := by
    simp [StreamQueue.slope,count,StreamQueue.bits,idle]
  refine ⟨?_,?_,?_,?_⟩
  · rw [total_succ,none.1,slopes,Nat.add_zero]
  · rw [total_succ,none.2.1,counts,Nat.add_zero]
  · rw [total_succ,none.2.2,rates,Nat.add_zero]
  · rw [total_succ,none.2.2,credits,Nat.add_zero]

end Classes

section Ports
variable {port : PortQos} {c i : Nat} {idleSlope : BitVec 32}

theorem setClass_setClass (first second : SrClass) :
    (port.setClass c first).setClass c second = port.setClass c second := by
  unfold PortQos.setClass
  rw [Function.update_idem]

@[simp] theorem setClass_srClass (sr : SrClass) : (port.setClass c sr).srClass c = sr := Function.update_self _ _ _

theorem setClass_self : port.setClass c (port.srClass c) = port := by
  unfold PortQos.setClass
  rw [Function.update_eq_self]

theorem release_reservation (cleared : ((port.srClass c).stream i).configured = false →
      ((port.srClass c).stream i).idleSlope = 0) :
    (if ((port.srClass c).stream i).configured then port.releaseStream c i else port) =
      {port.setClass c {port.srClass c with
          shaper := ⟨(port.srClass c).shaper.rate - BitVec.ofNat 32 ((port.srClass c).stream i).bits,
            (port.srClass c).shaper.creditMin + BitVec.ofNat 32 ((port.srClass c).stream i).bits⟩
          idleSlope := (port.srClass c).idleSlope - ((port.srClass c).stream i).idleSlope
          streams := (port.srClass c).streams - ((port.srClass c).stream i).count} with
        usedRate := port.usedRate - ((port.srClass c).stream i).idleSlope
        streams := port.streams - ((port.srClass c).stream i).count} := by
  unfold StreamQueue.bits count
  cases configured : ((port.srClass c).stream i).configured with
  | true => simp [PortQos.releaseStream,Shaper.add,sub_eq_add_neg,PortQos.setClass]
  | false =>
    rw [cleared configured]
    simp [PortQos.setClass]

theorem netQosStreamConfigure_refused
    (full : port.usedRate + idleSlope - ((port.srClass c).stream i).idleSlope > port.maxRate) :
    port.netQosStreamConfigure c i idleSlope = (port,some .EBUSY) := by
  unfold PortQos.netQosStreamConfigure
  rw [if_pos full]

theorem netQosStreamConfigure_granted (cleared : ((port.srClass c).stream i).configured = false →
      ((port.srClass c).stream i).idleSlope = 0)
    (room : ¬port.usedRate + idleSlope - ((port.srClass c).stream i).idleSlope > port.maxRate) :
    port.netQosStreamConfigure c i idleSlope = (port.configure c i idleSlope,none) := by
  unfold PortQos.netQosStreamConfigure
  rw [if_neg room,release_reservation cleared]
  dsimp only
  by_cases zero : idleSlope = 0
  case pos =>
    have scale : scaleIdleSlope 0#32 (port.srClass c) = 0#32 := scale_zero _
    dsimp only [PortQos.clearStream,PortQos.configure,configure]
    rw [enableQueue_same,@enableQueue_qosQueue (port.srClass c) i]
    · simp [zero,scale,modifyStream,count,SrClass.configured,shaperSet,PortQos.setClass]
    · simp [modifyStream]
    · simp [modifyStream]
    · simp [modifyStream]
  case neg =>
    have set : (idleSlope != 0#32) = true := by simpa using zero
    rw [if_pos zero]
    dsimp only [PortQos.reserveStream,PortQos.configure,configure]
    rw [enableQueue_same,@enableQueue_qosQueue (port.srClass c) i]
    · simp [set,modifyStream,count,SrClass.configured,shaperSet,PortQos.setClass,Shaper.add,
        scaleIdleSlope]
    · simp [modifyStream]
    · simp [modifyStream]
    · simp [modifyStream]

end Ports

end Genavb.Qos

/-! The slots of a class, and how they and the queues of the traffic class lead to each other. -/
namespace Genavb.Qos
open Option
open Function (update update_of_ne update_self)

structure Apart (n : Nat) (stream : Nat → StreamQueue) : Prop where
  distinct : ∀ i < n, ∀ j < n, (stream i).used = true → (stream j).used = true → (stream i).id = (stream j).id → i = j
  cleared : ∀ i < n, (stream i).configured = false → (stream i).idleSlope = 0
  scaled : ∀ i < n, (stream i).bits ≤ (stream i).slope

/-- The first `n` slots and the queues of their sockets. -/
structure Linked (n : Nat) (stream : Nat → StreamQueue) (queue : Nat → QosQueue) : Prop where
  joined : ∀ i < n, (stream i).connected = true → ∃ q, (stream i).qosQueue = some q ∧ (queue q).stream = some i
  held : ∀ q i, (queue q).stream = some i → i < n ∧ (stream i).connected = true ∧ (stream i).qosQueue = some q
  taken : ∀ q, (queue q).connected = true ↔ (queue q).stream ≠ none

def Matches (stream : Nat → StreamQueue) (queue : Nat → QosQueue) (i : Nat) : Prop :=
  ∀ q, (stream i).connected = true → (stream i).qosQueue = some q → (queue q).enabled = (stream i).configured

section Links
variable {n i q : Nat} {stream other : Nat → StreamQueue} {queue others : Nat → QosQueue} {slot : StreamQueue}

theorem Apart.update (apart : Apart n stream) (cleared : slot.configured = false → slot.idleSlope = 0)
    (scaled : slot.bits ≤ slot.slope)
    (fresh : slot.used = true → ∀ j < n, j ≠ i → (stream j).used = true → (stream j).id ≠ slot.id) :
    Apart n (update stream i slot) where
  distinct := by
    intro j inside k below used_j used_k same
    by_cases here : j = i
    case pos =>
      subst here
      by_cases there : k = j
      case pos => exact there.symm
      case neg =>
        rw [update_self] at used_j same
        rw [update_of_ne there] at used_k same
        exact absurd same.symm (fresh used_j k below there used_k)
    case neg =>
      rw [update_of_ne here] at used_j same
      by_cases there : k = i
      case pos =>
        subst there
        rw [update_self] at used_k same
        exact absurd same (fresh used_k j inside here used_j)
      case neg =>
        rw [update_of_ne there] at used_k same
        exact apart.distinct j inside k below used_j used_k same
  cleared := by
    intro j inside
    by_cases here : j = i
    case pos =>
      rw [here,update_self]
      exact cleared
    case neg =>
      rw [update_of_ne here]
      exact apart.cleared j inside
  scaled := by
    intro j inside
    by_cases here : j = i
    case pos =>
      rw [here,update_self]
      exact scaled
    case neg =>
      rw [update_of_ne here]
      exact apart.scaled j inside

theorem Apart.fresh (apart : Apart n stream) (inside : i < n) (used : slot.used = true → (stream i).used = true)
    (id : slot.id = (stream i).id) :
    slot.used = true → ∀ j < n, j ≠ i → (stream j).used = true → (stream j).id ≠ slot.id := by
  intro taken j below other_slot used_j same
  exact other_slot (apart.distinct j below i inside used_j (used taken) (same.trans id))

section
variable (linked : Linked n stream queue)
include linked

theorem Linked.congr
    (slots : ∀ i, (other i).connected = (stream i).connected ∧ (other i).qosQueue = (stream i).qosQueue)
    (queues : ∀ q, (others q).connected = (queue q).connected ∧ (others q).stream = (queue q).stream) :
    Linked n other others where
  joined := by
    intro i inside connected
    rw [(slots i).1] at connected
    obtain ⟨q,queue_of,back⟩ := linked.joined i inside connected
    exact ⟨q,(slots i).2.trans queue_of,(queues q).2.trans back⟩
  held := by
    intro q i back
    rw [(slots i).1,(slots i).2]
    exact linked.held q i ((queues q).2.symm.trans back)
  taken := by
    intro q
    rw [(queues q).1,(queues q).2]
    exact linked.taken q

theorem Linked.connect {held : QosQueue} (inside : i < n)
    (idle : (stream i).connected = false) (free : (queue q).connected = false)
    (connected : slot.connected = true) (queue_of : slot.qosQueue = some q)
    (taken : held.connected = true) (back : held.stream = some i) :
    Linked n (update stream i slot) (update queue q held) := by
  have unlinked : (queue q).stream = none := by
    by_contra linked_to
    exact absurd ((linked.taken q).mpr linked_to) (by simp [free])
  refine ⟨?_,?_,?_⟩
  · intro j below joined
    by_cases here : j = i
    case pos =>
      subst here
      rw [update_self]
      exact ⟨q,queue_of,by rw [update_self,back]⟩
    case neg =>
      rw [update_of_ne here] at joined ⊢
      obtain ⟨p,queue_j,back_j⟩ := linked.joined j below joined
      have elsewhere : p ≠ q := by
        rintro rfl
        rw [unlinked] at back_j
        cases back_j
      exact ⟨p,queue_j,by rw [update_of_ne elsewhere,back_j]⟩
  · intro p j back_j
    by_cases here : p = q
    case pos =>
      subst here
      rw [update_self,back] at back_j
      cases back_j
      rw [update_self]
      exact ⟨inside,connected,queue_of⟩
    case neg =>
      rw [update_of_ne here] at back_j
      have other_slot : j ≠ i := by
        rintro rfl
        have joined := (linked.held p j back_j).2.1
        rw [idle] at joined
        cases joined
      rw [update_of_ne other_slot]
      exact linked.held p j back_j
  · intro p
    by_cases here : p = q
    case pos =>
      subst here
      simp [taken,back]
    case neg =>
      rw [update_of_ne here]
      exact linked.taken p

theorem Linked.disconnect {left : QosQueue} (back : (queue q).stream = some i)
    (idle : slot.connected = false) (free : left.connected = false) (unlinked : left.stream = none) :
    Linked n (update stream i slot) (update queue q left) := by
  refine ⟨?_,?_,?_⟩
  · intro j below joined
    by_cases here : j = i
    case pos =>
      subst here
      rw [update_self,idle] at joined
      cases joined
    case neg =>
      rw [update_of_ne here] at joined ⊢
      obtain ⟨p,queue_j,back_j⟩ := linked.joined j below joined
      have elsewhere : p ≠ q := by
        rintro rfl
        exact here (Option.some.inj (back_j.symm.trans back))
      exact ⟨p,queue_j,by rw [update_of_ne elsewhere,back_j]⟩
  · intro p j back_j
    by_cases here : p = q
    case pos =>
      subst here
      rw [update_self,unlinked] at back_j
      cases back_j
    case neg =>
      rw [update_of_ne here] at back_j
      have kept := linked.held p j back_j
      have other_slot : j ≠ i := by
        rintro rfl
        have own := (linked.held q j back).2.2
        exact here (Option.some.inj (kept.2.2.symm.trans own))
      rw [update_of_ne other_slot]
      exact kept
  · intro p
    by_cases here : p = q
    case pos =>
      subst here
      simp [free,unlinked]
    case neg =>
      rw [update_of_ne here]
      exact linked.taken p

theorem Linked.free_queue (fewer : n < CFG_TRAFFIC_CLASS_QUEUE_MAX) :
    ∃ q ∈ List.range CFG_TRAFFIC_CLASS_QUEUE_MAX, (queue q).connected = false := by
  by_contra full
  push Not at full
  have slot (q : Nat) (inside : q ∈ Finset.range CFG_TRAFFIC_CLASS_QUEUE_MAX) : ∃ i, (queue q).stream = some i := by
    have connected := Bool.eq_true_of_not_eq_false (full q (by simpa using inside))
    exact ne_none_iff_exists'.mp ((linked.taken q).mp connected)
  have card : (Finset.range n).card < (Finset.range CFG_TRAFFIC_CLASS_QUEUE_MAX).card := by
    rw [Finset.card_range,Finset.card_range]
    exact fewer
  have maps : ∀ q ∈ Finset.range CFG_TRAFFIC_CLASS_QUEUE_MAX, ((queue q).stream.getD 0) ∈ Finset.range n := by
    intro q inside
    obtain ⟨i,back⟩ := slot q inside
    rw [back]
    exact Finset.mem_range.mpr (linked.held q i back).1
  obtain ⟨q,inside,other,there,apart,same⟩ := Finset.exists_ne_map_eq_of_card_lt_of_maps_to card maps
  obtain ⟨i,back⟩ := slot q inside
  obtain ⟨j,behind⟩ := slot other there
  rw [back,behind,getD_some,getD_some] at same
  subst same
  have one := (linked.held q i back).2.2
  have two := (linked.held other i behind).2.2
  exact apart (Option.some.inj (one.symm.trans two))

end

theorem Matches.congr {j : Nat} (matched : Matches stream queue j) (connected : (other j).connected = true →
      (stream j).connected = true) (queue_of : (other j).qosQueue = (stream j).qosQueue)
    (configured : (other j).configured = (stream j).configured)
    (queues : ∀ q, (stream j).connected = true → (stream j).qosQueue = some q →
      (others q).enabled = (queue q).enabled) : Matches other others j := by
  intro q joined link
  rw [queue_of] at link
  rw [configured,queues q (connected joined) link]
  exact matched q (connected joined) link

end Links

end Genavb.Qos
