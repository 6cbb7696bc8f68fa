import Genavb.Qos.Links

/-! What the requests keep of an SR class. -/
namespace Genavb.Qos
open Support
open Function (update update_of_ne update_self)

structure SrClass.Shaped (sr : SrClass) : Prop where
  size : sr.streamMax = CFG_SR_CLASS_HIGH_STREAM_MAX
  apart : Apart sr.streamMax sr.stream
  linked : Linked sr.streamMax sr.stream sr.qosQueue
  matched : ∀ i < sr.streamMax, Matches sr.stream sr.qosQueue i

def StreamQueue.reservation (stream : StreamQueue) : Bool × BitVec 32 × Shaper :=
  (stream.configured,stream.idleSlope,stream.shaper)

structure SrClass.Reserves (sr other : SrClass) : Prop where
  size : other.streamMax = sr.streamMax
  shaper : other.shaper = sr.shaper
  idleSlope : other.idleSlope = sr.idleSlope
  streams : other.streams = sr.streams
  slots : ∀ i, (other.stream i).reservation = (sr.stream i).reservation

section Reservations
variable {sr other : SrClass} {first second : StreamQueue} {n : Nat}

section
variable (same : first.reservation = second.reservation)
include same

theorem slope_reservation : first.slope = second.slope := by
  unfold StreamQueue.reservation at same
  unfold StreamQueue.slope
  grind

private theorem bits_reservation : first.bits = second.bits := by
  unfold StreamQueue.reservation at same
  unfold StreamQueue.bits
  grind

theorem count_reservation : first.count = second.count := by
  unfold StreamQueue.reservation at same
  unfold StreamQueue.count
  grind

end

theorem SrClass.Reserves.trans {third : SrClass} (one : sr.Reserves other) (two : other.Reserves third) :
    sr.Reserves third where
  size := two.size.trans one.size
  shaper := two.shaper.trans one.shaper
  idleSlope := two.idleSlope.trans one.idleSlope
  streams := two.streams.trans one.streams
  slots := fun i => (two.slots i).trans (one.slots i)

theorem SrClass.Reserves.slopes (reserves : sr.Reserves other) :
    total n StreamQueue.slope other.stream = total n StreamQueue.slope sr.stream :=
  total_congr fun i _ => slope_reservation (reserves.slots i)

theorem SrClass.Reserves.counts (reserves : sr.Reserves other) :
    total n StreamQueue.count other.stream = total n StreamQueue.count sr.stream :=
  total_congr fun i _ => count_reservation (reserves.slots i)

theorem SrClass.Reserves.counted (reserves : sr.Reserves other) (counted : sr.Counted n) : other.Counted n := by
  have rates : total n StreamQueue.bits other.stream = total n StreamQueue.bits sr.stream :=
    total_congr fun i _ => bits_reservation (reserves.slots i)
  refine ⟨?_,?_,?_,?_⟩
  · rw [reserves.slopes,reserves.idleSlope]
    exact counted.idleSlope
  · rw [reserves.counts,reserves.streams]
    exact counted.streams
  · rw [rates,reserves.shaper]
    exact counted.rate
  · rw [rates,reserves.shaper]
    exact counted.creditMin

end Reservations

section Classes
variable {sr : SrClass} {i j n q : Nat} {idleSlope : BitVec 32} {streamId : StreamId}

/-- Writes to a slot beside its link and its reservation. -/
structure Relabels (f : StreamQueue → StreamQueue) : Prop where
  connected : ∀ stream, (f stream).connected = stream.connected
  configured : ∀ stream, (f stream).configured = stream.configured
  qosQueue : ∀ stream, (f stream).qosQueue = stream.qosQueue
  idleSlope : ∀ stream, (f stream).idleSlope = stream.idleSlope
  shaper : ∀ stream, (f stream).shaper = stream.shaper

namespace Relabels
variable {f : StreamQueue → StreamQueue}

theorem reservation (relabels : Relabels f) (stream : StreamQueue) : (f stream).reservation = stream.reservation := by
  unfold StreamQueue.reservation
  rw [relabels.configured,relabels.idleSlope,relabels.shaper]

theorem used (relabels : Relabels f) (stream : StreamQueue) : (f stream).used = stream.used := by
  unfold StreamQueue.used
  rw [relabels.connected,relabels.configured]

theorem slots_kept {γ : Type} {field : StreamQueue → γ} (kept : ∀ stream, field (f stream) = field stream)
    (sr : SrClass) (i j : Nat) : field ((sr.modifyStream i f).stream j) = field (sr.stream j) := by
  unfold SrClass.modifyStream
  by_cases here : j = i
  case pos =>
    rw [here]
    simp [kept]
  case neg => simp [here]

end Relabels

open Relabels

theorem relabels_reserves {f : StreamQueue → StreamQueue} (relabels : Relabels f) :
    sr.Reserves (sr.modifyStream i f) :=
  ⟨rfl,rfl,rfl,rfl,fun j => slots_kept relabels.reservation sr i j⟩

theorem SrClass.Shaped.relabel {f : StreamQueue → StreamQueue} (shaped : sr.Shaped) (relabels : Relabels f)
    (inside : i < sr.streamMax) (fresh : (sr.stream i).used = true → (f (sr.stream i)).id = (sr.stream i).id) :
    (sr.modifyStream i f).Shaped where
  size := shaped.size
  apart := by
    apply shaped.apart.update
    · rw [relabels.configured,relabels.idleSlope]
      exact shaped.apart.cleared i inside
    · rw [bits_reservation (relabels.reservation _),slope_reservation (relabels.reservation _)]
      exact shaped.apart.scaled i inside
    · intro used
      have before := (relabels.used _).symm.trans used
      exact shaped.apart.fresh inside (fun _ => before) (fresh before) used
  linked := shaped.linked.congr
    (fun j => ⟨slots_kept relabels.connected sr i j,slots_kept relabels.qosQueue sr i j⟩)
    fun _ => ⟨rfl,rfl⟩
  matched := by
    intro j below
    apply (shaped.matched j below).congr
    · rw [slots_kept relabels.connected sr i j]
      exact id
    · exact slots_kept relabels.qosQueue sr i j
    · exact slots_kept relabels.configured sr i j
    · exact fun _ _ _ => rfl

theorem SrClass.Shaped.socket (shaped : sr.Shaped) (socket : Option VlanLabel) :
    (sr.modifyQueue q fun queue => {queue with socket := socket}).Shaped where
  size := shaped.size
  apart := shaped.apart
  linked := by
    apply shaped.linked.congr fun _ => ⟨rfl,rfl⟩
    intro p
    unfold SrClass.modifyQueue
    by_cases here : p = q
    case pos =>
      subst here
      simp
    case neg => simp [here]
  matched := by
    intro j below
    apply (shaped.matched j below).congr id rfl rfl
    intro p _ _
    unfold SrClass.modifyQueue
    by_cases here : p = q
    case pos =>
      subst here
      simp
    case neg => simp [here]

theorem streamGet_cases (streamId : StreamId) (sr : SrClass) :
    (∃ i < sr.streamMax, (sr.stream i).used = true ∧ (sr.stream i).id = streamId ∧
      sr.streamGet streamId = (sr,some i)) ∨
    ((∀ i < sr.streamMax, (sr.stream i).used = true → (sr.stream i).id ≠ streamId) ∧
      ((∃ i < sr.streamMax, (sr.stream i).used = false ∧
        sr.streamGet streamId = (sr.modifyStream i fun stream => {stream with id := streamId},some i)) ∨
      sr.streamGet streamId = (sr,none))) := by
  unfold SrClass.streamGet
  split
  next i found =>
    obtain ⟨same,inside⟩ := And.intro (List.find?_some found) (List.mem_of_find?_eq_some found)
    rw [Bool.and_eq_true,beq_iff_eq] at same
    exact .inl ⟨i,List.mem_range.mp inside,same.1,same.2,rfl⟩
  next missing =>
    rw [List.find?_eq_none] at missing
    refine .inr ⟨?_,?_⟩
    · intro i inside used same
      exact missing i (List.mem_range.mpr inside) (by simp [used,same])
    · split
      next i found =>
        have free := List.find?_some found
        rw [Bool.not_eq_true'] at free
        exact .inl ⟨i,List.mem_range.mp (List.mem_of_find?_eq_some found),free,rfl⟩
      · exact .inr rfl

theorem relabels_id (streamId : StreamId) : Relabels fun stream => {stream with id := streamId} :=
  ⟨fun _ => rfl,fun _ => rfl,fun _ => rfl,fun _ => rfl,fun _ => rfl⟩

theorem relabels_label (label : VlanLabel) : Relabels fun stream => {stream with vlanLabel := label} :=
  ⟨fun _ => rfl,fun _ => rfl,fun _ => rfl,fun _ => rfl,fun _ => rfl⟩

theorem SrClass.Shaped.streamGet (shaped : sr.Shaped) (found : (sr.streamGet streamId).2 = some i) :
    (sr.streamGet streamId).1.Shaped ∧ i < sr.streamMax ∧
      ∀ j < sr.streamMax, j ≠ i → ((sr.streamGet streamId).1.stream j).used = true →
        ((sr.streamGet streamId).1.stream j).id ≠ ((sr.streamGet streamId).1.stream i).id := by
  rcases streamGet_cases streamId sr with ⟨k,inside,used,id,result⟩ | ⟨others,⟨k,inside,free,result⟩ | result⟩
  · rw [result] at found ⊢
    cases found
    refine ⟨shaped,inside,?_⟩
    intro j below apart used_j same
    exact apart (shaped.apart.distinct j below i inside used_j used same)
  · rw [result] at found ⊢
    cases found
    have relabels := relabels_id streamId
    refine ⟨shaped.relabel relabels inside ?_,inside,?_⟩
    · intro used
      rw [free] at used
      cases used
    · intro j below apart used_j
      rw [slots_kept relabels.used] at used_j
      have old := others j below used_j
      unfold SrClass.modifyStream
      simpa [apart] using old
  · rw [result] at found
    cases found

theorem streamGet_reserves (streamId : StreamId) (sr : SrClass) : sr.Reserves (sr.streamGet streamId).1 := by
  rcases streamGet_cases streamId sr with ⟨k,inside,used,id,result⟩ | ⟨others,⟨k,inside,free,result⟩ | result⟩
  · rw [result]
    exact ⟨rfl,rfl,rfl,rfl,fun _ => rfl⟩
  · rw [result]
    exact relabels_reserves (relabels_id streamId)
  · rw [result]
    exact ⟨rfl,rfl,rfl,rfl,fun _ => rfl⟩

section Queues
variable {enabled : Bool}

theorem enableQueue_links (i : Nat) (enabled : Bool) (sr : SrClass) (q : Nat) :
    ((sr.enableQueue i enabled).qosQueue q).connected = (sr.qosQueue q).connected ∧
      ((sr.enableQueue i enabled).qosQueue q).stream = (sr.qosQueue q).stream := by
  unfold SrClass.enableQueue SrClass.modifyQueue
  split
  · exact ⟨rfl,rfl⟩
  next p _ =>
    split
    · by_cases here : q = p
      case pos =>
        subst here
        simp
      case neg => simp [here]
    · exact ⟨rfl,rfl⟩

theorem enableQueue_own (connected : (sr.stream i).connected = true) (link : (sr.stream i).qosQueue = some q) :
    ((sr.enableQueue i enabled).qosQueue q).enabled = enabled := by
  unfold SrClass.enableQueue SrClass.modifyQueue
  rw [link]
  simp [connected]

theorem enableQueue_other (elsewhere : (sr.stream i).connected = true → (sr.stream i).qosQueue ≠ some q) :
    (sr.enableQueue i enabled).qosQueue q = sr.qosQueue q := by
  unfold SrClass.enableQueue SrClass.modifyQueue
  split
  · rfl
  next p link =>
    split
    next connected =>
      have apart : q ≠ p := fun same => elsewhere connected (by rw [link,same])
      simp [apart]
    · rfl

end Queues

theorem Linked.queue_inj {stream : Nat → StreamQueue} {queue : Nat → QosQueue} (linked : Linked n stream queue)
    (inside : i < n) (below : j < n) (one : (stream i).connected = true) (two : (stream j).connected = true)
    (link : (stream i).qosQueue = some q) (other : (stream j).qosQueue = some q) : i = j := by
  obtain ⟨p,queue_i,back_i⟩ := linked.joined i inside one
  obtain ⟨r,queue_j,back_j⟩ := linked.joined j below two
  cases queue_i.symm.trans link
  cases queue_j.symm.trans other
  exact Option.some.inj (back_i.symm.trans back_j)

theorem SrClass.configure_shaped (size : sr.streamMax = CFG_SR_CLASS_HIGH_STREAM_MAX)
    (apart : Apart sr.streamMax sr.stream) (linked : Linked sr.streamMax sr.stream sr.qosQueue)
    (matched : ∀ j < sr.streamMax, j ≠ i → Matches sr.stream sr.qosQueue j) (inside : i < sr.streamMax)
    (used : idleSlope ≠ 0 → ∀ j < sr.streamMax, j ≠ i → (sr.stream j).used = true →
      (sr.stream j).id ≠ (sr.stream i).id) : (sr.configure i idleSlope).Shaped where
  size := size
  apart := by
    apply apart.update
    · intro idle
      have zero : (idleSlope != 0) = false := idle
      exact bne_eq_false_iff_eq.mp zero
    · rw [configured_bits,configured_slope]
      exact scale_le idleSlope sr
    · intro taken
      by_cases zero : idleSlope = 0
      case pos =>
        have connected : (sr.stream i).connected = true := by
          simpa [StreamQueue.used,SrClass.configured,zero] using taken
        have before : (sr.stream i).used = true := by simp [StreamQueue.used,connected]
        exact @Apart.fresh _ _ _ (sr.configured idleSlope (sr.stream i)) apart inside (fun _ => before) rfl taken
      case neg => exact used zero
  linked := by
    apply linked.congr
    · intro j
      by_cases here : j = i
      case pos =>
        subst here
        simp [SrClass.configure,SrClass.configured]
      case neg => simp [SrClass.configure,here]
    · exact fun q => enableQueue_links i _ sr q
  matched := by
    intro j below q connected link
    by_cases here : j = i
    case pos =>
      subst here
      simp only [SrClass.configure,update_self] at connected link ⊢
      exact enableQueue_own connected link
    case neg =>
      simp only [SrClass.configure,update_of_ne here] at connected link ⊢
      have elsewhere : (sr.stream i).connected = true → (sr.stream i).qosQueue ≠ some q := by
        intro own same
        exact here (linked.queue_inj below inside connected own link same)
      rw [enableQueue_other elsewhere]
      exact matched j below here q connected link

def SrClass.joinQueue (i q : Nat) (socket : Option VlanLabel) (sr : SrClass) : SrClass :=
  {sr with
    stream := update sr.stream i {sr.stream i with qosQueue := some q, connected := true}
    qosQueue := update sr.qosQueue q ⟨true,(sr.stream i).configured,some i,socket⟩}

theorem joinQueue_reserves (i q : Nat) (socket : Option VlanLabel) (sr : SrClass) :
    sr.Reserves (sr.joinQueue i q socket) := by
  refine ⟨rfl,rfl,rfl,rfl,?_⟩
  intro j
  unfold SrClass.joinQueue
  by_cases here : j = i
  case pos =>
    subst here
    simp [StreamQueue.reservation]
  case neg => simp [here]

theorem SrClass.Shaped.joinQueue {socket : Option VlanLabel} (shaped : sr.Shaped) (inside : i < sr.streamMax)
    (idle : (sr.stream i).connected = false) (free : (sr.qosQueue q).connected = false)
    (fresh : ∀ j < sr.streamMax, j ≠ i → (sr.stream j).used = true → (sr.stream j).id ≠ (sr.stream i).id) :
    (sr.joinQueue i q socket).Shaped where
  size := shaped.size
  apart := by
    apply shaped.apart.update
    · exact shaped.apart.cleared i inside
    · exact shaped.apart.scaled i inside
    · exact fun _ => fresh
  linked := shaped.linked.connect inside idle free rfl rfl rfl rfl
  matched := by
    intro j below p connected link
    unfold SrClass.joinQueue at connected link ⊢
    by_cases here : j = i
    case pos =>
      subst here
      simp only [update_self] at connected link ⊢
      cases link
      simp
    case neg =>
      simp only [update_of_ne here] at connected link ⊢
      have elsewhere : p ≠ q := by
        rintro rfl
        obtain ⟨r,queue_j,back⟩ := shaped.linked.joined j below connected
        cases queue_j.symm.trans link
        have taken := (shaped.linked.taken p).mpr (by simp [back])
        rw [free] at taken
        cases taken
      rw [update_of_ne elsewhere]
      exact shaped.matched j below p connected link

def SrClass.leaveQueue (i q : Nat) (sr : SrClass) : SrClass :=
  {sr with
    stream := update sr.stream i {sr.stream i with qosQueue := none, connected := false}
    qosQueue := update sr.qosQueue q
      {sr.qosQueue q with connected := false, stream := none, socket := none}}

theorem leaveQueue_reserves (i q : Nat) (sr : SrClass) : sr.Reserves (sr.leaveQueue i q) := by
  refine ⟨rfl,rfl,rfl,rfl,?_⟩
  intro j
  unfold SrClass.leaveQueue
  by_cases here : j = i
  case pos =>
    subst here
    simp [StreamQueue.reservation]
  case neg => simp [here]

theorem SrClass.Shaped.leaveQueue (shaped : sr.Shaped) (back : (sr.qosQueue q).stream = some i) :
    (sr.leaveQueue i q).Shaped where
  size := shaped.size
  apart := by
    have inside := (shaped.linked.held q i back).1
    apply shaped.apart.update
    · exact shaped.apart.cleared i inside
    · exact shaped.apart.scaled i inside
    · intro used
      have configured : (sr.stream i).configured = true := by simpa [StreamQueue.used] using used
      have before : (sr.stream i).used = true := by simp [StreamQueue.used,configured]
      exact shaped.apart.fresh inside (fun _ => before) rfl used
  linked := shaped.linked.disconnect back rfl rfl rfl
  matched := by
    intro j below p connected link
    unfold SrClass.leaveQueue at connected link ⊢
    by_cases here : j = i
    case pos =>
      subst here
      simp at connected
    case neg =>
      simp only [update_of_ne here] at connected link ⊢
      have elsewhere : p ≠ q := by
        rintro rfl
        obtain ⟨r,queue_j,back_j⟩ := shaped.linked.joined j below connected
        cases queue_j.symm.trans link
        exact here (Option.some.inj (back_j.symm.trans back))
      rw [update_of_ne elsewhere]
      exact shaped.matched j below p connected link

end Classes

end Genavb.Qos

/-! The totals of a port over the streams of its classes. -/
namespace Genavb.Qos
open Support StreamQueue

namespace PortQos

/-- The total over the first `n c` streams of each class `c`. -/
def window (n : Nat → Nat) (weight : StreamQueue → Nat) (port : PortQos) : Nat :=
  total CFG_SR_CLASS_MAX id fun c => total (n c) weight (port.srClass c).stream

/-- The totals of a port are those of the streams in a window. -/
structure Summed (n : Nat → Nat) (port : PortQos) : Prop where
  usedRate : port.usedRate = BitVec.ofNat 32 (port.window n slope)
  streams : port.streams = port.window n count
  room : port.window n slope ≤ port.maxRate.toNat

def demand (n : Nat → Nat) (c i : Nat) (idleSlope : BitVec 32) (port : PortQos) : Nat :=
  port.window n slope - ((port.srClass c).stream i).slope + idleSlope.toNat

end PortQos

section Ports
variable {port : PortQos} {n : Nat → Nat} {c i : Nat} {weight : StreamQueue → Nat} {sr : SrClass} {idleSlope : BitVec 32}

theorem setClass_other {d : Nat} (apart : d ≠ c) : (port.setClass c sr).srClass d = port.srClass d :=
  Function.update_of_ne apart _ _

theorem window_setClass (inside : c < CFG_SR_CLASS_MAX) (sr : SrClass) :
    (port.setClass c sr).window n weight + total (n c) weight (port.srClass c).stream =
      port.window n weight + total (n c) weight sr.stream := by
  have update : (fun d => total (n d) weight ((port.setClass c sr).srClass d).stream) =
      Function.update (fun d => total (n d) weight (port.srClass d).stream) c (total (n c) weight sr.stream) := by
    ext d
    by_cases here : d = c
    case pos =>
      subst here
      simp
    case neg => rw [setClass_other here,Function.update_of_ne here]
  unfold PortQos.window
  rw [update]
  exact total_update inside _

theorem window_congr {other : PortQos} (same : ∀ d < CFG_SR_CLASS_MAX,
      total (n d) weight (other.srClass d).stream = total (n d) weight (port.srClass d).stream) :
    other.window n weight = port.window n weight := total_congr same

theorem weight_le_window (inside : c < CFG_SR_CLASS_MAX) (counted : i < n c) :
    weight ((port.srClass c).stream i) ≤ port.window n weight := by
  have one : weight ((port.srClass c).stream i) ≤ total (n c) weight (port.srClass c).stream := weight_le_total counted
  have class_total := @weight_le_total _ _ _ (fun d => total (n d) weight (port.srClass d).stream) id inside
  exact one.trans class_total

theorem PortQos.Summed.demand (summed : port.Summed n) (inside : c < CFG_SR_CLASS_MAX) (counted : i < n c)
    (cleared : ((port.srClass c).stream i).configured = false → ((port.srClass c).stream i).idleSlope = 0) :
    (port.usedRate + idleSlope - ((port.srClass c).stream i).idleSlope).toNat =
      port.demand n c i idleSlope % 2 ^ 32 := by
  have least : ((port.srClass c).stream i).slope ≤ port.window n slope := weight_le_window inside counted
  unfold PortQos.demand
  rw [summed.usedRate]
  rw [slope_idleSlope cleared] at least ⊢
  generalize port.window n slope = sum at least
  generalize ((port.srClass c).stream i).idleSlope = old at least
  rw [BitVec.toNat_sub,BitVec.toNat_add,BitVec.toNat_ofNat]
  omega

theorem PortQos.Summed.refuses (summed : port.Summed n) (inside : c < CFG_SR_CLASS_MAX) (counted : i < n c)
    (cleared : ((port.srClass c).stream i).configured = false → ((port.srClass c).stream i).idleSlope = 0) :
    port.usedRate + idleSlope - ((port.srClass c).stream i).idleSlope > port.maxRate ↔
      port.maxRate.toNat < port.demand n c i idleSlope % 2 ^ 32 := by
  rw [← summed.demand inside counted cleared]
  exact BitVec.lt_def

theorem window_configure {after : Nat} (inside : c < CFG_SR_CLASS_MAX) (counted : i < n c)
    (weighs : weight ((port.srClass c).configured idleSlope ((port.srClass c).stream i)) = after) :
    (port.configure c i idleSlope).window n weight + weight ((port.srClass c).stream i) =
      port.window n weight + after := by
  have slots := @total_update _ (n c) i (port.srClass c).stream weight counted
    ((port.srClass c).configured idleSlope ((port.srClass c).stream i))
  have classes := @window_setClass port n c weight inside ((port.srClass c).configure i idleSlope)
  have streams : ((port.srClass c).configure i idleSlope).stream = Function.update (port.srClass c).stream i
      ((port.srClass c).configured idleSlope ((port.srClass c).stream i)) := rfl
  rw [weighs] at slots
  rw [streams] at classes
  change (port.setClass c ((port.srClass c).configure i idleSlope)).window n weight + _ = _
  omega

theorem PortQos.Summed.configure (summed : port.Summed n) (inside : c < CFG_SR_CLASS_MAX) (counted : i < n c)
    (cleared : ((port.srClass c).stream i).configured = false → ((port.srClass c).stream i).idleSlope = 0)
    (fits : port.demand n c i idleSlope ≤ port.maxRate.toNat) : (port.configure c i idleSlope).Summed n := by
  have slopes : (port.configure c i idleSlope).window n slope + ((port.srClass c).stream i).slope =
      port.window n slope + idleSlope.toNat := window_configure inside counted (configured_slope _)
  have counts := @window_configure port n c i count idleSlope _ inside counted rfl
  have least : ((port.srClass c).stream i).count ≤ port.window n count := weight_le_window inside counted
  unfold PortQos.demand at fits
  refine ⟨?_,?_,?_⟩
  · change port.usedRate - ((port.srClass c).stream i).idleSlope + idleSlope = _
    rw [summed.usedRate]
    apply ofNat_replace
    rw [slope_idleSlope cleared] at slopes
    exact slopes
  · change port.streams - _ + _ = (port.configure c i idleSlope).window n count
    rw [summed.streams]
    omega
  · change _ ≤ port.maxRate.toNat
    omega

end Ports

structure PortQos.Sound (port : PortQos) : Prop where
  shaped : ∀ c, (port.srClass c).Shaped
  counted : ∀ c < CFG_SR_CLASS_MAX, (port.srClass c).Counted CFG_SR_CLASS_HIGH_STREAM_MAX
  summed : port.Summed fun _ => CFG_SR_CLASS_HIGH_STREAM_MAX
  share : 100 * port.maxRate.toNat ≤ 75 * port.rate.toNat
  rate : port.rate.toNat < 2 ^ 31

section Requests
variable {port : PortQos} {c q : Nat} {sr : SrClass}

theorem PortQos.Sound.setClass (sound : port.Sound) (shaped : sr.Shaped) (reserves : (port.srClass c).Reserves sr) :
    (port.setClass c sr).Sound where
  shaped := by
    intro d
    by_cases here : d = c
    case pos =>
      subst here
      rw [setClass_srClass]
      exact shaped
    case neg =>
      rw [setClass_other here]
      exact sound.shaped d
  counted := by
    intro d inside
    by_cases here : d = c
    case pos =>
      subst here
      rw [setClass_srClass]
      exact reserves.counted (sound.counted d inside)
    case neg =>
      rw [setClass_other here]
      exact sound.counted d inside
  summed := by
    have same (weight : StreamQueue → Nat) (n : Nat)
        (totals : total n weight sr.stream = total n weight (port.srClass c).stream) :
        (port.setClass c sr).window (fun _ => n) weight = port.window (fun _ => n) weight := by
      apply window_congr
      intro d inside
      by_cases here : d = c
      case pos =>
        subst here
        rw [setClass_srClass]
        exact totals
      case neg => rw [setClass_other here]
    refine ⟨?_,?_,?_⟩
    · rw [same _ _ reserves.slopes]
      exact sound.summed.usedRate
    · rw [same _ _ reserves.counts]
      exact sound.summed.streams
    · rw [same _ _ reserves.slopes]
      exact sound.summed.room
  share := sound.share
  rate := sound.rate

end Requests

end Genavb.Qos
