import Genavb.Qos.Classes

/-! `net_qos_port_reset`: the reservations are taken on again one after the other, at the rate of the new link. -/
namespace Genavb.Qos
open Support
open StreamQueue (bits count)
open SrClass

def readmitted (maxRate : Nat) (streams : List StreamQueue) : Nat :=
  streams.foldl (fun used stream => if used + stream.slope ≤ maxRate then used + stream.slope else used) 0

def PortQos.before (c i : Nat) (port : PortQos) : List StreamQueue :=
  ((List.range c).flatMap fun d => (List.range (port.srClass d).streamMax).map (port.srClass d).stream) ++
    (List.range i).map (port.srClass c).stream

/-- No stream with a socket loses its reservation to a lower rate. -/
def PortQos.Readmits (maxRate : Nat) (port : PortQos) : Prop :=
  ∀ c < CFG_SR_CLASS_MAX, ∀ i < (port.srClass c).streamMax, ((port.srClass c).stream i).connected = true →
    readmitted maxRate (port.before c i) + ((port.srClass c).stream i).slope ≤ maxRate

def visited (c i d : Nat) : Nat :=
  if d < c then CFG_SR_CLASS_HIGH_STREAM_MAX else if d = c then i else 0

section Walks
variable {port start : PortQos} {maxRate c i : Nat} {weight : StreamQueue → Nat}

private theorem readmitted_append (streams : List StreamQueue) (stream : StreamQueue) :
    readmitted maxRate (streams ++ [stream]) =
      if readmitted maxRate streams + stream.slope ≤ maxRate then readmitted maxRate streams + stream.slope
      else readmitted maxRate streams := by
  unfold readmitted
  rw [List.foldl_append]
  rfl

private theorem before_succ : port.before c (i + 1) = port.before c i ++ [(port.srClass c).stream i] := by
  unfold PortQos.before
  rw [List.range_succ,List.map_append,List.append_assoc]
  rfl

theorem before_class (size : (port.srClass c).streamMax = CFG_SR_CLASS_HIGH_STREAM_MAX) :
    port.before (c + 1) 0 = port.before c CFG_SR_CLASS_HIGH_STREAM_MAX := by
  unfold PortQos.before
  rw [List.range_succ,List.flatMap_append,List.flatMap_singleton,size]
  simp

private theorem visited_class : visited (c + 1) 0 = visited c CFG_SR_CLASS_HIGH_STREAM_MAX := by
  funext d
  unfold visited
  grind

private theorem window_next (inside : c < CFG_SR_CLASS_MAX) :
    port.window (visited c (i + 1)) weight = port.window (visited c i) weight + weight ((port.srClass c).stream i) := by
  have here (k : Nat) : visited c k c = k := by simp [visited]
  have update : (fun d => total (visited c (i + 1) d) weight (port.srClass d).stream) =
      Function.update (fun d => total (visited c i d) weight (port.srClass d).stream) c
        (total (i + 1) weight (port.srClass c).stream) := by
    ext d
    by_cases same : d = c
    case pos =>
      subst same
      rw [here,Function.update_self]
    case neg =>
      rw [Function.update_of_ne same]
      unfold visited
      rw [if_neg same,if_neg same]
  have totals := @total_update _ _ _ (fun d => total (visited c i d) weight (port.srClass d).stream) id inside
    (total (i + 1) weight (port.srClass c).stream)
  rw [← update,total_succ,here] at totals
  unfold PortQos.window
  simp only [id] at totals
  omega

theorem foldl_range {α : Type} {motive : Nat → α → Prop} {step : α → Nat → α} {start : α} (n : Nat)
    (first : motive 0 start) (next : ∀ k < n, ∀ state, motive k state → motive (k + 1) (step state k)) :
    motive n ((List.range n).foldl step start) := by
  induction n with
  | zero => exact first
  | succ n ih =>
    rw [List.range_succ,List.foldl_append]
    exact next n (Nat.lt_succ_self n) _ (ih fun k below => next k (by omega))

end Walks

def SrClass.drop (i : Nat) (sr : SrClass) : SrClass :=
  sr.modifyStream i fun stream => {stream with configured := false, idleSlope := 0}

def PortQos.drop (c i : Nat) (port : PortQos) : PortQos := port.setClass c ((port.srClass c).drop i)

section Drops
variable {sr : SrClass} {i j : Nat}

private theorem drop_slot : ((sr.drop i).stream i).configured = false ∧ ((sr.drop i).stream i).idleSlope = 0 ∧
    ((sr.drop i).stream i).connected = (sr.stream i).connected ∧ ((sr.drop i).stream i).id = (sr.stream i).id := by
  simp [drop,modifyStream]

private theorem drop_other (apart : j ≠ i) : (sr.drop i).stream j = sr.stream j := by
  simp [drop,modifyStream,apart]

theorem SrClass.Counted.drop (counted : sr.Counted i) : (sr.drop i).Counted (i + 1) := by
  have outside (weight : StreamQueue → Nat) : total i weight (sr.drop i).stream = total i weight sr.stream :=
    total_update_outside (Nat.le_refl i) _
  apply Counted.next _ drop_slot.1
  refine ⟨?_,?_,?_,?_⟩
  · rw [outside]
    exact counted.idleSlope
  · rw [outside]
    exact counted.streams
  · rw [outside]
    exact counted.rate
  · rw [outside]
    exact counted.creditMin

section
variable (shaped : sr.Shaped)
include shaped

theorem SrClass.Shaped.drop_apart (inside : i < sr.streamMax) : Apart sr.streamMax (sr.drop i).stream := by
  apply shaped.apart.update
  · exact fun _ => rfl
  · simp [bits]
  · intro used
    have connected : (sr.stream i).connected = true := by simpa [StreamQueue.used] using used
    have before : (sr.stream i).used = true := by simp [StreamQueue.used,connected]
    exact shaped.apart.fresh inside (fun _ => before) rfl used

theorem SrClass.Shaped.drop_linked : Linked sr.streamMax (sr.drop i).stream sr.qosQueue := by
  apply shaped.linked.congr _ fun _ => ⟨rfl,rfl⟩
  intro j
  by_cases here : j = i
  case pos =>
    subst here
    simp [drop,modifyStream]
  case neg =>
    rw [drop_other here]
    exact ⟨rfl,rfl⟩

theorem SrClass.Shaped.drop_matched (below : j < sr.streamMax) (apart : j ≠ i) :
    Matches (sr.drop i).stream sr.qosQueue j := by
  have matched := shaped.matched j below
  unfold Matches
  rw [drop_other apart]
  exact matched

theorem SrClass.Shaped.drop (inside : i < sr.streamMax)
    (idle : (sr.stream i).connected = false) : (sr.drop i).Shaped where
  size := shaped.size
  apart := shaped.drop_apart inside
  linked := shaped.drop_linked
  matched := by
    intro j below
    by_cases here : j = i
    case pos =>
      subst here
      intro q connected
      rw [drop_slot.2.2.1,idle] at connected
      cases connected
    case neg => exact shaped.drop_matched below here

theorem SrClass.Shaped.retake (inside : i < sr.streamMax)
    (used : (sr.stream i).used = true) (idleSlope : BitVec 32) : ((sr.drop i).configure i idleSlope).Shaped := by
  apply configure_shaped
  · exact shaped.size
  · exact shaped.drop_apart inside
  · exact shaped.drop_linked
  · exact fun j below apart => shaped.drop_matched below apart
  · exact inside
  · intro _ j below apart used_j same
    rw [drop_other apart] at used_j same
    rw [drop_slot.2.2.2] at same
    exact apart (shaped.apart.distinct j below i inside used_j used same)

end

end Drops

/-- The loops before stream `i` of class `c`, from the port `start` with its totals at zero. -/
structure Refilling (start : PortQos) (c i : Nat) (port : PortQos) : Prop where
  shaped : ∀ d, (port.srClass d).Shaped
  ahead : ∀ d j, (c < d ∨ d = c ∧ i ≤ j) → (port.srClass d).stream j = (start.srClass d).stream j
  counted : ∀ d < c, (port.srClass d).Counted CFG_SR_CLASS_HIGH_STREAM_MAX
  summed : port.Summed (visited c i)
  taken : port.window (visited c i) StreamQueue.slope = readmitted start.maxRate.toNat (start.before c i)
  link : port.enabled = start.enabled ∧ port.rate = start.rate ∧ port.maxRate = start.maxRate

section Loops
variable {port start : PortQos} {c i : Nat}

theorem Refilling.pass (refilling : Refilling start c i port) (inside : c < CFG_SR_CLASS_MAX)
    (idle : ((port.srClass c).stream i).configured = false) : Refilling start c (i + 1) port where
  __ := refilling
  ahead := by
    intro d j later
    apply refilling.ahead d j
    omega
  summed := by
    have none : ((port.srClass c).stream i).slope = 0 ∧ ((port.srClass c).stream i).count = 0 := by
      simp [StreamQueue.slope,count,idle]
    refine ⟨?_,?_,?_⟩
    · rw [window_next inside,none.1]
      exact refilling.summed.usedRate
    · rw [window_next inside,none.2]
      exact refilling.summed.streams
    · rw [window_next inside,none.1]
      exact refilling.summed.room
  taken := by
    have none : ((port.srClass c).stream i).slope = 0 := by simp [StreamQueue.slope,idle]
    rw [window_next inside,before_succ,readmitted_append,← refilling.ahead c i (.inr ⟨rfl,Nat.le_refl i⟩),none,
      refilling.taken]
    simp

private theorem visited_here (i : Nat) : visited c i c = i := by simp [visited]

private theorem drop_window (inside : c < CFG_SR_CLASS_MAX) {weight : StreamQueue → Nat}
    (light : ∀ stream : StreamQueue, stream.configured = false → weight stream = 0) :
    (port.drop c i).window (visited c (i + 1)) weight = port.window (visited c i) weight := by
  have outside : total i weight ((port.srClass c).drop i).stream = total i weight (port.srClass c).stream :=
    total_update_outside (Nat.le_refl i) _
  have classes := @window_setClass port (visited c i) c weight inside ((port.srClass c).drop i)
  rw [visited_here,outside] at classes
  unfold PortQos.drop
  rw [window_next inside,setClass_srClass,light _ drop_slot.1]
  omega

private theorem drop_cleared : ((port.drop c i).srClass c).stream i = ((port.srClass c).drop i).stream i := by
  unfold PortQos.drop
  rw [setClass_srClass]

private theorem drop_slope : (((port.drop c i).srClass c).stream i).slope = 0 := by
  rw [drop_cleared]
  simp [StreamQueue.slope,drop_slot.1]

private theorem slope_configured {stream : StreamQueue} (configured : stream.configured = true) :
    stream.slope = stream.idleSlope.toNat := by
  simp [StreamQueue.slope,configured]

section
variable (refilling : Refilling start c i port)
include refilling

section
variable (inside : c < CFG_SR_CLASS_MAX)
include inside

theorem Refilling.drop :
    (port.drop c i).Summed (visited c (i + 1)) ∧
      (port.drop c i).window (visited c (i + 1)) StreamQueue.slope =
        readmitted start.maxRate.toNat (start.before c i) := by
  have slopes : (port.drop c i).window (visited c (i + 1)) StreamQueue.slope =
      port.window (visited c i) StreamQueue.slope :=
    drop_window inside (fun stream idle => by simp [StreamQueue.slope,idle])
  have counts : (port.drop c i).window (visited c (i + 1)) count =
      port.window (visited c i) count :=
    drop_window inside (fun stream idle => by simp [count,idle])
  refine ⟨⟨?_,?_,?_⟩,slopes.trans refilling.taken⟩
  · rw [slopes]
    exact refilling.summed.usedRate
  · rw [counts]
    exact refilling.summed.streams
  · rw [slopes]
    exact refilling.summed.room

theorem Refilling.demand
    (configured : ((port.srClass c).stream i).configured = true) :
    (port.drop c i).demand (visited c (i + 1)) c i ((port.srClass c).stream i).idleSlope =
      readmitted start.maxRate.toNat (start.before c i) + ((start.srClass c).stream i).slope := by
  have same := refilling.ahead c i (.inr ⟨rfl,Nat.le_refl i⟩)
  unfold PortQos.demand
  rw [drop_slope,(refilling.drop inside).2,← same,slope_configured configured,Nat.sub_zero]

theorem Refilling.refuses (configured : ((port.srClass c).stream i).configured = true)
    (limit : start.maxRate.toNat < 2 ^ 31) (light : ((start.srClass c).stream i).slope < 2 ^ 31) :
    (port.drop c i).usedRate + ((port.srClass c).stream i).idleSlope - (((port.drop c i).srClass c).stream i).idleSlope >
        (port.drop c i).maxRate ↔
      start.maxRate.toNat <
        readmitted start.maxRate.toNat (start.before c i) + ((start.srClass c).stream i).slope := by
  have summed := (refilling.drop inside).1
  have maxRate : (port.drop c i).maxRate = start.maxRate := refilling.link.2.2
  have room := summed.room
  rw [(refilling.drop inside).2,maxRate] at room
  have cleared : (((port.drop c i).srClass c).stream i).configured = false →
      (((port.drop c i).srClass c).stream i).idleSlope = 0 := by
    rw [drop_cleared]
    exact fun _ => drop_slot.2.1
  have counted : i < visited c (i + 1) c := by
    rw [visited_here]
    exact Nat.lt_succ_self i
  rw [summed.refuses inside counted cleared,refilling.demand inside configured,maxRate,Nat.mod_eq_of_lt (by omega)]

end

theorem Refilling.step {next : PortQos} {sr : SrClass}
    (others : next.srClass = (port.setClass c sr).srClass) (shaped : sr.Shaped)
    (slots : ∀ j, j ≠ i → sr.stream j = (port.srClass c).stream j) (summed : next.Summed (visited c (i + 1)))
    (taken : next.window (visited c (i + 1)) StreamQueue.slope =
      readmitted start.maxRate.toNat (start.before c (i + 1)))
    (link : next.enabled = port.enabled ∧ next.rate = port.rate ∧ next.maxRate = port.maxRate) :
    Refilling start c (i + 1) next where
  shaped := by
    intro d
    rw [others]
    by_cases here : d = c
    case pos =>
      rw [here,setClass_srClass]
      exact shaped
    case neg =>
      rw [setClass_other here]
      exact refilling.shaped d
  ahead := by
    intro d j later
    rw [others]
    by_cases here : d = c
    case pos =>
      rw [here,setClass_srClass,slots j (by omega)]
      exact refilling.ahead c j (.inr ⟨rfl,by omega⟩)
    case neg =>
      rw [setClass_other here]
      exact refilling.ahead d j (by omega)
  counted := by
    intro d below
    rw [others,setClass_other (by omega)]
    exact refilling.counted d below
  summed := summed
  taken := taken
  link := by
    rw [link.1,link.2.1,link.2.2]
    exact refilling.link

theorem Refilling.keep (inside : c < CFG_SR_CLASS_MAX)
    (below : i < (port.srClass c).streamMax) (counted : (port.srClass c).Counted i)
    (configured : ((port.srClass c).stream i).configured = true)
    (fits : readmitted start.maxRate.toNat (start.before c i) + ((start.srClass c).stream i).slope ≤
      start.maxRate.toNat) :
    Refilling start c (i + 1) ((port.drop c i).configure c i ((port.srClass c).stream i).idleSlope) ∧
      (((port.drop c i).configure c i ((port.srClass c).stream i).idleSlope).srClass c).Counted (i + 1) := by
  have same := refilling.ahead c i (.inr ⟨rfl,Nat.le_refl i⟩)
  have cleared : (((port.drop c i).srClass c).stream i).configured = false →
      (((port.drop c i).srClass c).stream i).idleSlope = 0 := by
    rw [drop_cleared]
    exact fun _ => drop_slot.2.1
  have here : i < visited c (i + 1) c := by
    rw [visited_here]
    exact Nat.lt_succ_self i
  have maxRate : (port.drop c i).maxRate = start.maxRate := refilling.link.2.2
  have room : (port.drop c i).demand (visited c (i + 1)) c i ((port.srClass c).stream i).idleSlope ≤
      (port.drop c i).maxRate.toNat := by
    rw [refilling.demand inside configured,maxRate]
    exact fits
  have used : ((port.srClass c).stream i).used = true := by simp [StreamQueue.used,configured]
  have window := @window_configure (port.drop c i) (visited c (i + 1)) c i StreamQueue.slope
    ((port.srClass c).stream i).idleSlope _ inside here (configured_slope _)
  have own : (port.drop c i).srClass c = (port.srClass c).drop i := setClass_srClass _
  constructor
  · apply refilling.step
    · change (port.drop c i |>.setClass c (((port.drop c i).srClass c).configure i _)).srClass = _
      rw [own]
      unfold PortQos.drop
      rw [setClass_setClass]
    · exact (refilling.shaped c).retake below used _
    · intro j apart
      change Function.update ((port.srClass c).drop i).stream i _ j = _
      rw [Function.update_of_ne apart,drop_other apart]
    · exact (refilling.drop inside).1.configure inside here cleared room
    · rw [before_succ,readmitted_append,if_pos fits,← same,slope_configured configured]
      rw [drop_slope,(refilling.drop inside).2] at window
      exact window
    · exact ⟨rfl,rfl,rfl⟩
  · change (((port.drop c i).setClass c (((port.drop c i).srClass c).configure i _)).srClass c).Counted (i + 1)
    rw [setClass_srClass,own]
    apply counted.drop.configure (Nat.lt_succ_self i)
    exact fun _ => drop_slot.2.1

theorem Refilling.lose (inside : c < CFG_SR_CLASS_MAX)
    (below : i < (port.srClass c).streamMax) (counted : (port.srClass c).Counted i)
    (idle : ((port.srClass c).stream i).connected = false) (full : start.maxRate.toNat <
      readmitted start.maxRate.toNat (start.before c i) + ((start.srClass c).stream i).slope) :
    Refilling start c (i + 1) (port.drop c i) ∧ ((port.drop c i).srClass c).Counted (i + 1) := by
  constructor
  · apply refilling.step
    · rfl
    · exact (refilling.shaped c).drop below idle
    · exact fun j apart => drop_other apart
    · exact (refilling.drop inside).1
    · rw [before_succ,readmitted_append,if_neg (Nat.not_le.mpr full)]
      exact (refilling.drop inside).2
    · exact ⟨rfl,rfl,rfl⟩
  · unfold PortQos.drop
    rw [setClass_srClass]
    exact counted.drop

end

theorem resetStream_configured (configured : ((port.srClass c).stream i).configured = true) :
    PortQos.resetStream c port i =
      ((port.drop c i).netQosStreamConfigure c i ((port.srClass c).stream i).idleSlope).1 := by
  unfold PortQos.resetStream
  rw [if_pos configured]
  rfl

theorem Refilling.next (refilling : Refilling start c i port) (inside : c < CFG_SR_CLASS_MAX)
    (below : i < (port.srClass c).streamMax) (counted : (port.srClass c).Counted i)
    (limit : start.maxRate.toNat < 2 ^ 31) (light : ((start.srClass c).stream i).slope < 2 ^ 31)
    (readmits : ((start.srClass c).stream i).connected = true →
      readmitted start.maxRate.toNat (start.before c i) + ((start.srClass c).stream i).slope ≤ start.maxRate.toNat) :
    Refilling start c (i + 1) (PortQos.resetStream c port i) ∧
      ((PortQos.resetStream c port i).srClass c).Counted (i + 1) := by
  by_cases configured : ((port.srClass c).stream i).configured = true
  case neg =>
    rw [Bool.not_eq_true] at configured
    have result : PortQos.resetStream c port i = port := by
      unfold PortQos.resetStream
      simp [configured]
    rw [result]
    exact ⟨refilling.pass inside configured,counted.next configured⟩
  case pos =>
    have test := refilling.refuses inside configured limit light
    have cleared : (((port.drop c i).srClass c).stream i).configured = false →
        (((port.drop c i).srClass c).stream i).idleSlope = 0 := by
      rw [drop_cleared]
      exact fun _ => drop_slot.2.1
    rw [resetStream_configured configured]
    by_cases full : start.maxRate.toNat <
        readmitted start.maxRate.toNat (start.before c i) + ((start.srClass c).stream i).slope
    case pos =>
      rw [netQosStreamConfigure_refused (test.mpr full)]
      apply refilling.lose inside below counted _ full
      rw [refilling.ahead c i (.inr ⟨rfl,Nat.le_refl i⟩),← Bool.not_eq_true]
      exact fun connected => Nat.not_lt.mpr (readmits connected) full
    case neg =>
      rw [netQosStreamConfigure_granted cleared (full ∘ test.mp)]
      exact refilling.keep inside below counted configured (Nat.not_lt.mp full)

theorem Refilling.empty (refilling : Refilling start c 0 port) :
    Refilling start c 0 (port.setClass c {port.srClass c with shaper := shaperInit 0, streams := 0, idleSlope := 0}) := by
  have slots (d : Nat) : ((port.setClass c {port.srClass c with
      shaper := shaperInit 0, streams := 0, idleSlope := 0}).srClass d).stream = (port.srClass d).stream := by
    by_cases here : d = c
    case pos => rw [here,setClass_srClass]
    case neg => rw [setClass_other here]
  have window (weight : StreamQueue → Nat) : (port.setClass c {port.srClass c with
      shaper := shaperInit 0, streams := 0, idleSlope := 0}).window (visited c 0) weight =
        port.window (visited c 0) weight := by
    apply window_congr
    intro d _
    rw [slots]
  refine ⟨?_,?_,?_,⟨?_,?_,?_⟩,?_,refilling.link⟩
  · intro d
    by_cases here : d = c
    case pos =>
      have shaped := refilling.shaped c
      rw [here,setClass_srClass]
      exact {shaped with}
    case neg =>
      rw [setClass_other here]
      exact refilling.shaped d
  · intro d j later
    rw [slots]
    exact refilling.ahead d j later
  · intro d below
    rw [setClass_other (by omega)]
    exact refilling.counted d below
  · rw [window]
    exact refilling.summed.usedRate
  · rw [window]
    exact refilling.summed.streams
  · rw [window]
    exact refilling.summed.room
  · rw [window]
    exact refilling.taken

theorem Refilling.close (refilling : Refilling start c CFG_SR_CLASS_HIGH_STREAM_MAX port)
    (counted : (port.srClass c).Counted CFG_SR_CLASS_HIGH_STREAM_MAX)
    (size : (start.srClass c).streamMax = CFG_SR_CLASS_HIGH_STREAM_MAX) : Refilling start (c + 1) 0 port where
  shaped := refilling.shaped
  ahead := by
    intro d j later
    apply refilling.ahead d j
    omega
  counted := by
    intro d below
    by_cases here : d = c
    case pos => exact here ▸ counted
    case neg => exact refilling.counted d (by omega)
  summed := by
    rw [visited_class]
    exact refilling.summed
  taken := by
    rw [visited_class,before_class size]
    exact refilling.taken
  link := refilling.link

theorem Refilling.resetClass (refilling : Refilling start c 0 port) (inside : c < CFG_SR_CLASS_MAX)
    (size : (start.srClass c).streamMax = CFG_SR_CLASS_HIGH_STREAM_MAX) (limit : start.maxRate.toNat < 2 ^ 31)
    (light : ∀ i < CFG_SR_CLASS_HIGH_STREAM_MAX, ((start.srClass c).stream i).slope < 2 ^ 31)
    (readmits : start.Readmits start.maxRate.toNat) :
    Refilling start (c + 1) 0 (port.resetClass c) := by
  have emptied := refilling.empty
  have first : ((port.setClass c
      {port.srClass c with shaper := shaperInit 0, streams := 0, idleSlope := 0}).srClass c).Counted 0 := by
    rw [setClass_srClass]
    exact ⟨rfl,rfl,rfl,rfl⟩
  have loop := @foldl_range _ (fun i port => Refilling start c i port ∧ (port.srClass c).Counted i)
    (PortQos.resetStream c) _ CFG_SR_CLASS_HIGH_STREAM_MAX ⟨emptied,first⟩ (by
      intro k below state invariant
      have max := (invariant.1.shaped c).size
      apply invariant.1.next inside (max ▸ below) invariant.2 limit (light k below)
      exact readmits c inside k (size ▸ below))
  unfold PortQos.resetClass
  dsimp only
  rw [(emptied.shaped c).size]
  exact loop.1.close loop.2 size

end Loops

section Resets
variable {port : PortQos} {rate : BitVec 32}

theorem maxRate_toNat (positive : rate.toNat < 2 ^ 31) :
    (BitVec.ofInt 32 (rate.toInt.tdiv 100 * 75)).toNat = rate.toNat / 100 * 75 := by
  have natural : rate.toInt = (rate.toNat : Int) := BitVec.toInt_eq_toNat_of_lt (by omega)
  have product : (rate.toNat : Int).tdiv 100 * 75 = ((rate.toNat / 100 * 75 : Nat) : Int) := by
    rw [Int.tdiv_eq_ediv_of_nonneg (by omega)]
    omega
  rw [natural,product,BitVec.ofInt_natCast,BitVec.toNat_ofNat,Nat.mod_eq_of_lt (by omega)]

private theorem visited_all (weight : StreamQueue → Nat) (port : PortQos) :
    port.window (visited CFG_SR_CLASS_MAX 0) weight = port.window (fun _ => CFG_SR_CLASS_HIGH_STREAM_MAX) weight := by
  apply total_congr
  intro d inside
  unfold visited
  rw [if_pos inside]

def PortQos.emptied (rate : BitVec 32) (port : PortQos) : PortQos :=
  {port with
    rate := rate
    maxRate := BitVec.ofInt 32 (rate.toInt.tdiv 100 * 75)
    streams := 0
    usedRate := 0}

theorem emptied_refilling (shaped : ∀ d, (port.srClass d).Shaped) :
    Refilling (port.emptied rate) 0 0 (port.emptied rate) := by
  have none (weight : StreamQueue → Nat) : (port.emptied rate).window (visited 0 0) weight = 0 := by
    apply total_eq_zero
    intro d _
    have empty : visited 0 0 d = 0 := by simp [visited]
    rw [empty]
    rfl
  refine ⟨shaped,fun _ _ _ => rfl,fun d below => absurd below (Nat.not_lt_zero d),⟨?_,?_,?_⟩,?_,⟨rfl,rfl,rfl⟩⟩
  · rw [none]
    rfl
  · rw [none]
    rfl
  · rw [none]
    exact Nat.zero_le _
  · rw [none]
    rfl

theorem PortQos.Sound.reset (sound : port.Sound) (positive : rate.toNat < 2 ^ 31)
    (readmits : port.Readmits (rate.toNat / 100 * 75)) : ({port with rate := rate}.netQosPortReset rate).Sound := by
  have new : (port.emptied rate).maxRate.toNat = rate.toNat / 100 * 75 := maxRate_toNat positive
  have small : port.maxRate.toNat < 2 ^ 31 := by
    have share := sound.share
    have old := sound.rate
    omega
  have light : ∀ c < CFG_SR_CLASS_MAX, ∀ i < CFG_SR_CLASS_HIGH_STREAM_MAX,
      ((port.srClass c).stream i).slope < 2 ^ 31 := by
    intro c inside i below
    have part : ((port.srClass c).stream i).slope ≤
        port.window (fun _ => CFG_SR_CLASS_HIGH_STREAM_MAX) StreamQueue.slope := weight_le_window inside below
    exact (part.trans sound.summed.room).trans_lt small
  have loop := @foldl_range _ (fun c state => Refilling (port.emptied rate) c 0 state) PortQos.resetClass _
    CFG_SR_CLASS_MAX (emptied_refilling sound.shaped) (by
      intro c inside state refilling
      apply refilling.resetClass inside (sound.shaped c).size
      · rw [new]
        omega
      · exact light c inside
      · rw [new]
        exact readmits)
  have summed := loop.summed
  obtain ⟨_,link,maxRate⟩ := loop.link
  refine ⟨loop.shaped,loop.counted,⟨?_,?_,?_⟩,?_,?_⟩
  · rw [← visited_all]
    exact summed.usedRate
  · rw [← visited_all]
    exact summed.streams
  · rw [← visited_all]
    exact summed.room
  · change 100 * (List.foldl _ (port.emptied rate) _).maxRate.toNat ≤ 75 * (List.foldl _ (port.emptied rate) _).rate.toNat
    rw [maxRate,link,new]
    change 100 * (rate.toNat / 100 * 75) ≤ 75 * rate.toNat
    omega
  · change (List.foldl _ (port.emptied rate) _).rate.toNat < _
    rw [link]
    exact positive

end Resets

end Genavb.Qos

/-! The requests of `net_tx.c` on a sound port. -/
namespace Genavb.Qos
open Common SrClass

section Lookups
variable {port : PortQos} {c i q : Nat} {sr : SrClass} {streamId : StreamId}

theorem prioritySrClass_inside {priority : Nat} (found : prioritySrClass priority = some c) : c < CFG_SR_CLASS_MAX := by
  obtain ⟨tclass,_,found⟩ := Option.bind_eq_some_iff.mp found
  exact List.mem_range.mp (List.mem_of_find?_eq_some found)

theorem queueConnect_linked (linked : Linked sr.streamMax sr.stream sr.qosQueue)
    (fewer : sr.streamMax < CFG_TRAFFIC_CLASS_QUEUE_MAX) (socket : VlanLabel) :
    ∃ q < CFG_TRAFFIC_CLASS_QUEUE_MAX, (sr.qosQueue q).connected = false ∧
      sr.queueConnect socket = (sr.modifyQueue q fun queue =>
        {queue with connected := true, enabled := true, socket := some socket},some q) := by
  obtain ⟨q,inside,free⟩ := linked.free_queue fewer
  unfold queueConnect
  split
  next missing =>
    rw [List.find?_eq_none] at missing
    exact absurd free (by simpa using missing q inside)
  next p found =>
    have free := List.find?_some found
    exact ⟨p,List.mem_range.mp (List.mem_of_find?_eq_some found),by simpa using free,rfl⟩

theorem queueConnect_shaped (shaped : sr.Shaped) (socket : VlanLabel) : ∃ q, (sr.qosQueue q).connected = false ∧
    sr.queueConnect socket = (sr.modifyQueue q fun queue =>
      {queue with connected := true, enabled := true, socket := some socket},some q) := by
  have fewer : sr.streamMax < CFG_TRAFFIC_CLASS_QUEUE_MAX := by
    rw [shaped.size]
    decide
  obtain ⟨q,_,free,result⟩ := queueConnect_linked shaped.linked fewer socket
  exact ⟨q,free,result⟩

theorem PortQos.Sound.streamGet (sound : port.Sound) (found : (port.netQosStreamGet c streamId).2 = some i) :
    (port.netQosStreamGet c streamId).1.Sound := by
  apply sound.setClass
  · exact ((sound.shaped c).streamGet found).1
  · exact streamGet_reserves streamId _

theorem streamGet_missing (missing : (port.netQosStreamGet c streamId).2 = none) :
    (port.netQosStreamGet c streamId).1 = port := by
  unfold PortQos.netQosStreamGet at missing ⊢
  rcases streamGet_cases streamId (port.srClass c) with ⟨k,_,_,_,result⟩ | ⟨_,⟨k,_,_,result⟩ | result⟩
  · rw [result] at missing
    cases missing
  · rw [result] at missing
    cases missing
  · rw [result]
    exact setClass_self

theorem streamGet_connected (found : (port.netQosStreamGet c streamId).2 = some i)
    (connected : (((port.netQosStreamGet c streamId).1.srClass c).stream i).connected = true) :
    (port.netQosStreamGet c streamId).1 = port := by
  unfold PortQos.netQosStreamGet at found connected ⊢
  rw [setClass_srClass] at connected
  rcases streamGet_cases streamId (port.srClass c) with ⟨k,_,_,_,result⟩ | ⟨_,⟨k,_,free,result⟩ | result⟩
  · rw [result]
    exact setClass_self
  · rw [result] at found connected
    cases found
    rw [Relabels.slots_kept (relabels_id streamId).connected] at connected
    simp [StreamQueue.used,connected] at free
  · rw [result]
    exact setClass_self

end Lookups

section Sockets
variable {port : PortQos} {c i q : Nat} {config : SrClassConfig} {srClass : Nat} {streamId : StreamId} {socket : VlanLabel}

theorem netQosStreamConnect_cases (sound : port.Sound) :
    port.netQosStreamConnect config srClass streamId socket = (port,none) ∨
      ∃ c i q, config.srClassEnabled srClass = true ∧ prioritySrClass (config.srClassPcp srClass) = some c ∧
        (port.netQosStreamGet c streamId).2 = some i ∧
        (((port.netQosStreamGet c streamId).1.srClass c).stream i).connected = false ∧
        (((port.netQosStreamGet c streamId).1.srClass c).qosQueue q).connected = false ∧
        port.netQosStreamConnect config srClass streamId socket =
          ((port.netQosStreamGet c streamId).1.setClass c
            (((port.netQosStreamGet c streamId).1.srClass c).joinQueue i q (some socket)),some (c,q)) := by
  unfold PortQos.netQosStreamConnect
  by_cases enabled : config.srClassEnabled srClass = true
  case neg => simp [enabled]
  cases class_of : prioritySrClass (config.srClassPcp srClass) with
  | none => simp [enabled]
  | some c =>
    cases get : port.netQosStreamGet c streamId with
    | mk next result =>
      cases result with
      | none =>
        have same := @streamGet_missing port c streamId (by rw [get])
        rw [get] at same
        simp [enabled,get,show next = port from same]
      | some i =>
        by_cases connected : ((next.srClass c).stream i).connected = true
        case pos =>
          have same := @streamGet_connected port c i streamId (by rw [get]) (by rw [get]; exact connected)
          rw [get] at same
          refine .inl ?_
          cases same
          simp [enabled,get,connected]
        case neg =>
          have kept := @PortQos.Sound.streamGet port c i streamId sound (by rw [get])
          rw [get] at kept
          obtain ⟨q,free,queue⟩ := queueConnect_shaped (kept.shaped c) socket
          rw [Bool.not_eq_true] at connected
          refine .inr ⟨c,i,q,enabled,rfl,?_,?_,?_,?_⟩
          · rw [get]
          · rw [get]
            exact connected
          · rw [get]
            exact free
          · rw [get]
            cases configured : ((next.srClass c).stream i).configured with
            | true | false => simp [enabled,get,connected,queue,modifyQueue,modifyStream,joinQueue,configured]

theorem joinQueue_socket (label : Option VlanLabel) (sr : SrClass) :
    (sr.joinQueue i q (some socket)).modifyQueue q (fun queue => {queue with socket := label}) =
      sr.joinQueue i q label := by
  simp [joinQueue,modifyQueue]

theorem streamGet_idle : (((port.netQosStreamGet c streamId).1.srClass c).stream i).connected =
    ((port.srClass c).stream i).connected := by
  unfold PortQos.netQosStreamGet
  rw [setClass_srClass]
  rcases streamGet_cases streamId (port.srClass c) with ⟨k,_,_,_,result⟩ | ⟨_,⟨k,_,_,result⟩ | result⟩
  · rw [result]
  · rw [result]
    exact Relabels.slots_kept (relabels_id streamId).connected _ _ _
  · rw [result]

/-- A slot can be connected to a stream of the class. -/
def PortQos.Connectable (config : SrClassConfig) (srClass : Nat) (streamId : StreamId) (port : PortQos) : Prop :=
  config.srClassEnabled srClass = true ∧ ∃ c i, prioritySrClass (config.srClassPcp srClass) = some c ∧
    (port.netQosStreamGet c streamId).2 = some i ∧ ((port.srClass c).stream i).connected = false

theorem PortQos.Sound.streamConnect (sound : port.Sound) :
    port.streamConnect config srClass streamId socket = (port,none) ∨
      ∃ next queue, port.streamConnect config srClass streamId socket = (next,some queue) ∧ next.Sound ∧
        port.Connectable config srClass streamId := by
  unfold PortQos.streamConnect
  rcases @netQosStreamConnect_cases port config srClass streamId socket sound with
    refused | ⟨c,i,q,enabled,class_of,found,idle,free,granted⟩
  · rw [refused]
    exact .inl rfl
  · have kept := sound.streamGet found
    have lookup := (sound.shaped c).streamGet found
    have own : (port.netQosStreamGet c streamId).1.srClass c = ((port.srClass c).streamGet streamId).1 :=
      setClass_srClass _
    have size : ((port.netQosStreamGet c streamId).1.srClass c).streamMax = (port.srClass c).streamMax := by
      rw [(kept.shaped c).size,(sound.shaped c).size]
    rw [granted]
    refine .inr ⟨_,_,rfl,?_,enabled,c,i,class_of,found,streamGet_idle.symm.trans idle⟩
    rw [setClass_srClass,joinQueue_socket,setClass_setClass]
    apply kept.setClass
    · apply (kept.shaped c).joinQueue (size ▸ lookup.2.1) idle free
      rw [own] at size ⊢
      rw [size]
      exact lookup.2.2
    · exact joinQueue_reserves i q _ _

theorem PortQos.Sound.netQosStreamDisconnect (sound : port.Sound) : (port.netQosStreamDisconnect c q).Sound := by
  unfold PortQos.netQosStreamDisconnect
  dsimp only
  split
  · exact sound
  next i back =>
    have left : ((port.srClass c).modifyQueue q fun queue =>
        {queue with connected := false, stream := none, socket := none}).modifyStream i
          (fun stream => {stream with qosQueue := none, connected := false}) = (port.srClass c).leaveQueue i q := rfl
    apply sound.setClass
    · exact (sound.shaped c).leaveQueue back
    · exact leaveQueue_reserves i q _

end Sockets

section Reservations
variable {port : PortQos} {c i : Nat} {idleSlope : BitVec 32} {label : VlanLabel}

theorem labelStream_cases (c i : Nat) (label : VlanLabel) (port : PortQos) : ∃ sr,
    port.labelStream c i label = port.setClass c sr ∧ (port.srClass c).Reserves sr ∧
      ((port.srClass c).Shaped → i < (port.srClass c).streamMax → sr.Shaped) ∧
      ∀ j, (sr.stream j).used = ((port.srClass c).stream j).used ∧ (sr.stream j).id = ((port.srClass c).stream j).id := by
  have relabels := relabels_label label
  have ids : ∀ stream : StreamQueue, ({stream with vlanLabel := label} : StreamQueue).id = stream.id := fun _ => rfl
  have slots (j : Nat) := And.intro (Relabels.slots_kept relabels.used (port.srClass c) i j)
    (Relabels.slots_kept ids (port.srClass c) i j)
  unfold PortQos.labelStream
  dsimp only
  split
  next q _ _ =>
    refine ⟨_,rfl,?_,?_,slots⟩
    · exact (relabels_reserves relabels).trans ⟨rfl,rfl,rfl,rfl,fun _ => rfl⟩
    · intro shaped inside
      exact (shaped.relabel relabels inside fun _ => rfl).socket (some label)
  · refine ⟨_,rfl,?_,?_,slots⟩
    · exact relabels_reserves relabels
    · intro shaped inside
      exact shaped.relabel relabels inside fun _ => rfl

def PortQos.Labelled (c i : Nat) (label : VlanLabel) (port : PortQos) : Prop :=
  ((port.srClass c).stream i).vlanLabel = label ∧
    (((port.srClass c).stream i).connected = true → ∀ q, ((port.srClass c).stream i).qosQueue = some q →
      ((port.srClass c).qosQueue q).socket = some label)

theorem labelStream_same (labelled : port.Labelled c i label) : port.labelStream c i label = port := by
  have slot : ((port.srClass c).modifyStream i fun stream => {stream with vlanLabel := label}) = port.srClass c := by
    unfold modifyStream
    rw [← labelled.1]
    simp
  unfold PortQos.labelStream
  dsimp only
  rw [slot]
  split
  next q connected link =>
    have queue : ((port.srClass c).modifyQueue q fun queue => {queue with socket := some label}) = port.srClass c := by
      unfold modifyQueue
      rw [← labelled.2 connected q link]
      simp
    rw [queue,setClass_self]
  · exact setClass_self

theorem PortQos.Sound.configure (sound : port.Sound) (inside : c < CFG_SR_CLASS_MAX)
    (below : i < (port.srClass c).streamMax)
    (fits : port.demand (fun _ => CFG_SR_CLASS_HIGH_STREAM_MAX) c i idleSlope ≤ port.maxRate.toNat)
    (fresh : ∀ j < (port.srClass c).streamMax, j ≠ i → ((port.srClass c).stream j).used = true →
      ((port.srClass c).stream j).id ≠ ((port.srClass c).stream i).id) : (port.configure c i idleSlope).Sound := by
  have shaped := sound.shaped c
  have cleared := shaped.apart.cleared i below
  have counted : i < CFG_SR_CLASS_HIGH_STREAM_MAX := shaped.size ▸ below
  refine ⟨?_,?_,sound.summed.configure inside counted cleared fits,sound.share,sound.rate⟩
  · intro d
    change ((port.setClass c ((port.srClass c).configure i idleSlope)).srClass d).Shaped
    by_cases here : d = c
    case pos =>
      rw [here,setClass_srClass]
      exact configure_shaped shaped.size shaped.apart shaped.linked (fun j within _ => shaped.matched j within)
        below (fun _ => fresh)
    case neg =>
      rw [setClass_other here]
      exact sound.shaped d
  · intro d within
    change ((port.setClass c ((port.srClass c).configure i idleSlope)).srClass d).Counted _
    by_cases here : d = c
    case pos =>
      rw [here,setClass_srClass]
      exact (sound.counted c inside).configure counted cleared
    case neg =>
      rw [setClass_other here]
      exact sound.counted d within

end Reservations

end Genavb.Qos
