import Genavb.Common.Fqtss
import Genavb.Support.Run
import Genavb.Support.Slots
import Mathlib.Algebra.BigOperators.Intervals
import Mathlib.Algebra.BigOperators.Ring.Finset

/-! Streams added to and removed from the ports of `fqtss.c`: the slopes of a port and of its classes over runs. -/
namespace Genavb.Common
open Genavb.Support
open scoped BigOperators
open Function (update update_of_ne update_self)
open FqtssPortParams

namespace FqtssPortParams
variable (params : FqtssPortParams) (trafficClass : Nat)

def sharing : Finset Nat := (Finset.range FQTSS_MAX_TRAFFIC_CLASS).filter fun i =>
  trafficClass ≤ i ∧ (params.bandwidthAvailability i).lockClassBandwidth = false

def sharedDelta : Nat := ∑ i ∈ params.sharing trafficClass, (params.bandwidthAvailability i).deltaBandwidth

def sharedSlope : Nat := ∑ i ∈ params.sharing trafficClass, params.operIdleSlope i

/-- The total is that of the classes, and what classes share or have locked is within their part of the rate. -/
structure Sound : Prop where
  summed : params.totalOperIdleSlope = total FQTSS_MAX_TRAFFIC_CLASS (·.operIdleSlope) params.bandwidthAvailability
  bounded : params.totalOperIdleSlope < 2^64
  shared : ∀ trafficClass, params.sharedSlope trafficClass ≤ params.portTransmitRate / 100 * params.sharedDelta trafficClass
  locked : ∀ trafficClass < FQTSS_MAX_TRAFFIC_CLASS,
    (params.bandwidthAvailability trafficClass).lockClassBandwidth = true → params.operIdleSlope trafficClass ≤
      params.portTransmitRate / 100 * (params.bandwidthAvailability trafficClass).deltaBandwidth

theorem totalDeltaBandwidth_le : params.totalDeltaBandwidth trafficClass ≤ params.sharedDelta trafficClass := by
  unfold totalDeltaBandwidth sharedDelta sharing
  rw [← List.sum_toFinset _ (List.nodup_range.filter _),List.toFinset_filter,List.toFinset_range]
  simp only [Bool.and_eq_true,decide_eq_true_eq,Bool.not_eq_true']
  exact Nat.mod_le _ _

variable {params : FqtssPortParams} {trafficClass : Nat} {idleSlope newIdleSlope newSum : Nat} {granted : Bool}

@[simp] theorem setOperIdleSlope_total :
    (params.setOperIdleSlope trafficClass newIdleSlope newSum).totalOperIdleSlope = newSum := rfl

@[simp] theorem setOperIdleSlope_self :
    (params.setOperIdleSlope trafficClass newIdleSlope newSum).operIdleSlope trafficClass = newIdleSlope := by
  simp [setOperIdleSlope,operIdleSlope]

private theorem setOperIdleSlope_other {i : Nat} (other : i ≠ trafficClass) :
    (params.setOperIdleSlope trafficClass newIdleSlope newSum).operIdleSlope i = params.operIdleSlope i := by
  simp [setOperIdleSlope,operIdleSlope,update_of_ne other]

private theorem setOperIdleSlope_config (i : Nat) :
    ((params.setOperIdleSlope trafficClass newIdleSlope newSum).bandwidthAvailability i).lockClassBandwidth =
        (params.bandwidthAvailability i).lockClassBandwidth ∧
      ((params.setOperIdleSlope trafficClass newIdleSlope newSum).bandwidthAvailability i).deltaBandwidth =
        (params.bandwidthAvailability i).deltaBandwidth := by
  by_cases same : i = trafficClass
  case pos => simp [setOperIdleSlope,same]
  case neg => simp [setOperIdleSlope,update_of_ne same]

private theorem setOperIdleSlope_sharing (i : Nat) :
    (params.setOperIdleSlope trafficClass newIdleSlope newSum).sharing i = params.sharing i := by
  unfold sharing
  simp only [setOperIdleSlope_config]

theorem setOperIdleSlope_sharedDelta (i : Nat) :
    (params.setOperIdleSlope trafficClass newIdleSlope newSum).sharedDelta i = params.sharedDelta i := by
  unfold sharedDelta
  simp only [setOperIdleSlope_config,setOperIdleSlope_sharing]

theorem setOperIdleSlope_apart {i : Nat} (apart : trafficClass ∉ params.sharing i) :
    (params.setOperIdleSlope trafficClass newIdleSlope newSum).sharedSlope i = params.sharedSlope i := by
  unfold sharedSlope
  rw [setOperIdleSlope_sharing]
  apply Finset.sum_congr rfl
  intro j member
  apply setOperIdleSlope_other
  rintro rfl
  exact apart member

theorem sharing_subset {lower upper : Nat} (order : lower ≤ upper) : params.sharing upper ⊆ params.sharing lower := by
  intro i member
  simp only [sharing,Finset.mem_filter] at member ⊢
  exact ⟨member.1,by omega,member.2.2⟩

theorem sharedDelta_anti {lower upper : Nat} (order : lower ≤ upper) :
    params.sharedDelta upper ≤ params.sharedDelta lower :=
  Finset.sum_le_sum_of_subset (sharing_subset order)

theorem sharedSlope_le_total : params.sharedSlope trafficClass ≤
    total FQTSS_MAX_TRAFFIC_CLASS (·.operIdleSlope) params.bandwidthAvailability :=
  Finset.sum_le_sum_of_subset (Finset.filter_subset _ _)

section Calls

theorem streamAdd_some {next : FqtssPortParams} (added : params.streamAdd trafficClass idleSlope granted = some next) :
    trafficClass < FQTSS_MAX_TRAFFIC_CLASS ∧
      params.checkValidOperIdleSlope trafficClass ((params.operIdleSlope trafficClass + idleSlope) % 2^64) = true ∧
      granted = true ∧
      next = params.setOperIdleSlope trafficClass ((params.operIdleSlope trafficClass + idleSlope) % 2^64)
        ((params.totalOperIdleSlope + idleSlope) % 2^64) := by
  unfold streamAdd at added
  split at added
  · cases added
  next valid =>
    dsimp only at added
    split at added
    · cases added
    next enough =>
      split at added
      · cases added
      · simp_all

theorem streamAdd_eq (valid : trafficClass < FQTSS_MAX_TRAFFIC_CLASS)
    (enough : params.checkValidOperIdleSlope trafficClass ((params.operIdleSlope trafficClass + idleSlope) % 2^64) = true) :
    params.streamAdd trafficClass idleSlope true =
      some (params.setOperIdleSlope trafficClass ((params.operIdleSlope trafficClass + idleSlope) % 2^64)
        ((params.totalOperIdleSlope + idleSlope) % 2^64)) := by
  unfold streamAdd
  rw [if_neg (by omega)]
  simp only [enough]
  rfl

theorem streamRemove_some {next : FqtssPortParams}
    (removed : params.streamRemove trafficClass idleSlope granted = some next) :
    trafficClass < FQTSS_MAX_TRAFFIC_CLASS ∧ granted = true ∧
      next = params.setOperIdleSlope trafficClass (params.operIdleSlope trafficClass - idleSlope)
        (params.newTotalIdleSlope trafficClass (params.operIdleSlope trafficClass - idleSlope)) := by
  unfold streamRemove at removed
  split at removed
  · cases removed
  next valid =>
    split at removed
    · cases removed
    · simp_all

section
variable (valid : trafficClass < FQTSS_MAX_TRAFFIC_CLASS)
include valid

section
variable (sound : params.Sound)
include sound

theorem Sound.oper_le : params.operIdleSlope trafficClass ≤ params.totalOperIdleSlope := by
  rw [sound.summed]
  exact weight_le_total valid

theorem Sound.newTotalIdleSlope_eq
    (fits : params.totalOperIdleSlope - params.operIdleSlope trafficClass + newIdleSlope < 2^64) :
    params.newTotalIdleSlope trafficClass newIdleSlope =
      params.totalOperIdleSlope - params.operIdleSlope trafficClass + newIdleSlope := by
  have least := sound.oper_le valid
  unfold newTotalIdleSlope
  rw [if_neg (by omega)]
  omega

theorem Sound.set_total :
    total FQTSS_MAX_TRAFFIC_CLASS (·.operIdleSlope)
        (params.setOperIdleSlope trafficClass newIdleSlope newSum).bandwidthAvailability =
      params.totalOperIdleSlope - params.operIdleSlope trafficClass + newIdleSlope := by
  have least := sound.oper_le valid
  have changed := @total_update BandwidthAvailability _ _ params.bandwidthAvailability (·.operIdleSlope) valid
    {params.bandwidthAvailability trafficClass with operIdleSlope := newIdleSlope}
  rw [← sound.summed] at changed
  change total _ _ (update params.bandwidthAvailability trafficClass _) = _
  change _ + params.operIdleSlope trafficClass = _ + newIdleSlope at changed
  omega

theorem Sound.set
    (fits : newSum < 2^64)
    (same : newSum = params.totalOperIdleSlope - params.operIdleSlope trafficClass + newIdleSlope)
    (shared : ∀ i, trafficClass ∈ params.sharing i →
      (params.setOperIdleSlope trafficClass newIdleSlope newSum).sharedSlope i ≤
        params.portTransmitRate / 100 * params.sharedDelta i)
    (locked : (params.bandwidthAvailability trafficClass).lockClassBandwidth = true →
      newIdleSlope ≤ params.portTransmitRate / 100 * (params.bandwidthAvailability trafficClass).deltaBandwidth) :
    (params.setOperIdleSlope trafficClass newIdleSlope newSum).Sound := by
  refine ⟨?_,fits,fun i => ?_,fun i inside isLocked => ?_⟩
  · rw [sound.set_total valid]
    exact same
  · rw [setOperIdleSlope_sharedDelta]
    by_cases member : trafficClass ∈ params.sharing i
    case pos => exact shared i member
    case neg =>
      rw [setOperIdleSlope_apart member]
      exact sound.shared i
  · rw [(setOperIdleSlope_config i).2]
    rw [(setOperIdleSlope_config i).1] at isLocked
    by_cases self : i = trafficClass
    case pos =>
      subst self
      rw [setOperIdleSlope_self]
      exact locked isLocked
    case neg =>
      rw [setOperIdleSlope_other self]
      exact sound.locked i inside isLocked

theorem Sound.add
    (fits : params.totalOperIdleSlope + idleSlope < 2^64)
    (enough : params.checkValidOperIdleSlope trafficClass (params.operIdleSlope trafficClass + idleSlope) = true) :
    (params.setOperIdleSlope trafficClass (params.operIdleSlope trafficClass + idleSlope)
      (params.totalOperIdleSlope + idleSlope)).Sound := by
  have least := sound.oper_le valid
  have same : params.totalOperIdleSlope + idleSlope = params.totalOperIdleSlope - params.operIdleSlope trafficClass +
      (params.operIdleSlope trafficClass + idleSlope) := by omega
  unfold checkValidOperIdleSlope at enough
  dsimp only at enough
  apply sound.set valid fits same
  · intro i member
    simp only [sharing,Finset.mem_filter] at member
    rw [member.2.2,if_neg (by simp),sound.newTotalIdleSlope_eq valid (by rwa [← same]),← same,decide_eq_true_eq] at enough
    calc (params.setOperIdleSlope trafficClass _ _).sharedSlope i
        ≤ _ := sharedSlope_le_total
      _ = params.totalOperIdleSlope + idleSlope := by rw [sound.set_total valid,same]
      _ ≤ params.portTransmitRate / 100 * params.totalDeltaBandwidth trafficClass % 2^64 := enough
      _ ≤ params.portTransmitRate / 100 * params.totalDeltaBandwidth trafficClass := Nat.mod_le _ _
      _ ≤ params.portTransmitRate / 100 * params.sharedDelta trafficClass :=
        Nat.mul_le_mul_left _ (params.totalDeltaBandwidth_le trafficClass)
      _ ≤ params.portTransmitRate / 100 * params.sharedDelta i := Nat.mul_le_mul_left _ (sharedDelta_anti member.2.1)
  · intro isLocked
    rw [isLocked,if_pos rfl,decide_eq_true_eq] at enough
    exact enough.trans (Nat.mod_le _ _)

theorem Sound.remove :
    (params.setOperIdleSlope trafficClass (params.operIdleSlope trafficClass - idleSlope)
      (params.newTotalIdleSlope trafficClass (params.operIdleSlope trafficClass - idleSlope))).Sound := by
  have least := sound.oper_le valid
  have most := sound.bounded
  have fits : params.totalOperIdleSlope - params.operIdleSlope trafficClass +
      (params.operIdleSlope trafficClass - idleSlope) < 2^64 := by omega
  rw [sound.newTotalIdleSlope_eq valid fits]
  apply sound.set valid fits rfl
  · intro i member
    apply Nat.le_trans _ (sound.shared i)
    unfold sharedSlope
    rw [setOperIdleSlope_sharing]
    apply Finset.sum_le_sum
    intro j _
    by_cases self : j = trafficClass
    case pos =>
      subst self
      rw [setOperIdleSlope_self]
      exact Nat.sub_le _ _
    case neg => rw [setOperIdleSlope_other self]
  · intro isLocked
    exact (Nat.sub_le _ _).trans (sound.locked trafficClass valid isLocked)

end

end

end Calls

end FqtssPortParams

structure FqtssConfig where
  deltaBandwidth : Nat → UInt32
  lockClassBandwidth : Nat → Bool
  portTransmitRate : UInt64

def FqtssConfig.port (config : FqtssConfig) : FqtssPortParams where
  bandwidthAvailability := fun trafficClass =>
    ⟨(config.deltaBandwidth trafficClass).toNat,0,config.lockClassBandwidth trafficClass⟩
  totalOperIdleSlope := 0
  portTransmitRate := config.portTransmitRate.toNat

theorem FqtssConfig.sound_port (config : FqtssConfig) : config.port.Sound := by
  refine ⟨?_,by simp [port],fun i => ?_,fun i _ _ => ?_⟩
  · exact (total_eq_zero fun _ _ => rfl).symm
  · have none : config.port.sharedSlope i = 0 := Finset.sum_eq_zero fun _ _ => rfl
    rw [none]
    exact Nat.zero_le _
  · exact Nat.zero_le _

inductive FqtssOperation
  | streamAdd
  | streamRemove
  deriving DecidableEq

/-- A call with the answer of the operating system, which gets the new slope of the class on a bridge and the stream
elsewhere. -/
structure FqtssCall where
  operation : FqtssOperation
  portId : Nat
  priority : UInt8
  idleSlope : UInt64
  granted : Bool

section Ports
variable (netPortPriorityToTrafficClass : Nat → UInt8 → UInt32) (ports : Nat → FqtssPortParams)

def commonFqtssStreamAdd (portId : Nat) (priority : UInt8) (idleSlope : UInt64) (granted : Bool) :
    (Nat → FqtssPortParams) × Int :=
  if portId ≥ CFG_MAX_LOGICAL_PORTS then (ports,-1)
  else
    let trafficClass := (netPortPriorityToTrafficClass portId priority).toUInt8.toNat
    match (ports portId).streamAdd trafficClass idleSlope.toNat granted with
    | none => (ports,-1)
    | some params => (update ports portId params,0)

def commonFqtssStreamRemove (portId : Nat) (priority : UInt8) (idleSlope : UInt64) (granted : Bool) :
    (Nat → FqtssPortParams) × Int :=
  if portId ≥ CFG_MAX_LOGICAL_PORTS then (ports,-1)
  else
    let trafficClass := (netPortPriorityToTrafficClass portId priority).toUInt8.toNat
    match (ports portId).streamRemove trafficClass idleSlope.toNat granted with
    | none => (ports,-1)
    | some params => (update ports portId params,0)

def fqtssCall (call : FqtssCall) : (Nat → FqtssPortParams) × Int :=
  match call.operation with
  | .streamAdd => commonFqtssStreamAdd netPortPriorityToTrafficClass ports call.portId call.priority call.idleSlope call.granted
  | .streamRemove =>
    commonFqtssStreamRemove netPortPriorityToTrafficClass ports call.portId call.priority call.idleSlope call.granted

def FqtssCall.trafficClass (call : FqtssCall) : Nat :=
  (netPortPriorityToTrafficClass call.portId call.priority).toUInt8.toNat

def fqtssStep (call : FqtssCall) (ports : Nat → FqtssPortParams) : Nat → FqtssPortParams :=
  (fqtssCall netPortPriorityToTrafficClass ports call).1

/-- A call that fails changes nothing, one that succeeds changes the slope of its class alone and by the right amount,
and the totals and limits hold in each port. -/
structure FqtssCall.Accounted (call : FqtssCall) : Prop where
  failed : (fqtssCall netPortPriorityToTrafficClass ports call).2 ≠ 0 →
    fqtssStep netPortPriorityToTrafficClass call ports = ports
  added : (fqtssCall netPortPriorityToTrafficClass ports call).2 = 0 → call.operation = .streamAdd →
    (fqtssStep netPortPriorityToTrafficClass call ports call.portId).operIdleSlope
        (call.trafficClass netPortPriorityToTrafficClass) =
      (ports call.portId).operIdleSlope (call.trafficClass netPortPriorityToTrafficClass) + call.idleSlope.toNat
  removed : (fqtssCall netPortPriorityToTrafficClass ports call).2 = 0 → call.operation = .streamRemove →
    (fqtssStep netPortPriorityToTrafficClass call ports call.portId).operIdleSlope
        (call.trafficClass netPortPriorityToTrafficClass) =
      (ports call.portId).operIdleSlope (call.trafficClass netPortPriorityToTrafficClass) - call.idleSlope.toNat
  others : ∀ portId trafficClass,
    ¬(portId = call.portId ∧ trafficClass = call.trafficClass netPortPriorityToTrafficClass) →
      (fqtssStep netPortPriorityToTrafficClass call ports portId).operIdleSlope trafficClass =
        (ports portId).operIdleSlope trafficClass
  sound : ∀ portId, (fqtssStep netPortPriorityToTrafficClass call ports portId).Sound

/-- A stream that passes the checks leaves the total of its port within 64 bits. -/
def FqtssCall.Fits (call : FqtssCall) : Prop :=
  call.operation = .streamAdd → call.portId < CFG_MAX_LOGICAL_PORTS →
    call.trafficClass netPortPriorityToTrafficClass < FQTSS_MAX_TRAFFIC_CLASS → call.granted = true →
    (ports call.portId).checkValidOperIdleSlope (call.trafficClass netPortPriorityToTrafficClass)
      (((ports call.portId).operIdleSlope (call.trafficClass netPortPriorityToTrafficClass) + call.idleSlope.toNat) % 2^64) =
        true →
    (ports call.portId).totalOperIdleSlope + call.idleSlope.toNat < 2^64

end Ports

section Accounting
variable {netPortPriorityToTrafficClass : Nat → UInt8 → UInt32} {ports : Nat → FqtssPortParams} {call : FqtssCall}

theorem fqtssCall_cases :
    fqtssCall netPortPriorityToTrafficClass ports call = (ports,-1) ∨
    (∃ params, call.operation = .streamAdd ∧ call.portId < CFG_MAX_LOGICAL_PORTS ∧
      (ports call.portId).streamAdd (call.trafficClass netPortPriorityToTrafficClass) call.idleSlope.toNat call.granted =
        some params ∧
      fqtssCall netPortPriorityToTrafficClass ports call = (update ports call.portId params,0)) ∨
    (∃ params, call.operation = .streamRemove ∧
      (ports call.portId).streamRemove (call.trafficClass netPortPriorityToTrafficClass) call.idleSlope.toNat
        call.granted = some params ∧
      fqtssCall netPortPriorityToTrafficClass ports call = (update ports call.portId params,0)) := by
  unfold fqtssCall
  split
  next operation =>
    unfold commonFqtssStreamAdd
    split
    · exact .inl rfl
    next valid =>
      dsimp only
      split
      · exact .inl rfl
      next params added => exact .inr (.inl ⟨params,operation,by omega,added,rfl⟩)
  next operation =>
    unfold commonFqtssStreamRemove
    split
    · exact .inl rfl
    · dsimp only
      split
      · exact .inl rfl
      next params removed => exact .inr (.inr ⟨params,operation,removed,rfl⟩)

private theorem accounted_of_accepted {params : FqtssPortParams} {newIdleSlope newSum : Nat}
    (sound : ∀ portId, (ports portId).Sound)
    (accepted : fqtssCall netPortPriorityToTrafficClass ports call = (update ports call.portId params,0))
    (set : params = (ports call.portId).setOperIdleSlope (call.trafficClass netPortPriorityToTrafficClass) newIdleSlope
      newSum) (next : params.Sound) (added : call.operation = .streamAdd → newIdleSlope =
      (ports call.portId).operIdleSlope (call.trafficClass netPortPriorityToTrafficClass) + call.idleSlope.toNat)
    (removed : call.operation = .streamRemove → newIdleSlope =
      (ports call.portId).operIdleSlope (call.trafficClass netPortPriorityToTrafficClass) - call.idleSlope.toNat) :
    call.Accounted netPortPriorityToTrafficClass ports := by
  have after : fqtssStep netPortPriorityToTrafficClass call ports = update ports call.portId params := by
    rw [fqtssStep,accepted]
  have self : (update ports call.portId params call.portId).operIdleSlope
      (call.trafficClass netPortPriorityToTrafficClass) = newIdleSlope := by
    rw [update_self,set,setOperIdleSlope_self]
  constructor
  case failed => simp [accepted]
  case added =>
    intro _ operation
    rw [after,self,added operation]
  case removed =>
    intro _ operation
    rw [after,self,removed operation]
  case others =>
    intro portId trafficClass other
    rw [after]
    by_cases same : portId = call.portId
    case pos =>
      subst same
      rw [update_self,set]
      exact setOperIdleSlope_other fun equal => other ⟨rfl,equal⟩
    case neg => rw [update_of_ne same]
  case sound =>
    intro portId
    rw [after]
    by_cases same : portId = call.portId
    case pos =>
      subst same
      rwa [update_self]
    case neg =>
      rw [update_of_ne same]
      exact sound portId

theorem accounted_iff (sound : ∀ portId, (ports portId).Sound) :
    call.Accounted netPortPriorityToTrafficClass ports ↔ call.Fits netPortPriorityToTrafficClass ports := by
  constructor
  · intro accounted operation valid classValid granted enough
    have accepted : fqtssCall netPortPriorityToTrafficClass ports call =
        (update ports call.portId ((ports call.portId).setOperIdleSlope
          (call.trafficClass netPortPriorityToTrafficClass)
          (((ports call.portId).operIdleSlope (call.trafficClass netPortPriorityToTrafficClass) + call.idleSlope.toNat) %
            2^64)
          (((ports call.portId).totalOperIdleSlope + call.idleSlope.toNat) % 2^64)),0) := by
      have added := streamAdd_eq classValid enough
      unfold FqtssCall.trafficClass at added ⊢
      rw [fqtssCall,operation]
      rw [commonFqtssStreamAdd,if_neg (by omega),granted]
      dsimp only
      rw [added]
    have added := accounted.added (by rw [accepted]) operation
    have next := (accounted.sound call.portId).summed
    have bounded := (accounted.sound call.portId).bounded
    unfold fqtssStep at added next bounded
    rw [accepted] at added next bounded
    dsimp only at added next bounded
    rw [update_self,(sound call.portId).set_total classValid] at next
    rw [update_self] at added bounded
    rw [setOperIdleSlope_self] at added
    rw [setOperIdleSlope_total] at next bounded
    rw [added] at next
    omega
  · intro fits
    rcases @fqtssCall_cases netPortPriorityToTrafficClass ports call with
      refused | ⟨params,operation,valid,added,accepted⟩ | ⟨params,operation,removed,accepted⟩
    · have after : fqtssStep netPortPriorityToTrafficClass call ports = ports := by rw [fqtssStep,refused]
      refine ⟨fun _ => after,fun success => ?_,fun success => ?_,fun _ _ _ => by rw [after],?_⟩
      · simp [refused] at success
      · simp [refused] at success
      · rwa [after]
    · obtain ⟨classValid,enough,granted,set⟩ := streamAdd_some added
      have small := fits operation valid classValid granted enough
      have least := (sound call.portId).oper_le classValid
      rw [Nat.mod_eq_of_lt (by omega)] at enough set
      rw [Nat.mod_eq_of_lt small] at set
      refine accounted_of_accepted sound accepted set ?_ (fun _ => rfl) fun other => ?_
      · rw [set]
        exact (sound call.portId).add classValid small enough
      · rw [operation] at other
        cases other
    · obtain ⟨classValid,_,set⟩ := streamRemove_some removed
      refine accounted_of_accepted sound accepted set ?_ (fun other => ?_) fun _ => rfl
      · rw [set]
        exact (sound call.portId).remove classValid
      · rw [operation] at other
        cases other

end Accounting

/-- The slopes are accounted for in every step of a run exactly if no stream takes a total beyond 64 bits. -/
theorem slopes_accounted (netPortPriorityToTrafficClass : Nat → UInt8 → UInt32) (config : Nat → FqtssConfig)
    (calls : List FqtssCall) :
    Steps (fqtssStep netPortPriorityToTrafficClass)
        (fun ports call => call.Accounted netPortPriorityToTrafficClass ports) calls (fun portId => (config portId).port) ↔
      Steps (fqtssStep netPortPriorityToTrafficClass)
        (fun ports call => call.Fits netPortPriorityToTrafficClass ports) calls (fun portId => (config portId).port) := by
  apply @steps_iff _ _ _ _ _ fun ports => ∀ portId, (ports portId).Sound
  · intro ports call sound
    exact accounted_iff sound
  · intro ports call _ accounted
    exact accounted.sound
  · intro portId
    exact (config portId).sound_port

/-- A slope of 2⁶⁴ - 50 in a lower class on top of one of 100. -/
theorem total_wraps : ¬∀ (netPortPriorityToTrafficClass : Nat → UInt8 → UInt32) (config : Nat → FqtssConfig)
    (calls : List FqtssCall),
    Steps (fqtssStep netPortPriorityToTrafficClass)
      (fun ports call => call.Accounted netPortPriorityToTrafficClass ports) calls
      (fun portId => (config portId).port) := by
  intro accounted
  have steps := accounted (fun _ priority => priority.toUInt32) (fun _ => ⟨fun trafficClass => if trafficClass = 7 then 75 else 0,fun _ => false,1000⟩)
    [⟨.streamAdd,0,7,100,true⟩,⟨.streamAdd,0,6,0xffffffffffffffce,true⟩]
  have sound := steps.2.1.sound 0
  have summed := sound.summed
  revert summed
  decide +kernel

end Genavb.Common
