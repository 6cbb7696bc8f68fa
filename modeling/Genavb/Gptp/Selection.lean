import Mathlib.Order.Bounds.Basic
import Genavb.Gptp.BestVector

/-! The outcome of the port role selection for every combination of port information: when the
roles and the grandmaster vector are those of the standard. -/
namespace Genavb.Gptp

namespace GptpInstance

section Roles

/-- At most one slave port, which carries the grandmaster vector, the pseudo-port the slave when
this system is the grandmaster, and a role for every port that is not disabled. -/
structure ProperRoles (inst : GptpInstance) : Prop where
  oneSlave : ∀ port other, port < inst.numberPorts → other < inst.numberPorts →
    inst.updtRolesTree.selectedRole (port + 1) = .slavePort →
    inst.updtRolesTree.selectedRole (other + 1) = .slavePort → port = other
  slaveVector : ∀ port, port < inst.numberPorts →
    inst.updtRolesTree.selectedRole (port + 1) = .slavePort →
    inst.gmPathPriority port = inst.updtRolesTree.gmPriority
  pseudoPort : inst.updtRolesTree.selectedRole 0 = .slavePort ↔
    inst.updtRolesTree.gmPriority.rootSystemIdentity.clockIdentity = inst.thisClock
  assigned : ∀ port, port < inst.numberPorts → (inst.ports port).infoIs ≠ .disabled →
    inst.updtRolesTree.selectedRole (port + 1) ≠ .disabledPort

/-- No second port has received information about the clock of a leading port, and no port
about this clock when none leads. -/
structure HeardOnce (inst : GptpInstance) : Prop where
  leading : ∀ port, inst.Leads port → ∀ other, other < inst.numberPorts →
    (inst.ports other).infoIs = .received →
    (inst.ports other).portPriority.rootSystemIdentity.clockIdentity =
      (inst.ports port).portPriority.rootSystemIdentity.clockIdentity → other = port
  alone : (∀ port, ¬ inst.Leads port) → ∀ other, other < inst.numberPorts →
    (inst.ports other).infoIs = .received →
    (inst.ports other).portPriority.rootSystemIdentity.clockIdentity ≠ inst.thisClock

variable {inst : GptpInstance}

private theorem slave_iff_of_best {best port : Nat} (found : inst.bestVectorPort = some best)
    (inside : port < inst.numberPorts) :
    inst.updtRolesTree.selectedRole (port + 1) = .slavePort ↔ (inst.ports port).infoIs = .received ∧
      (inst.ports port).portPriority.rootSystemIdentity.clockIdentity =
        (inst.ports best).portPriority.rootSystemIdentity.clockIdentity := by
  rw [updtRolesTree_slave inst inside,bestGmPriority_some found]
  exact and_congr_right fun _ => eq_comm

private theorem slave_iff_of_none {port : Nat} (alone : inst.bestVectorPort = none) (inside : port < inst.numberPorts) :
    inst.updtRolesTree.selectedRole (port + 1) = .slavePort ↔ (inst.ports port).infoIs = .received ∧
      (inst.ports port).portPriority.rootSystemIdentity.clockIdentity = inst.thisClock := by
  rw [updtRolesTree_slave inst inside,bestGmPriority_this.mpr alone]
  exact and_congr_right fun _ => eq_comm

theorem best_slave {best : Nat} (found : inst.bestVectorPort = some best) :
    inst.updtRolesTree.selectedRole (best + 1) = .slavePort := by
  have leads := (bestVectorPort_some.mp found).1
  exact (slave_iff_of_best found leads.1.1).mpr ⟨leads.1.2.1,rfl⟩

theorem ProperRoles.heardOnce (proper : inst.ProperRoles) : inst.HeardOnce := by
  constructor
  · intro port leads other inside received same
    cases found : inst.bestVectorPort with
    | none => exact absurd leads (bestVectorPort_none.mp found port)
    | some best =>
      have first := (bestVectorPort_some.mp found).1
      -- two leading ports announce one root, hence one clock
      have tie : (inst.ports port).portPriority.rootSystemIdentity =
          (inst.ports best).portPriority.rootSystemIdentity :=
        le_antisymm (leads.2.2 best first.1) (first.2.2 port leads.1)
      have portSlave := (slave_iff_of_best found leads.1.1).mpr ⟨leads.1.2.1,by rw [tie]⟩
      have otherSlave := (slave_iff_of_best found inside).mpr ⟨received,by rw [same,tie]⟩
      exact proper.oneSlave other port inside leads.1.1 otherSlave portSlave
  · intro alone other inside received same
    have found := bestVectorPort_none.mpr alone
    have slave := (slave_iff_of_none found inside).mpr ⟨received,same⟩
    have root : inst.updtRolesTree.selectedRole 0 = .slavePort := by
      rw [proper.pseudoPort,updtRolesTree_gmPriority]
      exact bestGmPriority_this.mpr found
    exact (updtRolesTree_pseudoPort inst).mp root other inside slave

theorem HeardOnce.properRoles (once : inst.HeardOnce) : inst.ProperRoles := by
  cases found : inst.bestVectorPort with
  | none =>
    have noSlave : ∀ port, port < inst.numberPorts →
        inst.updtRolesTree.selectedRole (port + 1) ≠ .slavePort := by
      intro port inside slave
      obtain ⟨received,same⟩ := (slave_iff_of_none found inside).mp slave
      exact once.alone (bestVectorPort_none.mp found) port inside received same
    constructor
    · intro port _ inside _ slave
      exact absurd slave (noSlave port inside)
    · intro port inside slave
      exact absurd slave (noSlave port inside)
    · rw [updtRolesTree_gmPriority,bestGmPriority_this,updtRolesTree_pseudoPort]
      exact iff_of_true noSlave found
    · intro port inside
      exact updtRolesTree_assigned inst inside
  | some best =>
    have leads := (bestVectorPort_some.mp found).1
    have onlyBest : ∀ port, port < inst.numberPorts →
        inst.updtRolesTree.selectedRole (port + 1) = .slavePort → port = best := by
      intro port inside slave
      obtain ⟨received,same⟩ := (slave_iff_of_best found inside).mp slave
      exact once.leading best leads port inside received same
    constructor
    · intro port other inside within slave slave'
      rw [onlyBest port inside slave,onlyBest other within slave']
    · intro port inside slave
      rw [onlyBest port inside slave,updtRolesTree_gmPriority,bestGmPriority_some found]
    · rw [updtRolesTree_gmPriority,bestGmPriority_this,updtRolesTree_pseudoPort,found]
      refine iff_of_false ?_ (Option.some_ne_none best)
      intro none
      exact none best leads.1.1 (best_slave found)
    · intro port inside
      exact updtRolesTree_assigned inst inside

/-- The roles are proper exactly when no second port hears of the clock that wins. -/
theorem properRoles_iff (inst : GptpInstance) : inst.ProperRoles ↔ inst.HeardOnce :=
  ⟨ProperRoles.heardOnce,HeardOnce.properRoles⟩

end Roles

section Minimum

def Heard (inst : GptpInstance) (port : Nat) : Prop :=
  port < inst.numberPorts ∧ (inst.ports port).infoIs = .received ∧
    (inst.ports port).portPriority.sourcePortIdentity.clockIdentity ≠ inst.thisClock

def gmCandidates (inst : GptpInstance) : Set PriorityVector :=
  {vector | vector = inst.systemPriority ∨ ∃ port, inst.Heard port ∧ vector = inst.gmPathPriority port}

/-- The first leading port was not heard from this system and no port that ties with it on the
root has a better path; no path that this system is the root of beats the vector chosen. -/
structure InOrder (inst : GptpInstance) : Prop where
  sender : ∀ best, inst.LeadsFirst best → inst.Heard best
  ties : ∀ best, inst.LeadsFirst best → ∀ other, inst.Heard other →
    (inst.ports other).portPriority.rootSystemIdentity = (inst.ports best).portPriority.rootSystemIdentity →
    comparePriorityVector (inst.gmPathPriority best) (inst.gmPathPriority other) ≠ .bBetter
  echoes : ∀ best, inst.LeadsFirst best → ∀ other, inst.Heard other →
    (inst.ports other).portPriority.rootSystemIdentity.clockIdentity = inst.thisClock →
    comparePriorityVector (inst.gmPathPriority best) (inst.gmPathPriority other) ≠ .bBetter
  alone : (∀ port, ¬ inst.Leads port) → ∀ other, inst.Heard other →
    (inst.ports other).portPriority.rootSystemIdentity.clockIdentity = inst.thisClock →
    comparePriorityVector inst.systemPriority (inst.gmPathPriority other) ≠ .bBetter

variable {inst : GptpInstance}

private theorem not_bBetter_iff {first second : PriorityVector} :
    comparePriorityVector first second ≠ .bBetter ↔ first ≤ second := by
  rw [Ne,comparePriorityVector_bBetter,not_lt]

theorem portIdentityNumber_inj {port other : Nat} (inside : port < 16) (within : other < 16)
    (same : portIdentityNumber port = portIdentityNumber other) : port = other := by
  have values := congrArg UInt16.toNat same
  simp only [portIdentityNumber,UInt16.toNat_ofNat'] at values
  omega

theorem portIdentityNumber_ne_zero {port : Nat} (inside : port < 16) : portIdentityNumber port ≠ 0 := by
  intro same
  have values := congrArg UInt16.toNat same
  simp only [portIdentityNumber,UInt16.toNat_ofNat',UInt16.toNat_zero] at values
  omega

private theorem port_lt_mask {port : Nat} (inside : port < inst.numberPorts) : port < 16 :=
  inside.trans inst.config.numberPorts_bound

private theorem mem_gmCandidates_path {best : Nat} (inside : best < inst.numberPorts) :
    inst.gmPathPriority best ∈ inst.gmCandidates ↔ inst.Heard best := by
  constructor
  · intro candidate
    rcases candidate with system | ⟨port,heard,same⟩
    · have number := congrArg PriorityVector.portNumber system
      rw [inst.system.port_zero] at number
      exact absurd number (portIdentityNumber_ne_zero (port_lt_mask inside))
    · have number := congrArg PriorityVector.portNumber same
      rw [portIdentityNumber_inj (port_lt_mask inside) (port_lt_mask heard.1) number]
      exact heard
  · intro heard
    exact .inr ⟨best,heard,rfl⟩

theorem InOrder.least_of_some {best : Nat} (order : inst.InOrder) (found : inst.bestVectorPort = some best) :
    IsLeast inst.gmCandidates (inst.gmPathPriority best) := by
  have first := bestVectorPort_some.mp found
  refine ⟨(mem_gmCandidates_path first.1.1.1).mpr (order.sender best first),?_⟩
  intro vector candidate
  rcases candidate with rfl | ⟨port,heard,rfl⟩
  · exact (lt_of_root_lt (a := inst.gmPathPriority best) first.1.2.1).le
  · by_cases echo : (inst.ports port).portPriority.rootSystemIdentity.clockIdentity = inst.thisClock
    · exact not_bBetter_iff.mp (order.echoes best first port heard echo)
    · rcases lt_or_eq_of_le (first.1.2.2 port ⟨heard.1,heard.2.1,echo⟩) with worse | tie
      · exact (lt_of_root_lt (a := inst.gmPathPriority best) (b := inst.gmPathPriority port) worse).le
      · exact not_bBetter_iff.mp (order.ties best first port heard tie.symm)

theorem InOrder.least_of_none (order : inst.InOrder) (alone : inst.bestVectorPort = none) :
    IsLeast inst.gmCandidates inst.systemPriority := by
  refine ⟨.inl rfl,?_⟩
  intro vector candidate
  rcases candidate with rfl | ⟨port,heard,rfl⟩
  · exact le_rfl
  · by_cases echo : (inst.ports port).portPriority.rootSystemIdentity.clockIdentity = inst.thisClock
    · exact not_bBetter_iff.mp (order.alone (bestVectorPort_none.mp alone) port heard echo)
    · have among : inst.BestAmong inst.numberPorts inst.bestVectorPort := bestAmong_range le_rfl
      rw [alone] at among
      have worse := among port ⟨heard.1,heard.2.1,echo⟩ heard.1
      rcases lt_or_eq_of_le worse with less | same
      · exact (lt_of_root_lt (b := inst.gmPathPriority port) less).le
      · have clock := congrArg SystemIdentity.clockIdentity same
        rw [inst.system.root_this] at clock
        exact absurd clock.symm echo

theorem InOrder.least (order : inst.InOrder) : IsLeast inst.gmCandidates inst.updtRolesTree.gmPriority := by
  rw [updtRolesTree_gmPriority]
  cases found : inst.bestVectorPort with
  | none =>
    rw [bestGmPriority_none found]
    exact order.least_of_none found
  | some best =>
    rw [bestGmPriority_some found]
    exact order.least_of_some found

theorem inOrder_of_least (least : IsLeast inst.gmCandidates inst.updtRolesTree.gmPriority) : inst.InOrder := by
  rw [updtRolesTree_gmPriority] at least
  have chosen : ∀ best, inst.LeadsFirst best → IsLeast inst.gmCandidates (inst.gmPathPriority best) := by
    intro best first
    rw [bestGmPriority_some (bestVectorPort_some.mpr first)] at least
    exact least
  constructor
  · intro best first
    exact (mem_gmCandidates_path first.1.1.1).mp (chosen best first).1
  · intro best first other heard _
    exact not_bBetter_iff.mpr ((chosen best first).2 (.inr ⟨other,heard,rfl⟩))
  · intro best first other heard _
    exact not_bBetter_iff.mpr ((chosen best first).2 (.inr ⟨other,heard,rfl⟩))
  · intro alone other heard _
    rw [bestGmPriority_none (bestVectorPort_none.mpr alone)] at least
    exact not_bBetter_iff.mpr (least.2 (.inr ⟨other,heard,rfl⟩))

def SameHeard (first second : GptpInstance) : Prop :=
  ∀ vector, (∃ port, first.Heard port ∧ (first.ports port).portPriority = vector) ↔
    ∃ port, second.Heard port ∧ (second.ports port).portPriority = vector

private theorem renumbered_le {first second : GptpInstance} (system : first.system = second.system)
    (same : first.SameHeard second) (ordered : first.InOrder) (ordered' : second.InOrder) :
    second.updtRolesTree.gmPriority.unnumbered ≤ first.updtRolesTree.gmPriority.unnumbered := by
  rcases ordered.least.1 with own | ⟨port,heard,path⟩
  · rw [own]
    refine unnumbered_mono (ordered'.least.2 (.inl ?_))
    exact congrArg SystemParams.systemPriority system
  · obtain ⟨other,heard',vector⟩ := (same _).mp ⟨port,heard,rfl⟩
    have equal : (first.gmPathPriority port).unnumbered = (second.gmPathPriority other).unnumbered := by
      unfold gmPathPriority
      rw [vector]
      rfl
    rw [path,equal]
    exact unnumbered_mono (ordered'.least.2 (.inr ⟨other,heard',rfl⟩))

/-- The grandmaster vector is the best candidate exactly when the ports are in order; it then
depends on the port numbers through its last component only. -/
theorem gmPriority_least_iff (inst : GptpInstance) :
    (IsLeast inst.gmCandidates inst.updtRolesTree.gmPriority ↔ inst.InOrder) ∧
    ∀ second : GptpInstance, inst.system = second.system → inst.SameHeard second → inst.InOrder →
      second.InOrder →
      inst.updtRolesTree.gmPriority.unnumbered = second.updtRolesTree.gmPriority.unnumbered := by
  refine ⟨⟨inOrder_of_least,InOrder.least⟩,?_⟩
  intro second system same ordered ordered'
  have back : second.SameHeard inst := fun vector => (same vector).symm
  exact le_antisymm (renumbered_le system.symm back ordered' ordered) (renumbered_le system same ordered ordered')

end Minimum

section Examples

/-- The vector of a neighbour that is `steps` away from the grandmaster with clock 1. -/
def towardsOne (steps : UInt16) (source : ClockIdentity) : PriorityVector :=
  ⟨⟨100,⟨248,254,100⟩,248,1⟩,steps,⟨source,1⟩,0⟩

def twoUplinks : GptpInstance :=
  let bridge : GptpInstance :=
    .configured ⟨false,0,true,false,2,by decide,rfl⟩ (.priorityVectorUpdate 9 true 246 ⟨248,254,100⟩ 248) .zero fun _ => true
  {bridge with ports := fun port =>
    {bridge.ports port with portPriority := if port = 0 then towardsOne 3 20 else towardsOne 1 10}}

theorem twoUplinks_slaves : ¬ twoUplinks.ProperRoles := by
  intro proper
  have same := proper.oneSlave 0 1 (by decide) (by decide) (by decide) (by decide)
  exact absurd same (by decide)

theorem twoUplinks_longer : ¬ IsLeast twoUplinks.gmCandidates twoUplinks.updtRolesTree.gmPriority := by
  intro least
  have heard : twoUplinks.Heard 1 := ⟨by decide,rfl,by decide⟩
  have bound := least.2 (.inr ⟨1,heard,rfl⟩)
  exact absurd bound (by decide)

end Examples

end GptpInstance

end Genavb.Gptp
