import Genavb.Gptp.State

/-! The port role selection of `site_fsm.c`: `updt_roles_tree`, in its steps a) to i). -/
namespace Genavb.Gptp
open Support

namespace GptpInstance

section Vectors

def gmPathPriority (inst : GptpInstance) (port : Nat) : PriorityVector :=
  {(inst.ports port).portPriority with
    stepsRemoved := (inst.ports port).portPriority.stepsRemoved + 1
    portNumber := portIdentityNumber port}

def bestVectorOf (inst : GptpInstance) : Option Nat → PriorityVector
  | none => inst.systemPriority
  | some port => inst.gmPathPriority port

def betterVector (inst : GptpInstance) (best : Option Nat) (port : Nat) : Option Nat :=
  if (inst.ports port).infoIs = .received then
    if (inst.gmPathPriority port).rootSystemIdentity.clockIdentity ≠ inst.thisClock then
      if compareSystemIdentity (inst.bestVectorOf best) (inst.gmPathPriority port) = .bBetter then some port
      else best
    else best
  else best

def bestVectorPort (inst : GptpInstance) : Option Nat :=
  (List.range inst.numberPorts).foldl inst.betterVector none

def bestGmPriority (inst : GptpInstance) : PriorityVector :=
  match inst.bestVectorPort with
  | some port =>
    {inst.gmPathPriority port with
      stepsRemoved := (inst.ports port).portPriority.stepsRemoved + 1
      portNumber := portIdentityNumber port}
  | none =>
    {inst.systemPriority with
      stepsRemoved := 0
      portNumber := 0
      sourcePortIdentity := {inst.systemPriority.sourcePortIdentity with portNumber := 0}}

def updtGmPriority (inst : GptpInstance) : GptpInstance :=
  {inst with
    lastGmPriority := inst.gmPriority
    gmPriority := inst.bestGmPriority
    properties := match inst.bestVectorPort with
      | some port => (inst.ports port).ann
      | none => inst.sysProperties
    masterStepsRemoved := match inst.bestVectorPort with
      | some port => (inst.ports port).messageStepsRemoved + 1
      | none => 0}

def masterPriorityVector (inst : GptpInstance) (port : Nat) : PriorityVector :=
  {inst.gmPriority with
    sourcePortIdentity :=
      ⟨inst.systemPriority.sourcePortIdentity.clockIdentity,portIdentityNumber port⟩
    portNumber := portIdentityNumber port}

end Vectors

section Roles

/-- Step f) for a port whose `master_priority` is set: its role and its `updt_info`. -/
def assignRole (inst : GptpInstance) (port : GptpPort) : PortRole × Bool :=
  match port.infoIs with
  | .disabled => (.disabledPort,port.updtInfo)
  | .aged => (.masterPort,true)
  | .mine =>
    (.masterPort,
      if memcmp port.portPriority.bytes port.masterPriority.bytes ≠ .eq ∨
          port.portStepsRemoved ≠ inst.masterStepsRemoved then true
      else port.updtInfo)
  | .received =>
    if compareClockIdentity inst.gmPriority.rootSystemIdentity.clockIdentity
        port.portPriority.rootSystemIdentity.clockIdentity = .eq then (.slavePort,false)
    else if compareSystemIdentity port.masterPriority port.portPriority ≠ .aBetter then (.passivePort,false)
    else (.masterPort,true)

def updtPortRoles (inst : GptpInstance) : GptpInstance :=
  let master (port : Nat) : GptpPort :=
    {inst.ports port with masterPriority := inst.masterPriorityVector port}
  {inst with
    ports := fun port =>
      if port < inst.numberPorts then {master port with updtInfo := (inst.assignRole (master port)).2}
      else inst.ports port
    selectedRole := fun number =>
      if 0 < number ∧ number ≤ inst.numberPorts then (inst.assignRole (master (number - 1))).1
      else inst.selectedRole number}

def updtPseudoPort (inst : GptpInstance) : GptpInstance :=
  {inst with
    gmPresent := inst.gmPriority.rootSystemIdentity.priority1 < 255
    selectedRole := Function.update inst.selectedRole 0
      (if (List.range inst.numberPorts).any fun port => inst.selectedRole (port + 1) = .slavePort
      then .passivePort else .slavePort)}

def resetPathTrace (inst : GptpInstance) : GptpInstance :=
  {inst with
    pathTrace := Function.update (fun _ => 0) 0 inst.thisClock
    numPtlv := 1}

def gptpIpcGmStatus (inst : GptpInstance) : GptpInstance :=
  if inst.numPtlv > MAX_PTLV_ENTRIES then inst
  else inst.emit (.gmStatus (inst.pathEntries inst.numPtlv))

def gptpGmIndication (vector : PriorityVector) (inst : GptpInstance) : GptpInstance :=
  if compareClockIdentity inst.gmInfoVector.rootSystemIdentity.clockIdentity
      vector.rootSystemIdentity.clockIdentity = .eq then inst
  else ({inst with gmInfoVector := vector}.gptpIpcGmStatus).emit (.gmIndication vector)

def updtPathTrace (inst : GptpInstance) : GptpInstance :=
  if compareClockIdentity inst.gmPriority.rootSystemIdentity.clockIdentity inst.thisClock = .eq then
    {inst with isGrandmaster := inst.gmPresent}.resetPathTrace
  else {inst with isGrandmaster := false}

/-- The notifications at the end of the function; `previous` is what the instance was before. -/
def notifyGrandmaster (previous : Bool) (best : PriorityVector) (inst : GptpInstance) : GptpInstance :=
  let inst :=
    if inst.isGrandmaster = previous then inst else inst.emit (.systemRoleChange inst.isGrandmaster)
  if inst.gmPresent then inst.gptpGmIndication best else inst

end Roles

def updtRolesTree (inst : GptpInstance) : GptpInstance :=
  inst.updtGmPriority.updtPortRoles.updtPseudoPort.updtPathTrace.notifyGrandmaster inst.isGrandmaster
    (inst.bestVectorOf inst.bestVectorPort)

end GptpInstance

end Genavb.Gptp

/-! What `updt_roles_tree` computes: the port of the best vector, the roles and the grandmaster
vector, and when they are those of the standard. -/
namespace Genavb.Gptp
open Support

namespace GptpInstance

section Candidates

def Foreign (inst : GptpInstance) (port : Nat) : Prop :=
  port < inst.numberPorts ∧ (inst.ports port).infoIs = .received ∧
    (inst.ports port).portPriority.rootSystemIdentity.clockIdentity ≠ inst.thisClock

def Leads (inst : GptpInstance) (port : Nat) : Prop :=
  inst.Foreign port ∧
    (inst.ports port).portPriority.rootSystemIdentity < inst.systemPriority.rootSystemIdentity ∧
    ∀ other, inst.Foreign other →
      (inst.ports port).portPriority.rootSystemIdentity ≤ (inst.ports other).portPriority.rootSystemIdentity

def LeadsFirst (inst : GptpInstance) (port : Nat) : Prop :=
  inst.Leads port ∧ ∀ other, other < port → ¬ inst.Leads other

instance (inst : GptpInstance) (port : Nat) : Decidable (inst.Foreign port) :=
  inferInstanceAs (Decidable (_ ∧ _))

end Candidates

section BestVector
variable {inst : GptpInstance}

/-- What the first `count` iterations of step b) have found. -/
def BestAmong (inst : GptpInstance) (count : Nat) : Option Nat → Prop
  | none => ∀ port, inst.Foreign port → port < count →
      inst.systemPriority.rootSystemIdentity ≤ (inst.ports port).portPriority.rootSystemIdentity
  | some best => best < count ∧ inst.Foreign best ∧
      (inst.ports best).portPriority.rootSystemIdentity < inst.systemPriority.rootSystemIdentity ∧
      ∀ port, inst.Foreign port → port < count →
        (inst.ports best).portPriority.rootSystemIdentity ≤ (inst.ports port).portPriority.rootSystemIdentity ∧
        (port < best →
          (inst.ports best).portPriority.rootSystemIdentity < (inst.ports port).portPriority.rootSystemIdentity)

variable {best : Option Nat}

theorem betterVector_better {port : Nat} (foreign : inst.Foreign port)
    (better : (inst.ports port).portPriority.rootSystemIdentity < (inst.bestVectorOf best).rootSystemIdentity) :
    inst.betterVector best port = some port := by
  have compared : compareSystemIdentity (inst.bestVectorOf best) (inst.gmPathPriority port) = .bBetter :=
    (compareSystemIdentity_bBetter _ _).mpr better
  unfold betterVector
  rw [if_pos foreign.2.1,if_pos (show (inst.gmPathPriority port).rootSystemIdentity.clockIdentity ≠ _ from
    foreign.2.2),if_pos compared]

theorem betterVector_keeps {port : Nat} (worse : inst.Foreign port →
      (inst.bestVectorOf best).rootSystemIdentity ≤ (inst.ports port).portPriority.rootSystemIdentity)
    (inside : port < inst.numberPorts) : inst.betterVector best port = best := by
  unfold betterVector
  split
  next received =>
    split
    next other =>
      rw [if_neg]
      intro better
      exact absurd (worse ⟨inside,received,other⟩) (not_le.mpr ((compareSystemIdentity_bBetter _ _).mp better))
    · rfl
  · rfl

theorem BestAmong.step {count : Nat} (among : inst.BestAmong count best)
    (inside : count < inst.numberPorts) : inst.BestAmong (count + 1) (inst.betterVector best count) := by
  by_cases better : inst.Foreign count ∧
      (inst.ports count).portPriority.rootSystemIdentity < (inst.bestVectorOf best).rootSystemIdentity
  · obtain ⟨foreign,better⟩ := better
    rw [betterVector_better foreign better]
    cases best with
    | none =>
      refine ⟨Nat.lt_succ_self _,foreign,better,?_⟩
      intro port other below
      rcases Nat.lt_or_ge port count with earlier | same
      · have system := among port other earlier
        exact ⟨(lt_of_lt_of_le better system).le,fun _ => lt_of_lt_of_le better system⟩
      · have same : port = count := by omega
        subst same
        exact ⟨le_rfl,fun less => absurd less (Nat.lt_irrefl _)⟩
    | some best =>
      obtain ⟨_,_,beats,least⟩ := among
      refine ⟨Nat.lt_succ_self _,foreign,better.trans beats,?_⟩
      intro port other below
      rcases Nat.lt_or_ge port count with earlier | same
      · have order := lt_of_lt_of_le better (least port other earlier).1
        exact ⟨order.le,fun _ => order⟩
      · have same : port = count := by omega
        subst same
        exact ⟨le_rfl,fun less => absurd less (Nat.lt_irrefl _)⟩
  · have worse : inst.Foreign count →
        (inst.bestVectorOf best).rootSystemIdentity ≤ (inst.ports count).portPriority.rootSystemIdentity :=
      fun foreign => not_lt.mp fun less => better ⟨foreign,less⟩
    rw [betterVector_keeps worse inside]
    cases best with
    | none =>
      intro port other below
      rcases Nat.lt_or_ge port count with earlier | same
      · exact among port other earlier
      · have same : port = count := by omega
        subst same
        exact worse other
    | some best =>
      obtain ⟨before,foreign,beats,least⟩ := among
      refine ⟨Nat.lt_succ_of_lt before,foreign,beats,?_⟩
      intro port other below
      rcases Nat.lt_or_ge port count with earlier | same
      · exact least port other earlier
      · have same : port = count := by omega
        subst same
        exact ⟨worse other,fun earlier => absurd earlier (Nat.lt_asymm before)⟩

theorem bestAmong_range {count : Nat} (inside : count ≤ inst.numberPorts) :
    inst.BestAmong count ((List.range count).foldl inst.betterVector none) := by
  induction count with
  | zero => exact fun _ _ below => absurd below (Nat.not_lt_zero _)
  | succ count ih =>
    rw [List.range_succ,List.foldl_append]
    exact (ih (Nat.le_of_succ_le inside)).step inside

theorem bestVectorPort_some {best : Nat} : inst.bestVectorPort = some best ↔ inst.LeadsFirst best := by
  have among : inst.BestAmong inst.numberPorts inst.bestVectorPort := bestAmong_range le_rfl
  constructor
  · intro found
    rw [found] at among
    obtain ⟨_,foreign,beats,least⟩ := among
    refine ⟨⟨foreign,beats,fun other relevant => (least other relevant relevant.1).1⟩,?_⟩
    intro other earlier leads
    have order := (least other leads.1 leads.1.1).2 earlier
    exact absurd (leads.2.2 best foreign) (not_le.mpr order)
  · intro first
    cases found : inst.bestVectorPort with
    | none =>
      rw [found] at among
      exact absurd (among best first.1.1 first.1.1.1) (not_le.mpr first.1.2.1)
    | some port =>
      rw [found] at among
      obtain ⟨_,foreign,beats,least⟩ := among
      have leads : inst.Leads port :=
        ⟨foreign,beats,fun other relevant => (least other relevant relevant.1).1⟩
      rcases Nat.lt_trichotomy port best with earlier | rfl | later
      · exact absurd leads (first.2 port earlier)
      · rfl
      · have order := (least best first.1.1 first.1.1.1).2 later
        exact absurd (first.1.2.2 port foreign) (not_le.mpr order)

theorem bestVectorPort_none : inst.bestVectorPort = none ↔ ∀ port, ¬ inst.Leads port := by
  constructor
  · intro found port leads
    have among : inst.BestAmong inst.numberPorts inst.bestVectorPort := bestAmong_range le_rfl
    rw [found] at among
    exact absurd (among port leads.1 leads.1.1) (not_le.mpr leads.2.1)
  · intro alone
    cases found : inst.bestVectorPort with
    | none => rfl
    | some port => exact absurd (bestVectorPort_some.mp found).1 (alone port)

theorem bestGmPriority_some {best : Nat} (found : inst.bestVectorPort = some best) :
    inst.bestGmPriority = inst.gmPathPriority best := by
  unfold bestGmPriority
  rw [found]
  rfl

theorem bestGmPriority_none (found : inst.bestVectorPort = none) : inst.bestGmPriority = inst.systemPriority := by
  have source : inst.systemPriority.sourcePortIdentity = ⟨inst.thisClock,0⟩ := inst.system.source_this
  have steps : inst.systemPriority.stepsRemoved = 0 := inst.system.steps_zero
  have number : inst.systemPriority.portNumber = 0 := inst.system.port_zero
  unfold bestGmPriority
  generalize inst.systemPriority = vector at source steps number
  obtain ⟨_,_,⟨_,_⟩,_⟩ := vector
  simp_all

theorem bestGmPriority_this :
    inst.bestGmPriority.rootSystemIdentity.clockIdentity = inst.thisClock ↔ inst.bestVectorPort = none := by
  constructor
  · intro same
    cases found : inst.bestVectorPort with
    | none => rfl
    | some best =>
      rw [bestGmPriority_some found] at same
      exact absurd same (bestVectorPort_some.mp found).1.1.2.2
  · intro found
    rw [bestGmPriority_none found]
    exact inst.system.root_this

end BestVector

section Result
variable (inst : GptpInstance)

/-- Two instances that differ at most in the path trace, the grandmaster flag and what is sent. -/
def SameSelection (first second : GptpInstance) : Prop :=
  second = {first with
    isGrandmaster := second.isGrandmaster
    pathTrace := second.pathTrace
    numPtlv := second.numPtlv
    gmInfoVector := second.gmInfoVector
    outputs := second.outputs}

theorem SameSelection.trans {first second third : GptpInstance} (left : first.SameSelection second)
    (right : second.SameSelection third) : first.SameSelection third := by
  rw [left] at right
  exact right

private theorem sameSelection_ite {first second third : GptpInstance} {p : Prop} [Decidable p]
    (left : first.SameSelection second) (right : first.SameSelection third) :
    first.SameSelection (if p then second else third) := by
  split
  · exact left
  · exact right

theorem updtPathTrace_sameSelection : inst.SameSelection inst.updtPathTrace := sameSelection_ite rfl rfl

theorem gptpIpcGmStatus_sameSelection : inst.SameSelection inst.gptpIpcGmStatus := sameSelection_ite rfl rfl

theorem gptpGmIndication_sameSelection (vector : PriorityVector) :
    inst.SameSelection (inst.gptpGmIndication vector) := by
  refine sameSelection_ite rfl ?_
  have changed : inst.SameSelection {inst with gmInfoVector := vector} := rfl
  exact changed.trans ((gptpIpcGmStatus_sameSelection _).trans rfl)

theorem notifyGrandmaster_sameSelection (previous : Bool) (best : PriorityVector) :
    inst.SameSelection (inst.notifyGrandmaster previous best) := by
  have told : inst.SameSelection (if inst.isGrandmaster = previous then inst
      else inst.emit (.systemRoleChange inst.isGrandmaster)) := sameSelection_ite rfl rfl
  exact told.trans (sameSelection_ite (gptpGmIndication_sameSelection _ _) rfl)

theorem updtRolesTree_sameSelection :
    inst.updtGmPriority.updtPortRoles.updtPseudoPort.SameSelection inst.updtRolesTree :=
  (updtPathTrace_sameSelection _).trans (notifyGrandmaster_sameSelection _ _ _)

theorem updtRolesTree_gmPriority : inst.updtRolesTree.gmPriority = inst.bestGmPriority := by
  rw [updtRolesTree_sameSelection inst]
  rfl

def mastered (port : Nat) : GptpPort :=
  {inst.ports port with masterPriority := inst.updtGmPriority.masterPriorityVector port}

theorem updtRolesTree_ports {port : Nat} (inside : port < inst.numberPorts) :
    inst.updtRolesTree.ports port =
      {inst.mastered port with updtInfo := (inst.updtGmPriority.assignRole (inst.mastered port)).2} := by
  rw [updtRolesTree_sameSelection inst]
  exact if_pos inside

theorem updtRolesTree_role {port : Nat} (inside : port < inst.numberPorts) :
    inst.updtRolesTree.selectedRole (port + 1) = (inst.updtGmPriority.assignRole (inst.mastered port)).1 := by
  rw [updtRolesTree_sameSelection inst]
  exact if_pos ⟨Nat.succ_pos port,inside⟩

theorem assignRole_slave (port : GptpPort) :
    (inst.assignRole port).1 = .slavePort ↔ port.infoIs = .received ∧
      inst.gmPriority.rootSystemIdentity.clockIdentity = port.portPriority.rootSystemIdentity.clockIdentity := by
  unfold assignRole
  simp only [compareClockIdentity_eq]
  cases info : port.infoIs with
  | disabled | aged | mine => simp
  | received =>
    by_cases same : inst.gmPriority.rootSystemIdentity.clockIdentity =
        port.portPriority.rootSystemIdentity.clockIdentity
    · simp [same]
    · simp only [same,if_false,and_false,iff_false]
      split <;> simp

theorem updtRolesTree_slave {port : Nat} (inside : port < inst.numberPorts) :
    inst.updtRolesTree.selectedRole (port + 1) = .slavePort ↔ (inst.ports port).infoIs = .received ∧
      inst.bestGmPriority.rootSystemIdentity.clockIdentity =
        (inst.ports port).portPriority.rootSystemIdentity.clockIdentity := by
  rw [updtRolesTree_role inst inside]
  exact assignRole_slave _ _

theorem updtRolesTree_pseudoPort :
    inst.updtRolesTree.selectedRole 0 = .slavePort ↔
      ∀ port, port < inst.numberPorts → inst.updtRolesTree.selectedRole (port + 1) ≠ .slavePort := by
  rw [updtRolesTree_sameSelection inst]
  unfold updtPseudoPort
  simp only [Function.update_self,Function.update_of_ne (Nat.succ_ne_zero _)]
  split
  next some =>
    obtain ⟨port,inside,slave⟩ := List.any_eq_true.mp some
    have inside := List.mem_range.mp inside
    simp only [reduceCtorEq,false_iff,not_forall]
    exact ⟨port,inside,not_not.mpr (of_decide_eq_true slave)⟩
  next none =>
    simp only [true_iff]
    intro port inside slave
    exact none (List.any_eq_true.mpr ⟨port,List.mem_range.mpr inside,decide_eq_true slave⟩)

theorem updtRolesTree_assigned {port : Nat} (inside : port < inst.numberPorts)
    (enabled : (inst.ports port).infoIs ≠ .disabled) :
    inst.updtRolesTree.selectedRole (port + 1) ≠ .disabledPort := by
  rw [updtRolesTree_role inst inside]
  have info : (inst.mastered port).infoIs ≠ .disabled := enabled
  unfold assignRole
  cases kind : (inst.mastered port).infoIs with
  | disabled => exact absurd kind info
  | aged | mine => simp
  | received =>
    dsimp only
    split
    · simp
    · split <;> simp

end Result

end GptpInstance

end Genavb.Gptp
