import Genavb.Gptp.Settle

/-! The outcome of a port state selection: the roles of `updt_roles_tree`, with every port at
rest afterwards. -/
namespace Genavb.Gptp
open Support

def GptpPort.base (port : GptpPort) : GptpPort :=
  {port.core with
    portPriority := .zero
    masterPriority := .zero
    portStepsRemoved := 0
    updtInfo := false
    infoIs := .mine
    announceInfoState := .current}

namespace GptpInstance

section Outcome

/-- No announce is pending at the port and nothing but an ageing has begun. -/
structure Ready (port : GptpPort) : Prop where
  noMessage : port.rcvdMsg = false
  disabled : port.capable = false →
    port.announceInfoState = .disabled ∧ port.infoIs = .disabled ∧ port.updtInfo = false
  enabled : port.capable = true → port.announceInfoState ≠ .disabled ∧ port.infoIs ≠ .disabled
  aged : port.announceInfoState = .aged → port.infoIs = .aged

def cleared (inst : GptpInstance) : GptpInstance := {inst with reselect := 0}

def chosen (inst : GptpInstance) : GptpInstance :=
  {inst.cleared.updtRolesTree with selected := BitVec.allOnes 16}

structure Selects (first second : GptpInstance) : Prop where
  globals : second = {first.chosen with
    ports := second.ports
    outputs := second.outputs
    portStateSmState := .selection}
  ports : ∀ port, port < first.numberPorts →
    (second.ports port).core = (first.chosen.settled (first.chosen.ports port)).core
  announces : first.chosen.OnlyAnnounces second

variable {inst : GptpInstance} {port : Nat}

private theorem chosen_selection :
    inst.cleared.updtGmPriority.updtPortRoles.updtPseudoPort.SameSelection
      inst.cleared.updtRolesTree := updtRolesTree_sameSelection _

theorem chosen_ports (inside : port < inst.numberPorts) :
    inst.chosen.ports port = {inst.cleared.mastered port with
      updtInfo := (inst.cleared.updtGmPriority.assignRole
        (inst.cleared.mastered port)).2} :=
  updtRolesTree_ports _ inside

theorem chosen_capable (inside : port < inst.numberPorts) :
    (inst.chosen.ports port).capable = (inst.ports port).capable := by
  rw [chosen_ports inside]
  rfl

theorem chosen_config : inst.chosen.config = inst.config := by
  change inst.cleared.updtRolesTree.config = _
  rw [chosen_selection]
  rfl

theorem chosen_role_outside (beyond : inst.numberPorts ≤ port) : inst.chosen.role port = inst.role port := by
  change inst.cleared.updtRolesTree.selectedRole (port + 1) = _
  rw [chosen_selection]
  have kept : ¬ (0 < port + 1 ∧ port + 1 ≤ inst.numberPorts) := fun inside => by omega
  exact if_neg kept

private theorem chosen_running (running : inst.Running) : inst.chosen.Running := by
  have same : inst.cleared.updtGmPriority.updtPortRoles.updtPseudoPort.SameSelection inst.cleared.updtRolesTree :=
    chosen_selection
  constructor
  · change inst.cleared.updtRolesTree.begin = false
    rw [same]
    exact running.notBegin
  · change inst.cleared.updtRolesTree.config.instanceEnable = true
    rw [same]
    exact running.instanceEnable
  · change inst.cleared.updtRolesTree.config.automotive = false
    rw [same]
    exact running.standard
  · intro port beyond
    rw [numberPorts,chosen_config] at beyond
    rw [chosen_role_outside beyond]
    exact running.outside port beyond

theorem assignRole_disabled {value : GptpPort} (disabled : value.infoIs = .disabled) :
    (inst.assignRole value).2 = value.updtInfo := by
  unfold assignRole
  rw [disabled]

theorem assignRole_aged {value : GptpPort} (aged : value.infoIs = .aged) :
    inst.assignRole value = (.masterPort,true) := by
  unfold assignRole
  rw [aged]

theorem chosen_calm (ready : Ready (inst.ports port)) (inside : port < inst.numberPorts) :
    Calm (inst.chosen.ports port) := by
  obtain ⟨noMessage,disabled,enabled,aged⟩ := ready
  rw [chosen_ports inside]
  refine ⟨noMessage,fun off => ⟨(disabled off).1,(disabled off).2.1⟩,enabled,?_⟩
  intro state
  have info : (inst.cleared.mastered port).infoIs = .aged := aged state
  rw [assignRole_aged info]

theorem stateSelection_selects {select : GptpInstance → GptpInstance} (running : inst.Running)
    (ready : ∀ port, port < inst.numberPorts → Ready (inst.ports port)) :
    inst.Selects (inst.stateSelection select) := by
  have config : inst.chosen.numberPorts = inst.numberPorts := congrArg GptpConfig.numberPorts chosen_config
  have settles : SettledTo inst.chosen.numberPorts inst.chosen (inst.chosen.setSelectedTree select) :=
    setSelectedTree_settles (chosen_running running)
      (fun port inside => chosen_calm (ready port (config ▸ inside)) (config ▸ inside))
  have tree : inst.stateSelection select =
      {inst.chosen.setSelectedTree select with portStateSmState := .selection} := rfl
  rw [tree]
  refine ⟨?_,?_,?_⟩
  · have globals := settles.globals
    generalize inst.chosen.setSelectedTree select = final at globals ⊢
    rw [globals]
  · intro port inside
    refine (settles.ports port).trans ?_
    rw [if_pos (config.symm ▸ inside)]
  · exact settles.announces

theorem Selects.reselect {second : GptpInstance} (selects : inst.Selects second) : second.reselected = false := by
  have none : second.reselect = 0 := by
    rw [selects.globals]
    change inst.cleared.updtRolesTree.reselect = 0
    rw [chosen_selection]
    rfl
  unfold reselected
  rw [none,List.any_eq_false]
  intro port _
  simp [maskHas]

theorem portStateSelectionSm_selects {nesting : Nat} (running : inst.Running)
    (ready : ∀ port, port < inst.numberPorts → Ready (inst.ports port)) (due : inst.reselected = true) :
    inst.Selects (inst.portStateSelectionSm (nesting + 1)) := by
  have selects : inst.Selects (inst.stateSelection (portStateSelectionSm nesting)) :=
    stateSelection_selects running ready
  unfold portStateSelectionSm
  simp only [running.standard,running.notBegin,running.instanceEnable,Bool.false_eq_true,if_false,
    Bool.not_true,Bool.or_self]
  cases inst.portStateSmState with
  | selection =>
    simp only [due,if_true]
    exact selects
  | initBridge =>
    simp only [selects.reselect,Bool.false_eq_true,if_false]
    exact selects

theorem requestSelection_due (inside : port < inst.numberPorts) : (inst.requestSelection port).reselected = true := by
  have bound := inst.config.numberPorts_bound
  have within : port + 1 < 16 := Nat.lt_of_le_of_lt (Nat.succ_le_of_lt inside) bound
  refine List.any_eq_true.mpr ⟨port,List.mem_range.mpr inside,?_⟩
  unfold requestSelection
  rw [maskHas_set _ within]
  simp

end Outcome

section Facts
variable {first second : GptpInstance} {port : Nat}

section
variable (selects : first.Selects second)
include selects

theorem Selects.config : second.config = first.config := by
  rw [selects.globals]
  exact chosen_config

theorem Selects.running (running : first.Running) : second.Running := by
  have chosen := chosen_running running
  rw [selects.globals]
  exact {chosen with}

theorem Selects.numberPorts : second.numberPorts = first.numberPorts :=
  congrArg GptpConfig.numberPorts selects.config

theorem Selects.system : second.system = first.system := by
  rw [selects.globals]
  change first.cleared.updtRolesTree.system = _
  rw [chosen_selection]
  rfl

theorem Selects.fault : second.fault = first.fault := by
  rw [selects.globals]
  change first.cleared.updtRolesTree.fault = _
  rw [chosen_selection]
  rfl

theorem Selects.selection : second.portStateSmState = .selection := by
  rw [selects.globals]

end

private theorem base_core (value : GptpPort) : value.core.base = value.base := rfl

theorem base_settled (inst : GptpInstance) (value : GptpPort) : (inst.settled value).base = value.base := by
  unfold settled
  split
  · rfl
  · split <;> rfl

section
variable (selects : first.Selects second)
include selects

section
variable (inside : port < first.numberPorts)
include inside

theorem Selects.base : (second.ports port).base = (first.ports port).base := by
  rw [← base_core,selects.ports port inside,base_core,base_settled,chosen_ports inside]
  rfl

theorem Selects.capable : (second.ports port).capable = (first.ports port).capable := by
  have same := congrArg GptpPort.capable (selects.base inside)
  exact same

theorem Selects.adopted : (second.ports port).adopted = (first.ports port).adopted := by
  have same := congrArg GptpPort.adopted (selects.base inside)
  exact same

theorem Selects.rcvdMsg : (second.ports port).rcvdMsg = (first.ports port).rcvdMsg := by
  have same := congrArg GptpPort.rcvdMsg (selects.base inside)
  exact same

theorem Selects.rcvdAnnouncePar : (second.ports port).rcvdAnnouncePar = (first.ports port).rcvdAnnouncePar := by
  have same := congrArg GptpPort.rcvdAnnouncePar (selects.base inside)
  exact same

theorem Selects.messageStepsRemoved :
    (second.ports port).messageStepsRemoved = (first.ports port).messageStepsRemoved := by
  have same := congrArg GptpPort.messageStepsRemoved (selects.base inside)
  exact same

end

theorem Selects.gmPriority : second.gmPriority = first.bestGmPriority := by
  rw [selects.globals]
  change first.cleared.updtRolesTree.gmPriority = _
  rw [updtRolesTree_gmPriority]
  rfl

theorem Selects.masterStepsRemoved :
    second.masterStepsRemoved = match first.bestVectorPort with
      | some port => (first.ports port).messageStepsRemoved + 1
      | none => 0 := by
  rw [selects.globals]
  change first.cleared.updtRolesTree.masterStepsRemoved = _
  rw [chosen_selection]
  rfl

variable (inside : port < first.numberPorts)
include inside

theorem Selects.role :
    second.role port = (first.cleared.updtGmPriority.assignRole
      (first.cleared.mastered port)).1 := by
  rw [selects.globals]
  exact updtRolesTree_role _ inside

theorem Selects.slave (received : (first.ports port).infoIs = .received)
    (same : first.bestGmPriority.rootSystemIdentity.clockIdentity =
      (first.ports port).portPriority.rootSystemIdentity.clockIdentity) :
    second.role port = .slavePort ∧ (second.ports port).infoIs = .received ∧
      (second.ports port).portPriority = (first.ports port).portPriority := by
  have assigned : first.cleared.updtGmPriority.assignRole
      (first.cleared.mastered port) = (.slavePort,false) := by
    have info : (first.cleared.mastered port).infoIs = .received := received
    unfold assignRole
    simp only [info]
    exact if_pos ((compareClockIdentity_eq _ _).mpr same)
  have core := selects.ports port inside
  have update : (first.chosen.ports port).updtInfo = false := by rw [chosen_ports inside,assigned]
  have kept : (first.chosen.settled (first.chosen.ports port)).infoIs = (first.chosen.ports port).infoIs ∧
      (first.chosen.settled (first.chosen.ports port)).portPriority =
        (first.chosen.ports port).portPriority := by
    unfold settled
    rw [update]
    split
    · exact ⟨rfl,rfl⟩
    · exact ⟨rfl,rfl⟩
  refine ⟨by rw [selects.role inside,assigned],?_,?_⟩
  · have info := congrArg GptpPort.infoIs core
    refine Eq.trans info (Eq.trans kept.1 ?_)
    rw [chosen_ports inside]
    exact received
  · have vector := congrArg GptpPort.portPriority core
    refine Eq.trans vector (Eq.trans kept.2 ?_)
    rw [chosen_ports inside]
    rfl

theorem Selects.received (received : (second.ports port).infoIs = .received) :
    (first.ports port).infoIs = .received ∧
      (second.ports port).portPriority = (first.ports port).portPriority := by
  have core := selects.ports port inside
  have info := congrArg GptpPort.infoIs core
  have vector := congrArg GptpPort.portPriority core
  change (second.ports port).infoIs = (first.chosen.settled (first.chosen.ports port)).infoIs at info
  change (second.ports port).portPriority = (first.chosen.settled (first.chosen.ports port)).portPriority at vector
  rw [received] at info
  have kept : (first.chosen.ports port).infoIs = .received ∧
      (first.chosen.settled (first.chosen.ports port)).portPriority =
        (first.chosen.ports port).portPriority := by
    revert info
    unfold settled
    split
    · exact fun info => ⟨info.symm,rfl⟩
    · split
      · intro info
        exact absurd info (by simp)
      · exact fun info => ⟨info.symm,rfl⟩
  rw [vector,kept.2]
  rw [chosen_ports inside] at kept ⊢
  exact ⟨kept.1,rfl⟩

end

end Facts

end GptpInstance

end Genavb.Gptp
