import Genavb.Gptp.Begin

/-! The `master_steps_removed` that is advertised, over whole runs: when it is that of the
adopted grandmaster path. -/
namespace Genavb.Gptp
open Support PortInfo

namespace GptpInstance

section Advertised

/-- Zero for the grandmaster itself, and otherwise one more than in the Announce message adopted
on the slave port whose path is the grandmaster vector. -/
structure StepsAdvertised (inst : GptpInstance) : Prop where
  grandmaster : inst.gmPriority.rootSystemIdentity.clockIdentity = inst.thisClock → inst.masterStepsRemoved = 0
  slave : inst.gmPriority.rootSystemIdentity.clockIdentity ≠ inst.thisClock →
    ∃ port announce, port < inst.numberPorts ∧ inst.role port = .slavePort ∧
      inst.gmPriority = inst.gmPathPriority port ∧ (inst.ports port).adopted = some announce ∧
      (inst.ports port).portPriority = messageVector port announce ∧
      inst.masterStepsRemoved.toNat = announce.stepsRemoved.toNat + 1

def Adopts (inst : GptpInstance) (port : Nat) (announce : AnnouncePdu) (fits : Bool) : Prop :=
  inst.Reselecting (.announce port announce fits)

instance (inst : GptpInstance) (port : Nat) (announce : AnnouncePdu) (fits : Bool) :
    Decidable (inst.Adopts port announce fits) := inferInstanceAs (Decidable ((_ ∧ _) ∧ _))

/-- A message that is processed but not adopted is as many steps away as the received
information of its port. -/
def StepsKept (inst : GptpInstance) : GptpInput → Prop
  | .announce port announce fits => fits = true → inst.Accepts port announce → ¬ inst.Adopts port announce fits →
    (inst.ports port).infoIs = .received → announce.stepsRemoved = (inst.ports port).portPriority.stepsRemoved
  | _ => True

/-- The stored steps of received information are those of its vector. -/
def MessageKept (inst : GptpInstance) : Prop :=
  ∀ port, port < inst.numberPorts → (inst.ports port).infoIs = .received →
    (inst.ports port).messageStepsRemoved = (inst.ports port).portPriority.stepsRemoved

variable {inst first second : GptpInstance} {port : Nat}

variable {value other : GptpPort}

section
variable (same : value.info = other.info)
include same

theorem info_infoIs : value.infoIs = other.infoIs := by
  have part := congrArg infoIs same
  exact part

theorem info_portPriority : value.portPriority = other.portPriority := by
  have part := congrArg portPriority same
  exact part

theorem info_messageStepsRemoved : value.messageStepsRemoved = other.messageStepsRemoved := by
  have part := congrArg messageStepsRemoved same
  exact part

theorem info_adopted : value.adopted = other.adopted := by
  have part := congrArg adopted same
  exact part

theorem info_capable : value.capable = other.capable := by
  have part := congrArg capable same
  exact part

end

theorem SameState.numberPorts (same : first.SameState second) : second.numberPorts = first.numberPorts :=
  congrArg GptpConfig.numberPorts same.config

theorem SameState.thisClock (same : first.SameState second) : second.thisClock = first.thisClock :=
  congrArg SystemParams.thisClock same.system

theorem MessageKept.sameState (kept : first.MessageKept) (same : first.SameState second) : second.MessageKept := by
  intro port inside received
  rw [info_messageStepsRemoved (same.info port),info_portPriority (same.info port)]
  rw [info_infoIs (same.info port)] at received
  rw [same.numberPorts] at inside
  exact kept port inside received

theorem MessageKept.selects (kept : first.MessageKept) (selects : first.Selects second) : second.MessageKept := by
  intro port inside received
  rw [selects.numberPorts] at inside
  obtain ⟨before,vector⟩ := selects.received inside received
  rw [selects.messageStepsRemoved inside,vector]
  exact kept port inside before

theorem MessageKept.setPort (kept : inst.MessageKept)
    (here : value.infoIs = .received → value.messageStepsRemoved = value.portPriority.stepsRemoved) :
    (inst.setPort port value).MessageKept := by
  intro other inside
  by_cases same : other = port
  · subst same
    rw [setPort_same]
    exact here
  · rw [setPort_other same]
    exact kept other inside

theorem reopened_kept {old : GptpPort}
    (here : value.infoIs = .received → value.messageStepsRemoved = value.portPriority.stepsRemoved) :
    (reopened value old).infoIs = .received →
      (reopened value old).messageStepsRemoved = (reopened value old).portPriority.stepsRemoved := by
  unfold reopened
  split
  · exact here
  · split
    · intro received
      exact absurd received (by simp [ageing])
    · intro received
      exact absurd received (by simp [closed])

theorem noted_messageKept {announce : AnnouncePdu} (kept : inst.MessageKept) :
    (inst.noted port announce).MessageKept := by
  unfold MessageKept numberPorts
  rw [noted_ports,noted_config]
  exact kept

theorem MessageKept.heeded {input : GptpInput} (kept : inst.MessageKept) (allowed : inst.StepsKept input) :
    (inst.heeded input).MessageKept := by
  have aged : ∀ port, (inst.setPort port (ageing (inst.ports port))).MessageKept := by
    intro port
    apply kept.setPort
    intro received
    exact absurd received (by simp [ageing])
  cases input with
  | announce port announce fits =>
    unfold GptpInstance.heeded
    dsimp only
    split
    next accepts =>
      apply (noted_messageKept kept).setPort
      unfold judged
      split
      · exact fun _ => rfl
      next worse =>
        intro received
        exact allowed accepts.1 accepts.2 (fun adopts => worse adopts.2) received
    · exact kept
  | announceTimeout port | syncTimeout port =>
    unfold GptpInstance.heeded
    dsimp only
    split
    · exact aged port
    · exact kept
  | transmitTimer | priority1 | priority2 => exact kept
  | linkStatus port | asCapable port =>
    unfold GptpInstance.heeded
    dsimp only
    split
    next inside => exact kept.setPort (reopened_kept (kept port inside))
    · exact kept

theorem Selects.stepsAdvertised (selects : first.Selects second) (kept : first.MessageKept)
    (stored : ∀ port, port < second.numberPorts → Stored port (second.ports port)) : second.StepsAdvertised := by
  have thisClock : second.thisClock = first.thisClock := congrArg SystemParams.thisClock selects.system
  have steps := selects.masterStepsRemoved
  cases found : first.bestVectorPort with
  | none =>
    rw [found] at steps
    refine ⟨fun _ => steps,?_⟩
    intro other
    rw [selects.gmPriority,thisClock] at other
    exact absurd (bestGmPriority_this.mpr found) other
  | some best =>
    rw [found] at steps
    have leads := (bestVectorPort_some.mp found).1
    have inside : best < second.numberPorts := by
      rw [selects.numberPorts]
      exact leads.1.1
    refine ⟨?_,?_⟩
    · intro own
      rw [selects.gmPriority,thisClock,bestGmPriority_this,found] at own
      exact absurd own (by simp)
    · intro _
      have path := bestGmPriority_some found
      obtain ⟨slave,received,vector⟩ := selects.slave leads.1.1 leads.1.2.1 (by rw [path]; rfl)
      obtain ⟨announce,adopted,message,near⟩ := stored best inside received
      refine ⟨best,announce,inside,slave,?_,adopted,message,?_⟩
      · rw [selects.gmPriority,path]
        unfold gmPathPriority
        rw [vector]
      · have heard : (first.ports best).messageStepsRemoved = announce.stepsRemoved := by
          rw [kept best leads.1.1 leads.1.2.1,← vector,message]
          rfl
        have small := UInt16.lt_iff_toNat_lt.mp near
        rw [steps]
        dsimp only
        rw [heard,UInt16.toNat_add]
        simp only [UInt16.reduceToNat] at small ⊢
        omega

structure SameSteps (first second : GptpInstance) : Prop where
  config : second.config = first.config
  thisClock : second.thisClock = first.thisClock
  gmPriority : second.gmPriority = first.gmPriority
  masterStepsRemoved : second.masterStepsRemoved = first.masterStepsRemoved
  selectedRole : second.selectedRole = first.selectedRole
  portStateSmState : second.portStateSmState = first.portStateSmState
  portPriority : ∀ port, (second.ports port).portPriority = (first.ports port).portPriority
  adopted : ∀ port, (second.ports port).adopted = (first.ports port).adopted

theorem SameSteps.refl (inst : GptpInstance) : inst.SameSteps inst :=
  ⟨rfl,rfl,rfl,rfl,rfl,rfl,fun _ => rfl,fun _ => rfl⟩

theorem SameState.sameSteps (same : first.SameState second) : first.SameSteps second :=
  {same with
    thisClock := same.thisClock
    portPriority := fun port => info_portPriority (same.info port)
    adopted := fun port => info_adopted (same.info port)}

theorem SameSteps.trans {third : GptpInstance} (left : first.SameSteps second) (right : second.SameSteps third) :
    first.SameSteps third :=
  ⟨right.config.trans left.config,right.thisClock.trans left.thisClock,right.gmPriority.trans left.gmPriority,
    right.masterStepsRemoved.trans left.masterStepsRemoved,right.selectedRole.trans left.selectedRole,
    right.portStateSmState.trans left.portStateSmState,
    fun port => (right.portPriority port).trans (left.portPriority port),
    fun port => (right.adopted port).trans (left.adopted port)⟩

theorem StepsAdvertised.sameSteps (advertised : first.StepsAdvertised) (same : first.SameSteps second) :
    second.StepsAdvertised := by
  obtain ⟨grandmaster,slave⟩ := advertised
  constructor
  · rw [same.gmPriority,same.thisClock,same.masterStepsRemoved]
    exact grandmaster
  · rw [same.gmPriority,same.thisClock,same.masterStepsRemoved]
    intro other
    obtain ⟨port,announce,inside,role,path,adopted,vector,steps⟩ := slave other
    refine ⟨port,announce,?_,?_,?_,?_,?_,steps⟩
    · unfold numberPorts
      rw [same.config]
      exact inside
    · unfold GptpInstance.role
      rw [same.selectedRole]
      exact role
    · unfold gmPathPriority
      rw [same.portPriority]
      exact path
    · rw [same.adopted]
      exact adopted
    · rw [same.portPriority]
      exact vector

private theorem sameSteps_setPort (vector : value.portPriority = (inst.ports port).portPriority)
    (adopted : value.adopted = (inst.ports port).adopted) : inst.SameSteps (inst.setPort port value) := by
  refine ⟨rfl,rfl,rfl,rfl,rfl,rfl,?_,?_⟩
  · intro other
    by_cases here : other = port
    · subst here
      rw [setPort_same,vector]
    · rw [setPort_other here]
  · intro other
    by_cases here : other = port
    · subst here
      rw [setPort_same,adopted]
    · rw [setPort_other here]

theorem noted_sameSteps {announce : AnnouncePdu} : inst.SameSteps (inst.noted port announce) := by
  rw [noted_same]
  exact ⟨rfl,rfl,rfl,rfl,rfl,rfl,fun _ => rfl,fun _ => rfl⟩

theorem heeded_sameSteps {input : GptpInput} (quiet : ¬ inst.Reselecting input) :
    inst.SameSteps (inst.heeded input) := by
  cases input with
  | announce port announce fits =>
    unfold GptpInstance.heeded
    dsimp only
    split
    next accepts =>
      have worse : ¬ Superior port (inst.ports port) announce := fun better => quiet ⟨accepts,better⟩
      have noted : inst.SameSteps (inst.noted port announce) := noted_sameSteps
      refine noted.trans (sameSteps_setPort ?_ ?_)
      · unfold judged
        rw [if_neg worse,noted_ports]
        rfl
      · unfold judged
        rw [if_neg worse,noted_ports]
        rfl
    · exact .refl inst
  | announceTimeout port =>
    have heeded : inst.heeded (.announceTimeout port) = inst := if_neg quiet
    rw [heeded]
    exact .refl inst
  | syncTimeout port =>
    have heeded : inst.heeded (.syncTimeout port) = inst := if_neg quiet
    rw [heeded]
    exact .refl inst
  | transmitTimer port => exact .refl inst
  | linkStatus | asCapable =>
    unfold GptpInstance.heeded
    dsimp only
    split
    next inside =>
      have unchanged := not_not.mp fun change => quiet ⟨inside,change⟩
      unfold reopened
      rw [if_pos unchanged]
      exact sameSteps_setPort rfl rfl
    · exact .refl inst
  | priority1 | priority2 => exact ⟨rfl,rfl,rfl,rfl,rfl,rfl,fun _ => rfl,fun _ => rfl⟩

end Advertised

section Runs
variable {inst : GptpInstance}

/-- What every step of a run keeps when the stored steps stay in line with the vectors. -/
structure StepsInvariant (inst : GptpInstance) : Prop where
  rest : inst.Rest
  kept : inst.MessageKept
  advertised : inst.portStateSmState = .selection → inst.StepsAdvertised

theorem StepsInvariant.step {input : GptpInput} (invariant : inst.StepsInvariant) (allowed : inst.StepsKept input) :
    (gptpStep input inst).StepsInvariant := by
  have outcome := gptpStep_outcome input invariant.rest
  have heeded := invariant.kept.heeded allowed
  by_cases due : inst.Reselecting input
  · obtain ⟨first,middle,same,selects,after⟩ := outcome.selected due
    have kept := heeded.sameState same
    have stored : ∀ port, port < middle.numberPorts → Stored port (middle.ports port) := by
      intro port inside
      have info := after.info port
      unfold Stored
      rw [← info_infoIs info,← info_adopted info,← info_portPriority info]
      exact (outcome.rest.ports port (by rw [after.numberPorts]; exact inside)).stored
    refine ⟨outcome.rest,(kept.selects selects).sameState after,fun _ => ?_⟩
    exact (selects.stepsAdvertised kept stored).sameSteps after.sameSteps
  · have after := outcome.kept due
    have same := (heeded_sameSteps due).trans after.sameSteps
    refine ⟨outcome.rest,heeded.sameState after,?_⟩
    intro selection
    rw [same.portStateSmState] at selection
    exact (invariant.advertised selection).sameSteps same

theorem masterStepsRemoved_unadopted {port : Nat} {announce : AnnouncePdu} {fits : Bool} (rest : inst.Rest)
    (passed : ¬ inst.Adopts port announce fits) :
    (gptpStep (.announce port announce fits) inst).masterStepsRemoved = inst.masterStepsRemoved := by
  have after := (gptpStep_outcome _ rest).kept passed
  exact ((heeded_sameSteps passed).trans after.sameSteps).masterStepsRemoved

/-- What the run has advertised is right, and no message that is passed over changes it. -/
def StepsFollow (inst : GptpInstance) : Prop :=
  (inst.portStateSmState = .selection → inst.StepsAdvertised) ∧
  ∀ port announce fits, ¬ inst.Adopts port announce fits →
    (gptpStep (.announce port announce fits) inst).masterStepsRemoved = inst.masterStepsRemoved

theorem gptpStep_idle (input : GptpInput)
    (idle : inst.config.automotive = true ∨ inst.config.instanceEnable = false) :
    (gptpStep input inst).config = inst.config ∧ (gptpStep input inst).outputs = inst.outputs ∧
      (gptpStep input inst).portStateSmState = inst.portStateSmState := by
  rcases idle with automotive | off
  · exact gptpStep_automotive input automotive
  · unfold gptpStep
    rw [off]
    exact ⟨rfl,rfl,rfl⟩

theorem gptpStep_idle_announce (port : Nat) (announce : AnnouncePdu) (fits : Bool)
    (idle : inst.config.automotive = true ∨ inst.config.instanceEnable = false) :
    (gptpStep (.announce port announce fits) inst).masterStepsRemoved = inst.masterStepsRemoved := by
  unfold gptpStep
  rcases idle with automotive | off
  · have handled : inst.gptpHandleAnnounce port announce fits = inst := if_pos (by rw [automotive]; rfl)
    dsimp only
    rw [handled,ite_self,ite_self]
  · rw [off]
    rfl

/-- The advertised steps are those of the adopted path in every state of every run in which
each message that is passed over is as far away as what its port has received. -/
theorem stepsRemoved_follow (config : GptpConfig) (system : SystemParams) (sysProperties : TimeProperties)
    (enabled : Nat → Bool) (inputs : List GptpInput)
    (steps : Steps gptpStep StepsKept inputs (gptpInstanceInit config system sysProperties enabled)) :
    (run gptpStep inputs (gptpInstanceInit config system sysProperties enabled)).StepsFollow := by
  by_cases idle : config.automotive = true ∨ config.instanceEnable = false
  · have start : (gptpInstanceInit config system sysProperties enabled).config = config ∧
        (gptpInstanceInit config system sysProperties enabled).portStateSmState = .initBridge :=
      ⟨gptpInstanceInit_config ..,gptpInstanceInit_bridge ..⟩
    have bridge := run_invariant gptpStep
      (fun inst input (same : inst.config = config ∧ inst.portStateSmState = .initBridge) _ =>
        have still := gptpStep_idle input (same.1.symm ▸ idle)
        ⟨still.1.trans same.1,still.2.2.trans same.2⟩) start steps
    refine ⟨?_,?_⟩
    · intro selection
      rw [bridge.2] at selection
      exact absurd selection (by decide)
    · intro port announce fits _
      exact gptpStep_idle_announce port announce fits (bridge.1.symm ▸ idle)
  · obtain ⟨standard,runs⟩ := not_or.mp idle
    have rest := gptpInstanceInit_rest config system sysProperties enabled (Bool.eq_false_iff.mpr standard)
      (Bool.eq_true_of_not_eq_false runs)
    have start : (gptpInstanceInit config system sysProperties enabled).StepsInvariant := by
      refine ⟨rest,?_,?_⟩
      · intro port inside received
        rw [numberPorts,gptpInstanceInit_config] at inside
        rw [gptpInstanceInit_disabled _ _ _ _ (Bool.eq_false_iff.mpr standard) inside] at received
        exact absurd received (by decide)
      · rw [gptpInstanceInit_bridge]
        exact fun selection => absurd selection (by decide)
    have invariant := run_invariant gptpStep (fun _ _ invariant allowed => StepsInvariant.step invariant allowed) start steps
    exact ⟨invariant.advertised,fun _ _ _ passed => masterStepsRemoved_unadopted invariant.rest passed⟩

def announceOne (steps : UInt16) (source : ClockIdentity) : AnnouncePdu :=
  ⟨⟨source,1⟩,.zero,100,⟨248,254,100⟩,248,1,steps,8,8,.replicate _ 1⟩

def twoPorts : GptpInstance :=
  gptpInstanceInit ⟨false,0,true,false,2,twoPorts_bound,rfl⟩ (.priorityVectorUpdate 9 true 246 ⟨248,254,100⟩ 248) .zero
    fun _ => true

def longerPath : List GptpInput :=
  [.linkStatus 0 true,.linkStatus 1 true,.asCapable 0 true,.asCapable 1 true,.announce 0 (announceOne 0 1) true,
    .announce 0 (announceOne 3 2) true,.asCapable 1 false]

theorem longerPath_steps : ¬ (run gptpStep longerPath twoPorts).StepsFollow := by
  intro follow
  have advertised := follow.1 (by decide +kernel)
  obtain ⟨port,announce,inside,_,_,adopted,_,steps⟩ := advertised.slave (by decide +kernel)
  have sent : (run gptpStep longerPath twoPorts).masterStepsRemoved = 4 := by decide +kernel
  have first : ((run gptpStep longerPath twoPorts).ports 0).adopted = some (announceOne 0 1) := by decide +kernel
  have second : ((run gptpStep longerPath twoPorts).ports 1).adopted = none := by decide +kernel
  rw [show numberPorts _ = 2 by decide +kernel] at inside
  match port,inside with
  | 0,_ =>
    rw [sent,← Option.some.inj (first.symm.trans adopted)] at steps
    exact absurd steps (by decide)
  | 1,_ => exact absurd (second.symm.trans adopted) (by simp)

/-- The bridge follows a grandmaster whose messages keep their distance. -/
theorem steadyPath_steps : (run gptpStep [.linkStatus 0 true,.asCapable 0 true,.announce 0 (announceOne 2 1) true,
    .announce 0 (announceOne 2 1) true] twoPorts).StepsFollow := by
  apply stepsRemoved_follow
  refine ⟨trivial,trivial,?_,?_,trivial⟩
  · intro _ _ passed
    exact absurd (by decide +kernel) passed
  · intro _ _ _ _
    decide +kernel

end Runs

end GptpInstance

end Genavb.Gptp
