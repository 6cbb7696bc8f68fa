import Genavb.Gptp.StepsRemoved

/-! The flags that the port state selection leaves: no port asks for a selection and every port is
selected whenever the machines have come to their end. -/
namespace Genavb.Gptp
open Support

namespace GptpInstance

section Machines
variable {config : GptpConfig} {strict : Prop}

structure Begun (config : GptpConfig) (inst : GptpInstance) : Prop where
  same : inst.config = config
  notBegin : inst.begin = false

/-- No request is left and every port is selected, from the first selection on; where `strict`
holds, before it as well. -/
structure Selected (config : GptpConfig) (strict : Prop) (inst : GptpInstance) : Prop where
  begun : Begun config inst
  clear : inst.fault = false → strict ∨ inst.portStateSmState = .selection →
    inst.reselect = 0 ∧ inst.selected = BitVec.allOnes 16

def Selecting (config : GptpConfig) (select : GptpInstance → GptpInstance) : Prop :=
  ∀ inst, Begun config inst → inst.reselected = true → Selected config True (select inst)

variable {inst second : GptpInstance} {port : Nat} {select : GptpInstance → GptpInstance}

theorem Selected.mono (selected : Selected config True inst) : Selected config strict inst :=
  ⟨selected.begun,fun faultless _ => selected.clear faultless (.inl trivial)⟩

theorem Begun.congr (begun : Begun config inst) (same : second.config = inst.config) (off : second.begin = inst.begin) :
    Begun config second := ⟨same.trans begun.same,off.trans begun.notBegin⟩

section
variable (selected : Selected config strict inst)
include selected

theorem Selected.congr (same : second.config = inst.config)
    (off : second.begin = inst.begin) (fault : second.fault = inst.fault)
    (state : second.portStateSmState = inst.portStateSmState) (reselect : second.reselect = inst.reselect)
    (chosen : second.selected = inst.selected) : Selected config strict second := by
  refine ⟨selected.begun.congr same off,?_⟩
  rw [fault,state,reselect,chosen]
  exact selected.clear

theorem Selected.sends (sends : inst.Sends second) : Selected config strict second := by
  have globals := sends.globals
  rw [globals]
  exact selected.congr rfl rfl rfl rfl rfl rfl

theorem Selected.setPort (value : GptpPort) :
    Selected config strict (inst.setPort port value) := selected.congr rfl rfl rfl rfl rfl rfl

end

theorem Begun.faulted (begun : Begun config inst) : Selected config strict inst.faulted :=
  ⟨begun.congr rfl rfl,fun faultless => (nomatch faultless)⟩

section
variable (selecting : Selecting config select)
include selecting

section
variable (begun : Begun config inst)
include begun

variable (inside : port < config.numberPorts)
include inside

theorem Selecting.request
: Selected config strict (select (inst.requestSelection port)) :=
  (selecting (inst.requestSelection port) (begun.congr rfl rfl)
    (requestSelection_due (by rw [numberPorts,begun.same]; exact inside))).mono

theorem Selecting.disabled
: Selected config strict (inst.infoSmDisabled select port) :=
  selecting.request (begun.congr rfl rfl) inside

theorem Selecting.aged : Selected config strict (inst.infoSmAged select port) :=
  selecting.request (begun.congr rfl rfl) inside

theorem Selecting.superior
: Selected config strict (inst.infoSmSuperior select port) :=
  selecting.request (begun.congr rfl rfl) inside

end

theorem Selected.receive (selected : Selected config strict inst)
    (inside : port < config.numberPorts) : Selected config strict (inst.infoSmReceive select port) := by
  unfold infoSmReceive
  dsimp only
  split
  · exact selected.begun.faulted
  · split
    · exact selecting.superior (selected.begun.congr rfl rfl) inside
    · exact selected.congr rfl rfl rfl rfl rfl rfl
    · exact selected.congr rfl rfl rfl rfl rfl rfl

end

theorem Selected.update (selected : Selected config strict inst) : Selected config strict (inst.infoSmUpdate port) := by
  exact (selected.setPort _).sends (portAnnounceTransmitSm_sends .run)

section
variable (selecting : Selecting config select)
include selecting

section
variable (inside : port < config.numberPorts)
include inside

theorem Selected.infoPass (selected : Selected config strict inst) (event : AnnounceInfoEvent) :
    Selected config strict (inst.infoSmPass select port event) := by
  unfold infoSmPass
  split
  · split
    · exact selecting.aged selected.begun inside
    · split
      · exact selecting.disabled selected.begun inside
      · exact selected
  · split
    · exact selecting.aged selected.begun inside
    · split
      · exact selected.receive selecting inside
      · split
        · exact selected.update
        · exact selected
  · split
    · exact selected.update
    · exact selected
  all_goals exact selected.setPort _

theorem Selected.infoLoop (passes : Nat) (event : AnnounceInfoEvent) (selected : Selected config strict inst) :
    Selected config strict (inst.infoSmLoop select port passes event) := by
  induction passes generalizing event inst with
  | zero => exact selected.begun.faulted
  | succ passes ih =>
    unfold infoSmLoop
    dsimp only
    have next := selected.infoPass selecting inside event
    split
    · exact selecting.disabled selected.begun inside
    · split
      · exact next
      · exact ih .run next

theorem Selected.info (selected : Selected config strict inst) (event : AnnounceInfoEvent) :
    Selected config strict (inst.portAnnounceInfoSm select event port) := by
  unfold portAnnounceInfoSm
  split
  · exact selected
  · exact selected.infoLoop selecting inside SM_PASSES event

end

theorem Begun.selectedTree (begun : Begun config inst)
    (clear : inst.reselect = 0) : Selected config True (inst.setSelectedTree select) := by
  unfold setSelectedTree
  have range : ∀ port, port ∈ List.range inst.numberPorts → port < config.numberPorts := by
    intro port member
    rw [numberPorts,begun.same] at member
    exact List.mem_range.mp member
  have start : Selected config True {inst with selected := BitVec.allOnes 16} :=
    ⟨⟨begun.same,begun.notBegin⟩,fun _ _ => ⟨clear,rfl⟩⟩
  generalize List.range inst.numberPorts = indices at range
  generalize ({inst with selected := BitVec.allOnes 16} : GptpInstance) = first at start
  induction indices generalizing first with
  | nil => exact start
  | cons port rest ih =>
    refine ih (fun other member => range other (.tail _ member)) _ ?_
    exact (start.info selecting (range port List.mem_cons_self) .run).sends (portAnnounceTransmitSm_sends .run)

theorem Begun.stateSelection (begun : Begun config inst) : Selected config True (inst.stateSelection select) := by
  have roles := updtRolesTree_sameSelection {inst with reselect := 0}
  have clear : ({inst with reselect := 0} : GptpInstance).updtRolesTree.reselect = 0 := by
    rw [roles]
    rfl
  have chosen : Begun config ({inst with reselect := 0} : GptpInstance).updtRolesTree := by
    constructor
    · rw [roles]
      exact begun.same
    · rw [roles]
      exact begun.notBegin
  have tree := chosen.selectedTree selecting clear
  exact ⟨⟨tree.begun.same,tree.begun.notBegin⟩,fun faultless _ => tree.clear faultless (.inl trivial)⟩

end

theorem portStateSelectionSm_selecting (standard : config.automotive = false) (runs : config.instanceEnable = true)
    (nesting : Nat) : Selecting config (portStateSelectionSm nesting) := by
  induction nesting with
  | zero => exact fun inst begun _ => begun.faulted
  | succ nesting ih =>
    intro inst begun due
    unfold portStateSelectionSm
    dsimp only
    rw [if_neg (by rw [begun.same,standard]; exact Bool.false_ne_true),
      if_neg (by rw [begun.same,begun.notBegin,runs]; exact Bool.false_ne_true)]
    split
    · rw [if_pos due]
      exact begun.stateSelection ih
    · have first := begun.stateSelection ih
      split
      · exact first.begun.stateSelection ih
      · exact first

end Machines

section Steps
variable {config : GptpConfig} {inst : GptpInstance} {port : Nat} {strict : Prop}

theorem Selected.qualify (selected : Selected config strict inst) (announce : AnnouncePdu) :
    Selected config strict (inst.qualifyAnnounce port announce).1 := by
  unfold qualifyAnnounce
  split
  · exact selected
  · split
    · unfold storePathTrace gptpIpcGmStatus
      dsimp only
      split
      · exact selected.congr rfl rfl rfl rfl rfl rfl
      · exact selected.congr rfl rfl rfl rfl rfl rfl
    · exact selected

variable (standard : config.automotive = false) (runs : config.instanceEnable = true)
include standard runs

section
variable (selected : Selected config strict inst)
include selected

section
variable (inside : port < config.numberPorts)
include inside

theorem Selected.infoSm (event : AnnounceInfoEvent) : Selected config strict (inst.infoSm event port) :=
  selected.info (portStateSelectionSm_selecting standard runs SM_NESTING) inside event

theorem Selected.rcvReceive : Selected config strict (inst.rcvSmReceive port) := by
  unfold rcvSmReceive
  split
  · exact selected.begun.faulted
  · exact ((selected.qualify _).setPort _).infoSm standard runs inside .run

theorem Selected.rcvPass : Selected config strict (inst.rcvSmPass port) := by
  unfold rcvSmPass
  split
  · exact selected
  · split
    · exact selected.rcvReceive standard runs inside
    · split
      · exact selected
      · exact selected.rcvReceive standard runs inside

theorem Selected.rcvSm : Selected config strict (inst.portAnnounceRcvSm port) := by
  unfold portAnnounceRcvSm
  have next := selected.rcvPass standard runs inside
  split
  · exact selected
  · split
    · exact selected.setPort _
    · dsimp only
      split
      · exact next
      · exact next.rcvPass standard runs inside

theorem Selected.updateFsm : Selected config strict (inst.gptpAsCapableUpdateFsm port) :=
  (selected.infoSm standard runs inside .run).rcvSm standard runs inside

end

theorem Selected.step (input : GptpInput) : Selected config strict (gptpStep input inst) := by
  have ports : inst.numberPorts = config.numberPorts := congrArg GptpConfig.numberPorts selected.begun.same
  unfold gptpStep
  rw [ports]
  split
  · exact selected
  · cases input with
    | announce port announce fits =>
      dsimp only
      split
      next inside =>
        unfold gptpHandleAnnounce
        split
        · exact selected
        · exact (selected.setPort _).rcvSm standard runs inside
      · exact selected
    | announceTimeout port | syncTimeout port =>
      dsimp only
      split
      next inside => exact selected.infoSm standard runs inside _
      · exact selected
    | transmitTimer port =>
      dsimp only
      split
      · exact selected.sends (portAnnounceTransmitSm_sends _)
      · exact selected
    | linkStatus port operational =>
      dsimp only
      split
      next inside =>
        exact ((selected.setPort _).updateFsm standard runs inside).sends (portAnnounceTransmitSm_sends .run)
      · exact selected
    | asCapable port capable =>
      dsimp only
      split
      next inside =>
        unfold gptpUpdateAsCapable
        split
        · exact selected
        · split
          · exact selected
          · exact (selected.setPort _).updateFsm standard runs inside
      · exact selected
    | priority1 | priority2 => exact selected.congr rfl rfl rfl rfl rfl rfl

end

end Steps

section Runs

/-- The machines have come to their end and left no flag of a selection behind. -/
structure SelectionSettled (inst : GptpInstance) : Prop where
  ended : inst.fault = false
  noRequest : ∀ port, port < inst.numberPorts → maskHas inst.reselect (port + 1) = false
  selected : ∀ port, port < inst.numberPorts → inst.isSelected port = true
  updated : ∀ port, port < inst.numberPorts → inst.isSelected port = true → (inst.ports port).updtInfo = false

/-- The machines have come to their end with no update pending; the selection has started if some
port is capable, and once it has started no flag of it is left. -/
structure SelectionSettles (inst : GptpInstance) : Prop where
  ended : inst.fault = false
  updated : ∀ port, port < inst.numberPorts → (inst.ports port).updtInfo = false
  started : ∀ port, port < inst.numberPorts → (inst.ports port).capable = true → inst.portStateSmState = .selection
  settled : inst.portStateSmState = .selection → inst.SelectionSettled

variable {inst : GptpInstance} {config : GptpConfig}

private theorem setPort_capable {value : GptpPort} {port : Nat} (same : value.capable = (inst.ports port).capable)
    (other : Nat) :
    ((inst.setPort port value).ports other).capable = (inst.ports other).capable := by
  by_cases here : other = port
  · rw [here,setPort_same,same]
  · rw [setPort_other here]

theorem reopened_capable {value old : GptpPort} (same : ¬ value.capable ≠ old.capable) :
    (reopened value old).capable = old.capable := by
  unfold reopened
  rw [if_pos (not_not.mp same),not_not.mp same]

theorem heeded_capable {input : GptpInput} (quiet : ¬ inst.Reselecting input) (other : Nat) :
    ((inst.heeded input).ports other).capable = (inst.ports other).capable := by
  cases input with
  | announce port announce fits =>
    unfold heeded
    dsimp only
    split
    · have ports : (inst.noted port announce).ports = inst.ports := noted_ports
      rw [← ports]
      refine setPort_capable ?_ other
      unfold judged
      split <;> rfl
    · rfl
  | announceTimeout port | syncTimeout port =>
    unfold heeded
    dsimp only
    split
    · have same : (ageing (inst.ports port)).capable = (inst.ports port).capable := rfl
      exact setPort_capable same other
    · rfl
  | transmitTimer | priority1 | priority2 => rfl
  | linkStatus port operational | asCapable port capable =>
    unfold heeded
    dsimp only
    split
    next inside => exact setPort_capable (reopened_capable fun changes => quiet ⟨inside,changes⟩) other
    · rfl

theorem heeded_state (input : GptpInput) : (inst.heeded input).portStateSmState = inst.portStateSmState := by
  cases input with
  | announce port announce fits =>
    unfold heeded
    dsimp only
    split
    · have noted : (inst.noted port announce).portStateSmState = inst.portStateSmState := by rw [noted_same]
      exact noted
    · rfl
  | announceTimeout | syncTimeout | linkStatus
  | asCapable => exact (apply_ite portStateSmState ..).trans (ite_self _)
  | transmitTimer | priority1 | priority2 => rfl

def Started (inst : GptpInstance) : Prop :=
  ∀ port, port < inst.numberPorts → (inst.ports port).capable = true → inst.portStateSmState = .selection

theorem Started.step (started : inst.Started) (rest : inst.Rest) (input : GptpInput) :
    (gptpStep input inst).Started := by
  have outcome := gptpStep_outcome input rest
  intro port inside capable
  by_cases due : inst.Reselecting input
  · obtain ⟨first,middle,_,selects,same⟩ := outcome.selected due
    rw [same.portStateSmState,selects.selection]
  · have same := outcome.kept due
    rw [same.portStateSmState,heeded_state]
    have before : (inst.ports port).capable = true := by
      rw [← heeded_capable due]
      exact (congrArg PortInfo.capable (same.info port)).symm.trans capable
    rw [numberPorts,outcome.config] at inside
    exact started port inside before

theorem Selected.settled (selected : Selected config False inst) (rest : inst.Rest)
    (selection : inst.portStateSmState = .selection) : inst.SelectionSettled := by
  obtain ⟨none,all⟩ := selected.clear rest.faultless (.inr selection)
  refine ⟨rest.faultless,fun port _ => ?_,fun port inside => ?_,fun port inside _ => (rest.ports port inside).noUpdate⟩
  · rw [none]
    simp [maskHas]
  · have full : inst.isSelected port = ({inst with selected := BitVec.allOnes 16} : GptpInstance).isSelected port := by
      unfold isSelected
      rw [all]
    rw [full]
    exact selected_all inside

/-- The machines of a running instance come to their end on every input, and from its first capable
port on they leave no flag of the selection behind. -/
theorem selection_settles (config : GptpConfig) (system : SystemParams) (sysProperties : TimeProperties)
    (enabled : Nat → Bool) (standard : config.automotive = false) (runs : config.instanceEnable = true)
    (inputs : List GptpInput) :
    (run gptpStep inputs (gptpInstanceInit config system sysProperties enabled)).SelectionSettles := by
  have rest := gptpInstanceInit_rest config system sysProperties enabled standard runs
  have bridge := gptpInstanceInit_bridge config system sysProperties enabled
  have same := gptpInstanceInit_config config system sysProperties enabled
  have invariant := run_invariant gptpStep
    (fun inst input (held : inst.Rest ∧ Selected config False inst ∧ inst.Started) _ =>
      (⟨(gptpStep_outcome input held.1).rest,held.2.1.step standard runs input,held.2.2.step held.1 input⟩ :
        (gptpStep input inst).Rest ∧ Selected config False (gptpStep input inst) ∧ (gptpStep input inst).Started))
    ?_ (steps_always gptpStep inputs (gptpInstanceInit config system sysProperties enabled))
  · exact ⟨invariant.1.faultless,fun port inside => (invariant.1.ports port inside).noUpdate,invariant.2.2,
      invariant.2.1.settled invariant.1⟩
  · refine ⟨rest,⟨⟨same,rest.running.notBegin⟩,fun _ begun => ?_⟩,fun port inside capable => ?_⟩
    · rcases begun with none | selection
      · exact none.elim
      · exact absurd (bridge.symm.trans selection) (by decide)
    · have closed := (rest.ports port inside).enabled capable
      rw [numberPorts,same] at inside
      exact absurd (gptpInstanceInit_disabled config system sysProperties enabled standard inside) closed.2.1

/-- A bridge whose first port is enabled and becomes capable. -/
theorem selection_settles_capable : (run gptpStep [.linkStatus 0 true,.asCapable 0 true] twoPorts).SelectionSettles :=
  selection_settles _ _ _ _ rfl rfl _

/-- Before any port is capable the requests of the initialisation stay. -/
theorem bridge_unsettled : ¬ (run gptpStep [.linkStatus 0 true] twoPorts).SelectionSettled := by
  intro settled
  have inside : 0 < (run gptpStep [.linkStatus 0 true] twoPorts).numberPorts := by decide +kernel
  exact absurd (settled.noRequest 0 inside) (by decide +kernel)

end Runs

end GptpInstance

end Genavb.Gptp
