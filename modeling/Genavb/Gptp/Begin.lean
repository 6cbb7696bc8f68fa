import Genavb.Gptp.Effect

/-! The initialisation of an instance leaves it at rest, before any selection; an instance for
which the announce machines do not run stays as it is. -/
namespace Genavb.Gptp

namespace GptpInstance

section Begin
variable {inst second : GptpInstance} {port : Nat}

/-- While the instance begins: no port is capable and the first `count` ports are disabled. -/
structure Fresh (count : Nat) (inst : GptpInstance) : Prop where
  begins : inst.begin = true
  standard : inst.config.automotive = false
  faultless : inst.fault = false
  idle : ∀ port, (inst.ports port).capable = false ∧ (inst.ports port).rcvdMsg = false ∧
    (inst.ports port).rcvdAnnouncePar = false ∧ (inst.ports port).updtInfo = false
  closed : ∀ port, port < count →
    (inst.ports port).infoIs = .disabled ∧ (inst.ports port).announceInfoState = .disabled
  outside : ∀ port, inst.numberPorts ≤ port → inst.role port ≠ .masterPort

theorem Fresh.sends {count : Nat} (fresh : Fresh count inst) (sends : inst.Sends second) : Fresh count second := by
  have globals := sends.globals
  have idle : ∀ port, (second.ports port).capable = false ∧ (second.ports port).rcvdMsg = false ∧
      (second.ports port).rcvdAnnouncePar = false ∧ (second.ports port).updtInfo = false := by
    intro port
    have core := sends.ports port
    rw [core_congr core (·.capable) fun _ => rfl,core_congr core (·.rcvdMsg) fun _ => rfl,
      core_congr core (·.rcvdAnnouncePar) fun _ => rfl,core_congr core (·.updtInfo) fun _ => rfl]
    exact fresh.idle port
  have closed : ∀ port, port < count →
      (second.ports port).infoIs = .disabled ∧ (second.ports port).announceInfoState = .disabled := by
    intro port inside
    have core := sends.ports port
    rw [core_congr core (·.infoIs) fun _ => rfl,core_congr core (·.announceInfoState) fun _ => rfl]
    exact fresh.closed port inside
  refine ⟨?_,?_,?_,idle,closed,?_⟩
  · rw [globals]
    exact fresh.begins
  · rw [globals]
    exact fresh.standard
  · rw [globals]
    exact fresh.faultless
  · rw [globals]
    exact fresh.outside

private theorem portStateSelectionSm_begins {nesting : Nat} (begins : inst.begin = true)
    (standard : inst.config.automotive = false) :
    inst.portStateSelectionSm (nesting + 1) = {inst.updtRoleDisabledTree with portStateSmState := .initBridge} := by
  unfold portStateSelectionSm
  simp only [begins,standard,Bool.false_eq_true,if_false,Bool.true_or,if_true]

theorem updtRoleDisabledTree_same (inst : GptpInstance) :
    inst.updtRoleDisabledTree = {inst with
      selectedRole := inst.updtRoleDisabledTree.selectedRole
      lastGmPriority := inst.updtRoleDisabledTree.lastGmPriority
      pathTrace := inst.updtRoleDisabledTree.pathTrace
      numPtlv := inst.updtRoleDisabledTree.numPtlv
      outputs := inst.updtRoleDisabledTree.outputs} := by
  unfold updtRoleDisabledTree gptpIpcGmStatus
  split <;> rfl

theorem updtRoleDisabledTree_roles (inst : GptpInstance) : inst.updtRoleDisabledTree.selectedRole =
    fun number => if number ≤ inst.numberPorts then .disabledPort else inst.selectedRole number := by
  unfold updtRoleDisabledTree gptpIpcGmStatus
  split <;> rfl

theorem Fresh.disabledTree {count : Nat} (fresh : Fresh count inst) :
    Fresh count {inst.updtRoleDisabledTree with portStateSmState := .initBridge} := by
  have roles := updtRoleDisabledTree_roles inst
  refine {fresh with outside := ?_}
  intro port beyond
  unfold role
  rw [roles]
  have kept : ¬ port + 1 ≤ inst.numberPorts := fun inside => absurd (Nat.le_trans inside beyond) (Nat.not_succ_le_self _)
  dsimp only
  rw [if_neg kept]
  exact fresh.outside port beyond

theorem Fresh.setPort {count next : Nat} {value : GptpPort} (fresh : Fresh count inst)
    (idle : value.capable = false ∧ value.rcvdMsg = false ∧ value.rcvdAnnouncePar = false ∧ value.updtInfo = false)
    (closed : port < next → value.infoIs = .disabled ∧ value.announceInfoState = .disabled)
    (others : ∀ other, other < next → other ≠ port → other < count) : Fresh next (inst.setPort port value) := by
  refine ⟨fresh.begins,fresh.standard,fresh.faultless,?_,?_,fresh.outside⟩
  · intro other
    by_cases here : other = port
    · subst here
      rw [setPort_same]
      exact idle
    · rw [setPort_other here]
      exact fresh.idle other
  · intro other inside
    by_cases here : other = port
    · subst here
      rw [setPort_same]
      exact closed inside
    · rw [setPort_other here]
      exact fresh.closed other (others other inside here)

theorem portAnnounceRcvSm_begins (fresh : Fresh port inst) :
    Fresh port (inst.portAnnounceRcvSm port) ∧ (inst.portAnnounceRcvSm port).config = inst.config := by
  have discards : inst.portAnnounceRcvSm port = inst.rcvSmDiscard port := by
    unfold portAnnounceRcvSm
    simp only [fresh.standard,fresh.begins,inst.config.external_off,Bool.false_eq_true,if_false,Bool.true_or,
      Bool.not_false,Bool.and_self,if_true]
  rw [discards]
  refine ⟨fresh.setPort ?_ ?_ fun other inside _ => inside,rfl⟩
  · exact ⟨(fresh.idle port).1,rfl,rfl,(fresh.idle port).2.2.2⟩
  · intro inside
    exact absurd inside (Nat.lt_irrefl port)

theorem infoSm_begins (fresh : Fresh port inst) :
    Fresh (port + 1) (inst.infoSm .run port) ∧ (inst.infoSm .run port).config = inst.config := by
  have closes : inst.infoSm .run port =
      portStateSelectionSm (15 + 1) ((inst.setPort port (closed (inst.ports port))).requestSelection port) := by
    unfold infoSm portAnnounceInfoSm
    rw [fresh.standard,if_neg (by decide),show SM_PASSES = 7 + 1 from rfl,infoSmLoop,fresh.begins]
    rfl
  have closedHere : Fresh (port + 1) ((inst.setPort port (closed (inst.ports port))).requestSelection port) := by
    have value : Fresh (port + 1) (inst.setPort port (closed (inst.ports port))) := by
      refine fresh.setPort ⟨(fresh.idle port).1,rfl,(fresh.idle port).2.2⟩ (fun _ => ⟨rfl,rfl⟩) ?_
      intro other inside apart
      omega
    exact {value with}
  rw [closes,portStateSelectionSm_begins closedHere.begins closedHere.standard]
  refine ⟨closedHere.disabledTree,?_⟩
  rfl

theorem gptpBeginUpdatePortFsm_fresh (fresh : Fresh port inst) :
    Fresh (port + 1) (inst.gptpBeginUpdatePortFsm port) ∧
      (inst.gptpBeginUpdatePortFsm port).config = inst.config := by
  obtain ⟨received,receivedConfig⟩ := portAnnounceRcvSm_begins fresh
  obtain ⟨closed,closedConfig⟩ := infoSm_begins received
  have sends : ((inst.portAnnounceRcvSm port).infoSm .run port).Sends (inst.gptpBeginUpdatePortFsm port) :=
    portAnnounceTransmitSm_sends .run
  refine ⟨closed.sends sends,?_⟩
  rw [sends.globals]
  exact closedConfig.trans receivedConfig

theorem begin_range (count : Nat) (fresh : Fresh 0 inst) :
    Fresh count ((List.range count).foldl gptpBeginUpdatePortFsm inst) ∧
      ((List.range count).foldl gptpBeginUpdatePortFsm inst).config = inst.config := by
  induction count with
  | zero => exact ⟨fresh,rfl⟩
  | succ count ih =>
    rw [List.range_succ,List.foldl_append]
    obtain ⟨next,config⟩ := gptpBeginUpdatePortFsm_fresh ih.1
    exact ⟨next,config.trans ih.2⟩

end Begin

section Automotive
variable {inst : GptpInstance}

theorem infoSm_automotive (event : AnnounceInfoEvent) (port : Nat) (automotive : inst.config.automotive = true) :
    inst.infoSm event port = inst := if_pos automotive

theorem portAnnounceRcvSm_automotive (port : Nat) (automotive : inst.config.automotive = true) :
    inst.portAnnounceRcvSm port = inst := if_pos automotive

theorem portAnnounceTransmitSm_automotive (event : AnnounceTransmitEvent) (port : Nat)
    (automotive : inst.config.automotive = true) : inst.portAnnounceTransmitSm event port = inst :=
  if_pos automotive

theorem gptpPortUpdateFsm_automotive (port : Nat) (automotive : inst.config.automotive = true) :
    inst.gptpPortUpdateFsm port = inst := by
  unfold gptpPortUpdateFsm
  rw [infoSm_automotive _ _ automotive,portAnnounceRcvSm_automotive _ automotive,
    portAnnounceTransmitSm_automotive _ _ automotive]

theorem portStateSelectionSm_automotive (nesting : Nat) (automotive : inst.config.automotive = true) :
    inst.portStateSelectionSm (nesting + 1) = inst := if_pos automotive

theorem gptpBeginUpdatePortFsm_automotive (port : Nat) (automotive : inst.config.automotive = true) :
    inst.gptpBeginUpdatePortFsm port = inst := by
  unfold gptpBeginUpdatePortFsm
  rw [portAnnounceRcvSm_automotive _ automotive,infoSm_automotive _ _ automotive,
    portAnnounceTransmitSm_automotive _ _ automotive]

theorem gptpUpdateAsCapable_automotive (port : Nat) (capable : Bool) (automotive : inst.config.automotive = true) :
    inst.gptpUpdateAsCapable port capable = inst ∨
      inst.gptpUpdateAsCapable port capable =
        inst.setPort port {inst.ports port with asCapable := capable} := by
  have still : (inst.setPort port {inst.ports port with asCapable := capable}).config.automotive = true := automotive
  unfold gptpUpdateAsCapable gptpAsCapableUpdateFsm
  rw [infoSm_automotive _ _ still,portAnnounceRcvSm_automotive _ still]
  split
  · exact .inl rfl
  · split
    · exact .inl rfl
    · exact .inr rfl

theorem gptpStep_automotive (input : GptpInput) (automotive : inst.config.automotive = true) :
    (gptpStep input inst).config = inst.config ∧ (gptpStep input inst).outputs = inst.outputs ∧
      (gptpStep input inst).portStateSmState = inst.portStateSmState := by
  unfold gptpStep
  split
  · exact ⟨rfl,rfl,rfl⟩
  · cases input with
    | announce port announce fits =>
      have handled : inst.gptpHandleAnnounce port announce fits = inst := if_pos (by rw [automotive]; rfl)
      dsimp only
      rw [handled,ite_self]
      exact ⟨rfl,rfl,rfl⟩
    | announceTimeout | syncTimeout =>
      dsimp only
      rw [infoSm_automotive _ _ automotive,ite_self]
      exact ⟨rfl,rfl,rfl⟩
    | transmitTimer port =>
      dsimp only
      rw [portAnnounceTransmitSm_automotive _ _ automotive,ite_self]
      exact ⟨rfl,rfl,rfl⟩
    | linkStatus port operational =>
      have still : (inst.setPort port {inst.ports port with portOper := operational}).config.automotive = true :=
        automotive
      have linked : inst.gptpLinkStatus port operational =
          inst.setPort port {inst.ports port with portOper := operational} :=
        gptpPortUpdateFsm_automotive port still
      dsimp only
      rw [linked]
      split <;> exact ⟨rfl,rfl,rfl⟩
    | asCapable port capable =>
      dsimp only
      split
      · rcases gptpUpdateAsCapable_automotive port capable automotive with same | same
        · rw [same]
          exact ⟨rfl,rfl,rfl⟩
        · rw [same]
          exact ⟨rfl,rfl,rfl⟩
      · exact ⟨rfl,rfl,rfl⟩
    | priority1 | priority2 => exact ⟨rfl,rfl,rfl⟩

theorem begin_automotive (count : Nat) (automotive : inst.config.automotive = true) :
    (List.range count).foldl gptpBeginUpdatePortFsm inst = inst := by
  induction count with
  | zero => rfl
  | succ count ih =>
    rw [List.range_succ,List.foldl_append,ih]
    exact gptpBeginUpdatePortFsm_automotive count automotive

end Automotive

section Init
variable (config : GptpConfig) (system : SystemParams) (sysProperties : TimeProperties) (enabled : Nat → Bool)

/-- The instance at the end of the loop of `gptp_instance_init`. -/
def begun : GptpInstance :=
  (List.range config.numberPorts).foldl gptpBeginUpdatePortFsm
    {configured config system sysProperties enabled with begin := true}

theorem begun_fresh (standard : config.automotive = false) :
    Fresh config.numberPorts (begun config system sysProperties enabled) ∧
      (begun config system sysProperties enabled).config = config := by
  have start : Fresh 0 {configured config system sysProperties enabled with begin := true} :=
    ⟨rfl,standard,rfl,fun _ => ⟨rfl,rfl,rfl,rfl⟩,fun _ inside => absurd inside (Nat.not_lt_zero _),
      fun _ _ => by unfold role configured; simp⟩
  exact begin_range config.numberPorts start

theorem gptpInstanceInit_standard (standard : config.automotive = false) :
    gptpInstanceInit config system sysProperties enabled =
      {(begun config system sysProperties enabled).updtRoleDisabledTree with
        portStateSmState := .initBridge, begin := false} := by
  obtain ⟨fresh,_⟩ := begun_fresh config system sysProperties enabled standard
  have selected : (begun config system sysProperties enabled).portStateSelectionSm (15 + 1) = _ :=
    portStateSelectionSm_begins fresh.begins fresh.standard
  change {(begun config system sysProperties enabled).portStateSelectionSm (15 + 1) with begin := false} = _
  rw [selected]

private theorem gptpInstanceInit_automotive (automotive : config.automotive = true) :
    gptpInstanceInit config system sysProperties enabled =
      configured config system sysProperties enabled := by
  have still : begun config system sysProperties enabled =
      {configured config system sysProperties enabled with begin := true} :=
    begin_automotive config.numberPorts automotive
  change {(begun config system sysProperties enabled).portStateSelectionSm (15 + 1) with begin := false} = _
  have stands := portStateSelectionSm_automotive (SM_NESTING - 1)
    (show (begun config system sysProperties enabled).config.automotive = true by rw [still]; exact automotive)
  rw [show 15 + 1 = SM_NESTING - 1 + 1 from rfl,stands,still]
  rfl

theorem gptpInstanceInit_config : (gptpInstanceInit config system sysProperties enabled).config = config := by
  cases kind : config.automotive with
  | true =>
    rw [gptpInstanceInit_automotive _ _ _ _ kind]
    rfl
  | false =>
    rw [gptpInstanceInit_standard _ _ _ _ kind,updtRoleDisabledTree_same]
    exact (begun_fresh config system sysProperties enabled kind).2

theorem gptpInstanceInit_bridge :
    (gptpInstanceInit config system sysProperties enabled).portStateSmState = .initBridge := by
  cases kind : config.automotive with
  | true =>
    rw [gptpInstanceInit_automotive _ _ _ _ kind]
    rfl
  | false => rw [gptpInstanceInit_standard _ _ _ _ kind]

theorem gptpInstanceInit_rest (standard : config.automotive = false) (runs : config.instanceEnable = true) :
    (gptpInstanceInit config system sysProperties enabled).Rest := by
  obtain ⟨fresh,same⟩ := begun_fresh config system sysProperties enabled standard
  have tree := fresh.disabledTree
  rw [gptpInstanceInit_standard _ _ _ _ standard]
  rw [updtRoleDisabledTree_same] at tree ⊢
  refine ⟨⟨rfl,?_,fresh.standard,tree.outside⟩,fresh.faultless,?_⟩
  · change (begun config system sysProperties enabled).config.instanceEnable = true
    rw [same]
    exact runs
  · intro port inside
    have within : port < config.numberPorts := by
      rw [← same]
      exact inside
    obtain ⟨off,message,announce,update⟩ := fresh.idle port
    obtain ⟨info,state⟩ := fresh.closed port within
    refine ⟨message,announce,update,fun _ => ⟨state,info⟩,?_,?_⟩
    · intro capable
      exact absurd (off.symm.trans capable) (by decide)
    · intro received
      exact absurd (info.symm.trans received) (by decide)

theorem gptpInstanceInit_disabled (standard : config.automotive = false) {port : Nat}
    (inside : port < config.numberPorts) :
    ((gptpInstanceInit config system sysProperties enabled).ports port).infoIs = .disabled := by
  rw [gptpInstanceInit_standard _ _ _ _ standard,updtRoleDisabledTree_same]
  exact ((begun_fresh config system sysProperties enabled standard).1.closed port inside).1

end Init

end GptpInstance

end Genavb.Gptp
