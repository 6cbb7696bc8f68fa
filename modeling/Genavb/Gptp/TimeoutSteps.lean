import Genavb.Gptp.Timeouts

/-! The machines with timers run as those without, and restart no timer while no Announce is pending. -/
namespace Genavb.Gptp
open Support GptpInstance
open Function (update update_self update_of_ne)

namespace TimedInstance
variable {timed : TimedInstance} {port : Nat}

section Simulation

@[simp] theorem lift_inst (f : GptpInstance → GptpInstance) (timed : TimedInstance) : (timed.lift f).inst = f timed.inst := rfl

def Runs (plain : GptpInstance → GptpInstance) (select : TimedInstance → TimedInstance) : Prop :=
  ∀ timed, (select timed).inst = plain timed.inst

variable {plain : GptpInstance → GptpInstance} {select : TimedInstance → TimedInstance}

def prioOf : BmcaVectorCmp → AnnouncePrio
  | .aBetter => .superiorMasterInfo
  | .aBSame => .repeatedMasterInfo
  | .bBetter => .inferiorMasterInfo

theorem rcvdInfo_of {inst : GptpInstance} {result : BmcaVectorCmp}
    (compared : compareMsgPriorityVector (inst.ports port).messagePriority (inst.ports port).portPriority = result) :
    InfoView.rcvdInfo port inst = prioOf result := by
  subst compared
  rfl

section
variable (runs : Runs plain select)
include runs

theorem infoSmReceive_inst : (timed.infoSmReceive select port).inst = timed.inst.infoSmReceive plain port := by
  unfold infoSmReceive GptpInstance.infoSmReceive
  split
  · rfl
  · dsimp only
    cases compared : compareMsgPriorityVector ((timed.inst.rcvInfo port).ports port).messagePriority
        ((timed.inst.rcvInfo port).ports port).portPriority with
    | aBetter =>
      rw [lift_inst,rcvdInfo_of compared]
      exact runs _
    | aBSame | bBetter =>
      rw [lift_inst,rcvdInfo_of compared]
      rfl

private theorem infoSmPass_inst (event : AnnounceInfoEvent) :
    (timed.infoSmPass select port event).inst = timed.inst.infoSmPass plain port event := by
  unfold infoSmPass GptpInstance.infoSmPass
  cases (timed.inst.ports port).announceInfoState with
  | disabled =>
    dsimp only
    split
    · exact runs _
    · split
      · exact runs _
      · rfl
  | current =>
    dsimp only
    split
    · exact runs _
    · split
      · exact infoSmReceive_inst runs
      · split <;> rfl
  | aged =>
    dsimp only
    split <;> rfl
  | update | superiorMasterPort | repeatedMasterPort | inferiorMasterOrOther => rfl

theorem infoSmLoop_inst (passes : Nat) (event : AnnounceInfoEvent) (timed : TimedInstance) :
    (infoSmLoop select port passes event timed).inst = GptpInstance.infoSmLoop plain port passes event timed.inst := by
  induction passes generalizing event timed with
  | zero => rfl
  | succ passes ih =>
    unfold infoSmLoop GptpInstance.infoSmLoop
    split
    · exact runs _
    · dsimp only
      rw [infoSmPass_inst runs]
      split
      · exact infoSmPass_inst runs event
      · rw [ih,infoSmPass_inst runs]

private theorem portAnnounceInfoSm_inst (event : AnnounceInfoEvent) (timed : TimedInstance) :
    (timed.portAnnounceInfoSm select event port).inst = timed.inst.portAnnounceInfoSm plain event port := by
  unfold portAnnounceInfoSm GptpInstance.portAnnounceInfoSm
  split
  · rfl
  · exact infoSmLoop_inst runs SM_PASSES event timed

theorem setSelectedTree_inst (timed : TimedInstance) :
    (timed.setSelectedTree select).inst = timed.inst.setSelectedTree plain := by
  unfold setSelectedTree GptpInstance.setSelectedTree
  generalize List.range timed.inst.numberPorts = indices
  change _ = indices.foldl _ (timed.lift fun inst => {inst with selected := BitVec.allOnes 16}).inst
  generalize timed.lift (fun inst => {inst with selected := BitVec.allOnes 16}) = first
  induction indices generalizing first with
  | nil => rfl
  | cons index rest ih =>
    rw [List.foldl_cons,List.foldl_cons,ih,lift_inst,portAnnounceInfoSm_inst runs]

theorem stateSelection_inst : Runs (GptpInstance.stateSelection plain) (stateSelection select) := by
  intro timed
  unfold stateSelection GptpInstance.stateSelection
  rw [lift_inst,setSelectedTree_inst runs]
  rfl

end

theorem portStateSelectionSm_inst (nesting : Nat) :
    Runs (GptpInstance.portStateSelectionSm nesting) (portStateSelectionSm nesting) := by
  induction nesting with
  | zero => exact fun _ => rfl
  | succ nesting ih =>
    intro timed
    have selects := stateSelection_inst ih
    have whenReselected (timed : TimedInstance) :
        (if timed.inst.reselected then stateSelection (portStateSelectionSm nesting) timed else timed).inst =
          if timed.inst.reselected then GptpInstance.stateSelection (GptpInstance.portStateSelectionSm nesting) timed.inst
          else timed.inst := by
      split
      · exact selects timed
      · rfl
    unfold portStateSelectionSm GptpInstance.portStateSelectionSm
    split
    · rfl
    · split
      · rfl
      · cases timed.inst.portStateSmState with
        | selection => exact whenReselected timed
        | initBridge =>
          rw [whenReselected,selects]

theorem infoSm_inst (event : AnnounceInfoEvent) (timed : TimedInstance) :
    (timed.infoSm event port).inst = timed.inst.infoSm event port :=
  portAnnounceInfoSm_inst (portStateSelectionSm_inst SM_NESTING) event timed

private theorem rcvSmReceive_inst (timed : TimedInstance) : (timed.rcvSmReceive port).inst = timed.inst.rcvSmReceive port := by
  unfold rcvSmReceive GptpInstance.rcvSmReceive
  split
  · rfl
  · exact infoSm_inst .run _

private theorem rcvSmPass_inst (timed : TimedInstance) : (timed.rcvSmPass port).inst = timed.inst.rcvSmPass port := by
  unfold rcvSmPass GptpInstance.rcvSmPass
  split
  · rfl
  · cases (timed.inst.ports port).announceRcvState with
    | discard => exact rcvSmReceive_inst timed
    | receive =>
      dsimp only
      split
      · rfl
      · exact rcvSmReceive_inst timed

theorem portAnnounceRcvSm_inst (timed : TimedInstance) :
    (timed.portAnnounceRcvSm port).inst = timed.inst.portAnnounceRcvSm port := by
  unfold portAnnounceRcvSm GptpInstance.portAnnounceRcvSm
  split
  · rfl
  · split
    · rfl
    · dsimp only
      rw [rcvSmPass_inst]
      split
      · exact rcvSmPass_inst timed
      · rw [rcvSmPass_inst,rcvSmPass_inst]

theorem gptpHandleAnnounce_inst (announce : AnnouncePdu) (fits : Bool) (logMsgInterval : Int8) (timed : TimedInstance) :
    (timed.gptpHandleAnnounce port announce fits logMsgInterval).inst =
      timed.inst.gptpHandleAnnounce port announce fits := by
  unfold gptpHandleAnnounce GptpInstance.gptpHandleAnnounce
  split
  · rfl
  · exact portAnnounceRcvSm_inst _

theorem setAsCapable_inst (capable : Bool) (timed : TimedInstance) :
    (timed.setAsCapable port capable).inst = timed.inst.gptpUpdateAsCapable port capable := by
  unfold setAsCapable GptpInstance.gptpUpdateAsCapable
  split
  · rfl
  · split
    · rfl
    · exact (portAnnounceRcvSm_inst _).trans (congrArg (GptpInstance.portAnnounceRcvSm port) (infoSm_inst .run _))

end Simulation

section Silence

structure Hushed (value after : GptpPort) : Prop where
  rcvdMsg : value.rcvdMsg = false → after.rcvdMsg = false
  rcvdAnnouncePar : value.rcvdAnnouncePar = false → after.rcvdAnnouncePar = false
  received : after.infoIs = .received → value.infoIs = .received

theorem Hushed.refl (value : GptpPort) : Hushed value value := ⟨id,id,id⟩

theorem Hushed.trans {first second third : GptpPort} (left : Hushed first second) (right : Hushed second third) :
    Hushed first third where
  rcvdMsg := right.rcvdMsg ∘ left.rcvdMsg
  rcvdAnnouncePar := right.rcvdAnnouncePar ∘ left.rcvdAnnouncePar
  received := left.received ∘ right.received

theorem Hushed.of_core {value after : GptpPort} (same : after.core = value.core) : Hushed value after where
  rcvdMsg off := (congrArg GptpPort.rcvdMsg same :).trans off
  rcvdAnnouncePar off := (congrArg GptpPort.rcvdAnnouncePar same :).trans off
  received info := (congrArg GptpPort.infoIs same :).symm.trans info

/-- No timer is restarted, no Announce is pending that was not, and no information is received. -/
structure Kept (first second : TimedInstance) : Prop where
  same : second = first.lift fun _ => second.inst
  config : second.inst.config = first.inst.config
  ports : ∀ port, port < first.inst.numberPorts → Hushed (first.inst.ports port) (second.inst.ports port)

theorem Kept.refl (timed : TimedInstance) : Kept timed timed := ⟨rfl,rfl,fun _ _ => .refl _⟩

variable {first second third : TimedInstance}

theorem Kept.inside (kept : Kept first second) (inside : port < first.inst.numberPorts) : port < second.inst.numberPorts := by
  rw [numberPorts,kept.config]
  exact inside

theorem Kept.trans (left : Kept first second) (right : Kept second third) : Kept first third where
  same := by
    rw [right.same]
    conv_lhs => rw [left.same]
    rfl
  config := right.config.trans left.config
  ports port inside := (left.ports port inside).trans (right.ports port (left.inside inside))

theorem kept_lift {f : GptpInstance → GptpInstance} (config : (f timed.inst).config = timed.inst.config)
    (ports : ∀ port, port < timed.inst.numberPorts → Hushed (timed.inst.ports port) ((f timed.inst).ports port)) :
    Kept timed (timed.lift f) := ⟨rfl,config,ports⟩

theorem kept_sends {f : GptpInstance → GptpInstance} (sends : timed.inst.Sends (f timed.inst)) :
    Kept timed (timed.lift f) := by
  refine kept_lift ?_ fun port _ => .of_core (sends.ports port)
  have globals := sends.globals
  rw [globals]

theorem kept_setPort {p : Nat} {f : GptpInstance → GptpInstance} {value : GptpPort} (config : (f timed.inst).config = timed.inst.config)
    (ports : (f timed.inst).ports = update timed.inst.ports p value) (hushed : Hushed (timed.inst.ports p) value) :
    Kept timed (timed.lift f) := by
  refine kept_lift config ?_
  intro other _
  rw [ports]
  by_cases here : other = p
  case pos =>
    subst here
    rw [update_self]
    exact hushed
  case neg =>
    rw [update_of_ne here]
    exact .refl _

private theorem kept_faulted (timed : TimedInstance) : Kept timed (timed.lift GptpInstance.faulted) :=
  kept_lift rfl fun _ _ => .refl _

def Quiet (timed : TimedInstance) : Prop := ∀ port, port < timed.inst.numberPorts →
  (timed.inst.ports port).rcvdMsg = false ∧ (timed.inst.ports port).rcvdAnnouncePar = false

theorem Kept.quiet (kept : Kept first second) (quiet : first.Quiet) : second.Quiet := by
  intro port inside
  have before : port < first.inst.numberPorts := by
    rw [numberPorts,← kept.config]
    exact inside
  have hushed := kept.ports port before
  exact ⟨hushed.rcvdMsg (quiet port before).1,hushed.rcvdAnnouncePar (quiet port before).2⟩

private theorem disabled_kept (timed : TimedInstance) (port : Nat) : Kept timed (timed.lift (GptpInstance.infoSmDisabled id port)) :=
  kept_setPort (p := port) rfl rfl ⟨fun _ => rfl,id,nofun⟩

private theorem aged_kept (timed : TimedInstance) (port : Nat) : Kept timed (timed.lift (GptpInstance.infoSmAged id port)) :=
  kept_setPort (p := port) rfl rfl ⟨id,id,nofun⟩

theorem current_kept (timed : TimedInstance) (port : Nat) : Kept timed (timed.lift (GptpInstance.infoSmCurrent port)) :=
  kept_setPort (p := port) rfl rfl ⟨id,id,id⟩

private theorem update_kept (timed : TimedInstance) (port : Nat) : Kept timed (timed.lift (GptpInstance.infoSmUpdate port)) := by
  have mine : Kept timed (timed.lift fun inst => inst.updated port) :=
    kept_setPort (p := port) rfl rfl ⟨id,id,nofun⟩
  exact mine.trans (kept_sends infoSmUpdate_sends)

variable {select : TimedInstance → TimedInstance}

section
variable (selects : ∀ timed : TimedInstance, timed.Quiet → Kept timed (select timed))
include selects

private theorem select_kept (kept : Kept first second) (quiet : first.Quiet) : Kept first (select second) :=
  kept.trans (selects _ (kept.quiet quiet))

theorem infoSmPass_kept (quiet : timed.Quiet) (inside : port < timed.inst.numberPorts) (event : AnnounceInfoEvent) :
    Kept timed (timed.infoSmPass select port event) := by
  have noMessage := (quiet port inside).1
  unfold infoSmPass
  cases (timed.inst.ports port).announceInfoState with
  | disabled =>
    dsimp only
    split
    · exact select_kept selects (aged_kept timed port) quiet
    · split
      · exact select_kept selects (disabled_kept timed port) quiet
      · exact .refl timed
  | current =>
    dsimp only
    split
    · exact select_kept selects (aged_kept timed port) quiet
    · split
      next pending => exact absurd (noMessage.symm.trans pending.1) (by decide)
      · split
        · exact update_kept timed port
        · exact .refl timed
  | aged =>
    dsimp only
    split
    · exact update_kept timed port
    · exact .refl timed
  | update | superiorMasterPort | repeatedMasterPort | inferiorMasterOrOther => exact current_kept timed port

theorem infoSmLoop_kept (passes : Nat) (event : AnnounceInfoEvent) {timed : TimedInstance} (quiet : timed.Quiet)
    (inside : port < timed.inst.numberPorts) : Kept timed (infoSmLoop select port passes event timed) := by
  induction passes generalizing event timed with
  | zero => exact kept_faulted timed
  | succ passes ih =>
    unfold infoSmLoop
    split
    · exact select_kept selects (disabled_kept timed port) quiet
    · dsimp only
      have pass := infoSmPass_kept selects quiet inside event
      split
      · exact pass
      · exact pass.trans (ih .run (pass.quiet quiet) (pass.inside inside))

private theorem portAnnounceInfoSm_kept (quiet : timed.Quiet) (inside : port < timed.inst.numberPorts) (event : AnnounceInfoEvent) :
    Kept timed (timed.portAnnounceInfoSm select event port) := by
  unfold portAnnounceInfoSm
  split
  · exact .refl timed
  · exact infoSmLoop_kept selects SM_PASSES event quiet inside

theorem setSelectedTree_kept (quiet : timed.Quiet) : Kept timed (timed.setSelectedTree select) := by
  have start : Kept timed (timed.lift fun inst => {inst with selected := BitVec.allOnes 16}) :=
    kept_lift rfl fun _ _ => .refl _
  refine foldl_kept (I := Kept timed) ?_ start
  intro next kept port member
  have inside := kept.inside (List.mem_range.mp member)
  have run := kept.trans (portAnnounceInfoSm_kept selects (kept.quiet quiet) inside .run)
  exact run.trans (kept_sends (portAnnounceTransmitSm_sends .run))

theorem stateSelection_kept (quiet : timed.Quiet) : Kept timed (timed.stateSelection select) := by
  have roles : Kept timed (timed.lift fun inst => ({inst with reselect := 0}).updtRolesTree) := by
    refine kept_lift ?_ ?_
    · exact @chosen_config timed.inst
    · intro port inside
      have same : (timed.inst.cleared.updtRolesTree).ports port = _ := updtRolesTree_ports _ inside
      change Hushed _ (timed.inst.cleared.updtRolesTree.ports port)
      rw [same]
      exact ⟨id,id,id⟩
  have tree := roles.trans (setSelectedTree_kept selects (roles.quiet quiet))
  exact tree.trans (kept_lift rfl fun _ _ => .refl _)

end

theorem portStateSelectionSm_kept (nesting : Nat) {timed : TimedInstance} (quiet : timed.Quiet) :
    Kept timed (portStateSelectionSm nesting timed) := by
  induction nesting generalizing timed with
  | zero => exact kept_faulted timed
  | succ nesting ih =>
    have selects (timed : TimedInstance) (quiet : timed.Quiet) := stateSelection_kept (fun _ quiet => ih quiet) quiet
    have whenReselected (timed : TimedInstance) (quiet : timed.Quiet) :
        Kept timed (if timed.inst.reselected then stateSelection (portStateSelectionSm nesting) timed else timed) := by
      split
      · exact selects timed quiet
      · exact .refl timed
    unfold portStateSelectionSm
    split
    · exact .refl timed
    · split
      · refine kept_lift ?_ ?_
        · rw [updtRoleDisabledTree_same]
        · intro port _
          exact .refl _
      · cases timed.inst.portStateSmState with
        | selection => exact whenReselected timed quiet
        | initBridge =>
          have first := selects timed quiet
          exact first.trans (whenReselected _ (first.quiet quiet))

theorem infoSm_kept (quiet : timed.Quiet) (inside : port < timed.inst.numberPorts) (event : AnnounceInfoEvent) :
    Kept timed (timed.infoSm event port) :=
  portAnnounceInfoSm_kept (fun _ quiet => portStateSelectionSm_kept SM_NESTING quiet) quiet inside event

theorem portAnnounceRcvSm_kept (quiet : timed.Quiet) (inside : port < timed.inst.numberPorts) :
    Kept timed (timed.portAnnounceRcvSm port) := by
  have passes : timed.rcvSmPass port = timed := by
    unfold rcvSmPass
    rw [(quiet port inside).2]
    rfl
  unfold portAnnounceRcvSm
  split
  · exact .refl timed
  · split
    · exact kept_setPort (p := port) rfl rfl ⟨fun _ => rfl,fun _ => rfl,id⟩
    · dsimp only
      rw [passes,if_pos rfl]
      exact .refl timed

def Silent (timed : TimedInstance) : Prop := timed.inst.config.automotive = false → timed.Quiet

theorem Kept.silent (kept : Kept first second) (silent : first.Silent) : second.Silent := by
  intro standard
  rw [kept.config] at standard
  exact kept.quiet (silent standard)

theorem infoSm_silent (silent : timed.Silent) (inside : port < timed.inst.numberPorts) (event : AnnounceInfoEvent) :
    Kept timed (timed.infoSm event port) := by
  cases kind : timed.inst.config.automotive with
  | false => exact infoSm_kept (silent kind) inside event
  | true =>
    unfold infoSm portAnnounceInfoSm
    rw [kind]
    exact .refl timed

theorem portAnnounceRcvSm_silent (silent : timed.Silent) (inside : port < timed.inst.numberPorts) :
    Kept timed (timed.portAnnounceRcvSm port) := by
  cases kind : timed.inst.config.automotive with
  | false => exact portAnnounceRcvSm_kept (silent kind) inside
  | true =>
    unfold portAnnounceRcvSm
    rw [kind]
    exact .refl timed

theorem setAsCapable_kept (silent : timed.Silent) (inside : port < timed.inst.numberPorts) (capable : Bool) :
    Kept timed (timed.setAsCapable port capable) := by
  unfold setAsCapable
  split
  · exact .refl timed
  · split
    · exact .refl timed
    · have set : Kept timed (timed.lift fun inst => inst.setPort port {inst.ports port with asCapable := capable}) :=
        kept_setPort (p := port) rfl rfl ⟨id,id,id⟩
      have run := set.trans (infoSm_silent (set.silent silent) (set.inside inside) .run)
      exact run.trans (portAnnounceRcvSm_silent (run.silent silent) (run.inside inside))

end Silence

section Capable
variable {first second third : TimedInstance}

/-- Only the machines of gPTP-capable TLVs and the instance move on. -/
structure Moved (first second : TimedInstance) : Prop where
  kept : Kept {first with capable := second.capable} second
  rest : first.inst.config.instanceEnable = true → first.inst.Rest → second.inst.Rest

theorem Moved.refl (timed : TimedInstance) : Moved timed timed := ⟨.refl timed,fun _ rest => rest⟩

theorem Moved.config (moved : Moved first second) : second.inst.config = first.inst.config := moved.kept.config

theorem Moved.inside (moved : Moved first second) (inside : port < first.inst.numberPorts) :
    port < second.inst.numberPorts := moved.kept.inside inside

theorem Moved.silent (moved : Moved first second) (silent : first.Silent) : second.Silent := moved.kept.silent silent

theorem Moved.trans (left : Moved first second) (right : Moved second third) : Moved first third := by
  refine ⟨⟨?_,right.config.trans left.config,?_⟩,?_⟩
  · rw [right.kept.same]
    conv_lhs => rw [left.kept.same]
    rfl
  · intro port inside
    exact (left.kept.ports port inside).trans (right.kept.ports port (left.inside inside))
  · intro enabled rest
    exact right.rest (by rw [left.config]; exact enabled) (left.rest enabled rest)

theorem Kept.moved (kept : Kept first second)
    (rest : first.inst.config.instanceEnable = true → first.inst.Rest → second.inst.Rest) : Moved first second := by
  refine ⟨?_,rest⟩
  have same : second.capable = first.capable := by
    rw [kept.same]
    rfl
  rw [same]
  exact kept

theorem setCapable_moved (timed : TimedInstance) (port : Nat) (value : CapableReceive) :
    Moved timed (timed.setCapable port value) := ⟨.refl _,fun _ rest => rest⟩

theorem gptpStep_heard {inst : GptpInstance} (enabled : inst.config.instanceEnable = true) {capable : Bool} :
    gptpStep (.asCapable port capable) inst =
      if port < inst.numberPorts then inst.gptpUpdateAsCapable port capable else inst := by
  unfold gptpStep
  rw [enabled]
  rfl

theorem setAsCapable_moved (silent : timed.Silent) (inside : port < timed.inst.numberPorts) (capable : Bool) :
    Moved timed (timed.setAsCapable port capable) := by
  refine (setAsCapable_kept silent inside capable).moved fun enabled rest => ?_
  rw [setAsCapable_inst]
  have step := (gptpStep_outcome (.asCapable port capable) rest).rest
  rwa [gptpStep_heard enabled,if_pos inside] at step

section
variable (silent : timed.Silent) (inside : port < timed.inst.numberPorts)
include silent inside

private theorem setNeighborGptpCapable_moved (capable : Bool) : Moved timed (timed.setNeighborGptpCapable port capable) ∧
    (timed.setNeighborGptpCapable port capable).capable =
      update timed.capable port {timed.capable port with neighborGptpCapable := capable} := by
  unfold setNeighborGptpCapable
  split
  next same =>
    refine ⟨.refl timed,?_⟩
    rw [← same]
    exact (Function.update_eq_self port timed.capable).symm
  · have set := setCapable_moved timed port {timed.capable port with neighborGptpCapable := capable}
    have told := setAsCapable_kept (set.silent silent) (set.inside inside)
    have moved := setAsCapable_moved (set.silent silent) (set.inside inside)
    refine ⟨set.trans (moved _),?_⟩
    unfold gptpUpdateAsCapable
    rw [(told _).same]
    rfl

theorem capableInitialize_moved : Moved timed (timed.capableInitialize port) ∧
    (timed.capableInitialize port).capable = update timed.capable port {timed.capable port with
      neighborGptpCapable := false
      state := .initialized} := by
  have ⟨moved,same⟩ := setNeighborGptpCapable_moved silent inside false
  refine ⟨moved.trans (setCapable_moved _ port _),?_⟩
  unfold capableInitialize setCapableState setCapable
  rw [same,Function.update_idem,update_self]

theorem capableReceivedTlv_moved : Moved timed (timed.capableReceivedTlv port) ∧
    (timed.capableReceivedTlv port).capable = update timed.capable port {timed.capable port with
      neighborGptpCapable := true
      timeoutTimer := restartMs ((timed.capable port).gptpCapableReceiptTimeout.toUInt64 *
        .ofNat (logToNs (timed.capable port).signalingLog)).toNat
      rcvdGptpCapableTlv := false
      state := .receivedTlv
      takenLog := (timed.capable port).tlvLog} := by
  have ⟨moved,same⟩ := setNeighborGptpCapable_moved silent inside true
  refine ⟨moved.trans (setCapable_moved _ port _),?_⟩
  unfold capableReceivedTlv setCapable
  dsimp only
  rw [same,Function.update_idem,update_self]

end

end Capable

end TimedInstance

end Genavb.Gptp
