import Genavb.Gptp.Rest

/-! What every input makes of an instance at rest: it changes the information of a port, and a
selection may follow. -/
namespace Genavb.Gptp

structure PortInfo where
  capable : Bool
  infoIs : SpanningTreeInfo
  portPriority : PriorityVector
  messageStepsRemoved : UInt16
  adopted : Option AnnouncePdu

def GptpPort.info (port : GptpPort) : PortInfo :=
  ⟨port.capable,port.infoIs,port.portPriority,port.messageStepsRemoved,port.adopted⟩

namespace GptpInstance

section Information

/-- The instances agree in all that the announce data depends on. -/
structure SameState (first second : GptpInstance) : Prop where
  config : second.config = first.config
  system : second.system = first.system
  gmPriority : second.gmPriority = first.gmPriority
  masterStepsRemoved : second.masterStepsRemoved = first.masterStepsRemoved
  selectedRole : second.selectedRole = first.selectedRole
  pathTrace : second.pathTrace = first.pathTrace
  numPtlv : second.numPtlv = first.numPtlv
  portStateSmState : second.portStateSmState = first.portStateSmState
  info : ∀ port, (second.ports port).info = (first.ports port).info

variable {inst first second third : GptpInstance} {port : Nat}

theorem SameState.refl (inst : GptpInstance) : inst.SameState inst :=
  ⟨rfl,rfl,rfl,rfl,rfl,rfl,rfl,rfl,fun _ => rfl⟩

theorem SameState.trans (left : first.SameState second) (right : second.SameState third) : first.SameState third :=
  ⟨right.config.trans left.config,right.system.trans left.system,right.gmPriority.trans left.gmPriority,
    right.masterStepsRemoved.trans left.masterStepsRemoved,right.selectedRole.trans left.selectedRole,
    right.pathTrace.trans left.pathTrace,right.numPtlv.trans left.numPtlv,
    right.portStateSmState.trans left.portStateSmState,fun port => (right.info port).trans (left.info port)⟩

theorem sameState_of_core (globals : first.SameGlobals second)
    (ports : ∀ port, (second.ports port).core = (first.ports port).core) : first.SameState second := by
  have info : ∀ port, (second.ports port).info = (first.ports port).info := fun port =>
    core_congr (ports port) GptpPort.info fun _ => rfl
  refine ⟨?_,?_,?_,?_,?_,?_,?_,?_,info⟩
  all_goals rw [globals]

theorem Sends.sameState (sends : first.Sends second) : first.SameState second :=
  sameState_of_core sends.globals sends.ports

theorem info_setPort {value other : GptpPort} (same : value.info = other.info) (index : Nat) :
    ((inst.setPort port value).ports index).info = ((inst.setPort port other).ports index).info := by
  by_cases here : index = port
  · subst here
    rw [setPort_same,setPort_same,same]
  · rw [setPort_other here,setPort_other here]

private theorem sameState_setPort {value : GptpPort} (same : value.info = (inst.ports port).info) :
    inst.SameState (inst.setPort port value) := by
  refine ⟨rfl,rfl,rfl,rfl,rfl,rfl,rfl,rfl,?_⟩
  intro index
  by_cases here : index = port
  · subst here
    rw [setPort_same,same]
  · rw [setPort_other here]

private theorem sameState_setPorts {value other : GptpPort} (same : other.info = value.info) :
    (inst.setPort port value).SameState (inst.setPort port other) :=
  ⟨rfl,rfl,rfl,rfl,rfl,rfl,rfl,rfl,info_setPort same⟩

theorem sameState_requestSelection : inst.SameState (inst.requestSelection port) :=
  ⟨rfl,rfl,rfl,rfl,rfl,rfl,rfl,rfl,fun _ => rfl⟩

end Information

section Sent
variable {first second third : GptpInstance} {right strong : Nat → AnnounceTx → Prop}

def SentOnly (first second : GptpInstance) (right : Nat → AnnounceTx → Prop) : Prop :=
  ∃ sent, second.outputs = first.outputs ++ sent ∧
    ∀ port message, .announce port message ∈ sent → right port message

theorem SentOnly.of_eq (same : second.outputs = first.outputs) : first.SentOnly second right :=
  ⟨[],by simp [same],fun _ _ member => absurd member List.not_mem_nil⟩

theorem SentOnly.mono (sent : first.SentOnly second strong)
    (weaken : ∀ port message, strong port message → right port message) : first.SentOnly second right := by
  obtain ⟨sent,outputs,all⟩ := sent
  exact ⟨sent,outputs,fun port message member => weaken port message (all port message member)⟩

theorem SentOnly.trans (left : first.SentOnly second right) (after : second.SentOnly third right) :
    first.SentOnly third right := by
  obtain ⟨sent,outputs,all⟩ := left
  obtain ⟨sent',outputs',all'⟩ := after
  refine ⟨sent ++ sent',by rw [outputs',outputs,List.append_assoc],?_⟩
  intro port message member
  rcases List.mem_append.mp member with early | late
  · exact all port message early
  · exact all' port message late

theorem SentOnly.of_emit {output : GptpOutput} (quiet : ∀ port message, output ≠ .announce port message) :
    first.SentOnly (first.emit output) right := by
  refine ⟨[output],rfl,?_⟩
  intro port message member
  exact absurd (List.mem_singleton.mp member).symm (quiet port message)

theorem SentOnly.of_onlyAnnounces (sent : first.OnlyAnnounces second) :
    first.SentOnly second fun port message => first.role port = .masterPort ∧ first.Announces message := by
  obtain ⟨sent,outputs,all⟩ := sent
  refine ⟨sent,outputs,?_⟩
  intro port message member
  obtain ⟨port',message',same,master,announces⟩ := all _ member
  cases same
  exact ⟨master,announces⟩

private theorem sentOnly_ite {p : Prop} [Decidable p] (left : first.SentOnly second right)
    (after : first.SentOnly third right) : first.SentOnly (if p then second else third) right := by
  split
  · exact left
  · exact after

section
variable (inst : GptpInstance)
include inst

private theorem gptpIpcGmStatus_sent : inst.SentOnly inst.gptpIpcGmStatus right :=
  sentOnly_ite (.of_eq rfl) (.of_emit (by simp))

theorem gptpGmIndication_sent (vector : PriorityVector) :
    inst.SentOnly (inst.gptpGmIndication vector) right := by
  refine sentOnly_ite (.of_eq rfl) ?_
  have changed : inst.SentOnly {inst with gmInfoVector := vector} right := .of_eq rfl
  exact (changed.trans (gptpIpcGmStatus_sent _)).trans (.of_emit (by simp))

theorem notifyGrandmaster_sent (previous : Bool) (best : PriorityVector) :
    inst.SentOnly (inst.notifyGrandmaster previous best) right := by
  have told : inst.SentOnly (if inst.isGrandmaster = previous then inst
      else inst.emit (.systemRoleChange inst.isGrandmaster)) right :=
    sentOnly_ite (.of_eq rfl) (.of_emit (by simp))
  exact told.trans (sentOnly_ite (gptpGmIndication_sent _ _) (.of_eq rfl))

theorem updtRolesTree_sent : inst.SentOnly inst.updtRolesTree right := by
  have roles : inst.SentOnly inst.updtGmPriority.updtPortRoles.updtPseudoPort right := .of_eq rfl
  have traced : inst.updtGmPriority.updtPortRoles.updtPseudoPort.SentOnly
      inst.updtGmPriority.updtPortRoles.updtPseudoPort.updtPathTrace right :=
    sentOnly_ite (.of_eq rfl) (.of_eq rfl)
  exact (roles.trans traced).trans (notifyGrandmaster_sent _ _ _)

end

theorem Selects.sent (selects : first.Selects second) :
    first.SentOnly second fun port message => second.role port = .masterPort ∧ second.Announces message := by
  have roles : first.SentOnly first.chosen fun port message =>
      second.role port = .masterPort ∧ second.Announces message := by
    have sent : first.cleared.SentOnly first.cleared.updtRolesTree fun port message =>
        second.role port = .masterPort ∧ second.Announces message := updtRolesTree_sent _
    exact sent
  refine roles.trans ((SentOnly.of_onlyAnnounces selects.announces).mono ?_)
  intro port message sent
  rw [selects.globals]
  exact sent

theorem Sends.sent (sends : first.Sends second) :
    first.SentOnly second fun port message => second.role port = .masterPort ∧ second.Announces message := by
  refine (SentOnly.of_onlyAnnounces sends.announces).mono ?_
  intro port message sent
  have globals := sends.globals
  rw [globals]
  exact sent

end Sent

section Outcome

def Accepts (inst : GptpInstance) (port : Nat) (announce : AnnouncePdu) : Prop :=
  port < inst.numberPorts ∧ (inst.ports port).capable = true ∧ inst.announceQualifies announce = true

instance (inst : GptpInstance) (port : Nat) (announce : AnnouncePdu) : Decidable (inst.Accepts port announce) :=
  inferInstanceAs (Decidable (_ ∧ _))

def noted (port : Nat) (announce : AnnouncePdu) (inst : GptpInstance) : GptpInstance :=
  if inst.role port = .slavePort ∧ announce.hasPathTrace then inst.storePathTrace announce else inst

def judged (port : Nat) (value : GptpPort) (announce : AnnouncePdu) : GptpPort :=
  if Superior port value announce then adopting port {value with announceRx := announce}
  else passingOver port {value with announceRx := announce}

def reopened (value old : GptpPort) : GptpPort :=
  if value.capable = old.capable then value
  else if value.capable then ageing value
  else closed value

def heeded (input : GptpInput) (inst : GptpInstance) : GptpInstance :=
  match input with
  | .announce port announce fits =>
    if fits ∧ inst.Accepts port announce then
      (inst.noted port announce).setPort port (judged port (inst.ports port) announce)
    else inst
  | .announceTimeout port =>
    if port < inst.numberPorts ∧ (inst.ports port).infoIs = .received ∧ inst.Expires .announceTimeout then
      inst.setPort port (ageing (inst.ports port))
    else inst
  | .syncTimeout port =>
    if port < inst.numberPorts ∧ (inst.ports port).infoIs = .received ∧ inst.Expires .syncTimeout then
      inst.setPort port (ageing (inst.ports port))
    else inst
  | .transmitTimer _ => inst
  | .linkStatus port operational =>
    if port < inst.numberPorts then
      inst.setPort port (reopened {inst.ports port with portOper := operational} (inst.ports port))
    else inst
  | .asCapable port capable =>
    if port < inst.numberPorts then
      inst.setPort port (reopened {inst.ports port with asCapable := capable} (inst.ports port))
    else inst
  | .priority1 value => inst.setPriority value inst.systemPriority.rootSystemIdentity.priority2
  | .priority2 value => inst.setPriority inst.systemPriority.rootSystemIdentity.priority1 value

def Reselecting (inst : GptpInstance) : GptpInput → Prop
  | .announce port announce fits =>
    (fits = true ∧ inst.Accepts port announce) ∧ Superior port (inst.ports port) announce
  | .announceTimeout port =>
    port < inst.numberPorts ∧ (inst.ports port).infoIs = .received ∧ inst.Expires .announceTimeout
  | .syncTimeout port =>
    port < inst.numberPorts ∧ (inst.ports port).infoIs = .received ∧ inst.Expires .syncTimeout
  | .linkStatus port operational => port < inst.numberPorts ∧
    ({inst.ports port with portOper := operational} : GptpPort).capable ≠ (inst.ports port).capable
  | .asCapable port capable => port < inst.numberPorts ∧
    ({inst.ports port with asCapable := capable} : GptpPort).capable ≠ (inst.ports port).capable
  | _ => False

instance (inst : GptpInstance) (input : GptpInput) : Decidable (inst.Reselecting input) :=
  match input with
  | .announce _ _ _ => inferInstanceAs (Decidable ((_ ∧ _) ∧ _))
  | .announceTimeout _ => inferInstanceAs (Decidable (_ ∧ _))
  | .syncTimeout _ => inferInstanceAs (Decidable (_ ∧ _))
  | .transmitTimer _ => inferInstanceAs (Decidable False)
  | .linkStatus _ _ => inferInstanceAs (Decidable (_ ∧ _))
  | .asCapable _ _ => inferInstanceAs (Decidable (_ ∧ _))
  | .priority1 _ => inferInstanceAs (Decidable False)
  | .priority2 _ => inferInstanceAs (Decidable False)

/-- The step rests again, has sent the announces of the instance it leaves, and is the change of
information with a selection where one is due. -/
structure Outcome (inst : GptpInstance) (input : GptpInput) (second : GptpInstance) : Prop where
  rest : second.Rest
  sent : inst.SentOnly second fun port message => second.role port = .masterPort ∧ second.Announces message
  kept : ¬ inst.Reselecting input → (inst.heeded input).SameState second
  selected : inst.Reselecting input →
    ∃ first middle, (inst.heeded input).SameState first ∧ first.Selects middle ∧ middle.SameState second

variable {inst second third : GptpInstance} {port : Nat}

theorem Rest.sends (rest : inst.Rest) (sends : inst.Sends second) : second.Rest := by
  have globals := sends.globals
  have numberPorts : second.numberPorts = inst.numberPorts := by rw [globals]
  refine ⟨rest.running.congr globals,by rw [globals]; exact rest.faultless,?_⟩
  intro port inside
  have here := rest.ports port (numberPorts ▸ inside)
  have core := sends.ports port
  have message := core_congr core (·.rcvdMsg) fun _ => rfl
  have pending := core_congr core (·.rcvdAnnouncePar) fun _ => rfl
  have update := core_congr core (·.updtInfo) fun _ => rfl
  have capable := core_congr core (·.capable) fun _ => rfl
  have state := core_congr core (·.announceInfoState) fun _ => rfl
  have info := core_congr core (·.infoIs) fun _ => rfl
  have adopted := core_congr core (·.adopted) fun _ => rfl
  have vector := core_congr core (·.portPriority) fun _ => rfl
  constructor
  · rw [message,here.noMessage]
  · rw [pending,here.noAnnounce]
  · rw [update,here.noUpdate]
  · rw [capable,state,info]
    exact here.disabled
  · rw [capable,state,info]
    exact here.enabled
  · unfold Stored
    rw [info,adopted,vector]
    exact here.stored

theorem noted_same (inst : GptpInstance) (port : Nat) (announce : AnnouncePdu) :
    inst.noted port announce = {inst with
      pathTrace := (inst.noted port announce).pathTrace
      numPtlv := (inst.noted port announce).numPtlv
      outputs := (inst.noted port announce).outputs} := by
  unfold noted storePathTrace gptpIpcGmStatus
  split
  · dsimp only
    split <;> rfl
  · rfl

theorem noted_config (announce : AnnouncePdu) : (inst.noted port announce).config = inst.config := by
  rw [noted_same]

private theorem heeded_config (input : GptpInput) : (inst.heeded input).config = inst.config := by
  cases input with
  | announce port announce fits =>
    unfold heeded
    dsimp only
    split
    · exact noted_config announce
    · rfl
  | announceTimeout | syncTimeout | linkStatus | asCapable => exact (apply_ite config ..).trans (ite_self _)
  | transmitTimer | priority1 | priority2 => rfl

variable {input : GptpInput}

section
variable (outcome : inst.Outcome input second)
include outcome

theorem Outcome.config : second.config = inst.config := by
  by_cases due : inst.Reselecting input
  · obtain ⟨first,middle,heeded,selects,same⟩ := outcome.selected due
    rw [same.config,selects.config,heeded.config,heeded_config]
  · rw [(outcome.kept due).config,heeded_config]

theorem Outcome.inside (inside : port < inst.numberPorts) : port < second.numberPorts := by
  rw [show second.numberPorts = inst.numberPorts from congrArg GptpConfig.numberPorts outcome.config]
  exact inside

theorem Outcome.sends (sends : second.Sends third) : inst.Outcome input third := by
  have state := sends.sameState
  have globals := sends.globals
  refine ⟨outcome.rest.sends sends,(outcome.sent.mono ?_).trans sends.sent,
    fun quiet => (outcome.kept quiet).trans state,?_⟩
  · intro port message sent
    rw [globals]
    exact sent
  · intro due
    obtain ⟨first,middle,heeded,selects,same⟩ := outcome.selected due
    exact ⟨first,middle,heeded,selects,same.trans state⟩

end

private theorem portAnnounceRcvSm_rest (rest : inst.Rest) (inside : port < inst.numberPorts) :
    inst.portAnnounceRcvSm port = inst := by
  have pending := (rest.ports port inside).noAnnounce
  have pass : inst.rcvSmPass port = inst := by
    unfold rcvSmPass
    rw [pending]
    rfl
  unfold portAnnounceRcvSm
  simp only [rest.running.standard,rest.running.notBegin,rest.running.instanceEnable,pending,pass,
    Bool.false_eq_true,if_false,Bool.not_true,Bool.false_and,Bool.or_self,if_true]

private theorem outcome_of_kept (rest : second.Rest) (quiet : ¬ inst.Reselecting input)
    (same : (inst.heeded input).SameState second) (outputs : inst.SentOnly second fun _ _ => False) :
    inst.Outcome input second :=
  ⟨rest,outputs.mono fun _ _ never => never.elim,fun _ => same,fun due => absurd due quiet⟩

private theorem outcome_of_selects {before : GptpInstance} {value : GptpPort} (rest : second.Rest)
    (due : inst.Reselecting input) (selects : before.Reselects port value second)
    (same : (inst.heeded input).SameState (before.setPort port value))
    (outputs : inst.SentOnly before fun _ _ => False) : inst.Outcome input second := by
  refine ⟨rest,?_,fun quiet => absurd due quiet,fun _ => ⟨_,second,same.trans ?_,selects,.refl second⟩⟩
  · have sent : inst.SentOnly before fun port message =>
        second.role port = .masterPort ∧ second.Announces message := outputs.mono fun _ _ never => never.elim
    have silent : before.SentOnly ((before.setPort port value).requestSelection port) fun port message =>
        second.role port = .masterPort ∧ second.Announces message := .of_eq rfl
    exact (sent.trans silent).trans selects.sent
  · exact sameState_requestSelection

end Outcome

section Step
variable {inst : GptpInstance} {port : Nat}

/-- The port with another link status or another finding of `gptp_update_as_capable`. -/
def relinked (operational asCapable : Bool) (value : GptpPort) : GptpPort :=
  {value with portOper := operational, asCapable := asCapable}

variable {operational : Bool}

theorem relinked_rest {asCapable : Bool} {value : GptpPort} (rest : PortRest port value)
    (unchanged : (relinked operational asCapable value).capable = value.capable) :
    PortRest port (relinked operational asCapable value) := by
  refine ⟨rest.noMessage,rest.noAnnounce,rest.noUpdate,?_,?_,rest.stored⟩
  · rw [unchanged]
    exact rest.disabled
  · rw [unchanged]
    exact rest.enabled

private theorem infoSm_reopened {asCapable : Bool} {input : GptpInput} (rest : inst.Rest) (inside : port < inst.numberPorts)
    (heeded : inst.heeded input =
      inst.setPort port (reopened (relinked operational asCapable (inst.ports port)) (inst.ports port)))
    (reselecting : inst.Reselecting input ↔
      (relinked operational asCapable (inst.ports port)).capable ≠ (inst.ports port).capable) :
    inst.Outcome input
      ((inst.setPort port (relinked operational asCapable (inst.ports port))).infoSm .run port) := by
  have here := rest.ports port inside
  have but := rest.but inside (relinked operational asCapable (inst.ports port))
  have same : (inst.setPort port (relinked operational asCapable (inst.ports port))).ports port =
      relinked operational asCapable (inst.ports port) := setPort_same ..
  by_cases unchanged : (relinked operational asCapable (inst.ports port)).capable = (inst.ports port).capable
  · have total : (inst.setPort port (relinked operational asCapable (inst.ports port))).Rest := by
      have whole := but.rest (relinked_rest here unchanged)
      rw [setPort_setPort] at whole
      exact whole
    rw [infoSm_rest total inside]
    refine outcome_of_kept total (fun due => reselecting.mp due unchanged) ?_ (.of_eq rfl)
    rw [heeded]
    unfold reopened
    rw [if_pos unchanged]
    exact .refl _
  · have due := reselecting.mpr unchanged
    cases on : (relinked operational asCapable (inst.ports port)).capable with
    | true =>
      have off : (inst.ports port).capable = false := by
        rw [on] at unchanged
        exact Bool.eq_false_iff.mpr (Ne.symm unchanged)
      obtain ⟨selects,final⟩ := infoSm_opens .run but (by rw [same]; exact on)
        (by rw [same]; exact (here.disabled off).1) (by rw [same]; exact here.noMessage)
        (by rw [same]; exact here.noAnnounce)
      refine outcome_of_selects final due selects ?_ (.of_eq rfl)
      rw [heeded,same,setPort_setPort]
      unfold reopened
      rw [if_neg unchanged,on]
      exact .refl _
    | false =>
      have was : (inst.ports port).capable = true := by
        rw [on] at unchanged
        exact Bool.eq_true_of_not_eq_false (Ne.symm unchanged)
      obtain ⟨selects,final⟩ := infoSm_closes .run but (by rw [same]; exact on)
        (by rw [same]; exact (here.enabled was).2.1) (by rw [same]; exact here.noAnnounce)
        (by rw [same]; exact here.noUpdate)
      refine outcome_of_selects final due selects ?_ (.of_eq rfl)
      rw [heeded,same,setPort_setPort]
      unfold reopened
      rw [if_neg unchanged,on]
      exact .refl _

theorem linkStatus_outcome (rest : inst.Rest) (inside : port < inst.numberPorts) :
    inst.Outcome (.linkStatus port operational) (inst.gptpLinkStatus port operational) := by
  have info : inst.Outcome (.linkStatus port operational)
      ((inst.setPort port (relinked operational (inst.ports port).asCapable (inst.ports port))).infoSm .run port) := by
    apply infoSm_reopened rest inside
    · exact if_pos inside
    · exact and_iff_right inside
  have receives := portAnnounceRcvSm_rest info.rest (info.inside inside)
  have result : inst.gptpLinkStatus port operational =
      ((inst.setPort port (relinked operational (inst.ports port).asCapable (inst.ports port))).infoSm .run
        port).portAnnounceTransmitSm .run port := by
    rw [← receives]
    rfl
  rw [result]
  exact info.sends (portAnnounceTransmitSm_sends .run)

theorem asCapable_outcome {capable : Bool} (rest : inst.Rest) (inside : port < inst.numberPorts) :
    inst.Outcome (.asCapable port capable) (inst.gptpUpdateAsCapable port capable) := by
  have heeded : inst.heeded (.asCapable port capable) =
      inst.setPort port (reopened (relinked (inst.ports port).portOper capable (inst.ports port))
        (inst.ports port)) := if_pos inside
  have reselecting : inst.Reselecting (.asCapable port capable) ↔
      (relinked (inst.ports port).portOper capable (inst.ports port)).capable ≠ (inst.ports port).capable :=
    and_iff_right inside
  have ignored : (relinked (inst.ports port).portOper capable (inst.ports port)).capable =
      (inst.ports port).capable → inst.Outcome (.asCapable port capable) inst := by
    intro unchanged
    refine outcome_of_kept rest (fun due => reselecting.mp due unchanged) ?_ (.of_eq rfl)
    rw [heeded]
    unfold reopened
    rw [if_pos unchanged]
    refine ⟨rfl,rfl,rfl,rfl,rfl,rfl,rfl,rfl,?_⟩
    intro other
    by_cases here : other = port
    · subst here
      rw [setPort_same]
      unfold GptpPort.info
      rw [unchanged]
      rfl
    · rw [setPort_other here]
  unfold gptpUpdateAsCapable
  split
  next same =>
    apply ignored
    subst same
    rfl
  · split
    next forbidden =>
      apply ignored
      simp only [Bool.and_eq_true,Bool.not_eq_true'] at forbidden
      unfold relinked GptpPort.capable
      simp only [forbidden.2,Bool.and_false,Bool.false_and]
    · have info := infoSm_reopened rest inside heeded reselecting
      unfold gptpAsCapableUpdateFsm
      have receives := portAnnounceRcvSm_rest info.rest (info.inside inside)
      exact receives.symm ▸ info

theorem timeout_outcome {input : GptpInput} {event : AnnounceInfoEvent} (rest : inst.Rest)
    (inside : port < inst.numberPorts) (heeded : inst.heeded input =
      if port < inst.numberPorts ∧ (inst.ports port).infoIs = .received ∧ inst.Expires event then
        inst.setPort port (ageing (inst.ports port))
      else inst) (reselecting : inst.Reselecting input ↔
      port < inst.numberPorts ∧ (inst.ports port).infoIs = .received ∧ inst.Expires event) :
    inst.Outcome input (inst.infoSm event port) := by
  by_cases due : (inst.ports port).infoIs = .received ∧ inst.Expires event
  · obtain ⟨selects,final⟩ := infoSm_expires rest inside due.1 due.2
    refine outcome_of_selects final (reselecting.mpr ⟨inside,due⟩) selects ?_ (.of_eq rfl)
    rw [heeded,if_pos ⟨inside,due⟩]
    exact .refl _
  · rw [infoSm_persists rest inside due]
    refine outcome_of_kept rest (fun selecting => due (reselecting.mp selecting).2) ?_ (.of_eq rfl)
    rw [heeded,if_neg fun selecting => due selecting.2]
    exact .refl _

end Step

section Announce
variable {inst : GptpInstance} {port : Nat} {announce : AnnouncePdu}

theorem gptpIpcGmStatus_setPort (inst : GptpInstance) (value : GptpPort) :
    (inst.setPort port value).gptpIpcGmStatus = inst.gptpIpcGmStatus.setPort port value := by
  unfold gptpIpcGmStatus
  by_cases long : inst.numPtlv > MAX_PTLV_ENTRIES
  · rw [if_pos long]
    exact if_pos long
  · rw [if_neg long]
    exact if_neg long

theorem storePathTrace_setPort {value : GptpPort} :
    (inst.setPort port value).storePathTrace announce = (inst.storePathTrace announce).setPort port value :=
  gptpIpcGmStatus_setPort {inst with
    pathTrace := fun index => (announce.storedTrace ++ [inst.thisClock]).getD index (inst.pathTrace index)
    numPtlv := (announce.storedTrace ++ [inst.thisClock]).length} value

private theorem noted_sent {right : Nat → AnnounceTx → Prop} : inst.SentOnly (inst.noted port announce) right := by
  refine sentOnly_ite ?_ (.of_eq rfl)
  exact gptpIpcGmStatus_sent {inst with
    pathTrace := fun index => (announce.storedTrace ++ [inst.thisClock]).getD index (inst.pathTrace index)
    numPtlv := (announce.storedTrace ++ [inst.thisClock]).length}

theorem noted_ports : (inst.noted port announce).ports = inst.ports := by
  rw [noted_same]

theorem Rest.noted (rest : inst.Rest) : (inst.noted port announce).Rest := by
  rw [noted_same]
  exact ⟨{rest.running with},
    rest.faultless,rest.ports⟩

def pending (announce : AnnouncePdu) (qualified : Bool) (value : GptpPort) : GptpPort :=
  {value with
    announceRx := announce
    rcvdAnnouncePtr := true
    rcvdAnnouncePar := false
    rcvdMsg := qualified
    announceRcvState := .receive}

def arrived (announce : AnnouncePdu) (value : GptpPort) : GptpPort :=
  {value with
    announceRx := announce
    rcvdAnnouncePtr := true
    rcvdAnnouncePar := true}

theorem rcvSmReceive_arrived :
    (inst.setPort port (arrived announce (inst.ports port))).rcvSmReceive port =
      (if inst.announceQualifies announce then
        ((inst.noted port announce).setPort port (pending announce true (inst.ports port)))
      else inst.setPort port (pending announce false (inst.ports port))).infoSm .run port := by
  unfold rcvSmReceive
  simp only [setPort_same,arrived,Bool.not_true,Bool.false_eq_true,if_false]
  unfold qualifyAnnounce
  rw [show (inst.setPort port _).announceQualifies announce = inst.announceQualifies announce from rfl]
  cases qualifies : inst.announceQualifies announce with
  | false =>
    simp only [Bool.not_false,if_true,setPort_same,setPort_setPort,Bool.false_eq_true,if_false]
    rfl
  | true =>
    rw [if_neg (by simp),if_pos rfl]
    by_cases stored : inst.role port = .slavePort ∧ announce.hasPathTrace
    · unfold noted
      rw [if_pos stored,if_pos (show (inst.setPort port _).role port = .slavePort ∧ _ from stored),
        storePathTrace_setPort]
      simp only [setPort_same,setPort_setPort]
      rfl
    · unfold noted
      rw [if_neg stored,if_neg (show ¬ ((inst.setPort port _).role port = .slavePort ∧ _) from stored)]
      simp only [setPort_same,setPort_setPort]
      rfl

theorem receives_pending {value : GptpPort} (rest : PortRest port value) (capable : value.capable = true)
    (near : announce.stepsRemoved < 255) : Receives port (pending announce true value) :=
  ⟨capable,(rest.enabled capable).1,(rest.enabled capable).2,rest.noUpdate,rfl,rfl,rfl,near,rest.stored⟩

theorem near_of_qualifies (qualifies : inst.announceQualifies announce = true) : announce.stepsRemoved < 255 := by
  unfold announceQualifies at qualifies
  simp only [Bool.and_eq_true,decide_eq_true_eq] at qualifies
  exact qualifies.1.2

theorem rest_unqualified {value : GptpPort} (announce : AnnouncePdu) (rest : PortRest port value) :
    PortRest port (pending announce false value) :=
  ⟨rfl,rfl,rest.noUpdate,rest.disabled,rest.enabled,rest.stored⟩

theorem rcvSmReceive_outcome (rest : inst.Rest) (inside : port < inst.numberPorts)
    (capable : (inst.ports port).capable = true) :
    inst.Outcome (.announce port announce true)
      ((inst.setPort port (arrived announce (inst.ports port))).rcvSmReceive port) := by
  have here := rest.ports port inside
  rw [rcvSmReceive_arrived]
  by_cases qualifies : inst.announceQualifies announce = true
  · rw [if_pos qualifies]
    have accepts : inst.Accepts port announce := ⟨inside,capable,qualifies⟩
    have notedRest : (inst.noted port announce).Rest := rest.noted
    have within : port < (inst.noted port announce).numberPorts := by
      unfold numberPorts
      rw [noted_config]
      exact inside
    have but := notedRest.but within (pending announce true (inst.ports port))
    have same : ((inst.noted port announce).setPort port (pending announce true (inst.ports port))).ports port =
        pending announce true (inst.ports port) := setPort_same ..
    have receives := receives_pending here capable (near_of_qualifies qualifies)
    have heeded : inst.heeded (.announce port announce true) =
        (inst.noted port announce).setPort port (judged port (inst.ports port) announce) :=
      if_pos ⟨rfl,accepts⟩
    by_cases better : Superior port (inst.ports port) announce
    · obtain ⟨selects,final⟩ := infoSm_adopts but (by rw [same]; exact receives) (by rw [same]; exact better)
      refine outcome_of_selects final ⟨⟨rfl,accepts⟩,better⟩ selects ?_ noted_sent
      rw [heeded,same,setPort_setPort]
      unfold judged
      rw [if_pos better]
      exact sameState_setPorts rfl
    · have passed := infoSm_passesOver but (by rw [same]; exact receives) (by rw [same]; exact better)
      rw [passed,same,setPort_setPort]
      refine outcome_of_kept ?_ (fun due => better due.2) ?_ noted_sent
      · have value : PortRest port (passingOver port (((inst.noted port announce).setPort port
            (pending announce true (inst.ports port))).ports port)) :=
          passingOver_rest (by rw [same]; exact receives)
        have whole := but.rest value
        rw [same,setPort_setPort] at whole
        exact whole
      · rw [heeded]
        unfold judged
        rw [if_neg better]
        exact sameState_setPorts rfl
  · rw [if_neg qualifies]
    have total : (inst.setPort port (pending announce false (inst.ports port))).Rest := by
      have whole := (rest.but inside (inst.ports port)).rest (rest_unqualified announce here)
      rw [setPort_setPort] at whole
      exact whole
    rw [infoSm_rest total inside]
    have heeded : inst.heeded (.announce port announce true) = inst :=
      if_neg fun accepts => qualifies accepts.2.2.2
    refine outcome_of_kept total (fun due => qualifies due.1.2.2.2) ?_ (.of_eq rfl)
    rw [heeded]
    exact sameState_setPort rfl

theorem announce_outcome (rest : inst.Rest) (inside : port < inst.numberPorts) :
    inst.Outcome (.announce port announce true) (inst.gptpHandleAnnounce port announce true) := by
  have here := rest.ports port inside
  have handled : inst.gptpHandleAnnounce port announce true =
      (inst.setPort port (arrived announce (inst.ports port))).portAnnounceRcvSm port := by
    unfold gptpHandleAnnounce
    rw [rest.running.standard]
    rfl
  have running : (inst.setPort port (arrived announce (inst.ports port))).Running :=
    {rest.running with}
  have external : (inst.setPort port (arrived announce (inst.ports port))).config.externalPortConfigurationEnabled =
      false := inst.config.external_off
  rw [handled]
  unfold portAnnounceRcvSm
  rw [running.standard,running.notBegin,running.instanceEnable,external,setPort_same,if_neg (by decide)]
  cases capable : (inst.ports port).capable with
  | false =>
    have off : (arrived announce (inst.ports port)).capable = false := capable
    rw [off,if_pos (by rfl)]
    have heeded : inst.heeded (.announce port announce true) = inst :=
      if_neg fun accepts => absurd (capable.symm.trans accepts.2.2.1) (by decide)
    unfold rcvSmDiscard
    rw [setPort_same,setPort_setPort]
    have total : (inst.setPort port {arrived announce (inst.ports port) with
        rcvdAnnouncePar := false
        rcvdMsg := false
        announceRcvState := .discard}).Rest := by
      have value : PortRest port {arrived announce (inst.ports port) with
          rcvdAnnouncePar := false
          rcvdMsg := false
          announceRcvState := .discard} := ⟨rfl,rfl,here.noUpdate,here.disabled,here.enabled,here.stored⟩
      have whole := (rest.but inside (inst.ports port)).rest value
      rw [setPort_setPort] at whole
      exact whole
    refine outcome_of_kept total (fun due => absurd (capable.symm.trans due.1.2.2.1) (by decide)) ?_ (.of_eq rfl)
    rw [heeded]
    exact sameState_setPort rfl
  | true =>
    have on : (arrived announce (inst.ports port)).capable = true := capable
    have outcome : inst.Outcome (.announce port announce true)
        ((inst.setPort port (arrived announce (inst.ports port))).rcvSmReceive port) :=
      rcvSmReceive_outcome rest inside capable
    have pass : (inst.setPort port (arrived announce (inst.ports port))).rcvSmPass port =
        (inst.setPort port (arrived announce (inst.ports port))).rcvSmReceive port := by
      unfold rcvSmPass
      rw [setPort_same,on]
      have quiet : (arrived announce (inst.ports port)).rcvdMsg = false := here.noMessage
      rw [quiet]
      cases (arrived announce (inst.ports port)).announceRcvState <;> rfl
    have second : ((inst.setPort port (arrived announce (inst.ports port))).rcvSmReceive port).rcvSmPass port =
        (inst.setPort port (arrived announce (inst.ports port))).rcvSmReceive port := by
      have quiet := (outcome.rest.ports port (outcome.inside inside)).noAnnounce
      unfold rcvSmPass
      rw [quiet]
      rfl
    rw [on,if_neg (by simp),pass]
    dsimp only
    rw [second]
    split <;> exact outcome

end Announce

section Step
variable {inst : GptpInstance}

theorem transmitTimer_outcome (port : Nat) (rest : inst.Rest) :
    inst.Outcome (.transmitTimer port) (inst.portAnnounceTransmitSm .transmitInterval port) := by
  have quiet : inst.Outcome (.transmitTimer port) inst :=
    outcome_of_kept rest (fun due => due) (.refl inst) (.of_eq rfl)
  exact quiet.sends (portAnnounceTransmitSm_sends .transmitInterval)

theorem setPriority_rest {first second : UInt8} (rest : inst.Rest) : (inst.setPriority first second).Rest :=
  ⟨{rest.running with},rest.faultless,rest.ports⟩

private theorem outside_outcome {input : GptpInput} (rest : inst.Rest) (heeded : inst.heeded input = inst)
    (quiet : ¬ inst.Reselecting input) : inst.Outcome input inst :=
  outcome_of_kept rest quiet (by rw [heeded]; exact .refl inst) (.of_eq rfl)

theorem gptpStep_outcome (input : GptpInput) (rest : inst.Rest) : inst.Outcome input (gptpStep input inst) := by
  unfold gptpStep
  rw [rest.running.instanceEnable]
  cases input with
  | announce port announce fits =>
    by_cases inside : port < inst.numberPorts
    · cases fits with
      | true =>
        simp only [inside,if_true]
        exact announce_outcome rest inside
      | false =>
        have ignored : inst.gptpHandleAnnounce port announce false = inst := by
          unfold gptpHandleAnnounce
          simp
        simp only [inside,if_true,ignored]
        have refused : ¬ (false = true ∧ inst.Accepts port announce) := fun accepts => Bool.false_ne_true accepts.1
        have heeded : inst.heeded (.announce port announce false) = inst := by
          unfold heeded
          exact if_neg refused
        exact outside_outcome rest heeded fun due => refused due.1
    · simp only [inside,if_false]
      exact outside_outcome rest (if_neg fun accepts => inside accepts.2.1) fun due => inside due.1.2.1
  | announceTimeout port | syncTimeout port =>
    by_cases inside : port < inst.numberPorts
    · simp only [inside,if_true]
      exact timeout_outcome rest inside rfl .rfl
    · simp only [inside,if_false]
      exact outside_outcome rest (if_neg fun due => inside due.1) fun due => inside due.1
  | transmitTimer port =>
    by_cases inside : port < inst.numberPorts
    · simp only [inside,if_true]
      exact transmitTimer_outcome port rest
    · simp only [inside,if_false]
      exact outside_outcome rest rfl fun due => due
  | linkStatus port operational =>
    by_cases inside : port < inst.numberPorts
    · simp only [inside,if_true]
      exact linkStatus_outcome rest inside
    · simp only [inside,if_false]
      exact outside_outcome rest (if_neg inside) fun due => inside due.1
  | asCapable port capable =>
    by_cases inside : port < inst.numberPorts
    · simp only [inside,if_true]
      exact asCapable_outcome rest inside
    · simp only [inside,if_false]
      exact outside_outcome rest (if_neg inside) fun due => inside due.1
  | priority1
  | priority2 => exact outcome_of_kept (setPriority_rest rest) (fun due => due) (.refl _) (.of_eq rfl)

end Step

end GptpInstance

end Genavb.Gptp
