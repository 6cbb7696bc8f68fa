import Genavb.Gptp.Reselect

/-! The announce information machine of a port at rest: what each event makes of it, and that
every port is at rest again afterwards. -/
namespace Genavb.Gptp

namespace GptpInstance

section Rest

def Stored (port : Nat) (value : GptpPort) : Prop :=
  value.infoIs = .received → ∃ announce, value.adopted = some announce ∧
    value.portPriority = messageVector port announce ∧ announce.stepsRemoved < 255

structure PortRest (port : Nat) (value : GptpPort) : Prop where
  noMessage : value.rcvdMsg = false
  noAnnounce : value.rcvdAnnouncePar = false
  noUpdate : value.updtInfo = false
  disabled : value.capable = false → value.announceInfoState = .disabled ∧ value.infoIs = .disabled
  enabled : value.capable = true →
    value.announceInfoState = .current ∧ value.infoIs ≠ .disabled ∧ value.infoIs ≠ .aged
  stored : Stored port value

structure Rest (inst : GptpInstance) : Prop where
  running : inst.Running
  faultless : inst.fault = false
  ports : ∀ port, port < inst.numberPorts → PortRest port (inst.ports port)

variable {inst first second : GptpInstance} {port : Nat} {value : GptpPort}

theorem PortRest.calm (rest : PortRest port value) : Calm value := by
  refine ⟨rest.noMessage,rest.disabled,?_,?_⟩
  · intro capable
    rw [(rest.enabled capable).1]
    exact ⟨by decide,(rest.enabled capable).2.1⟩
  · intro aged
    cases capable : value.capable with
    | true =>
      rw [(rest.enabled capable).1] at aged
      exact absurd aged (by decide)
    | false =>
      rw [(rest.disabled capable).1] at aged
      exact absurd aged (by decide)

theorem PortRest.ready (rest : PortRest port value) : Ready value := by
  refine ⟨rest.noMessage,?_,rest.calm.enabled,?_⟩
  · intro disabled
    exact ⟨(rest.disabled disabled).1,(rest.disabled disabled).2,rest.noUpdate⟩
  · intro aged
    cases capable : value.capable with
    | true =>
      rw [(rest.enabled capable).1] at aged
      exact absurd aged (by decide)
    | false =>
      rw [(rest.disabled capable).1] at aged
      exact absurd aged (by decide)

structure Primed (port : Nat) (value : GptpPort) : Prop where
  ready : Ready value
  noAnnounce : value.rcvdAnnouncePar = false
  stored : Stored port value

theorem PortRest.primed (rest : PortRest port value) : Primed port value :=
  ⟨rest.ready,rest.noAnnounce,rest.stored⟩

theorem settled_rest (ready : Ready (first.ports port)) (inside : port < first.numberPorts) :
    ((first.chosen.settled (first.chosen.ports port)).updtInfo = false) ∧
    ((first.ports port).capable = true →
      (first.chosen.settled (first.chosen.ports port)).announceInfoState = .current ∧
      (first.chosen.settled (first.chosen.ports port)).infoIs ≠ .disabled ∧
      (first.chosen.settled (first.chosen.ports port)).infoIs ≠ .aged) ∧
    ((first.ports port).capable = false →
      (first.chosen.settled (first.chosen.ports port)).announceInfoState = .disabled ∧
      (first.chosen.settled (first.chosen.ports port)).infoIs = .disabled) := by
  have capable := chosen_capable inside
  have info : (first.chosen.ports port).infoIs = (first.ports port).infoIs := by
    rw [chosen_ports inside]
    rfl
  have state : (first.chosen.ports port).announceInfoState = (first.ports port).announceInfoState := by
    rw [chosen_ports inside]
    rfl
  cases on : (first.ports port).capable with
  | false =>
    rw [settled_disabled (capable.trans on),info,state]
    obtain ⟨disabledState,disabledInfo,noUpdate⟩ := ready.disabled on
    refine ⟨?_,by simp,fun _ => ⟨disabledState,disabledInfo⟩⟩
    rw [chosen_ports inside]
    have kept : (first.cleared.updtGmPriority.assignRole (first.cleared.mastered port)).2 =
        (first.cleared.mastered port).updtInfo := assignRole_disabled disabledInfo
    exact kept.trans noUpdate
  | true =>
    cases update : (first.chosen.ports port).updtInfo with
    | true =>
      rw [settled_update (capable.trans on) update]
      exact ⟨rfl,fun _ => ⟨rfl,by simp,by simp⟩,by simp⟩
    | false =>
      rw [settled_kept (capable.trans on) update]
      refine ⟨update,fun _ => ⟨rfl,?_,?_⟩,by simp⟩
      · rw [info]
        exact (ready.enabled on).2
      · intro aged
        rw [info] at aged
        have master : first.cleared.updtGmPriority.assignRole (first.cleared.mastered port) = (.masterPort,true) :=
          assignRole_aged aged
        rw [chosen_ports inside,master] at update
        exact absurd update (by simp)

theorem Selects.rest (selects : first.Selects second) (running : first.Running) (faultless : first.fault = false)
    (primed : ∀ port, port < first.numberPorts → Primed port (first.ports port)) : second.Rest := by
  refine ⟨selects.running running,selects.fault.trans faultless,?_⟩
  intro port inside
  have inside : port < first.numberPorts := selects.numberPorts ▸ inside
  have core := selects.ports port inside
  have state := congrArg GptpPort.announceInfoState core
  have info := congrArg GptpPort.infoIs core
  have update := congrArg GptpPort.updtInfo core
  change (second.ports port).announceInfoState = (first.chosen.settled _).announceInfoState at state
  change (second.ports port).infoIs = (first.chosen.settled _).infoIs at info
  change (second.ports port).updtInfo = (first.chosen.settled _).updtInfo at update
  obtain ⟨noUpdate,enabled,disabled⟩ := settled_rest (primed port inside).ready inside
  constructor
  · rw [selects.rcvdMsg inside,(primed port inside).ready.noMessage]
  · rw [selects.rcvdAnnouncePar inside,(primed port inside).noAnnounce]
  · rw [update,noUpdate]
  · rw [selects.capable inside,state,info]
    exact disabled
  · rw [selects.capable inside,state,info]
    exact enabled
  · intro received
    obtain ⟨before,vector⟩ := selects.received inside received
    rw [selects.adopted inside,vector]
    exact (primed port inside).stored before

private theorem infoSmLoop_rest {select : GptpInstance → GptpInstance} {passes : Nat} (rest : inst.Rest)
    (inside : port < inst.numberPorts) : inst.infoSmLoop select port (passes + 1) .run = inst := by
  have here := rest.ports port inside
  cases capable : (inst.ports port).capable with
  | false => exact infoSmLoop_disabled rest.running here.calm capable
  | true => exact infoSmLoop_rests rest.running here.calm (here.enabled capable).1 here.noUpdate

theorem infoSm_rest (rest : inst.Rest) (inside : port < inst.numberPorts) : inst.infoSm .run port = inst := by
  unfold infoSm portAnnounceInfoSm
  rw [rest.running.standard]
  exact infoSmLoop_rest rest inside

end Rest

section Change
variable {inst second : GptpInstance} {port : Nat} {value : GptpPort}

def Reselects (inst : GptpInstance) (port : Nat) (value : GptpPort) (second : GptpInstance) : Prop :=
  ((inst.setPort port value).requestSelection port).Selects second

structure RestBut (port : Nat) (inst : GptpInstance) : Prop where
  running : inst.Running
  faultless : inst.fault = false
  inside : port < inst.numberPorts
  others : ∀ other, other < inst.numberPorts → other ≠ port → PortRest other (inst.ports other)

theorem Rest.but (rest : inst.Rest) (inside : port < inst.numberPorts) (value : GptpPort) :
    RestBut port (inst.setPort port value) := by
  refine ⟨{rest.running with},rest.faultless,inside,?_⟩
  intro other within apart
  rw [setPort_other apart]
  exact rest.ports other within

theorem setPort_setPort (first second : GptpPort) :
    (inst.setPort port first).setPort port second = inst.setPort port second := by
  unfold setPort
  rw [Function.update_idem]

theorem RestBut.primed (rest : RestBut port inst) (primed : Primed port value) :
    ∀ other, other < inst.numberPorts →
      Primed other (((inst.setPort port value).requestSelection port).ports other) := by
  intro other within
  change Primed other ((inst.setPort port value).ports other)
  by_cases here : other = port
  · subst here
    rw [setPort_same]
    exact primed
  · rw [setPort_other here]
    exact (rest.others other within here).primed

theorem RestBut.reselects (rest : RestBut port inst) (primed : Primed port value) :
    inst.Reselects port value
      (portStateSelectionSm SM_NESTING ((inst.setPort port value).requestSelection port)) ∧
    (portStateSelectionSm SM_NESTING ((inst.setPort port value).requestSelection port)).Rest := by
  have running : ((inst.setPort port value).requestSelection port).Running :=
    {rest.running with}
  have all := rest.primed primed
  have due : ((inst.setPort port value).requestSelection port).reselected = true := requestSelection_due rest.inside
  have selects : inst.Reselects port value
      (portStateSelectionSm (15 + 1) ((inst.setPort port value).requestSelection port)) :=
    portStateSelectionSm_selects running (fun other within => (all other within).ready) due
  exact ⟨selects,selects.rest running rest.faultless all⟩

def closed (value : GptpPort) : GptpPort :=
  {value with rcvdMsg := false, infoIs := .disabled, announceInfoState := .disabled}

theorem infoSm_closes (event : AnnounceInfoEvent) (rest : RestBut port inst) (off : (inst.ports port).capable = false)
    (was : (inst.ports port).infoIs ≠ .disabled) (noAnnounce : (inst.ports port).rcvdAnnouncePar = false)
    (noUpdate : (inst.ports port).updtInfo = false) :
    inst.Reselects port (closed (inst.ports port)) (inst.infoSm event port) ∧ (inst.infoSm event port).Rest := by
  have primed : Primed port (closed (inst.ports port)) := by
    refine ⟨⟨rfl,fun _ => ⟨rfl,rfl,noUpdate⟩,?_,?_⟩,noAnnounce,?_⟩
    · intro capable
      exact absurd (off.symm.trans capable) (by decide)
    · intro aged
      exact absurd aged (by simp [closed])
    · intro received
      exact absurd received (by simp [closed])
  have result : inst.infoSm event port =
      portStateSelectionSm SM_NESTING ((inst.setPort port (closed (inst.ports port))).requestSelection port) := by
    unfold infoSm portAnnounceInfoSm
    rw [rest.running.standard,show SM_PASSES = 7 + 1 from rfl,infoSmLoop,off]
    simp only [was,Bool.false_eq_true,if_false,Bool.not_false,Bool.true_and,ne_eq,not_false_eq_true,
      decide_true,Bool.or_true,if_true]
    rfl
  rw [result]
  exact rest.reselects primed

def ageing (value : GptpPort) : GptpPort := {value with infoIs := .aged, announceInfoState := .aged}

private theorem ageing_primed (capable : value.capable = true) (noMessage : value.rcvdMsg = false)
    (noAnnounce : value.rcvdAnnouncePar = false) : Primed port (ageing value) := by
  refine ⟨⟨noMessage,?_,?_,fun _ => rfl⟩,noAnnounce,?_⟩
  · intro disabled
    exact absurd (capable.symm.trans disabled) (by decide)
  · intro _
    exact ⟨by simp [ageing],by simp [ageing]⟩
  · intro received
    exact absurd received (by simp [ageing])

theorem infoSm_opens (event : AnnounceInfoEvent) (rest : RestBut port inst) (on : (inst.ports port).capable = true)
    (state : (inst.ports port).announceInfoState = .disabled) (noMessage : (inst.ports port).rcvdMsg = false)
    (noAnnounce : (inst.ports port).rcvdAnnouncePar = false) :
    inst.Reselects port (ageing (inst.ports port)) (inst.infoSm event port) ∧ (inst.infoSm event port).Rest := by
  obtain ⟨selects,final⟩ := rest.reselects (ageing_primed on noMessage noAnnounce)
  have inside : port < (portStateSelectionSm SM_NESTING
      ((inst.setPort port (ageing (inst.ports port))).requestSelection port)).numberPorts := by
    rw [Selects.numberPorts selects]
    exact rest.inside
  have result : inst.infoSm event port =
      portStateSelectionSm SM_NESTING ((inst.setPort port (ageing (inst.ports port))).requestSelection port) := by
    have pass : inst.infoSmPass (portStateSelectionSm SM_NESTING) port event =
        portStateSelectionSm SM_NESTING ((inst.setPort port (ageing (inst.ports port))).requestSelection port) := by
      unfold infoSmPass
      simp only [state,on,if_true]
      rfl
    have settled : ((portStateSelectionSm SM_NESTING
        ((inst.setPort port (ageing (inst.ports port))).requestSelection port)).ports port).capable = true := by
      rw [Selects.capable selects rest.inside]
      change ((inst.setPort port (ageing (inst.ports port))).ports port).capable = true
      rw [setPort_same]
      exact on
    unfold infoSm portAnnounceInfoSm
    rw [rest.running.standard,show SM_PASSES = 7 + 1 from rfl,infoSmLoop,on,rest.running.notBegin,
      rest.running.instanceEnable,pass]
    simp only [Bool.not_true,Bool.false_and,Bool.or_self,Bool.false_eq_true,if_false]
    rw [if_neg]
    · exact infoSmLoop_rest final inside
    · rw [((final.ports port inside).enabled settled).1,state]
      decide
  rw [result]
  exact ⟨selects,final⟩

variable {event : AnnounceInfoEvent}

private theorem infoSmLoop_enabled {passes : Nat} {select : GptpInstance → GptpInstance}
    (running : inst.Running) (on : (inst.ports port).capable = true) :
    inst.infoSmLoop select port (passes + 1) event =
      if ((inst.infoSmPass select port event).ports port).announceInfoState =
          (inst.ports port).announceInfoState then inst.infoSmPass select port event
      else (inst.infoSmPass select port event).infoSmLoop select port passes .run := by
  rw [infoSmLoop,on,running.notBegin,running.instanceEnable]
  rfl

private theorem infoSm_selected (rest : RestBut port inst)
    (state : (inst.ports port).announceInfoState = .current) (on : (inst.ports port).capable = true)
    (primed : Primed port value) (still : value.capable = true)
    (pass : inst.infoSmPass (portStateSelectionSm SM_NESTING) port event =
      portStateSelectionSm SM_NESTING ((inst.setPort port value).requestSelection port)) :
    inst.Reselects port value (inst.infoSm event port) ∧ (inst.infoSm event port).Rest := by
  obtain ⟨selects,final⟩ := rest.reselects primed
  have inside : port < (portStateSelectionSm SM_NESTING
      ((inst.setPort port value).requestSelection port)).numberPorts := by
    rw [Selects.numberPorts selects]
    exact rest.inside
  have capable : ((portStateSelectionSm SM_NESTING
      ((inst.setPort port value).requestSelection port)).ports port).capable = true := by
    rw [Selects.capable selects rest.inside]
    change ((inst.setPort port value).ports port).capable = true
    rw [setPort_same]
    exact still
  have result : inst.infoSm event port =
      portStateSelectionSm SM_NESTING ((inst.setPort port value).requestSelection port) := by
    unfold infoSm portAnnounceInfoSm
    rw [rest.running.standard,show SM_PASSES = 7 + 1 from rfl,if_neg (by decide),
      infoSmLoop_enabled rest.running on,pass,state,if_pos ((final.ports port inside).enabled capable).1]
  rw [result]
  exact ⟨selects,final⟩

def Expires (inst : GptpInstance) (event : AnnounceInfoEvent) : Prop :=
  event = .announceTimeout ∨ event = .syncTimeout ∧ inst.gmPresent = true

instance (inst : GptpInstance) (event : AnnounceInfoEvent) : Decidable (inst.Expires event) :=
  inferInstanceAs (Decidable (_ ∨ _))

theorem infoSm_expires (rest : inst.Rest) (inside : port < inst.numberPorts)
    (received : (inst.ports port).infoIs = .received) (expires : inst.Expires event) :
    inst.Reselects port (ageing (inst.ports port)) (inst.infoSm event port) ∧ (inst.infoSm event port).Rest := by
  have here := rest.ports port inside
  have on : (inst.ports port).capable = true := by
    cases capable : (inst.ports port).capable with
    | true => rfl
    | false =>
      rw [(here.disabled capable).2] at received
      exact absurd received (by decide)
  have state := (here.enabled on).1
  have but : RestBut port inst :=
    ⟨rest.running,rest.faultless,inside,fun other within _ => rest.ports other within⟩
  apply infoSm_selected but state on (ageing_primed on here.noMessage here.noAnnounce) on
  unfold infoSmPass
  rw [state]
  exact if_pos ⟨expires,received,by rw [here.noUpdate]; rfl,by rw [here.noMessage]; rfl⟩

theorem infoSm_persists (rest : inst.Rest) (inside : port < inst.numberPorts)
    (persists : ¬ ((inst.ports port).infoIs = .received ∧ inst.Expires event)) :
    inst.infoSm event port = inst := by
  have here := rest.ports port inside
  unfold infoSm portAnnounceInfoSm
  rw [rest.running.standard,if_neg (by decide),show SM_PASSES = 7 + 1 from rfl]
  cases on : (inst.ports port).capable with
  | false => exact infoSmLoop_disabled rest.running here.calm on
  | true =>
    have state := (here.enabled on).1
    have pass : inst.infoSmPass (portStateSelectionSm SM_NESTING) port event = inst := by
      have young : ¬ ((event = .announceTimeout ∨ event = .syncTimeout ∧ inst.gmPresent) ∧
          (inst.ports port).infoIs = .received ∧ !(inst.ports port).updtInfo ∧ !(inst.ports port).rcvdMsg) :=
        fun aged => persists ⟨aged.2.1,aged.1⟩
      unfold infoSmPass
      rw [state]
      rw [if_neg young]
      simp [here.noMessage,here.noUpdate]
    rw [infoSmLoop_enabled rest.running on,pass,if_pos rfl]

end Change

section Reception
variable {inst : GptpInstance} {port : Nat}

structure Receives (port : Nat) (value : GptpPort) : Prop where
  capable : value.capable = true
  state : value.announceInfoState = .current
  enabled : value.infoIs ≠ .disabled ∧ value.infoIs ≠ .aged
  noUpdate : value.updtInfo = false
  noAnnounce : value.rcvdAnnouncePar = false
  message : value.rcvdMsg = true
  pointer : value.rcvdAnnouncePtr = true
  near : value.announceRx.stepsRemoved < 255
  stored : Stored port value

def adopting (port : Nat) (value : GptpPort) : GptpPort :=
  {value with
    messagePriority := messageVector port value.announceRx
    messageStepsRemoved := value.announceRx.stepsRemoved
    portPriority := messageVector port value.announceRx
    ann := value.announceRx.properties
    infoIs := .received
    rcvdMsg := false
    rcvdAnnouncePtr := false
    announceInfoState := .superiorMasterPort
    adopted := some value.announceRx}

def passingOver (port : Nat) (value : GptpPort) : GptpPort :=
  {value with
    messagePriority := messageVector port value.announceRx
    messageStepsRemoved := value.announceRx.stepsRemoved
    rcvdMsg := false
    rcvdAnnouncePtr := false
    announceInfoState := .current}

def Superior (port : Nat) (value : GptpPort) (announce : AnnouncePdu) : Prop :=
  compareMsgPriorityVector (messageVector port announce) value.portPriority = .aBetter

instance (port : Nat) (value : GptpPort) (announce : AnnouncePdu) : Decidable (Superior port value announce) :=
  inferInstanceAs (Decidable (_ = _))

private theorem infoSmPass_receives (select : GptpInstance → GptpInstance) (receives : Receives port (inst.ports port)) :
    inst.infoSmPass select port .run = inst.infoSmReceive select port := by
  unfold infoSmPass
  rw [receives.state]
  dsimp only
  rw [if_neg (by simp),if_pos ⟨receives.message,by rw [receives.noUpdate]; rfl⟩]

theorem rcvInfo_compare :
    compareMsgPriorityVector ((inst.rcvInfo port).ports port).messagePriority
      ((inst.rcvInfo port).ports port).portPriority =
    compareMsgPriorityVector (messageVector port (inst.ports port).announceRx) (inst.ports port).portPriority := by
  unfold rcvInfo
  rw [setPort_same]

theorem adopting_primed (receives : Receives port (inst.ports port)) :
    Primed port (adopting port (inst.ports port)) := by
  refine ⟨⟨rfl,?_,?_,?_⟩,receives.noAnnounce,?_⟩
  · intro disabled
    exact absurd (receives.capable.symm.trans disabled) (by decide)
  · intro _
    exact ⟨by simp [adopting],by simp [adopting]⟩
  · intro aged
    exact absurd aged (by simp [adopting])
  · intro _
    exact ⟨_,rfl,rfl,receives.near⟩

theorem infoSm_adopts (rest : RestBut port inst) (receives : Receives port (inst.ports port))
    (better : Superior port (inst.ports port) (inst.ports port).announceRx) :
    inst.Reselects port (adopting port (inst.ports port)) (inst.infoSm .run port) ∧
      (inst.infoSm .run port).Rest := by
  apply infoSm_selected rest receives.state receives.capable (adopting_primed receives) receives.capable
  rw [infoSmPass_receives _ receives]
  unfold infoSmReceive
  simp only [receives.pointer,Bool.not_true,Bool.false_eq_true,if_false,rcvInfo_compare]
  rw [better]
  unfold infoSmSuperior rcvInfo
  simp only [setPort_same,setPort_setPort]
  rfl

theorem passingOver_rest (receives : Receives port (inst.ports port)) :
    PortRest port (passingOver port (inst.ports port)) := by
  refine ⟨rfl,receives.noAnnounce,receives.noUpdate,?_,fun _ => ⟨rfl,receives.enabled⟩,receives.stored⟩
  intro disabled
  exact absurd (receives.capable.symm.trans disabled) (by decide)

theorem RestBut.rest {value : GptpPort} (rest : RestBut port inst) (here : PortRest port value) :
    (inst.setPort port value).Rest := by
  refine ⟨{rest.running with},rest.faultless,?_⟩
  intro other within
  by_cases same : other = port
  · subst same
    rw [setPort_same]
    exact here
  · rw [setPort_other same]
    exact rest.others other within same

theorem infoSmLoop_passedOver {passes : Nat} {state : AnnounceInfoState} {select : GptpInstance → GptpInstance}
    (rest : RestBut port inst) (receives : Receives port (inst.ports port)) (passing : Passing state) :
    (inst.setPort port {passingOver port (inst.ports port) with announceInfoState := state}).infoSmLoop select port
      (passes + 2) .run = inst.setPort port (passingOver port (inst.ports port)) := by
  have running : (inst.setPort port {passingOver port (inst.ports port) with announceInfoState := state}).Running :=
    {rest.running with}
  have calm : Calm ((inst.setPort port
      {passingOver port (inst.ports port) with announceInfoState := state}).ports port) := by
    rw [setPort_same]
    refine ⟨rfl,?_,?_,?_⟩
    · intro disabled
      exact absurd (receives.capable.symm.trans disabled) (by decide)
    · intro _
      refine ⟨?_,receives.enabled.1⟩
      rcases passing with state | state | state | state <;> simp [state]
    · intro aged
      rcases passing with state | state | state | state <;> simp [state] at aged
  rw [infoSmLoop_passing_kept running calm (by rw [setPort_same]; exact passing)
    (by rw [setPort_same]; exact receives.capable) (by rw [setPort_same]; exact receives.noUpdate)]
  unfold infoSmCurrent
  rw [setPort_same,setPort_setPort]
  rfl

theorem infoSm_passesOver (rest : RestBut port inst) (receives : Receives port (inst.ports port))
    (worse : ¬ Superior port (inst.ports port) (inst.ports port).announceRx) :
    inst.infoSm .run port = inst.setPort port (passingOver port (inst.ports port)) := by
  obtain ⟨state,passing,pass⟩ : ∃ state, Passing state ∧
      inst.infoSmPass (portStateSelectionSm SM_NESTING) port .run =
        inst.setPort port {passingOver port (inst.ports port) with announceInfoState := state} := by
    rw [infoSmPass_receives _ receives]
    unfold infoSmReceive
    simp only [receives.pointer,Bool.not_true,Bool.false_eq_true,if_false,rcvInfo_compare]
    cases order : compareMsgPriorityVector (messageVector port (inst.ports port).announceRx)
      (inst.ports port).portPriority with
    | aBetter => exact absurd order worse
    | aBSame =>
      refine ⟨.repeatedMasterPort,.inr (.inr (.inl rfl)),?_⟩
      unfold infoSmRepeated rcvInfo
      simp only [setPort_same,setPort_setPort]
      rfl
    | bBetter =>
      refine ⟨.inferiorMasterOrOther,.inr (.inr (.inr rfl)),?_⟩
      unfold infoSmInferior rcvInfo
      simp only [setPort_same,setPort_setPort]
      rfl
  unfold infoSm portAnnounceInfoSm
  rw [rest.running.standard,show SM_PASSES = 5 + 2 + 1 from rfl,if_neg (by decide),
    infoSmLoop_enabled rest.running receives.capable,pass,setPort_same,if_neg,infoSmLoop_passedOver rest receives passing]
  rw [receives.state]
  rcases passing with state | state | state | state <;> simp [state]

end Reception

end GptpInstance

end Genavb.Gptp
