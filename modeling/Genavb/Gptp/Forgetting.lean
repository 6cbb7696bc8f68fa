import Genavb.Gptp.AnnounceBuffer
import Genavb.Gptp.Begin

/-! What an instance keeps of earlier messages in its buffers: nothing is read of them later, so
that two instances that differ in no more than that go on alike. -/
namespace Genavb.Gptp
open Support
open Function (update update_eq_self update_of_ne update_self)

namespace GptpInstance

section Alike

def dressed (rx : Nat → AnnouncePdu) (taken : Nat → Option AnnouncePdu) (inst : GptpInstance) : GptpInstance :=
  {inst with ports := fun port => {inst.ports port with announceRx := rx port,adopted := taken port}}

structure Replaces (inst : GptpInstance) (value : GptpPort) (other : AnnouncePdu) : Prop where
  qualified : value.rcvdMsg = true → other.head = value.announceRx.head
  arrived : value.rcvdAnnouncePar = true → inst.SameRead value.announceRx other

def Alike (first second : GptpInstance) : Prop :=
  ∃ rx taken, second = first.dressed rx taken ∧ ∀ port, first.Replaces (first.ports port) (rx port)

variable {first second inst : GptpInstance} {rx : Nat → AnnouncePdu} {taken : Nat → Option AnnouncePdu} {port : Nat}

variable {value : GptpPort}

theorem Replaces.congr {other : AnnouncePdu} (replaces : first.Replaces value other)
    (clock : second.thisClock = first.thisClock) : second.Replaces value other :=
  ⟨replaces.qualified,fun pending => (replaces.arrived pending).congr clock⟩

theorem Alike.congr {α : Type} (alike : first.Alike second) (port : Nat) (read : GptpPort → α)
    (blind : ∀ value rx taken, read {value with announceRx := rx,adopted := taken} = read value) :
    read (second.ports port) = read (first.ports port) := by
  obtain ⟨rx,taken,rfl,_⟩ := alike
  exact blind _ _ _

theorem Alike.ite {p : Prop} [Decidable p] {first' second' : GptpInstance} (yes : first.Alike second)
    (no : first'.Alike second') : (if p then first else first').Alike (if p then second else second') := by
  split
  · exact yes
  · exact no

variable {adopted : Option AnnouncePdu}

private theorem setPort_dressed {message : AnnouncePdu} :
    (inst.dressed rx taken).setPort port {value with announceRx := message,adopted := adopted} =
      (inst.setPort port value).dressed (update rx port message) (update taken port adopted) := by
  unfold setPort dressed
  congr 1
  funext index
  by_cases here : index = port
  · subst here
    simp
  · simp [update_of_ne here]

private theorem alike_setPort {message : AnnouncePdu}
    (others : ∀ port, inst.Replaces (inst.ports port) (rx port)) (here : inst.Replaces value message) :
    (inst.setPort port value).Alike
      ((inst.dressed rx taken).setPort port {value with announceRx := message,adopted := adopted}) := by
  refine ⟨_,_,setPort_dressed,fun index => ?_⟩
  by_cases same : index = port
  · subst same
    rw [setPort_same,update_self]
    exact here.congr rfl
  · rw [setPort_other same,update_of_ne same]
    exact (others index).congr rfl

private theorem alike_keep
    (others : ∀ port, inst.Replaces (inst.ports port) (rx port)) (same : value.announceRx = (inst.ports port).announceRx)
    (qualified : value.rcvdMsg = true → (inst.ports port).rcvdMsg = true)
    (arrived : value.rcvdAnnouncePar = true → (inst.ports port).rcvdAnnouncePar = true) :
    (inst.setPort port value).Alike
      ((inst.dressed rx taken).setPort port {value with announceRx := rx port,adopted := adopted}) := by
  refine alike_setPort others ⟨?_,?_⟩
  · rw [same]
    exact fun message => (others port).qualified (qualified message)
  · rw [same]
    exact fun pending => (others port).arrived (arrived pending)

theorem Alike.emit (alike : first.Alike second) (output : GptpOutput) :
    (first.emit output).Alike (second.emit output) := by
  obtain ⟨rx,taken,rfl,others⟩ := alike
  exact ⟨rx,taken,rfl,fun port => (others port).congr rfl⟩

theorem Alike.faulted (alike : first.Alike second) : first.faulted.Alike second.faulted := by
  obtain ⟨rx,taken,rfl,others⟩ := alike
  exact ⟨rx,taken,rfl,fun port => (others port).congr rfl⟩

end Alike

section Transmission
variable {first second : GptpInstance} {port : Nat}

section
variable (alike : first.Alike second)
include alike

theorem Alike.setTransmitState (state : AnnounceTransmitState) :
    (first.setTransmitState port state).Alike (second.setTransmitState port state) := by
  obtain ⟨rx,taken,rfl,others⟩ := alike
  exact alike_keep others rfl id id

theorem Alike.transmitSmTransmitInit :
    (first.transmitSmTransmitInit port).Alike (second.transmitSmTransmitInit port) := by
  obtain ⟨rx,taken,rfl,others⟩ := alike
  exact alike_keep others rfl id id

theorem Alike.transmitSmTransmitPeriodic :
    (first.transmitSmTransmitPeriodic port).Alike (second.transmitSmTransmitPeriodic port) := by
  obtain ⟨rx,taken,rfl,others⟩ := alike
  exact alike_keep others rfl id id

theorem Alike.mdAnnounceTransmit : (first.mdAnnounceTransmit port).Alike (second.mdAnnounceTransmit port) := by
  obtain ⟨rx,taken,rfl,others⟩ := alike
  refine Alike.emit ?_ _
  exact alike_keep others rfl id id

theorem Alike.transmitSmTransmitAnnounce :
    (first.transmitSmTransmitAnnounce port).Alike (second.transmitSmTransmitAnnounce port) := by
  obtain ⟨rx,taken,rfl,others⟩ := alike
  refine Alike.setTransmitState (Alike.mdAnnounceTransmit ?_) _
  exact alike_keep others rfl id id

theorem Alike.transmitSmPass (event : AnnounceTransmitEvent) :
    (first.transmitSmPass port event).Alike (second.transmitSmPass port event) := by
  have state := alike.congr port (·.announceTransmitState) fun _ _ _ => rfl
  unfold GptpInstance.transmitSmPass
  rw [state]
  cases (first.ports port).announceTransmitState with
  | transmitInit | transmitPeriodic | transmitAnnounce => exact alike.setTransmitState _
  | idle =>
    obtain ⟨rx,taken,rfl,_⟩ := id alike
    exact .ite alike.transmitSmTransmitPeriodic (.ite alike.transmitSmTransmitAnnounce alike)

theorem Alike.transmitSmLoop (passes : Nat) (event : AnnounceTransmitEvent) :
    (first.transmitSmLoop port passes event).Alike (second.transmitSmLoop port passes event) := by
  induction passes generalizing first second event with
  | zero => exact alike.faulted
  | succ passes ih =>
    have next : (first.transmitSmPass port event).Alike (second.transmitSmPass port event) := alike.transmitSmPass event
    have state := alike.congr port (·.announceTransmitState) fun _ _ _ => rfl
    have state' := next.congr port (·.announceTransmitState) fun _ _ _ => rfl
    unfold GptpInstance.transmitSmLoop
    dsimp only at state state' ⊢
    rw [state,state']
    exact .ite next (ih next .run)

theorem Alike.portAnnounceTransmitSm (event : AnnounceTransmitEvent) :
    (first.portAnnounceTransmitSm event port).Alike (second.portAnnounceTransmitSm event port) := by
  obtain ⟨rx,taken,rfl,_⟩ := id alike
  exact .ite alike (Alike.transmitSmLoop (.ite alike.transmitSmTransmitInit alike) _ _)

end

end Transmission

section Information
variable {first second : GptpInstance} {port : Nat} {select : GptpInstance → GptpInstance}

theorem Alike.requestSelection (alike : first.Alike second) :
    (first.requestSelection port).Alike (second.requestSelection port) := by
  obtain ⟨rx,taken,rfl,others⟩ := alike
  exact ⟨rx,taken,rfl,fun port => (others port).congr rfl⟩

theorem messageVector_congr {announce other : AnnouncePdu} (same : other.head = announce.head) :
    messageVector port other = messageVector port announce := by
  have heads : messageVector port other.head = messageVector port announce.head := congrArg _ same
  exact heads

section
variable (alike : first.Alike second)
include alike

theorem Alike.rcvInfo (message : (first.ports port).rcvdMsg = true) :
    (first.rcvInfo port).Alike (second.rcvInfo port) := by
  obtain ⟨rx,taken,rfl,others⟩ := alike
  have head := (others port).qualified message
  have vector : messageVector port (rx port) = messageVector port (first.ports port).announceRx :=
    messageVector_congr head
  have steps : (rx port).stepsRemoved = (first.ports port).announceRx.stepsRemoved :=
    (congrArg AnnouncePdu.stepsRemoved head :)
  unfold GptpInstance.rcvInfo
  have buffer : ((first.dressed rx taken).ports port).announceRx = rx port := rfl
  rw [buffer,vector,steps]
  exact alike_keep others rfl id id

theorem Alike.infoSmCurrent : (first.infoSmCurrent port).Alike (second.infoSmCurrent port) := by
  obtain ⟨rx,taken,rfl,others⟩ := alike
  exact alike_keep others rfl id id

theorem Alike.infoSmRepeated : (first.infoSmRepeated port).Alike (second.infoSmRepeated port) := by
  obtain ⟨rx,taken,rfl,others⟩ := alike
  exact alike_keep others rfl (fun message => nomatch message) id

theorem Alike.infoSmInferior : (first.infoSmInferior port).Alike (second.infoSmInferior port) := by
  obtain ⟨rx,taken,rfl,others⟩ := alike
  exact alike_keep others rfl (fun message => nomatch message) id

theorem Alike.infoSmUpdate : (first.infoSmUpdate port).Alike (second.infoSmUpdate port) := by
  obtain ⟨rx,taken,rfl,others⟩ := alike
  refine Alike.portAnnounceTransmitSm ?_ .run
  exact alike_keep others rfl id id

end

variable (respects : ∀ {first second : GptpInstance}, first.Alike second → (select first).Alike (select second))
include respects

section
variable (alike : first.Alike second)
include alike

theorem Alike.infoSmDisabled :
    (first.infoSmDisabled select port).Alike (second.infoSmDisabled select port) := by
  refine respects (Alike.requestSelection ?_)
  obtain ⟨rx,taken,rfl,others⟩ := alike
  exact alike_keep others rfl (fun message => nomatch message) id

theorem Alike.infoSmAged :
    (first.infoSmAged select port).Alike (second.infoSmAged select port) := by
  refine respects (Alike.requestSelection ?_)
  obtain ⟨rx,taken,rfl,others⟩ := alike
  exact alike_keep others rfl id id

theorem Alike.infoSmSuperior (message : (first.ports port).rcvdMsg = true) :
    (first.infoSmSuperior select port).Alike (second.infoSmSuperior select port) := by
  refine respects (Alike.requestSelection ?_)
  obtain ⟨rx,taken,rfl,others⟩ := alike
  have properties : (rx port).properties = (first.ports port).announceRx.properties :=
    (congrArg AnnouncePdu.properties ((others port).qualified message) :)
  have buffer : ((first.dressed rx taken).ports port).announceRx = rx port := rfl
  rw [buffer,properties]
  exact alike_keep others rfl (fun message => nomatch message) id

theorem Alike.infoSmReceive (message : (first.ports port).rcvdMsg = true) :
    (first.infoSmReceive select port).Alike (second.infoSmReceive select port) := by
  have pointer := alike.congr port (·.rcvdAnnouncePtr) fun _ _ _ => rfl
  have stored : (first.rcvInfo port).Alike (second.rcvInfo port) := alike.rcvInfo message
  have vectors := stored.congr port (fun value => compareMsgPriorityVector value.messagePriority value.portPriority)
    fun _ _ _ => rfl
  have message : ((first.rcvInfo port).ports port).rcvdMsg = true := by
    unfold GptpInstance.rcvInfo
    rw [setPort_same]
    exact message
  unfold GptpInstance.infoSmReceive
  dsimp only at pointer vectors ⊢
  rw [pointer,vectors]
  refine .ite alike.faulted ?_
  cases compareMsgPriorityVector ((first.rcvInfo port).ports port).messagePriority
    ((first.rcvInfo port).ports port).portPriority with
  | aBetter => exact stored.infoSmSuperior respects message
  | aBSame => exact stored.infoSmRepeated
  | bBetter => exact stored.infoSmInferior

theorem Alike.infoSmPass (event : AnnounceInfoEvent) :
    (first.infoSmPass select port event).Alike (second.infoSmPass select port event) := by
  have state := alike.congr port (·.announceInfoState) fun _ _ _ => rfl
  unfold GptpInstance.infoSmPass
  rw [state]
  obtain ⟨rx,taken,rfl,_⟩ := id alike
  cases (first.ports port).announceInfoState with
  | disabled => exact .ite (alike.infoSmAged respects) (.ite (alike.infoSmDisabled respects) alike)
  | aged => exact .ite alike.infoSmUpdate alike
  | update | superiorMasterPort | repeatedMasterPort | inferiorMasterOrOther => exact alike.infoSmCurrent
  | current =>
    refine .ite (alike.infoSmAged respects) ?_
    by_cases message : (first.ports port).rcvdMsg = true
    · exact .ite (alike.infoSmReceive respects message) (.ite alike.infoSmUpdate alike)
    · have none : ¬ ((first.ports port).rcvdMsg = true ∧ (!(first.ports port).updtInfo) = true) :=
      fun both => message both.1
      have none' : ¬ (((first.dressed rx taken).ports port).rcvdMsg = true ∧
          (!((first.dressed rx taken).ports port).updtInfo) = true) := none
      rw [if_neg none,if_neg none']
      exact .ite alike.infoSmUpdate alike

theorem Alike.infoSmLoop (passes : Nat) (event : AnnounceInfoEvent) :
    (first.infoSmLoop select port passes event).Alike (second.infoSmLoop select port passes event) := by
  induction passes generalizing first second event with
  | zero => exact alike.faulted
  | succ passes ih =>
    have next : (first.infoSmPass select port event).Alike (second.infoSmPass select port event) :=
      alike.infoSmPass respects event
    have state := alike.congr port (·.announceInfoState) fun _ _ _ => rfl
    have state' := next.congr port (·.announceInfoState) fun _ _ _ => rfl
    unfold GptpInstance.infoSmLoop
    dsimp only at state state' ⊢
    rw [state,state']
    obtain ⟨rx,taken,rfl,_⟩ := id alike
    exact .ite (alike.infoSmDisabled respects) (.ite next (ih next .run))

theorem Alike.portAnnounceInfoSm (event : AnnounceInfoEvent) :
    (first.portAnnounceInfoSm select event port).Alike (second.portAnnounceInfoSm select event port) := by
  obtain ⟨rx,taken,rfl,_⟩ := id alike
  exact .ite alike (alike.infoSmLoop respects _ _)

end

theorem alike_foldl (ports : List Nat) (alike : first.Alike second) :
    (ports.foldl (fun inst port => (inst.portAnnounceInfoSm select .run port).portAnnounceTransmitSm .run port) first).Alike
      (ports.foldl (fun inst port => (inst.portAnnounceInfoSm select .run port).portAnnounceTransmitSm .run port) second) := by
  induction ports generalizing first second with
  | nil => exact alike
  | cons port ports ih => exact ih ((alike.portAnnounceInfoSm respects .run).portAnnounceTransmitSm .run)

theorem Alike.setSelectedTree (alike : first.Alike second) :
    (first.setSelectedTree select).Alike (second.setSelectedTree select) := by
  obtain ⟨rx,taken,rfl,others⟩ := alike
  exact alike_foldl respects _ ⟨rx,taken,rfl,fun port => (others port).congr rfl⟩

end Information

section Roles
variable {first second : GptpInstance}

section
variable (alike : first.Alike second)
include alike

theorem Alike.gptpIpcGmStatus : first.gptpIpcGmStatus.Alike second.gptpIpcGmStatus := by
  obtain ⟨rx,taken,rfl,_⟩ := id alike
  exact .ite alike (alike.emit _)

theorem Alike.updtPortRoles : first.updtPortRoles.Alike second.updtPortRoles := by
  obtain ⟨rx,taken,rfl,others⟩ := alike
  refine ⟨rx,taken,?_,fun port => ?_⟩
  · have ports : (first.dressed rx taken).updtPortRoles.ports = (first.updtPortRoles.dressed rx taken).ports := by
      funext port
      unfold GptpInstance.updtPortRoles dressed
      dsimp only
      split
      · rfl
      · rfl
    have whole : (first.dressed rx taken).updtPortRoles =
        {first.updtPortRoles.dressed rx taken with ports := (first.dressed rx taken).updtPortRoles.ports} := rfl
    rw [whole,ports]
  · have here := others port
    unfold GptpInstance.updtPortRoles
    dsimp only
    split
    · exact ⟨here.qualified,fun pending => (here.arrived pending).congr rfl⟩
    · exact here.congr rfl

theorem Alike.updtPathTrace : first.updtPathTrace.Alike second.updtPathTrace := by
  obtain ⟨rx,taken,rfl,others⟩ := alike
  refine .ite ?_ ?_
  · exact ⟨rx,taken,rfl,fun port => (others port).congr rfl⟩
  · exact ⟨rx,taken,rfl,fun port => (others port).congr rfl⟩

theorem Alike.gptpGmIndication (vector : PriorityVector) :
    (first.gptpGmIndication vector).Alike (second.gptpGmIndication vector) := by
  obtain ⟨rx,taken,rfl,others⟩ := id alike
  have changed : ({first with gmInfoVector := vector} : GptpInstance).Alike
      {first.dressed rx taken with gmInfoVector := vector} :=
    ⟨rx,taken,rfl,fun port => (others port).congr rfl⟩
  exact .ite alike (changed.gptpIpcGmStatus.emit _)

theorem Alike.notifyGrandmaster (previous : Bool) (best : PriorityVector) :
    (first.notifyGrandmaster previous best).Alike (second.notifyGrandmaster previous best) := by
  have role : (if first.isGrandmaster = previous then first else first.emit (.systemRoleChange first.isGrandmaster)).Alike
      (if second.isGrandmaster = previous then second else second.emit (.systemRoleChange second.isGrandmaster)) := by
    obtain ⟨rx,taken,rfl,_⟩ := id alike
    exact .ite alike (alike.emit _)
  have indicated := role.gptpGmIndication best
  have present : (if second.isGrandmaster = previous then second else second.emit (.systemRoleChange second.isGrandmaster)).gmPresent =
      (if first.isGrandmaster = previous then first else first.emit (.systemRoleChange first.isGrandmaster)).gmPresent := by
    obtain ⟨rx,taken,same,_⟩ := role
    rw [same]
    rfl
  unfold GptpInstance.notifyGrandmaster
  dsimp only
  rw [present]
  exact .ite indicated role

theorem Alike.updtRolesTree : first.updtRolesTree.Alike second.updtRolesTree := by
  obtain ⟨rx,taken,rfl,others⟩ := alike
  have vectors : first.updtGmPriority.Alike (first.dressed rx taken).updtGmPriority :=
    ⟨rx,taken,rfl,fun port => (others port).congr rfl⟩
  have pseudo : first.updtGmPriority.updtPortRoles.updtPseudoPort.Alike
      (first.dressed rx taken).updtGmPriority.updtPortRoles.updtPseudoPort := by
    obtain ⟨rx,taken,same,others⟩ := vectors.updtPortRoles
    rw [same]
    exact ⟨rx,taken,rfl,fun port => (others port).congr rfl⟩
  exact pseudo.updtPathTrace.notifyGrandmaster _ _

theorem Alike.stateSelection {select : GptpInstance → GptpInstance}
    (respects : ∀ {first second : GptpInstance}, first.Alike second → (select first).Alike (select second))
    : (stateSelection select first).Alike (stateSelection select second) := by
  have cleared : ({first with reselect := 0} : GptpInstance).Alike {second with reselect := 0} := by
    obtain ⟨rx,taken,rfl,others⟩ := alike
    exact ⟨rx,taken,rfl,fun port => (others port).congr rfl⟩
  have told := cleared.updtRolesTree.setSelectedTree respects
  unfold GptpInstance.stateSelection
  obtain ⟨rx,taken,same,others⟩ := told
  rw [same]
  exact ⟨rx,taken,rfl,fun port => (others port).congr rfl⟩

theorem Alike.updtRoleDisabledTree : first.updtRoleDisabledTree.Alike second.updtRoleDisabledTree := by
  refine Alike.gptpIpcGmStatus ?_
  obtain ⟨rx,taken,rfl,others⟩ := alike
  exact ⟨rx,taken,rfl,fun port => (others port).congr rfl⟩

theorem Alike.portStateSelectionSm (nesting : Nat) :
    (portStateSelectionSm nesting first).Alike (portStateSelectionSm nesting second) := by
  induction nesting generalizing first second with
  | zero => exact alike.faulted
  | succ nesting ih =>
    have again {first second : GptpInstance} (alike : first.Alike second) :
        (if first.reselected then GptpInstance.stateSelection (GptpInstance.portStateSelectionSm nesting) first else first).Alike
          (if second.reselected then GptpInstance.stateSelection (GptpInstance.portStateSelectionSm nesting) second else second) := by
      obtain ⟨rx,taken,rfl,_⟩ := id alike
      exact .ite (alike.stateSelection ih) alike
    have selected := alike.stateSelection ih
    have disabled : ({first.updtRoleDisabledTree with portStateSmState := .initBridge} : GptpInstance).Alike
        {second.updtRoleDisabledTree with portStateSmState := .initBridge} := by
      obtain ⟨rx,taken,same,others⟩ := alike.updtRoleDisabledTree
      rw [same]
      exact ⟨rx,taken,rfl,fun port => (others port).congr rfl⟩
    unfold GptpInstance.portStateSelectionSm
    obtain ⟨rx,taken,rfl,_⟩ := id alike
    have state : (first.dressed rx taken).portStateSmState = first.portStateSmState := rfl
    rw [state]
    refine .ite alike (.ite disabled ?_)
    cases first.portStateSmState with
    | selection => exact again alike
    | initBridge => exact again selected

end

end Roles

section Reception
variable {first second : GptpInstance} {port : Nat} {announce other : AnnouncePdu}

section
variable (alike : first.Alike second)
include alike

theorem Alike.infoSm (event : AnnounceInfoEvent) : (first.infoSm event port).Alike (second.infoSm event port) :=
  alike.portAnnounceInfoSm (fun alike => alike.portStateSelectionSm SM_NESTING) event

theorem Alike.storePathTrace (trace : other.storedTrace = announce.storedTrace) :
    (first.storePathTrace announce).Alike (second.storePathTrace other) := by
  unfold GptpInstance.storePathTrace
  rw [trace]
  refine Alike.gptpIpcGmStatus ?_
  obtain ⟨rx,taken,rfl,others⟩ := alike
  exact ⟨rx,taken,rfl,fun port => (others port).congr rfl⟩

theorem Alike.qualifyAnnounce (same : first.SameRead announce other) :
    (first.qualifyAnnounce port announce).1.Alike (second.qualifyAnnounce port other).1 ∧
      (second.qualifyAnnounce port other).2 = (first.qualifyAnnounce port announce).2 := by
  obtain ⟨rx,taken,rfl,_⟩ := id alike
  have qualifies : (first.dressed rx taken).announceQualifies other = first.announceQualifies announce := same.qualifies
  have role : (first.dressed rx taken).role port = first.role port := rfl
  unfold GptpInstance.qualifyAnnounce
  rw [qualifies,role]
  cases qualified : first.announceQualifies announce with
  | false => exact ⟨alike,rfl⟩
  | true =>
    rw [hasPathTrace_congr (same.head qualified)]
    by_cases slave : first.role port = .slavePort ∧ announce.hasPathTrace = true
    · simp only [Bool.not_true,slave,and_self,if_true,Bool.false_eq_true,if_false,and_true]
      exact alike.storePathTrace (same.trace qualified slave.2)
    · simp only [Bool.not_true,slave,if_false,Bool.false_eq_true,and_true]
      exact alike

theorem Alike.rcvSmDiscard : (first.rcvSmDiscard port).Alike (second.rcvSmDiscard port) := by
  obtain ⟨rx,taken,rfl,others⟩ := alike
  exact alike_keep others rfl (fun message => nomatch message) (fun pending => nomatch pending)

end

private theorem qualifyAnnounce_ports (inst : GptpInstance) : (inst.qualifyAnnounce port announce).1.ports = inst.ports := by
  unfold GptpInstance.qualifyAnnounce GptpInstance.storePathTrace GptpInstance.gptpIpcGmStatus
  split
  · rfl
  · split
    · dsimp only
      split
      · rfl
      · rfl
    · rfl

theorem qualifyAnnounce_decision (inst : GptpInstance) :
    (inst.qualifyAnnounce port announce).2 = inst.announceQualifies announce := by
  unfold GptpInstance.qualifyAnnounce
  cases inst.announceQualifies announce with
  | false => rfl
  | true =>
    simp only [Bool.not_true,Bool.false_eq_true,if_false]
    split
    · rfl
    · rfl

def decided (port : Nat) (announce : AnnouncePdu) (inst : GptpInstance) : GptpInstance :=
  (inst.qualifyAnnounce port announce).1.setPort port {(inst.qualifyAnnounce port announce).1.ports port with
    rcvdAnnouncePar := false
    rcvdMsg := (inst.qualifyAnnounce port announce).2
    announceRcvState := .receive}

theorem Alike.decided (alike : first.Alike second) (pending : (first.ports port).rcvdAnnouncePar = true) :
    (first.decided port (first.ports port).announceRx).Alike (second.decided port (second.ports port).announceRx) := by
  have same : first.SameRead (first.ports port).announceRx (second.ports port).announceRx := by
    obtain ⟨rx,taken,rfl,others⟩ := alike
    exact (others port).arrived pending
  have both : (first.qualifyAnnounce port (first.ports port).announceRx).1.Alike
      (second.qualifyAnnounce port (second.ports port).announceRx).1 ∧
      (second.qualifyAnnounce port (second.ports port).announceRx).2 =
        (first.qualifyAnnounce port (first.ports port).announceRx).2 := alike.qualifyAnnounce same
  obtain ⟨⟨rx,taken,whole,others⟩,decision⟩ := both
  have buffer : rx port = (second.ports port).announceRx := by
    rw [← qualifyAnnounce_ports second,whole]
    rfl
  unfold GptpInstance.decided
  rw [decision,whole]
  refine alike_setPort others ⟨fun qualified => ?_,fun pending => nomatch pending⟩
  change (rx port).head = ((first.qualifyAnnounce port (first.ports port).announceRx).1.ports port).announceRx.head
  rw [buffer,qualifyAnnounce_ports]
  rw [qualifyAnnounce_decision] at qualified
  exact same.head qualified

private theorem rcvSmReceive_decided (inst : GptpInstance) : inst.rcvSmReceive port =
    if !(inst.ports port).rcvdAnnouncePtr then inst.faulted
    else (inst.decided port (inst.ports port).announceRx).infoSm .run port := rfl

theorem Alike.rcvSmReceive (alike : first.Alike second) (pending : (first.ports port).rcvdAnnouncePar = true) :
    (first.rcvSmReceive port).Alike (second.rcvSmReceive port) := by
  have pointer := alike.congr port (·.rcvdAnnouncePtr) fun _ _ _ => rfl
  rw [rcvSmReceive_decided,rcvSmReceive_decided,pointer]
  exact .ite alike.faulted ((alike.decided pending).infoSm .run)

theorem Alike.rcvSmPass (alike : first.Alike second) : (first.rcvSmPass port).Alike (second.rcvSmPass port) := by
  have waiting := alike.congr port (·.rcvdAnnouncePar) fun _ _ _ => rfl
  have capable := alike.congr port (·.capable) fun _ _ _ => rfl
  have state := alike.congr port (·.announceRcvState) fun _ _ _ => rfl
  have message := alike.congr port (·.rcvdMsg) fun _ _ _ => rfl
  unfold GptpInstance.rcvSmPass
  rw [waiting,capable,state,message]
  cases pending : (first.ports port).rcvdAnnouncePar with
  | false => exact alike
  | true =>
    refine .ite alike ?_
    cases (first.ports port).announceRcvState with
    | discard => exact alike.rcvSmReceive pending
    | receive => exact .ite alike (alike.rcvSmReceive pending)

theorem Alike.portAnnounceRcvSm (alike : first.Alike second) :
    (first.portAnnounceRcvSm port).Alike (second.portAnnounceRcvSm port) := by
  have passed : (first.rcvSmPass port).Alike (second.rcvSmPass port) := alike.rcvSmPass
  have state := alike.congr port (·.announceRcvState) fun _ _ _ => rfl
  have state' := passed.congr port (·.announceRcvState) fun _ _ _ => rfl
  unfold GptpInstance.portAnnounceRcvSm
  dsimp only
  rw [state,state']
  obtain ⟨rx,taken,rfl,_⟩ := id alike
  exact .ite alike (.ite alike.rcvSmDiscard (.ite passed passed.rcvSmPass))

def discarded (announce : AnnouncePdu) (value : GptpPort) : GptpPort :=
  {arrived announce value with rcvdAnnouncePar := false,rcvdMsg := false,announceRcvState := .discard}

theorem portAnnounceRcvSm_discards (inst : GptpInstance) (announce : AnnouncePdu)
    (standard : inst.config.automotive = false) (off : (inst.ports port).capable = false) :
    (inst.setPort port (arrived announce (inst.ports port))).portAnnounceRcvSm port =
      inst.setPort port (discarded announce (inst.ports port)) := by
  have here : (inst.setPort port (arrived announce (inst.ports port))).config = inst.config := rfl
  have waiting : (arrived announce (inst.ports port)).rcvdAnnouncePar = true := rfl
  have capable : (arrived announce (inst.ports port)).capable = false := off
  unfold GptpInstance.portAnnounceRcvSm
  rw [here,standard,inst.config.external_off,setPort_same,waiting,capable]
  simp only [Bool.false_eq_true,if_false,Bool.not_false,Bool.and_true,Bool.or_true,if_true]
  unfold GptpInstance.rcvSmDiscard
  rw [setPort_same,setPort_setPort]
  rfl

theorem Alike.gptpHandleAnnounce (alike : first.Alike second) (fits : Bool) (quiet : (first.ports port).rcvdMsg = false)
    (same : first.config.automotive = false → fits = true → (first.ports port).capable = true →
      first.SameRead announce other) :
    (first.gptpHandleAnnounce port announce fits).Alike (second.gptpHandleAnnounce port other fits) := by
  obtain ⟨rx,taken,rfl,others⟩ := id alike
  have automotive : (first.dressed rx taken).config.automotive = first.config.automotive := rfl
  unfold GptpInstance.gptpHandleAnnounce
  rw [automotive]
  cases standard : first.config.automotive with
  | true => exact alike
  | false =>
    cases fits with
    | false => exact alike
    | true =>
      cases capable : (first.ports port).capable with
      | true =>
        refine Alike.portAnnounceRcvSm (alike_setPort others ⟨fun message => ?_,fun _ => same standard rfl capable⟩)
        exact absurd (quiet.symm.trans message) Bool.false_ne_true
      | false =>
        change ((first.setPort port (arrived announce (first.ports port))).portAnnounceRcvSm port).Alike
          (((first.dressed rx taken).setPort port (arrived other ((first.dressed rx taken).ports port))).portAnnounceRcvSm port)
        rw [portAnnounceRcvSm_discards first announce standard capable,
          portAnnounceRcvSm_discards (first.dressed rx taken) other standard capable]
        exact alike_setPort others ⟨fun message => (nomatch message),fun pending => (nomatch pending)⟩

end Reception

section Step
variable {first second : GptpInstance} {port : Nat}

section
variable (alike : first.Alike second)
include alike

theorem Alike.gptpLinkStatus (operational : Bool) :
    (first.gptpLinkStatus port operational).Alike (second.gptpLinkStatus port operational) := by
  obtain ⟨rx,taken,rfl,others⟩ := alike
  refine Alike.portAnnounceTransmitSm (Alike.portAnnounceRcvSm (Alike.infoSm ?_ .run)) .run
  exact alike_keep others rfl id id

theorem Alike.gptpAsCapableUpdateFsm :
    (first.gptpAsCapableUpdateFsm port).Alike (second.gptpAsCapableUpdateFsm port) :=
  (alike.infoSm .run).portAnnounceRcvSm

theorem Alike.gptpUpdateAsCapable (capable : Bool) :
    (first.gptpUpdateAsCapable port capable).Alike (second.gptpUpdateAsCapable port capable) := by
  obtain ⟨rx,taken,rfl,others⟩ := id alike
  refine .ite alike (.ite alike (Alike.gptpAsCapableUpdateFsm ?_))
  exact alike_keep others rfl id id

theorem Alike.setPriority (priority1 priority2 : UInt8) :
    (first.setPriority priority1 priority2).Alike (second.setPriority priority1 priority2) := by
  obtain ⟨rx,taken,rfl,others⟩ := alike
  exact ⟨rx,taken,rfl,fun port => (others port).congr rfl⟩

theorem Alike.gptpStep (input : GptpInput) (quiet : ∀ port announce fits, input ≠ .announce port announce fits) :
    (gptpStep input first).Alike (gptpStep input second) := by
  obtain ⟨rx,taken,rfl,_⟩ := id alike
  refine .ite alike ?_
  cases input with
  | announce port announce fits => exact absurd rfl (quiet port announce fits)
  | announceTimeout port => exact .ite (alike.infoSm .announceTimeout) alike
  | syncTimeout port => exact .ite (alike.infoSm .syncTimeout) alike
  | transmitTimer port => exact .ite (alike.portAnnounceTransmitSm .transmitInterval) alike
  | linkStatus port operational => exact .ite (alike.gptpLinkStatus operational) alike
  | asCapable port value => exact .ite (alike.gptpUpdateAsCapable value) alike
  | priority1 | priority2 => exact alike.setPriority _ _

end

end Step

section Automotive
variable {inst : GptpInstance} {rx : Nat → AnnouncePdu} {taken : Nat → Option AnnouncePdu}

private theorem setPort_dressed_kept {port : Nat} (value : GptpPort) :
    (inst.dressed rx taken).setPort port {value with announceRx := rx port,adopted := taken port} =
      (inst.setPort port value).dressed rx taken := by
  rw [setPort_dressed,update_eq_self,update_eq_self]

theorem gptpUpdateAsCapable_dressed (port : Nat) (capable : Bool) (automotive : inst.config.automotive = true) :
    (inst.dressed rx taken).gptpUpdateAsCapable port capable =
      (inst.gptpUpdateAsCapable port capable).dressed rx taken := by
  have still : (inst.setPort port {inst.ports port with asCapable := capable}).config.automotive = true := automotive
  have still' : ((inst.dressed rx taken).setPort port {(inst.dressed rx taken).ports port with
      asCapable := capable}).config.automotive = true := automotive
  have known : ((inst.dressed rx taken).ports port).asCapable = (inst.ports port).asCapable := rfl
  have enabled : ((inst.dressed rx taken).ports port).ptpPortEnabled = (inst.ports port).ptpPortEnabled := rfl
  unfold GptpInstance.gptpUpdateAsCapable GptpInstance.gptpAsCapableUpdateFsm
  rw [infoSm_automotive _ _ still,infoSm_automotive _ _ still',portAnnounceRcvSm_automotive _ still,
    portAnnounceRcvSm_automotive _ still',known,enabled]
  split
  · rfl
  · split
    · rfl
    · exact setPort_dressed_kept {inst.ports port with asCapable := capable}

theorem gptpLinkStatus_dressed (port : Nat) (operational : Bool) (automotive : inst.config.automotive = true) :
    (inst.dressed rx taken).gptpLinkStatus port operational =
      (inst.gptpLinkStatus port operational).dressed rx taken := by
  have linked : inst.gptpLinkStatus port operational =
      inst.setPort port {inst.ports port with portOper := operational} := gptpPortUpdateFsm_automotive port automotive
  have linked' : (inst.dressed rx taken).gptpLinkStatus port operational =
      (inst.dressed rx taken).setPort port {(inst.dressed rx taken).ports port with portOper := operational} :=
    gptpPortUpdateFsm_automotive port automotive
  rw [linked,linked']
  exact setPort_dressed_kept {inst.ports port with portOper := operational}

theorem gptpStep_dressed (input : GptpInput) (automotive : inst.config.automotive = true) :
    gptpStep input (inst.dressed rx taken) = (gptpStep input inst).dressed rx taken := by
  have automotive' : (inst.dressed rx taken).config.automotive = true := automotive
  have running : (inst.dressed rx taken).config.instanceEnable = inst.config.instanceEnable := rfl
  have ports : (inst.dressed rx taken).numberPorts = inst.numberPorts := rfl
  unfold Genavb.Gptp.gptpStep
  rw [running]
  split
  · rfl
  · cases input with
    | announce port announce fits =>
      have handled : inst.gptpHandleAnnounce port announce fits = inst := if_pos (by rw [automotive]; rfl)
      have handled' : (inst.dressed rx taken).gptpHandleAnnounce port announce fits = inst.dressed rx taken :=
        if_pos (by rw [automotive']; rfl)
      dsimp only
      rw [handled,handled',ite_self,ite_self]
    | announceTimeout | syncTimeout =>
      dsimp only
      rw [infoSm_automotive _ _ automotive,infoSm_automotive _ _ automotive',ite_self,ite_self]
    | transmitTimer port =>
      dsimp only
      rw [portAnnounceTransmitSm_automotive _ _ automotive,portAnnounceTransmitSm_automotive _ _ automotive',ite_self,
        ite_self]
    | linkStatus port operational =>
      dsimp only
      rw [gptpLinkStatus_dressed port operational automotive,ports]
      split
      · rfl
      · rfl
    | asCapable port capable =>
      dsimp only
      rw [gptpUpdateAsCapable_dressed port capable automotive,ports]
      split
      · rfl
      · rfl
    | priority1 | priority2 => rfl

end Automotive

end GptpInstance

namespace BufferedInstance
open GptpInstance

section Runs

/-- The instances agree in all but the buffers of their ports and the messages sent so far. -/
def SamePoint (first second : BufferedInstance) : Prop :=
  ∃ rx taken outputs, second.inst = {first.inst.dressed rx taken with outputs := outputs} ∧
    ∀ port, first.inst.numberPorts ≤ port → rx port = (first.inst.ports port).announceRx

def Covered (state : BufferedInstance) : NetInput → Prop
  | .announce port desc => state.reads port desc = true → desc.Whole state.inst.thisClock
  | .event _ _ => True

def Kin (first second : BufferedInstance) : Prop :=
  first.inst.drained.Alike second.inst.drained

variable {first second state : BufferedInstance} {input other : NetInput} {inputs others : List NetInput}

theorem step_announce (port : Nat) (desc : NetRxDesc) (state : BufferedInstance) :
    (state.step (.announce port desc)).inst =
      gptpStep (.announce port (announceOf (desc.copied (state.buffers port))) desc.fits) state.inst.drained := by
  have refused (announce : AnnouncePdu) (fits : Bool) (inst : GptpInstance)
      (no : (inst.config.automotive || !fits) = true) :
      gptpStep (.announce port announce fits) inst = inst := by
    have handled : inst.gptpHandleAnnounce port announce fits = inst := if_pos no
    unfold gptpStep
    dsimp only
    rw [handled,ite_self,ite_self]
  unfold step
  dsimp only
  cases no : state.inst.drained.config.automotive || !desc.fits with
  | true => exact (refused _ _ _ no).symm
  | false =>
    have fits : desc.fits = true := by
      simp only [Bool.or_eq_false_iff,Bool.not_eq_false'] at no
      exact no.2
    rw [fits]
    rfl

variable {desc desc' : NetRxDesc}

theorem Kin.reads (kin : first.Kin second) {port : Nat} (same : desc.SameMessage desc') :
    second.reads port desc' = first.reads port desc := by
  obtain ⟨rx,taken,whole,_⟩ := kin
  have config : second.inst.drained.config = first.inst.drained.config := by
    rw [whole]
    rfl
  have config : second.inst.config = first.inst.config := config
  have capable : (second.inst.drained.ports port).capable = (first.inst.drained.ports port).capable := by
    rw [whole]
    rfl
  have capable : (second.inst.ports port).capable = (first.inst.ports port).capable := capable
  have fits : desc'.fits = desc.fits := by
    unfold NetRxDesc.fits
    rw [same.len]
  unfold BufferedInstance.reads GptpInstance.numberPorts
  rw [config,capable,fits]

theorem Covered.sameRead {port : Nat} {buffer : Nat → UInt8}
    (covered : first.Covered (.announce port desc)) (reads : first.reads port desc = true)
    (same : desc.SameMessage desc') :
    first.inst.SameRead (announceOf (desc.copied (first.buffers port))) (announceOf (desc'.copied buffer)) :=
  same.sameRead (covered reads)

private theorem observe_congr {rx : Nat → AnnouncePdu} {taken : Nat → Option AnnouncePdu}
    (whole : (second.step other).inst = (first.step input).inst.dressed rx taken)
    (decision : second.qualified other = first.qualified input) : second.observe other = first.observe input := by
  unfold observe
  dsimp only
  rw [decision,whole]
  rfl

section
variable (kin : first.Kin second)
include kin

theorem Kin.announce (rest : first.inst.Rest) {port : Nat}
    (same : desc.SameMessage desc') (covered : first.Covered (.announce port desc)) :
    (first.step (.announce port desc)).inst.Alike (second.step (.announce port desc')).inst := by
  have fits : desc'.fits = desc.fits := by
    unfold NetRxDesc.fits
    rw [same.len]
  have handled (inside : port < first.inst.numberPorts) :
      (first.inst.drained.gptpHandleAnnounce port (announceOf (desc.copied (first.buffers port))) desc.fits).Alike
        (second.inst.drained.gptpHandleAnnounce port (announceOf (desc'.copied (second.buffers port))) desc.fits) := by
    refine Alike.gptpHandleAnnounce kin _ (rest.ports port inside).noMessage fun standard fits capable => ?_
    have standard : first.inst.config.automotive = false := standard
    have capable : (first.inst.ports port).capable = true := capable
    have reads : first.reads port desc = true := by
      simp [BufferedInstance.reads,rest.running.instanceEnable,standard,fits,inside,capable]
    exact (covered.sameRead reads same).congr rfl
  rw [step_announce,step_announce,fits]
  obtain ⟨rx,taken,whole,others⟩ := kin
  rw [whole] at handled ⊢
  have alike : first.inst.drained.Alike (first.inst.drained.dressed rx taken) := ⟨rx,taken,rfl,others⟩
  refine .ite alike ?_
  by_cases inside : port < first.inst.numberPorts
  · exact .ite (handled inside) alike
  · have inside' : ¬ port < (first.inst.drained.dressed rx taken).numberPorts := inside
    have within : ¬ port < first.inst.drained.numberPorts := inside
    dsimp only
    rw [if_neg within,if_neg inside']
    exact alike

theorem Kin.qualified {port : Nat} (same : desc.SameMessage desc') (covered : first.Covered (.announce port desc)) :
    second.qualified (.announce port desc') = first.qualified (.announce port desc) := by
  have reads : second.reads port desc' = first.reads port desc := kin.reads same
  obtain ⟨rx,taken,whole,_⟩ := kin
  have judge (announce : AnnouncePdu) : second.inst.drained.announceQualifies announce =
      first.inst.drained.announceQualifies announce := by
    rw [whole]
    rfl
  have judge (announce : AnnouncePdu) : second.inst.announceQualifies announce =
      first.inst.announceQualifies announce := judge announce
  unfold BufferedInstance.qualified
  dsimp only
  rw [reads,judge]
  cases looked : first.reads port desc with
  | false => rw [Bool.false_and,Bool.false_and]
  | true => rw [(covered.sameRead looked same).qualifies]

theorem Kin.step (rest : first.inst.Rest) (same : input.Same other) (covered : first.Covered input) :
    (first.step input).inst.Alike (second.step other).inst ∧ second.qualified other = first.qualified input := by
  cases input with
  | event input quiet =>
    cases other with
    | event other quiet' =>
      obtain rfl : other = input := same
      have stepped : (gptpStep other first.inst.drained).Alike (gptpStep other second.inst.drained) :=
        Alike.gptpStep kin other quiet
      exact ⟨stepped,rfl⟩
    | announce port desc => exact absurd same id
  | announce port desc =>
    cases other with
    | event other quiet' => exact absurd same id
    | announce port' desc' =>
      obtain ⟨here,message⟩ : port' = port ∧ desc.SameMessage desc' := same
      subst here
      exact ⟨kin.announce rest message covered,kin.qualified message covered⟩

/-- The step rule: after one input the instances will still go on alike, and nobody can tell them apart. -/
theorem Kin.observe (rest : first.inst.Rest) (same : input.Same other) (covered : first.Covered input) :
    (first.step input).Kin (second.step other) ∧ second.observe other = first.observe input := by
  obtain ⟨⟨rx,taken,whole,others⟩,decision⟩ := kin.step rest same covered
  have drained : (first.step input).Kin (second.step other) := by
    unfold Kin GptpInstance.drained
    rw [whole]
    exact ⟨rx,taken,rfl,fun port => (others port).congr rfl⟩
  exact ⟨drained,observe_congr whole decision⟩

end

theorem drained_rest {inst : GptpInstance} (rest : inst.Rest) : inst.drained.Rest :=
  ⟨{rest.running with},rest.faultless,rest.ports⟩

private theorem step_rest (input : NetInput) (rest : state.inst.Rest) : (state.step input).inst.Rest := by
  cases input with
  | announce port desc =>
    rw [step_announce]
    exact (gptpStep_outcome _ (drained_rest rest)).rest
  | event input quiet => exact (gptpStep_outcome input (drained_rest rest)).rest

theorem Kin.observations (kin : first.Kin second) (rest : first.inst.Rest)
    (same : List.Forall₂ NetInput.Same inputs others) (covered : Steps BufferedInstance.step Covered inputs first) :
    observations others second = observations inputs first := by
  induction same generalizing first second with
  | nil => rfl
  | cons here later ih =>
    obtain ⟨next,seen⟩ := kin.observe rest here covered.1
    unfold BufferedInstance.observations
    rw [seen,ih next (step_rest _ rest) covered.2]

theorem SamePoint.kin (point : first.SamePoint second) (rest : first.inst.Rest) : first.Kin second := by
  obtain ⟨rx,taken,outputs,whole,outside⟩ := point
  unfold Kin GptpInstance.drained
  rw [whole]
  refine ⟨rx,taken,rfl,fun port => ?_⟩
  by_cases inside : port < first.inst.numberPorts
  · have here := rest.ports port inside
    constructor
    · intro message
      exact absurd (here.noMessage.symm.trans message) Bool.false_ne_true
    · intro pending
      exact absurd (here.noAnnounce.symm.trans pending) Bool.false_ne_true
  · rw [outside port (Nat.le_of_not_lt inside)]
    exact ⟨fun _ => rfl,fun _ => ⟨rfl,fun _ => rfl,fun _ _ => rfl⟩⟩

end Runs

section Idle
variable {first second state : BufferedInstance} {input other : NetInput} {inputs others : List NetInput}

def Idle (state : BufferedInstance) : Prop :=
  state.inst.config.automotive = true ∨ state.inst.config.instanceEnable = false

private theorem idle_gptpStep {inst : GptpInstance} (idle : inst.config.automotive = true ∨ inst.config.instanceEnable = false)
    (input : GptpInput) (rx : Nat → AnnouncePdu) (taken : Nat → Option AnnouncePdu) :
    (gptpStep input inst).config = inst.config ∧
      gptpStep input (inst.dressed rx taken) = (gptpStep input inst).dressed rx taken := by
  rcases idle with automotive | disabled
  · exact ⟨(gptpStep_automotive input automotive).1,gptpStep_dressed input automotive⟩
  · have still : gptpStep input inst = inst := if_pos (by rw [disabled]; rfl)
    have still' : gptpStep input (inst.dressed rx taken) = inst.dressed rx taken := if_pos (by
      change (!inst.config.instanceEnable) = true
      rw [disabled]
      rfl)
    rw [still,still']
    exact ⟨rfl,rfl⟩

section
variable (idle : state.Idle)
include idle

theorem Idle.drained :
    state.inst.drained.config.automotive = true ∨ state.inst.drained.config.instanceEnable = false := idle

theorem Idle.announce (port : Nat) (desc : NetRxDesc) :
    (state.step (.announce port desc)).inst = state.inst.drained := by
  rw [step_announce]
  unfold gptpStep
  rcases idle with automotive | disabled
  · have handled (announce : AnnouncePdu) (fits : Bool) :
        state.inst.drained.gptpHandleAnnounce port announce fits = state.inst.drained := if_pos (by
      change (state.inst.config.automotive || !fits) = true
      rw [automotive]
      rfl)
    dsimp only
    rw [handled,ite_self,ite_self]
  · refine if_pos ?_
    change (!state.inst.config.instanceEnable) = true
    rw [disabled]
    rfl

theorem Idle.unread (input : NetInput) : state.qualified input = false := by
  cases input with
  | event input quiet => rfl
  | announce port desc =>
    have reads : state.reads port desc = false := by
      unfold reads
      rcases idle with automotive | disabled
      · rw [automotive]
        simp
      · rw [disabled]
        simp
    unfold qualified
    dsimp only
    rw [reads,Bool.false_and]

theorem Idle.config (input : NetInput) : (state.step input).inst.config = state.inst.config := by
  cases input with
  | event input quiet =>
    have kept : (gptpStep input state.inst.drained).config = state.inst.drained.config :=
      (idle_gptpStep idle.drained input (fun _ => .zero) fun _ => none).1
    exact kept
  | announce port desc =>
    rw [idle.announce]
    rfl

theorem Idle.step (input : NetInput) : (state.step input).Idle := by
  unfold Idle
  rw [idle.config]
  exact idle

end

theorem Idle.observations (idle : first.Idle) {rx : Nat → AnnouncePdu} {taken : Nat → Option AnnouncePdu}
    (whole : second.inst.drained = first.inst.drained.dressed rx taken)
    (same : List.Forall₂ NetInput.Same inputs others) :
    observations others second = observations inputs first := by
  induction same generalizing first second with
  | nil => rfl
  | @cons input other rest rest' here later ih =>
    have config : second.inst.drained.config = first.inst.drained.config := by
      rw [whole]
      rfl
    have idle' : second.Idle := by
      unfold Idle
      rw [show second.inst.config = first.inst.config from config]
      exact idle
    have next : (second.step other).inst = (first.step input).inst.dressed rx taken := by
      cases input with
      | event input quiet =>
        cases other with
        | event other quiet' =>
          obtain rfl : other = input := here
          have stepped : gptpStep other (first.inst.drained.dressed rx taken) =
              (gptpStep other first.inst.drained).dressed rx taken := (idle_gptpStep idle.drained other rx taken).2
          rw [← whole] at stepped
          exact stepped
        | announce port desc => exact absurd here id
      | announce port desc =>
        cases other with
        | event other quiet' => exact absurd here id
        | announce port' desc' => rw [idle.announce,idle'.announce,whole]
    have decision : second.qualified other = first.qualified input := by rw [idle.unread,idle'.unread]
    unfold BufferedInstance.observations
    rw [observe_congr next decision,ih (idle.step input) ?_]
    rw [next]
    rfl

end Idle

section Forgetting
variable {config : GptpConfig} {system : SystemParams} {sysProperties : TimeProperties} {enabled : Nat → Bool}
  {earlier earlier' inputs inputs' : List NetInput}

theorem run_rests (config : GptpConfig) (system : SystemParams) (sysProperties : TimeProperties) (enabled : Nat → Bool)
    (inputs : List NetInput) : (run step inputs (start config system sysProperties enabled)).inst.Rest ∨
      (run step inputs (start config system sysProperties enabled)).Idle := by
  by_cases running : config.automotive = false ∧ config.instanceEnable = true
  case pos =>
    exact .inl (run_invariant (I := fun state => state.inst.Rest) step (fun _ input rest _ => step_rest input rest)
      (gptpInstanceInit_rest _ _ _ _ running.1 running.2) (steps_always step inputs _))
  case neg =>
    have first : (start config system sysProperties enabled).Idle := by
      unfold Idle start
      rw [gptpInstanceInit_config]
      cases automotive : config.automotive with
      | true => exact .inl rfl
      | false => exact .inr (Bool.eq_false_iff.mpr fun enabled => running ⟨automotive,enabled⟩)
    exact .inr (run_invariant step (fun _ input idle _ => idle.step input) first (steps_always step inputs _))

theorem discarded_point {state : BufferedInstance} {port : Nat} {desc desc' : NetRxDesc}
    (standard : state.inst.config.automotive = false) (runs : state.inst.config.instanceEnable = true)
    (inside : port < state.inst.numberPorts) (off : (state.inst.ports port).capable = false)
    (fits : desc.fits = true) (fits' : desc'.fits = true) :
    (state.step (.announce port desc)).SamePoint (state.step (.announce port desc')) := by
  have left (announce : AnnouncePdu) : gptpStep (.announce port announce true) state.inst.drained =
      state.inst.drained.setPort port (discarded announce (state.inst.ports port)) := by
    have handled : state.inst.drained.gptpHandleAnnounce port announce true =
        (state.inst.drained.setPort port (arrived announce (state.inst.drained.ports port))).portAnnounceRcvSm port :=
      if_neg (by
        change ¬ (state.inst.config.automotive || !true) = true
        rw [standard]
        decide)
    rw [portAnnounceRcvSm_discards state.inst.drained announce standard off] at handled
    have running : state.inst.drained.config.instanceEnable = true := runs
    have within : port < state.inst.drained.numberPorts := inside
    unfold gptpStep
    rw [running]
    dsimp only
    rw [if_pos within,handled]
    rfl
  have dressed (announce other : AnnouncePdu) :
      state.inst.drained.setPort port (discarded other (state.inst.ports port)) =
        (state.inst.drained.setPort port (discarded announce (state.inst.ports port))).dressed
          (update (fun port => (state.inst.ports port).announceRx) port other)
          (update (fun port => (state.inst.ports port).adopted) port (state.inst.ports port).adopted) := by
    rw [← setPort_dressed]
    rfl
  unfold SamePoint
  rw [step_announce,step_announce,fits,fits',left,left]
  refine ⟨update (fun port => (state.inst.ports port).announceRx) port (announceOf (desc'.copied (state.buffers port))),
    update (fun port => (state.inst.ports port).adopted) port (state.inst.ports port).adopted,[],
    dressed (announceOf (desc.copied (state.buffers port))) _,fun other beyond => ?_⟩
  have beyond : state.inst.numberPorts ≤ other := beyond
  have apart : other ≠ port := by omega
  rw [update_of_ne apart,setPort_other apart]
  rfl

section Examples

/-- The grandmaster with clock 0 is too far away to be heard of; the last entry ends in `last`. -/
def distantAnnounce (last : UInt8) : NetRxDesc :=
  ⟨106,14,fun index => if index = 61 then 1 else if index = 91 then last else 0⟩

/-- The path trace is said to have three entries, in a frame of `len` bytes. -/
def tracedAnnounce (len : UInt16) : NetRxDesc :=
  ⟨len,14,fun index => if index = 65 then 8 else if index = 67 then 24 else 0⟩

def twoBufferedPorts : BufferedInstance :=
  start ⟨false,0,true,false,2,twoPorts_bound,rfl⟩ (.priorityVectorUpdate 9 true 246 ⟨248,254,100⟩ 248) .zero fun _ => true

def linkUp : NetInput := .event (.linkStatus 1 true) fun _ _ _ same => nomatch same
def becomesCapable : NetInput := .event (.asCapable 1 true) fun _ _ _ same => nomatch same

private theorem distantAnnounce_point (last last' : UInt8) :
    (run step [linkUp,.announce 1 (distantAnnounce last)] twoBufferedPorts).SamePoint
      (run step [linkUp,.announce 1 (distantAnnounce last')] twoBufferedPorts) := by
  change ((run step [linkUp] twoBufferedPorts).step (.announce 1 (distantAnnounce last))).SamePoint
    ((run step [linkUp] twoBufferedPorts).step (.announce 1 (distantAnnounce last')))
  exact discarded_point (by decide +kernel) (by decide +kernel) (by decide +kernel) (by decide +kernel) rfl rfl

theorem tracedAnnounce_whole (own : ClockIdentity) : (tracedAnnounce 106).Whole own := by
  refine ⟨by decide,fun _ => by decide,fun _ => by decide,fun _ _ => by decide,fun _ _ _ index inside _ => ?_⟩
  have inside : index < 3 := inside
  have length : (tracedAnnounce 106).messageLen = 92 := by decide
  omega

end Examples

end Forgetting

end BufferedInstance

end Genavb.Gptp
