import Genavb.Gptp.StepsRemoved

/-! The path traces that are sent, over whole runs: when each is that of the adopted message
followed by this clock. -/
namespace Genavb.Gptp
open Support List

/-- The message has one path trace entry for each system it has passed, and room for one more. -/
def AnnouncePdu.Traceable (announce : AnnouncePdu) : Prop :=
  announce.hasPathTrace = true ∧ announce.tlvLength.toNat = 8 * (announce.stepsRemoved.toNat + 1) ∧
    announce.stepsRemoved.toNat + 1 < MAX_PTLV_ENTRIES

instance (announce : AnnouncePdu) : Decidable announce.Traceable := inferInstanceAs (Decidable (_ ∧ _))

namespace GptpInstance

section Traces

def storedPath (inst : GptpInstance) : List ClockIdentity := inst.pathEntries inst.numPtlv

/-- The path trace to announce: that of the message adopted on the slave port and this clock, or
this clock alone for the grandmaster. -/
def TraceDue (inst : GptpInstance) (trace : List ClockIdentity) : Prop :=
  (inst.gmPriority.rootSystemIdentity.clockIdentity = inst.thisClock ∧ trace = [inst.thisClock]) ∨
  ∃ port announce, inst.gmPriority.rootSystemIdentity.clockIdentity ≠ inst.thisClock ∧ port < inst.numberPorts ∧
    inst.role port = .slavePort ∧ inst.gmPriority = inst.gmPathPriority port ∧
    (inst.ports port).adopted = some announce ∧ trace = announce.receivedTrace ++ [inst.thisClock]

def TraceRight (inst : GptpInstance) (message : AnnounceTx) : Prop :=
  message.tlvType = PTP_TLV_TYPE_PATH_TRACE ∧ inst.TraceDue message.pathSequence ∧
    message.tlvLength.toNat = 8 * message.pathSequence.length ∧ message.pathSequence.length ≤ inst.numPtlv

def SendsTraced (inst : GptpInstance) (input : GptpInput) : Prop :=
  inst.SentOnly (gptpStep input inst) fun port message =>
    (gptpStep input inst).role port = .masterPort ∧ (gptpStep input inst).TraceRight message

def TraceHolds (inst : GptpInstance) : Prop :=
  inst.TraceDue (inst.storedPath.take inst.numPtlvEntries) ∧ inst.numPtlvEntries ≤ inst.numPtlv

def NoMaster (inst : GptpInstance) : Prop := ∀ port, port < inst.numberPorts → inst.role port ≠ .masterPort

/-- The stored path trace is that of the message adopted on the port, which is still the last
one that was processed there as far as the steps go. -/
def Traced (inst : GptpInstance) (port : Nat) : Prop :=
  ∃ announce, (inst.ports port).adopted = some announce ∧ announce.Traceable ∧
    (inst.ports port).messageStepsRemoved = announce.stepsRemoved ∧
    inst.storedPath = announce.receivedTrace ++ [inst.thisClock]

/-- A message whose path trace is stored as it comes on a slave port repeats what is stored already. -/
def PathKept (inst : GptpInstance) (port : Nat) (announce : AnnouncePdu) : Prop :=
  inst.role port = .slavePort → announce.hasPathTrace = true →
    inst.storedPath = announce.storedTrace ++ [inst.thisClock]

def PathRepeated (inst : GptpInstance) : GptpInput → Prop
  | .announce port announce fits => fits = true → inst.Accepts port announce → inst.PathKept port announce
  | _ => True

/-- What is to be adopted comes on a slave port, or its path trace was stored before; of the other ports
the message adopted earlier is traced, and stays so. -/
def TracedBy (inst : GptpInstance) (best : Nat) : GptpInput → Prop
  | .announce port announce _ =>
    if best = port then announce.Traceable ∧
      (inst.role port = .slavePort ∨ inst.storedPath = announce.receivedTrace ++ [inst.thisClock])
    else inst.Traced best ∧ inst.PathKept port announce
  | _ => inst.Traced best

def Alone (inst : GptpInstance) (port : Nat) : Prop :=
  ∀ other, other < inst.numberPorts → other ≠ port → (inst.ports other).capable = false

/-- Before a selection the port that leads then is traced or the only capable one; a message that
is not adopted repeats the stored path trace while there is a master port, if it is to be stored. -/
def TraceKept (inst : GptpInstance) (input : GptpInput) : Prop :=
  (inst.Reselecting input → ∀ best, (inst.heeded input).LeadsFirst best →
    inst.TracedBy best input ∨ (inst.heeded input).Alone best) ∧
  (¬ inst.Reselecting input → inst.PathRepeated input ∨ inst.NoMaster)

variable {inst first second : GptpInstance} {port : Nat}

theorem pathEntries_take {count : Nat} (inside : count ≤ inst.numPtlv) :
    inst.pathEntries count = inst.storedPath.take count := by
  unfold storedPath pathEntries
  rw [← map_take,take_range,Nat.min_eq_left inside]

private theorem storedPath_length (inst : GptpInstance) : inst.storedPath.length = inst.numPtlv := by
  unfold storedPath pathEntries
  rw [length_map,length_range]

theorem numPtlvEntries_le (inst : GptpInstance) : inst.numPtlvEntries ≤ MAX_PTLV_ENTRIES := by
  unfold numPtlvEntries
  split <;> omega

theorem storedTrace_received {announce : AnnouncePdu} (traceable : announce.Traceable) :
    announce.storedTrace = announce.receivedTrace := by
  obtain ⟨trace, length, room⟩ := traceable
  unfold AnnouncePdu.storedTrace AnnouncePdu.receivedTrace
  rw [if_pos trace, Nat.min_eq_left (by omega)]

theorem storePathTrace_storedPath (announce : AnnouncePdu) :
    (inst.storePathTrace announce).storedPath = announce.storedTrace ++ [inst.thisClock] := by
  have path : (inst.storePathTrace announce).storedPath =
      (List.range (announce.storedTrace ++ [inst.thisClock]).length).map fun index =>
        (announce.storedTrace ++ [inst.thisClock]).getD index (inst.pathTrace index) := by
    unfold storePathTrace gptpIpcGmStatus
    dsimp only
    split <;> rfl
  rw [path]
  apply ext_getElem
  · rw [length_map, length_range]
  · intro index _ inside
    rw [getElem_map, getElem_range, getD_eq_getElem _ _ inside]

private theorem noted_storedPath (announce : AnnouncePdu) : (inst.noted port announce).storedPath =
    if inst.role port = .slavePort ∧ announce.hasPathTrace then announce.storedTrace ++ [inst.thisClock]
    else inst.storedPath := by
  unfold noted
  split
  · exact storePathTrace_storedPath announce
  · rfl

theorem PathKept.noted {announce : AnnouncePdu} (kept : inst.PathKept port announce) :
    (inst.noted port announce).storedPath = inst.storedPath := by
  rw [noted_storedPath]
  split
  next stores => exact (kept stores.1 stores.2).symm
  · rfl

theorem Traced.setPort {best : Nat} {value : GptpPort} (traced : inst.Traced best)
    (adopted : value.adopted = (inst.ports port).adopted)
    (steps : value.messageStepsRemoved = (inst.ports port).messageStepsRemoved) : (inst.setPort port value).Traced best := by
  by_cases here : best = port
  · subst here
    unfold Traced
    rw [setPort_same, adopted, steps]
    exact traced
  · unfold Traced
    rw [setPort_other here]
    exact traced

theorem Traced.reopened {best : Nat} {value : GptpPort} (traced : inst.Traced best)
    (adopted : value.adopted = (inst.ports port).adopted)
    (steps : value.messageStepsRemoved = (inst.ports port).messageStepsRemoved) :
    (inst.setPort port (reopened value (inst.ports port))).Traced best := by
  unfold Gptp.GptpInstance.reopened
  split
  · exact traced.setPort adopted steps
  · split
    · exact traced.setPort adopted steps
    · exact traced.setPort adopted steps

theorem TracedBy.heeded {input : GptpInput} {best : Nat} (due : inst.Reselecting input)
    (traced : inst.TracedBy best input) : (inst.heeded input).Traced best := by
  unfold GptpInstance.heeded
  cases input with
  | announce port announce fits =>
    have clock : (inst.noted port announce).thisClock = inst.thisClock := by rw [noted_same]
    dsimp only
    rw [if_pos due.1]
    unfold TracedBy at traced
    dsimp only at traced
    split at traced
    next here =>
      subst here
      obtain ⟨traceable, stored⟩ := traced
      refine ⟨announce, ?_, traceable, ?_, ?_⟩
      · rw [setPort_same, judged, if_pos due.2]
        rfl
      · rw [setPort_same, judged, if_pos due.2]
        rfl
      · show (inst.noted best announce).storedPath = announce.receivedTrace ++ [(inst.noted best announce).thisClock]
        rw [clock, noted_storedPath, storedTrace_received traceable]
        split
        · rfl
        next unstored => exact stored.resolve_left fun slave => unstored ⟨slave, traceable.1⟩
    next other =>
      obtain ⟨⟨adopted, same, traceable, steps, path⟩, kept⟩ := traced
      refine ⟨adopted, ?_, traceable, ?_, ?_⟩
      · rw [setPort_other other, noted_ports, same]
      · rw [setPort_other other, noted_ports, steps]
      · show (inst.noted port announce).storedPath = adopted.receivedTrace ++ [(inst.noted port announce).thisClock]
        rw [clock, kept.noted, path]
  | announceTimeout | syncTimeout =>
    dsimp only
    rw [if_pos (show _ ∧ _ ∧ _ from due)]
    exact traced.setPort rfl rfl
  | linkStatus | asCapable =>
    dsimp only
    rw [if_pos due.1]
    exact traced.reopened rfl rfl
  | transmitTimer | priority1 | priority2 => exact due.elim

theorem heeded_storedPath {input : GptpInput} (kept : inst.PathRepeated input) : (inst.heeded input).storedPath = inst.storedPath := by
  cases input with
  | announce port announce fits =>
    unfold GptpInstance.heeded
    dsimp only
    split
    next accepts => exact (kept accepts.1 accepts.2).noted
    · rfl
  | transmitTimer | priority1 | priority2 => rfl
  | _ => exact (apply_ite GptpInstance.storedPath ..).trans (ite_self _)

theorem TraceHolds.right (holds : inst.TraceHolds) {message : AnnounceTx} (announces : inst.Announces message) :
    inst.TraceRight message := by
  obtain ⟨type,path,length,_⟩ := announces
  obtain ⟨due,inside⟩ := holds
  have entries : message.pathSequence.length = inst.numPtlvEntries := by
    rw [path]
    unfold pathEntries
    rw [length_map,length_range]
  have bound := numPtlvEntries_le inst
  refine ⟨type,?_,?_,?_⟩
  · rw [path,pathEntries_take inside]
    exact due
  · rw [length,entries,UInt16.toNat_ofNat']
    unfold MAX_PTLV_ENTRIES at bound
    omega
  · rw [entries]
    exact inside

theorem receivedTrace_length {announce : AnnouncePdu} (traceable : announce.Traceable) :
    announce.receivedTrace.length = announce.stepsRemoved.toNat + 1 := by
  obtain ⟨trace,length,room⟩ := traceable
  unfold AnnouncePdu.receivedTrace
  rw [if_pos trace,length_take,Vector.length_toList,length,Nat.mul_div_cancel_left _ (by decide)]
  exact Nat.min_eq_left room.le

theorem TraceDue.congr {trace : List ClockIdentity} (due : first.TraceDue trace) (same : first.SameSteps second) :
    second.TraceDue trace := by
  rcases due with ⟨own,rfl⟩ | ⟨port,announce,other,inside,role,path,adopted,rfl⟩
  · refine .inl ⟨?_,by rw [same.thisClock]⟩
    rw [same.gmPriority,same.thisClock]
    exact own
  · refine .inr ⟨port,announce,?_,?_,?_,?_,?_,by rw [same.thisClock]⟩
    · rw [same.gmPriority,same.thisClock]
      exact other
    · unfold numberPorts
      rw [same.config]
      exact inside
    · unfold GptpInstance.role
      rw [same.selectedRole]
      exact role
    · unfold gmPathPriority
      rw [same.portPriority,same.gmPriority]
      exact path
    · rw [same.adopted]
      exact adopted

theorem TraceHolds.congr (holds : first.TraceHolds) (same : first.SameSteps second)
    (path : second.storedPath = first.storedPath) : second.TraceHolds := by
  have entries : second.numPtlvEntries = first.numPtlvEntries := by
    unfold numPtlvEntries
    rw [same.masterStepsRemoved]
  have stored : second.numPtlv = first.numPtlv := by rw [← storedPath_length,← storedPath_length,path]
  unfold TraceHolds
  rw [path,entries,stored]
  exact ⟨holds.1.congr same,holds.2⟩

theorem NoMaster.congr (none : first.NoMaster) (same : first.SameSteps second) : second.NoMaster := by
  intro port inside
  unfold GptpInstance.role
  rw [same.selectedRole]
  unfold numberPorts at inside
  rw [same.config] at inside
  exact none port inside

section
variable (same : first.SameState second)
include same

theorem SameState.storedPath : second.storedPath = first.storedPath := by
  unfold GptpInstance.storedPath pathEntries
  rw [same.numPtlv,same.pathTrace]

theorem Traced.sameState (traced : first.Traced port) : second.Traced port := by
  obtain ⟨announce,adopted,traceable,steps,path⟩ := traced
  refine ⟨announce,?_,traceable,?_,?_⟩
  · rw [info_adopted (same.info port)]
    exact adopted
  · rw [info_messageStepsRemoved (same.info port)]
    exact steps
  · rw [same.storedPath,same.thisClock]
    exact path

theorem Alone.sameState (alone : first.Alone port) : second.Alone port := by
  intro other inside apart
  rw [info_capable (same.info other)]
  rw [same.numberPorts] at inside
  exact alone other inside apart

theorem Foreign.sameState (foreign : first.Foreign port) : second.Foreign port := by
  unfold Foreign
  rw [same.numberPorts,info_infoIs (same.info port),info_portPriority (same.info port),same.thisClock]
  exact foreign

theorem SameState.symm : second.SameState first :=
  ⟨same.config.symm,same.system.symm,same.gmPriority.symm,same.masterStepsRemoved.symm,same.selectedRole.symm,
    same.pathTrace.symm,same.numPtlv.symm,same.portStateSmState.symm,fun port => (same.info port).symm⟩

theorem Leads.sameState (leads : first.Leads port) : second.Leads port := by
  obtain ⟨foreign,beats,least⟩ := leads
  refine ⟨foreign.sameState same,?_,?_⟩
  · unfold systemPriority
    rw [info_portPriority (same.info port),same.system]
    exact beats
  · intro other relevant
    rw [info_portPriority (same.info port),info_portPriority (same.info other)]
    exact least other (relevant.sameState same.symm)

theorem LeadsFirst.sameState (leads : first.LeadsFirst port) : second.LeadsFirst port :=
  ⟨leads.1.sameState same,fun other earlier follows => leads.2 other earlier (follows.sameState same.symm)⟩

end

end Traces

section Selected
variable {inst first second : GptpInstance} {port : Nat}

def SamePath (first second : GptpInstance) : Prop :=
  second.pathTrace = first.pathTrace ∧ second.numPtlv = first.numPtlv

private theorem samePath_ite {p : Prop} [Decidable p] {third : GptpInstance} (left : first.SamePath second)
    (right : first.SamePath third) : first.SamePath (if p then second else third) := by
  split
  · exact left
  · exact right

theorem notifyGrandmaster_path (previous : Bool) (best : PriorityVector) :
    inst.SamePath (inst.notifyGrandmaster previous best) := by
  have status : ∀ other : GptpInstance, other.SamePath other.gptpIpcGmStatus := fun _ =>
    samePath_ite ⟨rfl,rfl⟩ ⟨rfl,rfl⟩
  have indication : ∀ other : GptpInstance, other.SamePath (other.gptpGmIndication best) := fun other =>
    samePath_ite ⟨rfl,rfl⟩ (status {other with gmInfoVector := best})
  have told : inst.SamePath (if inst.isGrandmaster = previous then inst
      else inst.emit (.systemRoleChange inst.isGrandmaster)) := samePath_ite ⟨rfl,rfl⟩ ⟨rfl,rfl⟩
  unfold notifyGrandmaster
  generalize (if inst.isGrandmaster = previous then inst
    else inst.emit (.systemRoleChange inst.isGrandmaster)) = middle at told ⊢
  have next : middle.SamePath (if middle.gmPresent then middle.gptpGmIndication best else middle) :=
    samePath_ite (indication middle) ⟨rfl,rfl⟩
  exact ⟨next.1.trans told.1,next.2.trans told.2⟩

theorem updtRolesTree_path :
    inst.updtGmPriority.updtPortRoles.updtPseudoPort.updtPathTrace.SamePath inst.updtRolesTree :=
  notifyGrandmaster_path _ _

section
variable (selects : first.Selects second)
include selects

theorem Selects.samePath :
    first.cleared.updtGmPriority.updtPortRoles.updtPseudoPort.updtPathTrace.SamePath second := by
  rw [selects.globals]
  exact updtRolesTree_path

theorem Selects.path_own (alone : first.bestVectorPort = none) : second.storedPath = [second.thisClock] := by
  have own : first.bestGmPriority.rootSystemIdentity.clockIdentity = first.thisClock := bestGmPriority_this.mpr alone
  obtain ⟨trace,entries⟩ := selects.samePath
  have reset : first.cleared.updtGmPriority.updtPortRoles.updtPseudoPort.updtPathTrace =
      {first.cleared.updtGmPriority.updtPortRoles.updtPseudoPort with
        isGrandmaster := first.cleared.updtGmPriority.updtPortRoles.updtPseudoPort.gmPresent}.resetPathTrace :=
    if_pos ((compareClockIdentity_eq _ _).mpr own)
  rw [reset] at trace entries
  have thisClock : second.thisClock = first.thisClock := congrArg SystemParams.thisClock selects.system
  unfold storedPath pathEntries
  rw [trace,entries,thisClock]
  rfl

theorem Selects.path_other {best : Nat} (found : first.bestVectorPort = some best) :
    second.storedPath = first.storedPath := by
  have other : first.bestGmPriority.rootSystemIdentity.clockIdentity ≠ first.thisClock := by
    rw [Ne,bestGmPriority_this,found]
    simp
  obtain ⟨trace,entries⟩ := selects.samePath
  have kept : first.cleared.updtGmPriority.updtPortRoles.updtPseudoPort.updtPathTrace =
      {first.cleared.updtGmPriority.updtPortRoles.updtPseudoPort with isGrandmaster := false} :=
    if_neg fun same => other ((compareClockIdentity_eq _ _).mp same)
  rw [kept] at trace entries
  unfold storedPath pathEntries
  rw [trace,entries]
  rfl

theorem Selects.holds_own (alone : first.bestVectorPort = none) : second.TraceHolds := by
  have thisClock : second.thisClock = first.thisClock := congrArg SystemParams.thisClock selects.system
  have path := selects.path_own alone
  have steps := selects.masterStepsRemoved
  rw [alone] at steps
  have entries : second.numPtlvEntries = 1 := by
    unfold numPtlvEntries
    rw [steps]
    rfl
  have length : second.numPtlv = 1 := by
    rw [← storedPath_length,path]
    rfl
  refine ⟨.inl ⟨?_,?_⟩,by rw [entries,length]⟩
  · rw [selects.gmPriority,thisClock]
    exact bestGmPriority_this.mpr alone
  · rw [path,entries]
    rfl

theorem Selects.holds_traced {best : Nat} (found : first.bestVectorPort = some best)
    (traced : first.Traced best) : second.TraceHolds := by
  have thisClock : second.thisClock = first.thisClock := congrArg SystemParams.thisClock selects.system
  have leads := (bestVectorPort_some.mp found).1
  have best' := bestGmPriority_some found
  obtain ⟨announce,adopted,traceable,message,path⟩ := traced
  have stored := (selects.path_other found).trans path
  obtain ⟨slave,_,vector⟩ := selects.slave leads.1.1 leads.1.2.1 (by rw [best']; rfl)
  have received := receivedTrace_length traceable
  have room := traceable.2.2
  have length : second.numPtlv = announce.stepsRemoved.toNat + 2 := by
    rw [← storedPath_length,stored,length_append,received]
    rfl
  have steps := selects.masterStepsRemoved
  rw [found] at steps
  have entries : second.numPtlvEntries = announce.stepsRemoved.toNat + 2 := by
    have count : second.masterStepsRemoved.toNat = announce.stepsRemoved.toNat + 1 := by
      rw [steps]
      dsimp only
      rw [message,UInt16.toNat_add]
      unfold MAX_PTLV_ENTRIES at room
      simp only [UInt16.reduceToNat]
      omega
    unfold numPtlvEntries
    rw [count,if_neg (by omega)]
  refine ⟨.inr ⟨best,announce,?_,?_,slave,?_,?_,?_⟩,by rw [entries,length]⟩
  · rw [selects.gmPriority,thisClock,Ne,bestGmPriority_this,found]
    simp
  · rw [selects.numberPorts]
    exact leads.1.1
  · rw [selects.gmPriority,best']
    unfold gmPathPriority
    rw [vector]
  · rw [selects.adopted leads.1.1]
    exact adopted
  · rw [take_of_length_le,stored,thisClock]
    rw [storedPath_length,length,entries]

theorem Selects.disabled (inside : port < first.numberPorts)
    (off : (first.ports port).capable = false) (info : (second.ports port).infoIs = .disabled) :
    second.role port = .disabledPort := by
  have core := congrArg GptpPort.infoIs (selects.ports port inside)
  rw [settled_disabled ((chosen_capable inside).trans off),chosen_ports inside] at core
  have before : (first.cleared.mastered port).infoIs = .disabled := by
    have same : (second.ports port).infoIs = (first.cleared.mastered port).infoIs := core
    exact same.symm.trans info
  rw [selects.role inside]
  unfold assignRole
  rw [before]

theorem Selects.noMaster {best : Nat} (calm : ∀ port, port < first.numberPorts → (second.ports port).capable = false →
      (second.ports port).infoIs = .disabled)
    (found : first.bestVectorPort = some best) (alone : first.Alone best) : second.NoMaster := by
  have leads := (bestVectorPort_some.mp found).1
  intro port inside
  rw [selects.numberPorts] at inside
  by_cases same : port = best
  · subst same
    have path := bestGmPriority_some found
    rw [(selects.slave leads.1.1 leads.1.2.1 (by rw [path]; rfl)).1]
    decide
  · have off := alone port inside same
    rw [selects.disabled inside off (calm port inside ((selects.capable inside).trans off))]
    decide

end

end Selected

section Runs
variable {inst : GptpInstance}

structure TraceInvariant (inst : GptpInstance) : Prop where
  rest : inst.Rest
  traced : inst.TraceHolds ∨ inst.NoMaster

theorem TraceInvariant.step {input : GptpInput} (invariant : inst.TraceInvariant) (allowed : inst.TraceKept input) :
    (gptpStep input inst).TraceInvariant := by
  have outcome := gptpStep_outcome input invariant.rest
  by_cases due : inst.Reselecting input
  · obtain ⟨first,middle,same,selects,after⟩ := outcome.selected due
    refine ⟨outcome.rest,?_⟩
    cases found : first.bestVectorPort with
    | none => exact .inl ((selects.holds_own found).congr after.sameSteps after.storedPath)
    | some best =>
      have leads := (bestVectorPort_some.mp found).sameState same.symm
      rcases allowed.1 due best leads with traced | alone
      · exact .inl ((selects.holds_traced found ((traced.heeded due).sameState same)).congr after.sameSteps after.storedPath)
      · refine .inr ((selects.noMaster ?_ found (alone.sameState same)).congr after.sameSteps)
        intro port inside off
        have info := after.info port
        have within : port < (gptpStep input inst).numberPorts := by
          rw [after.numberPorts,selects.numberPorts]
          exact inside
        rw [← info_infoIs info]
        rw [← info_capable info] at off
        exact ((outcome.rest.ports port within).disabled off).2
  · have after := outcome.kept due
    have same := (heeded_sameSteps due).trans after.sameSteps
    refine ⟨outcome.rest,?_⟩
    rcases invariant.traced with holds | none
    · rcases allowed.2 due with kept | none
      · exact .inl (holds.congr same (after.storedPath.trans (heeded_storedPath kept)))
      · exact .inr (none.congr same)
    · exact .inr (none.congr same)

theorem TraceInvariant.sends {input : GptpInput} (rest : inst.Rest) (after : (gptpStep input inst).TraceInvariant) :
    inst.SendsTraced input := by
  refine (gptpStep_outcome input rest).sent.mono ?_
  intro port message sent
  refine ⟨sent.1,?_⟩
  rcases after.traced with holds | none
  · exact holds.right sent.2
  · rcases Nat.lt_or_ge port (gptpStep input inst).numberPorts with inside | beyond
    · exact absurd sent.1 (none port inside)
    · exact absurd sent.1 (after.rest.running.outside port beyond)

theorem gptpInstanceInit_noMaster (config : GptpConfig) (system : SystemParams) (sysProperties : TimeProperties)
    (enabled : Nat → Bool) (standard : config.automotive = false) :
    (gptpInstanceInit config system sysProperties enabled).NoMaster := by
  intro port inside
  have roles := updtRoleDisabledTree_roles (begun config system sysProperties enabled)
  have same := gptpInstanceInit_config config system sysProperties enabled
  rw [gptpInstanceInit_standard _ _ _ _ standard] at inside same ⊢
  have within : port + 1 ≤ (begun config system sysProperties enabled).numberPorts := by
    rw [numberPorts,(begun_fresh config system sysProperties enabled standard).2]
    rw [numberPorts,same] at inside
    exact inside
  unfold role
  rw [roles]
  dsimp only
  rw [if_pos within]
  decide

/-- Every Announce message of a run carries the path trace that is due, provided that at every
selection the leading port is traced or alone. -/
theorem pathTrace_sent (config : GptpConfig) (system : SystemParams) (sysProperties : TimeProperties)
    (enabled : Nat → Bool) (inputs : List GptpInput) (input : GptpInput)
    (steps : Steps gptpStep TraceKept (inputs ++ [input])
      (gptpInstanceInit config system sysProperties enabled)) :
    (run gptpStep inputs (gptpInstanceInit config system sysProperties enabled)).SendsTraced input := by
  obtain ⟨before,last⟩ := (steps_append ..).mp steps
  by_cases idle : config.automotive = true ∨ config.instanceEnable = false
  · have same := run_invariant gptpStep
      (fun inst input (same : inst.config = config) _ => (gptpStep_idle input (same.symm ▸ idle)).1.trans same)
      (gptpInstanceInit_config config system sysProperties enabled) before
    exact .of_eq (gptpStep_idle input (same.symm ▸ idle)).2.1
  · obtain ⟨standard,runs⟩ := not_or.mp idle
    have standard := Bool.eq_false_iff.mpr standard
    have rest := gptpInstanceInit_rest config system sysProperties enabled standard
      (Bool.eq_true_of_not_eq_false runs)
    have start : (gptpInstanceInit config system sysProperties enabled).TraceInvariant :=
      ⟨rest,.inr (gptpInstanceInit_noMaster config system sysProperties enabled standard)⟩
    have invariant := run_invariant gptpStep (fun _ _ invariant allowed => TraceInvariant.step invariant allowed)
      start before
    exact (invariant.step last.1).sends invariant.rest

def firstAnnounce : GptpInput := .announce 0 (announceOne 0 1) true

def bothEnabled : List GptpInput := [.linkStatus 0 true,.linkStatus 1 true,.asCapable 0 true,.asCapable 1 true]

theorem not_traceDue {announce : AnnouncePdu} {trace : List ClockIdentity} (two : inst.numberPorts = 2)
    (first : (inst.ports 0).adopted = some announce) (second : (inst.ports 1).adopted = none)
    (own : trace ≠ [inst.thisClock]) (other : trace ≠ announce.receivedTrace ++ [inst.thisClock]) :
    ¬ inst.TraceDue trace := by
  intro due
  rcases due with ⟨_,alone⟩ | ⟨port,heard,_,inside,_,_,adopted,path⟩
  · exact own alone
  · rw [two] at inside
    match port,inside with
    | 0,_ =>
      rw [← Option.some.inj (first.symm.trans adopted)] at path
      exact other path
    | 1,_ => exact absurd (second.symm.trans adopted) (by simp)

theorem firstAnnounce_trace : ¬ (run gptpStep bothEnabled twoPorts).SendsTraced firstAnnounce := by
  intro traced
  obtain ⟨sent,outputs,right⟩ := traced
  have same : sent = (gptpStep firstAnnounce (run gptpStep bothEnabled twoPorts)).outputs.drop
      (run gptpStep bothEnabled twoPorts).outputs.length := by
    rw [outputs,drop_left]
  have stale : ((gptpStep firstAnnounce (run gptpStep bothEnabled twoPorts)).outputs.drop
      (run gptpStep bothEnabled twoPorts).outputs.length).any (fun output => match output with
        | .announce _ message => message.pathSequence = [9,0]
        | _ => false) = true := by decide +kernel
  rw [← same] at stale
  obtain ⟨output,member,path⟩ := any_eq_true.mp stale
  have heard : ((gptpStep firstAnnounce (run gptpStep bothEnabled twoPorts)).ports 0).adopted =
      some (announceOne 0 1) := by decide +kernel
  have wrong : ¬ (gptpStep firstAnnounce (run gptpStep bothEnabled twoPorts)).TraceDue [9,0] :=
    not_traceDue (by decide +kernel) heard (by decide +kernel) (by decide +kernel) (by decide +kernel)
  cases output with
  | announce port message =>
    have path : message.pathSequence = [9,0] := of_decide_eq_true path
    obtain ⟨_,_,due,_⟩ := right port message member
    rw [path] at due
    exact wrong due
  | gmStatus | systemRoleChange | gmIndication => exact absurd path (by simp)

private theorem leadsFirst_zero {best : Nat} (two : inst.numberPorts = 2) (other : (inst.ports 1).infoIs ≠ .received)
    (leads : inst.LeadsFirst best) : best = 0 := by
  have inside := leads.1.1.1
  rw [two] at inside
  match best,inside with
  | 0,_ => rfl
  | 1,_ => exact absurd leads.1.1.2.1 other

/-- A slave port hears the grandmaster twice before another port is enabled. -/
theorem secondAnnounce_trace : (run gptpStep [.linkStatus 0 true,.asCapable 0 true,firstAnnounce,firstAnnounce,
    .linkStatus 1 true] twoPorts).SendsTraced (.asCapable 1 true) := by
  apply pathTrace_sent
  refine ⟨⟨?_, fun _ => .inl trivial⟩, ⟨?_, fun _ => .inl trivial⟩, ⟨?_, ?_⟩, ⟨?_, ?_⟩,
    ⟨?_, fun _ => .inl trivial⟩, ⟨?_, fun _ => .inl trivial⟩, trivial⟩
  · intro due
    exact absurd due (by decide +kernel)
  · intro _ best leads
    obtain rfl := leadsFirst_zero (by decide +kernel) (by decide +kernel) leads
    exact absurd leads.1.1.2.1 (by decide +kernel)
  · intro _ best leads
    obtain rfl := leadsFirst_zero (by decide +kernel) (by decide +kernel) leads
    refine .inr ?_
    intro other inside apart
    rw [show numberPorts _ = 2 by decide +kernel] at inside
    match other, inside with
    | 0, _ => exact absurd rfl apart
    | 1, _ => decide +kernel
  · intro quiet
    exact absurd quiet (by decide +kernel)
  · intro _ best leads
    obtain rfl := leadsFirst_zero (by decide +kernel) (by decide +kernel) leads
    exact .inl ⟨by decide +kernel, .inl (by decide +kernel)⟩
  · intro quiet
    exact absurd quiet (by decide +kernel)
  · intro due
    exact absurd due (by decide +kernel)
  · intro _ best leads
    obtain rfl := leadsFirst_zero (by decide +kernel) (by decide +kernel) leads
    exact .inl ⟨announceOne 0 1, by decide +kernel, by decide +kernel, by decide +kernel, by decide +kernel⟩

end Runs

end GptpInstance

end Genavb.Gptp
