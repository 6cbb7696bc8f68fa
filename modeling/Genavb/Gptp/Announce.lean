import Genavb.Gptp.BestVector

/-! The announce state machines of a port (`port_fsm.c`), the port state selection machine that
they trigger (`site_fsm.c`) and the Announce messages sent (`md_fsm_802_3.c`). -/
namespace Genavb.Gptp
open Support

def ANNOUNCE_PDU_SIZE : Nat := 68 + MAX_PTLV_ENTRIES * 8

def SM_PASSES : Nat := 8

def SM_NESTING : Nat := 16

def GptpPort.capable (port : GptpPort) : Bool := port.portOper && port.ptpPortEnabled && port.asCapable

namespace AnnouncePdu

def hasPathTrace (announce : AnnouncePdu) : Bool := announce.tlvType = PTP_TLV_TYPE_PATH_TRACE

def receivedTrace (announce : AnnouncePdu) : List ClockIdentity :=
  if announce.hasPathTrace then announce.pathSequence.toList.take (announce.tlvLength.toNat / 8) else []

def storedTrace (announce : AnnouncePdu) : List ClockIdentity :=
  announce.pathSequence.toList.take (min announce.tlvLength.toNat ((MAX_PTLV_ENTRIES - 1) * 8) / 8)

end AnnouncePdu

namespace GptpInstance

abbrev role (inst : GptpInstance) (port : Nat) : PortRole := inst.selectedRole (port + 1)

def isSelected (inst : GptpInstance) (port : Nat) : Bool := maskHas inst.selected (port + 1)

section Transmission

def numPtlvEntries (inst : GptpInstance) : Nat :=
  if inst.masterStepsRemoved.toNat + 1 > MAX_PTLV_ENTRIES then MAX_PTLV_ENTRIES
  else inst.masterStepsRemoved.toNat + 1

def mdSetAnnounce (port : Nat) (inst : GptpInstance) : AnnounceTx where
  msgLength := .ofNat (ANNOUNCE_PDU_SIZE - (MAX_PTLV_ENTRIES - inst.numPtlvEntries) * 8)
  ptpTimescale := inst.config.domainNumber = 0
  properties := inst.properties
  sourcePortId := ⟨inst.thisClock,portIdentityNumber port⟩
  sequenceId := (inst.ports port).announceTxSeqnum
  rootSystemIdentity := inst.gmPriority.rootSystemIdentity
  stepsRemoved := inst.masterStepsRemoved
  tlvType := PTP_TLV_TYPE_PATH_TRACE
  tlvLength := .ofNat (8 * inst.numPtlvEntries)
  pathSequence := inst.pathEntries inst.numPtlvEntries

def mdAnnounceTransmit (port : Nat) (inst : GptpInstance) : GptpInstance :=
  (inst.setPort port {inst.ports port with
    announceTxSeqnum := (inst.ports port).announceTxSeqnum + 1}).emit
      (.announce port (inst.mdSetAnnounce port))

def setTransmitState (port : Nat) (state : AnnounceTransmitState) (inst : GptpInstance) : GptpInstance :=
  inst.setPort port {inst.ports port with announceTransmitState := state}

def transmitSmTransmitInit (port : Nat) (inst : GptpInstance) : GptpInstance :=
  inst.setPort port {inst.ports port with newInfo := true, announceTransmitState := .transmitInit}

def transmitSmTransmitPeriodic (port : Nat) (inst : GptpInstance) : GptpInstance :=
  inst.setPort port {inst.ports port with
    newInfo := (inst.ports port).newInfo || inst.role port = .masterPort
    announceTransmitState := .transmitPeriodic}

def transmitSmTransmitAnnounce (port : Nat) (inst : GptpInstance) : GptpInstance :=
  ((inst.setPort port {inst.ports port with newInfo := false}).mdAnnounceTransmit port).setTransmitState port
    .transmitAnnounce

def mayTransmit (inst : GptpInstance) (port : Nat) : Bool :=
  (inst.isSelected port && !(inst.ports port).updtInfo) || inst.config.externalPortConfigurationEnabled

def transmitSmPass (port : Nat) (event : AnnounceTransmitEvent) (inst : GptpInstance) : GptpInstance :=
  match (inst.ports port).announceTransmitState with
  | .idle =>
    if event = .transmitInterval ∧ inst.mayTransmit port then inst.transmitSmTransmitPeriodic port
    else if (inst.ports port).newInfo ∧ inst.role port = .masterPort ∧ inst.mayTransmit port ∧
        !(inst.ports port).asymmetryMeasurementMode then inst.transmitSmTransmitAnnounce port
    else inst
  | .transmitInit | .transmitAnnounce | .transmitPeriodic => inst.setTransmitState port .idle

def transmitSmLoop (port : Nat) : Nat → AnnounceTransmitEvent → GptpInstance → GptpInstance
  | 0,_,inst => inst.faulted
  | passes + 1,event,inst =>
    let next := inst.transmitSmPass port event
    if (next.ports port).announceTransmitState = (inst.ports port).announceTransmitState then next
    else transmitSmLoop port passes .run next

def portAnnounceTransmitSm (event : AnnounceTransmitEvent) (port : Nat) (inst : GptpInstance) : GptpInstance :=
  if inst.config.automotive then inst
  else transmitSmLoop port SM_PASSES event
    (if inst.begin || !inst.config.instanceEnable then inst.transmitSmTransmitInit port else inst)

end Transmission

section Information
-- `select` is the port state selection machine, which runs the machines of all ports again.
variable (select : GptpInstance → GptpInstance)

def requestSelection (port : Nat) (inst : GptpInstance) : GptpInstance :=
  {inst with
    reselect := maskSet inst.reselect (port + 1)
    selected := maskClear inst.selected (port + 1)}

def infoSmDisabled (port : Nat) (inst : GptpInstance) : GptpInstance :=
  select ((inst.setPort port {inst.ports port with
    rcvdMsg := false
    infoIs := .disabled
    announceInfoState := .disabled}).requestSelection port)

def infoSmAged (port : Nat) (inst : GptpInstance) : GptpInstance :=
  select ((inst.setPort port {inst.ports port with
    infoIs := .aged
    announceInfoState := .aged}).requestSelection port)

def infoSmCurrent (port : Nat) (inst : GptpInstance) : GptpInstance :=
  inst.setPort port {inst.ports port with announceInfoState := .current}

def infoSmSuperior (port : Nat) (inst : GptpInstance) : GptpInstance :=
  select ((inst.setPort port {inst.ports port with
    portPriority := (inst.ports port).messagePriority
    ann := (inst.ports port).announceRx.properties
    infoIs := .received
    rcvdMsg := false
    rcvdAnnouncePtr := false
    announceInfoState := .superiorMasterPort
    adopted := some (inst.ports port).announceRx}).requestSelection port)

def infoSmRepeated (port : Nat) (inst : GptpInstance) : GptpInstance :=
  inst.setPort port {inst.ports port with
    rcvdMsg := false
    rcvdAnnouncePtr := false
    announceInfoState := .repeatedMasterPort}

def infoSmInferior (port : Nat) (inst : GptpInstance) : GptpInstance :=
  inst.setPort port {inst.ports port with
    rcvdMsg := false
    rcvdAnnouncePtr := false
    announceInfoState := .inferiorMasterOrOther}

def infoSmUpdate (port : Nat) (inst : GptpInstance) : GptpInstance :=
  (inst.setPort port {inst.ports port with
    portPriority := (inst.ports port).masterPriority
    portStepsRemoved := inst.masterStepsRemoved
    updtInfo := false
    infoIs := .mine
    newInfo := true
    announceInfoState := .update}).portAnnounceTransmitSm .run port

def messageVector (port : Nat) (announce : AnnouncePdu) : PriorityVector :=
  ⟨⟨announce.grandmasterPriority1,announce.grandmasterClockQuality,announce.grandmasterPriority2,
    announce.grandmasterIdentity⟩,announce.stepsRemoved,announce.sourcePortId,portIdentityNumber port⟩

def rcvInfo (port : Nat) (inst : GptpInstance) : GptpInstance :=
  inst.setPort port {inst.ports port with
    messagePriority := messageVector port (inst.ports port).announceRx
    messageStepsRemoved := (inst.ports port).announceRx.stepsRemoved}

def infoSmReceive (port : Nat) (inst : GptpInstance) : GptpInstance :=
  if !(inst.ports port).rcvdAnnouncePtr then inst.faulted
  else
    let inst := inst.rcvInfo port
    match compareMsgPriorityVector (inst.ports port).messagePriority (inst.ports port).portPriority with
    | .aBetter => inst.infoSmSuperior select port
    | .aBSame => inst.infoSmRepeated port
    | .bBetter => inst.infoSmInferior port

def infoSmPass (port : Nat) (event : AnnounceInfoEvent) (inst : GptpInstance) : GptpInstance :=
  match (inst.ports port).announceInfoState with
  | .disabled =>
    if (inst.ports port).capable then inst.infoSmAged select port
    else if (inst.ports port).rcvdMsg then inst.infoSmDisabled select port
    else inst
  | .current =>
    if (event = .announceTimeout ∨ event = .syncTimeout ∧ inst.gmPresent) ∧
        (inst.ports port).infoIs = .received ∧ !(inst.ports port).updtInfo ∧ !(inst.ports port).rcvdMsg then
      inst.infoSmAged select port
    else if (inst.ports port).rcvdMsg ∧ !(inst.ports port).updtInfo then inst.infoSmReceive select port
    else if inst.isSelected port ∧ (inst.ports port).updtInfo then inst.infoSmUpdate port
    else inst
  | .aged => if inst.isSelected port ∧ (inst.ports port).updtInfo then inst.infoSmUpdate port else inst
  | .update | .superiorMasterPort | .repeatedMasterPort | .inferiorMasterOrOther => inst.infoSmCurrent port

def infoSmLoop (port : Nat) : Nat → AnnounceInfoEvent → GptpInstance → GptpInstance
  | 0,_,inst => inst.faulted
  | passes + 1,event,inst =>
    if inst.begin || !inst.config.instanceEnable ||
        (!(inst.ports port).capable && (inst.ports port).infoIs ≠ .disabled) then
      inst.infoSmDisabled select port
    else
      let next := inst.infoSmPass select port event
      if (next.ports port).announceInfoState = (inst.ports port).announceInfoState then next
      else infoSmLoop port passes .run next

def portAnnounceInfoSm (event : AnnounceInfoEvent) (port : Nat) (inst : GptpInstance) : GptpInstance :=
  if inst.config.automotive then inst else infoSmLoop select port SM_PASSES event inst

def setSelectedTree (inst : GptpInstance) : GptpInstance :=
  (List.range inst.numberPorts).foldl
    (fun inst port => (inst.portAnnounceInfoSm select .run port).portAnnounceTransmitSm .run port)
    {inst with selected := BitVec.allOnes 16}

def stateSelection (inst : GptpInstance) : GptpInstance :=
  {(({inst with reselect := 0}).updtRolesTree).setSelectedTree select with portStateSmState := .selection}

end Information

section Selection

/-- `updt_role_disabled_tree`; the vector of all ones is not read again. -/
def updtRoleDisabledTree (inst : GptpInstance) : GptpInstance :=
  ({inst with
    selectedRole := fun number => if number ≤ inst.numberPorts then .disabledPort else inst.selectedRole number
    lastGmPriority := ⟨⟨0xff,⟨0xff,0xff,0xffff⟩,0xff,0xffffffffffffffff⟩,0xffff,⟨0xffffffffffffffff,0xffff⟩,
      0xffff⟩}.resetPathTrace).gptpIpcGmStatus

def reselected (inst : GptpInstance) : Bool :=
  (List.range inst.numberPorts).any fun port => maskHas inst.reselect (port + 1)

/-- `port_state_selection_sm`, with at most `nesting` selections inside one another. -/
def portStateSelectionSm : Nat → GptpInstance → GptpInstance
  | 0,inst => inst.faulted
  | nesting + 1,inst =>
    let selection := stateSelection (portStateSelectionSm nesting)
    let whenReselected (inst : GptpInstance) : GptpInstance :=
      if inst.reselected then selection inst else inst
    if inst.config.automotive then inst
    else if inst.begin || !inst.config.instanceEnable then
      {inst.updtRoleDisabledTree with portStateSmState := .initBridge}
    else match inst.portStateSmState with
      | .selection => whenReselected inst
      | .initBridge => whenReselected (selection inst)

end Selection

section Reception

/-- `qualify_announce`: whether the message qualifies, and the path trace it leaves. -/
def announceQualifies (inst : GptpInstance) (announce : AnnouncePdu) : Bool :=
  announce.sourcePortId.clockIdentity ≠ inst.thisClock && announce.stepsRemoved < 255 &&
    (!announce.hasPathTrace ||
      announce.tlvLength.toNat % 8 = 0 && announce.storedTrace.all fun entry => entry ≠ inst.thisClock)

def storePathTrace (announce : AnnouncePdu) (inst : GptpInstance) : GptpInstance :=
  let entries := announce.storedTrace ++ [inst.thisClock]
  ({inst with
    pathTrace := fun index => entries.getD index (inst.pathTrace index)
    numPtlv := entries.length}).gptpIpcGmStatus

def qualifyAnnounce (port : Nat) (announce : AnnouncePdu) (inst : GptpInstance) : GptpInstance × Bool :=
  if !inst.announceQualifies announce then (inst,false)
  else if inst.role port = .slavePort ∧ announce.hasPathTrace then (inst.storePathTrace announce,true)
  else (inst,true)

def rcvSmDiscard (port : Nat) (inst : GptpInstance) : GptpInstance :=
  inst.setPort port {inst.ports port with
    rcvdAnnouncePar := false
    rcvdMsg := false
    announceRcvState := .discard}

def rcvSmReceive (port : Nat) (inst : GptpInstance) : GptpInstance :=
  if !(inst.ports port).rcvdAnnouncePtr then inst.faulted
  else
    let (inst,qualified) := inst.qualifyAnnounce port (inst.ports port).announceRx
    (inst.setPort port {inst.ports port with
      rcvdAnnouncePar := false
      rcvdMsg := qualified
      announceRcvState := .receive}).portAnnounceInfoSm (portStateSelectionSm SM_NESTING) .run port

def rcvSmPass (port : Nat) (inst : GptpInstance) : GptpInstance :=
  if !((inst.ports port).rcvdAnnouncePar && (inst.ports port).capable) then inst
  else match (inst.ports port).announceRcvState with
    | .discard => inst.rcvSmReceive port
    | .receive => if (inst.ports port).rcvdMsg then inst else inst.rcvSmReceive port

def portAnnounceRcvSm (port : Nat) (inst : GptpInstance) : GptpInstance :=
  if inst.config.automotive then inst
  else if (inst.begin || !inst.config.instanceEnable ||
      (inst.ports port).rcvdAnnouncePar && !(inst.ports port).capable) &&
      !inst.config.externalPortConfigurationEnabled then inst.rcvSmDiscard port
  else
    let next := inst.rcvSmPass port
    if (next.ports port).announceRcvState = (inst.ports port).announceRcvState then next
    else next.rcvSmPass port

/-- `gptp_handle_announce`; `fits` tells whether the message is no longer than the buffer. -/
def gptpHandleAnnounce (port : Nat) (announce : AnnouncePdu) (fits : Bool) (inst : GptpInstance) : GptpInstance :=
  if inst.config.automotive || !fits then inst
  else (inst.setPort port {inst.ports port with
    announceRx := announce
    rcvdAnnouncePtr := true
    rcvdAnnouncePar := true}).portAnnounceRcvSm port

end Reception

end GptpInstance

end Genavb.Gptp

/-! The inputs of an instance (`gptp.c`, `gptp_managed_objects.c`) and its initialisation. -/
namespace Genavb.Gptp

/-- `asCapable` is what `gptp_update_as_capable` finds for the port. -/
inductive GptpInput where
  | announce (port : Nat) (announce : AnnouncePdu) (fits : Bool)
  | announceTimeout (port : Nat)
  | syncTimeout (port : Nat)
  | transmitTimer (port : Nat)
  | linkStatus (port : Nat) (operational : Bool)
  | asCapable (port : Nat) (capable : Bool)
  | priority1 (value : UInt8)
  | priority2 (value : UInt8)
  deriving DecidableEq

namespace GptpInstance

abbrev infoSm (event : AnnounceInfoEvent) (port : Nat) (inst : GptpInstance) : GptpInstance :=
  inst.portAnnounceInfoSm (portStateSelectionSm SM_NESTING) event port

def gptpPortUpdateFsm (port : Nat) (inst : GptpInstance) : GptpInstance :=
  ((inst.infoSm .run port).portAnnounceRcvSm port).portAnnounceTransmitSm .run port

def gptpLinkStatus (port : Nat) (operational : Bool) (inst : GptpInstance) : GptpInstance :=
  (inst.setPort port {inst.ports port with portOper := operational}).gptpPortUpdateFsm port

def gptpAsCapableUpdateFsm (port : Nat) (inst : GptpInstance) : GptpInstance :=
  (inst.infoSm .run port).portAnnounceRcvSm port

def gptpUpdateAsCapable (port : Nat) (capable : Bool) (inst : GptpInstance) : GptpInstance :=
  if (inst.ports port).asCapable = capable then inst
  else if capable && !(inst.ports port).ptpPortEnabled then inst
  else (inst.setPort port {inst.ports port with asCapable := capable}).gptpAsCapableUpdateFsm port

def setPriority (priority1 priority2 : UInt8) (inst : GptpInstance) : GptpInstance :=
  {inst with
    system := .priorityVectorUpdate inst.thisClock inst.system.gmCapable priority1
      inst.systemPriority.rootSystemIdentity.clockQuality priority2}

/-- The part of `gptp_begin_update_port_fsm` about announces. -/
def gptpBeginUpdatePortFsm (inst : GptpInstance) (port : Nat) : GptpInstance :=
  ((inst.portAnnounceRcvSm port).infoSm .run port).portAnnounceTransmitSm .run port

def gptpInstanceInit (config : GptpConfig) (system : SystemParams) (sysProperties : TimeProperties)
    (enabled : Nat → Bool) : GptpInstance :=
  let inst := {GptpInstance.configured config system sysProperties enabled with begin := true}
  let inst := (List.range config.numberPorts).foldl gptpBeginUpdatePortFsm inst
  {portStateSelectionSm SM_NESTING inst with begin := false}

end GptpInstance

def gptpStep (input : GptpInput) (inst : GptpInstance) : GptpInstance :=
  if !inst.config.instanceEnable then inst
  else match input with
  | .announce port announce fits =>
    if port < inst.numberPorts then inst.gptpHandleAnnounce port announce fits else inst
  | .announceTimeout port => if port < inst.numberPorts then inst.infoSm .announceTimeout port else inst
  | .syncTimeout port => if port < inst.numberPorts then inst.infoSm .syncTimeout port else inst
  | .transmitTimer port =>
    if port < inst.numberPorts then inst.portAnnounceTransmitSm .transmitInterval port else inst
  | .linkStatus port operational =>
    if port < inst.numberPorts then inst.gptpLinkStatus port operational else inst
  | .asCapable port capable =>
    if port < inst.numberPorts then inst.gptpUpdateAsCapable port capable else inst
  | .priority1 value => inst.setPriority value inst.systemPriority.rootSystemIdentity.priority2
  | .priority2 value => inst.setPriority inst.systemPriority.rootSystemIdentity.priority1 value

end Genavb.Gptp
