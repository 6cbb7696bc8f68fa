import Genavb.Common.Timer
import Genavb.Gptp.Reception

/-! The receipt timeouts of a port (`port_fsm.c`): the machines of an instance with the timers that they restart for
received Announces, Syncs and gPTP-capable TLVs. -/
namespace Genavb.Gptp
open GptpInstance Common
open Function (update)

inductive CapableReceiveState
  | notEnabled
  | initialized
  | receivedTlv
  deriving DecidableEq

inductive CapableReceiveEvent
  | timeout
  | run
  deriving DecidableEq

/-- The machine that receives gPTP-capable TLVs; `signalingLog` is the interval in `signaling_rx`. `tlvLog` records the
interval of the last TLV and `takenLog` that of the last one which the machine has dealt with: the code keeps neither. -/
structure CapableReceive where
  state : CapableReceiveState
  rcvdGptpCapableTlv : Bool
  signalingLog : Int8
  neighborGptpCapable : Bool
  gptpCapableReceiptTimeout : UInt8
  timeoutTimer : Option Nat
  tlvLog : Int8
  takenLog : Int8

inductive SyncReceiptState
  | discard
  | receivedMdSync
  deriving DecidableEq

/-- `accepted` records the timeout and the interval of the last Sync that is accepted, until the timer expires. -/
structure SyncReceipt where
  state : SyncReceiptState
  syncReceiptTimeout : UInt8
  timeoutTimeInterval : UScaledNs
  timeoutTimer : Option Nat
  accepted : Option (UInt8 × Int8)

/-- `announceLog` is the interval in `announce_rx` of each port, and `announced` records the timeout and the interval of the
Announce that was last taken as the port vector. -/
structure TimedInstance where
  view : InfoView
  force2011 : Bool
  acrossDomains : Nat → Bool
  announceLog : Nat → Int8
  capable : Nat → CapableReceive
  sync : Nat → SyncReceipt
  announced : Nat → UInt8 × Int8

namespace TimedInstance

abbrev inst (timed : TimedInstance) : GptpInstance := timed.view.inst

def lift (f : GptpInstance → GptpInstance) (timed : TimedInstance) : TimedInstance :=
  {timed with view := {timed.view with inst := f timed.inst}}

def setCapable (port : Nat) (value : CapableReceive) (timed : TimedInstance) : TimedInstance :=
  {timed with capable := update timed.capable port value}

def setSync (port : Nat) (value : SyncReceipt) (timed : TimedInstance) : TimedInstance :=
  {timed with sync := update timed.sync port value}

section Information
-- `select` is the port state selection machine.
variable (select : TimedInstance → TimedInstance)

def infoSmSuperior (port : Nat) (timed : TimedInstance) : TimedInstance :=
  select {timed with
    view := timed.view.infoSmSuperior id port (timed.announceLog port)
    announced := update timed.announced port (timed.view.announceReceiptTimeout port,timed.announceLog port)}

def infoSmReceive (port : Nat) (timed : TimedInstance) : TimedInstance :=
  if !(timed.inst.ports port).rcvdAnnouncePtr then timed.lift GptpInstance.faulted
  else
    let timed := timed.lift (GptpInstance.rcvInfo port)
    match InfoView.rcvdInfo port timed.inst with
    | .superiorMasterInfo => timed.infoSmSuperior select port
    | .repeatedMasterInfo => {timed with view := timed.view.infoSmRepeated port}
    | .inferiorMasterInfo => {timed with view := timed.view.infoSmInferior port}

def infoSmPass (port : Nat) (event : AnnounceInfoEvent) (timed : TimedInstance) : TimedInstance :=
  match (timed.inst.ports port).announceInfoState with
  | .disabled =>
    if (timed.inst.ports port).capable then select (timed.lift (GptpInstance.infoSmAged id port))
    else if (timed.inst.ports port).rcvdMsg then select (timed.lift (GptpInstance.infoSmDisabled id port))
    else timed
  | .current =>
    if (event = .announceTimeout ∨ event = .syncTimeout ∧ timed.inst.gmPresent) ∧
        (timed.inst.ports port).infoIs = .received ∧ !(timed.inst.ports port).updtInfo ∧
        !(timed.inst.ports port).rcvdMsg then
      select (timed.lift (GptpInstance.infoSmAged id port))
    else if (timed.inst.ports port).rcvdMsg ∧ !(timed.inst.ports port).updtInfo then timed.infoSmReceive select port
    else if timed.inst.isSelected port ∧ (timed.inst.ports port).updtInfo then
      timed.lift (GptpInstance.infoSmUpdate port)
    else timed
  | .aged =>
    if timed.inst.isSelected port ∧ (timed.inst.ports port).updtInfo then timed.lift (GptpInstance.infoSmUpdate port)
    else timed
  | .update | .superiorMasterPort | .repeatedMasterPort | .inferiorMasterOrOther =>
    timed.lift (GptpInstance.infoSmCurrent port)

def infoSmLoop (port : Nat) : Nat → AnnounceInfoEvent → TimedInstance → TimedInstance
  | 0,_,timed => timed.lift GptpInstance.faulted
  | passes + 1,event,timed =>
    if timed.inst.begin || !timed.inst.config.instanceEnable ||
        (!(timed.inst.ports port).capable && (timed.inst.ports port).infoIs ≠ .disabled) then
      select (timed.lift (GptpInstance.infoSmDisabled id port))
    else
      let next := timed.infoSmPass select port event
      if (next.inst.ports port).announceInfoState = (timed.inst.ports port).announceInfoState then next
      else infoSmLoop port passes .run next

def portAnnounceInfoSm (event : AnnounceInfoEvent) (port : Nat) (timed : TimedInstance) : TimedInstance :=
  if timed.inst.config.automotive then timed else infoSmLoop select port SM_PASSES event timed

def setSelectedTree (timed : TimedInstance) : TimedInstance :=
  (List.range timed.inst.numberPorts).foldl
    (fun timed port => (timed.portAnnounceInfoSm select .run port).lift
      (GptpInstance.portAnnounceTransmitSm .run port))
    (timed.lift fun inst => {inst with selected := BitVec.allOnes 16})

def stateSelection (timed : TimedInstance) : TimedInstance :=
  ((timed.lift fun inst => ({inst with reselect := 0}).updtRolesTree).setSelectedTree select).lift
    fun inst => {inst with portStateSmState := .selection}

end Information

def portStateSelectionSm : Nat → TimedInstance → TimedInstance
  | 0,timed => timed.lift GptpInstance.faulted
  | nesting + 1,timed =>
    let selection := stateSelection (portStateSelectionSm nesting)
    let whenReselected (timed : TimedInstance) : TimedInstance :=
      if timed.inst.reselected then selection timed else timed
    if timed.inst.config.automotive then timed
    else if timed.inst.begin || !timed.inst.config.instanceEnable then
      timed.lift fun inst => {inst.updtRoleDisabledTree with portStateSmState := .initBridge}
    else match timed.inst.portStateSmState with
      | .selection => whenReselected timed
      | .initBridge => whenReselected (selection timed)

def infoSm (event : AnnounceInfoEvent) (port : Nat) (timed : TimedInstance) : TimedInstance :=
  timed.portAnnounceInfoSm (portStateSelectionSm SM_NESTING) event port

section Reception

def rcvSmReceive (port : Nat) (timed : TimedInstance) : TimedInstance :=
  if !(timed.inst.ports port).rcvdAnnouncePtr then timed.lift GptpInstance.faulted
  else
    let (inst,qualified) := timed.inst.qualifyAnnounce port (timed.inst.ports port).announceRx
    (timed.lift fun _ => inst.setPort port {inst.ports port with
      rcvdAnnouncePar := false
      rcvdMsg := qualified
      announceRcvState := .receive}).infoSm .run port

def rcvSmPass (port : Nat) (timed : TimedInstance) : TimedInstance :=
  if !((timed.inst.ports port).rcvdAnnouncePar && (timed.inst.ports port).capable) then timed
  else match (timed.inst.ports port).announceRcvState with
    | .discard => timed.rcvSmReceive port
    | .receive => if (timed.inst.ports port).rcvdMsg then timed else timed.rcvSmReceive port

def portAnnounceRcvSm (port : Nat) (timed : TimedInstance) : TimedInstance :=
  if timed.inst.config.automotive then timed
  else if (timed.inst.begin || !timed.inst.config.instanceEnable ||
      (timed.inst.ports port).rcvdAnnouncePar && !(timed.inst.ports port).capable) &&
      !timed.inst.config.externalPortConfigurationEnabled then timed.lift (GptpInstance.rcvSmDiscard port)
  else
    let next := timed.rcvSmPass port
    if (next.inst.ports port).announceRcvState = (timed.inst.ports port).announceRcvState then next
    else next.rcvSmPass port

def gptpHandleAnnounce (port : Nat) (announce : AnnouncePdu) (fits : Bool) (logMsgInterval : Int8)
    (timed : TimedInstance) : TimedInstance :=
  if timed.inst.config.automotive || !fits then timed
  else
    let timed := timed.lift fun inst => inst.setPort port {inst.ports port with
      announceRx := announce
      rcvdAnnouncePtr := true
      rcvdAnnouncePar := true}
    ({timed with announceLog := update timed.announceLog port logMsgInterval}).portAnnounceRcvSm port

end Reception

section Capable

def gptpAsCapableUpdateFsm (port : Nat) (timed : TimedInstance) : TimedInstance :=
  (timed.infoSm .run port).portAnnounceRcvSm port

def setAsCapable (port : Nat) (capable : Bool) (timed : TimedInstance) : TimedInstance :=
  if (timed.inst.ports port).asCapable = capable then timed
  else if capable && !(timed.inst.ports port).ptpPortEnabled then timed
  else (timed.lift fun inst => inst.setPort port {inst.ports port with asCapable := capable}).gptpAsCapableUpdateFsm port

def gptpUpdateAsCapable (port : Nat) (timed : TimedInstance) : TimedInstance :=
  timed.setAsCapable port (timed.acrossDomains port &&
    ((timed.capable port).neighborGptpCapable || timed.inst.config.domainNumber == 0))

def setNeighborGptpCapable (port : Nat) (capable : Bool) (timed : TimedInstance) : TimedInstance :=
  if (timed.capable port).neighborGptpCapable = capable then timed
  else (timed.setCapable port {timed.capable port with neighborGptpCapable := capable}).gptpUpdateAsCapable port

def setCapableState (port : Nat) (state : CapableReceiveState) (timed : TimedInstance) : TimedInstance :=
  timed.setCapable port {timed.capable port with state := state}

def capableInitialize (port : Nat) (timed : TimedInstance) : TimedInstance :=
  (timed.setNeighborGptpCapable port false).setCapableState port .initialized

def capableReceivedTlv (port : Nat) (timed : TimedInstance) : TimedInstance :=
  let timed := timed.setNeighborGptpCapable port true
  let sm := timed.capable port
  let interval : UInt64 := sm.gptpCapableReceiptTimeout.toUInt64 * .ofNat (logToNs sm.signalingLog)
  timed.setCapable port {sm with
    timeoutTimer := restartMs interval.toNat
    rcvdGptpCapableTlv := false
    state := .receivedTlv
    takenLog := sm.tlvLog}

def capablePass (event : CapableReceiveEvent) (port : Nat) (timed : TimedInstance) : TimedInstance :=
  let sm := timed.capable port
  match sm.state with
  | .notEnabled =>
    if (timed.inst.ports port).portOper && (timed.inst.ports port).ptpPortEnabled then timed.capableInitialize port
    else timed
  | .initialized => if sm.rcvdGptpCapableTlv then timed.capableReceivedTlv port else timed
  | .receivedTlv =>
    if sm.rcvdGptpCapableTlv then timed.capableReceivedTlv port
    else if event = .timeout then timed.capableInitialize port
    else timed

/-- The machine passes four times at most: a pending TLV is taken once. -/
def capableLoop (event : CapableReceiveEvent) (port : Nat) : Nat → TimedInstance → TimedInstance
  | 0,timed => timed
  | passes + 1,timed =>
    let next := timed.capablePass event port
    if (next.capable port).state = (timed.capable port).state then next else capableLoop event port passes next

def capableStopped (port : Nat) (timed : TimedInstance) : Bool :=
  timed.inst.begin || !timed.inst.config.instanceEnable || !(timed.inst.ports port).portOper ||
    !(timed.inst.ports port).ptpPortEnabled

def portGptpCapableReceiveSm (event : CapableReceiveEvent) (port : Nat) (timed : TimedInstance) : TimedInstance :=
  if timed.capableStopped port then timed.setCapableState port .notEnabled
  else timed.capableLoop event port 5

def gptpPortUpdateFsm (port : Nat) (timed : TimedInstance) : TimedInstance :=
  let timed := ((timed.infoSm .run port).portAnnounceRcvSm port).lift (GptpInstance.portAnnounceTransmitSm .run port)
  if timed.force2011 then timed else timed.portGptpCapableReceiveSm .run port

def gptpLinkStatus (port : Nat) (operational : Bool) (timed : TimedInstance) : TimedInstance :=
  (timed.lift fun inst => inst.setPort port {inst.ports port with portOper := operational}).gptpPortUpdateFsm port

/-- A signaling message of which `logInterval` is the interval of a gPTP-capable TLV, or what stands in its place. -/
def handleSignaling (port : Nat) (gptpCapable : Bool) (logInterval : Int8) (timed : TimedInstance) : TimedInstance :=
  if gptpCapable && timed.force2011 then timed
  else
    let timed := timed.setCapable port {timed.capable port with signalingLog := logInterval}
    if gptpCapable then
      (timed.setCapable port {timed.capable port with
        rcvdGptpCapableTlv := true
        tlvLog := logInterval}).portGptpCapableReceiveSm .run port
    else timed

end Capable

section Sync

/-- `port_sync_sync_rcv_sm_mdsync_received`. The product is below 2^53 but for factors of two, and the conversions through
`ptp_double` keep it. -/
def mdSyncReceived (port : Nat) (logMessageInterval : Int8) (timed : TimedInstance) : TimedInstance :=
  let sync := timed.sync port
  let interval := u64ToUScaledNs (sync.syncReceiptTimeout.toUInt64 * .ofNat (logToNs logMessageInterval))
  timed.setSync port {sync with
    timeoutTimeInterval := interval
    timeoutTimer := restartMs (uScaledNsToU64 interval).toNat
    state := .receivedMdSync
    accepted := some (sync.syncReceiptTimeout,logMessageInterval)}

def gptpSyncIndication (port : Nat) (operLogSyncInterval : Int8) (timed : TimedInstance) : TimedInstance :=
  let sync := timed.sync port
  let interval : UInt64 := sync.syncReceiptTimeout.toUInt64 * .ofNat (logToNs operLogSyncInterval)
  timed.setSync port {sync with
    timeoutTimer := restartMs interval.toNat
    accepted := some (sync.syncReceiptTimeout,operLogSyncInterval)}

def syncStopped (port : Nat) (timed : TimedInstance) : Bool :=
  timed.inst.begin || !timed.inst.config.instanceEnable || !(timed.inst.ports port).capable

/-- The machine takes the first Sync, and then those of the clock that the best vector comes from. -/
def syncAccepted (port : Nat) (source : ClockIdentity) (timed : TimedInstance) : Bool :=
  !timed.syncStopped port && ((timed.sync port).state = .discard || timed.inst.config.automotive ||
    source = timed.inst.gmPriority.sourcePortIdentity.clockIdentity)

/-- `port_sync_sync_rcv_sm` for a Sync; `synchronizes` has the operational interval when the port gets synchronized. -/
def portSyncSyncRcvSm (port : Nat) (logMessageInterval : Int8) (source : ClockIdentity) (synchronizes : Option Int8)
    (timed : TimedInstance) : TimedInstance :=
  if timed.syncStopped port then timed.setSync port {timed.sync port with state := .discard}
  else if timed.syncAccepted port source then
    let timed := timed.mdSyncReceived port logMessageInterval
    match synchronizes with
    | none => timed
    | some operLogSyncInterval => timed.gptpSyncIndication port operLogSyncInterval
  else timed

end Sync

end TimedInstance

/-- The timeouts of Announces and Syncs are managed objects. -/
inductive TimedInput
  | announce (port : Nat) (announce : AnnouncePdu) (fits : Bool) (logMsgInterval : Int8)
  | mdSync (port : Nat) (logMessageInterval : Int8) (source : ClockIdentity) (synchronizes : Option Int8)
  | signaling (port : Nat) (gptpCapable : Bool) (logInterval : Int8)
  | announceTimeout (port : Nat)
  | syncTimeout (port : Nat)
  | capableTimeout (port : Nat)
  | transmitTimer (port : Nat)
  | linkStatus (port : Nat) (operational : Bool)
  | acrossDomains (port : Nat) (capable : Bool)
  | priority1 (value : UInt8)
  | priority2 (value : UInt8)
  | announceReceiptTimeout (port : Nat) (value : UInt8)
  | syncReceiptTimeout (port : Nat) (value : UInt8)

namespace TimedInstance

/-- The messages of a disabled instance are not for one of its ports. -/
def hears (port : Nat) (timed : TimedInstance) : Bool :=
  timed.inst.config.instanceEnable && port < timed.inst.numberPorts

def stopAnnounceTimer (port : Nat) (timed : TimedInstance) : TimedInstance :=
  {timed with view := {timed.view with timeoutTimer := update timed.view.timeoutTimer port none}}

def stopSyncTimer (port : Nat) (timed : TimedInstance) : TimedInstance :=
  timed.setSync port {timed.sync port with timeoutTimer := none, accepted := none}

def stopCapableTimer (port : Nat) (timed : TimedInstance) : TimedInstance :=
  timed.setCapable port {timed.capable port with timeoutTimer := none}

def ANNOUNCE_RECEIPT_TIMEOUT : UInt8 := 3
def SYNC_RECEIPT_TIMEOUT : UInt8 := 3
def GPTP_CAPABLE_RECEIPT_TIMEOUT : UInt8 := 9

def start (config : GptpConfig) (system : SystemParams) (sysProperties : TimeProperties) (enabled : Nat → Bool)
    (force2011 : Bool) : TimedInstance where
  view := ⟨gptpInstanceInit config system sysProperties enabled,0,fun _ => ANNOUNCE_RECEIPT_TIMEOUT,
    fun _ => u64ToUScaledNs 0,fun _ => none⟩
  force2011 := force2011
  acrossDomains := fun _ => false
  announceLog := fun _ => 0
  capable := fun _ => ⟨.notEnabled,false,0,false,GPTP_CAPABLE_RECEIPT_TIMEOUT,none,0,0⟩
  sync := fun _ => ⟨.discard,SYNC_RECEIPT_TIMEOUT,u64ToUScaledNs 0,none,none⟩
  announced := fun _ => (0,0)

end TimedInstance

/-- A timer expires only while it runs. -/
def timedStep (input : TimedInput) (timed : TimedInstance) : TimedInstance :=
  match input with
  | .announce port announce fits logMsgInterval =>
    if timed.hears port then timed.gptpHandleAnnounce port announce fits logMsgInterval else timed
  | .mdSync port logMessageInterval source synchronizes =>
    if timed.hears port then timed.portSyncSyncRcvSm port logMessageInterval source synchronizes else timed
  | .signaling port gptpCapable logInterval =>
    if timed.hears port then timed.handleSignaling port gptpCapable logInterval else timed
  | .announceTimeout port =>
    if timed.hears port ∧ (timed.view.timeoutTimer port).isSome then
      (timed.stopAnnounceTimer port).infoSm .announceTimeout port
    else timed
  | .syncTimeout port =>
    if timed.hears port ∧ (timed.sync port).timeoutTimer.isSome then (timed.stopSyncTimer port).infoSm .syncTimeout port
    else timed
  | .capableTimeout port =>
    if timed.hears port ∧ (timed.capable port).timeoutTimer.isSome then
      (timed.stopCapableTimer port).portGptpCapableReceiveSm .timeout port
    else timed
  | .transmitTimer port =>
    if timed.hears port then timed.lift (GptpInstance.portAnnounceTransmitSm .transmitInterval port) else timed
  | .linkStatus port operational => if timed.hears port then timed.gptpLinkStatus port operational else timed
  | .acrossDomains port capable =>
    let timed := {timed with acrossDomains := update timed.acrossDomains port capable}
    if timed.hears port then timed.gptpUpdateAsCapable port else timed
  | .priority1 value => timed.lift (gptpStep (.priority1 value))
  | .priority2 value => timed.lift (gptpStep (.priority2 value))
  | .announceReceiptTimeout port value =>
    {timed with view := {timed.view with announceReceiptTimeout := update timed.view.announceReceiptTimeout port value}}
  | .syncReceiptTimeout port value => timed.setSync port {timed.sync port with syncReceiptTimeout := value}

end Genavb.Gptp
