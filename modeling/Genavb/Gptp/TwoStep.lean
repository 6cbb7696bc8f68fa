import Genavb.Gptp.State

/-! The MDSyncReceive machine of a port (`md_sync_rcv_sm`, `gptp_handle_sync`,
`gptp_handle_follow_up`): two-step Syncs, their Follow_Ups and what is handed to the PortSync
entity. -/
namespace Genavb.Gptp

def CFG_GPTP_MIN_LOG_INTERVAL : Int := -5
def CFG_GPTP_MAX_LOG_INTERVAL : Int := 22

def logToMs (log : Int8) : Nat :=
  let log := max CFG_GPTP_MIN_LOG_INTERVAL (min CFG_GPTP_MAX_LOG_INTERVAL log.toInt)
  let ns := if log < 0 then 1000000000 / 2^(-log).toNat else 1000000000 * 2^log.toNat
  ns / 1000000

structure PtpTimestamp where
  secondsMsb : UInt16
  secondsLsb : UInt32
  nanoseconds : UInt32
  deriving DecidableEq

structure SyncPdu where
  sourcePortId : PortIdentity
  sequenceId : UInt16
  logMsgInterval : Int8
  deriving DecidableEq

structure FollowUpPdu where
  sourcePortId : PortIdentity
  sequenceId : UInt16
  correctionField : Int64
  logMsgInterval : Int8
  preciseOriginTimestamp : PtpTimestamp
  cumulativeScaledRateOffset : Int32
  gmTimeBaseIndicator : UInt16
  lastGmPhaseChange : Vector UInt32 3
  scaledLastGmFreqChange : Int32
  deriving DecidableEq

/-- The structure handed to the PortSync entity. The rates and the upstream time are kept as the
values their arithmetic on doubles starts from. -/
structure MdSyncReceive where
  followUpCorrectionField : Int64
  sourcePortIdentity : PortIdentity
  logMessageInterval : Int8
  preciseOriginTimestamp : PtpTimestamp
  cumulativeScaledRateOffset : Int32
  syncEventIngressTimestamp : UInt64
  gmTimeBaseIndicator : UInt16
  lastGmPhaseChange : Vector UInt32 3
  scaledLastGmFreqChange : Int32
  deriving DecidableEq

def setMdSyncReceive (sync : SyncPdu) (syncRxTs : UInt64) (fup : FollowUpPdu) : MdSyncReceive where
  followUpCorrectionField := fup.correctionField
  sourcePortIdentity := sync.sourcePortId
  logMessageInterval := fup.logMsgInterval
  preciseOriginTimestamp := fup.preciseOriginTimestamp
  cumulativeScaledRateOffset := fup.cumulativeScaledRateOffset
  syncEventIngressTimestamp := syncRxTs
  gmTimeBaseIndicator := fup.gmTimeBaseIndicator
  lastGmPhaseChange := fup.lastGmPhaseChange
  scaledLastGmFreqChange := fup.scaledLastGmFreqChange

inductive SyncRcvState where
  | discard
  | waitingForFollowUp
  | waitingForSync
  deriving DecidableEq

inductive SyncRcvEvent where
  | run
  | fupTimeout
  deriving DecidableEq

structure SyncRcvConfig where
  force2011 : Bool
  rsync : Bool

/-- What the machines of a port read of its instance and of the port when they run. -/
structure PortConditions where
  begin : Bool
  instanceEnable : Bool
  portOper : Bool
  ptpPortEnabled : Bool
  asCapable : Bool
  isGrandmaster : Bool

structure SyncRcvPort where
  state : SyncRcvState
  rcvdSync : Bool
  rcvdFollowUp : Bool
  syncRx : SyncPdu
  syncRxTs : UInt64
  followUpRx : FollowUpPdu
  upstreamSyncInterval : Int8
  followUpReceiveTimeout : Option Nat
  delivered : List MdSyncReceive

namespace PortConditions

def capable (conditions : PortConditions) : Bool :=
  conditions.portOper && conditions.ptpPortEnabled && conditions.asCapable

def stopped (conditions : PortConditions) : Bool := conditions.begin || !conditions.instanceEnable

def reversed (conditions : PortConditions) (config : SyncRcvConfig) : Bool :=
  conditions.isGrandmaster && config.rsync

end PortConditions

namespace SyncRcvPort

def smDiscard (port : SyncRcvPort) : SyncRcvPort :=
  {port with rcvdSync := false,rcvdFollowUp := false,state := .discard}

def smWaitingForFollowUp (port : SyncRcvPort) : SyncRcvPort :=
  {port with
    rcvdSync := false
    upstreamSyncInterval := port.syncRx.logMsgInterval
    followUpReceiveTimeout := some (logToMs port.syncRx.logMsgInterval)
    state := .waitingForFollowUp}

def smWaitingForSync (port : SyncRcvPort) : SyncRcvPort :=
  {port with
    rcvdFollowUp := false
    delivered := port.delivered ++ [setMdSyncReceive port.syncRx port.syncRxTs port.followUpRx]
    state := .waitingForSync}

section Machine
variable (config : SyncRcvConfig) (conditions : PortConditions)

def smPass (event : SyncRcvEvent) (port : SyncRcvPort) : SyncRcvPort :=
  match port.state with
  | .discard => if port.rcvdSync && conditions.capable then port.smWaitingForFollowUp else port
  | .waitingForFollowUp =>
    -- a port forced to 802.1AS-2011 keeps waiting when a Sync is received
    if !config.force2011 && port.rcvdSync && conditions.capable then port.smWaitingForFollowUp
    else if port.rcvdFollowUp then
      if port.followUpRx.sequenceId = port.syncRx.sequenceId then
        {port with followUpReceiveTimeout := none}.smWaitingForSync
      else port
    else if event = .fupTimeout then port.smDiscard
    else port
  | .waitingForSync => if port.rcvdSync && conditions.capable then port.smWaitingForFollowUp else port

def smLoop (event : SyncRcvEvent) (port : SyncRcvPort) : Nat → SyncRcvPort
  | 0 => port
  | fuel + 1 =>
    let next := port.smPass config conditions event
    if next.state = port.state then next else smLoop .run next fuel

def smPasses : Nat := 4

def resets (port : SyncRcvPort) : Bool := conditions.stopped || (port.rcvdSync && !conditions.capable)

def mdSyncRcvSm (event : SyncRcvEvent) (port : SyncRcvPort) : SyncRcvPort :=
  if port.resets conditions then
    if port.state = .discard then port.smDiscard else port.smDiscard.smLoop config conditions .run smPasses
  else port.smLoop config conditions event smPasses

def gptpHandleSync (msg : SyncPdu) (ts : UInt64) (port : SyncRcvPort) : SyncRcvPort :=
  let port := {port with syncRxTs := ts}
  if conditions.reversed config then port
  else {port with syncRx := msg,rcvdSync := true}.mdSyncRcvSm config conditions .run

def gptpHandleFollowUp (msg : FollowUpPdu) (port : SyncRcvPort) : SyncRcvPort :=
  if conditions.reversed config then port
  else {port with followUpRx := msg,rcvdFollowUp := true}.mdSyncRcvSm config conditions .run

/-- `gptp_follow_up_receive_timeout_timer_handler`: a timer that runs expires once. -/
def followUpTimeout (port : SyncRcvPort) : SyncRcvPort :=
  match port.followUpReceiveTimeout with
  | none => port
  | some _ => {port with followUpReceiveTimeout := none}.mdSyncRcvSm config conditions .fupTimeout

end Machine

end SyncRcvPort

inductive SyncRcvMessage where
  | sync (msg : SyncPdu) (ts : UInt64)
  | followUp (msg : FollowUpPdu)
  | timeout

namespace SyncRcvPort

def syncRcvStep (config : SyncRcvConfig) (input : SyncRcvMessage × PortConditions) (port : SyncRcvPort) :
    SyncRcvPort :=
  match input.1 with
  | .sync msg ts => port.gptpHandleSync config input.2 msg ts
  | .followUp msg => port.gptpHandleFollowUp config input.2 msg
  | .timeout => port.followUpTimeout config input.2

def begun : SyncRcvPort where
  state := .discard
  rcvdSync := false
  rcvdFollowUp := false
  syncRx := ⟨⟨0,0⟩,0,0⟩
  syncRxTs := 0
  followUpRx := ⟨⟨0,0⟩,0,0,0,⟨0,0,0⟩,0,0,.replicate 3 0,0⟩
  upstreamSyncInterval := 0
  followUpReceiveTimeout := none
  delivered := []

end SyncRcvPort

end Genavb.Gptp

/-! The machines of a port that send an event message and then the message that carries its egress
timestamp (`md_sync_send_sm`, `md_pdelay_resp_sm`), and the handlers of the timestamps (`gptp.c`). -/
namespace Genavb.Gptp

def PtpTimestamp.ofNanoseconds (nanoseconds : UInt64) : PtpTimestamp :=
  let seconds := nanoseconds / 1000000000
  ⟨(seconds >>> 32).toUInt16,seconds.toUInt32,(nanoseconds % 1000000000).toUInt32⟩

/-- What the PortSync entity asks to be sent; doubles are kept as their bits. -/
structure MdSyncSend where
  sourcePortIdentity : PortIdentity
  logMessageInterval : Int8
  preciseOriginTimestamp : PtpTimestamp
  followUpCorrectionField : Vector UInt32 3
  rateRatio : UInt64
  upstreamTxTime : Vector UInt32 3
  gmTimeBaseIndicator : UInt16
  lastGmPhaseChange : Vector UInt32 3
  lastGmFreqChange : UInt64
  lastRcvdPortNum : UInt16
  deriving DecidableEq

structure TimestampArithmetic where
  originAndCorrection : MdSyncSend → UInt64 → PtpTimestamp × Int64
  scaledRateOffset : UInt64 → Int32
  scaledFreqChange : UInt64 → Int32
  clockConvert : UInt64 → UInt64

structure TwoStepConfig where
  arithmetic : TimestampArithmetic
  identity : PortIdentity
  rsync : Bool
  txDelayCompensation : UInt64

/-- A transmitted Sync with what the machine was asked to send; a Sync of the reverse sync feature
comes from no request. -/
structure SyncTx where
  pdu : SyncPdu
  request : Option MdSyncSend
  deriving DecidableEq

inductive SyncSndState where
  | initializing
  | sendSync
  | sendFollowUp
  deriving DecidableEq

structure SyncSndPort where
  state : SyncSndState
  rcvdMdSync : Bool
  rcvdMdTimestampReceive : Bool
  syncSnd : MdSyncSend
  syncTxTs : UInt64
  syncTxSeqnum : UInt16
  syncs : List SyncTx
  followUps : List FollowUpPdu

def mdSetFollowUp (config : TwoStepConfig) (syncSnd : MdSyncSend) (syncTxTs : UInt64) (sequenceId : UInt16) :
    FollowUpPdu where
  sourcePortId := syncSnd.sourcePortIdentity
  sequenceId := sequenceId
  correctionField := (config.arithmetic.originAndCorrection syncSnd syncTxTs).2
  logMsgInterval := syncSnd.logMessageInterval
  preciseOriginTimestamp := (config.arithmetic.originAndCorrection syncSnd syncTxTs).1
  cumulativeScaledRateOffset := config.arithmetic.scaledRateOffset syncSnd.rateRatio
  gmTimeBaseIndicator := syncSnd.gmTimeBaseIndicator
  lastGmPhaseChange := syncSnd.lastGmPhaseChange
  scaledLastGmFreqChange := config.arithmetic.scaledFreqChange syncSnd.lastGmFreqChange

def rsyncFollowUp (config : TwoStepConfig) (syncTxTs : UInt64) (sequenceId : UInt16) : FollowUpPdu where
  sourcePortId := config.identity
  sequenceId := sequenceId
  correctionField := 0
  logMsgInterval := 0
  preciseOriginTimestamp := .ofNanoseconds (config.arithmetic.clockConvert syncTxTs)
  cumulativeScaledRateOffset := 0
  gmTimeBaseIndicator := 0
  lastGmPhaseChange := .replicate 3 0
  scaledLastGmFreqChange := 0

namespace SyncSndPort

def initializing (random : UInt16) (port : SyncSndPort) : SyncSndPort :=
  {port with rcvdMdSync := false,rcvdMdTimestampReceive := false,syncTxSeqnum := random,state := .initializing}

def sendSync (port : SyncSndPort) : SyncSndPort :=
  {port with
    rcvdMdSync := false
    syncs := port.syncs ++
      [⟨⟨port.syncSnd.sourcePortIdentity,port.syncTxSeqnum,port.syncSnd.logMessageInterval⟩,some port.syncSnd⟩]
    syncTxSeqnum := port.syncTxSeqnum + 1
    state := .sendSync}

/-- `md_sync_send_sm_send_follow_up`: the sequence number has been advanced since the Sync. -/
def sendFollowUp (config : TwoStepConfig) (port : SyncSndPort) : SyncSndPort :=
  {port with
    rcvdMdTimestampReceive := false
    followUps := port.followUps ++ [mdSetFollowUp config port.syncSnd port.syncTxTs (port.syncTxSeqnum - 1)]
    state := .sendFollowUp}

section Machine
variable (config : TwoStepConfig) (conditions : PortConditions) (random : UInt16)

def answerRequest (port : SyncSndPort) : SyncSndPort :=
  if port.rcvdMdSync && conditions.capable then port.sendSync else port

def mdSyncSendSm (port : SyncSndPort) : SyncSndPort :=
  if conditions.stopped || (port.rcvdMdSync && !conditions.capable) then port.initializing random
  else
    match port.state with
    | .initializing | .sendFollowUp => port.answerRequest conditions
    | .sendSync =>
      if port.rcvdMdTimestampReceive then port.sendFollowUp config
      else if port.rcvdMdSync then port.answerRequest conditions
      else port

def txMdSync (request : MdSyncSend) (port : SyncSndPort) : SyncSndPort :=
  {port with syncSnd := request,rcvdMdSync := true}.mdSyncSendSm config conditions random

def rsyncSendSync (logSyncInterval : Int8) (port : SyncSndPort) : SyncSndPort :=
  {port with syncs := port.syncs ++ [⟨⟨config.identity,port.syncTxSeqnum,logSyncInterval⟩,none⟩]}

def rsyncSendFollowUp (port : SyncSndPort) : SyncSndPort :=
  {port with followUps := port.followUps ++ [rsyncFollowUp config port.syncTxTs port.syncTxSeqnum]}

def syncTimestamp (ts : UInt64) (port : SyncSndPort) : SyncSndPort :=
  let port := {port with syncTxTs := ts,rcvdMdTimestampReceive := true}
  if config.rsync && !conditions.isGrandmaster then port.rsyncSendFollowUp config
  else port.mdSyncSendSm config conditions random

end Machine

end SyncSndPort

structure PdelayReqPdu where
  sourcePortId : PortIdentity
  sequenceId : UInt16
  deriving DecidableEq

structure PdelayRespPdu where
  sourcePortId : PortIdentity
  sequenceId : UInt16
  requestReceiptTimestamp : PtpTimestamp
  requestingPortIdentity : PortIdentity
  deriving DecidableEq

structure PdelayRespFollowUpPdu where
  sourcePortId : PortIdentity
  sequenceId : UInt16
  responseOriginTimestamp : PtpTimestamp
  requestingPortIdentity : PortIdentity
  deriving DecidableEq

inductive PdelayRespState where
  | notEnabled
  | waitingForPdelayReq
  | initialWaitingForPdelayReq
  | sentPdelayRespWaitingForTimestamp
  deriving DecidableEq

inductive PdelayRespEvent where
  | reqReceived
  | run
  deriving DecidableEq

structure PdelayRespPort where
  state : PdelayRespState
  rcvdPdelayReq : Bool
  rcvdMdTimestampReceive : Bool
  reqRx : PdelayReqPdu
  reqRxTs : UInt64
  respTxTs : UInt64
  resps : List PdelayRespPdu
  followUps : List PdelayRespFollowUpPdu

namespace PdelayRespPort

section Machine
variable (config : TwoStepConfig) (conditions : PortConditions)

def mdSetPdelayResp (port : PdelayRespPort) : PdelayRespPdu :=
  ⟨config.identity,port.reqRx.sequenceId,.ofNanoseconds port.reqRxTs,port.reqRx.sourcePortId⟩

def mdSetPdelayRespFup (port : PdelayRespPort) : PdelayRespFollowUpPdu :=
  ⟨config.identity,port.reqRx.sequenceId,.ofNanoseconds port.respTxTs,port.reqRx.sourcePortId⟩

def initialWaitingReq (port : PdelayRespPort) : PdelayRespPort :=
  {port with rcvdPdelayReq := false,rcvdMdTimestampReceive := false,state := .initialWaitingForPdelayReq}

def waitingReq (port : PdelayRespPort) : PdelayRespPort :=
  {port with
    rcvdMdTimestampReceive := false
    followUps := port.followUps ++ [port.mdSetPdelayRespFup config]
    state := .waitingForPdelayReq}

def waitingTimestamp (port : PdelayRespPort) : PdelayRespPort :=
  {port with
    rcvdPdelayReq := false
    resps := port.resps ++ [port.mdSetPdelayResp config]
    state := .sentPdelayRespWaitingForTimestamp}

/-- `md_pdelay_resp_sm`; `portEnabled1` is `ptpPortEnabled`. -/
def mdPdelayRespSm (event : PdelayRespEvent) (port : PdelayRespPort) : PdelayRespPort :=
  if conditions.begin || !conditions.portOper || !conditions.ptpPortEnabled then {port with state := .notEnabled}
  else
    match port.state with
    | .notEnabled => port.initialWaitingReq
    | .waitingForPdelayReq | .initialWaitingForPdelayReq =>
      if port.rcvdPdelayReq then port.waitingTimestamp config else port
    | .sentPdelayRespWaitingForTimestamp =>
      if port.rcvdMdTimestampReceive then port.waitingReq config
      else if event = .reqReceived then port.initialWaitingReq
      else port

def gptpHandlePdelayReq (msg : PdelayReqPdu) (ts : UInt64) (port : PdelayRespPort) : PdelayRespPort :=
  {port with reqRxTs := ts,reqRx := msg,rcvdPdelayReq := true}.mdPdelayRespSm config conditions .reqReceived

def respTimestamp (ts : UInt64) (port : PdelayRespPort) : PdelayRespPort :=
  {port with respTxTs := ts,rcvdMdTimestampReceive := true}.mdPdelayRespSm config conditions .run

end Machine

end PdelayRespPort

/-- What happens on a port: timestamps come for a message that has been transmitted, late, in any
order, or never. -/
inductive TwoStepInput where
  | txMdSync (request : MdSyncSend) (random : UInt16)
  | rsyncSync (logSyncInterval : Int8)
  | syncTimestamp (sync : Nat) (random : UInt16)
  | pdelayReq (msg : PdelayReqPdu) (ts : UInt64)
  | respTimestamp (resp : Nat)
  | portUpdate

structure TwoStepPort where
  syncSnd : SyncSndPort
  syncReports : List Nat
  pdelayResp : PdelayRespPort
  respReports : List Nat

structure EgressTimes where
  sync : Nat → UInt64
  resp : Nat → UInt64

namespace TwoStepPort

def twoStep (config : TwoStepConfig) (egress : EgressTimes) (input : TwoStepInput × PortConditions)
    (port : TwoStepPort) :
    TwoStepPort :=
  match input.1 with
  | .txMdSync request random => {port with syncSnd := port.syncSnd.txMdSync config input.2 random request}
  | .rsyncSync logSyncInterval => {port with syncSnd := port.syncSnd.rsyncSendSync config logSyncInterval}
  | .syncTimestamp sync random =>
    if sync < port.syncSnd.syncs.length ∧ sync ∉ port.syncReports then
      {port with
        syncSnd := port.syncSnd.syncTimestamp config input.2 random (egress.sync sync + config.txDelayCompensation)
        syncReports := sync :: port.syncReports}
    else port
  | .pdelayReq msg ts => {port with pdelayResp := port.pdelayResp.gptpHandlePdelayReq config input.2 msg ts}
  | .respTimestamp resp =>
    if resp < port.pdelayResp.resps.length ∧ resp ∉ port.respReports then
      {port with
        pdelayResp := port.pdelayResp.respTimestamp config input.2 (egress.resp resp + config.txDelayCompensation)
        respReports := resp :: port.respReports}
    else port
  | .portUpdate => {port with pdelayResp := port.pdelayResp.mdPdelayRespSm config input.2 .run}

def begun (random : UInt16) : TwoStepPort where
  syncSnd := ⟨.initializing,false,false,⟨⟨0,0⟩,0,⟨0,0,0⟩,.replicate 3 0,0,.replicate 3 0,0,.replicate 3 0,0,0⟩,0,random,[],[]⟩
  syncReports := []
  pdelayResp := ⟨.notEnabled,false,false,⟨⟨0,0⟩,0⟩,0,0,[],[]⟩
  respReports := []

end TwoStepPort

end Genavb.Gptp
