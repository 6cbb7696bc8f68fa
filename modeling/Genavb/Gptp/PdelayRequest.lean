import Genavb.Gptp.TwoStep

/-! The machine that requests the peer delay (`md_pdelay_req_sm`), the handlers that store its
messages and timestamps (`gptp.c`) and what its computations are made from. -/
namespace Genavb.Gptp

def PTP_TS_UNSET_U64_VALUE : UInt64 := 0xffffffffffffffff

def PtpTimestamp.toU64 (timestamp : PtpTimestamp) : UInt64 :=
  timestamp.nanoseconds.toUInt64 +
    (timestamp.secondsLsb.toUInt64 + timestamp.secondsMsb.toUInt64 <<< 32) * 1000000000

inductive PdelayReqState where
  | notEnabled
  | reset
  | initialSendPdelayReq
  | sendPdelayReq
  | waitingForPdelayResp
  | waitingForPdelayRespFollowUp
  | waitingForPdelayIntervalTimer
  deriving DecidableEq

inductive PdelayReqEvent where
  | reqInterval
  | run
  deriving DecidableEq

structure PdelayReqConfig where
  identity : PortIdentity
  pdelayTransmitEnabled : Bool
  /-- The automotive profile with a static propagation delay. -/
  staticPdelay : Bool
  allowedLostResponses : UInt8

/-- What the machine reads of its surroundings; `portEnabled0` is `ptpPortEnabled`, and
`sequence_id_random` returns `random`. -/
structure PdelayReqConditions where
  begin : Bool
  portOper : Bool
  portEnabled0 : Bool
  computeNeighborRateRatio : Bool
  computeMeanLinkDelay : Bool
  phaseDiscont : UInt32
  random : UInt16
  deriving DecidableEq

inductive PdelayComputation where
  | rateRatio
  | propTime
  deriving DecidableEq

/-- What a computation is made from. `timestampOf` is the request that `reqTxTs` is the egress
timestamp of and `accepted` the response that was accepted last with its timestamp; the code keeps
neither. -/
structure PdelayExchange where
  txPdelayReq : PdelayReqPdu
  reqTxTs : UInt64
  timestampOf : Option UInt16
  respRx : PdelayRespPdu
  respRxTs : UInt64
  accepted : Option (PdelayRespPdu × UInt64)
  respFupRx : PdelayRespFollowUpPdu
  deriving DecidableEq

/-- `fault` is set where the machine would not come to rest. -/
structure PdelayReqPort where
  state : PdelayReqState
  rcvdPdelayResp : Bool
  rcvdPdelayRespFollowUp : Bool
  rcvdMdTimestampReceive : Bool
  pdelayReqSequenceId : UInt16
  exchange : PdelayExchange
  lostResponses : UInt16
  neighborRateRatioValid : Bool
  prevResponderTimestamp : UInt64
  prevIngressTimestamp : UInt64
  prevRateRatioPhaseDiscont : UInt32
  prevPdelayPhaseDiscont : UInt32
  computations : List (PdelayComputation × PdelayExchange)
  fault : Bool

namespace PdelayExchange

def isRespValid (exchange : PdelayExchange) : Bool :=
  exchange.respRx.requestingPortIdentity = exchange.txPdelayReq.sourcePortId &&
    exchange.respRx.sequenceId = exchange.txPdelayReq.sequenceId

def isRespFupValid (exchange : PdelayExchange) : Bool :=
  exchange.respFupRx.sequenceId = exchange.txPdelayReq.sequenceId &&
    exchange.respFupRx.sourcePortId = exchange.respRx.sourcePortId

end PdelayExchange

namespace PdelayReqPort

section Machine
variable (config : PdelayReqConfig) (conditions : PdelayReqConditions)

def smReset (port : PdelayReqPort) : PdelayReqPort :=
  if port.lostResponses.toNat < config.allowedLostResponses.toNat then
    {port with rcvdPdelayResp := false,lostResponses := port.lostResponses + 1,state := .reset}
  else
    {port with
      rcvdPdelayResp := false
      prevResponderTimestamp := PTP_TS_UNSET_U64_VALUE
      neighborRateRatioValid := false
      state := .reset}

def mdSetPdelayReq (port : PdelayReqPort) : PdelayReqPort :=
  {port with exchange := {port.exchange with txPdelayReq := ⟨config.identity,port.pdelayReqSequenceId⟩}}

def smInitialSend (port : PdelayReqPort) : PdelayReqPort :=
  {port with
    rcvdPdelayResp := false
    rcvdPdelayRespFollowUp := false
    rcvdMdTimestampReceive := false
    lostResponses := 0
    prevResponderTimestamp := PTP_TS_UNSET_U64_VALUE
    neighborRateRatioValid := false
    pdelayReqSequenceId := conditions.random
    state := .initialSendPdelayReq}.mdSetPdelayReq config

def smSend (port : PdelayReqPort) : PdelayReqPort :=
  {port with
    pdelayReqSequenceId := port.pdelayReqSequenceId + 1
    prevPdelayPhaseDiscont := conditions.phaseDiscont
    state := .sendPdelayReq}.mdSetPdelayReq config

def smWaitingResp (port : PdelayReqPort) : PdelayReqPort :=
  {port with rcvdMdTimestampReceive := false,state := .waitingForPdelayResp}

def smWaitingFup (port : PdelayReqPort) : PdelayReqPort :=
  {port with
    rcvdPdelayResp := false
    exchange := {port.exchange with accepted := some (port.exchange.respRx,port.exchange.respRxTs)}
    state := .waitingForPdelayRespFollowUp}

def computePdelayRateRatio (port : PdelayReqPort) : PdelayReqPort × Bool :=
  let responder := port.exchange.respFupRx.responseOriginTimestamp.toU64
  let ingress := port.exchange.respRxTs
  let saved (port : PdelayReqPort) : PdelayReqPort :=
    {port with
      prevIngressTimestamp := ingress
      prevResponderTimestamp := responder
      prevRateRatioPhaseDiscont := conditions.phaseDiscont}
  if port.prevResponderTimestamp = PTP_TS_UNSET_U64_VALUE then (saved port,false)
  else if port.prevRateRatioPhaseDiscont ≠ conditions.phaseDiscont then (saved port,true)
  else if ingress > port.prevIngressTimestamp ∧ responder > port.prevResponderTimestamp then
    (saved {port with
      neighborRateRatioValid := true
      computations := port.computations ++ [(.rateRatio,port.exchange)]},false)
  else (saved {port with neighborRateRatioValid := false},false)

def computePropTime (port : PdelayReqPort) : PdelayReqPort :=
  if port.prevPdelayPhaseDiscont = conditions.phaseDiscont ∧ port.neighborRateRatioValid then
    {port with computations := port.computations ++ [(.propTime,port.exchange)]}
  else port

def smWaitingInterval (port : PdelayReqPort) : PdelayReqPort :=
  let port := {port with rcvdPdelayRespFollowUp := false,lostResponses := 0}
  let (port,phaseDiscont) :=
    if conditions.computeNeighborRateRatio then port.computePdelayRateRatio conditions
    else ({port with prevResponderTimestamp := PTP_TS_UNSET_U64_VALUE},false)
  let port := if conditions.computeMeanLinkDelay && !phaseDiscont then port.computePropTime conditions else port
  {port with state := .waitingForPdelayIntervalTimer}

def smWaitingIntervalStaticPdelay (port : PdelayReqPort) : PdelayReqPort :=
  {port with
    rcvdPdelayRespFollowUp := false
    lostResponses := port.lostResponses + 1
    state := .waitingForPdelayIntervalTimer}

def smPass (event : PdelayReqEvent) (port : PdelayReqPort) : PdelayReqPort :=
  match port.state with
  | .notEnabled => if config.pdelayTransmitEnabled then port.smInitialSend config conditions else port
  | .reset =>
    if event = .reqInterval then
      {port with rcvdPdelayResp := false,rcvdPdelayRespFollowUp := false}.smSend config conditions
    else port
  | .initialSendPdelayReq | .sendPdelayReq =>
    if event = .reqInterval then port.smReset config
    else if port.rcvdMdTimestampReceive then port.smWaitingResp
    else port
  | .waitingForPdelayResp =>
    if event = .reqInterval then
      (if config.staticPdelay then port.smWaitingIntervalStaticPdelay else port).smReset config
    else if port.rcvdPdelayResp then
      if port.exchange.isRespValid then port.smWaitingFup else port.smReset config
    else port
  | .waitingForPdelayRespFollowUp =>
    if event = .reqInterval then port.smReset config
    else if port.rcvdPdelayResp && port.exchange.respRx.sequenceId = port.exchange.txPdelayReq.sequenceId then
      port.smReset config
    else if port.rcvdPdelayRespFollowUp && port.exchange.isRespFupValid then port.smWaitingInterval conditions
    else port
  | .waitingForPdelayIntervalTimer => if event = .reqInterval then port.smSend config conditions else port

def nextEvent (event : PdelayReqEvent) (port : PdelayReqPort) : PdelayReqEvent :=
  if port.state = .reset ∧ event = .reqInterval then .reqInterval else .run

def smLoop : Nat → PdelayReqEvent → PdelayReqPort → PdelayReqPort
  | 0,_,port => {port with fault := true}
  | passes + 1,event,port =>
    let next := port.smPass config conditions event
    if next.state = port.state then next else smLoop passes (nextEvent event next) next

/-- `md_pdelay_req_sm`; it makes at most six passes. -/
def mdPdelayReqSm (event : PdelayReqEvent) (port : PdelayReqPort) : PdelayReqPort :=
  if conditions.begin || !conditions.portOper || !conditions.portEnabled0 then {port with state := .notEnabled}
  else smLoop config conditions 6 event port

end Machine

end PdelayReqPort

/-- What the requester is told; a timestamp is that of the request with its sequence id. -/
inductive PdelayReqInput where
  | reqTimer
  | updateFsm
  | pdelayReqTimestamp (sequenceId : UInt16) (ts : UInt64)
  | pdelayResp (msg : PdelayRespPdu) (ts : UInt64)
  | pdelayRespFup (msg : PdelayRespFollowUpPdu)
  deriving DecidableEq

namespace PdelayReqPort

def stored (input : PdelayReqInput) (port : PdelayReqPort) : PdelayReqPort :=
  match input with
  | .reqTimer | .updateFsm => port
  | .pdelayReqTimestamp sequenceId ts =>
    {port with
      exchange := {port.exchange with reqTxTs := ts,timestampOf := some sequenceId}
      rcvdMdTimestampReceive := true}
  | .pdelayResp msg ts =>
    {port with exchange := {port.exchange with respRx := msg,respRxTs := ts},rcvdPdelayResp := true}
  | .pdelayRespFup msg =>
    {port with exchange := {port.exchange with respFupRx := msg},rcvdPdelayRespFollowUp := true}

def eventOf : PdelayReqInput → PdelayReqEvent
  | .reqTimer => .reqInterval
  | _ => .run

/-- `gptp_pdelay_req_timer_handler`, `gptp_port_common_update_fsm`, `gptp_instance_hwts_handler`,
`gptp_handle_pdelay_resp` and `gptp_handle_pdelay_resp_fup`. -/
def step (config : PdelayReqConfig) (input : PdelayReqInput × PdelayReqConditions) (port : PdelayReqPort) :
    PdelayReqPort :=
  (port.stored input.1).mdPdelayReqSm config input.2 (eventOf input.1)

end PdelayReqPort

end Genavb.Gptp
