import Genavb.Avdecc.Inflight

/-! The sinks of a Milan listener (`acmp_milan.c`) with the discovery of their talkers
(`adp_milan.c`) and the commands in flight of their entity. -/
namespace Genavb.Avdecc
open Maap (MacAddress)

def ACMP_FLAG_STREAMING_WAIT : UInt16 := 8

inductive ListenerSinkSmState where
  | unbound
  | prbWAvail
  | prbWDelay
  | prbWResp
  | prbWResp2
  | prbWRetry
  | settledNoRsv
  | settledRsvOk
  deriving DecidableEq

inductive ListenerSinkSrpState where
  | notRegistering
  | registering
  deriving DecidableEq

inductive ProbingStatus where
  | disabled
  | passive
  | active
  | completed
  deriving DecidableEq

inductive ListenerStreamStatus where
  | noTalker
  | active
  | failed
  deriving DecidableEq

structure BindingParams where
  controllerEntityId : UInt64
  talkerEntityId : UInt64
  talkerUniqueId : UInt16
  flags : UInt16
  deriving DecidableEq

structure SrpParams where
  streamId : UInt64
  streamDestMac : MacAddress
  streamVlanId : UInt16
  deriving DecidableEq

structure StreamInputDynamicDesc where
  binding : BindingParams
  srp : SrpParams
  state : ListenerSinkSmState
  probeTxSeqId : UInt16
  probingStatus : ProbingStatus
  acmpStatus : AcmpStatus
  srpState : ListenerSinkSrpState
  srpStreamStatus : ListenerStreamStatus
  talkerDiscovered : Bool
  availableIndex : UInt32
  interfaceIndex : UInt16
  acmpDelayTimer : Bool
  acmpRetryTimer : Bool
  acmpTalkerRegistrationTimer : Bool
  adpDiscoveryTimer : Bool
  deriving DecidableEq

inductive ListenerSinkSmEvent where
  | tmrNoResp
  | rcvBindRxCmd (pdu : AcmpPdu)
  | rcvProbeTxResp (pdu : AcmpPdu) (status : AcmpStatus)
  | rcvGetRxState
  | rcvUnbindRxCmd
  | tmrRetry
  | tmrDelay
  | tmrNoTk
  | evtTkDiscovered
  | evtTkDeparted
  | evtTkRegistered
  | evtTkUnregistered
  | savedBindingParams

inductive MilanSent where
  | bindRxResponse (sink : UInt16) (status : AcmpStatus)
  | unbindRxResponse (sink : UInt16) (status : AcmpStatus)
  | getRxStateResponse (sink : UInt16) (status : AcmpStatus)
  | probeTxCommand (pdu : AcmpPdu)
  deriving DecidableEq

/-- An ADP message, with whether its gPTP grandmaster and domain are those of the interface of each sink. -/
structure AdpPdu where
  entityId : UInt64
  availableIndex : UInt32
  interfaceIndex : UInt16
  checkGptp : UInt16 → Bool

inductive DiscoveryEvent where
  | rcvAdpAvailable (pdu : AdpPdu)
  | rcvAdpDeparting (pdu : AdpPdu)
  | tmrNoAdp
  | reset

structure MilanListener where
  entityId : UInt64
  maxListenerStreams : Nat
  /-- The controller that holds the lock of the entity. -/
  lock : Option UInt64
  acmp : AcmpCtx
  sinks : UInt16 → StreamInputDynamicDesc
  sent : List MilanSent

def BindingParams.zero : BindingParams := ⟨0,0,0,0⟩
def SrpParams.zero : SrpParams := ⟨0,⟨0,0,0,0,0,0⟩,0⟩

def AcmpPdu.binding (pdu : AcmpPdu) : BindingParams :=
  ⟨pdu.controllerEntityId,pdu.talkerEntityId,pdu.talkerUniqueId,pdu.flags &&& ACMP_FLAG_STREAMING_WAIT⟩

namespace StreamInputDynamicDesc

def isTalker (talkerEntityId : UInt64) (talkerUniqueId : UInt16) (sink : StreamInputDynamicDesc) : Bool :=
  sink.binding.talkerEntityId = talkerEntityId && sink.binding.talkerUniqueId = talkerUniqueId

def needBindingRestart (pdu : AcmpPdu) (sink : StreamInputDynamicDesc) : Bool :=
  !sink.isTalker pdu.talkerEntityId pdu.talkerUniqueId

def isBound (sink : StreamInputDynamicDesc) : Bool := sink.state ≠ .unbound

def isSettled (sink : StreamInputDynamicDesc) : Bool :=
  sink.state = .settledNoRsv || sink.state = .settledRsvOk

def isWaiting (sink : StreamInputDynamicDesc) : Bool := sink.state = .prbWResp || sink.state = .prbWResp2

def enter (state : ListenerSinkSmState) (sink : StreamInputDynamicDesc) : StreamInputDynamicDesc :=
  {sink with state := state}

def setProbing (status : ProbingStatus) (sink : StreamInputDynamicDesc) : StreamInputDynamicDesc :=
  {sink with probingStatus := status,acmpStatus := .success}

def srpStateClear (sink : StreamInputDynamicDesc) : StreamInputDynamicDesc :=
  {sink with srp := .zero,srpState := .notRegistering,srpStreamStatus := .noTalker}

def discoveryReset (sink : StreamInputDynamicDesc) : StreamInputDynamicDesc :=
  if sink.talkerDiscovered then {sink with adpDiscoveryTimer := false,talkerDiscovered := false} else sink

def unbound (sink : StreamInputDynamicDesc) : StreamInputDynamicDesc :=
  ({sink with binding := .zero}.setProbing .disabled).enter .unbound

def probeAgain (sink : StreamInputDynamicDesc) : StreamInputDynamicDesc :=
  if sink.talkerDiscovered then {sink with acmpDelayTimer := true}.enter .prbWDelay
  else (sink.setProbing .passive).enter .prbWAvail

def released (sink : StreamInputDynamicDesc) : StreamInputDynamicDesc :=
  if sink.talkerDiscovered then (sink.srpStateClear.setProbing .active).probeAgain else sink.srpStateClear.probeAgain

end StreamInputDynamicDesc

namespace MilanListener

def modifySink (index : UInt16) (change : StreamInputDynamicDesc → StreamInputDynamicDesc) (listener : MilanListener) :
    MilanListener :=
  {listener with sinks := Function.update listener.sinks index (change (listener.sinks index))}

def send (message : MilanSent) (listener : MilanListener) : MilanListener :=
  {listener with sent := listener.sent ++ [message]}

/-- `acmp_listener_unique_valid`. -/
def sinkValid (index : UInt16) (listener : MilanListener) : Bool := index.toNat < listener.maxListenerStreams

def isLocked (controller : UInt64) (listener : MilanListener) : Bool :=
  match listener.lock with
  | none => false
  | some holder => holder ≠ controller

def inflightCancel (sequenceId : UInt16) (listener : MilanListener) : MilanListener :=
  {listener with acmp := listener.acmp.inflightCancel sequenceId}

def probeTxCommand (index : UInt16) (listener : MilanListener) : AcmpPdu where
  controllerEntityId := (listener.sinks index).binding.controllerEntityId
  talkerEntityId := (listener.sinks index).binding.talkerEntityId
  talkerUniqueId := (listener.sinks index).binding.talkerUniqueId
  listenerEntityId := listener.entityId
  listenerUniqueId := index
  streamId := 0
  streamDestMac := ⟨0,0,0,0,0,0⟩
  connectionCount := 0
  sequenceId := 0
  flags := 0
  streamVlanId := 0

def sendProbeTxCommand (index : UInt16) (listener : MilanListener) : MilanListener :=
  let (pdu,acmp) := listener.acmp.acmpSendCmd .connectTx listener.acmp.sequenceId (listener.probeTxCommand index)
  ({listener with acmp := acmp}.modifySink index ({· with probeTxSeqId := listener.acmp.sequenceId})).send
    (.probeTxCommand pdu)

/-- `is_listener_already_bound_to_talker_unique_id`. -/
def alreadyBoundTo (index : UInt16) (pdu : AcmpPdu) (listener : MilanListener) : Bool :=
  (List.range listener.maxListenerStreams).any fun other =>
    UInt16.ofNat other ≠ index && (listener.sinks (.ofNat other)).isTalker pdu.talkerEntityId pdu.talkerUniqueId

/-- `acmp_milan_listener_bind` for a talker that no other sink is bound to. -/
def listenerBind (index : UInt16) (pdu : AcmpPdu) (listener : MilanListener) : MilanListener :=
  let next := (listener.modifySink index ({· with binding := pdu.binding})).send (.bindRxResponse index .success)
  if (listener.sinks index).needBindingRestart pdu then
    (next.sendProbeTxCommand index).modifySink index (·.setProbing .active)
  else next

def refuseBind (index : UInt16) (listener : MilanListener) : MilanListener :=
  listener.send (.bindRxResponse index .talkerExclusive)

/-- A bind command to a bound sink: when it restarts the binding, `stop` drops what the sink was
waiting for. -/
def rebind (index : UInt16) (pdu : AcmpPdu) (stop : MilanListener → MilanListener) (listener : MilanListener) :
    MilanListener :=
  if listener.alreadyBoundTo index pdu then listener.refuseBind index
  else if (listener.sinks index).needBindingRestart pdu then
    (stop (listener.listenerBind index pdu)).modifySink index (·.discoveryReset.enter .prbWResp)
  else listener.listenerBind index pdu

def listenerUnbind (index : UInt16) (stop : StreamInputDynamicDesc → StreamInputDynamicDesc)
    (listener : MilanListener) :
    MilanListener :=
  (listener.modifySink index fun sink => (stop sink).unbound).send (.unbindRxResponse index .success)

def rcvProbeTxResp (index : UInt16) (pdu : AcmpPdu) (status : AcmpStatus) (listener : MilanListener) : MilanListener :=
  let next := listener.inflightCancel pdu.sequenceId
  if status ≠ .success then
    next.modifySink index fun sink => {sink with acmpStatus := status,acmpRetryTimer := true}.enter .prbWRetry
  else next.modifySink index fun sink =>
    ({sink with
      srp := ⟨pdu.streamId,pdu.streamDestMac,pdu.streamVlanId⟩
      acmpTalkerRegistrationTimer := true}.setProbing .completed).enter .settledNoRsv

def sinkSm (index : UInt16) (event : ListenerSinkSmEvent) (listener : MilanListener) : MilanListener :=
  let sink := listener.sinks index
  let getRxState := listener.send (.getRxStateResponse index .success)
  match sink.state with
  | .unbound =>
    match event with
    | .rcvBindRxCmd pdu =>
      if listener.alreadyBoundTo index pdu then listener.refuseBind index
      else (listener.listenerBind index pdu).modifySink index (·.discoveryReset.enter .prbWResp)
    | .rcvGetRxState => getRxState
    | .rcvUnbindRxCmd => listener.listenerUnbind index id
    | .savedBindingParams =>
      listener.modifySink index fun sink => (sink.discoveryReset.setProbing .passive).enter .prbWAvail
    | _ => listener
  | .prbWAvail =>
    match event with
    | .rcvBindRxCmd pdu => listener.rebind index pdu id
    | .rcvGetRxState => getRxState
    | .rcvUnbindRxCmd => listener.listenerUnbind index (·.discoveryReset)
    | .evtTkDiscovered =>
      listener.modifySink index fun sink => ({sink with acmpDelayTimer := true}.setProbing .active).enter .prbWDelay
    | _ => listener
  | .prbWDelay =>
    match event with
    | .tmrDelay => (listener.sendProbeTxCommand index).modifySink index (·.enter .prbWResp)
    | .rcvBindRxCmd pdu => listener.rebind index pdu fun next => next.modifySink index ({· with acmpDelayTimer := false})
    | .rcvGetRxState => getRxState
    | .rcvUnbindRxCmd => listener.listenerUnbind index fun sink => {sink.discoveryReset with acmpDelayTimer := false}
    | .evtTkDeparted =>
      listener.modifySink index fun sink => ({sink with acmpDelayTimer := false}.setProbing .passive).enter .prbWAvail
    | _ => listener
  | .prbWResp | .prbWResp2 =>
    match event with
    | .tmrNoResp =>
      if sink.state = .prbWResp then listener.modifySink index (·.enter .prbWResp2)
      else listener.modifySink index fun sink =>
        {sink with acmpRetryTimer := true,acmpStatus := .listenerTalkerTimeout}.enter .prbWRetry
    | .rcvBindRxCmd pdu => listener.rebind index pdu (·.inflightCancel sink.probeTxSeqId)
    | .rcvProbeTxResp pdu status =>
      match listener.acmp.inflightFind pdu.sequenceId with
      | none => listener
      | some _ => listener.rcvProbeTxResp index pdu status
    | .rcvGetRxState => getRxState
    | .rcvUnbindRxCmd => (listener.inflightCancel sink.probeTxSeqId).listenerUnbind index (·.discoveryReset)
    | .evtTkDeparted =>
      (listener.inflightCancel sink.probeTxSeqId).modifySink index fun sink => (sink.setProbing .passive).enter .prbWAvail
    | _ => listener
  | .prbWRetry =>
    match event with
    | .tmrRetry => listener.modifySink index (·.probeAgain)
    | .rcvBindRxCmd pdu => listener.rebind index pdu fun next => next.modifySink index ({· with acmpRetryTimer := false})
    | .rcvGetRxState => getRxState
    | .rcvUnbindRxCmd => listener.listenerUnbind index fun sink => {sink.discoveryReset with acmpRetryTimer := false}
    | .evtTkDeparted =>
      listener.modifySink index fun sink => ({sink with acmpRetryTimer := false}.setProbing .passive).enter .prbWAvail
    | _ => listener
  | .settledNoRsv =>
    match event with
    | .tmrNoTk => listener.modifySink index (·.released)
    | .rcvBindRxCmd pdu => listener.rebind index pdu fun next =>
        next.modifySink index fun sink => {sink.srpStateClear with acmpTalkerRegistrationTimer := false}
    | .rcvGetRxState => getRxState
    | .rcvUnbindRxCmd => listener.listenerUnbind index fun sink =>
        {sink.srpStateClear.discoveryReset with acmpTalkerRegistrationTimer := false}
    | .evtTkRegistered =>
      listener.modifySink index fun sink => {sink with acmpTalkerRegistrationTimer := false}.enter .settledRsvOk
    | _ => listener
  | .settledRsvOk =>
    match event with
    | .rcvBindRxCmd pdu => listener.rebind index pdu fun next => next.modifySink index (·.srpStateClear)
    | .rcvGetRxState => getRxState
    | .rcvUnbindRxCmd => listener.listenerUnbind index (·.srpStateClear.discoveryReset)
    | .evtTkUnregistered => listener.modifySink index (·.released)
    | _ => listener

def sinkEvent (index : UInt16) (event : ListenerSinkSmEvent) (listener : MilanListener) : MilanListener :=
  if listener.sinkValid index then listener.sinkSm index event else listener

def discoverySm (index : UInt16) (event : DiscoveryEvent) (listener : MilanListener) : MilanListener :=
  let sink := listener.sinks index
  if !sink.talkerDiscovered then
    match event with
    | .rcvAdpAvailable pdu =>
      if !pdu.checkGptp index then listener
      else
        ((listener.modifySink index ({· with
          availableIndex := pdu.availableIndex
          interfaceIndex := pdu.interfaceIndex
          adpDiscoveryTimer := true})).sinkEvent index .evtTkDiscovered).modifySink index ({· with talkerDiscovered := true})
    | _ => listener
  else match event with
    | .rcvAdpAvailable pdu =>
      if sink.interfaceIndex ≠ pdu.interfaceIndex then listener
      else
        let continued := fun (next : MilanListener) =>
          next.modifySink index ({· with availableIndex := pdu.availableIndex,adpDiscoveryTimer := true})
        if (pdu.availableIndex - sink.availableIndex).toBitVec.toInt ≤ 0 then
          let next := listener.sinkEvent index .evtTkDeparted
          if !pdu.checkGptp index then next.modifySink index ({· with adpDiscoveryTimer := false,talkerDiscovered := false})
          else continued (next.sinkEvent index .evtTkDiscovered)
        else continued listener
    | .rcvAdpDeparting pdu =>
      if sink.interfaceIndex ≠ pdu.interfaceIndex then listener
      else ((listener.modifySink index ({· with adpDiscoveryTimer := false})).sinkEvent index .evtTkDeparted).modifySink index
        ({· with talkerDiscovered := false})
    | .tmrNoAdp => (listener.sinkEvent index .evtTkDeparted).modifySink index ({· with talkerDiscovered := false})
    | .reset => listener.modifySink index (·.discoveryReset)

/-- `adp_milan_listener_rcv`: the sinks that are bound to the entity of the message. -/
def adpRcv (entityId : UInt64) (event : DiscoveryEvent) (listener : MilanListener) : MilanListener :=
  (List.range listener.maxListenerStreams).foldl
    (fun next index =>
      let sink := next.sinks (.ofNat index)
      if sink.isBound ∧ sink.binding.talkerEntityId = entityId then next.discoverySm (.ofNat index) event else next)
    listener

def srpStateSm (index : UInt16) (status : ListenerStreamStatus) (params : SrpParams) (listener : MilanListener) :
    MilanListener :=
  let sink := listener.sinks index
  if !sink.isSettled then listener
  else if status ≠ .noTalker ∧ sink.srp ≠ params then listener
  else
    let listener := listener.modifySink index ({· with srpStreamStatus := status})
    match sink.srpState with
    | .notRegistering =>
      if status ≠ .noTalker then
        (listener.modifySink index ({· with srpState := .registering})).sinkEvent index .evtTkRegistered
      else listener
    | .registering =>
      if status = .noTalker then
        (listener.modifySink index ({· with srpState := .notRegistering})).sinkEvent index .evtTkUnregistered
      else listener

/-- `GENAVB_MSG_LISTENER_STATUS`: the first sink that has the stream. -/
def listenerStatus (status : ListenerStreamStatus) (params : SrpParams) (listener : MilanListener) : MilanListener :=
  match (List.range listener.maxListenerStreams).find? fun index =>
      (listener.sinks (.ofNat index)).srp.streamId = params.streamId with
  | none => listener
  | some index => listener.srpStateSm (.ofNat index) status params

def rcvBindingParams (index : UInt16) (binding : BindingParams) (listener : MilanListener) : MilanListener :=
  if !listener.sinkValid index then listener
  else if binding.talkerEntityId = 0 ∨ binding.controllerEntityId = 0 then listener
  else (listener.modifySink index ({· with binding := binding})).sinkSm index .savedBindingParams

def rcvBindRx (pdu : AcmpPdu) (listener : MilanListener) : MilanListener :=
  if !listener.sinkValid pdu.listenerUniqueId then listener.send (.bindRxResponse pdu.listenerUniqueId .listenerUnknownId)
  else if listener.isLocked pdu.controllerEntityId then
    listener.send (.bindRxResponse pdu.listenerUniqueId .controllerNotAuthorized)
  else listener.sinkSm pdu.listenerUniqueId (.rcvBindRxCmd pdu)

def rcvUnbindRx (pdu : AcmpPdu) (listener : MilanListener) : MilanListener :=
  if !listener.sinkValid pdu.listenerUniqueId then listener.send (.unbindRxResponse pdu.listenerUniqueId .listenerUnknownId)
  else if listener.isLocked pdu.controllerEntityId then
    listener.send (.unbindRxResponse pdu.listenerUniqueId .controllerNotAuthorized)
  else listener.sinkSm pdu.listenerUniqueId .rcvUnbindRxCmd

def rcvGetRxState (pdu : AcmpPdu) (listener : MilanListener) : MilanListener :=
  if !listener.sinkValid pdu.listenerUniqueId then listener.send (.getRxStateResponse pdu.listenerUniqueId .listenerUnknownId)
  else listener.sinkSm pdu.listenerUniqueId .rcvGetRxState

/-- `avdecc_inflight_timeout` with `acmp_inflight_timeout`, for the entry at a position: the first
expiry is an event of the sink that the message names whatever the command is. -/
def inflightTimeout (position : Nat) (listener : MilanListener) : MilanListener :=
  match listener.acmp.inflight[position]? with
  | none => listener
  | some entry =>
    if !entry.retried then
      let next := listener.sinkEvent entry.pdu.listenerUniqueId .tmrNoResp
      {next with acmp := next.acmp.inflightRetry position}
    else
      let next := match entry.msgType with
        | .controller => listener
        | _ => listener.sinkEvent entry.pdu.listenerUniqueId .tmrNoResp
      {next with acmp := next.acmp.inflightRemove position}

def timerExpires (index : UInt16) (runs : StreamInputDynamicDesc → Bool)
    (stop : StreamInputDynamicDesc → StreamInputDynamicDesc) (event : ListenerSinkSmEvent) (listener : MilanListener) :
    MilanListener :=
  if runs (listener.sinks index) then (listener.modifySink index stop).sinkEvent index event else listener

end MilanListener

inductive SinkInput where
  | bindRxCommand (pdu : AcmpPdu)
  | unbindRxCommand (pdu : AcmpPdu)
  | getRxStateCommand (pdu : AcmpPdu)
  | probeTxResponse (pdu : AcmpPdu) (status : AcmpStatus)
  | savedBinding (index : UInt16) (binding : BindingParams)
  | adpAvailable (pdu : AdpPdu)
  | adpDeparting (pdu : AdpPdu)
  | listenerStatus (status : ListenerStreamStatus) (params : SrpParams)
  | delayTimer (index : UInt16)
  | retryTimer (index : UInt16)
  | talkerRegistrationTimer (index : UInt16)
  | discoveryTimer (index : UInt16)
  | inflightTimer (position : Nat)

/-- What the entity receives, with the commands that its own controller sends and their responses. -/
inductive MilanInput where
  | sink (input : SinkInput)
  | controllerCommand (pdu : AcmpPdu)
  | controllerResponse (pdu : AcmpPdu)

namespace MilanListener

def sinkStep (input : SinkInput) (listener : MilanListener) : MilanListener :=
  match input with
  | .bindRxCommand pdu => listener.rcvBindRx pdu
  | .unbindRxCommand pdu => listener.rcvUnbindRx pdu
  | .getRxStateCommand pdu => listener.rcvGetRxState pdu
  | .probeTxResponse pdu status => listener.sinkEvent pdu.listenerUniqueId (.rcvProbeTxResp pdu status)
  | .savedBinding index binding => listener.rcvBindingParams index binding
  | .adpAvailable pdu => listener.adpRcv pdu.entityId (.rcvAdpAvailable pdu)
  | .adpDeparting pdu => listener.adpRcv pdu.entityId (.rcvAdpDeparting pdu)
  | .listenerStatus status params => listener.listenerStatus status params
  | .delayTimer index =>
    listener.timerExpires index (·.acmpDelayTimer) ({· with acmpDelayTimer := false}) .tmrDelay
  | .retryTimer index =>
    listener.timerExpires index (·.acmpRetryTimer) ({· with acmpRetryTimer := false}) .tmrRetry
  | .talkerRegistrationTimer index =>
    listener.timerExpires index (·.acmpTalkerRegistrationTimer) ({· with acmpTalkerRegistrationTimer := false}) .tmrNoTk
  | .discoveryTimer index =>
    if (listener.sinks index).adpDiscoveryTimer then
      (listener.modifySink index ({· with adpDiscoveryTimer := false})).discoverySm index .tmrNoAdp
    else listener
  | .inflightTimer position => listener.inflightTimeout position

def milanStep (input : MilanInput) (listener : MilanListener) : MilanListener :=
  match input with
  | .sink input => listener.sinkStep input
  | .controllerCommand pdu => {listener with acmp := (listener.acmp.acmpSendCmd .controller listener.acmp.sequenceId pdu).2}
  | .controllerResponse pdu => listener.inflightCancel pdu.sequenceId

def unboundSink : StreamInputDynamicDesc :=
  ⟨.zero,.zero,.unbound,0,.disabled,.success,.notRegistering,.noTalker,false,0,0,false,false,false,false⟩

def acmpMilanInit (entityId : UInt64) (maxListenerStreams maxInflights : Nat) (lock : Option UInt64) : MilanListener :=
  ⟨entityId,maxListenerStreams,lock,⟨[],maxInflights,0⟩,fun _ => unboundSink,[]⟩

section Sinks
variable {listener : MilanListener} {index other : UInt16} {change : StreamInputDynamicDesc → StreamInputDynamicDesc}

@[simp] theorem modifySink_same : (listener.modifySink index change).sinks index = change (listener.sinks index) :=
  Function.update_self ..

@[simp] theorem modifySink_other (apart : other ≠ index) :
    (listener.modifySink index change).sinks other = listener.sinks other := Function.update_of_ne apart ..

@[simp] theorem modifySink_acmp : (listener.modifySink index change).acmp = listener.acmp := rfl

@[simp] theorem send_acmp (message : MilanSent) : (listener.send message).acmp = listener.acmp := rfl

@[simp] theorem send_sinks (message : MilanSent) : (listener.send message).sinks = listener.sinks := rfl

@[simp] theorem inflightCancel_sinks (sequenceId : UInt16) :
    (listener.inflightCancel sequenceId).sinks = listener.sinks :=
  rfl

end Sinks

end MilanListener

end Genavb.Avdecc
