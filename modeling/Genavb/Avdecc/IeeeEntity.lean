import Genavb.Avdecc.Inflight

/-! The IEEE 1722.1 listener of ACMP (`acmp_ieee.c`): a stream input, the commands of the controllers
and the responses of the talkers. -/
namespace Genavb.Avdecc
open Maap (MacAddress)

def ACMP_FLAG_FAST_CONNECT : UInt16 := 2

structure ListenerStreamInfo where
  controllerEntityId : UInt64
  talkerEntityId : UInt64
  talkerUniqueId : UInt16
  streamId : UInt64
  streamDestMac : MacAddress
  streamVlanId : UInt16
  flags : UInt16
  connected : Bool
  fastConnect : Bool
  deriving DecidableEq

inductive ListenerSent where
  | connectTxCommand
  | disconnectTxCommand
  | connectRxResponse (status : AcmpStatus)
  | disconnectRxResponse (status : AcmpStatus)
  | getRxStateResponse (status : AcmpStatus)
  deriving DecidableEq

structure IeeeListener where
  info : ListenerStreamInfo
  acmp : AcmpCtx
  deriving DecidableEq

/-- What a listener receives, with the success of the calls of the stack it makes; commands and
responses of the controller of the same entity use the same list. -/
inductive ListenerInput where
  | connectRxCommand (pdu : AcmpPdu)
  | connectTxResponse (pdu : AcmpPdu) (status : AcmpStatus) (stackConnect : Bool)
  | disconnectRxCommand (pdu : AcmpPdu) (stackDisconnect : Bool)
  | disconnectTxResponse (pdu : AcmpPdu) (status : AcmpStatus)
  | getRxStateCommand (pdu : AcmpPdu)
  | inflightTimeout (index : Nat)
  | controllerCommand (pdu : AcmpPdu)
  | controllerResponse (pdu : AcmpPdu)

namespace ListenerStreamInfo

def copyInfo (pdu : AcmpPdu) (info : ListenerStreamInfo) : AcmpPdu :=
  {pdu with
    streamId := info.streamId
    talkerEntityId := info.talkerEntityId
    talkerUniqueId := info.talkerUniqueId
    streamDestMac := info.streamDestMac
    flags := info.flags
    streamVlanId := info.streamVlanId
    connectionCount := if info.connected then 1 else 0}

def connect (pdu : AcmpPdu) (stackConnect : Bool) (info : ListenerStreamInfo) : AcmpStatus × ListenerStreamInfo :=
  if info.connected then (.success,info)
  else
    let info := {info with
      controllerEntityId := pdu.controllerEntityId
      flags := pdu.flags
      streamDestMac := pdu.streamDestMac
      streamId := pdu.streamId
      streamVlanId := pdu.streamVlanId
      talkerEntityId := pdu.talkerEntityId
      talkerUniqueId := pdu.talkerUniqueId}
    if !stackConnect then (.listenerMisbehaving,info) else (.success,{info with connected := true})

def disconnect (stackDisconnect : Bool) (info : ListenerStreamInfo) : AcmpStatus × ListenerStreamInfo :=
  (if stackDisconnect then .success else .listenerMisbehaving,{info with connected := false,flags := 0})

def isTalker (pdu : AcmpPdu) (info : ListenerStreamInfo) : Bool :=
  info.talkerEntityId = pdu.talkerEntityId && info.talkerUniqueId = pdu.talkerUniqueId

def listenerConnected (pdu : AcmpPdu) (info : ListenerStreamInfo) : Bool := info.connected && !info.isTalker pdu

def listenerConnectedTo (pdu : AcmpPdu) (info : ListenerStreamInfo) : Bool := info.connected && info.isTalker pdu

end ListenerStreamInfo

namespace IeeeListener

def rcvConnectTxResponse (pdu : AcmpPdu) (status : AcmpStatus) (stackConnect : Bool) (listener : IeeeListener) :
    Option (ListenerSent × AcmpPdu) × IeeeListener :=
  let (statusRsp,info) := if status = .success then listener.info.connect pdu stackConnect else (status,listener.info)
  let acmpRsp := info.copyInfo (acmpNetTxInit pdu)
  let acmpRsp :=
    match listener.acmp.inflightFind pdu.sequenceId with
    | none => acmpRsp
    | some entry => {acmpRsp with sequenceId := entry.origSeqId}
  (if info.fastConnect then none else some (.connectRxResponse statusRsp,acmpRsp),
    ⟨info,listener.acmp.inflightCancel pdu.sequenceId⟩)

def inflightTimeout (index : Nat) (listener : IeeeListener) : Option (ListenerSent × AcmpPdu) × IeeeListener :=
  match listener.acmp.inflight[index]? with
  | none => (none,listener)
  | some entry =>
    if !entry.retried then
      let listener := {listener with acmp := listener.acmp.inflightRetry index}
      match entry.msgType with
      | .connectTx => (some (.connectTxCommand,entry.pdu),listener)
      | .disconnectTx => (some (.disconnectTxCommand,entry.pdu),listener)
      | .controller => (none,listener)
    else
      let listener := {listener with acmp := listener.acmp.inflightRemove index}
      if entry.pdu.flags &&& ACMP_FLAG_FAST_CONNECT ≠ 0 then (none,listener)
      else
        match entry.msgType with
        | .connectTx => (some (.connectRxResponse .listenerTalkerTimeout,entry.pdu),listener)
        | .disconnectTx => (some (.disconnectRxResponse .listenerTalkerTimeout,entry.pdu),listener)
        | .controller => (none,listener)

/-- `acmp_ieee_listener_rcv`, the expiry of a command in flight, and the controller's part of the
list: what is sent to the network and the listener after the input. -/
def rcv (input : ListenerInput) (listener : IeeeListener) : Option (ListenerSent × AcmpPdu) × IeeeListener :=
  match input with
  | .connectRxCommand pdu =>
    if !listener.info.listenerConnected pdu then
      let acmpCmd := {acmpNetTxInit pdu with flags := pdu.flags}
      let (sent,acmp) := listener.acmp.acmpSendCmd .connectTx pdu.sequenceId acmpCmd
      (some (.connectTxCommand,sent),⟨{listener.info with fastConnect := false},acmp⟩)
    else (some (.connectRxResponse .listenerExclusive,{acmpNetTxInit pdu with sequenceId := pdu.sequenceId}),listener)
  | .connectTxResponse pdu status stackConnect => listener.rcvConnectTxResponse pdu status stackConnect
  | .disconnectRxCommand pdu stackDisconnect =>
    if listener.info.listenerConnectedTo pdu then
      let (statusRsp,info) := listener.info.disconnect stackDisconnect
      if statusRsp = .success then
        let acmpCmd := {acmpNetTxInit pdu with flags := pdu.flags}
        let (sent,acmp) := listener.acmp.acmpSendCmd .disconnectTx pdu.sequenceId acmpCmd
        (some (.disconnectTxCommand,sent),⟨info,acmp⟩)
      else
        (some (.disconnectRxResponse statusRsp,{acmpNetTxInit pdu with sequenceId := pdu.sequenceId}),{listener with info := info})
    else (some (.disconnectRxResponse .notConnected,{acmpNetTxInit pdu with sequenceId := pdu.sequenceId}),listener)
  | .disconnectTxResponse pdu status =>
    let acmpRsp :=
      match listener.acmp.inflightFind pdu.sequenceId with
      | none => acmpNetTxInit pdu
      | some entry => {acmpNetTxInit pdu with sequenceId := entry.origSeqId}
    (some (.disconnectRxResponse status,acmpRsp),{listener with acmp := listener.acmp.inflightCancel pdu.sequenceId})
  | .getRxStateCommand pdu =>
    (some (.getRxStateResponse .success,{listener.info.copyInfo (acmpNetTxInit pdu) with sequenceId := pdu.sequenceId}),listener)
  | .inflightTimeout index => listener.inflightTimeout index
  | .controllerCommand pdu => (none,{listener with acmp := (listener.acmp.acmpSendCmd .controller listener.acmp.sequenceId pdu).2})
  | .controllerResponse pdu => (none,{listener with acmp := listener.acmp.inflightCancel pdu.sequenceId})

def acmpInit (fastConnect : Bool) (maxInflights : Nat) (sequenceId : UInt16) : IeeeListener :=
  ⟨⟨0,0,0,0,⟨0,0,0,0,0,0⟩,0,0,false,fastConnect⟩,⟨[],maxInflights,sequenceId⟩⟩

end IeeeListener

end Genavb.Avdecc

/-! The IEEE 1722.1 talker of ACMP (`acmp_ieee.c`): a stream output and the listeners that are
connected to it. -/
namespace Genavb.Avdecc
open Maap (MacAddress)

def CFG_ACMP_MAX_NUM_LISTENER_PAIRS : Nat := 512
def ACMP_FLAG_CLASS_B : UInt16 := 1
def SR_CLASS_A : Nat := 0
def SR_CLASS_B : Nat := 1
def avtp_base_dst_mac : MacAddress := ⟨0x91,0xe0,0xf0,0x00,0xfe,0x00⟩

def rotatingHashU8 (key : List UInt8) (init : UInt8) : UInt8 :=
  key.foldl (fun hash byte => (hash <<< 3) ^^^ (hash >>> 5) ^^^ byte) init

structure ListenerPair where
  listenerEntityId : UInt64
  listenerUniqueId : UInt16
  connected : Bool
  deriving DecidableEq

/-- A stream id: the address of the interface and the index of the descriptor. -/
structure StreamId where
  macAddress : MacAddress
  descriptorIndex : List UInt8
  deriving DecidableEq

/-- What does not change: the configuration, which clips the number of pairs, and the descriptors. -/
structure IeeeTalkerConfig where
  maxListenerPairs : Nat
  clipped : maxListenerPairs ≤ CFG_ACMP_MAX_NUM_LISTENER_PAIRS
  entityId : List UInt8
  descriptorIndex : List UInt8
  classA : Bool
  classB : Bool
  macAddress : Option MacAddress

structure StreamParams where
  streamClass : Nat
  streamDestMac : MacAddress
  streamVlanId : UInt16
  streamId : StreamId
  deriving DecidableEq

/-- The stream information of a talker, and whether SRP and AVTP have been told to declare and to
connect it. -/
structure IeeeTalker where
  params : StreamParams
  connectionCount : UInt16
  listeners : List ListenerPair
  srpDeclared : Bool
  avtpConnected : Bool
  deriving DecidableEq

structure TalkerPdu where
  listenerEntityId : UInt64
  listenerUniqueId : UInt16
  flags : UInt16

namespace IeeeTalker

section Listeners
variable (config : IeeeTalkerConfig) (pdu : TalkerPdu) (talker : IeeeTalker)

def connectedTo : Option Nat :=
  talker.listeners.findIdx? fun listener =>
    listener.connected && listener.listenerEntityId = pdu.listenerEntityId &&
      listener.listenerUniqueId = pdu.listenerUniqueId

def getFreeListener : Option Nat :=
  if talker.connectionCount.toNat ≥ config.maxListenerPairs then none
  else talker.listeners.findIdx? fun listener => !listener.connected

def accept (index : Nat) : IeeeTalker :=
  {talker with
    listeners := talker.listeners.set index ⟨pdu.listenerEntityId,pdu.listenerUniqueId,true⟩
    connectionCount := talker.connectionCount + 1}

end Listeners

def streamParams (config : IeeeTalkerConfig) (macAddress : MacAddress) (reqClass : Nat) : StreamParams where
  streamClass := reqClass
  streamDestMac := {avtp_base_dst_mac with
    b5 := rotatingHashU8 config.descriptorIndex (rotatingHashU8 config.entityId 0)}
  streamVlanId := 0
  streamId := ⟨macAddress,config.descriptorIndex⟩

def requestedClass (pdu : TalkerPdu) : Nat := if pdu.flags &&& ACMP_FLAG_CLASS_B ≠ 0 then SR_CLASS_B else SR_CLASS_A

def classSupported (config : IeeeTalkerConfig) (reqClass : Nat) : Bool :=
  if reqClass = SR_CLASS_B then config.classB else config.classA

section Commands
variable (config : IeeeTalkerConfig) (calls : StackCalls)

def connect (pdu : TalkerPdu) (talker : IeeeTalker) : AcmpStatus × IeeeTalker :=
  match talker.getFreeListener config,config.macAddress with
  | none,_ => (.talkerMisbehaving,talker)
  | some _,none => (.talkerMisbehaving,talker)
  | some listener,some macAddress =>
    let reqClass := requestedClass pdu
    if !classSupported config reqClass then (.incompatibleRequest,talker)
    else if talker.connectionCount = 0 then
      let talker := {talker with params := streamParams config macAddress reqClass}
      if !calls.declare then (.talkerMisbehaving,talker)
      else
        let talker := {talker with srpDeclared := true}
        if !calls.avtpConnect then (.talkerMisbehaving,talker)
        else (.success,{talker with avtpConnected := true}.accept pdu listener)
    else if reqClass ≠ talker.params.streamClass then (.incompatibleRequest,talker)
    else (.success,talker.accept pdu listener)

def disconnect (listener : Nat) (talker : IeeeTalker) : AcmpStatus × IeeeTalker :=
  let talker := {talker with
    listeners := talker.listeners.modify listener fun pair => {pair with connected := false}
    connectionCount := talker.connectionCount - 1}
  if talker.connectionCount = 0 then
    if !calls.withdraw then (.talkerMisbehaving,talker)
    else
      let talker := {talker with srpDeclared := false}
      if !calls.avtpDisconnect then (.talkerMisbehaving,talker)
      else (.success,{talker with avtpConnected := false})
  else (.success,talker)

end Commands

end IeeeTalker

inductive TalkerCommand where
  | connectTx (pdu : TalkerPdu)
  | disconnectTx (pdu : TalkerPdu)
  | getTxState
  | getTxConnection (connectionCount : UInt16)

namespace IeeeTalker

/-- `acmp_ieee_talker_rcv`: the status of the response and the talker after the command. -/
def rcv (config : IeeeTalkerConfig) (input : TalkerCommand × StackCalls) (talker : IeeeTalker) :
    AcmpStatus × IeeeTalker :=
  match input.1 with
  | .connectTx pdu =>
    match talker.connectedTo pdu with
    | none => talker.connect config input.2 pdu
    | some _ => (.success,talker)
  | .disconnectTx pdu =>
    match talker.connectedTo pdu with
    | some listener => talker.disconnect input.2 listener
    | none => (.noSuchConnection,talker)
  | .getTxState => (.success,talker)
  | .getTxConnection connectionCount =>
    match talker.listeners[connectionCount.toNat]? with
    | some listener => (if listener.connected then .success else .noSuchConnection,talker)
    | none => (.noSuchConnection,talker)

def talkerStep (config : IeeeTalkerConfig) (input : TalkerCommand × StackCalls) (talker : IeeeTalker) : IeeeTalker :=
  (talker.rcv config input).2

def acmpIeeeInit (config : IeeeTalkerConfig) (params : StreamParams) : IeeeTalker :=
  ⟨params,0,List.replicate config.maxListenerPairs ⟨0,0,false⟩,false,false⟩

end IeeeTalker

end Genavb.Avdecc

/-! The ACMP of an IEEE entity (`acmp.c`, `acmp_ieee.c`): its stream inputs and its stream outputs, with
the commands in flight that they, the controller and AECP keep in one pool of entries. -/
namespace Genavb.Avdecc
open Maap (MacAddress)

inductive AcmpCommand where
  | connectTx
  | disconnectTx
  | getTxState
  | getTxConnection
  | connectRx
  | disconnectRx
  | getRxState
  deriving DecidableEq

inductive AcmpSent where
  | command (type : AcmpCommand) (pdu : AcmpPdu)
  | response (type : AcmpCommand) (status : AcmpStatus) (pdu : AcmpPdu)
  deriving DecidableEq

structure IeeeStreamInput where
  info : ListenerStreamInfo
  fastConnectBtb : Bool
  fastConnectPending : Bool

structure IeeeEntityConfig where
  entityId : UInt64
  fastConnectMode : Bool
  fastConnectBtb : Bool
  maxListenerStreams : Nat
  maxTalkerStreams : Nat
  avbInterfaceIndex : Nat → Nat
  talkers : Nat → IeeeTalkerConfig

structure IeeeEntity where
  streamInputs : Nat → IeeeStreamInput
  streamOutputs : Nat → IeeeTalker
  acmp : AcmpCtx
  aecpInflight : Nat

inductive TalkerMessage where
  | connectTx
  | disconnectTx
  | getTxState
  | getTxConnection

/-- What an entity receives; discovered and departed talkers come from ADP. -/
inductive IeeeEntityInput where
  | listener (input : ListenerInput)
  | talker (message : TalkerMessage) (pdu : AcmpPdu) (calls : StackCalls)
  | fastConnectBtb (entityId : UInt64) (portId : Nat)
  | fastConnect (entityId : UInt64) (portId : Nat)
  | talkerLeft (entityId : UInt64) (stackDisconnect : Nat → Bool)
  | aecpInflightGet
  | aecpInflightRemove

def ListenerSent.acmpSent (pdu : AcmpPdu) : ListenerSent → AcmpSent
  | .connectTxCommand => .command .connectTx pdu
  | .disconnectTxCommand => .command .disconnectTx pdu
  | .connectRxResponse status => .response .connectRx status pdu
  | .disconnectRxResponse status => .response .disconnectRx status pdu
  | .getRxStateResponse status => .response .getRxState status pdu

namespace ListenerInput

def message : ListenerInput → Option AcmpPdu
  | .connectRxCommand pdu => some pdu
  | .connectTxResponse pdu _ _ => some pdu
  | .disconnectRxCommand pdu _ => some pdu
  | .disconnectTxResponse pdu _ => some pdu
  | .getRxStateCommand pdu => some pdu
  | _ => none

def command : ListenerInput → Option AcmpCommand
  | .connectRxCommand _ => some .connectRx
  | .disconnectRxCommand _ _ => some .disconnectRx
  | .getRxStateCommand _ => some .getRxState
  | _ => none

end ListenerInput

namespace TalkerMessage

def command : TalkerMessage → AcmpCommand
  | .connectTx => .connectTx
  | .disconnectTx => .disconnectTx
  | .getTxState => .getTxState
  | .getTxConnection => .getTxConnection

def talkerCommand (pdu : AcmpPdu) : TalkerMessage → TalkerCommand
  | .connectTx => .connectTx ⟨pdu.listenerEntityId,pdu.listenerUniqueId,pdu.flags⟩
  | .disconnectTx => .disconnectTx ⟨pdu.listenerEntityId,pdu.listenerUniqueId,pdu.flags⟩
  | .getTxState => .getTxState
  | .getTxConnection => .getTxConnection pdu.connectionCount

end TalkerMessage

def StreamId.value (streamId : StreamId) : UInt64 :=
  let mac := streamId.macAddress
  ([mac.b0,mac.b1,mac.b2,mac.b3,mac.b4,mac.b5] ++ streamId.descriptorIndex).foldl
    (fun value byte => (value <<< 8) ||| byte.toUInt64) 0

def IeeeTalker.copyStreamInfo (pdu : AcmpPdu) (talker : IeeeTalker) : AcmpPdu :=
  if talker.connectionCount = 0 then pdu
  else {pdu with
    streamId := talker.params.streamId.value
    streamDestMac := talker.params.streamDestMac
    streamVlanId := talker.params.streamVlanId
    connectionCount := talker.connectionCount}

/-- The response of a talker, from what it is before and after the command. -/
def TalkerMessage.response (pdu : AcmpPdu) (talker next : IeeeTalker) (message : TalkerMessage) : AcmpPdu :=
  let acmpRsp := {acmpNetTxInit pdu with sequenceId := pdu.sequenceId}
  match message with
  | .connectTx => {next.copyStreamInfo acmpRsp with flags := pdu.flags}
  | .disconnectTx =>
    match talker.connectedTo ⟨pdu.listenerEntityId,pdu.listenerUniqueId,pdu.flags⟩ with
    | some _ => next.copyStreamInfo acmpRsp
    | none => acmpRsp
  | .getTxState => talker.copyStreamInfo acmpRsp
  | .getTxConnection =>
    match talker.listeners[pdu.connectionCount.toNat]? with
    | some listener =>
      if listener.connected then
        talker.copyStreamInfo {acmpRsp with
          listenerEntityId := listener.listenerEntityId
          listenerUniqueId := listener.listenerUniqueId}
      else acmpRsp
    | none => acmpRsp

namespace IeeeEntity
variable (config : IeeeEntityConfig)

def listener (index : Nat) (entity : IeeeEntity) : IeeeListener := ⟨(entity.streamInputs index).info,entity.acmp⟩

def modifyStreamInput (index : Nat) (change : IeeeStreamInput → IeeeStreamInput) (entity : IeeeEntity) : IeeeEntity :=
  {entity with streamInputs := Function.update entity.streamInputs index (change (entity.streamInputs index))}

/-- `acmp_ieee_listener_rcv`, `acmp_inflight_timeout`, `acmp_controller_rcv` and `acmp_ipc_rx`. -/
def listenerRcv (input : ListenerInput) (entity : IeeeEntity) : List AcmpSent × IeeeEntity :=
  match input.message with
  | some pdu =>
    let index := pdu.listenerUniqueId.toNat
    if index < config.maxListenerStreams then
      let (sent,next) := (entity.listener index).rcv input
      (sent.toList.map fun (message,acmpRsp) => message.acmpSent acmpRsp,
        {entity.modifyStreamInput index ({· with info := next.info}) with acmp := next.acmp})
    else
      (input.command.toList.map fun type =>
        .response type .listenerUnknownId {acmpNetTxInit pdu with sequenceId := pdu.sequenceId},entity)
  | none =>
    let (sent,next) := (entity.listener 0).rcv input
    (sent.toList.map fun (message,acmpRsp) => message.acmpSent acmpRsp,{entity with acmp := next.acmp})

def talkerRcv (message : TalkerMessage) (pdu : AcmpPdu) (calls : StackCalls) (entity : IeeeEntity) :
    List AcmpSent × IeeeEntity :=
  let index := pdu.talkerUniqueId.toNat
  if index < config.maxTalkerStreams then
    let talker := entity.streamOutputs index
    let (status,next) := talker.rcv (config.talkers index) (message.talkerCommand pdu,calls)
    ([.response message.command status (message.response pdu talker next)],
      {entity with streamOutputs := Function.update entity.streamOutputs index next})
  else
    ([.response message.command .talkerUnknownId {acmpNetTxInit pdu with sequenceId := pdu.sequenceId}],entity)

def fastConnectBtb (entityId : UInt64) (portId index : Nat) (entity : IeeeEntity) : IeeeEntity :=
  let input := entity.streamInputs index
  if portId = config.avbInterfaceIndex index && input.fastConnectBtb && !input.info.connected &&
      !input.fastConnectPending then
    entity.modifyStreamInput index
      ({· with info := {input.info with talkerEntityId := entityId},fastConnectPending := true})
  else entity

def fastConnect (entityId : UInt64) (portId index : Nat) (entity : IeeeEntity) : List AcmpSent × IeeeEntity :=
  let input := entity.streamInputs index
  if input.info.fastConnect && !input.info.connected && input.fastConnectPending &&
      entityId = input.info.talkerEntityId && portId = config.avbInterfaceIndex index then
    let acmpCmd := input.info.copyInfo {
      controllerEntityId := input.info.controllerEntityId
      talkerEntityId := 0
      talkerUniqueId := 0
      listenerEntityId := config.entityId
      listenerUniqueId := index.toUInt16
      streamId := 0
      streamDestMac := ⟨0,0,0,0,0,0⟩
      connectionCount := 0
      sequenceId := 0
      flags := 0
      streamVlanId := 0}
    let (sent,acmp) := entity.acmp.acmpSendCmd .connectTx entity.acmp.sequenceId
      {acmpCmd with flags := acmpCmd.flags ||| ACMP_FLAG_FAST_CONNECT}
    ([.command .connectTx sent],{entity with acmp := acmp})
  else ([],entity)

def talkerLeft (entityId : UInt64) (stackDisconnect : Nat → Bool) (index : Nat) (entity : IeeeEntity) : IeeeEntity :=
  let input := entity.streamInputs index
  if input.info.connected && input.info.fastConnect && entityId = input.info.talkerEntityId then
    entity.modifyStreamInput index ({· with
      info := (input.info.disconnect (stackDisconnect index)).2
      fastConnectPending := input.fastConnectPending && !input.fastConnectBtb})
  else entity

def rcv (input : IeeeEntityInput) (entity : IeeeEntity) : List AcmpSent × IeeeEntity :=
  let streams := List.range config.maxListenerStreams
  match input with
  | .listener input => entity.listenerRcv config input
  | .talker message pdu calls => entity.talkerRcv config message pdu calls
  | .fastConnectBtb entityId portId =>
    ([],if config.fastConnectMode && config.fastConnectBtb then
      streams.foldl (fun entity index => entity.fastConnectBtb config entityId portId index) entity
    else entity)
  | .fastConnect entityId portId =>
    if config.fastConnectMode then
      streams.foldl (fun (sent,entity) index =>
        let (more,next) := entity.fastConnect config entityId portId index
        (sent ++ more,next)) ([],entity)
    else ([],entity)
  | .talkerLeft entityId stackDisconnect =>
    ([],if config.fastConnectMode then
      streams.foldl (fun entity index => entity.talkerLeft entityId stackDisconnect index) entity
    else entity)
  | .aecpInflightGet =>
    match entity.acmp.freeInflight with
    | 0 => ([],entity)
    | free + 1 =>
      ([],{entity with acmp := {entity.acmp with freeInflight := free},aecpInflight := entity.aecpInflight + 1})
  | .aecpInflightRemove =>
    match entity.aecpInflight with
    | 0 => ([],entity)
    | taken + 1 =>
      ([],{entity with acmp := {entity.acmp with freeInflight := entity.acmp.freeInflight + 1},aecpInflight := taken})

def acmpInit (streamInputs : Nat → IeeeStreamInput) (streamOutputs : Nat → IeeeTalker) (maxInflights : Nat) :
    IeeeEntity :=
  ⟨streamInputs,streamOutputs,⟨[],maxInflights,0⟩,0⟩

end IeeeEntity

end Genavb.Avdecc
