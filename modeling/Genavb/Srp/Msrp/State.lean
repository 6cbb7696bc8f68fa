import Genavb.Common.Fqtss
import Genavb.Srp.Mvrp.Context

/-! Data model of MSRP (`msrp.h`, `msrp_map.h`): attribute values, streams, domains, ports and
the context, with the calls a context makes to MRP, MVRP and the operating system. -/
namespace Genavb.Msrp
open Support Mrp Common Mvrp

def CFG_MSRP_MAX_DOMAINS : Nat := 8
def CFG_MSRP_MAX_CLASSES : Nat := 8
def CFG_MVRP_VID : VlanId := 2
abbrev StreamId := UInt64

inductive ListenerDeclarationType where
  | NONE | ASKING_FAILED | READY | READY_FAILED
  deriving DecidableEq

inductive TalkerDeclarationType where
  | NONE | ADVERTISE | FAILED
  deriving DecidableEq

abbrev FailureCode := UInt8

def INSUFFICIENT_BANDWIDTH_FOR_TRAFFIC_CLASS : FailureCode := 3
def STREAM_ID_ALREADY_IN_USE : FailureCode := 4
def EGRESS_PORT_IS_NOT_AVB_CAPABLE : FailureCode := 8
def REQUESTED_PRIORITY_IS_NOT_AN_SR_CLASS_PRIORITY : FailureCode := 13

structure FailureInformation where
  bridgeId : UInt64
  failureCode : FailureCode
  deriving DecidableEq

structure TalkerAdvertise where
  streamId : StreamId
  destinationAddress : BitVec 48
  vlanIdentifier : VlanId
  maxFrameSize : UInt16
  maxIntervalFrames : UInt16
  priority : BitVec 3
  rank : BitVec 1
  reserved : BitVec 4
  accumulatedLatency : UInt32
  deriving DecidableEq

structure TalkerFailed where
  advertise : TalkerAdvertise
  failureInfo : FailureInformation
  deriving DecidableEq

structure DomainValue where
  srClassId : UInt8
  srClassPriority : UInt8
  srClassVid : VlanId
  deriving DecidableEq

inductive AttributeValue where
  | talkerAdvertise (value : TalkerAdvertise)
  | talkerFailed (value : TalkerFailed)
  | listener (streamId : StreamId) (declarationType : ListenerDeclarationType)
  | domain (value : DomainValue)
  deriving DecidableEq

namespace AttributeValue

def type : AttributeValue → AttrType
  | talkerAdvertise _ => 1
  | talkerFailed _ => 2
  | listener _ _ => 3
  | domain _ => 4

def talker : AttributeValue → Option TalkerAdvertise
  | talkerAdvertise value => some value
  | talkerFailed value => some value.advertise
  | _ => none

def listenerType : AttributeValue → ListenerDeclarationType
  | listener _ declarationType => declarationType
  | _ => .NONE

end AttributeValue

inductive Direction where
  | TALKER | LISTENER
  deriving DecidableEq

/-- The pointers of a stream to attributes of a port. `reserved` and `userTalker` are not in the
source: traffic class and idle slope of the port's reservation as they were added, and the value
and class the user last declared on the port. -/
structure MsrpStreamPort where
  listenerDeclarationType : ListenerDeclarationType
  talkerDeclarationType : TalkerDeclarationType
  registeredAttributes : Direction → List AttrId
  declaredAttribute : Direction → Option AttrId
  reserved : Nat × Nat
  userTalker : Option (TalkerAdvertise × Nat)

structure MsrpStream where
  srClass : Nat
  fv : TalkerFailed
  registeredState : Direction → PortMask
  declaredState : Direction → PortMask
  userDeclaredState : Direction → PortMask
  fdbState : PortMask
  fqtssState : PortMask
  vlanDeclared : Bool
  port : Nat → MsrpStreamPort

structure MsrpMap where
  streams : List MsrpStream
  numStreams : Nat
  forwardingState : PortMask

structure MsrpDomain where
  fv : DomainValue
  registered : Bool
  deriving DecidableEq

structure MsrpPort where
  portEnabledStatus : Bool
  srpDomainBoundaryPort : Nat → Bool
  domain : Nat → Option DomainValue
  domains : List MsrpDomain
  numDomains : Nat
  mrpApp : MrpApplication AttributeValue

/-- What the next call to the operating system or to MVRP meets; `interval` is what lies behind
the table of SR classes. -/
structure OsAnswer where
  memory : Bool
  alloc : AllocOutcome
  fdb : Bool
  fqtss : Bool
  multicast : Bool
  mvrp : Resources
  interval : Nat × Nat

structure MsrpConfig where
  isBridge : Bool
  portMax : Nat
  logicalPort : Nat → Nat
  initialized : Nat → Bool
  sendLeaveOnDeclarationUpdate : Bool
  srClass : SrClassConfig
  trafficClass : Nat → BitVec 3 → Nat
  mrp : MrpConfig
  os : Nat → OsAnswer
  /-- The port masks have 16 bits. -/
  portMax_bound : portMax ≤ 16

/-- Uses of memory that is not there: a domain pointer that is NULL, a stream or an attribute
that was released. `registeredAttribute` marks the release of an attribute that a stream has on
one of its lists. -/
inductive Fault where
  | missingDomain (port srClass : Nat)
  | releasedStream (streamId : StreamId)
  | releasedAttribute (port : Nat)
  | registeredAttribute (port : Nat)
  deriving DecidableEq

inductive FdbCall where
  | update (logicalPort : Nat) (destinationAddress : BitVec 48) (vlanIdentifier : VlanId) (forward : Bool)
  | delete (destinationAddress : BitVec 48) (vlanIdentifier : VlanId)
  deriving DecidableEq

inductive TalkerStatus where
  | NO_LISTENER | FAILED_LISTENER | ACTIVE_AND_FAILED_LISTENERS | ACTIVE_LISTENER
  deriving DecidableEq

inductive ListenerStatus where
  | NO_TALKER | ACTIVE | FAILED
  deriving DecidableEq

/-- The IPC messages of MSRP. A declaration status carries the declared value. -/
inductive MsrpIpc where
  | talkerDeclarationStatus (port : Nat) (streamId : StreamId) (declared : Option AttributeValue)
  | listenerDeclarationStatus (port : Nat) (streamId : StreamId) (declared : Option AttributeValue)
  | talkerStatus (port : Nat) (streamId : StreamId) (status : TalkerStatus)
  | listenerStatus (port : Nat) (streamId : StreamId) (status : ListenerStatus) (streamClass : Nat)
      (params : TalkerFailed)
  | talkerResponse (port : Nat) (streamId : StreamId) (status : Status)
  | listenerResponse (port : Nat) (streamId : StreamId) (status : Status)
  | errorResponse (status : Status)
  deriving DecidableEq

/-- `ticks` counts the calls to the operating system, `fdb`, `ipc` and `faults` record what was
asked of it, sent and done wrong. -/
structure MsrpCtx where
  config : MsrpConfig
  map : MsrpMap
  operationalState : PortMask
  enabledState : PortMask
  msrpEnabledStatus : Bool
  port : Nat → MsrpPort
  fqtss : Nat → FqtssPortParams
  mvrp : MvrpCtx
  ticks : Nat
  fdb : List FdbCall
  ipc : List MsrpIpc
  faults : List Fault

namespace MsrpStream

def streamId (stream : MsrpStream) : StreamId := stream.fv.advertise.streamId

def isDeclared (stream : MsrpStream) (direction : Direction) (port : Nat) : Bool :=
  maskHas (stream.declaredState direction) port

def isDeclaredAny (stream : MsrpStream) (direction : Direction) : Bool := stream.declaredState direction != 0#16

def isRegistered (stream : MsrpStream) (direction : Direction) (port : Nat) : Bool :=
  maskHas (stream.registeredState direction) port

def isRegisteredOther (stream : MsrpStream) (direction : Direction) (port : Nat) : Bool :=
  maskClear (stream.registeredState direction) port != 0#16

def isRegisteredAny (stream : MsrpStream) (direction : Direction) : Bool := stream.registeredState direction != 0#16

def isRegisteredAnyForwarding (map : MsrpMap) (stream : MsrpStream) (direction : Direction) : Bool :=
  stream.registeredState direction &&& map.forwardingState != 0#16

def isUserDeclared (stream : MsrpStream) (direction : Direction) (port : Nat) : Bool :=
  maskHas (stream.userDeclaredState direction) port

def isUserDeclaredAny (stream : MsrpStream) (direction : Direction) : Bool :=
  stream.userDeclaredState direction != 0#16

def setBit (state : Direction → PortMask) (direction : Direction) (port : Nat) (value : Bool) : Direction → PortMask :=
  Function.update state direction (if value then maskSet (state direction) port else maskClear (state direction) port)

def setRegistered (direction : Direction) (port : Nat) (value : Bool) (stream : MsrpStream) : MsrpStream :=
  {stream with registeredState := setBit stream.registeredState direction port value}

def setDeclared (direction : Direction) (port : Nat) (value : Bool) (stream : MsrpStream) : MsrpStream :=
  {stream with declaredState := setBit stream.declaredState direction port value}

def modifyPort (port : Nat) (f : MsrpStreamPort → MsrpStreamPort) (stream : MsrpStream) : MsrpStream :=
  {stream with port := Function.update stream.port port (f (stream.port port))}

def setDeclaredAttribute (direction : Direction) (port : Nat) (attr : Option AttrId) (stream : MsrpStream) :
    MsrpStream :=
  stream.modifyPort port fun item =>
    {item with declaredAttribute := Function.update item.declaredAttribute direction attr}

def setRegisteredAttributes (direction : Direction) (port : Nat) (attrs : List AttrId) (stream : MsrpStream) :
    MsrpStream :=
  stream.modifyPort port fun item =>
    {item with registeredAttributes := Function.update item.registeredAttributes direction attrs}

end MsrpStream

def MsrpMap.isForwarding (map : MsrpMap) (port : Nat) : Bool := maskHas map.forwardingState port

namespace MsrpCtx

def app (ctx : MsrpCtx) (port : Nat) : MrpApplication AttributeValue := (ctx.port port).mrpApp

def answer (ctx : MsrpCtx) : OsAnswer := ctx.config.os ctx.ticks

def tick (ctx : MsrpCtx) : MsrpCtx := {ctx with ticks := ctx.ticks + 1}

def faulted (fault : Fault) (ctx : MsrpCtx) : MsrpCtx := {ctx with faults := ctx.faults ++ [fault]}

def send (message : MsrpIpc) (ctx : MsrpCtx) : MsrpCtx := {ctx with ipc := ctx.ipc ++ [message]}

def modifyPort (port : Nat) (f : MsrpPort → MsrpPort) (ctx : MsrpCtx) : MsrpCtx :=
  {ctx with port := Function.update ctx.port port (f (ctx.port port))}

def setApp (port : Nat) (app : MrpApplication AttributeValue) (ctx : MsrpCtx) : MsrpCtx :=
  ctx.modifyPort port fun item => {item with mrpApp := app}

def modifyApp (port : Nat) (f : MrpApplication AttributeValue → MrpApplication AttributeValue) (ctx : MsrpCtx) :
    MsrpCtx :=
  ctx.setApp port (f (ctx.app port))

def isEnabled (ctx : MsrpCtx) (port : Nat) : Bool := maskHas ctx.enabledState port

def joinRequest (port : Nat) (value : AttributeValue) (new : Bool) (ctx : MsrpCtx) : MsrpCtx × Option AttrId :=
  let (app,attr) := mrpMadJoinRequest value.type value new ctx.answer.alloc (ctx.app port)
  (ctx.tick.setApp port app,attr)

def joinImmediate (port : Nat) (value : AttributeValue) (ctx : MsrpCtx) : MsrpCtx × Option AttrId :=
  let (app,attr) := mrpMadJoinImmediate value.type value ctx.answer.alloc (ctx.app port)
  (ctx.tick.setApp port app,attr)

def leaveRequest (port : Nat) (value : AttributeValue) (ctx : MsrpCtx) : MsrpCtx :=
  ctx.modifyApp port (mrpMadLeaveRequest value.type value)

def msrpFindStream (streamId : StreamId) (ctx : MsrpCtx) : Option MsrpStream :=
  ctx.map.streams.find? fun stream => stream.streamId == streamId

def store (stream : MsrpStream) (ctx : MsrpCtx) : MsrpCtx :=
  {ctx with map := {ctx.map with
    streams := ctx.map.streams.map fun other => if other.streamId = stream.streamId then stream else other}}

def msrpStreamFree (stream : MsrpStream) (ctx : MsrpCtx) : MsrpCtx :=
  {ctx with
    map := {ctx.map with
      streams := ctx.map.streams.filter fun other => other.streamId != stream.streamId
      numStreams := ctx.map.numStreams - 1}
    fdb :=
      if ctx.config.isBridge then
        ctx.fdb ++ [.delete stream.fv.advertise.destinationAddress stream.fv.advertise.vlanIdentifier]
      else ctx.fdb}

end MsrpCtx

structure Work where
  stream : MsrpStream
  ctx : MsrpCtx

namespace Work

def modifyStream (f : MsrpStream → MsrpStream) (work : Work) : Work := {work with stream := f work.stream}

def modifyCtx (f : MsrpCtx → MsrpCtx) (work : Work) : Work := {work with ctx := f work.ctx}

def declared (direction : Direction) (port : Nat) (work : Work) : Option (AttrId × AttributeValue) :=
  match (work.stream.port port).declaredAttribute direction with
  | none => none
  | some id =>
    match (work.ctx.app port).heap id with
    | none => none
    | some attr => some (id,attr.val)

end Work

end Genavb.Msrp
