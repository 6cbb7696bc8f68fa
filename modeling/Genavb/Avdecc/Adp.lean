import Mathlib.Logic.Function.Basic
import Genavb.Maap.Address

/-! The Discovery Protocol (`adp.c`): the advertisements of an entity, the tables of the ports of a stack with what
their entries hold of the advertisements, and the queries of applications. -/
namespace Genavb.Avdecc
open Maap (MacAddress)

inductive ByteOrder where
  | little
  | big
  deriving DecidableEq

def ntohs (order : ByteOrder) (value : UInt16) : UInt16 :=
  match order with
  | .little => (value <<< 8) ||| (value >>> 8)
  | .big => value

/-- An ADP PDU, its fields as the numbers that their bytes are in network order. -/
structure AdpHdr where
  entityId : UInt64
  entityModelId : UInt64
  entityCapabilities : UInt32
  talkerStreamSources : UInt16
  talkerCapabilities : UInt16
  listenerStreamSinks : UInt16
  listenerCapabilities : UInt16
  controllerCapabilities : UInt32
  availableIndex : UInt32
  gptpGrandmasterId : UInt64
  gptpDomainNumber : UInt8
  identityControlIndex : UInt16
  interfaceIndex : UInt16
  associationId : UInt64
  deriving DecidableEq

structure EntityInfo where
  entityId : UInt64
  entityModelId : UInt64
  entityCapabilities : UInt32
  talkerStreamSources : UInt16
  talkerCapabilities : UInt16
  listenerStreamSinks : UInt16
  listenerCapabilities : UInt16
  controllerCapabilities : UInt32
  gptpGrandmasterId : UInt64
  gptpDomainNumber : UInt8
  identityControlIndex : UInt16
  interfaceIndex : UInt16
  availableIndex : UInt32
  associationId : UInt64
  macAddr : MacAddress
  localMacAddr : MacAddress
  deriving DecidableEq

/-- An entry of a discovery table, with the milliseconds that its timer was started for while it runs. -/
structure EntityDiscovery where
  info : EntityInfo
  timeout : Option UInt32
  inUse : Bool
  deriving DecidableEq

structure AdpDiscoveryCtx where
  numDiscoveredEntities : Int
  entities : List EntityDiscovery
  deriving DecidableEq

inductive AdpMessageType where
  | entityAvailable
  | entityDeparting
  | entityDiscover
  | entityNotfound
  deriving DecidableEq

structure GenavbAdpMsg where
  msgType : AdpMessageType
  total : UInt16
  info : EntityInfo
  deriving DecidableEq

/-- What discovery tells others: the application of a controller, the listeners of all entities that are ready
(`acmp_ieee_listener_talker_left`), and the fast connect mode (`avdecc_ieee_discovery_update`). -/
inductive AdpNotice where
  | ipcTx (msg : GenavbAdpMsg)
  | talkerLeft (entityId : UInt64)
  | discoveryUpdate (portId : Nat) (info : EntityInfo) (gptpGmidChanged : Bool)
  deriving DecidableEq

/-- A port; if one of the entities is its controller and ready, the number of interfaces of that entity. -/
structure AvdeccPort where
  localPhysicalMac : MacAddress
  controller : Option Nat
  discovery : AdpDiscoveryCtx

structure AdpPorts where
  milanMode : Bool
  port : Nat → AvdeccPort
  sent : List AdpNotice

def EntityInfo.zero : EntityInfo := ⟨0,0,0,0,0,0,0,0,0,0,0,0,0,0,⟨0,0,0,0,0,0⟩,⟨0,0,0,0,0,0⟩⟩

/-- The fields of the descriptor of an entity that it advertises, which are stored in network order. -/
structure EntityDescriptor where
  entityId : UInt64
  entityModelId : UInt64
  entityCapabilities : UInt32
  talkerStreamSources : UInt16
  talkerCapabilities : UInt16
  listenerStreamSinks : UInt16
  listenerCapabilities : UInt16
  controllerCapabilities : UInt32
  availableIndex : UInt32
  associationId : UInt64
  deriving DecidableEq

/-- The PDU of `adp_advertise_send_packet`. The port is stored as the host has it, and not with `htons`. -/
def advertisePdu (byteOrder : ByteOrder) (desc : EntityDescriptor) (gptpGrandmasterId : UInt64) (portId : UInt32) :
    AdpHdr where
  entityId := desc.entityId
  entityModelId := desc.entityModelId
  entityCapabilities := desc.entityCapabilities
  talkerStreamSources := desc.talkerStreamSources
  talkerCapabilities := desc.talkerCapabilities
  listenerStreamSinks := desc.listenerStreamSinks
  listenerCapabilities := desc.listenerCapabilities
  controllerCapabilities := desc.controllerCapabilities
  availableIndex := desc.availableIndex
  gptpGrandmasterId := gptpGrandmasterId
  gptpDomainNumber := 0
  identityControlIndex := 0
  interfaceIndex := ntohs byteOrder portId.toUInt16
  associationId := desc.associationId

def ADP_PDU_LEN : UInt16 := 56

/-- `AVTP_SET_CTRL_DATA_STATUS`, as the number that the field is in network order. -/
def avtpSetCtrlDataStatus (status : UInt8) (cdl : UInt16) :
    UInt16 := ((status.toUInt16 &&& 0x1f) <<< 11) ||| (cdl &&& 0x7ff)

def avtpGetStatus (controlDataLenStatus : UInt16) : UInt8 := ((controlDataLenStatus >>> 11) &&& 0x1f).toUInt8

/-- The control data of an ENTITY_AVAILABLE; `valid_time` of the entity is in seconds. -/
def availableStatus (validTime : UInt32) : UInt16 := avtpSetCtrlDataStatus (validTime / 2).toUInt8 ADP_PDU_LEN

/-- What an advertisement says of an entity, with the addresses it was sent from and received on. -/
def AdpHdr.info (macAddr localMacAddr : MacAddress) (pdu : AdpHdr) : EntityInfo where
  entityId := pdu.entityId
  entityModelId := pdu.entityModelId
  entityCapabilities := pdu.entityCapabilities
  talkerStreamSources := pdu.talkerStreamSources
  talkerCapabilities := pdu.talkerCapabilities
  listenerStreamSinks := pdu.listenerStreamSinks
  listenerCapabilities := pdu.listenerCapabilities
  controllerCapabilities := pdu.controllerCapabilities
  gptpGrandmasterId := pdu.gptpGrandmasterId
  gptpDomainNumber := pdu.gptpDomainNumber
  identityControlIndex := pdu.identityControlIndex
  interfaceIndex := pdu.interfaceIndex
  availableIndex := pdu.availableIndex
  associationId := pdu.associationId
  macAddr := macAddr
  localMacAddr := localMacAddr

/-- A change that the controller is told of: the available index and the address of the port do not count. -/
def EntityInfo.differs (info : EntityInfo) (pdu : AdpHdr) (macAddr : MacAddress) : Bool :=
  info.entityId ≠ pdu.entityId ||
  info.entityModelId ≠ pdu.entityModelId ||
  info.entityCapabilities ≠ pdu.entityCapabilities ||
  info.talkerStreamSources ≠ pdu.talkerStreamSources ||
  info.talkerCapabilities ≠ pdu.talkerCapabilities ||
  info.listenerStreamSinks ≠ pdu.listenerStreamSinks ||
  info.listenerCapabilities ≠ pdu.listenerCapabilities ||
  info.controllerCapabilities ≠ pdu.controllerCapabilities ||
  info.gptpGrandmasterId ≠ pdu.gptpGrandmasterId ||
  info.gptpDomainNumber ≠ pdu.gptpDomainNumber ||
  info.identityControlIndex ≠ pdu.identityControlIndex ||
  info.interfaceIndex ≠ pdu.interfaceIndex ||
  info.associationId ≠ pdu.associationId ||
  info.macAddr ≠ macAddr

/-- The time an entry is kept for, in milliseconds; `valid_time` counts units of two seconds. -/
def discoveryTimeout (validTime : UInt8) : UInt32 := .ofNat (max 1 (validTime.toNat * 2) * 1000)

namespace EntityDiscovery

/-- `timer_start`, which refuses a timer that runs. -/
def timerStart (ms : UInt32) (entityDisc : EntityDiscovery) : EntityDiscovery :=
  if entityDisc.timeout.isSome || ms = 0 then entityDisc else {entityDisc with timeout := some ms}

def timerStop (entityDisc : EntityDiscovery) : EntityDiscovery := {entityDisc with timeout := none}

def holds (entityId : UInt64) (entityDisc : EntityDiscovery) : Bool :=
  entityDisc.inUse && entityDisc.info.entityId = entityId

end EntityDiscovery

namespace AdpDiscoveryCtx

def init (maxEntitiesDiscovery : Nat) : AdpDiscoveryCtx :=
  ⟨0,.replicate maxEntitiesDiscovery ⟨.zero,none,false⟩⟩

def adpDiscoveryFind (entityId : UInt64) (disc : AdpDiscoveryCtx) : Option Nat :=
  disc.entities.findIdx? (·.holds entityId)

def modifyEntry (index : Nat) (change : EntityDiscovery → EntityDiscovery) (disc : AdpDiscoveryCtx) :
    AdpDiscoveryCtx :=
  {disc with entities := disc.entities.modify index change}

def lastFree : List EntityDiscovery → Option Nat
  | [] => none
  | entityDisc :: rest =>
    match lastFree rest with
    | some index => some (index + 1)
    | none => if entityDisc.inUse then none else some 0

def adpDiscoveryGet (disc : AdpDiscoveryCtx) : Option (Nat × AdpDiscoveryCtx) :=
  match lastFree disc.entities with
  | none => none
  | some index =>
    some (index,
      {disc.modifyEntry index ({· with inUse := true}) with numDiscoveredEntities := disc.numDiscoveredEntities + 1})

def release (index : Nat) (disc : AdpDiscoveryCtx) : AdpDiscoveryCtx :=
  {disc.modifyEntry index ({· with inUse := false,info := .zero}) with
    numDiscoveredEntities := disc.numDiscoveredEntities - 1}

def infoAt (index : Nat) (disc : AdpDiscoveryCtx) : EntityInfo :=
  (disc.entities[index]?.map (·.info)).getD .zero

end AdpDiscoveryCtx

namespace AdpPorts

def discovery (portId : Nat) (ports : AdpPorts) : AdpDiscoveryCtx := (ports.port portId).discovery

def modifyDiscovery (portId : Nat) (change : AdpDiscoveryCtx → AdpDiscoveryCtx) (ports : AdpPorts) : AdpPorts :=
  {ports with
    port := Function.update ports.port portId
      {ports.port portId with discovery := change (ports.discovery portId)}}

def notify (notice : AdpNotice) (ports : AdpPorts) : AdpPorts := {ports with sent := ports.sent ++ [notice]}

/-- `adp_get_total_discovered_entities` of an entity with `numInterfaces` interfaces, an `unsigned int`. -/
def adpGetTotalDiscoveredEntities (numInterfaces : Nat) (ports : AdpPorts) : UInt32 :=
  (List.range numInterfaces).foldl
    (fun total i => total + .ofInt (ports.discovery i).numDiscoveredEntities) 0

/-- The message of `adp_ipc_tx` to an application of an entity with `numInterfaces` interfaces. -/
def adpIpcMsg (numInterfaces : Nat) (msgType : AdpMessageType) (info : Option EntityInfo) (ports : AdpPorts) :
    GenavbAdpMsg :=
  ⟨msgType,(ports.adpGetTotalDiscoveredEntities numInterfaces).toUInt16,info.getD .zero⟩

def tellController (portId : Nat) (msgType : AdpMessageType) (info : EntityInfo) (ports : AdpPorts) : AdpPorts :=
  match (ports.port portId).controller with
  | some numInterfaces => ports.notify (.ipcTx (ports.adpIpcMsg numInterfaces msgType (some info)))
  | none => ports

def adpDiscoveryPut (portId index : Nat) (ports : AdpPorts) : AdpPorts :=
  let info := (ports.discovery portId).infoAt index
  let told := ports.tellController portId .entityDeparting info
  let told := if !ports.milanMode then told.notify (.talkerLeft info.entityId) else told
  told.modifyDiscovery portId (·.release index)

def adpDiscoveryUpdateEntity (portId index : Nat) (pdu : AdpHdr) (macAddr : MacAddress) (ports : AdpPorts) : AdpPorts :=
  let sendIpc := ((ports.discovery portId).infoAt index).differs pdu macAddr
  let info := pdu.info macAddr (ports.port portId).localPhysicalMac
  let updated := ports.modifyDiscovery portId (·.modifyEntry index ({· with info := info}))
  if sendIpc then updated.tellController portId .entityAvailable info else updated

/-- The entry that an advertisement goes to: a new one, that of the entity, or a new one for an entity that was
started again. -/
def advertisedEntry (portId : Nat) (pdu : AdpHdr) (ports : AdpPorts) : Option Nat × AdpPorts :=
  let disc := ports.discovery portId
  match disc.adpDiscoveryFind pdu.entityId with
  | none =>
    match disc.adpDiscoveryGet with
    | none => (none,ports)
    | some (index,disc) =>
      (some index,ports.modifyDiscovery portId fun _ => disc.modifyEntry index ({· with info := .zero}))
  | some index =>
    if pdu.availableIndex ≤ (disc.infoAt index).availableIndex then
      let stopped := ports.modifyDiscovery portId (·.modifyEntry index (·.timerStop))
      let departed := stopped.adpDiscoveryPut portId index
      match (departed.discovery portId).adpDiscoveryGet with
      | none => (none,departed)
      | some (index,disc) => (some index,departed.modifyDiscovery portId fun _ => disc)
    else (some index,ports)

def adpDiscoveryUpdate (portId : Nat) (pdu : AdpHdr) (validTime : UInt8) (macSrc : MacAddress) (ports : AdpPorts) :
    AdpPorts :=
  match ports.advertisedEntry portId pdu with
  | (none,ports) => ports
  | (some index,ports) =>
    let gptpGmidChanged := pdu.gptpGrandmasterId ≠ ((ports.discovery portId).infoAt index).gptpGrandmasterId
    let updated := ports.adpDiscoveryUpdateEntity portId index pdu macSrc
    let timed := updated.modifyDiscovery portId
      (·.modifyEntry index fun entityDisc => entityDisc.timerStop.timerStart (discoveryTimeout validTime))
    if !ports.milanMode then
      timed.notify (.discoveryUpdate portId ((timed.discovery portId).infoAt index) gptpGmidChanged)
    else timed

def adpDiscoveryRemove (portId : Nat) (pdu : AdpHdr) (ports : AdpPorts) : AdpPorts :=
  match (ports.discovery portId).adpDiscoveryFind pdu.entityId with
  | none => ports
  | some index =>
    (ports.modifyDiscovery portId (·.modifyEntry index (·.timerStop))).adpDiscoveryPut portId index

/-- The timer of an entry expires: `timer_process` stops a timer that runs and calls `adp_discovery_timeout`. -/
def adpDiscoveryTimeout (portId index : Nat) (ports : AdpPorts) : AdpPorts :=
  match (ports.discovery portId).entities[index]?.bind (·.timeout) with
  | none => ports
  | some _ => (ports.modifyDiscovery portId (·.modifyEntry index (·.timerStop))).adpDiscoveryPut portId index

/-- The search of one port for an entity: what it found is all that is left of the searches when the loop of
`adp_ipc_rx` ends. -/
def queryPort (numInterfaces : Nat) (entityId : UInt64) (ports : AdpPorts)
    (found : Option Nat × List GenavbAdpMsg) (portNum : Nat) : Option Nat × List GenavbAdpMsg :=
  let disc := ports.discovery portNum
  match disc.adpDiscoveryFind entityId with
  | some index =>
    (some index,found.2 ++ [ports.adpIpcMsg numInterfaces .entityAvailable (some (disc.infoAt index))])
  | none => (none,found.2)

/-- The replies of `adp_ipc_rx` to an application of an entity with `numInterfaces` interfaces. -/
def adpIpcRx (numInterfaces : Nat) (msgType : AdpMessageType) (entityId : UInt64) (ports : AdpPorts) :
    List GenavbAdpMsg :=
  let available := fun info => ports.adpIpcMsg numInterfaces .entityAvailable (some info)
  let notfound := ports.adpIpcMsg numInterfaces .entityNotfound none
  match msgType with
  | .entityDiscover =>
    let sent := (List.range numInterfaces).flatMap fun portNum =>
      ((ports.discovery portNum).entities.filter (·.inUse)).map fun entityDisc => available entityDisc.info
    if sent.isEmpty then [notfound] else sent
  | .entityAvailable =>
    let (entityDisc,sent) := (List.range numInterfaces).foldl (ports.queryPort numInterfaces entityId) (none,[])
    if entityDisc.isNone then sent ++ [notfound] else sent
  | _ => [notfound]

def start (milanMode : Bool) (maxEntitiesDiscovery : Nat) (localPhysicalMac : Nat → MacAddress)
    (controller : Nat → Option Nat) : AdpPorts where
  milanMode := milanMode
  port := fun portId => ⟨localPhysicalMac portId,controller portId,.init maxEntitiesDiscovery⟩
  sent := []

end AdpPorts

inductive AdpInput where
  | available (portId : Nat) (pdu : AdpHdr) (validTime : UInt8) (macSrc : MacAddress)
  | departing (portId : Nat) (pdu : AdpHdr)
  | timeout (portId index : Nat)
  | controller (portId : Nat) (numInterfaces : Option Nat)

def AdpPorts.step (input : AdpInput) (ports : AdpPorts) : AdpPorts :=
  match input with
  | .available portId pdu validTime macSrc => ports.adpDiscoveryUpdate portId pdu validTime macSrc
  | .departing portId pdu => ports.adpDiscoveryRemove portId pdu
  | .timeout portId index => ports.adpDiscoveryTimeout portId index
  | .controller portId numInterfaces =>
    {ports with port := Function.update ports.port portId {ports.port portId with controller := numInterfaces}}

end Genavb.Avdecc
