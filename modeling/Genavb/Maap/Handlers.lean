import Mathlib.Logic.Function.Basic
import Genavb.Maap.Address

/-! Data model of MAAP (`maap.h`): the ranges of a port with their state machines, the messages
that are received and sent, and the random numbers that are still to be drawn. -/
namespace Genavb.Maap

def MAAP_PORT_MAX_RANGES_ALLOCATION : Nat := 128
def MAAP_PROBE_RETRANSMITS_VAL : UInt32 := 3
def MAAP_PROBE_INTERVAL_MIN : Nat := 500
def MAAP_PROBE_INTERVAL_MAX : Nat := 570
def MAAP_ANNOUNCE_INTERVAL_MIN : Nat := 30000
def MAAP_ANNOUNCE_INTERVAL_MAX : Nat := 31890
def MAAP_VERSION : Nat := 1
def MAAP_PROBE : Nat := 1
def MAAP_DEFEND : Nat := 2
def MAAP_ANNOUNCE : Nat := 3
def ETHERTYPE_AVTP : UInt16 := 0x22f0
def AVTP_SUBTYPE_MAAP : UInt8 := 0xfe
def AVTP_VERSION_0 : Nat := 0

inductive MaapState where
  | initial
  | probe
  | defend
  deriving DecidableEq

structure MaapRange where
  rangeId : UInt32
  macCount : Nat
  startMacAddr : MacAddress
  state : MaapState
  maapProbeCount : UInt32
  sendConflictIndication : Bool
  probeTimer : Option Nat
  announceTimer : Option Nat
  deriving DecidableEq

structure MaapPort where
  logicalPort : UInt16
  localPhysicalMac : MacAddress
  allocatedRangesCount : Nat
  range : List MaapRange

structure MaapPdu where
  subtype : UInt8
  sv : Bool
  version : Nat
  messageType : Nat
  maapVersion : Nat
  controlDataLength : Nat
  streamId : UInt64
  requestedStartAddress : MacAddress
  requestedCount : UInt16
  conflictStartAddress : MacAddress
  conflictCount : UInt16
  deriving DecidableEq

structure MaapRangeInfo where
  srcPhysicalMac : MacAddress
  localPhysicalMac : MacAddress
  requestedStartAddr : MacAddress
  requestedCount : Nat
  conflict : ConflictInfo

inductive MaapStatus where
  | success
  | free
  | conflict
  | error
  deriving DecidableEq

inductive MaapResponse where
  | success
  | error
  deriving DecidableEq

/-- What is sent. The first two arguments of a transmission and of an indication tell for which
port and range it is, whatever the message says; `chosen` is not sent but records that a range
has got a new address. -/
inductive MaapOutput where
  | transmit (origin : Nat) (range : UInt32) (dst : MacAddress) (ethertype : UInt16) (pdu : MaapPdu)
  | createResponse (sync : Bool) (dst : UInt16) (status : MaapResponse) (portId : UInt16) (rangeId : UInt32)
      (count : UInt16) (baseAddress : MacAddress)
  | deleteResponse (sync : Bool) (dst : UInt16) (status : MaapResponse) (portId : UInt16) (rangeId : UInt32)
  | indication (origin : Nat) (range : UInt32) (sync : Bool) (portId : UInt16) (rangeId : UInt32)
      (baseAddress : MacAddress) (count : UInt16) (status : MaapStatus)
  | chosen (origin : Nat) (range : UInt32) (startMacAddr : MacAddress) (macCount : Nat)
  deriving DecidableEq

structure MaapEnv where
  random : Nat → Nat
  outputs : List MaapOutput

structure MaapCtx where
  portMax : Nat
  port : Nat → MaapPort
  env : MaapEnv

namespace MaapEnv

def emit (output : MaapOutput) (env : MaapEnv) : MaapEnv := {env with outputs := env.outputs ++ [output]}

def randomRange (min max : Nat) (env : MaapEnv) : Nat × MaapEnv :=
  (env.random 0 % (max + 1 - min) + min,{env with random := fun draw => env.random (draw + 1)})

end MaapEnv

namespace MaapRange

def addresses (range : MaapRange) : Set Nat := Maap.addresses range.startMacAddr range.macCount

end MaapRange

namespace MaapCtx

def setPort (index : Nat) (value : MaapPort) (maap : MaapCtx) : MaapCtx :=
  {maap with port := Function.update maap.port index value}

def maapInit (portMax : Nat) (logicalPort : Nat → UInt16) (localPhysicalMac : Nat → MacAddress)
    (random : Nat → Nat) : MaapCtx :=
  ⟨portMax,fun index => ⟨logicalPort index,localPhysicalMac index,0,[]⟩,⟨random,[]⟩⟩

@[simp] theorem setPort_same (index : Nat) (value : MaapPort) (maap : MaapCtx) :
    (maap.setPort index value).port index = value := Function.update_self ..

@[simp] theorem setPort_other {index other : Nat} (apart : other ≠ index) (value : MaapPort) (maap : MaapCtx) :
    (maap.setPort index value).port other = maap.port other := Function.update_of_ne apart ..

end MaapCtx

end Genavb.Maap

/-! The MAAP state machine (`maap_sm`), by events; an event that raises another one goes on with
the branch of that event. -/
namespace Genavb.Maap

def initialPdu (messageType : Nat) : MaapPdu :=
  ⟨AVTP_SUBTYPE_MAAP,false,AVTP_VERSION_0,messageType,MAAP_VERSION,16,0,⟨0,0,0,0,0,0⟩,0,⟨0,0,0,0,0,0⟩,0⟩

def MaapRange.message (messageType : Nat) (range : MaapRange) : MaapPdu :=
  {initialPdu messageType with
    requestedStartAddress := range.startMacAddr
    requestedCount := .ofNat range.macCount}

section Transmission
variable (port : Nat)

def maapNetTransmit (range : MaapRange) (messageType : Nat) (env : MaapEnv) : MaapEnv :=
  env.emit (.transmit port range.rangeId MAAP_MULTICAST_ADDR ETHERTYPE_AVTP (range.message messageType))

/-- `maap_net_transmit` of a DEFEND, to the station that sent the conflicting PROBE. -/
def maapNetTransmitDefend (range : MaapRange) (info : MaapRangeInfo) (env : MaapEnv) : MaapEnv :=
  env.emit (.transmit port range.rangeId info.srcPhysicalMac ETHERTYPE_AVTP {initialPdu MAAP_DEFEND with
    requestedStartAddress := info.requestedStartAddr
    requestedCount := .ofNat info.requestedCount
    conflictStartAddress := info.conflict.startAddr
    conflictCount := .ofNat info.conflict.count})

def maapSmIndication (range : MaapRange) (status : MaapStatus) (env : MaapEnv) : MaapEnv :=
  env.emit (.indication port range.rangeId false (.ofNat port) range.rangeId range.startMacAddr
    (.ofNat range.macCount) status)

end Transmission

section Actions
variable (port : Nat)

def maapGenerateAddress (range : MaapRange) (count : Nat) (env : MaapEnv) : MaapRange × MaapEnv :=
  let count := if count > MAAP_DYNAMIC_POOL_SIZE then MAAP_DYNAMIC_POOL_SIZE else count
  let (rand,env) := env.randomRange 0 (MAAP_DYNAMIC_POOL_SIZE - count)
  let range := {range with startMacAddr := .generated rand}
  (range,env.emit (.chosen port range.rangeId range.startMacAddr range.macCount))

def maapSprobe (range : MaapRange) (env : MaapEnv) : MaapRange × MaapEnv :=
  let (interval,env) := (maapNetTransmit port range MAAP_PROBE env).randomRange
    MAAP_PROBE_INTERVAL_MIN MAAP_PROBE_INTERVAL_MAX
  ({range with probeTimer := some interval},env)

def maapSannounce (range : MaapRange) (env : MaapEnv) : MaapRange × MaapEnv :=
  let (interval,env) := (maapNetTransmit port range MAAP_ANNOUNCE env).randomRange
    MAAP_ANNOUNCE_INTERVAL_MIN MAAP_ANNOUNCE_INTERVAL_MAX
  ({range with announceTimer := some interval},env)

end Actions

def maapCompareMac (localMac receivedMac : MacAddress) : Bool := localMac.reverseMacValue < receivedMac.reverseMacValue

section Machine
variable (port : Nat)

def maapSmReserveAddress (range : MaapRange) (env : MaapEnv) : MaapRange × MaapEnv :=
  match range.state with
  | .initial =>
    let (range,env) := maapSprobe port {range with maapProbeCount := MAAP_PROBE_RETRANSMITS_VAL} env
    ({range with state := .probe},env)
  | .probe | .defend => (range,env)

def maapSmBegin (range : MaapRange) (env : MaapEnv) : MaapRange × MaapEnv :=
  match range.state with
  | .initial => maapSmReserveAddress port range env
  | .probe | .defend => (range,env)

def notifyConflict (range : MaapRange) (env : MaapEnv) : MaapRange × MaapEnv :=
  if range.sendConflictIndication then
    ({range with sendConflictIndication := false},maapSmIndication port range .conflict env)
  else (range,env)

def maapSmRestart (range : MaapRange) (env : MaapEnv) : MaapRange × MaapEnv :=
  match range.state with
  | .initial =>
    let (range,env) := notifyConflict port range env
    let (range,env) := maapGenerateAddress port range range.macCount env
    maapSmReserveAddress port range env
  | .probe | .defend => (range,env)

def maapSmRprobe (info : MaapRangeInfo) (range : MaapRange) (env : MaapEnv) : MaapRange × MaapEnv :=
  match range.state with
  | .initial => (range,env)
  | .probe =>
    if maapCompareMac info.localPhysicalMac info.srcPhysicalMac then (range,env)
    else maapSmRestart port {range with probeTimer := none, state := .initial} env
  | .defend => (range,maapNetTransmitDefend port range info env)

def maapSmRdefend (info : MaapRangeInfo) (range : MaapRange) (env : MaapEnv) : MaapRange × MaapEnv :=
  match range.state with
  | .initial => (range,env)
  | .probe => maapSmRestart port {range with probeTimer := none, state := .initial} env
  | .defend =>
    if maapCompareMac info.localPhysicalMac info.srcPhysicalMac then (range,env)
    else maapSmRestart port {range with announceTimer := none, state := .initial} env

def maapSmProbeCount (range : MaapRange) (env : MaapEnv) : MaapRange × MaapEnv :=
  match range.state with
  | .probe =>
    let env := maapSmIndication port range .success env
    let (range,env) :=
      maapSannounce port {range with probeTimer := none, sendConflictIndication := true} env
    ({range with state := .defend},env)
  | .initial | .defend => (range,env)

def maapSmAnnounceTimer (range : MaapRange) (env : MaapEnv) : MaapRange × MaapEnv :=
  match range.state with
  | .defend => maapSannounce port range env
  | .initial | .probe => (range,env)

def maapSmProbeTimer (range : MaapRange) (env : MaapEnv) : MaapRange × MaapEnv :=
  match range.state with
  | .probe =>
    let (range,env) := maapSprobe port range env
    let range := {range with maapProbeCount := range.maapProbeCount - 1}
    if range.maapProbeCount = 0 then maapSmProbeCount port range env else (range,env)
  | .initial | .defend => (range,env)

def maapSmPortOperational (range : MaapRange) (env : MaapEnv) : MaapRange × MaapEnv :=
  match range.state with
  | .initial => maapSmReserveAddress port range env
  | .probe => maapSmReserveAddress port {range with probeTimer := none, state := .initial} env
  | .defend => maapSmReserveAddress port {range with announceTimer := none, state := .initial} env

end Machine

end Genavb.Maap

/-! The handlers of MAAP (`maap.c`): received messages, requests of the application, timers and
the operational status of a port. -/
namespace Genavb.Maap

/-- The ranges of a port one after the other, each of which may send and draw random numbers. -/
def eachRange (handle : MaapRange → MaapEnv → MaapRange × MaapEnv) :
    List MaapRange → MaapEnv → List MaapRange × MaapEnv
  | [],env => ([],env)
  | range :: rest,env =>
    let (range,env) := handle range env
    let (rest,env) := eachRange handle rest env
    (range :: rest,env)

def onRange (found : MaapRange → Bool) (handle : MaapRange → MaapEnv → MaapRange × MaapEnv) :
    List MaapRange → MaapEnv → List MaapRange × MaapEnv
  | [],env => ([],env)
  | range :: rest,env =>
    if found range then
      let (range,env) := handle range env
      (range :: rest,env)
    else
      let (rest,env) := onRange found handle rest env
      (range :: rest,env)

section Receive
variable (port : Nat) (localMac src : MacAddress) (pdu : MaapPdu)

def rangeInfo (conflict : ConflictInfo) : MaapRangeInfo :=
  ⟨src,localMac,pdu.requestedStartAddress,pdu.requestedCount.toNat,conflict⟩

def maapHandleProbe (range : MaapRange) (env : MaapEnv) : MaapRange × MaapEnv :=
  match areRangesInConflict range.startMacAddr range.macCount pdu.requestedStartAddress pdu.requestedCount.toNat with
  | none => (range,env)
  | some conflict => maapSmRprobe port (rangeInfo localMac src pdu conflict) range env

def maapHandleAnnounce (range : MaapRange) (env : MaapEnv) : MaapRange × MaapEnv :=
  match areRangesInConflict range.startMacAddr range.macCount pdu.requestedStartAddress pdu.requestedCount.toNat with
  | none => (range,env)
  | some conflict => maapSmRdefend port (rangeInfo localMac src pdu conflict) range env

/-- What `maap_handle_defend` does with one of the ranges: only the range that was asked for is
concerned. -/
def maapHandleDefend (range : MaapRange) (env : MaapEnv) : MaapRange × MaapEnv :=
  if range.startMacAddr = pdu.requestedStartAddress ∧ range.macCount = pdu.requestedCount.toNat then
    maapSmRdefend port (rangeInfo localMac src pdu ⟨pdu.conflictStartAddress,pdu.conflictCount.toNat⟩) range env
  else (range,env)

def maapNetReceive (ethertype : UInt16) (range : MaapRange) (env : MaapEnv) : MaapRange × MaapEnv :=
  if ethertype ≠ ETHERTYPE_AVTP then (range,env)
  else if pdu.subtype ≠ AVTP_SUBTYPE_MAAP then (range,env)
  else if pdu.messageType = MAAP_PROBE then maapHandleProbe port localMac src pdu range env
  else if pdu.messageType = MAAP_ANNOUNCE then maapHandleAnnounce port localMac src pdu range env
  else if pdu.messageType = MAAP_DEFEND then maapHandleDefend port localMac src pdu range env
  else (range,env)

end Receive

namespace MaapPort

def checkInternalConflict (port : MaapPort) (newRange : MaapRange) : Bool :=
  port.range.any fun range =>
    (areRangesInConflict range.startMacAddr range.macCount newRange.startMacAddr newRange.macCount).isSome

def isRangeIdUsed (port : MaapPort) (rangeId : UInt32) : Bool := port.range.any fun range => range.rangeId = rangeId

end MaapPort

namespace MaapCtx

section Requests

def initialRange (rangeId : UInt32) (startMacAddr : MacAddress) (count : Nat) : MaapRange :=
  ⟨rangeId,count,startMacAddr,.initial,MAAP_PROBE_RETRANSMITS_VAL,false,none,none⟩

def rangeAddress (index : Nat) (rangeId : UInt32) (addr : Option MacAddress) (count : Nat) (env : MaapEnv) :
    MaapRange × MaapEnv :=
  match addr with
  | some addr => (initialRange rangeId addr count,env.emit (.chosen index rangeId addr count))
  | none => maapGenerateAddress index (initialRange rangeId ⟨0,0,0,0,0,0⟩ count) count env

/-- `maap_range_alloc`; `memory` and `timers` tell whether their allocations succeed. -/
def maapRangeAlloc (index : Nat) (rangeId : UInt32) (addr : Option MacAddress) (count : Nat) (memory timers : Bool)
    (maap : MaapCtx) : Option MaapRange × MaapCtx :=
  let port := maap.port index
  if count > MAAP_DYNAMIC_POOL_SIZE || count = 0 then (none,maap)
  else if addr.any fun addr => !maapIsInDynamicPool addr count then (none,maap)
  else if port.allocatedRangesCount ≥ MAAP_PORT_MAX_RANGES_ALLOCATION then (none,maap)
  else if port.isRangeIdUsed rangeId then (none,maap)
  else if !memory then (none,maap)
  else
    let (range,env) := rangeAddress index rangeId addr count maap.env
    let maap := {maap with env := env}
    if port.checkInternalConflict range || !timers then (none,maap)
    else (some range,maap.setPort index {port with allocatedRangesCount := port.allocatedRangesCount + 1})

def maapNewRangeOnPort (index : Nat) (rangeId : UInt32) (addr : Option MacAddress) (count : Nat)
    (memory timers : Bool) (maap : MaapCtx) : Option MaapRange × MaapCtx :=
  match maap.maapRangeAlloc index rangeId addr count memory timers with
  | (none,maap) => (none,maap)
  | (some range,maap) =>
    let (range,env) := maapSmBegin index range maap.env
    let port := maap.port index
    (some range,{maap.setPort index {port with range := range :: port.range} with env := env})

def removeRange (rangeId : UInt32) : List MaapRange → Option (MaapRange × List MaapRange)
  | [] => none
  | range :: rest =>
    if range.rangeId = rangeId then some (range,rest)
    else match removeRange rangeId rest with
      | none => none
      | some (found,left) => some (found,range :: left)

def logicalToMaapPort (logicalPort : UInt16) (maap : MaapCtx) : Option Nat :=
  (List.range maap.portMax).find? fun index => logicalPort = (maap.port index).logicalPort

def emit (output : MaapOutput) (maap : MaapCtx) : MaapCtx := {maap with env := maap.env.emit output}

def requestedAddress (flag : UInt8) (baseAddress : MacAddress) : Option MacAddress :=
  if flag = 1 then some baseAddress else none

def maapIpcCreate (sync : Bool) (src : UInt16) (flag : UInt8) (portId : UInt16) (rangeId : UInt32)
    (count : UInt16) (baseAddress : MacAddress) (memory timers : Bool) (maap : MaapCtx) : MaapCtx :=
  let failed := MaapOutput.createResponse sync src .error portId rangeId count baseAddress
  match maap.logicalToMaapPort portId with
  | none => maap.emit failed
  | some index =>
    match maap.maapNewRangeOnPort index rangeId (requestedAddress flag baseAddress) count.toNat memory timers with
    | (none,maap) => maap.emit failed
    | (some range,maap) =>
      maap.emit (.createResponse sync src .success (maap.port index).logicalPort range.rangeId
        (.ofNat range.macCount) range.startMacAddr)

def maapIpcDelete (sync : Bool) (src : UInt16) (portId : UInt16) (rangeId : UInt32) (maap : MaapCtx) : MaapCtx :=
  let failed := MaapOutput.deleteResponse sync src .error portId rangeId
  match maap.logicalToMaapPort portId with
  | none => maap.emit failed
  | some index =>
    let port := maap.port index
    match removeRange rangeId port.range with
    | none => maap.emit failed
    | some (range,left) =>
      ((maap.setPort index {port with
        range := left
        allocatedRangesCount := port.allocatedRangesCount - 1}).emit
          (.deleteResponse sync src .success port.logicalPort rangeId)).emit
            (.indication index range.rangeId sync port.logicalPort rangeId range.startMacAddr (.ofNat range.macCount)
              .free)

end Requests

def onPort (index : Nat) (handle : List MaapRange → MaapEnv → List MaapRange × MaapEnv) (maap : MaapCtx) : MaapCtx :=
  let port := maap.port index
  let (ranges,env) := handle port.range maap.env
  {maap.setPort index {port with range := ranges} with env := env}

end MaapCtx

/-- A timer is given by the id of its range, which no other range of the port has. -/
inductive MaapInput where
  | create (sync : Bool) (src : UInt16) (flag : UInt8) (portId : UInt16) (rangeId : UInt32) (count : UInt16)
      (baseAddress : MacAddress) (memory timers : Bool)
  | delete (sync : Bool) (src : UInt16) (portId : UInt16) (rangeId : UInt32)
  | receive (port : Nat) (ethertype : UInt16) (src : MacAddress) (pdu : MaapPdu)
  | probeTimer (port : Nat) (rangeId : UInt32)
  | announceTimer (port : Nat) (rangeId : UInt32)
  | macStatus (port : Nat) (operational : Bool)

/-- What an input makes of one range of the port it is for: `maap_probe_timer_handler`,
`maap_announce_timer_handler`, `maap_ipc_rx_mac_service` and `maap_net_receive`. -/
def handleRange (localMac : MacAddress) (input : MaapInput) (range : MaapRange) (env : MaapEnv) :
    MaapRange × MaapEnv :=
  match input with
  | .create .. | .delete .. => (range,env)
  | .receive port ethertype src pdu => maapNetReceive port localMac src pdu ethertype range env
  | .probeTimer port _ => maapSmProbeTimer port {range with probeTimer := none} env
  | .announceTimer port _ => maapSmAnnounceTimer port {range with announceTimer := none} env
  | .macStatus port operational => if operational then maapSmPortOperational port range env else (range,env)

def maapStep (input : MaapInput) (maap : MaapCtx) : MaapCtx :=
  let whole (port : Nat) : MaapCtx :=
    if port < maap.portMax then
      maap.onPort port (eachRange (handleRange (maap.port port).localPhysicalMac input))
    else maap
  let single (port : Nat) (found : MaapRange → Bool) : MaapCtx :=
    if port < maap.portMax then
      maap.onPort port (onRange found (handleRange (maap.port port).localPhysicalMac input))
    else maap
  match input with
  | .create sync src flag portId rangeId count baseAddress memory timers =>
    maap.maapIpcCreate sync src flag portId rangeId count baseAddress memory timers
  | .delete sync src portId rangeId => maap.maapIpcDelete sync src portId rangeId
  | .receive port _ _ _ => whole port
  | .macStatus port _ => whole port
  | .probeTimer port rangeId => single port fun range => range.rangeId = rangeId && range.probeTimer.isSome
  | .announceTimer port rangeId => single port fun range => range.rangeId = rangeId && range.announceTimer.isSome

end Genavb.Maap
