import Genavb.Maap.Address
import Genavb.Support.Bitmap
import Mathlib.Logic.Function.Basic

/-! Nodes of the HSR stack (`hsr.c`): the streams of a node with the drop filters of a proxied one, and the
lists of nodes. -/
namespace Genavb.Hsr
open Genavb.Support
open Genavb.Maap (MacAddress)

def HSR_TABLES_ARRAY_CNT : Nat := 48
def HSR_NODE_MAX_STREAM : Nat := 8
def HSR_SWITCH_PORT_MAX : Nat := 5

abbrev PortSet := BitVec 8

def HSR_SWITCH_PORT_MASK : PortSet := 0x1f

inductive HsrMode where
  | h
  | n
  | t
  | u
  | other (value : UInt8)
  deriving DecidableEq

/-- The bridge ports in the order of `logical_br_port_list`; the ring ports are among them. -/
structure HsrPortConfig where
  brMgmtPort : Nat
  logicalBrPortList : List Nat
  ringPortMask : PortSet
  few : logicalBrPortList.length ≤ HSR_SWITCH_PORT_MAX
  inside : ∀ port, maskHas ringPortMask port = true → port < logicalBrPortList.length

namespace HsrPortConfig
variable (config : HsrPortConfig)

def brPortMax : Nat := config.logicalBrPortList.length

def logicPortToBridgePort (logicalPort : Nat) : Option Nat := config.logicalBrPortList.findIdx? (· = logicalPort)

def ringPorts : List Nat := (List.range config.brPortMax).filter fun port => maskHas config.ringPortMask port

end HsrPortConfig

structure HsrStreamDrop where
  streamId : Nat
  dropFilterId : Nat

/-- `filtered` says that `drop` has been set up for this stream. Otherwise it holds what the memory held
before, which is zero or the filter of a stream that was moved down. -/
structure HsrStream where
  streamId : Nat
  vid : UInt16
  tagged : Bool
  drop : HsrStreamDrop
  filtered : Bool

def HsrStream.zero : HsrStream := ⟨0,0,false,⟨0,0⟩,false⟩

/-- The array `stream` is `streams`, of which there are `stream_max`, and then `spare`. `none` is the zero of an
entry of `moden_stream` without a stream, and `HSR_NULL_ENTRY_ID` in `genId` and `recId`. -/
structure HsrNode where
  mac : MacAddress
  fwdmask : PortSet
  streams : List HsrStream
  spare : List HsrStream
  modenStream : List (Option Nat)
  genId : Option Nat
  recId : Option Nat
  isring : Bool
  cnt : UInt32
  seqnum : UInt16

namespace HsrNode

def new (mac : MacAddress) (vid : UInt16) (tagged : Bool) (fwdmask : PortSet) (streamid : Nat)
    (genId recId : Option Nat) (isring : Bool) : HsrNode where
  mac := mac
  fwdmask := fwdmask
  streams := [{HsrStream.zero with streamId := streamid,vid := vid,tagged := tagged}]
  spare := List.replicate (HSR_NODE_MAX_STREAM - 1) HsrStream.zero
  modenStream := List.replicate HSR_SWITCH_PORT_MAX none
  genId := genId
  recId := recId
  isring := isring
  cnt := 0
  seqnum := 0

/-- `hsr_node_streamid_add`. The place of the new stream keeps the drop filter that it had. -/
def streamidAdd (node : HsrNode) (streamid : Nat) (vid : UInt16) (tagged : Bool) : Option HsrNode :=
  if HSR_NODE_MAX_STREAM ≤ node.streams.length then none
  else
    let place := node.spare.headD HsrStream.zero
    let stream := {place with streamId := streamid,vid := vid,tagged := tagged,filtered := false}
    some {node with streams := node.streams ++ [stream],spare := node.spare.tail}

def streamidGetIndex (node : HsrNode) (vid : UInt16) : Option Nat := node.streams.findIdx? (·.vid = vid)

/-- `hsr_node_streamid_del`. What was last stays behind in the place that is no longer used. -/
def streamidDel (node : HsrNode) (index : Nat) : HsrNode :=
  {node with
    streams := node.streams.eraseIdx index
    spare := node.streams.getLastD HsrStream.zero :: node.spare}

end HsrNode

def nodeListFind (nodes : List HsrNode) (mac : MacAddress) : Option HsrNode := nodes.find? (·.mac = mac)

/-- What a pointer to a node of a list does: the first node with this address is replaced. -/
def nodeListSet (nodes : List HsrNode) (node : HsrNode) : List HsrNode :=
  match nodes with
  | [] => []
  | head :: rest => if head.mac = node.mac then node :: rest else head :: nodeListSet rest node

def nodeListDel (nodes : List HsrNode) (mac : MacAddress) : List HsrNode := nodes.eraseP (·.mac = mac)

end Genavb.Hsr

/-! What the node functions of the HSR stack work on (`hsr.c`): the tables of identifiers, the entries of the
bridge's forwarding database, and the streams of a node in the bridge. -/
namespace Genavb.Hsr
open Genavb.Support
open Genavb.Maap (MacAddress)

inductive HsrTable where
  | streamTable
  | recTable
  | genTable
  | dropTable
  deriving DecidableEq

inductive HwObject where
  | streamIdentity (id : Nat)
  | streamFilter (id : Nat)
  | sequenceGeneration (id : Nat)
  | sequenceRecovery (id : Nat)
  deriving DecidableEq

abbrev Fdb := MacAddress → UInt16 → Option (Nat → Bool)

/-- The answers of the bridge's drivers and of the allocator during one step. -/
structure Hardware where
  vlanPortGetDefault : Nat → Option UInt16
  fdbRead : MacAddress → UInt16 → Bool
  fdbUpdate : Nat → MacAddress → UInt16 → Bool
  fdbDelete : MacAddress → UInt16 → Bool
  streamIdentityUpdate : Nat → PortSet → Bool
  streamFilterUpdate : Nat → Bool
  sequenceIdentificationUpdate : Nat → Nat → Bool
  sequenceGenerationRead : Nat → Option UInt16
  sequenceGenerationUpdate : Nat → Nat → Bool
  sequenceRecoveryUpdate : Nat → Nat → Bool
  osMalloc : Bool

structure HsrDevice where
  mode : HsrMode
  tables : HsrTable → Bitmap 8
  fdb : Fdb
  deleted : List HwObject

variable (config : HsrPortConfig) (hw : Hardware)

def frerIdentificationAdd (streamid : Nat) : Bool :=
  (List.range config.brPortMax).all fun port => hw.sequenceIdentificationUpdate port streamid

def frerRecAdd (baseRecId streamid : Nat) : Bool :=
  (List.range config.brPortMax).all fun port => hw.sequenceRecoveryUpdate (baseRecId + port) streamid

def fdbMask (forwards : Nat → Bool) : PortSet :=
  (List.range config.brPortMax).foldl (fun mask port => if forwards port then maskSet mask port else mask) 0

namespace HsrDevice

def tableIdAlloc (table : HsrTable) (dev : HsrDevice) : Option (Nat × HsrDevice) :=
  match (dev.tables table).alloc with
  | none => none
  | some (id,after) => some (id,{dev with tables := Function.update dev.tables table after})

def tableIdFree (table : HsrTable) (id : Nat) (dev : HsrDevice) : HsrDevice :=
  {dev with tables := Function.update dev.tables table ((dev.tables table).free id)}

def delete (object : HwObject) (dev : HsrDevice) : HsrDevice := {dev with deleted := dev.deleted ++ [object]}

def fdbEntryExist (mac : MacAddress) (vid : UInt16) (dev : HsrDevice) : Option PortSet :=
  if hw.fdbRead mac vid then (dev.fdb mac vid).map (fdbMask config) else none

def fdbUpdate (port : Nat) (mac : MacAddress) (vid : UInt16) (forward : Bool) (dev : HsrDevice) : HsrDevice :=
  let forwards := (dev.fdb mac vid).getD fun _ => false
  {dev with
    fdb := Function.update dev.fdb mac (Function.update (dev.fdb mac) vid (some (Function.update forwards port forward)))}

def fdbEntryLoop (mac : MacAddress) (vid : UInt16) (fwdmask : PortSet) : List Nat → HsrDevice → Bool × HsrDevice
  | [],dev => (true,dev)
  | port :: rest,dev =>
    if hw.fdbUpdate port mac vid then fdbEntryLoop mac vid fwdmask rest (dev.fdbUpdate port mac vid (maskHas fwdmask port))
    else (false,dev)

def fdbEntryAdd (mac : MacAddress) (vid : UInt16) (fwdmask : PortSet) (dev : HsrDevice) : Bool × HsrDevice :=
  let fwdmask := if dev.mode = .u then HSR_SWITCH_PORT_MASK else fwdmask
  dev.fdbEntryLoop hw mac vid fwdmask (List.range config.brPortMax)

def fdbDel (mac : MacAddress) (vid : UInt16) (dev : HsrDevice) : HsrDevice :=
  if hw.fdbDelete mac vid then
    {dev with fdb := Function.update dev.fdb mac (Function.update (dev.fdb mac) vid none)}
  else dev

def fdbFwdLoop (mac : MacAddress) (vid : UInt16) (fwdmask : PortSet) (forwards : Nat → Bool) :
    List Nat → HsrDevice → HsrDevice
  | [],dev => dev
  | port :: rest,dev =>
    if forwards port = maskHas fwdmask port then fdbFwdLoop mac vid fwdmask forwards rest dev
    else if hw.fdbUpdate port mac vid then
      fdbFwdLoop mac vid fwdmask forwards rest (dev.fdbUpdate port mac vid (maskHas fwdmask port))
    else dev

def fdbFwdUpdate (mac : MacAddress) (vid : UInt16) (fwdmask : PortSet) (dev : HsrDevice) : HsrDevice :=
  if hw.fdbRead mac vid then
    match dev.fdb mac vid with
    | none => dev
    | some forwards => dev.fdbFwdLoop hw mac vid fwdmask forwards (List.range config.brPortMax)
  else dev

def dropFilterDel (drop : HsrStreamDrop) (dev : HsrDevice) : HsrDevice :=
  let dev := (dev.delete (.streamFilter drop.dropFilterId)).tableIdFree .dropTable drop.dropFilterId
  (dev.delete (.streamIdentity drop.streamId)).tableIdFree .streamTable drop.streamId

end HsrDevice

namespace HsrNode

def streamDel (vid : UInt16) (node : HsrNode) (dev : HsrDevice) : HsrNode × HsrDevice :=
  match node.streamidGetIndex vid with
  | none => (node,dev)
  | some index =>
    let stream := node.streams.getD index HsrStream.zero
    let dev := (dev.tableIdFree .streamTable stream.streamId).delete (.streamIdentity stream.streamId)
    (node.streamidDel index,dev.dropFilterDel stream.drop)

def modenSetPort (entry : Nat × Nat) (node : HsrNode) (dev : HsrDevice) : HsrNode × HsrDevice :=
  match dev.tableIdAlloc .streamTable with
  | none => (node,dev)
  | some (streamid,dev) =>
    if hw.streamIdentityUpdate streamid (maskBit 8 entry.1) && frerIdentificationAdd config hw streamid then
      ({node with modenStream := node.modenStream.set entry.2 (some streamid)},dev)
    else (node,dev)

def modenSetPorts (entries : List (Nat × Nat)) (node : HsrNode) (dev : HsrDevice) : HsrNode × HsrDevice :=
  entries.foldl (fun now entry => modenSetPort config hw entry now.1 now.2) (node,dev)

/-- `hsr_node_moden_set`. The first ring port keeps the node's own stream. -/
def modenSet (node : HsrNode) (dev : HsrDevice) : HsrNode × HsrDevice :=
  if config.ringPorts = [] then (node,dev)
  else
    node.streams.foldl (fun now stream =>
      modenSetPorts config hw config.ringPorts.tail.zipIdx now.1 (now.2.delete (.streamIdentity stream.streamId))) (node,dev)

def modenClearPort (entry : Nat) (node : HsrNode) (dev : HsrDevice) : HsrNode × HsrDevice :=
  let streamid := (node.modenStream.getD entry none).getD 0
  let dev := (dev.tableIdFree .streamTable streamid).delete (.streamIdentity streamid)
  ({node with modenStream := node.modenStream.set entry none},dev)

def modenClearPorts (entries : List Nat) (node : HsrNode) (dev : HsrDevice) : HsrNode × HsrDevice :=
  entries.foldl (fun now entry => modenClearPort entry now.1 now.2) (node,dev)

def modenClear (node : HsrNode) (dev : HsrDevice) : HsrNode × HsrDevice :=
  if config.ringPorts = [] then (node,dev)
  else
    node.streams.foldl (fun now stream =>
      let cleared := modenClearPorts (List.range (config.ringPorts.length - 1)) now.1 now.2
      (cleared.1,cleared.2.delete (.streamIdentity stream.streamId))) (node,dev)

def streamsDel (mac : MacAddress) (streams : List HsrStream) (dev : HsrDevice) : HsrDevice :=
  streams.foldl (fun dev stream =>
    ((dev.delete (.streamIdentity stream.streamId)).tableIdFree .streamTable stream.streamId).fdbDel hw mac stream.vid) dev

def dropFiltersDel (streams : List HsrStream) (dev : HsrDevice) : HsrDevice :=
  streams.foldl (fun dev stream => dev.dropFilterDel stream.drop) dev

def generatorDel (node : HsrNode) (dev : HsrDevice) : HsrDevice :=
  match node.genId with
  | none => dev
  | some genId => dropFiltersDel node.streams ((dev.delete (.sequenceGeneration genId)).tableIdFree .genTable genId)

def recoveryDel (node : HsrNode) (dev : HsrDevice) : HsrDevice :=
  match node.recId with
  | none => dev
  | some recId => (dev.delete (.sequenceRecovery recId)).tableIdFree .recTable (recId / config.brPortMax)

def del (node : HsrNode) (dev : HsrDevice) : HsrDevice :=
  let (node,dev) := if dev.mode = .n then node.modenClear config dev else (node,dev)
  node.recoveryDel config (node.generatorDel (streamsDel hw node.mac node.streams dev))

end HsrNode

end Genavb.Hsr
