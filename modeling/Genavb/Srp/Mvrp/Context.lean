import Genavb.Support.Bitmap
import Genavb.Srp.Mrp.Step
import Genavb.Srp.Mrp.Codec

/-! Data model of MVRP (`mvrp.h`, `mvrp_map.h`): VLAN objects, the single MAP context and
the ports with their MRP applications. -/
namespace Genavb.Mvrp
open Support Mrp

abbrev PortMask := BitVec 16

def CFG_MVRP_MAX_VLANS : Nat := 32
def CFG_MVRP_VID_MIN : Nat := 1
def CFG_MVRP_VID_MAX : Nat := 4094

abbrev VlanId := UInt16

structure MvrpVlan where
  registeredState : PortMask
  declaredState : PortMask
  vlanId : VlanId
  userDeclared : PortMask
  refCount : Nat → Nat

structure MvrpMap where
  vlans : List MvrpVlan
  numVlans : Nat
  forwardingState : PortMask

inductive VlanTableCall where
  | update (vlanId : VlanId) (port : Nat) (registered : Bool)
  | delete (vlanId : VlanId)
  deriving DecidableEq

structure JoinRequest where
  vlanId : VlanId
  port : Nat
  granted : Bool
  deriving DecidableEq

structure MvrpConfig where
  isBridge : Bool
  portMax : Nat
  logicalPort : Nat → Nat
  initialized : Nat → Bool
  /-- The port masks have 16 bits. -/
  portMax_bound : portMax ≤ 16

theorem onePort_bound : 1 ≤ 16 := by decide

/-- `requests` and `vlanTable` record what the MAP asked of the ports and of the bridge;
`fault` is set when a released VLAN object is used. -/
structure MvrpCtx where
  config : MvrpConfig
  map : MvrpMap
  operationalState : PortMask
  mrpApp : Nat → MrpApplication VlanId
  requests : List JoinRequest
  vlanTable : List VlanTableCall
  fault : Bool

namespace MvrpVlan

def isDeclared (vlan : MvrpVlan) (port : Nat) : Bool := maskHas vlan.declaredState port
def isRegistered (vlan : MvrpVlan) (port : Nat) : Bool := maskHas vlan.registeredState port
def isRegisteredAny (vlan : MvrpVlan) : Bool := vlan.registeredState != 0#16
def isUserDeclared (vlan : MvrpVlan) (port : Nat) : Bool := maskHas vlan.userDeclared port
def isUserDeclaredAny (vlan : MvrpVlan) : Bool := vlan.userDeclared != 0#16

def isRegisteredOtherForwarding (map : MvrpMap) (vlan : MvrpVlan) (port : Nat) : Bool :=
  maskClear (vlan.registeredState &&& map.forwardingState) port != 0#16

def userDeclarationSet (port : Nat) (vlan : MvrpVlan) : MvrpVlan :=
  {vlan with userDeclared := maskSet vlan.userDeclared port}

def userDeclarationClear (port : Nat) (vlan : MvrpVlan) : MvrpVlan :=
  {vlan with userDeclared := maskClear vlan.userDeclared port}

def registeredSet (port : Nat) (vlan : MvrpVlan) : MvrpVlan :=
  {vlan with registeredState := maskSet vlan.registeredState port}

def registeredClear (port : Nat) (vlan : MvrpVlan) : MvrpVlan :=
  {vlan with registeredState := maskClear vlan.registeredState port}

def declaredSet (port : Nat) (vlan : MvrpVlan) : MvrpVlan :=
  {vlan with declaredState := maskSet vlan.declaredState port}

def declaredClear (port : Nat) (vlan : MvrpVlan) : MvrpVlan :=
  {vlan with declaredState := maskClear vlan.declaredState port}

def refCountUp (port : Nat) (vlan : MvrpVlan) : MvrpVlan :=
  {vlan with refCount := Function.update vlan.refCount port ((vlan.refCount port + 1) % 2 ^ 32)}

def refCountDown (port : Nat) (vlan : MvrpVlan) : MvrpVlan :=
  {vlan with refCount := Function.update vlan.refCount port (vlan.refCount port - 1)}

end MvrpVlan

def MvrpMap.isForwarding (map : MvrpMap) (port : Nat) : Bool := maskHas map.forwardingState port

namespace MvrpCtx

def mvrpFindVlan (vlanId : VlanId) (ctx : MvrpCtx) : Option MvrpVlan :=
  ctx.map.vlans.find? fun vlan => vlan.vlanId == vlanId

def store (vlan : MvrpVlan) (ctx : MvrpCtx) : MvrpCtx :=
  {ctx with map := {ctx.map with
    vlans := ctx.map.vlans.map fun other => if other.vlanId = vlan.vlanId then vlan else other}}

def faulted (ctx : MvrpCtx) : MvrpCtx := {ctx with fault := true}

def isOperational (ctx : MvrpCtx) (port : Nat) : Bool := maskHas ctx.operationalState port

def setApp (port : Nat) (app : MrpApplication VlanId) (ctx : MvrpCtx) : MvrpCtx :=
  {ctx with mrpApp := Function.update ctx.mrpApp port app}

def mvrpCreateVlan (vlanId : VlanId) (memory : Bool) (ctx : MvrpCtx) : MvrpCtx × Option MvrpVlan :=
  match ctx.mvrpFindVlan vlanId with
  | some vlan => (ctx,some vlan)
  | none =>
    if ¬ ctx.map.numVlans < CFG_MVRP_MAX_VLANS then (ctx,none)
    else if vlanId.toNat < CFG_MVRP_VID_MIN ∨ vlanId.toNat > CFG_MVRP_VID_MAX then (ctx,none)
    else if !memory then (ctx,none)
    else
      let vlan : MvrpVlan := ⟨0,0,vlanId,0,fun _ => 0⟩
      ({ctx with map := {ctx.map with vlans := vlan :: ctx.map.vlans, numVlans := ctx.map.numVlans + 1}},some vlan)

def mvrpFreeVlan (vlan : MvrpVlan) (ctx : MvrpCtx) : MvrpCtx :=
  {ctx with
    map := {ctx.map with
      vlans := ctx.map.vlans.filter fun other => other.vlanId != vlan.vlanId
      numVlans := ctx.map.numVlans - 1}
    vlanTable := if ctx.config.isBridge then ctx.vlanTable ++ [.delete vlan.vlanId] else ctx.vlanTable}

end MvrpCtx

def vidType : AttrType := 1

def mvrpWithdraw (port : Nat) (vlan : MvrpVlan) (ctx : MvrpCtx) : MvrpVlan × MvrpCtx :=
  if vlan.isDeclared port then
    (vlan.declaredClear port,ctx.setApp port (mrpMadLeaveRequest vidType vlan.vlanId (ctx.mrpApp port)))
  else (vlan,ctx)

/-- One iteration of the loop of `mvrp_map_update_vlan`; `alloc` is what an allocation of the
MRP attribute meets. -/
def mvrpMapUpdatePort (new : Bool) (alloc : Nat → AllocOutcome) (vlan : MvrpVlan) (ctx : MvrpCtx) (port : Nat) :
    MvrpVlan × MvrpCtx :=
  if !ctx.map.isForwarding port then mvrpWithdraw port vlan ctx
  else if vlan.isRegisteredOtherForwarding ctx.map port || vlan.isUserDeclared port then
    if vlan.isDeclared port then (vlan,ctx)
    else
      let (app,attr) := mrpMadJoinRequest vidType vlan.vlanId new (alloc port) (ctx.mrpApp port)
      let ctx := {ctx.setApp port app with requests := ctx.requests ++ [⟨vlan.vlanId,port,attr.isSome⟩]}
      if attr.isSome then (vlan.declaredSet port,ctx) else (vlan,ctx)
  else mvrpWithdraw port vlan ctx

def mvrpMapUpdatePorts (new : Bool) (alloc : Nat → AllocOutcome) (vlan : MvrpVlan) (ctx : MvrpCtx) :
    MvrpVlan × MvrpCtx :=
  (List.range ctx.config.portMax).foldl
    (fun state port => mvrpMapUpdatePort new alloc state.1 state.2 port) (vlan,ctx)

def mvrpMapUpdateVlan (new : Bool) (alloc : Nat → AllocOutcome) (vlan : MvrpVlan) (ctx : MvrpCtx) : MvrpCtx :=
  let (vlan,ctx) := mvrpMapUpdatePorts new alloc vlan ctx
  let ctx := ctx.store vlan
  if !vlan.isRegisteredAny && !vlan.isUserDeclaredAny then ctx.mvrpFreeVlan vlan else ctx

def mvrpMapUpdateEntry (alloc : VlanId → Nat → AllocOutcome) (ctx : MvrpCtx) (vlanId : VlanId) : MvrpCtx :=
  match ctx.mvrpFindVlan vlanId with
  | none => ctx.faulted
  | some vlan => mvrpMapUpdateVlan false (alloc vlanId) vlan ctx

/-- `mvrp_map_update`: the entries are visited in the order in which they stand at the start,
the next one being read before an entry is updated. -/
def mvrpMapUpdate (alloc : VlanId → Nat → AllocOutcome) (ctx : MvrpCtx) : MvrpCtx :=
  (ctx.map.vlans.map (·.vlanId)).foldl (mvrpMapUpdateEntry alloc) ctx

end Genavb.Mvrp

/-! The MVRP context of `mvrp.c`: requests of the upper layer, indications of the MRP
applications, port status, received packets and IPC messages, and its runs. -/
namespace Genavb.Mvrp
open Support Mrp

/-- What the allocations of one call meet: that of a VLAN object, and those of MRP attributes
on each port. -/
structure Resources where
  memory : Bool
  alloc : Nat → AllocOutcome

inductive Status where
  | SUCCESS | ERR_CTRL_FAILED | ERR_CTRL_INVALID | ERR_CTRL_LEN
  deriving DecidableEq

namespace MvrpCtx

/-- `logical_to_mvrp_port`: the first port with this logical number counts, if its SRP port
is initialized. -/
def logicalToMvrpPort (logicalPort : Nat) (ctx : MvrpCtx) : Option Nat :=
  match (List.range ctx.config.portMax).find? fun port => ctx.config.logicalPort port == logicalPort with
  | none => none
  | some port => if ctx.config.initialized port then some port else none

def modifyVlan (vlanId : VlanId) (f : MvrpVlan → MvrpVlan) (ctx : MvrpCtx) : MvrpCtx :=
  match ctx.mvrpFindVlan vlanId with
  | none => ctx.faulted
  | some vlan => ctx.store (f vlan)

def mvrpRegisterVlanMember (logicalPort : Nat) (vlanId : VlanId) (resources : Resources) (ctx : MvrpCtx) :
    MvrpCtx × Status :=
  match ctx.logicalToMvrpPort logicalPort with
  | none => (ctx,.ERR_CTRL_INVALID)
  | some port =>
    let new := (ctx.mvrpFindVlan vlanId).isNone
    match ctx.mvrpCreateVlan vlanId resources.memory with
    | (ctx,none) => (ctx,.ERR_CTRL_FAILED)
    | (ctx,some vlan) =>
      let ctx :=
        if vlan.refCount port = 0 then mvrpMapUpdateVlan new resources.alloc (vlan.userDeclarationSet port) ctx
        else ctx
      (ctx.modifyVlan vlanId (MvrpVlan.refCountUp port),.SUCCESS)

def mvrpDeregisterVlanMember (logicalPort : Nat) (vlanId : VlanId) (resources : Resources) (ctx : MvrpCtx) :
    MvrpCtx × Status :=
  match ctx.logicalToMvrpPort logicalPort with
  | none => (ctx,.ERR_CTRL_INVALID)
  | some port =>
    match ctx.mvrpFindVlan vlanId with
    | none => (ctx,.SUCCESS)
    | some vlan =>
      let vlan := if vlan.refCount port ≠ 0 then vlan.refCountDown port else vlan
      if vlan.refCount port = 0 then
        (mvrpMapUpdateVlan false resources.alloc (vlan.userDeclarationClear port) ctx,.SUCCESS)
      else (ctx.store vlan,.SUCCESS)

/-- The call of `vlan_update` at the end of an indication, which reads the identifier from the
VLAN object. -/
def vlanUpdate (port : Nat) (vlanId : VlanId) (registered : Bool) (ctx : MvrpCtx) : MvrpCtx :=
  if ctx.config.isBridge then
    let ctx := if (ctx.mvrpFindVlan vlanId).isNone then ctx.faulted else ctx
    {ctx with vlanTable := ctx.vlanTable ++ [.update vlanId (ctx.config.logicalPort port) registered]}
  else ctx

def mvrpJoinIndication (port : Nat) (vlanId : VlanId) (new : Bool) (resources : Resources) (ctx : MvrpCtx) :
    MvrpCtx :=
  match ctx.mvrpCreateVlan vlanId resources.memory with
  | (ctx,none) => ctx
  | (ctx,some vlan) =>
    (mvrpMapUpdateVlan new resources.alloc (vlan.registeredSet port) ctx).vlanUpdate port vlanId true

def mvrpLeaveIndication (port : Nat) (vlanId : VlanId) (resources : Resources) (ctx : MvrpCtx) : MvrpCtx :=
  match ctx.mvrpFindVlan vlanId with
  | none => ctx
  | some vlan =>
    (mvrpMapUpdateVlan false resources.alloc (vlan.registeredClear port) ctx).vlanUpdate port vlanId false

def mvrpIndication (resources : Resources) (port : Nat) (kind : Indication) (id : AttrId) (ctx : MvrpCtx) : MvrpCtx :=
  match (ctx.mrpApp port).heap id with
  | none => ctx.faulted
  | some attr =>
    match kind with
    | .new => ctx.mvrpJoinIndication port attr.val true resources
    | .join => ctx.mvrpJoinIndication port attr.val false resources
    | .leave => ctx.mvrpLeaveIndication port attr.val resources

def client (resources : Resources) (port : Nat) : MrpClient VlanId MvrpCtx where
  app := fun ctx => ctx.mrpApp port
  setApp := fun app ctx => ctx.setApp port app
  indication := mvrpIndication resources port

def mvrpPortStatus (logicalPort : Nat) (operational : Bool) (alloc : VlanId → Nat → AllocOutcome) (ctx : MvrpCtx) :
    MvrpCtx :=
  match ctx.logicalToMvrpPort logicalPort with
  | none => ctx
  | some port =>
    let update := fun mask : PortMask => if operational then maskSet mask port else maskClear mask port
    mvrpMapUpdate alloc {ctx with
      operationalState := update ctx.operationalState
      map := {ctx.map with forwardingState := update ctx.map.forwardingState}}

/-- `random` is the value `random_range` returns when a LeaveAll timer is restarted. -/
def mvrpDeliver (port : Nat) (resources : Resources) (alloc : AllocOutcome) (random : Nat) (delivery : Delivery)
    (ctx : MvrpCtx) : MvrpCtx :=
  match delivery with
  | .leaveAll _ => (client resources port).trigger (.leaveAll vidType random) ctx
  | .attribute _ val event =>
    let vlanId := UInt16.ofNat ((val[0]?.getD 0).toNat * 256 + (val[1]?.getD 0).toNat)
    (client resources port).trigger (.receive vidType vlanId (AttributeEvent.ofCode event) alloc) ctx

structure PacketResources where
  resources : Nat → Resources
  alloc : Nat → AllocOutcome
  random : Nat → Nat

def mvrpProcessPacket (port : Nat) (memory : Memory) (length : Nat) (meets : PacketResources) (ctx : MvrpCtx) :
    MvrpCtx :=
  if port ≥ ctx.config.portMax then ctx
  else if !ctx.isOperational port then ctx
  else
    let deliveries := (mrpProcessPacket .MVRP (ctx.mrpApp port).enabled memory length).1
    (deliveries.zipIdx).foldl (fun ctx (delivery,i) =>
      ctx.mvrpDeliver port (meets.resources i) (meets.alloc i) (meets.random i) delivery) ctx

def mvrpExit (ctx : MvrpCtx) : MvrpCtx :=
  let ctx := (List.range ctx.config.portMax).foldl (fun ctx port =>
    if ctx.config.initialized port then ctx.setApp port (mrpDisable (ctx.mrpApp port)) else ctx) ctx
  (ctx.map.vlans).foldl (fun ctx vlan =>
    let (vlan,ctx) := (List.range ctx.config.portMax).foldl
      (fun state port => mvrpWithdraw port state.1 state.2) (vlan,ctx)
    ctx.mvrpFreeVlan vlan) ctx

def mvrpInit (config : MvrpConfig) (mrp : MrpConfig) (random : Nat → Nat) : MvrpCtx where
  config := config
  map := ⟨[],0,0⟩
  operationalState := 0
  mrpApp := fun port => if config.initialized port then mrpInit mrp (random port) else .cleared mrp
  requests := []
  vlanTable := []
  fault := false

end MvrpCtx

inductive IpcMessage where
  | vlanRegister (correctLength : Bool) (port : Nat) (vlanId : VlanId)
  | vlanDeregister (correctLength : Bool) (port : Nat) (vlanId : VlanId)
  | unknown

inductive IpcResponse where
  | vlanResponse (port : Nat) (vlanId : VlanId) (status : Status)
  | errorResponse (status : Status)
  deriving DecidableEq

def mvrpIpcRx (message : IpcMessage) (resources : Resources) (ctx : MvrpCtx) : MvrpCtx × IpcResponse :=
  match message with
  | .vlanRegister correctLength port vlanId =>
    if !correctLength then (ctx,.errorResponse .ERR_CTRL_LEN)
    else
      let (ctx,status) := ctx.mvrpRegisterVlanMember port vlanId resources
      (ctx,.vlanResponse port vlanId status)
  | .vlanDeregister correctLength port vlanId =>
    if !correctLength then (ctx,.errorResponse .ERR_CTRL_LEN)
    else
      let (ctx,status) := ctx.mvrpDeregisterVlanMember port vlanId resources
      (ctx,.vlanResponse port vlanId status)
  | .unknown => (ctx,.errorResponse .ERR_CTRL_INVALID)

/-- The inputs of the context. An indication may also come by itself, in any order. -/
inductive MvrpInput where
  | ipc (message : IpcMessage) (resources : Resources)
  | packet (port : Nat) (memory : Memory) (length : Nat) (meets : MvrpCtx.PacketResources)
  | mrp (port : Nat) (trigger : MrpTrigger VlanId) (resources : Resources)
  | joinIndication (port : Nat) (vlanId : VlanId) (new : Bool) (resources : Resources)
  | leaveIndication (port : Nat) (vlanId : VlanId) (resources : Resources)
  | portStatus (logicalPort : Nat) (operational : Bool) (alloc : VlanId → Nat → AllocOutcome)
  | exit

/-- Ports beyond `port_max` do not exist. -/
def mvrpStep (input : MvrpInput) (ctx : MvrpCtx) : MvrpCtx :=
  match input with
  | .ipc message resources => (mvrpIpcRx message resources ctx).1
  | .packet port memory length meets => ctx.mvrpProcessPacket port memory length meets
  | .mrp port trigger resources =>
    if port < ctx.config.portMax then (MvrpCtx.client resources port).trigger trigger ctx else ctx
  | .joinIndication port vlanId new resources =>
    if port < ctx.config.portMax then ctx.mvrpJoinIndication port vlanId new resources else ctx
  | .leaveIndication port vlanId resources =>
    if port < ctx.config.portMax then ctx.mvrpLeaveIndication port vlanId resources else ctx
  | .portStatus logicalPort operational alloc => ctx.mvrpPortStatus logicalPort operational alloc
  | .exit => ctx.mvrpExit

end Genavb.Mvrp
