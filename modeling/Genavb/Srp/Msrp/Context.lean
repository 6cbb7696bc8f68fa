import Genavb.Srp.Msrp.State

/-! The MAP of MSRP (`msrp_map.c`): declarations of a stream on every port, from its
registrations and the user's declarations. -/
namespace Genavb.Msrp
open Support Mrp Common MsrpStream

def mapTalkerDeclarationType (portMax : Nat) (stream : MsrpStream) : TalkerDeclarationType × FailureCode :=
  let ports := (List.range portMax).filter fun port => stream.isRegistered .TALKER port
  if ports.length ≥ 2 then (.FAILED,STREAM_ID_ALREADY_IN_USE)
  else if stream.srClass = SR_CLASS_NONE then (.FAILED,REQUESTED_PRIORITY_IS_NOT_AN_SR_CLASS_PRIORITY)
  else
    match ports.getLast? with
    | none => (.ADVERTISE,0)
    | some port => ((stream.port port).talkerDeclarationType,0)

def mergeListeners (stream : MsrpStream) (own : Nat) : List Nat → ListenerDeclarationType → ListenerDeclarationType
  | [],merged => merged
  | port :: rest,merged =>
    if port = own then mergeListeners stream own rest merged
    else if !stream.isRegistered .LISTENER port then mergeListeners stream own rest merged
    else
      let registered := (stream.port port).listenerDeclarationType
      match merged with
      | .NONE => mergeListeners stream own rest registered
      | .READY_FAILED => .READY_FAILED
      | .ASKING_FAILED =>
        if registered = .READY ∨ registered = .READY_FAILED then .READY_FAILED
        else mergeListeners stream own rest .ASKING_FAILED
      | .READY =>
        if registered = .READY_FAILED ∨ registered = .ASKING_FAILED then .READY_FAILED
        else mergeListeners stream own rest .READY

def mapListenerRegistrationMerge (portMax : Nat) (stream : MsrpStream) (port : Nat) : ListenerDeclarationType :=
  mergeListeners stream port (List.range portMax) (if stream.isUserDeclaredAny .LISTENER then .READY else .NONE)

namespace Work

def faulted (fault : Fault) (work : Work) : Work := work.modifyCtx (MsrpCtx.faulted fault)

/-- `msrp_fdb_update`; the answer tells whether the port has the wanted state afterwards. -/
def msrpFdbUpdate (port : Nat) (fv : TalkerAdvertise) (forward : Bool) (work : Work) : Work × Bool :=
  let ctx := work.ctx
  if maskHas work.stream.fdbState port = forward then (work,true)
  else
    let called := {ctx.tick with fdb := ctx.fdb ++
      [.update (ctx.config.logicalPort port) fv.destinationAddress fv.vlanIdentifier forward]}
    if !ctx.answer.fdb then ({work with ctx := called},false)
    else
      let fdbState := if forward then maskSet work.stream.fdbState port else maskClear work.stream.fdbState port
      (⟨{work.stream with fdbState := fdbState},called⟩,true)

def idleSlope (fv : TalkerAdvertise) (work : Work) : Nat :=
  srpTspecToIdleSlope ((srClassInterval work.stream.srClass).getD work.ctx.answer.interval)
    fv.maxFrameSize.toNat fv.maxIntervalFrames.toNat

def msrpUpdateFqtss (port : Nat) (fv : TalkerAdvertise) (add : Bool) (work : Work) : Work × Bool :=
  let ctx := work.ctx
  if maskHas work.stream.fqtssState port = add then (work,true)
  else
    let logicalPort := ctx.config.logicalPort port
    let trafficClass := ctx.config.trafficClass logicalPort fv.priority
    let idleSlope := work.idleSlope fv
    let result :=
      if logicalPort ≥ CFG_MAX_LOGICAL_PORTS then none
      else if add then (ctx.fqtss logicalPort).streamAdd trafficClass idleSlope ctx.answer.fqtss
      else (ctx.fqtss logicalPort).streamRemove trafficClass idleSlope ctx.answer.fqtss
    match result with
    | none => ({work with ctx := ctx.tick},false)
    | some params =>
      let fqtssState := if add then maskSet work.stream.fqtssState port else maskClear work.stream.fqtssState port
      let stream := {work.stream with fqtssState := fqtssState}
      let stream :=
        if add then stream.modifyPort port fun item => {item with reserved := (trafficClass,idleSlope)} else stream
      (⟨stream,{ctx.tick with fqtss := Function.update ctx.fqtss logicalPort params}⟩,true)

def msrpRegisterVlan (port : Nat) (work : Work) : Work :=
  if work.stream.vlanDeclared then work
  else
    let ctx := work.ctx
    let (mvrp,status) := ctx.mvrp.mvrpRegisterVlanMember (ctx.config.logicalPort port)
      work.stream.fv.advertise.vlanIdentifier ctx.answer.mvrp
    ⟨{work.stream with vlanDeclared := status == .SUCCESS},{ctx.tick with mvrp := mvrp}⟩

def msrpDeregisterVlan (port : Nat) (work : Work) : Work :=
  if !work.stream.vlanDeclared then work
  else
    let ctx := work.ctx
    let (mvrp,status) := ctx.mvrp.mvrpDeregisterVlanMember (ctx.config.logicalPort port)
      work.stream.fv.advertise.vlanIdentifier ctx.answer.mvrp
    ⟨{work.stream with vlanDeclared := status != .SUCCESS},{ctx.tick with mvrp := mvrp}⟩

/-- `msrp_ipc_talker_declaration_status` and `msrp_ipc_listener_declaration_status`. -/
def declarationStatus (direction : Direction) (port : Nat) (work : Work) : Work :=
  let logicalPort := work.ctx.config.logicalPort port
  let value :=
    if work.stream.isDeclared direction port then (work.declared direction port).map (·.2) else none
  work.modifyCtx (MsrpCtx.send (match direction with
    | .TALKER => .talkerDeclarationStatus logicalPort work.stream.streamId value
    | .LISTENER => .listenerDeclarationStatus logicalPort work.stream.streamId value))

def removeDeclaration (direction : Direction) (port : Nat) (value : AttributeValue) (work : Work) : Work :=
  let work := work.modifyCtx (MsrpCtx.leaveRequest port value)
  let work := work.modifyStream (setDeclared direction port false)
  work.declarationStatus direction port

/-- The declaration an update replaces, and whether the new one has to be immediate. -/
def withdrawDeclaration (direction : Direction) (port : Nat) (id : AttrId) (value : AttributeValue) (work : Work) :
    Work × Bool :=
  if work.ctx.config.sendLeaveOnDeclarationUpdate then
    let work := work.modifyCtx (MsrpCtx.leaveRequest port value)
    (work.modifyStream (setDeclared direction port false),false)
  else
    let listed := decide (id ∈ (work.stream.port port).registeredAttributes direction)
    let work := work.modifyCtx (MsrpCtx.modifyApp port (mrpProcessAttributeFreeImmediate id))
    let work := if listed then work.faulted (.registeredAttribute port) else work
    (work.modifyStream (setDeclared direction port false),true)

def joinDeclaration (direction : Direction) (port : Nat) (value : AttributeValue) (new immediate : Bool)
    (work : Work) : Work :=
  let (ctx,attr) :=
    if immediate then work.ctx.joinImmediate port value else work.ctx.joinRequest port value new
  let work : Work := ⟨work.stream.setDeclaredAttribute direction port attr,ctx⟩
  if attr.isSome then work.modifyStream (setDeclared direction port true) else work

/-- What both directions do with the declaration they have determined: withdraw another one,
declare this one, and tell the result. -/
def updateDeclaration (direction : Direction) (port : Nat) (value : AttributeValue) (changed : AttributeValue → Bool)
    (new : Bool) (work : Work) : Work :=
  let replace : Option (Work × Bool) :=
    if work.stream.isDeclared direction port then
      match work.declared direction port with
      | none => some (work.faulted (.releasedAttribute port),false)
      | some (id,previous) => if changed previous then some (work.withdrawDeclaration direction port id previous) else none
    else none
  match replace with
  | some (work,immediate) =>
    let work :=
      if work.stream.isDeclared direction port then work
      else work.joinDeclaration direction port value new immediate
    work.declarationStatus direction port
  | none =>
    if work.stream.isDeclared direction port then work
    else
      let work := work.joinDeclaration direction port value new false
      if work.stream.isDeclared direction port then work.declarationStatus direction port else work

def releaseReservation (port : Nat) (work : Work) : Work :=
  if !work.stream.isDeclared .TALKER port then work
  else
    match (work.declared .TALKER port).bind fun item => item.2.talker with
    | none => work.faulted (.releasedAttribute port)
    | some fv =>
      let work := if work.ctx.config.isBridge then (work.msrpFdbUpdate port fv false).1 else work
      (work.msrpUpdateFqtss port fv false).1

def talkerRemoveDeclaration (port : Nat) (work : Work) : Work :=
  match work.declared .TALKER port with
  | none => work.faulted (.releasedAttribute port)
  | some (_,value) => (work.releaseReservation port).removeDeclaration .TALKER port value

/-- The part of `talker_update_declaration` from the label `start` on that reserves bandwidth and
FDB entry; a refusal makes the declaration a failed one. -/
def talkerReserve (port : Nat) (type : TalkerDeclarationType) (code : FailureCode) (work : Work) :
    Work × TalkerDeclarationType × FailureCode :=
  if type = .ADVERTISE ∧ work.stream.isRegistered .LISTENER port = true ∧
      (work.stream.port port).listenerDeclarationType ≠ .ASKING_FAILED then
    match work.msrpUpdateFqtss port work.stream.fv.advertise true with
    | (work,false) => (work.releaseReservation port,.FAILED,INSUFFICIENT_BANDWIDTH_FOR_TRAFFIC_CLASS)
    | (work,true) =>
      if work.ctx.config.isBridge then
        match work.msrpFdbUpdate port work.stream.fv.advertise true with
        | (work,false) => (work.releaseReservation port,.FAILED,code)
        | (work,true) => (work,type,code)
      else (work,type,code)
  else (work.releaseReservation port,type,code)

def talkerValue (type : TalkerDeclarationType) (code : FailureCode) (fv : TalkerFailed) : AttributeValue :=
  if type = .ADVERTISE then .talkerAdvertise fv.advertise
  else if type = .FAILED ∧ code ≠ 0 then
    .talkerFailed {fv with failureInfo := {fv.failureInfo with failureCode := code}}
  else .talkerFailed fv

def talkerUpdateDeclaration (port : Nat) (type : TalkerDeclarationType) (code : FailureCode) (new : Bool)
    (work : Work) : Work :=
  let fv := work.stream.fv
  let (type,code) :=
    if type = .ADVERTISE ∧ (work.ctx.port port).srpDomainBoundaryPort work.stream.srClass = true then
      (TalkerDeclarationType.FAILED,EGRESS_PORT_IS_NOT_AVB_CAPABLE)
    else (type,code)
  let (work,type,code) := work.talkerReserve port type code
  let value := talkerValue type code fv
  work.updateDeclaration .TALKER port value (fun previous => previous != value) new

def listenerRemoveDeclaration (port : Nat) (work : Work) : Work :=
  match work.declared .LISTENER port with
  | none => work.faulted (.releasedAttribute port)
  | some (_,value) =>
    let work := if !work.ctx.config.isBridge then work.msrpDeregisterVlan port else work
    work.removeDeclaration .LISTENER port value

def listenerType (stream : MsrpStream) (port : Nat) (merged : ListenerDeclarationType) : ListenerDeclarationType :=
  if !stream.isRegistered .TALKER port || (stream.port port).talkerDeclarationType != .ADVERTISE then .ASKING_FAILED
  else merged

def listenerUpdateDeclaration (port : Nat) (merged : ListenerDeclarationType) (new : Bool) (work : Work) : Work :=
  let type := listenerType work.stream port merged
  let work :=
    if work.ctx.config.isBridge then work
    else if type = .ASKING_FAILED then work.msrpDeregisterVlan port
    else work.msrpRegisterVlan port
  work.updateDeclaration .LISTENER port (.listener work.stream.streamId type)
    (fun previous => previous.listenerType != type) new

def removeIfDeclared (direction : Direction) (port : Nat) (work : Work) : Work :=
  if work.stream.isDeclared direction port then
    match direction with
    | .TALKER => work.talkerRemoveDeclaration port
    | .LISTENER => work.listenerRemoveDeclaration port
  else work

def talkerMapPort (type : TalkerDeclarationType) (code : FailureCode) (new : Bool) (work : Work) (port : Nat) : Work :=
  if !work.stream.isRegistered .TALKER port && work.ctx.map.isForwarding port then
    work.talkerUpdateDeclaration port type code new
  else work.removeIfDeclared .TALKER port

def msrpMapUpdateTalkerStream (new : Bool) (work : Work) : Work :=
  let ports := List.range work.ctx.config.portMax
  if !work.stream.isRegisteredAnyForwarding work.ctx.map .TALKER && !work.stream.isUserDeclaredAny .TALKER then
    ports.foldl (fun work port => work.removeIfDeclared .TALKER port) work
  else
    let (type,code) := mapTalkerDeclarationType work.ctx.config.portMax work.stream
    ports.foldl (talkerMapPort type code new) work

def listenerMapPort (new : Bool) (work : Work) (port : Nat) : Work :=
  if ((work.stream.isRegistered .TALKER port && work.stream.isRegisteredOther .LISTENER port) ||
      work.stream.isUserDeclared .LISTENER port) && work.ctx.map.isForwarding port then
    work.listenerUpdateDeclaration port (mapListenerRegistrationMerge work.ctx.config.portMax work.stream port) new
  else work.removeIfDeclared .LISTENER port

def msrpMapUpdateListenerStream (new : Bool) (work : Work) : Work :=
  let ports := List.range work.ctx.config.portMax
  if !work.stream.isRegisteredAnyForwarding work.ctx.map .LISTENER && !work.stream.isUserDeclaredAny .LISTENER then
    ports.foldl (fun work port => work.removeIfDeclared .LISTENER port) work
  else ports.foldl (listenerMapPort new) work

def isUnused (stream : MsrpStream) : Bool :=
  !stream.isRegisteredAny .LISTENER && !stream.isDeclaredAny .LISTENER && !stream.isRegisteredAny .TALKER &&
    !stream.isDeclaredAny .TALKER && !stream.isUserDeclaredAny .LISTENER && !stream.isUserDeclaredAny .TALKER

end Work

def msrpMapUpdateStream (new : Bool) (stream : MsrpStream) (ctx : MsrpCtx) : MsrpCtx :=
  let work := ((⟨stream,ctx⟩ : Work).msrpMapUpdateTalkerStream new).msrpMapUpdateListenerStream new
  let ctx := work.ctx.store work.stream
  if Work.isUnused work.stream then ctx.msrpStreamFree work.stream else ctx

def msrpMapUpdateEntry (ctx : MsrpCtx) (streamId : StreamId) : MsrpCtx :=
  match ctx.msrpFindStream streamId with
  | none => ctx.faulted (.releasedStream streamId)
  | some stream => msrpMapUpdateStream false stream ctx

/-- `msrp_map_update`: the next entry is read before an entry is updated. -/
def msrpMapUpdate (ctx : MsrpCtx) : MsrpCtx :=
  (ctx.map.streams.map streamId).foldl msrpMapUpdateEntry ctx

end Genavb.Msrp

/-! The MSRP context of `msrp.c`: stream objects, domains, merging of registrations and the
indications of the MRP applications. -/
namespace Genavb.Msrp
open Mrp Common

namespace MsrpCtx

def msrpFindDomain (port : Nat) (fv : DomainValue) (ctx : MsrpCtx) : Option MsrpDomain :=
  (ctx.port port).domains.find? fun domain => domain.fv == fv

def msrpCreateDomain (port : Nat) (fv : DomainValue) (ctx : MsrpCtx) : MsrpCtx × Bool :=
  if (ctx.msrpFindDomain port fv).isSome then (ctx,true)
  else if ¬ (ctx.port port).numDomains < CFG_MSRP_MAX_DOMAINS then (ctx,false)
  else if !ctx.answer.memory then (ctx.tick,false)
  else
    (ctx.tick.modifyPort port fun item =>
      {item with domains := ⟨fv,false⟩ :: item.domains, numDomains := item.numDomains + 1},true)

def msrpDeclareDomain (port : Nat) (fv : DomainValue) (ctx : MsrpCtx) : MsrpCtx × Option DomainValue :=
  match ctx.msrpCreateDomain port fv with
  | (ctx,false) => (ctx,none)
  | (ctx,true) => ((ctx.joinRequest port (.domain fv) true).1,some fv)

def setDomainRegistered (port : Nat) (fv : DomainValue) (registered : Bool) (ctx : MsrpCtx) : MsrpCtx :=
  ctx.modifyPort port fun item =>
    {item with domains := item.domains.map fun domain =>
      if domain.fv = fv then {domain with registered := registered} else domain}

def registeredDomains (port srClass : Nat) (ctx : MsrpCtx) : List DomainValue :=
  ((ctx.port port).domains.filter fun domain =>
    domain.registered && domain.fv.srClassId.toNat == ctx.config.srClass.srClassId srClass).map (·.fv)

/-- One class of the loop in `msrp_domain_update_boundary_port`; the mismatching VLAN is the last
one of the list. The answer tells whether the flag of the class changed. -/
def updateBoundaryClass (port srClass : Nat) (ctx : MsrpCtx) : MsrpCtx × Bool :=
  let registered := ctx.registeredDomains port srClass
  let pcp := ctx.config.srClass.srClassPcp srClass
  let (ctx,boundary) :=
    match (ctx.port port).domain srClass with
    | none => (ctx,!registered.isEmpty)
    | some fv =>
      let boundary := registered.isEmpty || registered.any fun other => other.srClassPriority.toNat != pcp
      let mismatching := registered.filter fun (other : DomainValue) =>
        other.srClassPriority.toNat == pcp && other.srClassVid != fv.srClassVid
      match mismatching.getLast? with
      | none => (ctx,boundary)
      | some other =>
        let ctx := ctx.leaveRequest port (.domain fv)
        let (ctx,domain) := ctx.msrpDeclareDomain port
          ⟨UInt8.ofNat (ctx.config.srClass.srClassId srClass),UInt8.ofNat pcp,other.srClassVid⟩
        (ctx.modifyPort port fun item => {item with domain := Function.update item.domain srClass domain},boundary)
  if (ctx.port port).srpDomainBoundaryPort srClass = boundary then (ctx,false)
  else
    (ctx.modifyPort port fun item =>
      {item with srpDomainBoundaryPort := Function.update item.srpDomainBoundaryPort srClass boundary},true)

def enabledClasses (ctx : MsrpCtx) : List Nat :=
  (List.range CFG_MSRP_MAX_CLASSES).filter fun srClass =>
    ctx.config.srClass.srClassEnabled srClass && srClass != SR_CLASS_NONE

def msrpDomainUpdateBoundaryPort (port : Nat) (ctx : MsrpCtx) : MsrpCtx :=
  let (ctx,update) := ctx.enabledClasses.foldl (fun state srClass =>
    let (ctx,changed) := state.1.updateBoundaryClass port srClass
    (ctx,state.2 || changed)) (ctx,false)
  if update then msrpMapUpdate ctx else ctx

def msrpDomainJoinIndication (port : Nat) (fv : DomainValue) (ctx : MsrpCtx) : MsrpCtx :=
  match ctx.msrpCreateDomain port fv with
  | (ctx,false) => ctx
  | (ctx,true) => (ctx.setDomainRegistered port fv true).msrpDomainUpdateBoundaryPort port

def msrpDomainLeaveIndication (port : Nat) (fv : DomainValue) (ctx : MsrpCtx) : MsrpCtx :=
  match ctx.msrpFindDomain port fv with
  | none => ctx
  | some _ => (ctx.setDomainRegistered port fv false).msrpDomainUpdateBoundaryPort port

end MsrpCtx

namespace Work

/-- The attributes on a list of the stream; a released block in the list is a fault. -/
def registered (direction : Direction) (port : Nat) (work : Work) : List (AttrId × Option AttributeValue) :=
  ((work.stream.port port).registeredAttributes direction).map fun id =>
    (id,((work.ctx.app port).heap id).map (·.val))

/-- `msrp_stream_get_registered_attribute`, for the attributes with the property `wanted`. -/
def hasRegistered (direction : Direction) (port : Nat) (wanted : AttributeValue → Bool) (work : Work) : Bool :=
  (work.registered direction port).any fun entry =>
    match entry.2 with
    | none => false
    | some value => wanted value

def readsReleased (direction : Direction) (port : Nat) (work : Work) : Bool :=
  (work.registered direction port).any fun entry => entry.2.isNone

def msrpIpcTalkerStatus (port : Nat) (work : Work) : Work :=
  if !work.ctx.config.isBridge && !work.stream.isUserDeclared .TALKER port then work
  else
    let status : TalkerStatus :=
      if work.stream.isRegistered .LISTENER port then
        match (work.stream.port port).listenerDeclarationType with
        | .READY => .ACTIVE_LISTENER
        | .READY_FAILED => .ACTIVE_AND_FAILED_LISTENERS
        | _ => .FAILED_LISTENER
      else .NO_LISTENER
    work.modifyCtx (MsrpCtx.send (.talkerStatus (work.ctx.config.logicalPort port) work.stream.streamId status))

/-- `msrp_ipc_listener_status`; the parameters count when there is a talker, the failure when it
has failed. -/
def msrpIpcListenerStatus (port : Nat) (work : Work) : Work :=
  if !work.ctx.config.isBridge && !work.stream.isUserDeclared .LISTENER port then work
  else
    let status : ListenerStatus :=
      if work.stream.isRegistered .TALKER port then
        if (work.stream.port port).talkerDeclarationType = .ADVERTISE then .ACTIVE else .FAILED
      else .NO_TALKER
    let streamClass := work.ctx.config.srClass.srPcpClass work.stream.fv.advertise.priority.toNat
    work.modifyCtx (MsrpCtx.send
      (.listenerStatus (work.ctx.config.logicalPort port) work.stream.streamId status streamClass work.stream.fv))

def mergedListenerType (port : Nat) (work : Work) : ListenerDeclarationType :=
  let has (type : ListenerDeclarationType) : Bool :=
    work.hasRegistered .LISTENER port fun value => value.listenerType == type
  if has .READY_FAILED then .READY_FAILED
  else if has .ASKING_FAILED then (if has .READY then .READY_FAILED else .ASKING_FAILED)
  else if has .READY then .READY
  else .NONE

def msrpListenerRegistrationMerge (port : Nat) (work : Work) : Work :=
  let work := if work.readsReleased .LISTENER port then work.faulted (.releasedAttribute port) else work
  let type := work.mergedListenerType port
  let setType : MsrpStream → MsrpStream := fun stream =>
    stream.modifyPort port fun item => {item with listenerDeclarationType := type}
  if type = .NONE then
    let work := work.modifyStream fun stream => setType (stream.setRegistered .LISTENER port false)
    work.msrpIpcTalkerStatus port
  else if type ≠ (work.stream.port port).listenerDeclarationType then
    (work.modifyStream setType).msrpIpcTalkerStatus port
  else work

def mergedTalkerType (port : Nat) (work : Work) : TalkerDeclarationType :=
  if work.hasRegistered .TALKER port fun value => value.type == 2 then .FAILED
  else if work.hasRegistered .TALKER port fun value => value.type == 1 then .ADVERTISE
  else .NONE

/-- `msrp_talker_registration_merge`; `joined` is the value of the newly registered attribute. -/
def msrpTalkerRegistrationMerge (port : Nat) (joined : Option AttributeValue) (work : Work) : Work :=
  let work := if work.readsReleased .TALKER port then work.faulted (.releasedAttribute port) else work
  let type := work.mergedTalkerType port
  let work :=
    match type,joined with
    | .FAILED,some (.talkerFailed value) =>
      work.modifyStream fun stream => {stream with fv := {stream.fv with failureInfo := value.failureInfo}}
    | _,_ => work
  let setType : MsrpStream → MsrpStream := fun stream =>
    stream.modifyPort port fun item => {item with talkerDeclarationType := type}
  if type = .NONE then
    let work := work.modifyStream fun stream => setType (stream.setRegistered .TALKER port false)
    work.msrpIpcListenerStatus port
  else if type ≠ (work.stream.port port).talkerDeclarationType then
    (work.modifyStream setType).msrpIpcListenerStatus port
  else work

end Work

end Genavb.Msrp
