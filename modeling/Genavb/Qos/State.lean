import Genavb.Common.Fqtss

/-! The software shaper of `net_tx.c`: streams, SR classes and ports, and the requests that change reservations.
Pending packets, credits and the scheduling of classes are left out. -/
namespace Genavb.Qos
open Common

def CFG_SR_CLASS_MAX : Nat := 2
def CFG_SR_CLASS_STREAM_MAX : Nat := 16
def CFG_SR_CLASS_HIGH_STREAM_MAX : Nat := 8
def CFG_SR_CLASS_LOW_STREAM_MAX : Nat := 8
def CFG_TRAFFIC_CLASS_QUEUE_MAX : Nat := 16
def QOS_BEST_EFFORT_PRIORITY : Nat := 0

structure Shaper where
  rate : BitVec 32
  creditMin : BitVec 32
  deriving DecidableEq

def shaperInit (rate : BitVec 32) : Shaper := ⟨rate,-rate⟩

def Shaper.add (rate : BitVec 32) (shaper : Shaper) : Shaper := ⟨shaper.rate + rate,shaper.creditMin - rate⟩

def shaperSet (rate : BitVec 32) : Shaper := ⟨rate,-rate⟩

structure VlanLabel where
  vid : BitVec 12
  pcp : BitVec 3
  deriving DecidableEq

abbrev StreamId := BitVec 64

structure QosQueue where
  connected : Bool
  enabled : Bool
  stream : Option Nat
  socket : Option VlanLabel
  deriving DecidableEq

structure StreamQueue where
  shaper : Shaper
  idleSlope : BitVec 32
  qosQueue : Option Nat
  vlanLabel : VlanLabel
  id : StreamId
  connected : Bool
  configured : Bool
  deriving DecidableEq

structure SrClass where
  shaper : Shaper
  srClass : Nat
  streamMax : Nat
  streams : Nat
  idleSlope : BitVec 32
  stream : Nat → StreamQueue
  qosQueue : Nat → QosQueue

/-- `enabled` and `rate` are those of the Ethernet port. -/
structure PortQos where
  enabled : Bool
  rate : BitVec 32
  streams : Nat
  usedRate : BitVec 32
  maxRate : BitVec 32
  srClass : Nat → SrClass

/-- A queue of an SR class, or of another traffic class. -/
inductive TxQueue where
  | sr (c q : Nat)
  | plain (t q : Nat)
  deriving DecidableEq

structure TxStream where
  streamId : StreamId
  queue : TxQueue
  deriving DecidableEq

/-- `logicalPort` leads from a logical port to the physical one, and `handler` lists its stream sockets. Of the traffic
classes that are no SR classes `plain` has the connected queues of a port. -/
structure NetQos where
  config : SrClassConfig
  logicalPort : Nat → Option Nat
  bridge : Nat → Bool
  port : Nat → PortQos
  plain : Nat → List (Nat × Nat)
  handler : Nat → List TxStream

inductive Errno where
  | EINVAL | ENOMEM | EBUSY
  deriving DecidableEq

structure NetSrConfig where
  port : Nat
  vlanId : BitVec 16
  priority : Nat
  idleSlope : BitVec 32
  streamId : StreamId

def priorityToTclass (priority : Nat) : Option Nat := [0,0,2,3,1,1,1,1][priority]?

def srPrioPcp (prio : Nat) : Nat := if prio = 0 then SR_CLASS_HIGH_PCP else SR_CLASS_LOW_PCP

def srPrioClass (config : SrClassConfig) (prio : Nat) : Nat := if prio = 0 then config.high else config.low

def tclassSrClass (tclass : Nat) : Option Nat :=
  (List.range CFG_SR_CLASS_MAX).find? fun prio => priorityToTclass (srPrioPcp prio) == some tclass

def prioritySrClass (priority : Nat) : Option Nat := (priorityToTclass priority).bind tclassSrClass

namespace StreamQueue

def used (stream : StreamQueue) : Bool := stream.connected || stream.configured

end StreamQueue

namespace SrClass

def modifyStream (i : Nat) (f : StreamQueue → StreamQueue) (sr : SrClass) : SrClass :=
  {sr with stream := Function.update sr.stream i (f (sr.stream i))}

def modifyQueue (q : Nat) (f : QosQueue → QosQueue) (sr : SrClass) : SrClass :=
  {sr with qosQueue := Function.update sr.qosQueue q (f (sr.qosQueue q))}

def enableQueue (i : Nat) (enabled : Bool) (sr : SrClass) : SrClass :=
  match (sr.stream i).qosQueue with
  | none => sr
  | some q => if (sr.stream i).connected then sr.modifyQueue q fun queue => {queue with enabled := enabled} else sr

def streamGet (streamId : StreamId) (sr : SrClass) : SrClass × Option Nat :=
  match (List.range sr.streamMax).find? fun i => (sr.stream i).used && (sr.stream i).id == streamId with
  | some i => (sr,some i)
  | none =>
    match (List.range sr.streamMax).find? fun i => !(sr.stream i).used with
    | some i => (sr.modifyStream i fun stream => {stream with id := streamId},some i)
    | none => (sr,none)

def queueConnect (socket : VlanLabel) (sr : SrClass) : SrClass × Option Nat :=
  match (List.range CFG_TRAFFIC_CLASS_QUEUE_MAX).find? fun q => !(sr.qosQueue q).connected with
  | none => (sr,none)
  | some q => (sr.modifyQueue q fun queue =>
      {queue with connected := true, enabled := true, socket := some socket},some q)

def scaleIdleSlope (idleSlope : BitVec 32) (sr : SrClass) : BitVec 32 :=
  let interval := (srClassInterval sr.srClass).getD (0,1)
  BitVec.ofNat 32 (idleSlope.toNat * interval.1 / (1000000000 * interval.2))

end SrClass

namespace PortQos

def setClass (c : Nat) (sr : SrClass) (port : PortQos) : PortQos :=
  {port with srClass := Function.update port.srClass c sr}

def netQosStreamGet (c : Nat) (streamId : StreamId) (port : PortQos) : PortQos × Option Nat :=
  let (sr,stream) := (port.srClass c).streamGet streamId
  (port.setClass c sr,stream)

/-- `net_qos_stream_connect` for a socket with the VLAN label `socket`. -/
def netQosStreamConnect (config : SrClassConfig) (srClass : Nat) (streamId : StreamId) (socket : VlanLabel)
    (port : PortQos) : PortQos × Option (Nat × Nat) :=
  if !config.srClassEnabled srClass then (port,none)
  else
    match prioritySrClass (config.srClassPcp srClass) with
    | none => (port,none)
    | some c =>
      match port.netQosStreamGet c streamId with
      | (port,none) => (port,none)
      | (port,some i) =>
        if ((port.srClass c).stream i).connected then (port,none)
        else
          match (port.srClass c).queueConnect socket with
          | (sr,none) => (port.setClass c (sr.modifyStream i fun stream => {stream with qosQueue := none}),none)
          | (sr,some q) =>
            let sr := if (sr.stream i).configured then sr else sr.modifyQueue q fun queue => {queue with enabled := false}
            let sr := sr.modifyStream i fun stream => {stream with qosQueue := some q, connected := true}
            (port.setClass c (sr.modifyQueue q fun queue => {queue with stream := some i}),some (c,q))

/-- The part of `avtp_socket_connect` that is about a port. -/
def streamConnect (config : SrClassConfig) (srClass : Nat) (streamId : StreamId) (socket : VlanLabel)
    (port : PortQos) : PortQos × Option (Nat × Nat) :=
  match port.netQosStreamConnect config srClass streamId socket with
  | (port,none) => (port,none)
  | (port,some (c,q)) =>
    let label := (((port.srClass c).qosQueue q).stream).map fun i => ((port.srClass c).stream i).vlanLabel
    (port.setClass c ((port.srClass c).modifyQueue q fun queue => {queue with socket := label}),some (c,q))

def netQosStreamDisconnect (c q : Nat) (port : PortQos) : PortQos :=
  let sr := port.srClass c
  match (sr.qosQueue q).stream with
  | none => port
  | some i =>
    let sr := sr.modifyQueue q fun queue => {queue with connected := false, stream := none, socket := none}
    port.setClass c (sr.modifyStream i fun stream => {stream with qosQueue := none, connected := false})

def releaseStream (c i : Nat) (port : PortQos) : PortQos :=
  let sr := port.srClass c
  let stream := sr.stream i
  {port.setClass c {sr with
      shaper := sr.shaper.add (-stream.shaper.rate)
      idleSlope := sr.idleSlope - stream.idleSlope
      streams := sr.streams - 1} with
    usedRate := port.usedRate - stream.idleSlope
    streams := port.streams - 1}

def reserveStream (c i : Nat) (idleSlope : BitVec 32) (port : PortQos) : PortQos :=
  let sr := port.srClass c
  let rate := sr.scaleIdleSlope idleSlope
  let sr := sr.modifyStream i fun stream =>
    {stream with configured := true, shaper := shaperSet rate, idleSlope := idleSlope}
  let sr := {sr with
    shaper := sr.shaper.add rate
    idleSlope := sr.idleSlope + idleSlope
    streams := sr.streams + 1}
  {port.setClass c (sr.enableQueue i true) with
    usedRate := port.usedRate + idleSlope
    streams := port.streams + 1}

def clearStream (c i : Nat) (port : PortQos) : PortQos :=
  let sr := (port.srClass c).modifyStream i fun stream =>
    {stream with configured := false, idleSlope := 0, shaper := shaperSet 0}
  port.setClass c (sr.enableQueue i false)

def netQosStreamConfigure (c i : Nat) (idleSlope : BitVec 32) (port : PortQos) : PortQos × Option Errno :=
  let stream := (port.srClass c).stream i
  if port.usedRate + idleSlope - stream.idleSlope > port.maxRate then (port,some .EBUSY)
  else
    let port := if stream.configured then port.releaseStream c i else port
    (if idleSlope ≠ 0 then port.reserveStream c i idleSlope else port.clearStream c i,none)

def labelStream (c i : Nat) (label : VlanLabel) (port : PortQos) : PortQos :=
  let sr := (port.srClass c).modifyStream i fun stream => {stream with vlanLabel := label}
  match (sr.stream i).connected,(sr.stream i).qosQueue with
  | true,some q => port.setClass c (sr.modifyQueue q fun queue => {queue with socket := some label})
  | _,_ => port.setClass c sr

def resetStream (c : Nat) (port : PortQos) (i : Nat) : PortQos :=
  let stream := (port.srClass c).stream i
  if stream.configured then
    ((port.setClass c ((port.srClass c).modifyStream i fun stream =>
      {stream with configured := false, idleSlope := 0})).netQosStreamConfigure c i stream.idleSlope).1
  else port

def resetClass (port : PortQos) (c : Nat) : PortQos :=
  let port := port.setClass c {port.srClass c with shaper := shaperInit 0, streams := 0, idleSlope := 0}
  (List.range (port.srClass c).streamMax).foldl (resetStream c) port

def netQosPortReset (portRateBps : BitVec 32) (port : PortQos) : PortQos :=
  (List.range CFG_SR_CLASS_MAX).foldl resetClass {port with
    maxRate := BitVec.ofInt 32 (portRateBps.toInt.tdiv 100 * 75)
    streams := 0
    usedRate := 0}

def ethAvbOpen (phySpeed : Nat) (port : PortQos) : PortQos :=
  if port.enabled then port
  else
    let rate := BitVec.ofNat 32 (phySpeed * 1000000)
    {{port with rate := rate}.netQosPortReset rate with enabled := true}

def ethAvbClose (port : PortQos) : PortQos := {port with enabled := false}

end PortQos

def srClassConfig (first second : Nat) : Option SrClassConfig :=
  if valid : first < SR_CLASS_MAX ∧ second < SR_CLASS_MAX ∧ first ≠ second then
    some ⟨min first second,max first second,by omega⟩
  else none

def netQosSrClassInit (config : SrClassConfig) (prio : Nat) (sr : SrClass) : SrClass :=
  {sr with
    srClass := srPrioClass config prio
    streamMax := min (if prio = 0 then CFG_SR_CLASS_HIGH_STREAM_MAX else CFG_SR_CLASS_LOW_STREAM_MAX)
      CFG_SR_CLASS_STREAM_MAX
    streams := 0}

namespace NetQos

def modifyPort (p : Nat) (f : PortQos → PortQos) (net : NetQos) : NetQos :=
  {net with port := Function.update net.port p (f (net.port p))}

def netQosSrConfig (request : NetSrConfig) (net : NetQos) : NetQos × Option Errno :=
  match net.logicalPort request.port with
  | none => (net,some .EINVAL)
  | some p =>
    match prioritySrClass request.priority with
    | none => (net,some .EINVAL)
    | some c =>
      match (net.port p).netQosStreamGet c request.streamId with
      | (port,none) => (net.modifyPort p fun _ => port,some .ENOMEM)
      | (port,some i) =>
        let port :=
          if request.idleSlope ≠ 0 then
            port.labelStream c i ⟨request.vlanId.setWidth 12,BitVec.ofNat 3 request.priority⟩
          else port
        let (port,error) := port.netQosStreamConfigure c i request.idleSlope
        (net.modifyPort p fun _ => port,error)

def netQosSrClassConfigure (logicalPort first second : Nat) (net : NetQos) : NetQos × Option Errno :=
  match net.logicalPort logicalPort with
  | none => (net,none)
  | some p =>
    if (net.port p).streams > 0 then (net,some .EINVAL)
    else
      match srClassConfig first second with
      | none => (net,some .EINVAL)
      | some config =>
        ({net with config := config}.modifyPort p fun port =>
          (List.range CFG_SR_CLASS_MAX).foldl (fun port prio =>
            port.setClass prio (netQosSrClassInit config prio (port.srClass prio))) port,none)

def streamHdlrFind (l : Nat) (streamId : StreamId) (net : NetQos) : Option TxStream :=
  (net.handler l).find? fun stream => stream.streamId == streamId

/-- The queue that `qos_queue_connect` takes for a class that is not an SR class. -/
def qosQueueFree (p priority : Nat) (net : NetQos) : Option (Nat × Nat) :=
  match priorityToTclass priority with
  | none => none
  | some t =>
    if (tclassSrClass t).isSome then none
    else ((List.range CFG_TRAFFIC_CLASS_QUEUE_MAX).map fun q => (t,q)).find? fun queue => queue ∉ net.plain p

/-- `srClass` is none for `SR_CLASS_NONE`. The priority of such a socket counts if it has a VLAN. -/
def queueConnect (p : Nat) (srClass : Option Nat) (streamId : StreamId) (vlan : Bool) (priority : Nat)
    (socket : VlanLabel) (net : NetQos) : NetQos × Option TxQueue :=
  match srClass with
  | some srClass =>
    let (port,queue) := (net.port p).streamConnect net.config srClass streamId socket
    (net.modifyPort p fun _ => port,queue.map fun queue => .sr queue.1 queue.2)
  | none =>
    match net.qosQueueFree p (if vlan then priority else QOS_BEST_EFFORT_PRIORITY) with
    | none => (net,none)
    | some queue =>
      ({net with plain := Function.update net.plain p (queue :: net.plain p)},some (.plain queue.1 queue.2))

/-- A stream that the logical port has already is refused only after the queue is connected. -/
def avtpSocketConnect (l : Nat) (srClass : Option Nat) (streamId : StreamId) (vlan : Bool) (priority : Nat)
    (socket : VlanLabel) (net : NetQos) : NetQos × Bool :=
  match net.logicalPort l with
  | none => (net,false)
  | some p =>
    if net.bridge l then (net,false)
    else
      match net.queueConnect p srClass streamId vlan priority socket with
      | (net,none) => (net,false)
      | (net,some queue) =>
        match net.streamHdlrFind l streamId with
        | some _ => (net,false)
        | none => ({net with handler := Function.update net.handler l (⟨streamId,queue⟩ :: net.handler l)},true)

def avtpSocketDisconnect (l : Nat) (streamId : StreamId) (net : NetQos) : NetQos :=
  match net.logicalPort l,net.streamHdlrFind l streamId with
  | some p,some stream =>
    let net := {net with handler := Function.update net.handler l ((net.handler l).erase stream)}
    match stream.queue with
    | .sr c q => net.modifyPort p fun port => port.netQosStreamDisconnect c q
    | .plain t q => {net with plain := Function.update net.plain p ((net.plain p).erase (t,q))}
  | _,_ => net

end NetQos

/-- `net_qos_init`, in memory that is zero. The first queue is connected for the packets of the host. -/
def netQosInit (config : SrClassConfig) (logicalPort : Nat → Option Nat) (bridge : Nat → Bool) : NetQos where
  config := config
  logicalPort := logicalPort
  bridge := bridge
  plain := fun _ => [(0,0)]
  handler := fun _ => []
  port := fun _ =>
    { enabled := false
      rate := 0
      streams := 0
      usedRate := 0
      maxRate := 0
      srClass := fun prio => netQosSrClassInit config prio
        { shaper := ⟨0,0⟩
          srClass := 0
          streamMax := 0
          streams := 0
          idleSlope := 0
          stream := fun _ => ⟨⟨0,0⟩,0,none,⟨0,0⟩,0,false,false⟩
          qosQueue := fun _ => ⟨false,false,none,none⟩ } }

inductive QosInput where
  | srConfig (request : NetSrConfig)
  | streamConnect (logicalPort : Nat) (srClass : Option Nat) (streamId : StreamId) (vlan : Bool) (priority : Nat)
      (socket : VlanLabel)
  | streamDisconnect (logicalPort : Nat) (streamId : StreamId)
  | linkUp (port phySpeed : Nat)
  | linkDown (port : Nat)
  | srClassConfigure (logicalPort first second : Nat)

def qosRequest : QosInput → NetQos → NetQos × Bool
  | .srConfig request,net => let (net,error) := net.netQosSrConfig request; (net,error.isNone)
  | .streamConnect l srClass streamId vlan priority socket,net =>
    net.avtpSocketConnect l srClass streamId vlan priority socket
  | .streamDisconnect l streamId,net => (net.avtpSocketDisconnect l streamId,true)
  | .linkUp p phySpeed,net => (net.modifyPort p fun port => port.ethAvbOpen phySpeed,!(net.port p).enabled)
  | .linkDown p,net => (net.modifyPort p PortQos.ethAvbClose,true)
  | .srClassConfigure logicalPort first second,net =>
    let (net,error) := net.netQosSrClassConfigure logicalPort first second
    (net,error.isNone)

def qosStep (input : QosInput) (net : NetQos) : NetQos := (qosRequest input net).1

end Genavb.Qos
