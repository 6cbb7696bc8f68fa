import Genavb.Srp.Mrp.Codec

/-! The packet builder of `mrp.c`: messages, vectors and events are appended to a transmit
descriptor, each with a check of the room that is left, and full packets are handed to the
network. Pointers into a descriptor are offsets from the start of its data. -/
namespace Genavb.Mrp
open Support

structure MrpMsg where
  start : Nat
  vectorStart : Nat
  msgEnd : Nat
  endMax : Nat

structure MrpVector where
  start : Option Nat
  eventStart : Nat
  vectorEnd : Nat
  endMax : Nat
  numberOfValues : Nat
  leaveAllEvent : Nat

/-- The packet under construction for one attribute type. `desc` tells whether there is a
descriptor; `sent` holds the packets handed to the network. -/
structure MrpAttributeMrpdu where
  desc : Bool
  data : Memory
  len : Nat
  msg : MrpMsg
  vector : MrpVector
  sent : List (List UInt8)

/-- The port side of a builder: its application, the attribute type of the packets, the MTU and
what a descriptor holds when it is allocated. -/
structure TxPort where
  app : SrpApp
  type : Nat
  mtu : Nat
  fresh : Memory

structure TxAttribute where
  val : List UInt8
  event : AttributeEvent
  deriving DecidableEq

def MrpAttributeMrpdu.cleared (port : TxPort) : MrpAttributeMrpdu where
  desc := false
  data := port.fresh
  len := 0
  msg := ⟨0,0,0,0⟩
  vector := ⟨none,0,0,0,0,0⟩
  sent := []

def mrpVectorHeader (leaveAllEvent numberOfValues : Nat) : List UInt8 :=
  u16Bytes (leaveAllEvent * 8192 + numberOfValues)

def netAddEthHeader (app : SrpApp) (data : Memory) : Memory :=
  store 0 app.dstMac (store 12 (u16Bytes app.ethertype) data)

def mrpMsgStart (port : TxPort) (buf bufEnd : Nat) (mrpdu : MrpAttributeMrpdu) : MrpAttributeMrpdu × Bool :=
  let msg : MrpMsg := ⟨buf,buf,buf,bufEnd - 2⟩
  let type := UInt8.ofNat port.type
  let length := UInt8.ofNat (port.app.attributeLength port.type)
  if port.app.hasAttributeListLength then
    if buf + 4 > msg.endMax then ({mrpdu with msg := msg},false)
    else ({mrpdu with
      data := store buf [type,length,0,0] mrpdu.data,
      msg := {msg with vectorStart := buf + 4, msgEnd := buf + 4}},true)
  else
    if buf + 2 > msg.endMax then ({mrpdu with msg := msg},false)
    else ({mrpdu with
      data := store buf [type,length] mrpdu.data,
      msg := {msg with vectorStart := buf + 2, msgEnd := buf + 2}},true)

def mrpMsgEnd (port : TxPort) (mrpdu : MrpAttributeMrpdu) : MrpAttributeMrpdu × Nat :=
  let data :=
    if port.app.hasAttributeListLength then
      store (mrpdu.msg.start + 2) (u16Bytes (mrpdu.msg.msgEnd - mrpdu.msg.vectorStart)) mrpdu.data
    else mrpdu.data
  let msgEnd := mrpdu.msg.msgEnd + 2
  ({mrpdu with data := store mrpdu.msg.msgEnd [0,0] data, msg := {mrpdu.msg with msgEnd := msgEnd}},
    msgEnd - mrpdu.msg.start)

def mrpVectorStart (port : TxPort) (buf bufEnd : Nat) (mrpdu : MrpAttributeMrpdu) : MrpAttributeMrpdu × Bool :=
  let length := port.app.attributeLength port.type
  let vector := {mrpdu.vector with start := some buf, vectorEnd := buf, endMax := bufEnd - 2}
  if buf + 2 + length > vector.endMax then ({mrpdu with vector := vector},false)
  else ({mrpdu with
    data := store buf [0,0] (store (buf + 2) (List.replicate length 0) mrpdu.data),
    vector := {vector with
      eventStart := buf + 2 + length, vectorEnd := buf + 2 + length, numberOfValues := 0, leaveAllEvent := 0}},true)

def mrpVectorEnd (final : Bool) (start : Nat) (mrpdu : MrpAttributeMrpdu) : MrpAttributeMrpdu × Nat :=
  let data := if final then store mrpdu.vector.vectorEnd [0,0] mrpdu.data else mrpdu.data
  let vectorEnd := if final then mrpdu.vector.vectorEnd + 2 else mrpdu.vector.vectorEnd
  ({mrpdu with data := data, vector := {mrpdu.vector with start := none, eventStart := 0, vectorEnd := 0}},
    vectorEnd - start)

/-- `mrp_vector_end` with its length added to the message. -/
def vectorClosed (final : Bool) (start : Nat) (mrpdu : MrpAttributeMrpdu) : MrpAttributeMrpdu :=
  let (mrpdu,length) := mrpVectorEnd final start mrpdu
  {mrpdu with msg := {mrpdu.msg with msgEnd := mrpdu.msg.msgEnd + length}}

def mrpVectorFirstValue (start : Nat) (fv : List UInt8) (mrpdu : MrpAttributeMrpdu) : MrpAttributeMrpdu :=
  {mrpdu with data := store (start + 2) (fv.take (mrpdu.vector.eventStart - (start + 2))) mrpdu.data}

def mrpVectorLeaveallEvent (start : Nat) (mrpdu : MrpAttributeMrpdu) : MrpAttributeMrpdu :=
  {mrpdu with
    data := store start (mrpVectorHeader 1 mrpdu.vector.numberOfValues) mrpdu.data,
    vector := {mrpdu.vector with leaveAllEvent := 1}}

/-- `mrp_vector_add_event` and `mrp_vector_add_event_four`, which differ in the length of
the events and in the bytes they store. -/
def vectorAddEvent (start newEventLen : Nat) (packed : List UInt8) (mrpdu : MrpAttributeMrpdu) :
    MrpAttributeMrpdu × Bool :=
  let newNumberOfValues := mrpdu.vector.numberOfValues + 1
  if mrpdu.vector.eventStart + newEventLen > mrpdu.vector.endMax then (mrpdu,false)
  else ({mrpdu with
    data := store mrpdu.vector.eventStart packed
      (store start (mrpVectorHeader mrpdu.vector.leaveAllEvent newNumberOfValues) mrpdu.data),
    vector := {mrpdu.vector with
      numberOfValues := newNumberOfValues, vectorEnd := mrpdu.vector.eventStart + newEventLen}},true)

def mrpVectorAddEvent (start event : Nat) (mrpdu : MrpAttributeMrpdu) : MrpAttributeMrpdu × Bool :=
  vectorAddEvent start ((mrpdu.vector.numberOfValues + 1 + 2) / 3) [mrpThreePackedEvent event 0 0] mrpdu

def mrpVectorAddEventFour (start event value : Nat) (mrpdu : MrpAttributeMrpdu) : MrpAttributeMrpdu × Bool :=
  vectorAddEvent start
    ((mrpdu.vector.numberOfValues + 1 + 2) / 3 + (mrpdu.vector.numberOfValues + 1 + 3) / 4)
    [mrpThreePackedEvent event 0 0,mrpFourPackedEvent value 0 0 0] mrpdu

/-- `msrp_vector_add_event` and `mvrp_vector_add_event`. The declaration type of a listener is
the last byte of its value. -/
def appVectorAddEvent (port : TxPort) (start : Nat) (attr : TxAttribute) (mrpdu : MrpAttributeMrpdu) :
    MrpAttributeMrpdu × Bool :=
  match port.app with
  | .MSRP =>
    if port.type = MSRP_ATTR_TYPE_LISTENER then
      mrpVectorAddEventFour start attr.event.code (attr.val[8]?.getD 0).toNat mrpdu
    else if port.type = MSRP_ATTR_TYPE_DOMAIN ∨ port.type = MSRP_ATTR_TYPE_TALKER_ADVERTISE ∨
        port.type = MSRP_ATTR_TYPE_TALKER_FAILED then
      mrpVectorAddEvent start attr.event.code mrpdu
    else (mrpdu,true)
  | .MVRP => mrpVectorAddEvent start attr.event.code mrpdu

def transmitEnd (port : TxPort) (mrpdu : MrpAttributeMrpdu) : MrpAttributeMrpdu :=
  if !mrpdu.desc then mrpdu else
  let mrpdu :=
    match mrpdu.vector.start with
    | none => mrpdu
    | some start => vectorClosed true start mrpdu
  let (mrpdu,length) := mrpMsgEnd port mrpdu
  let len := mrpdu.len + length
  {mrpdu with desc := false, len := len, sent := mrpdu.sent ++ [bytesAt mrpdu.data 0 len]}

/-- `mrp_msg_error`: a message that was not started is dropped; else the packet is closed and transmitted. A
vector that holds no value yet is taken back first. -/
def mrpMsgError (port : TxPort) (mrpdu : MrpAttributeMrpdu) : MrpAttributeMrpdu :=
  if mrpdu.msg.start = mrpdu.msg.msgEnd then {mrpdu with desc := false} else
  match mrpdu.vector.start with
  | none => transmitEnd port mrpdu
  | some start =>
    if start = mrpdu.vector.vectorEnd then transmitEnd port mrpdu
    else if mrpdu.vector.numberOfValues = 0 then
      transmitEnd port {mrpdu with msg := {mrpdu.msg with msgEnd := start}}
    else transmitEnd port mrpdu

def newPacket (port : TxPort) (mrpdu : MrpAttributeMrpdu) : MrpAttributeMrpdu :=
  {mrpdu with
    desc := true, data := store 14 [port.app.protoVersion] (netAddEthHeader port.app port.fresh), len := 15}

def transmitPass (port : TxPort) (attr : Option TxAttribute) (leaveall : Bool) (mrpdu : MrpAttributeMrpdu) :
    MrpAttributeMrpdu × Bool :=
  let (mrpdu,started) :=
    if !mrpdu.desc then mrpMsgStart port 15 port.mtu (newPacket port mrpdu)
    else (mrpdu,true)
  if !started then (mrpMsgError port mrpdu,false) else
  let (mrpdu,opened) :=
    if mrpdu.vector.start.isNone then mrpVectorStart port mrpdu.msg.msgEnd mrpdu.msg.endMax mrpdu
    else (mrpdu,true)
  if !opened then (mrpMsgError port mrpdu,true) else
  let start := mrpdu.vector.start.getD 0
  let mrpdu := if leaveall then mrpVectorLeaveallEvent start mrpdu else mrpdu
  match attr with
  | none => (mrpdu,false)
  | some attr =>
    if mrpdu.vector.numberOfValues ≠ 0 then
      if port.app = .MSRP ∧ port.type = MSRP_ATTR_TYPE_DOMAIN then
        -- one domain vector per message
        (transmitEnd port mrpdu,true)
      else
        let mrpdu := vectorClosed false start mrpdu
        let start := mrpdu.msg.msgEnd
        let (mrpdu,opened) := mrpVectorStart port start mrpdu.msg.endMax mrpdu
        if !opened then (mrpMsgError port mrpdu,true) else
        let (mrpdu,added) := appVectorAddEvent port start attr (mrpVectorFirstValue start attr.val mrpdu)
        if !added then (mrpMsgError port mrpdu,true) else (mrpdu,false)
    else
      let (mrpdu,added) := appVectorAddEvent port start attr (mrpVectorFirstValue start attr.val mrpdu)
      if !added then (mrpMsgError port mrpdu,true) else (mrpdu,false)

/-- `mrp_transmit_action` with at most `fuel` passes, and `none` when these do not suffice. -/
def transmitAction (port : TxPort) (attr : Option TxAttribute) (leaveall : Bool) :
    Nat → MrpAttributeMrpdu → Option MrpAttributeMrpdu
  | 0,_ => none
  | fuel + 1,mrpdu =>
    let (mrpdu,again) := transmitPass port attr leaveall mrpdu
    if again then transmitAction port attr leaveall fuel mrpdu else some mrpdu

structure TxCall where
  attr : Option TxAttribute
  leaveall : Bool
  deriving DecidableEq

def transmitActions (port : TxPort) (fuel : Nat) : List TxCall → MrpAttributeMrpdu → Option MrpAttributeMrpdu
  | [],mrpdu => some mrpdu
  | call :: rest,mrpdu => do
    transmitActions port fuel rest (← transmitAction port call.attr call.leaveall fuel mrpdu)

/-- The packets of a sequence of `mrp_transmit_action` closed by `mrp_transmit_end`. -/
def transmit (port : TxPort) (fuel : Nat) (calls : List TxCall) : Option (List (List UInt8)) :=
  (transmitActions port fuel calls (.cleared port)).map fun mrpdu => (transmitEnd port mrpdu).sent

end Genavb.Mrp

/-! What the packet builder builds. An open packet is the string of its vectors behind a
header; a full packet is closed by two end marks, and carries the start of the vector that
did not fit when there was room for its header and firstValue but not for its events. -/
namespace Genavb.Mrp
open Support

namespace TxPort

def attributeLength (port : TxPort) : Nat := port.app.attributeLength port.type

def eventLength (port : TxPort) : Nat := port.app.eventLength port.type 1

def vectorLength (port : TxPort) : Nat := 2 + port.attributeLength + port.eventLength

def headerLength (port : TxPort) : Nat := if port.app.hasAttributeListLength then 4 else 2

/-- The bytes a packet has for vectors: what the frame header, the message header and the two
end marks leave. -/
def room (port : TxPort) : Nat := port.mtu - (15 + port.headerLength + 4)

def isDomain (port : TxPort) : Bool := port.app = .MSRP && port.type = MSRP_ATTR_TYPE_DOMAIN

def Valid (port : TxPort) : Prop :=
  match port.app with
  | .MSRP => 1 ≤ port.type ∧ port.type ≤ 4
  | .MVRP => port.type = MVRP_ATTR_TYPE_VID

def capacity (port : TxPort) : Nat := if port.isDomain then 1 else port.room / port.vectorLength

end TxPort

def firstValue (port : TxPort) (attr : TxAttribute) : List UInt8 := attr.val.take port.attributeLength

def packedEvents (port : TxPort) (attr : TxAttribute) : List UInt8 :=
  if port.app = .MSRP ∧ port.type = MSRP_ATTR_TYPE_LISTENER then
    [mrpThreePackedEvent attr.event.code 0 0,mrpFourPackedEvent (attr.val[8]?.getD 0).toNat 0 0 0]
  else [mrpThreePackedEvent attr.event.code 0 0]

/-- Values are as long as their type says, and a listener declares one of three types. -/
def TxAttribute.Valid (port : TxPort) (attr : TxAttribute) : Prop :=
  attr.val.length = port.app.attributeValueLength port.type ∧
  (port.app = .MSRP → port.type = MSRP_ATTR_TYPE_LISTENER →
    ∃ declaration, attr.val[8]? = some declaration ∧ 1 ≤ declaration.toNat ∧ declaration.toNat ≤ 3)

def attrVector (port : TxPort) (leaveAllEvent : Nat) (attr : TxAttribute) : List UInt8 :=
  mrpVectorHeader leaveAllEvent 1 ++ (firstValue port attr ++ packedEvents port attr)

def bareVector (port : TxPort) (leaveAllEvent : Nat) : List UInt8 :=
  mrpVectorHeader leaveAllEvent 0 ++ List.replicate port.attributeLength 0

/-- The contents of a packet. `residue` is the attribute whose vector was taken back. -/
structure TxPacket where
  leaveall : Bool
  attrs : List TxAttribute
  residue : Option TxAttribute

def vectors (port : TxPort) (leaveall : Bool) : List TxAttribute → List UInt8
  | [] => bareVector port leaveall.toNat
  | attr :: rest => attrVector port leaveall.toNat attr ++ rest.flatMap (attrVector port 0)

def frameHeader (port : TxPort) : List UInt8 :=
  port.app.dstMac ++ (bytesAt port.fresh 6 6 ++ (u16Bytes port.app.ethertype ++ [port.app.protoVersion]))

def messageHeader (port : TxPort) (listLength : Nat) : List UInt8 :=
  [UInt8.ofNat port.type,UInt8.ofNat port.attributeLength] ++
    if port.app.hasAttributeListLength then u16Bytes listLength else []

def residueBytes (port : TxPort) : Option TxAttribute → List UInt8
  | none => []
  | some attr => [0,0] ++ firstValue port attr

def frameBytes (port : TxPort) (list : List UInt8) : List UInt8 :=
  frameHeader port ++ (messageHeader port list.length ++ (list ++ [0,0]))

namespace TxPacket

def listBytes (port : TxPort) (packet : TxPacket) : List UInt8 :=
  vectors port packet.leaveall packet.attrs ++ (residueBytes port packet.residue ++ [0,0])

def bytes (port : TxPort) (packet : TxPacket) : List UInt8 := frameBytes port (packet.listBytes port)

end TxPacket

@[simp] theorem mrpVectorHeader_length (leaveAllEvent numberOfValues : Nat) :
    (mrpVectorHeader leaveAllEvent numberOfValues).length = 2 := rfl

@[simp] theorem frameHeader_length (port : TxPort) : (frameHeader port).length = 15 := by
  cases app : port.app <;> simp [frameHeader,app,SrpApp.dstMac]

@[simp] theorem messageHeader_length (port : TxPort) (listLength : Nat) :
    (messageHeader port listLength).length = port.headerLength := by
  unfold messageHeader TxPort.headerLength
  split <;> rfl

theorem packedEvents_length (port : TxPort) (attr : TxAttribute) :
    (packedEvents port attr).length = port.eventLength := by
  unfold packedEvents TxPort.eventLength SrpApp.eventLength
  cases port.app with
  | MSRP => by_cases listener : port.type = MSRP_ATTR_TYPE_LISTENER <;> simp [listener,msrpEventLength]
  | MVRP => simp [mvrpEventLength]

theorem firstValue_length {port : TxPort} {attr : TxAttribute} (valid : attr.Valid port) :
    (firstValue port attr).length = port.attributeLength := by
  have value := valid.1
  have longEnough : port.attributeLength ≤ attr.val.length := by
    rw [value]
    unfold TxPort.attributeLength SrpApp.attributeLength SrpApp.attributeValueLength
    cases port.app with
    | MSRP =>
      simp only [msrpAttributeValueLength]
      split
      next listener => simp [listener,msrpAttributeLength,MSRP_ATTR_TYPE_TALKER_ADVERTISE,
        MSRP_ATTR_TYPE_TALKER_FAILED,MSRP_ATTR_TYPE_LISTENER]
      · exact Nat.le_refl _
    | MVRP => exact Nat.le_refl _
  simp [firstValue,longEnough]

theorem attrVector_length {port : TxPort} {attr : TxAttribute} (valid : attr.Valid port) (leaveAllEvent : Nat) :
    (attrVector port leaveAllEvent attr).length = port.vectorLength := by
  simp [attrVector,firstValue_length valid,packedEvents_length,TxPort.vectorLength]
  omega

theorem vectors_snoc (port : TxPort) (leaveall : Bool) (attrs : List TxAttribute) (attr : TxAttribute)
    (more : attrs ≠ []) :
    vectors port leaveall (attrs ++ [attr]) = vectors port leaveall attrs ++ attrVector port 0 attr := by
  cases attrs with
  | nil => exact absurd rfl more
  | cons first rest => simp [vectors]

theorem vectors_length {port : TxPort} {attrs : List TxAttribute} (leaveall : Bool)
    (valid : ∀ attr ∈ attrs, attr.Valid port) (more : attrs ≠ []) :
    (vectors port leaveall attrs).length = attrs.length * port.vectorLength := by
  induction attrs using List.reverseRecOn with
  | nil => exact absurd rfl more
  | append_singleton rest attr ih =>
    have last := valid attr (by simp)
    cases rest with
    | nil => simp [vectors,attrVector_length last]
    | cons first rest =>
      rw [vectors_snoc _ _ _ _ (by simp),List.length_append,attrVector_length last,
        ih (fun other member => valid other (List.mem_append_left _ member)) (by simp)]
      simp [Nat.add_mul]

end Genavb.Mrp
