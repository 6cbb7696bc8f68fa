import Genavb.Support.Memory
import Genavb.Srp.Mrp.Machines

/-! The packet side of the MSRP and MVRP applications: attribute lengths, attribute checks,
packed events and the vector handlers of `msrp.c` and `mvrp.c`. -/
namespace Genavb.Mrp
open Support

inductive SrpApp where
  | MSRP | MVRP
  deriving DecidableEq

def MSRP_ATTR_TYPE_TALKER_ADVERTISE : Nat := 1
def MSRP_ATTR_TYPE_TALKER_FAILED : Nat := 2
def MSRP_ATTR_TYPE_LISTENER : Nat := 3
def MSRP_ATTR_TYPE_DOMAIN : Nat := 4
def MVRP_ATTR_TYPE_VID : Nat := 1

def msrpAttributeLength (type : Nat) : Nat :=
  if type = MSRP_ATTR_TYPE_TALKER_ADVERTISE then 25
  else if type = MSRP_ATTR_TYPE_TALKER_FAILED then 34
  else if type = MSRP_ATTR_TYPE_LISTENER then 8
  else if type = MSRP_ATTR_TYPE_DOMAIN then 4
  else 0

/-- The table `msrp_attr2valuelength`: the value of a listener ends with its declaration type. -/
def msrpAttributeValueLength (type : Nat) : Nat :=
  if type = MSRP_ATTR_TYPE_LISTENER then 9 else msrpAttributeLength type

def msrpAttributeCheck (type length : Nat) : Bool :=
  type != 0 && type < 5 && length == msrpAttributeLength type

def mvrpAttributeCheck (type length : Nat) : Bool :=
  type == MVRP_ATTR_TYPE_VID && length == 2

def msrpEventLength (type numberOfValues : Nat) : Nat :=
  (numberOfValues + 2) / 3 + if type = MSRP_ATTR_TYPE_LISTENER then (numberOfValues + 3) / 4 else 0

def mvrpEventLength (numberOfValues : Nat) : Nat := (numberOfValues + 2) / 3

namespace SrpApp

def hasAttributeListLength : SrpApp → Bool
  | MSRP => true
  | MVRP => false

def dstMac : SrpApp → List UInt8
  | MSRP => [0x01,0x80,0xc2,0x00,0x00,0x0e]
  | MVRP => [0x01,0x80,0xc2,0x00,0x00,0x21]

def ethertype : SrpApp → Nat
  | MSRP => 0x22ea
  | MVRP => 0x88f5

def protoVersion : SrpApp → UInt8
  | MSRP => 0
  | MVRP => 0

def attributeLength : SrpApp → Nat → Nat
  | MSRP,type => msrpAttributeLength type
  | MVRP,_ => 2

def attributeValueLength : SrpApp → Nat → Nat
  | MSRP,type => msrpAttributeValueLength type
  | MVRP,_ => 2

def attributeCheck : SrpApp → Nat → Nat → Bool
  | MSRP,type,length => msrpAttributeCheck type length
  | MVRP,type,length => mvrpAttributeCheck type length

def eventLength : SrpApp → Nat → Nat → Nat
  | MSRP,type,numberOfValues => msrpEventLength type numberOfValues
  | MVRP,_,numberOfValues => mvrpEventLength numberOfValues

end SrpApp

def AttributeEvent.code : AttributeEvent → Nat
  | .NEW => 0
  | .JOININ => 1
  | .IN => 2
  | .JOINMT => 3
  | .MT => 4
  | .LV => 5
  | .LVA => 6

/-- The event of an unpacked value; `none` for a value out of range. -/
def AttributeEvent.ofCode : Nat → Option AttributeEvent
  | 0 => some .NEW
  | 1 => some .JOININ
  | 2 => some .IN
  | 3 => some .JOINMT
  | 4 => some .MT
  | 5 => some .LV
  | 6 => some .LVA
  | _ => none

def mrpThreePackedEvent (event0 event1 event2 : Nat) : UInt8 :=
  UInt8.ofNat ((event0 * 6 + event1) * 6 + event2)

def mrpFourPackedEvent (event0 event1 event2 event3 : Nat) : UInt8 :=
  UInt8.ofNat (((event0 * 4 + event1) * 4 + event2) * 4 + event3)

def mrpGetThreePackedEvent (packed : UInt8) : List Nat :=
  let event0 := packed.toNat / 36
  let rest := packed.toNat - event0 * 36
  let event1 := rest / 6
  [event0,event1,rest - event1 * 6]

def mrpGetFourPackedEvent (packed : UInt8) : List Nat :=
  let event0 := packed.toNat / 64
  let rest := packed.toNat - event0 * 64
  let event1 := rest / 16
  let rest := rest - event1 * 16
  let event2 := rest / 4
  [event0,event1,event2,rest - event2 * 4]

/-- What `mrp_process_packet` hands on: a LeaveAll of a type, or one call of
`mrp_process_attribute` with the event as it was unpacked. -/
inductive Delivery where
  | leaveAll (type : Nat)
  | attribute (type : Nat) (val : List UInt8) (event : Nat)
  deriving DecidableEq

def incrementAt (i : Nat) (fv : List UInt8) : List UInt8 :=
  let next := ((fv[i]?.getD 0).toNat * 256 + (fv[i + 1]?.getD 0).toNat + 1) % 65536
  (fv.set i (UInt8.ofNat (next / 256))).set (i + 1) (UInt8.ofNat next)

def incrementByte (i : Nat) (fv : List UInt8) : List UInt8 := fv.set i (fv[i]?.getD 0 + 1)

/-- The unique identifier of the stream is incremented, and with it the last byte of the
destination address of a talker. -/
def msrpIncrementStream (type : Nat) (fv : List UInt8) : List UInt8 :=
  let fv := incrementAt 6 fv
  if type = MSRP_ATTR_TYPE_TALKER_ADVERTISE ∨ type = MSRP_ATTR_TYPE_TALKER_FAILED then incrementByte 13 fv
  else fv

def msrpIncrementDomain (fv : List UInt8) : List UInt8 := incrementByte 1 (incrementByte 0 fv)

def mvrpIncrement (fv : List UInt8) : List UInt8 := incrementAt 0 fv

/-- The loop state of a vector handler: firstValue as incremented in place, the two event
arrays and the positions of the next packed bytes. -/
structure VectorCursor where
  fv : List UInt8
  event : List Nat
  declarationType : List Nat
  threePacked : Nat
  fourPacked : Nat

namespace VectorCursor

def loadEvents (memory : Memory) (i : Nat) (cursor : VectorCursor) : VectorCursor :=
  if i % 3 = 0 then {cursor with
    event := mrpGetThreePackedEvent (memory cursor.threePacked), threePacked := cursor.threePacked + 1}
  else cursor

def loadDeclarations (memory : Memory) (i : Nat) (cursor : VectorCursor) : VectorCursor :=
  if i % 4 = 0 then {cursor with
    declarationType := mrpGetFourPackedEvent (memory cursor.fourPacked), fourPacked := cursor.fourPacked + 1}
  else cursor

def increment (next : List UInt8 → List UInt8) (cursor : VectorCursor) : VectorCursor :=
  {cursor with fv := next cursor.fv}

end VectorCursor

/-- The loop of `msrp_vector_handler` for talkers and listeners from index `i`, with `left`
values to go. -/
def msrpStreamLoop (memory : Memory) (type : Nat) (cursor : VectorCursor) (i : Nat) : Nat → List Delivery
  | 0 => []
  | left + 1 =>
    let cursor := cursor.loadEvents memory i
    let event := cursor.event[i % 3]?.getD 0
    if type = MSRP_ATTR_TYPE_LISTENER then
      let cursor := cursor.loadDeclarations memory i
      let declarationType := cursor.declarationType[i % 4]?.getD 0
      let rest := msrpStreamLoop memory type (cursor.increment (msrpIncrementStream type)) (i + 1) left
      -- the Ignore declaration
      if declarationType = 0 then rest
      else .attribute type (cursor.fv.take 8 ++ [UInt8.ofNat declarationType]) event :: rest
    else .attribute type cursor.fv event ::
      msrpStreamLoop memory type (cursor.increment (msrpIncrementStream type)) (i + 1) left

def plainLoop (memory : Memory) (type : Nat) (increment : List UInt8 → List UInt8) (cursor : VectorCursor)
    (i : Nat) : Nat → List Delivery
  | 0 => []
  | left + 1 =>
    let cursor := cursor.loadEvents memory i
    .attribute type cursor.fv (cursor.event[i % 3]?.getD 0) ::
      plainLoop memory type increment (cursor.increment increment) (i + 1) left

def vectorCursor (memory : Memory) (vectorData length numberOfValues : Nat) : VectorCursor where
  fv := bytesAt memory vectorData length
  event := [0,0,0]
  declarationType := [0,0,0,0]
  threePacked := vectorData + length
  fourPacked := vectorData + length + (numberOfValues + 2) / 3

def msrpVectorHandler (memory : Memory) (type length vectorData numberOfValues : Nat) : List Delivery :=
  let cursor := vectorCursor memory vectorData length numberOfValues
  if type = MSRP_ATTR_TYPE_TALKER_ADVERTISE ∨ type = MSRP_ATTR_TYPE_TALKER_FAILED ∨
      type = MSRP_ATTR_TYPE_LISTENER then
    msrpStreamLoop memory type cursor 0 numberOfValues
  else if type = MSRP_ATTR_TYPE_DOMAIN then
    plainLoop memory type msrpIncrementDomain cursor 0 numberOfValues
  else []

def mvrpVectorHandler (memory : Memory) (vectorData numberOfValues : Nat) : List Delivery :=
  plainLoop memory MVRP_ATTR_TYPE_VID mvrpIncrement (vectorCursor memory vectorData 2 numberOfValues) 0
    numberOfValues

def SrpApp.vectorHandler (app : SrpApp) (memory : Memory) (type length vectorData numberOfValues : Nat) :
    List Delivery :=
  match app with
  | MSRP => msrpVectorHandler memory type length vectorData numberOfValues
  | MVRP => mvrpVectorHandler memory vectorData numberOfValues

end Genavb.Mrp

/-! `mrp_process_packet`: the walk over messages and vectors of a received MRPDU, one
iteration of its loops at a time. -/
namespace Genavb.Mrp
open Support

/-- Where the parser stands: at a message header, or at a vector header of a message whose
attribute list ends at `vectorEnd`. -/
inductive ParseState where
  | message (header : Nat)
  | vector (type length vectorEnd : Nat) (skip : Bool) (header : Nat)
  deriving DecidableEq

/-- The outcome of an iteration: go on, or return (`true` for 0, `false` for -1). -/
inductive ParseOutcome where
  | next (state : ParseState)
  | finish (accepted : Bool)
  deriving DecidableEq

/-- `mrp_get_next_message` for a message header expected at `header`. A packet that ends
without room for one is accepted. -/
def mrpGetNextMessage (memory : Memory) (packetEnd header : Nat) : ParseOutcome :=
  if header + 2 > packetEnd then .finish true
  else if u16At memory header = 0 then .finish true
  else if header + 4 > packetEnd then .finish true
  else .next (.message header)

def messageStep (app : SrpApp) (newerVersion : Bool) (memory : Memory) (packetEnd header : Nat) : ParseOutcome :=
  let type := (memory header).toNat
  let length := (memory (header + 1)).toNat
  let valid := app.attributeCheck type length
  if !valid && !newerVersion then .finish false else
  if app.hasAttributeListLength then
    let vectorHeader := header + 4
    let vectorEnd := vectorHeader + u16At memory (header + 2)
    if !valid then mrpGetNextMessage memory packetEnd vectorEnd
    else if vectorEnd > packetEnd then .finish false
    else .next (.vector type length vectorEnd false vectorHeader)
  else .next (.vector type length packetEnd (!valid) (header + 2))

def afterVector (memory : Memory) (packetEnd type length vectorEnd : Nat) (skip : Bool) (next : Nat) : ParseOutcome :=
  if u16At memory next ≠ 0 then .next (.vector type length vectorEnd skip next)
  else mrpGetNextMessage memory packetEnd (next + 2)

def vectorStep (app : SrpApp) (memory : Memory) (packetEnd type length vectorEnd : Nat) (skip : Bool)
    (header : Nat) : List Delivery × ParseOutcome :=
  if header + 2 > vectorEnd then ([],.finish false) else
  let leaveAllEvent := u16At memory header / 8192
  let numberOfValues := u16At memory header % 8192
  let next := header + 2 + length + app.eventLength type numberOfValues
  if next > vectorEnd then ([],.finish false) else
  if !skip && leaveAllEvent > 1 then ([],.finish false) else
  if !skip && numberOfValues = 0 && leaveAllEvent = 0 then ([],.finish false) else
  let delivered :=
    if skip then []
    else (if leaveAllEvent = 1 then [.leaveAll type] else []) ++
      app.vectorHandler memory type length (header + 2) numberOfValues
  (delivered,afterVector memory packetEnd type length vectorEnd skip next)

def parseStep (app : SrpApp) (newerVersion : Bool) (memory : Memory) (packetEnd : Nat) :
    ParseState → List Delivery × ParseOutcome
  | .message header => ([],messageStep app newerVersion memory packetEnd header)
  | .vector type length vectorEnd skip header =>
    vectorStep app memory packetEnd type length vectorEnd skip header

/-- The loops with at most `fuel` iterations, and `none` when these do not suffice. -/
def parseLoop (app : SrpApp) (newerVersion : Bool) (memory : Memory) (packetEnd : Nat) :
    Nat → ParseOutcome → List Delivery × Option Bool
  | _,.finish accepted => ([],some accepted)
  | 0,.next _ => ([],none)
  | fuel + 1,.next state =>
    let (delivered,outcome) := parseStep app newerVersion memory packetEnd state
    let (rest,accepted) := parseLoop app newerVersion memory packetEnd fuel outcome
    (delivered ++ rest,accepted)

/-- `mrp_process_packet` on a frame of `length` bytes, of which the Ethernet header takes 14. -/
def mrpProcessPacket (app : SrpApp) (enabled : Bool) (memory : Memory) (length : Nat) : List Delivery × Option Bool :=
  if !enabled then ([],some false)
  else if bytesAt memory 0 6 ≠ app.dstMac then ([],some false)
  else if memory 14 < app.protoVersion then ([],some false)
  else
    let newerVersion := decide (memory 14 > app.protoVersion)
    let header := if app.hasAttributeListLength then 4 else 2
    if 15 + header > length then ([],some true)
    else parseLoop app newerVersion memory length (length + 1) (.next (.message 15))

end Genavb.Mrp
