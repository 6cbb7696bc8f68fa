import Genavb.Srp.Mrp.Encode
import Genavb.Srp.Mrp.Quiet

/-! What the parser delivers for the packets the builder writes. -/
namespace Genavb.Mrp
open Support SrpApp TxPacket VectorCursor List

def leaveAllItems (port : TxPort) (leaveall : Bool) : List Delivery := if leaveall then [.leaveAll port.type] else []

def TxAttribute.item (port : TxPort) (attr : TxAttribute) : Delivery :=
  .attribute port.type attr.val attr.event.code

def TxPacket.items (port : TxPort) (packet : TxPacket) : List Delivery :=
  leaveAllItems port packet.leaveall ++ packet.attrs.map (TxAttribute.item port)

private theorem mrpGetThreePackedEvent_first (event : AttributeEvent) :
    (mrpGetThreePackedEvent (mrpThreePackedEvent event.code 0 0))[0]? = some event.code := by
  cases event <;> rfl

theorem mrpGetFourPackedEvent_first {value : Nat} (small : value < 4) :
    (mrpGetFourPackedEvent (mrpFourPackedEvent value 0 0 0))[0]? = some value := by
  have packed : (mrpFourPackedEvent value 0 0 0).toNat = value * 64 := by
    simp only [mrpFourPackedEvent,UInt8.toNat_ofNat']
    omega
  exact congrArg some (by omega)

section Vector
variable {port : TxPort} {memory : Memory} {header : Nat}

variable {attr : TxAttribute}

private theorem firstValue_whole (value : attr.Valid port)
    (whole : port.app.attributeValueLength port.type = port.attributeLength) : firstValue port attr = attr.val :=
  take_of_length_le (Nat.le_of_eq (by rw [value.1,whole]))

private theorem plainLoop_one (memory : Memory) (type : Nat) (increment : List UInt8 → List UInt8) (length : Nat)
    (event : AttributeEvent) (packed : memory (header + length) = mrpThreePackedEvent event.code 0 0) :
    plainLoop memory type increment (vectorCursor memory header length 1) 0 1 =
      [.attribute type (bytesAt memory header length) event.code] := by
  simp [plainLoop,vectorCursor,loadEvents,packed,mrpGetThreePackedEvent_first]

theorem msrpStreamLoop_talker (memory : Memory) {type : Nat} (talker : type ≠ MSRP_ATTR_TYPE_LISTENER) (length : Nat)
    (event : AttributeEvent) (packed : memory (header + length) = mrpThreePackedEvent event.code 0 0) :
    msrpStreamLoop memory type (vectorCursor memory header length 1) 0 1 =
      [.attribute type (bytesAt memory header length) event.code] := by
  simp [msrpStreamLoop,vectorCursor,loadEvents,packed,mrpGetThreePackedEvent_first,talker]

theorem msrpStreamLoop_listener (memory : Memory) (event : AttributeEvent) {declaration : Nat}
    (declared : 1 ≤ declaration ∧ declaration ≤ 3) (packed : memory (header + 8) = mrpThreePackedEvent event.code 0 0)
    (four : memory (header + 8 + 1) = mrpFourPackedEvent declaration 0 0 0) :
    msrpStreamLoop memory MSRP_ATTR_TYPE_LISTENER (vectorCursor memory header 8 1) 0 1 =
      [.attribute MSRP_ATTR_TYPE_LISTENER (bytesAt memory header 8 ++ [UInt8.ofNat declaration]) event.code] := by
  have unpacked := mrpGetFourPackedEvent_first (Nat.lt_succ_of_le declared.2)
  have present : declaration ≠ 0 := by omega
  have short : (bytesAt memory header 8).take 8 = bytesAt memory header 8 :=
    take_of_length_le (by simp)
  simp [msrpStreamLoop,vectorCursor,loadEvents,loadDeclarations,packed,four,mrpGetThreePackedEvent_first,unpacked,present,short]

theorem vectorHandler_one (valid : port.Valid) (value : attr.Valid port)
    (written : Written memory header (firstValue port attr ++ packedEvents port attr)) :
    port.app.vectorHandler memory port.type port.attributeLength header 1 = [attr.item port] := by
  obtain ⟨first,events⟩ := written_append.mp written
  rw [firstValue_length value] at events
  have fv : bytesAt memory header port.attributeLength = firstValue port attr := by
    rw [← firstValue_length value]
    exact bytesAt_written first
  unfold TxPort.Valid at valid
  unfold TxAttribute.item
  cases app : port.app with
  | MVRP =>
    simp only [app] at valid
    have packed := events 0 (mrpThreePackedEvent attr.event.code 0 0) (by simp [packedEvents,app])
    have whole := firstValue_whole value (by simp [TxPort.attributeLength,app,attributeLength,
      attributeValueLength])
    have two : port.attributeLength = 2 := by simp [TxPort.attributeLength,app,attributeLength]
    rw [whole,two] at fv
    rw [two] at packed
    simp only [vectorHandler,mvrpVectorHandler]
    rw [plainLoop_one memory _ _ 2 attr.event packed,fv,valid]
  | MSRP =>
    simp only [app] at valid
    by_cases listener : port.type = MSRP_ATTR_TYPE_LISTENER
    · obtain ⟨declaration,last,declared⟩ := value.2 app listener
      have eight : port.attributeLength = 8 := by
        simp [TxPort.attributeLength,app,attributeLength,listener,msrpAttributeLength,
          MSRP_ATTR_TYPE_TALKER_ADVERTISE,MSRP_ATTR_TYPE_TALKER_FAILED,MSRP_ATTR_TYPE_LISTENER]
      rw [eight] at fv events
      have packed := events 0 (mrpThreePackedEvent attr.event.code 0 0) (by simp [packedEvents,app,listener])
      have four := events 1 (mrpFourPackedEvent declaration.toNat 0 0 0) (by simp [packedEvents,app,listener,last])
      have whole : firstValue port attr ++ [declaration] = attr.val := by
        have nine := value.1
        simp only [app,attributeValueLength,msrpAttributeValueLength,listener,if_true] at nine
        have kept := take_append_drop 8 attr.val
        rw [drop_eq_getElem_cons (by omega),drop_eq_nil_of_le (by omega)] at kept
        have same := (List.getElem?_eq_some_iff.mp last).2
        rwa [same,← eight] at kept
      simp only [vectorHandler,msrpVectorHandler,listener,or_true,if_true,eight]
      rw [msrpStreamLoop_listener memory attr.event declared packed four,fv,UInt8.ofNat_toNat,whole]
    · have packed := events 0 (mrpThreePackedEvent attr.event.code 0 0) (by simp [packedEvents,app,listener])
      rw [Nat.add_zero] at packed
      have whole := firstValue_whole value (by simp [TxPort.attributeLength,app,attributeLength,
        attributeValueLength,msrpAttributeValueLength,listener])
      rw [whole] at fv
      simp only [vectorHandler,msrpVectorHandler]
      split
      · rw [msrpStreamLoop_talker memory listener _ attr.event packed,fv]
      next other =>
        rw [if_pos (by
          unfold MSRP_ATTR_TYPE_TALKER_ADVERTISE MSRP_ATTR_TYPE_TALKER_FAILED MSRP_ATTR_TYPE_LISTENER at other
          unfold MSRP_ATTR_TYPE_DOMAIN
          omega)]
        rw [plainLoop_one memory _ _ _ attr.event packed,fv]

private theorem vectorStep_attr {packetEnd vectorEnd : Nat} (valid : port.Valid)
    (value : attr.Valid port) (leaveall : Bool) (written : Written memory header (attrVector port leaveall.toNat attr))
    (fits : header + port.vectorLength ≤ vectorEnd) :
    vectorStep port.app memory packetEnd port.type port.attributeLength vectorEnd false header =
      (leaveAllItems port leaveall ++ [attr.item port],
        afterVector memory packetEnd port.type port.attributeLength vectorEnd false (header + port.vectorLength)) := by
  obtain ⟨head,body⟩ := written_append.mp written
  rw [mrpVectorHeader_length] at body
  have number : u16At memory header = leaveall.toNat * 8192 + 1 :=
    u16At_written (by cases leaveall <;> decide) head
  have length : header + 2 + port.attributeLength + port.app.eventLength port.type 1 = header + port.vectorLength := by
    unfold TxPort.vectorLength TxPort.eventLength
    omega
  rw [vectorStep_fits leaveall (by decide) number (fun none => absurd none Nat.one_ne_zero) (by omega),
    vectorHandler_one valid value body,length]
  rfl

theorem vectorStep_bare {packetEnd vectorEnd : Nat} (written : Written memory header (bareVector port 1))
    (fits : header + 2 + port.attributeLength ≤ vectorEnd) :
    vectorStep port.app memory packetEnd port.type port.attributeLength vectorEnd false header =
      ([.leaveAll port.type],afterVector memory packetEnd port.type port.attributeLength vectorEnd false
        (header + 2 + port.attributeLength)) := by
  have number : u16At memory header = true.toNat * 8192 + 0 := u16At_written (by decide) (written_append.mp written).1
  have noEvents : port.app.eventLength port.type 0 = 0 := by
    cases port.app <;> simp [eventLength,msrpEventLength,mvrpEventLength]
  have nothing : port.app.vectorHandler memory port.type port.attributeLength (header + 2) 0 = [] := by
    cases port.app <;> simp [vectorHandler,msrpVectorHandler,mvrpVectorHandler,msrpStreamLoop,plainLoop]
  rw [vectorStep_fits true (by decide) number (fun _ => rfl) (by omega),nothing,noEvents]
  rfl

end Vector

section Packets
variable {port : TxPort} {memory : Memory} {vectorEnd : Nat} (packetEnd : Nat)

theorem parseLoop_vectors (valid : port.Valid) (leaveall : Bool) (attr : TxAttribute) (rest : List TxAttribute)
    (values : ∀ other ∈ attr :: rest, other.Valid port) (tail : List UInt8) (header : Nat)
    (written : Written memory header (vectors port leaveall (attr :: rest) ++ ([0,0] ++ tail)))
    (fits : header + (rest.length + 1) * port.vectorLength ≤ vectorEnd) (fuel : Nat) :
    parseLoop port.app false memory packetEnd (fuel + (rest.length + 1))
        (.next (.vector port.type port.attributeLength vectorEnd false header)) =
      let (more,accepted) := parseLoop port.app false memory packetEnd fuel
        (mrpGetNextMessage memory packetEnd (header + (rest.length + 1) * port.vectorLength + 2))
      (items port ⟨leaveall,attr :: rest,none⟩ ++ more,accepted) := by
  have value := values attr (mem_cons_self ..)
  induction rest generalizing attr leaveall header with
  | nil =>
    simp only [vectors,flatMap_nil,append_nil,length_nil,Nat.zero_add,Nat.one_mul] at written fits ⊢
    obtain ⟨vector,mark⟩ := written_append.mp written
    rw [attrVector_length value] at mark
    have ended : u16At memory (header + port.vectorLength) = 0 :=
      u16At_written (by decide) (written_append.mp mark).1
    rw [parseLoop_next,parseStep,vectorStep_attr valid value leaveall vector fits,afterVector,
      if_neg (fun more => more ended)]
    simp [items]
  | cons second rest ih =>
    simp only [length_cons] at fits ⊢
    rw [Nat.succ_mul] at fits
    have split : vectors port leaveall (attr :: second :: rest) =
        attrVector port leaveall.toNat attr ++ vectors port false (second :: rest) := by
      simp [vectors]
    rw [split,append_assoc] at written
    obtain ⟨vector,others⟩ := written_append.mp written
    rw [attrVector_length value] at others
    have counted : u16At memory (header + port.vectorLength) = 1 := by
      have front : Written memory (header + port.vectorLength) (mrpVectorHeader 0 1) := by
        simp only [vectors,attrVector,Bool.toNat_false,append_assoc] at others
        exact (written_append.mp others).1
      exact u16At_written (by decide) front
    have later := ih false second (fun other member => values other (mem_cons_of_mem _ member)) (header + port.vectorLength)
      others (by omega) (values second (by simp))
    rw [← Nat.add_assoc,parseLoop_next,parseStep,vectorStep_attr valid value leaveall vector (by omega),afterVector,
      if_pos (by rw [counted]; exact Nat.one_ne_zero)]
    simp only [later,items,map_cons,leaveAllItems,Bool.false_eq_true,if_false,nil_append]
    have place : header + port.vectorLength + (rest.length + 1) * port.vectorLength =
        header + (rest.length + 1 + 1) * port.vectorLength := by
      rw [Nat.succ_mul (rest.length + 1)]
      omega
    simp [place]

theorem parseLoop_bare (tail : List UInt8) (header : Nat)
    (written : Written memory header (bareVector port 1 ++ ([0,0] ++ tail)))
    (fits : header + 2 + port.attributeLength ≤ vectorEnd) (fuel : Nat) :
    parseLoop port.app false memory packetEnd (fuel + 1)
        (.next (.vector port.type port.attributeLength vectorEnd false header)) =
      let (more,accepted) := parseLoop port.app false memory packetEnd fuel
        (mrpGetNextMessage memory packetEnd (header + 2 + port.attributeLength + 2))
      ([.leaveAll port.type] ++ more,accepted) := by
  obtain ⟨vector,mark⟩ := written_append.mp written
  rw [show (bareVector port 1).length = 2 + port.attributeLength by simp [bareVector],← Nat.add_assoc] at mark
  have ended : u16At memory (header + 2 + port.attributeLength) = 0 :=
    u16At_written (by decide) (written_append.mp mark).1
  rw [parseLoop_next,parseStep,vectorStep_bare vector fits,afterVector,if_neg (fun more => more ended)]

def residueTail (port : TxPort) : Option TxAttribute → List UInt8
  | none => [0,0]
  | some attr => firstValue port attr ++ [0,0,0,0]

theorem listBytes_tail (port : TxPort) (packet : TxPacket) :
    packet.listBytes port ++ [0,0] =
      vectors port packet.leaveall packet.attrs ++ ([0,0] ++ residueTail port packet.residue) := by
  cases left : packet.residue <;> simp [listBytes,left,residueBytes,residueTail]

theorem attributeCheck_own (valid : port.Valid) :
    port.app.attributeCheck port.type port.attributeLength = true ∧ port.type < 256 ∧ port.attributeLength < 256 := by
  unfold TxPort.Valid at valid
  unfold TxPort.attributeLength
  cases app : port.app with
  | MVRP =>
    simp only [app] at valid
    simp [valid,attributeCheck,mvrpAttributeCheck,attributeLength,MVRP_ATTR_TYPE_VID]
  | MSRP =>
    simp only [app] at valid
    have small : msrpAttributeLength port.type < 256 := by
      unfold msrpAttributeLength
      split <;> (try split) <;> (try split) <;> (try split) <;> decide
    refine ⟨?_,by omega,small⟩
    simp [attributeCheck,msrpAttributeCheck,attributeLength]
    omega

theorem messageStep_own (valid : port.Valid) {list : List UInt8} (small : list.length < 65536)
    (written : Written memory 15 (messageHeader port list.length)) (fits : 15 + port.headerLength + list.length ≤ packetEnd) :
    ∃ vectorEnd, 15 + port.headerLength + list.length ≤ vectorEnd ∧
      messageStep port.app false memory packetEnd 15 =
        .next (.vector port.type port.attributeLength vectorEnd false (15 + port.headerLength)) := by
  obtain ⟨check,smallType,smallLength⟩ := attributeCheck_own valid
  obtain ⟨front,list_length⟩ := written_append.mp written
  have type : (memory 15).toNat = port.type := by
    rw [front 0 (UInt8.ofNat port.type) rfl,UInt8.toNat_ofNat']
    exact Nat.mod_eq_of_lt smallType
  have length : (memory (15 + 1)).toNat = port.attributeLength := by
    rw [front 1 (UInt8.ofNat port.attributeLength) rfl,UInt8.toNat_ofNat']
    exact Nat.mod_eq_of_lt smallLength
  unfold messageStep
  simp only [type,length,check,Bool.not_true,Bool.false_and,Bool.false_eq_true,if_false]
  unfold TxPort.headerLength at fits ⊢
  cases listed : port.app.hasAttributeListLength with
  | true =>
    simp only [listed,if_true] at list_length fits ⊢
    have size : u16At memory (15 + 2) = list.length := u16At_written small list_length
    rw [size,if_neg (by omega)]
    exact ⟨_,Nat.le_refl _,rfl⟩
  | false =>
    simp only [listed,Bool.false_eq_true,if_false] at fits ⊢
    exact ⟨_,fits,rfl⟩

theorem frameHeader_accepted {list : List UInt8} (written : Written memory 0 (frameHeader port ++ list)) :
    bytesAt memory 0 6 = port.app.dstMac ∧ memory 14 = port.app.protoVersion := by
  obtain ⟨front,_⟩ := written_append.mp written
  obtain ⟨mac,typed⟩ := written_append.mp front
  have six : port.app.dstMac.length = 6 := by cases port.app <;> rfl
  constructor
  · rw [← six]
    exact bytesAt_written mac
  · rw [six] at typed
    exact typed 8 port.app.protoVersion (by simp [u16Bytes])

theorem mrpProcessPacket_packet (valid : port.Valid) {packet : TxPacket}
    (values : ∀ attr ∈ packet.attrs, attr.Valid port)
    (filled : packet.attrs = [] → packet.leaveall = true) (small : (packet.bytes port).length < 65536)
    (written : Written memory 0 (packet.bytes port)) :
    ∃ header fuel, (residueTail port packet.residue).length < fuel ∧
      Written memory header (residueTail port packet.residue) ∧
      header + (residueTail port packet.residue).length = (packet.bytes port).length ∧
      mrpProcessPacket port.app true memory (packet.bytes port).length =
        let (more,accepted) := parseLoop port.app false memory (packet.bytes port).length fuel
          (mrpGetNextMessage memory (packet.bytes port).length header)
        (packet.items port ++ more,accepted) := by
  obtain ⟨mac,version⟩ := frameHeader_accepted written
  obtain ⟨_,message⟩ := written_append.mp written
  obtain ⟨front,list⟩ := written_append.mp message
  rw [frameHeader_length,Nat.zero_add] at front
  rw [frameHeader_length,Nat.zero_add,messageHeader_length,listBytes_tail] at list
  have total : (packet.bytes port).length = 15 + port.headerLength + (packet.listBytes port).length + 2 := by
    simp [bytes,frameBytes]
    omega
  have both := congrArg List.length (listBytes_tail port packet)
  simp only [length_append,length_cons,length_nil] at both
  obtain ⟨vectorEnd,inside,started⟩ := messageStep_own (packet.bytes port).length valid (by omega) front (by omega)
  have begun : mrpProcessPacket port.app true memory (packet.bytes port).length =
      parseLoop port.app false memory (packet.bytes port).length (packet.bytes port).length
        (.next (.vector port.type port.attributeLength vectorEnd false (15 + port.headerLength))) := by
    have room : ¬ 15 + port.headerLength > (packet.bytes port).length := by omega
    unfold TxPort.headerLength at room
    unfold mrpProcessPacket
    simp only [Bool.not_true,Bool.false_eq_true,if_false,mac,version,ne_eq,not_true_eq_false,UInt8.lt_irrefl,gt_iff_lt,
      decide_false]
    rw [if_neg room,parseLoop_next,parseStep,started]
    rfl
  rw [begun]
  obtain ⟨_,tail⟩ := written_append.mp (written_append.mp list).2
  cases contents : packet.attrs with
  | nil =>
    have leaveall := filled contents
    rw [contents,leaveall] at list tail both
    have bare : (bareVector port 1).length = 2 + port.attributeLength := by simp [bareVector]
    simp only [vectors,Bool.toNat_true,bare] at list tail both
    have loop := parseLoop_bare (packet.bytes port).length (residueTail port packet.residue) _ list
      (show _ ≤ vectorEnd by omega) ((packet.bytes port).length - 1)
    rw [Nat.sub_add_cancel (by omega)] at loop
    refine ⟨_,(packet.bytes port).length - 1,?_,tail,?_,?_⟩
    · omega
    · simp only [length_cons,length_nil]
      omega
    · rw [loop]
      simp [items,contents,leaveall,leaveAllItems,Nat.add_assoc]
  | cons first rest =>
    rw [contents] at list tail both values
    have size := vectors_length packet.leaveall values (by simp)
    have most : rest.length + 1 ≤ (rest.length + 1) * port.vectorLength :=
      Nat.le_mul_of_pos_right _ (by unfold TxPort.vectorLength; omega)
    rw [length_cons] at size
    have loop := parseLoop_vectors (packet.bytes port).length valid packet.leaveall first rest values
      (residueTail port packet.residue) _ list (show _ ≤ vectorEnd by omega)
      ((packet.bytes port).length - (rest.length + 1))
    rw [Nat.sub_add_cancel (by omega)] at loop
    refine ⟨_,(packet.bytes port).length - (rest.length + 1),?_,tail,?_,?_⟩
    · omega
    · simp only [length_cons,length_nil]
      omega
    · rw [loop,size]
      simp [items,contents]

end Packets

end Genavb.Mrp
