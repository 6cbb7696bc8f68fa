import Genavb.Srp.Mrp.Encode

/-! The packet builder refines the packets of `Packet`: what each of its operations leaves in
the descriptor, and from these the packets that a sequence of calls hands to the network. -/
namespace Genavb.Mrp
open Support TxPort

/-- A message whose closed vectors are `closed`, ready for another vector. -/
structure Ready (port : TxPort) (closed : List UInt8) (sent : List (List UInt8)) (mrpdu : MrpAttributeMrpdu) :
    Prop where
  desc : mrpdu.desc = true
  len : mrpdu.len = 15
  msgStart : mrpdu.msg.start = 15
  vectorStart : mrpdu.msg.vectorStart = 15 + port.headerLength
  msgEnd : mrpdu.msg.msgEnd = 15 + port.headerLength + closed.length
  msgMax : mrpdu.msg.endMax = port.mtu - 2
  written : Written mrpdu.data 0 (frameHeader port ++ (messageHeader port 0 ++ closed))
  sent : mrpdu.sent = sent

/-- A message with a vector that was begun and holds `content` so far. -/
structure Begun (port : TxPort) (closed content : List UInt8) (sent : List (List UInt8))
    (mrpdu : MrpAttributeMrpdu) : Prop where
  ready : Ready port closed sent mrpdu
  start : mrpdu.vector.start = some (15 + port.headerLength + closed.length)
  vectorEnd : mrpdu.vector.vectorEnd = 15 + port.headerLength + closed.length + content.length
  content : Written mrpdu.data 0 (frameHeader port ++ (messageHeader port 0 ++ (closed ++ content)))

structure Opened (port : TxPort) (closed content : List UInt8) (leaveAllEvent numberOfValues : Nat)
    (sent : List (List UInt8)) (mrpdu : MrpAttributeMrpdu) : Prop where
  begun : Begun port closed content sent mrpdu
  eventStart : mrpdu.vector.eventStart = 15 + port.headerLength + closed.length + 2 + port.attributeLength
  vectorMax : mrpdu.vector.endMax = port.mtu - 2 - 2
  leaveAll : mrpdu.vector.leaveAllEvent = leaveAllEvent
  number : mrpdu.vector.numberOfValues = numberOfValues

structure Idle (sent : List (List UInt8)) (mrpdu : MrpAttributeMrpdu) : Prop where
  desc : mrpdu.desc = false
  start : mrpdu.vector.start = none
  sent : mrpdu.sent = sent

section Builder
variable {port : TxPort} {closed : List UInt8} {sent : List (List UInt8)} {mrpdu : MrpAttributeMrpdu}

theorem frameHeader_written (port : TxPort) :
    Written (store 14 [port.app.protoVersion] (netAddEthHeader port.app port.fresh)) 0 (frameHeader port) := by
  have fresh := written_bytesAt port.fresh 6 6
  have mac : port.app.dstMac.length = 6 := by cases port.app <;> rfl
  have typed : Written (store 12 (u16Bytes port.app.ethertype) port.fresh) 6
      (bytesAt port.fresh 6 6 ++ u16Bytes port.app.ethertype) := by
    simpa using store_extends (u16Bytes port.app.ethertype) fresh
  have kept := store_apart 0 port.app.dstMac (.inr (by omega)) typed
  have addressed : Written (netAddEthHeader port.app port.fresh) 0
      (port.app.dstMac ++ (bytesAt port.fresh 6 6 ++ u16Bytes port.app.ethertype)) :=
    written_append.mpr ⟨written_store _ _ _,by simpa [mac,netAddEthHeader] using kept⟩
  have versioned := store_extends [port.app.protoVersion] addressed
  simpa [mac,frameHeader] using versioned

theorem mrpMsgStart_ready (fits : 15 + port.headerLength + 2 ≤ port.mtu)
    (begun : mrpdu.desc = true ∧ mrpdu.len = 15 ∧ mrpdu.sent = sent)
    (written : Written mrpdu.data 0 (frameHeader port)) :
    ∃ next, mrpMsgStart port 15 port.mtu mrpdu = (next,true) ∧ Ready port [] sent next ∧
      next.vector = mrpdu.vector := by
  have header := fun bytes : List UInt8 => store_extends bytes written
  unfold headerLength at fits
  unfold mrpMsgStart
  cases listed : port.app.hasAttributeListLength with
  | true =>
    simp only [listed,if_true] at fits
    rw [if_pos rfl,if_neg (by simp only; omega)]
    refine ⟨_,rfl,⟨begun.1,begun.2.1,rfl,?_,?_,rfl,?_,begun.2.2⟩,rfl⟩
    · simp [headerLength,listed]
    · simp [headerLength,listed]
    · simpa [messageHeader,listed,u16Bytes,attributeLength] using header _
  | false =>
    simp only [listed,Bool.false_eq_true,if_false] at fits
    rw [if_neg (by simp),if_neg (by simp only; omega)]
    refine ⟨_,rfl,⟨begun.1,begun.2.1,rfl,?_,?_,rfl,?_,begun.2.2⟩,rfl⟩
    · simp [headerLength,listed]
    · simp [headerLength,listed]
    · simpa [messageHeader,listed,attributeLength] using header _

theorem Ready.updated (ready : Ready port closed sent mrpdu) (data : Memory) (vector : MrpVector)
    (written : Written data 0 (frameHeader port ++ (messageHeader port 0 ++ closed))) :
    Ready port closed sent {mrpdu with data := data, vector := vector} :=
  {ready with written := written}

private theorem contents_length (port : TxPort) (closed content : List UInt8) :
    (frameHeader port ++ (messageHeader port 0 ++ (closed ++ content))).length =
      15 + port.headerLength + closed.length + content.length := by
  simp
  omega

theorem mrpVectorStart_opened (ready : Ready port closed sent mrpdu)
    (fits : 15 + port.headerLength + closed.length + 2 + port.attributeLength + 4 ≤ port.mtu) :
    ∃ next, mrpVectorStart port mrpdu.msg.msgEnd mrpdu.msg.endMax mrpdu = (next,true) ∧
      Opened port closed (bareVector port 0) 0 0 sent next := by
  have msgEnd := ready.msgEnd
  have msgMax := ready.msgMax
  have size := contents_length port closed []
  simp only [List.append_nil,List.length_nil,Nat.add_zero] at size
  unfold mrpVectorStart
  rw [if_neg (by simp only [msgEnd,msgMax]; unfold attributeLength at fits; omega)]
  have prior : ∀ bytes, Written (store mrpdu.msg.msgEnd [0,0] (store (mrpdu.msg.msgEnd + 2) bytes mrpdu.data)) 0
      (frameHeader port ++ (messageHeader port 0 ++ closed)) := by
    intro bytes
    exact store_apart _ _ (.inl (by omega)) (store_apart _ _ (.inl (by omega)) ready.written)
  have fresh : Written (store mrpdu.msg.msgEnd [0,0]
      (store (mrpdu.msg.msgEnd + 2) (List.replicate port.attributeLength 0) mrpdu.data)) mrpdu.msg.msgEnd
      (bareVector port 0) :=
    written_append.mpr ⟨written_store _ _ _,store_apart _ _ (.inr (by simp)) (written_store _ _ _)⟩
  refine ⟨_,rfl,⟨⟨ready.updated _ _ (prior _),?_,?_,?_⟩,?_,?_,rfl,rfl⟩⟩
  · simp [msgEnd]
  · simp [msgEnd,bareVector,attributeLength]
    omega
  · have both := written_append.mpr ⟨prior (List.replicate port.attributeLength 0),
      by rwa [size,Nat.zero_add,← msgEnd]⟩
    simpa [attributeLength] using both
  · simp [msgEnd,attributeLength]
  · simp [msgMax]

theorem mrpVectorStart_full (ready : Ready port closed sent mrpdu)
    (full : port.mtu < 15 + port.headerLength + closed.length + 2 + port.attributeLength + 4) (least : 4 ≤ port.mtu) :
    ∃ next, mrpVectorStart port mrpdu.msg.msgEnd mrpdu.msg.endMax mrpdu = (next,false) ∧
      Begun port closed [] sent next := by
  unfold mrpVectorStart
  rw [if_pos (by simp only [ready.msgEnd,ready.msgMax]; unfold attributeLength at full; omega)]
  refine ⟨_,rfl,⟨ready.updated _ _ ready.written,?_,?_,?_⟩⟩
  · simp [ready.msgEnd]
  · simp [ready.msgEnd]
  · simpa using ready.written

theorem Begun.store_inside (first middle last fresh : List UInt8)
    (begun : Begun port closed (first ++ (middle ++ last)) sent mrpdu) (same : fresh.length = middle.length)
    (address : Nat) (here : address = 15 + port.headerLength + closed.length + first.length) :
    Begun port closed (first ++ (fresh ++ last)) sent {mrpdu with data := store address fresh mrpdu.data} := by
  have reshaped : Written mrpdu.data 0 ((frameHeader port ++ (messageHeader port 0 ++ (closed ++ first))) ++
      (middle ++ last)) := by simpa using begun.content
  have replaced := store_replaces reshaped same
  rw [contents_length,Nat.zero_add,← here] at replaced
  have before : Written (store address fresh mrpdu.data) 0 (frameHeader port ++ (messageHeader port 0 ++ closed)) := by
    refine store_apart _ _ (.inl ?_) begun.ready.written
    simp
    omega
  refine ⟨begun.ready.updated _ _ before,begun.start,?_,?_⟩
  · simp [begun.vectorEnd,same]
  · simpa using replaced

variable {content : List UInt8}

theorem Begun.store_behind (more : List UInt8) (begun : Begun port closed content sent mrpdu)
    (vector : MrpVector) (start : vector.start = mrpdu.vector.start)
    (vectorEnd : vector.vectorEnd = mrpdu.vector.vectorEnd + more.length) :
    Begun port closed (content ++ more) sent
      {mrpdu with data := store mrpdu.vector.vectorEnd more mrpdu.data, vector := vector} := by
  have extended := store_extends more begun.content
  rw [contents_length,Nat.zero_add,← begun.vectorEnd] at extended
  have before : Written (store mrpdu.vector.vectorEnd more mrpdu.data) 0
      (frameHeader port ++ (messageHeader port 0 ++ closed)) := by
    refine store_apart _ _ (.inl ?_) begun.ready.written
    rw [begun.vectorEnd]
    simp
    omega
  refine ⟨begun.ready.updated _ _ before,start.trans begun.start,?_,?_⟩
  · simp [vectorEnd,begun.vectorEnd]
    omega
  · simpa using extended

theorem mrpVectorLeaveallEvent_opened (opened : Opened port closed (bareVector port 0) 0 0 sent mrpdu) :
    Opened port closed (bareVector port 1) 1 0 sent
      (mrpVectorLeaveallEvent (15 + port.headerLength + closed.length) mrpdu) := by
  obtain ⟨begun,eventStart,vectorMax,leaveAll,number⟩ := opened
  have stored := begun.store_inside [] (mrpVectorHeader 0 0) (List.replicate port.attributeLength 0)
    (mrpVectorHeader 1 0) rfl _ (Nat.add_zero _).symm
  unfold mrpVectorLeaveallEvent
  rw [number]
  exact ⟨⟨stored.ready.updated _ _ stored.ready.written,begun.start,stored.vectorEnd,stored.content⟩,
    eventStart,vectorMax,rfl,number⟩

variable {leaveAllEvent : Nat} {attr : TxAttribute}

private theorem mrpVectorFirstValue_opened (valid : attr.Valid port)
    (opened : Opened port closed (bareVector port leaveAllEvent) leaveAllEvent 0 sent mrpdu) :
    Opened port closed (mrpVectorHeader leaveAllEvent 0 ++ firstValue port attr) leaveAllEvent 0 sent
      (mrpVectorFirstValue (15 + port.headerLength + closed.length) attr.val mrpdu) := by
  obtain ⟨begun,eventStart,vectorMax,leaveAll,number⟩ := opened
  have begun : Begun port closed (mrpVectorHeader leaveAllEvent 0 ++
      (List.replicate port.attributeLength 0 ++ [])) sent mrpdu := by simpa [bareVector] using begun
  have stored := begun.store_inside (mrpVectorHeader leaveAllEvent 0) _ [] (firstValue port attr)
    (by simp [firstValue_length valid]) (15 + port.headerLength + closed.length + 2) rfl
  unfold mrpVectorFirstValue
  rw [eventStart,show ∀ a b : Nat, a + 2 + b - (a + 2) = b by intro a b; omega]
  exact ⟨by simpa [firstValue] using stored,eventStart,vectorMax,leaveAll,number⟩

theorem vectorAddEvent_opened {fv : List UInt8} (packed : List UInt8) (length : fv.length = port.attributeLength)
    (opened : Opened port closed (mrpVectorHeader leaveAllEvent 0 ++ fv) leaveAllEvent 0 sent mrpdu)
    (fits : 15 + port.headerLength + closed.length + 2 + port.attributeLength + packed.length + 4 ≤ port.mtu) :
    ∃ next, vectorAddEvent (15 + port.headerLength + closed.length) packed.length packed mrpdu = (next,true) ∧
      Opened port closed (mrpVectorHeader leaveAllEvent 1 ++ (fv ++ packed)) leaveAllEvent 1 sent next := by
  obtain ⟨begun,eventStart,vectorMax,leaveAll,number⟩ := opened
  have counted := begun.store_inside [] (mrpVectorHeader leaveAllEvent 0) fv (mrpVectorHeader leaveAllEvent 1)
    (by simp) _ (Nat.add_zero _).symm
  have behind : mrpdu.vector.eventStart = mrpdu.vector.vectorEnd := by
    rw [eventStart,begun.vectorEnd]
    simp [length]
    omega
  unfold vectorAddEvent
  rw [if_neg (by rw [eventStart,vectorMax]; omega),number,leaveAll,behind]
  refine ⟨_,rfl,⟨?_,behind ▸ eventStart,vectorMax,leaveAll,rfl⟩⟩
  have extended := counted.store_behind packed
    {mrpdu.vector with numberOfValues := 0 + 1, vectorEnd := mrpdu.vector.vectorEnd + packed.length} rfl rfl
  simpa using extended

theorem vectorAddEvent_full {newEventLen : Nat} (packed : List UInt8)
    (opened : Opened port closed content leaveAllEvent 0 sent mrpdu)
    (full : port.mtu < 15 + port.headerLength + closed.length + 2 + port.attributeLength + newEventLen + 4)
    (least : 4 ≤ port.mtu) (start : Nat) :
    vectorAddEvent start newEventLen packed mrpdu = (mrpdu,false) := by
  unfold vectorAddEvent
  rw [if_pos (by rw [opened.eventStart,opened.vectorMax]; omega)]

private theorem appVectorAddEvent_first (valid : port.Valid) (start : Nat) (attr : TxAttribute)
    (number : mrpdu.vector.numberOfValues = 0) :
    appVectorAddEvent port start attr mrpdu =
      vectorAddEvent start (packedEvents port attr).length (packedEvents port attr) mrpdu := by
  unfold appVectorAddEvent packedEvents
  unfold Valid at valid
  cases app : port.app with
  | MVRP => simp [mrpVectorAddEvent,number]
  | MSRP =>
    simp only [app] at valid
    by_cases listener : port.type = MSRP_ATTR_TYPE_LISTENER
    · simp [listener,mrpVectorAddEventFour,number]
    · have other : port.type = MSRP_ATTR_TYPE_DOMAIN ∨ port.type = MSRP_ATTR_TYPE_TALKER_ADVERTISE ∨
          port.type = MSRP_ATTR_TYPE_TALKER_FAILED := by
        unfold MSRP_ATTR_TYPE_LISTENER at listener
        unfold MSRP_ATTR_TYPE_DOMAIN MSRP_ATTR_TYPE_TALKER_ADVERTISE MSRP_ATTR_TYPE_TALKER_FAILED
        omega
      simp [listener,other,mrpVectorAddEvent,number]

theorem vectorClosed_final (begun : Begun port closed content sent mrpdu) :
    Ready port (closed ++ (content ++ [0,0])) sent
      (vectorClosed true (15 + port.headerLength + closed.length) mrpdu) := by
  have ended := begun.store_behind [0,0]
    {mrpdu.vector with vectorEnd := mrpdu.vector.vectorEnd + 2} rfl rfl
  have ready := begun.ready
  refine {ready with msgEnd := ?_, written := ended.content}
  simp [vectorClosed,mrpVectorEnd,ready.msgEnd,begun.vectorEnd]
  omega

theorem vectorClosed_more (begun : Begun port closed content sent mrpdu) :
    Ready port (closed ++ content) sent
      (vectorClosed false (15 + port.headerLength + closed.length) mrpdu) := by
  have ready := begun.ready
  refine {ready with msgEnd := ?_, written := begun.content}
  simp [vectorClosed,mrpVectorEnd,ready.msgEnd,begun.vectorEnd]
  omega

theorem mrpMsgEnd_frame (ready : Ready port closed sent mrpdu) :
    (mrpMsgEnd port mrpdu).2 = port.headerLength + closed.length + 2 ∧
      Written (mrpMsgEnd port mrpdu).1.data 0 (frameBytes port closed) := by
  have written := ready.written
  constructor
  · simp only [mrpMsgEnd,ready.msgStart,ready.msgEnd]
    omega
  unfold frameBytes messageHeader mrpMsgEnd
  simp only [messageHeader] at written
  rw [ready.vectorStart,ready.msgStart,ready.msgEnd,show ∀ a b : Nat, a + b - a = b by intro a b; omega]
  cases listed : port.app.hasAttributeListLength with
  | false =>
    simp only [listed,Bool.false_eq_true,if_false,List.append_nil] at written ⊢
    have ended := store_extends [0,0] written
    rw [show 0 + (frameHeader port ++ ([UInt8.ofNat port.type,UInt8.ofNat port.attributeLength] ++ closed)).length =
      15 + port.headerLength + closed.length by simp [headerLength,listed]; omega] at ended
    simpa using ended
  | true =>
    simp only [listed,if_true] at written ⊢
    have reshaped : Written mrpdu.data 0 ((frameHeader port ++ [UInt8.ofNat port.type,
        UInt8.ofNat port.attributeLength]) ++ (u16Bytes 0 ++ closed)) := by simpa using written
    have counted := store_replaces reshaped (u16Bytes_length closed.length)
    have ended := store_extends [0,0] counted
    rw [show 0 + ((frameHeader port ++ [UInt8.ofNat port.type,UInt8.ofNat port.attributeLength]) ++
        (u16Bytes closed.length ++ closed)).length = 15 + port.headerLength + closed.length by
      simp [headerLength,listed]; omega] at ended
    simpa using ended

theorem transmitEnd_begun (begun : Begun port closed content sent mrpdu) :
    Idle (sent ++ [frameBytes port (closed ++ (content ++ [0,0]))]) (transmitEnd port mrpdu) := by
  have ready := vectorClosed_final begun
  obtain ⟨length,written⟩ := mrpMsgEnd_frame ready
  have total : (vectorClosed true (15 + port.headerLength + closed.length) mrpdu).len +
      (mrpMsgEnd port (vectorClosed true (15 + port.headerLength + closed.length) mrpdu)).2 =
      (frameBytes port (closed ++ (content ++ [0,0]))).length := by
    rw [ready.len,length]
    simp [frameBytes]
    omega
  have closing : transmitEnd port mrpdu =
      let next := vectorClosed true (15 + port.headerLength + closed.length) mrpdu
      let len := next.len + (mrpMsgEnd port next).2
      {(mrpMsgEnd port next).1 with
        desc := false, len := len, sent := next.sent ++ [bytesAt (mrpMsgEnd port next).1.data 0 len]} := by
    unfold transmitEnd
    simp only [begun.ready.desc,begun.start]
    rfl
  rw [closing]
  refine ⟨rfl,rfl,?_⟩
  simp only [total,bytesAt_written written,ready.sent]

theorem firstValue_added (valid : port.Valid) (value : attr.Valid port)
    (opened : Opened port closed (bareVector port leaveAllEvent) leaveAllEvent 0 sent mrpdu)
    (fits : 15 + port.headerLength + closed.length + port.vectorLength + 4 ≤ port.mtu) :
    ∃ next, appVectorAddEvent port (15 + port.headerLength + closed.length) attr
        (mrpVectorFirstValue (15 + port.headerLength + closed.length) attr.val mrpdu) = (next,true) ∧
      Opened port closed (attrVector port leaveAllEvent attr) leaveAllEvent 1 sent next := by
  have valued := mrpVectorFirstValue_opened value opened
  rw [appVectorAddEvent_first valid _ _ valued.number]
  apply vectorAddEvent_opened (packedEvents port attr) (firstValue_length value) valued
  rw [packedEvents_length]
  unfold vectorLength at fits
  omega

theorem firstValue_refused (valid : port.Valid) (value : attr.Valid port)
    (opened : Opened port closed (bareVector port leaveAllEvent) leaveAllEvent 0 sent mrpdu)
    (full : port.mtu < 15 + port.headerLength + closed.length + port.vectorLength + 4) (least : 4 ≤ port.mtu) :
    ∃ next, appVectorAddEvent port (15 + port.headerLength + closed.length) attr
        (mrpVectorFirstValue (15 + port.headerLength + closed.length) attr.val mrpdu) = (next,false) ∧
      Opened port closed (mrpVectorHeader leaveAllEvent 0 ++ firstValue port attr) leaveAllEvent 0 sent next := by
  have valued := mrpVectorFirstValue_opened value opened
  rw [appVectorAddEvent_first valid _ _ valued.number]
  refine ⟨_,vectorAddEvent_full _ valued ?_ least _,valued⟩
  rw [packedEvents_length]
  unfold vectorLength at full
  omega

theorem mrpMsgError_begun (begun : Begun port closed content sent mrpdu) :
    Idle (sent ++ [frameBytes port (closed ++ (content ++ [0,0]))]) (mrpMsgError port mrpdu) := by
  have ended := transmitEnd_begun begun
  have header : 0 < port.headerLength := by
    unfold headerLength
    split <;> omega
  have rewound : {mrpdu with msg := {mrpdu.msg with msgEnd := 15 + port.headerLength + closed.length}} = mrpdu := by
    rw [← begun.ready.msgEnd]
  unfold mrpMsgError
  rw [if_neg (by rw [begun.ready.msgStart,begun.ready.msgEnd]; omega)]
  simp only [begun.start]
  split
  · exact ended
  · split
    · rwa [rewound]
    · exact ended

end Builder

end Genavb.Mrp
