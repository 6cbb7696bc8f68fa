import Genavb.Avtp.CvfH264
import Mathlib.Data.List.Forall2

/-! The round trip of H.264 over AVTP (`cvf.c`): what the listener makes of the packets of a NAL unit. -/
namespace Genavb.Avtp
open Genavb.Support Memory StreamRx H264Talker List BitVec
open List (append_inj append_nil flatMap_cons length_append length_cons)
open H264Packet

def MediaDesc.payload (media : MediaDesc) : List Byte := media.data.bytes media.l2Offset.toNat media.len.toNat

def NaluPayload.bytes (payload : NaluPayload) : List Byte := payload.data.bytes payload.l2Offset.toNat payload.len.toNat

section Headers
variable {nalu : Byte}

private theorem naluHeader_parts (f : Bool) (nri : BitVec 2) (type : BitVec 5) :
    naluForbidden (naluHeader f nri type) = f ∧ naluNri (naluHeader f nri type) = nri ∧
      naluType (naluHeader f nri type) = type := by
  refine ⟨?_,?_,?_⟩
  · revert f nri type
    decide
  · revert f nri type
    decide
  · revert f nri type
    decide

theorem naluHeader_whole (nalu : Byte) : naluHeader (naluForbidden nalu) (naluNri nalu) (naluType nalu) = nalu := by
  revert nalu
  decide

private theorem naluFuHeader_parts (s e : Bool) (type : BitVec 5) :
    (naluFuHeader s e type).getLsbD 7 = s ∧ (naluFuHeader s e type).getLsbD 6 = e ∧
      (naluFuHeader s e type).extractLsb' 0 5 = type := by
  revert s e type
  decide

end Headers

structure Makes (data : Memory) (first : Nat) (payload : NaluPayload) (bytes : List Byte) (ends : Bool) : Prop where
  holds : payload.bytes = bytes
  len : payload.len.toNat = bytes.length
  before : ∀ place, place < first → payload.data place = data place
  ends : payload.ends = ends

section Offsets
variable {half small : Half}

private theorem toNat_back (low : small.toNat ≤ half.toNat) : (half - small).toNat = half.toNat - small.toNat :=
  toNat_sub_of_le (le_def.mpr low)

private theorem toNat_on (room : half.toNat + small.toNat < 2 ^ 16) : (half + small).toNat = half.toNat + small.toNat := by
  rw [toNat_add,Nat.mod_eq_of_lt room]

end Offsets

section Payload
variable {data : Memory} {l2Offset len : Half} {bytes : List Byte}

private theorem length_syncBytes : syncBytes.length = 4 := rfl

theorem rxSingle_makes (held : data.bytes l2Offset.toNat bytes.length = bytes) (length : len.toNat = bytes.length)
    (low : 4 ≤ l2Offset.toNat) (room : bytes.length + 4 < 2 ^ 16) :
    Makes data (l2Offset.toNat - 4) (rxSingle data l2Offset len) (syncBytes ++ bytes) true := by
  have offset : (l2Offset - 4).toNat = l2Offset.toNat - 4 := toNat_back low
  have longer : (len + 4).toNat = 4 + bytes.length := by
    rw [Nat.add_comm,← length]
    exact toNat_on (by rw [length]; exact room)
  refine ⟨?_,?_,?_,rfl⟩
  · change Memory.bytes (data.write (l2Offset - 4).toNat syncBytes) (l2Offset - 4).toNat (len + 4).toNat = _
    rw [offset,longer,bytes_append]
    refine congrArg₂ _ (bytes_write _ _ syncBytes) ?_
    rw [Nat.sub_add_cancel low,bytes_write_after (by rw [length_syncBytes]; omega)]
    exact held
  · change (len + 4).toNat = _
    rw [longer,length_append,length_syncBytes]
  · intro place before
    apply write_outside
    rw [offset]
    exact Or.inl before

section
variable {indicator fuHeader : Byte}
  (held : data.bytes l2Offset.toNat (2 + bytes.length) = indicator :: fuHeader :: bytes)
include held

private theorem fragment_bytes :
    data l2Offset.toNat = indicator ∧ data (l2Offset.toNat + 1) = fuHeader ∧
      data.bytes (l2Offset.toNat + 2) bytes.length = bytes := by
  refine ⟨?_,?_,?_⟩
  · exact bytes_get held (by omega : 0 < _)
  · exact bytes_get held (by omega : 1 < _)
  · rw [bytes_append] at held
    have split : _ ++ _ = [indicator,fuHeader] ++ bytes := held
    exact (append_inj split (by simp)).2

theorem rxFu_start (length : len.toNat = 2 + bytes.length) (low : 4 ≤ l2Offset.toNat) (room : bytes.length + 5 < 2 ^ 16)
    (start : fuHeader.getLsbD 7 = true) : Makes data (l2Offset.toNat - 4) (rxFu data l2Offset len)
      (syncBytes ++ naluHeader (naluForbidden indicator) (naluNri indicator) (fuHeader.extractLsb' 0 5) :: bytes) false := by
  obtain ⟨first,second,rest⟩ := fragment_bytes held
  have offset : (l2Offset - 3).toNat = l2Offset.toNat - 3 := toNat_back (Nat.le_of_succ_le low)
  have longer : (len + 3).toNat = 4 + (1 + bytes.length) := by
    refine (toNat_on (by rw [length]; change _ + 3 < _; omega)).trans ?_
    rw [length]
    change _ + 3 = _
    omega
  unfold rxFu
  rw [first,second,if_pos start]
  generalize naluHeader _ _ _ = header
  refine ⟨?_,?_,?_,rfl⟩
  · change Memory.bytes ((data.write (l2Offset - 3).toNat syncBytes).write ((l2Offset - 3).toNat + 4) [header])
      (l2Offset - 3).toNat (len + 3).toNat = _
    rw [offset,longer,bytes_append]
    refine congrArg₂ _ ?_ ?_
    · rw [bytes_write_before (Nat.le_refl _)]
      exact bytes_write _ _ syncBytes
    · rw [bytes_append]
      refine (congrArg₂ _ (bytes_write _ _ [header]) ?_).trans (singleton_append)
      rw [bytes_write_after (by rw [length_singleton]),bytes_write_after (by rw [length_syncBytes]; omega)]
      rw [show l2Offset.toNat - 3 + 4 + 1 = l2Offset.toNat + 2 by omega]
      exact rest
  · change (len + 3).toNat = _
    rw [longer,length_append,length_syncBytes,length_cons,Nat.add_comm bytes.length]
  · intro place before
    change ((data.write _ syncBytes).write _ [header]) place = _
    rw [write_outside (by rw [offset]; omega),write_outside (by rw [offset]; omega)]

theorem rxFu_next (length : len.toNat = 2 + bytes.length) (room : l2Offset.toNat + 2 < 2 ^ 16)
    (start : fuHeader.getLsbD 7 = false) :
    Makes data (l2Offset.toNat - 4) (rxFu data l2Offset len) bytes (fuHeader.getLsbD 6) := by
  obtain ⟨first,second,rest⟩ := fragment_bytes held
  have offset : (l2Offset + 2).toNat = l2Offset.toNat + 2 := toNat_on room
  have shorter : (len - 2).toNat = bytes.length := by
    refine (toNat_back (by rw [length]; exact Nat.le_add_right _ _)).trans ?_
    rw [length]
    exact Nat.add_sub_cancel_left 2 _
  unfold rxFu
  rw [first,second,if_neg (by rw [start]; exact Bool.false_ne_true)]
  refine ⟨?_,shorter,fun _ _ => rfl,rfl⟩
  change data.bytes (l2Offset + 2).toNat (len - 2).toNat = _
  rw [offset,shorter]
  exact rest

end

def aggregate (units : List (List Byte)) : List Byte :=
  units.flatMap fun nal => halfBytes (BitVec.ofNat 16 nal.length) ++ nal

variable {nal : List Byte}

private theorem aggregate_bytes {rest : List Byte} {offset : Nat} (short : nal.length < 2 ^ 16)
    (held : data.bytes offset (2 + nal.length + rest.length) = halfBytes (BitVec.ofNat 16 nal.length) ++ nal ++ rest) :
    (data.half offset).toNat = nal.length ∧ data.bytes (offset + 2) nal.length = nal ∧
      data.bytes (offset + 2 + nal.length) rest.length = rest := by
  rw [bytes_append,bytes_append] at held
  have size : (halfBytes (BitVec.ofNat 16 nal.length)).length = 2 := rfl
  obtain ⟨front,last⟩ := append_inj held (by simp [size])
  obtain ⟨size,unit⟩ := append_inj front (by simp [size])
  refine ⟨?_,unit,by rw [Nat.add_assoc]; exact last⟩
  have first : data offset = _ := bytes_get size (by decide : 0 < 2)
  have second : data (offset + 1) = _ := bytes_get size (by decide : 1 < 2)
  rw [half_of first second,toNat_ofNat,Nat.mod_eq_of_lt short]

private theorem length_aggregate_cons (nal : List Byte) (rest : List (List Byte)) :
    (aggregate (nal :: rest)).length = 2 + nal.length + (aggregate rest).length := by
  have size : (halfBytes (BitVec.ofNat 16 nal.length)).length = 2 := rfl
  simp [aggregate,size,Nat.add_assoc]

variable {units : List (List Byte)}

theorem stapUnits_eq (fit : ∀ nal ∈ units, 0 < nal.length ∧ nal.length < 2 ^ 16) (left offset : Nat)
    (enough : units.length ≤ left) (held : data.bytes offset (aggregate units).length = aggregate units) :
    stapUnits data left offset (aggregate units).length = units.length := by
  induction units generalizing left offset with
  | nil => cases left <;> rfl
  | cons nal rest ih =>
    obtain ⟨some,short⟩ := fit nal mem_cons_self
    rw [length_aggregate_cons] at held ⊢
    obtain ⟨size,_,others⟩ := aggregate_bytes short held
    obtain ⟨left,rfl⟩ : ∃ less, left = less + 1 := ⟨left - 1,by rw [length_cons] at enough; omega⟩
    rw [stapUnits,if_pos (by omega)]
    dsimp only
    rw [size,if_neg (by omega),length_cons]
    rw [show 2 + nal.length + (aggregate rest).length - 2 - nal.length = (aggregate rest).length by omega]
    congr 1
    apply ih (fun other member => fit other (mem_cons_of_mem _ member))
    · rw [length_cons] at enough
      omega
    · exact others

theorem length_aggregate (member : nal ∈ units) : 2 + nal.length ≤ (aggregate units).length := by
  obtain ⟨before,after,rfl⟩ := append_of_mem member
  simp only [aggregate,flatMap_append,flatMap_cons,length_append]
  change _ ≤ _ + (2 + nal.length + _)
  omega

variable {header : Byte}

theorem rxStapA_counts (held : data.bytes l2Offset.toNat (1 + (aggregate units).length) = header :: aggregate units)
    (length : len.toNat = 1 + (aggregate units).length) (fit : ∀ nal ∈ units, 0 < nal.length) :
    stapUnits data (len.setWidth 32 - 1 : Word).toNat (l2Offset.toNat + 1) (len.setWidth 32 - 1 : Word).toNat =
      units.length := by
  have left : (len.setWidth 32 - 1 : Word).toNat = (aggregate units).length := by
    have one : (1 : Word).toNat = 1 := rfl
    rw [toNat_sub,toNat_setWidth,length,one]
    omega
  rw [bytes_append] at held
  have split : _ ++ _ = [header] ++ aggregate units := held
  obtain ⟨_,rest⟩ := append_inj split (by simp)
  rw [left]
  apply stapUnits_eq _ _ _ _ rest
  · intro nal member
    refine ⟨fit nal member,?_⟩
    have bound := length_aggregate member
    omega
  · have each : ∀ list : List (List Byte), list.length ≤ (aggregate list).length := by
      intro list
      induction list with
      | nil => exact Nat.le_refl _
      | cons nal rest ih =>
        rw [length_aggregate_cons,length_cons]
        omega
    exact each units

theorem rxStapA_one
    (held : data.bytes l2Offset.toNat (1 + (2 + nal.length)) = header :: (halfBytes (BitVec.ofNat 16 nal.length) ++ nal))
    (length : len.toNat = 1 + (2 + nal.length)) (low : 4 ≤ l2Offset.toNat) (room : nal.length + 4 < 2 ^ 16) :
    Makes data (l2Offset.toNat - 4)
      ⟨l2Offset - 1,len + 1,data.write (l2Offset - 1).toNat syncBytes,true⟩ (syncBytes ++ nal) true := by
  have offset : (l2Offset - 1).toNat = l2Offset.toNat - 1 := toNat_back (by change 1 ≤ _; omega)
  have longer : (len + 1).toNat = 4 + nal.length := by
    refine (toNat_on (by rw [length]; change _ + 1 < _; omega)).trans ?_
    rw [length]
    change _ + 1 = _
    omega
  have unit : data.bytes (l2Offset.toNat + 3) nal.length = nal := by
    rw [bytes_append,bytes_append] at held
    have split : (_ ++ (_ ++ _) : List Byte) = [header] ++ (halfBytes (BitVec.ofNat 16 nal.length) ++ nal) := held
    obtain ⟨_,rest⟩ := append_inj split (by simp)
    exact (append_inj rest (by simp [halfBytes])).2
  refine ⟨?_,?_,?_,rfl⟩
  · change Memory.bytes (data.write (l2Offset - 1).toNat syncBytes) (l2Offset - 1).toNat (len + 1).toNat = _
    rw [offset,longer,bytes_append]
    refine congrArg₂ _ (bytes_write _ _ syncBytes) ?_
    rw [bytes_write_after (by rw [length_syncBytes]),show l2Offset.toNat - 1 + 4 = l2Offset.toNat + 3 by omega]
    exact unit
  · change (len + 1).toNat = _
    rw [longer,length_append,length_syncBytes]
  · intro place before
    apply write_outside
    exact Or.inl (by omega)

theorem rxStapA_two {other : List Byte}
    (held : data.bytes l2Offset.toNat (1 + (2 + nal.length + (2 + other.length))) =
      header :: (halfBytes (BitVec.ofNat 16 nal.length) ++ nal ++ (halfBytes (BitVec.ofNat 16 other.length) ++ other)))
    (length : len.toNat = 1 + (2 + nal.length + (2 + other.length))) (low : 4 ≤ l2Offset.toNat)
    (room : nal.length + other.length + 8 < 2 ^ 16) :
    Makes data (l2Offset.toNat - 4)
      ⟨l2Offset - 3,len + 3,
        ((data.write (l2Offset - 3).toNat syncBytes).write ((l2Offset - 3).toNat + 4)
          ((data.write (l2Offset - 3).toNat syncBytes).bytes ((l2Offset - 3).toNat + 6) nal.length)).write
          ((l2Offset - 3).toNat + 4 + nal.length) syncBytes,true⟩
      (syncBytes ++ nal ++ (syncBytes ++ other)) true := by
  have offset : (l2Offset - 3).toNat = l2Offset.toNat - 3 := toNat_back (by change 3 ≤ _; omega)
  have longer : (len + 3).toNat = 4 + nal.length + (4 + other.length) := by
    refine (toNat_on (by rw [length]; change _ + 3 < _; omega)).trans ?_
    rw [length]
    change _ + 3 = _
    omega
  have size : ∀ list : List Byte, (halfBytes (BitVec.ofNat 16 list.length)).length = 2 := fun _ => rfl
  rw [bytes_append] at held
  have split : (_ ++ _ : List Byte) = [header] ++
    (halfBytes (BitVec.ofNat 16 nal.length) ++ nal ++ (halfBytes (BitVec.ofNat 16 other.length) ++ other)) := held
  obtain ⟨_,rest⟩ := append_inj split (by simp)
  rw [bytes_append,bytes_append,bytes_append] at rest
  obtain ⟨front,back⟩ := append_inj rest (by simp [size])
  have first := (append_inj front (by simp [size])).2
  have second := (append_inj back (by simp [size])).2
  rw [offset]
  -- the source of the move has not been written yet
  have source : (data.write (l2Offset.toNat - 3) syncBytes).bytes (l2Offset.toNat - 3 + 6) nal.length = nal := by
    rw [bytes_write_after (by rw [length_syncBytes]; omega),
      show l2Offset.toNat - 3 + 6 = l2Offset.toNat + 1 + 2 by omega]
    exact first
  rw [source]
  refine ⟨?_,?_,?_,rfl⟩
  · change Memory.bytes (((data.write _ syncBytes).write _ nal).write _ syncBytes) (l2Offset - 3).toNat (len + 3).toNat = _
    rw [offset,longer,bytes_append,bytes_append,bytes_append]
    refine congrArg₂ _ (congrArg₂ _ ?_ ?_) (congrArg₂ _ ?_ ?_)
    · rw [bytes_write_before (by omega),bytes_write_before (Nat.le_refl _)]
      exact bytes_write _ _ syncBytes
    · rw [bytes_write_before (Nat.le_refl _)]
      exact bytes_write _ _ nal
    · rw [Nat.add_assoc]
      exact bytes_write _ _ syncBytes
    · rw [bytes_write_after (by rw [length_syncBytes]; omega),bytes_write_after (by omega),
        bytes_write_after (by rw [length_syncBytes]; omega)]
      rw [show l2Offset.toNat - 3 + (4 + nal.length) + 4 = l2Offset.toNat + 1 + (2 + nal.length) + 2 by omega]
      exact second
  · change (len + 3).toNat = _
    rw [longer]
    simp [length_syncBytes,Nat.add_assoc]
  · intro place before
    change (((data.write _ syncBytes).write _ nal).write _ syncBytes) place = _
    rw [write_outside (Or.inl (by omega)),write_outside (Or.inl (by omega)),
      write_outside (Or.inl (by omega))]

theorem rxStapA_makes (held : data.bytes l2Offset.toNat (1 + (aggregate units).length) = header :: aggregate units)
    (length : len.toNat = 1 + (aggregate units).length) (low : 4 ≤ l2Offset.toNat)
    (fit : ∀ nal ∈ units, 0 < nal.length) (few : units.length = 1 ∨ units.length = 2)
    (room : (aggregate units).length + 4 < 2 ^ 16) :
    ∃ payload, rxStapA data l2Offset len = some payload ∧
      Makes data (l2Offset.toNat - 4) payload (units.flatMap fun nal => syncBytes ++ nal) true := by
  have counts := rxStapA_counts held length fit
  match units,few with
  | [nal],_ =>
    have total : (aggregate [nal]).length = 2 + nal.length := length_aggregate_cons nal []
    have whole : aggregate [nal] = halfBytes (BitVec.ofNat 16 nal.length) ++ nal := append_nil _
    rw [total,whole] at held
    rw [total] at length room
    have made := rxStapA_one held length low (by omega)
    have output : ([nal].flatMap fun nal => syncBytes ++ nal) = syncBytes ++ nal := append_nil _
    have back : (BitVec.ofNat 16 1 * 4 - BitVec.ofNat 16 1 * CVF_H264_STAP_A_NALU_SIZE_HDR_SIZE - 1 : Half) = 1 := by decide
    rw [output]
    refine ⟨_,?_,made⟩
    unfold rxStapA
    dsimp only
    rw [counts,length_singleton,back,if_neg (by decide),if_neg (by decide)]
  | [nal,other],_ =>
    have total : (aggregate [nal,other]).length = 2 + nal.length + (2 + other.length) := by
      rw [length_aggregate_cons,length_aggregate_cons]
      rfl
    have whole : aggregate [nal,other] = halfBytes (BitVec.ofNat 16 nal.length) ++ nal ++
        (halfBytes (BitVec.ofNat 16 other.length) ++ other) := by simp [aggregate]
    rw [total,whole] at held
    rw [total] at length room
    have made := rxStapA_two held length low (by omega)
    have size : (data.half (l2Offset.toNat + 1)).toNat = nal.length := by
      rw [bytes_append] at held
      have split : (_ ++ _ : List Byte) = [header] ++
        (halfBytes (BitVec.ofNat 16 nal.length) ++ nal ++ (halfBytes (BitVec.ofNat 16 other.length) ++ other)) := held
      have later : (halfBytes (BitVec.ofNat 16 other.length) ++ other).length = 2 + other.length := by
        rw [length_append]
        rfl
      have rest := (append_inj split (by simp)).2
      rw [← later] at rest
      exact (aggregate_bytes (by omega) rest).1
    have output : ([nal,other].flatMap fun nal => syncBytes ++ nal) = syncBytes ++ nal ++ (syncBytes ++ other) := by simp
    have back : (BitVec.ofNat 16 2 * 4 - BitVec.ofNat 16 2 * CVF_H264_STAP_A_NALU_SIZE_HDR_SIZE - 1 : Half) = 3 := by decide
    have two : [nal,other].length = 2 := rfl
    rw [output]
    refine ⟨_,?_,made⟩
    unfold rxStapA
    dsimp only
    rw [counts,size,two,back,if_neg (by decide),if_pos rfl]

end Payload

structure H264Carries (packet : H264Packet) (desc : NetRxDesc) : Prop where
  room : desc.l3Offset.toNat + 28 + packet.fragment.payload.length < 2 ^ 16
  held : ∃ streamId, desc.data.bytes desc.l3Offset.toNat (28 + packet.fragment.payload.length) =
    packet.header streamId ++ packet.fragment.payload

namespace H264Carries
variable {packet : H264Packet} {desc : NetRxDesc}

private theorem length_header (streamId : Word × Word) (packet : H264Packet) : (packet.header streamId).length = 28 := rfl

variable (carries : H264Carries packet desc)
include carries

theorem parts : ∃ streamId,
    (∀ place, place < 28 → desc.data (desc.l3Offset.toNat + place) = (packet.header streamId).getD place 0) ∧
    desc.data.bytes (desc.l3Offset.toNat + 28) packet.fragment.payload.length = packet.fragment.payload := by
  obtain ⟨streamId,held⟩ := carries.held
  rw [bytes_append] at held
  obtain ⟨first,second⟩ := append_inj held (by rw [length_bytes,length_header])
  exact ⟨streamId,fun place inside => bytes_get first inside,second⟩

theorem header : desc.subtype = AVTP_SUBTYPE_CVF ∧
    desc.data (desc.l3Offset.toNat + 16) = CVF_FORMAT_RFC ∧
    desc.data (desc.l3Offset.toNat + 17) = CVF_FORMAT_SUBTYPE_H264 ∧
    (desc.data (desc.l3Offset.toNat + 22)).getLsbD 4 = false ∧
    (desc.data (desc.l3Offset.toNat + 22)).getLsbD 5 = packet.fragment.ptv ∧
    desc.streamDataLength = BitVec.ofNat 16 (4 + packet.fragment.payload.length) ∧
    desc.data.word (desc.l3Offset.toNat + 24) = packet.fragment.h264Timestamp := by
  obtain ⟨streamId,byte,_⟩ := carries.parts
  refine ⟨byte 0 (by decide),byte 16 (by decide),byte 17 (by decide),?_,?_,?_,?_⟩
  · rw [byte 22 (by decide)]
    change (0#2 ++ BitVec.ofBool packet.fragment.ptv ++ 0#1 ++ 0#4 : Byte).getLsbD 4 = false
    cases packet.fragment.ptv <;> decide
  · rw [byte 22 (by decide)]
    change (0#2 ++ BitVec.ofBool packet.fragment.ptv ++ 0#1 ++ 0#4 : Byte).getLsbD 5 = _
    cases packet.fragment.ptv <;> decide
  · exact half_of (byte 20 (by decide)) (byte 21 (by decide))
  · exact word_of (byte 24 (by decide)) (byte 25 (by decide)) (byte 26 (by decide)) (byte 27 (by decide))

theorem place (flags : AvtpFlags) :
    ((avtpRxDesc desc flags).l4Offset + 4).toNat = desc.l3Offset.toNat + 28 ∧
    ((avtpRxDesc desc flags).l4Len - 4).toNat = packet.fragment.payload.length := by
  have room := carries.room
  have length : (avtpRxDesc desc flags).l4Len.toNat = 4 + packet.fragment.payload.length := by
    change desc.streamDataLength.toNat = _
    rw [carries.header.2.2.2.2.2.1,toNat_ofNat,Nat.mod_eq_of_lt (by omega)]
  have offset : (desc.l3Offset + 24).toNat = desc.l3Offset.toNat + 24 := toNat_on (by change _ + 24 < _; omega)
  constructor
  · refine (toNat_on (by rw [show (avtpRxDesc desc flags).l4Offset = desc.l3Offset + 24 from rfl,offset]; change _ + 4 < _; omega)).trans ?_
    change (desc.l3Offset + 24).toNat + 4 = _
    rw [offset]
  · refine (toNat_back (by rw [length]; exact Nat.le_add_right 4 _)).trans ?_
    rw [length]
    exact Nat.add_sub_cancel_left 4 _

end H264Carries

def endMark (fragment : H264Fragment) (bytes : List Byte) : AvtpTs where
  val := some (if fragment.ptv then fragment.h264Timestamp else 0)
  flags := {AvtpFlags.none with endOfFrame := true,timestampInvalid := !fragment.ptv}
  offset := BitVec.ofNat 16 (bytes.length - 1)

structure Hands (flags : AvtpFlags) (fragment : H264Fragment) (bytes : List Byte) (ends : Bool) (media : MediaDesc) : Prop where
  payload : media.payload = bytes
  avtpTs : media.avtpTs = packetEvents flags.packet ++ if ends then [endMark fragment bytes] else []

theorem rxDesc_hands {packet : H264Packet} {desc : NetRxDesc} {payload : NaluPayload} {bytes : List Byte} {ends : Bool}
    (carries : H264Carries packet desc) (flags : AvtpFlags)
    (out : rxNalu desc.data ((avtpRxDesc desc flags).l4Offset + 4) ((avtpRxDesc desc flags).l4Len - 4) =
      some payload) (makes : Makes desc.data (desc.l3Offset.toNat + 24) payload bytes ends)
    (some : ends = true → bytes ≠ []) :
    ∃ media, avtpCvfH264RxDesc true (avtpRxDesc desc flags) = Handled.give media ∧
      Hands flags packet.fragment bytes ends media := by
  obtain ⟨_,format,subtype,marker,ptv,_,timestamp⟩ := carries.header
  obtain ⟨offset,_⟩ := carries.place flags
  -- the header is not touched
  have after : payload.data (desc.l3Offset.toNat + 22) = desc.data (desc.l3Offset.toNat + 22) := by
    apply makes.before
    omega
  have time : desc.data.word (((avtpRxDesc desc flags).l4Offset + 4).toNat - 4) =
      packet.fragment.h264Timestamp := by
    rw [offset]
    exact timestamp
  have last : ends = true → payload.len - 1 = BitVec.ofNat 16 (bytes.length - 1) := by
    intro mark
    have positive := length_pos_of_ne_nil (some mark)
    apply eq_of_toNat_eq
    refine (toNat_back (by rw [makes.len]; exact positive)).trans ?_
    have bound := payload.len.isLt
    rw [makes.len] at bound
    rw [makes.len,toNat_ofNat,Nat.mod_eq_of_lt (by omega)]
    rfl
  unfold avtpCvfH264RxDesc
  dsimp only
  rw [if_neg (by simp [avtpRxDesc,format,subtype]),if_pos rfl,if_pos rfl,
    show (avtpRxDesc desc flags).desc = desc from rfl,out,time]
  dsimp only
  rw [after,marker,ptv,makes.ends]
  refine ⟨_,rfl,makes.holds,?_⟩
  cases ends with
  | false => rfl
  | true =>
    rw [last rfl]
    rfl

theorem rxDesc_drops {packet : H264Packet} {desc : NetRxDesc} (carries : H264Carries packet desc) (flags : AvtpFlags)
    (out : rxNalu desc.data ((avtpRxDesc desc flags).l4Offset + 4) ((avtpRxDesc desc flags).l4Len - 4) =
      none) : avtpCvfH264RxDesc true (avtpRxDesc desc flags) = Handled.free desc.id := by
  obtain ⟨_,format,subtype,_⟩ := carries.header
  unfold avtpCvfH264RxDesc
  dsimp only
  rw [if_neg (by simp [avtpRxDesc,format,subtype]),if_pos rfl,if_pos rfl,
    show (avtpRxDesc desc flags).desc = desc from rfl,out]

/-- What the listener makes of the payload of a packet: nothing, or bytes that may end a unit. -/
inductive Unpacks : List Byte → Option (List Byte × Bool) → Prop
  | reserved {header : Byte} {rest : List Byte} : (naluType header).setWidth 8 ∈ CVF_H264_NALU_TYPES_RESERVED →
      Unpacks (header :: rest) none
  | single {header : Byte} {rest : List Byte} : naluForbidden header = false → naluType header < 24 →
      (naluType header).setWidth 8 ∉ CVF_H264_NALU_TYPES_RESERVED →
      Unpacks (header :: rest) (some (syncBytes ++ header :: rest,true))
  | first {nri : BitVec 2} {type : BitVec 5} {e : Bool} {bytes : List Byte} :
      Unpacks (naluHeader false nri 28 :: naluFuHeader true e type :: bytes)
        (some (syncBytes ++ naluHeader false nri type :: bytes,false))
  | next {nri : BitVec 2} {type : BitVec 5} {e : Bool} {bytes : List Byte} :
      Unpacks (naluHeader false nri 28 :: naluFuHeader false e type :: bytes) (some (bytes,e))
  | aggregated {nri : BitVec 2} {units : List (List Byte)} : (∀ nal ∈ units, 0 < nal.length) →
      units.length = 1 ∨ units.length = 2 →
      Unpacks (naluHeader false nri 24 :: aggregate units) (some (units.flatMap fun nal => syncBytes ++ nal,true))

section Unpack
variable {data : Memory} {l2Offset len : Half}

private theorem rxNalu_eq {header : Byte} (there : data l2Offset.toNat = header) (clear : naluForbidden header = false) :
    rxNalu data l2Offset len =
      if (naluType header).setWidth 8 ∈ CVF_H264_NALU_TYPES_RESERVED then none
      else if (naluType header).setWidth 8 = CVF_H264_NALU_TYPE_STAP_A then rxStapA data l2Offset len
      else if (naluType header).setWidth 8 ∈ CVF_H264_NALU_TYPES_UNHANDLED then none
      else if (naluType header).setWidth 8 = CVF_H264_NALU_TYPE_FU_B ||
        (naluType header).setWidth 8 = CVF_H264_NALU_TYPE_FU_A then some (rxFu data l2Offset len)
      else some (rxSingle data l2Offset len) := by
  unfold rxNalu
  rw [there]
  dsimp only
  rw [clear,if_neg Bool.false_ne_true]

theorem rxNalu_none {payload : List Byte} (unpacks : Unpacks payload none)
    (held : data.bytes l2Offset.toNat payload.length = payload) : rxNalu data l2Offset len = none := by
  cases unpacks with
  | @reserved header rest known =>
    have there : data l2Offset.toNat = header := bytes_get held (Nat.zero_lt_succ _ : 0 < (header :: rest).length)
    cases forbidden : naluForbidden header with
    | true =>
      unfold rxNalu
      rw [there]
      rw [if_pos forbidden]
    | false => rw [rxNalu_eq there forbidden,if_pos known]

theorem naluType_small {type : BitVec 5} (small : type < 24) : type.setWidth 8 ≠ CVF_H264_NALU_TYPE_STAP_A ∧
    (type.setWidth 8 : Byte) ∉ CVF_H264_NALU_TYPES_UNHANDLED ∧ type.setWidth 8 ≠ CVF_H264_NALU_TYPE_FU_B ∧
    type.setWidth 8 ≠ CVF_H264_NALU_TYPE_FU_A := by
  revert type
  decide

private theorem rxNalu_fu {nri : BitVec 2} {rest : List Byte}
    (held : data.bytes l2Offset.toNat (naluHeader false nri 28 :: rest).length = naluHeader false nri 28 :: rest) :
    rxNalu data l2Offset len = some (rxFu data l2Offset len) := by
  have there : data l2Offset.toNat = naluHeader false nri 28 :=
    bytes_get held (Nat.zero_lt_succ _ : 0 < (naluHeader false nri 28 :: rest).length)
  obtain ⟨clear,_,type⟩ := naluHeader_parts false nri 28
  rw [rxNalu_eq there clear,type,if_neg (by decide),if_neg (by decide),if_neg (by decide),if_pos (by decide)]

theorem rxNalu_some {payload bytes : List Byte} {ends : Bool} (unpacks : Unpacks payload (some (bytes,ends)))
    (held : data.bytes l2Offset.toNat payload.length = payload) (length : len.toNat = payload.length)
    (low : 4 ≤ l2Offset.toNat) (inside : l2Offset.toNat + payload.length < 2 ^ 16) :
    ∃ out, rxNalu data l2Offset len = some out ∧ Makes data (l2Offset.toNat - 4) out bytes ends := by
  cases unpacks with
  | @single header rest clear small known =>
    have there : data l2Offset.toNat = header := bytes_get held (Nat.zero_lt_succ _ : 0 < (header :: rest).length)
    obtain ⟨stapA,unhandled,fuB,fuA⟩ := naluType_small small
    rw [rxNalu_eq there clear,if_neg known,if_neg stapA,if_neg unhandled,if_neg (by simp [fuA,fuB])]
    exact ⟨_,rfl,rxSingle_makes held length low (by omega)⟩
  | @first nri type e bytes =>
    obtain ⟨start,_,unit⟩ := naluFuHeader_parts true e type
    obtain ⟨clear,kept,_⟩ := naluHeader_parts false nri 28
    rw [rxNalu_fu held]
    refine ⟨_,rfl,?_⟩
    have makes := rxFu_start (by rw [Nat.add_comm]; exact held) (by rw [length,Nat.add_comm]; rfl) low
      (by rw [length_cons,length_cons] at inside; omega) start
    rw [clear,kept,unit] at makes
    exact makes
  | @next nri type =>
    obtain ⟨start,last,_⟩ := naluFuHeader_parts false ends type
    rw [rxNalu_fu held]
    refine ⟨_,rfl,?_⟩
    have makes := rxFu_next (by rw [Nat.add_comm]; exact held) (by rw [length,Nat.add_comm]; rfl)
      (by rw [length_cons,length_cons] at inside; omega) start
    rw [last] at makes
    exact makes
  | @aggregated nri units fit few =>
    have there : data l2Offset.toNat = naluHeader false nri 24 :=
      bytes_get held (Nat.zero_lt_succ _ : 0 < (naluHeader false nri 24 :: aggregate units).length)
    obtain ⟨clear,_,type⟩ := naluHeader_parts false nri 24
    rw [rxNalu_eq there clear,type,if_neg (by decide),if_pos (by decide)]
    exact rxStapA_makes (by rw [Nat.add_comm]; exact held) (by rw [length,Nat.add_comm]; rfl) low fit few
      (by rw [length_cons] at inside; omega)

end Unpack

def Yields (fragment : H264Fragment) (bytes : List Byte) (ends : Bool) : Prop :=
  Unpacks fragment.payload (some (bytes,ends)) ∧ (ends = true → bytes ≠ [])

def Delivers (fragment : H264Fragment) (desc : NetRxDesc) : Prop :=
  ∃ packet : H264Packet, packet.fragment = fragment ∧ H264Carries packet desc

abbrev receiveH264 : NetRxDesc → StreamListener Unit → Handled × StreamListener Unit :=
  receivePacket (stateless (avtpCvfH264RxDesc true))

section Receive
variable {fragment : H264Fragment} {desc : NetRxDesc} {stream : StreamListener Unit}

private theorem receiveH264_gives {bytes : List Byte} {ends : Bool} (delivers : Delivers fragment desc)
    (yields : Yields fragment bytes ends) (kind : stream.subtype = AVTP_SUBTYPE_CVF) : ∃ media after flags,
    receiveH264 desc stream = (Handled.give media,after) ∧ after.subtype = AVTP_SUBTYPE_CVF ∧
      Hands flags fragment bytes ends media := by
  obtain ⟨packet,rfl,carries⟩ := delivers
  have room := carries.room
  obtain ⟨offset,length⟩ := carries.place (packetFlags desc stream)
  obtain ⟨_,_,held⟩ := carries.parts
  rw [← offset] at held
  obtain ⟨out,unpacked,makes⟩ := @rxNalu_some _ _ ((avtpRxDesc desc _).l4Len - 4) _ _ _ yields.1 held length
    (by rw [offset]; omega) (by rw [offset]; exact room)
  rw [offset] at makes
  obtain ⟨media,given,hands⟩ := rxDesc_hands carries _ unpacked makes yields.2
  refine ⟨media,StreamRx.follow desc stream,_,?_,kind,hands⟩
  rw [receiveH264,receivePacket,carries.header.1,kind,stateless,given]
  rfl

theorem receiveH264_drops (delivers : Delivers fragment desc) (unpacks : Unpacks fragment.payload none)
    (kind : stream.subtype = AVTP_SUBTYPE_CVF) : ∃ after,
    receiveH264 desc stream = (Handled.free desc.id,after) ∧ after.subtype = AVTP_SUBTYPE_CVF := by
  obtain ⟨packet,rfl,carries⟩ := delivers
  obtain ⟨offset,_⟩ := carries.place (packetFlags desc stream)
  obtain ⟨_,_,held⟩ := carries.parts
  rw [← offset] at held
  refine ⟨StreamRx.follow desc stream,?_,kind⟩
  rw [receiveH264,receivePacket,carries.header.1,kind,stateless,rxDesc_drops carries _ (rxNalu_none unpacks held)]
  rfl

private theorem packetEvents_plain (flags : AvtpFlags) : ∀ entry ∈ packetEvents flags, entry.flags.endOfFrame = false := by
  unfold packetEvents
  split
  · simp
  · intro entry member
    rw [mem_singleton.mp member]
    rfl

theorem received_front {fragments : List H264Fragment} {pieces : List (List Byte)} {desc : List NetRxDesc}
    (delivers : List.Forall₂ Delivers fragments desc)
    (yields : List.Forall₂ (fun fragment piece => Yields fragment piece false) fragments pieces)
    (stream : StreamListener Unit) (kind : stream.subtype = AVTP_SUBTYPE_CVF) : ∃ media after,
    eachItem receiveH264 desc stream = (⟨media,[]⟩,after) ∧ after.subtype = AVTP_SUBTYPE_CVF ∧
      media.flatMap MediaDesc.payload = pieces.flatten ∧
      ∀ other ∈ media, ∀ entry ∈ other.avtpTs, entry.flags.endOfFrame = false := by
  induction delivers generalizing pieces stream with
  | nil =>
    cases yields
    exact ⟨[],stream,rfl,kind,rfl,fun _ member => (nomatch member)⟩
  | cons first rest ih =>
    cases yields with
    | cons piece others =>
      obtain ⟨media,next,flags,given,kept,hands⟩ := receiveH264_gives first piece kind
      obtain ⟨later,after,done,last,bytes,plain⟩ := ih others next kept
      refine ⟨media :: later,after,?_,last,?_,?_⟩
      · rw [eachItem,given]
        dsimp only
        rw [done]
        rfl
      · rw [flatMap_cons,hands.payload,bytes,flatten_cons]
      · intro other member
        rcases mem_cons.mp member with rfl | old
        · rw [hands.avtpTs]
          simpa using packetEvents_plain flags.packet
        · exact plain other old

end Receive

/-- The output of a unit: its bytes, and one end-of-frame mark, on the last byte and with the timestamp of the unit. -/
structure Rebuilt (output : List Byte) (ts : Option Word) (media : List MediaDesc) : Prop where
  bytes : media.flatMap MediaDesc.payload = output
  mark : ∃ front last, media = front ++ [last] ∧ last.payload ≠ [] ∧
    (∀ other ∈ front, ∀ entry ∈ other.avtpTs, entry.flags.endOfFrame = false) ∧
    last.avtpTs.filter (fun entry => entry.flags.endOfFrame) =
      [⟨ts.getD 0,{AvtpFlags.none with endOfFrame := true,timestampInvalid := ts.isNone},
        BitVec.ofNat 16 (last.payload.length - 1)⟩]

structure UnitFragments (fragments : List H264Fragment) (output : List Byte) (ts : Option Word) : Prop where
  parts : ∃ front last pieces piece, fragments = front ++ [last] ∧
    List.Forall₂ (fun fragment piece => Yields fragment piece false) front pieces ∧ Yields last piece true ∧
    output = pieces.flatten ++ piece ∧ last.ptv = ts.isSome ∧ last.h264Timestamp = ts.getD 0

private theorem forall₂_split {α β : Type} {R : α → β → Prop} {first second : List α} {list : List β}
    (related : List.Forall₂ R (first ++ second) list) :
    ∃ front back, list = front ++ back ∧ List.Forall₂ R first front ∧ List.Forall₂ R second back := by
  induction first generalizing list with
  | nil => exact ⟨[],list,rfl,List.Forall₂.nil,related⟩
  | cons head rest ih =>
    cases related with
    | cons same others =>
      obtain ⟨front,back,rfl,ahead,behind⟩ := ih others
      exact ⟨_ :: front,back,rfl,List.Forall₂.cons same ahead,behind⟩

theorem received_unit {fragments : List H264Fragment} {output : List Byte} {ts : Option Word} {desc : List NetRxDesc}
    (unit : UnitFragments fragments output ts) (delivers : List.Forall₂ Delivers fragments desc)
    (stream : StreamListener Unit) (kind : stream.subtype = AVTP_SUBTYPE_CVF) : ∃ media after,
    eachItem receiveH264 desc stream = (⟨media,[]⟩,after) ∧ after.subtype = AVTP_SUBTYPE_CVF ∧
      Rebuilt output ts media := by
  obtain ⟨front,last,pieces,piece,rfl,before,final,rfl,ptv,time⟩ := unit.parts
  obtain ⟨frames,ending,rfl,ahead,behind⟩ := forall₂_split delivers
  obtain ⟨media,next,done,kept,bytes,plain⟩ := received_front ahead before stream kind
  cases behind with
  | cons same none =>
    cases none
    obtain ⟨mark,after,flags,given,still,hands⟩ := receiveH264_gives same final kept
    have some := final.2 rfl
    refine ⟨media ++ [mark],after,?_,still,?_,media,mark,rfl,by rw [hands.payload]; exact some,plain,?_⟩
    · rw [eachItem_append,done]
      rw [eachItem,given]
      rfl
    · rw [flatMap_append,bytes,flatMap_singleton,hands.payload]
    · have events : (packetEvents flags.packet).filter (fun entry => entry.flags.endOfFrame) = [] := by
        apply filter_eq_nil_iff.mpr
        intro entry member
        rw [packetEvents_plain flags.packet entry member]
        exact Bool.false_ne_true
      rw [hands.avtpTs,filter_append,events,hands.payload,if_pos rfl,endMark,ptv,time]
      cases ts <;> rfl

/-- The packets of the media stack for one unit: in one packet or in fragments, or an aggregation. -/
inductive MediaUnit : List H264RxDesc → List Byte → Option Word → Prop
  | single {desc : H264RxDesc} {header : Byte} {rest : List Byte} : naluForbidden header = false →
      naluType header < 24 → desc.bytes = header :: rest → desc.endFrame = true →
      MediaUnit [desc] (syncBytes ++ header :: rest) desc.ts
  | fragments {first last : H264RxDesc} {middle : List H264RxDesc} {header : Byte} {bytes : List Byte} :
      naluForbidden header = false → naluType header < 24 →
      first.bytes = CVF_H264_NALU_TYPE_FU_A :: header :: bytes → first.endFrame = false →
      (∀ desc ∈ middle, 2 ≤ desc.bytes.length ∧ desc.endFrame = false) →
      2 < last.bytes.length → last.endFrame = true →
      MediaUnit (first :: middle ++ [last])
        (syncBytes ++ header :: (bytes ++ middle.flatMap (fun desc => desc.bytes.drop 2) ++ last.bytes.drop 2)) first.ts
  | aggregated {desc : H264RxDesc} {nri : BitVec 2} {units : List (List Byte)} : (∀ nal ∈ units, 0 < nal.length) →
      units.length = 1 ∨ units.length = 2 →
      desc.bytes = naluHeader false nri 24 :: aggregate units → desc.endFrame = true →
      MediaUnit [desc] (units.flatMap fun nal => syncBytes ++ nal) desc.ts

def Reserved (desc : List H264RxDesc) : Prop :=
  ∃ only header rest, desc = [only] ∧ only.bytes = header :: rest ∧
    (naluType header).setWidth 8 ∈ CVF_H264_NALU_TYPES_RESERVED

namespace CvfH264Data
variable {data : CvfH264Data} {desc : H264RxDesc}

def fragments : List H264RxDesc → CvfH264Data → List H264Fragment × CvfH264Data
  | [],data => ([],data)
  | desc :: rest,data =>
    let (fragment,data) := data.fragment desc
    let (others,data) := fragments rest data
    (fragment :: others,data)

private theorem fragments_append (first second : List H264RxDesc) (data : CvfH264Data) : fragments (first ++ second) data =
    ((fragments first data).1 ++ (fragments second (fragments first data).2).1,
      (fragments second (fragments first data).2).2) := by
  induction first generalizing data with
  | nil => rfl
  | cons desc rest ih =>
    simp [fragments,ih]

private theorem fragments_singleton (desc : H264RxDesc) (data : CvfH264Data) :
    fragments [desc] data = ([(data.fragment desc).1],(data.fragment desc).2) := rfl

theorem fragment_single {header : Byte} {rest : List Byte} (idle : data.prevIncompleteNal = false)
    (bytes : desc.bytes = header :: rest) (whole : header ≠ CVF_H264_NALU_TYPE_FU_A) :
    data.fragment desc = (⟨desc.ts.isSome,desc.ts.getD 0,desc.bytes⟩,
      ⟨!desc.endFrame,desc.ts.isSome,desc.ts.getD data.h264Timestamp,header⟩) := by
  have single : (desc.bytes.getD 0 0 == CVF_H264_NALU_TYPE_FU_A) = false := by simpa [bytes] using whole
  unfold fragment
  rw [idle,bne,single,bytes]
  cases desc.ts <;> rfl

theorem fragment_first {header : Byte} {rest : List Byte} (idle : data.prevIncompleteNal = false)
    (bytes : desc.bytes = CVF_H264_NALU_TYPE_FU_A :: header :: rest) (more : desc.endFrame = false) :
    data.fragment desc = (⟨desc.ts.isSome,desc.ts.getD 0,
        Avtp.naluHeader false (naluNri header) 28 :: naluFuHeader true false (naluType header) :: rest⟩,
      ⟨true,desc.ts.isSome,desc.ts.getD data.h264Timestamp,header⟩) := by
  unfold fragment
  rw [idle,bytes,more]
  cases desc.ts <;> rfl

private theorem fragment_next {first second : Byte} {rest : List Byte} (waiting : data.prevIncompleteNal = true)
    (bytes : desc.bytes = first :: second :: rest) :
    data.fragment desc = (⟨data.isNaluTsValid,if data.isNaluTsValid then data.h264Timestamp else 0,
        Avtp.naluHeader false (naluNri data.naluHeader) 28 ::
          naluFuHeader false desc.endFrame (naluType data.naluHeader) :: rest⟩,
      {data with prevIncompleteNal := !desc.endFrame}) := by
  unfold fragment
  rw [waiting,bytes]
  rfl

private theorem two_bytes {list : List Byte} (long : 2 ≤ list.length) :
    ∃ first second, list = first :: second :: list.drop 2 := by
  match list,long with
  | first :: second :: rest,_ => exact ⟨first,second,rfl⟩

private theorem fragments_middle (middle : List H264RxDesc)
    (inside : ∀ desc ∈ middle, 2 ≤ desc.bytes.length ∧ desc.endFrame = false) (waiting : data.prevIncompleteNal = true) :
    (fragments middle data).2 = data ∧
    List.Forall₂ (fun fragment piece => Yields fragment piece false) (fragments middle data).1
      (middle.map fun desc => desc.bytes.drop 2) := by
  induction middle with
  | nil => exact ⟨rfl,List.Forall₂.nil⟩
  | cons desc rest ih =>
    obtain ⟨long,more⟩ := inside desc mem_cons_self
    obtain ⟨first,second,bytes⟩ := two_bytes long
    have step := fragment_next waiting bytes
    have same : ({data with prevIncompleteNal := !desc.endFrame} : CvfH264Data) = data := by
      rw [more,Bool.not_false,← waiting]
    obtain ⟨kept,others⟩ := ih fun other member => inside other (mem_cons_of_mem _ member)
    rw [fragments,step,same]
    refine ⟨kept,List.Forall₂.cons ⟨?_,fun ends => absurd ends Bool.false_ne_true⟩ others⟩
    rw [more]
    exact Unpacks.next

theorem fragments_long {first last : H264RxDesc} {middle : List H264RxDesc} {lead : H264Fragment} {state : CvfH264Data}
    (start : data.fragment first = (lead,state)) (waiting : state.prevIncompleteNal = true)
    (inside : ∀ desc ∈ middle, 2 ≤ desc.bytes.length ∧ desc.endFrame = false) (long : 2 < last.bytes.length)
    (ends : last.endFrame = true) : ∃ mark,
    fragments (first :: middle ++ [last]) data =
      (lead :: (fragments middle state).1 ++ [mark],{state with prevIncompleteNal := false}) ∧
    Yields mark (last.bytes.drop 2) true ∧ mark.ptv = state.isNaluTsValid ∧
    mark.h264Timestamp = if state.isNaluTsValid then state.h264Timestamp else 0 := by
  obtain ⟨a,b,tail⟩ := two_bytes (Nat.le_of_lt long)
  have final := fragment_next waiting tail
  rw [ends] at final
  refine ⟨(state.fragment last).1,?_,?_,by rw [final],by rw [final]⟩
  · rw [fragments_append,fragments,start]
    rw [(fragments_middle middle inside waiting).1,fragments_singleton,final]
    rfl
  · rw [final]
    refine ⟨Unpacks.next,fun _ none => ?_⟩
    have length := congrArg List.length none
    rw [length_drop,length_nil] at length
    omega

private theorem fragments_one {header : Byte} {rest output : List Byte} (idle : data.prevIncompleteNal = false)
    (bytes : desc.bytes = header :: rest) (whole : naluType header ≠ 28) (ends : desc.endFrame = true) :
    (fragments [desc] data).2.prevIncompleteNal = false ∧
    (Unpacks desc.bytes (some (output,true)) → output ≠ [] → UnitFragments (fragments [desc] data).1 output desc.ts) ∧
    (Unpacks desc.bytes none → ∃ fragment, (fragments [desc] data).1 = [fragment] ∧ Unpacks fragment.payload none) := by
  have marker : header ≠ CVF_H264_NALU_TYPE_FU_A := by
    intro same
    rw [same] at whole
    exact whole (by decide)
  have step := fragment_single idle bytes marker
  rw [fragments_singleton,step,ends]
  refine ⟨rfl,fun unpacks some => ⟨[],_,[],output,rfl,List.Forall₂.nil,⟨unpacks,fun _ => some⟩,rfl,rfl,rfl⟩,?_⟩
  exact fun unpacks => ⟨_,rfl,unpacks⟩

theorem fragments_unit {packets : List H264RxDesc} {output : List Byte} {ts : Option Word}
    (unit : MediaUnit packets output ts) (idle : data.prevIncompleteNal = false) :
    (fragments packets data).2.prevIncompleteNal = false ∧
    (¬ Reserved packets → UnitFragments (fragments packets data).1 output ts) ∧
    (Reserved packets → ∃ fragment, (fragments packets data).1 = [fragment] ∧ Unpacks fragment.payload none) := by
  cases unit with
  | @single desc header rest clear small bytes ends =>
    have whole : naluType header ≠ 28 := by
      intro same
      rw [same] at small
      exact absurd small (by decide)
    obtain ⟨done,gives,drops⟩ := @fragments_one data desc header rest (syncBytes ++ header :: rest) idle bytes whole ends
    refine ⟨done,fun known => gives ?_ (by simp),?_⟩
    · rw [bytes]
      exact Unpacks.single clear small fun reserved => known ⟨desc,header,rest,rfl,bytes,reserved⟩
    · rintro ⟨only,first,others,same,given,reserved⟩
      cases same
      apply drops
      rw [given]
      exact Unpacks.reserved reserved
  | @fragments first last middle header rest clear small bytes more inside long ends =>
    have several : ¬ Reserved (first :: middle ++ [last]) := by
      rintro ⟨only,_,_,same,_⟩
      have length := congrArg List.length same
      simp at length
    have start := fragment_first idle bytes more
    obtain ⟨mark,whole,piece,ptv,time⟩ := fragments_long start rfl inside long ends
    obtain ⟨_,pieces⟩ := @fragments_middle ⟨true,first.ts.isSome,first.ts.getD data.h264Timestamp,header⟩ middle inside rfl
    rw [whole]
    refine ⟨rfl,fun _ => ⟨_,mark,_,last.bytes.drop 2,rfl,List.Forall₂.cons ⟨Unpacks.first,?_⟩ pieces,piece,?_,ptv,?_⟩,
      fun reserved => absurd reserved several⟩
    · exact fun ends => absurd ends Bool.false_ne_true
    · rw [← clear,naluHeader_whole]
      simp [List.flatMap]
    · rw [time]
      cases first.ts <;> rfl
  | @aggregated desc nri units fit few bytes ends =>
    obtain ⟨_,_,type⟩ := naluHeader_parts false nri 24
    have whole : naluType (Avtp.naluHeader false nri 24) ≠ 28 := by
      rw [type]
      decide
    obtain ⟨done,gives,_⟩ := @fragments_one data desc _ _ (units.flatMap fun nal => syncBytes ++ nal) idle bytes whole ends
    refine ⟨done,fun _ => gives ?_ ?_,?_⟩
    · rw [bytes]
      exact Unpacks.aggregated fit few
    · intro empty
      match units,few with
      | nal :: rest,_ => simp [syncBytes] at empty
    · rintro ⟨only,header,rest,same,given,reserved⟩
      cases same
      rw [bytes] at given
      cases given
      rw [type] at reserved
      exact absurd reserved (by decide)

end CvfH264Data

/-- A unit with its packets of the media stack, what the listener should make of them, and its timestamp. -/
structure H264Unit where
  packets : List H264RxDesc
  output : List Byte
  ts : Option Word
  given : MediaUnit packets output ts

def Received (unit : H264Unit) (media : List MediaDesc) : Prop :=
  (Reserved unit.packets → media = []) ∧ (¬ Reserved unit.packets → Rebuilt unit.output unit.ts media)

theorem received_units (units : List H264Unit) {data : CvfH264Data} (idle : data.prevIncompleteNal = false)
    {desc : List NetRxDesc}
    (delivers : List.Forall₂ Delivers (CvfH264Data.fragments (units.flatMap H264Unit.packets) data).1 desc)
    (stream : StreamListener Unit) (kind : stream.subtype = AVTP_SUBTYPE_CVF) : ∃ groups,
    (eachItem receiveH264 desc stream).1.media = groups.flatten ∧ List.Forall₂ Received units groups := by
  induction units generalizing data desc stream with
  | nil =>
    cases delivers
    exact ⟨[],rfl,List.Forall₂.nil⟩
  | cons unit rest ih =>
    obtain ⟨done,whole,dropped⟩ := CvfH264Data.fragments_unit unit.given idle
    rw [flatMap_cons,CvfH264Data.fragments_append] at delivers
    obtain ⟨front,back,rfl,ahead,behind⟩ := forall₂_split delivers
    have one : ∃ media, (eachItem receiveH264 front stream).1.media = media ∧
        (eachItem receiveH264 front stream).2.subtype = AVTP_SUBTYPE_CVF ∧ Received unit media := by
      by_cases reserved : Reserved unit.packets
      · obtain ⟨fragment,only,unpacks⟩ := dropped reserved
        rw [only] at ahead
        cases ahead with
        | cons same none =>
          cases none
          obtain ⟨after,freed,kept⟩ := receiveH264_drops same unpacks kind
          refine ⟨[],?_,?_,fun _ => rfl,fun known => absurd reserved known⟩
          · rw [eachItem,freed]
            rfl
          · rw [eachItem,freed]
            exact kept
      · obtain ⟨media,after,received,kept,rebuilt⟩ := received_unit (whole reserved) ahead stream kind
        refine ⟨media,?_,?_,fun other => absurd other reserved,fun _ => rebuilt⟩
        · rw [received]
        · rw [received]
          exact kept
    obtain ⟨media,output,kept,received⟩ := one
    obtain ⟨groups,others,each⟩ := ih done behind _ kept
    refine ⟨media :: groups,?_,List.Forall₂.cons received each⟩
    rw [eachItem_append]
    change (eachItem receiveH264 front stream).1.media ++ _ = _
    rw [output,others,flatten_cons]

def H264Tick.taken (txBatch : Nat) (tick : H264Tick) : List H264RxDesc :=
  if tick.mediaClock.length = txBatch then tick.mediaRx.getD [] else []

namespace H264Talker
variable {talker : H264Talker}

theorem sendPackets_fragments (framesPerPacket : Word) (desc : List H264RxDesc) (ts : List Word) (talker : H264Talker) :
    (talker.sendPackets framesPerPacket desc ts).sent.map fragment =
      talker.sent.map fragment ++ (CvfH264Data.fragments desc talker.subtypeData).1 ∧
    (talker.sendPackets framesPerPacket desc ts).subtypeData = (CvfH264Data.fragments desc talker.subtypeData).2 := by
  induction desc generalizing ts talker with
  | nil => exact ⟨(append_nil _).symm,rfl⟩
  | cons first rest ih =>
    obtain ⟨sent,data⟩ := ih (if first.endFrame then ts.drop 1 else ts) (talker.sendPacket framesPerPacket first ts)
    rw [sendPackets,sent,data]
    refine ⟨?_,rfl⟩
    change (talker.sent ++ [_]).map fragment ++ _ = _
    rw [List.map_append,List.append_assoc]
    rfl

theorem run_fragments (framesPerPacket : Word) (txBatch : Nat) (ticks : List H264Tick) (talker : H264Talker) :
    (run (avtpCvfH264NetTx framesPerPacket txBatch) ticks talker).sent.map fragment =
      talker.sent.map fragment ++
        (CvfH264Data.fragments (ticks.flatMap (H264Tick.taken txBatch)) talker.subtypeData).1 := by
  induction ticks generalizing talker with
  | nil => exact (append_nil _).symm
  | cons tick rest ih =>
    have step : (avtpCvfH264NetTx framesPerPacket txBatch tick talker).sent.map fragment =
          talker.sent.map fragment ++ (CvfH264Data.fragments (tick.taken txBatch) talker.subtypeData).1 ∧
        (avtpCvfH264NetTx framesPerPacket txBatch tick talker).subtypeData =
          (CvfH264Data.fragments (tick.taken txBatch) talker.subtypeData).2 := by
      obtain ⟨mediaRx,mediaClock,reset⟩ := tick
      cases mediaRx with
      | none =>
        have nothing : (⟨none,mediaClock,reset⟩ : H264Tick).taken txBatch = [] := by
          unfold H264Tick.taken
          split <;> rfl
        rw [nothing]
        exact ⟨(append_nil _).symm,rfl⟩
      | some desc =>
        unfold avtpCvfH264NetTx H264Tick.taken
        dsimp only
        by_cases answered : mediaClock.length = txBatch
        · rw [if_neg (not_not.mpr answered),if_pos answered,Option.getD_some]
          obtain ⟨sent,data⟩ := sendPackets_fragments framesPerPacket desc mediaClock
            (if reset then {talker with mr := !talker.mr} else talker)
          rw [sent,data]
          cases reset <;> exact ⟨rfl,rfl⟩
        · rw [if_pos answered,if_neg answered]
          exact ⟨(append_nil _).symm,rfl⟩
    rw [run_cons,ih,step.1,step.2,flatMap_cons,CvfH264Data.fragments_append,List.append_assoc]

end H264Talker

def h264Listener (source : Bool) : StreamListener Unit := ⟨AVTP_SUBTYPE_CVF,source,0,0,false,()⟩

/-- Units that are sent in any batches and received in any batches come out as start code and bytes with one mark at
their end, but for those of a reserved type in one packet. -/
theorem h264_round_trip (framesPerPacket : Word) (txBatch : Nat) (ticks : List H264Tick) (units : List H264Unit)
    (source : Bool) {received : List (List NetRxDesc)}
    (handed : ticks.flatMap (H264Tick.taken txBatch) = units.flatMap H264Unit.packets)
    (carries : List.Forall₂ H264Carries
      (run (H264Talker.avtpCvfH264NetTx framesPerPacket txBatch) ticks H264Talker.init).sent received.flatten) :
    ∃ groups, (streamBatches (avtpCvfH264NetRx true) received (h264Listener source)).1.media = groups.flatten ∧
      List.Forall₂ Received units groups := by
  have fragments := run_fragments framesPerPacket txBatch ticks init
  rw [handed] at fragments
  rw [avtpCvfH264NetRx,streamBatches_each]
  apply received_units units (rfl : init.subtypeData.prevIncompleteNal = false)
  · rw [← nil_append (CvfH264Data.fragments _ _).1]
    change List.Forall₂ Delivers (init.sent.map fragment ++ _) _
    rw [← fragments,forall₂_map_left_iff]
    exact carries.imp fun packet _ carried => ⟨packet,rfl,carried⟩
  · rfl

def H264Packet.frame (packet : H264Packet) : NetRxDesc :=
  ⟨0,0,0,142,0,write (fun _ => 0) 142 (packet.header (0,0) ++ packet.fragment.payload)⟩

theorem frame_carries {packet : H264Packet} (short : packet.fragment.payload.length < 1500) :
    H264Carries packet packet.frame := by
  refine ⟨?_,(0,0),?_⟩
  · change 142 + 28 + _ < _
    omega
  · have whole := bytes_write (fun _ => 0) 142 (packet.header (0,0) ++ packet.fragment.payload)
    rw [length_append,H264Carries.length_header] at whole
    exact whole

def H264Unit.tick (unit : H264Unit) : H264Tick := ⟨some unit.packets,[1000],false⟩

def H264Unit.sent (unit : H264Unit) : List H264Packet :=
  (run (avtpCvfH264NetTx 1 1) [unit.tick] init).sent

private theorem sent_carries {unit : H264Unit} (short : ∀ packet ∈ unit.sent, packet.fragment.payload.length < 1500) :
    List.Forall₂ H264Carries unit.sent (unit.sent.map frame) := by
  rw [forall₂_map_right_iff,forall₂_same]
  exact fun packet member => frame_carries (short packet member)

def pictureUnit : H264Unit :=
  ⟨[⟨[28,0x65,0xaa],true,false,some 7⟩] ++ [] ++ [⟨[0,0,0xbb],true,true,none⟩],_,_,
    MediaUnit.fragments (by decide) (by decide) rfl rfl (by simp) (by decide) rfl⟩

theorem pictureUnit_received : ∃ groups,
    (streamBatches (avtpCvfH264NetRx true) [pictureUnit.sent.map H264Packet.frame] (h264Listener false)).1.media =
      groups.flatten ∧ List.Forall₂ Received [pictureUnit] groups := by
  apply h264_round_trip 1 1 [pictureUnit.tick]
  · rfl
  · rw [flatten_singleton]
    exact sent_carries (by decide)

def unspecifiedUnit : H264Unit := ⟨[⟨[0x60,1],false,true,some 7⟩],_,_,MediaUnit.single (by decide) (by decide) rfl rfl⟩

theorem unspecifiedUnit_dropped : [unspecifiedUnit.tick].flatMap (H264Tick.taken 1) = unspecifiedUnit.packets ∧
    List.Forall₂ H264Carries unspecifiedUnit.sent (unspecifiedUnit.sent.map H264Packet.frame) ∧
    ¬ Rebuilt unspecifiedUnit.output unspecifiedUnit.ts
      (streamBatches (avtpCvfH264NetRx true) [unspecifiedUnit.sent.map H264Packet.frame] (h264Listener false)).1.media := by
  refine ⟨rfl,?_,?_⟩
  · exact sent_carries (by decide)
  · intro rebuilt
    obtain ⟨front,last,media,_⟩ := rebuilt.mark
    have length := congrArg List.length media
    rw [length_append] at length
    have none : (streamBatches (avtpCvfH264NetRx true) [unspecifiedUnit.sent.map frame]
      (h264Listener false)).1.media.length = 0 := by decide
    rw [none] at length
    exact Nat.noConfusion length

end Genavb.Avtp
