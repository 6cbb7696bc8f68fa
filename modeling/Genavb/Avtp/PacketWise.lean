import Genavb.Avtp.Listeners
import Mathlib.Data.List.Forall2
import Mathlib.Data.List.Nodup

/-! Reception packet by packet: what the stream listeners do with a batch, and for which packets they keep to their own
frames and lose none. -/
namespace Genavb.Avtp
open StreamRx List
open BitVec (toNat_add toNat_setWidth toNat_sub)

def InFrame (frame : NetRxDesc) (l2Offset len : Half) : Prop :=
  frame.l2Offset.toNat ≤ l2Offset.toNat ∧
    l2Offset.toNat + len.toNat ≤ frame.l2Offset.toNat + frame.len.toNat

/-- What a callback owes for a batch: each descriptor is freed or handed over once, in order, whatever was in memory
before and however the batch is split, and with a payload inside its frame. -/
structure PacketWise {S : Type} (netRx : Leftover → List NetRxDesc → S → Handled × S) (desc : List NetRxDesc)
    (stream : S) : Prop where
  once : ∀ leftover, ((netRx leftover desc stream).1.media.map MediaDesc.id ++ (netRx leftover desc stream).1.freed).Perm
    (desc.map NetRxDesc.id)
  inOrder : ∀ leftover, ((netRx leftover desc stream).1.media.map MediaDesc.id).Sublist (desc.map NetRxDesc.id)
  own : ∀ first second, (netRx first desc stream).1 = (netRx second desc stream).1
  split : ∀ leftover parts, parts.flatten = desc →
    (eachItem (netRx leftover) parts stream).1 = (netRx leftover desc stream).1
  inside : ∀ leftover, ∀ frame ∈ desc, ∀ media ∈ (netRx leftover desc stream).1.media, media.id = frame.id →
    InFrame frame media.l2Offset media.len

def Treats (placed : Option (Half × Half)) (frame : NetRxDesc) (handled : Handled) : Prop :=
  match placed with
  | none => handled = Handled.free frame.id
  | some (l2Offset,len) => ∃ media, handled = Handled.give media ∧ media.id = frame.id ∧ media.l2Offset = l2Offset ∧
    media.len = len

def Places {S : Type} (one : NetRxDesc → S → Handled × S) (kept : S → Prop) (placed : NetRxDesc → Option (Half × Half))
    (desc : List NetRxDesc) : Prop :=
  ∀ frame ∈ desc, ∀ state, kept state → Treats (placed frame) frame (one frame state).1 ∧ kept (one frame state).2

section Placed
variable {S : Type} {one : NetRxDesc → S → Handled × S} {kept : S → Prop} {placed : NetRxDesc → Option (Half × Half)}
  {desc : List NetRxDesc}

private theorem placed_media (places : Places one kept placed desc) {state : S} (start : kept state) :
    List.Forall₂ (fun frame media => media.id = frame.id ∧ placed frame = some (media.l2Offset,media.len))
      (desc.filter fun frame => (placed frame).isSome) (eachItem one desc state).1.media ∧
    (eachItem one desc state).1.freed = (desc.filter fun frame => !(placed frame).isSome).map NetRxDesc.id := by
  induction desc generalizing state with
  | nil => exact ⟨List.Forall₂.nil,rfl⟩
  | cons frame rest ih =>
    obtain ⟨first,next⟩ := places frame mem_cons_self state start
    obtain ⟨media,freed⟩ := ih (fun other member => places other (mem_cons_of_mem _ member)) next
    rw [eachItem]
    dsimp only
    cases place : placed frame with
    | none =>
      rw [place] at first
      have handled : (one frame state).1 = Handled.free frame.id := first
      rw [handled]
      simp only [filter_cons,place]
      refine ⟨media,?_⟩
      change [frame.id] ++ (eachItem one rest (one frame state).2).1.freed = _
      rw [freed]
      rfl
    | some payload =>
      rw [place] at first
      obtain ⟨given,handled,id,offset,len⟩ := first
      rw [handled]
      simp only [filter_cons,place]
      refine ⟨List.Forall₂.cons ⟨id,?_⟩ media,freed⟩
      rw [place,offset,len]

private theorem forall₂_ids {frames : List NetRxDesc} {media : List MediaDesc}
    (related : List.Forall₂ (fun frame media => media.id = frame.id ∧ placed frame = some (media.l2Offset,media.len))
      frames media) : media.map MediaDesc.id = frames.map NetRxDesc.id := by
  induction related with
  | nil => rfl
  | cons same _ ih => rw [map_cons,map_cons,same.1,ih]

section
variable (places : Places one kept placed desc)
include places

theorem placed_once {state : S} (start : kept state) :
    ((eachItem one desc state).1.media.map MediaDesc.id ++ (eachItem one desc state).1.freed).Perm
      (desc.map NetRxDesc.id) := by
  obtain ⟨media,freed⟩ := placed_media places start
  rw [forall₂_ids media,freed,← map_append]
  exact (filter_append_perm _ desc).map NetRxDesc.id

theorem placed_inOrder {state : S} (start : kept state) :
    ((eachItem one desc state).1.media.map MediaDesc.id).Sublist (desc.map NetRxDesc.id) := by
  rw [forall₂_ids (placed_media places start).1]
  exact filter_sublist.map _

theorem placed_inside
    (distinct : (desc.map NetRxDesc.id).Nodup) {state : S} (start : kept state) :
    (∀ frame ∈ desc, ∀ media ∈ (eachItem one desc state).1.media, media.id = frame.id →
      InFrame frame media.l2Offset media.len) ↔
    ∀ frame ∈ desc, ∀ payload, placed frame = some payload → InFrame frame payload.1 payload.2 := by
  have media := (placed_media places start).1
  rw [forall₂_iff_zip] at media
  obtain ⟨lengths,pairs⟩ := media
  constructor
  · intro inside frame member payload place
    have there : frame ∈ desc.filter fun frame => (placed frame).isSome := mem_filter.mpr ⟨member,by rw [place]; rfl⟩
    obtain ⟨index,bound,there⟩ := getElem_of_mem there
    have other : index < (eachItem one desc state).1.media.length := lengths ▸ bound
    have pair := @pairs frame ((eachItem one desc state).1.media[index]) (by
      rw [mem_iff_getElem]
      exact ⟨index,by rw [length_zip]; omega,by simp [there]⟩)
    have within := inside frame member _ (getElem_mem other) pair.1
    rw [place] at pair
    cases pair.2
    exact within
  · intro inside frame member media handed same
    obtain ⟨index,bound,there⟩ := getElem_of_mem handed
    have other : index < (desc.filter fun frame => (placed frame).isSome).length := lengths ▸ bound
    have pair := @pairs ((desc.filter fun frame => (placed frame).isSome)[index]) media (by
      rw [mem_iff_getElem]
      exact ⟨index,by rw [length_zip]; omega,by simp [there]⟩)
    have source := (mem_filter.mp (getElem_mem other)).1
    have equal := inj_on_of_nodup_map distinct source member (pair.1.symm.trans same)
    rw [equal] at pair
    exact inside frame member _ pair.2

end

end Placed

def ofSubtype (subtype : Byte) (placed : NetRxDesc → Option (Half × Half)) (frame : NetRxDesc) : Option (Half × Half) :=
  if frame.subtype != subtype then none else placed frame

theorem ofSubtype_inside {subtype : Byte} {placed : NetRxDesc → Option (Half × Half)} {desc : List NetRxDesc} :
    (∀ frame ∈ desc, ∀ payload, ofSubtype subtype placed frame = some payload → InFrame frame payload.1 payload.2) ↔
    ∀ frame ∈ desc, frame.subtype = subtype → ∀ payload, placed frame = some payload → InFrame frame payload.1 payload.2 := by
  constructor
  · intro inside frame member same payload place
    apply inside frame member payload
    rw [ofSubtype,same,bne_self_eq_false,if_neg Bool.false_ne_true,place]
  · intro inside frame member payload place
    by_cases other : (frame.subtype != subtype) = true
    · rw [ofSubtype,if_pos other] at place
      exact nomatch place
    · rw [ofSubtype,if_neg other] at place
      exact inside frame member (by simpa using other) payload place

section Each
variable {σ : Type} {placed : NetRxDesc → Option (Half × Half)}

theorem receivePacket_places {rxDesc : AvtpRxDesc → σ → Handled × σ} (subtype : Byte)
    (treats : ∀ frame flags state, Treats (placed frame) frame (rxDesc (avtpRxDesc frame flags) state).1)
    (desc : List NetRxDesc) :
    Places (receivePacket rxDesc) (fun stream => stream.subtype = subtype) (ofSubtype subtype placed) desc := by
  intro frame _ stream same
  unfold receivePacket ofSubtype
  rw [same]
  by_cases other : (frame.subtype != subtype) = true
  · rw [if_pos other,if_pos other]
    exact ⟨rfl,same⟩
  · rw [if_neg other,if_neg other]
    exact ⟨treats frame _ _,same⟩

private theorem streamNetRx_each (rxDesc : AvtpRxDesc → σ → Handled × σ) (desc : List NetRxDesc) (stream : StreamListener σ) :
    ListenerFormat.streamNetRx (ofEach rxDesc) desc stream = eachItem (receivePacket rxDesc) desc stream :=
  Prod.ext (avtpStreamNetRx_each rxDesc desc stream).1 (avtpStreamNetRx_each rxDesc desc stream).2

theorem each_packetWise {rxDesc : Leftover → AvtpRxDesc → σ → Handled × σ} (treats : ∀ leftover frame flags state,
      Treats (placed frame) frame (rxDesc leftover (avtpRxDesc frame flags) state).1)
    {desc : List NetRxDesc} (distinct : (desc.map NetRxDesc.id).Nodup) (stream : StreamListener σ) :
    PacketWise (fun leftover => ListenerFormat.streamNetRx (ofEach (rxDesc leftover))) desc stream ↔
      (∀ first second, (eachItem (receivePacket (rxDesc first)) desc stream).1 =
        (eachItem (receivePacket (rxDesc second)) desc stream).1) ∧
      ∀ frame ∈ desc, frame.subtype = stream.subtype → ∀ payload, placed frame = some payload →
        InFrame frame payload.1 payload.2 := by
  have places := fun leftover => receivePacket_places stream.subtype (treats leftover) desc
  constructor
  · intro owed
    refine ⟨fun first second => ?_,?_⟩
    · have own := owed.own first second
      rw [streamNetRx_each,streamNetRx_each] at own
      exact own
    · have inside := owed.inside ⟨fun _ _ => 0,fun _ => 0⟩
      rw [streamNetRx_each,placed_inside (places _) distinct rfl] at inside
      exact ofSubtype_inside.mp inside
  · rintro ⟨own,inside⟩
    constructor
    · intro leftover
      rw [streamNetRx_each]
      exact placed_once (places leftover) rfl
    · intro leftover
      rw [streamNetRx_each]
      exact placed_inOrder (places leftover) rfl
    · intro first second
      rw [streamNetRx_each,streamNetRx_each]
      exact own first second
    · rintro leftover parts rfl
      rw [streamNetRx_each,← streamBatches_each]
      rfl
    · intro leftover
      rw [streamNetRx_each,placed_inside (places leftover) distinct rfl]
      exact ofSubtype_inside.mpr inside

end Each

structure EthernetFrame (frame : NetRxDesc) : Prop where
  header : frame.l2Offset.toNat + 14 ≤ frame.l3Offset.toNat
  avtp : frame.l3Offset.toNat + 42 ≤ frame.l2Offset.toNat + frame.len.toNat
  room : frame.l2Offset.toNat + frame.len.toNat < 2 ^ 16

def Fits (headers : Nat) (frame : NetRxDesc) : Prop :=
  headers ≤ frame.streamDataLength.toNat ∧
    frame.l3Offset.toNat + 24 + frame.streamDataLength.toNat ≤ frame.l2Offset.toNat + frame.len.toNat

namespace EthernetFrame
variable {frame : NetRxDesc}

section
variable (valid : EthernetFrame frame)
include valid

theorem l4Offset : (frame.l3Offset + 24).toNat = frame.l3Offset.toNat + 24 := by
  have header := valid.avtp
  have room := valid.room
  change (_ + 24) % 2 ^ 16 = _
  omega

theorem inFrame_whole : InFrame frame (frame.l3Offset + 24) frame.streamDataLength ↔ Fits 0 frame := by
  have header := valid.header
  unfold InFrame Fits
  rw [valid.l4Offset]
  omega

theorem inFrame_headers : InFrame frame (frame.l3Offset + 24 + 8) (frame.streamDataLength - 8) ↔ Fits 8 frame := by
  have header := valid.header
  have avtp := valid.avtp
  have room := valid.room
  have eight : (8 : Half).toNat = 8 := rfl
  unfold InFrame Fits
  rw [toNat_add,toNat_sub,valid.l4Offset,eight]
  omega

theorem inFrame_ntscf :
    ntscfTruncated frame = false ↔ InFrame frame (frame.l3Offset + 12) (ntscfDataLength frame) := by
  have header := valid.header
  have avtp := valid.avtp
  have room := valid.room
  have offset : (frame.l3Offset + 12).toNat = frame.l3Offset.toNat + 12 := by
    change (_ + 12) % 2 ^ 16 = _
    omega
  unfold ntscfTruncated InFrame
  rw [decide_eq_false_iff_not,BitVec.lt_def,toNat_sub,toNat_sub,toNat_setWidth,
    toNat_setWidth,toNat_setWidth,toNat_setWidth,offset]
  omega

end

end EthernetFrame

def mismatch61883_6 (desc : AvtpRxDesc) : Bool :=
  decide (desc.tag ≠ IEC_61883_PSH_TAG_CIP_INCLUDED) || desc.sph || decide (desc.qpc ≠ 0) ||
    decide (desc.fmt ≠ IEC_61883_CIP_FMT_6) || decide (desc.fdf = IEC_61883_6_FDF_NODATA) ||
    !(decide (fdfEvt desc.fdf = IEC_61883_6_FDF_EVT_AM824) || decide (fdfEvt desc.fdf = IEC_61883_6_FDF_EVT_FLOATING) ||
      decide (fdfEvt desc.fdf = IEC_61883_6_FDF_EVT_INT32))

def payloadAt (refused : Bool) (l2Offset len : Half) : Option (Half × Half) :=
  if refused then none else some (l2Offset,len)

theorem payloadAt_inside {frame : NetRxDesc} {refused : Bool} {l2Offset len : Half} :
    (∀ payload, payloadAt refused l2Offset len = some payload → InFrame frame payload.1 payload.2) ↔
      (refused = false → InFrame frame l2Offset len) := by
  cases refused <;> simp [payloadAt]

section Checks
variable {frame : NetRxDesc} {flags : AvtpFlags}

theorem aaf_treats (data : AafData) (frame : NetRxDesc) (flags : AvtpFlags) :
    Treats (payloadAt (data.mismatch frame) (frame.l3Offset + 24) frame.streamDataLength) frame
      (aafRxDesc data (avtpRxDesc frame flags)) := by
  unfold payloadAt aafRxDesc
  change Treats _ frame (if data.mismatch frame then _ else _)
  split
  · rfl
  · exact ⟨_,rfl,rfl,rfl,rfl⟩

theorem tscf_treats (frame : NetRxDesc) (flags : AvtpFlags) :
    Treats (payloadAt false (frame.l3Offset + 24) frame.streamDataLength) frame
      (Handled.give (packetMedia (avtpRxDesc frame flags))) := ⟨_,rfl,rfl,rfl,rfl⟩

theorem iec61883_6_treats (config : Iec61883_6Stream) (frame : NetRxDesc) (flags : AvtpFlags) (sytCount : Byte) :
    Treats (payloadAt (mismatch61883_6 (avtpRxDesc frame AvtpFlags.none)) (frame.l3Offset + 24 + 8)
      (frame.streamDataLength - 8)) frame (avtp61883_6RxDesc config (avtpRxDesc frame flags) sytCount).1 := by
  have same : mismatch61883_6 (avtpRxDesc frame AvtpFlags.none) = mismatch61883_6 (avtpRxDesc frame flags) := rfl
  rw [same]
  unfold avtp61883_6RxDesc mismatch61883_6
  generalize (_ || _ || _ || decide ((avtpRxDesc frame flags).fmt ≠ IEC_61883_CIP_FMT_6)) = header
  generalize (_ || _ || decide (fdfEvt (avtpRxDesc frame flags).fdf = IEC_61883_6_FDF_EVT_INT32)) = known
  cases header with
  | true => rfl
  | false =>
    by_cases data : (avtpRxDesc frame flags).fdf = IEC_61883_6_FDF_NODATA
    · rw [decide_eq_true data,if_neg Bool.false_ne_true,if_pos data]
      rfl
    · rw [decide_eq_false data,if_neg Bool.false_ne_true,if_neg data]
      cases known with
      | false => rfl
      | true =>
        rw [if_pos rfl]
        split <;> exact ⟨_,rfl,rfl,rfl,rfl⟩

theorem mjpeg_treats (leftover : Leftover) (frame : NetRxDesc) (flags : AvtpFlags) (offset : Word) :
    Treats (payloadAt (mismatchMjpeg frame) (frame.l3Offset + 24 + 8) (frame.streamDataLength - 8)) frame
      (cvfMjpegRxDesc leftover (avtpRxDesc frame flags) offset).1 := by
  unfold payloadAt cvfMjpegRxDesc
  change Treats _ frame (if mismatchMjpeg frame then _ else _ : Handled × Word).1
  split
  · rfl
  · exact ⟨_,rfl,rfl,rfl,rfl⟩

end Checks

section H264
variable {data : Memory} {l2Offset len : Half}

/-- How many bytes the H.264 listener puts before a payload. It takes the two header bytes of a
fragment away that is not the first one. -/
def h264Before (data : Memory) (l2Offset len : Half) : Int :=
  let type : Byte := (naluType (data l2Offset.toNat)).setWidth 8
  if type = CVF_H264_NALU_TYPE_STAP_A then
    let payloadLength := (len.setWidth 32 - 1 : Word).toNat
    2 * stapUnits data payloadLength (l2Offset.toNat + 1) payloadLength - 1
  else if type = CVF_H264_NALU_TYPE_FU_B || type = CVF_H264_NALU_TYPE_FU_A then
    if (data (l2Offset.toNat + 1)).getLsbD 7 then 3 else -2
  else 4

def Shifted (l2Offset len : Half) (before : Int) (payload : NaluPayload) : Prop :=
  before ≤ 4 ∧ (payload.l2Offset.toNat : Int) = l2Offset.toNat - before ∧
    (payload.len.toNat : Int) = (len.toNat + before) % 2 ^ 16

private theorem shifted_back {before : Half} (few : before.toNat ≤ 4) (low : 4 ≤ l2Offset.toNat) (data : Memory) (ends : Bool) :
    Shifted l2Offset len before.toNat ⟨l2Offset - before,len + before,data,ends⟩ := by
  refine ⟨by omega,?_,?_⟩
  · change ((l2Offset - before).toNat : Int) = _
    rw [BitVec.toNat_sub_of_le (BitVec.le_def.mpr (Nat.le_trans few low))]
    omega
  · change ((len + before).toNat : Int) = _
    rw [toNat_add]
    omega

theorem rxStapA_shifted {payload : NaluPayload} (there : rxStapA data l2Offset len = some payload)
    (low : 4 ≤ l2Offset.toNat) (high : l2Offset.toNat + 2 < 2 ^ 16) :
    Shifted l2Offset len
      (2 * stapUnits data (len.setWidth 32 - 1 : Word).toNat (l2Offset.toNat + 1) (len.setWidth 32 - 1 : Word).toNat - 1)
      payload := by
  unfold rxStapA at there
  dsimp only at there
  generalize stapUnits data _ _ _ = units at there ⊢
  split at there
  · exact nomatch there
  next few =>
    cases there
    have cases : units = 0 ∨ units = 1 ∨ units = 2 := by omega
    rcases cases with rfl | rfl | rfl
    · have on := len.isLt
      refine ⟨by omega,?_,?_⟩
      · change ((l2Offset - 0xffff : Half).toNat : Int) = _
        change (((2 ^ 16 - 65535 + l2Offset.toNat) % 2 ^ 16 : Nat) : Int) = _
        omega
      · change ((len + 0xffff : Half).toNat : Int) = _
        change (((len.toNat + 65535) % 2 ^ 16 : Nat) : Int) = _
        omega
    · exact shifted_back (by decide : (1 : Half).toNat ≤ 4) low _ _
    · exact shifted_back (by decide : (3 : Half).toNat ≤ 4) low _ _

theorem rxFu_shifted (low : 4 ≤ l2Offset.toNat) (high : l2Offset.toNat + 2 < 2 ^ 16) :
    Shifted l2Offset len (if (data (l2Offset.toNat + 1)).getLsbD 7 then 3 else -2) (rxFu data l2Offset len) := by
  unfold rxFu
  dsimp only
  split
  · exact shifted_back (by decide : (3 : Half).toNat ≤ 4) low _ _
  · refine ⟨by decide,?_,?_⟩
    · change ((l2Offset + 2).toNat : Int) = _
      change (((l2Offset.toNat + 2) % 2 ^ 16 : Nat) : Int) = _
      omega
    · have on := len.isLt
      change ((len - 2).toNat : Int) = _
      change (((2 ^ 16 - 2 + len.toNat) % 2 ^ 16 : Nat) : Int) = _
      omega

theorem rxNalu_shifted {payload : NaluPayload} (there : rxNalu data l2Offset len = some payload)
    (low : 4 ≤ l2Offset.toNat) (high : l2Offset.toNat + 2 < 2 ^ 16) :
    Shifted l2Offset len (h264Before data l2Offset len) payload := by
  unfold rxNalu at there
  unfold h264Before
  dsimp only at there ⊢
  generalize (naluType (data l2Offset.toNat)).setWidth 8 = type at there ⊢
  split at there
  · exact nomatch there
  split at there
  · exact nomatch there
  split at there
  next aggregated =>
    rw [if_pos aggregated]
    exact rxStapA_shifted there low high
  next other =>
    rw [if_neg other]
    split at there
    · exact nomatch there
    split at there
    next fragment =>
      rw [if_pos fragment]
      cases there
      exact rxFu_shifted low high
    next single =>
      rw [if_neg single]
      cases there
      exact shifted_back (by decide : (4 : Half).toNat ≤ 4) low _ _

def h264Start (ieee1722_2016 : Bool) (frame : NetRxDesc) : Half × Half :=
  if ieee1722_2016 then (frame.l3Offset + 24 + 4,frame.streamDataLength - 4)
  else (frame.l3Offset + 24,frame.streamDataLength)

def mismatchH264 (frame : NetRxDesc) : Bool :=
  decide (frame.hdr 16 ≠ CVF_FORMAT_RFC) || decide (frame.hdr 17 ≠ CVF_FORMAT_SUBTYPE_H264)

def h264Refused (ieee1722_2016 : Bool) (frame : NetRxDesc) : Bool :=
  mismatchH264 frame || (rxNalu frame.data (h264Start ieee1722_2016 frame).1 (h264Start ieee1722_2016 frame).2).isNone

/-- The payload with what is put before it ends in the frame, or its length wraps around. -/
def H264Fits (ieee1722_2016 : Bool) (frame : NetRxDesc) : Prop :=
  let header : Int := if ieee1722_2016 then 4 else 0
  let (l2Offset,len) := h264Start ieee1722_2016 frame
  let length := frame.streamDataLength.toNat - header + h264Before frame.data l2Offset len
  0 ≤ length ∧ (2 ^ 16 ≤ length ∨ frame.l3Offset.toNat + 24 + frame.streamDataLength.toNat ≤
    frame.l2Offset.toNat + frame.len.toNat)

def h264Placed (ieee1722_2016 : Bool) (frame : NetRxDesc) : Option (Half × Half) :=
  if mismatchH264 frame then none
  else (rxNalu frame.data (h264Start ieee1722_2016 frame).1 (h264Start ieee1722_2016 frame).2).map fun payload =>
    (payload.l2Offset,payload.len)

theorem h264_treats (ieee1722_2016 : Bool) (frame : NetRxDesc) (flags : AvtpFlags) :
    Treats (h264Placed ieee1722_2016 frame) frame (avtpCvfH264RxDesc ieee1722_2016 (avtpRxDesc frame flags)) := by
  unfold h264Placed avtpCvfH264RxDesc
  change Treats _ frame (if mismatchH264 frame then _ else _)
  split
  · rfl
  · have start : (h264Start ieee1722_2016 frame).1 = (if ieee1722_2016 then (avtpRxDesc frame flags).l4Offset + 4
          else (avtpRxDesc frame flags).l4Offset) ∧
        (h264Start ieee1722_2016 frame).2 = (if ieee1722_2016 then (avtpRxDesc frame flags).l4Len - 4
          else (avtpRxDesc frame flags).l4Len) := by
      cases ieee1722_2016 <;> exact ⟨rfl,rfl⟩
    rw [start.1,start.2]
    dsimp only
    generalize found : rxNalu (avtpRxDesc frame flags).desc.data _ _ = payload
    have same : rxNalu frame.data _ _ = payload := found
    rw [same]
    cases payload with
    | none => rfl
    | some payload => exact ⟨_,rfl,rfl,rfl,rfl⟩

end H264

namespace EthernetFrame
variable {frame : NetRxDesc}

theorem inFrame_h264 (valid : EthernetFrame frame) (ieee1722_2016 : Bool) :
    (∀ payload, h264Placed ieee1722_2016 frame = some payload → InFrame frame payload.1 payload.2) ↔
      (h264Refused ieee1722_2016 frame = false → H264Fits ieee1722_2016 frame) := by
  have header := valid.header
  have avtp := valid.avtp
  have room := valid.room
  have four : (4 : Half).toNat = 4 := rfl
  have offset : (h264Start ieee1722_2016 frame).1.toNat =
      frame.l3Offset.toNat + 24 + (if ieee1722_2016 then 4 else 0) := by
    cases ieee1722_2016 with
    | false => exact valid.l4Offset
    | true =>
      change (frame.l3Offset + 24 + 4).toNat = _
      rw [toNat_add,valid.l4Offset,four,if_pos rfl]
      omega
  have len : ((h264Start ieee1722_2016 frame).2.toNat : Int) =
      (frame.streamDataLength.toNat - (if ieee1722_2016 then 4 else 0)) % 2 ^ 16 := by
    cases ieee1722_2016 with
    | false =>
      change (frame.streamDataLength.toNat : Int) = (_ - 0) % 2 ^ 16
      omega
    | true =>
      change ((frame.streamDataLength - 4).toNat : Int) = _
      rw [toNat_sub,four,if_pos rfl]
      omega
  unfold h264Placed h264Refused H264Fits
  cases mismatchH264 frame with
  | true => simp
  | false =>
    rw [if_neg Bool.false_ne_true,Bool.false_or]
    dsimp only
    generalize found : rxNalu frame.data _ _ = payload
    cases payload with
    | none => simp
    | some payload =>
      obtain ⟨few,first,second⟩ := rxNalu_shifted found (by omega) (by split at offset <;> omega)
      have inside : (∀ place, Option.map (fun payload : NaluPayload => (payload.l2Offset,payload.len)) (some payload) =
          some place → InFrame frame place.1 place.2) ↔ InFrame frame payload.l2Offset payload.len := by simp
      rw [inside]
      generalize h264Before _ _ _ = before at few first second ⊢
      unfold InFrame
      simp only [Option.isNone_some,forall_const]
      cases ieee1722_2016 <;> simp only [Bool.false_eq_true,if_true,if_false] at offset len ⊢ <;> omega

end EthernetFrame

end Genavb.Avtp
