import Genavb.Avtp.PacketWise

/-! Batches of the listeners whose packets depend on the ones before them in a call: IEC 61883-4,
MJPEG and NTSCF; and for which batches each of the listeners is packet-wise. -/
namespace Genavb.Avtp
open ListenerFormat StreamRx StreamRx
open List (append_assoc countP_cons length_append mem_cons_self)

section Loop
variable {σ κ : Type} (rxDesc : AvtpRxDesc → κ → Handled × κ) (start : κ)

/-- A packet on its own, with the data of the loop that it is handled in. A flush starts the loop again. -/
def loopPacket (frame : NetRxDesc) (state : StreamListener σ × κ) : Handled × (StreamListener σ × κ) :=
  let (stream,place) := state
  if frame.subtype != stream.subtype then (Handled.free frame.id,(stream,start))
  else
    let flags := packetFlags frame stream
    let place := if flags.packetLost || flags.mediaClockRestart then start else place
    let (handled,place) := rxDesc (avtpRxDesc frame flags) place
    (handled,(StreamRx.follow frame stream,place))

private theorem loopPacket_other {frame : NetRxDesc} {stream : StreamListener σ}
    (other : (frame.subtype != stream.subtype) = true)
    (place : κ) : loopPacket rxDesc start frame (stream,place) = (Handled.free frame.id,(stream,start)) := if_pos other

private theorem loopPacket_same {frame : NetRxDesc} {stream : StreamListener σ}
    (same : (frame.subtype != stream.subtype) = false)
    {flags : AvtpFlags} (found : packetFlags frame stream = flags) (place : κ) :
    loopPacket rxDesc start frame (stream,place) =
      ((rxDesc (avtpRxDesc frame flags) (if flags.packetLost || flags.mediaClockRestart then start else place)).1,
        (StreamRx.follow frame stream,(rxDesc (avtpRxDesc frame flags)
          (if flags.packetLost || flags.mediaClockRestart then start else place)).2)) := by
  unfold loopPacket
  dsimp only
  rw [same,if_neg Bool.false_ne_true,found]

namespace StreamRx

def looped (rx : StreamRx σ) : Handled × (StreamListener σ × κ) :=
  let (handled,place) := eachItem rxDesc rx.desc start
  (rx.handled.and handled,(rx.stream,place))

section
variable (rx : StreamRx σ)
include rx

private theorem looped_descFlush :
    (rx.descFlush (ofLoop rxDesc start)).handled = (rx.looped rxDesc start).1 ∧
    (rx.descFlush (ofLoop rxDesc start)).stream = rx.stream ∧ (rx.descFlush (ofLoop rxDesc start)).desc = [] := by
  rcases rx with ⟨stream,desc,ts,handled,clockTx⟩
  unfold descFlush looped
  cases desc with
  | nil => split <;> simp [eachItem]
  | cons first rest => split <;> simp [ofLoop]

private theorem flushed_stream (flush : Bool) :
    (if flush then rx.descFlush (ofLoop rxDesc start) else rx).stream = rx.stream := by
  cases flush with
  | false => rfl
  | true => exact (looped_descFlush rxDesc start rx).2.1

private theorem looped_flushed (flush : Bool) :
    (if flush then rx.descFlush (ofLoop rxDesc start) else rx).looped rxDesc start =
      ((rx.looped rxDesc start).1,(rx.stream,if flush then start else (rx.looped rxDesc start).2.2)) := by
  cases flush with
  | false => rfl
  | true =>
    obtain ⟨handled,stream,desc⟩ := looped_descFlush rxDesc start rx
    rw [if_pos rfl,if_pos rfl]
    unfold looped at handled ⊢
    rw [handled,stream,desc]
    simp [eachItem]

theorem looped_wait (stream : StreamListener σ) (desc : AvtpRxDesc) (ts : List Timestamp) :
    looped rxDesc start {rx with stream := stream,desc := rx.desc ++ [desc],ts := ts} =
      ((rx.looped rxDesc start).1.and (rxDesc desc (rx.looped rxDesc start).2.2).1,
        (stream,(rxDesc desc (rx.looped rxDesc start).2.2).2)) := by
  simp [looped,eachItem_append,eachItem,Handled.and_assoc]

theorem looped_receive (frame : NetRxDesc) :
    (rx.receive (ofLoop rxDesc start) frame).looped rxDesc start =
      ((rx.looped rxDesc start).1.and (loopPacket rxDesc start frame (rx.looped rxDesc start).2).1,
        (loopPacket rxDesc start frame (rx.looped rxDesc start).2).2) := by
  have state : (rx.looped rxDesc start).2 = (rx.stream,(rx.looped rxDesc start).2.2) := rfl
  by_cases other : (frame.subtype != rx.stream.subtype) = true
  · obtain ⟨handled,stream,desc⟩ := looped_descFlush rxDesc start rx
    rw [receive,if_pos other,state,loopPacket_other rxDesc start other]
    unfold looped at handled ⊢
    dsimp only
    rw [handled,stream,desc]
    simp [eachItem]
  · have same := Bool.eq_false_iff.mpr other
    rw [receive,if_neg other,state,loopPacket_same rxDesc start same rfl]
    refine (looped_wait rxDesc start _ _ _ _).trans ?_
    rw [flushed_stream,flushed_stream,looped_flushed,looped_flushed]
    generalize packetFlags frame rx.stream = flags
    cases flags.packetLost <;> cases flags.mediaClockRestart <;> rfl

end

end StreamRx

private theorem streamNetRx_loop (desc : List NetRxDesc) (stream : StreamListener σ) :
    streamNetRx (ofLoop rxDesc start) desc stream =
      ((eachItem (loopPacket rxDesc start) desc (stream,start)).1,
        (eachItem (loopPacket rxDesc start) desc (stream,start)).2.1) := by
  have whole : ∀ rx : StreamRx σ, (desc.foldl (receive (ofLoop rxDesc start)) rx).looped rxDesc start =
      ((rx.looped rxDesc start).1.and (eachItem (loopPacket rxDesc start) desc (rx.looped rxDesc start).2).1,
        (eachItem (loopPacket rxDesc start) desc (rx.looped rxDesc start).2).2) := by
    induction desc with
    | nil => exact fun rx => by simp [eachItem]
    | cons first rest ih =>
      intro rx
      rw [List.foldl_cons,ih,looped_receive]
      simp [eachItem,Handled.and_assoc]
  obtain ⟨handled,after,_⟩ := looped_descFlush rxDesc start
    (desc.foldl (receive (ofLoop rxDesc start)) ⟨stream,[],[],Handled.nothing,[]⟩)
  rw [whole] at handled
  have last := congrArg (fun result => result.2.1) (whole ⟨stream,[],[],Handled.nothing,[]⟩)
  unfold streamNetRx avtpStreamNetRx
  rw [handled,after]
  refine Prod.ext ?_ last
  simp [looped,eachItem]

end Loop

section Iec61883_4
open StreamRx

/-- No packet with timestamps comes after a refused one before the next flush. -/
def Unbroken : List NetRxDesc → StreamListener Unit → Bool → Prop
  | [],_,_ => True
  | frame :: rest,stream,refused =>
    if frame.subtype != stream.subtype then Unbroken rest stream false
    else
      let flags := packetFlags frame stream
      let refused := refused && !(flags.packetLost || flags.mediaClockRestart)
      if mismatch61883_4 (avtpRxDesc frame AvtpFlags.none) then Unbroken rest (StreamRx.follow frame stream) true
      else (refused = true → frame.streamDataLength = 8) ∧ Unbroken rest (StreamRx.follow frame stream) refused

def fresh61883_4 (desc : AvtpRxDesc) : Handled :=
  (avtp61883_4RxDesc ⟨fun _ _ => 0,fun _ => 0⟩ desc (0,0)).1

theorem fresh61883_4_treats (frame : NetRxDesc) (flags : AvtpFlags) :
    Treats (payloadAt (mismatch61883_4 (avtpRxDesc frame AvtpFlags.none)) (frame.l3Offset + 24 + 8)
      (frame.streamDataLength - 8)) frame (fresh61883_4 (avtpRxDesc frame flags)) := by
  have same : mismatch61883_4 (avtpRxDesc frame AvtpFlags.none) = mismatch61883_4 (avtpRxDesc frame flags) := rfl
  rw [same]
  unfold fresh61883_4 avtp61883_4RxDesc payloadAt
  split
  · rfl
  · refine ⟨_,rfl,rfl,rfl,?_⟩
    change ((frame.streamDataLength.setWidth 32 - 8 : Word).setWidth 16) = _
    apply BitVec.eq_of_toNat_eq
    rw [BitVec.toNat_setWidth,BitVec.toNat_sub,BitVec.toNat_sub,BitVec.toNat_setWidth]
    change (2 ^ 32 - 8 + _) % 2 ^ 32 % 2 ^ 16 = (2 ^ 16 - 8 + _) % 2 ^ 16
    omega

variable {leftover : Leftover}

variable {desc : AvtpRxDesc}

private theorem rxDesc61883_4_refused (refused : mismatch61883_4 desc = true) (i mediaN : Nat) :
    avtp61883_4RxDesc leftover desc (i,mediaN) = (Handled.free desc.desc.id,(i + 1,mediaN)) := if_pos refused

theorem rxDesc61883_4_fresh (passed : mismatch61883_4 desc = false) {i mediaN : Nat}
    (own : i ≠ mediaN → desc.l4Len = 8) :
    avtp61883_4RxDesc leftover desc (i,mediaN) = (fresh61883_4 desc,(i + 1,mediaN + 1)) := by
  unfold fresh61883_4 avtp61883_4RxDesc
  dsimp only
  rw [passed,if_neg Bool.false_ne_true,if_neg Bool.false_ne_true,if_pos rfl]
  by_cases same : i = mediaN
  · rw [if_pos same]
  · rw [if_neg same,own same]
    rfl

theorem fresh61883_4_refused (refused : mismatch61883_4 desc = true) :
    fresh61883_4 desc = Handled.free desc.desc.id := congrArg Prod.fst (rxDesc61883_4_refused refused 0 0)

private theorem flushed_indices {flush refused : Bool} {i mediaN first second : Nat}
    (place : (if flush = true then (0,0) else (i,mediaN)) = (first,second)) (behind : mediaN ≤ i)
    (broken : refused = true ↔ i ≠ mediaN) :
    second ≤ first ∧ ((refused && !flush) = true ↔ first ≠ second) := by
  cases flush with
  | true =>
    cases place
    simp
  | false =>
    cases place
    simpa using ⟨behind,broken⟩

theorem unbroken_fresh {desc : List NetRxDesc} {stream : StreamListener Unit} {refused : Bool}
    (unbroken : Unbroken desc stream refused) {i mediaN : Nat} (behind : mediaN ≤ i)
    (broken : refused = true ↔ i ≠ mediaN) :
    (eachItem (loopPacket (avtp61883_4RxDesc leftover) (0,0)) desc (stream,(i,mediaN))).1 =
      (eachItem (receivePacket (stateless fresh61883_4)) desc stream).1 ∧
    (eachItem (loopPacket (avtp61883_4RxDesc leftover) (0,0)) desc (stream,(i,mediaN))).2.1 =
      (eachItem (receivePacket (stateless fresh61883_4)) desc stream).2 := by
  induction desc generalizing stream refused i mediaN with
  | nil => exact ⟨rfl,rfl⟩
  | cons frame rest ih =>
    rw [eachItem,eachItem]
    by_cases other : (frame.subtype != stream.subtype) = true
    · rw [Unbroken,if_pos other] at unbroken
      rw [loopPacket_other _ _ other,receivePacket,if_pos other]
      obtain ⟨handled,after⟩ := ih unbroken (Nat.le_refl 0) (by simp)
      exact ⟨congrArg (Handled.and _) handled,after⟩
    · have same := Bool.eq_false_iff.mpr other
      rw [Unbroken,if_neg other] at unbroken
      rw [loopPacket_same _ _ same rfl,receivePacket,if_neg other]
      generalize packetFlags frame stream = flags at unbroken ⊢
      have check : mismatch61883_4 (avtpRxDesc frame AvtpFlags.none) = mismatch61883_4 (avtpRxDesc frame flags) := rfl
      rw [check] at unbroken
      generalize place : (if (flags.packetLost || flags.mediaClockRestart) = true then (0,0) else (i,mediaN)) = indices
      obtain ⟨first,second⟩ := indices
      have kept := flushed_indices place behind broken
      cases mismatch : mismatch61883_4 (avtpRxDesc frame flags) with
      | true =>
        rw [mismatch,if_pos rfl] at unbroken
        rw [rxDesc61883_4_refused mismatch]
        change _ = ((fresh61883_4 (avtpRxDesc frame flags)).and _) ∧ _
        rw [fresh61883_4_refused mismatch]
        obtain ⟨handled,after⟩ := ih unbroken (Nat.le_succ_of_le kept.1) (by simp; omega)
        exact ⟨congrArg (Handled.and _) handled,after⟩
      | false =>
        rw [mismatch,if_neg Bool.false_ne_true] at unbroken
        rw [rxDesc61883_4_fresh mismatch (fun apart => unbroken.1 (kept.2.mpr apart))]
        obtain ⟨handled,after⟩ := ih unbroken.2 (Nat.succ_le_succ kept.1) (by rw [kept.2]; simp)
        exact ⟨congrArg (Handled.and _) handled,after⟩

def filled (byte : Byte) : Leftover := ⟨fun _ _ => byte,fun _ => 0⟩

private theorem filled_word (byte : Byte) (i offset : Nat) :
    ((filled byte).mediaDesc i).word offset = (byte ++ byte : Half) ++ (byte ++ byte : Half) := rfl

private theorem rxDesc61883_4_give {desc : AvtpRxDesc} (passed : mismatch61883_4 desc = false) (i mediaN : Nat) :
    ∃ media, avtp61883_4RxDesc leftover desc (i,mediaN) = (Handled.give media,(i + 1,mediaN + 1)) := by
  unfold avtp61883_4RxDesc
  dsimp only
  rw [passed,if_neg Bool.false_ne_true]
  exact ⟨_,rfl⟩

theorem payloadSize_zero {len : Half} (none : ((len.setWidth 32 - 8 : Word).toNat + (IEC_61883_4_SP_SIZE - 1)) /
    IEC_61883_4_SP_SIZE = 0) : len = 8 := by
  apply BitVec.eq_of_toNat_eq
  rw [BitVec.toNat_sub,BitVec.toNat_setWidth] at none
  change ((2 ^ 32 - 8 + len.toNat % 2 ^ 32) % 2 ^ 32 + 191) / 192 = 0 at none
  change _ = 8
  omega

theorem rxDesc61883_4_reads (passed : mismatch61883_4 desc = false) {i mediaN : Nat}
    (apart : i ≠ mediaN) (same : (avtp61883_4RxDesc (filled 0) desc (i,mediaN)).1.media =
      (avtp61883_4RxDesc (filled 0xff) desc (i,mediaN)).1.media) : desc.l4Len = 8 := by
  apply payloadSize_zero
  unfold avtp61883_4RxDesc at same
  dsimp only at same
  rw [passed,if_neg Bool.false_ne_true,if_neg Bool.false_ne_true,if_neg apart,if_neg apart] at same
  generalize ((desc.l4Len.setWidth 32 - 8 : Word).toNat + (IEC_61883_4_SP_SIZE - 1)) / IEC_61883_4_SP_SIZE = count at same ⊢
  cases count with
  | zero => rfl
  | succ count =>
    have entries := congrArg (fun media => media.flatMap fun media : MediaDesc => media.avtpTs.map AvtpTs.val) same
    have first : some (some (((filled 0).mediaDesc i).word _)) = some (some (((filled 0xff).mediaDesc i).word _)) :=
      congrArg List.head? entries
    rw [filled_word,filled_word] at first
    exact absurd first (by decide)

theorem unbroken_of_own {desc : List NetRxDesc} {stream : StreamListener Unit} {refused : Bool} {i mediaN : Nat}
    (behind : mediaN ≤ i) (broken : refused = true ↔ i ≠ mediaN)
    (own : (eachItem (loopPacket (avtp61883_4RxDesc (filled 0)) (0,0)) desc (stream,(i,mediaN))).1.media =
      (eachItem (loopPacket (avtp61883_4RxDesc (filled 0xff)) (0,0)) desc (stream,(i,mediaN))).1.media) :
    Unbroken desc stream refused := by
  induction desc generalizing stream refused i mediaN with
  | nil => trivial
  | cons frame rest ih =>
    rw [eachItem,eachItem] at own
    by_cases other : (frame.subtype != stream.subtype) = true
    · rw [Unbroken,if_pos other]
      rw [loopPacket_other _ _ other,loopPacket_other _ _ other] at own
      exact ih (Nat.le_refl 0) (by simp) own
    · have same := Bool.eq_false_iff.mpr other
      rw [Unbroken,if_neg other]
      rw [loopPacket_same _ _ same rfl,loopPacket_same _ _ same rfl] at own
      generalize packetFlags frame stream = flags at own ⊢
      have check : mismatch61883_4 (avtpRxDesc frame AvtpFlags.none) = mismatch61883_4 (avtpRxDesc frame flags) := rfl
      rw [check]
      generalize place : (if (flags.packetLost || flags.mediaClockRestart) = true then (0,0) else (i,mediaN)) = indices
        at own
      obtain ⟨first,second⟩ := indices
      have kept := flushed_indices place behind broken
      cases mismatch : mismatch61883_4 (avtpRxDesc frame flags) with
      | true =>
        rw [rxDesc61883_4_refused mismatch,rxDesc61883_4_refused mismatch] at own
        exact ih (Nat.le_succ_of_le kept.1) (by simp; omega) own
      | false =>
        obtain ⟨zeros,low⟩ := @rxDesc61883_4_give (filled 0) _ mismatch first second
        obtain ⟨ones,high⟩ := @rxDesc61883_4_give (filled 0xff) _ mismatch first second
        rw [low,high] at own
        obtain ⟨head,tail⟩ := List.cons.inj (own : zeros :: _ = ones :: _)
        constructor
        · intro after
          apply rxDesc61883_4_reads mismatch (kept.2.mp after)
          rw [low,high,head]
        · exact ih (Nat.succ_le_succ kept.1) (by rw [kept.2]; simp) tail

variable {stream : StreamListener Unit}

theorem Unbroken.weaken {desc : List NetRxDesc} {refused : Bool}
    (unbroken : Unbroken desc stream refused) : Unbroken desc stream false := by
  induction desc generalizing stream refused with
  | nil => trivial
  | cons frame rest ih =>
    unfold Unbroken at unbroken ⊢
    split
    next other =>
      rw [if_pos other] at unbroken
      exact unbroken
    next same =>
      rw [if_neg same] at unbroken
      split
      next mismatch =>
        rw [if_pos mismatch] at unbroken
        exact unbroken
      next passed =>
        rw [if_neg passed] at unbroken
        refine ⟨fun after => absurd after (by simp),?_⟩
        exact ih unbroken.2

theorem receivePacket_stateless (rxDesc : AvtpRxDesc → Handled) (frame : NetRxDesc) (stream : StreamListener Unit) :
    (receivePacket (stateless rxDesc) frame stream).2 =
      if frame.subtype != stream.subtype then stream else StreamRx.follow frame stream := by
  unfold receivePacket
  split <;> rfl

theorem Unbroken.append {first second : List NetRxDesc} {refused : Bool}
    (unbroken : Unbroken (first ++ second) stream refused) : Unbroken first stream refused ∧
      Unbroken second (eachItem (receivePacket (stateless fresh61883_4)) first stream).2 false := by
  induction first generalizing stream refused with
  | nil => exact ⟨trivial,unbroken.weaken⟩
  | cons frame rest ih =>
    rw [List.cons_append] at unbroken
    rw [eachItem]
    dsimp only
    rw [receivePacket_stateless]
    rw [Unbroken] at unbroken ⊢
    split
    next other =>
      rw [if_pos other] at unbroken
      exact ih unbroken
    next same =>
      rw [if_neg same] at unbroken
      split
      next mismatch =>
        rw [if_pos mismatch] at unbroken
        exact ih unbroken
      next passed =>
        rw [if_neg passed] at unbroken
        obtain ⟨front,back⟩ := ih unbroken.2
        exact ⟨⟨unbroken.1,front⟩,back⟩

private theorem unbroken_batch (leftover : Leftover) {desc : List NetRxDesc}
    (unbroken : Unbroken desc stream false) : streamNetRx (avtp61883_4NetRx leftover) desc stream =
      eachItem (receivePacket (stateless fresh61883_4)) desc stream := by
  rw [avtp61883_4NetRx,streamNetRx_loop]
  obtain ⟨handled,after⟩ := @unbroken_fresh leftover desc stream false unbroken 0 0 (Nat.le_refl 0) (by simp)
  exact Prod.ext handled after

theorem unbroken_split (leftover : Leftover) (parts : List (List NetRxDesc))
    (unbroken : Unbroken parts.flatten stream false) :
    eachItem (streamNetRx (avtp61883_4NetRx leftover)) parts stream =
      eachItem (receivePacket (stateless fresh61883_4)) parts.flatten stream := by
  induction parts generalizing stream with
  | nil => rfl
  | cons first rest ih =>
    rw [List.flatten_cons] at unbroken ⊢
    obtain ⟨front,back⟩ := unbroken.append
    rw [eachItem,unbroken_batch leftover front,eachItem_append]
    dsimp only
    rw [ih back]

theorem packetWise61883_4 {desc : List NetRxDesc} (distinct : (desc.map NetRxDesc.id).Nodup)
    (valid : ∀ frame ∈ desc, EthernetFrame frame) (stream : StreamListener Unit) :
    PacketWise (fun leftover => streamNetRx (avtp61883_4NetRx leftover)) desc stream ↔
      (∀ frame ∈ desc, frame.subtype = stream.subtype → mismatch61883_4 (avtpRxDesc frame AvtpFlags.none) = false →
        Fits 8 frame) ∧ Unbroken desc stream false := by
  have places := @receivePacket_places Unit _ (stateless fresh61883_4) stream.subtype
    (fun frame flags _ => fresh61883_4_treats frame flags) desc
  have inside : Unbroken desc stream false → ∀ leftover,
      ((∀ frame ∈ desc, ∀ media ∈ (streamNetRx (avtp61883_4NetRx leftover) desc stream).1.media,
        media.id = frame.id → InFrame frame media.l2Offset media.len) ↔
      ∀ frame ∈ desc, frame.subtype = stream.subtype → mismatch61883_4 (avtpRxDesc frame AvtpFlags.none) = false →
        Fits 8 frame) := by
    intro unbroken leftover
    rw [unbroken_batch leftover unbroken,placed_inside places distinct rfl,ofSubtype_inside]
    apply forall₂_congr
    intro frame member
    rw [payloadAt_inside,(valid frame member).inFrame_headers]
  constructor
  · intro owed
    have own := congrArg Handled.media (owed.own (filled 0) (filled 0xff))
    rw [avtp61883_4NetRx,streamNetRx_loop,avtp61883_4NetRx,streamNetRx_loop] at own
    have unbroken := @unbroken_of_own desc stream false 0 0 (Nat.le_refl 0) (by simp) own
    exact ⟨(inside unbroken (filled 0)).mp (owed.inside (filled 0)),unbroken⟩
  · rintro ⟨fits,unbroken⟩
    constructor
    · intro leftover
      rw [unbroken_batch leftover unbroken]
      exact placed_once places rfl
    · intro leftover
      rw [unbroken_batch leftover unbroken]
      exact placed_inOrder places rfl
    · intro first second
      rw [unbroken_batch first unbroken,unbroken_batch second unbroken]
    · rintro leftover parts rfl
      rw [unbroken_split leftover parts unbroken,unbroken_batch leftover unbroken]
    · exact fun leftover => (inside unbroken leftover).mpr fits

end Iec61883_4

section Mjpeg
open StreamRx

def mjpegNextOffset (frame : NetRxDesc) : Word :=
  if mjpegMarker frame then 0 else mjpegFragmentOffset frame + (frame.streamDataLength - 8).setWidth 32

/-- Every end of a frame without a timestamp is a fragment at its place. -/
def InPlace (subtype : Byte) : List NetRxDesc → Word → Prop
  | [],_ => True
  | frame :: rest,currentFrameOffset =>
    if frame.subtype != subtype || mismatchMjpeg frame then InPlace subtype rest currentFrameOffset
    else (frame.tv = false → mjpegMarker frame = true → mjpegFragmentOffset frame = currentFrameOffset) ∧
      InPlace subtype rest (mjpegNextOffset frame)

def stamped (avtpTimestamp : Word) : Leftover := ⟨fun _ _ => 0,fun _ => avtpTimestamp⟩

variable {leftover : Leftover} {frame : NetRxDesc} {flags : AvtpFlags} {currentFrameOffset : Word}

theorem mjpeg_refused (refused : mismatchMjpeg frame = true) :
    cvfMjpegRxDesc leftover (avtpRxDesc frame flags) currentFrameOffset =
      (Handled.free frame.id,currentFrameOffset) := if_pos refused

theorem mjpeg_own
    (inPlace : frame.tv = false → mjpegMarker frame = true → mjpegFragmentOffset frame = currentFrameOffset)
    (other : Leftover) : (cvfMjpegRxDesc leftover (avtpRxDesc frame flags) currentFrameOffset).1 =
      (cvfMjpegRxDesc other (avtpRxDesc frame flags) currentFrameOffset).1 := by
  change (if mismatchMjpeg frame then _ else _ : Handled × Word).1 = (if mismatchMjpeg frame then _ else _ : Handled × Word).1
  have invalid : (avtpRxDesc frame flags).flags.timestampInvalid = !frame.tv := rfl
  have marker : mjpegMarker (avtpRxDesc frame flags).desc = mjpegMarker frame := rfl
  have offset : mjpegFragmentOffset (avtpRxDesc frame flags).desc = mjpegFragmentOffset frame := rfl
  rw [invalid,marker,offset]
  cases valid : frame.tv with
  | true => rfl
  | false =>
    cases ends : mjpegMarker frame with
    | false => rfl
    | true =>
      rw [inPlace valid ends]
      simp [invalid,valid]

section
variable (passed : mismatchMjpeg frame = false)
include passed

theorem mjpeg_next :
    (cvfMjpegRxDesc leftover (avtpRxDesc frame flags) currentFrameOffset).2 = mjpegNextOffset frame := by
  change (if mismatchMjpeg frame then _ else _ : Handled × Word).2 = _
  rw [passed,if_neg Bool.false_ne_true]
  rfl

theorem mjpeg_reads
    (own : (cvfMjpegRxDesc (stamped 0) (avtpRxDesc frame flags) currentFrameOffset).1.media =
      (cvfMjpegRxDesc (stamped 1) (avtpRxDesc frame flags) currentFrameOffset).1.media)
    (invalid : frame.tv = false) (marker : mjpegMarker frame = true) : mjpegFragmentOffset frame = currentFrameOffset := by
  by_contra moved
  have given : ∀ ts, (cvfMjpegRxDesc (stamped ts) (avtpRxDesc frame flags) currentFrameOffset).1.media.flatMap
      (fun media => (media.avtpTs.map AvtpTs.val).getLast?.toList) = [some ts] := by
    intro ts
    change (if mismatchMjpeg frame then _ else _ : Handled × Word).1.media.flatMap _ = _
    rw [passed,if_neg Bool.false_ne_true]
    have noTimestamp : (avtpRxDesc frame flags).flags.timestampInvalid = true := by
      change (!frame.tv) = true
      rw [invalid]
      rfl
    have ends : mjpegMarker (avtpRxDesc frame flags).desc = true := marker
    have offset : mjpegFragmentOffset (avtpRxDesc frame flags).desc ≠ currentFrameOffset := moved
    simp [noTimestamp,ends,offset,Handled.give,stamped,AvtpFlags.none]
  have same := congrArg (fun media => media.flatMap fun media : MediaDesc =>
    (media.avtpTs.map AvtpTs.val).getLast?.toList) own
  rw [given,given] at same
  exact absurd same (by decide)

theorem length_mjpeg : (cvfMjpegRxDesc leftover (avtpRxDesc frame flags) currentFrameOffset).1.media.length = 1 := by
  change (if mismatchMjpeg frame then _ else _ : Handled × Word).1.media.length = 1
  rw [passed,if_neg Bool.false_ne_true]
  rfl

end

theorem receivePacket_mjpeg (leftover : Leftover) (stream : StreamListener Word)
    (same : (frame.subtype != stream.subtype) = false) : receivePacket (cvfMjpegRxDesc leftover) frame stream =
      ((cvfMjpegRxDesc leftover (avtpRxDesc frame (packetFlags frame stream)) stream.subtypeData).1,
        {StreamRx.follow frame stream with subtypeData :=
          (cvfMjpegRxDesc leftover (avtpRxDesc frame (packetFlags frame stream)) stream.subtypeData).2}) := by
  rw [receivePacket,same,if_neg Bool.false_ne_true]

variable {desc : List NetRxDesc}

theorem inPlace_own {stream : StreamListener Word}
    (inPlace : InPlace stream.subtype desc stream.subtypeData) (first second : Leftover) :
    (eachItem (receivePacket (cvfMjpegRxDesc first)) desc stream).1 =
      (eachItem (receivePacket (cvfMjpegRxDesc second)) desc stream).1 := by
  induction desc generalizing stream with
  | nil => rfl
  | cons frame rest ih =>
    rw [InPlace] at inPlace
    rw [eachItem,eachItem]
    by_cases other : (frame.subtype != stream.subtype) = true
    · rw [other,Bool.true_or,if_pos rfl] at inPlace
      rw [receivePacket,if_pos other,receivePacket,if_pos other]
      exact congrArg (Handled.and _) (ih inPlace)
    · have same := Bool.eq_false_iff.mpr other
      rw [same,Bool.false_or] at inPlace
      rw [receivePacket_mjpeg first stream same,receivePacket_mjpeg second stream same]
      cases mismatch : mismatchMjpeg frame with
      | true =>
        rw [mismatch,if_pos rfl] at inPlace
        rw [mjpeg_refused mismatch,mjpeg_refused mismatch]
        exact congrArg (Handled.and _) (@ih {StreamRx.follow frame stream with subtypeData := stream.subtypeData} inPlace)
      | false =>
        rw [mismatch,if_neg Bool.false_ne_true] at inPlace
        rw [mjpeg_next mismatch,mjpeg_next mismatch,@mjpeg_own first _ _ _ inPlace.1 second]
        exact congrArg (Handled.and _) (@ih {StreamRx.follow frame stream with subtypeData := mjpegNextOffset frame} inPlace.2)

theorem inPlace_of_own {stream : StreamListener Word}
    (own : (eachItem (receivePacket (cvfMjpegRxDesc (stamped 0))) desc stream).1.media =
      (eachItem (receivePacket (cvfMjpegRxDesc (stamped 1))) desc stream).1.media) :
    InPlace stream.subtype desc stream.subtypeData := by
  induction desc generalizing stream with
  | nil => trivial
  | cons frame rest ih =>
    rw [InPlace]
    rw [eachItem,eachItem] at own
    by_cases other : (frame.subtype != stream.subtype) = true
    · rw [other,Bool.true_or,if_pos rfl]
      rw [receivePacket,if_pos other,receivePacket,if_pos other] at own
      exact ih own
    · have same := Bool.eq_false_iff.mpr other
      rw [same,Bool.false_or]
      rw [receivePacket_mjpeg _ stream same,receivePacket_mjpeg _ stream same] at own
      cases mismatch : mismatchMjpeg frame with
      | true =>
        rw [mjpeg_refused mismatch,mjpeg_refused mismatch] at own
        exact @ih {StreamRx.follow frame stream with subtypeData := stream.subtypeData} own
      | false =>
        rw [mjpeg_next mismatch,mjpeg_next mismatch] at own
        obtain ⟨head,tail⟩ := List.append_inj own (by rw [length_mjpeg mismatch,length_mjpeg mismatch])
        exact ⟨mjpeg_reads mismatch head,@ih {StreamRx.follow frame stream with subtypeData := mjpegNextOffset frame} tail⟩

theorem packetWiseMjpeg (distinct : (desc.map NetRxDesc.id).Nodup)
    (valid : ∀ frame ∈ desc, EthernetFrame frame) (stream : StreamListener Word) :
    PacketWise (fun leftover => streamNetRx (cvfMjpegNetRx leftover)) desc stream ↔
      (∀ frame ∈ desc, frame.subtype = stream.subtype → mismatchMjpeg frame = false → Fits 8 frame) ∧
      InPlace stream.subtype desc stream.subtypeData := by
  refine (each_packetWise mjpeg_treats distinct stream).trans (and_comm.trans (and_congr ?_ ?_))
  · apply forall₂_congr
    intro frame member
    rw [payloadAt_inside,(valid frame member).inFrame_headers]
  · exact ⟨fun own => inPlace_of_own (congrArg Handled.media (own _ _)),inPlace_own⟩

end Mjpeg

section Ntscf
variable (accepts : Nat → Bool)

structure NtscfState where
  stream : NtscfListener
  waiting : List Nat

namespace NtscfState

def flush (state : NtscfState) : NtscfState :=
  ⟨{state.stream with mediaTx := state.stream.mediaTx + taken accepts state.waiting},[]⟩

def packet (frame : NetRxDesc) (state : NtscfState) : Handled × NtscfState :=
  if frame.subtype != state.stream.subtype then (Handled.free frame.id,state.flush accepts)
  else
    let (handled,sequenceNum) := acfNtscfRxDesc state.stream.mediaTx frame state.stream.sequenceNum
    (handled,⟨{state.stream with sequenceNum := sequenceNum},state.waiting ++ handled.media.map MediaDesc.id⟩)

end NtscfState

open NtscfState

open NtscfState

namespace AlternativeRx
variable (rx : AlternativeRx)

def ahead : Handled × NtscfState :=
  let (handled,sequenceNum) := eachItem (acfNtscfRxDesc rx.stream.mediaTx) rx.desc rx.stream.sequenceNum
  (rx.handled.and handled,⟨{rx.stream with sequenceNum := sequenceNum},handled.media.map MediaDesc.id⟩)

private theorem ahead_descFlush : (rx.descFlush accepts).handled = rx.ahead.1 ∧
    (rx.descFlush accepts).stream = (rx.ahead.2.flush accepts).stream ∧ (rx.descFlush accepts).desc = [] := by
  rcases rx with ⟨stream,desc,handled⟩
  unfold descFlush ahead flush
  cases desc with
  | nil => simp [eachItem,taken]
  | cons first rest => exact ⟨rfl,rfl,rfl⟩

theorem ahead_receive (frame : NetRxDesc) : (rx.receive accepts frame).ahead =
    (rx.ahead.1.and (packet accepts frame rx.ahead.2).1,(packet accepts frame rx.ahead.2).2) := by
  have kind : rx.ahead.2.stream.subtype = rx.stream.subtype := rfl
  by_cases other : (frame.subtype != rx.stream.subtype) = true
  · obtain ⟨handled,stream,desc⟩ := rx.ahead_descFlush accepts
    rw [receive,if_pos other,packet,kind,if_pos other]
    rw [ahead]
    dsimp only
    rw [desc,handled,stream]
    simp [eachItem,flush]
  · rw [receive,if_neg other,packet,kind,if_neg other]
    simp [ahead,eachItem_append,eachItem,Handled.and_assoc]

end AlternativeRx

open AlternativeRx

private theorem avtpAlternativeNetRx_each (desc : List NetRxDesc) (stream : NtscfListener) :
    avtpAlternativeNetRx accepts desc stream = ((eachItem (packet accepts) desc ⟨stream,[]⟩).1,
      ((eachItem (packet accepts) desc ⟨stream,[]⟩).2.flush accepts).stream) := by
  have whole : ∀ rx : AlternativeRx, (desc.foldl (receive accepts) rx).ahead =
      (rx.ahead.1.and (eachItem (packet accepts) desc rx.ahead.2).1,
        (eachItem (packet accepts) desc rx.ahead.2).2) := by
    induction desc with
    | nil => exact fun rx => by simp [eachItem]
    | cons first rest ih =>
      intro rx
      rw [List.foldl_cons,ih,ahead_receive]
      simp [eachItem,Handled.and_assoc]
  obtain ⟨handled,after,_⟩ := (desc.foldl (receive accepts) ⟨stream,[],Handled.nothing⟩).ahead_descFlush accepts
  rw [whole] at handled after
  unfold avtpAlternativeNetRx
  dsimp only
  rw [handled,after]
  simp [ahead,eachItem]

namespace NtscfState
variable {accepts} {state : NtscfState} {frame : NetRxDesc}

private theorem packet_other (other : (frame.subtype != state.stream.subtype) = true) :
    packet accepts frame state = (Handled.free frame.id,state.flush accepts) := if_pos other

theorem packet_truncated (same : (frame.subtype != state.stream.subtype) = false)
    (short : ntscfTruncated frame = true) :
    packet accepts frame state = (Handled.nothing,state) := by
  rw [packet,same,if_neg Bool.false_ne_true,acfNtscfRxDesc,if_pos short]
  simp

def gap (frame : NetRxDesc) (state : NtscfState) : Bool := ntscfSequenceNum frame != state.stream.sequenceNum + 1

def wait (frame : NetRxDesc) (state : NtscfState) : NtscfState :=
  ⟨{state.stream with sequenceNum := ntscfSequenceNum frame},state.waiting ++ [frame.id]⟩

private theorem packet_wait (same : (frame.subtype != state.stream.subtype) = false) (covered : ntscfTruncated frame = false) :
    packet accepts frame state =
      (Handled.give (ntscfMedia frame (state.stream.mediaTx != 0 && state.gap frame)),state.wait frame) := by
  rw [packet,same,if_neg Bool.false_ne_true,acfNtscfRxDesc,covered,if_neg Bool.false_ne_true]
  rfl

end NtscfState

theorem taken_append (first second : List Nat) :
    taken accepts (first ++ second) = taken accepts first + taken accepts second := by
  rw [taken,List.countP_append,BitVec.ofNat_add]
  rfl

/-- Wherever a sequence gap is, the count is zero as it would be after any split of what waits. -/
def GapsSeen : List NetRxDesc → NtscfState → Prop
  | [],_ => True
  | frame :: rest,state =>
    if frame.subtype != state.stream.subtype then GapsSeen rest (state.flush accepts)
    else
      (state.gap frame = true → ∀ sent, sent ≤ state.waiting.length →
        (state.stream.mediaTx + taken accepts (state.waiting.take sent) = 0 ↔ state.stream.mediaTx = 0)) ∧
      GapsSeen rest (state.wait frame)

def SplitAt (whole : NtscfState) (sent : Nat) : NtscfState :=
  ⟨{whole.stream with mediaTx := whole.stream.mediaTx + taken accepts (whole.waiting.take sent)},whole.waiting.drop sent⟩

section
variable (state : NtscfState)
include state

theorem splitAt_whole : SplitAt accepts state 0 = state := by
  simp [SplitAt,taken]

private theorem splitAt_flush (sent : Nat) :
    (SplitAt accepts state sent).flush accepts = state.flush accepts := by
  have total : taken accepts (state.waiting.take sent) + taken accepts (state.waiting.drop sent) =
      taken accepts state.waiting := by rw [← taken_append,List.take_append_drop]
  simp only [flush,SplitAt,BitVec.add_assoc,total]

private theorem splitAt_all : SplitAt accepts state state.waiting.length = state.flush accepts := by
  simp [SplitAt,flush]

private theorem splitAt_wait (frame : NetRxDesc) {sent : Nat} (few : sent ≤ state.waiting.length) :
    (SplitAt accepts state sent).wait frame = SplitAt accepts (state.wait frame) sent := by
  simp [SplitAt,wait,List.take_append_of_le_length few,List.drop_append_of_le_length few]

end

theorem splitAt_packet {state : NtscfState} {frame : NetRxDesc} {sent : Nat} (few : sent ≤ state.waiting.length)
    (covered : frame.subtype = state.stream.subtype → ntscfTruncated frame = false)
    (seen : (frame.subtype != state.stream.subtype) = false → state.gap frame = true →
      (state.stream.mediaTx + taken accepts (state.waiting.take sent) = 0 ↔ state.stream.mediaTx = 0)) :
    (packet accepts frame (SplitAt accepts state sent)).1 = (packet accepts frame state).1 ∧
    ∃ later ≤ (packet accepts frame state).2.waiting.length,
      (packet accepts frame (SplitAt accepts state sent)).2 =
        SplitAt accepts (packet accepts frame state).2 later := by
  by_cases other : (frame.subtype != state.stream.subtype) = true
  · rw [packet_other other,packet_other (by exact other)]
    refine ⟨rfl,0,Nat.zero_le _,?_⟩
    rw [splitAt_flush,splitAt_whole]
  · have same := Bool.eq_false_iff.mpr other
    have whole := covered (by simpa using same)
    rw [packet_wait same whole,packet_wait (by exact same) whole]
    refine ⟨?_,sent,?_,?_⟩
    · have gaps : (SplitAt accepts state sent).gap frame = state.gap frame := rfl
      rw [gaps]
      cases gap : state.gap frame with
      | false => rw [Bool.and_false,Bool.and_false]
      | true =>
        have zero := seen same gap
        have counts : ((SplitAt accepts state sent).stream.mediaTx != 0) = (state.stream.mediaTx != 0) := by
          rw [Bool.eq_iff_iff,bne_iff_ne,bne_iff_ne]
          exact not_congr zero
        rw [counts]
    · simp only [wait,length_append]
      omega
    · exact splitAt_wait accepts state frame few

def Covered (desc : List NetRxDesc) (state : NtscfState) : Prop :=
  ∀ frame ∈ desc, frame.subtype = state.stream.subtype → ntscfTruncated frame = false

private theorem packet_subtype (frame : NetRxDesc) (state : NtscfState) :
    (packet accepts frame state).2.stream.subtype = state.stream.subtype := by
  unfold packet
  split <;> rfl

private theorem packets_subtype (desc : List NetRxDesc) (state : NtscfState) :
    (eachItem (packet accepts) desc state).2.stream.subtype = state.stream.subtype := by
  induction desc generalizing state with
  | nil => rfl
  | cons frame rest ih => exact (ih _).trans (packet_subtype accepts frame state)

section Sound
variable {accepts}

variable {state : NtscfState}

theorem Covered.rest {frame : NetRxDesc} {rest : List NetRxDesc}
    (covered : Covered (frame :: rest) state) : Covered rest (packet accepts frame state).2 := by
  intro other member same
  rw [packet_subtype] at same
  exact covered other (List.mem_cons_of_mem _ member) same

theorem GapsSeen.rest {frame : NetRxDesc} {rest : List NetRxDesc}
    (covered : Covered (frame :: rest) state) (seen : GapsSeen accepts (frame :: rest) state) :
    ((frame.subtype != state.stream.subtype) = false → state.gap frame = true → ∀ sent, sent ≤ state.waiting.length →
      (state.stream.mediaTx + taken accepts (state.waiting.take sent) = 0 ↔ state.stream.mediaTx = 0)) ∧
    GapsSeen accepts rest (packet accepts frame state).2 := by
  rw [GapsSeen] at seen
  by_cases other : (frame.subtype != state.stream.subtype) = true
  · rw [if_pos other] at seen
    rw [packet_other other]
    exact ⟨fun same => absurd other (by rw [same]; exact Bool.false_ne_true),seen⟩
  · rw [if_neg other] at seen
    have same := Bool.eq_false_iff.mpr other
    rw [packet_wait same (covered frame mem_cons_self (by simpa using same))]
    exact ⟨fun _ => seen.1,seen.2⟩

theorem GapsSeen.append {first second : List NetRxDesc} (covered : Covered (first ++ second) state)
    (seen : GapsSeen accepts (first ++ second) state) : GapsSeen accepts first state ∧
      Covered second (eachItem (packet accepts) first state).2 ∧
      GapsSeen accepts second (eachItem (packet accepts) first state).2 := by
  induction first generalizing state with
  | nil => exact ⟨trivial,covered,seen⟩
  | cons frame rest ih =>
    obtain ⟨_,next⟩ := GapsSeen.rest covered seen
    obtain ⟨front,others,back⟩ := ih (Covered.rest covered) next
    refine ⟨?_,others,back⟩
    rw [List.cons_append,GapsSeen] at seen
    rw [GapsSeen]
    by_cases other : (frame.subtype != state.stream.subtype) = true
    · rw [if_pos other] at seen ⊢
      rw [packet_other other] at front
      exact front
    · have same := Bool.eq_false_iff.mpr other
      rw [if_neg other] at seen ⊢
      rw [packet_wait same (covered frame mem_cons_self (by simpa using same))] at front
      exact ⟨seen.1,front⟩

variable {desc : List NetRxDesc}

theorem splitAt_batch {sent : Nat} (few : sent ≤ state.waiting.length)
    (covered : Covered desc state) (seen : GapsSeen accepts desc state) :
    (eachItem (packet accepts) desc (SplitAt accepts state sent)).1 =
      (eachItem (packet accepts) desc state).1 ∧
    ∃ later ≤ (eachItem (packet accepts) desc state).2.waiting.length,
      (eachItem (packet accepts) desc (SplitAt accepts state sent)).2 =
        SplitAt accepts (eachItem (packet accepts) desc state).2 later := by
  induction desc generalizing state sent with
  | nil => exact ⟨rfl,sent,few,rfl⟩
  | cons frame rest ih =>
    obtain ⟨gap,next⟩ := GapsSeen.rest covered seen
    obtain ⟨handled,later,bound,after⟩ := splitAt_packet accepts few (covered frame mem_cons_self)
      (fun same found => gap same found sent few)
    obtain ⟨others,last,inside,final⟩ := ih bound (Covered.rest covered) next
    rw [eachItem,eachItem]
    dsimp only
    rw [handled,after,others]
    exact ⟨rfl,last,inside,final⟩

theorem gapsSeen_split {parts : List (List NetRxDesc)} (covered : Covered parts.flatten state)
    (seen : GapsSeen accepts parts.flatten state) :
    (eachItem (avtpAlternativeNetRx accepts) parts (state.flush accepts).stream).1 =
      (eachItem (packet accepts) parts.flatten state).1 := by
  induction parts generalizing state with
  | nil => rfl
  | cons first rest ih =>
    rw [List.flatten_cons] at covered seen ⊢
    obtain ⟨front,others,back⟩ := GapsSeen.append covered seen
    have ahead : Covered first state := fun frame member => covered frame (List.mem_append_left _ member)
    obtain ⟨handled,later,_,after⟩ := splitAt_batch (Nat.le_refl _) ahead front
    have start : (⟨(state.flush accepts).stream,[]⟩ : NtscfState) = SplitAt accepts state state.waiting.length :=
      (splitAt_all accepts state).symm
    rw [eachItem,avtpAlternativeNetRx_each,start,handled,after,splitAt_flush,eachItem_append]
    dsimp only
    rw [ih others back]

theorem gapsSeen_batch {stream : NtscfListener} {parts : List (List NetRxDesc)}
    (flat : parts.flatten = desc) (covered : Covered desc ⟨stream,[]⟩) (seen : GapsSeen accepts desc ⟨stream,[]⟩) :
    (eachItem (avtpAlternativeNetRx accepts) parts stream).1 = (avtpAlternativeNetRx accepts desc stream).1 := by
  subst flat
  have start : ((⟨stream,[]⟩ : NtscfState).flush accepts).stream = stream := by simp [flush,taken]
  have split := gapsSeen_split covered seen
  rw [start] at split
  rw [split,avtpAlternativeNetRx_each]

theorem ntscf_places {desc : List NetRxDesc} {state : NtscfState} (covered : Covered desc state) :
    Places (packet accepts) (fun other => other.stream.subtype = state.stream.subtype)
      (ofSubtype state.stream.subtype fun frame => some (frame.l3Offset + 12,ntscfDataLength frame)) desc := by
  intro frame member other same
  unfold ofSubtype
  dsimp only
  rw [packet_subtype,same]
  refine ⟨?_,rfl⟩
  by_cases apart : (frame.subtype != state.stream.subtype) = true
  · rw [if_pos apart,packet_other (by rw [same]; exact apart)]
    rfl
  · rw [if_neg apart,packet_wait (by rw [same]; exact Bool.eq_false_iff.mpr apart)
      (covered frame member (by simpa using apart))]
    exact ⟨_,rfl,rfl,rfl,rfl⟩

private theorem packets_counts (desc : List NetRxDesc) (state : NtscfState) :
    (eachItem (packet accepts) desc state).1.media.length =
        desc.countP (fun frame => !(frame.subtype != state.stream.subtype || ntscfTruncated frame)) ∧
      (eachItem (packet accepts) desc state).1.freed.length =
        desc.countP fun frame => frame.subtype != state.stream.subtype := by
  induction desc generalizing state with
  | nil => exact ⟨rfl,rfl⟩
  | cons frame rest ih =>
    obtain ⟨media,freed⟩ := ih (packet accepts frame state).2
    rw [packet_subtype] at media freed
    rw [eachItem,Handled.media_and,Handled.freed_and,length_append,length_append,media,freed,countP_cons,countP_cons]
    by_cases other : (frame.subtype != state.stream.subtype) = true
    · rw [packet_other other,other]
      exact ⟨Nat.add_comm ..,Nat.add_comm ..⟩
    · have same := Bool.eq_false_iff.mpr other
      rw [same]
      cases short : ntscfTruncated frame with
      | true =>
        rw [packet_truncated same short]
        exact ⟨Nat.add_comm ..,Nat.add_comm ..⟩
      | false =>
        rw [packet_wait same short]
        exact ⟨Nat.add_comm ..,Nat.add_comm ..⟩

theorem covered_of_once (once : ((eachItem (packet accepts) desc state).1.media.map MediaDesc.id ++
      (eachItem (packet accepts) desc state).1.freed).Perm (desc.map NetRxDesc.id)) : Covered desc state := by
  have lengths := once.length_eq
  rw [length_append,List.length_map,List.length_map,(packets_counts desc state).1,(packets_counts desc state).2] at lengths
  have all : ∀ frames : List NetRxDesc,
      frames.countP (fun frame => !(frame.subtype != state.stream.subtype || ntscfTruncated frame)) +
        frames.countP (fun frame => frame.subtype != state.stream.subtype) +
        frames.countP (fun frame => !(frame.subtype != state.stream.subtype) && ntscfTruncated frame) = frames.length := by
    intro frames
    induction frames with
    | nil => rfl
    | cons frame rest ih =>
      rw [countP_cons,countP_cons,countP_cons,List.length_cons,← ih]
      cases frame.subtype != state.stream.subtype <;> cases ntscfTruncated frame <;> simp <;> omega
  have none := all desc
  rw [lengths] at none
  have zero := List.countP_eq_zero.mp (Nat.add_left_cancel (none.trans (Nat.add_zero _).symm))
  intro frame member same
  have clear := zero frame member
  rw [same] at clear
  simpa using clear

theorem splitAt_reached (stream : NtscfListener) {front : List NetRxDesc} (covered : Covered front ⟨stream,[]⟩) :
    ∀ sent ≤ (eachItem (packet accepts) front ⟨stream,[]⟩).2.waiting.length,
      ∃ first second, front = first ++ second ∧
        (eachItem (packet accepts) second
          ((eachItem (packet accepts) first ⟨stream,[]⟩).2.flush accepts)).2 =
        SplitAt accepts (eachItem (packet accepts) front ⟨stream,[]⟩).2 sent := by
  induction front using List.reverseRecOn with
  | nil =>
    intro sent few
    obtain rfl := Nat.le_zero.mp few
    exact ⟨[],[],rfl,(splitAt_all accepts ⟨stream,[]⟩).symm⟩
  | append_singleton front frame ih =>
    have before := ih fun other member => covered other (List.mem_append_left _ member)
    have last : (eachItem (packet accepts) (front ++ [frame]) ⟨stream,[]⟩).2 =
        (packet accepts frame (eachItem (packet accepts) front ⟨stream,[]⟩).2).2 := by
      rw [eachItem_append]
      rfl
    have kind := packets_subtype accepts front ⟨stream,[]⟩
    generalize (eachItem (packet accepts) front ⟨stream,[]⟩).2 = state at before last kind
    -- a split right behind the packet
    have behind : ∃ first second, front ++ [frame] = first ++ second ∧
        (eachItem (packet accepts) second
          ((eachItem (packet accepts) first ⟨stream,[]⟩).2.flush accepts)).2 =
        SplitAt accepts (packet accepts frame state).2
          (packet accepts frame state).2.waiting.length := by
      refine ⟨front ++ [frame],[],(List.append_nil _).symm,?_⟩
      rw [last,splitAt_all]
      rfl
    rw [last]
    intro sent few
    by_cases other : (frame.subtype != state.stream.subtype) = true
    · rw [packet_other other] at few behind ⊢
      obtain rfl := Nat.le_zero.mp few
      exact behind
    · have same := Bool.eq_false_iff.mpr other
      have whole := covered frame (List.mem_append_right _ mem_cons_self) (by rw [← kind]; simpa using same)
      rw [packet_wait same whole] at few behind ⊢
      by_cases early : sent ≤ state.waiting.length
      · obtain ⟨first,second,rfl,reached⟩ := before sent early
        refine ⟨first,second ++ [frame],append_assoc _ _ _,?_⟩
        rw [eachItem_append]
        rw [reached]
        change (packet accepts frame (SplitAt accepts state sent)).2 = _
        rw [packet_wait (by exact same) whole]
        exact splitAt_wait accepts state frame early
      · have all : sent = (state.wait frame).waiting.length := by
          simp only [wait,length_append,List.length_singleton] at few ⊢
          omega
        rw [all]
        exact behind

theorem gapsSeen_of_split {stream : NtscfListener} {front rest : List NetRxDesc}
    (covered : Covered (front ++ rest) ⟨stream,[]⟩)
    (split : ∀ parts, parts.flatten = front ++ rest → (eachItem (avtpAlternativeNetRx accepts) parts stream).1.media =
      (eachItem (packet accepts) (front ++ rest) ⟨stream,[]⟩).1.media) :
    GapsSeen accepts rest (eachItem (packet accepts) front ⟨stream,[]⟩).2 := by
  induction rest generalizing front with
  | nil => trivial
  | cons frame rest ih =>
    have next := @ih (front ++ [frame]) (by rw [append_assoc]; exact covered)
      (by rw [append_assoc]; exact split)
    have last : (eachItem (packet accepts) (front ++ [frame]) ⟨stream,[]⟩).2 =
        (packet accepts frame (eachItem (packet accepts) front ⟨stream,[]⟩).2).2 := by
      rw [eachItem_append]
      rfl
    rw [last] at next
    have reached := @splitAt_reached accepts stream front fun other member => covered other (List.mem_append_left _ member)
    have kind := packets_subtype accepts front ⟨stream,[]⟩
    by_cases other : (frame.subtype != stream.subtype) = true
    · rw [← kind] at other
      rw [GapsSeen,if_pos other]
      rw [packet_other other] at next
      exact next
    · have whole := covered frame (List.mem_append_right _ mem_cons_self) (by simpa using other)
      rw [← kind] at other
      have same := Bool.eq_false_iff.mpr other
      rw [packet_wait same whole] at next
      rw [GapsSeen,if_neg other]
      refine ⟨fun gap sent few => ?_,next⟩
      obtain ⟨first,second,rfl,there⟩ := reached sent few
      have equal := split [first,second ++ frame :: rest] (by simp)
      rw [eachItem_two,avtpAlternativeNetRx_each,avtpAlternativeNetRx_each,eachItem_append,eachItem_append] at equal
      have flushed : (⟨((eachItem (packet accepts) first ⟨stream,[]⟩).2.flush accepts).stream,[]⟩ : NtscfState) =
        (eachItem (packet accepts) first ⟨stream,[]⟩).2.flush accepts := rfl
      rw [flushed,there,Handled.media_and,Handled.media_and,Handled.media_and,← append_assoc] at equal
      have after : ((eachItem (packet accepts) first ⟨stream,[]⟩).2.flush accepts).stream.subtype =
        stream.subtype := packets_subtype accepts first ⟨stream,[]⟩
      obtain ⟨_,tails⟩ := List.append_inj equal (by
        rw [length_append,(packets_counts _ _).1,(packets_counts _ _).1,(packets_counts _ _).1,after,List.countP_append])
      generalize (eachItem (packet accepts) (first ++ second) ⟨stream,[]⟩).2 = state at tails few gap same ⊢
      have gaps : (SplitAt accepts state sent).gap frame = true := gap
      rw [eachItem,eachItem,packet_wait same whole,
        @packet_wait accepts (SplitAt accepts state sent) frame same whole,gap,gaps,Bool.and_true,
        Bool.and_true] at tails
      have heads := congrArg (fun media => media.flags.packetLost) (List.cons.inj tails).1
      have counts : ((SplitAt accepts state sent).stream.mediaTx != 0) = (state.stream.mediaTx != 0) := heads
      rw [Bool.eq_iff_iff,bne_iff_ne,bne_iff_ne] at counts
      exact not_iff_not.mp counts

theorem packetWiseNtscf (distinct : (desc.map NetRxDesc.id).Nodup)
    (valid : ∀ frame ∈ desc, EthernetFrame frame) (stream : NtscfListener) :
    PacketWise (fun _ => avtpAlternativeNetRx accepts) desc stream ↔
      Covered desc ⟨stream,[]⟩ ∧ GapsSeen accepts desc ⟨stream,[]⟩ := by
  have handled : (avtpAlternativeNetRx accepts desc stream).1 = (eachItem (packet accepts) desc ⟨stream,[]⟩).1 := by
    rw [avtpAlternativeNetRx_each]
  have places : Covered desc ⟨stream,[]⟩ → _ := @ntscf_places accepts desc ⟨stream,[]⟩
  constructor
  · intro owed
    have once := owed.once (stamped 0)
    rw [handled] at once
    have covered := covered_of_once once
    refine ⟨covered,@gapsSeen_of_split accepts stream [] desc covered fun parts flat => ?_⟩
    rw [owed.split (stamped 0) parts flat,handled]
    rfl
  · rintro ⟨covered,seen⟩
    constructor
    · intro _
      rw [handled]
      exact placed_once (places covered) rfl
    · intro _
      rw [handled]
      exact placed_inOrder (places covered) rfl
    · exact fun _ _ => rfl
    · exact fun _ parts flat => gapsSeen_batch flat covered seen
    · intro _
      rw [handled,placed_inside (places covered) distinct rfl,ofSubtype_inside]
      intro frame member same payload place
      cases place
      exact ((valid frame member).inFrame_ntscf).mp (covered frame member same)

end Sound

end Ntscf

private theorem stateless_packetWise {σ : Type} {rxDesc : AvtpRxDesc → σ → Handled × σ}
    {placed : NetRxDesc → Option (Half × Half)} {fits : NetRxDesc → Prop}
    (treats : ∀ frame flags state, Treats (placed frame) frame (rxDesc (avtpRxDesc frame flags) state).1)
    {desc : List NetRxDesc} (distinct : (desc.map NetRxDesc.id).Nodup)
    (inside : ∀ frame ∈ desc, (∀ payload, placed frame = some payload → InFrame frame payload.1 payload.2) ↔ fits frame)
    (stream : StreamListener σ) :
    PacketWise (fun _ => streamNetRx (ofEach rxDesc)) desc stream ↔
      (∀ frame ∈ desc, frame.subtype = stream.subtype → fits frame) ∧ True := by
  refine (@each_packetWise σ placed (fun _ => rxDesc) (fun _ => treats) desc distinct stream).trans ?_
  refine (and_comm.trans (and_congr ?_ (iff_true_intro fun _ _ => rfl)))
  apply forall₂_congr
  intro frame member
  rw [inside frame member]

namespace ListenerFormat

def subtype : (format : ListenerFormat) → format.Stream → Byte
  | iec61883_4 | aaf _ | cvfH264 _ | tscf => fun stream : StreamListener Unit => stream.subtype
  | iec61883_6 _ => fun stream : StreamListener Byte => stream.subtype
  | cvfMjpeg => fun stream : StreamListener Word => stream.subtype
  | ntscf => fun stream : NtscfListener => stream.subtype

/-- A packet that is taken has a data length for its headers and its frame. -/
def TakesWhole : ListenerFormat → NetRxDesc → Prop
  | iec61883_4,frame => mismatch61883_4 (avtpRxDesc frame AvtpFlags.none) = false → Fits 8 frame
  | iec61883_6 _,frame => mismatch61883_6 (avtpRxDesc frame AvtpFlags.none) = false → Fits 8 frame
  | aaf data,frame => data.mismatch frame = false → Fits 0 frame
  | cvfH264 ieee1722_2016,frame => h264Refused ieee1722_2016 frame = false → H264Fits ieee1722_2016 frame
  | cvfMjpeg,frame => mismatchMjpeg frame = false → Fits 8 frame
  | tscf,frame => Fits 0 frame
  | ntscf,frame => ntscfTruncated frame = false

/-- No packet of the batch depends on another one in the same call. -/
def Orderly (accepts : Nat → Bool) : (format : ListenerFormat) → List NetRxDesc → format.Stream → Prop
  | iec61883_4 => fun desc stream => Unbroken desc stream false
  | cvfMjpeg => fun desc (stream : StreamListener Word) => InPlace stream.subtype desc stream.subtypeData
  | ntscf => fun desc stream => GapsSeen accepts desc ⟨stream,[]⟩
  | iec61883_6 _ | aaf _ | cvfH264 _ | tscf => fun _ _ => True

end ListenerFormat

def ntscfFrame (id : Nat) (subtype dataLength sequenceNum : Byte) : NetRxDesc :=
  ⟨id,128,60,146,0,Memory.write (fun _ => 0) 146 [subtype,0x80,dataLength,sequenceNum]⟩

end Genavb.Avtp
