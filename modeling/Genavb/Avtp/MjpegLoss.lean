import Genavb.Avtp.ListenerBatches

/-! Losses in an MJPEG stream (`cvf_mjpeg_net_rx`): what is reported of a fragment that is not where the last one
ended. -/
namespace Genavb.Avtp
open StreamRx List

def mjpegDelivered (subtype : Byte) (frame : NetRxDesc) : Bool := !(frame.subtype != subtype) && !mismatchMjpeg frame

/-- Where the last of the fragments ended, which is the start of a frame behind one that ends its frame. -/
def fragmentEnd (start : Word) (fragments : List NetRxDesc) : Word := (fragments.getLast?.map mjpegNextOffset).getD start

def followed (frames : List NetRxDesc) (stream : StreamListener Word) : StreamListener Word :=
  frames.foldl (fun stream frame => if frame.subtype != stream.subtype then stream else StreamRx.follow frame stream) stream

def mjpegFlags (before : List NetRxDesc) (frame : NetRxDesc) (stream : StreamListener Word) : AvtpFlags :=
  {packetFlags frame (followed before stream) with timestampInvalid := !frame.tv}

/-- What a media descriptor tells of a fragment, when the last one ended at `last`. -/
structure Reports (frame : NetRxDesc) (flags : AvtpFlags) (last : Word) (media : MediaDesc) : Prop where
  own : media.id = frame.id
  lost : media.flags.packetLost = (flags.packetLost || mjpegFragmentOffset frame != last)
  bytesLost : media.bytesLost.toNat = (mjpegFragmentOffset frame).toNat - last.toNat
  restart : media.flags.mediaClockRestart = flags.mediaClockRestart
  uncertain : media.flags.timestampUncertain = flags.timestampUncertain
  timestamp : ∀ event ∈ media.avtpTs, event.flags.endOfFrame = true →
    event.flags.timestampInvalid = flags.timestampInvalid ∧
      (flags.timestampInvalid = false → event.val = some frame.avtpTimestamp)

def LossReported (leftover : Leftover) (batches : List (List NetRxDesc)) (stream : StreamListener Word) : Prop :=
  ∀ before frame after, batches.flatten = before ++ frame :: after → mjpegDelivered stream.subtype frame = true →
    ∃ media, (streamBatches (cvfMjpegNetRx leftover) batches stream).1.media[(before.filter
        (mjpegDelivered stream.subtype)).length]? = some media ∧
      Reports frame (mjpegFlags before frame stream)
        (fragmentEnd stream.subtypeData (before.filter (mjpegDelivered stream.subtype))) media

section Fragments
variable {leftover : Leftover} {frame : NetRxDesc} {flags : AvtpFlags} {last : Word} {stream : StreamListener Word}

theorem fragmentEnd_concat (start : Word) (fragments : List NetRxDesc) (frame : NetRxDesc) :
    fragmentEnd start (fragments ++ [frame]) = mjpegNextOffset frame := by
  simp [fragmentEnd]

private theorem followed_concat (before : List NetRxDesc) (frame : NetRxDesc) (stream : StreamListener Word) :
    followed (before ++ [frame]) stream =
      if frame.subtype != (followed before stream).subtype then followed before stream
      else StreamRx.follow frame (followed before stream) := by
  simp [followed]

private theorem followed_subtype (before : List NetRxDesc) (stream : StreamListener Word) :
    (followed before stream).subtype = stream.subtype := by
  induction before using List.reverseRecOn with
  | nil => rfl
  | append_singleton before frame ih =>
    rw [followed_concat]
    split
    · exact ih
    · exact ih

def maskedFlags (offset last : Word) (flags : AvtpFlags) : AvtpFlags :=
  if offset ≠ last then {AvtpFlags.none with packetLost := flags.packetLost} else flags

private theorem mjpeg_given (passed : mismatchMjpeg frame = false) :
    ∃ media, (cvfMjpegRxDesc leftover (avtpRxDesc frame flags) last).1 = Handled.give media ∧ media.id = frame.id ∧
      media.flags = (maskedFlags (mjpegFragmentOffset frame) last {flags with timestampInvalid := !frame.tv}).packet ∧
      media.bytesLost = (if last < mjpegFragmentOffset frame then mjpegFragmentOffset frame - last else 0) ∧
      ∃ event, event.flags.endOfFrame = true ∧
        event.flags.timestampInvalid =
          (maskedFlags (mjpegFragmentOffset frame) last {flags with timestampInvalid := !frame.tv}).timestampInvalid ∧
        (frame.tv = true → event.flags.timestampInvalid = false → event.val = some frame.avtpTimestamp) ∧
        media.avtpTs = packetEvents media.flags ++ if mjpegMarker frame then [event] else [] := by
  change ∃ media, (if mismatchMjpeg frame then _ else _ : Handled × Word).1 = _ ∧ _
  rw [passed,if_neg Bool.false_ne_true]
  refine ⟨_,rfl,rfl,rfl,rfl,_,?_,?_,?_,rfl⟩
  · rfl
  · rfl
  · intro valid stamped
    rw [stamped]
    change some (if (!frame.tv) = true then _ else if frame.tv then frame.avtpTimestamp else 0) = _
    rw [valid]
    rfl

theorem bytes_lost (offset last : Word) :
    (if last < offset then offset - last else 0).toNat = offset.toNat - last.toNat := by
  split <;> bv_omega

theorem packetEvents_within {event : AvtpTs} (member : event ∈ packetEvents flags) :
    event.flags.endOfFrame = false := by
  unfold packetEvents at member
  split at member
  · exact absurd member not_mem_nil
  · rw [mem_singleton.mp member]
    rfl

/-- The mask of a fragment at another offset leaves it no flag but one, so it is reported rightly when it has no other. -/
private theorem reports_iff {media : MediaDesc} (passed : mismatchMjpeg frame = false)
    (given : (cvfMjpegRxDesc leftover (avtpRxDesc frame flags) last).1 = Handled.give media) :
    Reports frame {flags with timestampInvalid := !frame.tv} last media ↔
      (mjpegFragmentOffset frame ≠ last → flags.packetLost = true ∧ flags.mediaClockRestart = false ∧
        flags.timestampUncertain = false ∧ (mjpegMarker frame = true → frame.tv = true)) := by
  obtain ⟨handed,same,id,told,lost,event,ends,invalid,stamped,events⟩ := @mjpeg_given leftover _ flags last passed
  cases (head_eq_of_cons_eq (congrArg Handled.media (given.symm.trans same)) : media = handed)
  have bytes := bytes_lost (mjpegFragmentOffset frame) last
  rw [← lost] at bytes
  constructor
  · intro reports moved
    have masked : maskedFlags (mjpegFragmentOffset frame) last {flags with timestampInvalid := !frame.tv} =
      {AvtpFlags.none with packetLost := flags.packetLost} := if_pos moved
    rw [masked] at told invalid
    have ofLost := reports.lost
    have ofRestart := reports.restart
    have ofUncertain := reports.uncertain
    rw [told] at ofLost ofRestart ofUncertain
    refine ⟨?_,ofRestart.symm,ofUncertain.symm,?_⟩
    · have there : (mjpegFragmentOffset frame != last) = true := bne_iff_ne.mpr moved
      rw [there,Bool.or_true] at ofLost
      exact ofLost
    · intro marker
      have member : event ∈ media.avtpTs := by
        rw [events,if_pos marker]
        exact mem_append_right _ mem_cons_self
      have valid := (reports.timestamp event member ends).1
      rw [invalid] at valid
      change false = !frame.tv at valid
      simpa using valid
  · intro allowed
    have own : (maskedFlags (mjpegFragmentOffset frame) last {flags with timestampInvalid := !frame.tv}).packet =
        {flags with packetLost := flags.packetLost || mjpegFragmentOffset frame != last}.packet ∧
        (mjpegMarker frame = true → event.flags.timestampInvalid = !frame.tv) := by
      rw [invalid]
      unfold maskedFlags
      by_cases moved : mjpegFragmentOffset frame = last
      case pos => simp [moved,AvtpFlags.packet]
      case neg =>
        obtain ⟨packetLost,restart,uncertain,valid⟩ := allowed moved
        rw [if_pos moved,packetLost,restart,uncertain]
        refine ⟨rfl,fun marker => ?_⟩
        rw [valid marker]
        rfl
    rw [own.1] at told
    refine ⟨id,by rw [told]; rfl,bytes,by rw [told]; rfl,by rw [told]; rfl,?_⟩
    intro other member marked
    rw [events] at member
    rcases mem_append.mp member with packet | last
    · rw [packetEvents_within packet] at marked
      cases marked
    · split at last
      next marker =>
        cases mem_singleton.mp last
        refine ⟨own.2 marker,fun valid => ?_⟩
        have tv : frame.tv = true := by simpa using valid
        apply stamped tv
        rw [own.2 marker]
        exact valid
      · exact absurd last not_mem_nil

private theorem receivePacket_frame (frame : NetRxDesc) (stream : StreamListener Word) :
    receivePacket (cvfMjpegRxDesc leftover) frame stream =
      if mjpegDelivered stream.subtype frame then
        ((cvfMjpegRxDesc leftover (avtpRxDesc frame (packetFlags frame stream)) stream.subtypeData).1,
          {StreamRx.follow frame stream with subtypeData := mjpegNextOffset frame})
      else (Handled.free frame.id,if frame.subtype != stream.subtype then stream else StreamRx.follow frame stream) := by
  unfold mjpegDelivered
  by_cases other : (frame.subtype != stream.subtype) = true
  case pos => simp [receivePacket,other]
  case neg =>
    have same := Bool.eq_false_iff.mpr other
    rw [receivePacket_mjpeg leftover stream same,same]
    cases mismatch : mismatchMjpeg frame with
    | true =>
      rw [mjpeg_refused mismatch]
      rfl
    | false =>
      rw [mjpeg_next mismatch]
      rfl

theorem received_state (before : List NetRxDesc) (stream : StreamListener Word) :
    (eachItem (receivePacket (cvfMjpegRxDesc leftover)) before stream).2 = {followed before stream with
        subtypeData := fragmentEnd stream.subtypeData (before.filter (mjpegDelivered stream.subtype))} ∧
      (eachItem (receivePacket (cvfMjpegRxDesc leftover)) before stream).1.media.length =
        (before.filter (mjpegDelivered stream.subtype)).length := by
  induction before using List.reverseRecOn with
  | nil => exact ⟨rfl,rfl⟩
  | append_singleton before frame ih =>
    obtain ⟨state,length⟩ := ih
    have subtype := followed_subtype before stream
    rw [eachItem_append,followed_concat,filter_append,state]
    simp only [eachItem,receivePacket_frame,Handled.and_nothing,subtype,Handled.media_and,length_append,length]
    cases delivered : mjpegDelivered stream.subtype frame with
    | true =>
      have passed : (frame.subtype != stream.subtype) = false ∧ mismatchMjpeg frame = false := by
        simpa [mjpegDelivered] using delivered
      rw [if_pos rfl,length_mjpeg passed.2,passed.1,if_neg Bool.false_ne_true]
      simp [delivered,fragmentEnd_concat,StreamRx.follow,subtype]
    | false =>
      simp only [filter_cons,delivered,filter_nil,append_nil,Bool.false_eq_true,if_false]
      refine ⟨?_,rfl⟩
      split
      · rw [subtype]
      · simp [StreamRx.follow,subtype]

private theorem delivered_media {before after : List NetRxDesc} (delivered : mjpegDelivered stream.subtype frame = true)
    (batches : List (List NetRxDesc)) (split : batches.flatten = before ++ frame :: after) :
    ∃ media, (streamBatches (cvfMjpegNetRx leftover) batches stream).1.media[(before.filter
        (mjpegDelivered stream.subtype)).length]? = some media ∧
      (cvfMjpegRxDesc leftover (avtpRxDesc frame (packetFlags frame (followed before stream)))
        (fragmentEnd stream.subtypeData (before.filter (mjpegDelivered stream.subtype)))).1 = Handled.give media := by
  obtain ⟨state,length⟩ := @received_state leftover before stream
  have passed : mismatchMjpeg frame = false := by
    have both := delivered
    simp only [mjpegDelivered,Bool.and_eq_true] at both
    simpa using both.2
  obtain ⟨media,given,_⟩ := @mjpeg_given leftover frame (packetFlags frame (followed before stream))
    (fragmentEnd stream.subtypeData (before.filter (mjpegDelivered stream.subtype))) passed
  refine ⟨media,?_,given⟩
  rw [cvfMjpegNetRx,streamBatches_each,split,eachItem_append,state,eachItem,receivePacket_frame]
  rw [if_pos (by rw [followed_subtype]; exact delivered)]
  have flags : packetFlags frame ({followed before stream with
      subtypeData := fragmentEnd stream.subtypeData (before.filter (mjpegDelivered stream.subtype))}) =
      packetFlags frame (followed before stream) := rfl
  rw [flags,given,Handled.media_and,Handled.media_and,← length,List.getElem?_append_right (Nat.le_refl _),Nat.sub_self]
  rfl

end Fragments

/-- The losses of an MJPEG stream are reported rightly if and only if each fragment that is not where the last one ended
follows a gap of the sequence numbers and has none of the other flags. -/
theorem mjpegLoss_reported (leftover : Leftover) (batches : List (List NetRxDesc)) (stream : StreamListener Word) :
    LossReported leftover batches stream ↔
      ∀ before frame after, batches.flatten = before ++ frame :: after → mjpegDelivered stream.subtype frame = true →
        mjpegFragmentOffset frame ≠ fragmentEnd stream.subtypeData (before.filter (mjpegDelivered stream.subtype)) →
        let flags := mjpegFlags before frame stream
        flags.packetLost = true ∧ flags.mediaClockRestart = false ∧ flags.timestampUncertain = false ∧
          (mjpegMarker frame = true → flags.timestampInvalid = false) := by
  have single {before frame} (delivered : mjpegDelivered stream.subtype frame = true) {media}
      (given : (cvfMjpegRxDesc leftover (avtpRxDesc frame (packetFlags frame (followed before stream)))
        (fragmentEnd stream.subtypeData (before.filter (mjpegDelivered stream.subtype)))).1 = Handled.give media) := by
    have passed : mismatchMjpeg frame = false := by
      simp only [mjpegDelivered,Bool.and_eq_true] at delivered
      simpa using delivered.2
    exact reports_iff passed given
  constructor
  · intro reported before frame after split delivered moved
    obtain ⟨media,there,reports⟩ := reported before frame after split delivered
    obtain ⟨same,place,given⟩ := @delivered_media leftover frame stream before after delivered batches split
    cases Option.some.inj (there.symm.trans place)
    obtain ⟨lost,restart,uncertain,valid⟩ := (single delivered given).mp reports moved
    refine ⟨lost,restart,uncertain,fun marker => ?_⟩
    change (!frame.tv) = false
    rw [valid marker]
    rfl
  · intro allowed before frame after split delivered
    obtain ⟨media,place,given⟩ := @delivered_media leftover frame stream before after delivered batches split
    refine ⟨media,place,(single delivered given).mpr fun moved => ?_⟩
    obtain ⟨lost,restart,uncertain,valid⟩ := allowed before frame after split delivered moved
    refine ⟨lost,restart,uncertain,fun marker => ?_⟩
    simpa [mjpegFlags] using valid marker

def mjpegListener : StreamListener Word := ⟨0x03,false,0,0,false,0⟩

def mjpegFrame (header sequenceNum length marker offset : Byte) : NetRxDesc :=
  ⟨sequenceNum.toNat,128,100,146,0,Memory.write (fun _ => 0) 146
    [0x03,header,sequenceNum,0,0,0,0,0,0,0,0,0,0,0,0,7,2,0,0,0,0,length,marker,0,0,0,0,offset]⟩

/-- The second of three fragments is lost, and the last one has no timestamp. -/
theorem lostFragment_misreported :
    ¬LossReported (stamped 0) [[mjpegFrame 0x81 0 28 0 0,mjpegFrame 0x80 2 28 0x10 40]] mjpegListener := by
  intro reported
  have split : [[mjpegFrame 0x81 0 28 0 0,mjpegFrame 0x80 2 28 0x10 40]].flatten =
    [mjpegFrame 0x81 0 28 0 0] ++ mjpegFrame 0x80 2 28 0x10 40 :: [] := rfl
  obtain ⟨media,there,reports⟩ := reported _ _ _ split (by decide)
  obtain ⟨same,place,given⟩ := @delivered_media (stamped 0) _ mjpegListener _ _ (by decide) _ split
  cases Option.some.inj (there.symm.trans place)
  have kept := (reports_iff (by decide) given).mp reports (by decide)
  exact absurd (kept.2.2.2 (by decide)) (by decide)

end Genavb.Avtp
