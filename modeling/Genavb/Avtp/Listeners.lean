import Genavb.Avtp.Iec61883
import Genavb.Avtp.CvfH264

/-! The other stream listeners: IEC 61883-4 (`61883_iidc.c`), AAF (`aaf.c`), MJPEG (`cvf.c`), and TSCF and NTSCF
(`acf.c`), the last one behind `avtp_alternative_net_rx` (`avtp.c`). -/
namespace Genavb.Avtp
open Handled

def IEC_61883_CIP_FMT_4 : Byte := 0x20
def IEC_61883_4_SP_SIZE : Nat := 192
def IEC_61883_4_SP_PAYLOAD_SIZE : Nat := 188
def CVF_FORMAT_SUBTYPE_MJPEG : Byte := 0

/-- What was in memory before: what the entries of `media_desc` that have not been written point to, and the
`avtp_timestamp` that a descriptor still holds. -/
structure Leftover where
  mediaDesc : Nat → Memory
  avtpTimestamp : Nat → Word

section Iec61883_4
variable (flags : AvtpFlags)

def mismatch61883_4 (desc : AvtpRxDesc) : Bool :=
  desc.tag != IEC_61883_PSH_TAG_CIP_INCLUDED || !desc.sph || desc.qpc != 0 || desc.fmt != IEC_61883_CIP_FMT_4

def sourcePackets (data : Memory) (currentTs : Nat) : Nat → Nat → List AvtpTs
  | 0,_ => []
  | left + 1,place =>
    ⟨some (data.word (currentTs + IEC_61883_4_SP_SIZE * place)),flags,
      BitVec.ofNat 16 (IEC_61883_4_SP_PAYLOAD_SIZE * place)⟩ :: sourcePackets data currentTs left (place + 1)

end Iec61883_4

/-- A packet of `avtp_61883_4_net_rx`. Its timestamps are read through `media_desc[i]`, and it is `media_desc[media_n]`
that has been written. -/
def avtp61883_4RxDesc (leftover : Leftover) (desc : AvtpRxDesc) (place : Nat × Nat) : Handled × (Nat × Nat) :=
  let (i,mediaN) := place
  if mismatch61883_4 desc then (free desc.desc.id,(i + 1,mediaN))
  else
    let payloadSize : Word := desc.l4Len.setWidth 32 - 8
    let l2Offset := desc.l4Offset + 8
    let data := if i = mediaN then desc.desc.data else leftover.mediaDesc i
    (give {
      id := desc.desc.id
      l2Offset := l2Offset
      len := payloadSize.setWidth 16
      ts := desc.desc.ts
      flags := desc.flags.packet
      bytesLost := 0
      avtpTs := sourcePackets desc.flags.packet data l2Offset.toNat
        ((payloadSize.toNat + (IEC_61883_4_SP_SIZE - 1)) / IEC_61883_4_SP_SIZE) 0
      data := desc.desc.data},(i + 1,mediaN + 1))

def ofLoop {κ σ : Type} (rxDesc : AvtpRxDesc → κ → Handled × κ) (start : κ) : NetRx σ := fun desc stream =>
  ((eachItem rxDesc desc start).1,stream)

def avtp61883_4NetRx (leftover : Leftover) : NetRx Unit := ofLoop (avtp61883_4RxDesc leftover) (0,0)

def packetMedia (desc : AvtpRxDesc) : MediaDesc where
  id := desc.desc.id
  l2Offset := desc.l4Offset
  len := desc.l4Len
  ts := desc.desc.ts
  flags := desc.flags.packet
  bytesLost := 0
  avtpTs :=
    if desc.flags.timestampInvalid then packetEvents desc.flags.packet
    else [⟨some desc.avtpTimestamp,AvtpFlags.none,0⟩]
  data := desc.desc.data

structure AafData where
  hdr : Word × Word
  hdrMask : Word × Word

def AafData.mismatch (aaf : AafData) (desc : NetRxDesc) : Bool :=
  desc.data.word (desc.l3Offset.toNat + 16) &&& aaf.hdrMask.1 != aaf.hdr.1 ||
    desc.data.word (desc.l3Offset.toNat + 20) &&& aaf.hdrMask.2 != aaf.hdr.2

def aafRxDesc (aaf : AafData) (desc : AvtpRxDesc) : Handled :=
  if aaf.mismatch desc.desc then free desc.desc.id else give (packetMedia desc)

def aafNetRx (aaf : AafData) : NetRx Unit := ofEach (stateless (aafRxDesc aaf))

def acfTscfNetRx : NetRx Unit := ofEach (stateless fun desc => give (packetMedia desc))

/-- The format check of `cvf_mjpeg_net_rx`. -/
def mismatchMjpeg (desc : NetRxDesc) : Bool :=
  desc.hdr 16 != CVF_FORMAT_RFC || desc.hdr 17 != CVF_FORMAT_SUBTYPE_MJPEG

def mjpegFragmentOffset (desc : NetRxDesc) : Word :=
  ((desc.data (desc.l3Offset.toNat + 25)).setWidth 32 <<< 16) + (desc.data.half (desc.l3Offset.toNat + 26)).setWidth 32

def mjpegMarker (desc : NetRxDesc) : Bool := (desc.hdr 22).getLsbD 4

/-- A packet of `cvf_mjpeg_net_rx`, which keeps `current_frame_offset`. A fragment at another offset
has its flags masked, with the one for an invalid timestamp. -/
def cvfMjpegRxDesc (leftover : Leftover) (desc : AvtpRxDesc) (currentFrameOffset : Word) : Handled × Word :=
  if mismatchMjpeg desc.desc then (free desc.desc.id,currentFrameOffset)
  else
    let len := desc.l4Len - 8
    let fragmentOffset := mjpegFragmentOffset desc.desc
    let flags :=
      if fragmentOffset ≠ currentFrameOffset then {AvtpFlags.none with packetLost := desc.flags.packetLost}
      else desc.flags
    let avtpTimestamp :=
      if desc.flags.timestampInvalid then leftover.avtpTimestamp desc.desc.id else desc.avtpTimestamp
    let endOfFrame : AvtpTs := {
      val := some (if flags.timestampInvalid then 0 else avtpTimestamp)
      flags := {AvtpFlags.none with endOfFrame := true,timestampInvalid := flags.timestampInvalid}
      offset := len - 1}
    (give {
      id := desc.desc.id
      l2Offset := desc.l4Offset + 8
      len := len
      ts := desc.desc.ts
      flags := flags.packet
      bytesLost := if currentFrameOffset < fragmentOffset then fragmentOffset - currentFrameOffset else 0
      avtpTs := packetEvents flags.packet ++ if mjpegMarker desc.desc then [endOfFrame] else []
      data := desc.desc.data},
      if mjpegMarker desc.desc then 0 else fragmentOffset + len.setWidth 32)

def cvfMjpegNetRx (leftover : Leftover) : NetRx Word := ofEach (cvfMjpegRxDesc leftover)

section Ntscf
variable (desc : NetRxDesc)

def ntscfDataLength : Half := ((desc.hdr 1).setWidth 16 &&& 7) <<< 8 ||| (desc.hdr 2).setWidth 16

def ntscfSequenceNum : Byte := desc.hdr 3

def ntscfTruncated : Bool :=
  let l4Offset := desc.l3Offset + 12
  let l4MaxLen : Word := desc.len.setWidth 32 - (l4Offset.setWidth 32 - desc.l2Offset.setWidth 32)
  l4MaxLen < (ntscfDataLength desc).setWidth 32

def ntscfMedia (lost : Bool) : MediaDesc :=
  let flags := {AvtpFlags.none with packetLost := lost}
  ⟨desc.id,desc.l3Offset + 12,ntscfDataLength desc,desc.ts,flags,0,packetEvents flags,desc.data⟩

end Ntscf

structure NtscfListener where
  subtype : Byte
  sequenceNum : Byte
  mediaTx : Word

/-- A packet of `acf_ntscf_net_rx`: a truncated one is passed over, a gap in the sequence numbers is
only looked for once something has gone to the media stack. -/
def acfNtscfRxDesc (mediaTx : Word) (desc : NetRxDesc) (sequenceNum : Byte) : Handled × Byte :=
  if ntscfTruncated desc then (nothing,sequenceNum)
  else
    let lost := mediaTx != 0 && ntscfSequenceNum desc != sequenceNum + 1
    (give (ntscfMedia desc lost),ntscfSequenceNum desc)

def taken (accepts : Nat → Bool) (ids : List Nat) : Word := BitVec.ofNat 32 (ids.countP accepts)

def acfNtscfNetRx (accepts : Nat → Bool) (desc : List NetRxDesc) (stream : NtscfListener) : Handled × NtscfListener :=
  let (handled,sequenceNum) := eachItem (acfNtscfRxDesc stream.mediaTx) desc stream.sequenceNum
  (handled,{stream with sequenceNum := sequenceNum,mediaTx := stream.mediaTx + taken accepts (handled.media.map MediaDesc.id)})

structure AlternativeRx where
  stream : NtscfListener
  desc : List NetRxDesc
  handled : Handled

namespace AlternativeRx

def descFlush (accepts : Nat → Bool) (rx : AlternativeRx) : AlternativeRx :=
  if rx.desc.isEmpty then rx
  else
    let (handled,stream) := acfNtscfNetRx accepts rx.desc rx.stream
    ⟨stream,[],rx.handled.and handled⟩

def receive (accepts : Nat → Bool) (rx : AlternativeRx) (desc : NetRxDesc) : AlternativeRx :=
  if desc.subtype != rx.stream.subtype then
    let rx := rx.descFlush accepts
    {rx with handled := rx.handled.and (free desc.id)}
  else {rx with desc := rx.desc ++ [desc]}

end AlternativeRx

def avtpAlternativeNetRx (accepts : Nat → Bool) (desc : List NetRxDesc) (stream : NtscfListener) :
    Handled × NtscfListener :=
  let rx := (desc.foldl (AlternativeRx.receive accepts) ⟨stream,[],nothing⟩).descFlush accepts
  (rx.handled,rx.stream)

/-- The stream formats with a `net_rx` that hands packets to the media stack. -/
inductive ListenerFormat
  | iec61883_4
  | iec61883_6 (config : Iec61883_6Stream)
  | aaf (data : AafData)
  | cvfH264 (ieee1722_2016 : Bool)
  | cvfMjpeg
  | tscf
  | ntscf

namespace ListenerFormat

def Stream : ListenerFormat → Type
  | iec61883_4 | aaf _ | cvfH264 _ | tscf => StreamListener Unit
  | iec61883_6 _ => StreamListener Byte
  | cvfMjpeg => StreamListener Word
  | ntscf => NtscfListener

def streamNetRx {σ : Type} (netRx : NetRx σ) (desc : List NetRxDesc) (stream : StreamListener σ) :
    Handled × StreamListener σ :=
  ((avtpStreamNetRx netRx desc stream).handled,(avtpStreamNetRx netRx desc stream).stream)

def netRx (accepts : Nat → Bool) (leftover : Leftover) :
    (format : ListenerFormat) → List NetRxDesc → format.Stream → Handled × format.Stream
  | iec61883_4 => streamNetRx (avtp61883_4NetRx leftover)
  | iec61883_6 config => streamNetRx (avtp61883_6NetRx config)
  | aaf data => streamNetRx (aafNetRx data)
  | cvfH264 ieee1722_2016 => streamNetRx (avtpCvfH264NetRx ieee1722_2016)
  | cvfMjpeg => streamNetRx (cvfMjpegNetRx leftover)
  | tscf => streamNetRx acfTscfNetRx
  | ntscf => avtpAlternativeNetRx accepts

end ListenerFormat

end Genavb.Avtp
