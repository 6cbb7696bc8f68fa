import Genavb.Avtp.StreamReceive
import Genavb.Support.Run

/-! H.264 over AVTP (`cvf.c`): the talker that makes packets of NAL units, and the listener that makes a byte stream
of them, in place. -/
namespace Genavb.Avtp

def AVTP_SUBTYPE_CVF : Byte := 3
def CVF_FORMAT_RFC : Byte := 2
def CVF_FORMAT_SUBTYPE_H264 : Byte := 1
def CVF_H264_NALU_TYPE_STAP_A : Byte := 24
def CVF_H264_NALU_TYPE_FU_A : Byte := 28
def CVF_H264_NALU_TYPE_FU_B : Byte := 29
def CVF_H264_STAP_A_NALU_SIZE_HDR_SIZE : Half := 2

def CVF_H264_NALU_TYPES_RESERVED : List Byte := [0,17,18,22,23,30,31]

def CVF_H264_NALU_TYPES_UNHANDLED : List Byte := [25,26,27]

def syncBytes : List Byte := [0,0,0,1]

def naluHeader (f : Bool) (nri : BitVec 2) (type : BitVec 5) : Byte := BitVec.ofBool f ++ nri ++ type

def naluForbidden (nalu : Byte) : Bool := nalu.getLsbD 7

def naluNri (nalu : Byte) : BitVec 2 := nalu.extractLsb' 5 2

def naluType (nalu : Byte) : BitVec 5 := nalu.extractLsb' 0 5

def naluFuHeader (s e : Bool) (type : BitVec 5) : Byte := BitVec.ofBool s ++ BitVec.ofBool e ++ 0#1 ++ type

def stapUnits (data : Memory) : Nat → Nat → Nat → Nat
  | 0,_,_ => 0
  | left + 1,sizeOffset,payloadLength =>
    if 2 < payloadLength then
      let naluDataSize := (data.half sizeOffset).toNat
      let naluDataSize := if payloadLength - 2 < naluDataSize then payloadLength - 2 else naluDataSize
      stapUnits data left (sizeOffset + 2 + naluDataSize) (payloadLength - 2 - naluDataSize) + 1
    else 0

structure NaluPayload where
  l2Offset : Half
  len : Half
  data : Memory
  ends : Bool

/-- The case of a STAP-A packet: its first units get start codes for their size headers. -/
def rxStapA (data : Memory) (l2Offset len : Half) : Option NaluPayload :=
  let payloadLength := (len.setWidth 32 - 1 : Word).toNat
  let numData := stapUnits data payloadLength (l2Offset.toNat + 1) payloadLength
  if 2 < numData then none
  else
    let naluDataSize := data.half (l2Offset.toNat + 1)
    let tempOffset : Half := BitVec.ofNat 16 numData * 4 - BitVec.ofNat 16 numData * CVF_H264_STAP_A_NALU_SIZE_HDR_SIZE - 1
    let l2Offset := l2Offset - tempOffset
    let data := data.write l2Offset.toNat syncBytes
    let data :=
      if numData = 2 then
        let moved := data.write (l2Offset.toNat + 4) (data.bytes (l2Offset.toNat + 6) naluDataSize.toNat)
        moved.write (l2Offset.toNat + 4 + naluDataSize.toNat) syncBytes
      else data
    some ⟨l2Offset,len + tempOffset,data,true⟩

/-- The case of a FU-A or FU-B packet: the first one gets a start code and the header of its unit. -/
def rxFu (data : Memory) (l2Offset len : Half) : NaluPayload :=
  let nalu := data l2Offset.toNat
  let fuHeader := data (l2Offset.toNat + 1)
  if fuHeader.getLsbD 7 then
    let l2Offset := l2Offset - 3
    let data := data.write l2Offset.toNat syncBytes
    ⟨l2Offset,len + 3,data.write (l2Offset.toNat + 4)
      [naluHeader (naluForbidden nalu) (naluNri nalu) (fuHeader.extractLsb' 0 5)],false⟩
  else ⟨l2Offset + 2,len - 2,data,fuHeader.getLsbD 6⟩

def rxSingle (data : Memory) (l2Offset len : Half) : NaluPayload :=
  let l2Offset := l2Offset - 4
  ⟨l2Offset,len + 4,data.write l2Offset.toNat syncBytes,true⟩

def rxNalu (data : Memory) (l2Offset len : Half) : Option NaluPayload :=
  let nalu := data l2Offset.toNat
  let type : Byte := (naluType nalu).setWidth 8
  if naluForbidden nalu then none
  else if type ∈ CVF_H264_NALU_TYPES_RESERVED then none
  else if type = CVF_H264_NALU_TYPE_STAP_A then rxStapA data l2Offset len
  else if type ∈ CVF_H264_NALU_TYPES_UNHANDLED then none
  else if type = CVF_H264_NALU_TYPE_FU_B || type = CVF_H264_NALU_TYPE_FU_A then some (rxFu data l2Offset len)
  else some (rxSingle data l2Offset len)

/-- One packet of `avtp_cvf_h264_net_rx`. The header with the timestamp is there in the 2016 version of the format. -/
def avtpCvfH264RxDesc (ieee1722_2016 : Bool) (desc : AvtpRxDesc) : Handled :=
  let l3Offset := desc.desc.l3Offset.toNat
  if desc.desc.data (l3Offset + 16) ≠ CVF_FORMAT_RFC || desc.desc.data (l3Offset + 17) ≠ CVF_FORMAT_SUBTYPE_H264 then
    Handled.free desc.desc.id
  else
    let l2Offset := if ieee1722_2016 then desc.l4Offset + 4 else desc.l4Offset
    let len := if ieee1722_2016 then desc.l4Len - 4 else desc.l4Len
    let h264Timestamp := desc.desc.data.word (l2Offset.toNat - 4)
    match rxNalu desc.desc.data l2Offset len with
    | none => Handled.free desc.desc.id
    | some payload =>
      let flags := desc.flags.packet
      -- the header is read again after the bytes before the payload have been written
      let marker := (payload.data (l3Offset + 22)).getLsbD 4
      let ptv := (payload.data (l3Offset + 22)).getLsbD 5
      let endOfFrame : AvtpTs := {
        val := some (if ptv then h264Timestamp else 0)
        flags := {AvtpFlags.none with endOfFrame := true,timestampInvalid := !ptv}
        offset := payload.len - 1}
      Handled.give {
        id := desc.desc.id
        l2Offset := payload.l2Offset
        len := payload.len
        ts := desc.desc.ts
        flags := flags
        bytesLost := 0
        avtpTs := packetEvents flags ++ if marker || payload.ends then [endOfFrame] else []
        data := payload.data}

def avtpCvfH264NetRx (ieee1722_2016 : Bool) : NetRx Unit := ofEach (stateless (avtpCvfH264RxDesc ieee1722_2016))

/-- A packet of `media_rx`: its payload, whether it ends a unit, and the first timestamp that came with it. -/
structure H264RxDesc where
  bytes : List Byte
  isPartial : Bool
  endFrame : Bool
  ts : Option Word

structure CvfH264Data where
  prevIncompleteNal : Bool
  isNaluTsValid : Bool
  h264Timestamp : Word
  naluHeader : Byte

structure H264Fragment where
  ptv : Bool
  h264Timestamp : Word
  payload : List Byte

def setFuHeaders (nalu : Byte) (startFu endFrame : Bool) (bytes : List Byte) : List Byte :=
  (bytes.set 0 (naluHeader false (naluNri nalu) 28#5)).set 1
    (naluFuHeader startFu (!startFu && endFrame) (naluType nalu))

def CvfH264Data.fragment (desc : H264RxDesc) (data : CvfH264Data) : H264Fragment × CvfH264Data :=
  let startFu := !data.prevIncompleteNal && desc.bytes.getD 0 0 == CVF_H264_NALU_TYPE_FU_A
  let setSinglePacket := !data.prevIncompleteNal && desc.bytes.getD 0 0 != CVF_H264_NALU_TYPE_FU_A
  let nalu :=
    if setSinglePacket then desc.bytes.getD 0 0
    else if startFu then desc.bytes.getD 1 0
    else data.naluHeader
  let starts := setSinglePacket || startFu
  let isNaluTsValid := if starts then desc.ts.isSome else data.isNaluTsValid
  let h264Timestamp := if starts then desc.ts.getD data.h264Timestamp else data.h264Timestamp
  (⟨isNaluTsValid,if isNaluTsValid then h264Timestamp else 0,
    if setSinglePacket then desc.bytes else setFuHeaders nalu startFu desc.endFrame desc.bytes⟩,
    ⟨!desc.endFrame,isNaluTsValid,h264Timestamp,nalu⟩)

structure H264Packet where
  sequenceNum : Byte
  mr : Bool
  avtpTimestamp : Option Word
  fragment : H264Fragment

/-- `cvf_prepare_header` and the fields that `avtp_cvf_h264_net_tx` sets. -/
def H264Packet.header (streamId : Word × Word) (packet : H264Packet) : List Byte :=
  [AVTP_SUBTYPE_CVF,1#1 ++ 0#3 ++ BitVec.ofBool packet.mr ++ 0#2 ++ BitVec.ofBool packet.avtpTimestamp.isSome,
    packet.sequenceNum,0] ++ wordBytes streamId.1 ++ wordBytes streamId.2 ++
  wordBytes (packet.avtpTimestamp.getD 0) ++ [CVF_FORMAT_RFC,CVF_FORMAT_SUBTYPE_H264,0,0] ++
  halfBytes (BitVec.ofNat 16 (4 + packet.fragment.payload.length)) ++
  [0#2 ++ BitVec.ofBool packet.fragment.ptv ++ 0#1 ++ 0#4,0] ++ wordBytes packet.fragment.h264Timestamp

structure H264Talker where
  subtypeData : CvfH264Data
  sequenceNum : Byte
  mr : Bool
  mediaCount : Word
  tsN : Word
  sent : List H264Packet

/-- What one call of `avtp_cvf_h264_net_tx` meets: the packets of the media stack, and the answer of the media clock
with its reset flag. -/
structure H264Tick where
  mediaRx : Option (List H264RxDesc)
  mediaClock : List Word
  reset : Bool

namespace H264Talker

def init : H264Talker := ⟨⟨false,false,0,0⟩,0,false,0,0,[]⟩

def sendPacket (framesPerPacket : Word) (desc : H264RxDesc) (ts : List Word) (talker : H264Talker) : H264Talker :=
  let (fragment,data) := talker.subtypeData.fragment desc
  {talker with
    subtypeData := data
    sequenceNum := talker.sequenceNum + 1
    mediaCount := talker.mediaCount + (if desc.isPartial then BitVec.ofNat 32 desc.bytes.length else framesPerPacket)
    tsN := if desc.endFrame then talker.tsN + 1 else talker.tsN
    sent := talker.sent ++
      [⟨talker.sequenceNum,talker.mr,if desc.endFrame then some (ts.headD 0) else none,fragment⟩]}

def sendPackets (framesPerPacket : Word) : List H264RxDesc → List Word → H264Talker → H264Talker
  | [],_,talker => talker
  | desc :: rest,ts,talker =>
    sendPackets framesPerPacket rest (if desc.endFrame then ts.drop 1 else ts)
      (talker.sendPacket framesPerPacket desc ts)

def avtpCvfH264NetTx (framesPerPacket : Word) (txBatch : Nat) (tick : H264Tick) (talker : H264Talker) : H264Talker :=
  match tick.mediaRx with
  | none => {talker with mediaCount := 0}
  | some desc =>
    if tick.mediaClock.length ≠ txBatch then talker
    else
      let talker := if tick.reset then {talker with mr := !talker.mr} else talker
      talker.sendPackets framesPerPacket desc tick.mediaClock

end H264Talker

end Genavb.Avtp
