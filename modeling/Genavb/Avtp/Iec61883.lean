import Genavb.Avtp.StreamReceive
import Genavb.Support.Run

/-! IEC 61883-6 streams (`61883_iidc.c`): the format, the talker that puts timestamps on packets and the listener that
finds their frames. -/
namespace Genavb.Avtp
open Handled

def SYT_INTERVAL_LN2 : Nat := 3
def NET_TX_BATCH : Nat := 32
def CFG_AVTP_61883_6_MAX_CHANNELS : Nat := 32
def AVTP_SUBTYPE_61883_IIDC : Byte := 0
def IEC_61883_PSH_TAG_CIP_INCLUDED : Nat := 1
def IEC_61883_CIP_FMT_6 : Byte := 0x10
def IEC_61883_6_FDF_NODATA : Byte := 0xff
def IEC_61883_6_FDF_EVT_AM824 : Byte := 0x00
def IEC_61883_6_FDF_EVT_FLOATING : Byte := 0x04
def IEC_61883_6_FDF_EVT_INT32 : Byte := 0x06
def IEC_61883_6_FDF_SFC_RSVD : Byte := 0x07

structure Iec61883_6Format where
  fdf : Byte
  dbs : Byte
  labelIec60958Cnt : Byte
  labelMblaCnt : Byte
  labelMidiCnt : Byte
  labelSmptecnt : Byte
  b : Bool
  nb : Bool

def fdfEvt (fdf : Byte) : Byte := fdf >>> 3

def fdfSfc (fdf : Byte) : Byte := fdf &&& 7

namespace Iec61883_6Format
variable (format : Iec61883_6Format)

def labelsFit : Bool :=
  format.labelIec60958Cnt == 0 && format.labelMidiCnt == 0 && format.labelSmptecnt == 0 &&
    format.dbs.toNat == format.labelIec60958Cnt.toNat + format.labelMblaCnt.toNat + format.labelMidiCnt.toNat +
      format.labelSmptecnt.toNat

def checkFormat : Bool :=
  (fdfEvt format.fdf == IEC_61883_6_FDF_EVT_AM824 && format.labelsFit ||
      fdfEvt format.fdf == IEC_61883_6_FDF_EVT_FLOATING || fdfEvt format.fdf == IEC_61883_6_FDF_EVT_INT32) &&
    !(format.dbs == 0 || CFG_AVTP_61883_6_MAX_CHANNELS < format.dbs.toNat) &&
    fdfSfc format.fdf != IEC_61883_6_FDF_SFC_RSVD &&
    !(format.b || !format.nb)

def sampleStride : Nat := (if format.dbs = 0 then 256 else format.dbs.toNat) <<< 2

end Iec61883_6Format

def sytIntervalLn2From (framesPerPacket : Nat) : Nat → Nat → Nat
  | 0,ln2 => ln2
  | left + 1,ln2 => if 1 <<< ln2 < framesPerPacket then sytIntervalLn2From framesPerPacket left (ln2 + 1) else ln2

def avtp61883_6SytIntervalLn2 (framesPerPacket : Nat) : Nat :=
  sytIntervalLn2From framesPerPacket framesPerPacket SYT_INTERVAL_LN2

/-- A stream whose format has passed the check, with its frames per packet and SYT interval. -/
structure Iec61883_6Stream where
  format : Iec61883_6Format
  framesPerPacket : Nat
  sytIntervalLn2 : Nat
  checked : format.checkFormat = true
  covers : framesPerPacket ≤ 2 ^ sytIntervalLn2
  divides : sytIntervalLn2 ≤ 8

namespace Iec61883_6Stream
variable (config : Iec61883_6Stream)

def sytInterval : Nat := 1 <<< config.sytIntervalLn2

def payloadSize : Nat := config.framesPerPacket * config.format.sampleStride

end Iec61883_6Stream

/-- A packet of `media_rx`. A partial one holds less than the payload of a packet. -/
structure MediaRxDesc (config : Iec61883_6Stream) where
  isPartial : Bool
  len : Nat
  fits : len ≤ config.payloadSize

namespace MediaRxDesc
variable {config : Iec61883_6Stream}

def framesInPacket (desc : MediaRxDesc config) : Nat :=
  if desc.isPartial then desc.len / config.format.sampleStride else config.framesPerPacket

end MediaRxDesc

/-- The header of a packet given to the network, with the index of its first frame since the last reset. -/
structure CipPacket where
  first : Nat
  frames : Nat
  sequenceNum : Byte
  mr : Bool
  timestamp : Option Word
  streamDataLength : Half
  dbc : Byte
  launch : Word
  deriving DecidableEq

namespace CipPacket

/-- `avtp_data_header_init`, `avtp_61883_6_prepare_header` and the fields that `avtp_61883_6_net_tx` sets. -/
def header (config : Iec61883_6Stream) (streamId : Word × Word) (packet : CipPacket) : List Byte :=
  [AVTP_SUBTYPE_61883_IIDC,1#1 ++ 0#3 ++ BitVec.ofBool packet.mr ++ 0#2 ++ BitVec.ofBool packet.timestamp.isSome,
    packet.sequenceNum,0] ++ wordBytes streamId.1 ++ wordBytes streamId.2 ++ wordBytes (packet.timestamp.getD 0) ++
  wordBytes 0 ++ halfBytes packet.streamDataLength ++ [1#2 ++ 31#6,0xa#4 ++ 0#4] ++
  [0#2 ++ 63#6,config.format.dbs,0,packet.dbc,2#2 ++ 0x10#6,config.format.fdf] ++ halfBytes 0xffff

end CipPacket

structure CipBatch where
  ts : List Word
  complete : Bool
  packets : List CipPacket

structure CipTalker where
  mediaCount : Word
  frameWithTs : Word
  tsN : Word
  tsLast : Word
  tsLaunch : Word
  timePerPacket : Word
  dbc : Byte
  sequenceNum : Byte
  mr : Bool
  frames : Nat
  sent : List CipBatch

/-- What one call of `avtp_61883_6_net_tx` meets: the packets of the media stack, and the answer and flags of the media
clock. -/
structure CipTick (config : Iec61883_6Stream) where
  mediaRx : Option (List (MediaRxDesc config))
  mediaClock : Word → List Word
  doAlign : Bool
  reset : Bool
  fits : ∀ desc ∈ mediaRx, desc.length ≤ NET_TX_BATCH

namespace CipTalker
variable {config : Iec61883_6Stream}

def init (timePerPacket : Word) : CipTalker := ⟨0,0,0,0,0,timePerPacket,0,0,false,0,[]⟩

def streamTsReset (talker : CipTalker) : CipTalker :=
  {talker with mediaCount := 0,frameWithTs := 0,tsN := 0,dbc := 0,frames := 0}

def tsBatch (config : Iec61883_6Stream) (rc : Nat) (talker : CipTalker) : Word :=
  let needed := ((talker.mediaCount - talker.frameWithTs) + BitVec.ofNat 32 (rc * config.framesPerPacket) +
    BitVec.ofNat 32 config.sytInterval - 1) >>> config.sytIntervalLn2
  if BitVec.ofNat 32 NET_TX_BATCH < needed then BitVec.ofNat 32 NET_TX_BATCH else needed

/-- The launch time of a packet, from the timestamp of its frame or from the packet before. -/
def launch (config : Iec61883_6Stream) (maxTransitTime : Word) (ts : List Word) (talker : CipTalker) : CipTalker :=
  if talker.mediaCount = talker.frameWithTs then
    {talker with
      tsLaunch := ts.headD 0 - maxTransitTime
      timePerPacket :=
        if talker.tsN = 0 then talker.timePerPacket
        else ((ts.headD 0 - talker.tsLast) * BitVec.ofNat 32 config.framesPerPacket) >>> config.sytIntervalLn2}
  else {talker with tsLaunch := talker.tsLaunch + talker.timePerPacket}

def sendPacket (config : Iec61883_6Stream) (maxTransitTime : Word) (desc : MediaRxDesc config) (ts : List Word)
    (talker : CipTalker) : CipPacket × CipTalker :=
  let talker := talker.launch config maxTransitTime ts
  let mediaCount := talker.mediaCount + BitVec.ofNat 32 desc.framesInPacket
  -- the difference is taken as an int, so both counters may wrap
  let getTs : Bool := 0 < (mediaCount - talker.frameWithTs).toInt
  let packet : CipPacket := {
    first := talker.frames
    frames := desc.framesInPacket
    sequenceNum := talker.sequenceNum
    mr := talker.mr
    timestamp := if getTs then some (ts.headD 0) else none
    streamDataLength := BitVec.ofNat 16 (config.payloadSize + 8) -
      BitVec.ofNat 16 ((config.framesPerPacket - desc.framesInPacket) * config.format.sampleStride)
    dbc := talker.dbc
    launch := talker.tsLaunch}
  (packet,{talker with
    mediaCount := mediaCount
    tsLast := if getTs then ts.headD 0 else talker.tsLast
    tsN := if getTs then talker.tsN + 1 else talker.tsN
    frameWithTs := if getTs then talker.frameWithTs + BitVec.ofNat 32 config.sytInterval else talker.frameWithTs
    sequenceNum := talker.sequenceNum + 1})

def sendPackets (config : Iec61883_6Stream) (maxTransitTime : Word) :
    List (MediaRxDesc config) → List Word → CipTalker → List CipPacket × CipTalker
  | [],_,talker => ([],talker)
  | desc :: rest,ts,talker =>
    let (packet,talker) := talker.sendPacket config maxTransitTime desc ts
    if desc.isPartial then ([packet],talker.streamTsReset)
    else
      let talker := {talker with
        dbc := talker.dbc + BitVec.ofNat 8 desc.framesInPacket
        frames := talker.frames + desc.framesInPacket}
      let (packets,talker) :=
        sendPackets config maxTransitTime rest (if packet.timestamp.isSome then ts.drop 1 else ts) talker
      (packet :: packets,talker)

def avtp61883_6NetTx (config : Iec61883_6Stream) (maxTransitTime : Word) (tick : CipTick config) (talker : CipTalker) :
    CipTalker :=
  match tick.mediaRx with
  | none => talker.streamTsReset
  | some desc =>
    let tsBatch := talker.tsBatch config desc.length
    let ts := tick.mediaClock tsBatch
    let talker := if tick.doAlign then {talker with tsN := 0} else talker
    if ts.length ≠ tsBatch.toNat then talker.streamTsReset
    else
      let talker := if tick.reset then {talker with mr := !talker.mr} else talker
      let (packets,talker) := talker.sendPackets config maxTransitTime desc ts
      {talker with sent := talker.sent ++ [⟨ts,desc.all fun desc => !desc.isPartial,packets⟩]}

end CipTalker

namespace AvtpRxDesc
variable (desc : AvtpRxDesc)

def iecHdr (place : Nat) : Byte := desc.desc.data (desc.l4Offset.toNat + place)

def dbs : Byte := desc.iecHdr 1

def qpc : Byte := (desc.iecHdr 2 >>> 3) &&& 7

def sph : Bool := (desc.iecHdr 2).getLsbD 2

def dbc : Byte := desc.iecHdr 3

def fmt : Byte := desc.iecHdr 4 &&& 0x3f

def fdf : Byte := desc.iecHdr 5

def tag : Nat := (desc.protocolSpecificHeader >>> 14).toNat

end AvtpRxDesc

/-- The data block counter of the next frame with a timestamp, resynchronised if the expected one is too far. -/
def sytResync (config : Iec61883_6Stream) (dbc sytCount : Byte) : Byte :=
  let mod := config.sytInterval - 1
  if config.sytInterval ≤ (sytCount - dbc).toNat then
    BitVec.ofNat 8 (dbc.toNat + ((config.sytInterval - (dbc.toNat &&& mod)) &&& mod))
  else sytCount

def avtp61883_6RxDesc (config : Iec61883_6Stream) (desc : AvtpRxDesc) (sytCount : Byte) : Handled × Byte :=
  if desc.tag ≠ IEC_61883_PSH_TAG_CIP_INCLUDED || desc.sph || desc.qpc ≠ 0 || desc.fmt ≠ IEC_61883_CIP_FMT_6 then
    (free desc.desc.id,sytCount)
  else if desc.fdf = IEC_61883_6_FDF_NODATA then (free desc.desc.id,sytCount)
  else
    let sytCount := sytResync config desc.dbc sytCount
    if fdfEvt desc.fdf = IEC_61883_6_FDF_EVT_AM824 || fdfEvt desc.fdf = IEC_61883_6_FDF_EVT_FLOATING ||
        fdfEvt desc.fdf = IEC_61883_6_FDF_EVT_INT32 then
      let media : MediaDesc := {
        id := desc.desc.id
        l2Offset := desc.l4Offset + 8
        len := desc.l4Len - 8
        ts := desc.desc.ts
        flags := desc.flags.packet
        bytesLost := 0
        avtpTs := packetEvents desc.flags.packet
        data := desc.desc.data}
      if desc.flags.timestampInvalid then (give media,sytCount)
      else
        let offset := ((sytCount - desc.dbc).setWidth 16 * desc.dbs.setWidth 16) <<< 2
        (give {media with avtpTs := [⟨some desc.avtpTimestamp,AvtpFlags.none,offset⟩]},
          sytCount + BitVec.ofNat 8 config.sytInterval)
    else (free desc.desc.id,sytCount)

def avtp61883_6NetRx (config : Iec61883_6Stream) : NetRx Byte := ofEach (avtp61883_6RxDesc config)

def cipListener (source : Bool) : StreamListener Byte := ⟨AVTP_SUBTYPE_61883_IIDC,source,0,0,false,0⟩

end Genavb.Avtp
