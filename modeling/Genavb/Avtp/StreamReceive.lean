import Mathlib.Data.BitVec

/-! Receive descriptors and media descriptors (`avtp.h`, `media.h`). -/
namespace Genavb.Avtp

abbrev Byte := BitVec 8

abbrev Half := BitVec 16

abbrev Word := BitVec 32

abbrev Memory := Nat → Byte

namespace Memory

/-- `ntohs` of two bytes. -/
def half (data : Memory) (offset : Nat) : Half := data offset ++ data (offset + 1)

/-- `ntohl` of four bytes. -/
def word (data : Memory) (offset : Nat) : Word := data.half offset ++ data.half (offset + 2)

def bytes (data : Memory) (offset length : Nat) :
    List Byte := (List.range length).map fun place => data (offset + place)

def write (data : Memory) (offset : Nat) (bytes : List Byte) : Memory := fun place =>
  if offset ≤ place then bytes.getD (place - offset) (data place) else data place

end Memory

def halfBytes (value : Half) : List Byte := [value.extractLsb' 8 8,value.extractLsb' 0 8]

def wordBytes (value : Word) : List Byte :=
  [value.extractLsb' 24 8,value.extractLsb' 16 8,value.extractLsb' 8 8,value.extractLsb' 0 8]

namespace Memory
variable {data : Memory} {offset length : Nat} {list : List Byte}

variable {place : Nat}

theorem bytes_get (held : data.bytes offset length = list) (inside : place < length) :
    data (offset + place) = list.getD place 0 := by
  rw [← held]
  simp [bytes,inside]

@[simp] theorem length_bytes (data : Memory) (offset length : Nat) : (data.bytes offset length).length = length := by
  simp [bytes]

theorem bytes_append (data : Memory) (offset first second : Nat) :
    data.bytes offset (first + second) = data.bytes offset first ++ data.bytes (offset + first) second := by
  simp [bytes,List.range_add,Nat.add_assoc]

private theorem bytes_congr {other : Memory}
    (same : ∀ place, offset ≤ place → place < offset + length → other place = data place) :
    other.bytes offset length = data.bytes offset length := by
  apply List.map_congr_left
  intro place member
  apply same
  · exact Nat.le_add_right _ _
  · exact Nat.add_lt_add_left (List.mem_range.mp member) _

theorem write_inside (inside : place < list.length) :
    (data.write offset list) (offset + place) = list.getD place 0 := by
  rw [write,if_pos (Nat.le_add_right _ _),Nat.add_sub_cancel_left]
  simp [inside]

theorem write_outside (outside : place < offset ∨ offset + list.length ≤ place) :
    (data.write offset list) place = data place := by
  unfold write
  split
  · have past : list.length ≤ place - offset := by omega
    simp [past]
  · rfl

theorem bytes_write (data : Memory) (offset : Nat) (list : List Byte) :
    (data.write offset list).bytes offset list.length = list := by
  apply List.ext_getElem
  · exact length_bytes _ _ _
  · intro place first second
    rw [length_bytes] at first
    simp [bytes,write_inside first,second]

theorem bytes_write_before (before : offset + length ≤ place) (list : List Byte) :
    (data.write place list).bytes offset length = data.bytes offset length := by
  apply bytes_congr
  intro other _ inside
  exact write_outside (Or.inl (Nat.lt_of_lt_of_le inside before))

theorem bytes_write_after (after : place + list.length ≤ offset) :
    (data.write place list).bytes offset length = data.bytes offset length := by
  apply bytes_congr
  intro other inside _
  exact write_outside (Or.inr (Nat.le_trans after inside))

theorem half_of {value : Half} (first : data offset = value.extractLsb' 8 8)
    (second : data (offset + 1) = value.extractLsb' 0 8) : data.half offset = value := by
  rw [half,first,second,BitVec.extractLsb'_append_extractLsb'_eq_extractLsb' (by rfl)]
  exact BitVec.extractLsb'_eq_self

theorem word_of {value : Word} (first : data offset = value.extractLsb' 24 8)
    (second : data (offset + 1) = value.extractLsb' 16 8) (third : data (offset + 2) = value.extractLsb' 8 8)
    (fourth : data (offset + 3) = value.extractLsb' 0 8) : data.word offset = value := by
  rw [word,half,half,first,second,third,fourth,BitVec.extractLsb'_append_extractLsb'_eq_extractLsb' (by rfl),
    BitVec.extractLsb'_append_extractLsb'_eq_extractLsb' (by rfl),
    BitVec.extractLsb'_append_extractLsb'_eq_extractLsb' (by rfl)]
  exact BitVec.extractLsb'_eq_self

end Memory

structure AvtpFlags where
  mediaClockRestart : Bool
  packetLost : Bool
  timestampUncertain : Bool
  endOfFrame : Bool
  timestampInvalid : Bool
  deriving DecidableEq

namespace AvtpFlags

def none : AvtpFlags := ⟨false,false,false,false,false⟩

/-- `flags & (AVTP_MEDIA_CLOCK_RESTART | AVTP_PACKET_LOST | AVTP_TIMESTAMP_UNCERTAIN)`. -/
def packet (flags : AvtpFlags) : AvtpFlags := {flags with endOfFrame := false,timestampInvalid := false}

def invalid : AvtpFlags := {none with timestampInvalid := true}

end AvtpFlags

structure NetRxDesc where
  id : Nat
  l2Offset : Half
  len : Half
  l3Offset : Half
  ts : Word
  data : Memory

structure AvtpRxDesc where
  desc : NetRxDesc
  l4Offset : Half
  l4Len : Half
  protocolSpecificHeader : Half
  flags : AvtpFlags
  avtpTimestamp : Word

/-- The value of an entry for the flags of a packet is not written. -/
structure AvtpTs where
  val : Option Word
  flags : AvtpFlags
  offset : Half
  deriving DecidableEq

/-- `struct media_desc`, with the timestamps that it counts. -/
structure MediaDesc where
  id : Nat
  l2Offset : Half
  len : Half
  ts : Word
  flags : AvtpFlags
  bytesLost : Word
  avtpTs : List AvtpTs
  data : Memory

def packetEvents (flags : AvtpFlags) : List AvtpTs :=
  if flags = AvtpFlags.none then [] else [⟨none,AvtpFlags.invalid,0⟩]

structure Handled where
  media : List MediaDesc
  freed : List Nat

namespace Handled

def nothing : Handled := ⟨[],[]⟩

def and (first second : Handled) : Handled := ⟨first.media ++ second.media,first.freed ++ second.freed⟩

def free (id : Nat) : Handled := ⟨[],[id]⟩

def give (media : MediaDesc) : Handled := ⟨[media],[]⟩

@[simp] theorem media_and (first second : Handled) : (first.and second).media = first.media ++ second.media := rfl

@[simp] theorem freed_and (first second : Handled) : (first.and second).freed = first.freed ++ second.freed := rfl

@[simp] theorem media_nothing : nothing.media = [] := rfl

@[simp] theorem and_nothing (handled : Handled) : handled.and nothing = handled := by
  simp [and,nothing]

@[simp] theorem nothing_and (handled : Handled) : nothing.and handled = handled := rfl

theorem and_assoc (first second third : Handled) : (first.and second).and third = first.and (second.and third) := by
  simp [and,List.append_assoc]

end Handled

end Genavb.Avtp

/-! Reception of AVTP stream packets (`avtp.c`): the batch of `avtp_stream_net_rx` and the loop that the format
handlers make of it. -/
namespace Genavb.Avtp

namespace NetRxDesc
variable (desc : NetRxDesc)

def hdr (place : Nat) : Byte := desc.data (desc.l3Offset.toNat + place)

def subtype : Byte := desc.hdr 0

def mr : Bool := (desc.hdr 1).getLsbD 3

def tv : Bool := (desc.hdr 1).getLsbD 0

def sequenceNum : Byte := desc.hdr 2

def tu : Bool := (desc.hdr 3).getLsbD 0

def avtpTimestamp : Word := desc.data.word (desc.l3Offset.toNat + 12)

def streamDataLength : Half := desc.data.half (desc.l3Offset.toNat + 20)

def protocolSpecificHeader : Half := desc.data.half (desc.l3Offset.toNat + 22)

end NetRxDesc

structure Timestamp where
  tsNsec : Word
  flags : AvtpFlags

/-- `struct stream_listener`, with the data of its format. -/
structure StreamListener (σ : Type) where
  subtype : Byte
  source : Bool
  pktReceived : Word
  sequenceNum : Byte
  mr : Bool
  subtypeData : σ

/-- The loop of `avtp_stream_net_rx`: the descriptors and timestamps that wait for a flush, what the handler did, and
the calls of `clock_producer_stream_rx`. -/
structure StreamRx (σ : Type) where
  stream : StreamListener σ
  desc : List AvtpRxDesc
  ts : List Timestamp
  handled : Handled
  clockTx : List (List Timestamp)

variable {σ : Type}

abbrev NetRx (σ : Type) := List AvtpRxDesc → StreamListener σ → Handled × StreamListener σ

namespace StreamRx

def descFlush (netRx : NetRx σ) (rx : StreamRx σ) : StreamRx σ :=
  let rx := if rx.stream.source && !rx.ts.isEmpty then {rx with clockTx := rx.clockTx ++ [rx.ts],ts := []} else rx
  if rx.desc.isEmpty then rx
  else
    let (handled,stream) := netRx rx.desc rx.stream
    {rx with stream := stream,desc := [],handled := rx.handled.and handled}

def sequenceGap (desc : NetRxDesc) (stream : StreamListener σ) : Bool :=
  stream.pktReceived != 0 && desc.sequenceNum != stream.sequenceNum + 1

def packetFlags (desc : NetRxDesc) (stream : StreamListener σ) : AvtpFlags :=
  ⟨desc.mr != stream.mr,sequenceGap desc stream,desc.tu,false,false⟩

def avtpRxDesc (desc : NetRxDesc) (flags : AvtpFlags) : AvtpRxDesc where
  desc := desc
  l4Offset := desc.l3Offset + 24
  l4Len := desc.streamDataLength
  protocolSpecificHeader := desc.protocolSpecificHeader
  flags := {flags with timestampInvalid := !desc.tv}
  avtpTimestamp := if desc.tv then desc.avtpTimestamp else 0

def follow (desc : NetRxDesc) (stream : StreamListener σ) : StreamListener σ :=
  {stream with mr := desc.mr,sequenceNum := desc.sequenceNum,pktReceived := stream.pktReceived + 1}

def receive (netRx : NetRx σ) (rx : StreamRx σ) (desc : NetRxDesc) : StreamRx σ :=
  if desc.subtype != rx.stream.subtype then
    let rx := rx.descFlush netRx
    {rx with handled := rx.handled.and (Handled.free desc.id)}
  else
    let flags := packetFlags desc rx.stream
    let rx := if flags.packetLost then rx.descFlush netRx else rx
    let rx := if flags.mediaClockRestart then rx.descFlush netRx else rx
    {rx with
      stream := follow desc rx.stream
      desc := rx.desc ++ [avtpRxDesc desc flags]
      ts := if desc.tv && rx.stream.source then rx.ts ++ [⟨desc.avtpTimestamp,flags⟩] else rx.ts}

end StreamRx

open StreamRx

def avtpStreamNetRx (netRx : NetRx σ) (desc : List NetRxDesc) (stream : StreamListener σ) : StreamRx σ :=
  (desc.foldl (receive netRx) ⟨stream,[],[],Handled.nothing,[]⟩).descFlush netRx

def eachItem {ι : Type} (one : ι → σ → Handled × σ) : List ι → σ → Handled × σ
  | [],state => (Handled.nothing,state)
  | item :: rest,state =>
    let (handled,state) := one item state
    let (others,state) := eachItem one rest state
    (handled.and others,state)

def streamBatches (netRx : NetRx σ) : List (List NetRxDesc) → StreamListener σ → Handled × StreamListener σ :=
  eachItem fun desc stream =>
    let rx := avtpStreamNetRx netRx desc stream
    (rx.handled,rx.stream)

def ofEach (rxDesc : AvtpRxDesc → σ → Handled × σ) : NetRx σ := fun desc stream =>
  let (handled,state) := eachItem rxDesc desc stream.subtypeData
  (handled,{stream with subtypeData := state})

def stateless (rxDesc : AvtpRxDesc → Handled) :
    AvtpRxDesc → Unit → Handled × Unit := fun desc state => (rxDesc desc,state)

/-- A packet on its own, when the handler treats its descriptors one by one. -/
def receivePacket (rxDesc : AvtpRxDesc → σ → Handled × σ) (desc : NetRxDesc) (stream : StreamListener σ) :
    Handled × StreamListener σ :=
  if desc.subtype != stream.subtype then (Handled.free desc.id,stream)
  else
    let (handled,state) := rxDesc (avtpRxDesc desc (packetFlags desc stream)) stream.subtypeData
    (handled,{StreamRx.follow desc stream with subtypeData := state})

section Each
variable {ι : Type} {one : ι → σ → Handled × σ} {rxDesc : AvtpRxDesc → σ → Handled × σ}

theorem eachItem_append (one : ι → σ → Handled × σ) (first second : List ι) (state : σ) :
    eachItem one (first ++ second) state =
      ((eachItem one first state).1.and (eachItem one second (eachItem one first state).2).1,
        (eachItem one second (eachItem one first state).2).2) := by
  induction first generalizing state with
  | nil => rfl
  | cons item rest ih =>
    simp [eachItem,ih,Handled.and_assoc]

theorem eachItem_two (one : ι → σ → Handled × σ) (first second : ι) (state : σ) :
    (eachItem one [first,second] state).1 =
    (one first state).1.and (one second (one first state).2).1 := by
  simp [eachItem]

namespace StreamRx
variable {rx : StreamRx σ}

def settled (rxDesc : AvtpRxDesc → σ → Handled × σ) (rx : StreamRx σ) : Handled × StreamListener σ :=
  let (handled,state) := eachItem rxDesc rx.desc rx.stream.subtypeData
  (rx.handled.and handled,{rx.stream with subtypeData := state})

private theorem settled_descFlush (rx : StreamRx σ) :
    (rx.descFlush (ofEach rxDesc)).handled = (rx.settled rxDesc).1 ∧
    (rx.descFlush (ofEach rxDesc)).stream = (rx.settled rxDesc).2 ∧ (rx.descFlush (ofEach rxDesc)).desc = [] := by
  rcases rx with ⟨stream,desc,ts,handled,clockTx⟩
  unfold descFlush settled
  cases desc with
  | nil => split <;> simp [eachItem]
  | cons first rest => split <;> simp [ofEach]

private theorem settled_flushed (rx : StreamRx σ) (flush : Bool) :
    (if flush then rx.descFlush (ofEach rxDesc) else rx).settled rxDesc = rx.settled rxDesc := by
  cases flush with
  | false => rfl
  | true =>
    obtain ⟨handled,stream,desc⟩ := @settled_descFlush _ rxDesc rx
    rw [if_pos rfl]
    unfold settled at handled stream ⊢
    rw [handled,stream,desc]
    simp [eachItem]

theorem settled_wait (rx : StreamRx σ) (desc : NetRxDesc) (avtpDesc : AvtpRxDesc) (ts : List Timestamp) :
    settled rxDesc {rx with stream := follow desc rx.stream,desc := rx.desc ++ [avtpDesc],ts := ts} =
      ((rx.settled rxDesc).1.and (rxDesc avtpDesc (rx.settled rxDesc).2.subtypeData).1,
        {follow desc (rx.settled rxDesc).2 with
          subtypeData := (rxDesc avtpDesc (rx.settled rxDesc).2.subtypeData).2}) := by
  simp [settled,follow,eachItem_append,eachItem,Handled.and_assoc]

theorem settled_free (rx : StreamRx σ) (id : Nat) :
    settled rxDesc {rx.descFlush (ofEach rxDesc) with
      handled := (rx.descFlush (ofEach rxDesc)).handled.and (Handled.free id)} =
      ((rx.settled rxDesc).1.and (Handled.free id),(rx.settled rxDesc).2) := by
  obtain ⟨handled,stream,waiting⟩ := @settled_descFlush _ rxDesc rx
  unfold settled at handled stream ⊢
  rw [handled,stream,waiting]
  simp [eachItem]

theorem settled_receive (rx : StreamRx σ) (desc : NetRxDesc) :
    (rx.receive (ofEach rxDesc) desc).settled rxDesc =
      ((rx.settled rxDesc).1.and (receivePacket rxDesc desc (rx.settled rxDesc).2).1,
        (receivePacket rxDesc desc (rx.settled rxDesc).2).2) := by
  have kind : (rx.settled rxDesc).2.subtype = rx.stream.subtype := rfl
  by_cases other : (desc.subtype != rx.stream.subtype) = true
  · rw [receive,if_pos other,receivePacket,kind,if_pos other]
    exact settled_free rx desc.id
  · rw [receive,if_neg other,receivePacket,kind,if_neg other]
    refine (settled_wait _ desc _ _).trans ?_
    rw [settled_flushed,settled_flushed]
    rfl

end StreamRx

theorem avtpStreamNetRx_each (rxDesc : AvtpRxDesc → σ → Handled × σ) (desc : List NetRxDesc)
    (stream : StreamListener σ) :
    (avtpStreamNetRx (ofEach rxDesc) desc stream).handled = (eachItem (receivePacket rxDesc) desc stream).1 ∧
    (avtpStreamNetRx (ofEach rxDesc) desc stream).stream = (eachItem (receivePacket rxDesc) desc stream).2 := by
  have whole : ∀ rx : StreamRx σ, (desc.foldl (receive (ofEach rxDesc)) rx).settled rxDesc =
      ((rx.settled rxDesc).1.and (eachItem (receivePacket rxDesc) desc (rx.settled rxDesc).2).1,
        (eachItem (receivePacket rxDesc) desc (rx.settled rxDesc).2).2) := by
    induction desc with
    | nil => exact fun rx => by simp [eachItem]
    | cons first rest ih =>
      intro rx
      rw [List.foldl_cons,ih,settled_receive]
      simp [eachItem,Handled.and_assoc]
  obtain ⟨handled,after,_⟩ := @settled_descFlush _ rxDesc
    (desc.foldl (receive (ofEach rxDesc)) ⟨stream,[],[],Handled.nothing,[]⟩)
  rw [avtpStreamNetRx,handled,after,whole]
  simp [settled,eachItem]

theorem streamBatches_each (rxDesc : AvtpRxDesc → σ → Handled × σ) (batches : List (List NetRxDesc))
    (stream : StreamListener σ) :
    streamBatches (ofEach rxDesc) batches stream = eachItem (receivePacket rxDesc) batches.flatten stream := by
  induction batches generalizing stream with
  | nil => rfl
  | cons first rest ih =>
    obtain ⟨handled,after⟩ := avtpStreamNetRx_each rxDesc first stream
    rw [List.flatten_cons,eachItem_append,← ih,← handled,← after]
    rfl

end Each

end Genavb.Avtp
