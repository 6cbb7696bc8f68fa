import Genavb.Support.Places
import Mathlib.Algebra.Order.BigOperators.Group.List
import Mathlib.Algebra.Order.Group.Nat
import Mathlib.Algebra.Ring.Nat

/-! The buffer pool of `pool.h`, and the message heap of a slot in `rtos/ipc.c`. -/
namespace Genavb.Ipc
open Support

def POOL_BUFFER_FREE : Nat := 1 <<< 16
def POOL_BUFFER_NULL : Nat := 1 <<< 17

/-- `next` are the links of `list`; a buffer is named by its index. -/
structure Pool where
  first : Nat
  countTotal : Nat
  next : Nat → Nat

namespace Pool

def init (countTotal : Nat) : Pool where
  first := 0
  countTotal := countTotal
  next := fun i => if i + 1 = countTotal then POOL_BUFFER_NULL else i + 1

def alloc (pool : Pool) : Option (Nat × Pool) :=
  if pool.first = POOL_BUFFER_NULL then none
  else
    some (pool.first,{pool with
      first := pool.next pool.first
      next := Function.update pool.next pool.first POOL_BUFFER_FREE})

def free (index : Nat) (pool : Pool) : Pool :=
  if pool.countTotal ≤ index then pool
  else if pool.next index ≠ POOL_BUFFER_FREE then pool
  else {pool with first := index, next := Function.update pool.next index pool.first}

/-- Every buffer is free or one of `live`, and the live ones are marked. -/
def Uses (pool : Pool) (live : List Nat) : Prop :=
  Parted pool.next POOL_BUFFER_NULL pool.first pool.countTotal live ∧
    ∀ buffer ∈ live, pool.next buffer = POOL_BUFFER_FREE

theorem uses_init {countTotal : Nat} (positive : 0 < countTotal) : (init countTotal).Uses [] := by
  refine ⟨parted_init positive fun _ _ => rfl,?_⟩
  intro buffer member
  cases member

theorem Uses.alloc {pool after : Pool} {live : List Nat} {buffer : Nat} (uses : pool.Uses live)
    (granted : pool.alloc = some (buffer,after)) : after.Uses (buffer :: live) := by
  unfold Pool.alloc at granted
  split at granted
  · cases granted
  next more =>
    cases granted
    refine ⟨uses.1.take more POOL_BUFFER_FREE,?_⟩
    intro other member
    dsimp only
    by_cases here : other = pool.first
    case pos => rw [here,Function.update_self]
    case neg =>
      have before : other ∈ live := by simpa [here] using member
      rw [Function.update_of_ne here]
      exact uses.2 other before

theorem Uses.free {pool : Pool} {live : List Nat} {buffer : Nat} (uses : pool.Uses live) (member : buffer ∈ live) :
    (pool.free buffer).Uses (live.erase buffer) := by
  unfold Pool.free
  rw [if_neg (Nat.not_le.mpr (uses.1.inside member)),if_neg (not_not.mpr (uses.2 buffer member))]
  refine ⟨uses.1.put member,?_⟩
  intro other later
  obtain ⟨apart,before⟩ := (List.Nodup.mem_erase_iff uses.1.nodup).mp later
  dsimp only
  rw [Function.update_of_ne apart]
  exact uses.2 other before

theorem Uses.perm {pool : Pool} {live same : List Nat} (uses : pool.Uses live) (perm : live.Perm same) :
    pool.Uses same :=
  ⟨uses.1.perm perm,fun buffer member => uses.2 buffer (perm.mem_iff.mpr member)⟩

end Pool

def IPC_MAX_PENDING : Nat := 20
def IPC_BUF_SIZE : Nat := 1024

structure Heap where
  count : Nat
  blocks : List Nat

namespace Heap

def fresh (heap : Heap) : Nat := heap.blocks.sum + 1

theorem fresh_unused (heap : Heap) : heap.fresh ∉ heap.blocks := by
  intro member
  have most : heap.fresh ≤ heap.blocks.sum := List.le_sum_of_mem member
  unfold fresh at most
  omega

def alloc (granted : Bool) (size : Nat) (heap : Heap) : Option (Nat × Heap) :=
  if IPC_BUF_SIZE < size then none
  else if IPC_MAX_PENDING ≤ heap.count then none
  else if !granted then none
  else some (heap.fresh,⟨heap.count + 1,heap.fresh :: heap.blocks⟩)

def free (block : Nat) (heap : Heap) : Heap := ⟨heap.count - 1,heap.blocks.erase block⟩

/-- The blocks in use are `live`, and all of them are counted. -/
structure Uses (heap : Heap) (live : List Nat) : Prop where
  count : heap.count = live.length
  blocks : heap.blocks.Perm live
  nodup : live.Nodup

theorem uses_init : Uses ⟨0,[]⟩ [] := ⟨rfl,.nil,.nil⟩

theorem Uses.alloc {heap after : Heap} {live : List Nat} {granted : Bool} {size block : Nat} (uses : heap.Uses live)
    (found : heap.alloc granted size = some (block,after)) : after.Uses (block :: live) := by
  unfold Heap.alloc at found
  split at found
  · cases found
  · split at found
    · cases found
    · split at found
      · cases found
      · cases found
        refine ⟨?_,uses.blocks.cons heap.fresh,?_⟩
        · rw [List.length_cons,uses.count]
        · rw [List.nodup_cons]
          exact ⟨fun member => heap.fresh_unused (uses.blocks.mem_iff.mpr member),uses.nodup⟩

theorem Uses.free {heap : Heap} {live : List Nat} {block : Nat} (uses : heap.Uses live) (member : block ∈ live) :
    (heap.free block).Uses (live.erase block) where
  count := by
    rw [List.length_erase_of_mem member,← uses.count]
    rfl
  blocks := uses.blocks.erase block
  nodup := uses.nodup.erase block

theorem Uses.perm {heap : Heap} {live same : List Nat} (uses : heap.Uses live) (perm : live.Perm same) :
    heap.Uses same :=
  ⟨uses.count.trans perm.length_eq,uses.blocks.trans perm,perm.nodup_iff.mp uses.nodup⟩

end Heap

end Genavb.Ipc

/-! The channels of the Linux driver `ipc.c` and of `rtos/ipc.c`. The two are the same code over different buffers:
`Buffers` is what differs. -/
namespace Genavb.Ipc

/-- The buffers of an implementation. A message of a given length is a part of the content of a buffer. -/
structure Buffers where
  Pool : Type
  Content : Type
  Message : Type
  /-- `IPC_MAX_READER_WRITERS`. -/
  readersWriters : Nat
  /-- What a queue holds. -/
  capacity : Nat
  pool : Pool
  blank : Content
  alloc : Bool → Nat → Pool → Option (Nat × Pool)
  free : Nat → Pool → Pool
  /-- `ipc_copy` of a length, from one content into another. -/
  copy : Nat → Content → Content → Content
  /-- The length of a message that is sent, and the one that `ipc_rx` copies. -/
  sends : Nat → Content → Nat
  copied : Content → Nat
  /-- The address that a message is sent to. -/
  destination : Nat → Content → Nat
  /-- The check of the length before a message is sent. -/
  refuses : Nat → Bool
  /-- A copy of this length does not fit the buffer that is allocated for it. -/
  overruns : Nat → Bool
  /-- What `ipc_rx` notes as the source of a message. -/
  tag : Nat → Content → Content
  /-- What `ipc_tx_slot` returns after the message is queued. -/
  wake : Int → Int
  /-- `dst_map` after the reader at an address has left. -/
  forget : Nat → (Nat → Nat × Option Nat) → Nat → Nat × Option Nat
  message : Nat → Content → Message
  Uses : Pool → List Nat → Prop
  some_others : 0 < readersWriters
  uses_pool : Uses pool []
  uses_nodup : ∀ {pool live}, Uses pool live → live.Nodup
  uses_perm : ∀ {pool live same}, Uses pool live → live.Perm same → Uses pool same
  uses_alloc : ∀ {granted size pool live buffer after}, Uses pool live →
    alloc granted size pool = some (buffer,after) → Uses after (buffer :: live)
  uses_free : ∀ {pool live buffer}, Uses pool live → buffer ∈ live → Uses (free buffer pool) (live.erase buffer)
  message_copy : ∀ {len limit source old}, len ≤ limit → message len (copy limit source old) = message len source
  copied_copy : ∀ {limit source old}, copied (copy limit source old) = copied source
  message_tag : ∀ {len source content}, message len (tag source content) = message len content
  sends_copied : ∀ {len content}, refuses (sends len content) = false → sends len content ≤ copied content
  overruns_copied : ∀ {len content}, overruns (sends len content) = false → overruns (copied content) = false

inductive IpcType where
  | singleReaderWriter | manyReaders | manyWriters
  deriving DecidableEq

def IPC_DST_ALL : Nat := 0xffff

variable {ipc : Buffers}

/-- `serial` stands for the address of the slot, `overrun` for a write behind one of its buffers. -/
structure Slot (ipc : Buffers) where
  pool : ipc.Pool
  memory : Nat → ipc.Content
  queue : List Nat
  serial : Nat
  overrun : Bool

/-- An entry of `dst_map` has an address of a writer and a slot; `opened` counts the slots, and `faulted` tells that a
slot has been used after it was freed. -/
structure Channel (ipc : Buffers) where
  type : IpcType
  index : Nat
  slot : Nat → Option (Slot ipc)
  dstMap : Nat → Nat × Option Nat
  last : Nat
  opened : Nat
  faulted : Bool

namespace Slot

def modifyMemory (buffer : Nat) (f : ipc.Content → ipc.Content) (slot : Slot ipc) : Slot ipc :=
  {slot with memory := Function.update slot.memory buffer (f (slot.memory buffer))}

def release (buffer : Nat) (slot : Slot ipc) : Slot ipc := {slot with pool := ipc.free buffer slot.pool}

def ipcCopy (granted : Bool) (len : Nat) (source : ipc.Content) (slot : Slot ipc) : Option (Nat × Slot ipc) :=
  match ipc.alloc granted len slot.pool with
  | none => none
  | some (buffer,pool) => some (buffer,{slot with
      pool := pool
      memory := Function.update slot.memory buffer (ipc.copy len source (slot.memory buffer))
      overrun := slot.overrun || ipc.overruns len})

def ipcTxSlot (woken : Int) (buffer : Nat) (slot : Slot ipc) : Slot ipc × Int :=
  if slot.queue.length < ipc.capacity then ({slot with queue := slot.queue ++ [buffer]},ipc.wake woken)
  else (slot,-1)

def ipcTxCopy (granted : Bool) (woken : Int) (len : Nat) (source : ipc.Content) (slot : Slot ipc) : Slot ipc × Bool :=
  match slot.ipcCopy granted len source with
  | none => (slot,false)
  | some (buffer,slot) =>
    match slot.ipcTxSlot woken buffer with
    | (slot,rc) => if rc < 0 then (slot.release buffer,false) else (slot,true)

end Slot

namespace Channel

def setSlot (i : Nat) (slot : Option (Slot ipc)) (channel : Channel ipc) : Channel ipc :=
  {channel with slot := Function.update channel.slot i slot}

/-- The slots 1 to `IPC_MAX_READER_WRITERS`. -/
def others (ipc : Buffers) : List Nat := List.range' 1 ipc.readersWriters

def ipcFindSlot (channel : Channel ipc) : Option Nat := (others ipc).find? fun i => (channel.slot i).isNone

def readerSlot (channel : Channel ipc) : Option Nat :=
  match channel.type with
  | .manyReaders => channel.ipcFindSlot
  | .manyWriters | .singleReaderWriter => if (channel.slot 0).isNone then some 0 else none

def writerSlot (channel : Channel ipc) : Option Nat :=
  match channel.type with
  | .manyReaders => if (channel.slot 0).isNone then some 0 else none
  | .singleReaderWriter => if (channel.slot 1).isNone then some 1 else none
  | .manyWriters => channel.ipcFindSlot

/-- `ipc_rx_init` and `ipc_tx_init`, when there is memory for the slot and its buffers. -/
def ipcInit (i : Nat) (channel : Channel ipc) : Channel ipc :=
  {channel.setSlot i (some ⟨ipc.pool,fun _ => ipc.blank,[],channel.opened,false⟩) with opened := channel.opened + 1}

def isWriter (i : Nat) (channel : Channel ipc) : Bool :=
  match channel.type with
  | .manyReaders => i == 0
  | .singleReaderWriter => i == 1
  | .manyWriters => i != 0

/-- `ipc_rx_exit` and `ipc_tx_exit`: the buffers and the queue go with the slot. -/
def ipcExit (i : Nat) (channel : Channel ipc) : Channel ipc :=
  match channel.slot i with
  | none => channel
  | some slot =>
    let channel :=
      if channel.type = .manyReaders ∧ !channel.isWriter i then
        {channel with dstMap := ipc.forget slot.serial channel.dstMap}
      else channel
    channel.setSlot i none

/-- `IPC_IOC_CONNECT_TX` and `ipc_tx_connect`, for a writer of another channel. -/
def ipcTxConnect (writerChannel writerIndex i : Nat) (channel : Channel ipc) : Channel ipc :=
  match channel.slot i with
  | none => channel
  | some slot =>
    if channel.type = .manyReaders ∧ !channel.isWriter i then
      let address := writerIndex ||| writerChannel <<< 8
      {channel with dstMap := Function.update channel.dstMap writerIndex (address,some slot.serial)}
    else channel

def slotAt (serial : Nat) (channel : Channel ipc) : Option Nat :=
  (List.range (ipc.readersWriters + 1)).find? fun i => (channel.slot i).any fun slot => slot.serial == serial

def ipcSlotAddress (i : Nat) (channel : Channel ipc) : Nat := i ||| channel.index <<< 8

def ipcTxTo (i j buffer len : Nat) (source : ipc.Content) (granted : Nat → Bool) (woken : Nat → Int)
    (channel : Channel ipc) : Channel ipc × Bool :=
  match channel.slot j with
  | none => (channel,false)
  | some slot =>
    match slot.ipcTxCopy (granted j) (woken j) len source with
    | (slot,false) => (channel.setSlot j (some slot),false)
    | (slot,true) =>
      let channel := channel.setSlot j (some slot)
      (channel.setSlot i ((channel.slot i).map (Slot.release buffer)),true)

def ipcTxAll (len : Nat) (source : ipc.Content) (granted : Nat → Bool) (woken : Nat → Int)
    (channel : Channel ipc) (j : Nat) : Channel ipc :=
  match channel.slot j with
  | none => channel
  | some slot => channel.setSlot j (some (slot.ipcTxCopy (granted j) (woken j) len source).1)

def ipcTx (i buffer len dst : Nat) (granted : Nat → Bool) (woken : Nat → Int) (channel : Channel ipc) :
    Channel ipc × Bool :=
  match channel.slot i with
  | none => (channel,false)
  | some writer =>
    let source := writer.memory buffer
    match channel.type with
    | .manyReaders =>
      if dst = IPC_DST_ALL then
        let channel := (others ipc).foldl (ipcTxAll len source granted woken) channel
        (channel.setSlot i ((channel.slot i).map (Slot.release buffer)),true)
      else
        let dstIndex := dst &&& 0xff
        if dstIndex = 0 ∨ ipc.readersWriters < dstIndex then (channel,false)
        else if (channel.dstMap dstIndex).1 ≠ dst then (channel,false)
        else
          match (channel.dstMap dstIndex).2 with
          | none => (channel,false)
          | some serial =>
            match channel.slotAt serial with
            | none => ({channel with faulted := true},false)
            | some j => channel.ipcTxTo i j buffer len source granted woken
    | .singleReaderWriter => channel.ipcTxTo i 0 buffer len source granted woken
    | .manyWriters =>
      if (channel.slot 0).isNone then (channel,false)
      else
        match writer.ipcTxSlot (woken 0) buffer with
        | (writer,rc) => if rc < 0 then (channel.setSlot i (some writer),false) else (channel.setSlot i (some writer),true)

/-- `ipc->last` after one step of the walk over the writers. -/
def nextLast (channel : Channel ipc) : Nat :=
  if ipc.readersWriters < channel.last + 1 then 1 else channel.last + 1

def ipcRxLoop (i : Nat) (granted : Nat → Bool) : Nat → Channel ipc → Channel ipc × Option (Nat × Nat)
  | 0,channel => (channel,none)
  | steps + 1,channel =>
    let last := channel.nextLast
    let channel := {channel with last := last}
    match channel.slot last with
    | none => ipcRxLoop i granted steps channel
    | some writer =>
      match writer.queue with
      | [] => ipcRxLoop i granted steps channel
      | buffer :: rest =>
        let source := writer.memory buffer
        let channel := channel.setSlot last (some (Slot.release buffer {writer with queue := rest}))
        match (channel.slot i).bind fun reader => reader.ipcCopy (granted last) (ipc.copied source) source with
        | none => ipcRxLoop i granted steps channel
        | some (addr,reader) =>
          let src := channel.ipcSlotAddress last
          (channel.setSlot i (some (reader.modifyMemory addr (ipc.tag src))),some (addr,src))

def ipcRx (i : Nat) (granted : Nat → Bool) (channel : Channel ipc) : Channel ipc × Option (Nat × Nat) :=
  match channel.type with
  | .singleReaderWriter | .manyReaders =>
    match channel.slot i with
    | none => (channel,none)
    | some reader =>
      match reader.queue with
      | [] => (channel,none)
      | buffer :: rest =>
        (channel.setSlot i (some (Slot.modifyMemory buffer (ipc.tag 0) {reader with queue := rest})),some (buffer,0))
  | .manyWriters => channel.ipcRxLoop i granted ipc.readersWriters

end Channel

end Genavb.Ipc

/-! The buffers of the two implementations. -/
namespace Genavb.Ipc

/-- `IPC_BUF_COUNT` buffers of `IPC_BUF_SIZE` bytes, and a queue that leaves one of its entries empty. -/
def QUEUE_ENTRIES_MAX : Nat := 32

namespace Linux

abbrev Bytes := Nat → BitVec 8

def copy (len : Nat) (source old : Bytes) : Bytes := fun i => if i < len then source i else old i

/-- The first entry of `dst_map` that leads to the slot. -/
def forget (serial : Nat) (dstMap : Nat → Nat × Option Nat) : Nat → Nat × Option Nat :=
  match (List.range 9).find? fun i => (dstMap i).2 == some serial with
  | none => dstMap
  | some i => Function.update dstMap i (0,none)

theorem message_copy {len limit : Nat} {source old : Bytes} (inside : len ≤ limit) :
    (List.range len).map (copy limit source old) = (List.range len).map source := by
  apply List.map_congr_left
  intro i member
  have below : i < limit := (List.mem_range.mp member).trans_le inside
  simp [copy,below]

end Linux

def linux : Buffers where
  Pool := Pool
  Content := Linux.Bytes
  Message := List (BitVec 8)
  readersWriters := 8
  capacity := QUEUE_ENTRIES_MAX - 1
  pool := Pool.init QUEUE_ENTRIES_MAX
  blank := fun _ => 0
  alloc := fun _ _ pool => pool.alloc
  free := Pool.free
  copy := Linux.copy
  sends := fun len _ => len
  copied := fun _ => IPC_BUF_SIZE
  destination := fun dst _ => dst
  refuses := fun len => decide (IPC_BUF_SIZE < len)
  overruns := fun _ => false
  tag := fun _ content => content
  wake := fun _ => 0
  forget := Linux.forget
  message := fun len content => (List.range len).map content
  Uses := Pool.Uses
  some_others := by decide
  uses_pool := Pool.uses_init (by decide)
  uses_nodup := fun uses => uses.1.nodup
  uses_perm := fun uses perm => uses.perm perm
  uses_alloc := fun uses granted => uses.alloc granted
  uses_free := fun uses member => uses.free member
  message_copy := Linux.message_copy
  copied_copy := rfl
  message_tag := rfl
  sends_copied := fun refused => Nat.not_lt.mp (of_decide_eq_false refused)
  overruns_copied := fun _ => rfl

namespace Rtos

structure IpcDesc where
  type : BitVec 32
  len : BitVec 32
  flags : BitVec 32
  src : BitVec 16
  dst : BitVec 16
  u : Nat → BitVec 8

def ipcHdrLen : Nat := 16

def ipcAllocSize (size : Nat) : Nat := if size < 128 then 192 else IPC_BUF_SIZE

structure Message where
  type : BitVec 32
  len : BitVec 32
  flags : BitVec 32
  dst : BitVec 16
  payload : List (BitVec 8)
  deriving DecidableEq

def message (len : Nat) (desc : IpcDesc) : Message :=
  ⟨desc.type,desc.len,desc.flags,desc.dst,(List.range len).map desc.u⟩

def copy (len : Nat) (source old : IpcDesc) : IpcDesc := {source with u := Linux.copy len source.u old.u}

end Rtos

open Rtos

def rtos : Buffers where
  Pool := Heap
  Content := IpcDesc
  Message := Message
  readersWriters := 4
  capacity := IPC_MAX_PENDING
  pool := ⟨0,[]⟩
  blank := ⟨0,0,0,0,0,fun _ => 0⟩
  alloc := Heap.alloc
  free := Heap.free
  copy := copy
  sends := fun _ desc => desc.len.toNat
  copied := fun desc => desc.len.toNat
  destination := fun _ desc => desc.dst.toNat
  refuses := fun _ => false
  overruns := fun len => decide (ipcAllocSize len < ipcHdrLen + len)
  tag := fun source desc => {desc with src := BitVec.ofNat 16 source}
  wake := id
  forget := fun _ dstMap => dstMap
  message := message
  Uses := Heap.Uses
  some_others := by decide
  uses_pool := Heap.uses_init
  uses_nodup := fun uses => uses.nodup
  uses_perm := fun uses perm => uses.perm perm
  uses_alloc := fun uses granted => uses.alloc granted
  uses_free := fun uses member => uses.free member
  message_copy := fun inside => by
    unfold message copy
    rw [Linux.message_copy inside]
  copied_copy := rfl
  message_tag := rfl
  sends_copied := fun _ => Nat.le_refl _
  overruns_copied := id

inductive Platform where
  | linux | rtos

def Platform.buffers : Platform → Buffers
  | .linux => Ipc.linux
  | .rtos => Ipc.rtos

end Genavb.Ipc
