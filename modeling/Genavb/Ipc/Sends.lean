import Genavb.Ipc.Endpoints

/-! What `ipc_tx` keeps of the slots, the buffers and the logs. -/
namespace Genavb.Ipc
open List

open Function (update update_eq_self update_of_ne update_self)

variable {ipc : Buffers}

/-- Every open slot is sound, and nothing is left of a closed one. -/
structure Kept (slot : Nat → Option (Slot ipc)) (held : Nat → List Nat) (accepted : Nat → List (Nat × ipc.Message))
    (delivered : Nat → List ipc.Content) : Prop where
  sound : ∀ i opened, slot i = some opened → opened.Sound (held i) (accepted i) (delivered i)
  closed : ∀ i, slot i = none → held i = [] ∧ accepted i = [] ∧ delivered i = []

section Slots
variable {slot : Nat → Option (Slot ipc)} {held : Nat → List Nat} {accepted : Nat → List (Nat × ipc.Message)}
  {delivered : Nat → List ipc.Content} {i buffer : Nat} {here : Slot ipc}

variable (kept : Kept slot held accepted delivered)
include kept

theorem Kept.set {holds : List Nat} {accepts : List (Nat × ipc.Message)} {delivers : List ipc.Content}
(sound : here.Sound holds accepts delivers) :
    Kept (update slot i (some here)) (update held i holds) (update accepted i accepts)
      (update delivered i delivers) where
  sound := by
    intro k opened at_k
    by_cases same : k = i
    case pos =>
      subst same
      rw [update_self] at at_k
      cases at_k
      simpa using sound
    case neg =>
      rw [update_of_ne same] at at_k ⊢
      rw [update_of_ne same,update_of_ne same]
      exact kept.sound k opened at_k
  closed := by
    intro k none_k
    by_cases same : k = i
    case pos =>
      subst same
      rw [update_self] at none_k
      cases none_k
    case neg =>
      rw [update_of_ne same] at none_k ⊢
      rw [update_of_ne same,update_of_ne same]
      exact kept.closed k none_k

theorem Kept.setHeld {holds : List Nat}
    (sound : here.Sound holds (accepted i) (delivered i)) :
    Kept (update slot i (some here)) (update held i holds) accepted delivered := by
  have set := @Kept.set _ _ _ _ _ i _ kept _ _ _ sound
  rw [update_eq_self,update_eq_self] at set
  exact set

theorem Kept.setSlot
    (sound : here.Sound (held i) (accepted i) (delivered i)) :
    Kept (update slot i (some here)) held accepted delivered := by
  have set := @Kept.setHeld _ _ _ _ _ i _ kept _ sound
  rw [update_eq_self] at set
  exact set

theorem Kept.accept {entry : Nat × ipc.Message}
    (sound : here.Sound (held i) (accepted i ++ [entry]) (delivered i)) :
    Kept (update slot i (some here)) held (update accepted i (accepted i ++ [entry])) delivered := by
  have set := @Kept.set _ _ _ _ _ i _ kept _ _ _ sound
  rw [update_eq_self,update_eq_self] at set
  exact set

theorem Kept.clear :
    Kept (update slot i none) (update held i []) (update accepted i [])
      (update delivered i []) where
  sound := by
    intro k opened at_k
    by_cases same : k = i
    case pos =>
      subst same
      rw [update_self] at at_k
      cases at_k
    case neg =>
      rw [update_of_ne same] at at_k ⊢
      rw [update_of_ne same,update_of_ne same]
      exact kept.sound k opened at_k
  closed := by
    intro k none_k
    by_cases same : k = i
    case pos =>
      subst same
      simp
    case neg =>
      rw [update_of_ne same] at none_k ⊢
      rw [update_of_ne same,update_of_ne same]
      exact kept.closed k none_k

theorem Kept.opened (member : buffer ∈ held i) :
    ∃ opened, slot i = some opened := by
  cases at_i : slot i with
  | none =>
    rw [(kept.closed i at_i).1] at member
    cases member
  | some opened => exact ⟨opened,rfl⟩

theorem Kept.release (member : buffer ∈ held i) :
    Kept (update slot i ((slot i).map (Slot.release buffer)))
      (update held i ((held i).erase buffer)) accepted delivered := by
  obtain ⟨opened,at_i⟩ := kept.opened member
  rw [at_i]
  exact kept.setHeld ((kept.sound i opened at_i).release member)

end Slots

section Sends
variable {channel : Channel ipc} {held : Nat → List Nat} {accepted : Nat → List (Nat × ipc.Message)}
  {delivered : Nat → List ipc.Content} {i j buffer len dst : Nat} {source : ipc.Content} {granted : Nat → Bool}
  {woken : Nat → Int}

/-- A message that a slot can take: it fits the buffers, and the notification reports no error. -/
structure Sendable (len : Nat) (source : ipc.Content) (woken : Nat → Int) : Prop where
  bounded : len ≤ ipc.copied source
  fits : ipc.overruns len = false
  rx_fits : ipc.overruns (ipc.copied source) = false
  woken_up : ∀ j, 0 ≤ ipc.wake (woken j)

section Readers
variable {reader : Slot ipc}

theorem Kept.copy (kept : Kept channel.slot held accepted delivered) (at_j : channel.slot j = some reader)
    (sendable : Sendable len source woken) :
    ((reader.ipcTxCopy (granted j) (woken j) len source).2 = true →
      (reader.ipcTxCopy (granted j) (woken j) len source).1.Sound (held j)
        (accepted j ++ [(len,ipc.message len source)]) (delivered j)) ∧
    ((reader.ipcTxCopy (granted j) (woken j) len source).2 = false →
      (reader.ipcTxCopy (granted j) (woken j) len source).1.Sound (held j) (accepted j) (delivered j)) :=
  (kept.sound j reader at_j).ipcTxCopy sendable.fits sendable.bounded sendable.rx_fits (sendable.woken_up j)

private theorem ipcTxTo_open (at_j : channel.slot j = some reader) :
    channel.ipcTxTo i j buffer len source granted woken =
      if (reader.ipcTxCopy (granted j) (woken j) len source).2 then
        let queued := channel.setSlot j (some (reader.ipcTxCopy (granted j) (woken j) len source).1)
        (queued.setSlot i ((queued.slot i).map (Slot.release buffer)),true)
      else (channel.setSlot j (some (reader.ipcTxCopy (granted j) (woken j) len source).1),false) := by
  unfold Channel.ipcTxTo
  rw [at_j]
  dsimp only
  cases reader.ipcTxCopy (granted j) (woken j) len source with
  | mk next sent => cases sent <;> rfl

theorem Kept.ipcTxTo (kept : Kept channel.slot held accepted delivered) (member : buffer ∈ held i)
    (sendable : Sendable len source woken) :
    ((channel.ipcTxTo i j buffer len source granted woken).2 = true →
      Kept (channel.ipcTxTo i j buffer len source granted woken).1.slot (update held i ((held i).erase buffer))
        (update accepted j (accepted j ++ [(len,ipc.message len source)])) delivered) ∧
    ((channel.ipcTxTo i j buffer len source granted woken).2 = false →
      Kept (channel.ipcTxTo i j buffer len source granted woken).1.slot held accepted delivered) := by
  cases at_j : channel.slot j with
  | none =>
    have closed : channel.ipcTxTo i j buffer len source granted woken = (channel,false) := by
      unfold Channel.ipcTxTo
      rw [at_j]
    rw [closed]
    exact ⟨fun sent => absurd sent (by simp),fun _ => kept⟩
  | some reader =>
    have sound := @Kept.copy _ _ _ _ _ j len source granted woken reader kept at_j sendable
    rw [ipcTxTo_open at_j]
    split
    next taken =>
      refine ⟨fun _ => ?_,fun failed => absurd failed (by simp)⟩
      exact (kept.accept (sound.1 taken)).release member
    next full =>
      refine ⟨fun sent => absurd sent (by simp),fun _ => ?_⟩
      exact kept.setSlot (sound.2 (by simpa using full))

theorem Kept.ipcTxTo_content (kept : Kept channel.slot held accepted delivered)
    (member : buffer ∈ held i) (failed : (channel.ipcTxTo i j buffer len source granted woken).2 = false) :
    ((channel.ipcTxTo i j buffer len source granted woken).1.slot i).map (fun slot => slot.memory buffer) =
      (channel.slot i).map fun slot => slot.memory buffer := by
  cases at_j : channel.slot j with
  | none =>
    unfold Channel.ipcTxTo
    rw [at_j]
  | some reader =>
    rw [ipcTxTo_open at_j] at failed ⊢
    split at failed
    · cases failed
    next full =>
      rw [if_neg full]
      by_cases same : i = j
      case pos =>
        subst same
        have memory : (reader.ipcTxCopy (granted i) (woken i) len source).1.memory buffer = reader.memory buffer :=
          (kept.sound i reader at_j).copy_held member
        simp [Channel.setSlot,at_j,memory]
      case neg => simp [Channel.setSlot,same]

end Readers

theorem Kept.ipcTxAll {start : Channel ipc} (slots : List Nat) (distinct : slots.Nodup)
    (kept : Kept channel.slot held accepted delivered) (same : ∀ j ∈ slots, channel.slot j = start.slot j)
    (sendable : Sendable len source woken) :
    Kept (slots.foldl (Channel.ipcTxAll len source granted woken) channel).slot held
      (logAll (len,ipc.message len source)
        (slots.filter fun j => (start.slot j).any fun slot => slot.room (granted j) len) accepted) delivered := by
  induction slots generalizing channel accepted with
  | nil => exact kept
  | cons j rest ih =>
    obtain ⟨outside,distinct⟩ := nodup_cons.mp distinct
    have at_start := same j mem_cons_self
    rw [foldl_cons]
    unfold Channel.ipcTxAll
    cases at_j : channel.slot j with
    | none =>
      rw [at_j] at at_start
      have closed : ((start.slot j).any fun slot => slot.room (granted j) len) = false := by rw [← at_start]; rfl
      rw [filter_cons_of_neg (by simp [closed])]
      exact ih distinct kept fun k member => same k (mem_cons_of_mem j member)
    | some reader =>
      rw [at_j] at at_start
      have sound := @Kept.copy _ _ _ _ _ j len source granted woken reader kept at_j sendable
      have room : (reader.ipcTxCopy (granted j) (woken j) len source).2 = reader.room (granted j) len :=
        ipcTxCopy_room (sendable.woken_up j)
      have others (next : Slot ipc) : ∀ k ∈ rest, (channel.setSlot j (some next)).slot k = start.slot k := by
        intro k member
        have apart : k ≠ j := by
          rintro rfl
          exact outside member
        exact (update_of_ne apart _ _).trans (same k (mem_cons_of_mem j member))
      cases taken : (reader.ipcTxCopy (granted j) (woken j) len source).2 with
      | false =>
        have full : ((start.slot j).any fun slot => slot.room (granted j) len) = false := by
          rw [← at_start]
          exact room.symm.trans taken
        rw [filter_cons_of_neg (by simp [full])]
        exact ih distinct (kept.setSlot (sound.2 taken)) (others _)
      | true =>
        have free : ((start.slot j).any fun slot => slot.room (granted j) len) = true := by
          rw [← at_start]
          exact room.symm.trans taken
        rw [filter_cons_of_pos (by simp [free])]
        exact ih distinct (kept.accept (sound.1 taken)) (others _)

structure Transmitted (channel : Channel ipc) (i buffer len dst : Nat) (granted : Nat → Bool) (source : ipc.Content)
    (held : Nat → List Nat) (accepted : Nat → List (Nat × ipc.Message)) (delivered : Nat → List ipc.Content)
    (result : Channel ipc × Bool) : Prop where
  queued : result.2 = true → Kept result.1.slot (update held i ((held i).erase buffer))
    (logAll (len,ipc.message len source) (channel.targets i len dst granted) accepted) delivered
  failed : result.2 = false → Kept result.1.slot held accepted delivered ∧
    (result.1.slot i).map (fun slot => slot.memory buffer) = (channel.slot i).map fun slot => slot.memory buffer
  alone : result.2 = true → dst ≠ IPC_DST_ALL → ∃ j, channel.targets i len dst granted = [j]
  frame : result.1.faulted = channel.faulted ∧ result.1.last = channel.last

theorem transmitted_failed (kept : Kept channel.slot held accepted delivered) :
    Transmitted channel i buffer len dst granted source held accepted delivered (channel,false) where
  queued := fun sent => absurd sent (by simp)
  failed := fun _ => ⟨kept,rfl⟩
  alone := fun sent => absurd sent (by simp)
  frame := ⟨rfl,rfl⟩

theorem ipcTxTo_frame : (channel.ipcTxTo i j buffer len source granted woken).1.faulted = channel.faulted ∧
    (channel.ipcTxTo i j buffer len source granted woken).1.last = channel.last := by
  cases at_j : channel.slot j with
  | none =>
    unfold Channel.ipcTxTo
    rw [at_j]
    exact ⟨rfl,rfl⟩
  | some reader =>
    rw [ipcTxTo_open at_j]
    split <;> exact ⟨rfl,rfl⟩

theorem Kept.transmitted (kept : Kept channel.slot held accepted delivered) (member : buffer ∈ held i)
    (sendable : Sendable len source woken) (target : channel.targets i len dst granted = [j]) :
    Transmitted channel i buffer len dst granted source held accepted delivered
      (channel.ipcTxTo i j buffer len source granted woken) where
  queued := by
    rw [target]
    exact (kept.ipcTxTo member sendable).1
  failed := fun failed => ⟨(kept.ipcTxTo member sendable).2 failed,kept.ipcTxTo_content member failed⟩
  alone := fun _ _ => ⟨j,target⟩
  frame := ipcTxTo_frame

theorem ipcTxAll_frame (slots : List Nat) :
    (slots.foldl (Channel.ipcTxAll len source granted woken) channel).faulted = channel.faulted ∧
      (slots.foldl (Channel.ipcTxAll len source granted woken) channel).last = channel.last := by
  induction slots generalizing channel with
  | nil => exact ⟨rfl,rfl⟩
  | cons j rest ih =>
    rw [foldl_cons]
    have step : (Channel.ipcTxAll len source granted woken channel j).faulted = channel.faulted ∧
        (Channel.ipcTxAll len source granted woken channel j).last = channel.last := by
      unfold Channel.ipcTxAll
      split <;> exact ⟨rfl,rfl⟩
    rw [ih.1,ih.2]
    exact step

theorem Kept.broadcast (kept : Kept channel.slot held accepted delivered) (member : buffer ∈ held i)
    (sendable : Sendable len source woken) (type : channel.type = .manyReaders) (all : dst = IPC_DST_ALL) :
    Transmitted channel i buffer len dst granted source held accepted delivered
      (let sent := (Channel.others ipc).foldl (Channel.ipcTxAll len source granted woken) channel
      (sent.setSlot i ((sent.slot i).map (Slot.release buffer)),true)) where
  queued := by
    have target : channel.targets i len dst granted =
        (Channel.others ipc).filter fun j => (channel.slot j).any fun slot => slot.room (granted j) len := by
      unfold Channel.targets
      rw [type]
      exact if_pos all
    rw [target]
    intro _
    have loop := @Kept.ipcTxAll _ channel _ _ _ len source granted woken channel (Channel.others ipc) nodup_range' kept
      (fun _ _ => rfl) sendable
    exact loop.release member
  failed := fun failed => absurd failed (by simp)
  alone := fun _ other => absurd all other
  frame := ipcTxAll_frame _

theorem Kept.ownQueue {writer : Slot ipc} (kept : Kept channel.slot held accepted delivered) (member : buffer ∈ held i)
    (at_i : channel.slot i = some writer) (sendable : Sendable len (writer.memory buffer) woken)
    (type : channel.type = .manyWriters) :
    Transmitted channel i buffer len dst granted (writer.memory buffer) held accepted delivered
      (match writer.ipcTxSlot (woken 0) buffer with
      | (writer,rc) =>
        if rc < 0 then (channel.setSlot i (some writer),false) else (channel.setSlot i (some writer),true)) := by
  have target : channel.targets i len dst granted = [i] := by
    unfold Channel.targets
    rw [type]
  unfold Slot.ipcTxSlot
  by_cases room : writer.queue.length < ipc.capacity
  case pos =>
    simp only [room,if_true,if_neg (Int.not_lt.mpr (sendable.woken_up 0))]
    refine ⟨?_,fun failed => absurd failed (by simp),fun _ _ => ⟨i,target⟩,⟨rfl,rfl⟩⟩
    intro _
    rw [target]
    have keeps : Keeps (len,ipc.message len (writer.memory buffer)) (writer.memory buffer) :=
      ⟨rfl,sendable.bounded,sendable.rx_fits⟩
    have set := @Kept.set _ _ _ _ _ i _ kept _ _ _ ((kept.sound i writer at_i).enqueue member keeps)
    rw [update_eq_self] at set
    exact set
  case neg =>
    have same : channel.setSlot i (some writer) = channel := by
      unfold Channel.setSlot
      rw [← at_i,update_eq_self]
    simp only [room,if_false]
    have full : (-1 : Int) < 0 := by decide
    rw [if_pos full,same]
    exact transmitted_failed kept

def Mapped (dst : Nat) (channel : Channel ipc) : Prop :=
  ∀ serial, channel.dstMap (dst &&& 0xff) = (dst,some serial) → (channel.slotAt serial).isSome = true

theorem Kept.ipcTx {writer : Slot ipc} (kept : Kept channel.slot held accepted delivered) (member : buffer ∈ held i)
    (at_i : channel.slot i = some writer) (sendable : Sendable len (writer.memory buffer) woken)
    (mapped : Mapped dst channel) :
    Transmitted channel i buffer len dst granted (writer.memory buffer) held accepted delivered
      (channel.ipcTx i buffer len dst granted woken) := by
  unfold Channel.ipcTx
  rw [at_i]
  cases type : channel.type with
  | singleReaderWriter =>
    apply kept.transmitted member sendable
    unfold Channel.targets
    rw [type]
  | manyWriters =>
    dsimp only
    split
    · exact transmitted_failed kept
    · exact kept.ownQueue member at_i sendable type
  | manyReaders =>
    dsimp only
    split
    next all => exact kept.broadcast member sendable type all
    next directed =>
      split
      · exact transmitted_failed kept
      · split
        · exact transmitted_failed kept
        next address =>
          cases mapping : (channel.dstMap (dst &&& 255)).2 with
          | none => exact transmitted_failed kept
          | some serial =>
            have entry : channel.dstMap (dst &&& 0xff) = (dst,some serial) :=
              Prod.ext (not_not.mp address) mapping
            obtain ⟨j,found⟩ := Option.isSome_iff_exists.mp (mapped serial entry)
            dsimp only
            rw [found]
            apply kept.transmitted member sendable
            unfold Channel.targets
            rw [type]
            rw [if_neg directed,mapping]
            simp [found]

end Sends

end Genavb.Ipc

/-! What `ipc_rx` keeps of them, and the walk over the writers. -/
namespace Genavb.Ipc
open Channel

open Function (update update_eq_self update_of_ne update_self)

variable {ipc : Buffers}

section Receives
variable {channel : Channel ipc} {held : Nat → List Nat} {accepted : Nat → List (Nat × ipc.Message)}
  {delivered : Nat → List ipc.Content} {i j buffer : Nat} {granted : Nat → Bool} {reader writer : Slot ipc}
  {rest : List Nat}

/-- What `ipc_rx` leaves behind, with the message from the queue of slot `holder`. -/
structure Received (holder i : Nat) (held : Nat → List Nat) (accepted : Nat → List (Nat × ipc.Message))
    (delivered : Nat → List ipc.Content) (channel : Channel ipc) (buffer : Nat) : Prop where
  reader : ∃ reader, channel.slot i = some reader ∧
    Kept channel.slot (update held i (buffer :: held i)) accepted
      (update delivered holder (delivered holder ++ [reader.memory buffer]))

theorem Kept.receive (kept : Kept channel.slot held accepted delivered) (at_i : channel.slot i = some reader)
    (queue : reader.queue = buffer :: rest) :
    Received i i held accepted delivered
      (channel.setSlot i (some (Slot.modifyMemory buffer (ipc.tag 0) {reader with queue := rest}))) buffer := by
  refine ⟨_,update_self _ _ _,?_⟩
  have sound := (kept.sound i reader at_i).receive queue 0
  have content : (Slot.modifyMemory buffer (ipc.tag 0) {reader with queue := rest}).memory buffer =
      ipc.tag 0 (reader.memory buffer) := update_self _ _ _
  have set := @Kept.set _ _ _ _ _ i _ kept _ _ _ sound
  rw [update_eq_self] at set
  rw [content]
  exact set

theorem Kept.forward {addr : Nat} {next : Slot ipc} (kept : Kept channel.slot held accepted delivered) (apart : i ≠ j)
    (at_i : channel.slot i = some reader) (at_j : channel.slot j = some writer) (queue : writer.queue = buffer :: rest)
    (copied : reader.ipcCopy (granted j) (ipc.copied (writer.memory buffer)) (writer.memory buffer) = some (addr,next))
    (src : Nat) :
    Received j i held accepted delivered
      ((channel.setSlot j (some (Slot.release buffer {writer with queue := rest}))).setSlot i
        (some (next.modifyMemory addr (ipc.tag src)))) addr := by
  have fits := (kept.sound j writer at_j).head_fits queue
  obtain ⟨sound,old,content,_⟩ := (kept.sound i reader at_i).ipcCopy copied fits
  have memory : (next.modifyMemory addr (ipc.tag src)).memory addr =
      ipc.tag src (ipc.copy (ipc.copied (writer.memory buffer)) (writer.memory buffer) old) := by
    rw [← content]
    exact update_self _ _ _
  refine ⟨_,update_self _ _ _,?_⟩
  rw [memory]
  have carries : ∀ len ≤ ipc.copied (writer.memory buffer), ipc.message len (ipc.tag src
      (ipc.copy (ipc.copied (writer.memory buffer)) (writer.memory buffer) old)) =
        ipc.message len (writer.memory buffer) :=
    fun len inside => ipc.message_tag.trans (ipc.message_copy inside)
  have forwarded := (kept.sound j writer at_j).forward queue carries
  have first := @Kept.set _ _ _ _ _ j _ kept _ _ _ forwarded
  rw [update_eq_self,update_eq_self] at first
  have tagged := sound.write List.mem_cons_self (ipc.tag src)
  have logs : update delivered j (delivered j ++ [ipc.tag src
      (ipc.copy (ipc.copied (writer.memory buffer)) (writer.memory buffer) old)]) i = delivered i :=
    update_of_ne apart _ _
  rw [← logs] at tagged
  exact first.setHeld tagged

/-- The condition on a receive from many writers: the reader gets memory for the first message of the walk. -/
def Ready (i : Nat) (granted : Nat → Bool) (steps : Nat) (channel : Channel ipc) : Prop :=
  ∀ j writer buffer rest reader, firstPending channel.slot steps channel.last = some j → channel.slot j = some writer →
    writer.queue = buffer :: rest → channel.slot i = some reader →
      (ipc.alloc (granted j) (ipc.copied (writer.memory buffer)) reader.pool).isSome = true

theorem nextLast_pos : 1 ≤ channel.nextLast ∧ channel.nextLast ≤ ipc.readersWriters := by
  have some_others := ipc.some_others
  unfold nextLast
  split <;> omega

def Idle (slot : Nat → Option (Slot ipc)) (j : Nat) : Prop := ∀ writer, slot j = some writer → writer.queue = []

variable {steps : Nat}

theorem firstPending_idle (idle : Idle channel.slot channel.nextLast) :
    firstPending channel.slot (steps + 1) channel.last = firstPending channel.slot steps channel.nextLast := by
  unfold nextLast at idle ⊢
  rw [firstPending]
  cases at_last : channel.slot (if ipc.readersWriters < channel.last + 1 then 1 else channel.last + 1) with
  | none => rfl
  | some writer => simp [idle writer at_last]

theorem firstPending_found (at_last : channel.slot channel.nextLast = some writer)
    (queue : writer.queue = buffer :: rest) :
    firstPending channel.slot (steps + 1) channel.last = some channel.nextLast := by
  unfold nextLast at at_last ⊢
  rw [firstPending]
  rw [at_last]
  simp [queue]

theorem ipcRxLoop_idle (idle : Idle channel.slot channel.nextLast) :
    channel.ipcRxLoop i granted (steps + 1) =
      ipcRxLoop i granted steps {channel with last := channel.nextLast} := by
  rw [ipcRxLoop]
  cases at_last : channel.slot channel.nextLast with
  | none => rfl
  | some writer => simp [idle writer at_last]

theorem ipcRxLoop_found {addr : Nat} {next : Slot ipc} (at_last : channel.slot channel.nextLast = some writer)
    (queue : writer.queue = buffer :: rest) (at_i : channel.slot i = some reader) (apart : i ≠ channel.nextLast)
    (copied : reader.ipcCopy (granted channel.nextLast) (ipc.copied (writer.memory buffer)) (writer.memory buffer) =
      some (addr,next)) :
    ∃ src, channel.ipcRxLoop i granted (steps + 1) =
      ((setSlot channel.nextLast (some (Slot.release buffer {writer with queue := rest}))
        {channel with last := channel.nextLast}).setSlot i (some (next.modifyMemory addr (ipc.tag src))),some (addr,src)) := by
  refine ⟨channel.ipcSlotAddress channel.nextLast,?_⟩
  have other : (setSlot channel.nextLast (some (Slot.release buffer {writer with queue := rest}))
      {channel with last := channel.nextLast}).slot i = some reader := (update_of_ne apart _ _).trans at_i
  rw [ipcRxLoop]
  rw [at_last]
  simp only [queue,other,Option.bind_some,copied]
  rfl

theorem Kept.ipcRxLoop (steps : Nat) (kept : Kept channel.slot held accepted delivered)
    (at_0 : channel.slot 0 = some reader) (ready : Ready 0 granted steps channel) :
    ((channel.ipcRxLoop 0 granted steps).2 = none → firstPending channel.slot steps channel.last = none ∧
      (channel.ipcRxLoop 0 granted steps).1.slot = channel.slot) ∧
    (∀ buffer src, (channel.ipcRxLoop 0 granted steps).2 = some (buffer,src) →
      Received (channel.ipcRxLoop 0 granted steps).1.last 0 held accepted delivered
        (channel.ipcRxLoop 0 granted steps).1 buffer) := by
  induction steps generalizing channel with
  | zero => exact ⟨fun _ => ⟨rfl,rfl⟩,fun _ _ found => absurd found (by simp [ipcRxLoop])⟩
  | succ steps ih =>
    by_cases idle : Idle channel.slot channel.nextLast
    case pos =>
      unfold Ready at ready
      rw [firstPending_idle idle] at ready ⊢
      rw [ipcRxLoop_idle idle]
      exact @ih {channel with last := channel.nextLast} kept at_0 ready
    case neg =>
      unfold Idle at idle
      push Not at idle
      obtain ⟨writer,at_last,pending⟩ := idle
      obtain ⟨buffer,rest,queue⟩ := List.exists_cons_of_ne_nil pending
      have apart : 0 ≠ channel.nextLast := Nat.ne_of_lt (@nextLast_pos _ channel).1
      have memory := ready channel.nextLast writer buffer rest reader (firstPending_found at_last queue) at_last queue at_0
      obtain ⟨addr,next,copied⟩ := ipcCopy_granted memory (writer.memory buffer)
      obtain ⟨src,result⟩ := @ipcRxLoop_found _ channel 0 buffer granted reader writer rest steps _ _ at_last queue at_0 apart copied
      rw [result]
      refine ⟨fun none => absurd none (by simp),?_⟩
      intro _ _ same
      cases same
      exact @Kept.forward _ {channel with last := channel.nextLast} held accepted delivered 0 channel.nextLast buffer granted
        reader writer rest _ _ kept apart at_0 at_last queue copied src

theorem firstPending_none {slot : Nat → Option (Slot ipc)} {last : Nat} (inside : last ≤ ipc.readersWriters)
    (none : firstPending slot steps last = none) {j : Nat} (positive : 1 ≤ j) (below : j ≤ ipc.readersWriters)
    (reached : last < j ∧ j - last ≤ steps ∨ j ≤ last ∧ ipc.readersWriters - last + j ≤ steps) : Idle slot j := by
  induction steps generalizing last with
  | zero => omega
  | succ steps ih =>
    unfold firstPending at none
    dsimp only at none
    generalize next : (if ipc.readersWriters < last + 1 then 1 else last + 1) = there at none
    have idle : Idle slot there ∧ firstPending slot steps there = .none := by
      unfold Idle
      cases at_there : slot there with
      | none =>
        rw [at_there] at none
        exact ⟨fun writer found => absurd found (by simp),none⟩
      | some writer =>
        rw [at_there] at none
        dsimp only at none
        split at none
        next empty =>
          refine ⟨?_,none⟩
          intro other found
          cases found
          simpa using empty
        · cases none
    by_cases here : j = there
    case pos => exact here ▸ idle.1
    case neg =>
      split at next
      · apply ih (by omega) idle.2
        omega
      · apply ih (by omega) idle.2
        omega

theorem ipcRxLoop_frame (steps : Nat) (inside : channel.last ≤ ipc.readersWriters) :
    (channel.ipcRxLoop i granted steps).1.faulted = channel.faulted ∧
      (channel.ipcRxLoop i granted steps).1.last ≤ ipc.readersWriters ∧
      (channel.ipcRxLoop i granted steps).1.type = channel.type := by
  induction steps generalizing channel with
  | zero => exact ⟨rfl,inside,rfl⟩
  | succ steps ih =>
    have next := (@nextLast_pos _ channel).2
    unfold ipcRxLoop
    dsimp only
    split
    · exact @ih {channel with last := channel.nextLast} next
    next writer _ =>
      split
      · exact @ih {channel with last := channel.nextLast} next
      next buffer rest _ =>
        split
        · exact @ih (setSlot channel.nextLast (some (Slot.release buffer {writer with queue := rest}))
            {channel with last := channel.nextLast}) next
        · exact ⟨rfl,next,rfl⟩

end Receives

end Genavb.Ipc
