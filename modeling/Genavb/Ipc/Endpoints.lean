import Genavb.Ipc.Slots
import Genavb.Support.Run

/-! A channel with the applications at its ends: what they hold, what has been accepted for a queue and what has been
delivered from it. -/
namespace Genavb.Ipc

open Function (update)

variable {ipc : Buffers}

/-- `held` are the buffers that an application has allocated or received and neither freed nor sent. The logs belong
to the slot with the queue. -/
structure IpcSystem (ipc : Buffers) where
  channel : Channel ipc
  held : Nat → List Nat
  accepted : Nat → List (Nat × ipc.Message)
  delivered : Nat → List ipc.Content

/-- `granted` tells for the slot of a copy whether there is memory, and `woken` what the notification of the reader
in a slot returns. -/
inductive IpcInput (ipc : Buffers) where
  | openReader (granted : Bool)
  | openWriter (granted : Bool)
  | close (i : Nat)
  | connect (writerChannel writerIndex i : Nat)
  | alloc (i size : Nat) (granted : Bool)
  | free (i buffer : Nat)
  | write (i buffer : Nat) (content : ipc.Content)
  | send (i buffer len dst : Nat) (granted : Nat → Bool) (woken : Nat → Int)
  | receive (i : Nat) (granted : Nat → Bool)

namespace Channel

def targets (i len dst : Nat) (granted : Nat → Bool) (channel : Channel ipc) : List Nat :=
  match channel.type with
  | .singleReaderWriter => [0]
  | .manyWriters => [i]
  | .manyReaders =>
    if dst = IPC_DST_ALL then
      (others ipc).filter fun j => (channel.slot j).any fun slot => slot.room (granted j) len
    else ((channel.dstMap (dst &&& 0xff)).2.bind fun serial => channel.slotAt serial).toList

end Channel

/-- The first slot with a message in the walk of `ipc_rx`. -/
def firstPending (slot : Nat → Option (Slot ipc)) : Nat → Nat → Option Nat
  | 0,_ => none
  | steps + 1,last =>
    let last := if ipc.readersWriters < last + 1 then 1 else last + 1
    match slot last with
    | none => firstPending slot steps last
    | some writer => if writer.queue.isEmpty then firstPending slot steps last else some last

def logAll (entry : Nat × ipc.Message) (targets : List Nat) (accepted : Nat → List (Nat × ipc.Message)) :
    Nat → List (Nat × ipc.Message) :=
  targets.foldl (fun accepted j => update accepted j (accepted j ++ [entry])) accepted

namespace IpcSystem

def init (ipc : Buffers) (type : IpcType) (index : Nat) : IpcSystem ipc where
  channel := ⟨type,index,fun _ => none,fun _ => (0,none),1,0,false⟩
  held := fun _ => []
  accepted := fun _ => []
  delivered := fun _ => []

def clear (i : Nat) (channel : Channel ipc) (system : IpcSystem ipc) : IpcSystem ipc where
  channel := channel
  held := update system.held i []
  accepted := update system.accepted i []
  delivered := update system.delivered i []

def content (i buffer : Nat) (system : IpcSystem ipc) : ipc.Content :=
  ((system.channel.slot i).map fun slot => slot.memory buffer).getD ipc.blank

def request (i buffer len dst : Nat) (granted : Nat → Bool) (woken : Nat → Int) (system : IpcSystem ipc) :
    Channel ipc × Bool :=
  let content := system.content i buffer
  if !system.channel.isWriter i ∨ ipc.refuses (ipc.sends len content) then (system.channel,false)
  else system.channel.ipcTx i buffer (ipc.sends len content) (ipc.destination dst content) granted woken

def send (i buffer len dst : Nat) (granted : Nat → Bool) (woken : Nat → Int) (system : IpcSystem ipc) : IpcSystem ipc :=
  match system.request i buffer len dst granted woken with
  | (channel,false) => {system with channel := channel}
  | (channel,true) =>
    let content := system.content i buffer
    let len := ipc.sends len content
    {system with
      channel := channel
      held := update system.held i ((system.held i).erase buffer)
      accepted := logAll (len,ipc.message len content)
        (system.channel.targets i len (ipc.destination dst content) granted) system.accepted}

/-- `ipc_rx`; a message of many writers comes from the slot `ipc->last`. -/
def receive (i : Nat) (granted : Nat → Bool) (system : IpcSystem ipc) : IpcSystem ipc :=
  match system.channel.ipcRx i granted with
  | (channel,none) => {system with channel := channel}
  | (channel,some (buffer,_)) =>
    let holder := if channel.type = .manyWriters then channel.last else i
    let system := {system with
      channel := channel
      held := update system.held i (buffer :: system.held i)}
    {system with
      delivered := update system.delivered holder (system.delivered holder ++ [system.content i buffer])}

end IpcSystem

def ipcStep (input : IpcInput ipc) (system : IpcSystem ipc) : IpcSystem ipc :=
  match input with
  | .openReader granted =>
    match system.channel.readerSlot with
    | none => system
    | some i => if granted then system.clear i (system.channel.ipcInit i) else system
  | .openWriter granted =>
    match system.channel.writerSlot with
    | none => system
    | some i => if granted then system.clear i (system.channel.ipcInit i) else system
  | .close i => system.clear i (system.channel.ipcExit i)
  | .connect writerChannel writerIndex i =>
    {system with channel := system.channel.ipcTxConnect writerChannel writerIndex i}
  | .alloc i size granted =>
    match system.channel.slot i with
    | none => system
    | some slot =>
      if !system.channel.isWriter i then system
      else
        match ipc.alloc granted size slot.pool with
        | none => system
        | some (buffer,pool) =>
          {system with
            channel := system.channel.setSlot i (some {slot with pool := pool})
            held := update system.held i (buffer :: system.held i)}
  | .free i buffer =>
    match system.channel.slot i with
    | none => system
    | some slot =>
      {system with
        channel := system.channel.setSlot i (some (slot.release buffer))
        held := update system.held i ((system.held i).erase buffer)}
  | .write i buffer content =>
    match system.channel.slot i with
    | none => system
    | some slot => {system with channel := system.channel.setSlot i (some (slot.modifyMemory buffer fun _ => content))}
  | .send i buffer len dst granted woken => system.send i buffer len dst granted woken
  | .receive i granted =>
    if system.channel.isWriter i ∨ (system.channel.slot i).isNone then system else system.receive i granted

def Allowed (system : IpcSystem ipc) : IpcInput ipc → Prop
  | .free i buffer => buffer ∈ system.held i
  | .write i buffer _ => buffer ∈ system.held i
  | .send i buffer len dst _ woken =>
    let content := system.content i buffer
    buffer ∈ system.held i ∧ (∀ j, 0 ≤ ipc.wake (woken j)) ∧ ipc.overruns (ipc.sends len content) = false ∧
      ∀ serial, system.channel.dstMap (ipc.destination dst content &&& 0xff) = (ipc.destination dst content,some serial) →
        (system.channel.slotAt serial).isSome = true
  | .receive i granted => system.channel.type = .manyWriters →
    ∀ j writer buffer rest reader, firstPending system.channel.slot ipc.readersWriters system.channel.last = some j →
      system.channel.slot j = some writer → writer.queue = buffer :: rest → system.channel.slot i = some reader →
        (ipc.alloc (granted j) (ipc.copied (writer.memory buffer)) reader.pool).isSome = true
  | _ => True

/-- A message that is not accepted stays with its sender, and one that is accepted has its queue; a reader that gets
nothing has nothing pending. -/
def Promised (system : IpcSystem ipc) : IpcInput ipc → Prop
  | .send i buffer len dst granted woken =>
    let next := system.send i buffer len dst granted woken
    let content := system.content i buffer
    let targets := system.channel.targets i (ipc.sends len content) (ipc.destination dst content) granted
    ((system.request i buffer len dst granted woken).2 = false →
      buffer ∈ next.held i ∧ next.content i buffer = content ∧ next.accepted = system.accepted) ∧
    ((system.request i buffer len dst granted woken).2 = true →
      ipc.destination dst content ≠ IPC_DST_ALL → ∃ j, targets = [j])
  | .receive i granted => ∀ reader, system.channel.isWriter i = false → system.channel.slot i = some reader →
    (system.channel.ipcRx i granted).2 = none →
      match system.channel.type with
      | .manyWriters => ∀ j writer, 1 ≤ j → j ≤ ipc.readersWriters → system.channel.slot j = some writer → writer.queue = []
      | _ => reader.queue = []
  | _ => True

end Genavb.Ipc

/-! Who is at the ends of a channel, which messages do not change. -/
namespace Genavb.Ipc
open Function (update update_self update_of_ne)

variable {ipc : Buffers}

structure Ends where
  type : IpcType
  index : Nat
  serial : Nat → Option Nat
  dstMap : Nat → Nat × Option Nat
  opened : Nat

namespace Channel

def serial (channel : Channel ipc) (i : Nat) : Option Nat := (channel.slot i).map Slot.serial

def ends (channel : Channel ipc) : Ends where
  type := channel.type
  index := channel.index
  serial := channel.serial
  dstMap := channel.dstMap
  opened := channel.opened

end Channel

section Slots
variable {slot after : Slot ipc} {buffer len : Nat} {granted : Bool} {source : ipc.Content}

private theorem ipcCopy_serial (found : slot.ipcCopy granted len source = some (buffer,after)) : after.serial = slot.serial := by
  unfold Slot.ipcCopy at found
  split at found
  · cases found
  · cases found
    rfl

private theorem ipcTxSlot_serial {w : Int} {b : Nat} (slot : Slot ipc) : (slot.ipcTxSlot w b).1.serial = slot.serial := by
  unfold Slot.ipcTxSlot
  split <;> rfl

private theorem ipcTxCopy_serial {g : Bool} {w : Int} {l : Nat} {s : ipc.Content} (slot : Slot ipc) :
    (slot.ipcTxCopy g w l s).1.serial = slot.serial := by
  unfold Slot.ipcTxCopy
  split
  · rfl
  next buffer copied found =>
    have queued := ipcTxSlot_serial (w := w) (b := buffer) copied
    have same := ipcCopy_serial found
    dsimp only
    split
    · exact queued.trans same
    · exact queued.trans same

end Slots

namespace Channel

section Ends
variable {channel next : Channel ipc} {slot other : Slot ipc} {i j buffer len : Nat} {source : ipc.Content}
  {granted : Nat → Bool} {woken : Nat → Int}

private theorem setSlot_ends (here : channel.slot i = some other) (same : slot.serial = other.serial) :
    (channel.setSlot i (some slot)).ends = channel.ends := by
  have serials : (channel.setSlot i (some slot)).serial = channel.serial := by
    funext k
    change (update channel.slot i (some slot) k).map Slot.serial = (channel.slot k).map Slot.serial
    by_cases there : k = i
    case pos =>
      rw [there,update_self,here,Option.map_some,Option.map_some,same]
    case neg => rw [update_of_ne there]
  simp only [ends,serials]
  rfl

private theorem setSlot_release (channel : Channel ipc) (i buffer : Nat) :
    (channel.setSlot i ((channel.slot i).map (Slot.release buffer))).ends = channel.ends := by
  cases here : channel.slot i with
  | none =>
    have same : channel.setSlot i none = channel := by
      unfold setSlot
      rw [← here,Function.update_eq_self]
    rw [Option.map_none,same]
  | some slot => exact setSlot_ends here rfl

theorem ipcTxAll_ends (channel : Channel ipc) (j : Nat) :
    (channel.ipcTxAll len source granted woken j).ends = channel.ends := by
  unfold ipcTxAll
  split
  · rfl
  next slot here => exact setSlot_ends here (ipcTxCopy_serial slot)

private theorem ipcTxTo_ends (channel : Channel ipc) (i j buffer len : Nat) (source : ipc.Content) :
    (channel.ipcTxTo i j buffer len source granted woken).1.ends = channel.ends := by
  unfold ipcTxTo
  split
  · rfl
  next slot here =>
    have serial := ipcTxCopy_serial (g := granted j) (w := woken j) (l := len) (s := source) slot
    split
    next copied result =>
      rw [result] at serial
      exact setSlot_ends here serial
    next copied result =>
      rw [result] at serial
      exact (setSlot_release _ i buffer).trans (setSlot_ends here serial)

theorem ipcTx_ends (channel : Channel ipc) (i buffer len dst : Nat) :
    (channel.ipcTx i buffer len dst granted woken).1.ends = channel.ends := by
  unfold ipcTx
  split
  · rfl
  next writer here =>
    dsimp only
    split
    · split
      · refine (setSlot_release _ i buffer).trans ?_
        exact Support.foldl_kept (I := fun next : Channel ipc => next.ends = channel.ends)
          (fun next same j _ => (ipcTxAll_ends next j).trans same) rfl
      · split
        · rfl
        · split
          · rfl
          · split
            · rfl
            · split
              · rfl
              · exact ipcTxTo_ends channel _ _ _ _ _
    · exact ipcTxTo_ends channel _ _ _ _ _
    · split
      · rfl
      · have serial := ipcTxSlot_serial (w := woken 0) (b := buffer) writer
        split
        · exact setSlot_ends here serial
        · exact setSlot_ends here serial

theorem ipcRxLoop_ends (i steps : Nat) (channel : Channel ipc) :
    (channel.ipcRxLoop i granted steps).1.ends = channel.ends := by
  induction steps generalizing channel with
  | zero => rfl
  | succ steps ih =>
    unfold ipcRxLoop
    dsimp only
    split
    · exact (ih _).trans rfl
    next writer here =>
      split
      · exact (ih _).trans rfl
      next buffer rest _ =>
        have released : (setSlot channel.nextLast (some (Slot.release buffer {writer with queue := rest}))
            {channel with last := channel.nextLast}).ends = channel.ends := setSlot_ends here rfl
        split
        · exact (ih _).trans released
        next addr reader copied =>
          obtain ⟨old,at_i,copied⟩ := Option.bind_eq_some_iff.mp copied
          have serial : reader.serial = old.serial := ipcCopy_serial copied
          refine (setSlot_ends at_i ?_).trans released
          exact serial

theorem ipcRx_ends {g : Nat → Bool} (i : Nat) (channel : Channel ipc) : (channel.ipcRx i g).1.ends = channel.ends := by
  unfold ipcRx
  split
  · split
    · rfl
    next reader here =>
      split
      · rfl
      · exact setSlot_ends here rfl
  · split
    · rfl
    next reader here =>
      split
      · rfl
      · exact setSlot_ends here rfl
  · exact ipcRxLoop_ends i _ channel

end Ends

end Channel

open Channel

section Steps
variable {system : IpcSystem ipc}

/-- Only opening, closing and connecting change the ends of a channel. -/
def IpcInput.IsData : IpcInput ipc → Prop
  | .openReader _ | .openWriter _ | .close _ | .connect .. => False
  | _ => True

theorem request_ends (system : IpcSystem ipc) (i buffer len dst : Nat) (granted : Nat → Bool) (woken : Nat → Int) :
    (system.request i buffer len dst granted woken).1.ends = system.channel.ends := by
  unfold IpcSystem.request
  dsimp only
  split
  · rfl
  · exact ipcTx_ends _ _ _ _ _

theorem ipcStep_ends {input : IpcInput ipc} (data : input.IsData) (system : IpcSystem ipc) :
    (ipcStep input system).channel.ends = system.channel.ends := by
  unfold ipcStep
  cases input with
  | openReader | openWriter | close | connect => exact data.elim
  | alloc i size granted =>
    dsimp only
    split
    · rfl
    next slot here =>
      split
      · rfl
      · split
        · rfl
        · exact setSlot_ends here rfl
  | free | write =>
    dsimp only
    split
    · rfl
    next slot here => exact setSlot_ends here rfl
  | send i buffer len dst granted woken =>
    have same := request_ends system i buffer len dst granted woken
    dsimp only [IpcSystem.send]
    split
    next channel result =>
      rw [result] at same
      exact same
    next channel result =>
      rw [result] at same
      exact same
  | receive i granted =>
    have same := ipcRx_ends (g := granted) i system.channel
    dsimp only
    split
    · rfl
    · unfold IpcSystem.receive
      split
      next channel result =>
        rw [result] at same
        exact same
      next channel buffer src result =>
        rw [result] at same
        exact same

end Steps

end Genavb.Ipc
