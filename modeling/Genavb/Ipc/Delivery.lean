import Genavb.Ipc.Sends

/-! Every accepted message is delivered once and in order, and every buffer is in one place, in every run of a channel
whose reader has memory for the messages of many writers. -/
namespace Genavb.Ipc
open Support Channel

variable {ipc : Buffers}

structure IpcSystem.Sound (system : IpcSystem ipc) : Prop where
  kept : Kept system.channel.slot system.held system.accepted system.delivered
  faultless : system.channel.faulted = false
  last : system.channel.last ≤ ipc.readersWriters

section Steps
variable {system : IpcSystem ipc} {i : Nat}

theorem IpcSystem.Sound.opens (sound : system.Sound) (i : Nat) : (system.clear i (system.channel.ipcInit i)).Sound where
  kept := by
    have fresh : Slot.Sound ⟨ipc.pool,fun _ => ipc.blank,[],system.channel.opened,false⟩ [] [] [] :=
      ⟨ipc.uses_pool,⟨[],[],rfl,.nil,.nil⟩,rfl⟩
    exact sound.kept.set fresh
  faultless := sound.faultless
  last := sound.last

theorem ipcExit_slot (channel : Channel ipc) (i : Nat) :
    (channel.ipcExit i).slot = Function.update channel.slot i none := by
  unfold ipcExit
  cases at_i : channel.slot i with
  | none =>
    dsimp only
    rw [← at_i,Function.update_eq_self]
  | some slot =>
    dsimp only
    split <;> rfl

private theorem ipcExit_frame (channel : Channel ipc) (i : Nat) : (channel.ipcExit i).faulted = channel.faulted ∧
    (channel.ipcExit i).last = channel.last := by
  unfold ipcExit
  split
  · exact ⟨rfl,rfl⟩
  · dsimp only
    split <;> exact ⟨rfl,rfl⟩

theorem IpcSystem.Sound.closes (sound : system.Sound) (i : Nat) :
    (system.clear i (system.channel.ipcExit i)).Sound where
  kept := by
    change Kept (system.channel.ipcExit i).slot _ _ _
    rw [ipcExit_slot]
    exact sound.kept.clear
  faultless := (ipcExit_frame system.channel i).1.trans sound.faultless
  last := (ipcExit_frame system.channel i).2.le.trans sound.last

theorem ipcTxConnect_frame (channel : Channel ipc) (writerChannel writerIndex i : Nat) :
    (channel.ipcTxConnect writerChannel writerIndex i).slot = channel.slot ∧
      (channel.ipcTxConnect writerChannel writerIndex i).faulted = channel.faulted ∧
      (channel.ipcTxConnect writerChannel writerIndex i).last = channel.last := by
  unfold ipcTxConnect
  split
  · exact ⟨rfl,rfl,rfl⟩
  · split <;> exact ⟨rfl,rfl,rfl⟩

theorem content_open {writer : Slot ipc} (at_i : system.channel.slot i = some writer) (buffer : Nat) :
    system.content i buffer = writer.memory buffer := by
  unfold IpcSystem.content
  rw [at_i]
  rfl

variable {granted : Nat → Bool}

theorem IpcSystem.Sound.request {buffer len dst : Nat} {woken : Nat → Int} (sound : system.Sound)
    (allowed : Allowed system (.send i buffer len dst granted woken)) :
    Transmitted system.channel i buffer (ipc.sends len (system.content i buffer))
      (ipc.destination dst (system.content i buffer)) granted (system.content i buffer) system.held system.accepted
      system.delivered (system.request i buffer len dst granted woken) := by
  obtain ⟨member,woken_up,fits,mapped⟩ := allowed
  obtain ⟨writer,at_i⟩ := sound.kept.opened member
  unfold IpcSystem.request
  dsimp only
  split
  · exact transmitted_failed sound.kept
  next checked =>
    rw [not_or,Bool.not_eq_true,Bool.not_eq_true] at checked
    have sendable : Sendable (ipc.sends len (system.content i buffer)) (system.content i buffer) woken :=
      ⟨ipc.sends_copied checked.2,fits,ipc.overruns_copied fits,woken_up⟩
    have content := content_open at_i buffer
    rw [content] at sendable mapped ⊢
    exact sound.kept.ipcTx member at_i sendable mapped

theorem IpcSystem.Sound.send {buffer len dst : Nat} {woken : Nat → Int} (sound : system.Sound)
    (allowed : Allowed system (.send i buffer len dst granted woken)) :
    (system.send i buffer len dst granted woken).Sound ∧ Promised system (.send i buffer len dst granted woken) := by
  have transmitted := sound.request allowed
  have member : buffer ∈ system.held i := allowed.1
  unfold Promised IpcSystem.send
  dsimp only
  cases result : system.request i buffer len dst granted woken with
  | mk channel sent =>
    rw [result] at transmitted
    have frame := transmitted.frame
    cases sent with
    | false =>
      have failed := transmitted.failed rfl
      refine ⟨⟨failed.1,frame.1.trans sound.faultless,frame.2.le.trans sound.last⟩,?_,fun sent => absurd sent (by simp)⟩
      intro _
      refine ⟨member,?_,rfl⟩
      unfold IpcSystem.content
      rw [failed.2]
    | true =>
      refine ⟨⟨transmitted.queued rfl,frame.1.trans sound.faultless,frame.2.le.trans sound.last⟩,?_,?_⟩
      · exact fun failed => absurd failed (by simp)
      · exact fun _ directed => transmitted.alone rfl directed

theorem IpcSystem.Sound.received {channel : Channel ipc} {buffer src : Nat}
    (result : system.channel.ipcRx i granted = (channel,some (buffer,src)))
    (received : Received (if channel.type = .manyWriters then channel.last else i) i system.held system.accepted
      system.delivered channel buffer) (faultless : channel.faulted = false) (last : channel.last ≤ ipc.readersWriters) :
    (system.receive i granted).Sound := by
  obtain ⟨reader,at_i,kept⟩ := received.reader
  unfold IpcSystem.receive
  rw [result]
  dsimp only
  rw [@content_open _ {system with
    channel := channel
    held := Function.update system.held i (buffer :: system.held i)} i reader at_i]
  exact ⟨kept,faultless,last⟩

section OwnQueue
variable {reader : Slot ipc} {granted : Nat → Bool} {buffer : Nat} {rest : List Nat}

theorem ipcRx_empty (own : system.channel.type ≠ .manyWriters) (at_i : system.channel.slot i = some reader)
    (queue : reader.queue = []) : system.channel.ipcRx i granted = (system.channel,none) := by
  unfold ipcRx
  cases type : system.channel.type with
  | manyWriters => exact absurd type own
  | singleReaderWriter | manyReaders => simp [at_i,queue]

theorem ipcRx_first (own : system.channel.type ≠ .manyWriters) (at_i : system.channel.slot i = some reader)
    (queue : reader.queue = buffer :: rest) : system.channel.ipcRx i granted =
      (system.channel.setSlot i (some (Slot.modifyMemory buffer (ipc.tag 0) {reader with queue := rest})),
        some (buffer,0)) := by
  unfold ipcRx
  cases type : system.channel.type with
  | manyWriters => exact absurd type own
  | singleReaderWriter | manyReaders => simp [at_i,queue]

theorem IpcSystem.Sound.receiveOwn (sound : system.Sound) (own : system.channel.type ≠ .manyWriters)
    (at_i : system.channel.slot i = some reader) :
    (system.receive i granted).Sound ∧ ((system.channel.ipcRx i granted).2 = none → reader.queue = []) := by
  cases queue : reader.queue with
  | nil =>
    refine ⟨?_,fun _ => rfl⟩
    unfold IpcSystem.receive
    rw [ipcRx_empty own at_i queue]
    exact sound
  | cons buffer rest =>
    have rx := @ipcRx_first _ _ i reader granted buffer rest own at_i queue
    rw [rx]
    refine ⟨IpcSystem.Sound.received rx ?_ sound.faultless sound.last,fun none => absurd none (by simp)⟩
    have same : (system.channel.setSlot i (some (Slot.modifyMemory buffer (ipc.tag 0)
        {reader with queue := rest}))).type ≠ .manyWriters := own
    rw [if_neg same]
    exact sound.kept.receive at_i queue

end OwnQueue

theorem IpcSystem.Sound.receiveMany {reader : Slot ipc} {granted : Nat → Bool} (sound : system.Sound)
    (many : system.channel.type = .manyWriters) (at_0 : system.channel.slot 0 = some reader)
    (ready : Ready 0 granted ipc.readersWriters system.channel) :
    (system.receive 0 granted).Sound ∧ ((system.channel.ipcRx 0 granted).2 = none →
      ∀ j writer, 1 ≤ j → j ≤ ipc.readersWriters → system.channel.slot j = some writer → writer.queue = []) := by
  have rx : system.channel.ipcRx 0 granted = system.channel.ipcRxLoop 0 granted ipc.readersWriters := by
    unfold ipcRx
    rw [many]
  obtain ⟨empty,found⟩ := sound.kept.ipcRxLoop ipc.readersWriters at_0 ready
  obtain ⟨faulted,last,type⟩ := @ipcRxLoop_frame _ system.channel 0 granted ipc.readersWriters sound.last
  rw [← rx] at empty found faulted last type
  constructor
  · cases result : system.channel.ipcRx 0 granted with
    | mk channel message =>
      rw [result] at empty found faulted last type
      cases message with
      | none =>
        unfold IpcSystem.receive
        rw [result]
        refine ⟨?_,faulted.trans sound.faultless,last⟩
        change Kept channel.slot _ _ _
        rw [(empty rfl).2]
        exact sound.kept
      | some message =>
        apply IpcSystem.Sound.received result _ (faulted.trans sound.faultless) last
        rw [if_pos (type.trans many)]
        exact found message.1 message.2 rfl
  · intro none j writer positive below at_j
    apply firstPending_none sound.last (empty none).1 positive below _ writer at_j
    omega

theorem IpcSystem.Sound.receive {reader : Slot ipc} {granted : Nat → Bool} (sound : system.Sound)
    (reads : system.channel.isWriter i = false) (at_i : system.channel.slot i = some reader)
    (allowed : Allowed system (.receive i granted)) :
    (system.receive i granted).Sound ∧ Promised system (.receive i granted) := by
  unfold Promised
  cases type : system.channel.type with
  | manyWriters =>
    have first : i = 0 := by
      unfold isWriter at reads
      rw [type] at reads
      simpa using reads
    subst first
    obtain ⟨kept,empty⟩ := sound.receiveMany type at_i (allowed type)
    exact ⟨kept,fun _ _ _ => empty⟩
  | singleReaderWriter | manyReaders =>
    obtain ⟨kept,empty⟩ := @IpcSystem.Sound.receiveOwn _ _ i reader granted sound (by simp [type]) at_i
    refine ⟨kept,?_⟩
    intro other _ at_other none
    cases at_i.symm.trans at_other
    exact empty none

private theorem ipcStep_kept {input : IpcInput ipc} (sound : system.Sound) (allowed : Allowed system input) :
    (ipcStep input system).Sound ∧ Promised system input := by
  cases input with
  | openReader | openWriter =>
    refine ⟨?_,trivial⟩
    unfold ipcStep
    dsimp only
    split
    · exact sound
    next i _ =>
      split
      · exact sound.opens i
      · exact sound
  | close i => exact ⟨sound.closes i,trivial⟩
  | connect writerChannel writerIndex i =>
    obtain ⟨slot,faulted,last⟩ := ipcTxConnect_frame system.channel writerChannel writerIndex i
    refine ⟨⟨?_,faulted.trans sound.faultless,last.le.trans sound.last⟩,trivial⟩
    change Kept (system.channel.ipcTxConnect writerChannel writerIndex i).slot _ _ _
    rw [slot]
    exact sound.kept
  | alloc i size granted =>
    refine ⟨?_,trivial⟩
    unfold ipcStep
    dsimp only
    split
    · exact sound
    next slot at_i =>
      split
      · exact sound
      · split
        · exact sound
        next found =>
          exact ⟨sound.kept.setHeld ((sound.kept.sound i slot at_i).alloc found),sound.faultless,sound.last⟩
  | free i buffer =>
    refine ⟨?_,trivial⟩
    unfold ipcStep
    dsimp only
    split
    · exact sound
    next slot at_i =>
      exact ⟨sound.kept.setHeld ((sound.kept.sound i slot at_i).release allowed),sound.faultless,sound.last⟩
  | write i buffer content =>
    refine ⟨?_,trivial⟩
    unfold ipcStep
    dsimp only
    split
    · exact sound
    next slot at_i =>
      exact ⟨sound.kept.setSlot ((sound.kept.sound i slot at_i).write allowed _),sound.faultless,sound.last⟩
  | send i buffer len dst granted woken => exact sound.send allowed
  | receive i granted =>
    unfold ipcStep
    dsimp only
    by_cases refused : system.channel.isWriter i = true ∨ (system.channel.slot i).isNone = true
    case pos =>
      rw [if_pos refused]
      refine ⟨sound,?_⟩
      intro reader reads at_i
      rcases refused with writes | closed
      · exact absurd (writes.symm.trans reads) (by decide)
      · simp [at_i] at closed
    case neg =>
      rw [if_neg refused]
      rw [not_or,Bool.not_eq_true] at refused
      cases at_i : system.channel.slot i with
      | none => simp [at_i] at refused
      | some reader => exact sound.receive refused.1 at_i allowed

end Steps

theorem init_sound (ipc : Buffers) (type : IpcType) (index : Nat) : (IpcSystem.init ipc type index).Sound where
  kept := by
    constructor
    · intro i opened at_i
      cases at_i
    · exact fun _ _ => ⟨rfl,rfl,rfl⟩
  faultless := rfl
  last := ipc.some_others

/-- In a run whose operations are all allowed, on either platform and with a channel of any type, the buffers are in one
place and the logs agree in every state, and every operation keeps its promise. -/
theorem messages_delivered (platform : Platform) (type : IpcType) (index : Nat)
    (inputs : List (IpcInput platform.buffers))
    (allowed : Steps ipcStep Allowed inputs (IpcSystem.init platform.buffers type index)) :
    (run ipcStep inputs (IpcSystem.init platform.buffers type index)).Sound ∧
      Steps ipcStep Promised inputs (IpcSystem.init platform.buffers type index) := by
  have initial := init_sound platform.buffers type index
  constructor
  · exact run_invariant ipcStep (fun system input kept step => (@ipcStep_kept _ system input kept step).1) initial allowed
  · exact steps_kept ipcStep (fun system input kept step => @ipcStep_kept _ system input kept step) initial allowed

def oneMessage : List (IpcInput Platform.linux.buffers) :=
  [.openReader true,.openWriter true,.alloc 1 0 true,.send 1 0 4 0 (fun _ => true) (fun _ => 0),.receive 0 fun _ => true]

theorem messages_delivered_one :
    (run ipcStep oneMessage (IpcSystem.init Platform.linux.buffers .manyWriters 0)).Sound ∧
      Steps ipcStep Promised oneMessage (IpcSystem.init Platform.linux.buffers .manyWriters 0) := by
  apply messages_delivered
  refine ⟨trivial,trivial,trivial,?_,?_,trivial⟩
  · refine ⟨by decide,fun _ => Int.le_refl 0,rfl,?_⟩
    intro serial mapping
    cases mapping
  · intro _ j writer buffer rest reader first _ _ at_0
    let system := run ipcStep (oneMessage.take 4) (IpcSystem.init Platform.linux.buffers .manyWriters 0)
    have pool : (system.channel.slot 0).map (fun slot => (Pool.alloc slot.pool).isSome) = some true := by decide
    have opened : system.channel.slot 0 = some reader := at_0
    rw [opened] at pool
    exact Option.some.inj pool

def slowReader (messages : Nat) : List (IpcInput linux) :=
  [.openReader true,.openWriter true] ++ (List.replicate messages
    [.alloc 1 0 true,.send 1 0 4 0 (fun _ => true) (fun _ => 0),.receive 0 fun _ => true]).flatten

/-- The message that finds the pool of its reader empty is freed. -/
theorem slow_reader_loses : ¬(run ipcStep (slowReader 33) (IpcSystem.init linux .manyWriters 0)).Sound := by
  intro sound
  have logs : ((run ipcStep (slowReader 33) (IpcSystem.init linux .manyWriters 0)).accepted 1).length = 33 ∧
      ((run ipcStep (slowReader 33) (IpcSystem.init linux .manyWriters 0)).delivered 1).length = 32 ∧
      ((run ipcStep (slowReader 33) (IpcSystem.init linux .manyWriters 0)).channel.slot 1).map (fun slot => slot.queue) =
        some [] := by
    decide +kernel
  obtain ⟨sent,got,queue⟩ := logs
  cases at_1 : (run ipcStep (slowReader 33) (IpcSystem.init linux .manyWriters 0)).channel.slot 1 with
  | none =>
    rw [at_1] at queue
    cases queue
  | some writer =>
    rw [at_1] at queue
    obtain ⟨past,pending,all,done,rest⟩ := (sound.kept.sound 1 writer at_1).logged
    have before := done.length_eq
    have after := rest.length_eq
    have empty : writer.queue = [] := Option.some.inj queue
    rw [empty,List.length_nil] at after
    rw [all,List.length_append] at sent
    omega

end Genavb.Ipc
