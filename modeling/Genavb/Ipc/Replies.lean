import Genavb.Ipc.Delivery
import Genavb.Ipc.Routes

/-! Replies reach the reader of the sender of a request. -/
namespace Genavb.Ipc
open Support Option
open Function (update update_self update_of_ne)

theorem slotAddress_index {c i : Nat} (below : i < 256) : slotAddress c i &&& 0xff = i := by
  apply Nat.eq_of_testBit_eq
  intro bit
  have mask : Nat.testBit 0xff bit = decide (bit < 8) := Nat.testBit_two_pow_sub_one 8 bit
  rw [Nat.testBit_and,slotAddress,Nat.testBit_or,Nat.testBit_shiftLeft,mask]
  by_cases low : bit < 8
  case pos => simp [low]
  case neg =>
    have high : i < 2 ^ bit := below.trans_le (Nat.pow_le_pow_right Nat.two_pos (Nat.not_lt.mp low))
    simp [low,Nat.testBit_lt_two_pow high]

private theorem slotAddress_channel {c i : Nat} (below : i < 256) : slotAddress c i >>> 8 = c := by
  rw [slotAddress,Nat.shiftRight_or_distrib,Nat.shiftLeft_shiftRight,Nat.shiftRight_eq_div_pow,
    Nat.div_eq_of_lt below,Nat.zero_or]

theorem Linux.forget_cases (serial : Nat) (dstMap : Nat → Nat × Option Nat) :
    (Linux.forget serial dstMap = dstMap ∧ ∀ k, k < 9 → (dstMap k).2 ≠ some serial) ∨
      ∃ i, (dstMap i).2 = some serial ∧ Linux.forget serial dstMap = update dstMap i (0,none) := by
  unfold Linux.forget
  cases first : (List.range 9).find? fun i => (dstMap i).2 == some serial with
  | none =>
    rw [List.find?_eq_none] at first
    refine .inl ⟨rfl,?_⟩
    intro k below leads
    exact first k (List.mem_range.mpr below) (beq_iff_eq.mpr leads)
  | some i =>
    have leads := List.find?_some first
    exact .inr ⟨i,beq_iff_eq.mp leads,rfl⟩

namespace Platform

theorem readersWriters_le (platform : Platform) : platform.buffers.readersWriters ≤ 8 := by
  cases platform with
  | linux => exact Nat.le_refl 8
  | rtos => decide

private theorem forget_kept (platform : Platform) {serial old k : Nat} {dstMap : Nat → Nat × Option Nat}
    (found : (platform.buffers.forget serial dstMap k).2 = some old) : platform.buffers.forget serial dstMap k = dstMap k := by
  cases platform with
  | rtos => rfl
  | linux =>
    change (Linux.forget serial dstMap k).2 = some old at found
    change Linux.forget serial dstMap k = dstMap k
    obtain ⟨same,_⟩ | ⟨i,_,same⟩ := Linux.forget_cases serial dstMap
    · rw [same]
    · rw [same] at found ⊢
      by_cases here : k = i
      case pos =>
        rw [here,update_self] at found
        cases found
      case neg => exact update_of_ne here _ _

theorem Clears.cleared {platform : Platform} {serial : Nat} {dstMap : Nat → Nat × Option Nat}
    (clears : platform.Clears serial dstMap)
    (inside : ∀ k, (dstMap k).2 = some serial → k ≤ platform.buffers.readersWriters) (k : Nat) :
    (platform.buffers.forget serial dstMap k).2 ≠ some serial := by
  cases platform with
  | rtos => exact clears k
  | linux =>
    intro found
    have before := found
    rw [forget_kept .linux found] at before
    change (Linux.forget serial dstMap k).2 = some serial at found
    obtain ⟨_,missing⟩ | ⟨i,leads,same⟩ := Linux.forget_cases serial dstMap
    · exact missing k (Nat.lt_succ_of_le (inside k before)) before
    · rw [same,clears k i before leads,update_self] at found
      cases found

end Platform

variable {ipc : Buffers}

namespace Channel

theorem ipcInit_ends (channel : Channel ipc) (i : Nat) : (channel.ipcInit i).ends = channel.ends.opens i := by
  have serials : (channel.ipcInit i).serial = update channel.serial i (some channel.opened) := by
    funext j
    change (update channel.slot i _ j).map Slot.serial = _
    by_cases here : j = i
    case pos => rw [here,update_self,update_self,map_some]
    case neg =>
      rw [update_of_ne here,update_of_ne here]
      rfl
  simp only [ends,Ends.opens,serials]
  rfl

private theorem setSlot_none (channel : Channel ipc) (i : Nat) : (channel.setSlot i none).serial = update channel.serial i none := by
  funext j
  change (update channel.slot i none j).map Slot.serial = _
  by_cases here : j = i
  case pos => rw [here,update_self,update_self,map_none]
  case neg =>
    rw [update_of_ne here,update_of_ne here]
    rfl

/-- `dst_map` after the slot with this address is closed. -/
def left (i serial : Nat) (channel : Channel ipc) : Nat → Nat × Option Nat :=
  if channel.type = .manyReaders ∧ !channel.isWriter i then ipc.forget serial channel.dstMap else channel.dstMap

theorem ipcExit_ends {channel : Channel ipc} {i serial : Nat} (at_i : channel.serial i = some serial) :
    (channel.ipcExit i).ends = channel.ends.closes i (channel.left i serial) := by
  obtain ⟨slot,open_i,rfl⟩ := map_eq_some_iff.mp at_i
  unfold ipcExit left
  rw [open_i]
  dsimp only
  split
  · simp only [ends,Ends.closes,setSlot_none]
    rfl
  · simp only [ends,Ends.closes,setSlot_none]
    rfl

theorem ipcTxConnect_ends {channel : Channel ipc} {w i j serial : Nat} (readers : channel.type = .manyReaders)
    (reader : channel.isWriter j = false) (at_j : channel.serial j = some serial) :
    (channel.ipcTxConnect w i j).ends = channel.ends.connects i (slotAddress w i,some serial) := by
  obtain ⟨slot,open_j,rfl⟩ := map_eq_some_iff.mp at_j
  unfold ipcTxConnect
  rw [open_j]
  dsimp only
  rw [if_pos ⟨readers,by rw [reader]; rfl⟩]
  rfl

private theorem isWriter_readers {channel : Channel ipc} (readers : channel.type = .manyReaders) (i : Nat) :
    channel.isWriter i = false ↔ i ≠ 0 := by
  unfold isWriter
  rw [readers]
  exact beq_eq_false_iff_ne

private theorem isWriter_writers {channel : Channel ipc} (writers : channel.type = .manyWriters) (i : Nat) :
    channel.isWriter i = true ↔ i ≠ 0 := by
  unfold isWriter
  rw [writers]
  exact bne_iff_ne

theorem ipcTxConnect_refused {channel : Channel ipc} {w i j : Nat}
    (refused : ¬(channel.type = .manyReaders ∧ channel.isWriter j = false ∧ (channel.slot j).isSome = true)) :
    channel.ipcTxConnect w i j = channel := by
  unfold ipcTxConnect
  split
  · rfl
  next slot here =>
    rw [here] at refused
    refine if_neg fun reads => refused ⟨reads.1,?_,rfl⟩
    simpa using reads.2

theorem slotAt_serial {channel : Channel ipc} {serial j : Nat} (found : channel.slotAt serial = some j) :
    channel.serial j = some serial := by
  have leads := List.find?_some found
  obtain ⟨slot,here,same⟩ := (any_eq_true _ _).mp leads
  change (channel.slot j).map Slot.serial = some serial
  rw [here,map_some,eq_of_beq same]

theorem ipcTx_one {channel : Channel ipc} {i buffer len dst : Nat} {granted : Nat → Bool} {woken : Nat → Int}
    (readers : channel.type = .manyReaders) (one : dst ≠ IPC_DST_ALL)
    (accepted : (channel.ipcTx i buffer len dst granted woken).2 = true) : ∃ writer j serial,
      channel.slot i = some writer ∧ channel.dstMap (dst &&& 0xff) = (dst,some serial) ∧
        channel.serial j = some serial ∧ channel.ipcTx i buffer len dst granted woken =
          channel.ipcTxTo i j buffer len (writer.memory buffer) granted woken := by
  unfold ipcTx at accepted ⊢
  split at accepted
  · cases accepted
  next writer here =>
    rw [readers] at accepted ⊢
    dsimp only at accepted ⊢
    rw [if_neg one] at accepted ⊢
    split at accepted
    · cases accepted
    next inside =>
      split at accepted
      · cases accepted
      next same =>
        split at accepted
        · cases accepted
        next serial leads =>
          split at accepted
          · cases accepted
          next j at_j =>
            refine ⟨writer,j,serial,here,Prod.ext (not_not.mp same) leads,slotAt_serial at_j,?_⟩
            rw [if_neg inside,if_neg same]

theorem free_slot {channel : Channel ipc} {i : Nat} (found : channel.readerSlot = some i ∨ channel.writerSlot = some i) :
    channel.serial i = none ∧ i ≤ ipc.readersWriters := by
  have positive := ipc.some_others
  have searched : channel.ipcFindSlot = some i → channel.serial i = none ∧ i ≤ ipc.readersWriters := by
    intro first
    have member := List.mem_of_find?_eq_some first
    have free := List.find?_some first
    rw [others,List.mem_range'_1] at member
    refine ⟨?_,by omega⟩
    rw [serial,isNone_iff_eq_none.mp free,map_none]
  have fixed : ∀ j, j ≤ ipc.readersWriters → (if (channel.slot j).isNone then some j else none) = some i →
      channel.serial i = none ∧ i ≤ ipc.readersWriters := by
    intro j below first
    split at first
    next free =>
      cases first
      exact ⟨by rw [serial,isNone_iff_eq_none.mp free,map_none],below⟩
    · cases first
  obtain found | found := found
  · unfold readerSlot at found
    split at found
    · exact searched found
    · exact fixed 0 (Nat.zero_le _) found
    · exact fixed 0 (Nat.zero_le _) found
  · unfold writerSlot at found
    split at found
    · exact fixed 0 (Nat.zero_le _) found
    · exact fixed 1 positive found
    · exact searched found

theorem ipcRxLoop_from {i addr src : Nat} {granted : Nat → Bool} (steps : Nat) (channel : Channel ipc)
    (found : (channel.ipcRxLoop i granted steps).2 = some (addr,src)) :
    src = slotAddress channel.index (channel.ipcRxLoop i granted steps).1.last ∧
      (channel.ipcRxLoop i granted steps).1.last ≤ ipc.readersWriters := by
  induction steps generalizing channel with
  | zero => cases found
  | succ steps ih =>
    unfold ipcRxLoop at found ⊢
    dsimp only at found ⊢
    split at found
    · exact ih {channel with last := channel.nextLast} found
    next writer here =>
      split at found
      · exact ih {channel with last := channel.nextLast} found
      next buffer rest queue =>
        split at found
        · exact ih _ found
        next copied =>
          cases found
          exact ⟨rfl,nextLast_pos.2⟩

end Channel

namespace Network

def ends (net : Network ipc) : Nat → Ends := fun c => (net.channel c).ends

structure Sound (net : Network ipc) : Prop where
  routes : Routes ipc.readersWriters net.ends net.connector
  requests : ∀ request ∈ net.requests, request.src = slotAddress request.sender.channel request.sender.slot ∧
    request.sender.slot ≤ ipc.readersWriters

theorem init_sound (types : Nat → IpcType) : (Network.init ipc types).Sound where
  routes := ⟨fun _ => rfl,nofun,nofun,nofun⟩
  requests := nofun

private theorem system_ends {net next : Network ipc} {c : Nat} {system : IpcSystem ipc}
    (changed : next.system = update net.system c system) : next.ends = update net.ends c system.channel.ends := by
  funext d
  change (next.system d).channel.ends = _
  rw [changed]
  by_cases here : d = c
  case pos => rw [here,update_self,update_self]
  case neg =>
    rw [update_of_ne here,update_of_ne here]
    rfl

theorem received_from {net : Network ipc} (sound : net.Sound) {c : Nat} {input : IpcInput ipc} {request : Request}
    (member : request ∈ net.received c input) : request.src = slotAddress request.sender.channel request.sender.slot ∧
      request.sender.slot ≤ ipc.readersWriters := by
  unfold received at member
  split at member
  next i granted =>
    dsimp only at member
    split at member
    · cases member
    next reads =>
      push Not at reads
      split at member
      · cases member
      next channel addr src result =>
        have many : (net.channel c).ipcRx i granted = (net.channel c).ipcRxLoop i granted ipc.readersWriters := by
          unfold Channel.ipcRx
          rw [reads.2.2]
        rw [many] at result
        have index : (net.channel c).index = c := sound.routes.index c
        have source := Channel.ipcRxLoop_from ipc.readersWriters (net.channel c) (congrArg Prod.snd result)
        rw [result,index] at source
        rw [mem_toList,map_eq_some_iff] at member
        obtain ⟨serial,_,rfl⟩ := member
        exact source
  · cases member

end Network

section Steps
variable {platform : Platform} {net : Network platform.buffers}

theorem Routes.operate {c : Nat} {input : IpcInput platform.buffers}
    (routes : Routes platform.buffers.readersWriters net.ends net.connector)
    (own : ∀ w i j, input ≠ .connect w i j) (clean : Clean platform net (.operate c input)) :
    Routes platform.buffers.readersWriters (update net.ends c (ipcStep input (net.system c)).channel.ends) net.connector := by
  have kept : ∀ system : IpcSystem platform.buffers, system.channel.ends = (net.system c).channel.ends →
      Routes platform.buffers.readersWriters (update net.ends c system.channel.ends) net.connector := by
    intro system same
    have still : update net.ends c system.channel.ends = net.ends := by
      rw [same]
      exact Function.update_eq_self c net.ends
    rwa [still]
  have opened : ∀ i, (net.channel c).readerSlot = some i ∨ (net.channel c).writerSlot = some i →
      Routes platform.buffers.readersWriters (update net.ends c ((net.channel c).ipcInit i).ends) net.connector := by
    intro i found
    have free := Channel.free_slot found
    rw [Channel.ipcInit_ends]
    exact routes.opens free.1 free.2
  have data : input.IsData →
      Routes platform.buffers.readersWriters (update net.ends c (ipcStep input (net.system c)).channel.ends) net.connector :=
    fun data => kept _ (ipcStep_ends data _)
  cases input with
  | connect w i j => exact absurd rfl (own w i j)
  | openReader granted =>
    unfold ipcStep
    dsimp only
    split
    · exact kept _ rfl
    next i found =>
      split
      · exact opened i (.inl found)
      · exact kept _ rfl
  | openWriter granted =>
    unfold ipcStep
    dsimp only
    split
    · exact kept _ rfl
    next i found =>
      split
      · exact opened i (.inr found)
      · exact kept _ rfl
  | close i =>
    change Routes platform.buffers.readersWriters (update net.ends c ((net.channel c).ipcExit i).ends) net.connector
    cases at_i : (net.channel c).serial i with
    | none =>
      refine kept (IpcSystem.clear i ((net.channel c).ipcExit i) (net.system c)) ?_
      have closed : (net.channel c).slot i = none := map_eq_none_iff.mp at_i
      change ((net.channel c).ipcExit i).ends = _
      unfold Channel.ipcExit
      rw [closed]
      rfl
    | some serial =>
      rw [Channel.ipcExit_ends at_i]
      have ⟨readers,writers⟩ := clean serial at_i
      refine routes.closes at_i ?_ ?_ ?_
      · intro k old found
        unfold Channel.left at found ⊢
        by_cases reads : (net.channel c).type = .manyReaders ∧ !(net.channel c).isWriter i
        case pos =>
          rw [if_pos reads] at found ⊢
          exact platform.forget_kept found
        case neg => rw [if_neg reads]; rfl
      · intro type positive k
        have reads := (Channel.isWriter_readers type i).mpr positive
        unfold Channel.left
        rw [if_pos ⟨type,by rw [reads]; rfl⟩]
        refine (readers type reads).cleared ?_ k
        intro l leads
        obtain ⟨_,_,_,_,_,_,at_l⟩ := (routes.route leads).writer
        exact (routes.inside at_l).1
      · intro type positive
        exact writers type ((Channel.isWriter_writers type i).mpr positive)
  | alloc | free | write | send | receive => exact data trivial

namespace Network

theorem Sound.operate {c : Nat} {input : IpcInput platform.buffers} (sound : net.Sound)
    (own : ∀ w i j, input ≠ .connect w i j) (clean : Clean platform net (.operate c input)) :
    (net.operate c input).Sound where
  routes := by
    rw [system_ends rfl]
    exact sound.routes.operate own clean
  requests := by
    intro request member
    obtain before | logged := List.mem_append.mp member
    · exact sound.requests request before
    · exact received_from sound logged

theorem Sound.connect (sound : net.Sound) (w i r j : Nat) : (net.connect w i r j).Sound := by
  unfold Network.connect
  split
  · exact sound
  next writer at_i =>
    split
    · exact sound
    next writes =>
      push Not at writes
      have index : (net.channel w).index = w := sound.routes.index w
      dsimp only
      split
      next reads =>
        obtain ⟨readers,reader,open_j⟩ := reads
        have reads : (net.channel r).isWriter j = false := by simpa using reader
        obtain ⟨slot,at_j⟩ := isSome_iff_exists.mp open_j
        have serial : (net.channel r).serial j = some slot.serial := by
          change ((net.channel r).slot j).map Slot.serial = _
          rw [at_j,map_some]
        refine ⟨?_,sound.requests⟩
        rw [system_ends rfl]
        change Routes _ (update net.ends r ((net.channel r).ipcTxConnect (net.channel w).index i j).ends) _
        rw [index,Channel.ipcTxConnect_ends readers reads serial]
        exact sound.routes.connects readers ((Channel.isWriter_readers readers j).mp reads) serial writes.1
          ((Channel.isWriter_writers writes.1 i).mp (by simpa using writes.2)) at_i
      next refused =>
        refine ⟨?_,sound.requests⟩
        rw [system_ends rfl]
        change Routes _ (update net.ends r ((net.channel r).ipcTxConnect (net.channel w).index i j).ends) _
        rw [Channel.ipcTxConnect_refused (by simpa using refused)]
        have still : update net.ends r (net.channel r).ends = net.ends := Function.update_eq_self r net.ends
        rw [still]
        exact sound.routes

theorem Sound.step {input : NetworkInput platform.buffers} (sound : net.Sound) (clean : Clean platform net input) :
    (networkStep input net).Sound := by
  cases input with
  | connect w i r j => exact sound.connect w i r j
  | reply request c i buffer len dst granted woken => exact sound.operate nofun trivial
  | operate c input =>
    cases input with
    | connect w i j => exact sound
    | openReader | openWriter | close | alloc | free | write | send
    | receive => exact sound.operate nofun clean

theorem Sound.routed (sound : net.Sound) : Routed net := by
  intro r k serial found
  have route := sound.routes.route found
  obtain ⟨j,positive,at_j⟩ := route.reader
  obtain ⟨w,writer,made,address,_,_,at_k⟩ := route.writer
  exact ⟨⟨j,(Channel.isWriter_readers route.readers j).mpr positive,at_j⟩,w,writer,made,address,at_k⟩

end Network

theorem request_granted {ipc : Buffers} {system : IpcSystem ipc} {i buffer len dst : Nat} {granted : Nat → Bool}
    {woken : Nat → Int} (accepted : (system.request i buffer len dst granted woken).2 = true) :
    system.request i buffer len dst granted woken = system.channel.ipcTx i buffer
      (ipc.sends len (system.content i buffer)) (ipc.destination dst (system.content i buffer)) granted woken := by
  unfold IpcSystem.request at accepted ⊢
  dsimp only at accepted ⊢
  split at accepted
  · cases accepted
  next granted => exact if_neg granted

theorem Network.Sound.answered {input : NetworkInput platform.buffers} (sound : net.Sound)
    (clean : Clean platform net input) : Answered net input := by
  cases input with
  | operate | connect => trivial
  | reply request c i buffer len dst granted woken =>
    intro member readers sent accepted
    have below := (sound.requests request member).2.trans platform.readersWriters_le
    have source := (sound.requests request member).1
    have slot : request.src &&& 0xff = request.sender.slot := by
      rw [source]
      exact slotAddress_index (by omega)
    have one : request.src ≠ IPC_DST_ALL := by
      intro all
      rw [all] at slot
      change 255 = _ at slot
      omega
    have result := request_granted accepted
    rw [result] at accepted ⊢
    rw [sent] at accepted ⊢
    obtain ⟨writer,j,serial,at_i,entry,at_j,same⟩ := Channel.ipcTx_one readers one accepted
    rw [slot] at entry
    rw [same,content_open at_i]
    refine ⟨j,serial,rfl,at_j,entry,?_⟩
    obtain ⟨w,holder,made,address,_,_,at_k⟩ := (sound.routes.route (congrArg Prod.snd entry)).writer
    have own : w = request.sender.channel := by
      have same : slotAddress w request.sender.slot = request.src := address.symm.trans (congrArg Prod.fst entry)
      rw [source] at same
      have channels := congrArg (· >>> 8) same
      rwa [slotAddress_channel (by omega),slotAddress_channel (by omega)] at channels
    subst own
    rw [made,clean member sent holder at_k]

theorem replies_routed (platform : Platform) (types : Nat → IpcType) (inputs : List (NetworkInput platform.buffers))
    (clean : Steps networkStep (Clean platform) inputs (Network.init platform.buffers types)) :
    Routed (run networkStep inputs (Network.init platform.buffers types)) ∧
      Steps networkStep Answered inputs (Network.init platform.buffers types) := by
  have start : (Network.init platform.buffers types).Sound := Network.init_sound types
  constructor
  · exact (run_invariant networkStep (fun net input sound clean => Network.Sound.step sound clean) start clean).routed
  · exact steps_kept networkStep (fun net input sound clean => ⟨Network.Sound.step sound clean,sound.answered clean⟩)
      start clean

end Steps

/-- An application and a server: requests go through channel 0, replies through channel 1. -/
def typesOfTwo (c : Nat) : IpcType := if c = 0 then .manyWriters else .manyReaders

def oneReply : List (NetworkInput Platform.linux.buffers) :=
  let granted := fun _ => true
  let woken := fun _ => 0
  [.operate 0 (.openReader true),.operate 1 (.openWriter true),.operate 0 (.openWriter true),.operate 1 (.openReader true),
    .connect 0 1 1 1,.operate 0 (.alloc 1 16 true),.operate 0 (.send 1 0 16 0 granted woken),
    .operate 0 (.receive 0 granted),.operate 1 (.alloc 0 16 true),.reply ⟨1,⟨0,1,1⟩⟩ 1 0 0 16 1 granted woken]

theorem replies_routed_one :
    (Routed (run networkStep oneReply (Network.init Platform.linux.buffers typesOfTwo)) ∧
      Steps networkStep Answered oneReply (Network.init Platform.linux.buffers typesOfTwo)) ∧
    (run networkStep oneReply (Network.init Platform.linux.buffers typesOfTwo)).requests = [⟨1,⟨0,1,1⟩⟩] ∧
    (((run networkStep oneReply (Network.init Platform.linux.buffers typesOfTwo)).channel 1).slot 1).map
      (fun reader => reader.queue) = some [0] := by
  refine ⟨?_,by decide +kernel,by decide +kernel⟩
  apply replies_routed
  refine ⟨trivial,trivial,trivial,trivial,trivial,trivial,trivial,trivial,trivial,?_,trivial⟩
  intro _ _ serial found
  have sender : ((run networkStep (oneReply.take 9) (Network.init Platform.linux.buffers typesOfTwo)).channel 0).serial 1 =
      some 1 := by
    decide +kernel
  exact Option.some.inj (found.symm.trans sender)

def sharedReader (platform : Platform) : List (NetworkInput platform.buffers) :=
  [.operate 0 (.openWriter true),.operate 0 (.openWriter true),.operate 1 (.openReader true),.connect 0 1 1 1,
    .connect 0 2 1 1,.operate 1 (.close 1)]

private theorem sharedReader_closed (platform : Platform) :
    ((run networkStep (sharedReader platform) (Network.init platform.buffers typesOfTwo)).channel 1).dstMap 2 = (2,some 0) ∧
      ∀ j, ((run networkStep (sharedReader platform) (Network.init platform.buffers typesOfTwo)).channel 1).serial j = none := by
  cases platform with
  | linux | rtos =>
    refine ⟨by decide +kernel,?_⟩
    rintro (_ | _ | j) <;> rfl

theorem sharedReader_dangles :
    ¬Routed (run networkStep (sharedReader .linux) (Network.init Platform.linux.buffers typesOfTwo)) ∧
      ¬Routed (run networkStep (sharedReader .rtos) (Network.init Platform.rtos.buffers typesOfTwo)) := by
  constructor
  · intro routed
    obtain ⟨leads,closed⟩ := sharedReader_closed .linux
    obtain ⟨j,_,found⟩ := (routed 1 2 0 (congrArg Prod.snd leads)).1
    exact absurd ((closed j).symm.trans found) nofun
  · intro routed
    obtain ⟨leads,closed⟩ := sharedReader_closed .rtos
    obtain ⟨j,_,found⟩ := (routed 1 2 0 (congrArg Prod.snd leads)).1
    exact absurd ((closed j).symm.trans found) nofun

end Genavb.Ipc
