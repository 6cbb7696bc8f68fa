import Genavb.Ipc.Channel
import Genavb.Support.ListWalk

/-! The buffers and the queue of a slot against what its application holds and what has been sent. -/
namespace Genavb.Ipc
open Support List Function

variable {ipc : Buffers}

def Carries (entry : Nat × ipc.Message) (content : ipc.Content) : Prop := ipc.message entry.1 content = entry.2

/-- A queued content, which `ipc_rx` can copy to the end of the message. -/
structure Keeps (entry : Nat × ipc.Message) (content : ipc.Content) : Prop where
  carries : Carries entry content
  bounded : entry.1 ≤ ipc.copied content
  fits : ipc.overruns (ipc.copied content) = false

/-- The messages accepted for a queue are those delivered from it, followed by those that are queued. -/
def Logged (slot : Slot ipc) (accepted : List (Nat × ipc.Message)) (delivered : List ipc.Content) : Prop :=
  ∃ past pending, accepted = past ++ pending ∧ List.Forall₂ Carries past delivered ∧
    List.Forall₂ (fun entry buffer => Keeps entry (slot.memory buffer)) pending slot.queue

structure Slot.Sound (slot : Slot ipc) (held : List Nat) (accepted : List (Nat × ipc.Message))
    (delivered : List ipc.Content) : Prop where
  uses : ipc.Uses slot.pool (held ++ slot.queue)
  logged : Logged slot accepted delivered
  intact : slot.overrun = false

section Slots
variable {slot after : Slot ipc} {held : List Nat} {accepted : List (Nat × ipc.Message)} {delivered : List ipc.Content}
  {buffer len size : Nat} {granted : Bool} {source : ipc.Content} {woken : Int}

theorem Slot.Sound.apart (sound : slot.Sound held accepted delivered) (member : buffer ∈ held) :
    buffer ∉ slot.queue := by
  intro queued
  exact (nodup_append.mp (ipc.uses_nodup sound.uses)).2.2 buffer member buffer queued rfl

section
variable (logged : Logged slot accepted delivered)
include logged

theorem Logged.congr (queue : after.queue = slot.queue)
    (memory : ∀ buffer ∈ slot.queue, after.memory buffer = slot.memory buffer) : Logged after accepted delivered := by
  obtain ⟨past,pending,all,done,rest⟩ := logged
  refine ⟨past,pending,all,done,?_⟩
  rw [queue]
  apply forall₂_imp_mem rest
  intro entry buffer member kept
  rw [memory buffer member]
  exact kept

theorem Logged.enqueue {entry : Nat × ipc.Message} (queue : after.queue = slot.queue ++ [buffer])
    (memory : ∀ buffer ∈ slot.queue, after.memory buffer = slot.memory buffer)
    (kept : Keeps entry (after.memory buffer)) : Logged after (accepted ++ [entry]) delivered := by
  obtain ⟨past,pending,rfl,done,rest⟩ := logged
  refine ⟨past,pending ++ [entry],append_assoc _ _ _,done,?_⟩
  rw [queue]
  apply rel_append
  · apply forall₂_imp_mem rest
    intro entry buffer member kept
    rw [memory buffer member]
    exact kept
  · exact .cons kept .nil

theorem Logged.dequeue {content : ipc.Content} {rest : List Nat}
    (queue : slot.queue = buffer :: rest) (left : after.queue = rest)
    (memory : ∀ buffer ∈ rest, after.memory buffer = slot.memory buffer)
    (carries : ∀ entry, Keeps entry (slot.memory buffer) → Carries entry content) :
    Logged after accepted (delivered ++ [content]) := by
  obtain ⟨past,pending,rfl,done,links⟩ := logged
  rw [queue] at links
  cases links with
  | @cons entry _ pending _ kept links =>
    refine ⟨past ++ [entry],pending,by simp,?_,?_⟩
    · exact rel_append done (.cons (carries entry kept) .nil)
    · rw [left]
      apply forall₂_imp_mem links
      intro entry buffer member kept
      rw [memory buffer member]
      exact kept

end

section
variable (sound : slot.Sound held accepted delivered)
include sound

theorem Slot.Sound.alloc {pool : ipc.Pool}
    (found : ipc.alloc granted size slot.pool = some (buffer,pool)) :
    Slot.Sound {slot with pool := pool} (buffer :: held) accepted delivered where
  uses := ipc.uses_alloc sound.uses found
  logged := sound.logged.congr rfl fun _ _ => rfl
  intact := sound.intact

theorem Slot.Sound.release (member : buffer ∈ held) :
    (slot.release buffer).Sound (held.erase buffer) accepted delivered where
  uses := by
    have freed := ipc.uses_free sound.uses (mem_append_left slot.queue member)
    rw [erase_append_left slot.queue member] at freed
    exact freed
  logged := sound.logged.congr rfl fun _ _ => rfl
  intact := sound.intact

theorem Slot.Sound.write (member : buffer ∈ held)
    (f : ipc.Content → ipc.Content) : (slot.modifyMemory buffer f).Sound held accepted delivered where
  uses := sound.uses
  logged := by
    apply Logged.congr sound.logged
    · rfl
    · intro other queued
      apply update_of_ne
      rintro rfl
      exact sound.apart member queued
  intact := sound.intact

theorem Slot.Sound.ipcCopy
    (found : slot.ipcCopy granted len source = some (buffer,after)) (fits : ipc.overruns len = false) :
    after.Sound (buffer :: held) accepted delivered ∧
      ∃ old, after.memory buffer = ipc.copy len source old ∧ after.queue = slot.queue := by
  unfold Slot.ipcCopy at found
  split at found
  · cases found
  next fresh pool granted =>
    cases found
    have uses := ipc.uses_alloc sound.uses granted
    have unused : buffer ∉ slot.queue := by
      intro queued
      exact (nodup_cons.mp (ipc.uses_nodup uses)).1 (mem_append_right held queued)
    refine ⟨⟨uses,?_,?_⟩,slot.memory buffer,update_self _ _ _,rfl⟩
    · apply Logged.congr sound.logged
      · rfl
      · intro other queued
        apply update_of_ne
        rintro rfl
        exact unused queued
    · change (slot.overrun || ipc.overruns len) = false
      rw [sound.intact,fits]
      rfl

theorem Slot.Sound.enqueue {entry : Nat × ipc.Message}
    (member : buffer ∈ held) (kept : Keeps entry (slot.memory buffer)) :
    Slot.Sound {slot with queue := slot.queue ++ [buffer]} (held.erase buffer) (accepted ++ [entry]) delivered where
  uses := by
    apply ipc.uses_perm sound.uses
    have front : (held ++ slot.queue).Perm (buffer :: (held.erase buffer ++ slot.queue)) :=
      (perm_cons_erase member).append_right slot.queue
    have back : (buffer :: (held.erase buffer ++ slot.queue)).Perm (held.erase buffer ++ (slot.queue ++ [buffer])) := by
      rw [← append_assoc]
      exact (perm_append_singleton buffer _).symm
    exact front.trans back
  logged := sound.logged.enqueue rfl (fun _ _ => rfl) kept
  intact := sound.intact

theorem Slot.Sound.receive {rest : List Nat}
    (queue : slot.queue = buffer :: rest) (tag : Nat) :
    (Slot.modifyMemory buffer (ipc.tag tag) {slot with queue := rest}).Sound (buffer :: held) accepted
      (delivered ++ [ipc.tag tag (slot.memory buffer)]) where
  uses := by
    have uses := sound.uses
    rw [queue] at uses
    exact ipc.uses_perm uses perm_middle
  logged := by
    apply sound.logged.dequeue queue rfl
    · intro other later
      have uses := sound.uses
      rw [queue] at uses
      have distinct := ipc.uses_nodup uses
      apply update_of_ne
      rintro rfl
      exact (nodup_cons.mp (nodup_append.mp distinct).2.1).1 later
    · intro entry kept
      exact (ipc.message_tag).trans kept.carries
  intact := sound.intact

theorem Slot.Sound.forward {rest : List Nat} {content : ipc.Content}
    (queue : slot.queue = buffer :: rest)
    (carries : ∀ len ≤ ipc.copied (slot.memory buffer), ipc.message len content = ipc.message len (slot.memory buffer)) :
    (Slot.release buffer {slot with queue := rest}).Sound held accepted (delivered ++ [content]) where
  uses := by
    have uses := sound.uses
    rw [queue] at uses
    have distinct := ipc.uses_nodup uses
    have freed := ipc.uses_free uses (mem_append_right held mem_cons_self)
    have outside : buffer ∉ held := by
      intro member
      exact (nodup_append.mp distinct).2.2 buffer member buffer mem_cons_self rfl
    rw [erase_append_right _ outside,erase_cons_head] at freed
    exact freed
  logged := by
    apply sound.logged.dequeue queue rfl
    · exact fun _ _ => rfl
    · intro entry kept
      exact (carries entry.1 kept.bounded).trans kept.carries
  intact := sound.intact

theorem Slot.Sound.head_fits {rest : List Nat}
    (queue : slot.queue = buffer :: rest) : ipc.overruns (ipc.copied (slot.memory buffer)) = false := by
  obtain ⟨_,pending,_,_,links⟩ := sound.logged
  rw [queue] at links
  cases links with
  | cons kept _ => exact kept.fits

theorem Slot.Sound.ipcTxCopy (fits : ipc.overruns len = false)
    (bounded : len ≤ ipc.copied source) (rx_fits : ipc.overruns (ipc.copied source) = false) (woken_up : 0 ≤ ipc.wake woken) :
    ((slot.ipcTxCopy granted woken len source).2 = true →
      (slot.ipcTxCopy granted woken len source).1.Sound held (accepted ++ [(len,ipc.message len source)]) delivered) ∧
    ((slot.ipcTxCopy granted woken len source).2 = false →
      (slot.ipcTxCopy granted woken len source).1.Sound held accepted delivered) := by
  unfold Slot.ipcTxCopy
  split
  · exact ⟨fun sent => absurd sent (by simp),fun _ => sound⟩
  next buffer after found =>
    obtain ⟨copied,old,content,queue⟩ := sound.ipcCopy found fits
    unfold Slot.ipcTxSlot
    by_cases room : after.queue.length < ipc.capacity
    case pos =>
      simp only [room,if_true,if_neg (Int.not_lt.mpr woken_up)]
      refine ⟨fun _ => ?_,fun failed => absurd failed (by simp)⟩
      have kept : Keeps (len,ipc.message len source) (after.memory buffer) := by
        rw [content]
        refine ⟨ipc.message_copy (Nat.le_refl len),?_,?_⟩
        · rw [ipc.copied_copy]
          exact bounded
        · rw [ipc.copied_copy]
          exact rx_fits
      have queued := copied.enqueue mem_cons_self kept
      rw [erase_cons_head] at queued
      exact queued
    case neg =>
      simp only [room,if_false]
      refine ⟨fun sent => absurd sent (by simp),fun _ => ?_⟩
      have freed := copied.release mem_cons_self
      rw [erase_cons_head] at freed
      exact freed

end

theorem ipcCopy_granted (memory : (ipc.alloc granted len slot.pool).isSome = true) (source : ipc.Content) :
    ∃ addr next, slot.ipcCopy granted len source = some (addr,next) := by
  obtain ⟨found,alloc⟩ := Option.isSome_iff_exists.mp memory
  unfold Slot.ipcCopy
  rw [alloc]
  exact ⟨_,_,rfl⟩

def Slot.room (granted : Bool) (len : Nat) (slot : Slot ipc) : Bool :=
  (ipc.alloc granted len slot.pool).isSome && decide (slot.queue.length < ipc.capacity)

theorem ipcTxCopy_room (woken_up : 0 ≤ ipc.wake woken) :
    (slot.ipcTxCopy granted woken len source).2 = slot.room granted len := by
  unfold Slot.ipcTxCopy Slot.ipcCopy Slot.ipcTxSlot Slot.room
  cases ipc.alloc granted len slot.pool with
  | none => rfl
  | some found =>
    by_cases room : slot.queue.length < ipc.capacity
    case pos => simp [room,Int.not_lt.mpr woken_up]
    case neg => simp [room]

theorem Slot.Sound.copy_held (sound : slot.Sound held accepted delivered) (member : buffer ∈ held) :
    (slot.ipcTxCopy granted woken len source).1.memory buffer = slot.memory buffer := by
  unfold Slot.ipcTxCopy Slot.ipcCopy Slot.ipcTxSlot
  cases found : ipc.alloc granted len slot.pool with
  | none => rfl
  | some result =>
    have apart : buffer ≠ result.1 := by
      rintro rfl
      have distinct := ipc.uses_nodup (ipc.uses_alloc sound.uses found)
      exact (nodup_cons.mp distinct).1 (mem_append_left slot.queue member)
    dsimp only
    split <;> split <;> exact update_of_ne apart _ _

end Slots

end Genavb.Ipc
