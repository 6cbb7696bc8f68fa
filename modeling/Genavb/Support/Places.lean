import Mathlib.Data.List.Perm.Basic
import Mathlib.Data.List.Range
import Mathlib.Logic.Function.Basic
import Mathlib.Data.List.Nodup
import Mathlib.Data.List.Perm.Lattice

/-! A list of free entries that is threaded through an array. -/
namespace Genavb.Support
open List

variable {next other : Nat → Nat} {stop start count : Nat} {entries live : List Nat}

/-- The entries that the links visit from `start` until `stop`. -/
def Chain (next : Nat → Nat) (stop : Nat) : Nat → List Nat → Prop
  | start,[] => start = stop
  | start,entry :: rest => start = entry ∧ Chain next stop (next entry) rest

theorem Chain.congr (chain : Chain next stop start entries) (same : ∀ entry ∈ entries, other entry = next entry) :
    Chain other stop start entries := by
  induction entries generalizing start with
  | nil => exact chain
  | cons entry rest ih =>
    obtain ⟨here,links⟩ := chain
    refine ⟨here,?_⟩
    rw [same entry mem_cons_self]
    exact ih links fun later member => same later (mem_cons_of_mem entry member)

theorem Chain.update (chain : Chain next stop start entries) {entry : Nat} (outside : entry ∉ entries) (link : Nat) :
    Chain (Function.update next entry link) stop start entries := by
  apply chain.congr
  intro later member
  rw [Function.update_of_ne]
  rintro rfl
  exact outside member

theorem chain_range (links : ∀ i < count, next i = if i + 1 = count then stop else i + 1) :
    ∀ n, 0 < n → n ≤ count → Chain next stop (count - n) (List.range' (count - n) n) := by
  intro n positive inside
  induction n with
  | zero => omega
  | succ n ih =>
    refine ⟨rfl,?_⟩
    rw [links _ (by omega)]
    cases n with
    | zero =>
      rw [if_pos (by omega)]
      rfl
    | succ n =>
      rw [if_neg (by omega)]
      have rest := ih (by omega) (by omega)
      have after : count - (n + 1 + 1) + 1 = count - (n + 1) := by omega
      rw [after]
      exact rest

def Parted (next : Nat → Nat) (stop start count : Nat) (live : List Nat) : Prop :=
  ∃ free, Chain next stop start free ∧ (free ++ live).Perm (List.range count)

section
variable (parted : Parted next stop start count live)
include parted

theorem Parted.nodup : live.Nodup := by
  obtain ⟨free,_,all⟩ := parted
  have distinct := (all.nodup_iff).mpr nodup_range
  exact (nodup_append.mp distinct).2.1

theorem Parted.inside {entry : Nat} (member : entry ∈ live) : entry < count := by
  obtain ⟨free,_,all⟩ := parted
  exact mem_range.mp (all.mem_iff.mp (mem_append_right free member))

theorem Parted.perm {same : List Nat} (perm : live.Perm same) : Parted next stop start count same := by
  obtain ⟨free,chain,all⟩ := parted
  exact ⟨free,chain,(perm.append_left free).symm.trans all⟩

theorem Parted.take (more : start ≠ stop) (mark : Nat) :
    Parted (Function.update next start mark) stop (next start) count (start :: live) := by
  obtain ⟨free,chain,all⟩ := parted
  cases free with
  | nil => exact absurd chain more
  | cons entry rest =>
    obtain ⟨rfl,links⟩ := chain
    have distinct := (all.nodup_iff).mpr nodup_range
    rw [cons_append,nodup_cons] at distinct
    have outside : start ∉ rest := fun member => distinct.1 (mem_append_left live member)
    refine ⟨rest,links.update outside mark,?_⟩
    exact perm_middle.trans all

theorem Parted.put {entry : Nat} (member : entry ∈ live) :
    Parted (Function.update next entry start) stop entry count (live.erase entry) := by
  obtain ⟨free,chain,all⟩ := parted
  have distinct := (all.nodup_iff).mpr nodup_range
  have outside : entry ∉ free := by
    intro also
    exact (nodup_append.mp distinct).2.2 entry also entry member rfl
  refine ⟨entry :: free,⟨rfl,?_⟩,?_⟩
  · rw [Function.update_self]
    exact chain.update outside start
  · have back : live.Perm (entry :: live.erase entry) := perm_cons_erase member
    exact (perm_middle.symm.trans (back.symm.append_left free)).trans all

end

theorem parted_init (positive : 0 < count) (links : ∀ i < count, next i = if i + 1 = count then stop else i + 1) :
    Parted next stop 0 count [] := by
  refine ⟨List.range' 0 count,?_,?_⟩
  · have chain := chain_range links count positive (Nat.le_refl count)
    rw [Nat.sub_self] at chain
    exact chain
  · rw [append_nil,range_eq_range']

end Genavb.Support

/-! Items that are kept in lists, each of them in one list at a time: the rules for an item that is
taken out of the list it is in and put at the head of another. -/
namespace Genavb.Support
open List

theorem perm_eraseP {α : Type} {search : α → Bool} {items : List α} {item : α}
    (found : items.find? search = some item) :
    items.Perm (item :: items.eraseP search) := by
  induction items with
  | nil => cases found
  | cons first rest ih =>
    rw [List.find?_cons] at found
    rw [eraseP_cons]
    split at found
    next here =>
      rw [here,cond_true,Option.some.inj found]
    next apart =>
      rw [apart,cond_false]
      exact ((ih found).cons first).trans (.swap item first _)

section Places
variable {α π : Type}

/-- Every item is in exactly one place, and there once. -/
structure Partition (items : α → Prop) (places : π → List α) : Prop where
  once : ∀ place, (places place).Nodup
  apart : ∀ item first second, item ∈ places first → item ∈ places second → first = second
  all : ∀ item, items item ↔ ∃ place, item ∈ places place

theorem Partition.gathered {items : α → Prop} {places : π → List α} (partition : Partition items places) {here : π}
    (empty : ∀ place, place ≠ here → places place = []) (item : α) : items item ↔ item ∈ places here := by
  constructor
  · intro member
    obtain ⟨place,present⟩ := (partition.all item).mp member
    by_cases same : place = here
    · rwa [← same]
    · rw [empty place same] at present
      cases present
  · intro present
    exact (partition.all item).mpr ⟨here,present⟩

theorem Partition.perm_range {capacity : Nat} {places : π → List Nat} (partition : Partition (· < capacity) places)
    {here : π} (empty : ∀ place, place ≠ here → places place = []) : (places here).Perm (List.range capacity) := by
  apply (perm_ext_iff_of_nodup (partition.once here) nodup_range).mpr
  intro item
  rw [mem_range]
  exact (partition.gathered empty item).symm

variable [DecidableEq α] [DecidableEq π]

def relocate (item : α) (target : π) (places : π → List α) : π → List α :=
  Function.update (fun place => (places place).erase item) target (item :: (places target).erase item)

section Moves
variable {items : α → Prop} {places : π → List α} {item other : α} {target place : π}

@[simp] theorem relocate_target : relocate item target places target = item :: (places target).erase item :=
  Function.update_self ..

theorem relocate_other (apart : place ≠ target) : relocate item target places place = (places place).erase item :=
  Function.update_of_ne apart ..

theorem mem_relocate (once : ∀ place, (places place).Nodup) :
    other ∈ relocate item target places place ↔ if other = item then place = target else other ∈ places place := by
  by_cases here : place = target
  · rw [here,relocate_target,mem_cons]
    by_cases same : other = item
    · rw [if_pos same]
      exact iff_of_true (.inl same) rfl
    · rw [if_neg same,mem_erase_of_ne same]
      exact or_iff_right same
  · rw [relocate_other here]
    by_cases same : other = item
    · rw [if_pos same,same]
      exact iff_of_false (once place).not_mem_erase here
    · rw [if_neg same,mem_erase_of_ne same]

theorem relocate_once (once : ∀ place, (places place).Nodup) (place : π) :
    (relocate item target places place).Nodup := by
  by_cases here : place = target
  · rw [here,relocate_target]
    exact nodup_cons.mpr ⟨(once target).not_mem_erase,(once target).erase item⟩
  · rw [relocate_other here]
    exact (once place).erase item

theorem Partition.relocate (partition : Partition items places) (member : items item) :
    Partition items (relocate item target places) := by
  refine ⟨relocate_once partition.once,?_,?_⟩
  · intro other first second inFirst inSecond
    rw [mem_relocate partition.once] at inFirst inSecond
    by_cases same : other = item
    · rw [if_pos same] at inFirst inSecond
      rw [inFirst,inSecond]
    · rw [if_neg same] at inFirst inSecond
      exact partition.apart other first second inFirst inSecond
  · intro other
    by_cases same : other = item
    · rw [same]
      refine iff_of_true member ⟨target,?_⟩
      rw [relocate_target]
      exact mem_cons_self
    · rw [partition.all]
      refine exists_congr fun place => ?_
      rw [mem_relocate partition.once,if_neg same]

theorem relocate_relocate (once : ∀ place, (places place).Nodup) (between : π) :
    relocate item target (relocate item between places) = relocate item target places := by
  have erased (place : π) : (relocate item between places place).erase item = (places place).erase item := by
    by_cases here : place = between
    · rw [here,relocate_target,erase_cons_head]
    · rw [relocate_other here,erase_of_not_mem (once place).not_mem_erase]
  ext1 place
  by_cases here : place = target
  · rw [here,relocate_target,relocate_target,erased]
  · rw [relocate_other here,relocate_other here,erased]

end Moves

end Places

end Genavb.Support
