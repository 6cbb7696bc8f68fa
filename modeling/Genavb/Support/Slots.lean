import Mathlib.Data.Nat.ModEq
import Mathlib.Logic.Function.Basic
import Mathlib.Algebra.BigOperators.Group.Finset.Basic
import Mathlib.Algebra.Order.BigOperators.Group.Finset
import Mathlib.Data.List.Basic

/-! The items that stand in a ring of slots, from a start slot on. -/

/-! Totals over the slots of an array, as they change with one slot. -/
namespace Genavb.Support
open scoped BigOperators Function

variable {α : Type} {n i : Nat} {slots other : Nat → α} {weight lighter : α → Nat}

def total (n : Nat) (weight : α → Nat) (slots : Nat → α) : Nat := ∑ i ∈ Finset.range n, weight (slots i)

theorem total_succ : total (n + 1) weight slots = total n weight slots + weight (slots n) := Finset.sum_range_succ _ n

theorem total_congr (same : ∀ i < n, weight (slots i) = weight (other i)) :
    total n weight slots = total n weight other := by
  apply Finset.sum_congr rfl
  intro i inside
  exact same i (Finset.mem_range.mp inside)

theorem total_mono (lighter_slots : ∀ i < n, lighter (slots i) ≤ weight (slots i)) :
    total n lighter slots ≤ total n weight slots := by
  apply Finset.sum_le_sum
  intro i inside
  exact lighter_slots i (Finset.mem_range.mp inside)

theorem total_eq_zero (empty : ∀ i < n, weight (slots i) = 0) : total n weight slots = 0 := by
  apply Finset.sum_eq_zero
  intro i inside
  exact empty i (Finset.mem_range.mp inside)

theorem weight_le_total (inside : i < n) : weight (slots i) ≤ total n weight slots := by
  have nonneg : ∀ j ∈ Finset.range n, 0 ≤ weight (slots j) := fun _ _ => Nat.zero_le _
  exact Finset.single_le_sum nonneg (Finset.mem_range.mpr inside)

theorem total_update_outside (outside : n ≤ i) (slot : α) :
    total n weight (Function.update slots i slot) = total n weight slots := by
  apply total_congr
  intro j inside
  rw [Function.update_of_ne (by omega)]

theorem total_update (inside : i < n) (slot : α) :
    total n weight (Function.update slots i slot) + weight (slots i) = total n weight slots + weight slot := by
  induction n with
  | zero => omega
  | succ n ih =>
    rw [total_succ,total_succ]
    by_cases same : i = n
    case pos =>
      subst same
      rw [total_update_outside (Nat.le_refl _),Function.update_self]
      omega
    case neg =>
      rw [Function.update_of_ne (Ne.symm same)]
      omega

end Genavb.Support

/-! Tables of slots some of which are in use: what entering and clearing one does to the number of
slots in use, to the difference of their keys and to the holes between them. -/
namespace Genavb.Support.Slots
open List

section Tables
variable {α κ : Type} (used : α → Bool) (key : α → κ)

def Distinct (slots : List α) : Prop :=
  ∀ (first second : Nat) (a b : α), slots[first]? = some a → slots[second]? = some b → used a = true → used b = true →
    key a = key b → first = second

variable {used key} {slots : List α} {index : Nat} {value : α}

theorem modify_inside (change : α → α) (inside : index < slots.length) :
    slots.modify index change = slots.set index (change slots[index]) := by
  refine ext_getElem (by simp) fun position _ _ => ?_
  rw [getElem_modify,getElem_set]
  split
  next same =>
    subst same
    rfl
  · rfl

section
variable (inside : index < slots.length)
include inside

theorem countP_enter (free : used slots[index] = false) (taken : used value = true) :
    (slots.set index value).countP used = slots.countP used + 1 := by
  rw [countP_set inside,free,taken]
  rfl

theorem countP_clear (taken : used slots[index] = true) (free : used value = false) :
    (slots.set index value).countP used = slots.countP used - 1 := by
  rw [countP_set inside,free,taken]
  rfl

theorem countP_pos (taken : used slots[index] = true) : 0 < slots.countP used :=
  countP_pos_iff.mpr ⟨slots[index],getElem_mem inside,taken⟩

end

theorem distinct_enter (distinct : Distinct used key slots)
    (fresh : ∀ old ∈ slots, used old = true → key old ≠ key value) : Distinct used key (slots.set index value) := by
  intro first second a b atFirst atSecond usedA usedB same
  have old {position : Nat} {item : α} (apart : index ≠ position) (at' : (slots.set index value)[position]? = some item) :
      slots[position]? = some item := by
    rw [List.getElem?_set_ne apart] at at'
    exact at'
  have new {item : α} (at' : (slots.set index value)[index]? = some item) : item = value := by
    rw [List.getElem?_set_self'] at at'
    cases present : slots[index]? with
    | none =>
      rw [present] at at'
      cases at'
    | some other =>
      rw [present] at at'
      cases at'
      rfl
  by_cases here : index = first
  · subst here
    by_cases there : index = second
    · exact there
    · rw [new atFirst] at same
      exact absurd same.symm (fresh b (mem_of_getElem? (old there atSecond)) usedB)
  · by_cases there : index = second
    · subst there
      rw [new atSecond] at same
      exact absurd same (fresh a (mem_of_getElem? (old here atFirst)) usedA)
    · exact distinct first second a b (old here atFirst) (old there atSecond) usedA usedB same

theorem distinct_clear (distinct : Distinct used key slots) (free : used value = false) :
    Distinct used key (slots.set index value) := by
  intro first second a b atFirst atSecond usedA usedB same
  have old {position : Nat} {item : α} (taken : used item = true)
      (at' : (slots.set index value)[position]? = some item) : slots[position]? = some item := by
    by_cases here : index = position
    · subst here
      rw [List.getElem?_set_self'] at at'
      cases present : slots[index]? with
      | none =>
        rw [present] at at'
        cases at'
      | some other =>
        rw [present] at at'
        cases at'
        exact absurd (taken.symm.trans free) (by decide)
    · rw [List.getElem?_set_ne here] at at'
      exact at'
  exact distinct first second a b (old usedA atFirst) (old usedB atSecond) usedA usedB same

def Compact (used : α → Bool) (slots : List α) : Prop :=
  ∀ (free taken : Nat) (a b : α), slots[free]? = some a → slots[taken]? = some b → used a = false → used b = true →
    taken < free

theorem Compact.used_iff (compact : Compact used slots) {position : Nat} {item : α}
    (at' : slots[position]? = some item) :
    used item = true ↔ position < slots.countP used := by
  induction slots generalizing position with
  | nil => simp at at'
  | cons first rest ih =>
    have tail : Compact used rest := by
      intro free taken a b atFree atTaken idle busy
      have before := compact (free + 1) (taken + 1) a b (by simpa using atFree) (by simpa using atTaken) idle busy
      omega
    cases busy : used first with
    | true =>
      rw [countP_cons_of_pos busy]
      cases position with
      | zero =>
        cases at'
        simp [busy]
      | succ position =>
        rw [ih tail (by simpa using at')]
        omega
    | false =>
      have none : rest.countP used = 0 := by
        refine countP_eq_zero.mpr fun other member taken => ?_
        obtain ⟨place,inside⟩ := List.getElem?_of_mem member
        have before := compact 0 (place + 1) first other rfl (by simpa using inside) busy taken
        omega
      rw [countP_cons_of_neg (by simp [busy]),none]
      cases position with
      | zero =>
        cases at'
        simp [busy]
      | succ position =>
        rw [ih tail (by simpa using at'),none]
        omega

theorem compact_of_used (first : ∀ (position : Nat) (item : α), slots[position]? = some item →
    (used item = true ↔ position < slots.countP used)) : Compact used slots := by
  intro free taken a b atFree atTaken idle busy
  have early := (first taken b atTaken).mp busy
  have late := mt (first free a atFree).mpr (by simp [idle])
  omega

theorem compact_enter (compact : Compact used slots) (inside : index < slots.length) (free : used slots[index] = false)
    (first : ∀ before, ∀ bound : before < index, used slots[before] = true) (taken : used value = true) :
    Compact used (slots.set index value) := by
  have count : slots.countP used = index := by
    have late := mt (compact.used_iff (List.getElem?_eq_getElem inside)).mpr (by simp [free])
    by_cases start : index = 0
    · omega
    · have early := (compact.used_iff (List.getElem?_eq_getElem (by omega))).mp (first (index - 1) (by omega))
      omega
  refine compact_of_used fun position item at' => ?_
  rw [countP_enter inside free taken,count]
  by_cases here : index = position
  · subst here
    rw [List.getElem?_set_self inside] at at'
    cases at'
    simp [taken]
  · rw [List.getElem?_set_ne here] at at'
    rw [compact.used_iff at',count]
    omega

theorem compact_clear_iff (compact : Compact used slots) (inside : index < slots.length) (free : used value = false) :
    Compact used (slots.set index value) ↔
      ∀ (later : Nat) (item : α), index < later → slots[later]? = some item → used item = false := by
  constructor
  · intro kept later item after at'
    cases busy : used item with
    | false => rfl
    | true =>
      have before := kept index later value item (List.getElem?_set_self inside)
        (by rw [List.getElem?_set_ne (by omega)]; exact at') free busy
      omega
  · intro last atFree atTaken a b isFree isTaken idle busy
    by_cases here : index = atTaken
    · subst here
      rw [List.getElem?_set_self inside] at isTaken
      cases isTaken
      exact absurd (busy.symm.trans free) (by decide)
    · rw [List.getElem?_set_ne here] at isTaken
      by_cases there : index = atFree
      · subst there
        by_contra late
        exact absurd (busy.symm.trans (last atTaken b (by omega) isTaken)) (by decide)
      · rw [List.getElem?_set_ne there] at isFree
        exact compact atFree atTaken a b isFree isTaken idle busy

end Tables

end Genavb.Support.Slots
