import Mathlib.Algebra.Order.Group.Multiset
import Mathlib.Data.List.GetD
import Genavb.Support.Run

/-! Sets of small numbers as bits of a word: tests and updates of single bits, and what a
word different from zero says about its bits. -/
namespace Genavb.Support
open BitVec

variable {w : Nat}

def maskBit (w i : Nat) : BitVec w := 1#w <<< i

def maskHas (mask : BitVec w) (i : Nat) : Bool := (mask &&& maskBit w i) != 0#w

def maskSet (mask : BitVec w) (i : Nat) : BitVec w := mask ||| maskBit w i

def maskClear (mask : BitVec w) (i : Nat) : BitVec w := mask &&& ~~~maskBit w i

theorem maskBit_getLsbD {i j : Nat} (inside : j < w) : (maskBit w i).getLsbD j = decide (i = j) := by
  simp only [maskBit,getLsbD_shiftLeft,getLsbD_one,inside,decide_true,Bool.true_and]
  by_cases same : i = j
  · subst same
    simp
    omega
  · by_cases below : j < i
    · simp [below,same]
    · have beyond : ¬ j - i = 0 := by omega
      simp [same,beyond]

theorem maskHas_getLsbD (mask : BitVec w) {i : Nat} (inside : i < w) : maskHas mask i = mask.getLsbD i := by
  have bits : ∀ j, (hj : j < w) → (mask &&& maskBit w i).getLsbD j = (mask.getLsbD j && decide (i = j)) := by
    intro j hj
    rw [getLsbD_and,maskBit_getLsbD hj]
  cases value : mask.getLsbD i with
  | true =>
    unfold maskHas
    rw [bne_iff_ne]
    intro zero
    have here := bits i inside
    rw [zero,value] at here
    simp at here
  | false =>
    unfold maskHas
    rw [bne_eq_false_iff_eq]
    apply eq_of_getLsbD_eq
    intro j hj
    rw [bits j hj]
    by_cases same : i = j
    · subst same
      simp [value]
    · simp [same]

theorem maskHas_inside {mask : BitVec w} {i : Nat} (has : maskHas mask i = true) : i < w := by
  by_contra beyond
  have zero : maskBit w i = 0#w := by
    apply eq_of_getLsbD_eq
    intro j hj
    rw [maskBit_getLsbD hj]
    simp
    omega
  rw [maskHas,zero,and_zero] at has
  exact absurd has (by simp)

theorem maskHas_set (mask : BitVec w) {i j : Nat} (inside : j < w) :
    maskHas (maskSet mask i) j = (maskHas mask j || decide (i = j)) := by
  rw [maskHas_getLsbD _ inside,maskHas_getLsbD _ inside,maskSet,getLsbD_or,maskBit_getLsbD inside]

theorem maskHas_clear (mask : BitVec w) {i j : Nat} (inside : j < w) :
    maskHas (maskClear mask i) j = (maskHas mask j && !decide (i = j)) := by
  rw [maskHas_getLsbD _ inside,maskHas_getLsbD _ inside,maskClear,getLsbD_and,getLsbD_not,
    maskBit_getLsbD inside]
  simp [inside]

theorem maskHas_and (first second : BitVec w) {i : Nat} (inside : i < w) :
    maskHas (first &&& second) i = (maskHas first i && maskHas second i) := by
  rw [maskHas_getLsbD _ inside,maskHas_getLsbD _ inside,maskHas_getLsbD _ inside,getLsbD_and]

@[simp] theorem maskHas_zero (i : Nat) : maskHas (0#w) i = false := by
  simp [maskHas]

theorem mask_ne_zero (mask : BitVec w) : mask ≠ 0#w ↔ ∃ i, i < w ∧ maskHas mask i = true := by
  constructor
  · intro nonzero
    by_contra none
    apply nonzero
    apply eq_of_getLsbD_eq
    intro i inside
    rw [← maskHas_getLsbD _ inside]
    cases has : maskHas mask i with
    | true => exact absurd ⟨i,inside,has⟩ none
    | false => simp
  · intro ⟨i,_,has⟩ zero
    rw [zero,maskHas_zero] at has
    exact Bool.noConfusion has

theorem maskClear_ne_zero (mask : BitVec w) (i : Nat) :
    maskClear mask i ≠ 0#w ↔ ∃ j, j < w ∧ j ≠ i ∧ maskHas mask j = true := by
  rw [mask_ne_zero]
  constructor
  · intro ⟨j,inside,has⟩
    rw [maskHas_clear _ inside,Bool.and_eq_true,Bool.not_eq_true',decide_eq_false_iff_not] at has
    exact ⟨j,inside,Ne.symm has.2,has.1⟩
  · intro ⟨j,inside,other,has⟩
    refine ⟨j,inside,?_⟩
    rw [maskHas_clear _ inside,has,Bool.true_and,Bool.not_eq_true',decide_eq_false_iff_not]
    exact Ne.symm other

end Genavb.Support

/-! Tables of identifiers kept as the bits of a list of words: the first free bit is taken, and a table is
owned when every identifier in use has exactly one holder. -/
namespace Genavb.Support
open List

abbrev Bitmap (w : Nat) := List (BitVec w)

namespace Bitmap
variable {w : Nat}

def marked (table : Bitmap w) (id : Nat) : Bool := maskHas (table.getD (id / w) 0#w) (id % w)

def freeBit (word : BitVec w) : Option Nat := (List.range w).find? fun bit => !maskHas word bit

def alloc (table : Bitmap w) : Option (Nat × Bitmap w) :=
  match table.findIdx? (· != BitVec.allOnes w) with
  | none => none
  | some index =>
    match freeBit (table.getD index 0#w) with
    | none => none
    | some bit => some (index * w + bit,table.modify index (maskSet · bit))

def free (table : Bitmap w) (id : Nat) : Bitmap w := table.modify (id / w) (maskClear · (id % w))

theorem freeBit_none {word : BitVec w} (none : freeBit word = none) : word = BitVec.allOnes w := by
  apply BitVec.eq_of_getLsbD_eq
  intro bit inside
  have set := List.find?_eq_none.mp none bit (mem_range.mpr inside)
  rw [← maskHas_getLsbD word inside]
  simpa [inside] using set

theorem place_eq (index id : Nat) {bit : Nat} (inside : bit < w) :
    index * w + bit = id ↔ index = id / w ∧ bit = id % w := by
  have positive : 0 < w := Nat.zero_lt_of_lt inside
  constructor
  · intro same
    subst same
    rw [Nat.mul_comm,Nat.mul_add_div positive,Nat.div_eq_of_lt inside,Nat.mul_add_mod,Nat.mod_eq_of_lt inside]
    exact ⟨rfl,rfl⟩
  · intro ⟨word,place⟩
    rw [word,place,Nat.mul_comm]
    exact Nat.div_add_mod id w

theorem alloc_none {table : Bitmap w} (refused : table.alloc = none) {id : Nat} (inside : id < table.length * w) :
    table.marked id = true := by
  have positive : 0 < w := by
    apply Nat.pos_of_ne_zero
    intro zero
    subst zero
    exact absurd inside (Nat.not_lt_zero id)
  have present : id / w < table.length := by
    apply Nat.div_lt_of_lt_mul
    rw [Nat.mul_comm]
    exact inside
  unfold alloc at refused
  split at refused
  next full =>
    have word := List.findIdx?_eq_none_iff.mp full _ (getElem_mem present)
    have same : table[id / w] = BitVec.allOnes w := by simpa using word
    have small : id % w < w := Nat.mod_lt id positive
    rw [marked,getD_eq_getElem _ _ present,same,maskHas_getLsbD _ small]
    simp [small]
  next index word =>
    split at refused
    next none =>
      obtain ⟨present,different,_⟩ := List.findIdx?_eq_some_iff_getElem.mp word
      rw [getD_eq_getElem _ _ present] at none
      rw [freeBit_none none] at different
      simp at different
    · cases refused

theorem alloc_none_iff (table : Bitmap w) : table.alloc = none ↔ ∀ word ∈ table, word = BitVec.allOnes w := by
  constructor
  · intro refused word member
    obtain ⟨index,inside,same⟩ := mem_iff_getElem.mp member
    apply BitVec.eq_of_getLsbD_eq
    intro bit small
    have used := alloc_none refused (show index * w + bit < table.length * w by
      calc index * w + bit < index * w + w := Nat.add_lt_add_left small _
        _ = (index + 1) * w := (Nat.succ_mul index w).symm
        _ ≤ table.length * w := Nat.mul_le_mul_right w inside)
    obtain ⟨word',place⟩ := (place_eq index (index * w + bit) small).mp rfl
    rw [marked,← word',← place,getD_eq_getElem _ _ inside,same,maskHas_getLsbD _ small] at used
    rw [used]
    simp [small]
  · intro full
    have none : table.findIdx? (· != BitVec.allOnes w) = none := by
      rw [List.findIdx?_eq_none_iff]
      intro word member
      simpa using full word member
    rw [alloc,none]

theorem alloc_free {table : Bitmap w} (positive : 0 < w) (room : table.alloc ≠ none) (id : Nat) :
    (table.free id).alloc ≠ none := by
  intro refused
  apply room
  rw [alloc_none_iff] at refused ⊢
  by_cases present : id / w < table.length
  · have word := refused (maskClear (table[id / w]) (id % w)) (by
      rw [free]
      exact mem_iff_getElem.mpr ⟨id / w,by rw [length_modify]; exact present,by simp⟩)
    have small : id % w < w := Nat.mod_lt id positive
    have bit := maskHas_clear (table[id / w]) (i := id % w) small
    rw [word,maskHas_getLsbD _ small] at bit
    simp [small] at bit
  · rwa [free,modify_eq_self (Nat.le_of_not_lt present)] at refused

end Bitmap

end Genavb.Support

/-! Round robin over the bits of a word, downwards from the one that was served last. -/
namespace Genavb.Support

variable {w : Nat}

def leadingZeros (mask : BitVec w) : Nat := ((List.range w).find? fun i => maskHas mask (w - 1 - i)).getD w

/-- The bits below `last` from the top, and then the others. -/
def roundRobin (mask : BitVec w) (last : Nat) : Option Nat :=
  let below := mask <<< (w - last)
  if last ≠ 0 ∧ leadingZeros below < w then some (last - leadingZeros below - 1)
  else
    let above := mask >>> last
    if leadingZeros above < w then some (last + (w - leadingZeros above - 1)) else none

/-- A bit is served while the mask is `mask`, or it is cleared. -/
inductive RoundRobinEntry (w : Nat)
  | served (i : Nat) (mask : BitVec w)
  | cleared (i : Nat)

end Genavb.Support
