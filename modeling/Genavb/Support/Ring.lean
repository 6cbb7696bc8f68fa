import Mathlib.Logic.Function.Basic
import Mathlib.Tactic.Common

/-! Rings of slots: wrapping indices, the distance of two of them, and a log whose last entries stand in the slots. -/
namespace Genavb.Support

def ringNext (size index : Nat) : Nat := if size ≤ index + 1 then 0 else index + 1

def ringCount (size read write : Nat) : Nat := if read ≤ write then write - read else write + size - read

section
variable {size read write : Nat}

theorem ringNext_mod (positive : 0 < size) (n : Nat) : ringNext size (n % size) = (n + 1) % size := by
  have below := Nat.mod_lt n positive
  rw [Nat.add_mod n 1 size,ringNext]
  split
  next last =>
    have full : n % size + 1 = size := by omega
    by_cases one : size = 1
    · rw [one,Nat.mod_one]
    · rw [Nat.mod_eq_of_lt (show 1 < size by omega),full,Nat.mod_self]
  next inner =>
    rw [Nat.mod_eq_of_lt (show 1 < size by omega),Nat.mod_eq_of_lt (show n % size + 1 < size by omega)]

theorem ringCount_mod (ordered : read ≤ write) (near : write < read + size) :
    ringCount size (read % size) (write % size) = write - read := by
  obtain ⟨gap,rfl⟩ := Nat.exists_eq_add_of_le ordered
  have below := Nat.mod_lt read (show 0 < size by omega)
  rw [Nat.add_mod,Nat.mod_eq_of_lt (show gap < size by omega),ringCount]
  by_cases wraps : read % size + gap < size
  · rw [Nat.mod_eq_of_lt wraps,if_pos (Nat.le_add_right ..)]
    omega
  · have place : (read % size + gap) % size = read % size + gap - size := by
      rw [Nat.mod_eq_sub_mod (Nat.not_lt.mp wraps),Nat.mod_eq_of_lt (by omega)]
    rw [place,if_neg (by omega)]
    omega

theorem ring_apart (before : read < write) (near : write < read + size) : read % size ≠ write % size := by
  intro same
  have zero := ringCount_mod (Nat.le_of_lt before) near
  rw [same,ringCount,if_pos (Nat.le_refl _)] at zero
  omega

end

/-- From `first` on, the entries of the log are in their slots. -/
def RingHolds {α : Type} (size : Nat) (entry : Nat → α) (log : List α) (first : Nat) : Prop :=
  ∀ i value, first ≤ i → log[i]? = some value → entry (i % size) = value

namespace RingHolds
variable {α : Type} {size first later : Nat} {entry : Nat → α} {log : List α}

theorem push (holds : RingHolds size entry log first) (room : log.length < first + size) (value : α) :
    RingHolds size (Function.update entry (log.length % size) value) (log ++ [value]) first := by
  intro i other reached found
  rcases Nat.lt_trichotomy i log.length with old | rfl | beyond
  · rw [List.getElem?_append_left old] at found
    rw [Function.update_of_ne (ring_apart old (by omega))]
    exact holds i other reached found
  · rw [List.getElem?_append_right (Nat.le_refl _),Nat.sub_self] at found
    rw [Function.update_self]
    exact Option.some.inj found
  · rw [List.getElem?_eq_none (by rw [List.length_append,List.length_singleton]; omega)] at found
    exact nomatch found

theorem drop (holds : RingHolds size entry log first) (forward : first ≤ later) : RingHolds size entry log later :=
  fun i value reached found => holds i value (Nat.le_trans forward reached) found

theorem front {behind : List α} (holds : RingHolds size entry (log ++ behind) first) : RingHolds size entry log first := by
  intro i value reached found
  refine holds i value reached ?_
  rw [List.getElem?_append_left (List.getElem?_eq_some_iff.mp found).1]
  exact found

theorem slots (holds : RingHolds size entry log first) (inside : first ≤ log.length) :
    (List.range (log.length - first)).map (fun i => entry ((first + i) % size)) = log.drop first := by
  apply List.ext_getElem?
  intro i
  rw [List.getElem?_map,List.getElem?_drop]
  by_cases more : i < log.length - first
  · have there : first + i < log.length := by omega
    rw [List.getElem?_range more,List.getElem?_eq_getElem there,Option.map_some,
      holds (first + i) _ (Nat.le_add_right ..) (List.getElem?_eq_getElem there)]
  · rw [List.getElem?_eq_none (by rw [List.length_range]; omega),List.getElem?_eq_none (by omega),Option.map_none]

end RingHolds

end Genavb.Support
