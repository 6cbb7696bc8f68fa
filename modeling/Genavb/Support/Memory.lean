import Mathlib.Data.List.Basic
import Mathlib.Tactic.Common
import Mathlib.Order.Monotone.Basic

/-! Byte-addressed memory with big-endian words: stores, what a store leaves alone,
and the byte strings that stand at an address. -/
namespace Genavb.Support

abbrev Memory := Nat → UInt8

def store (address : Nat) (bytes : List UInt8) (memory : Memory) : Memory := fun i =>
  if address ≤ i then (bytes[i - address]?).getD (memory i) else memory i

def bytesAt (memory : Memory) (address length : Nat) : List UInt8 :=
  (List.range length).map fun i => memory (address + i)

def u16At (memory : Memory) (address : Nat) : Nat :=
  (memory address).toNat * 256 + (memory (address + 1)).toNat

def u16Bytes (value : Nat) : List UInt8 := [UInt8.ofNat (value / 256),UInt8.ofNat value]

def Written (memory : Memory) (address : Nat) (bytes : List UInt8) : Prop :=
  ∀ i byte, bytes[i]? = some byte → memory (address + i) = byte

@[simp] theorem u16Bytes_length (value : Nat) : (u16Bytes value).length = 2 := rfl

@[simp] theorem bytesAt_length (memory : Memory) (address length : Nat) :
    (bytesAt memory address length).length = length := by
  simp [bytesAt]

theorem written_nil (memory : Memory) (address : Nat) : Written memory address [] := by
  intro i byte found
  simp at found

theorem written_append {memory : Memory} {address : Nat} {first second : List UInt8} :
    Written memory address (first ++ second) ↔
      Written memory address first ∧ Written memory (address + first.length) second := by
  constructor
  · intro both
    constructor
    · intro i byte found
      have inside := (List.getElem?_eq_some_iff.mp found).1
      exact both i byte (by rw [List.getElem?_append_left inside]; exact found)
    · intro i byte found
      have value := both (first.length + i) byte (by
        rw [List.getElem?_append_right (by omega)]
        simpa using found)
      rwa [Nat.add_assoc]
  · rintro ⟨left,right⟩ i byte found
    by_cases inside : i < first.length
    · rw [List.getElem?_append_left inside] at found
      exact left i byte found
    · rw [List.getElem?_append_right (by omega)] at found
      have value := right (i - first.length) byte found
      rwa [show address + first.length + (i - first.length) = address + i by omega] at value

theorem written_store (address : Nat) (bytes : List UInt8) (memory : Memory) :
    Written (store address bytes memory) address bytes := by
  intro i byte found
  simp [store,found]

/-- The second memory differs from the first one between two addresses only. -/
def Outside (low high : Nat) (first second : Memory) : Prop :=
  ∀ address, address < low ∨ high ≤ address → second address = first address

theorem outside_store (address : Nat) (bytes : List UInt8) (memory : Memory) :
    Outside address (address + bytes.length) memory (store address bytes memory) := by
  intro place apart
  unfold store
  split
  next reached =>
    have beyond : bytes.length ≤ place - address := by omega
    simp [List.getElem?_eq_none beyond]
  · rfl

namespace Outside
variable {low high : Nat} {first second third : Memory}

theorem trans (left : Outside low high first second) (right : Outside low high second third) :
    Outside low high first third := by
  intro address apart
  rw [right address apart,left address apart]

theorem mono {lower higher : Nat} (below : lower ≤ low) (above : high ≤ higher) (outside : Outside low high first second) :
    Outside lower higher first second := by
  intro address apart
  exact outside address (by omega)

section
variable (outside : Outside low high first second) {address length : Nat} (apart : address + length ≤ low ∨ high ≤ address)
include outside apart

theorem bytesAt : bytesAt second address length = bytesAt first address length := by
  apply List.map_congr_left
  intro i inside
  have below := List.mem_range.mp inside
  exact outside _ (by omega)

theorem written {bytes : List UInt8} (fits : bytes.length ≤ length) (written : Written first address bytes) :
    Written second address bytes := by
  intro i byte found
  have inside := (List.getElem?_eq_some_iff.mp found).1
  rw [outside _ (by omega)]
  exact written i byte found

end

theorem u16At (outside : Outside low high first second) {address : Nat} (apart : address + 2 ≤ low ∨ high ≤ address) :
    u16At second address = u16At first address := by
  unfold Support.u16At
  rw [outside address (by omega),outside (address + 1) (by omega)]

end Outside

variable {memory : Memory}

theorem store_apart {other : Nat} {kept : List UInt8} (address : Nat) (bytes : List UInt8)
    (apart : other + kept.length ≤ address ∨ address + bytes.length ≤ other)
    (written : Written memory other kept) : Written (store address bytes memory) other kept :=
  (outside_store address bytes memory).written apart (Nat.le_refl _) written

variable {address : Nat}

theorem store_extends {bytes : List UInt8} (more : List UInt8) (written : Written memory address bytes) :
    Written (store (address + bytes.length) more memory) address (bytes ++ more) :=
  written_append.mpr ⟨store_apart _ _ (.inl (Nat.le_refl _)) written,written_store _ _ _⟩

theorem store_replaces {first middle last fresh : List UInt8}
    (written : Written memory address (first ++ (middle ++ last))) (same : fresh.length = middle.length) :
    Written (store (address + first.length) fresh memory) address (first ++ (fresh ++ last)) := by
  obtain ⟨front,rest⟩ := written_append.mp written
  obtain ⟨_,back⟩ := written_append.mp rest
  refine written_append.mpr ⟨store_apart _ _ (.inl (Nat.le_refl _)) front,written_append.mpr ⟨written_store _ _ _,?_⟩⟩
  rw [same]
  exact store_apart _ _ (.inr (by omega)) back

theorem bytesAt_written {bytes : List UInt8}
    (written : Written memory address bytes) : bytesAt memory address bytes.length = bytes := by
  apply List.ext_getElem
  · simp
  · intro i _ inside
    simpa [bytesAt] using written i bytes[i] (List.getElem?_eq_getElem inside)

theorem written_bytesAt (memory : Memory) (address length : Nat) :
    Written memory address (bytesAt memory address length) := by
  intro i byte found
  obtain ⟨inside,same⟩ := List.getElem?_eq_some_iff.mp found
  simpa [bytesAt] using same

theorem u16At_written {value : Nat} (small : value < 65536)
    (written : Written memory address (u16Bytes value)) : u16At memory address = value := by
  have high := written 0 (UInt8.ofNat (value / 256)) rfl
  have low := written 1 (UInt8.ofNat value) rfl
  simp only [Nat.add_zero] at high
  simp only [u16At,high,low,UInt8.toNat_ofNat']
  omega

end Genavb.Support

/-! Frames of one size that stand in strides of another, each behind a hole. -/
