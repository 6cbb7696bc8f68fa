import Mathlib.Order.Interval.Set.Disjoint
import Mathlib.Algebra.Group.Nat.Defs
import Mathlib.Order.CompletePartialOrder

/-! MAC addresses and ranges of them in MAAP (`maap.h`, `maap.c`): the numbers they stand for,
the dynamic allocation pool and the detection of conflicts. -/
namespace Genavb.Maap

structure MacAddress where
  b0 : UInt8
  b1 : UInt8
  b2 : UInt8
  b3 : UInt8
  b4 : UInt8
  b5 : UInt8
  deriving DecidableEq

def MAAP_MULTICAST_ADDR : MacAddress := ⟨0x91,0xe0,0xf0,0x00,0xff,0x00⟩
def MAAP_DYNAMIC_POOL_MIN : MacAddress := ⟨0x91,0xe0,0xf0,0x00,0x00,0x00⟩
def MAAP_DYNAMIC_POOL_MAX : MacAddress := ⟨0x91,0xe0,0xf0,0x00,0xfd,0xff⟩
def MAAP_DYNAMIC_POOL_SIZE : Nat := 0xfdff - 0x0000 + 1

namespace MacAddress

def macValue (addr : MacAddress) : Nat :=
  addr.b5.toNat + 2^8 * addr.b4.toNat + 2^16 * addr.b3.toNat + 2^24 * addr.b2.toNat +
    2^32 * addr.b1.toNat + 2^40 * addr.b0.toNat

def reverseMacValue (addr : MacAddress) : Nat :=
  addr.b0.toNat + 2^8 * addr.b1.toNat + 2^16 * addr.b2.toNat + 2^24 * addr.b3.toNat +
    2^32 * addr.b4.toNat + 2^40 * addr.b5.toNat

def generated (rand : Nat) : MacAddress :=
  ⟨0x91,0xe0,0xf0,0x00,.ofNat (rand / 2^8 % 2^8),.ofNat (rand % 2^8)⟩

theorem macValue_injective {first second : MacAddress} (same : first.macValue = second.macValue) :
    first = second := by
  obtain ⟨a0,a1,a2,a3,a4,a5⟩ := first
  obtain ⟨c0,c1,c2,c3,c4,c5⟩ := second
  unfold macValue at same
  dsimp only at same
  have := a0.toNat_lt; have := a1.toNat_lt; have := a2.toNat_lt
  have := a3.toNat_lt; have := a4.toNat_lt; have := a5.toNat_lt
  have := c0.toNat_lt; have := c1.toNat_lt; have := c2.toNat_lt
  have := c3.toNat_lt; have := c4.toNat_lt; have := c5.toNat_lt
  rw [mk.injEq,← UInt8.toNat_inj,← UInt8.toNat_inj,← UInt8.toNat_inj,← UInt8.toNat_inj,← UInt8.toNat_inj,
    ← UInt8.toNat_inj]
  omega

theorem reverseMacValue_injective {first second : MacAddress}
    (same : first.reverseMacValue = second.reverseMacValue) : first = second := by
  obtain ⟨a0,a1,a2,a3,a4,a5⟩ := first
  obtain ⟨c0,c1,c2,c3,c4,c5⟩ := second
  have values : (⟨a5,a4,a3,a2,a1,a0⟩ : MacAddress).macValue = (⟨c5,c4,c3,c2,c1,c0⟩ : MacAddress).macValue := same
  have reversed := macValue_injective values
  rw [mk.injEq] at reversed ⊢
  obtain ⟨h5,h4,h3,h2,h1,h0⟩ := reversed
  exact ⟨h0,h1,h2,h3,h4,h5⟩

theorem generated_macValue {rand : Nat} (small : rand < 2^16) :
    (generated rand).macValue = MAAP_DYNAMIC_POOL_MIN.macValue + rand := by
  unfold generated macValue MAAP_DYNAMIC_POOL_MIN
  simp only [UInt8.toNat_ofNat']
  have low : rand % 2^8 % 2^8 = rand % 2^8 := Nat.mod_mod _ _
  have high : rand / 2^8 % 2^8 % 2^8 = rand / 2^8 := by omega
  simp only [UInt8.reduceToNat]
  omega

end MacAddress

section Conflicts

def maapIsInDynamicPool (startAddress : MacAddress) (count : Nat) : Bool :=
  MAAP_DYNAMIC_POOL_MIN.macValue ≤ startAddress.macValue && startAddress.macValue ≤ MAAP_DYNAMIC_POOL_MAX.macValue &&
    startAddress.macValue + count - 1 ≤ MAAP_DYNAMIC_POOL_MAX.macValue

structure ConflictInfo where
  startAddr : MacAddress
  count : Nat
  deriving DecidableEq

/-- `count - 1` in 32 bits: an empty range in a message ends far behind its start. -/
def countLess (count : Nat) : Nat := if count = 0 then 0xffffffff else count - 1

def areRangesInConflict (addrLocal : MacAddress) (countLocal : Nat) (addrPdu : MacAddress) (countPdu : Nat) :
    Option ConflictInfo :=
  let locEnd := addrLocal.macValue + countLess countLocal
  let pduEnd := addrPdu.macValue + countLess countPdu
  let conflictEnd := if pduEnd < locEnd then pduEnd else locEnd
  if addrPdu.macValue < addrLocal.macValue ∧ pduEnd ≥ addrLocal.macValue then
    some ⟨addrLocal,((conflictEnd - addrLocal.macValue) % 2^32 + 1) % 2^32⟩
  else if addrPdu.macValue ≥ addrLocal.macValue ∧ addrPdu.macValue ≤ locEnd then
    some ⟨addrPdu,((conflictEnd - addrPdu.macValue) % 2^32 + 1) % 2^32⟩
  else none

def addresses (startAddr : MacAddress) (count : Nat) : Set Nat :=
  Set.Ico startAddr.macValue (startAddr.macValue + count)

theorem countLess_pos {count : Nat} (some : 0 < count) : countLess count = count - 1 := if_neg some.ne'

theorem areRangesInConflict_iff {addrLocal addrPdu : MacAddress} {countLocal countPdu : Nat}
    (someLocal : 0 < countLocal) (somePdu : 0 < countPdu) :
    areRangesInConflict addrLocal countLocal addrPdu countPdu = none ↔
      Disjoint (addresses addrLocal countLocal) (addresses addrPdu countPdu) := by
  unfold areRangesInConflict addresses
  rw [Set.Ico_disjoint_Ico,countLess_pos someLocal,countLess_pos somePdu]
  dsimp only
  split
  next before =>
    simp only [reduceCtorEq,false_iff]
    omega
  · split
    next inside =>
      simp only [reduceCtorEq,false_iff]
      omega
    · simp only [true_iff]
      omega

end Conflicts

end Genavb.Maap
