import Mathlib.Data.Nat.Bitwise
import Mathlib.Data.Nat.Prime.Basic
import Mathlib.Tactic.NormNum.GCD
import Mathlib.Tactic.Linarith

/-! Scaled nanoseconds of 96 bits (`ptp_time_ops.h`): a 64-bit number of nanoseconds between a most
significant part and a fraction of 16 bits each. -/
namespace Genavb.Common
open Int64
open UInt64 (lt_iff_toNat_lt toNat_add toNat_and toNat_mul toNat_shiftLeft toNat_toUInt16)

def NSECS_PER_SEC : UInt64 := 1000000000

structure UScaledNs where
  nanosecondsMsb : UInt16
  nanoseconds : UInt64
  fractionalNanoseconds : UInt16
  deriving DecidableEq

structure ScaledNs where
  nanosecondsMsb : UInt16
  nanoseconds : UInt64
  fractionalNanoseconds : UInt16
  deriving DecidableEq

structure PtpExtendedTimestamp where
  secondsMsb : UInt16
  secondsLsb : UInt32
  fractionalNanosecondsMsb : UInt32
  fractionalNanosecondsLsb : UInt16
  deriving DecidableEq

def scaledNsToUScaledNs (a : ScaledNs) : UScaledNs := ⟨a.nanosecondsMsb,a.nanoseconds,a.fractionalNanoseconds⟩
def uScaledNsToScaledNs (a : UScaledNs) : ScaledNs := ⟨a.nanosecondsMsb,a.nanoseconds,a.fractionalNanoseconds⟩

def UScaledNs.value (a : UScaledNs) : Nat :=
  a.nanosecondsMsb.toNat * 2^80 + a.nanoseconds.toNat * 2^16 + a.fractionalNanoseconds.toNat

def ScaledNs.value (a : ScaledNs) : Int := (((scaledNsToUScaledNs a).value : Nat) : Int).bmod (2^96)

def PtpExtendedTimestamp.value (a : PtpExtendedTimestamp) : Nat :=
  ((a.secondsMsb.toNat * 2^32 + a.secondsLsb.toNat) * 1000000000 + a.fractionalNanosecondsMsb.toNat) * 2^16 +
    a.fractionalNanosecondsLsb.toNat

section Operations

def u64ToUScaledNs (ns : UInt64) : UScaledNs := ⟨0,ns,0⟩

def uScaledNsToU64 (a : UScaledNs) : UInt64 :=
  if a.fractionalNanoseconds ≥ 32768 then a.nanoseconds + 1 else a.nanoseconds

def minusUScaledNs (a : UScaledNs) : UScaledNs :=
  let msb := ~~~a.nanosecondsMsb
  let nanoseconds := ~~~a.nanoseconds
  let fractional := ~~~a.fractionalNanoseconds + 1
  if fractional < 1 then
    if nanoseconds + 1 < 1 then ⟨msb + 1,nanoseconds + 1,fractional⟩ else ⟨msb,nanoseconds + 1,fractional⟩
  else ⟨msb,nanoseconds,fractional⟩

def uScaledNsAdd (a b : UScaledNs) : UScaledNs :=
  let fractional := a.fractionalNanoseconds + b.fractionalNanoseconds
  let nanoseconds := a.nanoseconds + b.nanoseconds
  let msb := a.nanosecondsMsb + b.nanosecondsMsb
  let msb := if nanoseconds < a.nanoseconds then msb + 1 else msb
  if fractional < a.fractionalNanoseconds then
    if nanoseconds + 1 < 1 then ⟨msb + 1,nanoseconds + 1,fractional⟩ else ⟨msb,nanoseconds + 1,fractional⟩
  else ⟨msb,nanoseconds,fractional⟩

def uScaledNsSub (a b : UScaledNs) : UScaledNs := uScaledNsAdd a (minusUScaledNs b)

def uScaledNsCmp (a b : UScaledNs) : Int :=
  if a.nanosecondsMsb < b.nanosecondsMsb then -1
  else if a.nanosecondsMsb > b.nanosecondsMsb then 1
  else if a.nanoseconds < b.nanoseconds then -1
  else if a.nanoseconds > b.nanoseconds then 1
  else if a.fractionalNanoseconds < b.fractionalNanoseconds then -1
  else if a.fractionalNanoseconds > b.fractionalNanoseconds then 1
  else 0

def scaledNsAdd (a b : ScaledNs) : ScaledNs :=
  let fractional := a.fractionalNanoseconds + b.fractionalNanoseconds
  let nanoseconds := a.nanoseconds + b.nanoseconds
  ⟨a.nanosecondsMsb + b.nanosecondsMsb,if fractional < a.fractionalNanoseconds then nanoseconds + 1 else nanoseconds,
    fractional⟩

def ptpExtendedTimestampToUScaledNs (a : PtpExtendedTimestamp) : UScaledNs :=
  let tmp := a.secondsMsb.toUInt64 * NSECS_PER_SEC
  let msb := (tmp >>> 32).toUInt16
  let tmp1 := a.fractionalNanosecondsMsb.toUInt64 + a.secondsLsb.toUInt64 * NSECS_PER_SEC
  let msb := if tmp1 < a.fractionalNanosecondsMsb.toUInt64 then msb + 1 else msb
  let nanoseconds := tmp1 + (tmp &&& 0xffffffff) <<< 32
  ⟨if nanoseconds < tmp1 then msb + 1 else msb,nanoseconds,a.fractionalNanosecondsLsb⟩

def uScaledNsToPtpExtendedTimestamp (a : UScaledNs) : PtpExtendedTimestamp :=
  let secondsMsb := (a.nanosecondsMsb.toUInt64 <<< 32 / NSECS_PER_SEC).toUInt16
  let seconds := a.nanoseconds / NSECS_PER_SEC
  let nanoseconds := (a.nanoseconds - seconds * NSECS_PER_SEC).toUInt32
  ⟨(seconds >>> 32).toUInt16 + secondsMsb,(seconds &&& 0xffffffff).toUInt32,nanoseconds,a.fractionalNanoseconds⟩

/-- The correction field in the byte order of the host, in units of 2⁻¹⁶ ns. -/
def pduCorrectionFieldToScaledNs (correctionField : Int64) : ScaledNs :=
  let host := if correctionField < 0 then -correctionField else correctionField
  let a : UScaledNs := ⟨0,(host >>> 16).toUInt64,(host &&& 0xffff).toUInt64.toUInt16⟩
  uScaledNsToScaledNs (if correctionField < 0 then minusUScaledNs a else a)

def scaledNsToPduCorrectionField (a : ScaledNs) : Int64 :=
  let negative := a.nanosecondsMsb &&& 0x8000 ≠ 0
  let b := if negative then minusUScaledNs (scaledNsToUScaledNs a) else scaledNsToUScaledNs a
  let host := (b.fractionalNanoseconds.toUInt64 + b.nanoseconds <<< 16).toInt64
  if negative then -host else host

end Operations

section Values
variable (a b : UScaledNs)

theorem UScaledNs.value_lt : a.value < 2^96 := by
  have msb := a.nanosecondsMsb.toNat_lt
  have nanoseconds := a.nanoseconds.toNat_lt
  have fractional := a.fractionalNanoseconds.toNat_lt
  unfold UScaledNs.value
  omega

theorem minusUScaledNs_value : (minusUScaledNs a).value = (2^96 - a.value) % 2^96 := by
  have msb := a.nanosecondsMsb.toNat_lt
  have nanoseconds := a.nanoseconds.toNat_lt
  have fractional := a.fractionalNanoseconds.toNat_lt
  unfold minusUScaledNs UScaledNs.value
  dsimp only
  simp only [UInt16.lt_iff_toNat_lt,lt_iff_toNat_lt]
  split
  · split <;> simp_all <;> omega
  · simp_all; omega

theorem uScaledNsAdd_value : (uScaledNsAdd a b).value = (a.value + b.value) % 2^96 := by
  have nanoseconds := a.nanoseconds.toNat_lt
  have fractional := a.fractionalNanoseconds.toNat_lt
  have nanoseconds' := b.nanoseconds.toNat_lt
  have fractional' := b.fractionalNanoseconds.toNat_lt
  unfold uScaledNsAdd UScaledNs.value
  simp only [UInt16.lt_iff_toNat_lt,lt_iff_toNat_lt,UInt16.toNat_add,toNat_add,UInt64.toNat_one]
  split
  next carried =>
    split
    · split
      · simp_all; omega
      · simp_all; omega
    · split
      · simp_all; omega
      · simp_all; omega
  · split
    · simp_all; omega
    · simp_all; omega

theorem uScaledNsSub_value : (uScaledNsSub a b).value = (a.value + (2^96 - b.value)) % 2^96 := by
  rw [uScaledNsSub,uScaledNsAdd_value,minusUScaledNs_value,Nat.add_mod_mod]

theorem uScaledNsCmp_value : uScaledNsCmp a b = Int.sign ((a.value : Int) - b.value) := by
  have nanoseconds := a.nanoseconds.toNat_lt
  have fractional := a.fractionalNanoseconds.toNat_lt
  have nanoseconds' := b.nanoseconds.toNat_lt
  have fractional' := b.fractionalNanoseconds.toNat_lt
  have less : a.value < b.value → Int.sign ((a.value : Int) - b.value) = -1 := fun less => Int.sign_eq_neg_one_of_neg (by omega)
  have more : b.value < a.value → Int.sign ((a.value : Int) - b.value) = 1 := fun more => Int.sign_eq_one_of_pos (by omega)
  have same : a.value = b.value → Int.sign ((a.value : Int) - b.value) = 0 := fun same => by rw [same,Int.sub_self]; rfl
  unfold uScaledNsCmp
  simp only [gt_iff_lt,UInt16.lt_iff_toNat_lt,lt_iff_toNat_lt]
  unfold UScaledNs.value at *
  split
  · exact (less (by omega)).symm
  · split
    · exact (more (by omega)).symm
    · split
      · exact (less (by omega)).symm
      · split
        · exact (more (by omega)).symm
        · split
          · exact (less (by omega)).symm
          · split
            · exact (more (by omega)).symm
            · exact (same (by omega)).symm

theorem msb_zero_iff (a : UScaledNs) : a.nanosecondsMsb = 0 ↔ a.value < 2^80 := by
  have nanoseconds := a.nanoseconds.toNat_lt
  have fractional := a.fractionalNanoseconds.toNat_lt
  rw [← UInt16.toNat_inj]
  change a.nanosecondsMsb.toNat = 0 ↔ _
  unfold UScaledNs.value
  omega

end Values

section Signed
variable (a b : ScaledNs)

/-- The nanoseconds of a sum fit in 64 bits, with the carry of the fractions. -/
def ScaledNs.Uncarried (a b : ScaledNs) : Prop :=
  a.nanoseconds.toNat + b.nanoseconds.toNat + (a.fractionalNanoseconds.toNat + b.fractionalNanoseconds.toNat) / 2^16 <
    2^64

theorem scaledNsAdd_value : (scaledNsAdd a b).value = (a.value + b.value).bmod (2^96) ↔ a.Uncarried b := by
  have nanoseconds := a.nanoseconds.toNat_lt
  have fractional := a.fractionalNanoseconds.toNat_lt
  have nanoseconds' := b.nanoseconds.toNat_lt
  have fractional' := b.fractionalNanoseconds.toNat_lt
  unfold ScaledNs.value ScaledNs.Uncarried
  rw [Int.bmod_add_bmod,Int.add_bmod_bmod]
  unfold scaledNsAdd scaledNsToUScaledNs UScaledNs.value
  simp only [UInt16.lt_iff_toNat_lt,UInt16.toNat_add]
  split
  · rw [toNat_add,toNat_add]
    simp only [Int.bmod_def]
    simp
    omega
  · rw [toNat_add]
    simp only [Int.bmod_def]
    simp
    omega

end Signed

section Timestamps

def PtpExtendedTimestamp.Normal (a : PtpExtendedTimestamp) : Prop := a.fractionalNanosecondsMsb.toNat < 1000000000

theorem ptpExtendedTimestampToUScaledNs_value (a : PtpExtendedTimestamp) :
    (ptpExtendedTimestampToUScaledNs a).value = a.value := by
  have msb := a.secondsMsb.toNat_lt
  have lsb := a.secondsLsb.toNat_lt
  have nanoseconds := a.fractionalNanosecondsMsb.toNat_lt
  have tmp : (a.secondsMsb.toUInt64 * NSECS_PER_SEC).toNat = a.secondsMsb.toNat * 1000000000 := by
    rw [toNat_mul]
    exact Nat.mod_eq_of_lt (show a.secondsMsb.toNat * 1000000000 < 2^64 by omega)
  have tmp1 : (a.fractionalNanosecondsMsb.toUInt64 + a.secondsLsb.toUInt64 * NSECS_PER_SEC).toNat =
      a.fractionalNanosecondsMsb.toNat + a.secondsLsb.toNat * 1000000000 := by
    rw [toNat_add,toNat_mul]
    change (a.fractionalNanosecondsMsb.toNat + a.secondsLsb.toNat * 1000000000 % 2^64) % 2^64 = _
    omega
  unfold ptpExtendedTimestampToUScaledNs UScaledNs.value PtpExtendedTimestamp.value
  generalize a.secondsMsb.toUInt64 * NSECS_PER_SEC = first at tmp
  generalize a.fractionalNanosecondsMsb.toUInt64 + a.secondsLsb.toUInt64 * NSECS_PER_SEC = second at tmp1
  have high : (first >>> 32).toUInt16.toNat = first.toNat / 2^32 := by
    simp [Nat.shiftRight_eq_div_pow]
    omega
  have low : ((first &&& 0xffffffff) <<< 32).toNat = first.toNat % 2^32 * 2^32 := by
    rw [toNat_shiftLeft,toNat_and]
    change (first.toNat &&& (2^32 - 1)) <<< 32 % 2^64 = _
    rw [Nat.and_two_pow_sub_one_eq_mod,Nat.shiftLeft_eq]
    omega
  have sum : (second + (first &&& 0xffffffff) <<< 32).toNat = (second.toNat + first.toNat % 2^32 * 2^32) % 2^64 := by
    rw [toNat_add,low]
  simp only [lt_iff_toNat_lt]
  rw [if_neg (show ¬second.toNat < a.fractionalNanosecondsMsb.toUInt64.toNat by
    change ¬second.toNat < a.fractionalNanosecondsMsb.toNat
    omega)]
  split
  · have small : first.toNat / 2^32 + 1 < 2^16 := by omega
    rw [UInt16.toNat_add,high]
    change (first.toNat / 2^32 + 1) % 2^16 * 2^80 + _ + _ = _
    rw [Nat.mod_eq_of_lt small]
    omega
  · rw [high]
    omega

theorem uScaledNsToPtpExtendedTimestamp_value (a : UScaledNs) :
    (uScaledNsToPtpExtendedTimestamp a).value =
        (((a.nanoseconds.toNat / 1000000000 / 2^32 + a.nanosecondsMsb.toNat * 2^32 / 1000000000) % 2^16 * 2^32 +
          a.nanoseconds.toNat / 1000000000 % 2^32) * 1000000000 + a.nanoseconds.toNat % 1000000000) * 2^16 +
        a.fractionalNanoseconds.toNat ∧ (uScaledNsToPtpExtendedTimestamp a).Normal := by
  have msb := a.nanosecondsMsb.toNat_lt
  have bound := a.nanoseconds.toNat_lt
  have seconds : (a.nanoseconds / NSECS_PER_SEC).toNat = a.nanoseconds.toNat / 1000000000 := rfl
  have rest : (a.nanoseconds - a.nanoseconds / NSECS_PER_SEC * NSECS_PER_SEC).toUInt32.toNat =
      a.nanoseconds.toNat % 1000000000 := by
    rw [UInt64.toNat_toUInt32,UInt64.toNat_sub,toNat_mul,seconds]
    change (2^64 - a.nanoseconds.toNat / 1000000000 * 1000000000 % 2^64 + a.nanoseconds.toNat) % 2^64 % 2^32 = _
    omega
  have high : (a.nanosecondsMsb.toUInt64 <<< 32 / NSECS_PER_SEC).toUInt16.toNat =
      a.nanosecondsMsb.toNat * 2^32 / 1000000000 % 2^16 := by
    rw [toNat_toUInt16,UInt64.toNat_div,toNat_shiftLeft]
    change a.nanosecondsMsb.toNat <<< 32 % 2^64 / 1000000000 % 2^16 = _
    rw [Nat.shiftLeft_eq,Nat.mod_eq_of_lt (show a.nanosecondsMsb.toNat * 2^32 < 2^64 by omega)]
  have low : (a.nanoseconds / NSECS_PER_SEC &&& 0xffffffff).toUInt32.toNat =
      a.nanoseconds.toNat / 1000000000 % 2^32 := by
    change (a.nanoseconds.toNat / 1000000000 &&& (2^32 - 1)) % 2^32 = _
    rw [Nat.and_two_pow_sub_one_eq_mod,Nat.mod_mod]
  have top : ((a.nanoseconds / NSECS_PER_SEC) >>> 32).toUInt16.toNat = a.nanoseconds.toNat / 1000000000 / 2^32 := by
    change (a.nanoseconds.toNat / 1000000000) >>> 32 % 2^16 = _
    omega
  unfold uScaledNsToPtpExtendedTimestamp PtpExtendedTimestamp.value PtpExtendedTimestamp.Normal
  dsimp only
  rw [UInt16.toNat_add,rest,high,low,top]
  exact ⟨by omega,Nat.mod_lt _ (by decide)⟩

theorem fives_coprime : Nat.Coprime 1953125 (2^32) := by norm_num

theorem msb_remainder {msb : Nat} (some : 0 < msb) (bound : msb < 2^16) : msb * 2^32 % 1000000000 ≠ 0 := by
  intro whole
  have factor : 1953125 ∣ msb * 2^32 :=
    Nat.dvd_trans (show 1953125 ∣ 1000000000 by norm_num) (Nat.dvd_of_mod_eq_zero whole)
  have divides : 1953125 ∣ msb := Nat.Coprime.dvd_of_dvd_mul_right fives_coprime factor
  have least := Nat.le_of_dvd some divides
  clear whole factor divides
  omega

theorem uScaledNsToPtpExtendedTimestamp_exact (a : UScaledNs) :
    (uScaledNsToPtpExtendedTimestamp a).value = a.value ↔ a.nanosecondsMsb = 0 := by
  have msb := a.nanosecondsMsb.toNat_lt
  have bound := a.nanoseconds.toNat_lt
  rw [(uScaledNsToPtpExtendedTimestamp_value a).1,← UInt16.toNat_inj]
  change _ ↔ a.nanosecondsMsb.toNat = 0
  unfold UScaledNs.value
  have most := Nat.div_add_mod (a.nanosecondsMsb.toNat * 2^32) 1000000000
  have least := Nat.div_add_mod a.nanoseconds.toNat 1000000000
  have seconds := Nat.div_add_mod (a.nanoseconds.toNat / 1000000000) (2^32)
  constructor
  · intro same
    by_contra some
    have lost := Nat.pos_of_ne_zero (msb_remainder (Nat.pos_of_ne_zero some) msb)
    have kept := Nat.mod_le (a.nanoseconds.toNat / 1000000000 / 2^32 + a.nanosecondsMsb.toNat * 2^32 / 1000000000) (2^16)
    linarith
  · intro none
    have few : a.nanoseconds.toNat / 1000000000 / 2^32 < 2^16 := by omega
    rw [none,Nat.zero_mul,Nat.zero_div,Nat.add_zero,Nat.mod_eq_of_lt few,Nat.mul_comm _ (2^32),seconds,
      Nat.mul_comm _ 1000000000,least,Nat.zero_mul,Nat.zero_add]

theorem UScaledNs.value_inj {a b : UScaledNs} (same : a.value = b.value) : a = b := by
  have nanoseconds := a.nanoseconds.toNat_lt
  have fractional := a.fractionalNanoseconds.toNat_lt
  have nanoseconds' := b.nanoseconds.toNat_lt
  have fractional' := b.fractionalNanoseconds.toNat_lt
  unfold UScaledNs.value at same
  cases a
  cases b
  simp only [UScaledNs.mk.injEq,← UInt16.toNat_inj,← UInt64.toNat_inj] at *
  omega

theorem PtpExtendedTimestamp.value_inj {a b : PtpExtendedTimestamp} (normal : a.Normal) (normal' : b.Normal)
    (same : a.value = b.value) : a = b := by
  have lsb := a.secondsLsb.toNat_lt
  have fractional := a.fractionalNanosecondsLsb.toNat_lt
  have lsb' := b.secondsLsb.toNat_lt
  have fractional' := b.fractionalNanosecondsLsb.toNat_lt
  unfold PtpExtendedTimestamp.value at same
  unfold PtpExtendedTimestamp.Normal at normal normal'
  cases a
  cases b
  simp only [PtpExtendedTimestamp.mk.injEq,← UInt16.toNat_inj,← UInt32.toNat_inj] at *
  omega

theorem timestamp_returns {a : PtpExtendedTimestamp} (normal : a.Normal) :
    uScaledNsToPtpExtendedTimestamp (ptpExtendedTimestampToUScaledNs a) = a ↔ a.value < 2^80 := by
  have value := ptpExtendedTimestampToUScaledNs_value a
  have exact := uScaledNsToPtpExtendedTimestamp_exact (ptpExtendedTimestampToUScaledNs a)
  have normal' := (uScaledNsToPtpExtendedTimestamp_value (ptpExtendedTimestampToUScaledNs a)).2
  rw [value] at exact
  have returns : uScaledNsToPtpExtendedTimestamp (ptpExtendedTimestampToUScaledNs a) = a ↔
      (uScaledNsToPtpExtendedTimestamp (ptpExtendedTimestampToUScaledNs a)).value = a.value :=
    ⟨congrArg PtpExtendedTimestamp.value,PtpExtendedTimestamp.value_inj normal' normal⟩
  rw [returns,exact,← value]
  exact msb_zero_iff _

theorem scaledNs_returns (a : UScaledNs) :
    ptpExtendedTimestampToUScaledNs (uScaledNsToPtpExtendedTimestamp a) = a ↔ a.nanosecondsMsb = 0 := by
  rw [← uScaledNsToPtpExtendedTimestamp_exact,← ptpExtendedTimestampToUScaledNs_value]
  exact ⟨congrArg UScaledNs.value,UScaledNs.value_inj⟩

end Timestamps

section Corrections

theorem int64_bits (x : Int64) : (x.toUInt64.toNat : Int) = x.toInt % 2^64 := by
  have inside := x.toUInt64.toNat_lt
  have same : x.toInt = (x.toUInt64.toNat : Int).bmod (2^64) := BitVec.toInt_eq_toNat_bmod x.toBitVec
  rw [same,Int.bmod_def]
  split <;> omega

theorem int64_high (x : Int64) : ((x >>> 16).toUInt64.toNat : Int) = x.toInt / 2^16 % 2^64 := by
  rw [int64_bits]
  have shifted : (x >>> 16).toInt = x.toInt >>> (16 : Nat) := BitVec.toInt_sshiftRight
  rw [shifted,Int.shiftRight_eq_div_pow]
  rfl

theorem int64_low (x : Int64) : (((x &&& 0xffff).toUInt64.toUInt16.toNat : Nat) : Int) = x.toInt % 2^16 := by
  have bits := int64_bits x
  have low : (x &&& 0xffff).toUInt64.toUInt16.toNat = x.toUInt64.toNat % 2^16 := by
    change (x.toUInt64.toNat &&& (2^16 - 1)) % 2^16 = _
    rw [Nat.and_two_pow_sub_one_eq_mod,Nat.mod_mod]
  omega

theorem ScaledNs.value_inj {a b : ScaledNs} (same : a.value = b.value) : a = b := by
  have bound := (scaledNsToUScaledNs a).value_lt
  have bound' := (scaledNsToUScaledNs b).value_lt
  unfold ScaledNs.value at same
  have equal : scaledNsToUScaledNs a = scaledNsToUScaledNs b := by
    apply UScaledNs.value_inj
    simp only [Int.bmod_def] at same
    omega
  cases a
  cases b
  simpa [scaledNsToUScaledNs] using equal

theorem small_bmod {size : Nat} (small : size < 2^95) : (size : Int).bmod (2^96) = size := by
  simp only [Int.bmod_def,Nat.reducePow,Nat.cast_ofNat] at *
  omega

theorem complement_bmod {size : Nat} (some : 0 < size) (small : size ≤ 2^95) :
    (((2^96 - size) % 2^96 : Nat) : Int).bmod (2^96) = -size := by
  simp only [Int.bmod_def,Nat.reducePow,Nat.cast_ofNat] at *
  omega

theorem magnitude_value {host : Int64} (positive : 0 ≤ host.toInt) :
    ((⟨0,(host >>> 16).toUInt64,(host &&& 0xffff).toUInt64.toUInt16⟩ : UScaledNs).value : Int) = host.toInt := by
  have below := host.toInt_lt
  have high := int64_high host
  have low := int64_low host
  have value : (⟨0,(host >>> 16).toUInt64,(host &&& 0xffff).toUInt64.toUInt16⟩ : UScaledNs).value =
      (host >>> 16).toUInt64.toNat * 65536 + (host &&& 0xffff).toUInt64.toUInt16.toNat := by
    unfold UScaledNs.value
    rw [UInt16.toNat_zero,Nat.zero_mul,Nat.zero_add]
    rfl
  rw [value]
  clear value
  generalize (host >>> 16).toUInt64.toNat = whole at *
  generalize (host &&& 0xffff).toUInt64.toUInt16.toNat = fraction at *
  omega

theorem pduCorrectionFieldToScaledNs_value (correction : Int64) :
    (pduCorrectionFieldToScaledNs correction).value = correction.toInt ↔ correction ≠ minValue := by
  have least := correction.le_toInt
  have most := correction.toInt_lt
  have negative : (-correction).toInt = (-correction.toInt).bmod (2^64) := toInt_neg correction
  have signed (a : UScaledNs) : (uScaledNsToScaledNs a).value = (a.value : Int).bmod (2^96) := rfl
  by_cases same : correction = minValue
  · subst same
    decide
  · have other : correction.toInt ≠ minValue.toInt := fun equal => same (toInt_inj.mp equal)
    rw [toInt_minValue] at other
    refine iff_of_true ?_ same
    unfold pduCorrectionFieldToScaledNs
    rw [signed]
    split
    next below =>
      have below : correction.toInt < 0 := lt_iff_toInt_lt.mp below
      have host : (-correction).toInt = -correction.toInt := by
        rw [negative]
        simp only [Int.bmod_def,Nat.reducePow,Nat.cast_ofNat]
        omega
      have value := @magnitude_value (-correction) (by omega)
      rw [host] at value
      rw [minusUScaledNs_value]
      generalize UScaledNs.value _ = size at value ⊢
      rw [complement_bmod (by omega) (by omega),value,Int.neg_neg]
    next above =>
      have above : ¬correction.toInt < 0 := fun below => above (lt_iff_toInt_lt.mpr below)
      have value := @magnitude_value correction (by omega)
      generalize UScaledNs.value _ = size at value ⊢
      rw [small_bmod (by omega),value]

theorem scaledNsToPduCorrectionField_value (a : ScaledNs) :
    (scaledNsToPduCorrectionField a).toInt = a.value.bmod (2^64) := by
  have msb := a.nanosecondsMsb.toNat_lt
  have nanoseconds := a.nanoseconds.toNat_lt
  have fractional := a.fractionalNanoseconds.toNat_lt
  have sign : (a.nanosecondsMsb &&& 0x8000 ≠ 0) ↔ 2^15 ≤ a.nanosecondsMsb.toNat := by
    rw [ne_eq,← UInt16.toNat_inj,UInt16.toNat_and]
    change ¬a.nanosecondsMsb.toNat &&& 2^15 = 0 ↔ _
    rw [Nat.and_two_pow,Nat.testBit_eq_decide_div_mod_eq]
    by_cases high : a.nanosecondsMsb.toNat / 2^15 % 2 = 1
    · rw [decide_eq_true high]
      exact iff_of_true (by decide) (by omega)
    · rw [decide_eq_false high]
      exact iff_of_false (by decide) (by omega)
  have host (b : UScaledNs) : (b.fractionalNanoseconds.toUInt64 + b.nanoseconds <<< 16).toInt64.toInt =
      (b.value : Int).bmod (2^64) := by
    have sum : (b.fractionalNanoseconds.toUInt64 + b.nanoseconds <<< 16).toNat = b.value % 2^64 := by
      change (b.fractionalNanoseconds.toNat + b.nanoseconds.toNat <<< 16 % 2^64) % 2^64 = _
      unfold UScaledNs.value
      omega
    generalize b.fractionalNanoseconds.toUInt64 + b.nanoseconds <<< 16 = bits at sum
    have same : bits.toInt64.toInt = (bits.toNat : Int).bmod (2^64) := BitVec.toInt_eq_toNat_bmod bits.toBitVec
    rw [same,sum,Int.natCast_emod]
    exact Int.emod_bmod (b.value : Int) (2^64)
  have value : a.value = ((scaledNsToUScaledNs a).value : Int).bmod (2^96) := rfl
  have size : (scaledNsToUScaledNs a).value =
    a.nanosecondsMsb.toNat * 2^80 + a.nanoseconds.toNat * 2^16 + a.fractionalNanoseconds.toNat := rfl
  unfold scaledNsToPduCorrectionField
  rw [value]
  by_cases negative : a.nanosecondsMsb &&& 0x8000 ≠ 0
  · have high := sign.mp negative
    rw [if_pos negative,if_pos negative,toInt_neg,host,minusUScaledNs_value,Int.bmod_neg_bmod]
    generalize (scaledNsToUScaledNs a).value = all at size
    have whole : (2^96 - all) % 2^96 = 2^96 - all := by omega
    have complement : (all : Int).bmod (2^96) = -((2^96 - all : Nat) : Int) := by
      simp only [Int.bmod_def,Nat.reducePow,Nat.cast_ofNat] at *
      omega
    rw [whole,complement]
  · have low := mt sign.mpr negative
    rw [if_neg negative,if_neg negative,host]
    generalize (scaledNsToUScaledNs a).value = all at size
    rw [small_bmod (by omega)]

theorem correction_returns (correction : Int64) :
    scaledNsToPduCorrectionField (pduCorrectionFieldToScaledNs correction) = correction := by
  by_cases same : correction = minValue
  · subst same
    decide
  · apply toInt_inj.mp
    rw [scaledNsToPduCorrectionField_value,(pduCorrectionFieldToScaledNs_value correction).mpr same]
    exact Int.bmod_eq_of_le (le_toInt correction) (toInt_lt correction)

theorem scaledNs_correction_returns {a : ScaledNs} (least : -2^63 ≤ a.value) (most : a.value < 2^63) :
    pduCorrectionFieldToScaledNs (scaledNsToPduCorrectionField a) = a ↔ a.value ≠ -2^63 := by
  have value : (scaledNsToPduCorrectionField a).toInt = a.value := by
    rw [scaledNsToPduCorrectionField_value]
    exact Int.bmod_eq_of_le least most
  have exact := pduCorrectionFieldToScaledNs_value (scaledNsToPduCorrectionField a)
  have least : scaledNsToPduCorrectionField a = minValue ↔ a.value = -2^63 := by
    rw [← toInt_inj,value,toInt_minValue]
  rw [value,ne_eq,least] at exact
  rw [ne_eq,← exact]
  exact ⟨congrArg ScaledNs.value,ScaledNs.value_inj⟩

end Corrections

/-- Operands of every operation. A timestamp has less than a second of nanoseconds, a time to convert has seconds of 48
bits, and a signed number to convert is a correction. -/
structure ScaledNsOperands where
  a : UScaledNs
  b : UScaledNs
  first : ScaledNs
  second : ScaledNs
  timestamp : PtpExtendedTimestamp
  normal : timestamp.Normal
  time : UScaledNs
  representable : time.value < 2^48 * 1000000000 * 2^16
  correction : Int64
  signed : ScaledNs
  fits : signed.value = correction.toInt

namespace ScaledNsOperands

/-- The operations are those of the integers modulo 2⁹⁶, and the conversions are inverse to each other. -/
structure Exact (x : ScaledNsOperands) : Prop where
  add : (uScaledNsAdd x.a x.b).value = (x.a.value + x.b.value) % 2^96
  sub : (uScaledNsSub x.a x.b).value = (x.a.value + (2^96 - x.b.value)) % 2^96
  cmp : uScaledNsCmp x.a x.b = Int.sign ((x.a.value : Int) - x.b.value)
  signedAdd : (scaledNsAdd x.first x.second).value = (x.first.value + x.second.value).bmod (2^96)
  timestamp : uScaledNsToPtpExtendedTimestamp (ptpExtendedTimestampToUScaledNs x.timestamp) = x.timestamp
  time : ptpExtendedTimestampToUScaledNs (uScaledNsToPtpExtendedTimestamp x.time) = x.time
  correction : scaledNsToPduCorrectionField (pduCorrectionFieldToScaledNs x.correction) = x.correction
  signed : pduCorrectionFieldToScaledNs (scaledNsToPduCorrectionField x.signed) = x.signed

/-- Nothing is carried into the most significant part of a signed sum, the nanoseconds of a time fit in 64 bits, and a
correction has a negative. -/
structure Fit (x : ScaledNsOperands) : Prop where
  sum : x.first.Uncarried x.second
  timestamp : x.timestamp.value < 2^80
  time : x.time.value < 2^80
  correction : x.correction ≠ minValue

end ScaledNsOperands

theorem scaledNs_exact (x : ScaledNsOperands) : x.Exact ↔ x.Fit := by
  have time := (scaledNs_returns x.time).trans (msb_zero_iff x.time)
  have least := x.correction.le_toInt
  have most := x.correction.toInt_lt
  have signed : pduCorrectionFieldToScaledNs (scaledNsToPduCorrectionField x.signed) = x.signed ↔
      x.correction ≠ minValue := by
    rw [scaledNs_correction_returns (by rwa [x.fits]) (by rwa [x.fits]),x.fits,ne_eq,ne_eq,← toInt_inj,
      toInt_minValue]
  constructor
  · intro exact'
    exact ⟨(scaledNsAdd_value _ _).mp exact'.signedAdd,(timestamp_returns x.normal).mp exact'.timestamp,
      time.mp exact'.time,signed.mp exact'.signed⟩
  · intro fit
    exact ⟨uScaledNsAdd_value _ _,uScaledNsSub_value _ _,uScaledNsCmp_value _ _,(scaledNsAdd_value _ _).mpr fit.sum,
      (timestamp_returns x.normal).mpr fit.timestamp,time.mpr fit.time,correction_returns _,signed.mpr fit.correction⟩

/-- The sum of -1 ns and 2 ns. -/
theorem signed_sum_borrows : ¬∀ x : ScaledNsOperands, x.Exact := by
  intro exact'
  let operands : ScaledNsOperands := {
    a := ⟨0,0,0⟩
    b := ⟨0,0,0⟩
    first := ⟨0xffff,0xffffffffffffffff,0⟩
    second := ⟨0,2,0⟩
    timestamp := ⟨0,0,0,0⟩
    normal := show (0 : Nat) < 1000000000 by decide
    time := ⟨0,0,0⟩
    representable := by decide
    correction := 0
    signed := ⟨0,0,0⟩
    fits := by decide }
  have sum := (exact' operands).signedAdd
  revert sum
  decide

end Genavb.Common
