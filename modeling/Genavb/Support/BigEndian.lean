import Mathlib.Data.Prod.Lex
import Mathlib.Tactic.Common
import Mathlib.Data.List.Induction
import Mathlib.Data.Nat.ModEq

/-! Comparison of records laid out in memory: `memcmp` on big-endian fields is the
lexicographic order of the fields. -/
namespace Genavb.Support

def bigEndian : Nat → Nat → List Nat
  | 0,_ => []
  | width + 1,value => value / 256 ^ width % 256 :: bigEndian width value

def memcmp : List Nat → List Nat → Ordering
  | x :: xs,y :: ys => (compare x y).then (memcmp xs ys)
  | _,_ => .eq

@[simp] theorem bigEndian_length (width value : Nat) : (bigEndian width value).length = width := by
  induction width with
  | zero => rfl
  | succ width ih => simp [bigEndian,ih]

theorem memcmp_append {as bs : List Nat} (same : as.length = bs.length) (cs ds : List Nat) :
    memcmp (as ++ cs) (bs ++ ds) = (memcmp as bs).then (memcmp cs ds) := by
  induction as generalizing bs with
  | nil =>
    cases bs with
    | nil => rfl
    | cons _ _ => simp at same
  | cons x xs ih =>
    cases bs with
    | nil => simp at same
    | cons y ys =>
      have shorter : xs.length = ys.length := by simpa using same
      simp only [List.cons_append,memcmp]
      rw [ih shorter,Ordering.then_assoc]

theorem compare_digits {base x y p q : Nat} (hp : p < base) (hq : q < base) :
    compare (p + base * x) (q + base * y) = (compare x y).then (compare p q) := by
  rcases Nat.lt_trichotomy x y with less | rfl | more
  · have room : base * x + base ≤ base * y := by
      exact Nat.mul_le_mul_left base less
    rw [Nat.compare_eq_lt.mpr less,Nat.compare_eq_lt.mpr (by omega)]
    rfl
  · rw [Nat.compare_eq_eq.mpr rfl]
    rcases Nat.lt_trichotomy p q with less | rfl | more
    · rw [Nat.compare_eq_lt.mpr less,Nat.compare_eq_lt.mpr (by omega)]
      rfl
    · rw [Nat.compare_eq_eq.mpr rfl,Nat.compare_eq_eq.mpr rfl]
      rfl
    · rw [Nat.compare_eq_gt.mpr more,Nat.compare_eq_gt.mpr (by omega)]
      rfl
  · have room : base * y + base ≤ base * x := by
      exact Nat.mul_le_mul_left base more
    rw [Nat.compare_eq_gt.mpr more,Nat.compare_eq_gt.mpr (by omega)]
    rfl

theorem memcmp_bigEndian_mod (width a b : Nat) :
    memcmp (bigEndian width a) (bigEndian width b) = compare (a % 256 ^ width) (b % 256 ^ width) := by
  induction width with
  | zero => simp [bigEndian,memcmp,Nat.mod_one]
  | succ width ih =>
    have small (value : Nat) : value % 256 ^ width < 256 ^ width :=
      Nat.mod_lt _ (Nat.pow_pos (by decide))
    rw [Nat.mod_pow_succ,Nat.mod_pow_succ,compare_digits (small a) (small b)]
    simp only [bigEndian,memcmp,ih]

theorem memcmp_bigEndian {width a b : Nat} (ha : a < 256 ^ width) (hb : b < 256 ^ width) :
    memcmp (bigEndian width a) (bigEndian width b) = compare a b := by
  rw [memcmp_bigEndian_mod,Nat.mod_eq_of_lt ha,Nat.mod_eq_of_lt hb]

section Lex
variable {α β : Type} [LinearOrder α] [LinearOrder β]

theorem compare_toLex (a c : α) (b d : β) :
    compare (toLex (a,b)) (toLex (c,d)) = (compare a c).then (compare b d) := by
  rfl

theorem compare_of_lt_iff (f : α → β) (order : ∀ a b, a < b ↔ f a < f b) (a b : α) :
    compare a b = compare (f a) (f b) := by
  rcases lt_trichotomy a b with less | rfl | more
  · rw [compare_lt_iff_lt.mpr less,compare_lt_iff_lt.mpr ((order a b).mp less)]
  · rw [compare_eq_iff_eq.mpr rfl,compare_eq_iff_eq.mpr rfl]
  · rw [compare_gt_iff_gt.mpr more,compare_gt_iff_gt.mpr ((order b a).mp more)]

end Lex

end Genavb.Support

/-! Numbers in network order, and records with a field that is counted up in place. -/
namespace Genavb.Support
open List

def bytesNat (bytes : List UInt8) : Nat := bytes.foldl (fun value byte => value * 256 + byte.toNat) 0

def natBytes : Nat → Nat → List UInt8
  | 0,_ => []
  | width + 1,value => natBytes width (value / 256) ++ [UInt8.ofNat value]

@[simp] theorem natBytes_length (width value : Nat) : (natBytes width value).length = width := by
  induction width generalizing value with
  | zero => rfl
  | succ width ih => simp [natBytes,ih]

theorem bytesNat_snoc (bytes : List UInt8) (byte : UInt8) :
    bytesNat (bytes ++ [byte]) = bytesNat bytes * 256 + byte.toNat := by
  simp [bytesNat]

theorem bytesNat_natBytes (width value : Nat) : bytesNat (natBytes width value) = value % 256 ^ width := by
  induction width generalizing value with
  | zero => simp [natBytes,bytesNat,Nat.mod_one]
  | succ width ih =>
    rw [natBytes,bytesNat_snoc,ih,Nat.pow_succ',Nat.mod_mul]
    simp only [UInt8.toNat_ofNat']
    omega

theorem natBytes_bytesNat (bytes : List UInt8) : natBytes bytes.length (bytesNat bytes) = bytes := by
  induction bytes using List.reverseRecOn with
  | nil => rfl
  | append_singleton front byte ih =>
    have small : byte.toNat < 256 := byte.toNat_lt
    rw [bytesNat_snoc,length_append,length_singleton,natBytes]
    rw [show (bytesNat front * 256 + byte.toNat) / 256 = bytesNat front by omega,ih]
    congr 2
    apply UInt8.toNat_inj.mp
    simp only [UInt8.toNat_ofNat']
    omega

theorem natBytes_inj {width first second : Nat} :
    natBytes width first = natBytes width second ↔ first % 256 ^ width = second % 256 ^ width := by
  constructor
  · intro same
    rw [← bytesNat_natBytes,← bytesNat_natBytes,same]
  · intro same
    have one := natBytes_bytesNat (natBytes width first)
    have two := natBytes_bytesNat (natBytes width second)
    rw [natBytes_length,bytesNat_natBytes] at one two
    rw [← one,← two,same]

/-- The `width` bytes of a record at `place`, counted up by `i` without a carry out of the field. -/
def addField (place width i : Nat) (record : List UInt8) : List UInt8 :=
  record.take place ++
    (natBytes width (bytesNat ((record.drop place).take width) + i) ++ record.drop (place + width))

section Field
variable {place width i j : Nat} {record : List UInt8}

theorem addField_append (front field back : List UInt8) (i : Nat) :
    addField front.length field.length i (front ++ (field ++ back)) =
      front ++ (natBytes field.length (bytesNat field + i) ++ back) := by
  have behind : (front ++ (field ++ back)).drop (front.length + field.length) = back := by
    rw [← append_assoc,← length_append,drop_left]
  unfold addField
  rw [take_left,drop_left,take_left,behind]

section
variable (inside : place + width ≤ record.length)
include inside

theorem field_split : ∃ front field back,
    record = front ++ (field ++ back) ∧ front.length = place ∧ field.length = width := by
  refine ⟨record.take place,(record.drop place).take width,(record.drop place).drop width,?_,?_,?_⟩
  · rw [take_append_drop,take_append_drop]
  · rw [length_take]
    omega
  · rw [length_take,length_drop]
    omega

theorem addField_length : (addField place width i record).length = record.length := by
  obtain ⟨front,field,back,rfl,rfl,rfl⟩ := field_split inside
  simp [addField_append]

theorem addField_zero : addField place width 0 record = record := by
  obtain ⟨front,field,back,rfl,rfl,rfl⟩ := field_split inside
  rw [addField_append,Nat.add_zero,natBytes_bytesNat]

theorem addField_add :
    addField place width j (addField place width i record) = addField place width (i + j) record := by
  obtain ⟨front,field,back,rfl,rfl,rfl⟩ := field_split inside
  rw [addField_append,addField_append]
  have again := addField_append front (natBytes field.length (bytesNat field + i)) back j
  rw [natBytes_length] at again
  rw [again]
  congr 2
  rw [natBytes_inj,bytesNat_natBytes,Nat.mod_add_mod,Nat.add_assoc]

end

theorem addField_comm {later size : Nat} (apart : place + width ≤ later) (inside : later + size ≤ record.length) :
    addField later size j (addField place width i record) =
      addField place width i (addField later size j record) := by
  obtain ⟨front,last,back,rfl,rfl,rfl⟩ := field_split inside
  obtain ⟨left,field,middle,rfl,rfl,rfl⟩ := field_split apart
  have one := addField_append left field (middle ++ (last ++ back)) i
  have two := addField_append (left ++ (field ++ middle)) last back j
  have three := addField_append left field (middle ++ (natBytes last.length (bytesNat last + j) ++ back)) i
  have four := addField_append (left ++ (natBytes field.length (bytesNat field + i) ++ middle)) last back j
  simp only [append_assoc,length_append,natBytes_length] at one two three four ⊢
  rw [one,two,three,four]

theorem addFields_iterate {later size : Nat} (apart : place + width ≤ later)
    (inside : later + size ≤ record.length) (n : Nat) :
    (fun record => addField later size 1 (addField place width 1 record))^[n] record =
      addField later size n (addField place width n record) := by
  have first : place + width ≤ record.length := by omega
  induction n with
  | zero =>
    rw [addField_zero first,addField_zero inside]
    rfl
  | succ n ih =>
    rw [Function.iterate_succ_apply',ih]
    have kept : (addField place width n record).length = record.length := addField_length first
    rw [← addField_comm apart (by rw [kept]; exact inside),addField_add first,addField_add (by
      rw [addField_length first]
      exact inside)]

theorem addField_iterate (inside : place + width ≤ record.length) (n : Nat) :
    (addField place width 1)^[n] record = addField place width n record := by
  induction n with
  | zero => exact (addField_zero inside).symm
  | succ n ih => rw [Function.iterate_succ_apply',ih,addField_add inside]

theorem addField_behind (inside : place + width ≤ record.length) {index : Nat} (beyond : place + width ≤ index) :
    (addField place width i record)[index]? = record[index]? := by
  obtain ⟨front,field,back,rfl,rfl,rfl⟩ := field_split inside
  have first : front.length ≤ index := by omega
  have second : field.length ≤ index - front.length := by omega
  rw [addField_append,List.getElem?_append_right first,List.getElem?_append_right first,
    List.getElem?_append_right (natBytes_length _ _ ▸ second),List.getElem?_append_right second,natBytes_length]

theorem addField_last {byte : UInt8} (found : record[place + width]? = some byte) :
    addField (place + width) 1 i record = addField place (width + 1) i record ↔
      (byte.toNat + i) / 256 % 256 ^ width = 0 := by
  have inside : place + (width + 1) ≤ record.length := (List.getElem?_eq_some_iff.mp found).1
  obtain ⟨front,field,back,rfl,rfl,size⟩ := field_split inside
  obtain ⟨middle,last,rfl⟩ := (eq_nil_or_concat field).resolve_left (by rintro rfl; cases size)
  have width : middle.length = width := by simpa using size
  subst width
  have same : last = byte := by simpa using found
  subst same
  have counted := addField_append (front ++ middle) [last] back i
  have whole := addField_append front (middle ++ [last]) back i
  clear found inside
  simp only [concat_eq_append,append_assoc,length_append,length_singleton,bytesNat_snoc,cons_append,
    nil_append] at counted whole ⊢
  rw [counted,whole]
  have split : (bytesNat middle * 256 + last.toNat + i) / 256 = bytesNat middle + (last.toNat + i) / 256 := by omega
  have low : UInt8.ofNat (bytesNat middle * 256 + last.toNat + i) = UInt8.ofNat (last.toNat + i) := by
    apply UInt8.toNat_inj.mp
    simp only [UInt8.toNat_ofNat']
    omega
  have kept := natBytes_bytesNat middle
  simp only [natBytes,bytesNat,foldl_cons,foldl_nil,Nat.zero_mul,Nat.zero_add,nil_append,append_assoc,
    append_cancel_left_eq,singleton_append]
  rw [show List.foldl (fun value (byte : UInt8) => value * 256 + byte.toNat) 0 middle = bytesNat middle from rfl,split,low,
    append_cancel_right_eq]
  nth_rewrite 1 [← kept]
  rw [natBytes_inj]
  constructor
  · intro same
    have carry : bytesNat middle + 0 ≡ bytesNat middle + (last.toNat + i) / 256 [MOD 256 ^ middle.length] := same
    have none : (last.toNat + i) / 256 % 256 ^ middle.length = 0 % 256 ^ middle.length :=
      (Nat.ModEq.add_left_cancel' _ carry).symm
    rw [none,Nat.zero_mod]
  · intro none
    rw [Nat.add_mod,none,Nat.add_zero,Nat.mod_mod]

end Field

end Genavb.Support
