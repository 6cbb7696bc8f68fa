import Genavb.Support.BigEndian
import Genavb.Srp.Mrp.Quiet

/-! What the vector handlers make of a vector: the value and the event of every index, and the bytes they read. -/
namespace Genavb.Mrp
open Support VectorCursor List Function

def eventAt (memory : Memory) (packed i : Nat) :
    Nat := (mrpGetThreePackedEvent (memory (packed + i / 3)))[i % 3]?.getD 0

namespace SrpApp

def declares (app : SrpApp) (type : Nat) : Bool := app = .MSRP && type = MSRP_ATTR_TYPE_LISTENER

def talker (app : SrpApp) (type : Nat) : Bool :=
  app = .MSRP && (type = MSRP_ATTR_TYPE_TALKER_ADVERTISE || type = MSRP_ATTR_TYPE_TALKER_FAILED)

def increment (app : SrpApp) (type : Nat) : List UInt8 → List UInt8 :=
  match app with
  | .MVRP => mvrpIncrement
  | .MSRP => if type = MSRP_ATTR_TYPE_DOMAIN then msrpIncrementDomain else msrpIncrementStream type

/-- firstValue counted up: the VLAN identifier, class and priority of a domain, the unique identifier of a stream and
with it the destination address of a talker. -/
def valueAt (app : SrpApp) (type : Nat) (fv : List UInt8) (i : Nat) : List UInt8 :=
  match app with
  | .MVRP => addField 0 2 i fv
  | .MSRP =>
    if type = MSRP_ATTR_TYPE_DOMAIN then addField 1 1 i (addField 0 1 i fv)
    else if type = MSRP_ATTR_TYPE_LISTENER then addField 6 2 i fv
    else addField 8 6 i (addField 6 2 i fv)

end SrpApp

/-- What is delivered for an index: nothing when a listener declares Ignore. -/
def vectorItem (app : SrpApp) (memory : Memory) (type length vectorData number : Nat) (value : Nat → List UInt8)
    (i : Nat) : Option Delivery :=
  let event := eventAt memory (vectorData + length) i
  if app.declares type then
    let declarationType := declarationAt memory (vectorData + length + (number + 2) / 3) i
    if declarationType = 0 then none
    else some (.attribute type ((value i).take 8 ++ [UInt8.ofNat declarationType]) event)
  else some (.attribute type (value i) event)

def expansion (app : SrpApp) (memory : Memory) (type length vectorData number : Nat) : List Delivery :=
  (List.range number).filterMap
    (vectorItem app memory type length vectorData number (app.valueAt type (bytesAt memory vectorData length)))

namespace VectorCursor

def loaded (memory : Memory) (declares : Bool) (i : Nat) (cursor : VectorCursor) : VectorCursor :=
  let cursor := cursor.loadEvents memory i
  if declares then cursor.loadDeclarations memory i else cursor

def after (memory : Memory) (declares : Bool) (next : List UInt8 → List UInt8) (start : VectorCursor) :
    Nat → VectorCursor
  | 0 => start
  | i + 1 => ((after memory declares next start i).loaded memory declares i).increment next

/-- The loop over a vector stands at index `i` of the packed events. -/
structure EventsAt (memory : Memory) (packed i : Nat) (cursor : VectorCursor) : Prop where
  place : cursor.threePacked = packed + (i + 2) / 3
  unpacked : i % 3 ≠ 0 → cursor.event = mrpGetThreePackedEvent (memory (packed + i / 3))

theorem EventsAt.load {memory : Memory} {packed i : Nat} {cursor : VectorCursor}
    (here : cursor.EventsAt memory packed i) :
    (cursor.loadEvents memory i).event = mrpGetThreePackedEvent (memory (packed + i / 3)) ∧
      (cursor.loadEvents memory i).threePacked = packed + (i + 1 + 2) / 3 := by
  unfold loadEvents
  split
  next fresh =>
    rw [here.place]
    exact ⟨by rw [show (i + 2) / 3 = i / 3 by omega],by dsimp only; omega⟩
  next inside =>
    rw [here.place]
    exact ⟨here.unpacked inside,by omega⟩

theorem loadDeclarations_events (memory : Memory) (i : Nat) (cursor : VectorCursor) :
    (cursor.loadDeclarations memory i).event = cursor.event ∧
      (cursor.loadDeclarations memory i).threePacked = cursor.threePacked ∧
      (cursor.loadDeclarations memory i).fv = cursor.fv := by
  unfold loadDeclarations
  split <;> exact ⟨rfl,rfl,rfl⟩

theorem loadEvents_declarations (memory : Memory) (i : Nat) (cursor : VectorCursor) :
    (cursor.loadEvents memory i).declarationType = cursor.declarationType ∧
      (cursor.loadEvents memory i).fourPacked = cursor.fourPacked ∧ (cursor.loadEvents memory i).fv = cursor.fv := by
  unfold loadEvents
  split <;> exact ⟨rfl,rfl,rfl⟩

theorem loaded_events (memory : Memory) (declares : Bool) (i : Nat) (cursor : VectorCursor) :
    (cursor.loaded memory declares i).event = (cursor.loadEvents memory i).event ∧
      (cursor.loaded memory declares i).threePacked = (cursor.loadEvents memory i).threePacked ∧
      (cursor.loaded memory declares i).fv = cursor.fv := by
  have kept := (loadEvents_declarations memory i cursor).2.2
  cases declares with
  | false => exact ⟨rfl,rfl,kept⟩
  | true =>
    obtain ⟨event,place,fv⟩ := loadDeclarations_events memory i (cursor.loadEvents memory i)
    exact ⟨event,place,fv.trans kept⟩

section After
variable {memory : Memory} {declares : Bool} {next : List UInt8 → List UInt8} {start : VectorCursor}

theorem after_fv (i : Nat) : (after memory declares next start i).fv = next^[i] start.fv := by
  induction i with
  | zero => rfl
  | succ i ih =>
    rw [iterate_succ_apply',← ih]
    exact congrArg next (loaded_events memory declares i _).2.2

theorem after_events (i : Nat) : (after memory declares next start i).EventsAt memory start.threePacked i := by
  induction i with
  | zero => exact ⟨rfl,fun inside => absurd rfl inside⟩
  | succ i ih =>
    obtain ⟨event,place⟩ := ih.load
    obtain ⟨same,still,-⟩ := loaded_events memory declares i (after memory declares next start i)
    refine ⟨still.trans place,?_⟩
    intro inside
    rw [show (i + 1) / 3 = i / 3 by omega,← event]
    exact same

theorem after_declarations (i : Nat) : (after memory true next start i).At memory start.fourPacked i := by
  induction i with
  | zero => exact ⟨rfl,fun inside => absurd rfl inside⟩
  | succ i ih =>
    obtain ⟨unpacked,place⟩ := ih.next
    refine ⟨place,?_⟩
    intro inside
    rw [show (i + 1) / 4 = i / 4 by omega]
    exact unpacked

end After

end VectorCursor

section Loops
variable {memory : Memory} {type : Nat} {start : VectorCursor}

theorem loadEvents_at (declares : Bool) (next : List UInt8 → List UInt8) (i : Nat) :
    ((after memory declares next start i).loadEvents memory i).event[i % 3]?.getD 0 =
        eventAt memory start.threePacked i ∧
      ((after memory declares next start i).loadEvents memory i).fv = next^[i] start.fv := by
  have events := @after_events memory declares next start i
  refine ⟨?_,?_⟩
  · rw [events.load.1]
    rfl
  · rw [(loadEvents_declarations memory i _).2.2,after_fv]

theorem plainLoop_items (next : List UInt8 → List UInt8) (left i : Nat) :
    plainLoop memory type next (.after memory false next start i) i left =
      (List.range' i left).map fun j => .attribute type (next^[j] start.fv) (eventAt memory start.threePacked j) := by
  induction left generalizing i with
  | zero => rfl
  | succ left ih =>
    obtain ⟨event,fv⟩ := @loadEvents_at memory start false next i
    rw [plainLoop,List.range'_succ,map_cons,← ih (i + 1),event,fv]
    rfl

theorem talkerLoop_items (talker : type ≠ MSRP_ATTR_TYPE_LISTENER) (left i : Nat) :
    msrpStreamLoop memory type (.after memory false (msrpIncrementStream type) start i) i left =
      (List.range' i left).map fun j =>
        .attribute type ((msrpIncrementStream type)^[j] start.fv) (eventAt memory start.threePacked j) := by
  induction left generalizing i with
  | zero => rfl
  | succ left ih =>
    obtain ⟨event,fv⟩ := @loadEvents_at memory start false (msrpIncrementStream type) i
    rw [msrpStreamLoop,List.range'_succ,map_cons,← ih (i + 1)]
    rw [if_neg talker,event,fv]
    rfl

theorem listenerLoop_items (left i : Nat) :
    msrpStreamLoop memory MSRP_ATTR_TYPE_LISTENER
        (.after memory true (msrpIncrementStream MSRP_ATTR_TYPE_LISTENER) start i) i left =
      (List.range' i left).filterMap fun j =>
        if declarationAt memory start.fourPacked j = 0 then none
        else some (.attribute MSRP_ATTR_TYPE_LISTENER
          (((msrpIncrementStream MSRP_ATTR_TYPE_LISTENER)^[j] start.fv).take 8 ++
            [UInt8.ofNat (declarationAt memory start.fourPacked j)]) (eventAt memory start.threePacked j)) := by
  induction left generalizing i with
  | zero => rfl
  | succ left ih =>
    obtain ⟨event,fv⟩ := @loadEvents_at memory start true (msrpIncrementStream MSRP_ATTR_TYPE_LISTENER) i
    have here := @after_declarations memory (msrpIncrementStream MSRP_ATTR_TYPE_LISTENER) start i
    have kept := loadDeclarations_events memory i ((after memory true
      (msrpIncrementStream MSRP_ATTR_TYPE_LISTENER) start i).loadEvents memory i)
    have declared : (((after memory true (msrpIncrementStream MSRP_ATTR_TYPE_LISTENER) start i).loadEvents
        memory i).loadDeclarations memory i).declarationType[i % 4]?.getD 0 = declarationAt memory start.fourPacked i := by
      rw [here.next.1]
      rfl
    have rest := ih (i + 1)
    rw [msrpStreamLoop,List.range'_succ,filterMap_cons,← rest]
    dsimp only
    rw [if_pos rfl,declared,event,kept.2.2,fv]
    split
    next ignored => rfl
    next present => rfl

end Loops

section Increments
variable {fv : List UInt8} {type : Nat}

theorem incrementAt_field {place : Nat} (inside : place + 2 ≤ fv.length) :
    incrementAt place fv = addField place 2 1 fv := by
  obtain ⟨front,field,back,rfl,rfl,two⟩ := field_split inside
  obtain ⟨high,low,rfl⟩ := length_eq_two.mp two
  have added := addField_append front [high,low] back 1
  rw [show [high,low].length = 2 from rfl] at added
  rw [added]
  simp [incrementAt,natBytes,bytesNat]
  refine ⟨?_,?_⟩
  · apply UInt8.toNat_inj.mp
    simp only [UInt8.toNat_ofNat']
    omega
  · apply UInt8.toNat_inj.mp
    simp only [UInt8.toNat_ofNat',UInt8.toNat_add,UInt8.reduceToNat]
    omega

theorem incrementByte_field {place : Nat} (inside : place + 1 ≤ fv.length) :
    incrementByte place fv = addField place 1 1 fv := by
  obtain ⟨front,field,back,rfl,rfl,one⟩ := field_split inside
  obtain ⟨byte,rfl⟩ := length_eq_one_iff.mp one
  have added := addField_append front [byte] back 1
  rw [show [byte].length = 1 from rfl] at added
  rw [added]
  simp [incrementByte,natBytes,bytesNat]

theorem iterate_congr {first second : List UInt8 → List UInt8} {length : Nat}
    (same : ∀ fv, fv.length = length → first fv = second fv) (kept : ∀ fv, fv.length = length → (second fv).length = length)
    (long : fv.length = length) (i : Nat) : first^[i] fv = second^[i] fv ∧ (second^[i] fv).length = length := by
  induction i with
  | zero => exact ⟨rfl,long⟩
  | succ i ih =>
    rw [iterate_succ_apply',iterate_succ_apply',ih.1]
    exact ⟨same _ ih.2,kept _ ih.2⟩

/-- The value that a loop has at hand for an index: the address of a talker is counted in its last byte only. -/
def SrpApp.countedAt (app : SrpApp) (type : Nat) (fv : List UInt8) (i : Nat) : List UInt8 :=
  if app.talker type then addField 13 1 i (addField 6 2 i fv) else app.valueAt type fv i

variable {length : Nat}

theorem streams_iterate (talker : type = MSRP_ATTR_TYPE_TALKER_ADVERTISE ∨ type = MSRP_ATTR_TYPE_TALKER_FAILED)
    (size : 14 ≤ length) (long : fv.length = length) (i : Nat) :
    (msrpIncrementStream type)^[i] fv = addField 13 1 i (addField 6 2 i fv) := by
  have step : ∀ fv : List UInt8, fv.length = length →
      msrpIncrementStream type fv = addField 13 1 1 (addField 6 2 1 fv) := by
    intro fv long
    have first : (addField 6 2 1 fv).length = fv.length := addField_length (by omega)
    unfold msrpIncrementStream
    rw [if_pos talker,incrementAt_field (by omega),incrementByte_field (by omega)]
  have stepped := @iterate_congr fv _ (fun fv => addField 13 1 1 (addField 6 2 1 fv)) length step (by
    intro fv long
    have first : (addField 6 2 1 fv).length = fv.length := addField_length (by omega)
    rw [addField_length (by omega),first,long]) long i
  rw [stepped.1,addFields_iterate (by omega) (by omega)]

theorem listeners_iterate (size : 8 ≤ length) (long : fv.length = length) (i : Nat) :
    (msrpIncrementStream MSRP_ATTR_TYPE_LISTENER)^[i] fv = addField 6 2 i fv := by
  have stepped := @iterate_congr fv (msrpIncrementStream MSRP_ATTR_TYPE_LISTENER) (addField 6 2 1) length
    (fun fv long => incrementAt_field (by omega)) (fun fv long => (addField_length (by omega)).trans long) long i
  rw [stepped.1,addField_iterate (by omega)]

theorem domains_iterate (size : 2 ≤ length) (long : fv.length = length) (i : Nat) :
    msrpIncrementDomain^[i] fv = addField 1 1 i (addField 0 1 i fv) := by
  have stepped := @iterate_congr fv msrpIncrementDomain (fun fv => addField 1 1 1 (addField 0 1 1 fv)) length (by
    intro fv long
    have first : incrementByte 0 fv = addField 0 1 1 fv := incrementByte_field (by omega)
    have kept : (addField 0 1 1 fv).length = fv.length := addField_length (by omega)
    unfold msrpIncrementDomain
    rw [first,incrementByte_field (by omega)]) (by
    intro fv long
    have first : (addField 0 1 1 fv).length = fv.length := addField_length (by omega)
    rw [addField_length (by omega),first,long]) long i
  rw [stepped.1,addFields_iterate (by omega) (by omega)]

theorem vlans_iterate (size : 2 ≤ length) (long : fv.length = length) (i : Nat) :
    mvrpIncrement^[i] fv = addField 0 2 i fv := by
  have stepped := @iterate_congr fv mvrpIncrement (addField 0 2 1) length
    (fun fv long => incrementAt_field (by omega)) (fun fv long => (addField_length (by omega)).trans long) long i
  rw [stepped.1,addField_iterate (by omega)]

end Increments

variable {app : SrpApp} {type : Nat}

theorem attributeCheck_cases {length : Nat} (check : app.attributeCheck type length = true) :
    (app = .MVRP ∧ type = MVRP_ATTR_TYPE_VID ∧ length = 2) ∨
    (app = .MSRP ∧ type = MSRP_ATTR_TYPE_DOMAIN ∧ length = 4) ∨
    (app = .MSRP ∧ type = MSRP_ATTR_TYPE_LISTENER ∧ length = 8) ∨
    (app = .MSRP ∧ app.talker type = true ∧
      (type = MSRP_ATTR_TYPE_TALKER_ADVERTISE ∨ type = MSRP_ATTR_TYPE_TALKER_FAILED) ∧ 14 ≤ length) := by
  cases app with
  | MVRP =>
    simp only [SrpApp.attributeCheck,mvrpAttributeCheck,Bool.and_eq_true,beq_iff_eq] at check
    exact .inl ⟨rfl,check⟩
  | MSRP =>
    simp only [SrpApp.attributeCheck,msrpAttributeCheck,Bool.and_eq_true,beq_iff_eq,bne_iff_ne,
      decide_eq_true_eq] at check
    obtain ⟨⟨present,below⟩,rfl⟩ := check
    have types : type = 1 ∨ type = 2 ∨ type = 3 ∨ type = 4 := by omega
    rcases types with rfl | rfl | rfl | rfl
    · exact .inr (.inr (.inr ⟨rfl,rfl,.inl rfl,by decide⟩))
    · exact .inr (.inr (.inr ⟨rfl,rfl,.inr rfl,by decide⟩))
    · exact .inr (.inr (.inl ⟨rfl,rfl,rfl⟩))
    · exact .inr (.inl ⟨rfl,rfl,rfl⟩)

theorem increment_iterate {length : Nat} (check : app.attributeCheck type length = true)
    {fv : List UInt8} (long : fv.length = length) (i : Nat) : (app.increment type)^[i] fv = app.countedAt type fv i := by
  rcases attributeCheck_cases check with ⟨rfl,rfl,rfl⟩ | ⟨rfl,rfl,rfl⟩ | ⟨rfl,rfl,rfl⟩ | ⟨rfl,talks,talker,size⟩
  · exact vlans_iterate (Nat.le_refl 2) long i
  · exact domains_iterate (by decide : 2 ≤ 4) long i
  · exact listeners_iterate (Nat.le_refl 8) long i
  · have other : type ≠ MSRP_ATTR_TYPE_DOMAIN := by
      rcases talker with rfl | rfl <;> decide
    unfold SrpApp.increment SrpApp.countedAt
    rw [if_pos talks,if_neg other]
    exact streams_iterate talker size long i

theorem vectorItem_plain (silent : app.declares type = false) (memory : Memory)
    (length vectorData number : Nat) (value : Nat → List UInt8) (i : Nat) :
    vectorItem app memory type length vectorData number value i =
      some (.attribute type (value i) (eventAt memory (vectorData + length) i)) := by
  simp [vectorItem,silent]

theorem vectorHandler_items {length : Nat} (check : app.attributeCheck type length = true)
    (memory : Memory) (vectorData number : Nat) :
    app.vectorHandler memory type length vectorData number = (List.range number).filterMap
      (vectorItem app memory type length vectorData number (app.countedAt type (bytesAt memory vectorData length))) := by
  have counted := fun i => increment_iterate check (bytesAt_length memory vectorData length) i
  rw [← funext counted,range_eq_range']
  have mapped : app.declares type = false → (List.range' 0 number).filterMap (vectorItem app memory type length vectorData
      number fun i => (app.increment type)^[i] (bytesAt memory vectorData length)) = (List.range' 0 number).map fun j =>
        .attribute type ((app.increment type)^[j] (bytesAt memory vectorData length))
          (eventAt memory (vectorData + length) j) := by
    intro silent
    rw [← filterMap_eq_map]
    congr 1
    funext j
    exact vectorItem_plain silent _ _ _ _ _ _
  rcases attributeCheck_cases check with ⟨rfl,rfl,rfl⟩ | ⟨rfl,rfl,rfl⟩ | ⟨rfl,rfl,rfl⟩ | ⟨rfl,talks,talker,size⟩
  · rw [mapped rfl]
    exact @plainLoop_items memory MVRP_ATTR_TYPE_VID (vectorCursor memory vectorData 2 number) mvrpIncrement number 0
  · rw [mapped rfl]
    exact @plainLoop_items memory MSRP_ATTR_TYPE_DOMAIN (vectorCursor memory vectorData 4 number) msrpIncrementDomain number 0
  · exact @listenerLoop_items memory (vectorCursor memory vectorData 8 number) number 0
  · have other : type ≠ MSRP_ATTR_TYPE_LISTENER := by
      rcases talker with rfl | rfl <;> decide
    have plain : type ≠ MSRP_ATTR_TYPE_DOMAIN := by
      rcases talker with rfl | rfl <;> decide
    have stream : type = MSRP_ATTR_TYPE_TALKER_ADVERTISE ∨ type = MSRP_ATTR_TYPE_TALKER_FAILED ∨
        type = MSRP_ATTR_TYPE_LISTENER := by
      rcases talker with rfl | rfl
      · exact .inl rfl
      · exact .inr (.inl rfl)
    rw [mapped (by simp [SrpApp.declares,other])]
    simp only [SrpApp.vectorHandler,msrpVectorHandler,if_pos stream,SrpApp.increment,if_neg plain]
    exact @talkerLoop_items memory type (vectorCursor memory vectorData length number) other number 0

theorem unpack_three {first second third : Nat} (one : first < 6) (two : second < 6) (three : third < 6) :
    mrpGetThreePackedEvent (mrpThreePackedEvent first second third) = [first,second,third] := by
  have packed : (mrpThreePackedEvent first second third).toNat = (first * 6 + second) * 6 + third := by
    simp only [mrpThreePackedEvent,UInt8.toNat_ofNat']
    omega
  simp only [mrpGetThreePackedEvent,packed,List.cons.injEq,and_true]
  omega

theorem unpack_four {first second third fourth : Nat} (one : first < 4) (two : second < 4) (three : third < 4)
    (four : fourth < 4) :
    mrpGetFourPackedEvent (mrpFourPackedEvent first second third fourth) = [first,second,third,fourth] := by
  have packed : (mrpFourPackedEvent first second third fourth).toNat =
      ((first * 4 + second) * 4 + third) * 4 + fourth := by
    simp only [mrpFourPackedEvent,UInt8.toNat_ofNat']
    omega
  simp only [mrpGetFourPackedEvent,packed,List.cons.injEq,and_true]
  omega

structure VectorExpanded (app : SrpApp) (memory : Memory) (type length vectorData number : Nat) : Prop where
  delivered : app.vectorHandler memory type length vectorData number =
    expansion app memory type length vectorData number
  consumed : (if app.declares type then (after memory true (app.increment type)
      (vectorCursor memory vectorData length number) number).fourPacked
    else (after memory false (app.increment type)
      (vectorCursor memory vectorData length number) number).threePacked) =
        vectorData + length + app.eventLength type number
  three : ∀ first second third, first < 6 → second < 6 → third < 6 →
    mrpGetThreePackedEvent (mrpThreePackedEvent first second third) = [first,second,third]
  four : ∀ first second third fourth, first < 4 → second < 4 → third < 4 → fourth < 4 →
    mrpGetFourPackedEvent (mrpFourPackedEvent first second third fourth) = [first,second,third,fourth]

theorem vector_consumed (app : SrpApp) (memory : Memory) (type length vectorData number : Nat) :
    (if app.declares type then (after memory true (app.increment type)
        (vectorCursor memory vectorData length number) number).fourPacked
      else (after memory false (app.increment type)
        (vectorCursor memory vectorData length number) number).threePacked) =
          vectorData + length + app.eventLength type number := by
  have four := (@after_declarations memory (app.increment type)
    (vectorCursor memory vectorData length number) number).place
  have three := (@after_events memory false (app.increment type)
    (vectorCursor memory vectorData length number) number).place
  simp only [vectorCursor] at four three ⊢
  rw [four,three]
  cases app with
  | MVRP => rfl
  | MSRP =>
    by_cases listener : type = MSRP_ATTR_TYPE_LISTENER
    · simp [SrpApp.declares,SrpApp.eventLength,msrpEventLength,listener,Nat.add_assoc]
    · simp [SrpApp.declares,SrpApp.eventLength,msrpEventLength,listener]

theorem expansion_talker (silent : app.declares type = false) (memory : Memory)
    (length vectorData number : Nat) (first second : Nat → List UInt8) :
    (List.range number).filterMap (vectorItem app memory type length vectorData number first) =
        (List.range number).filterMap (vectorItem app memory type length vectorData number second) ↔
      ∀ i < number, first i = second i := by
  have mapped : ∀ value : Nat → List UInt8,
      (List.range number).filterMap (vectorItem app memory type length vectorData number value) =
        (List.range number).map fun i => Delivery.attribute type (value i) (eventAt memory (vectorData + length) i) := by
    intro value
    rw [← filterMap_eq_map]
    congr 1
    funext i
    exact vectorItem_plain silent _ _ _ _ _ _
  rw [mapped,mapped,map_inj_left]
  simp

/-- The vectors of all types are expanded as they should be, but those of talkers only as long as the last byte of the
destination address does not overflow. -/
theorem vector_expanded {app : SrpApp} {type length : Nat} (check : app.attributeCheck type length = true)
    (memory : Memory) (vectorData number : Nat) :
    VectorExpanded app memory type length vectorData number ↔
      (app.talker type = true → (memory (vectorData + 13)).toNat + number ≤ 256) := by
  have packed : VectorExpanded app memory type length vectorData number ↔
      app.vectorHandler memory type length vectorData number = expansion app memory type length vectorData number :=
    ⟨VectorExpanded.delivered,fun delivered => ⟨delivered,vector_consumed _ _ _ _ _ _,
      fun _ _ _ => unpack_three,fun _ _ _ _ => unpack_four⟩⟩
  rw [packed,vectorHandler_items check,expansion]
  cases talks : app.talker type with
  | false =>
    have same : app.countedAt type (bytesAt memory vectorData length) =
        app.valueAt type (bytesAt memory vectorData length) := by
      funext i
      simp [SrpApp.countedAt,talks]
    rw [same]
    simp
  | true =>
    have talker : app = .MSRP ∧ (type = MSRP_ATTR_TYPE_TALKER_ADVERTISE ∨ type = MSRP_ATTR_TYPE_TALKER_FAILED) := by
      simpa [SrpApp.talker] using talks
    obtain ⟨rfl,kind⟩ := talker
    have size : 14 ≤ length := by
      rcases attributeCheck_cases check with ⟨other,-⟩ | ⟨-,domain,-⟩ | ⟨-,listener,-⟩ | ⟨-,-,-,size⟩
      · cases other
      · rcases kind with rfl | rfl <;> cases domain
      · rcases kind with rfl | rfl <;> cases listener
      · exact size
    have silent : SrpApp.declares .MSRP type = false := by
      rcases kind with rfl | rfl <;> rfl
    have long := bytesAt_length memory vectorData length
    have value : ∀ i, SrpApp.countedAt .MSRP type (bytesAt memory vectorData length) i =
        SrpApp.valueAt .MSRP type (bytesAt memory vectorData length) i ↔
          ((memory (vectorData + 13)).toNat + i) / 256 % 256 ^ 5 = 0 := by
      intro i
      have behind : (addField 6 2 i (bytesAt memory vectorData length))[13]? = some (memory (vectorData + 13)) := by
        rw [addField_behind (by omega) (by decide)]
        simp [bytesAt,show 13 < length by omega]
      have last := @addField_last 8 5 i _ _ behind
      have plain : type ≠ MSRP_ATTR_TYPE_DOMAIN ∧ type ≠ MSRP_ATTR_TYPE_LISTENER := by
        rcases kind with rfl | rfl <;> decide
      simp only [SrpApp.countedAt,talks,if_true,SrpApp.valueAt,if_neg plain.1,if_neg plain.2]
      exact last
    rw [expansion_talker silent]
    simp only [value,forall_const]
    constructor
    · intro none
      have small := (memory (vectorData + 13)).toNat_lt
      by_contra beyond
      have carry := none (256 - (memory (vectorData + 13)).toNat) (by omega)
      rw [show (memory (vectorData + 13)).toNat + (256 - (memory (vectorData + 13)).toNat) = 256 by omega] at carry
      simp at carry
    · intro short i below
      rw [Nat.div_eq_of_lt (by omega)]
      rfl

theorem vector_expanded_vlans :
    VectorExpanded .MVRP (fun _ => 255) MVRP_ATTR_TYPE_VID 2 0 4 ↔
      (SrpApp.talker .MVRP MVRP_ATTR_TYPE_VID = true → (255 : UInt8).toNat + 4 ≤ 256) :=
  vector_expanded (by decide) (fun _ => 255) 0 4

def carryFrame : Memory := fun i =>
  ([0x01,0x80,0xc2,0x00,0x00,0x0e,0x00,0x04,0x9f,0x00,0x00,0x01,0x22,0xea,0x00,0x01,0x19,0x00,0x1e,0x00,0x02,
    0x00,0x04,0x9f,0x00,0x00,0x01,0x00,0x01,0x91,0xe0,0xf0,0x00,0x0e,0xff] : List UInt8)[i]?.getD 0

/-- The parser accepts the frame; the second address keeps its fifth byte. -/
theorem carryFrame_delivered : (mrpProcessPacket .MSRP true carryFrame 51).2 = some true ∧
    ¬VectorExpanded .MSRP carryFrame MSRP_ATTR_TYPE_TALKER_ADVERTISE 25 21 2 := by
  refine ⟨by decide,?_⟩
  intro expanded
  have delivered := expanded.delivered
  revert delivered
  decide

end Genavb.Mrp
