import Genavb.Srp.Mrp.Expansion
import Genavb.Srp.Mrp.Invariant

/-! Events of a vector that are not attribute events: a packed byte above 215 yields the event 6 or 7 in its first
slot, and the range check refuses 7 only, after the attribute was looked up or created. -/
namespace Genavb.Mrp
open Support AttributeEvent MrpClient

variable {σ : Type}

/-- The event with which `mrp_process_attribute` runs the machines of an attribute, if it does. -/
def machineEvent (type : AttrType) (val : List UInt8) (event : Option AttributeEvent) (alloc : AllocOutcome)
    (app : MrpApplication (List UInt8)) : Option AttributeEvent :=
  if !app.enabled then none else
  match mrpGetAttribute type val alloc app with
  | (_,none) => none
  | (_,some _) => event

/-- A delivery of a vector handler, with what an allocation would meet. LeaveAll events are not among them. -/
def MrpClient.deliver (client : MrpClient (List UInt8) σ) (input : Delivery × AllocOutcome) (state : σ) : σ :=
  match input.1 with
  | .leaveAll _ => state
  | .attribute type val event =>
    client.mrpProcessAttribute (Fin.ofNat 5 type) val (ofCode event) input.2 state

/-- A value is processed with one of the six events, or it leaves the application as it was. -/
def MrpClient.Harmless (client : MrpClient (List UInt8) σ) (state : σ) (input : Delivery × AllocOutcome) : Prop :=
  match input.1 with
  | .leaveAll _ => False
  | .attribute type val event =>
    (∃ legal, ofCode event = some legal ∧ legal ≠ .LVA) ∨
      machineEvent (Fin.ofNat 5 type) val (ofCode event) input.2 (client.app state) = none ∧
        client.app (client.deliver input state) = client.app state

/-- The event is legal, the application is disabled, the attribute is missing and there is no memory for it, or it
exists and the event is out of range. A list that holds a freed attribute is read all the same. -/
def Spared (app : MrpApplication (List UInt8)) (input : Delivery × AllocOutcome) : Prop :=
  match input.1 with
  | .leaveAll _ => False
  | .attribute type val event =>
    event < 6 ∨ app.enabled = false ∨
      match mrpFindAttribute (Fin.ofNat 5 type) val app with
      | .missing => input.2 = .noMemory
      | .found _ => 6 < event
      | .stale => app.fault = true

theorem ofCode_legal (event : Nat) : (∃ legal, ofCode event = some legal ∧ legal ≠ .LVA) ↔ event < 6 := by
  constructor
  · rintro ⟨legal,found,other⟩
    by_contra beyond
    unfold ofCode at found
    split at found
    all_goals first | omega | cases found
    exact other rfl
  · intro below
    have events : event = 0 ∨ event = 1 ∨ event = 2 ∨ event = 3 ∨ event = 4 ∨ event = 5 := by omega
    rcases events with rfl | rfl | rfl | rfl | rfl | rfl <;> exact ⟨_,rfl,nofun⟩

theorem mrpAllocAttribute_taken (type : AttrType) (val : List UInt8) {alloc : AllocOutcome} (room : alloc ≠ .noMemory)
    (app : MrpApplication (List UInt8)) : (mrpAllocAttribute type val alloc app).1.nextId = app.nextId + 1 := by
  cases alloc with
  | noMemory => exact absurd rfl room
  | noTimer => rfl
  | ok applicant registrar =>
    rw [mrpAllocAttribute_ok]
    dsimp only
    split <;> rfl

section Value
variable {client : MrpClient (List UInt8) σ} (lawful : ∀ app state, client.app (client.setApp app state) = app)
  (type : AttrType) (val : List UInt8) (alloc : AllocOutcome) (state : σ)
include lawful

theorem processAttribute_refused (event : Option AttributeEvent) (refused : event = none ∨
    (mrpGetAttribute type val alloc (client.app state)).2 = none) (on : (client.app state).enabled = true) :
    client.app (client.mrpProcessAttribute type val event alloc state) =
      (mrpGetAttribute type val alloc (client.app state)).1 := by
  unfold mrpProcessAttribute
  simp only [on,Bool.not_true,Bool.false_eq_true,if_false]
  generalize mrpGetAttribute type val alloc (client.app state) = result at refused ⊢
  obtain ⟨app,id⟩ := result
  cases id with
  | none => exact lawful _ _
  | some id =>
    rcases refused with rfl | absent
    · exact lawful _ _
    · cases absent

theorem illegal_spared {event : Nat} (illegal : 6 ≤ event) :
    (machineEvent type val (ofCode event) alloc (client.app state) = none ∧
      client.app (client.mrpProcessAttribute type val (ofCode event) alloc state) = client.app state) ↔
        (client.app state).enabled = false ∨
          match mrpFindAttribute type val (client.app state) with
          | .missing => alloc = .noMemory
          | .found _ => 6 < event
          | .stale => (client.app state).fault = true := by
  cases on : (client.app state).enabled with
  | false => simp [machineEvent,mrpProcessAttribute,on]
  | true =>
    have refused := processAttribute_refused lawful type val alloc state (ofCode event)
    simp only [machineEvent,on,Bool.not_true,Bool.false_eq_true,if_false,Bool.true_eq_false,false_or]
    cases find : mrpFindAttribute type val (client.app state) with
    | found id =>
      have got : mrpGetAttribute type val alloc (client.app state) = (client.app state,some id) := by
        rw [mrpGetAttribute,find]
      rw [got] at refused ⊢
      constructor
      · rintro ⟨none,-⟩
        by_contra equal
        have six : event = 6 := by omega
        subst six
        cases none
      · intro beyond
        have none : ofCode event = none := by
          obtain ⟨more,rfl⟩ := Nat.exists_eq_add_of_le beyond
          rw [show 6 + 1 + more = more + 7 by omega]
          rfl
        exact ⟨none,refused (.inl none) on⟩
    | stale =>
      have got : mrpGetAttribute type val alloc (client.app state) = ((client.app state).faulted,none) := by
        rw [mrpGetAttribute,find]
      rw [got] at refused ⊢
      rw [refused (.inr rfl) on]
      constructor
      · rintro ⟨-,same⟩
        exact (congrArg MrpApplication.fault same).symm
      · intro fault
        refine ⟨rfl,?_⟩
        simp only [MrpApplication.faulted,← fault]
    | missing =>
      have got : mrpGetAttribute type val alloc (client.app state) =
          mrpAllocAttribute type val alloc (client.app state) := by
        rw [mrpGetAttribute,find]
      rw [got] at refused ⊢
      constructor
      · rintro ⟨none,same⟩
        by_contra room
        have taken := mrpAllocAttribute_taken type val room (client.app state)
        have unprocessed : ofCode event = Option.none ∨
            (mrpAllocAttribute type val alloc (client.app state)).2 = Option.none := by
          generalize mrpAllocAttribute type val alloc (client.app state) = result at none
          obtain ⟨app,id⟩ := result
          cases id with
          | none => exact .inr rfl
          | some id => exact .inl none
        rw [refused unprocessed on] at same
        rw [same] at taken
        exact absurd taken (Nat.ne_of_lt (Nat.lt_succ_self _))
      · rintro rfl
        exact ⟨rfl,refused (.inr rfl) on⟩

end Value

theorem harmless_spared {client : MrpClient (List UInt8) σ}
    (lawful : ∀ app state, client.app (client.setApp app state) = app) (state : σ) (input : Delivery × AllocOutcome) :
    client.Harmless state input ↔ Spared (client.app state) input := by
  obtain ⟨delivery,alloc⟩ := input
  match delivery with
  | .leaveAll type => exact Iff.rfl
  | .attribute type val event =>
    unfold Harmless Spared deliver
    dsimp only
    rw [ofCode_legal]
    by_cases legal : event < 6
    · simp [legal]
    · rw [illegal_spared lawful _ _ _ _ (Nat.le_of_not_lt legal)]

theorem threePacked_illegal (packed : UInt8) {slot : Nat} (inside : slot < 3) :
    6 ≤ (mrpGetThreePackedEvent packed)[slot]?.getD 0 ↔ slot = 0 ∧ 215 < packed.toNat := by
  have slots : slot = 0 ∨ slot = 1 ∨ slot = 2 := by omega
  rcases slots with rfl | rfl | rfl
  · simp [mrpGetThreePackedEvent]
    omega
  · simp [mrpGetThreePackedEvent]
    omega
  · simp [mrpGetThreePackedEvent]
    omega

theorem vectorHandler_events {app : SrpApp} {type length : Nat} (check : app.attributeCheck type length = true)
    (memory : Memory) (vectorData number : Nat) {delivery : Delivery}
    (member : delivery ∈ app.vectorHandler memory type length vectorData number) :
    ∃ val i, i < number ∧ delivery = .attribute type val (eventAt memory (vectorData + length) i) ∧
      (6 ≤ eventAt memory (vectorData + length) i ↔
        i % 3 = 0 ∧ 215 < (memory (vectorData + length + i / 3)).toNat) := by
  rw [vectorHandler_items check] at member
  obtain ⟨i,inside,found⟩ := List.mem_filterMap.mp member
  have illegal := threePacked_illegal (memory (vectorData + length + i / 3)) (Nat.mod_lt i (by decide : 0 < 3))
  unfold vectorItem at found
  dsimp only at found
  split at found
  · split at found
    · cases found
    · exact ⟨_,i,List.mem_range.mp inside,(Option.some.inj found).symm,illegal⟩
  · exact ⟨_,i,List.mem_range.mp inside,(Option.some.inj found).symm,illegal⟩

/-- A vector leaves nothing of an illegal event exactly if every value that has one, in the first slot of a byte above
215, meets an application that is spared. -/
theorem vector_harmless {client : MrpClient (List UInt8) σ}
    (lawful : ∀ app state, client.app (client.setApp app state) = app) {app : SrpApp} {type length : Nat}
    (check : app.attributeCheck type length = true) (memory : Memory) (vectorData number : Nat)
    (inputs : List (Delivery × AllocOutcome))
    (received : inputs.map Prod.fst = app.vectorHandler memory type length vectorData number) (start : σ) :
    (Steps client.deliver client.Harmless inputs start ↔
      Steps client.deliver (fun state => Spared (client.app state)) inputs start) ∧
    ∀ input ∈ inputs, ∃ val i, i < number ∧
      input.1 = .attribute type val (eventAt memory (vectorData + length) i) ∧
      (6 ≤ eventAt memory (vectorData + length) i ↔
        i % 3 = 0 ∧ 215 < (memory (vectorData + length + i / 3)).toNat) := by
  refine ⟨?_,?_⟩
  · exact @steps_iff _ _ client.deliver _ _ (fun _ => True) (fun state input _ => harmless_spared lawful state input)
      (fun _ _ _ _ => trivial) inputs start trivial
  · intro input member
    apply vectorHandler_events check
    rw [← received]
    exact List.mem_map_of_mem member

/-- A vector of two VLAN identifiers with the events JoinIn and New. -/
theorem vector_harmless_legal :
    (Steps (scripted fun _ _ => []).deliver (scripted fun _ _ => []).Harmless
        [(.attribute 1 [0,2] 1,.ok .VO .MT),(.attribute 1 [0,3] 0,.noMemory)]
        (mrpInit (.ofMvrp 5000 (by decide)) 10000) ↔
      Steps (scripted fun _ _ => []).deliver (fun state => Spared ((scripted fun _ _ => []).app state))
        [(.attribute 1 [0,2] 1,.ok .VO .MT),(.attribute 1 [0,3] 0,.noMemory)]
        (mrpInit (.ofMvrp 5000 (by decide)) 10000)) ∧
    ∀ input ∈ [(Delivery.attribute 1 [0,2] 1,AllocOutcome.ok .VO .MT),(Delivery.attribute 1 [0,3] 0,.noMemory)],
      ∃ val i, i < 2 ∧ input.1 = .attribute 1 val
        (eventAt (fun i => ([0,2,36] : List UInt8)[i]?.getD 0) (0 + 2) i) ∧
      (6 ≤ eventAt (fun i => ([0,2,36] : List UInt8)[i]?.getD 0) (0 + 2) i ↔
        i % 3 = 0 ∧ 215 < ((fun i => ([0,2,36] : List UInt8)[i]?.getD 0) (0 + 2 + i / 3) : UInt8).toNat) :=
  @vector_harmless _ (scripted fun _ _ => []) (fun _ _ => rfl) .MVRP 1 2 (by decide)
    (fun i => ([0,2,36] : List UInt8)[i]?.getD 0) 0 2 _ (by decide) _

def illegalFrame : Memory := fun i =>
  ([0x01,0x80,0xc2,0x00,0x00,0x21,0x00,0x04,0x9f,0x00,0x00,0x01,0x88,0xf5,0x00,0x01,0x02,0x00,0x01,0x00,0x02,
    0xd8,0x00,0x00,0x00,0x00] : List UInt8)[i]?.getD 0

/-- The value is created as an attribute and a LeaveAll event is processed for it. -/
theorem illegalFrame_processed :
    mrpProcessPacket .MVRP true illegalFrame 26 = ([.attribute 1 [0,2] 6],some true) ∧
      machineEvent 1 [0,2] (AttributeEvent.ofCode 6) (.ok .VO .MT) (mrpInit (.ofMvrp 5000 (by decide)) 10000) =
        some .LVA ∧
      ¬Steps (scripted fun _ _ => []).deliver (scripted fun _ _ => []).Harmless
        [(.attribute 1 [0,2] 6,.ok .VO .MT)] (mrpInit (.ofMvrp 5000 (by decide)) 10000) := by
  refine ⟨by decide,by decide,?_⟩
  rintro ⟨⟨legal,found,other⟩ | ⟨unprocessed,-⟩,-⟩
  · cases found
    exact other rfl
  · revert unprocessed
    decide

end Genavb.Mrp
