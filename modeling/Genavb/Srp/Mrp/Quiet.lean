import Genavb.Srp.Mrp.Codec

/-! Bytes in which the parser finds nothing to deliver and nothing to refuse. -/
namespace Genavb.Mrp
open Support SrpApp ParseOutcome List

def declarationAt (memory : Memory) (packed i : Nat) : Nat :=
  (mrpGetFourPackedEvent (memory (packed + i / 4)))[i % 4]?.getD 0

/-- From here to the end, there are at most listener messages, and these declare only Ignore. -/
inductive Quiet (app : SrpApp) (memory : Memory) (packetEnd : Nat) : ParseOutcome → Prop where
  | accepted : Quiet app memory packetEnd (.finish true)
  | message {header : Nat} (msrp : app = .MSRP) (type : (memory header).toNat = MSRP_ATTR_TYPE_LISTENER)
      (length : (memory (header + 1)).toNat = 8) (fits : header + 4 + u16At memory (header + 2) ≤ packetEnd)
      (rest : Quiet app memory packetEnd (.next (.vector MSRP_ATTR_TYPE_LISTENER 8
        (header + 4 + u16At memory (header + 2)) false (header + 4)))) :
      Quiet app memory packetEnd (.next (.message header))
  | vector {header vectorEnd number : Nat} (msrp : app = .MSRP) (counted : u16At memory header = number) (some_value : 0 < number)
      (noLeaveAll : number < 8192) (fits : header + 10 + msrpEventLength MSRP_ATTR_TYPE_LISTENER number ≤ vectorEnd)
      (ignored : ∀ i, i < number → declarationAt memory (header + 10 + (number + 2) / 3) i = 0)
      (rest : Quiet app memory packetEnd (afterVector memory packetEnd MSRP_ATTR_TYPE_LISTENER 8 vectorEnd false
        (header + 10 + msrpEventLength MSRP_ATTR_TYPE_LISTENER number))) :
      Quiet app memory packetEnd (.next (.vector MSRP_ATTR_TYPE_LISTENER 8 vectorEnd false header))

/-- The loop over a listener vector stands at index `i` of the packed bytes. -/
structure VectorCursor.At (memory : Memory) (packed i : Nat) (cursor : VectorCursor) : Prop where
  place : cursor.fourPacked = packed + (i + 3) / 4
  unpacked : i % 4 ≠ 0 → cursor.declarationType = mrpGetFourPackedEvent (memory (packed + i / 4))

theorem VectorCursor.At.next {memory : Memory} {packed i : Nat} {cursor : VectorCursor}
    (here : cursor.At memory packed i) :
    ((cursor.loadEvents memory i).loadDeclarations memory i).declarationType =
        mrpGetFourPackedEvent (memory (packed + i / 4)) ∧
      ((cursor.loadEvents memory i).loadDeclarations memory i).fourPacked = packed + (i + 1 + 3) / 4 := by
  have place : (cursor.loadEvents memory i).fourPacked = packed + (i + 3) / 4 := by
    unfold loadEvents
    split <;> exact here.place
  have unpacked : (cursor.loadEvents memory i).declarationType = cursor.declarationType := by
    unfold loadEvents
    split <;> rfl
  unfold loadDeclarations
  split
  next fresh =>
    simp only [place]
    exact ⟨by rw [show (i + 3) / 4 = i / 4 by omega],by omega⟩
  next inside =>
    rw [unpacked,place]
    exact ⟨here.unpacked inside,by omega⟩

theorem msrpStreamLoop_nil {memory : Memory} {packed : Nat} (left i : Nat) (cursor : VectorCursor)
    (here : cursor.At memory packed i) :
    msrpStreamLoop memory MSRP_ATTR_TYPE_LISTENER cursor i left = [] ↔
      ∀ j, i ≤ j → j < i + left → declarationAt memory packed j = 0 := by
  induction left generalizing i cursor with
  | zero =>
    refine iff_of_true rfl ?_
    intro j above below
    omega
  | succ left ih =>
    obtain ⟨unpacked,place⟩ := here.next
    have there : (((cursor.loadEvents memory i).loadDeclarations memory i).increment
        (msrpIncrementStream MSRP_ATTR_TYPE_LISTENER)).At memory packed (i + 1) := by
      refine ⟨place,fun inside => unpacked.trans ?_⟩
      rw [show (i + 1) / 4 = i / 4 by omega]
    have declares : (mrpGetFourPackedEvent (memory (packed + i / 4)))[i % 4]?.getD 0 = declarationAt memory packed i := rfl
    simp only [msrpStreamLoop,if_true,unpacked,declares]
    split
    next ignored =>
      rw [ih (i + 1) _ there]
      constructor
      · intro later j above below
        rcases Nat.eq_or_lt_of_le above with same | beyond
        · exact same ▸ ignored
        · exact later j beyond (by omega)
      · intro all j above below
        exact all j (by omega) (by omega)
    next declared =>
      refine iff_of_false (cons_ne_nil _ _) ?_
      intro all
      exact declared (all i (Nat.le_refl _) (by omega))

private theorem vectorHandler_nil {app : SrpApp} {memory : Memory} {type length number : Nat} (vectorData : Nat)
    (check : app.attributeCheck type length = true) (some_value : 0 < number) :
    app.vectorHandler memory type length vectorData number = [] ↔ app = .MSRP ∧ type = MSRP_ATTR_TYPE_LISTENER ∧
      ∀ i, i < number → declarationAt memory (vectorData + length + (number + 2) / 3) i = 0 := by
  obtain ⟨left,rfl⟩ := Nat.exists_eq_add_one_of_ne_zero (Nat.ne_of_gt some_value)
  cases app with
  | MVRP => simp [vectorHandler,mvrpVectorHandler,plainLoop]
  | MSRP =>
    simp only [vectorHandler,msrpVectorHandler,true_and]
    by_cases listener : type = MSRP_ATTR_TYPE_LISTENER
    · rw [if_pos (.inr (.inr listener)),listener]
      have here : (vectorCursor memory vectorData length (left + 1)).At memory
          (vectorData + length + (left + 1 + 2) / 3) 0 := ⟨by simp [vectorCursor],fun inside => absurd rfl inside⟩
      rw [msrpStreamLoop_nil _ _ _ here]
      simp
    · refine iff_of_false ?_ (fun both => listener both.1)
      split
      · simp [msrpStreamLoop,listener]
      next other =>
        have domain : type = MSRP_ATTR_TYPE_DOMAIN := by
          simp only [attributeCheck,msrpAttributeCheck,Bool.and_eq_true,bne_iff_ne,decide_eq_true_eq] at check
          unfold MSRP_ATTR_TYPE_TALKER_ADVERTISE MSRP_ATTR_TYPE_TALKER_FAILED MSRP_ATTR_TYPE_LISTENER at other
          unfold MSRP_ATTR_TYPE_DOMAIN
          omega
        simp [domain,plainLoop]

section Loop
variable {app : SrpApp} {memory : Memory} {packetEnd : Nat}

theorem parseLoop_next {newerVersion : Bool} (fuel : Nat) (state : ParseState) :
    parseLoop app newerVersion memory packetEnd (fuel + 1) (.next state) =
      let (delivered,outcome) := parseStep app newerVersion memory packetEnd state
      let (rest,accepted) := parseLoop app newerVersion memory packetEnd fuel outcome
      (delivered ++ rest,accepted) := rfl

@[simp] theorem parseLoop_finish {newerVersion : Bool} (fuel : Nat) (accepted : Bool) :
    parseLoop app newerVersion memory packetEnd fuel (.finish accepted) = ([],some accepted) := by
  cases fuel <;> rfl

variable {header : Nat}

theorem vectorStep_fits {type length vectorEnd number : Nat} (leaveall : Bool)
    (small : number < 8192) (head : u16At memory header = leaveall.toNat * 8192 + number)
    (filled : number = 0 → leaveall = true) (fits : header + 2 + length + app.eventLength type number ≤ vectorEnd) :
    vectorStep app memory packetEnd type length vectorEnd false header =
      ((if leaveall then [.leaveAll type] else []) ++ app.vectorHandler memory type length (header + 2) number,
        afterVector memory packetEnd type length vectorEnd false (header + 2 + length + app.eventLength type number)) := by
  have lva : u16At memory header / 8192 = leaveall.toNat := by omega
  have count : u16At memory header % 8192 = number := by omega
  unfold vectorStep
  simp only [lva,count]
  rw [if_neg (by omega),if_neg (by omega)]
  cases leaveall with
  | true =>
    simp
  | false =>
    have some_value : number ≠ 0 := fun none => Bool.noConfusion (filled none)
    simp [some_value]

def ParseOutcome.Checked (app : SrpApp) : ParseOutcome → Prop
  | .next (.vector type length _ skip _) => skip = false ∧ app.attributeCheck type length = true
  | _ => True

theorem mrpGetNextMessage_checked (header : Nat) : (mrpGetNextMessage memory packetEnd header).Checked app := by
  unfold mrpGetNextMessage
  split <;> (try split) <;> (try split) <;> exact trivial

theorem quiet_vector {type length vectorEnd : Nat} {skip : Bool}
    (quiet : Quiet app memory packetEnd (.next (.vector type length vectorEnd skip header))) :
    type = MSRP_ATTR_TYPE_LISTENER ∧ length = 8 := by
  generalize shape : ParseOutcome.next (.vector type length vectorEnd skip header) = outcome at quiet
  cases quiet with
  | accepted => exact ParseOutcome.noConfusion shape
  | message => simp at shape
  | vector =>
    simp only [ParseOutcome.next.injEq,ParseState.vector.injEq] at shape
    exact ⟨shape.1,shape.2.1⟩

theorem vectorStep_silent {type length vectorEnd : Nat}
    (silent : (vectorStep app memory packetEnd type length vectorEnd false header).1 = [])
    (kept : (vectorStep app memory packetEnd type length vectorEnd false header).2 ≠ .finish false) :
    0 < u16At memory header ∧ u16At memory header < 8192 ∧
      header + 2 + length + app.eventLength type (u16At memory header) ≤ vectorEnd ∧
      app.vectorHandler memory type length (header + 2) (u16At memory header) = [] ∧
      (vectorStep app memory packetEnd type length vectorEnd false header).2 =
        afterVector memory packetEnd type length vectorEnd false
          (header + 2 + length + app.eventLength type (u16At memory header)) := by
  unfold vectorStep at silent kept ⊢
  split at kept
  · exact absurd rfl kept
  simp only [Bool.not_false,Bool.true_and,Bool.and_eq_true,decide_eq_true_eq,Bool.false_eq_true,if_false] at silent kept ⊢
  split at kept
  · exact absurd rfl kept
  split at kept
  · exact absurd rfl kept
  split at kept
  · exact absurd rfl kept
  next header_fits vector_fits one_leaveAll some_value =>
    rw [if_neg header_fits,if_neg vector_fits,if_neg one_leaveAll,if_neg some_value] at silent ⊢
    obtain ⟨noLeaveAll,nothing⟩ := append_eq_nil_iff.mp silent
    have zero : u16At memory header / 8192 = 0 := by
      split at noLeaveAll
      · exact absurd noLeaveAll (cons_ne_nil _ _)
      · omega
    have count : u16At memory header % 8192 = u16At memory header := by omega
    rw [count] at vector_fits some_value nothing ⊢
    exact ⟨by omega,by omega,by omega,nothing,rfl⟩

theorem messageStep_kept (kept : messageStep app false memory packetEnd header ≠ .finish false) :
    app.attributeCheck (memory header).toNat (memory (header + 1)).toNat = true ∧
      ∃ vectorEnd vectors, messageStep app false memory packetEnd header =
          .next (.vector (memory header).toNat (memory (header + 1)).toNat vectorEnd false vectors) ∧
        (app = .MSRP → vectors = header + 4 ∧ vectorEnd = header + 4 + u16At memory (header + 2) ∧
          vectorEnd ≤ packetEnd) := by
  unfold messageStep at kept ⊢
  cases check : app.attributeCheck (memory header).toNat (memory (header + 1)).toNat with
  | false => simp [check] at kept
  | true =>
    simp only [check,Bool.not_true,Bool.false_and,Bool.false_eq_true,if_false] at kept ⊢
    refine ⟨trivial,?_⟩
    cases app with
    | MVRP => exact ⟨_,_,rfl,fun msrp => noConfusion msrp⟩
    | MSRP =>
      by_cases outside : header + 4 + u16At memory (header + 2) > packetEnd
      · rw [if_pos outside] at kept
        exact absurd rfl kept
      · rw [if_neg outside]
        exact ⟨_,_,rfl,fun _ => ⟨rfl,rfl,Nat.le_of_not_lt outside⟩⟩

theorem quiet_of_parse {fuel : Nat} {outcome : ParseOutcome} (checked : outcome.Checked app)
    (parsed : parseLoop app false memory packetEnd fuel outcome = ([],some true)) :
    Quiet app memory packetEnd outcome := by
  induction fuel generalizing outcome with
  | zero =>
    cases outcome with
    | finish accepted =>
      simp only [parseLoop_finish,Prod.mk.injEq,Option.some.injEq,true_and] at parsed
      exact parsed ▸ .accepted
    | next state => simp [parseLoop] at parsed
  | succ fuel ih =>
    cases outcome with
    | finish accepted =>
      simp only [parseLoop_finish,Prod.mk.injEq,Option.some.injEq,true_and] at parsed
      exact parsed ▸ .accepted
    | next state =>
      rw [parseLoop_next] at parsed
      obtain ⟨delivered,accepted⟩ := Prod.mk.inj parsed
      obtain ⟨silent,later⟩ := append_eq_nil_iff.mp delivered
      have rest : ∀ next, (parseStep app false memory packetEnd state).2 = next →
          parseLoop app false memory packetEnd fuel next = ([],some true) := by
        intro next same
        rw [← same]
        exact Prod.ext later accepted
      cases state with
      | message header =>
        have kept : messageStep app false memory packetEnd header ≠ .finish false := by
          intro refused
          simpa using rest _ refused
        obtain ⟨check,vectorEnd,vectors,stepped,place⟩ := messageStep_kept kept
        have quiet : Quiet app memory packetEnd
            (.next (.vector (memory header).toNat (memory (header + 1)).toNat vectorEnd false vectors)) :=
          ih ⟨rfl,check⟩ (rest _ stepped)
        obtain ⟨listener,eight⟩ := quiet_vector quiet
        have msrp : app = .MSRP := by
          cases app with
          | MSRP => rfl
          | MVRP =>
            simp [listener,attributeCheck,mvrpAttributeCheck,MSRP_ATTR_TYPE_LISTENER,MVRP_ATTR_TYPE_VID] at check
        obtain ⟨rfl,rfl,fits⟩ := place msrp
        rw [listener,eight] at quiet
        exact .message msrp listener eight fits quiet
      | vector type length vectorEnd skip header =>
        obtain ⟨rfl,check⟩ := checked
        have kept : (vectorStep app memory packetEnd type length vectorEnd false header).2 ≠ .finish false := by
          intro refused
          simpa using rest _ refused
        obtain ⟨some_value,small,fits,nothing,after⟩ := vectorStep_silent silent kept
        have stepped := rest _ after
        obtain ⟨rfl,rfl,ignored⟩ := (vectorHandler_nil _ check some_value).mp nothing
        have eight : length = 8 := by
          simp only [attributeCheck,msrpAttributeCheck,Bool.and_eq_true,beq_iff_eq] at check
          exact check.2
        subst eight
        refine .vector rfl rfl some_value small fits ignored (ih ?_ stepped)
        unfold afterVector
        split
        · exact ⟨rfl,check⟩
        · exact mrpGetNextMessage_checked _

def ParseOutcome.Within (packetEnd fuel : Nat) : ParseOutcome → Prop
  | .finish _ => True
  | .next (.message header) => packetEnd ≤ header + fuel
  | .next (.vector _ _ vectorEnd _ header) => packetEnd ≤ header + fuel ∧ vectorEnd ≤ packetEnd

theorem mrpGetNextMessage_within {fuel : Nat} (left : packetEnd ≤ header + fuel) :
    (mrpGetNextMessage memory packetEnd header).Within packetEnd fuel := by
  unfold mrpGetNextMessage
  split
  · exact trivial
  split
  · exact trivial
  split
  · exact trivial
  · exact left

theorem parse_of_quiet {fuel : Nat} {outcome : ParseOutcome} (quiet : Quiet app memory packetEnd outcome)
    (within : outcome.Within packetEnd fuel) :
    parseLoop app false memory packetEnd fuel outcome = ([],some true) := by
  induction quiet generalizing fuel with
  | accepted => exact parseLoop_finish fuel true
  | @message header msrp type length fits rest ih =>
    have left : packetEnd ≤ header + fuel := within
    obtain ⟨fuel,rfl⟩ := Nat.exists_eq_add_one_of_ne_zero (show fuel ≠ 0 by omega)
    have check : app.attributeCheck (memory header).toNat (memory (header + 1)).toNat = true := by
      rw [type,length,msrp]
      rfl
    have stepped : messageStep app false memory packetEnd header =
        .next (.vector MSRP_ATTR_TYPE_LISTENER 8 (header + 4 + u16At memory (header + 2)) false (header + 4)) := by
      have listed : app.hasAttributeListLength = true := by
        rw [msrp]
        rfl
      unfold messageStep
      simp only [check,listed,Bool.not_true,Bool.false_and,Bool.false_eq_true,if_false,if_true]
      rw [if_neg (Nat.not_lt.mpr fits),type,length]
    rw [parseLoop_next,parseStep,stepped]
    simp only [@ih fuel ⟨by omega,fits⟩,append_nil]
  | @vector header vectorEnd number msrp counted some_value small fits ignored rest ih =>
    subst msrp
    obtain ⟨left,inside⟩ : packetEnd ≤ header + fuel ∧ vectorEnd ≤ packetEnd := within
    obtain ⟨fuel,rfl⟩ := Nat.exists_eq_add_one_of_ne_zero (show fuel ≠ 0 by omega)
    have nothing : MSRP.vectorHandler memory MSRP_ATTR_TYPE_LISTENER 8 (header + 2) number = [] :=
      (vectorHandler_nil _ rfl some_value).mpr ⟨rfl,rfl,ignored⟩
    have head : u16At memory header = false.toNat * 8192 + number := by simpa using counted
    have stepped : vectorStep .MSRP memory packetEnd MSRP_ATTR_TYPE_LISTENER 8 vectorEnd false header =
        ([],afterVector memory packetEnd MSRP_ATTR_TYPE_LISTENER 8 vectorEnd false
          (header + 10 + msrpEventLength MSRP_ATTR_TYPE_LISTENER number)) := by
      rw [vectorStep_fits false small head (fun none => absurd none (Nat.ne_of_gt some_value)) fits,nothing]
      rfl
    have further : (afterVector memory packetEnd MSRP_ATTR_TYPE_LISTENER 8 vectorEnd false
        (header + 10 + msrpEventLength MSRP_ATTR_TYPE_LISTENER number)).Within packetEnd fuel := by
      unfold afterVector
      split
      · exact ⟨by omega,inside⟩
      · exact mrpGetNextMessage_within (by omega)
    rw [parseLoop_next,parseStep,stepped]
    simp only [ih further,append_nil]

end Loop

/-! Quiet bytes are quiet wherever they stand. -/
section Shift
variable {app : SrpApp} {memory : Memory} {packetEnd : Nat} (d : Nat)

def ParseOutcome.shift (d : Nat) : ParseOutcome → ParseOutcome
  | .finish accepted => .finish accepted
  | .next (.message header) => .next (.message (header + d))
  | .next (.vector type length vectorEnd skip header) => .next (.vector type length (vectorEnd + d) skip (header + d))

private theorem u16At_shift (header : Nat) : u16At (fun i => memory (i + d)) header = u16At memory (header + d) := by
  unfold u16At
  rw [Nat.add_right_comm]

private theorem declarationAt_shift (packed i : Nat) :
    declarationAt (fun i => memory (i + d)) packed i = declarationAt memory (packed + d) i := by
  unfold declarationAt
  rw [Nat.add_right_comm]

theorem mrpGetNextMessage_shift (header : Nat) :
    mrpGetNextMessage memory (packetEnd + d) (header + d) =
      (mrpGetNextMessage (fun i => memory (i + d)) packetEnd header).shift d := by
  unfold mrpGetNextMessage
  rw [u16At_shift]
  simp only [show (header + d + 2 > packetEnd + d) = (header + 2 > packetEnd) by
      apply propext; omega,
    show (header + d + 4 > packetEnd + d) = (header + 4 > packetEnd) by apply propext; omega]
  split
  · rfl
  split
  · rfl
  split <;> rfl

private theorem afterVector_shift (type length vectorEnd : Nat) (skip : Bool) (next : Nat) :
    afterVector memory (packetEnd + d) type length (vectorEnd + d) skip (next + d) =
      (afterVector (fun i => memory (i + d)) packetEnd type length vectorEnd skip next).shift d := by
  unfold afterVector
  rw [u16At_shift,Nat.add_right_comm next d 2,mrpGetNextMessage_shift]
  split <;> rfl

variable {outcome : ParseOutcome}

theorem shift_finish {accepted : Bool} (place : outcome.shift d = .finish accepted) : outcome = .finish accepted := by
  match outcome with
  | .finish _ => exact place
  | .next (.message _) => exact ParseOutcome.noConfusion place
  | .next (.vector ..) => exact ParseOutcome.noConfusion place

theorem shift_message {header : Nat} (place : outcome.shift d = .next (.message header)) :
    ∃ start, start + d = header ∧ outcome = .next (.message start) := by
  match outcome with
  | .finish _ => exact ParseOutcome.noConfusion place
  | .next (.message start) =>
    simp only [shift,ParseOutcome.next.injEq,ParseState.message.injEq] at place
    exact ⟨start,place,rfl⟩
  | .next (.vector ..) => simp [shift] at place

theorem shift_vector {type length vectorEnd header : Nat} {skip : Bool}
    (place : outcome.shift d = .next (.vector type length vectorEnd skip header)) :
    ∃ start finish, start + d = header ∧ finish + d = vectorEnd ∧
      outcome = .next (.vector type length finish skip start) := by
  match outcome with
  | .finish _ => exact ParseOutcome.noConfusion place
  | .next (.message _) => simp [shift] at place
  | .next (.vector ..) =>
    simp only [shift,ParseOutcome.next.injEq,ParseState.vector.injEq] at place
    obtain ⟨rfl,rfl,finish,rfl,start⟩ := place
    exact ⟨_,_,start,finish,rfl⟩

theorem quiet_shift :
    Quiet app memory (packetEnd + d) (outcome.shift d) ↔ Quiet app (fun i => memory (i + d)) packetEnd outcome := by
  constructor
  · intro quiet
    generalize place : outcome.shift d = moved at quiet
    induction quiet generalizing outcome with
    | accepted => exact shift_finish d place ▸ .accepted
    | @message header msrp type length fits rest ih =>
      obtain ⟨start,rfl,rfl⟩ := shift_message d place
      rw [Nat.add_right_comm start d 1] at length
      rw [Nat.add_right_comm start d 2,← u16At_shift] at fits ih
      have inside : start + 4 + u16At (fun i => memory (i + d)) (start + 2) ≤ packetEnd := by omega
      refine .message msrp type length inside (ih ?_)
      simp only [shift,Nat.add_right_comm _ _ d]
    | @vector header vectorEnd number msrp counted some_value small fits ignored rest ih =>
      obtain ⟨start,finish,rfl,rfl,rfl⟩ := shift_vector d place
      rw [← u16At_shift] at counted
      refine .vector msrp counted some_value small (by omega) ?_ (ih ?_)
      · intro i below
        have same := ignored i below
        rwa [show start + d + 10 + (number + 2) / 3 = start + 10 + (number + 2) / 3 + d by omega,
          ← declarationAt_shift] at same
      · rw [← afterVector_shift]
        congr 1
        omega
  · intro quiet
    induction quiet with
    | accepted => exact .accepted
    | @message header msrp type length fits rest ih =>
      have list : u16At (fun i => memory (i + d)) (header + 2) = u16At memory (header + d + 2) := by
        rw [u16At_shift,Nat.add_right_comm]
      rw [Nat.add_right_comm header 1 d] at length
      rw [list] at fits ih
      refine .message msrp type length (by omega) ?_
      simpa only [shift,Nat.add_right_comm _ _ d] using ih
    | @vector header vectorEnd number msrp counted some_value small fits ignored rest ih =>
      rw [u16At_shift] at counted
      refine .vector msrp counted some_value small (by omega) ?_ ?_
      · intro i below
        have same := ignored i below
        rwa [declarationAt_shift,show header + 10 + (number + 2) / 3 + d = header + d + 10 + (number + 2) / 3 by
          omega] at same
      · rw [← afterVector_shift] at ih
        rwa [show header + d + 10 + msrpEventLength MSRP_ATTR_TYPE_LISTENER number =
          header + 10 + msrpEventLength MSRP_ATTR_TYPE_LISTENER number + d by omega]

end Shift

end Genavb.Mrp
