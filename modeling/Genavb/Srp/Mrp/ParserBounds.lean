import Genavb.Srp.Mrp.Expansion
import Mathlib.Logic.Relation

/-! The bytes that the parser reads, iteration by iteration, and the grammar of an MRPDU. -/
namespace Genavb.Mrp
open Support

def ParseState.position : ParseState → Nat
  | .message header => header
  | .vector _ _ _ _ header => header

def vectorNext (app : SrpApp) (memory : Memory) (type length header : Nat) : Nat :=
  header + 2 + length + app.eventLength type (u16At memory header % 8192)

def vectorRefused (memory : Memory) (skip : Bool) (header : Nat) : Bool :=
  !skip && (decide (u16At memory header / 8192 > 1) ||
    (decide (u16At memory header % 8192 = 0) && decide (u16At memory header / 8192 = 0)))

def listEnd (memory : Memory) (header : Nat) : Nat := header + 4 + u16At memory (header + 2)

def attributeValid (app : SrpApp) (memory : Memory) (header : Nat) : Bool :=
  app.attributeCheck (memory header).toNat (memory (header + 1)).toNat

def nextReads (packetEnd header : Nat) : List Nat := if header + 2 > packetEnd then [] else [header,header + 1]

def messageReads (app : SrpApp) (newerVersion : Bool) (memory : Memory) (packetEnd header : Nat) : List Nat :=
  [header,header + 1] ++
    if !attributeValid app memory header && !newerVersion then []
    else if app.hasAttributeListLength then
      [header + 2,header + 3] ++
        if !attributeValid app memory header then nextReads packetEnd (listEnd memory header) else []
    else []

/-- The header, then the values and events that the handler reads, then the word of the loop condition. -/
def vectorReads (app : SrpApp) (memory : Memory) (packetEnd type length vectorEnd : Nat) (skip : Bool) (header : Nat) :
    List Nat :=
  if header + 2 > vectorEnd then []
  else
    [header,header + 1] ++
      if vectorNext app memory type length header > vectorEnd || vectorRefused memory skip header then []
      else
        (if skip then [] else
          List.range' (header + 2) (length + app.eventLength type (u16At memory header % 8192))) ++
        ([vectorNext app memory type length header,vectorNext app memory type length header + 1] ++
          if u16At memory (vectorNext app memory type length header) = 0 then
            nextReads packetEnd (vectorNext app memory type length header + 2)
          else [])

def parseReads (app : SrpApp) (newerVersion : Bool) (memory : Memory) (packetEnd : Nat) : ParseState → List Nat
  | .message header => messageReads app newerVersion memory packetEnd header
  | .vector type length vectorEnd skip header => vectorReads app memory packetEnd type length vectorEnd skip header

private theorem messageStep_eq (app : SrpApp) (newerVersion : Bool) (memory : Memory) (packetEnd header : Nat) :
    messageStep app newerVersion memory packetEnd header =
      if !attributeValid app memory header && !newerVersion then .finish false
      else if app.hasAttributeListLength then
        if !attributeValid app memory header then mrpGetNextMessage memory packetEnd (listEnd memory header)
        else if listEnd memory header > packetEnd then .finish false
        else .next (.vector (memory header).toNat (memory (header + 1)).toNat (listEnd memory header) false (header + 4))
      else .next (.vector (memory header).toNat (memory (header + 1)).toNat packetEnd
        (!attributeValid app memory header) (header + 2)) := rfl

private theorem vectorStep_eq (app : SrpApp) (memory : Memory) (packetEnd type length vectorEnd : Nat) (skip : Bool)
    (header : Nat) : vectorStep app memory packetEnd type length vectorEnd skip header =
      if header + 2 > vectorEnd then ([],.finish false)
      else if vectorNext app memory type length header > vectorEnd || vectorRefused memory skip header then
        ([],.finish false)
      else
        ((if skip then [] else (if u16At memory header / 8192 = 1 then [.leaveAll type] else []) ++
          app.vectorHandler memory type length (header + 2) (u16At memory header % 8192)),
          afterVector memory packetEnd type length vectorEnd skip (vectorNext app memory type length header)) := by
  have refused : vectorRefused memory skip header = ((!skip && decide (u16At memory header / 8192 > 1)) ||
      (!skip && decide (u16At memory header % 8192 = 0) && decide (u16At memory header / 8192 = 0))) := by
    unfold vectorRefused
    rw [Bool.and_or_distrib_left,Bool.and_assoc]
  unfold vectorStep
  rw [refused]
  dsimp only
  split
  · rfl
  · split
    next long =>
      rw [if_pos (by simp [vectorNext,long])]
    next short =>
      split
      next many => rw [if_pos (by rw [many]; simp)]
      next few =>
        split
        next none => rw [if_pos (by rw [none]; simp)]
        next some =>
          have stays : ¬(decide (vectorNext app memory type length header > vectorEnd) ||
              (!skip && decide (u16At memory header / 8192 > 1) || !skip && decide (u16At memory header % 8192 = 0) &&
                decide (u16At memory header / 8192 = 0))) = true := by
            rw [Bool.or_eq_true,Bool.or_eq_true,decide_eq_true_eq,not_or,not_or]
            exact ⟨short,few,some⟩
          exact (if_neg stays).symm

end Genavb.Mrp

/-! When `mrp_process_packet` stays inside the packet: the vectors and messages it comes to have their end marks. -/
namespace Genavb.Mrp
open Support
open Nat (le_of_not_lt not_lt_of_le)
open List (mem_append mem_cons not_mem_nil)
open ParseState

/-- A place in an MRPDU: a message, a vector of a message, or behind the end mark of a message. -/
inductive PduPlace where
  | message (header : Nat)
  | vector (type length vectorEnd : Nat) (skip : Bool) (header : Nat)
  | behind (header : Nat)

def ParseState.place : ParseState → PduPlace
  | .message header => .message header
  | .vector type length vectorEnd skip header => .vector type length vectorEnd skip header

def Refused (app : SrpApp) (newerVersion : Bool) (memory : Memory) (packetEnd : Nat) : ParseState → Prop
  | .message header => (attributeValid app memory header = false ∧ newerVersion = false) ∨
      (attributeValid app memory header = true ∧ app.hasAttributeListLength = true ∧ packetEnd < listEnd memory header)
  | .vector type length vectorEnd skip header => vectorEnd < header + 2 ∨
      vectorEnd < vectorNext app memory type length header ∨ vectorRefused memory skip header = true

/-- From here on the packet is messages up to an end mark, each of them vectors up to an end mark, or it is so up to a
message or vector that is refused. A newer version may have messages of unknown attributes. -/
inductive Grammar (app : SrpApp) (newerVersion : Bool) (memory : Memory) (packetEnd : Nat)
    (refused : ParseState → Prop) : PduPlace → Prop where
  | refusedMessage {header : Nat} (bad : refused (.message header)) :
      Grammar app newerVersion memory packetEnd refused (.message header)
  | refusedVector {type length vectorEnd header : Nat} {skip : Bool}
      (bad : refused (.vector type length vectorEnd skip header)) :
      Grammar app newerVersion memory packetEnd refused (.vector type length vectorEnd skip header)
  | endMark {header : Nat} (inside : header + 2 ≤ packetEnd) (zero : u16At memory header = 0) :
      Grammar app newerVersion memory packetEnd refused (.behind header)
  | another {header : Nat} (inside : header + 4 ≤ packetEnd) (some_message : u16At memory header ≠ 0)
      (rest : Grammar app newerVersion memory packetEnd refused (.message header)) :
      Grammar app newerVersion memory packetEnd refused (.behind header)
  | listed {header : Nat} (list : app.hasAttributeListLength = true) (valid : attributeValid app memory header = true)
      (inside : listEnd memory header ≤ packetEnd)
      (rest : Grammar app newerVersion memory packetEnd refused (.vector (memory header).toNat (memory (header + 1)).toNat
        (listEnd memory header) false (header + 4))) : Grammar app newerVersion memory packetEnd refused (.message header)
  | unknown {header : Nat} (list : app.hasAttributeListLength = true)
      (invalid : attributeValid app memory header = false) (newer : newerVersion = true)
      (rest : Grammar app newerVersion memory packetEnd refused (.behind (listEnd memory header))) :
      Grammar app newerVersion memory packetEnd refused (.message header)
  | plain {header : Nat} (unlisted : app.hasAttributeListLength = false)
      (known : attributeValid app memory header = true ∨ newerVersion = true)
      (rest : Grammar app newerVersion memory packetEnd refused (.vector (memory header).toNat (memory (header + 1)).toNat
        packetEnd (!attributeValid app memory header) (header + 2))) :
      Grammar app newerVersion memory packetEnd refused (.message header)
  | vector {type length vectorEnd header : Nat} {skip : Bool} (start : header + 2 ≤ vectorEnd)
      (fits : vectorNext app memory type length header ≤ vectorEnd) (legal : vectorRefused memory skip header = false)
      (inside : vectorNext app memory type length header + 2 ≤ packetEnd)
      (more : u16At memory (vectorNext app memory type length header) ≠ 0)
      (rest : Grammar app newerVersion memory packetEnd refused
        (.vector type length vectorEnd skip (vectorNext app memory type length header))) :
      Grammar app newerVersion memory packetEnd refused (.vector type length vectorEnd skip header)
  | last {type length vectorEnd header : Nat} {skip : Bool} (start : header + 2 ≤ vectorEnd)
      (fits : vectorNext app memory type length header ≤ vectorEnd) (legal : vectorRefused memory skip header = false)
      (inside : vectorNext app memory type length header + 2 ≤ packetEnd)
      (mark : u16At memory (vectorNext app memory type length header) = 0)
      (rest : Grammar app newerVersion memory packetEnd refused (.behind (vectorNext app memory type length header + 2))) :
      Grammar app newerVersion memory packetEnd refused (.vector type length vectorEnd skip header)

def WellFormed (app : SrpApp) (newerVersion : Bool) (memory : Memory) (packetEnd : Nat) : PduPlace → Prop :=
  Grammar app newerVersion memory packetEnd fun _ => False

def Delimited (app : SrpApp) (newerVersion : Bool) (memory : Memory) (packetEnd : Nat) : PduPlace → Prop :=
  Grammar app newerVersion memory packetEnd (Refused app newerVersion memory packetEnd)

def Marked (memory : Memory) (packetEnd header : Nat) : Prop :=
  header + 2 ≤ packetEnd ∧ (u16At memory header ≠ 0 → header + 4 ≤ packetEnd)

/-- Behind a complete vector there are two bytes, and behind a complete message what `Marked` says. -/
def Room (app : SrpApp) (newerVersion : Bool) (memory : Memory) (packetEnd : Nat) : ParseState → Prop
  | .message header => app.hasAttributeListLength = true → attributeValid app memory header = false →
      newerVersion = true → Marked memory packetEnd (listEnd memory header)
  | .vector type length vectorEnd skip header => header + 2 ≤ vectorEnd →
      vectorNext app memory type length header ≤ vectorEnd → vectorRefused memory skip header = false →
        vectorNext app memory type length header + 2 ≤ packetEnd ∧
          (u16At memory (vectorNext app memory type length header) = 0 →
            Marked memory packetEnd (vectorNext app memory type length header + 2))

section Steps
variable {app : SrpApp} {newerVersion : Bool} {memory : Memory} {packetEnd : Nat} {state next : ParseState}
  {refused : ParseState → Prop}

private theorem mrpGetNextMessage_cases (memory : Memory) (packetEnd header : Nat) :
    (mrpGetNextMessage memory packetEnd header = .finish true ∧
      (Marked memory packetEnd header → header + 2 ≤ packetEnd ∧ u16At memory header = 0)) ∨
    (mrpGetNextMessage memory packetEnd header = .next (.message header) ∧ u16At memory header ≠ 0 ∧
      header + 4 ≤ packetEnd) := by
  unfold mrpGetNextMessage Marked
  split
  next short => exact .inl ⟨rfl,fun marked => absurd marked.1 (Nat.not_le_of_lt short)⟩
  next inside =>
    split
    next zero => exact .inl ⟨rfl,fun _ => ⟨le_of_not_lt inside,zero⟩⟩
    next more =>
      split
      next short => exact .inl ⟨rfl,fun marked => absurd (marked.2 more) (Nat.not_le_of_lt short)⟩
      next room => exact .inr ⟨rfl,more,le_of_not_lt room⟩

def GrammarAfter (app : SrpApp) (newerVersion : Bool) (memory : Memory) (packetEnd : Nat)
    (refused : ParseState → Prop) : ParseOutcome → Prop
  | .next state => Grammar app newerVersion memory packetEnd refused state.place
  | .finish accepted => accepted = true

private theorem grammar_behind (header : Nat) : Grammar app newerVersion memory packetEnd refused (.behind header) ↔
    Marked memory packetEnd header ∧
      GrammarAfter app newerVersion memory packetEnd refused (mrpGetNextMessage memory packetEnd header) := by
  constructor
  · intro grammar
    cases grammar with
    | endMark inside zero =>
      refine ⟨⟨inside,fun more => absurd zero more⟩,?_⟩
      unfold mrpGetNextMessage
      rw [if_neg (not_lt_of_le inside),if_pos zero]
      rfl
    | another inside more rest =>
      have short : header + 2 ≤ packetEnd := by omega
      refine ⟨⟨short,fun _ => inside⟩,?_⟩
      unfold mrpGetNextMessage
      rw [if_neg (not_lt_of_le short),if_neg more,if_neg (not_lt_of_le inside)]
      exact rest
  · rintro ⟨marked,after⟩
    rcases mrpGetNextMessage_cases memory packetEnd header with ⟨-,mark⟩ | ⟨again,more,inside⟩
    · exact .endMark (mark marked).1 (mark marked).2
    · rw [again] at after
      exact .another inside more after

/-- The grammar and the parser agree on an iteration up to the end marks that the parser does not ask for. -/
private theorem grammar_step (kept : ¬refused state) : Grammar app newerVersion memory packetEnd refused state.place ↔
    Room app newerVersion memory packetEnd state ∧
      GrammarAfter app newerVersion memory packetEnd refused (parseStep app newerVersion memory packetEnd state).2 := by
  cases state with
  | message header =>
    change Grammar app newerVersion memory packetEnd refused (.message header) ↔ _ ∧
      GrammarAfter app newerVersion memory packetEnd refused (messageStep app newerVersion memory packetEnd header)
    rw [messageStep_eq]
    simp only [Room]
    cases valid : attributeValid app memory header <;> cases list : app.hasAttributeListLength
    · cases newer : newerVersion
      · refine iff_of_false ?_ (fun both => Bool.false_ne_true both.2)
        intro grammar
        cases grammar <;> simp_all
      · simp only [Bool.not_false,Bool.not_true,Bool.and_false,Bool.false_eq_true,if_false,false_implies,true_and,
          GrammarAfter,place]
        constructor
        · intro grammar
          cases grammar <;> simp_all
        · intro rest
          exact .plain list (.inr rfl) (by rw [valid]; exact rest)
    · cases newer : newerVersion
      · refine iff_of_false ?_ (fun both => Bool.false_ne_true both.2)
        intro grammar
        cases grammar <;> simp_all
      · simp only [Bool.not_false,Bool.not_true,Bool.and_false,Bool.false_eq_true,if_false,if_true,true_implies]
        rw [← grammar_behind]
        constructor
        · intro grammar
          cases grammar <;> simp_all
        · exact .unknown list valid rfl
    · simp only [Bool.not_true,Bool.false_and,Bool.false_eq_true,if_false,false_implies,true_and,GrammarAfter,
        place]
      constructor
      · intro grammar
        cases grammar <;> simp_all
      · intro rest
        exact .plain list (.inl valid) (by rw [valid]; exact rest)
    · simp only [Bool.not_true,Bool.false_and,Bool.false_eq_true,if_false,if_true,false_implies,implies_true,true_and,
        Bool.true_eq_false]
      split
      next beyond =>
        refine iff_of_false ?_ Bool.false_ne_true
        intro grammar
        cases grammar <;> simp_all
        omega
      next inside =>
        constructor
        · intro grammar
          cases grammar <;> simp_all [GrammarAfter,place]
        · intro rest
          exact .listed list valid (le_of_not_lt inside) rest
  | vector type length vectorEnd skip header =>
    change Grammar app newerVersion memory packetEnd refused (.vector type length vectorEnd skip header) ↔ _ ∧ GrammarAfter app
      newerVersion memory packetEnd refused (vectorStep app memory packetEnd type length vectorEnd skip header).2
    rw [vectorStep_eq]
    split
    next short =>
      refine iff_of_false ?_ (fun both => Bool.false_ne_true both.2)
      intro grammar
      cases grammar with
      | refusedVector bad => exact kept bad
      | vector | last => omega
    next start =>
      split
      next illegal =>
        rw [Bool.or_eq_true,decide_eq_true_eq] at illegal
        refine iff_of_false ?_ (fun both => Bool.false_ne_true both.2)
        intro grammar
        have both : vectorNext app memory type length header ≤ vectorEnd ∧
            vectorRefused memory skip header = false := by
          cases grammar with
          | refusedVector bad => exact absurd bad kept
          | vector _ fits legal | last _ fits legal => exact ⟨fits,legal⟩
        rcases illegal with long | illegal
        · omega
        · rw [both.2] at illegal
          cases illegal
      next fine =>
        rw [Bool.or_eq_true,decide_eq_true_eq,not_or] at fine
        have fits := le_of_not_lt fine.1
        have legal := Bool.eq_false_iff.mpr fine.2
        unfold afterVector
        dsimp only
        split
        next more =>
          constructor
          · intro grammar
            cases grammar with
            | refusedVector bad => exact absurd bad kept
            | vector start fits legal inside more rest => exact ⟨fun _ _ _ => ⟨inside,fun zero => absurd zero more⟩,rest⟩
            | last start fits legal inside mark rest => exact absurd mark more
          · rintro ⟨room,rest⟩
            exact .vector (le_of_not_lt start) fits legal (room (le_of_not_lt start) fits legal).1 more rest
        next zero =>
          have mark := not_not.mp zero
          constructor
          · intro grammar
            cases grammar with
            | refusedVector bad => exact absurd bad kept
            | vector start fits legal inside more rest => exact absurd mark more
            | last start fits legal inside mark rest =>
              have behind := (grammar_behind _).mp rest
              exact ⟨fun _ _ _ => ⟨inside,fun _ => behind.1⟩,behind.2⟩
          · rintro ⟨room,rest⟩
            obtain ⟨inside,marked⟩ := room (le_of_not_lt start) fits legal
            exact .last (le_of_not_lt start) fits legal inside mark ((grammar_behind _).mpr ⟨marked mark,rest⟩)

private theorem refused_iff : Refused app newerVersion memory packetEnd state ↔
    (parseStep app newerVersion memory packetEnd state).2 = .finish false := by
  have behind (header : Nat) : mrpGetNextMessage memory packetEnd header ≠ .finish false := by
    rcases mrpGetNextMessage_cases memory packetEnd header with ⟨last,-⟩ | ⟨again,-⟩
    · rw [last]
      simp
    · rw [again]
      simp
  cases state with
  | message header =>
    change _ ↔ messageStep app newerVersion memory packetEnd header = .finish false
    rw [messageStep_eq]
    simp only [Refused]
    cases valid : attributeValid app memory header <;> cases list : app.hasAttributeListLength <;>
      cases newerVersion <;> simp [behind]
  | vector type length vectorEnd skip header =>
    change _ ↔ (vectorStep app memory packetEnd type length vectorEnd skip header).2 = .finish false
    rw [vectorStep_eq]
    simp only [Refused]
    split
    next short => exact iff_of_true (.inl (Nat.lt_of_not_le (Nat.not_le_of_lt short))) rfl
    next start =>
      rw [or_iff_right (not_lt_of_le (le_of_not_lt start))]
      split
      next illegal =>
        rw [Bool.or_eq_true,decide_eq_true_eq] at illegal
        exact iff_of_true illegal rfl
      next fine =>
        rw [Bool.or_eq_true,decide_eq_true_eq] at fine
        refine iff_of_false fine ?_
        change afterVector memory packetEnd type length vectorEnd skip _ ≠ _
        unfold afterVector
        split
        · simp
        · exact behind _

theorem Room.of_refused (bad : Refused app newerVersion memory packetEnd state) :
    Room app newerVersion memory packetEnd state := by
  cases state with
  | message header =>
    intro list invalid newer
    rcases bad with ⟨-,older⟩ | ⟨valid,-⟩
    · rw [newer] at older
      cases older
    · rw [invalid] at valid
      cases valid
  | vector type length vectorEnd skip header =>
    intro start fits legal
    rcases bad with short | long | illegal
    · omega
    · omega
    · rw [legal] at illegal
      cases illegal

private theorem delimited_step : Delimited app newerVersion memory packetEnd state.place ↔
    Room app newerVersion memory packetEnd state ∧
      ∀ next, (parseStep app newerVersion memory packetEnd state).2 = .next next →
        Delimited app newerVersion memory packetEnd next.place := by
  by_cases bad : Refused app newerVersion memory packetEnd state
  case pos =>
    refine iff_of_true ?_ ⟨Room.of_refused bad,fun next again => ?_⟩
    · cases state with
      | message header => exact .refusedMessage bad
      | vector => exact .refusedVector bad
    · rw [refused_iff.mp bad] at again
      cases again
  case neg =>
    unfold Delimited
    rw [grammar_step bad]
    refine and_congr_right fun _ => ?_
    rw [refused_iff] at bad
    cases outcome : (parseStep app newerVersion memory packetEnd state).2 with
    | next following =>
      simp [GrammarAfter]
    | finish accepted =>
      rw [outcome] at bad
      cases accepted with
      | true => simp [GrammarAfter]
      | false => exact absurd rfl bad

theorem WellFormed.delimited {place : PduPlace} (grammar : WellFormed app newerVersion memory packetEnd place) :
    Delimited app newerVersion memory packetEnd place := by
  induction grammar with
  | refusedMessage bad | refusedVector bad => cases bad
  | endMark inside zero => exact .endMark inside zero
  | another inside more _ rest => exact .another inside more rest
  | listed list valid inside _ rest => exact .listed list valid inside rest
  | unknown list invalid newer _ rest => exact .unknown list invalid newer rest
  | plain unlisted known _ rest => exact .plain unlisted known rest
  | vector start fits legal inside more _ rest => exact .vector start fits legal inside more rest
  | last start fits legal inside mark _ rest => exact .last start fits legal inside mark rest

/-- Where an iteration may stand: behind it there is room for the header of a message, or the list fits. -/
def Within (app : SrpApp) (packetEnd : Nat) : ParseState → Prop
  | .message header => header + (if app.hasAttributeListLength then 4 else 2) ≤ packetEnd
  | .vector type length vectorEnd skip header => header ≤ packetEnd ∧ vectorEnd ≤ packetEnd ∧
      (skip = false → app.attributeCheck type length = true)

theorem Within.position_le (within : Within app packetEnd state) : state.position ≤ packetEnd := by
  cases state with
  | message header =>
    change header + _ ≤ packetEnd at within
    change header ≤ packetEnd
    omega
  | vector type length vectorEnd skip header => exact within.1

theorem Within.next_message {header : Nat} (again : mrpGetNextMessage memory packetEnd header = .next next) :
    next = .message header ∧ Within app packetEnd next := by
  rcases mrpGetNextMessage_cases memory packetEnd header with ⟨other,-⟩ | ⟨same,-,inside⟩
  · rw [again] at other
    cases other
  · rw [again] at same
    cases same
    refine ⟨rfl,?_⟩
    change header + _ ≤ packetEnd
    split <;> omega

private theorem parseStep_forward (within : Within app packetEnd state)
    (again : (parseStep app newerVersion memory packetEnd state).2 = .next next) :
    state.position < next.position ∧ Within app packetEnd next := by
  cases state with
  | message header =>
    change messageStep app newerVersion memory packetEnd header = .next next at again
    rw [messageStep_eq] at again
    split at again
    · cases again
    · split at again
      next list =>
        have room : header + 4 ≤ packetEnd := by
          unfold Within at within
          rwa [if_pos list] at within
        split at again
        · obtain ⟨rfl,inside⟩ := @Within.next_message app _ _ _ _ again
          refine ⟨?_,inside⟩
          change header < header + 4 + _
          omega
        next valid =>
          split at again
          · cases again
          next fits =>
            cases again
            refine ⟨by simp only [position]; omega,room,le_of_not_lt fits,?_⟩
            intro _
            have checked : attributeValid app memory header = true := by simpa using valid
            exact checked
      next plain =>
        have room : header + 2 ≤ packetEnd := by
          unfold Within at within
          rwa [if_neg plain] at within
        cases again
        refine ⟨by simp only [position]; omega,room,Nat.le_refl _,?_⟩
        intro valid
        have checked : attributeValid app memory header = true := by simpa using valid
        exact checked
  | vector type length vectorEnd skip header =>
    obtain ⟨place,fits,checked⟩ := within
    change (vectorStep app memory packetEnd type length vectorEnd skip header).2 = .next next at again
    rw [vectorStep_eq] at again
    split at again
    · cases again
    · split at again
      · cases again
      next kept =>
        rw [Bool.or_eq_true,decide_eq_true_eq,not_or] at kept
        have forward : header < vectorNext app memory type length header := by
          unfold vectorNext
          omega
        unfold afterVector at again
        dsimp only at again
        split at again
        · cases again
          exact ⟨forward,by omega,fits,checked⟩
        · obtain ⟨rfl,inside⟩ := @Within.next_message app _ _ _ _ again
          refine ⟨?_,inside⟩
          change header < _ + 2
          omega

private theorem nextReads_inside {header address : Nat} (member : address ∈ nextReads packetEnd header) :
    address < packetEnd := by
  unfold nextReads at member
  split at member
  · cases member
  next inside =>
    simp only [mem_cons,not_mem_nil,or_false] at member
    omega

theorem Room.reads (within : Within app packetEnd state) (room : Room app newerVersion memory packetEnd state) :
    ∀ address ∈ parseReads app newerVersion memory packetEnd state, address < packetEnd := by
  intro address member
  cases state with
  | message header =>
    simp only [Within] at within
    simp only [parseReads,messageReads,mem_append] at member
    rcases member with first | member
    · simp only [mem_cons,not_mem_nil,or_false] at first
      split at within <;> omega
    · split at member
      · cases member
      · split at member
        next list =>
          rw [if_pos list] at within
          rcases mem_append.mp member with second | member
          · simp only [mem_cons,not_mem_nil,or_false] at second
            omega
          · split at member
            · exact nextReads_inside member
            · cases member
        · cases member
  | vector type length vectorEnd skip header =>
    obtain ⟨-,fits,-⟩ := within
    simp only [parseReads,vectorReads] at member
    split at member
    · cases member
    next start =>
      rcases mem_append.mp member with first | member
      · simp only [mem_cons,not_mem_nil,or_false] at first
        omega
      · split at member
        · cases member
        next fine =>
          rw [Bool.or_eq_true,decide_eq_true_eq,not_or] at fine
          obtain ⟨mark,-⟩ := room (le_of_not_lt start) (le_of_not_lt fine.1) (Bool.eq_false_iff.mpr fine.2)
          rcases mem_append.mp member with values | member
          · split at values
            · cases values
            · rw [List.mem_range'_1] at values
              have ends : vectorNext app memory type length header =
                  header + 2 + (length + app.eventLength type (u16At memory header % 8192)) := by
                unfold vectorNext
                omega
              omega
          · rcases mem_append.mp member with word | member
            · simp only [mem_cons,not_mem_nil,or_false] at word
              omega
            · split at member
              · exact nextReads_inside member
              · cases member

theorem Room.of_reads (again : (parseStep app newerVersion memory packetEnd state).2 = .next next)
    (inside : ∀ address ∈ parseReads app newerVersion memory packetEnd state, address < packetEnd) :
    Room app newerVersion memory packetEnd state := by
  have marked {header : Nat} (again : mrpGetNextMessage memory packetEnd header = .next next) :
      Marked memory packetEnd header := by
    rcases mrpGetNextMessage_cases memory packetEnd header with ⟨last,-⟩ | ⟨-,-,room⟩
    · rw [last] at again
      cases again
    · exact ⟨by omega,fun _ => room⟩
  cases state with
  | message header =>
    intro list invalid newer
    change messageStep app newerVersion memory packetEnd header = .next next at again
    rw [messageStep_eq,invalid,list,newer] at again
    exact marked again
  | vector type length vectorEnd skip header =>
    intro start fits legal
    change (vectorStep app memory packetEnd type length vectorEnd skip header).2 = .next next at again
    rw [vectorStep_eq,if_neg (not_lt_of_le start),if_neg (by simp [legal,fits])] at again
    have word := inside (vectorNext app memory type length header + 1) (by
      simp only [parseReads,vectorReads,if_neg (not_lt_of_le start)]
      rw [if_neg (by simp [legal,fits])]
      simp)
    refine ⟨word,fun zero => ?_⟩
    change afterVector memory packetEnd type length vectorEnd skip (vectorNext app memory type length header) =
      .next next at again
    unfold afterVector at again
    rw [if_neg (not_not.mpr zero)] at again
    exact marked again

end Steps

section Runs
variable (app : SrpApp) (newerVersion : Bool) (memory : Memory) (packetEnd : Nat)

def Continues (state next : ParseState) : Prop := (parseStep app newerVersion memory packetEnd state).2 = .next next

def Visited : ParseState → ParseState → Prop := Relation.ReflTransGen (Continues app newerVersion memory packetEnd)

inductive Finishes (accepted : Bool) : ParseState → Prop where
  | now {state : ParseState} (last : (parseStep app newerVersion memory packetEnd state).2 = .finish accepted) :
      Finishes accepted state
  | later {state next : ParseState} (again : Continues app newerVersion memory packetEnd state next)
      (rest : Finishes accepted next) : Finishes accepted state

end Runs

section Runs
variable {app : SrpApp} {newerVersion : Bool} {memory : Memory} {packetEnd : Nat} {start state : ParseState}

theorem parseLoop_finishes (within : Within app packetEnd state) {fuel : Nat}
    (enough : packetEnd - state.position < fuel) :
    ∃ accepted, (parseLoop app newerVersion memory packetEnd fuel (.next state)).2 = some accepted ∧
      Finishes app newerVersion memory packetEnd accepted state := by
  induction fuel generalizing state with
  | zero => omega
  | succ fuel ih =>
    change ∃ accepted, (parseLoop app newerVersion memory packetEnd fuel
      (parseStep app newerVersion memory packetEnd state).2).2 = some accepted ∧ _
    cases outcome : (parseStep app newerVersion memory packetEnd state).2 with
    | finish accepted => exact ⟨accepted,by cases fuel <;> rfl,.now outcome⟩
    | next next =>
      obtain ⟨forward,inside⟩ := parseStep_forward within outcome
      have place := inside.position_le
      obtain ⟨accepted,result,rest⟩ := ih inside (by omega)
      exact ⟨accepted,result,.later outcome rest⟩

theorem Visited.within (visited : Visited app newerVersion memory packetEnd start state)
    (within : Within app packetEnd start) : Within app packetEnd state := by
  induction visited with
  | refl => exact within
  | tail _ again ih => exact (parseStep_forward ih again).2

theorem Visited.delimited (visited : Visited app newerVersion memory packetEnd start state)
    (delimited : Delimited app newerVersion memory packetEnd start.place) :
    Delimited app newerVersion memory packetEnd state.place := by
  induction visited with
  | refl => exact delimited
  | tail _ again ih => exact (delimited_step.mp ih).2 _ again

theorem Finishes.wellFormed (finishes : Finishes app newerVersion memory packetEnd true state)
    (delimited : Delimited app newerVersion memory packetEnd state.place) :
    WellFormed app newerVersion memory packetEnd state.place := by
  induction finishes with
  | now last =>
    refine (grammar_step not_false).mpr ⟨(delimited_step.mp delimited).1,?_⟩
    rw [last]
    rfl
  | later again _ ih =>
    obtain ⟨room,rest⟩ := delimited_step.mp delimited
    refine (grammar_step not_false).mpr ⟨room,?_⟩
    rw [again]
    exact ih (rest _ again)

theorem Finishes.delimited (finishes : Finishes app newerVersion memory packetEnd false state)
    (inside : ∀ other, Visited app newerVersion memory packetEnd state other →
      ∀ address ∈ parseReads app newerVersion memory packetEnd other, address < packetEnd) :
    Delimited app newerVersion memory packetEnd state.place := by
  induction finishes with
  | now last =>
    refine delimited_step.mpr ⟨Room.of_refused (refused_iff.mpr last),fun next again => ?_⟩
    rw [last] at again
    cases again
  | later again _ ih =>
    refine delimited_step.mpr ⟨Room.of_reads again (inside _ .refl),fun other same => ?_⟩
    have equal := same.symm.trans again
    cases equal
    exact ih fun next visited => inside next (.head again visited)

end Runs

section Packet
variable (app : SrpApp) (enabled : Bool) (memory : Memory) (length : Nat)

def frameReads : List Nat :=
  if !enabled then [] else List.range 6 ++ if bytesAt memory 0 6 ≠ app.dstMac then [] else [14]

def newerPacket : Bool := decide (memory 14 > app.protoVersion)

def mrpHeaderLength : Nat := if app.hasAttributeListLength then 4 else 2

def Addressed : Prop := enabled = true ∧ bytesAt memory 0 6 = app.dstMac ∧ app.protoVersion ≤ memory 14

/-- `Addressed`, and there is a message to begin with. -/
def Started : Prop := Addressed app enabled memory ∧ 15 + mrpHeaderLength app ≤ length

def Mrpdu : Prop :=
  Started app enabled memory length ∧ WellFormed app (newerPacket app memory) memory length (.message 15)

/-- Everything is read inside the packet, every iteration moves forward and stays inside, the parse ends, and it refuses
what is not an MRPDU. -/
structure ParsedInside : Prop where
  frame : ∀ address ∈ frameReads app enabled memory, address < length
  reads : Started app enabled memory length → ∀ state,
    Visited app (newerPacket app memory) memory length (.message 15) state →
      ∀ address ∈ parseReads app (newerPacket app memory) memory length state, address < length
  forward : Started app enabled memory length → ∀ state next,
    Visited app (newerPacket app memory) memory length (.message 15) state →
      Continues app (newerPacket app memory) memory length state next →
        state.position < next.position ∧ next.position ≤ length
  terminates : ∃ accepted, (mrpProcessPacket app enabled memory length).2 = some accepted
  rejects : ¬Mrpdu app enabled memory length → (mrpProcessPacket app enabled memory length).2 = some false

/-- The bytes read before the loops are there, and so are the end marks up to the first message or vector that is
refused. -/
def EndMarks : Prop :=
  enabled = true → 6 ≤ length ∧ (bytesAt memory 0 6 = app.dstMac → 15 ≤ length ∧ (app.protoVersion ≤ memory 14 →
    15 + mrpHeaderLength app ≤ length ∧ Delimited app (newerPacket app memory) memory length (.message 15)))

variable {app : SrpApp} {enabled : Bool} {memory : Memory} {length : Nat}

theorem Started.within (started : Started app enabled memory length) : Within app length (.message 15) := started.2

private theorem mrpProcessPacket_dropped (dropped : ¬Addressed app enabled memory) :
    mrpProcessPacket app enabled memory length = ([],some false) := by
  unfold mrpProcessPacket
  split
  · rfl
  next running =>
    split
    · rfl
    next same =>
      split
      · rfl
      next version =>
        refine absurd ⟨by simpa using running,not_not.mp same,?_⟩ dropped
        simpa using version

private theorem mrpProcessPacket_addressed (addressed : Addressed app enabled memory) :
    mrpProcessPacket app enabled memory length =
      if 15 + mrpHeaderLength app > length then ([],some true)
      else parseLoop app (newerPacket app memory) memory length (length + 1) (.next (.message 15)) := by
  obtain ⟨running,same,version⟩ := addressed
  unfold mrpProcessPacket
  rw [if_neg (by simp [running]),if_neg (not_not.mpr same),if_neg (by simpa using version)]
  rfl

private theorem mrpProcessPacket_finishes (started : Started app enabled memory length) :
    ∃ accepted, (mrpProcessPacket app enabled memory length).2 = some accepted ∧
      Finishes app (newerPacket app memory) memory length accepted (.message 15) := by
  rw [mrpProcessPacket_addressed started.1,if_neg (not_lt_of_le started.2)]
  exact parseLoop_finishes started.within (by omega)

theorem mrpProcessPacket_terminates : ∃ accepted, (mrpProcessPacket app enabled memory length).2 = some accepted := by
  by_cases addressed : Addressed app enabled memory
  case neg => exact ⟨false,by rw [mrpProcessPacket_dropped addressed]⟩
  case pos =>
    by_cases room : 15 + mrpHeaderLength app ≤ length
    case pos =>
      obtain ⟨accepted,result,-⟩ := mrpProcessPacket_finishes ⟨addressed,room⟩
      exact ⟨accepted,result⟩
    case neg => exact ⟨true,by rw [mrpProcessPacket_addressed addressed,if_pos (Nat.lt_of_not_le room)]⟩

theorem EndMarks.started (marks : EndMarks app enabled memory length) (addressed : Addressed app enabled memory) :
    Started app enabled memory length ∧ Delimited app (newerPacket app memory) memory length (.message 15) := by
  obtain ⟨room,delimited⟩ := ((marks addressed.1).2 addressed.2.1).2 addressed.2.2
  exact ⟨⟨addressed,room⟩,delimited⟩

theorem EndMarks.inside (marks : EndMarks app enabled memory length) : ParsedInside app enabled memory length where
  frame := by
    intro address member
    unfold frameReads at member
    split at member
    · cases member
    next running =>
      obtain ⟨address_length,rest⟩ := marks (by simpa using running)
      rcases mem_append.mp member with destination | version
      · have below := List.mem_range.mp destination
        omega
      · split at version
        · cases version
        next same =>
          have place := List.mem_singleton.mp version
          have room := (rest (not_not.mp same)).1
          omega
  reads started state visited := by
    have delimited := visited.delimited (marks.started started.1).2
    exact (delimited_step.mp delimited).1.reads (visited.within started.within)
  forward started state next visited again := by
    obtain ⟨moves,inside⟩ := parseStep_forward (visited.within started.within) again
    exact ⟨moves,inside.position_le⟩
  terminates := mrpProcessPacket_terminates
  rejects := by
    intro malformed
    by_cases addressed : Addressed app enabled memory
    case neg => rw [mrpProcessPacket_dropped addressed]
    case pos =>
      obtain ⟨started,delimited⟩ := marks.started addressed
      obtain ⟨accepted,result,finishes⟩ := mrpProcessPacket_finishes started
      cases accepted with
      | true => exact absurd ⟨started,finishes.wellFormed delimited⟩ malformed
      | false => exact result

theorem ParsedInside.endMarks (inside : ParsedInside app enabled memory length) :
    EndMarks app enabled memory length := by
  intro running
  have frame : frameReads app enabled memory =
      List.range 6 ++ if bytesAt memory 0 6 ≠ app.dstMac then [] else [14] := by
    unfold frameReads
    rw [if_neg (by simp [running])]
  refine ⟨inside.frame 5 (by simp [frame]),fun same => ⟨inside.frame 14 (by simp [frame,same]),fun version => ?_⟩⟩
  have addressed : Addressed app enabled memory := ⟨running,same,version⟩
  have room : 15 + mrpHeaderLength app ≤ length := by
    by_contra short
    have refused := inside.rejects fun grammar => short grammar.1.2
    rw [mrpProcessPacket_addressed addressed,if_pos (Nat.lt_of_not_le short)] at refused
    cases refused
  refine ⟨room,?_⟩
  obtain ⟨accepted,result,finishes⟩ := mrpProcessPacket_finishes ⟨addressed,room⟩
  cases accepted with
  | false => exact finishes.delimited (inside.reads ⟨addressed,room⟩)
  | true =>
    have grammar : Mrpdu app enabled memory length := by
      by_contra malformed
      have refused := result.symm.trans (inside.rejects malformed)
      cases refused
    exact grammar.2.delimited

/-- The parser stays inside the packet if the end marks are there, and only then. -/
theorem packet_inside (app : SrpApp) (enabled : Bool) (memory : Memory) (length : Nat) :
    ParsedInside app enabled memory length ↔ EndMarks app enabled memory length :=
  ⟨ParsedInside.endMarks,EndMarks.inside⟩

end Packet

def unmarkedFrame : Memory := fun i =>
  ([0x01,0x80,0xc2,0x00,0x00,0x21,0x00,0x04,0x9f,0x00,0x00,0x01,0x88,0xf5,0x00,0x01,0x02,0x00,0x75,0x00,0x02] :
    List UInt8)[i]?.getD 0

/-- The word behind the last byte is read. -/
theorem unmarkedFrame_read_behind : ¬ParsedInside .MVRP true unmarkedFrame 60 := by
  intro inside
  have started : Started .MVRP true unmarkedFrame 60 := by
    unfold Started Addressed
    decide
  have vector : Visited .MVRP (newerPacket .MVRP unmarkedFrame) unmarkedFrame 60 (.message 15)
      (.vector 1 2 60 false 17) := .single (by unfold Continues; decide)
  exact Nat.lt_irrefl 60 (inside.reads started _ vector 60 (by decide))

end Genavb.Mrp
