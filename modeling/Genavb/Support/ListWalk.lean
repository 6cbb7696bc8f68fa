import Mathlib.Data.List.Forall2
import Mathlib.Data.List.Nodup

/-! Lists whose items are related in order. -/
namespace Genavb.Support

theorem forall₂_imp_mem {α β : Type} {before later : α → β → Prop} {left : List α} {right : List β}
    (all : List.Forall₂ before left right) (imp : ∀ a, ∀ b ∈ right, before a b → later a b) :
    List.Forall₂ later left right := by
  induction all with
  | nil => exact .nil
  | cons head _ ih =>
    apply List.Forall₂.cons
    · exact imp _ _ List.mem_cons_self head
    · exact ih fun a b member => imp a b (List.mem_cons_of_mem _ member)

end Genavb.Support

/-! Two logs, the entries of the second each describing an entry of the first that is its own. -/
namespace Genavb.Support

section Owners
variable {α β : Type} {describes : α → Nat → β → Prop} {sent : List α} {owners : List Nat} {answers : List β}

/-- Each answer describes the message at its owner, and no two answers have the same owner. -/
def Owned (describes : α → Nat → β → Prop) (sent : List α) (owners : List Nat) (answers : List β) : Prop :=
  owners.Nodup ∧
    List.Forall₂ (fun owner answer => ∃ message, sent[owner]? = some message ∧ describes message owner answer) owners answers

theorem owned_nil : Owned describes sent [] [] := ⟨List.nodup_nil,.nil⟩

theorem owned_send (message : α) (owned : Owned describes sent owners answers) :
    Owned describes (sent ++ [message]) owners answers := by
  refine ⟨owned.1,owned.2.imp fun owner answer found => ?_⟩
  obtain ⟨old,present,described⟩ := found
  have inside : owner < sent.length := (List.getElem?_eq_some_iff.mp present).1
  exact ⟨old,by rw [List.getElem?_append_left inside,present],described⟩

theorem owned_append {owner : Nat} {answer : β} {message : α} (owned : Owned describes sent owners answers)
    (present : sent[owner]? = some message) (described : describes message owner answer) (fresh : owner ∉ owners) :
    Owned describes sent (owners ++ [owner]) (answers ++ [answer]) := by
  refine ⟨List.nodup_append.mpr ⟨owned.1,by simp,?_⟩,?_⟩
  · intro old member new same equal
    rw [List.mem_singleton.mp same] at equal
    exact fresh (equal ▸ member)
  · exact List.rel_append owned.2 (.cons ⟨message,present,described⟩ .nil)

end Owners

end Genavb.Support

/-! A do-while walk over an intrusive list whose body may move the current entry to the tail or take it out: the
next entry is read before the body runs, and the entry that was the last at the start is the last one visited. -/
namespace Genavb.Support
open List

variable {α σ : Type} [DecidableEq α]

/-- The entry behind another; `none` is the head of the list. -/
def listNext (entry : α) : List α → Option α
  | [] => none
  | first :: rest => if first = entry then rest.head? else listNext entry rest

/-- The walk from an entry in at most `fuel` iterations, with the entries it visits. It has no result when the fuel
does not suffice or when the head is taken for an entry. -/
def listWalk (order : σ → List α) (body : α → σ → σ) (last : α) : Nat → α → σ → Option (σ × List α)
  | 0,_,_ => none
  | fuel + 1,entry,state =>
    let next := listNext entry (order state)
    let state := body entry state
    if entry = last then some (state,[entry]) else
    match next with
    | none => none
    | some next => (listWalk order body last fuel next state).map fun (state,visited) => (state,entry :: visited)

def Requeue (entry : α) (before after : List α) : Prop :=
  after = before ∨ after = before.erase entry ∨ after = before.erase entry ++ [entry]

structure Requeues (Inv : σ → Prop) (order : σ → List α) (body : α → σ → σ) : Prop where
  kept : ∀ entry state, Inv state → entry ∈ order state → Inv (body entry state)
  moved : ∀ entry state, Inv state → entry ∈ order state → Requeue entry (order state) (order (body entry state))

theorem listNext_behind {entry : α} {front back : List α} (ahead : entry ∉ front) :
    listNext entry (front ++ entry :: back) = back.head? := by
  induction front with
  | nil => simp [listNext]
  | cons first rest ih =>
    rw [mem_cons,not_or] at ahead
    have other : first ≠ entry := fun same => ahead.1 same.symm
    rw [cons_append,listNext,if_neg other]
    exact ih ahead.2

theorem Requeue.around {entry : α} {front rest back after : List α}
    (distinct : (front ++ entry :: (rest ++ back)).Nodup)
    (moved : Requeue entry (front ++ entry :: (rest ++ back)) after) :
    ∃ left right, after = left ++ (rest ++ right) ∧ after.Nodup := by
  have ahead : entry ∉ front := by
    intro member
    exact disjoint_of_nodup_append distinct member mem_cons_self
  have erased : (front ++ entry :: (rest ++ back)).erase entry = front ++ (rest ++ back) := by
    rw [erase_append_right _ ahead,erase_cons_head]
  rcases moved with same | out | tail
  · exact ⟨front ++ [entry],back,by simp [same],same ▸ distinct⟩
  · refine ⟨front,back,out.trans erased,?_⟩
    rw [out]
    exact distinct.erase entry
  · refine ⟨front,back ++ [entry],by simp [tail,erased],?_⟩
    have perm := perm_append_singleton entry ((front ++ entry :: (rest ++ back)).erase entry)
    have member : entry ∈ front ++ entry :: (rest ++ back) := by simp
    rw [tail]
    exact (perm.trans (perm_cons_erase member).symm).nodup_iff.mpr distinct

theorem Requeue.nodup {entry : α} {before after : List α} (moved : Requeue entry before after)
    (member : entry ∈ before) (distinct : before.Nodup) : after.Nodup := by
  obtain ⟨front,back,rfl⟩ := append_of_mem member
  obtain ⟨left,right,-,nodup⟩ := @Requeue.around α _ entry front [] back after distinct moved
  exact nodup

theorem Requeue.subset {entry : α} {before after : List α} (moved : Requeue entry before after)
    (member : entry ∈ before) {other : α} (inside : other ∈ after) : other ∈ before := by
  rcases moved with rfl | rfl | rfl
  · exact inside
  · exact mem_of_mem_erase inside
  · rcases mem_append.mp inside with kept | same
    · exact mem_of_mem_erase kept
    · rw [mem_singleton.mp same]
      exact member

theorem Requeues.walk {Inv : σ → Prop} {order : σ → List α} {body : α → σ → σ} (rule : Requeues Inv order body)
    {rest front back : List α} {entry : α} {state : σ} {fuel : Nat} (holds : Inv state)
    (here : order state = front ++ entry :: (rest ++ back)) (distinct : (order state).Nodup)
    (enough : rest.length < fuel) :
    listWalk order body ((entry :: rest).getLast (cons_ne_nil _ _)) fuel entry state =
        some ((entry :: rest).foldl (fun state entry => body entry state) state,entry :: rest) ∧
      Inv ((entry :: rest).foldl (fun state entry => body entry state) state) := by
  -- by induction on what is left, which the body leaves in one piece
  induction rest generalizing entry state front back fuel with
  | nil =>
    obtain ⟨less,rfl⟩ := Nat.exists_eq_add_of_lt enough
    refine ⟨?_,rule.kept entry state holds (by simp [here])⟩
    simp [listWalk]
  | cons next rest ih =>
    obtain ⟨less,rfl⟩ := Nat.exists_eq_add_of_lt enough
    have member : entry ∈ order state := by simp [here]
    have ahead : entry ∉ front := by
      intro inside
      exact disjoint_of_nodup_append (here ▸ distinct) inside mem_cons_self
    have moved := rule.moved entry state holds member
    rw [here] at moved distinct
    obtain ⟨left,right,after,nodup⟩ := moved.around distinct
    rw [cons_append] at after
    have room : rest.length < (next :: rest).length + less := by
      simp only [length_cons]
      omega
    obtain ⟨walked,kept⟩ := ih (rule.kept entry state holds member) after nodup room
    have behind : listNext entry (order state) = some next := by
      rw [here,listNext_behind ahead]
      rfl
    have other : entry ≠ (entry :: next :: rest).getLast (cons_ne_nil _ _) := by
      intro same
      have inside : entry ∈ next :: rest := by
        rw [getLast_cons (cons_ne_nil next rest)] at same
        exact same ▸ getLast_mem _
      have tail := (nodup_append.mp distinct).2.1
      rw [← cons_append] at tail
      exact (nodup_cons.mp tail).1 (mem_append_left _ inside)
    refine ⟨?_,kept⟩
    rw [listWalk]
    simp only [behind,if_neg other]
    rw [getLast_cons (cons_ne_nil next rest),walked]
    rfl

end Genavb.Support
