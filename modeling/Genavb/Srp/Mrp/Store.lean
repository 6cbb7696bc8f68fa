import Genavb.Srp.Mrp.Invariant

/-! The attribute store: the two lists of a type hold the live attributes of that type,
each once and with its own value, and an attribute is released for a reason. -/
namespace Genavb.Mrp
open List
open Function (update update_of_ne update_self)

variable {V : Type}

structure Store (app : MrpApplication V) : Prop where
  full : app.config.full = true
  listed : ∀ type id, id ∈ app.attributes type ↔ ∃ attr, app.heap id = some attr ∧ attr.type = type
  ordered : ∀ type, (app.attributesOrdered type).Perm (app.attributes type)
  nodup : ∀ type, (app.attributes type).Nodup
  distinct : ∀ id other attr item, app.heap id = some attr → app.heap other = some item →
    attr.type = item.type → attr.val = item.val → id = other
  fresh : ∀ id, app.nextId ≤ id → app.heap id = none
  accounted : ∀ id, id < app.nextId → app.heap id = none →
    ∃ cause applicant registrar, Observation.released cause id applicant registrar ∈ app.observed
  checked : ∀ id applicant registrar, .released .check id applicant registrar ∈ app.observed →
    observes applicant = true ∧ registrar = .MT

def withdrawn (app : MrpApplication V) (id : AttrId) : Prop :=
  ∃ attr, app.heap id = some attr ∧ unused app.config
    {attr with applicant := applicantMachine app.config attr.registrar.state .LV attr.applicant.state} = true

/-- The timer of a new attribute is granted, a pointer argument is live, and a handler does
not release the attribute it is called for. -/
def storeKept [DecidableEq V] (own : Option AttrId) (app : MrpApplication V) : MrpCall V → Prop
  | .joinRequest type val _ alloc =>
    app.enabled = true → mrpFindAttribute type val app = .missing → alloc ≠ .noTimer
  | .joinImmediate type val alloc =>
    app.enabled = true → mrpFindAttribute type val app = .missing → alloc ≠ .noTimer
  | .leaveRequest type val => ∀ id, own = some id → mrpFindAttribute type val app = .found id → ¬withdrawn app id
  | .freeImmediate id => (app.heap id).isSome = true ∧ own ≠ some id
  | .leaveImmediate id => (app.heap id).isSome = true

namespace Store

variable {app : MrpApplication V} {id : AttrId}

theorem live (store : Store app) {type : AttrType}
    (member : id ∈ app.attributes type) : ∃ attr, app.heap id = some attr := by
  obtain ⟨attr,found,-⟩ := (store.listed type id).mp member
  exact ⟨attr,found⟩

variable {attr : MrpAttribute V}

section
variable (store : Store app)
include store

theorem rewrite {next : MrpAttribute V}
    (found : app.heap id = some attr) (type : next.type = attr.type) (val : next.val = attr.val)
    (entries : List Observation)
    (silent : ∀ cause other applicant registrar, .released cause other applicant registrar ∉ entries) :
    Store {app with
      heap := update app.heap id (some next), observed := app.observed ++ entries} := by
  -- every block keeps its type and value
  have old : ∀ other item, update app.heap id (some next) other = some item →
      ∃ before, app.heap other = some before ∧ item.type = before.type ∧ item.val = before.val := by
    intro other item live
    by_cases same : other = id
    · subst same
      rw [update_self,Option.some.injEq] at live
      subst live
      exact ⟨attr,found,type,val⟩
    · rw [update_of_ne same] at live
      exact ⟨item,live,rfl,rfl⟩
  have absent : ∀ other, update app.heap id (some next) other = none ↔ app.heap other = none := by
    intro other
    by_cases same : other = id
    · subst same
      simp [found]
    · rw [update_of_ne same]
  refine ⟨store.full,?_,store.ordered,store.nodup,?_,?_,?_,?_⟩
  · intro kind other
    rw [store.listed]
    constructor
    · rintro ⟨item,live,same⟩
      by_cases equal : other = id
      · subst equal
        rw [found,Option.some.injEq] at live
        subst live
        exact ⟨next,update_self _ _ _,type.trans same⟩
      · exact ⟨item,(update_of_ne equal _ _).trans live,same⟩
    · rintro ⟨item,live,same⟩
      obtain ⟨before,live,kept,-⟩ := old other item live
      exact ⟨before,live,kept ▸ same⟩
  · intro first second one two liveOne liveTwo sameType sameVal
    obtain ⟨before,liveOne,typeOne,valOne⟩ := old first one liveOne
    obtain ⟨after,liveTwo,typeTwo,valTwo⟩ := old second two liveTwo
    exact store.distinct first second before after liveOne liveTwo
      (typeOne ▸ typeTwo ▸ sameType) (valOne ▸ valTwo ▸ sameVal)
  · intro other beyond
    exact (absent other).mpr (store.fresh other beyond)
  · intro other below gone
    obtain ⟨cause,applicant,registrar,entry⟩ := store.accounted other below ((absent other).mp gone)
    exact ⟨cause,applicant,registrar,mem_append_left _ entry⟩
  · intro other applicant registrar entry
    rcases mem_append.mp entry with entry | entry
    · exact store.checked other applicant registrar entry
    · exact absurd entry (silent _ _ _ _)

theorem registrarSm (event : MrpEvent) (found : app.heap id = some attr) : Store (mrpRegistrarSm event id app).1 := by
  obtain ⟨entries,outcome,plain⟩ := mrpRegistrarSm_outcome event found
  rw [outcome]
  refine store.rewrite found ?_ ?_ entries ?_
  · rfl
  · rfl
  intro cause other applicant registrar entry
  rcases plain _ entry with leaving | ⟨kind,before,indicated⟩
  · cases leaving
  · cases indicated

theorem observe (entry : Observation)
    (silent : ∀ cause other applicant registrar, entry ≠ .released cause other applicant registrar) :
    Store (app.observe entry) := by
  refine {store with accounted := ?_, checked := ?_}
  · intro id below gone
    obtain ⟨cause,applicant,registrar,item⟩ := store.accounted id below gone
    exact ⟨cause,applicant,registrar,mem_append_left _ item⟩
  · intro id applicant registrar item
    rcases mem_append.mp item with item | item
    · exact store.checked id applicant registrar item
    · exact absurd (mem_singleton.mp item).symm (silent _ _ _ _)

section
variable (found : app.heap id = some attr)
include found

theorem write {next : MrpAttribute V}
(type : next.type = attr.type) (val : next.val = attr.val) :
    Store (app.write id next) := by
  have rewritten := store.rewrite found type val [] (by simp)
  simpa [MrpApplication.write] using rewritten

theorem moveToTail : Store (app.moveToTail attr.type id) := by
  refine {store with ordered := ?_}
  intro type
  by_cases same : type = attr.type
  · subst same
    have member : id ∈ app.attributesOrdered attr.type :=
      (store.ordered _).mem_iff.mpr ((store.listed _ id).mpr ⟨attr,found,rfl⟩)
    simp only [MrpApplication.moveToTail,update_self]
    have front := perm_append_singleton id ((app.attributesOrdered attr.type).erase id)
    exact (front.trans (perm_cons_erase member).symm).trans (store.ordered _)
  · simpa [MrpApplication.moveToTail,same] using store.ordered type

theorem expire (ms : Nat) : Store (app.expire id attr ms) := by
  have ticked := store.observe (.leaveTick id ms) (by simp)
  refine Store.observe ?_ _ (by simp)
  apply ticked.write found <;> rfl

end

theorem free
    (cause : FreeCause) (found : app.heap id = some attr)
    (idle : cause = .check → unused app.config attr = true) : Store (mrpFreeAttribute cause id app) := by
  have old : ∀ other item, update app.heap id none other = some item →
      other ≠ id ∧ app.heap other = some item := by
    intro other item live
    by_cases same : other = id
    · simp [same] at live
    · exact ⟨same,by simpa [same] using live⟩
  unfold mrpFreeAttribute
  rw [found]
  refine ⟨store.full,?_,?_,?_,?_,?_,?_,?_⟩ <;> dsimp only
  · intro type other
    have listed := store.listed type other
    have still : other ≠ id → (other ∈ app.attributes type ↔
        ∃ item, update app.heap id none other = some item ∧ item.type = type) := by
      intro different
      rw [listed,update_of_ne different]
    by_cases same : type = attr.type
    · subst same
      rw [update_self,(store.nodup _).mem_erase_iff]
      constructor
      · rintro ⟨different,member⟩
        exact (still different).mp member
      · rintro ⟨item,live,kind⟩
        have different := (old other item live).1
        exact ⟨different,(still different).mpr ⟨item,live,kind⟩⟩
    · rw [update_of_ne same]
      by_cases different : other = id
      · subst different
        simp only [update_self,reduceCtorEq,false_and,exists_false,iff_false]
        intro member
        obtain ⟨item,live,kind⟩ := listed.mp member
        rw [found,Option.some.injEq] at live
        exact same (live ▸ kind).symm
      · exact still different
  · intro type
    by_cases same : type = attr.type
    · subst same
      simpa using (store.ordered attr.type).erase id
    · simpa [same] using store.ordered type
  · intro type
    by_cases same : type = attr.type
    · subst same
      simpa using (store.nodup attr.type).erase id
    · simpa [same] using store.nodup type
  · intro first second one two liveOne liveTwo
    exact store.distinct first second one two (old first one liveOne).2 (old second two liveTwo).2
  · intro other beyond
    by_cases same : other = id
    · simp [same]
    · simpa [same] using store.fresh other beyond
  · intro other below gone
    by_cases same : other = id
    · subst same
      exact ⟨cause,attr.applicant.state,attr.registrar.state,by simp⟩
    · obtain ⟨why,applicant,registrar,entry⟩ :=
        store.accounted other below (by simpa [same] using gone)
      exact ⟨why,applicant,registrar,mem_append_left _ entry⟩
  · intro other applicant registrar entry
    rcases mem_append.mp entry with entry | entry
    · exact store.checked other applicant registrar entry
    · simp only [mem_singleton,Observation.released.injEq] at entry
      obtain ⟨why,-,rfl,rfl⟩ := entry
      have idle := idle why.symm
      simpa [unused,store.full] using idle

end

section Find
variable [DecidableEq V]

variable {heap : AttrId → Option (MrpAttribute V)} {ids : List AttrId}

theorem find_missing {val : V} (missing : findAttribute heap val ids = .missing) :
    ∀ id ∈ ids, ∀ attr, heap id = some attr → attr.val ≠ val := by
  induction ids with
  | nil => simp
  | cons first rest ih =>
    unfold findAttribute at missing
    split at missing
    · cases missing
    next item live =>
      split at missing
      · cases missing
      next other =>
        intro id member attr found
        rcases mem_cons.mp member with rfl | member
        · rw [live,Option.some.injEq] at found
          exact found ▸ other
        · exact ih missing id member attr found

theorem find_found {val : V} {id : AttrId} (found : findAttribute heap val ids = .found id) :
    id ∈ ids ∧ ∃ attr, heap id = some attr ∧ attr.val = val := by
  induction ids with
  | nil => cases found
  | cons first rest ih =>
    unfold findAttribute at found
    split at found
    · cases found
    next item live =>
      split at found
      next equal =>
        cases found
        exact ⟨mem_cons_self,item,live,equal⟩
      · obtain ⟨member,attr⟩ := ih found
        exact ⟨mem_cons_of_mem _ member,attr⟩

theorem find_live (val : V)
    (live : ∀ id ∈ ids, ∃ attr, heap id = some attr) : findAttribute heap val ids ≠ .stale := by
  induction ids with
  | nil => simp [findAttribute]
  | cons first rest ih =>
    obtain ⟨attr,found⟩ := live first mem_cons_self
    simp only [findAttribute,found]
    split
    · simp
    · exact ih fun id member => live id (mem_cons_of_mem _ member)

theorem create {app : MrpApplication V} (store : Store app) {type : AttrType} {val : V}
    (registrar : RegistrarState) (missing : mrpFindAttribute type val app = .missing) :
    Store (app.create type val registrar) := by
  let block := MrpAttribute.begun app.config type val registrar
  have new := store.fresh app.nextId (Nat.le_refl _)
  have unlisted : ∀ kind, app.nextId ∉ app.attributes kind := by
    intro kind member
    obtain ⟨item,live⟩ := store.live member
    rw [new] at live
    cases live
  have unique : ∀ id item, app.heap id = some item → item.type = type → item.val ≠ val := by
    intro id item live kind
    exact find_missing missing id ((store.listed type id).mpr ⟨item,live,kind⟩) item live
  have old : ∀ other item, update app.heap app.nextId (some block) other = some item →
      (other = app.nextId ∧ item = block) ∨ (other ≠ app.nextId ∧ app.heap other = some item) := by
    intro other item live
    by_cases same : other = app.nextId
    · left
      rw [same,update_self,Option.some.injEq] at live
      exact ⟨same,live.symm⟩
    · right
      exact ⟨same,by rwa [update_of_ne same] at live⟩
  refine ⟨store.full,?_,?_,?_,?_,?_,?_,?_⟩ <;>
    dsimp only [MrpApplication.create,MrpApplication.observe,MrpApplication.write,MrpApplication.link]
  · intro kind id
    by_cases same : id = app.nextId
    · subst same
      by_cases mine : kind = type
      · subst mine
        simp [MrpAttribute.begun]
      · simp [MrpAttribute.begun,mine,unlisted,Ne.symm mine]
    · rw [update_of_ne same,← store.listed]
      by_cases mine : kind = type
      · subst mine
        simp [same]
      · simp [mine]
  · intro kind
    by_cases mine : kind = type
    · subst mine
      simpa using (store.ordered kind)
    · simpa [mine] using store.ordered kind
  · intro kind
    by_cases mine : kind = type
    · subst mine
      simpa using ⟨unlisted kind,store.nodup kind⟩
    · simpa [mine] using store.nodup kind
  · intro first second one two liveOne liveTwo kind val
    rcases old first one liveOne with ⟨rfl,rfl⟩ | ⟨-,liveOne⟩ <;>
      rcases old second two liveTwo with ⟨rfl,rfl⟩ | ⟨-,liveTwo⟩
    · rfl
    · exact absurd val.symm (unique second two liveTwo kind.symm)
    · exact absurd val (unique first one liveOne kind)
    · exact store.distinct first second one two liveOne liveTwo kind val
  · intro id beyond
    have different : id ≠ app.nextId := Nat.ne_of_gt beyond
    rw [update_of_ne different]
    exact store.fresh id (Nat.le_of_succ_le beyond)
  · intro id below gone
    have different : id ≠ app.nextId := by
      rintro rfl
      simp at gone
    rw [update_of_ne different] at gone
    have below : id < app.nextId := Nat.lt_of_le_of_ne (Nat.le_of_lt_succ below) different
    obtain ⟨cause,applicant,state,entry⟩ := store.accounted id below gone
    exact ⟨cause,applicant,state,mem_append_left _ entry⟩
  · intro id applicant state entry
    rcases mem_append.mp entry with entry | entry
    · exact store.checked id applicant state entry
    · simp at entry

end Find

theorem cleared {config : MrpConfig} (full : config.full = true) :
    Store (MrpApplication.cleared (V := V) config) := by
  refine ⟨full,?_,?_,?_,?_,?_,?_,?_⟩ <;> simp [MrpApplication.cleared]

end Store

theorem store_rule [DecidableEq V] : StepRule (V := V) storeKept Store where
  frame := by
    rintro app next ⟨config,heap,attributes,ordered,nextId,observed⟩ store
    refine ⟨?_,?_,?_,?_,?_,?_,?_,?_⟩ <;> simp only [config,heap,attributes,ordered,nextId,observed]
    · exact store.full
    · exact store.listed
    · exact store.ordered
    · exact store.nodup
    · exact store.distinct
    · exact store.fresh
    · exact store.accounted
    · exact store.checked
  applicant := by
    intro app id attr applicant found store
    exact store.write found rfl rfl
  reorder := by
    intro app id attr found store
    exact store.moveToTail found
  received := by
    intro app id attr event _ found store
    exact store.registrarSm event found
  immediate := by
    intro own app id attr found _ store
    exact (store.observe (.leaveImmediate id) (by simp)).registrarSm .RLV_IMMEDIATE found
  stale := by
    intro app id _ store
    exact store.observe _ (by simp)
  tick := by
    intro app id attr ms found _ _ store
    exact (store.observe (.leaveTick id ms) (by simp)).write found rfl rfl
  expire := by
    intro app id attr ms found _ _ store
    exact (store.expire found ms).registrarSm .LEAVETIMER (update_self _ _ _)
  check := by
    intro app id attr found idle store
    exact store.free .check found fun _ => idle
  freeImmediate := by
    intro own app id attr found _ store
    exact store.free .immediate found (by simp)
  disable := by
    intro app id attr found store
    exact store.free .disable found (by simp)
  create := by
    intro app type val registrar _ missing store
    exact store.create registrar missing
  refused := by
    rintro own app type val on missing (⟨new,granted⟩ | granted) _
    · exact absurd rfl (granted on missing)
    · exact absurd rfl (granted on missing)

end Genavb.Mrp
