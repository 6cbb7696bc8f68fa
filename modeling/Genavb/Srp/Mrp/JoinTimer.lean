import Genavb.Support.ListWalk
import Genavb.Srp.Mrp.Access
import Genavb.Srp.Mrp.Isolation

/-! The join timer handler with the list walk of the source: although the applicant machine moves attributes to the
tail of the list it walks and unused attributes are freed, each attribute gets its transmit event once, in the order
of the list, and no MRPDU is left under construction. -/
namespace Genavb.Mrp
open Support List
open Function (update update_idem update_of_ne update_self)
open MrpAttribute

variable {V : Type}

def joinAttribute (event : MrpEvent) (id : AttrId) (app : MrpApplication V) : MrpApplication V :=
  mrpFreeAttributeCheck id (mrpApplicantSm event id app)

def joinTimerWalk (event : MrpEvent) (fuel : Nat) (type : AttrType) (app : MrpApplication V) :
    Option (MrpApplication V × List AttrId) :=
  match app.attributesOrdered type with
  | [] => some (app,[])
  | first :: rest =>
    listWalk (fun app => app.attributesOrdered type) (joinAttribute event)
      ((first :: rest).getLast (cons_ne_nil _ _)) fuel first app

def joinTimerWalks (event : MrpEvent) (fuel : Nat) : List AttrType → MrpApplication V →
    Option (MrpApplication V × List AttrId)
  | [],app => some (app,[])
  | type :: types,app => do
    let (app,visited) ← joinTimerWalk event fuel type app
    let (app,others) ← joinTimerWalks event fuel types app
    return (app,visited ++ others)

def joinTimerEvent (app : MrpApplication V) : MrpEvent := if app.leaveall.action = .SLA then .TXLA else .TX

def joinTypes (event : MrpEvent) (types : List AttrType) (app : MrpApplication V) : MrpApplication V :=
  types.foldl (fun app type => (app.attributesOrdered type).foldl (fun app id => joinAttribute event id app) app) app

def joinTimerRun (fuel : Nat) (app : MrpApplication V) : Option (MrpApplication V × List AttrId) := do
  let app := mrpLeaveallSm .TX 0 app
  let (next,visited) ← joinTimerWalks (joinTimerEvent app) fuel app.config.attrTypes app
  return (next.config.attrTypes.foldl (fun app type => mrpTransmitEnd type app) next,visited)

structure Queued (app : MrpApplication V) : Prop where
  nodup : ∀ type, (app.attributesOrdered type).Nodup
  live : ∀ type id, id ∈ app.attributesOrdered type → ∃ attr, app.heap id = some attr ∧ attr.type = type

structure Linked (app : MrpApplication V) : Prop extends Queued app where
  listed : ∀ type id, id ∈ app.attributes type → id ∈ app.attributesOrdered type

theorem Store.linked {app : MrpApplication V} (store : Store app) : Linked app := by
  refine ⟨⟨?_,?_⟩,?_⟩
  · intro type
    exact (store.ordered type).nodup_iff.mpr (store.nodup type)
  · intro type id member
    exact (store.listed type id).mp ((store.ordered type).mem_iff.mp member)
  · intro type id member
    exact (store.ordered type).mem_iff.mpr member

section Step
variable {app next : MrpApplication V} {id : AttrId} {attr : MrpAttribute V}

/-- What a transmit event makes of an attribute; `none` when it is freed. -/
def MrpAttribute.transmitted (config : MrpConfig) (event : MrpEvent) (attr : MrpAttribute V) :
    Option (MrpAttribute V) :=
  let attr := {attr with applicant := applicantMachine config attr.registrar.state event attr.applicant.state}
  if unused config attr then none else some attr

def MrpAttribute.transmission (config : MrpConfig) (event : MrpEvent) (attr : MrpAttribute V) :
    List (TransmitCall V) :=
  let applicant := applicantMachine config attr.registrar.state event attr.applicant.state
  ((actionToEvent config attr.registrar.state applicant.action).map fun event =>
    TransmitCall.action attr.type (some (attr.val,event)) false).toList

structure Applied (event : MrpEvent) (id : AttrId) (attr : MrpAttribute V) (app next : MrpApplication V) : Prop where
  heap : next.heap = update app.heap id (some {attr with
    applicant := applicantMachine app.config attr.registrar.state event attr.applicant.state})
  attributes : next.attributes = app.attributes
  ordered : next.attributesOrdered attr.type = app.attributesOrdered attr.type ∨
    next.attributesOrdered attr.type = (app.attributesOrdered attr.type).erase id ++ [id]
  others : ∀ type, type ≠ attr.type → next.attributesOrdered type = app.attributesOrdered type
  transmit : next.transmit = app.transmit ++ attr.transmission app.config event
  config : next.config = app.config
  leaveall : next.leaveall = app.leaveall
  fault : next.fault = app.fault

private theorem actionHandler_transmission (event : MrpEvent) (attr : MrpAttribute V) (config : next.config = app.config) :
    mrpApplicantActionHandler {attr with
        applicant := applicantMachine app.config attr.registrar.state event attr.applicant.state} next =
      {next with transmit := next.transmit ++ attr.transmission app.config event} := by
  unfold mrpApplicantActionHandler transmission
  rw [← config]
  split
  next silent => simp [silent]
  next sent spoken => simp [spoken,mrpTransmitAction]

theorem transmitRequest_join (asked : Bool) (app : MrpApplication V) :
    ∃ join, (if asked then mrpTransmitRequest app else app) = {app with join := join} := by
  unfold mrpTransmitRequest
  split
  · split
    · exact ⟨_,rfl⟩
    · exact ⟨_,rfl⟩
  · exact ⟨_,rfl⟩

private theorem mrpApplicantSm_applied (event : MrpEvent) (found : app.heap id = some attr) :
    Applied event id attr app (mrpApplicantSm event id app) := by
  unfold mrpApplicantSm
  rw [found]
  dsimp only
  obtain ⟨join,requested⟩ := transmitRequest_join ((applicantMachine app.config attr.registrar.state event
    attr.applicant.state).state != attr.applicant.state && requestsTransmit (applicantMachine app.config
      attr.registrar.state event attr.applicant.state).state) app
  rw [requested]
  split
  · rw [@actionHandler_transmission V app _ event attr]
    · refine ⟨rfl,rfl,.inr (update_self _ _ _),?_,rfl,rfl,rfl,rfl⟩
      intro type other
      exact update_of_ne other _ _
    · rfl
  · rw [@actionHandler_transmission V app _ event attr]
    · exact ⟨rfl,rfl,.inl rfl,fun _ _ => rfl,rfl,rfl,rfl,rfl⟩
    · rfl

theorem Applied.requeue {event : MrpEvent} (applied : Applied event id attr app next) :
    Requeue id (app.attributesOrdered attr.type) (next.attributesOrdered attr.type) := by
  rcases applied.ordered with same | tail
  · exact .inl same
  · exact .inr (.inr tail)

structure Joined (event : MrpEvent) (id : AttrId) (attr : MrpAttribute V) (app next : MrpApplication V) : Prop where
  heap : next.heap = update app.heap id (attr.transmitted app.config event)
  ordered : Requeue id (app.attributesOrdered attr.type) (next.attributesOrdered attr.type)
  freed : attr.transmitted app.config event = none → id ∉ next.attributesOrdered attr.type
  others : ∀ type, type ≠ attr.type → next.attributesOrdered type = app.attributesOrdered type
  transmit : next.transmit = app.transmit ++ attr.transmission app.config event
  config : next.config = app.config
  leaveall : next.leaveall = app.leaveall
  fault : next.fault = app.fault

private theorem joinAttribute_joined (queued : Queued app) (event : MrpEvent) (found : app.heap id = some attr)
    (member : id ∈ app.attributesOrdered attr.type) : Joined event id attr app (joinAttribute event id app) := by
  have applied := mrpApplicantSm_applied event found
  have live : (mrpApplicantSm event id app).heap id = some {attr with
      applicant := applicantMachine app.config attr.registrar.state event attr.applicant.state} := by
    rw [applied.heap,update_self]
  unfold joinAttribute mrpFreeAttributeCheck
  rw [live,applied.config]
  dsimp only
  split
  next unused =>
    have gone : attr.transmitted app.config event = none := by simp [transmitted,unused]
    have distinct := applied.requeue.nodup member (queued.nodup attr.type)
    have moved : Requeue id (app.attributesOrdered attr.type)
        (((mrpApplicantSm event id app).attributesOrdered attr.type).erase id) := by
      rcases applied.ordered with same | tail
      · exact .inr (.inl (by rw [same]))
      · refine .inr (.inl ?_)
        rw [tail,erase_append_right _ (queued.nodup attr.type).not_mem_erase]
        simp
    unfold mrpFreeAttribute
    rw [live]
    refine ⟨?_,?_,?_,?_,applied.transmit,applied.config,applied.leaveall,applied.fault⟩ <;> dsimp only
    · rw [gone,applied.heap]
      exact update_idem _ _ _
    · rw [update_self]
      exact moved
    · intro _
      rw [update_self]
      exact distinct.not_mem_erase
    · intro type other
      rw [update_of_ne other]
      exact applied.others type other
  next used =>
    have kept : attr.transmitted app.config event = some {attr with
        applicant := applicantMachine app.config attr.registrar.state event attr.applicant.state} := by
      simp [transmitted,used]
    refine ⟨?_,applied.requeue,?_,applied.others,applied.transmit,applied.config,applied.leaveall,applied.fault⟩
    · rw [kept]
      exact applied.heap
    · intro gone
      rw [kept] at gone
      cases gone

theorem Queued.joined {event : MrpEvent} (queued : Queued app) (member : id ∈ app.attributesOrdered attr.type)
    (joined : Joined event id attr app next) : Queued next := by
  refine ⟨?_,?_⟩
  · intro type
    by_cases same : type = attr.type
    · subst same
      exact joined.ordered.nodup member (queued.nodup _)
    · rw [joined.others type same]
      exact queued.nodup type
  · intro type other inside
    have before : other ∈ app.attributesOrdered type := by
      by_cases same : type = attr.type
      · subst same
        exact joined.ordered.subset member inside
      · rw [← joined.others type same]
        exact inside
    obtain ⟨item,live,kind⟩ := queued.live type other before
    by_cases own : other = id
    · subst own
      have mine : type = attr.type := by
        obtain ⟨found,here,sort⟩ := queued.live attr.type other member
        rw [live,Option.some.injEq] at here
        rw [← kind,here,sort]
      subst mine
      cases result : attr.transmitted app.config event with
      | none => exact absurd inside (joined.freed result)
      | some item =>
        refine ⟨item,?_,?_⟩
        · rw [joined.heap,update_self,result]
        · unfold transmitted at result
          dsimp only at result
          split at result
          · cases result
          · cases result
            rfl
    · refine ⟨item,?_,kind⟩
      rw [joined.heap,update_of_ne own]
      exact live

end Step

section Walk
variable {app next last : MrpApplication V} {event : MrpEvent}

structure Transmitted (event : MrpEvent) (ids : List AttrId) (app next : MrpApplication V) : Prop where
  visited : ∀ id ∈ ids, next.heap id = (app.heap id).bind (transmitted app.config event)
  others : ∀ id, id ∉ ids → next.heap id = app.heap id
  transmit : next.transmit = app.transmit ++
    ids.flatMap fun id => (app.heap id).elim [] (transmission app.config event)
  config : next.config = app.config
  leaveall : next.leaveall = app.leaveall
  fault : next.fault = app.fault

theorem Transmitted.nothing (event : MrpEvent) (app : MrpApplication V) : Transmitted event [] app app := by
  refine ⟨?_,fun _ _ => rfl,?_,rfl,rfl,rfl⟩
  · intro id member
    cases member
  · simp

theorem Transmitted.append {first second : List AttrId} (one : Transmitted event first app next)
    (two : Transmitted event second next last) (apart : first.Disjoint second) :
    Transmitted event (first ++ second) app last := by
  refine ⟨?_,?_,?_,two.config.trans one.config,two.leaveall.trans one.leaveall,two.fault.trans one.fault⟩
  · intro id member
    rcases mem_append.mp member with here | there
    · rw [two.others id (apart here),one.visited id here]
    · rw [two.visited id there,one.others id fun here => apart here there,one.config]
  · intro id absent
    rw [mem_append,not_or] at absent
    rw [two.others id absent.2,one.others id absent.1]
  · have unseen : ∀ id ∈ second, next.heap id = app.heap id :=
      fun id there => one.others id fun here => apart here there
    rw [two.transmit,one.transmit,one.config,flatMap_append,append_assoc]
    congr 2
    exact flatMap_congr fun id there => by rw [unseen id there]

theorem Joined.transmitted {id : AttrId} {attr : MrpAttribute V} (joined : Joined event id attr app next)
    (found : app.heap id = some attr) : Transmitted event [id] app next := by
  refine ⟨?_,?_,?_,joined.config,joined.leaveall,joined.fault⟩
  · intro other member
    rw [mem_singleton.mp member,joined.heap,update_self,found]
    rfl
  · intro other absent
    rw [joined.heap,update_of_ne (fun same => absent (mem_singleton.mpr same))]
  · rw [joined.transmit]
    simp [found]

theorem joinAttribute_requeues (event : MrpEvent) (type : AttrType) :
    Requeues (Queued : MrpApplication V → Prop) (fun app => app.attributesOrdered type) (joinAttribute event) := by
  refine ⟨?_,?_⟩
  · intro id app queued member
    obtain ⟨attr,found,rfl⟩ := queued.live type id member
    exact queued.joined member (joinAttribute_joined queued event found member)
  · intro id app queued member
    obtain ⟨attr,found,rfl⟩ := queued.live type id member
    exact (joinAttribute_joined queued event found member).ordered

theorem joinAttributes_transmitted {type : AttrType} {ids : List AttrId} (queued : Queued app) (distinct : ids.Nodup)
    (live : ∀ id ∈ ids, id ∈ app.attributesOrdered type) :
    Transmitted event ids app (ids.foldl (fun app id => joinAttribute event id app) app) ∧
      ∀ other, other ≠ type → (ids.foldl (fun app id => joinAttribute event id app) app).attributesOrdered other =
        app.attributesOrdered other := by
  induction ids generalizing app with
  | nil => exact ⟨.nothing event app,fun _ _ => rfl⟩
  | cons id rest ih =>
    obtain ⟨absent,distinct⟩ := nodup_cons.mp distinct
    obtain ⟨attr,found,rfl⟩ := queued.live type id (live id mem_cons_self)
    have member := live id mem_cons_self
    have joined := joinAttribute_joined queued event found member
    have still : ∀ other ∈ rest, other ∈ (joinAttribute event id app).attributesOrdered attr.type := by
      intro other inside
      have before := live other (mem_cons_of_mem _ inside)
      have different : other ≠ id := by
        rintro rfl
        exact absent inside
      rcases joined.ordered with same | out | tail
      · rw [same]
        exact before
      · rw [out]
        exact (mem_erase_of_ne different).mpr before
      · rw [tail]
        exact mem_append_left _ ((mem_erase_of_ne different).mpr before)
    obtain ⟨transmitted,kept⟩ := ih (queued.joined member joined) distinct still
    refine ⟨?_,?_⟩
    · have apart : List.Disjoint [id] rest := by
        intro other here there
        rw [mem_singleton.mp here] at there
        exact absent there
      exact (joined.transmitted found).append transmitted apart
    · intro other different
      exact (kept other different).trans (joined.others other different)

theorem joinTimerWalk_visits {fuel : Nat} (type : AttrType) (queued : Queued app)
    (enough : (app.attributesOrdered type).length ≤ fuel) :
    joinTimerWalk event fuel type app =
        some ((app.attributesOrdered type).foldl (fun app id => joinAttribute event id app) app,
          app.attributesOrdered type) ∧
      Queued ((app.attributesOrdered type).foldl (fun app id => joinAttribute event id app) app) := by
  unfold joinTimerWalk
  cases list : app.attributesOrdered type with
  | nil => exact ⟨rfl,queued⟩
  | cons first rest =>
    have short : rest.length < fuel := by
      rw [list] at enough
      exact enough
    exact @Requeues.walk AttrId _ _ _ _ _ (joinAttribute_requeues event type) rest [] [] first app fuel queued
      (by simpa using list) (queued.nodup type) short

theorem Queued.apart (queued : Queued app) {type other : AttrType} (different : type ≠ other) :
    List.Disjoint (app.attributesOrdered type) (app.attributesOrdered other) := by
  intro id here there
  obtain ⟨attr,found,kind⟩ := queued.live type id here
  obtain ⟨item,same,sort⟩ := queued.live other id there
  rw [found,Option.some.injEq] at same
  exact different (kind.symm.trans (same ▸ sort))

theorem joinTimerWalks_visits {types : List AttrType} (distinct : types.Nodup) (queued : Queued app) :
    Transmitted event (types.flatMap app.attributesOrdered) app (joinTypes event types app) ∧
      ∀ fuel, (∀ type ∈ types, (app.attributesOrdered type).length ≤ fuel) →
        joinTimerWalks event fuel types app = some (joinTypes event types app,types.flatMap app.attributesOrdered) := by
  induction types generalizing app with
  | nil => exact ⟨.nothing event app,fun _ _ => rfl⟩
  | cons type rest ih =>
    obtain ⟨absent,distinct⟩ := nodup_cons.mp distinct
    have walk := fun fuel => @joinTimerWalk_visits V app event fuel type queued
    have kept := (walk _ (Nat.le_refl _)).2
    obtain ⟨transmitted,others⟩ := @joinAttributes_transmitted V app event type _ queued (queued.nodup type)
      fun _ member => member
    have unfolded : joinTypes event (type :: rest) app = joinTypes event rest
      ((app.attributesOrdered type).foldl (fun app id => joinAttribute event id app) app) := rfl
    rw [unfolded,flatMap_cons]
    generalize (app.attributesOrdered type).foldl (fun app id => joinAttribute event id app) app = middle at *
    have order : ∀ other ∈ rest, middle.attributesOrdered other = app.attributesOrdered other := by
      intro other member
      apply others
      rintro rfl
      exact absent member
    obtain ⟨all,walks⟩ := ih distinct kept
    have lists : rest.flatMap middle.attributesOrdered = rest.flatMap app.attributesOrdered :=
      flatMap_congr order
    rw [lists] at walks all
    refine ⟨transmitted.append all ?_,?_⟩
    · intro id here there
      obtain ⟨other,member,inside⟩ := mem_flatMap.mp there
      have different : type ≠ other := by
        rintro rfl
        exact absent member
      exact queued.apart different here inside
    · intro fuel enough
      have first := (walk fuel (enough type mem_cons_self)).1
      have later := walks fuel (by
        intro other member
        rw [order other member]
        exact enough other (mem_cons_of_mem _ member))
      simp [joinTimerWalks,first,later]

end Walk

section Leaveall
variable {app next last : MrpApplication V}

/-- What the LeaveAll event of the application itself does: all attributes stay, their order may change. -/
structure Redeclared (app next : MrpApplication V) : Prop where
  live : ∀ id attr, app.heap id = some attr →
    ∃ item, next.heap id = some item ∧ item.type = attr.type ∧ item.val = attr.val
  ordered : ∀ type, (next.attributesOrdered type).Perm (app.attributesOrdered type)
  attributes : next.attributes = app.attributes
  transmit : ∃ calls, next.transmit = app.transmit ++ calls
  config : next.config = app.config
  leaveall : next.leaveall = app.leaveall
  fault : next.fault = app.fault

namespace Redeclared

theorem refl (app : MrpApplication V) : Redeclared app app :=
  ⟨fun _ attr found => ⟨attr,found,rfl,rfl⟩,fun _ => List.Perm.refl _,rfl,⟨[],by simp⟩,rfl,rfl,rfl⟩

theorem trans (first : Redeclared app next) (second : Redeclared next last) : Redeclared app last := by
  refine ⟨?_,fun type => (second.ordered type).trans (first.ordered type),
    second.attributes.trans first.attributes,?_,second.config.trans first.config,
    second.leaveall.trans first.leaveall,second.fault.trans first.fault⟩
  · intro id attr found
    obtain ⟨item,found,kind,val⟩ := first.live id attr found
    obtain ⟨after,found,sort,same⟩ := second.live id item found
    exact ⟨after,found,sort.trans kind,same.trans val⟩
  · obtain ⟨calls,sent⟩ := first.transmit
    obtain ⟨more,then_⟩ := second.transmit
    exact ⟨calls ++ more,by rw [then_,sent,append_assoc]⟩

theorem linked (redeclared : Redeclared app next) (linked : Linked app) : Linked next := by
  refine ⟨⟨?_,?_⟩,?_⟩
  · intro type
    exact (redeclared.ordered type).nodup_iff.mpr (linked.nodup type)
  · intro type id member
    obtain ⟨attr,found,kind⟩ := linked.live type id ((redeclared.ordered type).mem_iff.mp member)
    obtain ⟨item,found,sort,-⟩ := redeclared.live id attr found
    exact ⟨item,found,sort.trans kind⟩
  · intro type id member
    rw [redeclared.attributes] at member
    exact (redeclared.ordered type).mem_iff.mpr (linked.listed type id member)

theorem registrarSm {id : AttrId} {attr : MrpAttribute V} (event : MrpEvent) (found : app.heap id = some attr) :
    Redeclared app (mrpRegistrarSm event id app).1 := by
  obtain ⟨entries,outcome,-⟩ := mrpRegistrarSm_outcome event found
  rw [outcome]
  refine ⟨?_,fun _ => List.Perm.refl _,rfl,⟨[],by simp⟩,rfl,rfl,rfl⟩
  intro other item live
  by_cases same : other = id
  · subst same
    rw [found,Option.some.injEq] at live
    subst live
    exact ⟨_,update_self _ _ _,rfl,rfl⟩
  · exact ⟨item,(update_of_ne same _ _).trans live,rfl,rfl⟩

theorem applicantSm {id : AttrId} {attr : MrpAttribute V} (event : MrpEvent) (found : app.heap id = some attr)
    (member : id ∈ app.attributesOrdered attr.type) : Redeclared app (mrpApplicantSm event id app) := by
  have applied := mrpApplicantSm_applied event found
  refine ⟨?_,?_,applied.attributes,⟨_,applied.transmit⟩,applied.config,applied.leaveall,applied.fault⟩
  · intro other item live
    rw [applied.heap]
    by_cases same : other = id
    · subst same
      rw [found,Option.some.injEq] at live
      subst live
      exact ⟨_,update_self _ _ _,rfl,rfl⟩
    · exact ⟨item,(update_of_ne same _ _).trans live,rfl,rfl⟩
  · intro type
    by_cases same : type = attr.type
    · subst same
      rcases applied.ordered with same | tail
      · rw [same]
      · rw [tail]
        have front := perm_append_singleton id ((app.attributesOrdered attr.type).erase id)
        exact front.trans (perm_cons_erase member).symm
    · rw [applied.others type same]

section
variable (full : app.config.full = true)
include full

theorem leaveallAttribute (linked : Linked app) {type : AttrType} {id : AttrId}
    (member : id ∈ app.attributes type) : Redeclared app (leaveallAttribute id app) := by
  have place := linked.listed type id member
  obtain ⟨attr,found,kind⟩ := linked.live type id place
  have withdrawn := registrarSm .RLA found
  obtain ⟨item,live,sort,-⟩ := withdrawn.live id attr found
  have there : id ∈ (mrpRegistrarSm .RLA id app).1.attributesOrdered item.type := by
    rw [sort,kind]
    exact (withdrawn.ordered type).mem_iff.mpr place
  have kept := applicantSm_check .RLA ⟨item,live⟩ (by
    intro state applicant
    exact applicantMachine_leaveall_kept (by rw [withdrawn.config]; exact full) state applicant)
  unfold Mrp.leaveallAttribute
  rw [kept]
  exact withdrawn.trans (applicantSm .RLA live there)

theorem leaveallAttributes (linked : Linked app) {type : AttrType}
    {ids : List AttrId} (listed : ids ⊆ app.attributes type) :
    Redeclared app (ids.foldl (fun app id => Mrp.leaveallAttribute id app) app) := by
  induction ids generalizing app with
  | nil => exact refl app
  | cons id rest ih =>
    have first := leaveallAttribute full linked (listed mem_cons_self)
    refine first.trans (ih ?_ (first.linked linked) ?_)
    · rw [first.config]
      exact full
    · rw [first.attributes]
      exact fun other member => listed (mem_cons_of_mem _ member)

theorem leaveallTypes (linked : Linked app) (types : List AttrType) :
    Redeclared app (types.foldl (fun app type =>
      (app.attributes type).foldl (fun app id => Mrp.leaveallAttribute id app) app) app) := by
  induction types generalizing app with
  | nil => exact refl app
  | cons type rest ih =>
    have first := leaveallAttributes full linked (List.Subset.refl (app.attributes type))
    refine first.trans (ih ?_ (first.linked linked))
    rw [first.config]
    exact full

end

theorem transmitActions (types : List AttrType) (app : MrpApplication V) :
    Redeclared app (types.foldl (fun app type => mrpTransmitAction type none true app) app) := by
  induction types generalizing app with
  | nil => exact refl app
  | cons type rest ih =>
    refine trans ?_ (ih _)
    exact ⟨fun _ attr found => ⟨attr,found,rfl,rfl⟩,fun _ => List.Perm.refl _,rfl,⟨_,rfl⟩,rfl,rfl,rfl⟩

end Redeclared

theorem mrpLeaveallSm_ready (linked : Linked app) : ∃ leaveall,
    Redeclared {app with leaveall := leaveall} (mrpLeaveallSm .TX 0 app) ∧
      (leaveall.action ≠ .SLA → mrpLeaveallSm .TX 0 app = {app with leaveall := leaveall}) := by
  have idle : ∀ leaveall : MrpLeaveall, leaveall.action ≠ .SLA →
      mrpLeaveallActionHandler {app with leaveall := leaveall} = {app with leaveall := leaveall} := by
    intro leaveall other
    unfold mrpLeaveallActionHandler
    split
    next action => exact absurd action other
    · rfl
  unfold mrpLeaveallSm
  dsimp only
  split
  · have same := idle {app.leaveall with action := .NONE} nofun
    exact ⟨_,by rw [same]; exact .refl _,fun _ => same⟩
  next full =>
    have full : app.config.full = true := by simpa using full
    split
    · refine ⟨{app.leaveall with state := .PASSIVE, action := .SLA},?_,fun other => absurd rfl other⟩
      have linked : Linked {app with leaveall := {app.leaveall with state := .PASSIVE, action := .SLA}} :=
        ⟨⟨linked.nodup,linked.live⟩,linked.listed⟩
      refine Redeclared.trans (Redeclared.leaveallTypes ?_ linked app.config.attrTypes) (.transmitActions _ _)
      exact full
    · have same := idle {app.leaveall with action := .NONE} nofun
      exact ⟨_,by rw [same]; exact .refl _,fun _ => same⟩

end Leaveall

end Genavb.Mrp
