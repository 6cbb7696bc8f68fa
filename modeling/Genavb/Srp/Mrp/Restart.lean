import Genavb.Srp.Mrp.Store
import Genavb.Srp.Mrp.Renaming

/-! What `mrp_disable` leaves of an application: no attribute and no running timer. Once it is
enabled again it resumes an application that has just been initialised. -/
namespace Genavb.Mrp
open Support MrpClient

variable {V : Type}

structure Beside (app next : MrpApplication V) : Prop where
  config : next.config = app.config
  leaveall : next.leaveall = app.leaveall
  periodic : next.periodic = app.periodic
  join : next.join.created = app.join.created

namespace Beside
variable {app next last : MrpApplication V}

theorem refl : Beside app app := ⟨rfl,rfl,rfl,rfl⟩

theorem trans (first : Beside app next) (second : Beside next last) : Beside app last :=
  ⟨second.config.trans first.config,second.leaveall.trans first.leaveall,second.periodic.trans first.periodic,
    second.join.trans first.join⟩

theorem transmitRequest (app : MrpApplication V) : Beside app (mrpTransmitRequest app) := by
  unfold mrpTransmitRequest
  split
  · exact ⟨rfl,rfl,rfl,timerStart_created _ _⟩
  · exact refl

theorem transmitAction (type : AttrType) (attr : Option (V × AttributeEvent)) (leaveall : Bool)
    (app : MrpApplication V) : Beside app (mrpTransmitAction type attr leaveall app) := ⟨rfl,rfl,rfl,rfl⟩

theorem transmitEnd (type : AttrType) (app : MrpApplication V) : Beside app (mrpTransmitEnd type app) :=
  ⟨rfl,rfl,rfl,rfl⟩

theorem applicantSm (event : MrpEvent) (id : AttrId) (app : MrpApplication V) :
    Beside app (mrpApplicantSm event id app) := by
  unfold mrpApplicantSm
  split
  · exact ⟨rfl,rfl,rfl,rfl⟩
  next attr _ =>
    have acted : ∀ next : MrpApplication V, Beside next (mrpApplicantActionHandler
        {attr with applicant := applicantMachine app.config attr.registrar.state event attr.applicant.state} next) := by
      intro next
      unfold mrpApplicantActionHandler
      split <;> exact ⟨rfl,rfl,rfl,rfl⟩
    refine trans ?_ (acted _)
    have requested : ∀ asked : Bool, Beside app (if asked then mrpTransmitRequest app else app) := by
      intro asked
      cases asked with
      | false => exact refl
      | true => exact transmitRequest app
    split <;> exact (requested _).trans ⟨rfl,rfl,rfl,rfl⟩

theorem registrarSm (event : MrpEvent) (id : AttrId) (app : MrpApplication V) :
    Beside app (mrpRegistrarSm event id app).1 := by
  cases found : app.heap id with
  | none =>
    simp only [mrpRegistrarSm,found]
    exact ⟨rfl,rfl,rfl,rfl⟩
  | some attr =>
    obtain ⟨entries,outcome,-⟩ := mrpRegistrarSm_outcome event found
    rw [outcome]
    exact ⟨rfl,rfl,rfl,rfl⟩

theorem freeAttribute (cause : FreeCause) (id : AttrId) (app : MrpApplication V) :
    Beside app (mrpFreeAttribute cause id app) := by
  unfold mrpFreeAttribute
  split <;> exact ⟨rfl,rfl,rfl,rfl⟩

theorem freeAttributeCheck (id : AttrId) (app : MrpApplication V) : Beside app (mrpFreeAttributeCheck id app) := by
  unfold mrpFreeAttributeCheck
  split
  · exact ⟨rfl,rfl,rfl,rfl⟩
  · split
    · exact freeAttribute .check id app
    · exact refl

theorem allocAttribute (type : AttrType) (val : V) (alloc : AllocOutcome) (app : MrpApplication V) :
    Beside app (mrpAllocAttribute type val alloc app).1 := by
  cases alloc with
  | noMemory => exact refl
  | noTimer => exact ⟨rfl,rfl,rfl,rfl⟩
  | ok applicant registrar =>
    have linked : Beside app (((app.link type).write app.nextId
        { type := type, val := val, applicant := ⟨applicant,.NONE⟩,
          registrar := ⟨registrar,.NONE,timerInit true app.config.leaveTimeout⟩ }).observe (.created app.nextId)) :=
      ⟨rfl,rfl,rfl,rfl⟩
    exact (linked.trans (applicantSm .BEGIN app.nextId _)).trans (registrarSm .BEGIN app.nextId _)

section Find
variable [DecidableEq V]

theorem getAttribute (type : AttrType) (val : V) (alloc : AllocOutcome) (app : MrpApplication V) :
    Beside app (mrpGetAttribute type val alloc app).1 := by
  unfold mrpGetAttribute
  split
  · exact refl
  · exact allocAttribute type val alloc app
  · exact ⟨rfl,rfl,rfl,rfl⟩

theorem call (request : MrpCall V) (app : MrpApplication V) : Beside app (mrpCall request app) := by
  cases request with
  | joinRequest type val new alloc =>
    simp only [mrpCall,mrpMadJoinRequest]
    split
    · exact refl
    · have got := getAttribute type val alloc app
      split
      next next equal => rw [equal] at got; exact got
      next next id equal => rw [equal] at got; exact got.trans (applicantSm _ id next)
  | joinImmediate type val alloc =>
    simp only [mrpCall,mrpMadJoinImmediate]
    split
    · exact refl
    · split
      · exact refl
      · exact ⟨rfl,rfl,rfl,rfl⟩
      · have made := allocAttribute type val alloc app
        split
        next next equal => rw [equal] at made; exact made
        next next id equal =>
          rw [equal] at made
          exact (made.trans (applicantSm .JOIN id next)).trans (applicantSm .TX id _)
  | leaveRequest type val =>
    simp only [mrpCall,mrpMadLeaveRequest]
    split
    · exact refl
    · split
      next id _ => exact (applicantSm .LV id app).trans (freeAttributeCheck id _)
      · exact refl
      · exact ⟨rfl,rfl,rfl,rfl⟩
  | freeImmediate id => exact freeAttribute .immediate id app
  | leaveImmediate id =>
    have asked : Beside app (app.observe (.leaveImmediate id)) := ⟨rfl,rfl,rfl,rfl⟩
    exact ((asked.trans (registrarSm .RLV_IMMEDIATE id _)).trans (applicantSm .RLV id _)).trans (freeAttributeCheck id _)

theorem indicate (event : MrpEvent) (id : AttrId) (calls : Indication → AttrId → List (MrpCall V))
    (app : MrpApplication V) : Beside app ((scripted calls).registrarSm event id app) := by
  have moved := registrarSm event id app
  have scripts : ∀ (requests : List (MrpCall V)) (next : MrpApplication V), Beside next (run mrpCall requests next) := by
    intro requests
    induction requests with
    | nil => exact fun _ => refl
    | cons request rest ih => exact fun next => (call request next).trans (ih _)
  unfold MrpClient.registrarSm
  rw [scripted_app]
  split
  next next equal => rw [equal] at moved; exact moved
  next next kind equal => rw [equal] at moved; exact moved.trans (scripts _ next)

theorem receive (type : AttrType) (val : V) (event : Option AttributeEvent) (alloc : AllocOutcome)
    (calls : Indication → AttrId → List (MrpCall V)) (app : MrpApplication V) :
    Beside app ((scripted calls).mrpProcessAttribute type val event alloc app) := by
  unfold mrpProcessAttribute
  rw [scripted_app]
  split
  · exact refl
  · have got := getAttribute type val alloc app
    split
    next next equal => rw [equal] at got; exact got
    next next id equal =>
      rw [equal] at got
      cases event with
      | none => exact got
      | some event =>
        exact ((got.trans (indicate _ id calls next)).trans (applicantSm _ id _)).trans (freeAttributeCheck id _)

theorem leaveTimer (id : AttrId) (count : Nat) (calls : Indication → AttrId → List (MrpCall V))
    (app : MrpApplication V) : Beside app ((scripted calls).timerProcess id count app) := by
  unfold timerProcess
  rw [scripted_app]
  rcases leaveTimerProcess_cases id count app with
    same | ⟨attr,ms,-,-,⟨-,ticked⟩ | ⟨-,fired⟩⟩
  · rw [same]
    exact refl
  · rw [ticked]
    exact ⟨rfl,rfl,rfl,rfl⟩
  · rw [fired]
    have expired : Beside app (app.expire id attr ms) := ⟨rfl,rfl,rfl,rfl⟩
    exact (expired.trans (indicate .LEAVETIMER id calls _)).trans (freeAttributeCheck id _)

end Find

theorem leaveallAttribute (id : AttrId) (app : MrpApplication V) : Beside app (Mrp.leaveallAttribute id app) :=
  ((registrarSm .RLA id app).trans (applicantSm .RLA id _)).trans (freeAttributeCheck id _)

theorem walk {α : Type} {f : MrpApplication V → α → MrpApplication V} (step : ∀ app item, Beside app (f app item))
    (items : List α) (app : MrpApplication V) : Beside app (items.foldl f app) := by
  induction items generalizing app with
  | nil => exact refl
  | cons item rest ih => exact (step app item).trans (ih _)

theorem exitAttributes (app : MrpApplication V) : Beside app (mrpExitAttributes app) :=
  walk (fun app _ => walk (fun app id => freeAttribute .disable id app) _ app) _ app

theorem leaveallActionHandler (app : MrpApplication V) : Beside app (mrpLeaveallActionHandler app) := by
  unfold mrpLeaveallActionHandler
  split
  · dsimp only
    refine trans ?_ (walk (fun app type => transmitAction type none true app) _ _)
    exact walk (fun app type => walk (fun app id => leaveallAttribute id app) _ app) _ app
  · exact refl

end Beside

/-- The timers that `mrp_init_timers` has created, with the periodic one only outside MSRP. -/
structure Timed (config : MrpConfig) (app : MrpApplication V) : Prop where
  configured : app.config = config
  join : app.join.created = true
  leaveall : app.leaveall.timer.created = true
  periodic : app.periodic.timer.created = !config.msrp
  unused : config.msrp = true → app.periodic.state = .PASSIVE ∧ app.periodic.timer.started = false

namespace Timed
variable {config : MrpConfig} {app next : MrpApplication V}

section
variable (timed : Timed config app)
include timed

theorem beside (kept : Beside app next) : Timed config next :=
  ⟨kept.config.trans timed.configured,kept.join.trans timed.join,by rw [kept.leaveall]; exact timed.leaveall,
    by rw [kept.periodic]; exact timed.periodic,by rw [kept.periodic]; exact timed.unused⟩

theorem leaveallSm (event : MrpEvent) (random : Nat) : Timed config (mrpLeaveallSm event random app) := by
  have handled : ∀ {app : MrpApplication V}, Timed config app → Timed config (mrpLeaveallActionHandler app) :=
    fun timed => timed.beside (Beside.leaveallActionHandler _)
  unfold mrpLeaveallSm
  dsimp only
  split
  · exact handled {timed with}
  · split
    · exact handled {timed with leaveall := (timerStart_created _ _).trans timed.leaveall}
    · split
      · exact handled {timed with}
      · exact handled {timed with}
    · refine handled {timed with leaveall := ?_}
      unfold timerRestart
      split
      · exact (timerStart_created _ _).trans timed.leaveall
      · exact timed.leaveall
    · have requested := timed.beside (Beside.transmitRequest app)
      exact handled {requested with leaveall := (timerStart_created _ _).trans timed.leaveall}
    · exact handled {timed with}

theorem periodicSm (other : config.msrp = false) (event : MrpEvent) : Timed config (mrpPeriodicSm event app) := by
  have mine : ∀ {p : Prop}, config.msrp = true → p := fun msrp => by rw [other] at msrp; cases msrp
  unfold mrpPeriodicSm
  dsimp only
  split
  · exact {timed with periodic := (timerStart_created _ _).trans timed.periodic, unused := mine}
  · exact {timed with periodic := (timerStart_created _ _).trans timed.periodic, unused := mine}
  · exact {timed with unused := mine}
  · exact {timed with periodic := (timerStart_created _ _).trans timed.periodic, unused := mine}
  · exact {timed with unused := mine}

theorem enable (random : Nat) : Timed config (mrpEnable random app) := by
  unfold mrpEnable
  split
  · exact timed
  · have begun : Timed config (if app.config.full then mrpLeaveallSm .BEGIN random app else app) := by
      split
      · exact timed.leaveallSm .BEGIN random
      · exact timed
    generalize (if app.config.full then mrpLeaveallSm .BEGIN random app else app) = state at begun ⊢
    have kind := congrArg MrpConfig.msrp begun.configured
    cases msrp : config.msrp with
    | true =>
      have on : Timed config {state with enabled := true} := {begun with}
      simpa [kind,msrp] using on
    | false =>
      have on : Timed config {mrpPeriodicSm .BEGIN state with enabled := true} := {begun.periodicSm msrp .BEGIN with}
      simpa [kind,msrp] using on

end

theorem cleared (config : MrpConfig) : Timed config (.cleared config : MrpApplication V) := by
  refine ⟨rfl,rfl,rfl,?_,?_⟩
  · cases msrp : config.msrp <;> simp [MrpApplication.cleared,msrp,timerInit,Timer.unset]
  · intro msrp
    simp [MrpApplication.cleared,msrp,Timer.unset]

theorem disable (timed : Timed config app) : Timed config (mrpDisable app) := by
  unfold mrpDisable
  split
  · exact timed
  · have stopped : Timed config (if !app.config.msrp then
        {app with periodic := {app.periodic with timer := timerStop app.periodic.timer}} else app) := by
      split
      · exact {timed with unused := fun msrp => ⟨(timed.unused msrp).1,rfl⟩}
      · exact timed
    generalize (if !app.config.msrp then
      {app with periodic := {app.periodic with timer := timerStop app.periodic.timer}} else app) = state at stopped ⊢
    have quiet : Timed config {state with
        join := timerStop state.join, leaveall := {state.leaveall with timer := timerStop state.leaveall.timer}} :=
      {stopped with}
    exact {quiet.beside (Beside.exitAttributes _) with}

theorem step [DecidableEq V] (timed : Timed config app) (input : MrpInput V) : Timed config (mrpStep input app) := by
  cases input with
  | call request => exact timed.beside (Beside.call request app)
  | receive type val event alloc calls => exact timed.beside (Beside.receive type val event alloc calls app)
  | leaveAll type random =>
    simp only [mrpStep,receiveLeaveall]
    split
    · exact timed
    · refine leaveallSm (timed.beside (Beside.walk (fun app id => ?_) _ app)) .RLA random
      unfold leaveallWalk
      have processed := Beside.leaveallAttribute id app
      dsimp only
      split
      · exact processed.trans ⟨rfl,rfl,rfl,rfl⟩
      · exact processed
  | leaveTimer id count calls => exact timed.beside (Beside.leaveTimer id count calls app)
  | joinTimer =>
    simp only [mrpStep]
    split
    · have stopped : Timed config {app with join := timerStop app.join} := {timed with}
      have begun := stopped.leaveallSm .TX 0
      unfold mrpJoinTimerHandler
      refine beside ?_ (Beside.walk (fun app type => Beside.transmitEnd type app) _ _)
      refine begun.beside (Beside.walk (fun app type => Beside.walk (fun app id => ?_) _ app) _ _)
      exact (Beside.applicantSm _ id app).trans (Beside.freeAttributeCheck id _)
    · exact timed
  | leaveAllTimer random =>
    simp only [mrpStep]
    split
    · have stopped : Timed config {app with leaveall := {app.leaveall with timer := timerStop app.leaveall.timer}} :=
        {timed with}
      exact stopped.leaveallSm .LEAVEALLTIMER random
    · exact timed
  | periodicTimer =>
    simp only [mrpStep]
    split
    next fired =>
      have other : config.msrp = false := by
        cases msrp : config.msrp with
        | false => rfl
        | true =>
          have idle := (timed.unused msrp).2
          rw [idle] at fired
          cases fired
      have stopped : Timed config {app with periodic := {app.periodic with timer := timerStop app.periodic.timer}} :=
        {timed with unused := fun msrp => ⟨(timed.unused msrp).1,rfl⟩}
      refine periodicSm (stopped.beside ?_) other .PERIODICTIMER
      exact Beside.walk (fun app type => Beside.walk (fun app id => Beside.applicantSm .PERIODIC id app) _ app) _ _
    · exact timed
  | enable random => exact timed.enable random
  | disable => exact timed.disable

end Timed

structure Off (config : MrpConfig) (app : MrpApplication V) : Prop where
  timed : Timed config app
  enabled : app.enabled = false
  heap : ∀ id, app.heap id = none
  attributes : ∀ type, app.attributes type = []
  ordered : ∀ type, app.attributesOrdered type = []
  join : app.join.started = false
  leaveall : app.leaveall.timer.started = false
  periodic : app.periodic.timer.started = false

def timerGranted [DecidableEq V] (_ : Option AttrId) (app : MrpApplication V) : MrpCall V → Prop
  | .joinRequest type val _ alloc =>
    app.enabled = true → mrpFindAttribute type val app = .missing → alloc ≠ .noTimer
  | .joinImmediate type val alloc =>
    app.enabled = true → mrpFindAttribute type val app = .missing → alloc ≠ .noTimer
  | _ => True

/-- Of the conditions on the store only that on the timers is needed for the lists. -/
theorem granted_rule [DecidableEq V] : StepRule (V := V) timerGranted Store where
  __ := store_rule
  immediate := by
    intro own app id attr found _ store
    have live : storeKept none app (.leaveImmediate id) := by simp [storeKept,found]
    exact store_rule.immediate found live store
  freeImmediate := by
    intro own app id attr found _ store
    have live : storeKept none app (.freeImmediate id) := by simp [storeKept,found]
    exact store_rule.freeImmediate found live store
  refused := by
    rintro own app type val on missing (⟨new,granted⟩ | granted) _
    · exact absurd rfl (granted on missing)
    · exact absurd rfl (granted on missing)

section Disable
variable {config : MrpConfig} {app : MrpApplication V}

theorem exit_type (type : AttrType) {ids : List AttrId} (store : Store app) (listed : app.attributes type = ids) :
    Store (ids.foldl (fun app id => mrpFreeAttribute .disable id app) app) ∧
      (ids.foldl (fun app id => mrpFreeAttribute .disable id app) app).attributes type = [] ∧
      ∀ other, app.attributes other = [] →
        (ids.foldl (fun app id => mrpFreeAttribute .disable id app) app).attributes other = [] := by
  induction ids generalizing app with
  | nil => exact ⟨store,listed,fun _ none => none⟩
  | cons id rest ih =>
    obtain ⟨attr,found,kind⟩ := (store.listed type id).mp (by rw [listed]; exact List.mem_cons_self)
    have freed := store.free .disable found (by simp)
    have lists : (mrpFreeAttribute .disable id app).attributes =
        Function.update app.attributes attr.type ((app.attributes attr.type).erase id) := by
      simp [mrpFreeAttribute,found]
    have left : (mrpFreeAttribute .disable id app).attributes type = rest := by
      rw [lists,kind,Function.update_self,listed,List.erase_cons_head]
    obtain ⟨kept,empty,others⟩ := ih freed left
    refine ⟨kept,empty,fun other none => others other ?_⟩
    have different : other ≠ attr.type := by
      rintro rfl
      rw [kind,listed] at none
      cases none
    rw [lists,Function.update_of_ne different,none]

theorem exit_types (types : List AttrType) (store : Store app) :
    Store (types.foldl (fun app type =>
        (app.attributes type).foldl (fun app id => mrpFreeAttribute .disable id app) app) app) ∧
      ∀ type, type ∈ types ∨ app.attributes type = [] → (types.foldl (fun app type =>
        (app.attributes type).foldl (fun app id => mrpFreeAttribute .disable id app) app) app).attributes type = [] := by
  induction types generalizing app with
  | nil => exact ⟨store,fun type empty => empty.resolve_left (by simp)⟩
  | cons first rest ih =>
    obtain ⟨kept,empty,others⟩ := exit_type first store rfl
    obtain ⟨store,all⟩ := ih kept
    refine ⟨store,fun type listed => all type ?_⟩
    rcases listed with listed | listed
    · rcases List.mem_cons.mp listed with rfl | listed
      · exact .inr empty
      · exact .inl listed
    · exact .inr (others type listed)

theorem exit_quiet (app : MrpApplication V) :
    (mrpExitAttributes app).join = app.join ∧ (mrpExitAttributes app).transmit = app.transmit := by
  have freed : ∀ (next : MrpApplication V) (id : AttrId), next.join = app.join ∧ next.transmit = app.transmit →
      (mrpFreeAttribute .disable id next).join = app.join ∧ (mrpFreeAttribute .disable id next).transmit = app.transmit := by
    intro next id same
    unfold mrpFreeAttribute
    split <;> exact same
  refine List.foldlRecOn (motive := fun next : MrpApplication V => next.join = app.join ∧ next.transmit = app.transmit)
    _ _ ⟨rfl,rfl⟩ fun next same type _ => ?_
  exact List.foldlRecOn (motive := fun next : MrpApplication V => next.join = app.join ∧ next.transmit = app.transmit)
    _ _ same fun next same id _ => freed next id same

theorem Store.exits (store : Store app) : (∀ id, (mrpExitAttributes app).heap id = none) ∧
    (∀ type, (mrpExitAttributes app).attributes type = []) ∧ ∀ type, (mrpExitAttributes app).attributesOrdered type = [] := by
  obtain ⟨kept,empty⟩ := exit_types (List.finRange 5) store
  have lists : ∀ type, (mrpExitAttributes app).attributes type = [] := fun type => empty type (.inl (List.mem_finRange type))
  refine ⟨fun id => ?_,lists,fun type => ?_⟩
  · cases found : (mrpExitAttributes app).heap id with
    | none => rfl
    | some attr =>
      have member := (kept.listed attr.type id).mpr ⟨attr,found,rfl⟩
      have none := lists attr.type
      unfold mrpExitAttributes at none
      rw [none] at member
      cases member
  · have perm := kept.ordered type
    have none := lists type
    unfold mrpExitAttributes at none ⊢
    rw [none] at perm
    exact perm.eq_nil

theorem mrpDisable_outcome (timed : Timed config app) (on : app.enabled = true) :
    ∃ periodic : MrpPeriodic, periodic.timer.started = false ∧ mrpDisable app =
      {mrpExitAttributes {app with
        periodic := periodic, join := timerStop app.join,
        leaveall := {app.leaveall with timer := timerStop app.leaveall.timer}} with enabled := false} := by
  cases msrp : config.msrp with
  | true => exact ⟨app.periodic,(timed.unused msrp).2,by simp [mrpDisable,on,timed.configured,msrp]⟩
  | false =>
    exact ⟨{app.periodic with timer := timerStop app.periodic.timer},rfl,
      by simp [mrpDisable,on,timed.configured,msrp]⟩

theorem disable_off (store : Store app) (timed : Timed config app) (on : app.enabled = true) :
    Off config (mrpDisable app) ∧ (mrpDisable app).transmit = app.transmit := by
  have left := timed.disable
  obtain ⟨periodic,idle,outcome⟩ := mrpDisable_outcome timed on
  rw [outcome] at left ⊢
  have halted : Store {app with
      periodic := periodic, join := timerStop app.join,
      leaveall := {app.leaveall with timer := timerStop app.leaveall.timer}} := {store with}
  obtain ⟨heap,attributes,ordered⟩ := halted.exits
  obtain ⟨join,transmit⟩ := exit_quiet {app with
    periodic := periodic, join := timerStop app.join,
    leaveall := {app.leaveall with timer := timerStop app.leaveall.timer}}
  have beside := Beside.exitAttributes {app with
      periodic := periodic, join := timerStop app.join,
      leaveall := {app.leaveall with timer := timerStop app.leaveall.timer}}
  refine ⟨⟨left,rfl,heap,attributes,ordered,?_,?_,?_⟩,transmit⟩
  · exact congrArg Timer.started join
  · exact congrArg (fun leaveall : MrpLeaveall => leaveall.timer.started) beside.leaveall
  · exact (congrArg (fun periodic : MrpPeriodic => periodic.timer.started) beside.periodic).trans idle

private theorem mrpEnable_full (full : app.config.full = true) (off : app.enabled = false) (random : Nat) :
    mrpEnable random app = {app with
      leaveall := ⟨.PASSIVE,.NONE,timerStart app.leaveall.timer random⟩,
      periodic := if app.config.msrp then app.periodic else ⟨.ACTIVE,.NONE,timerStart app.periodic.timer 1000⟩,
      enabled := true} := by
  cases msrp : app.config.msrp <;>
    simp [mrpEnable,off,full,mrpLeaveallSm,mrpLeaveallActionHandler,mrpPeriodicSm,msrp]

theorem Off.enable (off : Off config app) (full : config.full = true) (random : Nat) :
    Resumes app.nextId app.transmit (mrpEnable random app) (mrpInit config random) := by
  have timed := off.timed
  have clear := Timed.cleared (V := V) config
  rw [mrpInit,mrpEnable_full (by rw [timed.configured]; exact full) off.enabled,mrpEnable_full full rfl]
  have leaveall : SameTimer app.leaveall.timer (MrpApplication.cleared (V := V) config).leaveall.timer :=
    ⟨timed.leaveall.trans clear.leaveall.symm,off.leaveall⟩
  have periodic : SameTimer app.periodic.timer (MrpApplication.cleared (V := V) config).periodic.timer := by
    refine ⟨timed.periodic.trans clear.periodic.symm,off.periodic.trans ?_⟩
    cases msrp : config.msrp <;> simp [MrpApplication.cleared,msrp,timerInit,Timer.unset]
  have join : SameTimer app.join (MrpApplication.cleared (V := V) config).join :=
    ⟨timed.join.trans clear.join.symm,off.join⟩
  refine ⟨timed.configured,fun id => off.heap _,off.attributes,off.ordered,rfl,rfl,rfl,leaveall.start random,?_,?_,join,rfl,?_⟩
  · dsimp only
    rw [timed.configured]
    cases msrp : config.msrp with
    | true => simpa [MrpApplication.cleared,msrp] using (timed.unused msrp).1
    | false => simp [MrpApplication.cleared,msrp]
  · dsimp only
    rw [timed.configured]
    cases msrp : config.msrp with
    | true => simpa [clear.configured,msrp] using periodic
    | false => simpa [clear.configured,msrp] using periodic.start 1000
  · simp [MrpApplication.cleared]

theorem Off.step [DecidableEq V] (off : Off config app) (input : MrpInput V)
    (other : ∀ random, input ≠ .enable random) :
    Off config (mrpStep input app) ∧ (mrpStep input app).transmit = app.transmit := by
  have same : Off config app ∧ app.transmit = app.transmit := ⟨off,rfl⟩
  have faulted : ∀ next : MrpApplication V, next = app.faulted → Off config next ∧ next.transmit = app.transmit := by
    rintro next rfl
    exact ⟨{off with timed := off.timed.beside ⟨rfl,rfl,rfl,rfl⟩},rfl⟩
  cases input with
  | call request =>
    cases request with
    | joinRequest type val new alloc => simpa [mrpStep,mrpCall,mrpMadJoinRequest,off.enabled] using same
    | joinImmediate type val alloc => simpa [mrpStep,mrpCall,mrpMadJoinImmediate,off.enabled] using same
    | leaveRequest type val => simpa [mrpStep,mrpCall,mrpMadLeaveRequest,off.enabled] using same
    | freeImmediate id =>
      apply faulted
      simp [mrpStep,mrpCall,mrpProcessAttributeFreeImmediate,mrpFreeAttribute,off.heap]
    | leaveImmediate id =>
      have step : mrpStep (.call (.leaveImmediate id)) app = (app.observe (.leaveImmediate id)).faulted := by
        simp [mrpStep,mrpCall,mrpProcessAttributeLeaveImmediate,mrpRegistrarSm,mrpApplicantSm,mrpFreeAttributeCheck,
          MrpApplication.observe,MrpApplication.faulted,off.heap]
      rw [step]
      exact ⟨{off with timed := off.timed.beside ⟨rfl,rfl,rfl,rfl⟩},rfl⟩
  | receive type val event alloc calls => simpa [mrpStep,mrpProcessAttribute,off.enabled] using same
  | leaveAll type random => simpa [mrpStep,receiveLeaveall,off.enabled] using same
  | leaveTimer id count calls =>
    simpa [mrpStep,timerProcess,leaveTimerProcess,off.heap] using same
  | joinTimer => simpa [mrpStep,off.join] using same
  | leaveAllTimer random => simpa [mrpStep,off.leaveall] using same
  | periodicTimer => simpa [mrpStep,off.periodic] using same
  | enable random => exact absurd rfl (other random)
  | disable => simpa [mrpStep,mrpDisable,off.enabled] using same

end Disable

end Genavb.Mrp
