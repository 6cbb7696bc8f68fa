import Genavb.Srp.Mrp.Step

/-! What a step of an MRP application can do to the attributes, said once: a predicate
that the few primitive changes preserve holds in every state of an allowed run. -/
namespace Genavb.Mrp
open Support MrpApplication
open MrpClient (leaveTimerProcess)

variable {V : Type}

def MrpAttribute.begun (config : MrpConfig) (type : AttrType) (val : V) (registrar : RegistrarState) :
    MrpAttribute V where
  type := type
  val := val
  applicant := ⟨.VO,.NONE⟩
  registrar := ⟨registrar,.NONE,timerInit true config.leaveTimeout⟩

namespace MrpApplication

def create (type : AttrType) (val : V) (registrar : RegistrarState) (app : MrpApplication V) : MrpApplication V :=
  ((app.link type).write app.nextId (.begun app.config type val registrar)).observe (.created app.nextId)

def tick (id : AttrId) (attr : MrpAttribute V) (ms : Nat) (app : MrpApplication V) : MrpApplication V :=
  (app.observe (.leaveTick id ms)).write id
    {attr with registrar.leave.ms := attr.registrar.leave.ms - ms}

def expire (id : AttrId) (attr : MrpAttribute V) (ms : Nat) (app : MrpApplication V) : MrpApplication V :=
  ((app.observe (.leaveTick id ms)).write id
    {attr with registrar.leave := timerStop {attr.registrar.leave with ms := attr.registrar.leave.ms - ms}}
    ).observe (.leaveTimeout id attr.registrar.state)

end MrpApplication

theorem leaveTimerProcess_cases (id : AttrId) (count : Nat) (app : MrpApplication V) :
    leaveTimerProcess id count app = (app,false) ∨
    ∃ attr, ∃ ms : Nat, app.heap id = some attr ∧ attr.registrar.leave.started = true ∧
      (((0 : Int) < attr.registrar.leave.ms - ms ∧
          leaveTimerProcess id count app = (app.tick id attr ms,false)) ∨
        (attr.registrar.leave.ms - ms ≤ (0 : Int) ∧
          leaveTimerProcess id count app = (app.expire id attr ms,true))) := by
  cases found : app.heap id with
  | none => left; simp [leaveTimerProcess,found]
  | some attr =>
    cases running : attr.registrar.leave.started with
    | false => left; simp [leaveTimerProcess,found,running]
    | true =>
      right
      refine ⟨attr,attr.registrar.leave.granularity * count,rfl,running,?_⟩
      by_cases due : attr.registrar.leave.ms - attr.registrar.leave.granularity * count ≤ 0
      · right
        exact ⟨by simpa using due,
          by simp [leaveTimerProcess,expire,found,running,due]⟩
      · left
        exact ⟨by simpa using due,
          by simp [leaveTimerProcess,tick,found,running,due]⟩

structure SameStore (app next : MrpApplication V) : Prop where
  config : next.config = app.config
  heap : next.heap = app.heap
  attributes : next.attributes = app.attributes
  ordered : next.attributesOrdered = app.attributesOrdered
  nextId : next.nextId = app.nextId
  observed : next.observed = app.observed

theorem sameStore_faulted (app : MrpApplication V) : SameStore app app.faulted :=
  ⟨rfl,rfl,rfl,rfl,rfl,rfl⟩

theorem sameStore_transmitAction (type : AttrType) (attr : Option (V × AttributeEvent)) (leaveall : Bool)
    (app : MrpApplication V) : SameStore app (mrpTransmitAction type attr leaveall app) :=
  ⟨rfl,rfl,rfl,rfl,rfl,rfl⟩

theorem sameStore_transmitEnd (type : AttrType) (app : MrpApplication V) :
    SameStore app (mrpTransmitEnd type app) := ⟨rfl,rfl,rfl,rfl,rfl,rfl⟩

theorem sameStore_leaveall (leaveall : MrpLeaveall) (app : MrpApplication V) :
    SameStore app {app with leaveall := leaveall} := ⟨rfl,rfl,rfl,rfl,rfl,rfl⟩

theorem sameStore_join (join : Timer) (app : MrpApplication V) :
    SameStore app {app with join := join} := ⟨rfl,rfl,rfl,rfl,rfl,rfl⟩

theorem sameStore_periodic (periodic : MrpPeriodic) (app : MrpApplication V) :
    SameStore app {app with periodic := periodic} := ⟨rfl,rfl,rfl,rfl,rfl,rfl⟩

theorem sameStore_enabled (enabled : Bool) (app : MrpApplication V) :
    SameStore app {app with enabled := enabled} := ⟨rfl,rfl,rfl,rfl,rfl,rfl⟩

theorem sameStore_transmitRequest (app : MrpApplication V) : SameStore app (mrpTransmitRequest app) := by
  unfold mrpTransmitRequest
  split <;> exact ⟨rfl,rfl,rfl,rfl,rfl,rfl⟩

theorem sameStore_actionHandler (attr : MrpAttribute V) (app : MrpApplication V) :
    SameStore app (mrpApplicantActionHandler attr app) := by
  unfold mrpApplicantActionHandler
  split <;> exact ⟨rfl,rfl,rfl,rfl,rfl,rfl⟩

theorem mrpApplicantSm_outcome {app : MrpApplication V} {id : AttrId} {attr : MrpAttribute V}
    (event : MrpEvent) (found : app.heap id = some attr) :
    ∃ ordered join transmit, mrpApplicantSm event id app = {app with
      heap := Function.update app.heap id (some {attr with
        applicant := applicantMachine app.config attr.registrar.state event attr.applicant.state}),
      attributesOrdered := ordered, join := join, transmit := transmit} := by
  unfold mrpApplicantSm mrpApplicantActionHandler mrpTransmitRequest
  rw [found]
  dsimp only
  split <;> split <;> split <;> try split
  all_goals exact ⟨_,_,_,rfl⟩

theorem mrpRegistrarSm_outcome {app : MrpApplication V} {id : AttrId} {attr : MrpAttribute V}
    (event : MrpEvent) (found : app.heap id = some attr) :
    ∃ entries : List Observation,
      (mrpRegistrarSm event id app).1 = {app with
        heap := Function.update app.heap id
          (some {attr with registrar := registrarMachine app.config event attr.registrar}),
        observed := app.observed ++ entries} ∧
      ∀ entry ∈ entries, entry = .leaving id ∨ ∃ kind before, entry = .indication kind id before := by
  unfold mrpRegistrarSm
  rw [found]
  dsimp only
  split
  · split
    · exact ⟨[.leaving id],rfl,by simp⟩
    · exact ⟨[],by simp [write],by simp⟩
  next kind _ =>
    split
    · exact ⟨[.leaving id,.indication kind id attr.registrar.state],
        by simp [observe,write],by simp⟩
    · exact ⟨[.indication kind id attr.registrar.state],rfl,by simp⟩

theorem mrpAllocAttribute_ok (type : AttrType) (val : V) (applicant : ApplicantState)
    (registrar : RegistrarState) (app : MrpApplication V) :
    mrpAllocAttribute type val (.ok applicant registrar) app =
      (let created := app.create type val (if app.config.full then .MT else registrar)
       if applicant = .VO then created else created.moveToTail type app.nextId,some app.nextId) := by
  unfold mrpAllocAttribute
  cases full : app.config.full <;> cases applicant <;>
    simp [mrpApplicantSm,mrpRegistrarSm,observe,write,link,
      create,MrpAttribute.begun,moveToTail,applicantMachine,applicantTransition,registrarMachine,
      requestsTransmit,mrpApplicantActionHandler,actionToEvent,actionIndication,full,bne]

theorem sameStore_periodicSm (event : MrpEvent) (app : MrpApplication V) :
    SameStore app (mrpPeriodicSm event app) := by
  unfold mrpPeriodicSm
  dsimp only
  split <;> exact sameStore_periodic _ app

/-- The events of `mrp_registrar_sm` that come from received attribute events. -/
def MrpEvent.received (event : MrpEvent) : Prop := ∃ attributeEvent, event = attributeToRxEvent attributeEvent

/-- The primitive changes a predicate has to survive. `call` is the condition on the calls
of a run: only the changes that depend on a call may use it. -/
structure StepRule [DecidableEq V] (call : Option AttrId → MrpApplication V → MrpCall V → Prop)
    (Inv : MrpApplication V → Prop) : Prop where
  frame : ∀ {app next}, SameStore app next → Inv app → Inv next
  applicant : ∀ {app id attr} (applicant : MrpApplicant), app.heap id = some attr → Inv app →
    Inv (app.write id {attr with applicant := applicant})
  reorder : ∀ {app id attr}, app.heap id = some attr → Inv app → Inv (app.moveToTail attr.type id)
  received : ∀ {app id attr} {event : MrpEvent}, event.received → app.heap id = some attr → Inv app →
    Inv (mrpRegistrarSm event id app).1
  immediate : ∀ {own app id attr}, app.heap id = some attr → call own app (.leaveImmediate id) → Inv app →
    Inv (mrpRegistrarSm .RLV_IMMEDIATE id (app.observe (.leaveImmediate id))).1
  stale : ∀ {app id}, app.heap id = none → Inv app → Inv (app.observe (.leaveImmediate id))
  tick : ∀ {app : MrpApplication V} {id : AttrId} {attr : MrpAttribute V} (ms : Nat), app.heap id = some attr → attr.registrar.leave.started = true →
    (0 : Int) < attr.registrar.leave.ms - ms → Inv app → Inv (app.tick id attr ms)
  expire : ∀ {app : MrpApplication V} {id : AttrId} {attr : MrpAttribute V} (ms : Nat), app.heap id = some attr → attr.registrar.leave.started = true →
    attr.registrar.leave.ms - ms ≤ (0 : Int) → Inv app →
      Inv (mrpRegistrarSm .LEAVETIMER id (app.expire id attr ms)).1
  check : ∀ {app id attr}, app.heap id = some attr → unused app.config attr = true → Inv app →
    Inv (mrpFreeAttribute .check id app)
  freeImmediate : ∀ {own app id attr}, app.heap id = some attr → call own app (.freeImmediate id) →
    Inv app → Inv (mrpFreeAttribute .immediate id app)
  disable : ∀ {app id attr}, app.heap id = some attr → Inv app → Inv (mrpFreeAttribute .disable id app)
  create : ∀ {app type val} (registrar : RegistrarState),
    (app.config.full = true → registrar = .MT) → mrpFindAttribute type val app = .missing →
      Inv app → Inv (app.create type val registrar)
  refused : ∀ {own app type val}, app.enabled = true → mrpFindAttribute type val app = .missing →
    (∃ new, call own app (.joinRequest type val new .noTimer)) ∨
      call own app (.joinImmediate type val .noTimer) →
      Inv app → Inv (app.link type)

namespace StepRule

variable [DecidableEq V] {call : Option AttrId → MrpApplication V → MrpCall V → Prop}
    {Inv : MrpApplication V → Prop}

section
variable (rule : StepRule call Inv)
include rule

variable {app : MrpApplication V}

theorem faulted (holds : Inv app) : Inv app.faulted :=
  rule.frame (sameStore_faulted app) holds

theorem applicantSm (event : MrpEvent) (id : AttrId) (holds : Inv app) : Inv (mrpApplicantSm event id app) := by
  unfold mrpApplicantSm
  split
  · exact rule.faulted holds
  next attr found =>
    apply rule.frame (sameStore_actionHandler _ _)
    -- the ordered list and the join timer change before the block is written
    have requested : ∀ asked : Bool, Inv (if asked then mrpTransmitRequest app else app) := by
      intro asked
      cases asked with
      | false => exact holds
      | true => exact rule.frame (sameStore_transmitRequest app) holds
    have live : ∀ asked : Bool, (if asked then mrpTransmitRequest app else app).heap id = some attr := by
      intro asked
      cases asked with
      | false => exact found
      | true => simpa [(sameStore_transmitRequest app).heap] using found
    split
    · exact rule.applicant _ (live _) (rule.reorder (live _) (requested _))
    · exact rule.applicant _ (live _) (requested _)

theorem registrarSm {event : MrpEvent} (received : event.received) (id : AttrId)
    (holds : Inv app) : Inv (mrpRegistrarSm event id app).1 := by
  cases found : app.heap id with
  | none => simpa [mrpRegistrarSm,found] using rule.faulted holds
  | some attr => exact rule.received received found holds

theorem freeAttributeCheck (id : AttrId) (holds : Inv app) : Inv (mrpFreeAttributeCheck id app) := by
  unfold mrpFreeAttributeCheck
  split
  · exact rule.faulted holds
  next attr found =>
    split
    next idle => exact rule.check found idle holds
    · exact holds

variable {type : AttrType} {val : V}

theorem create_moved
    (applicant : ApplicantState) (registrar : RegistrarState) (missing : mrpFindAttribute type val app = .missing)
    (holds : Inv app) : Inv (mrpAllocAttribute type val (.ok applicant registrar) app).1 := by
  rw [mrpAllocAttribute_ok]
  have created := rule.create (if app.config.full then .MT else registrar)
    (by intro full; simp [full]) missing holds
  dsimp only
  split
  · exact created
  · have live : (app.create type val (if app.config.full then .MT else registrar)).heap app.nextId =
        some (.begun app.config type val (if app.config.full then .MT else registrar)) :=
      Function.update_self _ _ _
    exact rule.reorder live created

variable {own : Option AttrId} {alloc : AllocOutcome}

theorem allocAttribute (on : app.enabled = true) (missing : mrpFindAttribute type val app = .missing)
    (allowed : (∃ new, call own app (.joinRequest type val new alloc)) ∨
      call own app (.joinImmediate type val alloc))
    (holds : Inv app) : Inv (mrpAllocAttribute type val alloc app).1 := by
  cases alloc with
  | noMemory => exact holds
  | noTimer => exact rule.refused on missing allowed holds
  | ok applicant registrar => exact rule.create_moved applicant registrar missing holds

theorem getAttribute {new : Bool} (on : app.enabled = true)
    (allowed : call own app (.joinRequest type val new alloc)) (holds : Inv app) :
    Inv (mrpGetAttribute type val alloc app).1 := by
  unfold mrpGetAttribute
  split
  · exact holds
  next missing => exact rule.allocAttribute on missing (.inl ⟨new,allowed⟩) holds
  · exact rule.faulted holds

theorem joinRequest {new : Bool} (allowed : call own app (.joinRequest type val new alloc)) (holds : Inv app) :
    Inv (mrpMadJoinRequest type val new alloc app).1 := by
  unfold mrpMadJoinRequest
  split
  · exact holds
  next on =>
    have got := rule.getAttribute (by simpa using on) allowed holds
    split
    next after equal => rw [equal] at got; exact got
    next after id equal => rw [equal] at got; exact rule.applicantSm _ id got

theorem joinImmediate (allowed : call own app (.joinImmediate type val alloc)) (holds : Inv app) :
    Inv (mrpMadJoinImmediate type val alloc app).1 := by
  unfold mrpMadJoinImmediate
  split
  · exact holds
  next on =>
    split
    · exact holds
    · exact rule.faulted holds
    next missing =>
      have made := rule.allocAttribute (by simpa using on) missing (.inr allowed) holds
      split
      next after equal => rw [equal] at made; exact made
      next after id equal =>
        rw [equal] at made
        exact rule.applicantSm _ id (rule.applicantSm _ id made)

theorem leaveRequest (type : AttrType) (val : V) (holds : Inv app) : Inv (mrpMadLeaveRequest type val app) := by
  unfold mrpMadLeaveRequest
  split
  · exact holds
  · split
    next id _ => exact rule.freeAttributeCheck id (rule.applicantSm _ id holds)
    · exact holds
    · exact rule.faulted holds

theorem leaveImmediate {id : AttrId} (allowed : call own app (.leaveImmediate id)) (holds : Inv app) :
    Inv (mrpProcessAttributeLeaveImmediate id app) := by
  apply rule.freeAttributeCheck
  apply rule.applicantSm
  cases found : app.heap id with
  | none =>
    have absent : (app.observe (.leaveImmediate id)).heap id = none := found
    simpa [mrpRegistrarSm,absent] using rule.faulted (rule.stale found holds)
  | some attr => exact rule.immediate found allowed holds

theorem mrpCall {request : MrpCall V} (allowed : call own app request) (holds : Inv app) :
    Inv (mrpCall request app) := by
  cases request with
  | joinRequest => exact rule.joinRequest allowed holds
  | joinImmediate => exact rule.joinImmediate allowed holds
  | leaveRequest type val => exact rule.leaveRequest type val holds
  | freeImmediate id =>
    cases found : app.heap id with
    | none =>
      simpa [Mrp.mrpCall,mrpProcessAttributeFreeImmediate,mrpFreeAttribute,found] using rule.faulted holds
    | some attr => exact rule.freeImmediate found allowed holds
  | leaveImmediate => exact rule.leaveImmediate allowed holds

theorem leaveallAttribute (id : AttrId) (holds : Inv app) : Inv (leaveallAttribute id app) := by
  apply rule.freeAttributeCheck
  apply rule.applicantSm
  exact rule.registrarSm ⟨.LVA,rfl⟩ id holds

end

omit [DecidableEq V] in
theorem foldl {α : Type} (body : MrpApplication V → α → MrpApplication V)
    (preserved : ∀ app item, Inv app → Inv (body app item)) (items : List α) {app : MrpApplication V}
    (holds : Inv app) : Inv (items.foldl body app) := by
  induction items generalizing app with
  | nil => exact holds
  | cons item rest ih => exact ih (preserved _ _ holds)

section
variable (rule : StepRule call Inv)
include rule

variable {app : MrpApplication V}

theorem leaveallSm (event : MrpEvent) (random : Nat) (holds : Inv app) : Inv (mrpLeaveallSm event random app) := by
  have handled : ∀ {app : MrpApplication V}, Inv app → Inv (mrpLeaveallActionHandler app) := by
    intro app holds
    unfold mrpLeaveallActionHandler
    split
    · refine foldl _ (fun app type holds => rule.frame (sameStore_transmitAction type none true app) holds) _ ?_
      exact foldl _ (fun app type holds =>
        foldl _ (fun app id holds => rule.leaveallAttribute id holds) _ holds) _ holds
    · exact holds
  have same : ∀ leaveall : MrpLeaveall, Inv {app with leaveall := leaveall} :=
    fun leaveall => rule.frame (sameStore_leaveall leaveall app) holds
  unfold mrpLeaveallSm
  dsimp only
  split
  · exact handled (same _)
  · split
    · exact handled (same _)
    · split
      · exact handled (same _)
      · exact handled (same _)
    · exact handled (same _)
    · have requested := rule.frame (sameStore_transmitRequest app) holds
      exact handled (rule.frame (sameStore_leaveall _ _) requested)
    · exact handled (same _)

theorem receiveLeaveall (type : AttrType) (random : Nat)
    (holds : Inv app) : Inv (receiveLeaveall type random app) := by
  unfold Mrp.receiveLeaveall
  split
  · exact holds
  · apply rule.leaveallSm
    refine foldl _ (fun app id holds => ?_) _ holds
    have walked := rule.leaveallAttribute id holds
    unfold leaveallWalk
    dsimp only
    split
    · exact rule.faulted walked
    · exact walked

theorem joinTimer (holds : Inv app) : Inv (mrpJoinTimerHandler app) := by
  refine foldl _ (fun app type holds => rule.frame (sameStore_transmitEnd type app) holds) _ ?_
  refine foldl _ (fun app type holds => ?_) _ (rule.leaveallSm .TX 0 holds)
  exact foldl _ (fun app id holds => rule.freeAttributeCheck id (rule.applicantSm _ id holds)) _ holds

theorem periodicTimer (holds : Inv app) : Inv (mrpPeriodicTimerHandler app) := by
  apply rule.frame (sameStore_periodicSm _ _)
  refine foldl _ (fun app type holds => ?_) _ holds
  exact foldl _ (fun app id holds => rule.applicantSm .PERIODIC id holds) _ holds

theorem enable (random : Nat) (holds : Inv app) : Inv (mrpEnable random app) := by
  unfold mrpEnable
  split
  · exact holds
  · apply rule.frame (sameStore_enabled true _)
    have started : Inv (if app.config.full then mrpLeaveallSm .BEGIN random app else app) := by
      split
      · exact rule.leaveallSm .BEGIN random holds
      · exact holds
    generalize (if app.config.full then mrpLeaveallSm .BEGIN random app else app) = begun at started ⊢
    split
    · exact rule.frame (sameStore_periodicSm .BEGIN _) started
    · exact started

theorem exitAttributes (holds : Inv app) : Inv (mrpExitAttributes app) := by
  refine foldl _ (fun app type holds => ?_) _ holds
  refine foldl _ (fun app id holds => ?_) _ holds
  cases found : app.heap id with
  | none => simpa [mrpFreeAttribute,found] using rule.faulted holds
  | some attr => exact rule.disable found holds

theorem disabled (holds : Inv app) : Inv (mrpDisable app) := by
  unfold mrpDisable
  split
  · exact holds
  · apply rule.frame (sameStore_enabled false _)
    apply rule.exitAttributes
    have stopped : ∀ periodic join leaveall,
        Inv {app with periodic := periodic, join := join, leaveall := leaveall} := by
      intro periodic join leaveall
      have unchanged : SameStore app {app with periodic := periodic, join := join, leaveall := leaveall} :=
        ⟨rfl,rfl,rfl,rfl,rfl,rfl⟩
      exact rule.frame unchanged holds
    split <;> exact stopped _ _ _

theorem script {own : Option AttrId} {calls : List (MrpCall V)}
    (allowed : Steps Mrp.mrpCall (call own) calls app) (holds : Inv app) :
    Inv (run Mrp.mrpCall calls app) :=
  run_invariant _ (fun _ _ holds allowed => rule.mrpCall allowed holds) holds allowed

variable {calls : Indication → AttrId → List (MrpCall V)}

theorem indicate {event : MrpEvent} {id : AttrId} (moved : Inv (mrpRegistrarSm event id app).1)
    (handled : ∀ kind next, mrpRegistrarSm event id app = (next,some kind) →
      Steps Mrp.mrpCall (call (some id)) (calls kind id) next) :
    Inv ((scripted calls).registrarSm event id app) := by
  unfold MrpClient.registrarSm
  rw [scripted_app]
  split
  next next given => rw [given] at moved; exact moved
  next next kind given =>
    rw [given] at moved
    exact rule.script (handled kind next given) moved

theorem receive {type : AttrType} {val : V} {event : Option AttributeEvent} {alloc : AllocOutcome}
    (allowed : Allowed call app (.receive type val event alloc calls)) (holds : Inv app) :
    Inv ((scripted calls).mrpProcessAttribute type val event alloc app) := by
  obtain ⟨creates,handled⟩ := allowed
  unfold MrpClient.mrpProcessAttribute
  split
  · exact holds
  next on =>
    rw [scripted_app] at on ⊢
    have got := rule.getAttribute (by simpa using on) creates holds
    split
    next after equal => rw [equal] at got; exact got
    next after id equal =>
      rw [equal] at got
      cases event with
      | none => exact got
      | some event =>
        apply rule.freeAttributeCheck
        apply rule.applicantSm
        apply rule.indicate (rule.registrarSm ⟨event,rfl⟩ id got)
        intro kind next given
        exact handled kind id next (by simp [indicated,on,equal,given])

theorem leaveTimer {id : AttrId} {count : Nat}
    (allowed : Allowed call app (.leaveTimer id count calls)) (holds : Inv app) :
    Inv ((scripted calls).timerProcess id count app) := by
  unfold MrpClient.timerProcess
  rw [scripted_app]
  rcases leaveTimerProcess_cases id count app with
    same | ⟨attr,ms,found,running,⟨positive,ticked⟩ | ⟨due,fired⟩⟩
  · rw [same]
    exact holds
  · rw [ticked]
    exact rule.tick ms found running positive holds
  · rw [fired]
    apply rule.freeAttributeCheck
    apply rule.indicate
    · exact rule.expire ms found running due holds
    · intro kind next given
      rw [scripted_setApp] at given
      exact allowed kind id next (by simp [indicated,fired,given])

/-- The step rule: a predicate that the primitive changes preserve survives every step. -/
theorem mrpStep {input : MrpInput V}
    (holds : Inv app) (allowed : Allowed call app input) : Inv (mrpStep input app) := by
  cases input with
  | call request => exact rule.mrpCall allowed holds
  | receive => exact rule.receive allowed holds
  | leaveAll type random => exact rule.receiveLeaveall type random holds
  | leaveTimer => exact rule.leaveTimer allowed holds
  | joinTimer =>
    unfold Mrp.mrpStep
    dsimp only
    split
    · exact rule.joinTimer (rule.frame (sameStore_join _ app) holds)
    · exact holds
  | leaveAllTimer random =>
    unfold Mrp.mrpStep
    dsimp only
    split
    · exact rule.leaveallSm _ random (rule.frame (sameStore_leaveall _ app) holds)
    · exact holds
  | periodicTimer =>
    unfold Mrp.mrpStep
    dsimp only
    split
    · exact rule.periodicTimer (rule.frame (sameStore_periodic _ app) holds)
    · exact holds
  | enable random => exact rule.enable random holds
  | disable => exact rule.disabled holds

theorem run {config : MrpConfig} {random : Nat} {inputs : List (MrpInput V)}
    (initial : Inv (.cleared config)) (allowed : Steps Mrp.mrpStep (Allowed call) inputs (mrpInit config random)) :
    Inv (run Mrp.mrpStep inputs (mrpInit config random)) :=
  run_invariant _ (fun _ _ holds allowed => rule.mrpStep holds allowed) (rule.enable random initial) allowed

end

end StepRule

theorem allowed_always [DecidableEq V] (inputs : List (MrpInput V)) (app : MrpApplication V) :
    Steps mrpStep (Allowed fun _ _ _ => True) inputs app := by
  refine steps_mono mrpStep (fun app input _ => ?_) (steps_always mrpStep inputs app)
  cases input with
  | call request => trivial
  | receive type val event alloc script => exact ⟨trivial,fun _ _ _ _ => steps_always mrpCall _ _⟩
  | _ => exact fun _ _ _ _ => steps_always mrpCall _ _

end Genavb.Mrp
