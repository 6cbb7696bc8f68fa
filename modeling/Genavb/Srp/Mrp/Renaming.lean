import Genavb.Srp.Mrp.Step
import Mathlib.Data.List.Basic

/-! An application resumes another one when it runs as that one does, under other addresses and
behind a past of its own. Every step of the one is then a step of the other. -/
namespace Genavb.Mrp
open Support
open Function (update update_of_ne)
open MrpClient (leaveTimerProcess)

variable {V : Type}

structure SameTimer (timer other : Timer) : Prop where
  created : timer.created = other.created
  started : timer.started = other.started

namespace SameTimer
variable {timer other : Timer}

variable (same : SameTimer timer other)
include same

theorem stop : SameTimer (timerStop timer) (timerStop other) :=
  ⟨same.created,rfl⟩

theorem start (ms : Nat) : SameTimer (timerStart timer ms) (timerStart other ms) := by
  unfold timerStart
  rw [same.created,same.started]
  split
  · exact ⟨rfl,rfl⟩
  · exact same

theorem restart (ms : Nat) :
    SameTimer (timerRestart timer ms) (timerRestart other ms) := by
  unfold timerRestart
  rw [same.created]
  split
  · exact same.stop.start ms
  · exact same

end SameTimer

/-- `app` has the attributes of `fresh` from the address `base` on, and transmits what `fresh`
does behind `past`. -/
structure Resumes (base : AttrId) (past : List (TransmitCall V)) (app fresh : MrpApplication V) : Prop where
  config : app.config = fresh.config
  heap : ∀ id, app.heap (base + id) = fresh.heap id
  attributes : ∀ type, app.attributes type = (fresh.attributes type).map (base + ·)
  ordered : ∀ type, app.attributesOrdered type = (fresh.attributesOrdered type).map (base + ·)
  nextId : app.nextId = base + fresh.nextId
  leaveallState : app.leaveall.state = fresh.leaveall.state
  leaveallAction : app.leaveall.action = fresh.leaveall.action
  leaveallTimer : SameTimer app.leaveall.timer fresh.leaveall.timer
  periodicState : app.periodic.state = fresh.periodic.state
  periodicTimer : SameTimer app.periodic.timer fresh.periodic.timer
  join : SameTimer app.join fresh.join
  enabled : app.enabled = fresh.enabled
  transmit : app.transmit = past ++ fresh.transmit

def Lookup.shift (base : AttrId) : Lookup → Lookup
  | .found id => .found (base + id)
  | .missing => .missing
  | .stale => .stale

def MrpCall.shift (base : AttrId) : MrpCall V → MrpCall V
  | .joinRequest type val new alloc => .joinRequest type val new alloc
  | .joinImmediate type val alloc => .joinImmediate type val alloc
  | .leaveRequest type val => .leaveRequest type val
  | .freeImmediate id => .freeImmediate (base + id)
  | .leaveImmediate id => .leaveImmediate (base + id)

def shiftScript (base : AttrId) (calls : Indication → AttrId → List (MrpCall V)) :
    Indication → AttrId → List (MrpCall V) :=
  fun kind id => (calls kind (id - base)).map (MrpCall.shift base)

/-- An input that names the attributes created from the address `base` on. -/
def MrpInput.shift (base : AttrId) : MrpInput V → MrpInput V
  | .call request => .call (request.shift base)
  | .receive type val event alloc calls => .receive type val event alloc (shiftScript base calls)
  | .leaveAll type random => .leaveAll type random
  | .leaveTimer id count calls => .leaveTimer (base + id) count (shiftScript base calls)
  | .joinTimer => .joinTimer
  | .leaveAllTimer random => .leaveAllTimer random
  | .periodicTimer => .periodicTimer
  | .enable random => .enable random
  | .disable => .disable

private theorem map_erase (base id : AttrId) (ids : List AttrId) :
    (ids.map (base + ·)).erase (base + id) = (ids.erase id).map (base + ·) :=
  (List.map_erase (fun _ _ => Nat.add_left_cancel) ids).symm

private theorem update_shift {β : Type} (base id : AttrId) (heap other : AttrId → β)
    (same : ∀ id, heap (base + id) = other id) (value : β) (item : AttrId) :
    update heap (base + id) value (base + item) = update other id value item := by
  by_cases equal : item = id
  · subst equal
    simp
  · rw [update_of_ne equal,update_of_ne fun moved => equal (Nat.add_left_cancel moved),same]

private theorem update_map (base : AttrId) (lists other : AttrType → List AttrId)
    (same : ∀ type, lists type = (other type).map (base + ·)) (type : AttrType) {ids next : List AttrId}
    (renamed : ids = next.map (base + ·)) (item : AttrType) :
    update lists type ids item = (update other type next item).map (base + ·) := by
  by_cases equal : item = type
  · subst equal
    simpa using renamed
  · rw [update_of_ne equal,update_of_ne equal,same]

namespace Resumes
variable {base : AttrId} {past : List (TransmitCall V)} {app fresh : MrpApplication V}

theorem observe (resumes : Resumes base past app fresh) (entry other : Observation) :
    Resumes base past (app.observe entry) (fresh.observe other) := {resumes with}

theorem faulted (resumes : Resumes base past app fresh) : Resumes base past app.faulted fresh.faulted :=
  {resumes with}

theorem branch {left right leftOther rightOther : MrpApplication V} {c : Prop} [Decidable c]
    (yes : Resumes base past left leftOther) (no : Resumes base past right rightOther) :
    Resumes base past (if c then left else right) (if c then leftOther else rightOther) := by
  split
  · exact yes
  · exact no

section
variable (resumes : Resumes base past app fresh)
include resumes

theorem write (id : AttrId) (attr : MrpAttribute V) :
    Resumes base past (app.write (base + id) attr) (fresh.write id attr) :=
  {resumes with heap := update_shift base id _ _ resumes.heap _}

theorem moveToTail (type : AttrType) (id : AttrId) :
    Resumes base past (app.moveToTail type (base + id)) (fresh.moveToTail type id) := by
  refine {resumes with ordered := update_map base _ _ resumes.ordered type ?_}
  rw [resumes.ordered,map_erase]
  simp

theorem link (type : AttrType) : Resumes base past (app.link type) (fresh.link type) := by
  refine {resumes with
    attributes := update_map base _ _ resumes.attributes type ?_
    ordered := update_map base _ _ resumes.ordered type ?_
    nextId := ?_}
  · rw [resumes.attributes,resumes.nextId]
    rfl
  · rw [resumes.ordered,resumes.nextId]
    rfl
  · change app.nextId + 1 = base + (fresh.nextId + 1)
    rw [resumes.nextId,Nat.add_assoc]

theorem transmitRequest : Resumes base past (mrpTransmitRequest app) (mrpTransmitRequest fresh) := by
  unfold mrpTransmitRequest
  rw [resumes.join.started]
  exact branch {resumes with join := resumes.join.start 100} resumes

theorem transmitAction (type : AttrType) (attr : Option (V × AttributeEvent)) (leaveall : Bool) :
    Resumes base past (mrpTransmitAction type attr leaveall app) (mrpTransmitAction type attr leaveall fresh) := by
  refine {resumes with transmit := ?_}
  change app.transmit ++ _ = past ++ (fresh.transmit ++ _)
  rw [resumes.transmit,List.append_assoc]

theorem transmitEnd (type : AttrType) : Resumes base past (mrpTransmitEnd type app) (mrpTransmitEnd type fresh) := by
  refine {resumes with transmit := ?_}
  change app.transmit ++ _ = past ++ (fresh.transmit ++ _)
  rw [resumes.transmit,List.append_assoc]

theorem actionHandler (attr : MrpAttribute V) :
    Resumes base past (mrpApplicantActionHandler attr app) (mrpApplicantActionHandler attr fresh) := by
  unfold mrpApplicantActionHandler
  rw [resumes.config]
  split
  · exact resumes
  · exact resumes.transmitAction _ _ _

theorem applicantSm (event : MrpEvent) (id : AttrId) :
    Resumes base past (mrpApplicantSm event (base + id) app) (mrpApplicantSm event id fresh) := by
  unfold mrpApplicantSm
  rw [resumes.heap]
  split
  · exact resumes.faulted
  next attr _ =>
    rw [resumes.config]
    refine actionHandler (write ?_ id _) _
    have requested : ∀ asked : Bool, Resumes base past (if asked then mrpTransmitRequest app else app)
        (if asked then mrpTransmitRequest fresh else fresh) := fun _ => branch resumes.transmitRequest resumes
    exact branch ((requested _).moveToTail attr.type id) (requested _)

theorem registrarSm (event : MrpEvent) (id : AttrId) :
    Resumes base past (mrpRegistrarSm event (base + id) app).1 (mrpRegistrarSm event id fresh).1 ∧
      (mrpRegistrarSm event (base + id) app).2 = (mrpRegistrarSm event id fresh).2 := by
  unfold mrpRegistrarSm
  rw [resumes.heap]
  split
  · exact ⟨resumes.faulted,rfl⟩
  next attr _ =>
    dsimp only
    rw [resumes.config]
    have written := resumes.write id {attr with registrar := registrarMachine fresh.config event attr.registrar}
    split
    · exact ⟨branch (written.observe _ _) written,rfl⟩
    · exact ⟨observe (branch (written.observe _ _) written) _ _,rfl⟩

theorem freeAttribute (cause : FreeCause) (id : AttrId) :
    Resumes base past (mrpFreeAttribute cause (base + id) app) (mrpFreeAttribute cause id fresh) := by
  unfold mrpFreeAttribute
  rw [resumes.heap]
  split
  · exact resumes.faulted
  next attr _ =>
    refine {resumes with
      heap := update_shift base id _ _ resumes.heap _
      attributes := update_map base _ _ resumes.attributes attr.type ?_
      ordered := update_map base _ _ resumes.ordered attr.type ?_}
    · rw [resumes.attributes,map_erase]
    · rw [resumes.ordered,map_erase]

theorem freeAttributeCheck (id : AttrId) :
    Resumes base past (mrpFreeAttributeCheck (base + id) app) (mrpFreeAttributeCheck id fresh) := by
  unfold mrpFreeAttributeCheck
  rw [resumes.heap]
  split
  · exact resumes.faulted
  next attr _ =>
    rw [resumes.config]
    exact branch (resumes.freeAttribute .check id) resumes

theorem allocAttribute (type : AttrType) (val : V) (alloc : AllocOutcome) :
    Resumes base past (mrpAllocAttribute type val alloc app).1 (mrpAllocAttribute type val alloc fresh).1 ∧
      (mrpAllocAttribute type val alloc app).2 = (mrpAllocAttribute type val alloc fresh).2.map (base + ·) := by
  cases alloc with
  | noMemory => exact ⟨resumes,rfl⟩
  | noTimer => exact ⟨resumes.link type,rfl⟩
  | ok applicant registrar =>
    unfold mrpAllocAttribute
    rw [resumes.nextId,resumes.config]
    refine ⟨?_,rfl⟩
    refine (applicantSm ?_ .BEGIN fresh.nextId |>.registrarSm .BEGIN fresh.nextId).1
    exact ((resumes.link type).write fresh.nextId _).observe _ _

end

section Find
variable [DecidableEq V]

section
variable (resumes : Resumes base past app fresh)
include resumes

section
variable (type : AttrType)
include type

theorem find (val : V) : mrpFindAttribute type val app = (mrpFindAttribute type val fresh).shift base := by
  unfold mrpFindAttribute
  rw [resumes.attributes]
  generalize fresh.attributes type = ids
  induction ids with
  | nil => rfl
  | cons id rest ih =>
    simp only [List.map_cons,findAttribute,resumes.heap]
    cases fresh.heap id with
    | none => rfl
    | some attr =>
      dsimp only
      split
      · rfl
      · exact ih

theorem getAttribute (val : V) (alloc : AllocOutcome) :
    Resumes base past (mrpGetAttribute type val alloc app).1 (mrpGetAttribute type val alloc fresh).1 ∧
      (mrpGetAttribute type val alloc app).2 = (mrpGetAttribute type val alloc fresh).2.map (base + ·) := by
  unfold mrpGetAttribute
  rw [resumes.find type val]
  cases mrpFindAttribute type val fresh with
  | found id => exact ⟨resumes,rfl⟩
  | missing => exact resumes.allocAttribute type val alloc
  | stale => exact ⟨resumes.faulted,rfl⟩

theorem joinRequest (val : V) (new : Bool)
    (alloc : AllocOutcome) : Resumes base past (mrpMadJoinRequest type val new alloc app).1
      (mrpMadJoinRequest type val new alloc fresh).1 := by
  unfold mrpMadJoinRequest
  rw [resumes.enabled]
  split
  · exact resumes
  · obtain ⟨got,same⟩ := resumes.getAttribute type val alloc
    generalize mrpGetAttribute type val alloc app = result at got same
    generalize mrpGetAttribute type val alloc fresh = other at got same
    obtain ⟨next,id⟩ := result
    obtain ⟨nextFresh,idFresh⟩ := other
    subst same
    cases idFresh with
    | none => exact got
    | some id => exact got.applicantSm _ id

theorem joinImmediate (val : V) (alloc : AllocOutcome) :
    Resumes base past (mrpMadJoinImmediate type val alloc app).1 (mrpMadJoinImmediate type val alloc fresh).1 := by
  unfold mrpMadJoinImmediate
  rw [resumes.enabled,resumes.find type val]
  split
  · exact resumes
  · cases mrpFindAttribute type val fresh with
    | found id => exact resumes
    | stale => exact resumes.faulted
    | missing =>
      obtain ⟨made,same⟩ := resumes.allocAttribute type val alloc
      generalize mrpAllocAttribute type val alloc app = result at made same
      generalize mrpAllocAttribute type val alloc fresh = other at made same
      obtain ⟨next,id⟩ := result
      obtain ⟨nextFresh,idFresh⟩ := other
      subst same
      cases idFresh with
      | none => exact made
      | some id => exact (made.applicantSm .JOIN id).applicantSm .TX id

theorem leaveRequest (val : V) :
    Resumes base past (mrpMadLeaveRequest type val app) (mrpMadLeaveRequest type val fresh) := by
  unfold mrpMadLeaveRequest
  rw [resumes.enabled,resumes.find type val]
  split
  · exact resumes
  · cases mrpFindAttribute type val fresh with
    | found id => exact (resumes.applicantSm .LV id).freeAttributeCheck id
    | missing => exact resumes
    | stale => exact resumes.faulted

end

end

variable (resumes : Resumes base past app fresh)
include resumes

omit [DecidableEq V] in
theorem leaveImmediate (id : AttrId) :
    Resumes base past (mrpProcessAttributeLeaveImmediate (base + id) app)
      (mrpProcessAttributeLeaveImmediate id fresh) := by
  have asked := resumes.observe (.leaveImmediate (base + id)) (.leaveImmediate id)
  exact ((asked.registrarSm .RLV_IMMEDIATE id).1.applicantSm .RLV id).freeAttributeCheck id

theorem call (request : MrpCall V) :
    Resumes base past (mrpCall (request.shift base) app) (mrpCall request fresh) := by
  cases request with
  | joinRequest type val new alloc => exact resumes.joinRequest type val new alloc
  | joinImmediate type val alloc => exact resumes.joinImmediate type val alloc
  | leaveRequest type val => exact resumes.leaveRequest type val
  | freeImmediate id => exact resumes.freeAttribute .immediate id
  | leaveImmediate id => exact resumes.leaveImmediate id

theorem script (calls : List (MrpCall V)) :
    Resumes base past (run mrpCall (calls.map (MrpCall.shift base)) app) (run mrpCall calls fresh) := by
  induction calls generalizing app fresh with
  | nil => exact resumes
  | cons request rest ih => exact ih (resumes.call request)

end Find

section
variable (resumes : Resumes base past app fresh)
include resumes

theorem leaveallAttribute (id : AttrId) :
    Resumes base past (Mrp.leaveallAttribute (base + id) app) (Mrp.leaveallAttribute id fresh) :=
  ((resumes.registrarSm .RLA id).1.applicantSm .RLA id).freeAttributeCheck id

theorem walk {f : MrpApplication V → AttrId → MrpApplication V}
    (step : ∀ {app fresh}, Resumes base past app fresh → ∀ id, Resumes base past (f app (base + id)) (f fresh id))
    (ids : List AttrId) :
    Resumes base past ((ids.map (base + ·)).foldl f app) (ids.foldl f fresh) := by
  induction ids generalizing app fresh with
  | nil => exact resumes
  | cons id rest ih => exact ih (step resumes id)

theorem types {f : MrpApplication V → AttrType → MrpApplication V}
    (step : ∀ {app fresh}, Resumes base past app fresh → ∀ type, Resumes base past (f app type) (f fresh type))
    (list : List AttrType) :
    Resumes base past (list.foldl f app) (list.foldl f fresh) := by
  induction list generalizing app fresh with
  | nil => exact resumes
  | cons type rest ih => exact ih (step resumes type)

theorem attributeWalk {f : MrpApplication V → AttrId → MrpApplication V}
    (step : ∀ {app fresh}, Resumes base past app fresh → ∀ id, Resumes base past (f app (base + id)) (f fresh id))
    (type : AttrType) :
    Resumes base past ((app.attributes type).foldl f app) ((fresh.attributes type).foldl f fresh) := by
  rw [resumes.attributes]
  exact resumes.walk step _

theorem leaveallActionHandler :
    Resumes base past (mrpLeaveallActionHandler app) (mrpLeaveallActionHandler fresh) := by
  unfold mrpLeaveallActionHandler
  rw [resumes.leaveallAction]
  split
  · dsimp only
    have walked := resumes.types (fun resumes type =>
      resumes.attributeWalk (f := fun app id => Mrp.leaveallAttribute id app)
        (fun resumes id => resumes.leaveallAttribute id) type) fresh.config.attrTypes
    rw [resumes.config,walked.config]
    exact walked.types (fun resumes type => resumes.transmitAction type none true) _
  · exact resumes

theorem leaveallSm (event : MrpEvent) (random : Nat) :
    Resumes base past (mrpLeaveallSm event random app) (mrpLeaveallSm event random fresh) := by
  unfold mrpLeaveallSm
  dsimp only
  rw [congrArg MrpConfig.full resumes.config]
  split
  · exact leaveallActionHandler {resumes with leaveallAction := rfl}
  · split
    · exact leaveallActionHandler {resumes with
        leaveallState := rfl, leaveallAction := rfl, leaveallTimer := resumes.leaveallTimer.start random}
    · rw [resumes.leaveallState]
      split
      · exact leaveallActionHandler {resumes with leaveallState := rfl, leaveallAction := rfl}
      · exact leaveallActionHandler {resumes with leaveallState := rfl, leaveallAction := rfl}
    · exact leaveallActionHandler {resumes with
        leaveallState := rfl, leaveallAction := rfl, leaveallTimer := resumes.leaveallTimer.restart random}
    · exact leaveallActionHandler {resumes.transmitRequest with
        leaveallState := rfl, leaveallAction := rfl, leaveallTimer := resumes.leaveallTimer.start random}
    · exact leaveallActionHandler {resumes with leaveallAction := rfl}

theorem leaveallWalk (id : AttrId) :
    Resumes base past (Mrp.leaveallWalk app (base + id)) (Mrp.leaveallWalk fresh id) := by
  have processed := resumes.leaveallAttribute id
  unfold Mrp.leaveallWalk
  dsimp only
  rw [processed.heap]
  exact branch processed.faulted processed

theorem receiveLeaveall (type : AttrType) (random : Nat) :
    Resumes base past (Mrp.receiveLeaveall type random app) (Mrp.receiveLeaveall type random fresh) := by
  unfold Mrp.receiveLeaveall
  rw [resumes.enabled]
  have walked := resumes.attributeWalk (fun resumes id => resumes.leaveallWalk id) type
  exact branch resumes (walked.leaveallSm .RLA random)

theorem joinTimerHandler : Resumes base past (mrpJoinTimerHandler app) (mrpJoinTimerHandler fresh) := by
  unfold mrpJoinTimerHandler
  dsimp only
  have begun := resumes.leaveallSm .TX 0
  rw [begun.leaveallAction,begun.config]
  have walked := begun.types (f := fun app type => (app.attributesOrdered type).foldl
      (fun app id => mrpFreeAttributeCheck id (mrpApplicantSm
        (if (mrpLeaveallSm .TX 0 fresh).leaveall.action = .SLA then .TXLA else .TX) id app)) app)
    (fun resumes type => by
      rw [resumes.ordered]
      exact resumes.walk (fun resumes id => (resumes.applicantSm _ id).freeAttributeCheck id) _)
    (mrpLeaveallSm .TX 0 fresh).config.attrTypes
  rw [walked.config]
  exact walked.types (fun resumes type => resumes.transmitEnd type) _

theorem periodicSm (event : MrpEvent) : Resumes base past (mrpPeriodicSm event app) (mrpPeriodicSm event fresh) := by
  unfold mrpPeriodicSm
  dsimp only
  rw [resumes.periodicState]
  split
  · exact {resumes with periodicState := rfl, periodicTimer := resumes.periodicTimer.start 1000}
  · exact {resumes with periodicState := rfl, periodicTimer := resumes.periodicTimer.start 1000}
  · exact {resumes with periodicState := rfl, periodicTimer := resumes.periodicTimer.stop}
  · exact {resumes with periodicState := rfl, periodicTimer := resumes.periodicTimer.start 1000}
  · exact {resumes with periodicState := rfl}

theorem periodicTimerHandler : Resumes base past (mrpPeriodicTimerHandler app) (mrpPeriodicTimerHandler fresh) := by
  unfold mrpPeriodicTimerHandler
  rw [resumes.config]
  refine periodicSm (resumes.types (fun resumes type => ?_) _) .PERIODICTIMER
  exact resumes.attributeWalk (f := fun app id => mrpApplicantSm .PERIODIC id app)
    (fun resumes id => resumes.applicantSm .PERIODIC id) type

theorem enable (random : Nat) : Resumes base past (mrpEnable random app) (mrpEnable random fresh) := by
  unfold mrpEnable
  rw [resumes.enabled]
  refine branch resumes ?_
  dsimp only
  rw [resumes.config]
  have begun : Resumes base past (if fresh.config.full then mrpLeaveallSm .BEGIN random app else app)
      (if fresh.config.full then mrpLeaveallSm .BEGIN random fresh else fresh) :=
    branch (resumes.leaveallSm .BEGIN random) resumes
  rw [begun.config]
  have started := branch
    (c := (!(if fresh.config.full then mrpLeaveallSm .BEGIN random fresh else fresh).config.msrp) = true)
    (begun.periodicSm .BEGIN) begun
  exact {started with enabled := rfl}

theorem exitAttributes : Resumes base past (mrpExitAttributes app) (mrpExitAttributes fresh) :=
  resumes.types (fun resumes type => resumes.attributeWalk (fun resumes id => resumes.freeAttribute .disable id) type) _

theorem disable : Resumes base past (mrpDisable app) (mrpDisable fresh) := by
  have exits : ∀ app fresh : MrpApplication V, Resumes base past app fresh → Resumes base past
      {mrpExitAttributes {app with
        join := timerStop app.join,
        leaveall := {app.leaveall with timer := timerStop app.leaveall.timer}} with enabled := false}
      {mrpExitAttributes {fresh with
        join := timerStop fresh.join,
        leaveall := {fresh.leaveall with timer := timerStop fresh.leaveall.timer}} with enabled := false} := by
    intro app fresh resumes
    have stopped : Resumes base past
        {app with join := timerStop app.join, leaveall := {app.leaveall with timer := timerStop app.leaveall.timer}}
        {fresh with
          join := timerStop fresh.join, leaveall := {fresh.leaveall with timer := timerStop fresh.leaveall.timer}} :=
      {resumes with join := resumes.join.stop, leaveallTimer := resumes.leaveallTimer.stop}
    exact {stopped.exitAttributes with enabled := rfl}
  have msrp := congrArg MrpConfig.msrp resumes.config
  unfold mrpDisable
  cases on : fresh.enabled with
  | false => simpa [resumes.enabled,on] using resumes
  | true =>
    cases kind : fresh.config.msrp with
    | true => simpa [resumes.enabled,on,msrp,kind] using exits _ _ resumes
    | false =>
      have stopped := exits
        {app with periodic := {app.periodic with timer := timerStop app.periodic.timer}}
        {fresh with periodic := {fresh.periodic with timer := timerStop fresh.periodic.timer}}
        {resumes with periodicTimer := resumes.periodicTimer.stop}
      simpa [resumes.enabled,on,msrp,kind] using stopped

end

section Step
variable [DecidableEq V]

section
variable (resumes : Resumes base past app fresh)
include resumes

theorem indicate (event : MrpEvent) (id : AttrId) (calls : Indication → AttrId → List (MrpCall V)) :
    Resumes base past ((scripted (shiftScript base calls)).registrarSm event (base + id) app)
      ((scripted calls).registrarSm event id fresh) := by
  obtain ⟨moved,same⟩ := resumes.registrarSm event id
  unfold MrpClient.registrarSm
  simp only [scripted_app]
  generalize mrpRegistrarSm event (base + id) app = result at moved same
  generalize mrpRegistrarSm event id fresh = other at moved same
  obtain ⟨next,kind⟩ := result
  obtain ⟨nextFresh,kindFresh⟩ := other
  subst same
  cases kind with
  | none => exact moved
  | some kind =>
    have called : shiftScript base calls kind (base + id) = (calls kind id).map (MrpCall.shift base) := by
      simp [shiftScript]
    change Resumes base past (run mrpCall (shiftScript base calls kind (base + id)) next)
      (run mrpCall (calls kind id) nextFresh)
    rw [called]
    exact moved.script _

theorem receive (type : AttrType) (val : V)
    (event : Option AttributeEvent) (alloc : AllocOutcome) (calls : Indication → AttrId → List (MrpCall V)) :
    Resumes base past ((scripted (shiftScript base calls)).mrpProcessAttribute type val event alloc app)
      ((scripted calls).mrpProcessAttribute type val event alloc fresh) := by
  unfold MrpClient.mrpProcessAttribute
  simp only [scripted_app,resumes.enabled]
  refine branch resumes ?_
  obtain ⟨got,same⟩ := resumes.getAttribute type val alloc
  generalize mrpGetAttribute type val alloc app = result at got same
  generalize mrpGetAttribute type val alloc fresh = other at got same
  obtain ⟨next,id⟩ := result
  obtain ⟨nextFresh,idFresh⟩ := other
  subst same
  cases idFresh with
  | none => exact got
  | some id =>
    cases event with
    | none => exact got
    | some event => exact ((got.indicate _ id calls).applicantSm _ id).freeAttributeCheck id

theorem leaveTimer (id : AttrId) (count : Nat) (calls : Indication → AttrId → List (MrpCall V)) :
    Resumes base past ((scripted (shiftScript base calls)).timerProcess (base + id) count app)
      ((scripted calls).timerProcess id count fresh) := by
  have visited : Resumes base past (leaveTimerProcess (base + id) count app).1
        (leaveTimerProcess id count fresh).1 ∧
      (leaveTimerProcess (base + id) count app).2 = (leaveTimerProcess id count fresh).2 := by
    unfold leaveTimerProcess
    rw [resumes.heap]
    split
    · exact ⟨resumes,rfl⟩
    next attr _ =>
      dsimp only
      split
      · split
        · exact ⟨((resumes.observe _ _).write id _).observe _ _,rfl⟩
        · exact ⟨(resumes.observe _ _).write id _,rfl⟩
      · exact ⟨resumes,rfl⟩
  obtain ⟨ticked,same⟩ := visited
  unfold MrpClient.timerProcess
  simp only [scripted_app]
  generalize leaveTimerProcess (base + id) count app = result at ticked same
  generalize leaveTimerProcess id count fresh = other at ticked same
  obtain ⟨next,fired⟩ := result
  obtain ⟨nextFresh,firedFresh⟩ := other
  subst same
  cases fired with
  | false => exact ticked
  | true => exact (ticked.indicate .LEAVETIMER id calls).freeAttributeCheck id

theorem step (input : MrpInput V) : Resumes base past (mrpStep (input.shift base) app) (mrpStep input fresh) := by
  cases input with
  | call request => exact resumes.call request
  | receive type val event alloc calls => exact resumes.receive type val event alloc calls
  | leaveAll type random => exact resumes.receiveLeaveall type random
  | leaveTimer id count calls => exact resumes.leaveTimer id count calls
  | joinTimer =>
    simp only [mrpStep,MrpInput.shift]
    rw [resumes.join.started]
    exact branch (joinTimerHandler {resumes with join := resumes.join.stop}) resumes
  | leaveAllTimer random =>
    simp only [mrpStep,MrpInput.shift]
    rw [resumes.leaveallTimer.started]
    have fired : Resumes base past {app with leaveall := {app.leaveall with timer := timerStop app.leaveall.timer}}
        {fresh with leaveall := {fresh.leaveall with timer := timerStop fresh.leaveall.timer}} :=
      {resumes with leaveallTimer := resumes.leaveallTimer.stop}
    exact branch (fired.leaveallSm .LEAVEALLTIMER random) resumes
  | periodicTimer =>
    simp only [mrpStep,MrpInput.shift]
    rw [resumes.periodicTimer.started]
    exact branch (periodicTimerHandler {resumes with periodicTimer := resumes.periodicTimer.stop}) resumes
  | enable random => exact resumes.enable random
  | disable => exact resumes.disable

theorem steps (inputs : List (MrpInput V)) :
    Resumes base past (run mrpStep (inputs.map (MrpInput.shift base)) app) (run mrpStep inputs fresh) := by
  induction inputs generalizing app fresh with
  | nil => exact resumes
  | cons input rest ih => exact ih (resumes.step input)

end

end Step

end Resumes

end Genavb.Mrp
