import Genavb.Srp.Mrp.Application

/-! Runs of one MRP application: requests, received events, LeaveAll, timer expirations,
enable and disable in any order, with indication handlers that make any calls back. -/
namespace Genavb.Mrp
open Support

variable {V : Type} [DecidableEq V]

inductive MrpCall (V : Type) where
  | joinRequest (type : AttrType) (val : V) (new : Bool) (alloc : AllocOutcome)
  | joinImmediate (type : AttrType) (val : V) (alloc : AllocOutcome)
  | leaveRequest (type : AttrType) (val : V)
  | freeImmediate (id : AttrId)
  | leaveImmediate (id : AttrId)

def mrpCall (call : MrpCall V) (app : MrpApplication V) : MrpApplication V :=
  match call with
  | .joinRequest type val new alloc => (mrpMadJoinRequest type val new alloc app).1
  | .joinImmediate type val alloc => (mrpMadJoinImmediate type val alloc app).1
  | .leaveRequest type val => mrpMadLeaveRequest type val app
  | .freeImmediate id => mrpProcessAttributeFreeImmediate id app
  | .leaveImmediate id => mrpProcessAttributeLeaveImmediate id app

def scripted (calls : Indication → AttrId → List (MrpCall V)) : MrpClient V (MrpApplication V) where
  app := id
  setApp := fun app _ => app
  indication := fun kind id app => run mrpCall (calls kind id) app

@[simp] theorem scripted_app (calls : Indication → AttrId → List (MrpCall V)) (app : MrpApplication V) :
    (scripted calls).app app = app := rfl

@[simp] theorem scripted_setApp (calls : Indication → AttrId → List (MrpCall V))
    (next app : MrpApplication V) : (scripted calls).setApp next app = next := rfl

inductive MrpInput (V : Type) where
  | call (call : MrpCall V)
  | receive (type : AttrType) (val : V) (event : Option AttributeEvent) (alloc : AllocOutcome)
      (calls : Indication → AttrId → List (MrpCall V))
  | leaveAll (type : AttrType) (random : Nat)
  | leaveTimer (id : AttrId) (count : Nat) (calls : Indication → AttrId → List (MrpCall V))
  | joinTimer
  | leaveAllTimer (random : Nat)
  | periodicTimer
  | enable (random : Nat)
  | disable

/-- A timer with a system timer of its own fires once, and only while it is started. -/
def mrpStep (input : MrpInput V) (app : MrpApplication V) : MrpApplication V :=
  match input with
  | .call call => mrpCall call app
  | .receive type val event alloc calls => (scripted calls).mrpProcessAttribute type val event alloc app
  | .leaveAll type random => receiveLeaveall type random app
  | .leaveTimer id count calls => (scripted calls).timerProcess id count app
  | .joinTimer =>
    if app.join.started then mrpJoinTimerHandler {app with join := timerStop app.join} else app
  | .leaveAllTimer random =>
    if app.leaveall.timer.started then
      mrpLeaveallTimerHandler random
        {app with leaveall := {app.leaveall with timer := timerStop app.leaveall.timer}}
    else app
  | .periodicTimer =>
    if app.periodic.timer.started then
      mrpPeriodicTimerHandler
        {app with periodic := {app.periodic with timer := timerStop app.periodic.timer}}
    else app
  | .enable random => mrpEnable random app
  | .disable => mrpDisable app

def indicated (input : MrpInput V) (app : MrpApplication V) : Option (Indication × AttrId × MrpApplication V) :=
  match input with
  | .receive type val event alloc _ =>
    if !app.enabled then none else
    match mrpGetAttribute type val alloc app,event with
    | (_,none),_ => none
    | _,none => none
    | (app,some id),some event =>
      match mrpRegistrarSm (attributeToRxEvent event) id app with
      | (_,none) => none
      | (app,some kind) => some (kind,id,app)
  | .leaveTimer id count _ =>
    match MrpClient.leaveTimerProcess id count app with
    | (_,false) => none
    | (app,true) =>
      match mrpRegistrarSm .LEAVETIMER id app with
      | (_,none) => none
      | (app,some kind) => some (kind,id,app)
  | _ => none

def MrpInput.script : MrpInput V → Indication → AttrId → List (MrpCall V)
  | .receive _ _ _ _ calls => calls
  | .leaveTimer _ _ calls => calls
  | _ => fun _ _ => []

/-- A condition on calls, read over a whole input: it holds of the call, or of every call
the indication handler makes in the state in which it makes it. `own` is the attribute
that is being indicated. A received attribute is created as by a join request. -/
def Allowed (call : Option AttrId → MrpApplication V → MrpCall V → Prop)
    (app : MrpApplication V) (input : MrpInput V) : Prop :=
  match input with
  | .call request => call none app request
  | .receive type val _ alloc _ =>
    call none app (.joinRequest type val false alloc) ∧
    ∀ kind id handling, indicated input app = some (kind,id,handling) →
      Steps mrpCall (call (some id)) (input.script kind id) handling
  | _ =>
    ∀ kind id handling, indicated input app = some (kind,id,handling) →
      Steps mrpCall (call (some id)) (input.script kind id) handling

end Genavb.Mrp

/-! Inputs to an MRP application whose indications are answered by the protocol above it. -/
namespace Genavb.Mrp

variable {V σ : Type}

/-- What drives an application besides the calls of its user. -/
inductive MrpTrigger (V : Type) where
  | receive (type : AttrType) (val : V) (event : Option AttributeEvent) (alloc : AllocOutcome)
  | leaveAll (type : AttrType) (random : Nat)
  | leaveTimer (id : AttrId) (count : Nat)
  | joinTimer
  | leaveAllTimer (random : Nat)
  | periodicTimer
  | enable (random : Nat)
  | disable

def MrpClient.trigger [DecidableEq V] (client : MrpClient V σ) : MrpTrigger V → σ → σ
  | .receive type val event alloc => client.mrpProcessAttribute type val event alloc
  | .leaveAll type random => client.modify (mrpStep (.leaveAll type random))
  | .leaveTimer id count => client.timerProcess id count
  | .joinTimer => client.modify (mrpStep .joinTimer)
  | .leaveAllTimer random => client.modify (mrpStep (.leaveAllTimer random))
  | .periodicTimer => client.modify (mrpStep .periodicTimer)
  | .enable random => client.modify (mrpStep (.enable random))
  | .disable => client.modify (mrpStep .disable)

structure MrpClient.Keeps (client : MrpClient V σ) (Inv : σ → Prop) : Prop where
  setApp : ∀ app state, Inv state → Inv (client.setApp app state)
  indication : ∀ kind id state, Inv state → Inv (client.indication kind id state)

namespace MrpClient.Keeps
variable {client : MrpClient V σ} {Inv : σ → Prop} {state : σ}

theorem registrarSm (keeps : client.Keeps Inv) (event : MrpEvent) (id : AttrId) (holds : Inv state) :
    Inv (client.registrarSm event id state) := by
  unfold MrpClient.registrarSm
  split
  · exact keeps.setApp _ _ holds
  · exact keeps.indication _ _ _ (keeps.setApp _ _ holds)

theorem processAttribute (keeps : client.Keeps Inv) (event : Option AttributeEvent) (id : AttrId)
    (holds : Inv state) : Inv (client.processAttribute event id state) := by
  unfold MrpClient.processAttribute
  split
  · exact holds
  · exact keeps.setApp _ _ (keeps.setApp _ _ (keeps.registrarSm _ id holds))

theorem trigger [DecidableEq V] (keeps : client.Keeps Inv) (input : MrpTrigger V) (holds : Inv state) :
    Inv (client.trigger input state) := by
  cases input with
  | receive type val event alloc =>
    simp only [MrpClient.trigger,MrpClient.mrpProcessAttribute]
    split
    · exact holds
    · split
      · exact keeps.setApp _ _ holds
      · exact keeps.processAttribute _ _ (keeps.setApp _ _ holds)
  | leaveTimer id count =>
    simp only [MrpClient.trigger,MrpClient.timerProcess]
    split
    · exact keeps.setApp _ _ holds
    · exact keeps.setApp _ _ (keeps.registrarSm _ _ (keeps.setApp _ _ holds))
  | leaveAll | joinTimer | leaveAllTimer | periodicTimer | enable | disable => exact keeps.setApp _ _ holds

end MrpClient.Keeps

end Genavb.Mrp
