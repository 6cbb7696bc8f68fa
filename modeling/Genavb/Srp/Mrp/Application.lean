import Genavb.Srp.Mrp.Machines

/-! The MRP application of `mrp.c`: attribute store, MAD requests, received events and
timer handlers, over any type of attribute values. -/
namespace Genavb.Mrp

variable {V : Type}

namespace MrpApplication

def observe (observation : Observation) (app : MrpApplication V) : MrpApplication V :=
  {app with observed := app.observed ++ [observation]}

def faulted (app : MrpApplication V) : MrpApplication V := {app with fault := true}

def write (id : AttrId) (attr : MrpAttribute V) (app : MrpApplication V) : MrpApplication V :=
  {app with heap := Function.update app.heap id (some attr)}

/-- `list_del` and `list_add_tail` on the ordered list. -/
def moveToTail (type : AttrType) (id : AttrId) (app : MrpApplication V) : MrpApplication V :=
  {app with attributesOrdered :=
    Function.update app.attributesOrdered type ((app.attributesOrdered type).erase id ++ [id])}

/-- `list_add` of a new block to both lists of its type. -/
def link (type : AttrType) (app : MrpApplication V) : MrpApplication V :=
  {app with
    attributes := Function.update app.attributes type (app.nextId :: app.attributes type),
    attributesOrdered :=
      Function.update app.attributesOrdered type (app.nextId :: app.attributesOrdered type),
    nextId := app.nextId + 1}

end MrpApplication

def mrpTransmitRequest (app : MrpApplication V) : MrpApplication V :=
  if !app.join.started then {app with join := timerStart app.join 100} else app

def mrpTransmitAction (type : AttrType) (attr : Option (V × AttributeEvent)) (leaveall : Bool)
    (app : MrpApplication V) : MrpApplication V :=
  {app with transmit := app.transmit ++ [.action type attr leaveall]}

def mrpTransmitEnd (type : AttrType) (app : MrpApplication V) : MrpApplication V :=
  {app with transmit := app.transmit ++ [.finish type]}

def mrpApplicantActionHandler (attr : MrpAttribute V) (app : MrpApplication V) : MrpApplication V :=
  match actionToEvent app.config attr.registrar.state attr.applicant.action with
  | none => app
  | some event => mrpTransmitAction attr.type (some (attr.val,event)) false app

def mrpApplicantSm (event : MrpEvent) (id : AttrId) (app : MrpApplication V) : MrpApplication V :=
  match app.heap id with
  | none => app.faulted
  | some attr =>
    let applicant := applicantMachine app.config attr.registrar.state event attr.applicant.state
    let changed := applicant.state != attr.applicant.state
    let app := if changed && requestsTransmit applicant.state then mrpTransmitRequest app else app
    let app := if changed then app.moveToTail attr.type id else app
    let app := app.write id {attr with applicant := applicant}
    mrpApplicantActionHandler {attr with applicant := applicant} app

def mrpRegistrarSm (event : MrpEvent) (id : AttrId) (app : MrpApplication V) : MrpApplication V × Option Indication :=
  match app.heap id with
  | none => (app.faulted,none)
  | some attr =>
    let registrar := registrarMachine app.config event attr.registrar
    let app := app.write id {attr with registrar := registrar}
    let app := if registrar.state = .LV ∧ attr.registrar.state ≠ .LV then app.observe (.leaving id) else app
    match actionIndication registrar.action with
    | none => (app,none)
    | some kind => (app.observe (.indication kind id attr.registrar.state),some kind)

def mrpFreeAttribute (cause : FreeCause) (id : AttrId) (app : MrpApplication V) : MrpApplication V :=
  match app.heap id with
  | none => app.faulted
  | some attr =>
    {app with
      heap := Function.update app.heap id none,
      attributes := Function.update app.attributes attr.type ((app.attributes attr.type).erase id),
      attributesOrdered :=
        Function.update app.attributesOrdered attr.type ((app.attributesOrdered attr.type).erase id),
      observed := app.observed ++ [.released cause id attr.applicant.state attr.registrar.state]}

def mrpFreeAttributeCheck (id : AttrId) (app : MrpApplication V) : MrpApplication V :=
  match app.heap id with
  | none => app.faulted
  | some attr => if unused app.config attr then mrpFreeAttribute .check id app else app

/-- The error exit for a refused timer frees the block and leaves it in both lists. -/
def mrpAllocAttribute (type : AttrType) (val : V) (alloc : AllocOutcome) (app : MrpApplication V) :
    MrpApplication V × Option AttrId :=
  match alloc with
  | .noMemory => (app,none)
  | .noTimer => (app.link type,none)
  | .ok applicant registrar =>
    let id := app.nextId
    let attr : MrpAttribute V :=
      { type := type, val := val, applicant := ⟨applicant,.NONE⟩,
        registrar := ⟨registrar,.NONE,timerInit true app.config.leaveTimeout⟩ }
    let app := ((app.link type).write id attr).observe (.created id)
    let app := mrpApplicantSm .BEGIN id app
    let app := (mrpRegistrarSm .BEGIN id app).1
    (app,some id)

inductive Lookup where
  | found (id : AttrId)
  | missing
  | stale
  deriving DecidableEq

section Find
variable [DecidableEq V]

/-- The list walk of `mrp_find_attribute`; a released block in its way is read all the same. -/
def findAttribute (heap : AttrId → Option (MrpAttribute V)) (val : V) : List AttrId → Lookup
  | [] => .missing
  | id :: rest =>
    match heap id with
    | none => .stale
    | some attr => if attr.val = val then .found id else findAttribute heap val rest

def mrpFindAttribute (type : AttrType) (val : V) (app : MrpApplication V) : Lookup :=
  findAttribute app.heap val (app.attributes type)

def mrpGetAttribute (type : AttrType) (val : V) (alloc : AllocOutcome) (app : MrpApplication V) :
    MrpApplication V × Option AttrId :=
  match mrpFindAttribute type val app with
  | .found id => (app,some id)
  | .missing => mrpAllocAttribute type val alloc app
  | .stale => (app.faulted,none)

def mrpMadJoinRequest (type : AttrType) (val : V) (new : Bool) (alloc : AllocOutcome)
    (app : MrpApplication V) : MrpApplication V × Option AttrId :=
  if !app.enabled then (app,none) else
  match mrpGetAttribute type val alloc app with
  | (app,none) => (app,none)
  | (app,some id) => (mrpApplicantSm (if new then .NEW else .JOIN) id app,some id)

def mrpMadJoinImmediate (type : AttrType) (val : V) (alloc : AllocOutcome) (app : MrpApplication V) :
    MrpApplication V × Option AttrId :=
  if !app.enabled then (app,none) else
  match mrpFindAttribute type val app with
  | .found _ => (app,none)
  | .stale => (app.faulted,none)
  | .missing =>
    match mrpAllocAttribute type val alloc app with
    | (app,none) => (app,none)
    | (app,some id) => (mrpApplicantSm .TX id (mrpApplicantSm .JOIN id app),some id)

def mrpMadLeaveRequest (type : AttrType) (val : V) (app : MrpApplication V) : MrpApplication V :=
  if !app.enabled then app else
  match mrpFindAttribute type val app with
  | .found id => mrpFreeAttributeCheck id (mrpApplicantSm .LV id app)
  | .missing => app
  | .stale => app.faulted

end Find

def mrpProcessAttributeFreeImmediate (id : AttrId) (app : MrpApplication V) : MrpApplication V :=
  mrpFreeAttribute .immediate id app

def mrpProcessAttributeLeaveImmediate (id : AttrId) (app : MrpApplication V) : MrpApplication V :=
  let app := (mrpRegistrarSm .RLV_IMMEDIATE id (app.observe (.leaveImmediate id))).1
  mrpFreeAttributeCheck id (mrpApplicantSm .RLV id app)

/-- `__mrp_process_attribute` on a LeaveAll, which gives no indication. -/
def leaveallAttribute (id : AttrId) (app : MrpApplication V) : MrpApplication V :=
  mrpFreeAttributeCheck id (mrpApplicantSm .RLA id (mrpRegistrarSm .RLA id app).1)

def mrpLeaveallActionHandler (app : MrpApplication V) : MrpApplication V :=
  match app.leaveall.action with
  | .SLA =>
    let app := app.config.attrTypes.foldl
      (fun app type => (app.attributes type).foldl (fun app id => leaveallAttribute id app) app) app
    app.config.attrTypes.foldl (fun app type => mrpTransmitAction type none true app) app
  | _ => app

/-- `random` is the value `random_range` returns. -/
def mrpLeaveallSm (event : MrpEvent) (random : Nat) (app : MrpApplication V) : MrpApplication V :=
  let lva := app.leaveall
  if !app.config.full then
    mrpLeaveallActionHandler {app with leaveall := {lva with action := .NONE}} else
  match event with
  | .BEGIN =>
    mrpLeaveallActionHandler {app with leaveall := ⟨.PASSIVE,.NONE,timerStart lva.timer random⟩}
  | .TX =>
    if lva.state = .ACTIVE then
      mrpLeaveallActionHandler {app with leaveall := {lva with state := .PASSIVE, action := .SLA}}
    else mrpLeaveallActionHandler {app with leaveall := {lva with action := .NONE}}
  | .RLA =>
    mrpLeaveallActionHandler {app with leaveall := ⟨.PASSIVE,.NONE,timerRestart lva.timer random⟩}
  | .LEAVEALLTIMER =>
    mrpLeaveallActionHandler
      {mrpTransmitRequest app with leaveall := ⟨.ACTIVE,.NONE,timerStart lva.timer random⟩}
  | _ => mrpLeaveallActionHandler {app with leaveall := {lva with action := .NONE}}

/-- The walk of `mrp_process_packet` over a type on a LeaveAll event: the next entry is
read from the block that was just processed. -/
def leaveallWalk (app : MrpApplication V) (id : AttrId) : MrpApplication V :=
  let app := leaveallAttribute id app
  if (app.heap id).isNone then app.faulted else app

def receiveLeaveall (type : AttrType) (random : Nat) (app : MrpApplication V) : MrpApplication V :=
  if !app.enabled then app else
  mrpLeaveallSm .RLA random ((app.attributes type).foldl leaveallWalk app)

def mrpLeaveallTimerHandler (random : Nat) (app : MrpApplication V) : MrpApplication V :=
  mrpLeaveallSm .LEAVEALLTIMER random app

def mrpJoinTimerHandler (app : MrpApplication V) : MrpApplication V :=
  let app := mrpLeaveallSm .TX 0 app
  let event : MrpEvent := if app.leaveall.action = .SLA then .TXLA else .TX
  let app := app.config.attrTypes.foldl
    (fun app type => (app.attributesOrdered type).foldl
      (fun app id => mrpFreeAttributeCheck id (mrpApplicantSm event id app)) app) app
  app.config.attrTypes.foldl (fun app type => mrpTransmitEnd type app) app

def mrpPeriodicSm (event : MrpEvent) (app : MrpApplication V) : MrpApplication V :=
  let periodic := app.periodic
  match event,periodic.state with
  | .BEGIN,_ => {app with periodic := ⟨.ACTIVE,.NONE,timerStart periodic.timer 1000⟩}
  | .PERIODIC_ENABLED,.PASSIVE =>
    {app with periodic := ⟨.ACTIVE,.NONE,timerStart periodic.timer 1000⟩}
  | .PERIODIC_DISABLED,.ACTIVE => {app with periodic := ⟨.PASSIVE,.NONE,timerStop periodic.timer⟩}
  | .PERIODICTIMER,.ACTIVE =>
    {app with periodic := ⟨.ACTIVE,.PERIODIC,timerStart periodic.timer 1000⟩}
  | _,_ => {app with periodic := {periodic with action := .NONE}}

def mrpPeriodicTimerHandler (app : MrpApplication V) : MrpApplication V :=
  mrpPeriodicSm .PERIODICTIMER (app.config.attrTypes.foldl
    (fun app type => (app.attributes type).foldl (fun app id => mrpApplicantSm .PERIODIC id app) app) app)

def mrpEnable (random : Nat) (app : MrpApplication V) : MrpApplication V :=
  if app.enabled then app else
  let app := if app.config.full then mrpLeaveallSm .BEGIN random app else app
  let app := if !app.config.msrp then mrpPeriodicSm .BEGIN app else app
  {app with enabled := true}

def mrpExitAttributes (app : MrpApplication V) : MrpApplication V :=
  (List.finRange 5).foldl
    (fun app type => (app.attributes type).foldl (fun app id => mrpFreeAttribute .disable id app) app) app

def mrpDisable (app : MrpApplication V) : MrpApplication V :=
  if !app.enabled then app else
  let app :=
    if !app.config.msrp then
      {app with periodic := {app.periodic with timer := timerStop app.periodic.timer}}
    else app
  let app := {app with
    join := timerStop app.join,
    leaveall := {app.leaveall with timer := timerStop app.leaveall.timer}}
  {mrpExitAttributes app with enabled := false}

def MrpApplication.cleared (config : MrpConfig) : MrpApplication V where
  config := config
  heap := fun _ => none
  attributes := fun _ => []
  attributesOrdered := fun _ => []
  nextId := 0
  leaveall := ⟨.PASSIVE,.NONE,timerInit false 0⟩
  periodic := ⟨.PASSIVE,.NONE,if !config.msrp then timerInit false 0 else .unset⟩
  join := timerInit false 0
  enabled := false
  transmit := []
  observed := []
  fault := false

def mrpInit (config : MrpConfig) (random : Nat) : MrpApplication V :=
  mrpEnable random (.cleared config)

/-- An application with its indication handlers: `app` is the MRP part of the state `σ`. -/
structure MrpClient (V σ : Type) where
  app : σ → MrpApplication V
  setApp : MrpApplication V → σ → σ
  indication : Indication → AttrId → σ → σ

namespace MrpClient
variable {σ : Type}

def modify (client : MrpClient V σ) (f : MrpApplication V → MrpApplication V) (state : σ) : σ :=
  client.setApp (f (client.app state)) state

def registrarSm (client : MrpClient V σ) (event : MrpEvent) (id : AttrId) (state : σ) : σ :=
  match mrpRegistrarSm event id (client.app state) with
  | (app,none) => client.setApp app state
  | (app,some kind) => client.indication kind id (client.setApp app state)

/-- `__mrp_process_attribute`, with `none` for an event that is out of range. -/
def processAttribute (client : MrpClient V σ) (event : Option AttributeEvent) (id : AttrId) (state : σ) : σ :=
  match event with
  | none => state
  | some event =>
    let state := client.registrarSm (attributeToRxEvent event) id state
    let state := client.modify (mrpApplicantSm (attributeToRxEvent event) id) state
    client.modify (mrpFreeAttributeCheck id) state

def mrpProcessAttribute [DecidableEq V] (client : MrpClient V σ) (type : AttrType) (val : V)
    (event : Option AttributeEvent) (alloc : AllocOutcome) (state : σ) : σ :=
  if !(client.app state).enabled then state else
  match mrpGetAttribute type val alloc (client.app state) with
  | (app,none) => client.setApp app state
  | (app,some id) => client.processAttribute event id (client.setApp app state)

def mrpLeaveTimerHandler (client : MrpClient V σ) (id : AttrId) (state : σ) : σ :=
  client.modify (mrpFreeAttributeCheck id) (client.registrarSm .LEAVETIMER id state)

/-- The part of `timer_process` that precedes the timer function, for the leave timer of
one attribute: whether the timer expired. -/
def leaveTimerProcess (id : AttrId) (count : Nat) (app : MrpApplication V) : MrpApplication V × Bool :=
  match app.heap id with
  | none => (app,false)
  | some attr =>
    let leave := attr.registrar.leave
    if leave.started then
      let ms := leave.ms - leave.granularity * count
      let app := app.observe (.leaveTick id (leave.granularity * count))
      if ms ≤ 0 then
        ((app.write id {attr with registrar :=
          {attr.registrar with leave := timerStop {leave with ms := ms}}}).observe
            (.leaveTimeout id attr.registrar.state),true)
      else
        (app.write id {attr with registrar := {attr.registrar with leave := {leave with ms := ms}}},false)
    else (app,false)

/-- One visit of `timer_process` to the leave timer of an attribute, after `count` periods
of the system timer. -/
def timerProcess (client : MrpClient V σ) (id : AttrId) (count : Nat) (state : σ) : σ :=
  match leaveTimerProcess id count (client.app state) with
  | (app,false) => client.setApp app state
  | (app,true) => client.mrpLeaveTimerHandler id (client.setApp app state)

end MrpClient

end Genavb.Mrp
