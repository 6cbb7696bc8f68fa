import Genavb.Support.Run
import Genavb.Support.Places
import Genavb.Avdecc.Aem

/-! The controllers that are registered for unsolicited notifications (`aecp.c`), with the timers that
monitor them and the CONTROLLER_AVAILABLE commands that wait for their responses. -/
namespace Genavb.Avdecc
open Support
open Maap (MacAddress)

inductive UnsolicitedPlace where
  | free
  | registered
  deriving DecidableEq

/-- A registration; of its monitor timer it has whether it is created and whether it runs. -/
structure UnsolicitedCtx where
  controllerId : UInt64
  portId : Nat
  macDst : MacAddress
  sequenceId : UInt16
  timerCreated : Bool
  timerRunning : Bool

structure NetworkCommand where
  sequenceId : UInt16
  monitors : Option (UInt64 × Nat)
  retried : Bool

structure AecpCtx where
  places : UnsolicitedPlace → List Nat
  contexts : Nat → UnsolicitedCtx
  network : List NetworkCommand
  sequenceId : UInt16

inductive UnsolicitedAdd where
  | added
  | present
  | failed
  deriving DecidableEq

inductive ControllerCommand where
  | register (timerCreated : Bool)
  | deregister
  /-- Any other command, with whether its handler runs to its end. -/
  | other (completed : Bool)

inductive UnsolicitedInput where
  | command (command : ControllerCommand) (controllerId : UInt64) (portId : Nat) (macSrc : MacAddress) (buffer : Bool)
  | monitorTimer (entry : Nat) (buffer context : Bool)
  | aecpCommand (monitors : Option (UInt64 × Nat)) (context : Bool)
  | networkTimeout (position : Nat) (buffer transmitted : Bool)
  | controllerResponse (sequenceId : UInt16) (controllerId : UInt64) (portId : Nat) (unsolicited : Bool)
  | entityResponse (sequenceId : UInt16) (unsolicited inProgress : Bool)

def UnsolicitedCtx.key (context : UnsolicitedCtx) : UInt64 × Nat := (context.controllerId,context.portId)

namespace AecpCtx

def unsolicitedFind (controllerId : UInt64) (portId : Nat) (aecp : AecpCtx) : Option Nat :=
  (aecp.places .registered).find? fun entry => (aecp.contexts entry).key = (controllerId,portId)

def modifyContext (entry : Nat) (change : UnsolicitedCtx → UnsolicitedCtx) (aecp : AecpCtx) : AecpCtx :=
  {aecp with contexts := Function.update aecp.contexts entry (change (aecp.contexts entry))}

/-- `aecp_unsolicited_add`: the entry is in the list before its timer is created. -/
def unsolicitedAdd (timerCreated : Bool) (macDst : MacAddress) (controllerId : UInt64) (portId : Nat) (aecp : AecpCtx) :
    UnsolicitedAdd × AecpCtx :=
  match aecp.unsolicitedFind controllerId portId with
  | some entry => (.present,aecp.modifyContext entry ({· with macDst := macDst}))
  | none =>
    match aecp.places .free with
    | [] => (.failed,aecp)
    | entry :: _ =>
      (if timerCreated then .added else .failed,
        {aecp with places := relocate entry .registered aecp.places}.modifyContext entry fun _ =>
          ⟨controllerId,portId,macDst,0,timerCreated,timerCreated⟩)

def unsolicitedRemove (controllerId : UInt64) (portId : Nat) (aecp : AecpCtx) : AecpCtx :=
  match aecp.unsolicitedFind controllerId portId with
  | none => aecp
  | some entry =>
    {aecp with places := relocate entry .free aecp.places}.modifyContext entry
      ({· with timerCreated := false,timerRunning := false})

def restartMonitor (controllerId : UInt64) (portId : Nat) (aecp : AecpCtx) : AecpCtx :=
  match aecp.unsolicitedFind controllerId portId with
  | none => aecp
  | some entry => aecp.modifyContext entry fun context => {context with timerRunning := context.timerCreated}

def aemSendCommand (monitors : Option (UInt64 × Nat)) (context : Bool) (aecp : AecpCtx) : AecpCtx :=
  {aecp with
    network := if context then ⟨aecp.sequenceId,monitors,false⟩ :: aecp.network else aecp.network
    sequenceId := aecp.sequenceId + 1}

def receivedControllerCommand (command : ControllerCommand) (controllerId : UInt64) (portId : Nat) (macSrc : MacAddress)
    (buffer : Bool) (aecp : AecpCtx) : AecpCtx :=
  if !buffer then aecp
  else match command with
    | .register timerCreated =>
      (aecp.unsolicitedAdd timerCreated macSrc controllerId portId).2.restartMonitor controllerId portId
    | .deregister => (aecp.unsolicitedRemove controllerId portId).restartMonitor controllerId portId
    | .other completed => if completed then aecp.restartMonitor controllerId portId else aecp

def monitorTimerHandler (entry : Nat) (buffer context : Bool) (aecp : AecpCtx) : AecpCtx :=
  if entry ∈ aecp.places .registered ∧ (aecp.contexts entry).timerRunning then
    let next := aecp.modifyContext entry ({· with timerRunning := false})
    if buffer then next.aemSendCommand (some (aecp.contexts entry).key) context else next
  else aecp

/-- `avdecc_inflight_timeout` with `aecp_aem_inflight_network_timeout`, for the command at a position. -/
def networkTimeout (position : Nat) (buffer transmitted : Bool) (aecp : AecpCtx) : AecpCtx :=
  match aecp.network[position]? with
  | none => aecp
  | some command =>
    if command.retried then
      let next := match command.monitors with
        | none => aecp
        | some (controllerId,portId) =>
          if buffer && transmitted then aecp.unsolicitedRemove controllerId portId else aecp
      {next with network := aecp.network.eraseIdx position}
    else if buffer && transmitted then
      {aecp with network := aecp.network.set position {command with retried := true}}
    else {aecp with network := aecp.network.eraseIdx position}

def networkFind (sequenceId : UInt16) (aecp : AecpCtx) : Option Nat :=
  aecp.network.findIdx? (·.sequenceId = sequenceId)

def receivedControllerResponse (sequenceId : UInt16) (controllerId : UInt64) (portId : Nat) (unsolicited : Bool)
    (aecp : AecpCtx) : AecpCtx :=
  if unsolicited then aecp
  else match aecp.networkFind sequenceId with
    | none => aecp
    | some position => {aecp.restartMonitor controllerId portId with network := aecp.network.eraseIdx position}

def receivedEntityResponse (sequenceId : UInt16) (unsolicited inProgress : Bool) (aecp : AecpCtx) : AecpCtx :=
  if unsolicited ∨ inProgress then aecp
  else match aecp.networkFind sequenceId with
    | none => aecp
    | some position => {aecp with network := aecp.network.eraseIdx position}

def unsolicitedStep (input : UnsolicitedInput) (aecp : AecpCtx) : AecpCtx :=
  match input with
  | .command command controllerId portId macSrc buffer =>
    aecp.receivedControllerCommand command controllerId portId macSrc buffer
  | .monitorTimer entry buffer context => aecp.monitorTimerHandler entry buffer context
  | .aecpCommand monitors context => aecp.aemSendCommand monitors context
  | .networkTimeout position buffer transmitted => aecp.networkTimeout position buffer transmitted
  | .controllerResponse sequenceId controllerId portId unsolicited =>
    aecp.receivedControllerResponse sequenceId controllerId portId unsolicited
  | .entityResponse sequenceId unsolicited inProgress => aecp.receivedEntityResponse sequenceId unsolicited inProgress

def unsolicitedInit (maxUnsolicitedRegistrations : Nat) : AecpCtx where
  places
    | .free => (List.range maxUnsolicitedRegistrations).reverse
    | .registered => []
  contexts _ := ⟨0,0,⟨0,0,0,0,0,0⟩,0,false,false⟩
  network := []
  sequenceId := 0

end AecpCtx

end Genavb.Avdecc

/-! The notifications of an entity (`aecp.c`): the commands of controllers, the answers of the application
and the timers, with the loop over the registered controllers that follows a change. -/
namespace Genavb.Avdecc
open Maap (MacAddress)

structure Notification where
  entry : Nat
  controllerId : UInt64
  portId : Nat
  macDst : MacAddress
  sequenceId : UInt16
  deriving DecidableEq

structure ForwardedCommand where
  sequenceId : UInt16
  controllerId : UInt64
  command : ApplicationCommand

structure AemEntity where
  model : AemModel
  application : List ForwardedCommand
  aecp : AecpCtx

/-- What becomes of the messages of a command: whether a buffer is there for it, the application gets it,
an inflight context is free, its response is sent, and a notification is sent to a registration. -/
structure AemSending where
  buffer : Bool
  ipc : Bool
  context : Bool
  response : Bool
  notification : Nat → Bool

structure ReceivedCommand where
  command : AemCommand
  controllerId : UInt64
  portId : Nat
  sequenceId : UInt16

/-- What the application says of a command or, unsolicited, of the entity model. -/
inductive ApplicationMessage where
  | setControl (desc : AemDesc) (values : List UInt8)
  | startStreaming (desc : AemDesc)
  | stopStreaming (desc : AemDesc)
  | audioMappings
  | other

structure ApplicationAnswer where
  message : ApplicationMessage
  success : Bool
  unsolicited : Bool
  sequenceId : UInt16
  controllerId : UInt64

/-- What happens to the entity; the registrations and their monitor timers are those of `UnsolicitedInput`,
and what ACMP does to a stream is the stream after it. -/
inductive AemInput where
  | command (received : ReceivedCommand) (sending : AemSending)
  | answer (answer : ApplicationAnswer) (sending : AemSending)
  | applicationTimeout (position : Nat) (restarted : Bool)
  | lockTimeout (sending : AemSending)
  | asyncNotification (sending : AemSending)
  | acmp (desc : AemDesc) (stream : AemStream)
  | registration (input : UnsolicitedInput)

namespace AecpCtx

def notification (entry : Nat) (aecp : AecpCtx) : Notification :=
  let context := aecp.contexts entry
  ⟨entry,context.controllerId,context.portId,context.macDst,context.sequenceId⟩

/-- The loop of `aecp_aem_send_unsolicited_notification` and `aecp_aem_send_sync_unsolicited_notification`. -/
def notifyEach (sent : Nat → Bool) (excludedControllerId : UInt64) : List Nat → AecpCtx → List Notification × AecpCtx
  | [],aecp => ([],aecp)
  | entry :: rest,aecp =>
    if (aecp.contexts entry).controllerId = excludedControllerId then notifyEach sent excludedControllerId rest aecp
    else if !sent entry then ([],aecp)
    else
      let (notifications,next) := notifyEach sent excludedControllerId rest
        (aecp.modifyContext entry fun context => {context with sequenceId := context.sequenceId + 1})
      (aecp.notification entry :: notifications,next)

def sendUnsolicitedNotification (sent : Nat → Bool) (excludedControllerId : UInt64) (aecp : AecpCtx) :
    List Notification × AecpCtx := notifyEach sent excludedControllerId (aecp.places .registered) aecp

def needSyncUnsolicitedNotifications (controllerId : UInt64) (aecp : AecpCtx) : Bool :=
  (aecp.places .registered).any fun entry => (aecp.contexts entry).controllerId ≠ controllerId

def sendAsyncUnsolicitedNotification (sending : AemSending) (aecp : AecpCtx) : List Notification × AecpCtx :=
  if aecp.places .registered = [] || !sending.buffer then ([],aecp)
  else aecp.sendUnsolicitedNotification sending.notification 0

end AecpCtx

namespace AemEntity
variable (config : AemConfig)

/-- The commands that go to the application: which of them is put in flight. -/
def forward (received : ReceivedCommand) (sending : AemSending) (entity : AemEntity) : List ForwardedCommand :=
  match received.command with
  | .application command =>
    match entity.model.checkApplicationCommand config received.controllerId command with
    | .ok () =>
      if sending.ipc && sending.context then ⟨received.sequenceId,received.controllerId,command⟩ :: entity.application
      else entity.application
    | .error _ => entity.application
  | _ => entity.application

/-- `aecp_aem_received_controller_command`: the notifications and the entity after the command. -/
def receivedControllerCommand (received : ReceivedCommand) (sending : AemSending) (entity : AemEntity) :
    List Notification × AemEntity :=
  if !sending.buffer then ([],entity)
  else
    let outcome := entity.model.handle config received.controllerId received.command
    let entity := {entity with model := outcome.model,application := entity.forward config received sending}
    if outcome.notify && entity.aecp.needSyncUnsolicitedNotifications received.controllerId then
      if !sending.response then ([],entity)
      else
        let (notifications,aecp) := entity.aecp.sendUnsolicitedNotification sending.notification received.controllerId
        (notifications,{entity with aecp := aecp.restartMonitor received.controllerId received.portId})
    else ([],{entity with aecp := entity.aecp.restartMonitor received.controllerId received.portId})

def findController (sequenceId : UInt16) (controllerId : UInt64) (entity : AemEntity) : Option ForwardedCommand :=
  entity.application.find? fun forwarded => forwarded.sequenceId = sequenceId && forwarded.controllerId = controllerId

/-- The values that a SET_CONTROL answer writes: those of the command, or of an unsolicited message. -/
def controlValues (values : List UInt8) (forwarded : Option ForwardedCommand) : List UInt8 :=
  match forwarded with
  | some ⟨_,_,.setControl _ values⟩ => values
  | some _ => []
  | none => values

/-- What an answer does to the entity model: nothing is done further for `none`. -/
def update (answer : ApplicationAnswer) (forwarded : Option ForwardedCommand) (model : AemModel) :
    Option (AemModel × Bool) :=
  match answer.message with
  | .setControl desc values =>
    if !config.descriptors desc then none
    else if answer.success then
      match (model.control desc).pduToDesc (controlValues values forwarded) with
      | some (control,changed) => some ({model with control := Function.update model.control desc control},changed)
      | none => none
    else if answer.unsolicited || !(model.control desc).readable then none
    else some (model,false)
  | .startStreaming desc => if answer.success then model.streaming config desc false else some (model,false)
  | .stopStreaming desc => if answer.success then model.streaming config desc true else some (model,false)
  | .audioMappings => some (model,answer.success)
  | .other => some (model,false)

/-- `aecp_ipc_rx_controlled`: an unsolicited message has no command in flight. -/
def ipcRxControlled (answer : ApplicationAnswer) (sending : AemSending) (entity : AemEntity) :
    List Notification × AemEntity :=
  let forwarded := if answer.unsolicited then none else entity.findController answer.sequenceId answer.controllerId
  if !answer.unsolicited && forwarded.isNone then ([],entity)
  else match update config answer forwarded entity.model with
    | none => ([],entity)
    | some (model,changed) =>
      let answered : AemEntity := {entity with
        model := model
        application :=
          if answer.unsolicited then entity.application
          else entity.application.eraseP fun forwarded =>
            forwarded.sequenceId = answer.sequenceId && forwarded.controllerId = answer.controllerId}
      if !answer.unsolicited && !sending.response then ([],answered)
      else if answer.success && changed then
        let (notifications,aecp) := answered.aecp.sendUnsolicitedNotification sending.notification
          (forwarded.elim 0 ForwardedCommand.controllerId)
        (notifications,{answered with aecp := aecp})
      else ([],answered)

def lockTimeout (sending : AemSending) (entity : AemEntity) : List Notification × AemEntity :=
  if !entity.model.lockTimer then ([],entity)
  else
    let entity := {entity with model := entity.model.lockTimeout}
    if config.milanMode then
      let (notifications,aecp) := entity.aecp.sendAsyncUnsolicitedNotification sending
      (notifications,{entity with aecp := aecp})
    else ([],entity)

/-- The notifications that an input makes the entity send, and the entity after it. -/
def rcv (input : AemInput) (entity : AemEntity) : List Notification × AemEntity :=
  match input with
  | .command received sending => entity.receivedControllerCommand config received sending
  | .answer answer sending => entity.ipcRxControlled config answer sending
  | .applicationTimeout position restarted =>
    ([],if restarted then entity else {entity with application := entity.application.eraseIdx position})
  | .lockTimeout sending => entity.lockTimeout config sending
  | .asyncNotification sending =>
    let (notifications,aecp) := entity.aecp.sendAsyncUnsolicitedNotification sending
    (notifications,{entity with aecp := aecp})
  | .acmp desc stream =>
    ([],{entity with model := {entity.model with streams := Function.update entity.model.streams desc stream}})
  | .registration input => ([],{entity with aecp := entity.aecp.unsolicitedStep input})

end AemEntity

end Genavb.Avdecc
