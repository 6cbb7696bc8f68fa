import Genavb.Avdecc.AvdeccEntity
import Genavb.Avdecc.NotificationRuns

/-! What the lock and the acquisition protect, over the runs of an entity. -/
namespace Genavb.Avdecc
open Support AemModel AemEntity IeeeEntity

namespace AemEntity
variable {config : AemConfig} {entity : AemEntity}

theorem receivedControllerCommand_model (received : ReceivedCommand) (sending : AemSending) :
    (entity.receivedControllerCommand config received sending).2.model =
      if sending.buffer then (entity.model.handle config received.controllerId received.command).model else entity.model := by
  unfold receivedControllerCommand
  cases sending.buffer with
  | false => rfl
  | true =>
    dsimp only
    rw [if_neg (by decide),if_pos rfl]
    split
    · split
      · rfl
      · rfl
    · rfl

private theorem receivedControllerCommand_application (received : ReceivedCommand) (sending : AemSending) :
    (entity.receivedControllerCommand config received sending).2.application =
      if sending.buffer then entity.forward config received sending else entity.application := by
  unfold receivedControllerCommand
  cases sending.buffer with
  | false => rfl
  | true =>
    dsimp only
    rw [if_neg (by decide),if_pos rfl]
    split
    · split
      · rfl
      · rfl
    · rfl

def answered (answer : ApplicationAnswer) (entity : AemEntity) : Option ForwardedCommand :=
  if answer.unsolicited then none else entity.findController answer.sequenceId answer.controllerId

theorem ipcRxControlled_model (answer : ApplicationAnswer) (sending : AemSending) :
    (entity.ipcRxControlled config answer sending).2.model =
      if !answer.unsolicited && (entity.answered answer).isNone then entity.model
      else ((update config answer (entity.answered answer) entity.model).map Prod.fst).getD entity.model := by
  unfold ipcRxControlled answered
  dsimp only
  generalize (if answer.unsolicited then none else entity.findController answer.sequenceId answer.controllerId) = forwarded
  split
  · rfl
  cases updated : update config answer forwarded entity.model with
  | none => rfl
  | some updates =>
    dsimp only
    split
    · rfl
    split
    · rfl
    · rfl

private theorem ipcRxControlled_application (answer : ApplicationAnswer) (sending : AemSending) :
    (entity.ipcRxControlled config answer sending).2.application =
      if !answer.unsolicited && (entity.answered answer).isNone then entity.application
      else if (update config answer (entity.answered answer) entity.model).isNone ∨ answer.unsolicited then entity.application
      else entity.application.eraseP fun forwarded =>
        forwarded.sequenceId = answer.sequenceId && forwarded.controllerId = answer.controllerId := by
  unfold ipcRxControlled answered
  dsimp only
  generalize (if answer.unsolicited then none else entity.findController answer.sequenceId answer.controllerId) = forwarded
  split
  · rfl
  cases updated : update config answer forwarded entity.model with
  | none => rfl
  | some updates =>
    rw [Option.isNone_some]
    simp only [Bool.false_eq_true,false_or]
    split
    · rfl
    split
    · rfl
    · rfl

theorem rcv_congr {first second : AemEntity} (model : first.model = second.model)
    (application : first.application = second.application) (input : AemInput) :
    (first.rcv config input).2.model = (second.rcv config input).2.model ∧
      (first.rcv config input).2.application = (second.rcv config input).2.application := by
  cases input with
  | command received sending =>
    unfold rcv
    rw [receivedControllerCommand_model,receivedControllerCommand_model,receivedControllerCommand_application,
      receivedControllerCommand_application]
    unfold forward
    rw [model,application]
    exact ⟨rfl,rfl⟩
  | answer answer sending =>
    unfold rcv
    rw [ipcRxControlled_model,ipcRxControlled_model,ipcRxControlled_application,ipcRxControlled_application]
    unfold answered findController
    rw [model,application]
    exact ⟨rfl,rfl⟩
  | applicationTimeout position restarted =>
    cases restarted with
    | false => exact ⟨model,congrArg (·.eraseIdx position) application⟩
    | true => exact ⟨model,application⟩
  | lockTimeout sending =>
    unfold rcv lockTimeout
    dsimp only
    rw [model]
    split
    · exact ⟨model,application⟩
    split
    · exact ⟨rfl,application⟩
    · exact ⟨rfl,application⟩
  | asyncNotification | registration => exact ⟨model,application⟩
  | acmp desc stream => 
    unfold rcv
    rw [model]
    exact ⟨rfl,application⟩

private theorem answer_holders (answer : ApplicationAnswer) (sending : AemSending) :
    (entity.ipcRxControlled config answer sending).2.model.holders = entity.model.holders := by
  rw [ipcRxControlled_model]
  split
  · rfl
  cases updated : update config answer (entity.answered answer) entity.model with
  | none => rfl
  | some updates => exact update_holders updated

theorem rcv_exclusive (exclusive : entity.model.Exclusive) {input : AemInput}
    (refused : ∀ received sending, input = .command received sending → sending.buffer = true →
      entity.model.Guarded received.controllerId → ¬(config.milanMode = false ∧
        received.command = .acquireEntity .entity false ∧ entity.model.acquireStatus = false)) :
    (entity.rcv config input).2.model.Exclusive := by
  cases input with
  | command received sending =>
    unfold rcv
    rw [receivedControllerCommand_model]
    split
    next buffer => exact exclusive.handle (refused received sending rfl buffer)
    · exact exclusive
  | answer answer sending => exact exclusive.of_holders (answer_holders answer sending)
  | applicationTimeout position restarted =>
    cases restarted with
    | false | true => exact exclusive
  | lockTimeout sending =>
    unfold rcv lockTimeout
    dsimp only
    split
    · exact exclusive
    split
    · exact fun locked => absurd locked Bool.false_ne_true
    · exact fun locked => absurd locked Bool.false_ne_true
  | asyncNotification | acmp | registration => exact exclusive

theorem rcv_acquireStatus (milan : config.milanMode = true) (input : AemInput) :
    (entity.rcv config input).2.model.acquireStatus = entity.model.acquireStatus := by
  cases input with
  | command received sending =>
    unfold rcv
    rw [receivedControllerCommand_model]
    split
    · exact handle_acquireStatus milan received.command
    · rfl
  | answer answer sending => exact congrArg (·.2.2.2.1) (answer_holders answer sending)
  | applicationTimeout position restarted =>
    cases restarted with
    | false | true => rfl
  | lockTimeout sending =>
    unfold rcv lockTimeout
    dsimp only
    split
    · rfl
    · rfl
  | asyncNotification | acmp | registration => rfl

end AemEntity

def AvdeccInput.command : AvdeccInput → Option UInt64
  | .aecp (.command received _) => some received.controllerId
  | .aecp (.registration (.command _ controllerId _ _ _)) => some controllerId
  | .ieee (.listener (.connectRxCommand pdu)) => some pdu.controllerEntityId
  | .ieee (.listener (.disconnectRxCommand pdu _)) => some pdu.controllerEntityId
  | .ieee (.listener (.getRxStateCommand pdu)) => some pdu.controllerEntityId
  | .ieee (.talker .getTxState pdu _) => some pdu.controllerEntityId
  | .ieee (.talker .getTxConnection pdu _) => some pdu.controllerEntityId
  | .listener (.sink (.bindRxCommand pdu)) => some pdu.controllerEntityId
  | .listener (.sink (.unbindRxCommand pdu)) => some pdu.controllerEntityId
  | .listener (.sink (.getRxStateCommand pdu)) => some pdu.controllerEntityId
  | .bindRxCommand pdu _ => some pdu.controllerEntityId
  | _ => none

namespace AvdeccEntity
variable (config : AvdeccConfig)

structure SameModel (first second : AvdeccEntity) : Prop where
  model : first.aem.model = second.aem.model
  streamInputs : first.ieee.streamInputs = second.ieee.streamInputs
  streamOutputs : first.ieee.streamOutputs = second.ieee.streamOutputs
  sinks : first.listener.sinks = second.listener.sinks
  talkers : first.talkers = second.talkers

structure Alike (first second : AvdeccEntity) : Prop where
  model : first.aem.model = second.aem.model
  application : first.aem.application = second.aem.application
  ieee : first.ieee = second.ieee
  listener : first.listener = second.listener
  talkers : first.talkers = second.talkers

def completes (input : AvdeccInput) (entity : AvdeccEntity) : Option UInt64 :=
  match input with
  | .aecp (.answer answer _) => (entity.aem.answered answer).map ForwardedCommand.controllerId
  | .ieee (.listener (.connectTxResponse pdu _ _)) =>
    match entity.ieee.acmp.inflightFind pdu.sequenceId with
    | some entry =>
      if entry.msgType = .connectTx && entry.pdu.flags &&& ACMP_FLAG_FAST_CONNECT = 0 then some entry.pdu.controllerEntityId
      else none
    | none => none
  | _ => none

def Guarded (controllerId : UInt64) (entity : AvdeccEntity) : Prop := entity.aem.model.Guarded controllerId

/-- The command is one that the entity does not refuse to a controller that does not hold it. -/
def Unchecked (entity : AvdeccEntity) : AvdeccInput → Prop
  | .aecp (.command received sending) =>
    sending.buffer = true ∧ config.aem.milanMode = false ∧ received.command = .acquireEntity .entity false ∧
      entity.aem.model.acquireStatus = false
  | .ieee (.listener (.connectRxCommand pdu)) =>
    config.aem.milanMode = false ∧ pdu.listenerUniqueId.toNat < config.ieee.maxListenerStreams ∧
      (entity.ieee.streamInputs pdu.listenerUniqueId.toNat).info.listenerConnected pdu = false
  | .ieee (.listener (.disconnectRxCommand pdu _)) =>
    config.aem.milanMode = false ∧ pdu.listenerUniqueId.toNat < config.ieee.maxListenerStreams ∧
      (entity.ieee.streamInputs pdu.listenerUniqueId.toNat).info.listenerConnectedTo pdu = true
  | _ => False

/-- The answer of the application or of the talker changes a descriptor. -/
def Late (entity : AvdeccEntity) : AvdeccInput → Prop
  | .aecp (.answer answer _) =>
    answer.success = true ∧
      match answer.message with
      | .setControl desc values =>
        config.aem.descriptors desc = true ∧ ∃ control,
          (entity.aem.model.control desc).pduToDesc (controlValues values (entity.aem.answered answer)) =
            some (control,true)
      | .startStreaming desc =>
        config.aem.milanMode = true ∧ desc.type = .streamInput ∧ config.aem.descriptors desc = true ∧
          entity.aem.model.streams desc = ⟨true,true⟩
      | .stopStreaming desc =>
        config.aem.milanMode = true ∧ desc.type = .streamInput ∧ config.aem.descriptors desc = true ∧
          entity.aem.model.streams desc = ⟨true,false⟩
      | _ => False
  | .ieee (.listener (.connectTxResponse pdu status _)) =>
    config.aem.milanMode = false ∧ pdu.listenerUniqueId.toNat < config.ieee.maxListenerStreams ∧ status = .success ∧
      (entity.ieee.streamInputs pdu.listenerUniqueId.toNat).info.connected = false
  | _ => False

structure Respected (entity : AvdeccEntity) (input : AvdeccInput) : Prop where
  checked : ∀ controllerId, input.command = some controllerId → entity.Guarded controllerId → ¬entity.Unchecked config input
  punctual : ∀ controllerId, entity.completes input = some controllerId → entity.Guarded controllerId → ¬entity.Late config input

/-- What the lock and the acquisition are to ensure in a step: of a command of another controller than the
holder only the response is sent, and none is carried out later. -/
structure Protected (entity : AvdeccEntity) (input : AvdeccInput) : Prop where
  refuses : ∀ controllerId, input.command = some controllerId → entity.Guarded controllerId →
    (entity.step config input).Alike entity
  completes : ∀ controllerId, entity.completes input = some controllerId → entity.Guarded controllerId →
    (entity.step config input).SameModel entity
  exclusive : (entity.step config input).aem.model.Exclusive
  timed : (entity.step config input).aem.model.LockTimed

def refused (entity : AvdeccEntity) (input : AvdeccInput) : Bool :=
  input.command.any fun controllerId => (entity.aem.model.refusal controllerId).isSome

def initial (entity : AvdeccEntity) (maxUnsolicitedRegistrations : Nat) : AvdeccEntity :=
  {entity with aem := .initial entity.aem.model maxUnsolicitedRegistrations}.share config

section Steps
variable {config} {entity first second : AvdeccEntity}

section
variable (alike : first.Alike second)
include alike

theorem Alike.trans {third : AvdeccEntity} (next : second.Alike third) : first.Alike third :=
  ⟨alike.model.trans next.model,alike.application.trans next.application,alike.ieee.trans next.ieee,
    alike.listener.trans next.listener,alike.talkers.trans next.talkers⟩

theorem Alike.symm : second.Alike first :=
  ⟨alike.model.symm,alike.application.symm,alike.ieee.symm,alike.listener.symm,alike.talkers.symm⟩

theorem Alike.same : first.SameModel second :=
  ⟨alike.model,congrArg IeeeEntity.streamInputs alike.ieee,congrArg IeeeEntity.streamOutputs alike.ieee,
    congrArg MilanListener.sinks alike.listener,alike.talkers⟩

theorem Alike.share : (first.share config).Alike (second.share config) := by
  obtain ⟨model,application,ieee,listener,talkers⟩ := alike
  have streams (desc : AemDesc) : first.stream config desc = second.stream config desc := by
    unfold stream
    rw [ieee,listener,talkers]
  refine ⟨?_,application,ieee,?_,talkers⟩
  · unfold AvdeccEntity.share
    rw [model,funext streams]
  · unfold AvdeccEntity.share
    rw [model,listener]

theorem Alike.step (input : AvdeccInput) : (first.step config input).Alike (second.step config input) := by
  apply Alike.share
  obtain ⟨model,application,ieee,listener,talkers⟩ := alike
  cases input with
  | aecp input =>
    obtain ⟨after,waiting⟩ := @rcv_congr config.aem _ _ model application input
    refine ⟨after,waiting,ieee,?_,talkers⟩
    unfold rcv aecpRcv
    dsimp only
    rw [after,model,listener]
  | ieee input =>
    unfold rcv
    dsimp only
    rw [ieee]
    split
    · exact ⟨model,application,ieee,listener,talkers⟩
    · exact ⟨model,application,rfl,listener,talkers⟩
  | listener | bindRxCommand =>
    unfold rcv
    dsimp only
    rw [listener]
    split
    · exact ⟨model,application,ieee,rfl,talkers⟩
    · exact ⟨model,application,ieee,listener,talkers⟩
  | talker index input =>
    unfold rcv
    dsimp only
    rw [talkers]
    split
    · exact ⟨model,application,ieee,listener,rfl⟩
    · exact ⟨model,application,ieee,listener,talkers⟩

end

structure Sound (config : AvdeccConfig) (entity : AvdeccEntity) : Prop where
  timed : entity.aem.model.LockTimed
  exclusive : entity.aem.model.Exclusive
  milan : config.aem.milanMode = true → entity.aem.model.acquireStatus = false
  shared : entity.share config = entity

def SendsOnly (before after : MilanListener) : Prop := ∃ sent, after = {before with sent := sent}

private theorem sendIf_only {listener : MilanListener} (sent : Bool) (message : MilanSent) :
    SendsOnly listener (listener.sendIf sent message) := by
  cases sent with
  | false => exact ⟨listener.sent,rfl⟩
  | true => exact ⟨_,rfl⟩

section Refused
variable {listener : MilanListener} {pdu : AcmpPdu}

section
variable (locked : listener.isLocked pdu.controllerEntityId = true)
include locked

private theorem rcvBindRxFate_only (fate : BindFate) : SendsOnly listener (listener.rcvBindRxFate pdu fate) := by
  unfold MilanListener.rcvBindRxFate
  dsimp only
  split
  · exact sendIf_only ..
  · exact sendIf_only ..

theorem rcvBindRx_only : SendsOnly listener (listener.rcvBindRx pdu) := by
  rw [← MilanListener.rcvBindRxFate_sent]
  exact rcvBindRxFate_only locked _

theorem rcvUnbindRx_only : SendsOnly listener (listener.rcvUnbindRx pdu) := by
  unfold MilanListener.rcvUnbindRx
  split
  · exact ⟨_,rfl⟩
  · exact ⟨_,rfl⟩

end

theorem rcvGetRxState_only : SendsOnly listener (listener.rcvGetRxState pdu) := by
  unfold MilanListener.rcvGetRxState MilanListener.sinkSm
  split
  · exact ⟨_,rfl⟩
  dsimp only
  cases (listener.sinks pdu.listenerUniqueId).state with
  | _ => exact ⟨_,rfl⟩

end Refused

variable {controllerId : UInt64}

theorem Sound.isLocked (sound : entity.Sound config) (milan : config.aem.milanMode = true)
    (guarded : entity.Guarded controllerId) : entity.listener.isLocked controllerId = true := by
  have lock : entity.listener.lock = entity.aem.model.lockHolder := by
    rw [← sound.shared]
    rfl
  obtain ⟨acquired,_⟩ | ⟨locked,other⟩ := guarded_iff.mp guarded
  · exact absurd (acquired.symm.trans (sound.milan milan)) (by decide)
  · unfold MilanListener.isLocked
    rw [lock,lockHolder,locked,if_pos rfl]
    exact decide_eq_true other

theorem Alike.refl (entity : AvdeccEntity) : entity.Alike entity := ⟨rfl,rfl,rfl,rfl,rfl⟩

theorem Sound.alike (sound : entity.Sound config) {after : AvdeccEntity} (model : after.aem.model = entity.aem.model)
    (application : after.aem.application = entity.aem.application) (ieee : after.ieee = entity.ieee)
    (listener : SendsOnly entity.listener after.listener) (talkers : after.talkers = entity.talkers) :
    (after.share config).Alike entity := by
  obtain ⟨sent,listener⟩ := listener
  have alike : after.Alike {entity with listener := {entity.listener with sent := sent}} :=
    ⟨model,application,ieee,listener,talkers⟩
  have same : ({entity with listener := {entity.listener with sent := sent}} : AvdeccEntity).share config =
      entity.share config := rfl
  have shared := @Alike.share config _ _ alike
  rw [same,sound.shared] at shared
  exact shared

theorem SendsOnly.refl (listener : MilanListener) : SendsOnly listener listener := ⟨listener.sent,rfl⟩

private theorem listenerRcv_refused {ieee : IeeeEntityConfig} {entity : IeeeEntity} {input : ListenerInput} {pdu : AcmpPdu}
    (message : input.message = some pdu) (refused : pdu.listenerUniqueId.toNat < ieee.maxListenerStreams →
      ((entity.listener pdu.listenerUniqueId.toNat).rcv input).2 = entity.listener pdu.listenerUniqueId.toNat) :
    (entity.listenerRcv ieee input).2 = entity := by
  unfold listenerRcv
  rw [message]
  dsimp only
  split
  next valid =>
    rw [refused valid]
    unfold modifyStreamInput IeeeEntity.listener
    rw [Function.update_eq_self]
  · rfl

private theorem talkerRcv_refused {ieee : IeeeEntityConfig} {entity : IeeeEntity} {message : TalkerMessage} {pdu : AcmpPdu}
    {calls : StackCalls}
    (refused : ∀ talker : IeeeTalker, (talker.rcv (ieee.talkers pdu.talkerUniqueId.toNat) (message.talkerCommand pdu,calls)).2 =
      talker) : (entity.talkerRcv ieee message pdu calls).2 = entity := by
  unfold talkerRcv
  dsimp only
  split
  · dsimp only
    rw [refused,Function.update_eq_self]
  · rfl

variable {input : AvdeccInput}

theorem Sound.command (sound : entity.Sound config)
    (command : input.command = some controllerId) (guarded : entity.Guarded controllerId)
    (refused : ¬entity.Unchecked config input) : (entity.step config input).Alike entity := by
  unfold step
  cases input with
  | aecp input =>
    cases input with
    | command received sending =>
      cases command
      apply sound.alike
      · unfold rcv aecpRcv AemEntity.rcv
        rw [AemEntity.receivedControllerCommand_model]
        split
        next buffer =>
          apply handle_guarded sound.exclusive guarded
          rintro ⟨ieee,acquires,free⟩
          exact refused ⟨buffer,ieee,acquires,free⟩
        · rfl
      · unfold rcv aecpRcv AemEntity.rcv
        rw [AemEntity.receivedControllerCommand_application]
        split
        · unfold AemEntity.forward
          split
          next command _ =>
            obtain ⟨status,refused⟩ := @checkApplicationCommand_guarded config.aem _ _ guarded command
            rw [refused]
          · rfl
        · rfl
      · rfl
      · exact .refl _
      · rfl
    | registration registration => exact sound.alike rfl rfl rfl (.refl _) rfl
    | _ => cases command
  | ieee input =>
    unfold rcv
    dsimp only
    split
    · exact sound.alike rfl rfl rfl (.refl _) rfl
    next ieee =>
      have ieee := Bool.eq_false_of_not_eq_true ieee
      refine sound.alike rfl rfl ?_ (.refl _) rfl
      cases input with
      | listener input =>
        cases input with
        | connectRxCommand pdu =>
          apply listenerRcv_refused rfl
          intro valid
          have exclusive : (entity.ieee.streamInputs pdu.listenerUniqueId.toNat).info.listenerConnected pdu = true := by
            by_contra free
            exact refused ⟨ieee,valid,Bool.eq_false_of_not_eq_true free⟩
          unfold IeeeListener.rcv IeeeEntity.listener
          dsimp only
          rw [exclusive]
          rfl
        | disconnectRxCommand pdu stackDisconnect =>
          apply listenerRcv_refused rfl
          intro valid
          unfold IeeeListener.rcv IeeeEntity.listener
          dsimp only
          split
          next connected => exact absurd ⟨ieee,valid,connected⟩ refused
          · rfl
        | getRxStateCommand pdu =>
          apply listenerRcv_refused rfl
          intro _
          rfl
        | _ => cases command
      | talker message pdu calls =>
        cases message with
        | getTxState =>
          apply talkerRcv_refused
          intro talker
          rfl
        | getTxConnection =>
          apply talkerRcv_refused
          intro talker
          unfold IeeeTalker.rcv TalkerMessage.talkerCommand
          dsimp only
          split
          · rfl
          · rfl
        | _ => cases command
      | _ => cases command
  | listener input =>
    unfold rcv
    dsimp only
    split
    next milan =>
      refine sound.alike rfl rfl rfl ?_ rfl
      cases input with
      | sink input =>
        have locked := sound.isLocked milan guarded
        cases input with
        | bindRxCommand pdu =>
          cases command
          exact rcvBindRx_only locked
        | unbindRxCommand pdu =>
          cases command
          exact rcvUnbindRx_only locked
        | getRxStateCommand pdu => exact rcvGetRxState_only
        | _ => cases command
      | _ => cases command
    · exact sound.alike rfl rfl rfl (.refl _) rfl
  | bindRxCommand pdu fate =>
    cases command
    unfold rcv
    dsimp only
    split
    next milan => exact sound.alike rfl rfl rfl (rcvBindRxFate_only (sound.isLocked milan guarded) fate) rfl
    · exact sound.alike rfl rfl rfl (.refl _) rfl
  | talker index input => cases command

theorem Sound.same (sound : entity.Sound config) {after : AvdeccEntity} (model : after.aem.model = entity.aem.model)
    (streamInputs : after.ieee.streamInputs = entity.ieee.streamInputs)
    (streamOutputs : after.ieee.streamOutputs = entity.ieee.streamOutputs)
    (sinks : after.listener.sinks = entity.listener.sinks) (talkers : after.talkers = entity.talkers) :
    (after.share config).SameModel entity := by
  have streams (desc : AemDesc) : after.stream config desc = entity.stream config desc := by
    unfold stream
    rw [streamInputs,streamOutputs,sinks,talkers]
  refine ⟨?_,streamInputs,streamOutputs,sinks,talkers⟩
  have shared := congrArg (fun entity : AvdeccEntity => entity.aem.model) sound.shared
  unfold share at shared ⊢
  rw [model,funext streams]
  exact shared

theorem streaming_true {aem : AemConfig} {model after : AemModel} {desc : AemDesc} {wait : Bool}
    (streamed : model.streaming aem desc wait = some (after,true)) :
    aem.milanMode = true ∧ desc.type = .streamInput ∧ aem.descriptors desc = true ∧ model.streams desc = ⟨true,!wait⟩ := by
  unfold streaming milanStreaming at streamed
  split at streamed
  next milan =>
    split at streamed
    · cases streamed
    next input =>
      split at streamed
      · cases streamed
      next known =>
        split at streamed
        next waits =>
          refine ⟨milan,not_not.mp input,by simpa using known,?_⟩
          rw [Bool.and_eq_true,decide_eq_true_iff] at waits
          obtain ⟨running,waiting⟩ := waits
          cases stream : model.streams desc with
          | mk runs waits =>
            rw [stream] at running waiting
            obtain rfl : runs = true := running
            obtain rfl : waits = !wait := Bool.eq_not_of_ne waiting
            rfl
        · cases streamed
  · cases streamed

theorem update_punctual {answer : ApplicationAnswer} {sending : AemSending} {after : AemModel} {changed : Bool}
    (punctual : ¬entity.Late config (.aecp (.answer answer sending)))
    (updated : AemEntity.update config.aem answer (entity.aem.answered answer) entity.aem.model = some (after,changed)) :
    after = entity.aem.model := by
  unfold AemEntity.update at updated
  cases success : answer.success with
  | false =>
    rw [success] at updated
    cases message : answer.message with
    | setControl desc values =>
      rw [message] at updated
      dsimp only at updated
      split at updated
      · cases updated
      rw [if_neg Bool.false_ne_true] at updated
      split at updated
      · cases updated
      · cases updated
        rfl
    | _ =>
      rw [message] at updated
      cases updated
      rfl
  | true =>
    unfold Late at punctual
    dsimp only at punctual
    rw [success,and_iff_right rfl] at punctual
    rw [success] at updated
    cases message : answer.message with
    | setControl desc values =>
      rw [message] at updated punctual
      dsimp only at updated punctual
      split at updated
      · cases updated
      next known =>
        rw [if_pos rfl] at updated
        split at updated
        next control flag written =>
          cases updated
          by_contra differs
          have changed := (setControl_changed written).mpr differs
          exact punctual ⟨by simpa using known,control,changed ▸ written⟩
        · cases updated
    | startStreaming | stopStreaming =>
      rw [message] at updated punctual
      by_contra differs
      have changed := (streaming_changed updated).mpr differs
      exact punctual (streaming_true (changed ▸ updated))
    | audioMappings | other =>
      rw [message] at updated
      cases updated
      rfl

theorem answer_model {answer : ApplicationAnswer} {sending : AemSending}
    (punctual : ¬entity.Late config (.aecp (.answer answer sending))) :
    (entity.aem.rcv config.aem (.answer answer sending)).2.model = entity.aem.model := by
  unfold AemEntity.rcv
  rw [AemEntity.ipcRxControlled_model]
  split
  · rfl
  cases updated : AemEntity.update config.aem answer (entity.aem.answered answer) entity.aem.model with
  | none => rfl
  | some updates => exact update_punctual punctual updated

private theorem setStreaming_same {before after : AemModel} (same : after = before) (desc : AemDesc) (wait : Bool)
    (listener : MilanListener) : setStreaming desc wait before after listener = listener := by
  unfold setStreaming
  rw [same,if_pos rfl]

theorem rcvConnectTxResponse_info {pdu : AcmpPdu} {status : AcmpStatus} {stackConnect : Bool} {listener : IeeeListener}
    (kept : status = .success → listener.info.connected = true) :
    (listener.rcvConnectTxResponse pdu status stackConnect).2.info = listener.info := by
  unfold IeeeListener.rcvConnectTxResponse
  split
  next statusRsp info updated =>
    split at updated
    next success =>
      unfold ListenerStreamInfo.connect at updated
      rw [if_pos (kept success)] at updated
      cases updated
      rfl
    · 
      cases updated
      rfl

theorem Sound.completed (sound : entity.Sound config)
    (completes : entity.completes input = some controllerId) (punctual : ¬entity.Late config input) :
    (entity.step config input).SameModel entity := by
  unfold step
  cases input with
  | aecp input =>
    cases input with
    | answer answer sending =>
      have model := answer_model punctual
      refine sound.same model rfl rfl ?_ rfl
      unfold rcv aecpRcv
      dsimp only
      split
      · rw [setStreaming_same model]
      · rw [setStreaming_same model]
      · rfl
    | _ => cases completes
  | ieee input =>
    cases input with
    | listener input =>
      cases input with
      | connectTxResponse pdu status stackConnect =>
        unfold rcv
        dsimp only
        split
        · exact sound.same rfl rfl rfl rfl rfl
        next ieee =>
          have ieee := Bool.eq_false_of_not_eq_true ieee
          unfold IeeeEntity.rcv listenerRcv ListenerInput.message
          dsimp only
          split
          next valid =>
            refine sound.same rfl ?_ rfl rfl rfl
            have info := @rcvConnectTxResponse_info pdu status stackConnect
              (entity.ieee.listener pdu.listenerUniqueId.toNat) fun success => by
                by_contra free
                exact punctual ⟨ieee,valid,success,Bool.eq_false_of_not_eq_true free⟩
            unfold IeeeListener.rcv modifyStreamInput
            rw [info]
            exact Function.update_eq_self ..
          · exact sound.same rfl rfl rfl rfl rfl
      | _ => cases completes
    | _ => cases completes
  | _ => cases completes

private theorem share_share (entity : AvdeccEntity) : (entity.share config).share config = entity.share config := rfl

theorem Sound.step (sound : entity.Sound config) (respected : entity.Respected config input) :
    (entity.step config input).Sound config := by
  have shared : (entity.step config input).share config = entity.step config input := share_share _
  cases input with
  | aecp input =>
    refine ⟨rcv_timed sound.timed input,?_,fun milan => ?_,shared⟩
    · apply rcv_exclusive sound.exclusive
      rintro received sending rfl buffer guarded ⟨ieee,acquires,free⟩
      exact respected.checked received.controllerId rfl guarded ⟨buffer,ieee,acquires,free⟩
    · exact (rcv_acquireStatus milan input).trans (sound.milan milan)
  | ieee input =>
    unfold AvdeccEntity.step rcv at shared ⊢
    dsimp only at shared ⊢
    split
    · exact ⟨sound.timed,sound.exclusive,sound.milan,share_share _⟩
    · exact ⟨sound.timed,sound.exclusive,sound.milan,share_share _⟩
  | listener | bindRxCommand | talker =>
    unfold AvdeccEntity.step rcv
    dsimp only
    split
    · exact ⟨sound.timed,sound.exclusive,sound.milan,share_share _⟩
    · exact ⟨sound.timed,sound.exclusive,sound.milan,share_share _⟩

theorem initial_sound (config : AvdeccConfig) (entity : AvdeccEntity) (maxRegistrations : Nat) :
    (initial config entity maxRegistrations).Sound config :=
  ⟨rfl,nofun,fun _ => rfl,share_share _⟩

theorem Sound.protected_step (sound : entity.Sound config) (respected : entity.Respected config input) :
    entity.Protected config input := by
  have after := sound.step respected
  refine ⟨?_,?_,after.exclusive,after.timed⟩
  · intro controllerId command guarded
    exact sound.command command guarded (respected.checked controllerId command guarded)
  · intro controllerId completes guarded
    exact sound.completed completes (respected.punctual controllerId completes guarded)

theorem Sound.refused (sound : entity.Sound config) (respected : entity.Respected config input)
    (refused : entity.refused input = true) : (entity.step config input).Alike entity := by
  unfold AvdeccEntity.refused at refused
  cases command : input.command with
  | none =>
    rw [command] at refused
    cases refused
  | some controllerId =>
    rw [command] at refused
    have guarded : entity.Guarded controllerId := Option.isSome_iff_ne_none.mp refused
    exact sound.command command guarded (respected.checked controllerId command guarded)

private theorem run_without_refused {inputs : List AvdeccInput} (sound : entity.Sound config)
    (respected : Steps (AvdeccEntity.step config) (Respected config) inputs entity) :
    (run (AvdeccEntity.step config) inputs entity).Alike
      (run (AvdeccEntity.step config) (without (AvdeccEntity.step config) AvdeccEntity.refused inputs entity) entity) :=
  @run_without _ _ (AvdeccEntity.step config) AvdeccEntity.refused (Respected config) (Sound config) Alike
    (fun _ _ _ first second => first.trans second) (fun input _ _ alike => alike.step input)
    (fun _ _ sound respected refused => sound.refused respected refused)
    (fun _ _ sound respected => sound.step respected) _ _ _ sound (.refl entity) respected

/-- In a run in which the lock is respected, it protects the entity, and the commands that are refused could
be left out. -/
theorem lock_protects (config : AvdeccConfig) (entity : AvdeccEntity) (maxRegistrations : Nat)
    (inputs : List AvdeccInput)
    (respected : Steps (step config) (Respected config) inputs (initial config entity maxRegistrations)) :
    Steps (step config) (Protected config) inputs (initial config entity maxRegistrations) ∧
      ∀ others, Steps (step config) (Respected config) others (initial config entity maxRegistrations) →
        without (step config) refused others (initial config entity maxRegistrations) =
          without (step config) refused inputs (initial config entity maxRegistrations) →
        (run (step config) inputs (initial config entity maxRegistrations)).SameModel
          (run (step config) others (initial config entity maxRegistrations)) := by
  have sound := initial_sound config entity maxRegistrations
  constructor
  · exact steps_kept (step config) (fun _ _ sound respected => ⟨sound.step respected,sound.protected_step respected⟩)
      sound respected
  · intro others respectedOthers same
    have left := run_without_refused sound respectedOthers
    rw [same] at left
    exact ((run_without_refused sound respected).trans left.symm).same

end Steps

def ieeeConfig : AvdeccConfig where
  aem := {NotifiedEntity.milanConfig with milanMode := false}
  ieee := {
    entityId := 100
    fastConnectMode := false
    fastConnectBtb := false
    maxListenerStreams := 1
    maxTalkerStreams := 0
    avbInterfaceIndex := fun _ => 0
    talkers := fun _ => ⟨1,by decide,[],[],true,true,none⟩}

def blankEntity : AvdeccEntity where
  aem := .initial NotifiedEntity.blankModel 0
  ieee := .acmpInit (fun _ => ⟨⟨0,0,0,0,⟨0,0,0,0,0,0⟩,0,0,false,false⟩,false,false⟩)
    (fun _ => .acmpIeeeInit ⟨1,by decide,[],[],true,true,none⟩ ⟨0,⟨0,0,0,0,0,0⟩,0,⟨⟨0,0,0,0,0,0⟩,[]⟩⟩) 4
  listener := .acmpMilanInit 100 1 4 none
  talkers _ := .acmpMilanInit 0 0 ⟨0,0,0,0,0,0⟩

def aemCommand (controllerId : UInt64) (command : AemCommand) : AvdeccInput :=
  .aecp (.command ⟨command,controllerId,0,0⟩ ⟨true,true,true,true,fun _ => true⟩)

def refusedName : List AvdeccInput :=
  [aemCommand 1 (.lockEntity .entity false),aemCommand 2 (.setName ⟨.entity,0⟩ 0 0 [0x61])]

theorem refusedName_protected :
    Steps (step ieeeConfig) (Protected ieeeConfig) refusedName (initial ieeeConfig blankEntity 0) := by
  refine (lock_protects ieeeConfig blankEntity 0 refusedName ⟨⟨?_,nofun⟩,⟨?_,nofun⟩,trivial⟩).1
  · rintro _ _ _ ⟨_,_,acquires,_⟩
    cases acquires
  · rintro _ _ _ ⟨_,_,acquires,_⟩
    cases acquires

/-- One controller locks the entity, and another one acquires it. -/
theorem acquired_unprotected :
    ¬Steps (step ieeeConfig) (Protected ieeeConfig)
      [aemCommand 1 (.lockEntity .entity false),aemCommand 2 (.acquireEntity .entity false)]
      (initial ieeeConfig blankEntity 0) := by
  intro steps
  have holder : (1 : UInt64) = 2 := steps.2.1.exclusive rfl rfl
  exact absurd holder (by decide)

end AvdeccEntity

end Genavb.Avdecc
