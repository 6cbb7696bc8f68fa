import Genavb.Avdecc.AemHandlers
import Genavb.Avdecc.UnsolicitedRegistrations

/-! The notifications over the runs of an entity: in which of them every change that a controller makes is
notified to each of the others, and the sequence ids of a registration are consecutive. -/
namespace Genavb.Avdecc
open Support AecpCtx AemModel List

theorem takeWhile_eq_filter_iff {α : Type} {sent : α → Bool} {items : List α} :
    items.takeWhile sent = items.filter sent ↔ items.Pairwise fun first second => sent second = true → sent first = true := by
  induction items with
  | nil => exact iff_of_true rfl .nil
  | cons first rest ih =>
    rw [pairwise_cons]
    by_cases reached : sent first = true
    · rw [takeWhile_cons_of_pos reached,filter_cons_of_pos reached,cons_inj_right,ih]
      exact (and_iff_right fun _ _ _ => reached).symm
    · rw [takeWhile_cons_of_neg reached,filter_cons_of_neg reached,eq_comm,filter_eq_nil_iff]
      constructor
      · intro none
        exact ⟨fun item member sent => absurd sent (none item member),
          pairwise_of_forall_mem_list fun _ _ item member sent => absurd sent (none item member)⟩
      · rintro ⟨none,_⟩ item member sent
        exact reached (none item member sent)

namespace AecpCtx

def others (controllerId : UInt64) (entries : List Nat) (aecp : AecpCtx) : List Nat :=
  entries.filter fun entry => (aecp.contexts entry).controllerId ≠ controllerId

def advance (entries : List Nat) (aecp : AecpCtx) : AecpCtx :=
  {aecp with contexts := fun entry =>
    if entry ∈ entries then {aecp.contexts entry with sequenceId := (aecp.contexts entry).sequenceId + 1}
    else aecp.contexts entry}

section Loop
variable {aecp : AecpCtx} {sent : Nat → Bool} {controllerId : UInt64} {entry : Nat} {entries : List Nat}

private theorem advance_nil : aecp.advance [] = aecp := by
  simp [advance]

theorem advance_cons (apart : entry ∉ entries) :
    (aecp.modifyContext entry fun context => {context with sequenceId := context.sequenceId + 1}).advance entries =
      aecp.advance (entry :: entries) := by
  unfold advance
  congr 1
  ext1 other
  by_cases here : other = entry
  · rw [here,if_neg apart,if_pos mem_cons_self,modifyContext_same]
  · rw [modifyContext_other here]
    simp only [mem_cons,here,false_or]

theorem others_advance :
    (aecp.modifyContext entry fun context => {context with sequenceId := context.sequenceId + 1}).others controllerId entries =
      aecp.others controllerId entries := by
  unfold others
  congr 1
  ext1 other
  by_cases here : other = entry
  · rw [here,modifyContext_same]
  · rw [modifyContext_other here]

theorem notifyEach_reached (once : entries.Nodup) :
    aecp.notifyEach sent controllerId entries =
      (((aecp.others controllerId entries).takeWhile sent).map fun entry => aecp.notification entry,
        aecp.advance ((aecp.others controllerId entries).takeWhile sent)) := by
  induction entries generalizing aecp with
  | nil => rw [notifyEach,others,filter_nil,takeWhile_nil,advance_nil,map_nil]
  | cons entry rest ih =>
    obtain ⟨apart,once⟩ := nodup_cons.mp once
    rw [notifyEach]
    by_cases own : (aecp.contexts entry).controllerId = controllerId
    · rw [if_pos own,ih once,others,others,filter_cons_of_neg (by simpa using own)]
    · have split : aecp.others controllerId (entry :: rest) = entry :: aecp.others controllerId rest :=
        filter_cons_of_pos (by simpa using own)
      rw [if_neg own,split]
      cases first : sent entry with
      | false =>
        rw [takeWhile_cons_of_neg (by rw [first]; exact Bool.false_ne_true),advance_nil]
        rfl
      | true =>
        have left : entry ∉ (aecp.others controllerId rest).takeWhile sent := fun present =>
          apart (mem_of_mem_filter ((takeWhile_subset sent) present))
        rw [takeWhile_cons_of_pos first,ih once,others_advance,advance_cons left,map_cons]
        dsimp only
        rw [if_neg (by decide)]
        congr 2
        apply map_congr_left
        intro other present
        have here : other ≠ entry := by
          rintro rfl
          exact left present
        unfold notification
        rw [modifyContext_other here]

theorem advance_sequenceId (entry : Nat) :
    ((aecp.advance entries).contexts entry).sequenceId =
      if entry ∈ entries then (aecp.contexts entry).sequenceId + 1 else (aecp.contexts entry).sequenceId := by
  unfold advance
  dsimp only
  split
  · rfl
  · rfl

private theorem restartMonitor_sequenceId {portId : Nat} (entry : Nat) :
    ((aecp.restartMonitor controllerId portId).contexts entry).sequenceId = (aecp.contexts entry).sequenceId := by
  unfold restartMonitor
  split
  · rfl
  next owner _ =>
    by_cases here : entry = owner
    · rw [here,modifyContext_same]
    · rw [modifyContext_other here]

end Loop

section Registration
variable {maxRegistrations : Nat} {aecp after : AecpCtx} {controllerId : UInt64} {portId entry : Nat}

structure Renewed (maxRegistrations : Nat) (aecp after : AecpCtx) : Prop where
  conserved : Partition (· < maxRegistrations) after.places
  sequenceId : ∀ entry, entry ∈ after.places .registered →
    (entry ∈ aecp.places .registered ∧ (after.contexts entry).sequenceId = (aecp.contexts entry).sequenceId) ∨
      (entry ∉ aecp.places .registered ∧ (after.contexts entry).sequenceId = 0)

theorem Renewed.of_same {between : AecpCtx} (renewed : Renewed maxRegistrations aecp between)
    (places : after.places = between.places)
    (sequenceId : ∀ entry, (after.contexts entry).sequenceId = (between.contexts entry).sequenceId) :
    Renewed maxRegistrations aecp after := by
  refine ⟨places ▸ renewed.conserved,fun entry member => ?_⟩
  rw [places] at member
  rw [sequenceId]
  exact renewed.sequenceId entry member

theorem Renewed.refl (conserved : Partition (· < maxRegistrations) aecp.places) : Renewed maxRegistrations aecp aecp :=
  ⟨conserved,fun _ member => .inl ⟨member,rfl⟩⟩

theorem Renewed.restart (renewed : Renewed maxRegistrations aecp after) (controllerId : UInt64) (portId : Nat) :
    Renewed maxRegistrations aecp (after.restartMonitor controllerId portId) :=
  renewed.of_same restartMonitor_places restartMonitor_sequenceId

private theorem modifyContext_sequenceId (change : UnsolicitedCtx → UnsolicitedCtx)
    (same : ∀ context, (change context).sequenceId = context.sequenceId) (other : Nat) :
    ((aecp.modifyContext entry change).contexts other).sequenceId = (aecp.contexts other).sequenceId := by
  by_cases here : other = entry
  · rw [here,modifyContext_same,same]
  · rw [modifyContext_other here]

section
variable (conserved : Partition (· < maxRegistrations) aecp.places)
include conserved

private theorem unsolicitedRemove_renewed : Renewed maxRegistrations aecp (aecp.unsolicitedRemove controllerId portId) := by
  unfold unsolicitedRemove
  split
  · exact .refl conserved
  next entry found =>
    have inside : entry < maxRegistrations := (conserved.all entry).mpr ⟨.registered,(unsolicitedFind_some found).1⟩
    refine ⟨conserved.relocate inside,fun other member => .inl ?_⟩
    have member : other ∈ relocate entry UnsolicitedPlace.free aecp.places .registered := member
    rw [relocate_other (by decide)] at member
    exact ⟨mem_of_mem_erase member,
      modifyContext_sequenceId ({· with timerCreated := false,timerRunning := false}) (fun _ => rfl) other⟩

theorem unsolicitedAdd_renewed (timerCreated : Bool) (macDst : Maap.MacAddress) :
    Renewed maxRegistrations aecp (aecp.unsolicitedAdd timerCreated macDst controllerId portId).2 := by
  unfold unsolicitedAdd
  split
  · exact (Renewed.refl conserved).of_same rfl (modifyContext_sequenceId ({· with macDst := macDst}) fun _ => rfl)
  split
  · exact .refl conserved
  next entry rest first =>
    have free : entry ∈ aecp.places .free := first ▸ mem_cons_self
    have inside : entry < maxRegistrations := (conserved.all entry).mpr ⟨.free,free⟩
    refine ⟨conserved.relocate inside,fun other member => ?_⟩
    have member : other ∈ relocate entry UnsolicitedPlace.registered aecp.places .registered := member
    rw [mem_relocate conserved.once] at member
    split at member
    next here =>
      right
      rw [here,modifyContext_same]
      refine ⟨fun registered => ?_,rfl⟩
      cases conserved.apart entry _ _ free registered
    next apart =>
      rw [modifyContext_other apart]
      exact .inl ⟨member,rfl⟩

theorem unsolicitedStep_renewed (input : UnsolicitedInput) :
    Renewed maxRegistrations aecp (aecp.unsolicitedStep input) := by
  have same := Renewed.refl conserved
  cases input with
  | command command controllerId portId macSrc buffer =>
    cases buffer with
    | false => exact same
    | true =>
      cases command with
      | register timerCreated => exact (unsolicitedAdd_renewed conserved timerCreated macSrc).restart controllerId portId
      | deregister => exact (unsolicitedRemove_renewed conserved).restart controllerId portId
      | other completed =>
        cases completed with
        | false => exact same
        | true => exact same.restart controllerId portId
  | monitorTimer entry buffer context =>
    unfold unsolicitedStep monitorTimerHandler
    dsimp only
    split
    · apply same.of_same
      · cases buffer <;> rfl
      · intro other
        cases buffer <;> exact modifyContext_sequenceId ({· with timerRunning := false}) (fun _ => rfl) other
    · exact same
  | aecpCommand monitors context => exact same.of_same rfl fun _ => rfl
  | networkTimeout position buffer transmitted =>
    unfold unsolicitedStep networkTimeout
    dsimp only
    split
    · exact same
    split
    · cases monitors : NetworkCommand.monitors _ with
      | none => exact same.of_same rfl fun _ => rfl
      | some key =>
        dsimp only
        split
        · exact (unsolicitedRemove_renewed conserved).of_same rfl fun _ => rfl
        · exact same.of_same rfl fun _ => rfl
    · split
      · exact same.of_same rfl fun _ => rfl
      · exact same.of_same rfl fun _ => rfl
  | controllerResponse sequenceId controllerId portId unsolicited =>
    unfold unsolicitedStep receivedControllerResponse
    dsimp only
    split
    · exact same
    split
    · exact same
    · exact (same.restart controllerId portId).of_same rfl fun _ => rfl
  | entityResponse sequenceId unsolicited inProgress =>
    unfold unsolicitedStep receivedEntityResponse
    dsimp only
    split
    · exact same
    split
    · exact same
    · exact same.of_same rfl fun _ => rfl

end

end Registration

section Sends
variable {aecp after : AecpCtx} {sent : Nat → Bool} {controllerId : UInt64} {entries : List Nat}
  {notifications : List Notification}

structure Sends (entries : List Nat) (aecp : AecpCtx) (notifications : List Notification) (after : AecpCtx) : Prop where
  once : entries.Nodup
  told : notifications = entries.map fun entry => aecp.notification entry
  places : after.places = aecp.places
  sequenceId : ∀ entry, (after.contexts entry).sequenceId =
    if entry ∈ entries then (aecp.contexts entry).sequenceId + 1 else (aecp.contexts entry).sequenceId

private theorem sends_nothing : Sends [] aecp [] aecp := ⟨.nil,rfl,rfl,fun _ => rfl⟩

theorem Sends.restart (sends : Sends entries aecp notifications after) (controllerId : UInt64) (portId : Nat) :
    Sends entries aecp notifications (after.restartMonitor controllerId portId) := by
  refine ⟨sends.once,sends.told,restartMonitor_places.trans sends.places,fun entry => ?_⟩
  rw [restartMonitor_sequenceId]
  exact sends.sequenceId entry

private theorem sendUnsolicitedNotification_sends (once : (aecp.places .registered).Nodup) :
    Sends ((aecp.others controllerId (aecp.places .registered)).takeWhile sent) aecp
      (aecp.sendUnsolicitedNotification sent controllerId).1 (aecp.sendUnsolicitedNotification sent controllerId).2 := by
  unfold sendUnsolicitedNotification
  rw [notifyEach_reached once]
  exact ⟨(once.filter _).sublist (takeWhile_sublist _),rfl,rfl,advance_sequenceId⟩

private theorem sendAsyncUnsolicitedNotification_sends (once : (aecp.places .registered).Nodup) (sending : AemSending) :
    ∃ entries, Sends entries aecp (aecp.sendAsyncUnsolicitedNotification sending).1
      (aecp.sendAsyncUnsolicitedNotification sending).2 := by
  unfold sendAsyncUnsolicitedNotification
  split
  · exact ⟨[],sends_nothing⟩
  · exact ⟨_,sendUnsolicitedNotification_sends once⟩

theorem needSyncUnsolicitedNotifications_iff :
    aecp.needSyncUnsolicitedNotifications controllerId = true ↔ aecp.others controllerId (aecp.places .registered) ≠ [] := by
  unfold needSyncUnsolicitedNotifications others
  rw [ne_eq,filter_eq_nil_iff,any_eq_true]
  push Not
  rfl

end Sends

end AecpCtx

structure NotifiedEntity where
  entity : AemEntity
  notified : Nat → List UInt16

def AemInput.Acquires : AemInput → Prop
  | .command received _ => received.command.Acquires
  | _ => False

namespace AemEntity
variable (config : AemConfig)

def initial (model : AemModel) (maxUnsolicitedRegistrations : Nat) : AemEntity where
  model := {model with lockStatus := false,lockTimer := false,acquireStatus := false}
  application := []
  aecp := .unsolicitedInit maxUnsolicitedRegistrations

/-- A command of the controller takes effect: it succeeds and the entity model changes, or for the audio
mappings what the application holds of it. -/
def CarriedOut (controllerId : UInt64) (sending : AemSending) (entity : AemEntity) : AemInput → Prop
  | .command received carried =>
    received.controllerId = controllerId ∧ carried = sending ∧ sending.buffer = true ∧
      (entity.model.handle config controllerId received.command).status = .success ∧
      (entity.model.handle config controllerId received.command).model ≠ entity.model
  | .answer answer carried =>
    carried = sending ∧ answer.unsolicited = false ∧ answer.success = true ∧
      ∃ forwarded, entity.findController answer.sequenceId answer.controllerId = some forwarded ∧
        forwarded.controllerId = controllerId ∧
        ∃ model changed, update config answer (some forwarded) entity.model = some (model,changed) ∧
          (answer.message = .audioMappings ∨ model ≠ entity.model)
  | _ => False

def others (controllerId : UInt64) (entity : AemEntity) : List Nat :=
  entity.aecp.others controllerId (entity.aecp.places .registered)

/-- The change is notified to each of the others that can be sent to, with its own sequence id. -/
def Notified (entity : AemEntity) (input : AemInput) : Prop :=
  ∀ controllerId sending, CarriedOut config controllerId sending entity input →
    (entity.rcv config input).1 =
      ((entity.others controllerId).filter sending.notification).map fun entry => entity.aecp.notification entry

/-- A change that some of the others can be sent is not that of an ACQUIRE_ENTITY command, its response is
sent, and the notifications that fail are those to the last of the others. -/
def Notifiable (entity : AemEntity) (input : AemInput) : Prop :=
  ∀ controllerId sending, CarriedOut config controllerId sending entity input →
    (∀ entry, entry ∈ entity.others controllerId → sending.notification entry = false) ∨
      (¬input.Acquires ∧ sending.response = true ∧
        (entity.others controllerId).Pairwise fun first second =>
          sending.notification second = true → sending.notification first = true)

section Sends
variable {config} {entity : AemEntity}

theorem rcv_sends (once : (entity.aecp.places .registered).Nodup) {input : AemInput}
    (other : ∀ registration, input ≠ .registration registration) :
    ∃ entries, entity.aecp.Sends entries (entity.rcv config input).1 (entity.rcv config input).2.aecp := by
  cases input with
  | command received sending =>
    unfold rcv receivedControllerCommand
    dsimp only
    split
    · exact ⟨[],sends_nothing⟩
    split
    · split
      · exact ⟨[],sends_nothing⟩
      · exact ⟨_,(sendUnsolicitedNotification_sends once).restart ..⟩
    · exact ⟨[],sends_nothing.restart ..⟩
  | answer answer sending =>
    unfold rcv ipcRxControlled
    dsimp only
    generalize (if answer.unsolicited then none else entity.findController answer.sequenceId answer.controllerId) = forwarded
    split
    · exact ⟨[],sends_nothing⟩
    split
    · exact ⟨[],sends_nothing⟩
    split
    · exact ⟨[],sends_nothing⟩
    split
    · exact ⟨_,sendUnsolicitedNotification_sends once⟩
    · exact ⟨[],sends_nothing⟩
  | applicationTimeout position restarted =>
    refine ⟨[],?_⟩
    cases restarted
    · exact sends_nothing
    · exact sends_nothing
  | lockTimeout sending =>
    unfold rcv lockTimeout
    dsimp only
    split
    · exact ⟨[],sends_nothing⟩
    split
    · exact sendAsyncUnsolicitedNotification_sends once sending
    · exact ⟨[],sends_nothing⟩
  | asyncNotification sending => exact sendAsyncUnsolicitedNotification_sends once sending
  | acmp desc stream => exact ⟨[],sends_nothing⟩
  | registration input => exact absurd rfl (other input)

variable {sending : AemSending}

theorem receivedControllerCommand_told (timed : entity.model.LockTimed) (once : (entity.aecp.places .registered).Nodup)
    {received : ReceivedCommand} (buffer : sending.buffer = true) (response : sending.response = true)
    (success : (entity.model.handle config received.controllerId received.command).status = .success)
    (changed : (entity.model.handle config received.controllerId received.command).model ≠ entity.model)
    (other : ¬received.command.Acquires) :
    (entity.receivedControllerCommand config received sending).1 =
      ((entity.others received.controllerId).takeWhile sending.notification).map fun entry =>
        entity.aecp.notification entry := by
  unfold receivedControllerCommand
  dsimp only
  rw [buffer,response,(handle_tells timed other).mpr ⟨success,changed⟩]
  split
  next absent => exact absurd absent (by decide)
  split
  · exact (sendUnsolicitedNotification_sends once).told
  next none =>
    rw [Bool.true_and,needSyncUnsolicitedNotifications_iff,not_not] at none
    unfold others
    rw [none]
    rfl

theorem receivedControllerCommand_silent {received : ReceivedCommand}
    (silent : received.command.Acquires ∨ sending.response = false) :
    (entity.receivedControllerCommand config received sending).1 = [] := by
  unfold receivedControllerCommand
  split
  · rfl
  dsimp only
  split
  next notifies =>
    obtain ⟨type,release,acquires⟩ | failed := silent
    · rw [acquires,handle,acquireEntity_notify] at notifies
      cases notifies
    · rw [failed]
      rfl
  · rfl

variable {answer : ApplicationAnswer}

theorem update_changed {forwarded : Option ForwardedCommand} {before after : AemModel}
    {changed : Bool} (success : answer.success = true) (updated : update config answer forwarded before = some (after,changed)) :
    changed = true ↔ answer.message = .audioMappings ∨ after ≠ before := by
  unfold update at updated
  rw [success] at updated
  cases message : answer.message with
  | setControl desc values =>
    rw [message] at updated
    dsimp only at updated
    split at updated
    · cases updated
    rw [if_pos rfl] at updated
    split at updated
    next control flag written =>
      cases updated
      exact (setControl_changed written).trans (or_iff_right nofun).symm
    · cases updated
  | startStreaming | stopStreaming =>
    rw [message] at updated
    exact (streaming_changed updated).trans (or_iff_right nofun).symm
  | audioMappings =>
    rw [message] at updated
    cases updated
    exact iff_of_true rfl (.inl rfl)
  | other =>
    rw [message] at updated
    cases updated
    exact iff_of_false Bool.false_ne_true (not_or.mpr ⟨nofun,(· rfl)⟩)

theorem ipcRxControlled_told (once : (entity.aecp.places .registered).Nodup)
    {forwarded : ForwardedCommand} {model : AemModel} (solicited : answer.unsolicited = false)
    (success : answer.success = true)
    (found : entity.findController answer.sequenceId answer.controllerId = some forwarded)
    (updated : update config answer (some forwarded) entity.model = some (model,true)) :
    (entity.ipcRxControlled config answer sending).1 =
      if sending.response then
        ((entity.others forwarded.controllerId).takeWhile sending.notification).map fun entry =>
          entity.aecp.notification entry
      else [] := by
  unfold ipcRxControlled
  rw [solicited,success,if_neg Bool.false_ne_true,found]
  dsimp only
  rw [updated]
  cases sending.response with
  | false => rfl
  | true => exact (sendUnsolicitedNotification_sends once).told

theorem notification_injective (aecp : AecpCtx) : Function.Injective fun entry => aecp.notification entry :=
  fun _ _ same => congrArg Notification.entry same

theorem carriedOut_sends (timed : entity.model.LockTimed) (once : (entity.aecp.places .registered).Nodup)
    {input : AemInput} {controllerId : UInt64} (carried : CarriedOut config controllerId sending entity input) :
    (input.Acquires ∨ sending.response = false → (entity.rcv config input).1 = []) ∧
      (¬input.Acquires → sending.response = true → (entity.rcv config input).1 =
        ((entity.others controllerId).takeWhile sending.notification).map fun entry => entity.aecp.notification entry) := by
  cases input with
  | command received sending =>
    obtain ⟨rfl,rfl,buffer,success,changed⟩ := carried
    constructor
    · intro silent
      exact receivedControllerCommand_silent silent
    · intro other response
      exact receivedControllerCommand_told timed once buffer response success changed other
  | answer answer sending =>
    obtain ⟨rfl,solicited,success,forwarded,found,rfl,model,changed,updated,changes⟩ := carried
    obtain rfl := (update_changed success updated).mpr changes
    unfold rcv
    rw [ipcRxControlled_told once solicited success found updated]
    constructor
    · rintro (acquires | failed)
      · exact acquires.elim
      · rw [failed,if_neg Bool.false_ne_true]
    · intro _ response
      rw [response,if_pos rfl]
  | _ => exact carried.elim

theorem notified_iff (timed : entity.model.LockTimed) (once : (entity.aecp.places .registered).Nodup)
    (input : AemInput) :
    entity.Notified config input ↔ entity.Notifiable config input := by
  refine forall₂_congr fun controllerId sending => imp_congr_right fun carried => ?_
  obtain ⟨nothing,told⟩ := carriedOut_sends timed once carried
  by_cases silent : input.Acquires ∨ sending.response = false
  · rw [nothing silent,eq_comm,map_eq_nil_iff,filter_eq_nil_iff]
    constructor
    · intro none
      exact .inl fun entry member => Bool.eq_false_of_not_eq_true (none entry member)
    · rintro (none | ⟨other,response,_⟩) entry member sent
      · exact absurd (sent.symm.trans (none entry member)) (by decide)
      · exact silent.elim other fun failed => absurd (response.symm.trans failed) (by decide)
  · obtain ⟨other,response⟩ := not_or.mp silent
    have response := eq_true_of_ne_false response
    rw [told other response,(map_injective_iff.mpr (notification_injective entity.aecp)).eq_iff,takeWhile_eq_filter_iff]
    constructor
    · intro ordered
      exact .inr ⟨other,response,ordered⟩
    · rintro (none | ⟨_,_,ordered⟩)
      · exact pairwise_of_forall_mem_list fun _ _ entry member sent =>
          absurd (sent.symm.trans (none entry member)) (by decide)
      · exact ordered

private theorem streaming_holders {model after : AemModel} {desc : AemDesc} {wait changed : Bool}
    (streamed : model.streaming config desc wait = some (after,changed)) : after.holders = model.holders := by
  unfold streaming milanStreaming at streamed
  split at streamed
  · split at streamed
    · cases streamed
    split at streamed
    · cases streamed
    split at streamed
    · cases streamed
      rfl
    · cases streamed
      rfl
  · cases streamed
    rfl

theorem update_holders {forwarded : Option ForwardedCommand} {before after : AemModel}
    {changed : Bool} (updated : update config answer forwarded before = some (after,changed)) :
    after.holders = before.holders := by
  unfold update at updated
  split at updated
  · split at updated
    · cases updated
    split at updated
    · split at updated
      · cases updated
        rfl
      · cases updated
    split at updated
    · cases updated
    · cases updated
      rfl
  · split at updated
    · exact streaming_holders updated
    · cases updated
      rfl
  · split at updated
    · exact streaming_holders updated
    · cases updated
      rfl
  · cases updated
    rfl
  · cases updated
    rfl

theorem rcv_timed (timed : entity.model.LockTimed) (input : AemInput) :
    (entity.rcv config input).2.model.LockTimed := by
  cases input with
  | command received sending =>
    unfold rcv receivedControllerCommand
    dsimp only
    split
    · exact timed
    have after : (entity.model.handle config received.controllerId received.command).model.LockTimed := timed.handle _
    split
    · split
      · exact after
      · exact after
    · exact after
  | answer answer sending =>
    unfold rcv ipcRxControlled
    dsimp only
    generalize (if answer.unsolicited then none else entity.findController answer.sequenceId answer.controllerId) = forwarded
    split
    · exact timed
    split
    · exact timed
    next model changed updated =>
      have after : model.LockTimed := timed.of_holders (update_holders updated)
      split
      · exact after
      split
      · exact after
      · exact after
  | applicationTimeout position restarted =>
    cases restarted
    · exact timed
    · exact timed
  | lockTimeout sending =>
    unfold rcv lockTimeout
    dsimp only
    split
    · exact timed
    split
    · rfl
    · rfl
  | asyncNotification | acmp | registration => exact timed

end Sends

end AemEntity

namespace NotifiedEntity
variable (config : AemConfig)

def step (input : AemInput) (history : NotifiedEntity) : NotifiedEntity :=
  let (notifications,entity) := history.entity.rcv config input
  { entity := entity
    notified := fun entry =>
      if entry ∈ entity.aecp.places .registered then
        (if entry ∈ history.entity.aecp.places .registered then history.notified entry else []) ++
          (notifications.filter fun notification => notification.entry = entry).map Notification.sequenceId
      else [] }

def initial (model : AemModel) (maxUnsolicitedRegistrations : Nat) : NotifiedEntity where
  entity := .initial model maxUnsolicitedRegistrations
  notified _ := []

def Consecutive (history : NotifiedEntity) : Prop :=
  ∀ entry, entry ∈ history.entity.aecp.places .registered →
    ∃ count, history.notified entry = (List.range count).map UInt16.ofNat

structure NotifiedStep (history : NotifiedEntity) (input : AemInput) : Prop where
  notified : history.entity.Notified config input
  consecutive : (history.step config input).Consecutive

section Runs
variable {config} {maxRegistrations : Nat} {history : NotifiedEntity}

/-- What holds between two steps: the sequence id of a registration counts what it has been sent. -/
structure Counted (maxRegistrations : Nat) (history : NotifiedEntity) : Prop where
  timed : history.entity.model.LockTimed
  conserved : Partition (· < maxRegistrations) history.entity.aecp.places
  counted : ∀ entry, entry ∈ history.entity.aecp.places .registered →
    ∃ count, history.notified entry = (List.range count).map UInt16.ofNat ∧
      (history.entity.aecp.contexts entry).sequenceId = UInt16.ofNat count

theorem Counted.consecutive (counted : history.Counted maxRegistrations) : history.Consecutive := by
  intro entry member
  obtain ⟨count,notified,_⟩ := counted.counted entry member
  exact ⟨count,notified⟩

theorem range_succ_ofNat (count : Nat) :
    (List.range (count + 1)).map UInt16.ofNat = (List.range count).map UInt16.ofNat ++ [UInt16.ofNat count] := by
  rw [range_succ,map_append]
  rfl

theorem filter_notification {aecp : AecpCtx} {entries : List Nat} (once : entries.Nodup) (entry : Nat) :
    (entries.map fun entry => aecp.notification entry).filter (fun notification => notification.entry = entry) =
      if entry ∈ entries then [aecp.notification entry] else [] := by
  induction entries with
  | nil => rfl
  | cons first rest ih =>
    obtain ⟨apart,once⟩ := nodup_cons.mp once
    rw [map_cons,filter_cons,ih once]
    by_cases here : entry = first
    · have own : (aecp.notification first).entry = first := rfl
      rw [here,own,if_pos (decide_eq_true rfl),if_neg apart,if_pos mem_cons_self]
    · have other : ¬(aecp.notification first).entry = entry := Ne.symm here
      rw [if_neg (by rwa [decide_eq_true_iff])]
      simp only [mem_cons,here,false_or]

private theorem step_notified {input : AemInput} {entry : Nat}
    (member : entry ∈ (history.entity.rcv config input).2.aecp.places .registered) :
    (history.step config input).notified entry =
      (if entry ∈ history.entity.aecp.places .registered then history.notified entry else []) ++
        ((history.entity.rcv config input).1.filter fun notification => notification.entry = entry).map
          Notification.sequenceId :=
  if_pos member

theorem Counted.step (counted : history.Counted maxRegistrations) (input : AemInput) :
    (history.step config input).Counted maxRegistrations := by
  have once := counted.conserved.once .registered
  by_cases registration : ∃ registration, input = .registration registration
  · obtain ⟨registration,rfl⟩ := registration
    have renewed := unsolicitedStep_renewed counted.conserved registration
    refine ⟨counted.timed,renewed.conserved,fun entry member => ?_⟩
    rw [step_notified member]
    obtain ⟨before,same⟩ | ⟨new,zero⟩ := renewed.sequenceId entry member
    · obtain ⟨count,notified,sequenceId⟩ := counted.counted entry before
      refine ⟨count,?_,same.trans sequenceId⟩
      rw [if_pos before,notified]
      exact append_nil _
    · refine ⟨0,?_,zero⟩
      rw [if_neg new]
      rfl
  · obtain ⟨entries,sends⟩ := @AemEntity.rcv_sends config _ once _ fun other same => registration ⟨other,same⟩
    refine ⟨AemEntity.rcv_timed counted.timed input,sends.places ▸ counted.conserved,fun entry member => ?_⟩
    rw [step_notified member,sends.told,filter_notification sends.once]
    have before : entry ∈ history.entity.aecp.places .registered := sends.places ▸ member
    have after := sends.sequenceId entry
    obtain ⟨count,notified,sequenceId⟩ := counted.counted entry before
    rw [if_pos before,notified]
    by_cases sent : entry ∈ entries
    · rw [if_pos sent,sequenceId] at after
      refine ⟨count + 1,?_,after.trans (UInt16.ofNat_add count 1).symm⟩
      rw [if_pos sent,range_succ_ofNat,← sequenceId]
      rfl
    · rw [if_neg sent,sequenceId] at after
      refine ⟨count,?_,after⟩
      rw [if_neg sent]
      exact append_nil _

theorem initial_counted (model : AemModel) (maxRegistrations : Nat) :
    (initial model maxRegistrations).Counted maxRegistrations :=
  ⟨rfl,(unsolicitedInit_sound maxRegistrations).registered.conserved,nofun⟩

theorem notifiedStep_iff (counted : history.Counted maxRegistrations) (input : AemInput) :
    history.NotifiedStep config input ↔ history.entity.Notifiable config input := by
  rw [← AemEntity.notified_iff counted.timed (counted.conserved.once .registered)]
  constructor
  · intro right
    exact right.notified
  · intro notified
    exact ⟨notified,(counted.step input).consecutive⟩

/-- Every change is notified to each of the others, with consecutive sequence ids, in exactly the runs all
changes of which can be notified. -/
theorem changes_notified (config : AemConfig) (model : AemModel) (maxRegistrations : Nat) (inputs : List AemInput) :
    Steps (step config) (NotifiedStep config) inputs (initial model maxRegistrations) ↔
      Steps (step config) (fun history input => history.entity.Notifiable config input) inputs
        (initial model maxRegistrations) :=
  steps_iff (step config) (I := Counted maxRegistrations) (fun _ input counted => notifiedStep_iff counted input)
    (fun _ input counted _ => counted.step input) (initial_counted model maxRegistrations)

end Runs

def milanConfig : AemConfig where
  milanMode := true
  currentConfiguration := 0
  descriptors _ := true
  formats _ := []
  controlReadOnly _ := true

def blankModel : AemModel where
  lockStatus := false
  lockingControllerId := 0
  lockTimer := false
  acquireStatus := false
  acquiringControllerId := 0
  streams _ := ⟨false,false⟩
  currentFormat _ := 0
  streamId _ := 0
  presentationTimeOffset _ := 0
  objectName _ := []
  control _ := .unsupported

def unnotified : List AemInput :=
  [.registration (.command (.register true) 10 0 ⟨2,0,0,0,0,1⟩ true),
    .registration (.command (.register true) 20 0 ⟨2,0,0,0,0,2⟩ true),
    .command ⟨.setName ⟨.entity,0⟩ 0 0 [0x61],30,0,7⟩ ⟨true,true,true,true,fun entry => entry ≠ 0⟩]

theorem unnotified_wrong :
    ¬Steps (step milanConfig) (NotifiedStep milanConfig) unnotified (initial blankModel 2) := by
  intro steps
  have changed : ([0x61] : List UInt8) ≠ [] := nofun
  have told := steps.2.2.1.notified 30 ⟨true,true,true,true,fun entry => entry ≠ 0⟩
    ⟨rfl,rfl,rfl,rfl,fun same => changed (congrFun (congrArg objectName same) ⟨⟨.entity,0⟩,false⟩)⟩
  exact absurd told (by decide)

end NotifiedEntity

end Genavb.Avdecc
