import Genavb.Avdecc.Notifications

/-! The registrations for unsolicited notifications over the runs of an entity: they are always well
formed, and in which runs each of them is watched. -/
namespace Genavb.Avdecc
open Support List
open Maap (MacAddress)

namespace AecpCtx

/-- The registrations and the free entries make up the storage, and no controller is registered twice. -/
structure Registered (maxRegistrations : Nat) (aecp : AecpCtx) : Prop where
  conserved : Partition (· < maxRegistrations) aecp.places
  distinct : ∀ first second, first ∈ aecp.places .registered → second ∈ aecp.places .registered →
    (aecp.contexts first).key = (aecp.contexts second).key → first = second

def Monitored (key : UInt64 × Nat) (aecp : AecpCtx) : Prop :=
  ∃ command, command ∈ aecp.network ∧ command.monitors = some key

def Watched (aecp : AecpCtx) : Prop :=
  ∀ entry, entry ∈ aecp.places .registered →
    (aecp.contexts entry).timerRunning = true ∨ aecp.Monitored (aecp.contexts entry).key

def Created (aecp : AecpCtx) : Prop :=
  ∀ entry, entry ∈ aecp.places .registered → (aecp.contexts entry).timerCreated = true

def Refused (aecp : AecpCtx) : UnsolicitedInput → Prop
  | .command (.register timerCreated) controllerId portId macSrc true =>
    (aecp.unsolicitedAdd timerCreated macSrc controllerId portId).1 = .failed
  | _ => False

/-- After the step the registrations are well formed and watched; it refuses a request only when all
the storage is used. -/
structure RegistrationStep (maxRegistrations : Nat) (aecp : AecpCtx) (input : UnsolicitedInput) : Prop where
  registered : (aecp.unsolicitedStep input).Registered maxRegistrations
  watched : (aecp.unsolicitedStep input).Watched
  refusal : aecp.Refused input → aecp.places .free = []

def OnlyWatch (position : Nat) (aecp : AecpCtx) : Prop :=
  ∃ command entry, aecp.network[position]? = some command ∧ entry ∈ aecp.places .registered ∧
    command.monitors = some (aecp.contexts entry).key ∧ (aecp.contexts entry).timerRunning = false ∧
    ¬Monitored (aecp.contexts entry).key {aecp with network := aecp.network.eraseIdx position}

/-- A new registration gets its timer; when a monitor timer expires its command is put in flight; and a
command that is all that watches a registration is not lost: it is sent again or ends with the
deregistration, and only the controller it was sent to answers it. -/
def Attended (aecp : AecpCtx) : UnsolicitedInput → Prop
  | .command (.register timerCreated) controllerId portId _ buffer => buffer = true →
    timerCreated = true ∨ aecp.unsolicitedFind controllerId portId ≠ none ∨ aecp.places .free = []
  | .monitorTimer entry buffer context => entry ∈ aecp.places .registered → (aecp.contexts entry).timerRunning = true →
    (buffer = true ∧ context = true) ∨ aecp.Monitored (aecp.contexts entry).key
  | .networkTimeout position buffer transmitted => (buffer = true ∧ transmitted = true) ∨ ¬aecp.OnlyWatch position
  | .controllerResponse sequenceId controllerId portId unsolicited => unsolicited = false →
    ∀ position, aecp.networkFind sequenceId = some position → aecp.OnlyWatch position →
      ∃ command, aecp.network[position]? = some command ∧ command.monitors = some (controllerId,portId)
  | .entityResponse sequenceId unsolicited inProgress => unsolicited = false → inProgress = false →
    ∀ position, aecp.networkFind sequenceId = some position → ¬aecp.OnlyWatch position
  | _ => True

section Registrations
variable {maxRegistrations : Nat} {aecp : AecpCtx} {controllerId : UInt64} {portId entry position : Nat}

theorem unsolicitedFind_some (found : aecp.unsolicitedFind controllerId portId = some entry) :
    entry ∈ aecp.places .registered ∧ (aecp.contexts entry).key = (controllerId,portId) :=
  ⟨mem_of_find?_eq_some found,by simpa using List.find?_some found⟩

private theorem unsolicitedFind_none (missing : aecp.unsolicitedFind controllerId portId = none)
    (member : entry ∈ aecp.places .registered) : (aecp.contexts entry).key ≠ (controllerId,portId) := by
  simpa using List.find?_eq_none.mp missing entry member

theorem Registered.find (registered : aecp.Registered maxRegistrations) (member : entry ∈ aecp.places .registered)
    (key : (aecp.contexts entry).key = (controllerId,portId)) : aecp.unsolicitedFind controllerId portId = some entry := by
  cases found : aecp.unsolicitedFind controllerId portId with
  | none => exact absurd key (unsolicitedFind_none found member)
  | some other =>
    obtain ⟨present,same⟩ := unsolicitedFind_some found
    rw [registered.distinct entry other member present (key.trans same.symm)]

@[simp] theorem modifyContext_same (change : UnsolicitedCtx → UnsolicitedCtx) :
    (aecp.modifyContext entry change).contexts entry = change (aecp.contexts entry) := Function.update_self ..

theorem modifyContext_other {other : Nat} (apart : other ≠ entry) (change : UnsolicitedCtx → UnsolicitedCtx) :
    (aecp.modifyContext entry change).contexts other = aecp.contexts other := Function.update_of_ne apart ..

theorem Registered.modify (registered : aecp.Registered maxRegistrations) {change : UnsolicitedCtx → UnsolicitedCtx}
    (same : ∀ context, (change context).key = context.key) :
    (aecp.modifyContext entry change).Registered maxRegistrations := by
  have key (other : Nat) : ((aecp.modifyContext entry change).contexts other).key = (aecp.contexts other).key := by
    by_cases here : other = entry
    · rw [here,modifyContext_same,same]
    · rw [modifyContext_other here]
  refine ⟨registered.conserved,fun first second inFirst inSecond equal => ?_⟩
  rw [key,key] at equal
  exact registered.distinct first second inFirst inSecond equal

private theorem watched_erase (watched : aecp.Watched) :
    Watched {aecp with network := aecp.network.eraseIdx position} ↔ ¬aecp.OnlyWatch position := by
  constructor
  · rintro after ⟨command,entry,_,member,_,stopped,alone⟩
    obtain running | monitored := after entry member
    · exact absurd (stopped.symm.trans running) (by decide)
    · exact alone monitored
  · intro others entry member
    obtain running | ⟨command,present,monitors⟩ := watched entry member
    · exact .inl running
    · by_contra unwatched
      obtain ⟨stopped,alone⟩ := not_or.mp unwatched
      refine others ⟨command,entry,?_,member,monitors,Bool.eq_false_of_not_eq_true stopped,alone⟩
      obtain ⟨index,here⟩ := List.getElem?_of_mem present
      by_cases same : index = position
      · rw [← same]
        exact here
      · exact absurd ⟨command,mem_eraseIdx_iff_getElem?.mpr ⟨index,same,here⟩,monitors⟩ alone

structure Sound (maxRegistrations : Nat) (aecp : AecpCtx) : Prop where
  registered : aecp.Registered maxRegistrations
  watched : aecp.Watched
  created : aecp.Created

theorem Sound.congr {after : AecpCtx} (sound : aecp.Sound maxRegistrations) (places : after.places = aecp.places)
    (key : ∀ other, (after.contexts other).key = (aecp.contexts other).key)
    (created : ∀ other, (after.contexts other).timerCreated = (aecp.contexts other).timerCreated)
    (running : ∀ other, other ∈ aecp.places .registered → (aecp.contexts other).timerRunning = true →
      (after.contexts other).timerRunning = true)
    (network : ∀ command, command ∈ aecp.network → ∃ later, later ∈ after.network ∧ later.monitors = command.monitors) :
    after.Sound maxRegistrations := by
  refine ⟨⟨?_,?_⟩,?_,?_⟩
  · rw [places]
    exact sound.registered.conserved
  · intro first second inFirst inSecond equal
    rw [places] at inFirst inSecond
    rw [key,key] at equal
    exact sound.registered.distinct first second inFirst inSecond equal
  · intro other member
    rw [places] at member
    rw [key]
    obtain runs | ⟨command,present,monitors⟩ := sound.watched other member
    · exact .inl (running other member runs)
    · obtain ⟨later,inside,same⟩ := network command present
      exact .inr ⟨later,inside,same.trans monitors⟩
  · intro other member
    rw [places] at member
    rw [created]
    exact sound.created other member

private theorem restartMonitor_key (other : Nat) :
    ((aecp.restartMonitor controllerId portId).contexts other).key = (aecp.contexts other).key := by
  unfold restartMonitor
  split
  · rfl
  next entry _ =>
    by_cases here : other = entry
    · rw [here,modifyContext_same]
      rfl
    · rw [modifyContext_other here]

theorem restartMonitor_created (other : Nat) :
    ((aecp.restartMonitor controllerId portId).contexts other).timerCreated = (aecp.contexts other).timerCreated := by
  unfold restartMonitor
  split
  · rfl
  next entry _ =>
    by_cases here : other = entry
    · rw [here,modifyContext_same]
    · rw [modifyContext_other here]

theorem restartMonitor_places : (aecp.restartMonitor controllerId portId).places = aecp.places := by
  unfold restartMonitor
  split
  · rfl
  · rfl

private theorem restartMonitor_network : (aecp.restartMonitor controllerId portId).network = aecp.network := by
  unfold restartMonitor
  split
  · rfl
  · rfl

private theorem restartMonitor_running (registered : aecp.Registered maxRegistrations) (created : aecp.Created)
    (member : entry ∈ aecp.places .registered) :
    ((aecp.restartMonitor controllerId portId).contexts entry).timerRunning =
      (decide ((aecp.contexts entry).key = (controllerId,portId)) || (aecp.contexts entry).timerRunning) := by
  unfold restartMonitor
  by_cases own : (aecp.contexts entry).key = (controllerId,portId)
  · rw [registered.find member own,decide_eq_true own]
    rw [modifyContext_same]
    exact created entry member
  · rw [decide_eq_false own]
    split
    · rfl
    next other found =>
      have apart : entry ≠ other := by
        rintro rfl
        exact own (unsolicitedFind_some found).2
      rw [modifyContext_other apart]
      rfl

theorem Sound.restart (sound : aecp.Sound maxRegistrations) (controllerId : UInt64) (portId : Nat) :
    (aecp.restartMonitor controllerId portId).Sound maxRegistrations := by
  apply sound.congr restartMonitor_places restartMonitor_key restartMonitor_created
  · intro other member runs
    rw [restartMonitor_running sound.registered sound.created member,runs,Bool.or_true]
  · intro command present
    rw [restartMonitor_network]
    exact ⟨command,present,rfl⟩

private theorem mem_removed (registered : aecp.Registered maxRegistrations) {other : Nat} :
    other ∈ relocate entry UnsolicitedPlace.free aecp.places .registered ↔
      other ≠ entry ∧ other ∈ aecp.places .registered := by
  rw [mem_relocate registered.conserved.once]
  by_cases same : other = entry
  · rw [if_pos same]
    exact iff_of_false (by decide) fun apart => apart.1 same
  · rw [if_neg same]
    exact (and_iff_right same).symm

theorem Sound.removes (sound : aecp.Sound maxRegistrations) (controllerId : UInt64) (portId : Nat) :
    (aecp.unsolicitedRemove controllerId portId).Sound maxRegistrations := by
  unfold unsolicitedRemove
  split
  · exact sound
  next entry found =>
    obtain ⟨member,_⟩ := unsolicitedFind_some found
    have inside : entry < maxRegistrations := (sound.registered.conserved.all entry).mpr ⟨.registered,member⟩
    refine ⟨⟨Partition.relocate sound.registered.conserved inside,?_⟩,?_,?_⟩
    · intro first second inFirst inSecond equal
      obtain ⟨firstApart,inFirst⟩ := (mem_removed sound.registered).mp inFirst
      obtain ⟨secondApart,inSecond⟩ := (mem_removed sound.registered).mp inSecond
      rw [modifyContext_other firstApart,modifyContext_other secondApart] at equal
      exact sound.registered.distinct first second inFirst inSecond equal
    · intro other present
      obtain ⟨apart,present⟩ := (mem_removed sound.registered).mp present
      rw [modifyContext_other apart]
      exact sound.watched other present
    · intro other present
      obtain ⟨apart,present⟩ := (mem_removed sound.registered).mp present
      rw [modifyContext_other apart]
      exact sound.created other present

theorem Sound.sends (sound : aecp.Sound maxRegistrations) (monitors : Option (UInt64 × Nat)) (context : Bool) :
    (aecp.aemSendCommand monitors context).Sound maxRegistrations := by
  apply sound.congr
  · rfl
  · intro other
    rfl
  · intro other
    rfl
  · intro other _ runs
    exact runs
  · intro command present
    refine ⟨command,?_,rfl⟩
    unfold aemSendCommand
    split
    · exact mem_cons_of_mem _ present
    · exact present

theorem mem_added (registered : aecp.Registered maxRegistrations) {other : Nat} :
    other ∈ relocate entry UnsolicitedPlace.registered aecp.places .registered ↔
      other = entry ∨ (other ≠ entry ∧ other ∈ aecp.places .registered) := by
  rw [mem_relocate registered.conserved.once]
  by_cases same : other = entry
  · rw [if_pos same]
    exact iff_of_true rfl (.inl same)
  · rw [if_neg same]
    constructor
    · intro present
      exact .inr ⟨same,present⟩
    · rintro (here | present)
      · exact absurd here same
      · exact present.2

section
variable (sound : aecp.Sound maxRegistrations)
include sound

theorem Sound.adds {timerCreated : Bool} (macDst : MacAddress)
    (allowed : timerCreated = true ∨ aecp.unsolicitedFind controllerId portId ≠ none ∨ aecp.places .free = []) :
    (aecp.unsolicitedAdd timerCreated macDst controllerId portId).2.Sound maxRegistrations := by
  unfold unsolicitedAdd
  cases found : aecp.unsolicitedFind controllerId portId with
  | some entry =>
    have own (field : UnsolicitedCtx → UInt64 × Nat × Bool × Bool)
        (reads : ∀ context : UnsolicitedCtx, field {context with macDst := macDst} = field context) (other : Nat) :
        field ((aecp.modifyContext entry ({· with macDst := macDst})).contexts other) = field (aecp.contexts other) := by
      by_cases here : other = entry
      · rw [here,modifyContext_same,reads]
      · rw [modifyContext_other here]
    have same := own (fun context => (context.controllerId,context.portId,context.timerCreated,context.timerRunning))
      fun _ => rfl
    apply sound.congr
    · rfl
    · intro other
      exact congrArg (fun fields => (fields.1,fields.2.1)) (same other)
    · intro other
      exact congrArg (·.2.2.1) (same other)
    · intro other _ runs
      exact (congrArg (·.2.2.2) (same other)).trans runs
    · intro command present
      exact ⟨command,present,rfl⟩
  | none =>
    cases first : aecp.places .free with
    | nil => exact sound
    | cons entry rest =>
      have created : timerCreated = true := by
        obtain created | known | full := allowed
        · exact created
        · exact absurd found known
        · rw [first] at full
          cases full
      have inside : entry < maxRegistrations :=
        (sound.registered.conserved.all entry).mpr ⟨.free,first ▸ mem_cons_self⟩
      have new (other : Nat) := @mem_added _ _ entry sound.registered other
      refine ⟨⟨Partition.relocate sound.registered.conserved inside,?_⟩,?_,?_⟩
      · intro one two inOne inTwo equal
        obtain rfl | ⟨oneApart,oneBefore⟩ := (new _).mp inOne
        · obtain rfl | ⟨twoApart,twoBefore⟩ := (new _).mp inTwo
          · rfl
          · rw [modifyContext_same,modifyContext_other twoApart] at equal
            have away := unsolicitedFind_none found twoBefore
            exact absurd equal.symm away
        · obtain rfl | ⟨twoApart,twoBefore⟩ := (new _).mp inTwo
          · rw [modifyContext_same,modifyContext_other oneApart] at equal
            have away := unsolicitedFind_none found oneBefore
            exact absurd equal away
          · rw [modifyContext_other oneApart,modifyContext_other twoApart] at equal
            exact sound.registered.distinct one two oneBefore twoBefore equal
      · intro other present
        obtain rfl | ⟨apart,present⟩ := (new _).mp present
        · rw [modifyContext_same]
          exact .inl created
        · rw [modifyContext_other apart]
          exact sound.watched other present
      · intro other present
        obtain rfl | ⟨apart,present⟩ := (new _).mp present
        · rw [modifyContext_same]
          exact created
        · rw [modifyContext_other apart]
          exact sound.created other present

theorem Sound.drops (others : ¬aecp.OnlyWatch position) :
    Sound maxRegistrations {aecp with network := aecp.network.eraseIdx position} :=
  ⟨⟨sound.registered.conserved,sound.registered.distinct⟩,(watched_erase sound.watched).mpr others,sound.created⟩

theorem Sound.expires (entry : Nat) {network : List NetworkCommand}
    {sequenceId : UInt16} (kept : ∀ command, command ∈ aecp.network → command ∈ network)
    (monitored : entry ∈ aecp.places .registered → ∃ command, command ∈ network ∧
      command.monitors = some (aecp.contexts entry).key) :
    Sound maxRegistrations {aecp.modifyContext entry ({· with timerRunning := false}) with
      network := network
      sequenceId := sequenceId} := by
  have registered := @Registered.modify _ _ entry sound.registered ({· with timerRunning := false}) fun _ => rfl
  refine ⟨⟨registered.conserved,registered.distinct⟩,?_,?_⟩
  · intro other member
    by_cases here : other = entry
    · rw [here,modifyContext_same]
      exact .inr (monitored (here ▸ member))
    · rw [modifyContext_other here]
      obtain runs | ⟨command,present,monitors⟩ := sound.watched other member
      · exact .inl runs
      · exact .inr ⟨command,kept command present,monitors⟩
  · intro other member
    by_cases here : other = entry
    · rw [here,modifyContext_same]
      exact sound.created entry (here ▸ member)
    · rw [modifyContext_other here]
      exact sound.created other member

theorem Sound.repeats {command : NetworkCommand} (here : aecp.network[position]? = some command) :
    Sound maxRegistrations {aecp with network := aecp.network.set position {command with retried := true}} := by
  apply sound.congr
  · rfl
  · intro other
    rfl
  · intro other
    rfl
  · intro other _ runs
    exact runs
  · intro other present
    obtain ⟨index,there⟩ := List.getElem?_of_mem present
    by_cases same : index = position
    · rw [same,here] at there
      cases there
      refine ⟨{command with retried := true},?_,rfl⟩
      exact mem_set (List.getElem?_eq_some_iff.mp here).1 _
    · refine ⟨other,mem_iff_getElem?.mpr ⟨index,?_⟩,rfl⟩
      rw [List.getElem?_set_ne (Ne.symm same)]
      exact there

theorem Sound.ends {command : NetworkCommand}
    (here : aecp.network[position]? = some command) (monitors : command.monitors = some (controllerId,portId)) :
    Sound maxRegistrations {aecp.unsolicitedRemove controllerId portId with network := aecp.network.eraseIdx position} := by
  have removed := sound.removes controllerId portId
  have network : (aecp.unsolicitedRemove controllerId portId).network = aecp.network := by
    unfold unsolicitedRemove
    split
    · rfl
    · rfl
  rw [← network]
  apply removed.drops
  rintro ⟨other,entry,there,member,watches,_⟩
  rw [network,here] at there
  cases there
  have key : (((aecp.unsolicitedRemove controllerId portId).contexts entry)).key = (controllerId,portId) :=
    Option.some.inj (watches.symm.trans monitors)
  -- The entry of this controller is the one that is given up.
  unfold unsolicitedRemove at member key
  split at member
  next missing =>
    rw [missing] at key
    exact unsolicitedFind_none missing member key
  next owner found =>
    obtain ⟨apart,member⟩ := (mem_removed sound.registered).mp member
    rw [found] at key
    rw [modifyContext_other apart] at key
    rw [sound.registered.find member key] at found
    exact apart (Option.some.inj found)

theorem Sound.step {input : UnsolicitedInput} (attended : aecp.Attended input) :
    (aecp.unsolicitedStep input).Sound maxRegistrations := by
  cases input with
  | command command controllerId portId macSrc buffer =>
    cases buffer with
    | false => exact sound
    | true =>
      cases command with
      | register timerCreated => exact (sound.adds macSrc (attended rfl)).restart controllerId portId
      | deregister => exact (sound.removes controllerId portId).restart controllerId portId
      | other completed =>
        cases completed with
        | false => exact sound
        | true => exact sound.restart controllerId portId
  | monitorTimer entry buffer context =>
    unfold unsolicitedStep monitorTimerHandler
    dsimp only
    split
    next runs =>
      obtain ⟨rfl,rfl⟩ | ⟨command,present,monitors⟩ := attended runs.1 runs.2
      · apply sound.expires
        · intro command present
          exact mem_cons_of_mem _ present
        · intro _
          exact ⟨_,mem_cons_self,rfl⟩
      · cases buffer with
        | false => exact sound.expires entry (fun _ member => member) fun _ => ⟨command,present,monitors⟩
        | true =>
          cases context with
          | false => exact sound.expires entry (fun _ member => member) fun _ => ⟨command,present,monitors⟩
          | true =>
            exact sound.expires entry (fun _ member => mem_cons_of_mem _ member)
              fun _ => ⟨command,mem_cons_of_mem _ present,monitors⟩
    · exact sound
  | aecpCommand monitors context => exact sound.sends monitors context
  | networkTimeout position buffer transmitted =>
    unfold unsolicitedStep networkTimeout
    dsimp only
    split
    · exact sound
    next command here =>
      split
      · cases monitors : command.monitors with
        | none =>
          apply sound.drops
          rintro ⟨other,entry,there,_,watches,_⟩
          rw [here] at there
          cases there
          rw [monitors] at watches
          cases watches
        | some key =>
          dsimp only
          split
          · exact sound.ends here monitors
          next lost =>
            obtain both | others := attended
            · exact absurd (Bool.and_eq_true_iff.mpr both) lost
            · exact sound.drops others
      · split
        · exact sound.repeats here
        next lost =>
          obtain both | others := attended
          · exact absurd (Bool.and_eq_true_iff.mpr both) lost
          · exact sound.drops others
  | controllerResponse sequenceId controllerId portId unsolicited =>
    unfold unsolicitedStep receivedControllerResponse
    cases unsolicited with
    | true => exact sound
    | false =>
      dsimp only
      rw [if_neg Bool.false_ne_true]
      split
      · exact sound
      next position found =>
        have restarted := sound.restart controllerId portId
        rw [← @restartMonitor_network _ controllerId portId]
        apply restarted.drops
        rintro ⟨command,entry,here,member,watches,stopped,alone⟩
        rw [restartMonitor_places] at member
        rw [restartMonitor_running sound.registered sound.created member] at stopped
        obtain ⟨other,stopped⟩ := Bool.or_eq_false_iff.mp stopped
        rw [restartMonitor_key] at watches alone
        rw [restartMonitor_network] at here alone
        obtain ⟨answered,there,own⟩ := attended rfl position found ⟨command,entry,here,member,watches,stopped,alone⟩
        rw [here] at there
        cases there
        exact of_decide_eq_false other (Option.some.inj (watches.symm.trans own))
  | entityResponse sequenceId unsolicited inProgress =>
    unfold unsolicitedStep receivedEntityResponse
    dsimp only
    split
    · exact sound
    next solicited =>
      obtain ⟨solicited,done⟩ := not_or.mp solicited
      split
      · exact sound
      next position found =>
        exact sound.drops (attended (Bool.eq_false_of_not_eq_true solicited) (Bool.eq_false_of_not_eq_true done) position found)

theorem RegistrationStep.attended {input : UnsolicitedInput}
    (right : aecp.RegistrationStep maxRegistrations input) : aecp.Attended input := by
  have watched := right.watched
  cases input with
  | command command controllerId portId macSrc buffer =>
    cases command with
    | register timerCreated =>
      intro buffered
      by_contra neither
      obtain ⟨uncreated,missing,room⟩ : timerCreated ≠ true ∧ aecp.unsolicitedFind controllerId portId = none ∧
        aecp.places .free ≠ [] := by simpa only [not_or,not_not] using neither
      apply room
      apply right.refusal
      rw [buffered]
      unfold Refused unsolicitedAdd
      dsimp only
      rw [missing]
      cases first : aecp.places .free with
      | nil => exact absurd first room
      | cons entry rest => exact if_neg uncreated
    | deregister | other => trivial
  | monitorTimer entry buffer context =>
    intro member running
    by_contra neither
    obtain ⟨lost,unmonitored⟩ := not_or.mp neither
    unfold unsolicitedStep monitorTimerHandler at watched
    dsimp only at watched
    rw [if_pos ⟨member,running⟩] at watched
    cases buffer with
    | false =>
      have own := watched entry member
      rw [if_neg Bool.false_ne_true,modifyContext_same] at own
      exact own.elim (fun runs => absurd runs Bool.false_ne_true) unmonitored
    | true =>
      cases context with
      | false =>
        have own := watched entry member
        rw [if_pos rfl] at own
        unfold aemSendCommand at own
        rw [modifyContext_same] at own
        exact own.elim (fun runs => absurd runs Bool.false_ne_true) unmonitored
      | true => exact lost ⟨rfl,rfl⟩
  | aecpCommand monitors context => trivial
  | networkTimeout position buffer transmitted =>
    by_cases both : buffer = true ∧ transmitted = true
    · exact .inl both
    · right
      intro only
      obtain ⟨command,entry,here,member,watches,stopped,alone⟩ := only
      have lost : (buffer && transmitted) = false := by
        rw [← Bool.not_eq_true,Bool.and_eq_true]
        exact both
      unfold unsolicitedStep networkTimeout at watched
      dsimp only at watched
      rw [here,lost] at watched
      dsimp only at watched
      rw [watches] at watched
      have dropped : Watched {aecp with network := aecp.network.eraseIdx position} := by
        cases again : command.retried with
        | false | true =>
          rw [again] at watched
          exact watched
      exact (watched_erase sound.watched).mp dropped ⟨command,entry,here,member,watches,stopped,alone⟩
  | controllerResponse sequenceId controllerId portId unsolicited =>
    rintro rfl position found ⟨command,entry,here,member,watches,stopped,alone⟩
    refine ⟨command,here,?_⟩
    by_contra foreign
    have away : (aecp.contexts entry).key ≠ (controllerId,portId) := by
      intro same
      exact foreign (same ▸ watches)
    unfold unsolicitedStep receivedControllerResponse at watched
    dsimp only at watched
    rw [if_neg Bool.false_ne_true,found] at watched
    have own := watched entry (by dsimp only; rw [restartMonitor_places]; exact member)
    rw [restartMonitor_running sound.registered sound.created member,decide_eq_false away,stopped,restartMonitor_key] at own
    exact own.elim (fun runs => absurd runs Bool.false_ne_true) alone
  | entityResponse sequenceId unsolicited inProgress =>
    rintro rfl rfl position found only
    unfold unsolicitedStep receivedEntityResponse at watched
    dsimp only at watched
    rw [if_neg (by decide),found] at watched
    exact (watched_erase sound.watched).mp watched only

theorem registrationStep_iff (input : UnsolicitedInput) :
    aecp.RegistrationStep maxRegistrations input ↔ aecp.Attended input := by
  constructor
  · intro right
    exact right.attended sound
  · intro attended
    have after := sound.step attended
    refine ⟨after.registered,after.watched,?_⟩
    cases input with
    | command command controllerId portId macSrc buffer =>
      cases command with
      | register timerCreated =>
        cases buffer with
        | false => exact False.elim
        | true =>
          intro refused
          unfold Refused unsolicitedAdd at refused
          dsimp only at refused
          obtain created | known | full := attended rfl
          · cases found : aecp.unsolicitedFind controllerId portId with
            | some entry =>
              rw [found] at refused
              cases refused
            | none =>
              rw [found] at refused
              cases first : aecp.places .free with
              | nil => rfl
              | cons entry rest =>
                rw [first,created] at refused
                cases refused
          · obtain ⟨entry,found⟩ := Option.ne_none_iff_exists'.mp known
            rw [found] at refused
            cases refused
          · exact full
      | deregister | other => exact False.elim
    | _ => exact False.elim

end

end Registrations

theorem unsolicitedInit_sound (maxRegistrations : Nat) : (unsolicitedInit maxRegistrations).Sound maxRegistrations := by
  refine ⟨⟨⟨?_,?_,?_⟩,?_⟩,?_,?_⟩
  · intro place
    cases place with
    | free => exact nodup_reverse.mpr nodup_range
    | registered => exact nodup_nil
  · intro entry first second inFirst inSecond
    cases first with
    | registered => cases inFirst
    | free =>
      cases second with
      | registered => cases inSecond
      | free => rfl
  · intro entry
    constructor
    · intro inside
      exact ⟨.free,mem_reverse.mpr (mem_range.mpr inside)⟩
    · rintro ⟨place,present⟩
      cases place with
      | free => exact mem_range.mp (mem_reverse.mp present)
      | registered => cases present
  · intro first second inFirst
    cases inFirst
  · intro entry member
    cases member
  · intro entry member
    cases member

/-- The registrations stay well formed and watched, and no request is refused while there is room, in
exactly the runs whose steps are attended. -/
theorem registrations_watched (maxRegistrations : Nat) (inputs : List UnsolicitedInput) :
    Steps unsolicitedStep (RegistrationStep maxRegistrations) inputs (unsolicitedInit maxRegistrations) ↔
      Steps unsolicitedStep Attended inputs (unsolicitedInit maxRegistrations) :=
  steps_iff unsolicitedStep (I := Sound maxRegistrations) (fun _ input sound => registrationStep_iff sound input)
    (fun _ _ sound right => sound.step (right.attended sound)) (unsolicitedInit_sound maxRegistrations)

def unmonitored : List UnsolicitedInput :=
  [.command (.register true) 10 0 ⟨2,0,0,0,0,1⟩ true,.monitorTimer 1 false true]

theorem unmonitored_wrong : ¬ Steps unsolicitedStep (RegistrationStep 2) unmonitored (unsolicitedInit 2) := by
  intro steps
  obtain running | ⟨command,present,_⟩ := steps.2.1.watched 1 (by decide)
  · exact absurd running (by decide)
  · cases present

end AecpCtx

end Genavb.Avdecc
