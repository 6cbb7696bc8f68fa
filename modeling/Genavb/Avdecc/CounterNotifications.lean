import Genavb.Support.Run
import Mathlib.Data.List.Chain

/-! The counters and the path sequences of the dynamic descriptors (`avdecc.c`, `acmp.c`, `acmp_milan.c`), and the
notifications of their changes, of which a timer allows one in each of its periods (`aecp.c`). -/
namespace Genavb.Avdecc
open Support

structure AvbInterfaceCounters where
  operationalState : Bool
  gptpGrandmasterId : UInt64
  linkUp : UInt32
  linkDown : UInt32
  gptpGmChanged : UInt32

structure StreamInputCounters where
  mediaLocked : UInt32
  mediaUnlocked : UInt32
  streamInterrupted : UInt32
  seqNumMismatch : UInt32
  mediaReset : UInt32
  timestampUncertain : UInt32
  unsupportedFormat : UInt32
  lateTimestamp : UInt32
  earlyTimestamp : UInt32
  frameRx : UInt32

structure StreamOutputCounters where
  streamStart : UInt32
  streamStop : UInt32
  mediaReset : UInt32
  timestampUncertain : UInt32
  frameTx : UInt32

/-- What the notifications of a descriptor tell of it: GET_COUNTERS, or GET_AS_PATH of an interface. -/
inductive CountedDesc
  | avbInterface (counters : AvbInterfaceCounters)
  | clockDomain (locked unlocked : UInt32)
  | streamInput (counters : StreamInputCounters)
  | streamOutput (counters : StreamOutputCounters)
  | asPath (maxPtlvEntries : Nat) (pathSequence : List UInt64)

structure ListenerCounters where
  rx : UInt32
  pktLost : UInt32
  mr : UInt32
  tu : UInt32
  unsupportedFormat : UInt32
  earlyTimestamp : UInt32
  lateTimestamp : UInt32

/-- What changes a descriptor: the status of the link, the grandmaster and the clock domain, the clock domain of a
stream input, the counters of the media stack, a bind command to an unbound sink, and a talker that starts and stops. -/
inductive CountedChange
  | macServiceStatus (operational : Bool)
  | gmStatus (gmId : UInt64) (pathSequence : List UInt64)
  | clockDomainStatus (isLocked : Bool)
  | mediaClock (locked unlocked : UInt32)
  | listenerCounters (isRunning : Bool) (counters : ListenerCounters)
  | bound
  | talkerConnect
  | talkerDisconnect
  | talkerCounters (tx mr : UInt32)

namespace CountedDesc

/-- `aecp_aem_get_counters_response` and `aecp_aem_get_as_path_response`. -/
def values : CountedDesc → List UInt64
  | .avbInterface counters => [counters.linkUp,counters.linkDown,counters.gptpGmChanged].map UInt32.toUInt64
  | .clockDomain locked unlocked => [locked,unlocked].map UInt32.toUInt64
  | .streamInput counters =>
    [counters.mediaLocked,counters.mediaUnlocked,counters.streamInterrupted,counters.seqNumMismatch,counters.mediaReset,
      counters.timestampUncertain,counters.unsupportedFormat,counters.lateTimestamp,counters.earlyTimestamp,
      counters.frameRx].map UInt32.toUInt64
  | .streamOutput counters =>
    [counters.streamStart,counters.streamStop,counters.mediaReset,counters.timestampUncertain,counters.frameTx].map
      UInt32.toUInt64
  | .asPath _ pathSequence => pathSequence

/-- The descriptor after a change, and whether a notification is registered for it. -/
def update (isReady : Bool) (change : CountedChange) (desc : CountedDesc) : CountedDesc × Bool :=
  match change,desc with
  | .macServiceStatus operational,.avbInterface counters =>
    (.avbInterface {counters with
      operationalState := operational
      linkUp := if !counters.operationalState && operational then counters.linkUp + 1 else counters.linkUp
      linkDown := if counters.operationalState && !operational then counters.linkDown + 1 else counters.linkDown},
      isReady && counters.operationalState != operational)
  | .gmStatus gmId _,.avbInterface counters =>
    if counters.gptpGrandmasterId = gmId then (desc,false)
    else (.avbInterface {counters with gptpGrandmasterId := gmId,gptpGmChanged := counters.gptpGmChanged + 1},isReady)
  | .gmStatus _ message,.asPath maxPtlvEntries pathSequence =>
    let stored := message.take maxPtlvEntries
    (.asPath maxPtlvEntries stored,isReady && (pathSequence.length != message.length || pathSequence != stored))
  | .clockDomainStatus isLocked,.clockDomain locked unlocked =>
    if isLocked then if locked - unlocked = 0 then (.clockDomain (locked + 1) unlocked,true) else (desc,false)
    else if locked - unlocked = 1 then (.clockDomain locked (unlocked + 1),true) else (desc,false)
  | .mediaClock locked unlocked,.streamInput counters =>
    (.streamInput {counters with mediaLocked := locked,mediaUnlocked := unlocked},
      counters.mediaLocked != locked || counters.mediaUnlocked != unlocked)
  | .listenerCounters isRunning stack,.streamInput counters =>
    if !isReady then (desc,false)
    else
      let isInterrupted := isRunning && 0 < counters.frameRx && counters.frameRx == stack.rx
      (.streamInput {counters with
        streamInterrupted := if isInterrupted then counters.streamInterrupted + 1 else counters.streamInterrupted
        seqNumMismatch := stack.pktLost
        mediaReset := stack.mr
        timestampUncertain := stack.tu
        unsupportedFormat := stack.unsupportedFormat
        earlyTimestamp := stack.earlyTimestamp
        lateTimestamp := stack.lateTimestamp
        frameRx := stack.rx},
        counters.frameRx != stack.rx || counters.seqNumMismatch != stack.pktLost || counters.mediaReset != stack.mr ||
          counters.timestampUncertain != stack.tu || counters.unsupportedFormat != stack.unsupportedFormat ||
          counters.earlyTimestamp != stack.earlyTimestamp || counters.lateTimestamp != stack.lateTimestamp ||
          isInterrupted)
  | .bound,.streamInput _ => (.streamInput ⟨0,0,0,0,0,0,0,0,0,0⟩,false)
  | .talkerConnect,.streamOutput counters =>
    (.streamOutput ⟨counters.streamStart + 1,counters.streamStop,0,0,0⟩,true)
  | .talkerDisconnect,.streamOutput counters =>
    (.streamOutput {counters with streamStop := counters.streamStop + 1},true)
  | .talkerCounters tx mr,.streamOutput counters =>
    if !isReady then (desc,false)
    else (.streamOutput {counters with frameTx := tx,mediaReset := mr},
      counters.frameTx != tx || counters.mediaReset != mr)
  | _,_ => (desc,false)

/-- The changes that register a notification. -/
def Registers (isReady : Bool) (change : CountedChange) (desc : CountedDesc) : Prop :=
  match change,desc with
  | .macServiceStatus operational,.avbInterface counters => isReady = true ∧ counters.operationalState ≠ operational
  | .gmStatus gmId _,.avbInterface counters => isReady = true ∧ counters.gptpGrandmasterId ≠ gmId
  | .gmStatus _ message,.asPath maxPtlvEntries pathSequence =>
    isReady = true ∧ (pathSequence.length ≠ message.length ∨ pathSequence ≠ message.take maxPtlvEntries)
  | .clockDomainStatus isLocked,.clockDomain locked unlocked => locked - unlocked = if isLocked then 0 else 1
  | .mediaClock locked unlocked,.streamInput counters =>
    counters.mediaLocked ≠ locked ∨ counters.mediaUnlocked ≠ unlocked
  | .listenerCounters isRunning stack,.streamInput counters =>
    isReady = true ∧ (counters.frameRx ≠ stack.rx ∨ counters.seqNumMismatch ≠ stack.pktLost ∨
      counters.mediaReset ≠ stack.mr ∨ counters.timestampUncertain ≠ stack.tu ∨
      counters.unsupportedFormat ≠ stack.unsupportedFormat ∨ counters.earlyTimestamp ≠ stack.earlyTimestamp ∨
      counters.lateTimestamp ≠ stack.lateTimestamp ∨ isRunning = true ∧ 0 < counters.frameRx)
  | .talkerConnect,.streamOutput _ => True
  | .talkerDisconnect,.streamOutput _ => True
  | .talkerCounters tx mr,.streamOutput counters =>
    isReady = true ∧ (counters.frameTx ≠ tx ∨ counters.mediaReset ≠ mr)
  | _,_ => False

/-- The changes that nobody is told of: those of an interface and its path while the entity is not ready, and the
counters that a bind command clears. -/
def Silent (isReady : Bool) (change : CountedChange) (desc : CountedDesc) : Prop :=
  match change,desc with
  | .macServiceStatus operational,.avbInterface counters => isReady = false ∧ counters.operationalState ≠ operational
  | .gmStatus gmId _,.avbInterface counters => isReady = false ∧ counters.gptpGrandmasterId ≠ gmId
  | .gmStatus _ message,.asPath maxPtlvEntries pathSequence =>
    isReady = false ∧ pathSequence ≠ message.take maxPtlvEntries
  | .bound,.streamInput counters => counters ≠ ⟨0,0,0,0,0,0,0,0,0,0⟩
  | _,_ => False

variable {isReady : Bool} {change : CountedChange} {desc : CountedDesc}
theorem update_registers : (desc.update isReady change).2 = true ↔ desc.Registers isReady change := by
  fun_cases update isReady change desc <;> simp_all [Registers]
  case case4 stored => exact fun _ => Iff.rfl
  case case11 isRunning stack counters isInterrupted ready =>
    by_cases same : counters.frameRx = stack.rx
    · simp [isInterrupted,same,or_assoc]
    · simp [same]

theorem update_silent : desc.Silent isReady change ↔
    ¬desc.Registers isReady change ∧ (desc.update isReady change).1 ≠ desc := by
  fun_cases update isReady change desc <;> simp_all [Registers,Silent]
  case case1 operational counters =>
    cases counters
    cases isReady <;> grind
  case case3 gmId pathSequence counters other =>
    cases counters
    grind
  case case4 message maxPtlvEntries pathSequence stored =>
    cases isReady <;> grind
  case case9 locked unlocked counters =>
    cases counters
    grind
  case case11 isRunning stack counters isInterrupted ready =>
    cases counters
    grind
  case case12 counters => exact ne_comm
  case case16 tx mr counters ready =>
    cases counters
    grind

end CountedDesc

/-- What was sent for a descriptor, and the periods of its timer that ended. -/
inductive CoalescedEvent
  | notification (values : List UInt64)
  | expiry
  deriving DecidableEq

/-- A descriptor with its flags and its timer; `notified` are the values that the last notification has read. -/
structure Coalescing where
  desc : CountedDesc
  pending : Bool
  timerRunning : Bool
  timer : Bool
  notified : List UInt64
  events : List CoalescedEvent

/-- What a registration meets: whether `aecp_aem_send_async_unsolicited_notification` returns 0, and whether the
operating system starts the timer. -/
structure Coalesces where
  sent : Bool
  started : Bool

inductive CoalescingInput
  | change (isReady : Bool) (change : CountedChange) (answer : Coalesces)
  | timeout (answer : Coalesces)

namespace Coalescing

def init (desc : CountedDesc) : Coalescing := ⟨desc,false,false,false,desc.values,[]⟩

/-- `aecp_register_get_counters_async_notification` and `aecp_register_get_as_path_asyn_notification`. -/
def register (answer : Coalesces) (state : Coalescing) : Coalescing :=
  if !state.timerRunning then
    {state with
      pending := false
      timerRunning := true
      timer := state.timer || answer.started
      notified := if answer.sent then state.desc.values else state.notified
      events := if answer.sent then state.events ++ [.notification state.desc.values] else state.events}
  else {state with pending := true}

/-- The handlers of the notification timers. A timer that does not run does not expire. -/
def timeout (answer : Coalesces) (state : Coalescing) : Coalescing :=
  if state.timer then
    let state : Coalescing := {state with timer := false,timerRunning := false,events := state.events ++ [.expiry]}
    if state.pending then state.register answer else state
  else state

def step : CoalescingInput → Coalescing → Coalescing
  | .change isReady change answer,state =>
    let (desc,isRegistered) := state.desc.update isReady change
    let state := {state with desc := desc}
    if isRegistered then state.register answer else state
  | .timeout answer,state => state.timeout answer

/-- No two notifications without the end of a period between them. -/
def Paced (events : List CoalescedEvent) : Prop :=
  events.IsChain fun first second => first = .expiry ∨ second = .expiry

/-- At most one notification was sent in a period of the timer, and with the timer stopped the descriptor is as the
last one told. -/
structure Coalesced (state : Coalescing) : Prop where
  paced : Paced state.events
  told : state.timer = false → state.notified = state.desc.values

/-- No change is passed over, and a notification that is due is sent and starts its timer. -/
def Answered (state : Coalescing) : CoalescingInput → Prop
  | .change isReady change answer => ¬state.desc.Silent isReady change ∧
    (state.desc.Registers isReady change → state.timerRunning = false → answer = ⟨true,true⟩)
  | .timeout answer => state.timer = true → state.pending = true → answer = ⟨true,true⟩

structure Kept (state : Coalescing) : Prop where
  paced : Paced state.events
  rested : state.timerRunning = false → ∀ event ∈ state.events.getLast?, event = .expiry
  timer : state.timer = state.timerRunning
  idle : state.timerRunning = false → state.pending = false
  told : state.pending = false → state.notified = state.desc.values

private theorem register_kept {state : Coalescing} {answer : Coalesces} (paced : Paced state.events)
    (rested : state.timerRunning = false → ∀ event ∈ state.events.getLast?, event = .expiry)
    (timer : state.timer = state.timerRunning) (answered : state.timerRunning = false → answer = ⟨true,true⟩) :
    Kept (state.register answer) := by
  unfold register
  cases running : state.timerRunning with
  | false =>
    obtain rfl := answered running
    refine ⟨?_,nofun,Bool.or_true _,nofun,fun _ => rfl⟩
    refine List.isChain_append.mpr ⟨paced,.singleton _,fun last member _ _ => .inl ?_⟩
    exact rested running last member
  | true => exact ⟨paced,nofun,timer.trans running,nofun,nofun⟩

theorem step_kept (state : Coalescing) (input : CoalescingInput) (kept : Kept state) (answered : Answered state input) :
    Kept (step input state) := by
  cases input with
  | change isReady change answer =>
    obtain ⟨told,answered⟩ := answered
    have registers : _ ↔ state.desc.Registers isReady change := CountedDesc.update_registers
    have silent : state.desc.Silent isReady change ↔ _ := CountedDesc.update_silent
    rw [silent,not_and,← registers,Ne,not_not] at told
    rw [← registers] at answered
    rw [step]
    generalize state.desc.update isReady change = updated at told answered ⊢
    obtain ⟨desc,isRegistered⟩ := updated
    cases isRegistered with
    | true => exact register_kept kept.paced kept.rested kept.timer (answered rfl)
    | false =>
      obtain rfl := told Bool.false_ne_true
      exact kept
  | timeout answer =>
    have ended : Paced (state.events ++ [.expiry]) :=
      List.isChain_append.mpr ⟨kept.paced,.singleton _,fun _ _ _ member => .inr (Option.some.inj member).symm⟩
    have last (event : CoalescedEvent) (member : event ∈ (state.events ++ [CoalescedEvent.expiry]).getLast?) :
        event = .expiry := by
      rw [List.getLast?_concat] at member
      exact (Option.some.inj member).symm
    rw [step,timeout]
    split
    next runs =>
      dsimp only
      split
      next due => exact register_kept ended (fun _ => last) rfl fun _ => answered runs due
      next clear => exact ⟨ended,fun _ => last,rfl,fun _ => Bool.eq_false_iff.mpr clear,kept.told⟩
    · exact kept

/-- A run in which no change is passed over and every notification that is due is sent loses nothing. -/
theorem notifications_coalesce (desc : CountedDesc) (inputs : List CoalescingInput)
    (answered : Steps step Answered inputs (init desc)) : Coalesced (run step inputs (init desc)) := by
  have start : Kept (init desc) := ⟨.nil,nofun,rfl,fun _ => rfl,fun _ => rfl⟩
  have kept : Kept (run step inputs (init desc)) := run_invariant step step_kept start answered
  exact ⟨kept.paced,fun stopped => kept.told (kept.idle (kept.timer.symm.trans stopped))⟩

def receivedFrames : List CoalescingInput :=
  [.change true (.listenerCounters true ⟨5,0,0,0,0,0,0⟩) ⟨true,true⟩,.timeout ⟨true,true⟩]

theorem notifications_coalesce_received : Coalesced (run step receivedFrames (init (.streamInput ⟨0,0,0,0,0,0,0,0,0,0⟩))) :=
  notifications_coalesce _ _ ⟨⟨id,fun _ _ => rfl⟩,nofun,trivial⟩

/-- A sink that is bound again after its stream has stopped starts with new counters, of which nobody is told. -/
theorem bound_unnotified : ¬ ∀ (desc : CountedDesc) (inputs : List CoalescingInput),
    Coalesced (run step inputs (init desc)) := by
  intro always
  have told := (always (.streamInput ⟨0,0,0,0,0,0,0,0,0,0⟩) (receivedFrames ++ [.change true .bound ⟨true,true⟩])).told
    (by decide)
  exact absurd told (by decide)

end Coalescing

end Genavb.Avdecc
