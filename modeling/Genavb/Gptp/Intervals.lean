import Genavb.Gptp.TwoStep

/-! The machines that set the intervals of Announce, Sync and gPTP-capable messages on request of the neighbour
(`port_fsm.c`, `gptp.c`). -/
namespace Genavb.Gptp
open Genavb.Support

def NSECS_PER_SEC : Nat := 1000000000
def NS_PER_MS : Nat := 1000000

def logToNs (logVal : Int8) : Nat :=
  let logVal := max CFG_GPTP_MIN_LOG_INTERVAL (min CFG_GPTP_MAX_LOG_INTERVAL logVal.toInt)
  if logVal < 0 then NSECS_PER_SEC / 2^(-logVal).toNat else NSECS_PER_SEC * 2^logVal.toNat

inductive IntervalMachine
  | announce
  | sync
  | gptpCapable
  deriving DecidableEq

inductive IntervalState
  | notEnabled
  | initialized
  | setInterval
  deriving DecidableEq

/-- One of the machines with its variables of the port: `rcvdSignalingMsg` is number 2, 3 or 4,
intervals are in ns, and a timer that runs is given by its ms. -/
structure IntervalSm where
  state : IntervalState
  rcvdSignalingMsg : Bool
  interval : Nat
  oldInterval : Nat
  currentLogInterval : Int8
  slowDown : Bool
  transmitTimer : Option Nat

structure IntervalSettings where
  initialLogInterval : Int8
  useMgtSettable : Bool
  mgtSettableLogInterval : Int8
  logSupportedIntervalMax : Int8
  logSupportedClosestLongerInterval : Int8

structure IntervalEnv where
  begin' : Bool
  instanceEnable : Bool
  portOper : Bool
  ptpPortEnabled : Bool
  automotive : Bool
  selectedRole : PortRole
  force2011 : Bool
  settings : IntervalMachine → IntervalSettings

/-- The first bytes of the last TLV, which are a gPTP-capable interval in the TLVs for that. -/
structure SignalingPdu where
  linkDelayInterval : Int8
  timeSyncInterval : Int8
  announceInterval : Int8

def SignalingPdu.logGptpCapableMessageInterval (pdu : SignalingPdu) : Int8 := pdu.linkDelayInterval

structure IntervalPort where
  env : IntervalEnv
  sm : IntervalMachine → IntervalSm
  signalingRx : SignalingPdu
  clockMasterLogSyncInterval : Int8

section Computation
variable (settings : IntervalSettings)

/-- `is_supported_log_announce_interval`, `is_supported_log_sync_interval` and
`is_supported_log_gptp_capable_interval`. -/
def isSupportedLogInterval (logInterval : Int8) : Bool :=
  !(logInterval < settings.logSupportedClosestLongerInterval || logInterval > settings.logSupportedIntervalMax)

/-- `compute_log_announce_interval`, `compute_log_sync_interval` and `compute_log_gptp_capable_message_interval`. -/
def computeLogInterval (logRequestedInterval : Int8) : Int8 :=
  if isSupportedLogInterval settings logRequestedInterval then logRequestedInterval
  else if logRequestedInterval > settings.logSupportedIntervalMax then settings.logSupportedIntervalMax
  else settings.logSupportedClosestLongerInterval

end Computation

def restartMs (interval : Nat) : Option Nat :=
  let ms := interval / NS_PER_MS % 2^32
  if ms = 0 then none else some ms

namespace IntervalSm
variable (settings : IntervalSettings)

def notEnabled (sm : IntervalSm) : IntervalSm :=
  let sm := if settings.useMgtSettable then {sm with
    interval := logToNs settings.mgtSettableLogInterval
    currentLogInterval := settings.mgtSettableLogInterval} else sm
  {sm with state := .notEnabled}

def initializeIntervals (sm : IntervalSm) : IntervalSm :=
  {sm with
    currentLogInterval := settings.initialLogInterval
    interval := logToNs settings.initialLogInterval
    oldInterval := logToNs settings.initialLogInterval
    rcvdSignalingMsg := false
    slowDown := false
    state := .initialized}

/-- The new interval that is asked for; `restarts` tells whether the transmit timer gets it at once. -/
def setLogInterval (restarts : Bool) (logInterval : Int8) (sm : IntervalSm) : IntervalSm :=
  {sm with
    interval := logToNs logInterval
    currentLogInterval := logInterval
    transmitTimer := if restarts then restartMs (logToNs logInterval) else sm.transmitTimer}

/-- The request of a TLV: no change, the initial interval, no messages at all, or an interval. -/
def request (restarts : Bool) (requested : Int8) (sm : IntervalSm) : IntervalSm :=
  if requested = -128 then sm
  else if requested = 126 then sm.setLogInterval restarts settings.initialLogInterval
  else if requested = 127 then {sm with
    transmitTimer := none
    currentLogInterval := requested}
  else sm.setLogInterval restarts (computeLogInterval settings requested)

/-- `port_announce_interval_setting_sm_set_interval`; a master of the automotive profile ignores the request. -/
def setAnnounceInterval (ignored : Bool) (requested : Int8) (sm : IntervalSm) : IntervalSm :=
  let sm := if ignored || settings.useMgtSettable then sm
    else
      let sm := sm.request settings true requested
      {sm with slowDown := sm.interval > sm.oldInterval}
  {sm with
    rcvdSignalingMsg := false
    state := .setInterval}

def setSyncInterval (requested : Int8) (sm : IntervalSm) : IntervalSm :=
  let sm := if settings.useMgtSettable then sm
    else
      let sm := sm.request settings true requested
      {sm with slowDown := sm.interval > sm.oldInterval}
  {sm with
    rcvdSignalingMsg := true
    state := .initialized}

def setGptpCapableInterval (requested : Int8) (sm : IntervalSm) : IntervalSm :=
  let sm := if settings.useMgtSettable then sm
    else
      let sm := sm.request settings false requested
      {sm with slowDown := sm.interval < sm.oldInterval}
  {sm with
    rcvdSignalingMsg := false
    state := .setInterval}

def once (setInterval : IntervalSm → IntervalSm) (sm : IntervalSm) : IntervalSm :=
  match sm.state with
  | .notEnabled => sm.initializeIntervals settings
  | .initialized => if sm.rcvdSignalingMsg then setInterval sm else sm
  | .setInterval => if sm.rcvdSignalingMsg then setInterval sm else sm

def settle (setInterval : IntervalSm → IntervalSm) : Nat → IntervalSm → Option IntervalSm
  | 0,_ => none
  | fuel + 1,sm =>
    let next := sm.once settings setInterval
    if next.state ≠ sm.state then settle setInterval fuel next else some next

end IntervalSm

open IntervalSm

namespace IntervalPort

def setSm (machine : IntervalMachine) (value : IntervalSm) (port : IntervalPort) : IntervalPort :=
  {port with sm := Function.update port.sm machine value}

def enabled (machine : IntervalMachine) (port : IntervalPort) : Bool :=
  !port.env.begin' && port.env.instanceEnable && port.env.portOper && port.env.ptpPortEnabled &&
    !(port.env.settings machine).useMgtSettable

def portAnnounceIntervalSettingSm (port : IntervalPort) : IntervalPort :=
  let settings := port.env.settings .announce
  let sm := port.sm .announce
  let ignored := port.env.automotive && port.env.selectedRole = .masterPort
  if !port.enabled .announce then port.setSm .announce (sm.notEnabled settings)
  else port.setSm .announce
    (sm.once settings fun sm => sm.setAnnounceInterval settings ignored port.signalingRx.announceInterval)

/-- The interval of the clock master is lowered whenever the machine sets its intervals. -/
def portSyncIntervalSettingSm (port : IntervalPort) : IntervalPort :=
  let settings := port.env.settings .sync
  let sm := port.sm .sync
  if !port.enabled .sync then port.setSm .sync (sm.notEnabled settings)
  else
    let next := sm.once settings fun sm => sm.setSyncInterval settings port.signalingRx.timeSyncInterval
    let lowers := sm.state ≠ .notEnabled ∧ sm.rcvdSignalingMsg = true ∧
      port.clockMasterLogSyncInterval > next.currentLogInterval
    {port.setSm .sync next with
      clockMasterLogSyncInterval := if lowers then next.currentLogInterval else port.clockMasterLogSyncInterval}

def portGptpCapableIntervalSettingSm (port : IntervalPort) : IntervalPort :=
  let settings := port.env.settings .gptpCapable
  let sm := port.sm .gptpCapable
  if !port.enabled .gptpCapable then port.setSm .gptpCapable (sm.notEnabled settings)
  else
    let set := fun sm : IntervalSm =>
      sm.setGptpCapableInterval settings port.signalingRx.logGptpCapableMessageInterval
    port.setSm .gptpCapable ((sm.settle settings set 3).getD sm)

def gptpPortUpdateFsm (port : IntervalPort) : IntervalPort :=
  let port := port.portSyncIntervalSettingSm.portAnnounceIntervalSettingSm
  if port.env.force2011 then port else port.portGptpCapableIntervalSettingSm

def receive (machine : IntervalMachine) (port : IntervalPort) : IntervalPort :=
  port.setSm machine {port.sm machine with rcvdSignalingMsg := true}

/-- The machines that `gptp_instance_handle_signaling` tells of a message interval request. -/
def handleIntervalRequest (pdu : SignalingPdu) (port : IntervalPort) : IntervalPort :=
  let port := {port with signalingRx := pdu}
  let port := if !port.env.automotive || port.env.selectedRole = .slavePort then
    (port.receive .announce).portAnnounceIntervalSettingSm else port
  (port.receive .sync).portSyncIntervalSettingSm

def handleGptpCapable (pdu : SignalingPdu) (port : IntervalPort) : IntervalPort :=
  if port.env.force2011 then port else {port with signalingRx := pdu}

def handleGptpCapableInterval (pdu : SignalingPdu) (port : IntervalPort) : IntervalPort :=
  if port.env.force2011 then port
  else (({port with signalingRx := pdu}).receive .gptpCapable).portGptpCapableIntervalSettingSm

end IntervalPort

open IntervalPort

/-- An event of the port or the instance, a Signaling message, or a transmission, after which other machines have left
the slow-down flag and the timer of a machine as given. -/
inductive IntervalInput
  | update (env : IntervalEnv)
  | intervalRequest (pdu : SignalingPdu)
  | gptpCapable (pdu : SignalingPdu)
  | gptpCapableInterval (pdu : SignalingPdu)
  | transmitted (machine : IntervalMachine) (slowDown : Bool) (transmitTimer : Option Nat)

def intervalStep (input : IntervalInput) (port : IntervalPort) : IntervalPort :=
  match input with
  | .update env => ({port with env := env}).gptpPortUpdateFsm
  | .intervalRequest pdu => port.handleIntervalRequest pdu
  | .gptpCapable pdu => port.handleGptpCapable pdu
  | .gptpCapableInterval pdu => port.handleGptpCapableInterval pdu
  | .transmitted machine slowDown transmitTimer =>
    port.setSm machine {port.sm machine with
      slowDown := slowDown
      transmitTimer := transmitTimer}

section Machines
variable {settings : IntervalSettings} {set : IntervalSm → IntervalSm} {sm : IntervalSm}

namespace IntervalSm

private theorem once_starts (stopped : sm.state = .notEnabled) : sm.once settings set = sm.initializeIntervals settings := by
  rw [once,stopped]

private theorem once_idle (runs : sm.state ≠ .notEnabled) (idle : sm.rcvdSignalingMsg = false) : sm.once settings set = sm := by
  unfold once
  split
  next stopped => exact absurd stopped runs
  · rw [idle,if_neg Bool.false_ne_true]
  · rw [idle,if_neg Bool.false_ne_true]

private theorem once_serves (runs : sm.state ≠ .notEnabled) (received : sm.rcvdSignalingMsg = true) :
    sm.once settings set = set sm := by
  unfold once
  split
  next stopped => exact absurd stopped runs
  · rw [received,if_pos rfl]
  · rw [received,if_pos rfl]

theorem settle_once (cleared : ∀ sm, (set sm).state = .setInterval ∧ (set sm).rcvdSignalingMsg = false) :
    sm.settle settings set 3 = some (sm.once settings set) := by
  have rest : (sm.once settings set).state ≠ sm.state →
      (sm.once settings set).once settings set = sm.once settings set := by
    intro moved
    cases stopped : sm.state with
    | notEnabled =>
      rw [once_starts stopped]
      exact once_idle (by simp [initializeIntervals]) rfl
    | initialized | setInterval =>
      have runs : sm.state ≠ .notEnabled := by simp [stopped]
      cases received : sm.rcvdSignalingMsg with
      | false =>
        rw [once_idle runs received] at moved
        exact absurd rfl moved
      | true =>
        rw [once_serves runs received]
        exact once_idle (by simp [(cleared sm).1]) (cleared sm).2
  unfold settle
  dsimp only
  split
  next moved =>
    unfold settle
    rw [rest moved,if_neg (by simp)]
  · rfl

end IntervalSm

end Machines

namespace IntervalPort
variable {machine : IntervalMachine} {port : IntervalPort}

def lastRequest (machine : IntervalMachine) (port : IntervalPort) : Int8 :=
  match machine with
  | .announce => port.signalingRx.announceInterval
  | .sync => port.signalingRx.timeSyncInterval
  | .gptpCapable => port.signalingRx.logGptpCapableMessageInterval

def serve (machine : IntervalMachine) (port : IntervalPort) (sm : IntervalSm) : IntervalSm :=
  match machine with
  | .announce => sm.setAnnounceInterval (port.env.settings .announce)
    (port.env.automotive && port.env.selectedRole = .masterPort) (port.lastRequest .announce)
  | .sync => sm.setSyncInterval (port.env.settings .sync) (port.lastRequest .sync)
  | .gptpCapable => sm.setGptpCapableInterval (port.env.settings .gptpCapable) (port.lastRequest .gptpCapable)

def driven (machine : IntervalMachine) (port : IntervalPort) : IntervalSm :=
  if port.enabled machine then (port.sm machine).once (port.env.settings machine) (port.serve machine)
  else (port.sm machine).notEnabled (port.env.settings machine)

@[simp] theorem setSm_same (value : IntervalSm) :
    (port.setSm machine value).sm machine = value := Function.update_self ..

private theorem setSm_other {other : IntervalMachine} (apart : other ≠ machine) (value : IntervalSm) :
    (port.setSm machine value).sm other = port.sm other := Function.update_of_ne apart ..

/-- A call of a machine changes nothing that other machines read. -/
structure Drives (machine : IntervalMachine) (before after : IntervalPort) : Prop where
  env : after.env = before.env
  signalingRx : after.signalingRx = before.signalingRx
  same : after.sm machine = before.driven machine
  others : ∀ other, other ≠ machine → after.sm other = before.sm other

private theorem drives_setSm : Drives machine port (port.setSm machine (port.driven machine)) :=
  ⟨rfl,rfl,setSm_same _,fun _ apart => setSm_other apart _⟩

private theorem drives_announce : Drives .announce port port.portAnnounceIntervalSettingSm := by
  have call : port.portAnnounceIntervalSettingSm = port.setSm .announce (port.driven .announce) := by
    unfold portAnnounceIntervalSettingSm driven
    cases port.enabled .announce <;> rfl
  rw [call]
  exact drives_setSm

private theorem drives_sync : Drives .sync port port.portSyncIntervalSettingSm := by
  unfold portSyncIntervalSettingSm
  cases enabled : port.enabled .sync with
  | false =>
    rw [if_pos (by simp)]
    refine ⟨rfl,rfl,?_,fun _ apart => setSm_other apart _⟩
    rw [setSm_same,driven,enabled,if_neg Bool.false_ne_true]
  | true =>
    refine ⟨rfl,rfl,?_,fun _ apart => setSm_other apart _⟩
    change (port.setSm .sync _).sm .sync = _
    rw [setSm_same,driven,enabled,if_pos rfl]
    rfl

private theorem drives_gptpCapable : Drives .gptpCapable port port.portGptpCapableIntervalSettingSm := by
  have call : port.portGptpCapableIntervalSettingSm = port.setSm .gptpCapable (port.driven .gptpCapable) := by
    unfold portGptpCapableIntervalSettingSm driven
    dsimp only
    cases port.enabled .gptpCapable with
    | false => rfl
    | true =>
      rw [settle_once fun sm => ⟨rfl,rfl⟩]
      rfl
  rw [call]
  exact drives_setSm

private theorem driven_congr {other : IntervalPort} (env : other.env = port.env)
    (signalingRx : other.signalingRx = port.signalingRx)
    (same : other.sm machine = port.sm machine) : other.driven machine = port.driven machine := by
  have enabled : other.enabled machine = port.enabled machine := by rw [IntervalPort.enabled,IntervalPort.enabled,env]
  have serve : other.serve machine = port.serve machine := by
    unfold IntervalPort.serve lastRequest
    rw [env,signalingRx]
  rw [driven,driven,enabled,env,same,serve]

end IntervalPort

def requestOf (machine : IntervalMachine) (port : IntervalPort) : IntervalInput → Option Int8
  | .update _ => none
  | .intervalRequest pdu =>
    match machine with
    | .announce =>
      if !port.env.automotive || port.env.selectedRole = .slavePort then some pdu.announceInterval else none
    | .sync => some pdu.timeSyncInterval
    | .gptpCapable => none
  | .gptpCapable _ => none
  | .gptpCapableInterval pdu =>
    match machine with
    | .announce => none
    | .sync => none
    | .gptpCapable => if port.env.force2011 then none else some pdu.logGptpCapableMessageInterval
  | .transmitted _ _ _ => none

def Active (machine : IntervalMachine) (port : IntervalPort) : Prop :=
  port.enabled machine = true ∧ (port.sm machine).state ≠ .notEnabled

/-- A request has been served: no change, the initial interval, no messages at all, or the interval
that is supported, and the messages slow down if the interval is longer than before. -/
structure Served (settings : IntervalSettings) (requested : Int8) (before after : IntervalSm) : Prop where
  unchanged : requested = -128 → after.interval = before.interval ∧ after.currentLogInterval = before.currentLogInterval
  initial : requested = 126 →
    after.interval = logToNs settings.initialLogInterval ∧ after.currentLogInterval = settings.initialLogInterval
  stop : requested = 127 →
    after.interval = before.interval ∧ after.currentLogInterval = 127 ∧ after.transmitTimer = none
  other : requested ≠ -128 → requested ≠ 126 → requested ≠ 127 →
    after.interval = logToNs (computeLogInterval settings requested) ∧
      after.currentLogInterval = computeLogInterval settings requested
  slowDown : after.slowDown = true ↔ before.interval < after.interval

/-- A step leaves no request behind, serves the one that it brings to an active machine, and changes
nothing of an active machine otherwise. -/
structure Applied (machine : IntervalMachine) (port : IntervalPort) (input : IntervalInput) : Prop where
  consumed : ((intervalStep input port).sm machine).state ≠ .notEnabled →
    ((intervalStep input port).sm machine).rcvdSignalingMsg = false
  served : ∀ requested, requestOf machine port input = some requested → Active machine port →
    Served (port.env.settings machine) requested (port.sm machine) ((intervalStep input port).sm machine)
  untouched : requestOf machine port input = none → (∀ slowDown timer, input ≠ .transmitted machine slowDown timer) →
    (port.sm machine).state ≠ .notEnabled → ((intervalStep input port).sm machine).state ≠ .notEnabled →
      (intervalStep input port).sm machine = port.sm machine
  started : (port.sm machine).state = .notEnabled → ((intervalStep input port).sm machine).state ≠ .notEnabled →
    (intervalStep input port).sm machine =
      (port.sm machine).initializeIntervals ((intervalStep input port).env.settings machine)

def requestedInterval (settings : IntervalSettings) (requested : Int8) (interval : Nat) : Nat :=
  if requested = -128 ∨ requested = 127 then interval
  else if requested = 126 then logToNs settings.initialLogInterval
  else logToNs (computeLogInterval settings requested)

/-- The comparison that each machine makes with the interval at its initialisation is that with the interval which it
replaces. -/
def Compares (machine : IntervalMachine) (settings : IntervalSettings) (requested : Int8) (sm : IntervalSm) : Prop :=
  let interval := requestedInterval settings requested sm.interval
  match machine with
  | .announce => sm.oldInterval < interval ↔ sm.interval < interval
  | .sync => False
  | .gptpCapable => interval < sm.oldInterval ↔ sm.interval < interval

/-- A request to an active machine is one that it can serve. -/
def Fits (machine : IntervalMachine) (port : IntervalPort) (input : IntervalInput) : Prop :=
  ∀ requested, requestOf machine port input = some requested → Active machine port →
    Compares machine (port.env.settings machine) requested (port.sm machine)

section Requests
variable {settings : IntervalSettings} {restarts : Bool} {requested : Int8} {sm : IntervalSm}

private theorem request_interval : (sm.request settings restarts requested).interval =
    requestedInterval settings requested sm.interval := by
  unfold request requestedInterval
  by_cases same : requested = -128
  case pos => simp [same]
  case neg =>
    by_cases initial : requested = 126
    case pos => simp [initial,setLogInterval]
    case neg =>
      by_cases stop : requested = 127
      case pos => simp [stop]
      case neg => simp [same,initial,stop,setLogInterval]

private theorem request_oldInterval : (sm.request settings restarts requested).oldInterval = sm.oldInterval := by
  unfold request
  repeat' split
  all_goals rfl

private theorem request_received : request settings restarts requested {sm with rcvdSignalingMsg := true} =
    {sm.request settings restarts requested with rcvdSignalingMsg := true} := by
  unfold request
  repeat' split
  all_goals rfl

theorem served_of_request {after : IntervalSm}
    (interval : after.interval = (sm.request settings restarts requested).interval)
    (current : after.currentLogInterval = (sm.request settings restarts requested).currentLogInterval)
    (timer : after.transmitTimer = (sm.request settings restarts requested).transmitTimer)
    (slowDown : after.slowDown = true ↔ sm.interval < requestedInterval settings requested sm.interval) :
    Served settings requested sm after := by
  rw [request_interval] at interval
  constructor
  case unchanged =>
    rintro rfl
    rw [interval,current]
    exact ⟨rfl,rfl⟩
  case initial =>
    rintro rfl
    rw [interval,current]
    exact ⟨rfl,rfl⟩
  case stop =>
    rintro rfl
    rw [interval,current,timer]
    exact ⟨rfl,rfl,rfl⟩
  case other =>
    intro same initial stop
    rw [interval,current]
    simp [requestedInterval,request,setLogInterval,same,initial,stop]
  case slowDown => rw [slowDown,interval]

private theorem served_iff {after : IntervalSm} (interval : after.interval = (sm.request settings restarts requested).interval)
    (current : after.currentLogInterval = (sm.request settings restarts requested).currentLogInterval)
    (timer : after.transmitTimer = (sm.request settings restarts requested).transmitTimer) :
    Served settings requested sm after ↔
      (after.slowDown = true ↔ sm.interval < requestedInterval settings requested sm.interval) := by
  constructor
  · intro served
    rw [served.slowDown,interval,request_interval]
  · exact served_of_request interval current timer

end Requests

section Steps
variable {machine : IntervalMachine} {port : IntervalPort} {input : IntervalInput}

theorem gptpPortUpdateFsm_sm : port.gptpPortUpdateFsm.env = port.env ∧
    (port.gptpPortUpdateFsm.sm machine = port.sm machine ∨ port.gptpPortUpdateFsm.sm machine = port.driven machine) := by
  have first := @drives_sync port
  have second := @drives_announce port.portSyncIntervalSettingSm
  have third := @drives_gptpCapable port.portSyncIntervalSettingSm.portAnnounceIntervalSettingSm
  have env := second.env.trans first.env
  have signalingRx := second.signalingRx.trans first.signalingRx
  have announce : port.portSyncIntervalSettingSm.portAnnounceIntervalSettingSm.sm .announce = port.driven .announce :=
    second.same.trans (driven_congr first.env first.signalingRx (first.others _ (by simp)))
  have sync : port.portSyncIntervalSettingSm.portAnnounceIntervalSettingSm.sm .sync = port.driven .sync :=
    (second.others _ (by simp)).trans first.same
  have capable : port.portSyncIntervalSettingSm.portAnnounceIntervalSettingSm.sm .gptpCapable = port.sm .gptpCapable :=
    (second.others _ (by simp)).trans (first.others _ (by simp))
  unfold gptpPortUpdateFsm
  dsimp only
  split
  · refine ⟨env,?_⟩
    cases machine with
    | announce => exact .inr announce
    | sync => exact .inr sync
    | gptpCapable => exact .inl capable
  · refine ⟨third.env.trans env,.inr ?_⟩
    cases machine with
    | announce => exact (third.others _ (by simp)).trans announce
    | sync => exact (third.others _ (by simp)).trans sync
    | gptpCapable => exact third.same.trans (driven_congr env signalingRx capable)

private theorem receive_same : (port.receive machine).sm machine = {port.sm machine with rcvdSignalingMsg := true} :=
  IntervalPort.setSm_same _

private theorem receive_other {other : IntervalMachine} (apart : other ≠ machine) :
    (port.receive machine).sm other = port.sm other :=
  IntervalPort.setSm_other apart _

theorem handleIntervalRequest_sm (pdu : SignalingPdu) : ∃ view : IntervalPort, view.env = port.env ∧
    view.signalingRx = pdu ∧ view.sm .sync = port.sm .sync ∧ view.sm .gptpCapable = port.sm .gptpCapable ∧
    view.sm .announce = (if requestOf .announce port (.intervalRequest pdu) = none then port.sm .announce
      else (({port with signalingRx := pdu} : IntervalPort).receive .announce).driven .announce) ∧
    port.handleIntervalRequest pdu = (view.receive .sync).portSyncIntervalSettingSm := by
  have call := @drives_announce (({port with signalingRx := pdu} : IntervalPort).receive .announce)
  unfold handleIntervalRequest requestOf
  dsimp only
  cases routed : !port.env.automotive || decide (port.env.selectedRole = .slavePort) with
  | false => exact ⟨{port with signalingRx := pdu},rfl,rfl,rfl,rfl,rfl,rfl⟩
  | true =>
    refine ⟨_,call.env,call.signalingRx,?_,?_,call.same,rfl⟩
    · exact (call.others _ (by simp)).trans (receive_other (by simp))
    · exact (call.others _ (by simp)).trans (receive_other (by simp))

theorem intervalStep_cases (machine : IntervalMachine) (port : IntervalPort) (input : IntervalInput) :
    (requestOf machine port input = none ∧ ∃ view : IntervalPort, view.env = (intervalStep input port).env ∧
      view.sm machine = port.sm machine ∧ (intervalStep input port).sm machine = view.driven machine) ∨
    (∃ requested, requestOf machine port input = some requested ∧ ∃ view : IntervalPort, view.env = port.env ∧
      view.env = (intervalStep input port).env ∧ view.lastRequest machine = requested ∧
      view.sm machine = {port.sm machine with rcvdSignalingMsg := true} ∧
      (intervalStep input port).sm machine = view.driven machine) ∨
    (requestOf machine port input = none ∧ (intervalStep input port).sm machine = port.sm machine) ∨
    ∃ slowDown transmitTimer, input = .transmitted machine slowDown transmitTimer ∧
      (intervalStep input port).sm machine = {port.sm machine with
        slowDown := slowDown
        transmitTimer := transmitTimer} := by
  cases input with
  | update env =>
    obtain ⟨same,alone | called⟩ := @gptpPortUpdateFsm_sm machine {port with env := env}
    · exact .inr (.inr (.inl ⟨rfl,alone⟩))
    · exact .inl ⟨rfl,{port with env := env},same.symm,rfl,called⟩
  | intervalRequest pdu =>
    obtain ⟨view,env,last,sync,capable,announce,handled⟩ := @handleIntervalRequest_sm port pdu
    have call := @drives_sync (view.receive .sync)
    rw [← handled] at call
    cases machine with
    | announce =>
      have after : (port.handleIntervalRequest pdu).sm .announce = view.sm .announce :=
        (call.others _ (by simp)).trans (receive_other (by simp))
      rw [announce] at after
      cases asked : requestOf .announce port (.intervalRequest pdu) with
      | none =>
        rw [asked,if_pos rfl] at after
        exact .inr (.inr (.inl ⟨rfl,after⟩))
      | some requested =>
        rw [asked,if_neg (by simp)] at after
        refine .inr (.inl ⟨requested,rfl,({port with signalingRx := pdu} : IntervalPort).receive .announce,rfl,
          (call.env.trans env).symm,?_,receive_same,after⟩)
        simp only [requestOf] at asked
        split at asked
        · exact Option.some.inj asked
        · cases asked
    | sync =>
      refine .inr (.inl ⟨pdu.timeSyncInterval,rfl,view.receive .sync,env,call.env.symm,?_,?_,call.same⟩)
      · change view.signalingRx.timeSyncInterval = _
        rw [last]
      · rw [receive_same,sync]
    | gptpCapable =>
      exact .inr (.inr (.inl ⟨rfl,(call.others _ (by simp)).trans ((receive_other (by simp)).trans capable)⟩))
  | gptpCapable pdu =>
    refine .inr (.inr (.inl ⟨rfl,?_⟩))
    change (port.handleGptpCapable pdu).sm machine = port.sm machine
    unfold handleGptpCapable
    split <;> rfl
  | gptpCapableInterval pdu =>
    have call := @drives_gptpCapable (({port with signalingRx := pdu} : IntervalPort).receive .gptpCapable)
    change (requestOf machine port _ = none ∧ ∃ view : IntervalPort, view.env = (port.handleGptpCapableInterval pdu).env ∧
      _ ∧ (port.handleGptpCapableInterval pdu).sm machine = _) ∨ (∃ requested, _ ∧ ∃ view : IntervalPort, _ ∧
        view.env = (port.handleGptpCapableInterval pdu).env ∧ _ ∧ _ ∧
          (port.handleGptpCapableInterval pdu).sm machine = _) ∨
      (_ ∧ (port.handleGptpCapableInterval pdu).sm machine = _) ∨ _
    unfold handleGptpCapableInterval requestOf
    cases port.env.force2011 with
    | true => cases machine <;> exact .inr (.inr (.inl ⟨rfl,rfl⟩))
    | false =>
      cases machine with
      | announce
      | sync => exact .inr (.inr (.inl ⟨rfl,(call.others _ (by simp)).trans (receive_other (by simp))⟩))
      | gptpCapable =>
        exact .inr (.inl ⟨_,rfl,({port with signalingRx := pdu} : IntervalPort).receive .gptpCapable,rfl,call.env.symm,
          rfl,receive_same,call.same⟩)
  | transmitted other slowDown transmitTimer =>
    by_cases same : machine = other
    case pos =>
      subst same
      exact .inr (.inr (.inr ⟨slowDown,transmitTimer,rfl,IntervalPort.setSm_same _⟩))
    case neg => exact .inr (.inr (.inl ⟨rfl,IntervalPort.setSm_other same _⟩))

def Quiet (machine : IntervalMachine) (port : IntervalPort) : Prop :=
  (port.sm machine).state ≠ .notEnabled → (port.sm machine).rcvdSignalingMsg = false

private theorem driven_disabled (disabled : port.enabled machine = false) : (port.driven machine).state = .notEnabled := by
  rw [IntervalPort.driven,disabled,if_neg Bool.false_ne_true]
  rfl

section
variable (enabled : port.enabled machine = true)
include enabled

private theorem driven_starts (stopped : (port.sm machine).state = .notEnabled) :
    port.driven machine = (port.sm machine).initializeIntervals (port.env.settings machine) := by
  rw [IntervalPort.driven,enabled,if_pos rfl,once_starts stopped]

private theorem driven_quiet (runs : (port.sm machine).state ≠ .notEnabled)
    (quiet : (port.sm machine).rcvdSignalingMsg = false) : port.driven machine = port.sm machine := by
  rw [IntervalPort.driven,enabled,if_pos rfl,once_idle runs quiet]

theorem driven_serves (runs : (port.sm machine).state ≠ .notEnabled)
    (received : (port.sm machine).rcvdSignalingMsg = true) :
    port.driven machine = port.serve machine (port.sm machine) := by
  rw [IntervalPort.driven,enabled,if_pos rfl,once_serves runs received]

end

theorem not_ignored {requested : Int8} (asked : requestOf .announce port input = some requested) :
    (port.env.automotive && decide (port.env.selectedRole = .masterPort)) = false := by
  unfold requestOf at asked
  split at asked
  · cases asked
  next pdu =>
    dsimp only at asked
    split at asked
    next routed =>
      cases automotive : port.env.automotive with
      | false => rfl
      | true =>
        have slave : port.env.selectedRole = .slavePort := by simpa [automotive] using routed
        simp [slave]
    · cases asked
  · cases asked
  · cases asked
  · cases asked

theorem serve_iff {view : IntervalPort} {requested : Int8} (asked : requestOf machine port input = some requested)
    (env : view.env = port.env) (last : view.lastRequest machine = requested) (active : Active machine port) :
    (Served (port.env.settings machine) requested (port.sm machine)
        (view.serve machine {port.sm machine with rcvdSignalingMsg := true}) ∧
      (view.serve machine {port.sm machine with rcvdSignalingMsg := true}).rcvdSignalingMsg = false) ↔
    Compares machine (port.env.settings machine) requested (port.sm machine) := by
  have free : (port.env.settings machine).useMgtSettable = false := by
    have enabled := active.1
    simp only [IntervalPort.enabled,Bool.and_eq_true,Bool.not_eq_true'] at enabled
    exact enabled.2
  unfold IntervalPort.serve
  cases machine with
  | announce =>
    rw [env,last,not_ignored asked]
    unfold setAnnounceInterval Compares
    rw [free,Bool.or_self,if_neg Bool.false_ne_true,request_received]
    rw [and_iff_left rfl]
    refine Iff.trans (@served_iff _ true requested (port.sm .announce) _ ?_ ?_ ?_) ?_
    iterate 3 rfl
    rw [decide_eq_true_iff,gt_iff_lt,request_interval,request_oldInterval]
  | sync =>
    unfold Compares
    rw [iff_false]
    rintro ⟨_,cleared⟩
    cases cleared
  | gptpCapable =>
    rw [env,last]
    unfold setGptpCapableInterval Compares
    rw [free,if_neg Bool.false_ne_true,request_received]
    rw [and_iff_left rfl]
    refine Iff.trans (@served_iff _ false requested (port.sm .gptpCapable) _ ?_ ?_ ?_) ?_
    iterate 3 rfl
    rw [decide_eq_true_iff,request_interval,request_oldInterval]

theorem view_enabled {view : IntervalPort} (env : view.env = port.env) :
    view.enabled machine = port.enabled machine := by
  rw [IntervalPort.enabled,IntervalPort.enabled,env]

private theorem applied_of_none (none : requestOf machine port input = none) {after : IntervalSm}
    (called : (intervalStep input port).sm machine = after)
    (consumed : after.state ≠ .notEnabled → after.rcvdSignalingMsg = false)
    (untouched : (∀ slowDown timer, input ≠ .transmitted machine slowDown timer) → (port.sm machine).state ≠ .notEnabled →
      after.state ≠ .notEnabled → after = port.sm machine)
    (started : (port.sm machine).state = .notEnabled → after.state ≠ .notEnabled →
      after = (port.sm machine).initializeIntervals ((intervalStep input port).env.settings machine)) :
    Applied machine port input ↔ Fits machine port input := by
  subst called
  constructor
  · intro _ requested asked
    rw [none] at asked
    cases asked
  · intro _
    refine ⟨consumed,fun requested asked => ?_,fun _ => untouched,started⟩
    rw [none] at asked
    cases asked

theorem applied_of_inactive (inactive : ¬Active machine port) {after : IntervalSm}
    (called : (intervalStep input port).sm machine = after)
    (stays : after.state = .notEnabled ∨ (port.sm machine).state = .notEnabled ∧
      after = (port.sm machine).initializeIntervals ((intervalStep input port).env.settings machine)) :
    Applied machine port input ↔ Fits machine port input := by
  subst called
  constructor
  · intro _ requested _ active
    exact absurd active inactive
  · intro _
    refine ⟨fun runs => ?_,fun _ _ active => absurd active inactive,fun _ _ ran runs => ?_,fun _ runs => ?_⟩
    all_goals rcases stays with halted | ⟨stopped,starts⟩
    · exact absurd halted runs
    · rw [starts]
      rfl
    · exact absurd halted runs
    · exact absurd stopped ran
    · exact absurd halted runs
    · exact starts

theorem applied_iff (quiet : Quiet machine port) : Applied machine port input ↔ Fits machine port input := by
  rcases intervalStep_cases machine port input with ⟨none,view,env,same,called⟩ |
    ⟨requested,asked,view,env,after,last,same,called⟩ | ⟨none,alone⟩ | ⟨slowDown,transmitTimer,rfl,alone⟩
  · rw [Quiet,← same] at quiet
    apply applied_of_none none called
    · intro runs
      cases enabled : view.enabled machine with
      | false => exact absurd (driven_disabled enabled) runs
      | true =>
        by_cases stopped : (view.sm machine).state = .notEnabled
        case pos =>
          rw [driven_starts enabled stopped]
          rfl
        case neg =>
          rw [driven_quiet enabled stopped (quiet stopped)]
          exact quiet stopped
    · intro _ ran runs
      cases enabled : view.enabled machine with
      | false => exact absurd (driven_disabled enabled) runs
      | true =>
        rw [← same] at ran ⊢
        exact driven_quiet enabled ran (quiet ran)
    · intro stopped runs
      cases enabled : view.enabled machine with
      | false => exact absurd (driven_disabled enabled) runs
      | true =>
        rw [← same] at stopped ⊢
        rw [driven_starts enabled stopped,env]
  · have enabled := @view_enabled machine _ view env
    by_cases active : Active machine port
    case pos =>
      have serves : (intervalStep input port).sm machine =
          view.serve machine {port.sm machine with rcvdSignalingMsg := true} := by
        rw [called,driven_serves (enabled.trans active.1) (by rw [same]; exact active.2) (by rw [same]),same]
      have exactly := serve_iff asked env last active
      rw [← serves] at exactly
      have running : ((intervalStep input port).sm machine).state ≠ .notEnabled := by
        rw [serves]
        cases machine <;> simp [IntervalPort.serve,setAnnounceInterval,setSyncInterval,
          setGptpCapableInterval]
      constructor
      · intro applied other asked' _
        rw [asked] at asked'
        cases asked'
        exact exactly.mp ⟨applied.served requested asked active,applied.consumed running⟩
      · intro fits
        have fine := exactly.mpr (fits requested asked active)
        refine ⟨fun _ => fine.2,fun other asked' _ => ?_,fun none => ?_,fun stopped => absurd stopped active.2⟩
        · rw [asked] at asked'
          cases asked'
          exact fine.1
        · rw [asked] at none
          cases none
    case neg =>
      apply applied_of_inactive active called
      cases on : port.enabled machine with
      | false => exact .inl (driven_disabled (enabled.trans on))
      | true =>
        have stopped : (port.sm machine).state = .notEnabled := by
          by_contra runs
          exact active ⟨on,runs⟩
        have starts := driven_starts (enabled.trans on) (by rw [same]; exact stopped)
        rw [after,same] at starts
        exact .inr ⟨stopped,starts⟩
  · exact applied_of_none none alone quiet (fun _ _ _ => rfl) fun stopped runs => absurd stopped runs
  · exact applied_of_none rfl alone quiet (fun apart => absurd rfl (apart slowDown transmitTimer)) fun stopped runs =>
      absurd stopped runs

end Steps

def IntervalPort.start (env : IntervalEnv) (clockMasterLogSyncInterval : Int8) : IntervalPort where
  env := env
  sm := fun _ => ⟨.notEnabled,false,0,0,0,false,none⟩
  signalingRx := ⟨0,0,0⟩
  clockMasterLogSyncInterval := clockMasterLogSyncInterval

/-- A machine applies every request once in a run exactly if it can serve each. -/
theorem intervals_applied (machine : IntervalMachine) (env : IntervalEnv) (clockMasterLogSyncInterval : Int8)
    (inputs : List IntervalInput) :
    Steps intervalStep (Applied machine) inputs (.start env clockMasterLogSyncInterval) ↔
      Steps intervalStep (Fits machine) inputs (.start env clockMasterLogSyncInterval) := by
  apply @steps_iff _ _ _ _ _ (Quiet machine)
  · intro port input quiet
    exact applied_iff quiet
  · intro port input _ applied
    exact applied.consumed
  · intro runs
    exact absurd rfl runs

theorem sync_request_stays : ¬∀ (machine : IntervalMachine) (env : IntervalEnv) (clockMasterLogSyncInterval : Int8)
    (inputs : List IntervalInput),
    Steps intervalStep (Applied machine) inputs (.start env clockMasterLogSyncInterval) := by
  intro applied
  let env : IntervalEnv := ⟨false,true,true,true,false,.masterPort,false,fun _ => ⟨-3,false,-3,0,-5⟩⟩
  have steps := applied .sync env 0 [.update env,.intervalRequest ⟨0,-4,0⟩]
  have consumed := steps.2.1.consumed (by decide)
  revert consumed
  decide

end Genavb.Gptp
