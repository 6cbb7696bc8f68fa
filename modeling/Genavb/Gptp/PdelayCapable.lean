import Mathlib.Tactic.IntervalCases
import Genavb.Gptp.Intervals
import Genavb.Gptp.PdelayCoherence

/-! What the machine that requests the peer delay makes of asCapableAcrossDomains and of the timer of its requests
(`md_fsm_802_3.c`, `gptp.c`). -/
namespace Genavb.Gptp
open Support PdelayReqPort PdelayReqState

def PICS_AVNU_PTP_5_MULT_RESPONSES_MAX : Nat := 3
def PICS_AVNU_PTP_5_PDELAY_REQ_DELAY_MS : Nat := 300000

structure PdelayLinkConfig where
  req : PdelayReqConfig
  asCapableStatic : Bool
  allowedFaults : UInt8
  meanLinkDelayThresh : Nat
  initialNeighborPropDelay : Nat
  interval : IntervalSettings

/-- The requester with the state of its link; the request timer runs with some number of ms.
`unanswered` requests have been sent before the last one since one was answered, and the neighbour
has `stopped` the requests; the code keeps neither. -/
structure PdelayLink where
  req : PdelayReqPort
  asCapableAcrossDomains : Bool
  detectedFaults : UInt16
  multipleResponses : UInt16
  meanLinkDelay : Nat
  reqTimer : Option Nat
  pdelayReqInterval : Nat
  currentLogPdelayReqInterval : Int8
  unanswered : Nat
  stopped : Bool

namespace PdelayLink

section Machine
-- `propTime` is what `md_pdelay_req_compute_prop_time` computes, if it does.
variable (config : PdelayLinkConfig) (conditions : PdelayReqConditions) (propTime : Nat)

def gptpAsCapableAcrossDomainsDown (link : PdelayLink) : PdelayLink :=
  {link with asCapableAcrossDomains := link.asCapableAcrossDomains && config.asCapableStatic}

def gptpAsCapableAcrossDomainsUp (link : PdelayLink) : PdelayLink := {link with asCapableAcrossDomains := true}

def smReset (link : PdelayLink) : PdelayLink :=
  let lost := link.req.lostResponses.toNat < config.req.allowedLostResponses.toNat
  let link := {if lost then link else link.gptpAsCapableAcrossDomainsDown config with
    req := link.req.smReset config.req}
  if link.multipleResponses.toNat ≥ PICS_AVNU_PTP_5_MULT_RESPONSES_MAX then {link with
    reqTimer := some PICS_AVNU_PTP_5_PDELAY_REQ_DELAY_MS
    multipleResponses := 0}
  else link

def smInitialSend (link : PdelayLink) : PdelayLink :=
  {link.gptpAsCapableAcrossDomainsDown config with
    req := link.req.smInitialSend config.req conditions
    detectedFaults := 0
    reqTimer := restartMs link.pdelayReqInterval
    unanswered := 0
    stopped := false}

/-- `md_pdelay_req_sm_send`; a timer that runs is not started again. -/
def smSend (link : PdelayLink) : PdelayLink :=
  {link with
    req := link.req.smSend config.req conditions
    reqTimer := if link.reqTimer.isSome then link.reqTimer else restartMs link.pdelayReqInterval
    unanswered := if link.req.state = .reset then link.unanswered + 1 else link.unanswered}

def computesPropTime (req : PdelayReqPort) : Bool :=
  let (req,phaseDiscont) :=
    if conditions.computeNeighborRateRatio then req.computePdelayRateRatio conditions else (req,false)
  conditions.computeMeanLinkDelay && !phaseDiscont && req.prevPdelayPhaseDiscont = conditions.phaseDiscont &&
    req.neighborRateRatioValid

/-- The link with what an exchange has been found to be: a delay within the threshold to another clock. -/
def judged (link : PdelayLink) : PdelayLink :=
  let foreign := link.req.exchange.respRx.sourcePortId.clockIdentity ≠ config.req.identity.clockIdentity
  if link.meanLinkDelay ≤ config.meanLinkDelayThresh ∧ foreign ∧ link.req.neighborRateRatioValid = true then
    {link.gptpAsCapableAcrossDomainsUp with detectedFaults := 0}
  else if foreign then {link.gptpAsCapableAcrossDomainsDown config with detectedFaults := 0}
  else if link.detectedFaults.toNat ≤ config.allowedFaults.toNat then
    {link with detectedFaults := link.detectedFaults + 1}
  else {link.gptpAsCapableAcrossDomainsDown config with detectedFaults := 0}

def smWaitingInterval (link : PdelayLink) : PdelayLink :=
  judged config {link with
    req := link.req.smWaitingInterval conditions
    multipleResponses := 0
    meanLinkDelay := if computesPropTime conditions link.req then propTime else link.meanLinkDelay
    unanswered := 0}

def smWaitingIntervalStaticPdelay (link : PdelayLink) : PdelayLink :=
  {link with
    req := link.req.smWaitingIntervalStaticPdelay
    meanLinkDelay := config.initialNeighborPropDelay}

def smPass (event : PdelayReqEvent) (link : PdelayLink) : PdelayLink :=
  match link.req.state with
  | .notEnabled =>
    if config.req.pdelayTransmitEnabled then link.smInitialSend config conditions
    else {link with meanLinkDelay := config.initialNeighborPropDelay}
  | .reset =>
    if event = .reqInterval then
      smSend config conditions {link with
        req := {link.req with rcvdPdelayResp := false,rcvdPdelayRespFollowUp := false}}
    else link
  | .initialSendPdelayReq | .sendPdelayReq =>
    if event = .reqInterval then link.smReset config
    else if link.req.rcvdMdTimestampReceive then {link with req := link.req.smWaitingResp}
    else link
  | .waitingForPdelayResp =>
    if event = .reqInterval then
      (if config.req.staticPdelay then link.smWaitingIntervalStaticPdelay config else link).smReset config
    else if link.req.rcvdPdelayResp then
      if link.req.exchange.isRespValid then {link with req := link.req.smWaitingFup} else link.smReset config
    else link
  | .waitingForPdelayRespFollowUp =>
    if event = .reqInterval then link.smReset config
    else if link.req.rcvdPdelayResp &&
        link.req.exchange.respRx.sequenceId = link.req.exchange.txPdelayReq.sequenceId then
      ({link.gptpAsCapableAcrossDomainsDown config with
        multipleResponses := link.multipleResponses + 1}).smReset config
    else if link.req.rcvdPdelayRespFollowUp && link.req.exchange.isRespFupValid then
      link.smWaitingInterval config conditions propTime
    else link
  | .waitingForPdelayIntervalTimer => if event = .reqInterval then link.smSend config conditions else link

def smLoop : Nat → PdelayReqEvent → PdelayLink → PdelayLink
  | 0,_,link => {link with req := {link.req with fault := true}}
  | passes + 1,event,link =>
    let next := link.smPass config conditions propTime event
    if next.req.state = link.req.state then next
    else smLoop passes (nextEvent event next.req) next

def mdPdelayReqSm (event : PdelayReqEvent) (link : PdelayLink) : PdelayLink :=
  if conditions.begin || !conditions.portOper || !conditions.portEnabled0 then
    {link with req := {link.req with state := .notEnabled}}
  else smLoop config conditions propTime 6 event link

end Machine

def setInterval (settings : IntervalSettings) (linkDelayInterval : Int8) (link : PdelayLink) : PdelayLink :=
  let restart (log : Int8) : PdelayLink := {link with
    pdelayReqInterval := logToNs log
    reqTimer := restartMs (logToNs log)
    currentLogPdelayReqInterval := log
    stopped := false}
  if settings.useMgtSettable then link
  else if linkDelayInterval = -128 then link
  else if linkDelayInterval = 126 then restart settings.initialLogInterval
  else if linkDelayInterval = 127 then {link with
    reqTimer := none
    currentLogPdelayReqInterval := linkDelayInterval
    stopped := true}
  else restart (computeLogInterval settings linkDelayInterval)

end PdelayLink

/-- What happens to a link: the requester is told something, the neighbour asks for an interval, or one is set by the
initialisation of the interval machine, the management, or `gptp_sync_indication`. -/
inductive PdelayLinkInput where
  | machine (input : PdelayReqInput) (conditions : PdelayReqConditions) (propTime : Nat)
  | intervalRequest (linkDelayInterval : Int8)
  | initialInterval (log : Int8)
  | operInterval (log : Int8)

namespace PdelayLink

def step (config : PdelayLinkConfig) (input : PdelayLinkInput) (link : PdelayLink) : PdelayLink :=
  match input with
  | .machine .reqTimer conditions propTime =>
    if link.reqTimer.isSome then
      mdPdelayReqSm config conditions propTime .reqInterval {link with reqTimer := none}
    else link
  | .machine input conditions propTime =>
    mdPdelayReqSm config conditions propTime .run {link with req := link.req.stored input}
  | .intervalRequest linkDelayInterval => link.setInterval config.interval linkDelayInterval
  | .initialInterval log => {link with
    pdelayReqInterval := logToNs log
    currentLogPdelayReqInterval := log}
  | .operInterval log => {link with pdelayReqInterval := logToNs log}

end PdelayLink

namespace PdelayLink

section Machine
variable {config : PdelayLinkConfig} {conditions : PdelayReqConditions} {propTime : Nat} {event : PdelayReqEvent}
  {link : PdelayLink}

theorem smReset_same : ∃ reqTimer multipleResponses, link.smReset config = {link with
    req := link.req.smReset config.req
    asCapableAcrossDomains := link.asCapableAcrossDomains &&
      (link.req.lostResponses.toNat < config.req.allowedLostResponses.toNat || config.asCapableStatic)
    reqTimer := reqTimer
    multipleResponses := multipleResponses} ∧ (link.reqTimer.isSome = true → reqTimer.isSome = true) := by
  unfold smReset
  by_cases lost : link.req.lostResponses.toNat < config.req.allowedLostResponses.toNat
  all_goals by_cases many : link.multipleResponses.toNat ≥ PICS_AVNU_PTP_5_MULT_RESPONSES_MAX
  all_goals simp only [lost,many,if_true,if_false,gptpAsCapableAcrossDomainsDown,decide_true,decide_false,Bool.true_or,
    Bool.false_or,Bool.and_true]
  · exact ⟨_,_,rfl,fun _ => rfl⟩
  · exact ⟨_,_,rfl,id⟩
  · exact ⟨_,_,rfl,fun _ => rfl⟩
  · exact ⟨_,_,rfl,id⟩

@[simp] theorem smReset_req : (link.smReset config).req = link.req.smReset config.req := by
  obtain ⟨_,_,same,_⟩ := @smReset_same config link
  rw [same]

structure Good (config : PdelayLinkConfig) (link : PdelayLink) : Prop where
  delay : link.meanLinkDelay ≤ config.meanLinkDelayThresh
  foreign : link.req.exchange.respRx.sourcePortId.clockIdentity ≠ config.req.identity.clockIdentity
  ratio : link.req.neighborRateRatioValid = true

private theorem judged_same : ∃ capable detectedFaults, link.judged config = {link with
    asCapableAcrossDomains := capable
    detectedFaults := detectedFaults} ∧ (capable = true → link.asCapableAcrossDomains = true ∨ link.Good config) := by
  unfold judged
  dsimp only
  split
  next good => exact ⟨_,_,rfl,fun _ => .inr ⟨good.1,good.2.1,good.2.2⟩⟩
  · split
    · exact ⟨_,_,rfl,fun capable => .inl (Bool.and_eq_true_iff.mp capable).1⟩
    · split
      · exact ⟨_,_,rfl,.inl⟩
      · exact ⟨_,_,rfl,fun capable => .inl (Bool.and_eq_true_iff.mp capable).1⟩

@[simp] theorem judged_req : (link.judged config).req = link.req := by
  obtain ⟨_,_,same,_⟩ := @judged_same config link
  rw [same]

@[simp] theorem smWaitingInterval_req :
    (link.smWaitingInterval config conditions propTime).req = link.req.smWaitingInterval conditions := by
  rw [smWaitingInterval,judged_req]

theorem smPass_req :
    (link.smPass config conditions propTime event).req = link.req.smPass config.req conditions event := by
  unfold smPass PdelayReqPort.smPass
  cases link.req.state with
  | notEnabled | reset | waitingForPdelayIntervalTimer =>
    dsimp only
    split <;> rfl
  | initialSendPdelayReq | sendPdelayReq =>
    dsimp only
    split
    · exact smReset_req
    · split <;> rfl
  | waitingForPdelayResp =>
    dsimp only
    split
    · rw [smReset_req,apply_ite PdelayLink.req]
      rfl
    · split
      · split
        · rfl
        · exact smReset_req
      · rfl
  | waitingForPdelayRespFollowUp =>
    dsimp only
    split
    · exact smReset_req
    · split
      · rw [smReset_req]
        rfl
      · split
        · exact smWaitingInterval_req
        · rfl

end Machine

def Accepted (link : PdelayLink) : Prop :=
  ∃ response ts, link.req.exchange.accepted = some (response,ts) ∧
    response.requestingPortIdentity = link.req.exchange.txPdelayReq.sourcePortId ∧
    response.sequenceId = link.req.exchange.txPdelayReq.sequenceId

/-- An exchange has just been completed that makes the link capable. -/
structure Measured (config : PdelayLinkConfig) (link : PdelayLink) : Prop where
  good : link.Good config
  accepted : link.Accepted
  followUp : link.req.exchange.isRespFupValid = true
  state : link.req.state = .waitingForPdelayIntervalTimer

def lostRequests (link : PdelayLink) : Nat := if link.req.state = .reset then link.unanswered + 1 else link.unanswered

/-- What every pass of the machine keeps; the timer is not running while the machine is told that it has expired. -/
structure Fit (config : PdelayLinkConfig) (event : PdelayReqEvent) (link : PdelayLink) : Prop where
  accepted : link.req.state = .waitingForPdelayRespFollowUp → link.Accepted
  lost : config.asCapableStatic = false → link.asCapableAcrossDomains = true →
    link.lostRequests ≤ link.req.lostResponses.toNat ∧
      link.req.lostResponses.toNat ≤ config.req.allowedLostResponses.toNat
  timer : event = .run → link.req.state ≠ .notEnabled →
    link.reqTimer.isSome = true ∨ link.stopped = true
  interval : (restartMs link.pdelayReqInterval).isSome = true

section Passes
variable {config : PdelayLinkConfig} {conditions : PdelayReqConditions} {propTime passes : Nat} {event : PdelayReqEvent}
  {link : PdelayLink}

theorem Fit.expired (fit : link.Fit config .run) : link.Fit config event :=
  ⟨fit.accepted,fit.lost,fun _ => fit.timer rfl,fit.interval⟩

section
variable (interval : (restartMs link.pdelayReqInterval).isSome = true)
include interval

private theorem smReset_fit
    (lost : config.asCapableStatic = false → link.asCapableAcrossDomains = true →
      link.unanswered ≤ link.req.lostResponses.toNat)
    (timer : event = .run → link.reqTimer.isSome = true ∨ link.stopped = true) :
    (link.smReset config).Fit config event := by
  obtain ⟨reqTimer,_,same,runs⟩ := @smReset_same config link
  have state : (link.smReset config).req.state = .reset := by
    rw [smReset_req]
    exact smReset_state config.req
  constructor
  · intro waits
    rw [state] at waits
    cases waits
  · intro dynamic capable
    rw [same] at capable
    simp only [dynamic,Bool.or_false,Bool.and_eq_true,decide_eq_true_eq] at capable
    have bound := config.req.allowedLostResponses.toNat_lt
    have counted : (link.req.smReset config.req).lostResponses = link.req.lostResponses + 1 := by
      rw [PdelayReqPort.smReset,if_pos capable.2]
    have more : (link.req.lostResponses + 1).toNat = link.req.lostResponses.toNat + 1 := by
      rw [UInt16.toNat_add]
      exact Nat.mod_eq_of_lt (by have : (1 : UInt16).toNat = 1 := rfl; omega)
    have fewer := lost dynamic capable.1
    rw [lostRequests,if_pos state,same,counted,more]
    dsimp only
    omega
  · intro run _
    rw [same]
    exact (timer run).imp_left runs
  · rw [same]
    exact interval

theorem smInitialSend_fit : (link.smInitialSend config conditions).Fit config event := by
  refine ⟨fun waits => (nomatch waits),fun dynamic capable => ?_,fun _ _ => .inl interval,interval⟩
  have capable : (link.asCapableAcrossDomains && config.asCapableStatic) = true := capable
  rw [dynamic,Bool.and_false] at capable
  cases capable

theorem smSend_fit
    (lost : config.asCapableStatic = false → link.asCapableAcrossDomains = true →
      link.lostRequests ≤ link.req.lostResponses.toNat ∧
        link.req.lostResponses.toNat ≤ config.req.allowedLostResponses.toNat) :
    (link.smSend config conditions).Fit config event := by
  refine ⟨fun waits => (nomatch waits),lost,fun _ _ => .inl ?_,interval⟩
  unfold smSend
  split
  next runs => exact runs
  · exact interval

theorem smWaitingInterval_fit
    (timer : event = .run → link.reqTimer.isSome = true ∨ link.stopped = true) :
    (link.smWaitingInterval config conditions propTime).Fit config event := by
  obtain ⟨capable,_,same,_⟩ := @judged_same config {link with
    req := link.req.smWaitingInterval conditions
    multipleResponses := 0
    meanLinkDelay := if computesPropTime conditions link.req then propTime else link.meanLinkDelay
    unanswered := 0}
  obtain ⟨_,_,_,_,answered⟩ := smWaitingInterval_same conditions link.req
  rw [smWaitingInterval,same]
  refine ⟨fun waits => ?_,fun _ _ => ?_,fun run _ => timer run,interval⟩
  · change (link.req.smWaitingInterval conditions).state = _ at waits
    rw [answered] at waits
    cases waits
  · unfold lostRequests
    rw [answered]
    simp

end

private theorem smReset_expires (fit : link.Fit config .reqInterval) (underWay : link.req.state ≠ .reset) :
    (link.smReset config).req.state = .reset ∧ (link.smReset config).Fit config .reqInterval := by
  constructor
  · rw [smReset_req]
    exact smReset_state config.req
  · apply smReset_fit fit.interval
    · intro dynamic capable
      have lost := (fit.lost dynamic capable).1
      rw [lostRequests,if_neg underWay] at lost
      exact lost
    · exact fun run => (nomatch run)

private theorem smReset_early (fit : link.Fit config .run) (underWay : link.req.state ≠ .reset)
    (enabled : link.req.state ≠ .notEnabled) : (link.smReset config).Fit config .run := by
  apply smReset_fit fit.interval
  · intro dynamic capable
    have lost := (fit.lost dynamic capable).1
    rw [lostRequests,if_neg underWay] at lost
    exact lost
  · exact fun _ => fit.timer rfl enabled

theorem static_expires (fit : link.Fit config .reqInterval) (underWay : link.req.state ≠ .reset) :
    ((link.smWaitingIntervalStaticPdelay config).smReset config).req.state = .reset ∧
      ((link.smWaitingIntervalStaticPdelay config).smReset config).Fit config .reqInterval := by
  constructor
  · rw [smReset_req]
    exact smReset_state config.req
  · apply smReset_fit
    · exact fit.interval
    · intro dynamic capable
      have lost := fit.lost dynamic capable
      rw [lostRequests,if_neg underWay] at lost
      have bound := config.req.allowedLostResponses.toNat_lt
      have more : (link.req.lostResponses + 1).toNat = link.req.lostResponses.toNat + 1 := by
        rw [UInt16.toNat_add]
        exact Nat.mod_eq_of_lt (by have : (1 : UInt16).toNat = 1 := rfl; omega)
      change link.unanswered ≤ (link.req.lostResponses + 1).toNat
      omega
    · exact fun run => (nomatch run)

private theorem smPass_notEnabled (fit : link.Fit config event) (state : link.req.state = .notEnabled) :
    (link.smPass config conditions propTime event).Fit config .run := by
  unfold smPass
  rw [state]
  dsimp only
  split
  · exact smInitialSend_fit fit.interval
  · exact ⟨fit.accepted,fit.lost,fun _ runs => absurd state runs,fit.interval⟩

theorem smPass_run (fit : link.Fit config .run) : (link.smPass config conditions propTime .run).Fit config .run := by
  cases state : link.req.state with
  | notEnabled => exact smPass_notEnabled fit state
  | reset | waitingForPdelayIntervalTimer =>
    unfold smPass
    rw [state]
    exact fit
  | initialSendPdelayReq | sendPdelayReq =>
    unfold smPass
    rw [state]
    dsimp only
    rw [if_neg PdelayReqEvent.noConfusion]
    split
    · refine ⟨fun waits => (nomatch waits),?_,fun _ _ => fit.timer rfl (by simp [state]),fit.interval⟩
      have lost := fit.lost
      rw [lostRequests,if_neg (by simp [state])] at lost
      exact lost
    · exact fit
  | waitingForPdelayResp =>
    unfold smPass
    rw [state]
    dsimp only
    rw [if_neg PdelayReqEvent.noConfusion]
    split
    · split
      next valid =>
        refine ⟨fun _ => ?_,?_,fun _ _ => fit.timer rfl (by simp [state]),fit.interval⟩
        · simp only [PdelayExchange.isRespValid,Bool.and_eq_true,decide_eq_true_eq] at valid
          exact ⟨_,_,rfl,valid.1,valid.2⟩
        · have lost := fit.lost
          rw [lostRequests,if_neg (by simp [state])] at lost
          exact lost
      · exact smReset_early fit (by simp [state]) (by simp [state])
    · exact fit
  | waitingForPdelayRespFollowUp =>
    unfold smPass
    rw [state]
    dsimp only
    rw [if_neg PdelayReqEvent.noConfusion]
    split
    · apply smReset_early
      · refine ⟨fit.accepted,fun dynamic capable => ?_,fit.timer,fit.interval⟩
        have capable : (link.asCapableAcrossDomains && config.asCapableStatic) = true := capable
        rw [dynamic,Bool.and_false] at capable
        cases capable
      · exact fun reset => (nomatch state.symm.trans reset)
      · exact fun off => (nomatch state.symm.trans off)
    · split
      · exact smWaitingInterval_fit fit.interval fun _ => fit.timer rfl (by simp [state])
      · exact fit

theorem smPass_fit (fit : link.Fit config event) : (link.smPass config conditions propTime event).Fit config .run ∨
    event = .reqInterval ∧ link.req.state ≠ .reset ∧ (link.smPass config conditions propTime event).req.state = .reset ∧
      (link.smPass config conditions propTime event).Fit config .reqInterval := by
  cases event with
  | run => exact .inl (smPass_run fit)
  | reqInterval =>
    cases state : link.req.state with
    | notEnabled => exact .inl (smPass_notEnabled fit state)
    | reset | waitingForPdelayIntervalTimer =>
      unfold smPass
      rw [state]
      exact .inl (smSend_fit fit.interval fit.lost)
    | initialSendPdelayReq | sendPdelayReq | waitingForPdelayRespFollowUp =>
      unfold smPass
      rw [state]
      exact .inr ⟨rfl,by simp,smReset_expires fit (by simp [state])⟩
    | waitingForPdelayResp =>
      unfold smPass
      rw [state]
      dsimp only
      rw [if_pos rfl]
      refine .inr ⟨rfl,by simp,?_⟩
      split
      · exact static_expires fit (by simp [state])
      · exact smReset_expires fit (by simp [state])

theorem smPass_rises (fit : link.Fit config event) (before : link.asCapableAcrossDomains = false)
    (after : (link.smPass config conditions propTime event).asCapableAcrossDomains = true) :
    (link.smPass config conditions propTime event).Measured config := by
  have resets (link : PdelayLink) (before : link.asCapableAcrossDomains = false) :
      (link.smReset config).asCapableAcrossDomains = false := by
    obtain ⟨_,_,same,_⟩ := @smReset_same config link
    simp [same,before]
  revert after
  unfold smPass
  cases state : link.req.state with
  | notEnabled =>
    dsimp only
    split
    · simp [smInitialSend,gptpAsCapableAcrossDomainsDown,before]
    · simp [before]
  | reset | waitingForPdelayIntervalTimer =>
    dsimp only
    split
    · simp [smSend,before]
    · simp [before]
  | initialSendPdelayReq | sendPdelayReq =>
    dsimp only
    split
    · simp [resets link before]
    · split <;> simp [before]
  | waitingForPdelayResp =>
    dsimp only
    split
    · rw [resets]
      · simp
      · split <;> exact before
    · split
      · split
        · simp [before]
        · simp [resets link before]
      · simp [before]
  | waitingForPdelayRespFollowUp =>
    dsimp only
    split
    · simp [resets link before]
    · split
      · rw [resets]
        · simp
        · simp [gptpAsCapableAcrossDomainsDown,before]
      · split
        next taken =>
          intro after
          obtain ⟨capable,_,same,good⟩ := @judged_same config {link with
            req := link.req.smWaitingInterval conditions
            multipleResponses := 0
            meanLinkDelay := if computesPropTime conditions link.req then propTime else link.meanLinkDelay
            unanswered := 0}
          rw [smWaitingInterval,same] at after ⊢
          obtain ⟨delay,foreign,ratio⟩ := (good after).resolve_left (by simp [before])
          have exchange : (link.req.smWaitingInterval conditions).exchange = link.req.exchange := by
            obtain ⟨_,_,_,_,answered⟩ := smWaitingInterval_same conditions link.req
            rw [answered]
          refine ⟨⟨delay,foreign,ratio⟩,?_,?_,rfl⟩
          · have accepted := fit.accepted state
            unfold Accepted at accepted ⊢
            dsimp only
            rw [exchange]
            exact accepted
          · dsimp only
            rw [exchange]
            exact (Bool.and_eq_true_iff.mp taken).2
        · simp [before]

theorem smLoop_waits (state : link.req.state = .waitingForPdelayIntervalTimer ∨ link.req.state = .reset) :
    ∃ fault, link.smLoop config conditions propTime passes .run = {link with req := {link.req with fault := fault}} := by
  cases passes with
  | zero => exact ⟨true,rfl⟩
  | succ passes =>
    have pass : link.smPass config conditions propTime .run = link := by
      rcases state with state | state <;> simp [smPass,state]
    refine ⟨link.req.fault,?_⟩
    rw [smLoop,pass,if_pos rfl]

def Enough (passes : Nat) (event : PdelayReqEvent) (link : PdelayLink) : Prop :=
  event = .reqInterval → if link.req.state = .reset then 1 ≤ passes else 2 ≤ passes

theorem smLoop_fit (fit : link.Fit config event) (enough : Enough passes event link) :
    (link.smLoop config conditions propTime passes event).Fit config .run ∧
      (link.asCapableAcrossDomains = false →
        (link.smLoop config conditions propTime passes event).asCapableAcrossDomains = true →
          (link.smLoop config conditions propTime passes event).Measured config) := by
  induction passes generalizing link event with
  | zero =>
    cases event with
    | run =>
      refine ⟨{fit with},fun before after => ?_⟩
      have after : link.asCapableAcrossDomains = true := after
      rw [before] at after
      cases after
    | reqInterval =>
      have enough := enough rfl
      split at enough <;> omega
  | succ passes ih =>
    have passed := @smPass_fit config conditions propTime event link fit
    have rises := @smPass_rises config conditions propTime event link fit
    unfold smLoop
    dsimp only
    generalize link.smPass config conditions propTime event = next at passed rises
    split
    next still =>
      refine ⟨?_,rises⟩
      rcases passed with fits | ⟨_,underWay,reset,_⟩
      · exact fits
      · exact absurd (still.symm.trans reset) underWay
    next moved =>
      have onwards : next.Fit config (nextEvent event next.req) ∧
          Enough passes (nextEvent event next.req) next := by
        rcases passed with fits | ⟨rfl,underWay,reset,fits⟩
        · refine ⟨fits.expired,fun expired => ?_⟩
          unfold nextEvent at expired
          split at expired
          next both =>
            rw [if_pos both.1]
            have enough := enough both.2
            split at enough
            next reset => exact absurd (both.1.trans reset.symm) moved
            · omega
          · cases expired
        · have event : nextEvent .reqInterval next.req = .reqInterval := if_pos ⟨reset,rfl⟩
          rw [event]
          refine ⟨fits,fun _ => ?_⟩
          have enough := enough rfl
          rw [if_neg underWay] at enough
          rw [if_pos reset]
          omega
      have rest := ih onwards.1 onwards.2
      refine ⟨rest.1,fun before after => ?_⟩
      cases capable : next.asCapableAcrossDomains with
      | false => exact rest.2 capable after
      | true =>
        have measured := rises before capable
        have event : nextEvent event next.req = .run := by
          unfold nextEvent
          rw [if_neg]
          rintro ⟨reset,_⟩
          exact nomatch measured.state.symm.trans reset
        rw [event] at after ⊢
        obtain ⟨_,same⟩ := @smLoop_waits config conditions propTime passes next (.inl measured.state)
        rw [same]
        exact ⟨{measured.good with},measured.accepted,measured.followUp,
          measured.state⟩

theorem smLoop_second (dynamic : config.asCapableStatic = false)
    (state : link.req.state = .waitingForPdelayRespFollowUp) (received : link.req.rcvdPdelayResp = true)
    (same : link.req.exchange.respRx.sequenceId = link.req.exchange.txPdelayReq.sequenceId) :
    (link.smLoop config conditions propTime (passes + 1) .run).asCapableAcrossDomains = false := by
  have pass : link.smPass config conditions propTime .run = smReset config {link.gptpAsCapableAcrossDomainsDown config with
      multipleResponses := link.multipleResponses + 1} := by
    simp [smPass,state,received,same]
  obtain ⟨_,_,reset,_⟩ := @smReset_same config {link.gptpAsCapableAcrossDomainsDown config with
    multipleResponses := link.multipleResponses + 1}
  have given : (link.smPass config conditions propTime .run).req.state = .reset := by
    rw [pass,smReset_req]
    exact smReset_state config.req
  have down : (link.smPass config conditions propTime .run).asCapableAcrossDomains = false := by
    rw [pass,reset]
    simp [gptpAsCapableAcrossDomainsDown,dynamic]
  rw [smLoop,if_neg (by rw [given,state]; exact noConfusion),nextEvent_run]
  obtain ⟨_,waits⟩ := @smLoop_waits config conditions propTime passes _ (.inr given)
  rw [waits]
  exact down

private theorem smPass_enabled (transmits : config.req.pdelayTransmitEnabled = true) :
    (link.smPass config conditions propTime event).req.state ≠ .notEnabled := by
  rw [smPass_req]
  unfold PdelayReqPort.smPass
  cases state : link.req.state with
  | notEnabled =>
    rw [transmits,if_pos rfl]
    exact noConfusion
  | reset | waitingForPdelayIntervalTimer =>
    dsimp only
    split
    · exact noConfusion
    · simp [state]
  | initialSendPdelayReq | sendPdelayReq =>
    dsimp only
    split
    · simp [smReset_state]
    · split
      · exact noConfusion
      · simp [state]
  | waitingForPdelayResp =>
    dsimp only
    split
    · simp [smReset_state]
    · split
      · split
        · exact noConfusion
        · simp [smReset_state]
      · simp [state]
  | waitingForPdelayRespFollowUp =>
    dsimp only
    split
    · simp [smReset_state]
    · split
      · simp [smReset_state]
      · split
        · simp [smWaitingInterval_state]
        · simp [state]

private theorem smLoop_enabled (transmits : config.req.pdelayTransmitEnabled = true) :
    (link.smLoop config conditions propTime (passes + 1) event).req.state ≠ .notEnabled := by
  induction passes generalizing link event with
  | zero =>
    unfold smLoop
    dsimp only
    split
    · exact smPass_enabled transmits
    · exact smPass_enabled transmits
  | succ passes ih =>
    rw [smLoop]
    split
    · exact smPass_enabled transmits
    · exact ih

end Passes

section Runs
variable {config : PdelayLinkConfig} {link : PdelayLink} {input : PdelayLinkInput}

def Enabled (conditions : PdelayReqConditions) : Prop :=
  (conditions.begin || !conditions.portOper || !conditions.portEnabled0) = false

/-- A second response to the request arrives before the follow-up of the first one. -/
def SecondResponse (link : PdelayLink) (input : PdelayLinkInput) : Prop :=
  ∃ msg ts conditions propTime, input = .machine (.pdelayResp msg ts) conditions propTime ∧ Enabled conditions ∧
    link.req.state = .waitingForPdelayRespFollowUp ∧ msg.sequenceId = link.req.exchange.txPdelayReq.sequenceId

def Runs (config : PdelayLinkConfig) (link : PdelayLink) : PdelayLinkInput → Prop
  | .machine input conditions _ => Enabled conditions ∧ config.req.pdelayTransmitEnabled = true ∧
    (input = .reqTimer → link.reqTimer.isSome = true)
  | _ => False

/-- A link becomes capable by a measured exchange, and incapable once `lost` requests in a row have been left unanswered
or when another responder is heard; its timer runs unless the neighbour wants no requests. -/
structure Follows (config : PdelayLinkConfig) (lost : Nat) (link : PdelayLink) (input : PdelayLinkInput) : Prop where
  rises : link.asCapableAcrossDomains = false → (step config input link).asCapableAcrossDomains = true →
    (step config input link).Measured config
  missing : config.asCapableStatic = false → lost ≤ (step config input link).unanswered →
    (step config input link).asCapableAcrossDomains = false
  several : config.asCapableStatic = false → SecondResponse link input →
    (step config input link).asCapableAcrossDomains = false
  enabled : Runs config link input → (step config input link).req.state ≠ .notEnabled
  timer : (step config input link).req.state ≠ .notEnabled →
    (step config input link).reqTimer.isSome = true ∨ (step config input link).stopped = true

private theorem restartMs_logToNs (log : Int8) : (restartMs (logToNs log)).isSome = true := by
  unfold logToNs
  generalize clipped : max CFG_GPTP_MIN_LOG_INTERVAL (min CFG_GPTP_MAX_LOG_INTERVAL log.toInt) = interval
  have least : -5 ≤ interval := clipped ▸ le_max_left _ _
  have most : interval ≤ 22 := by
    rw [← clipped]
    exact max_le (by decide) (min_le_left _ _)
  interval_cases interval <;> rfl

private theorem mdPdelayReqSm_fit {conditions : PdelayReqConditions} {propTime : Nat} {event : PdelayReqEvent}
    (fit : link.Fit config event) : (link.mdPdelayReqSm config conditions propTime event).Fit config .run ∧
      (link.asCapableAcrossDomains = false →
        (link.mdPdelayReqSm config conditions propTime event).asCapableAcrossDomains = true →
          (link.mdPdelayReqSm config conditions propTime event).Measured config) := by
  unfold mdPdelayReqSm
  split
  · refine ⟨⟨fun waits => (nomatch waits),fun dynamic capable => ?_,fun _ runs => absurd rfl runs,fit.interval⟩,
      fun before after => ?_⟩
    · have lost := fit.lost dynamic capable
      refine ⟨le_trans ?_ lost.1,lost.2⟩
      unfold lostRequests
      dsimp only
      rw [if_neg noConfusion]
      split <;> omega
    · exact absurd (before.symm.trans after) Bool.false_ne_true
  · refine smLoop_fit fit fun _ => ?_
    split <;> omega

theorem Fit.stored (fit : link.Fit config .run) (input : PdelayReqInput) :
    ({link with req := link.req.stored input} : PdelayLink).Fit config .run := by
  cases input <;> exact {fit with}

theorem setInterval_fit (fit : link.Fit config .run) (settings : IntervalSettings) (linkDelayInterval : Int8) :
    (link.setInterval settings linkDelayInterval).Fit config .run ∧
      (link.setInterval settings linkDelayInterval).asCapableAcrossDomains = link.asCapableAcrossDomains := by
  have restarted (log : Int8) : ({link with
      pdelayReqInterval := logToNs log
      reqTimer := restartMs (logToNs log)
      currentLogPdelayReqInterval := log
      stopped := false} : PdelayLink).Fit config .run :=
    ⟨fit.accepted,fit.lost,fun _ _ => .inl (restartMs_logToNs log),restartMs_logToNs log⟩
  unfold setInterval
  split
  · exact ⟨fit,rfl⟩
  · split
    · exact ⟨fit,rfl⟩
    · split
      · exact ⟨restarted _,rfl⟩
      · split
        · exact ⟨⟨fit.accepted,fit.lost,fun _ _ => .inr rfl,fit.interval⟩,rfl⟩
        · exact ⟨restarted _,rfl⟩

private theorem step_fit (fit : link.Fit config .run) : (step config input link).Fit config .run ∧
    (link.asCapableAcrossDomains = false → (step config input link).asCapableAcrossDomains = true →
      (step config input link).Measured config) := by
  have kept {next : PdelayLink} (same : next.asCapableAcrossDomains = link.asCapableAcrossDomains) :
      link.asCapableAcrossDomains = false → next.asCapableAcrossDomains = true → next.Measured config :=
    fun before after => absurd (before.symm.trans (same.symm.trans after)) Bool.false_ne_true
  cases input with
  | machine input conditions propTime =>
    cases input with
    | reqTimer =>
      unfold step
      dsimp only
      split
      · exact mdPdelayReqSm_fit ⟨fit.accepted,fit.lost,fun run => (nomatch run),fit.interval⟩
      · exact ⟨fit,kept rfl⟩
    | updateFsm => exact mdPdelayReqSm_fit (fit.stored .updateFsm)
    | pdelayReqTimestamp sequenceId ts => exact mdPdelayReqSm_fit (fit.stored (.pdelayReqTimestamp sequenceId ts))
    | pdelayResp msg ts => exact mdPdelayReqSm_fit (fit.stored (.pdelayResp msg ts))
    | pdelayRespFup msg => exact mdPdelayReqSm_fit (fit.stored (.pdelayRespFup msg))
  | intervalRequest linkDelayInterval =>
    have set := setInterval_fit fit config.interval linkDelayInterval
    exact ⟨set.1,kept set.2⟩
  | initialInterval log
  | operInterval log => exact ⟨⟨fit.accepted,fit.lost,fit.timer,restartMs_logToNs log⟩,kept rfl⟩

private theorem mdPdelayReqSm_enabled {conditions : PdelayReqConditions} {propTime : Nat} {event : PdelayReqEvent}
    (enabled : Enabled conditions) :
    link.mdPdelayReqSm config conditions propTime event = link.smLoop config conditions propTime 6 event :=
  if_neg (by rw [enabled]; exact Bool.false_ne_true)

theorem step_runs (runs : Runs config link input) : (step config input link).req.state ≠ .notEnabled := by
  cases input with
  | machine input conditions propTime =>
    obtain ⟨enabled,transmits,fires⟩ := runs
    cases input with
    | reqTimer =>
      unfold step
      dsimp only
      rw [if_pos (fires rfl),mdPdelayReqSm_enabled enabled]
      exact smLoop_enabled transmits
    | updateFsm | pdelayReqTimestamp | pdelayResp | pdelayRespFup =>
      unfold step
      dsimp only
      rw [mdPdelayReqSm_enabled enabled]
      exact smLoop_enabled transmits
  | intervalRequest | initialInterval | operInterval => exact absurd runs not_false

theorem step_follows (fit : link.Fit config .run) :
    Follows config (config.req.allowedLostResponses.toNat + 1) link input := by
  have after := @step_fit config link input fit
  refine ⟨after.2,fun dynamic many => ?_,fun dynamic second => ?_,step_runs,after.1.timer rfl⟩
  · by_contra capable
    have lost := after.1.lost dynamic (by simpa using capable)
    have fewer : (step config input link).unanswered ≤ (step config input link).lostRequests := by
      unfold lostRequests
      split <;> omega
    omega
  · obtain ⟨msg,ts,conditions,propTime,rfl,enabled,state,same⟩ := second
    unfold step
    dsimp only
    rw [mdPdelayReqSm_enabled enabled]
    exact smLoop_second dynamic state rfl same

def start (config : PdelayLinkConfig) (log : Int8) : PdelayLink where
  req := .zeroed
  asCapableAcrossDomains := config.asCapableStatic
  detectedFaults := 0
  multipleResponses := 0
  meanLinkDelay := config.initialNeighborPropDelay
  reqTimer := none
  pdelayReqInterval := logToNs log
  currentLogPdelayReqInterval := log
  unanswered := 0
  stopped := false

theorem start_fit (config : PdelayLinkConfig) (log : Int8) : (start config log).Fit config .run := by
  refine ⟨fun waits => (nomatch waits),fun dynamic capable => ?_,fun _ runs => absurd rfl runs,restartMs_logToNs log⟩
  exact absurd (dynamic.symm.trans capable) Bool.false_ne_true

/-- A link is capable as its exchanges of messages succeed, in every run. -/
theorem capable_follows (config : PdelayLinkConfig) (log : Int8) (inputs : List PdelayLinkInput) :
    Steps (step config) (Follows config (config.req.allowedLostResponses.toNat + 1)) inputs (start config log) :=
  steps_kept (I := fun link => link.Fit config .run) (step config)
    (fun _ _ fit _ => ⟨(step_fit fit).1,step_follows fit⟩) (start_fit config log) (steps_always _ inputs _)

section Examples

def lostResponse : List PdelayLinkInput :=
  [.machine .updateFsm running 50,.machine (.pdelayReqTimestamp 0 100) running 50,
    .machine (.pdelayResp ⟨⟨2,1⟩,0,⟨0,0,1050⟩,⟨1,1⟩⟩ 300) running 50,
    .machine (.pdelayRespFup ⟨⟨2,1⟩,0,⟨0,0,1250⟩,⟨1,1⟩⟩) running 50,
    .machine .reqTimer running 50,.machine (.pdelayReqTimestamp 1 10100) running 50,
    .machine (.pdelayResp ⟨⟨2,1⟩,1,⟨0,0,11050⟩,⟨1,1⟩⟩ 10300) running 50,
    .machine (.pdelayRespFup ⟨⟨2,1⟩,1,⟨0,0,11250⟩,⟨1,1⟩⟩) running 50,
    .machine .reqTimer running 50]

def oneLost : PdelayLinkConfig :=
  ⟨⟨⟨1,1⟩,true,false,1⟩,false,9,800,0,⟨0,false,0,0,5⟩⟩

/-- A link that may lose one response is still capable when it has lost one. -/
theorem lostResponse_capable : ¬∀ (config : PdelayLinkConfig) (log : Int8) (inputs : List PdelayLinkInput),
    Steps (step config) (Follows config config.req.allowedLostResponses.toNat) inputs (start config log) := by
  intro follows
  have steps := follows oneLost 0 (lostResponse ++ [.machine .reqTimer running 50])
  have last := ((steps_append _ _ _ _ _).mp steps).2.1
  have incapable := last.missing rfl (by decide +kernel)
  revert incapable
  decide +kernel

end Examples

end Runs

end PdelayLink

end Genavb.Gptp
