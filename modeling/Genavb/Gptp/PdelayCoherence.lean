import Genavb.Gptp.PdelayRequest

/-! Which exchanges the peer delay is computed from: the request, the response that was accepted
and its follow-up belong together as long as no other response and no other timestamp is stored
between them. -/
namespace Genavb.Gptp
open Support PdelayReqState PdelayExchange List

/-- The request, its timestamp, the response that was accepted and the follow-up belong together. -/
structure PdelayExchange.Coherent (exchange : PdelayExchange) : Prop where
  timestamp : exchange.timestampOf = some exchange.txPdelayReq.sequenceId
  accepted : exchange.accepted = some (exchange.respRx,exchange.respRxTs)
  response : exchange.isRespValid = true
  followUp : exchange.isRespFupValid = true

namespace PdelayReqPort

section Equations
variable {config : PdelayReqConfig} {conditions : PdelayReqConditions} {port : PdelayReqPort}

theorem smReset_same (config : PdelayReqConfig) (port : PdelayReqPort) : port.smReset config = {port with
    rcvdPdelayResp := false
    lostResponses := (port.smReset config).lostResponses
    prevResponderTimestamp := (port.smReset config).prevResponderTimestamp
    neighborRateRatioValid := (port.smReset config).neighborRateRatioValid
    state := .reset} := by
  unfold smReset
  split
  · rfl
  · rfl

def compared (port : PdelayReqPort) : Bool := port.prevResponderTimestamp ≠ PTP_TS_UNSET_U64_VALUE

def jumped (conditions : PdelayReqConditions) (port : PdelayReqPort) : Bool :=
  port.compared && port.prevRateRatioPhaseDiscont ≠ conditions.phaseDiscont

def advanced (port : PdelayReqPort) : Bool :=
  port.exchange.respRxTs > port.prevIngressTimestamp ∧
    port.exchange.respFupRx.responseOriginTimestamp.toU64 > port.prevResponderTimestamp

def ratioMeasured (conditions : PdelayReqConditions) (port : PdelayReqPort) : Bool :=
  port.compared && !port.jumped conditions && port.advanced

def ratioValid (conditions : PdelayReqConditions) (port : PdelayReqPort) : Bool :=
  if port.compared && !port.jumped conditions then port.advanced else port.neighborRateRatioValid

def measured (conditions : PdelayReqConditions) (port : PdelayReqPort) : List PdelayComputation :=
  if conditions.computeNeighborRateRatio then
    (if port.ratioMeasured conditions then [.rateRatio] else []) ++
      if conditions.computeMeanLinkDelay ∧ port.jumped conditions = false ∧
        port.prevPdelayPhaseDiscont = conditions.phaseDiscont ∧ port.ratioValid conditions = true then [.propTime] else []
  else if conditions.computeMeanLinkDelay ∧ port.prevPdelayPhaseDiscont = conditions.phaseDiscont ∧
    port.neighborRateRatioValid = true then [.propTime] else []

theorem computePdelayRateRatio_spec (conditions : PdelayReqConditions) (port : PdelayReqPort) :
    (port.computePdelayRateRatio conditions).1 = {port with
      prevIngressTimestamp := port.exchange.respRxTs
      prevResponderTimestamp := port.exchange.respFupRx.responseOriginTimestamp.toU64
      prevRateRatioPhaseDiscont := conditions.phaseDiscont
      neighborRateRatioValid := port.ratioValid conditions
      computations := port.computations ++
        if port.ratioMeasured conditions then [(.rateRatio,port.exchange)] else []} ∧
    (port.computePdelayRateRatio conditions).2 = port.jumped conditions := by
  unfold computePdelayRateRatio ratioValid ratioMeasured jumped
  by_cases fresh : port.prevResponderTimestamp = PTP_TS_UNSET_U64_VALUE
  · have compared : port.compared = false := by simp [compared,fresh]
    simp [fresh,compared]
  · have compared : port.compared = true := by simp [compared,fresh]
    by_cases same : port.prevRateRatioPhaseDiscont = conditions.phaseDiscont
    · by_cases later : port.exchange.respRxTs > port.prevIngressTimestamp ∧
          port.exchange.respFupRx.responseOriginTimestamp.toU64 > port.prevResponderTimestamp
      · have advanced : port.advanced = true := decide_eq_true later
        simp [fresh,compared,same,later,advanced]
      · have advanced : port.advanced = false := decide_eq_false later
        simp [fresh,compared,same,later,advanced]
    · simp [fresh,compared,same]

private theorem computePropTime_spec (conditions : PdelayReqConditions) (port : PdelayReqPort) :
    port.computePropTime conditions = {port with
      computations := port.computations ++
        if port.prevPdelayPhaseDiscont = conditions.phaseDiscont ∧ port.neighborRateRatioValid = true then
          [(.propTime,port.exchange)] else []} := by
  unfold computePropTime
  split
  · rfl
  · simp

theorem smWaitingInterval_same (conditions : PdelayReqConditions) (port : PdelayReqPort) :
    ∃ ingress responder phase valid, port.smWaitingInterval conditions = {port with
      rcvdPdelayRespFollowUp := false
      lostResponses := 0
      prevIngressTimestamp := ingress
      prevResponderTimestamp := responder
      prevRateRatioPhaseDiscont := phase
      neighborRateRatioValid := valid
      computations := port.computations ++ (port.measured conditions).map fun computation => (computation,port.exchange)
      state := .waitingForPdelayIntervalTimer} := by
  unfold smWaitingInterval
  cases ratio : conditions.computeNeighborRateRatio with
  | false =>
    refine ⟨port.prevIngressTimestamp,PTP_TS_UNSET_U64_VALUE,port.prevRateRatioPhaseDiscont,port.neighborRateRatioValid,?_⟩
    unfold measured
    rw [ratio]
    cases delay : conditions.computeMeanLinkDelay with
    | false => simp
    | true =>
      simp only [Bool.false_eq_true,if_false,Bool.not_false,Bool.and_true,if_true,true_and,computePropTime_spec]
      split
      · rfl
      · rfl
  | true =>
    refine ⟨port.exchange.respRxTs,port.exchange.respFupRx.responseOriginTimestamp.toU64,conditions.phaseDiscont,
      port.ratioValid conditions,?_⟩
    obtain ⟨rated,found⟩ := computePdelayRateRatio_spec conditions {port with rcvdPdelayRespFollowUp := false,lostResponses := 0}
    have valid : ({port with rcvdPdelayRespFollowUp := false,lostResponses := 0} : PdelayReqPort).ratioValid conditions =
      port.ratioValid conditions := rfl
    have measures : ({port with rcvdPdelayRespFollowUp := false,lostResponses := 0} : PdelayReqPort).ratioMeasured conditions =
      port.ratioMeasured conditions := rfl
    have jump : ({port with rcvdPdelayRespFollowUp := false,lostResponses := 0} : PdelayReqPort).jumped conditions =
      port.jumped conditions := rfl
    rw [valid,measures] at rated
    rw [jump] at found
    unfold measured
    simp only [if_true]
    rw [rated,found]
    cases delay : conditions.computeMeanLinkDelay with
    | false =>
      simp only [Bool.false_and,Bool.false_eq_true,if_false,false_and,append_nil]
      split
      · rfl
      · rfl
    | true =>
      cases moved : port.jumped conditions with
      | true =>
        simp only [Bool.not_true,Bool.and_false,Bool.false_eq_true,Bool.true_eq_false,if_false,false_and,and_false,
          append_nil]
        split
        · rfl
        · rfl
      | false =>
        simp only [Bool.not_false,Bool.and_true,if_true,true_and,computePropTime_spec]
        split
        · split
          · simp
          · simp
        · split
          · simp
          · simp

end Equations

section Machine
variable (config : PdelayReqConfig) (conditions : PdelayReqConditions) {port : PdelayReqPort} {passes : Nat}
  {event : PdelayReqEvent}

private theorem smLoop_stop (still : (port.smPass config conditions event).state = port.state) :
    smLoop config conditions (passes + 1) event port = port.smPass config conditions event := if_pos still

private theorem smLoop_go (moved : (port.smPass config conditions event).state ≠ port.state) :
    smLoop config conditions (passes + 1) event port =
      smLoop config conditions passes (nextEvent event (port.smPass config conditions event))
        (port.smPass config conditions event) := if_neg moved

theorem nextEvent_run (port : PdelayReqPort) : nextEvent .run port = .run := if_neg fun both => nomatch both.2

def runFup (port : PdelayReqPort) : PdelayReqPort :=
  if port.rcvdPdelayResp && port.exchange.respRx.sequenceId = port.exchange.txPdelayReq.sequenceId then
    port.smReset config
  else if port.rcvdPdelayRespFollowUp && port.exchange.isRespFupValid then port.smWaitingInterval conditions
  else port

def runResp (port : PdelayReqPort) : PdelayReqPort :=
  if port.rcvdPdelayResp then
    if port.exchange.isRespValid then port.smWaitingFup.runFup config conditions else port.smReset config
  else port

def runSend (port : PdelayReqPort) : PdelayReqPort :=
  if port.rcvdMdTimestampReceive then port.smWaitingResp.runResp config conditions else port

private theorem smLoop_run_reset (state : port.state = .reset) : smLoop config conditions (passes + 1) .run port = port := by
  have pass : port.smPass config conditions .run = port := by
    unfold smPass
    rw [state]
    rfl
  rw [smLoop_stop config conditions (by rw [pass]),pass]

private theorem smLoop_run_interval (state : port.state = .waitingForPdelayIntervalTimer) :
    smLoop config conditions (passes + 1) .run port = port := by
  have pass : port.smPass config conditions .run = port := by
    unfold smPass
    rw [state]
    rfl
  rw [smLoop_stop config conditions (by rw [pass]),pass]

theorem smReset_state : (port.smReset config).state = .reset := by
  rw [smReset_same]

theorem smWaitingInterval_state : (port.smWaitingInterval conditions).state = .waitingForPdelayIntervalTimer := rfl

private theorem smLoop_run_fup (state : port.state = .waitingForPdelayRespFollowUp) :
    smLoop config conditions (passes + 2) .run port = port.runFup config conditions := by
  have pass : port.smPass config conditions .run = port.runFup config conditions := by
    unfold smPass
    rw [state]
    rfl
  by_cases again : (port.rcvdPdelayResp && port.exchange.respRx.sequenceId = port.exchange.txPdelayReq.sequenceId) = true
  · have runs : port.runFup config conditions = port.smReset config := if_pos again
    rw [runs] at pass ⊢
    rw [smLoop_go config conditions (by rw [pass,smReset_state,state]; decide),pass,nextEvent_run]
    exact smLoop_run_reset config conditions (smReset_state config)
  · by_cases taken : (port.rcvdPdelayRespFollowUp && port.exchange.isRespFupValid) = true
    · have runs : port.runFup config conditions = port.smWaitingInterval conditions := (if_neg again).trans (if_pos taken)
      rw [runs] at pass ⊢
      rw [smLoop_go config conditions (by rw [pass,smWaitingInterval_state,state]; decide),pass]
      exact smLoop_run_interval config conditions (smWaitingInterval_state conditions)
    · have runs : port.runFup config conditions = port := (if_neg again).trans (if_neg taken)
      rw [runs] at pass ⊢
      rw [smLoop_stop config conditions (by rw [pass]),pass]

private theorem smLoop_run_resp (state : port.state = .waitingForPdelayResp) :
    smLoop config conditions (passes + 3) .run port = port.runResp config conditions := by
  cases received : port.rcvdPdelayResp with
  | false =>
    have pass : port.smPass config conditions .run = port := by
      unfold smPass
      rw [state]
      simp [received]
    rw [smLoop_stop config conditions (by rw [pass]),pass]
    unfold runResp
    simp [received]
  | true =>
    cases valid : port.exchange.isRespValid with
    | false =>
      have pass : port.smPass config conditions .run = port.smReset config := by
        unfold smPass
        rw [state]
        simp [received,valid]
      rw [smLoop_go config conditions (by rw [pass,smReset_state,state]; decide),pass,nextEvent_run]
      unfold runResp
      simp only [received,valid,if_true,Bool.false_eq_true,if_false]
      exact smLoop_run_reset config conditions (smReset_state config)
    | true =>
      have pass : port.smPass config conditions .run = port.smWaitingFup := by
        unfold smPass
        rw [state]
        simp [received,valid]
      have moved : port.smWaitingFup.state ≠ port.state := by
        rw [state]
        exact noConfusion
      rw [smLoop_go config conditions (by rw [pass]; exact moved),pass]
      unfold runResp
      simp only [received,valid,if_true]
      exact smLoop_run_fup config conditions rfl

private theorem smLoop_run_send (state : port.state = .initialSendPdelayReq ∨ port.state = .sendPdelayReq) :
    smLoop config conditions (passes + 4) .run port = port.runSend config conditions := by
  have pass : port.smPass config conditions .run = if port.rcvdMdTimestampReceive then port.smWaitingResp else port := by
    unfold smPass
    rcases state with state | state
    · rw [state]
      rfl
    · rw [state]
      rfl
  cases reported : port.rcvdMdTimestampReceive with
  | false =>
    rw [reported] at pass
    have pass : port.smPass config conditions .run = port := pass
    rw [smLoop_stop config conditions (by rw [pass]),pass]
    unfold runSend
    simp [reported]
  | true =>
    rw [reported] at pass
    have moved : port.smWaitingResp.state ≠ port.state := by
      rcases state with state | state
      · rw [state]
        exact noConfusion
      · rw [state]
        exact noConfusion
    rw [smLoop_go config conditions (by rw [pass]; exact moved),pass]
    unfold runSend
    simp only [reported,if_true]
    exact smLoop_run_resp config conditions rfl

def resend (port : PdelayReqPort) : PdelayReqPort :=
  {port with rcvdPdelayResp := false,rcvdPdelayRespFollowUp := false}.smSend config conditions

private theorem smLoop_interval_reset (state : port.state = .reset) :
    smLoop config conditions (passes + 5) .reqInterval port = (port.resend config conditions).runSend config conditions := by
  have pass : port.smPass config conditions .reqInterval = port.resend config conditions := by
    unfold smPass
    rw [state]
    rfl
  have moved : (port.resend config conditions).state ≠ port.state := by
    rw [state]
    exact noConfusion
  rw [smLoop_go config conditions (by rw [pass]; exact moved),pass]
  exact smLoop_run_send config conditions (.inr rfl)

theorem smLoop_interval_interval (state : port.state = .waitingForPdelayIntervalTimer) :
    smLoop config conditions (passes + 5) .reqInterval port =
      (port.smSend config conditions).runSend config conditions := by
  have pass : port.smPass config conditions .reqInterval = port.smSend config conditions := by
    unfold smPass
    rw [state]
    rfl
  have moved : (port.smSend config conditions).state ≠ port.state := by
    rw [state]
    exact noConfusion
  rw [smLoop_go config conditions (by rw [pass]; exact moved),pass]
  exact smLoop_run_send config conditions (.inr rfl)

def givenUp (port : PdelayReqPort) : PdelayReqPort :=
  (if port.state = .waitingForPdelayResp ∧ config.staticPdelay then port.smWaitingIntervalStaticPdelay else port).smReset
    config

def UnderWay (port : PdelayReqPort) : Prop :=
  port.state = .initialSendPdelayReq ∨ port.state = .sendPdelayReq ∨ port.state = .waitingForPdelayResp ∨
    port.state = .waitingForPdelayRespFollowUp

theorem smLoop_interval_underWay (underWay : port.UnderWay) :
    smLoop config conditions (passes + 6) .reqInterval port =
      ((port.givenUp config).resend config conditions).runSend config conditions := by
  have pass : port.smPass config conditions .reqInterval = port.givenUp config := by
    unfold smPass givenUp
    rcases underWay with state | state | state | state
    · rw [state]
      rfl
    · rw [state]
      rfl
    · rw [state]
      simp
    · rw [state]
      rfl
  have given : (port.givenUp config).state = .reset := smReset_state config
  have moved : (port.givenUp config).state ≠ port.state := by
    rw [given]
    rcases underWay with state | state | state | state
    · rw [state]
      exact noConfusion
    · rw [state]
      exact noConfusion
    · rw [state]
      exact noConfusion
    · rw [state]
      exact noConfusion
  have event : nextEvent .reqInterval (port.givenUp config) = .reqInterval := if_pos ⟨given,rfl⟩
  rw [smLoop_go config conditions (by rw [pass]; exact moved),pass,event]
  exact smLoop_interval_reset config conditions given

def started (port : PdelayReqPort) : PdelayReqPort :=
  if config.pdelayTransmitEnabled then port.smInitialSend config conditions else port

private theorem smLoop_notEnabled (state : port.state = .notEnabled) :
    smLoop config conditions (passes + 5) event port = port.started config conditions := by
  have pass : port.smPass config conditions event = port.started config conditions := by
    unfold smPass
    rw [state]
    rfl
  cases transmits : config.pdelayTransmitEnabled with
  | false =>
    have same : port.started config conditions = port := by
      unfold started
      simp [transmits]
    rw [same] at pass ⊢
    rw [smLoop_stop config conditions (by rw [pass]),pass]
  | true =>
    have same : port.started config conditions = port.smInitialSend config conditions := by
      unfold started
      simp [transmits]
    rw [same] at pass ⊢
    have moved : (port.smInitialSend config conditions).state ≠ port.state := by
      rw [state]
      exact noConfusion
    have event : nextEvent event (port.smInitialSend config conditions) = .run := if_neg fun both => nomatch both.1
    rw [smLoop_go config conditions (by rw [pass]; exact moved),pass,event]
    exact smLoop_run_send config conditions (.inl rfl)

end Machine

section Invariant
variable {config : PdelayReqConfig} {conditions : PdelayReqConditions} {port first second third : PdelayReqPort}

/-- The port waits for the follow-up of the response in its buffer, and for the next request after
a response to the last one. -/
structure Sound (port : PdelayReqPort) : Prop where
  rests : port.fault = false
  current : port.state ≠ .notEnabled → port.exchange.txPdelayReq.sequenceId = port.pdelayReqSequenceId
  accepted : port.state = .waitingForPdelayRespFollowUp →
    port.exchange.accepted = some (port.exchange.respRx,port.exchange.respRxTs) ∧ port.exchange.isRespValid = true
  answered : port.state = .waitingForPdelayIntervalTimer →
    port.exchange.respRx.sequenceId = port.exchange.txPdelayReq.sequenceId

/-- The follow-up in the buffer will be taken without another message. -/
def Completes (port : PdelayReqPort) : Bool :=
  port.rcvdPdelayRespFollowUp && port.exchange.isRespFupValid &&
    match port.state with
    | .waitingForPdelayRespFollowUp =>
      !(port.rcvdPdelayResp && port.exchange.respRx.sequenceId = port.exchange.txPdelayReq.sequenceId)
    | .waitingForPdelayResp => port.rcvdPdelayResp && port.exchange.isRespValid
    | .initialSendPdelayReq | .sendPdelayReq =>
      port.rcvdMdTimestampReceive && port.rcvdPdelayResp && port.exchange.isRespValid
    | _ => false

def takes (port : PdelayReqPort) : PdelayExchange :=
  if port.state = .waitingForPdelayRespFollowUp then port.exchange
  else {port.exchange with accepted := some (port.exchange.respRx,port.exchange.respRxTs)}

def completed (conditions : PdelayReqConditions) (port : PdelayReqPort) : List (PdelayComputation × PdelayExchange) :=
  if port.Completes then (port.measured conditions).map fun computation => (computation,port.takes) else []

/-- The second port computes what is listed, and the response in its buffer is the same. -/
structure Follows (first second : PdelayReqPort) (computed : List (PdelayComputation × PdelayExchange)) : Prop where
  sound : second.Sound
  computations : second.computations = first.computations ++ computed
  respRx : second.exchange.respRx = first.exchange.respRx
  respRxTs : second.exchange.respRxTs = first.exchange.respRxTs

theorem Sound.stays (sound : port.Sound) : port.Follows port [] :=
  ⟨sound,(append_nil _).symm,rfl,rfl⟩

private theorem smReset_follows (rests : port.fault = false)
    (current : port.exchange.txPdelayReq.sequenceId = port.pdelayReqSequenceId) : port.Follows (port.smReset config) [] := by
  rw [smReset_same]
  exact ⟨⟨rests,fun _ => current,fun state => (nomatch state),fun state => (nomatch state)⟩,(append_nil _).symm,rfl,rfl⟩

private theorem runFup_follows (sound : port.Sound) (state : port.state = .waitingForPdelayRespFollowUp) :
    port.Follows (port.runFup config conditions) (port.completed conditions) := by
  have current := sound.current (by rw [state]; decide)
  obtain ⟨accepted,valid⟩ := sound.accepted state
  have completes : port.Completes = (port.rcvdPdelayRespFollowUp && port.exchange.isRespFupValid &&
      !(port.rcvdPdelayResp && port.exchange.respRx.sequenceId = port.exchange.txPdelayReq.sequenceId)) := by
    unfold Completes
    rw [state]
  have takes : port.takes = port.exchange := if_pos state
  unfold completed runFup
  rw [completes,takes]
  cases again : port.rcvdPdelayResp && port.exchange.respRx.sequenceId = port.exchange.txPdelayReq.sequenceId with
  | true =>
    simp only [Bool.not_true,Bool.and_false,Bool.false_eq_true,if_true,if_false]
    exact smReset_follows sound.rests current
  | false =>
    cases taken : port.rcvdPdelayRespFollowUp && port.exchange.isRespFupValid with
    | false =>
      exact sound.stays
    | true =>
      obtain ⟨ingress,responder,phase,ratio,same⟩ := smWaitingInterval_same conditions port
      rw [same]
      have answered : port.exchange.respRx.sequenceId = port.exchange.txPdelayReq.sequenceId := by
        unfold isRespValid at valid
        simp only [Bool.and_eq_true,decide_eq_true_eq] at valid
        exact valid.2
      exact ⟨⟨sound.rests,fun _ => current,fun state => (nomatch state),fun _ => answered⟩,rfl,rfl,rfl⟩

private theorem runResp_follows (sound : port.Sound) (state : port.state = .waitingForPdelayResp) :
    port.Follows (port.runResp config conditions) (port.completed conditions) := by
  have current := sound.current (by rw [state]; decide)
  have completes : port.Completes = (port.rcvdPdelayRespFollowUp && port.exchange.isRespFupValid &&
      (port.rcvdPdelayResp && port.exchange.isRespValid)) := by
    unfold Completes
    rw [state]
  unfold runResp
  cases received : port.rcvdPdelayResp with
  | false =>
    have none : port.completed conditions = [] := if_neg (by rw [completes,received]; simp)
    rw [none]
    exact sound.stays
  | true =>
    cases valid : port.exchange.isRespValid with
    | false =>
      have none : port.completed conditions = [] := if_neg (by rw [completes,valid]; simp)
      rw [none]
      exact smReset_follows sound.rests current
    | true =>
      have waits : port.smWaitingFup.Sound :=
        ⟨sound.rests,fun _ => current,fun _ => ⟨rfl,valid⟩,fun state => (nomatch state)⟩
      have follows : port.smWaitingFup.Follows (port.smWaitingFup.runFup config conditions)
        (port.smWaitingFup.completed conditions) := runFup_follows waits rfl
      have same : port.smWaitingFup.completed conditions = port.completed conditions := by
        have takes : port.takes = port.smWaitingFup.takes := if_neg (by rw [state]; decide)
        have completes' : port.smWaitingFup.Completes = port.Completes := by
          rw [completes,received,valid]
          rfl
        unfold completed
        rw [completes',takes]
        rfl
      rw [← same]
      exact {follows with}

private theorem runSend_follows (sound : port.Sound)
    (state : port.state = .initialSendPdelayReq ∨ port.state = .sendPdelayReq) :
    port.Follows (port.runSend config conditions) (port.completed conditions) := by
  have current := sound.current (by rcases state with state | state <;> (rw [state]; decide))
  have completes : port.Completes = (port.rcvdPdelayRespFollowUp && port.exchange.isRespFupValid &&
      (port.rcvdMdTimestampReceive && port.rcvdPdelayResp && port.exchange.isRespValid)) := by
    unfold Completes
    rcases state with state | state
    · rw [state]
    · rw [state]
  unfold runSend
  cases reported : port.rcvdMdTimestampReceive with
  | false =>
    have none : port.completed conditions = [] := if_neg (by rw [completes,reported]; simp)
    rw [none]
    exact sound.stays
  | true =>
    have waits : port.smWaitingResp.Sound :=
      ⟨sound.rests,fun _ => current,fun state => (nomatch state),fun state => (nomatch state)⟩
    have follows : port.smWaitingResp.Follows (port.smWaitingResp.runResp config conditions)
      (port.smWaitingResp.completed conditions) := runResp_follows waits rfl
    have same : port.smWaitingResp.completed conditions = port.completed conditions := by
      have takes : port.takes = port.smWaitingResp.takes :=
        if_neg (by rcases state with state | state <;> (rw [state]; decide))
      have completes' : port.smWaitingResp.Completes = port.Completes := by
        rw [completes,reported]
        rfl
      unfold completed
      rw [completes',takes]
      rfl
    rw [← same]
    exact {follows with}

theorem Follows.trans {left right : List (PdelayComputation × PdelayExchange)} (before : first.Follows second left)
    (after : second.Follows third right) : first.Follows third (left ++ right) :=
  ⟨after.sound,by rw [after.computations,before.computations,append_assoc],after.respRx.trans before.respRx,
    after.respRxTs.trans before.respRxTs⟩

private theorem resend_follows (rests : port.fault = false) :
    port.Follows ((port.resend config conditions).runSend config conditions) [] := by
  have sent : port.Follows (port.resend config conditions) [] :=
    ⟨⟨rests,fun _ => rfl,fun state => (nomatch state),fun state => (nomatch state)⟩,(append_nil _).symm,rfl,rfl⟩
  have none : (port.resend config conditions).completed conditions = [] := if_neg (fun completes => nomatch completes)
  have follows : (port.resend config conditions).Follows ((port.resend config conditions).runSend config conditions)
    ((port.resend config conditions).completed conditions) := runSend_follows sent.sound (.inr rfl)
  rw [none] at follows
  exact sent.trans follows

theorem smSend_follows (sound : port.Sound) (state : port.state = .waitingForPdelayIntervalTimer) :
    port.Follows ((port.smSend config conditions).runSend config conditions) [] := by
  have current := sound.current (by rw [state]; decide)
  have answered := sound.answered state
  have sent : port.Follows (port.smSend config conditions) [] :=
    ⟨⟨sound.rests,fun _ => rfl,fun state => (nomatch state),fun state => (nomatch state)⟩,(append_nil _).symm,rfl,rfl⟩
  have stale : (port.smSend config conditions).exchange.isRespValid = false := by
    have differs : port.exchange.respRx.sequenceId ≠ port.pdelayReqSequenceId + 1 := by
      rw [answered,current]
      intro same
      have values := congrArg UInt16.toNat same
      rw [UInt16.toNat_add] at values
      simp only [UInt16.toNat_one] at values
      omega
    have apart : decide (port.exchange.respRx.sequenceId = port.pdelayReqSequenceId + 1) = false := decide_eq_false differs
    change (decide (port.exchange.respRx.requestingPortIdentity = config.identity) &&
      decide (port.exchange.respRx.sequenceId = port.pdelayReqSequenceId + 1)) = false
    rw [apart,Bool.and_false]
  have none : (port.smSend config conditions).completed conditions = [] := by
    refine if_neg ?_
    have completes : (port.smSend config conditions).Completes =
        ((port.smSend config conditions).rcvdPdelayRespFollowUp && (port.smSend config conditions).exchange.isRespFupValid &&
          ((port.smSend config conditions).rcvdMdTimestampReceive && (port.smSend config conditions).rcvdPdelayResp &&
            (port.smSend config conditions).exchange.isRespValid)) := rfl
    rw [completes,stale]
    simp
  have follows : (port.smSend config conditions).Follows ((port.smSend config conditions).runSend config conditions)
    ((port.smSend config conditions).completed conditions) := runSend_follows sent.sound (.inr rfl)
  rw [none] at follows
  exact sent.trans follows

theorem givenUp_follows (sound : port.Sound) (underWay : port.UnderWay) : port.Follows (port.givenUp config) [] := by
  have current := sound.current (by
    intro off
    rcases underWay with state | state | state | state <;> exact absurd (state.symm.trans off) (by decide))
  unfold givenUp
  split
  · have given : port.smWaitingIntervalStaticPdelay.Follows (port.smWaitingIntervalStaticPdelay.smReset config) [] :=
      smReset_follows sound.rests current
    exact {given with}
  · exact smReset_follows sound.rests current

private theorem started_follows (sound : port.Sound) : port.Follows (port.started config conditions) [] := by
  unfold started
  split
  · exact ⟨⟨sound.rests,fun _ => rfl,fun state => (nomatch state),fun state => (nomatch state)⟩,(append_nil _).symm,rfl,rfl⟩
  · exact sound.stays

def halted (conditions : PdelayReqConditions) : Bool :=
  conditions.begin || !conditions.portOper || !conditions.portEnabled0

def computes (conditions : PdelayReqConditions) (event : PdelayReqEvent) (port : PdelayReqPort) :
    List (PdelayComputation × PdelayExchange) :=
  if !halted conditions ∧ event = .run then port.completed conditions else []

theorem mdPdelayReqSm_follows (event : PdelayReqEvent) (sound : port.Sound) :
    port.Follows (port.mdPdelayReqSm config conditions event) (port.computes conditions event) := by
  have idle (state : port.state = .notEnabled ∨ port.state = .reset ∨ port.state = .waitingForPdelayIntervalTimer) :
      port.completed conditions = [] := by
    refine if_neg ?_
    unfold Completes
    rcases state with state | state | state
    · rw [state]
      simp
    · rw [state]
      simp
    · rw [state]
      simp
  unfold mdPdelayReqSm computes
  cases off : halted conditions with
  | true =>
    have off' : (conditions.begin || !conditions.portOper || !conditions.portEnabled0) = true := off
    rw [off']
    exact ⟨⟨sound.rests,fun on => absurd rfl on,fun state => (nomatch state),fun state => (nomatch state)⟩,
      (append_nil _).symm,rfl,rfl⟩
  | false =>
    have off' : (conditions.begin || !conditions.portOper || !conditions.portEnabled0) = false := off
    rw [off']
    cases event with
    | run =>
      cases state : port.state with
      | notEnabled =>
        rw [smLoop_notEnabled config conditions state,idle (.inl state)]
        exact started_follows sound
      | reset =>
        rw [smLoop_run_reset config conditions state,idle (.inr (.inl state))]
        exact sound.stays
      | initialSendPdelayReq =>
        rw [smLoop_run_send config conditions (.inl state)]
        exact runSend_follows sound (.inl state)
      | sendPdelayReq =>
        rw [smLoop_run_send config conditions (.inr state)]
        exact runSend_follows sound (.inr state)
      | waitingForPdelayResp =>
        rw [smLoop_run_resp config conditions state]
        exact runResp_follows sound state
      | waitingForPdelayRespFollowUp =>
        rw [smLoop_run_fup config conditions state]
        exact runFup_follows sound state
      | waitingForPdelayIntervalTimer =>
        rw [smLoop_run_interval config conditions state,idle (.inr (.inr state))]
        exact sound.stays
    | reqInterval =>
      have underWay (underWay : port.UnderWay) :
          port.Follows (smLoop config conditions 6 .reqInterval port) [] := by
        rw [smLoop_interval_underWay config conditions underWay]
        have given : port.Follows (port.givenUp config) [] := givenUp_follows sound underWay
        exact given.trans (resend_follows given.sound.rests)
      cases state : port.state with
      | notEnabled =>
        rw [smLoop_notEnabled config conditions state]
        exact started_follows sound
      | reset =>
        rw [smLoop_interval_reset config conditions state]
        exact resend_follows sound.rests
      | initialSendPdelayReq => exact underWay (.inl state)
      | sendPdelayReq => exact underWay (.inr (.inl state))
      | waitingForPdelayResp => exact underWay (.inr (.inr (.inl state)))
      | waitingForPdelayRespFollowUp => exact underWay (.inr (.inr (.inr state)))
      | waitingForPdelayIntervalTimer =>
        rw [smLoop_interval_interval config conditions state]
        exact smSend_follows sound state

end Invariant

section Kept
variable {config : PdelayReqConfig} {conditions : PdelayReqConditions}

def Keeps (first second : PdelayReqPort) : Prop :=
  second.exchange.respRx = first.exchange.respRx ∧ second.exchange.respRxTs = first.exchange.respRxTs

private theorem smReset_keeps (port : PdelayReqPort) : port.Keeps (port.smReset config) := by
  rw [smReset_same]
  exact ⟨rfl,rfl⟩

theorem smWaitingInterval_keeps (port : PdelayReqPort) : port.Keeps (port.smWaitingInterval conditions) := by
  obtain ⟨ingress,responder,phase,ratio,same⟩ := smWaitingInterval_same conditions port
  rw [same]
  exact ⟨rfl,rfl⟩

private theorem keeps_ite {p : Prop} [Decidable p] {port yes no : PdelayReqPort} (left : port.Keeps yes)
    (right : port.Keeps no) :
    port.Keeps (if p then yes else no) := by
  split
  · exact left
  · exact right

theorem smPass_keeps (event : PdelayReqEvent) (port : PdelayReqPort) :
    port.Keeps (port.smPass config conditions event) := by
  have stays : port.Keeps port := ⟨rfl,rfl⟩
  have reset : port.Keeps (port.smReset config) := smReset_keeps port
  unfold smPass
  cases port.state with
  | notEnabled | reset | waitingForPdelayIntervalTimer => exact keeps_ite ⟨rfl,rfl⟩ stays
  | initialSendPdelayReq | sendPdelayReq => exact keeps_ite reset (keeps_ite ⟨rfl,rfl⟩ stays)
  | waitingForPdelayResp =>
    refine keeps_ite ?_ (keeps_ite (keeps_ite ⟨rfl,rfl⟩ reset) stays)
    split
    · exact smReset_keeps port.smWaitingIntervalStaticPdelay
    · exact reset
  | waitingForPdelayRespFollowUp => exact keeps_ite reset (keeps_ite reset (keeps_ite (smWaitingInterval_keeps port) stays))

theorem smLoop_keeps (passes : Nat) (event : PdelayReqEvent) (port : PdelayReqPort) :
    port.Keeps (smLoop config conditions passes event port) := by
  induction passes generalizing event port with
  | zero => exact ⟨rfl,rfl⟩
  | succ passes ih =>
    have pass : port.Keeps (port.smPass config conditions event) := smPass_keeps event port
    have later : (port.smPass config conditions event).Keeps _ := ih (nextEvent event (port.smPass config conditions event)) _
    exact keeps_ite pass ⟨later.1.trans pass.1,later.2.trans pass.2⟩

theorem step_keeps (input : PdelayReqInput × PdelayReqConditions) (port : PdelayReqPort) :
    (port.stored input.1).Keeps (port.step config input) :=
  keeps_ite ⟨rfl,rfl⟩ (smLoop_keeps 6 _ _)

end Kept

section Runs
variable {config : PdelayReqConfig} {port : PdelayReqPort} {input : PdelayReqInput × PdelayReqConditions}

/-- A response to the last request arrives while it is waited for. -/
structure Awaited (conditions : PdelayReqConditions) (msg : PdelayRespPdu) (port : PdelayReqPort) : Prop where
  runs : halted conditions = false
  waits : port.state = .initialSendPdelayReq ∨ port.state = .sendPdelayReq ∨ port.state = .waitingForPdelayResp
  requesting : msg.requestingPortIdentity = port.exchange.txPdelayReq.sourcePortId
  sequenceId : msg.sequenceId = port.exchange.txPdelayReq.sequenceId

/-- Whatever is computed is computed from one exchange, and a response that is not waited for leaves
the one in the buffer. -/
structure StepCoherent (config : PdelayReqConfig) (port : PdelayReqPort)
    (input : PdelayReqInput × PdelayReqConditions) : Prop where
  computed : ∃ computed, (port.step config input).computations = port.computations ++ computed ∧
    ∀ entry ∈ computed, entry.2.Coherent
  untouched : (∀ msg ts, input.1 = .pdelayResp msg ts → ¬ port.Awaited input.2 msg) → port.Keeps (port.step config input)

/-- A response is waited for or repeats the one in the buffer, and when a follow-up is computed with,
the last timestamp was that of the last request. -/
structure InputExpected (port : PdelayReqPort) (input : PdelayReqInput × PdelayReqConditions) : Prop where
  response : ∀ msg ts, input.1 = .pdelayResp msg ts →
    port.Awaited input.2 msg ∨ msg = port.exchange.respRx ∧ ts = port.exchange.respRxTs
  timestamp : (port.stored input.1).computes input.2 (eventOf input.1) ≠ [] →
    (port.stored input.1).exchange.timestampOf = some port.exchange.txPdelayReq.sequenceId

private theorem stored_sound (sound : port.Sound) (response : ∀ msg ts, input.1 = .pdelayResp msg ts →
      port.Awaited input.2 msg ∨ msg = port.exchange.respRx ∧ ts = port.exchange.respRxTs) :
    (port.stored input.1).Sound := by
  cases arrived : input.1 with
  | reqTimer | updateFsm => exact sound
  | pdelayReqTimestamp | pdelayRespFup => exact {sound with}
  | pdelayResp msg ts =>
    rcases response msg ts arrived with awaited | ⟨rfl,rfl⟩
    · have other {state : PdelayReqState} (apart : state ≠ .initialSendPdelayReq ∧ state ≠ .sendPdelayReq ∧
          state ≠ .waitingForPdelayResp) : port.state ≠ state := by
        rcases awaited.waits with waits | waits | waits
        · exact fun same => apart.1 (same.symm.trans waits)
        · exact fun same => apart.2.1 (same.symm.trans waits)
        · exact fun same => apart.2.2 (same.symm.trans waits)
      exact ⟨sound.rests,sound.current,fun state => absurd state (other (by decide)),
        fun state => absurd state (other (by decide))⟩
    · exact {sound with}

private theorem computes_takes {conditions : PdelayReqConditions} {event : PdelayReqEvent} (sound : port.Sound) :
    ∀ entry ∈ port.computes conditions event, entry.2 = port.takes ∧
      (entry.2.Coherent ↔ port.exchange.timestampOf = some port.exchange.txPdelayReq.sequenceId) := by
  intro entry member
  unfold computes completed at member
  split at member
  · split at member
    next completes =>
      obtain ⟨computation,_,rfl⟩ := mem_map.mp member
      refine ⟨rfl,?_⟩
      have followUp : port.exchange.isRespFupValid = true := by
        unfold Completes at completes
        simp only [Bool.and_eq_true] at completes
        exact completes.1.2
      unfold takes
      split
      next state =>
        obtain ⟨accepted,valid⟩ := sound.accepted state
        exact ⟨Coherent.timestamp,fun timestamp => ⟨timestamp,accepted,valid,followUp⟩⟩
      next state =>
        have valid : port.exchange.isRespValid = true := by
          unfold Completes at completes
          cases waits : port.state with
          | notEnabled | reset | waitingForPdelayIntervalTimer => simp [waits] at completes
          | initialSendPdelayReq | sendPdelayReq | waitingForPdelayResp => simp_all
          | waitingForPdelayRespFollowUp => exact absurd waits state
        exact ⟨Coherent.timestamp,fun timestamp => ⟨timestamp,rfl,valid,followUp⟩⟩
    · exact absurd member not_mem_nil
  · exact absurd member not_mem_nil

private theorem stored_computations (input : PdelayReqInput) (port : PdelayReqPort) :
    (port.stored input).computations = port.computations := by
  cases input <;> rfl

theorem stored_request (input : PdelayReqInput) (port : PdelayReqPort) :
    (port.stored input).exchange.txPdelayReq = port.exchange.txPdelayReq := by
  cases input <;> rfl

theorem step_follows (sound : (port.stored input.1).Sound) :
    (port.stored input.1).Follows (port.step config input) ((port.stored input.1).computes input.2 (eventOf input.1)) :=
  mdPdelayReqSm_follows _ sound

/-- The step rule: the exchange stays coherent exactly when the input is expected. -/
private theorem stepCoherent_iff (sound : port.Sound) : port.StepCoherent config input ↔ port.InputExpected input := by
  have request := stored_request input.1 port
  constructor
  · intro coherent
    have response : ∀ msg ts, input.1 = .pdelayResp msg ts →
        port.Awaited input.2 msg ∨ msg = port.exchange.respRx ∧ ts = port.exchange.respRxTs := by
      intro msg ts arrived
      by_cases awaited : port.Awaited input.2 msg
      · exact .inl awaited
      · have unexpected : ∀ other time, input.1 = .pdelayResp other time → ¬ port.Awaited input.2 other := by
          intro other time same
          have equal := arrived.symm.trans same
          cases equal
          exact awaited
        have kept : (port.stored input.1).Keeps (port.step config input) := step_keeps input port
        obtain ⟨respRx,respRxTs⟩ := coherent.untouched unexpected
        rw [kept.1,arrived] at respRx
        rw [kept.2,arrived] at respRxTs
        exact .inr ⟨respRx,respRxTs⟩
    refine ⟨response,fun some => ?_⟩
    have stored := stored_sound sound response
    obtain ⟨computed,computations,all⟩ := coherent.computed
    rw [(step_follows stored).computations,stored_computations] at computations
    obtain rfl := append_cancel_left computations
    obtain ⟨entry,member⟩ := exists_mem_of_ne_nil _ some
    have timestamp := ((computes_takes stored entry member).2).mp (all entry member)
    rw [request] at timestamp
    exact timestamp
  · intro expected
    have stored := stored_sound sound expected.response
    have follows : (port.stored input.1).Follows (port.step config input) _ := step_follows stored
    constructor
    · refine ⟨_,by rw [follows.computations,stored_computations],fun entry member => ?_⟩
      rw [(computes_takes stored entry member).2,request]
      exact expected.timestamp (ne_nil_of_mem member)
    · intro unexpected
      have kept : port.Keeps (port.stored input.1) := by
        cases arrived : input.1 with
        | pdelayResp msg ts =>
          rcases expected.response msg ts arrived with awaited | ⟨rfl,rfl⟩
          · exact absurd awaited (unexpected msg ts arrived)
          · exact ⟨rfl,rfl⟩
        | reqTimer | updateFsm | pdelayReqTimestamp | pdelayRespFup => exact ⟨rfl,rfl⟩
      exact ⟨follows.respRx.trans kept.1,follows.respRxTs.trans kept.2⟩

def zeroed : PdelayReqPort where
  state := .notEnabled
  rcvdPdelayResp := false
  rcvdPdelayRespFollowUp := false
  rcvdMdTimestampReceive := false
  pdelayReqSequenceId := 0
  exchange := ⟨⟨⟨0,0⟩,0⟩,0,none,⟨⟨0,0⟩,0,⟨0,0,0⟩,⟨0,0⟩⟩,0,none,⟨⟨0,0⟩,0,⟨0,0,0⟩,⟨0,0⟩⟩⟩
  lostResponses := 0
  neighborRateRatioValid := false
  prevResponderTimestamp := 0
  prevIngressTimestamp := 0
  prevRateRatioPhaseDiscont := 0
  prevPdelayPhaseDiscont := 0
  computations := []
  fault := false

theorem zeroed_sound : zeroed.Sound :=
  ⟨rfl,fun on => absurd rfl on,fun state => (nomatch state),fun state => (nomatch state)⟩

/-- The peer delay is computed from one exchange at a time, and nothing but an awaited response is
kept, exactly in the runs in which every input is expected. -/
theorem exchanges_coherent (config : PdelayReqConfig) (inputs : List (PdelayReqInput × PdelayReqConditions)) :
    Steps (step config) (StepCoherent config) inputs zeroed ↔ Steps (step config) InputExpected inputs zeroed := by
  refine steps_iff (I := Sound) (step config) (fun port input sound => stepCoherent_iff sound) ?_ zeroed_sound
  intro port input sound coherent
  have expected := (stepCoherent_iff sound).mp coherent
  exact (step_follows (stored_sound sound expected.response)).sound

section Examples

def exampleConfig : PdelayReqConfig := ⟨⟨1,1⟩,true,false,9⟩

def running : PdelayReqConditions := ⟨false,true,true,true,true,0,0⟩

def lateResponse : List (PdelayReqInput × PdelayReqConditions) :=
  [(.updateFsm,running),(.pdelayReqTimestamp 0 100,running),
    (.pdelayResp ⟨⟨2,1⟩,0,⟨0,0,1050⟩,⟨1,1⟩⟩ 300,running),(.pdelayRespFup ⟨⟨2,1⟩,0,⟨0,0,1250⟩,⟨1,1⟩⟩,running),
    (.reqTimer,running),(.pdelayReqTimestamp 1 10100,running),
    (.pdelayResp ⟨⟨2,1⟩,1,⟨0,0,11050⟩,⟨1,1⟩⟩ 10300,running),(.pdelayResp ⟨⟨2,1⟩,0,⟨0,0,1050⟩,⟨1,1⟩⟩ 10400,running)]

theorem lateResponse_mixed : ¬ ∀ (config : PdelayReqConfig) (inputs : List (PdelayReqInput × PdelayReqConditions)),
    Steps (step config) (StepCoherent config) inputs zeroed := by
  intro always
  have steps := always exampleConfig (lateResponse ++ [(.pdelayRespFup ⟨⟨2,1⟩,1,⟨0,0,11250⟩,⟨1,1⟩⟩,running)])
  have last := ((steps_append _ _ _ _ _).mp steps).2.1
  obtain ⟨computed,computations,coherent⟩ := last.computed
  have before : (run (step exampleConfig) lateResponse zeroed).computations = [] := by decide +kernel
  rw [before,nil_append] at computations
  have mixed : ∃ entry ∈ computed, entry.2.accepted ≠ some (entry.2.respRx,entry.2.respRxTs) := by
    rw [← computations]
    decide +kernel
  obtain ⟨entry,member,differs⟩ := mixed
  exact differs (coherent entry member).accepted

end Examples

end Runs

end PdelayReqPort

end Genavb.Gptp
