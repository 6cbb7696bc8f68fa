import Genavb.Gptp.TwoStep
import Genavb.Support.ListWalk

/-! Every Follow_Up describes its Sync and every Pdelay_Resp_Follow_Up its Pdelay_Resp, in every run
in which a timestamp that is used is the one of the message sent last. -/
namespace Genavb.Gptp
open Support PdelayRespPort List

section Descriptions
variable (config : TwoStepConfig) (egress : EgressTimes)

def followUpOf (sync : SyncTx) (ts : UInt64) : FollowUpPdu :=
  match sync.request with
  | some request => mdSetFollowUp config request ts sync.pdu.sequenceId
  | none => rsyncFollowUp config ts sync.pdu.sequenceId

def respFollowUpOf (resp : PdelayRespPdu) (ts : UInt64) : PdelayRespFollowUpPdu :=
  ⟨resp.sourcePortId,resp.sequenceId,.ofNanoseconds ts,resp.requestingPortIdentity⟩

def SyncDescribed (sync : SyncTx) (index : Nat) (fup : FollowUpPdu) : Prop :=
  fup = followUpOf config sync (egress.sync index + config.txDelayCompensation)

def RespDescribed (resp : PdelayRespPdu) (index : Nat) (fup : PdelayRespFollowUpPdu) : Prop :=
  fup = respFollowUpOf resp (egress.resp index + config.txDelayCompensation)

/-- Every follow-up describes a message of its own with the time at which that message was sent. -/
def FollowUpsHold (port : TwoStepPort) : Prop :=
  (∃ owners, Owned (SyncDescribed config egress) port.syncSnd.syncs owners port.syncSnd.followUps) ∧
    ∃ owners, Owned (RespDescribed config egress) port.pdelayResp.resps owners port.pdelayResp.followUps

end Descriptions

def LatestRequest (syncs : List SyncTx) (index : Nat) : Prop :=
  (∃ sync, syncs[index]? = some sync ∧ sync.request.isSome) ∧
    ∀ later sync, index < later → syncs[later]? = some sync → sync.request = none

def PortConditions.respEnabled (conditions : PortConditions) : Bool :=
  !(conditions.begin || !conditions.portOper || !conditions.ptpPortEnabled)

/-- A timestamp that is used is the one of the last message, and a new request while a timestamp is
awaited finds no old one. -/
def Timely (config : TwoStepConfig) (port : TwoStepPort) (input : TwoStepInput × PortConditions) : Prop :=
  match input.1 with
  | .txMdSync _ _ => port.syncSnd.state = .sendSync → input.2.stopped = false → input.2.capable = true →
    port.syncSnd.rcvdMdTimestampReceive = false
  | .rsyncSync _ => True
  | .syncTimestamp sync _ =>
    if config.rsync && !input.2.isGrandmaster then
      ∀ sent, port.syncSnd.syncs[sync]? = some sent → sent.request = none ∧ sent.pdu.sequenceId = port.syncSnd.syncTxSeqnum
    else port.syncSnd.state = .sendSync → input.2.stopped = false → LatestRequest port.syncSnd.syncs sync
  | .pdelayReq _ _ | .portUpdate => port.pdelayResp.state = .sentPdelayRespWaitingForTimestamp →
    input.2.respEnabled = true → port.pdelayResp.rcvdMdTimestampReceive = false
  | .respTimestamp resp => port.pdelayResp.state = .sentPdelayRespWaitingForTimestamp →
    input.2.respEnabled = true → resp + 1 = port.pdelayResp.resps.length

variable {syncs : List SyncTx}

theorem latestRequest_unique {first second : Nat} (isFirst : LatestRequest syncs first)
    (isSecond : LatestRequest syncs second) : first = second := by
  obtain ⟨⟨sync,atFirst,asked⟩,afterFirst⟩ := isFirst
  obtain ⟨⟨other,atSecond,otherAsked⟩,afterSecond⟩ := isSecond
  rcases Nat.lt_trichotomy first second with before | same | behind
  · rw [afterFirst second other before atSecond] at otherAsked
    cases otherAsked
  · exact same
  · rw [afterSecond first sync behind atFirst] at asked
    cases asked

private theorem latestRequest_sent {sync : SyncTx} (asked : sync.request.isSome) :
    LatestRequest (syncs ++ [sync]) syncs.length := by
  refine ⟨⟨sync,List.getElem?_concat_length,asked⟩,fun later other after found => ?_⟩
  have inside := (List.getElem?_eq_some_iff.mp found).1
  simp at inside
  omega

theorem latestRequest_reversed {sync : SyncTx} {index : Nat} (latest : LatestRequest syncs index)
    (unasked : sync.request = none) : LatestRequest (syncs ++ [sync]) index := by
  obtain ⟨⟨old,found,asked⟩,after⟩ := latest
  have inside := (List.getElem?_eq_some_iff.mp found).1
  refine ⟨⟨old,by rw [List.getElem?_append_left inside,found],asked⟩,fun later other behind present => ?_⟩
  by_cases within : later < syncs.length
  · rw [List.getElem?_append_left within] at present
    exact after later other behind present
  · have bound := (List.getElem?_eq_some_iff.mp present).1
    have last : later = syncs.length := by
      simp at bound
      omega
    subst last
    rw [List.getElem?_concat_length] at present
    cases present
    exact unasked

namespace SyncSndPort

/-- The Sync that waits for its timestamp is the last one asked for, and the Follow_Ups sent describe
Syncs with a report. -/
structure Held (config : TwoStepConfig) (egress : EgressTimes) (reports : List Nat) (port : SyncSndPort) : Prop where
  heard : port.rcvdMdSync = false
  sent : port.state = .sendSync → ∃ index sync, LatestRequest port.syncs index ∧ port.syncs[index]? = some sync ∧
    sync.request = some port.syncSnd ∧ sync.pdu.sequenceId = port.syncTxSeqnum - 1
  owned : ∃ owners, Owned (SyncDescribed config egress) port.syncs owners port.followUps ∧ ∀ owner ∈ owners, owner ∈ reports

section Steps
variable {config : TwoStepConfig} {egress : EgressTimes} {reports : List Nat} {port : SyncSndPort}
  {conditions : PortConditions} {random : UInt16}

private theorem initializing_held (owned : ∃ owners, Owned (SyncDescribed config egress) port.syncs owners port.followUps ∧
    ∀ owner ∈ owners, owner ∈ reports) : (port.initializing random).Held config egress reports :=
  ⟨rfl,fun no => (nomatch no),owned⟩

private theorem sendSync_held (owned : ∃ owners, Owned (SyncDescribed config egress) port.syncs owners port.followUps ∧
    ∀ owner ∈ owners, owner ∈ reports) : port.sendSync.Held config egress reports := by
  refine ⟨rfl,fun _ => ⟨port.syncs.length,_,latestRequest_sent rfl,List.getElem?_concat_length,rfl,?_⟩,?_⟩
  · exact (UInt16.add_sub_cancel _ _).symm
  · obtain ⟨owners,described,reported⟩ := owned
    exact ⟨owners,owned_send _ described,reported⟩

theorem txMdSync_held (request : MdSyncSend) (held : port.Held config egress reports)
    (timely : port.state = .sendSync → conditions.stopped = false → conditions.capable = true →
      port.rcvdMdTimestampReceive = false) :
    (port.txMdSync config conditions random request).Held config egress reports := by
  unfold txMdSync mdSyncSendSm
  split
  · exact initializing_held held.owned
  next running =>
    have capable : conditions.capable = true := by
      by_contra incapable
      simp [incapable] at running
    have stopped : conditions.stopped = false := by
      by_contra stops
      simp [stops] at running
    have answers : answerRequest conditions {port with syncSnd := request,rcvdMdSync := true} =
        sendSync {port with syncSnd := request,rcvdMdSync := true} := if_pos (by simp [capable])
    split
    · rw [answers]; exact sendSync_held held.owned
    · rw [answers]; exact sendSync_held held.owned
    next sending =>
      rw [if_neg (by simp [timely sending stopped capable]),if_pos rfl,answers]
      exact sendSync_held held.owned

theorem rsyncSendSync_held (logSyncInterval : Int8) (held : port.Held config egress reports) :
    (port.rsyncSendSync config logSyncInterval).Held config egress reports := by
  refine ⟨held.heard,fun sending => ?_,?_⟩
  · obtain ⟨index,sync,latest,found,same⟩ := held.sent sending
    have inside := (List.getElem?_eq_some_iff.mp found).1
    exact ⟨index,sync,latestRequest_reversed latest rfl,(List.getElem?_append_left inside).trans found,same⟩
  · obtain ⟨owners,described,reported⟩ := held.owned
    exact ⟨owners,owned_send _ described,reported⟩

theorem syncTimestamp_held {sync : Nat} (held : port.Held config egress reports) (inside : sync < port.syncs.length)
    (fresh : sync ∉ reports) (timely : if config.rsync && !conditions.isGrandmaster then
        ∀ sent, port.syncs[sync]? = some sent → sent.request = none ∧ sent.pdu.sequenceId = port.syncTxSeqnum
      else port.state = .sendSync → conditions.stopped = false → LatestRequest port.syncs sync) :
    (port.syncTimestamp config conditions random (egress.sync sync + config.txDelayCompensation)).Held config egress
      (sync :: reports) := by
  obtain ⟨owners,described,reported⟩ := held.owned
  have later : ∃ owners, Owned (SyncDescribed config egress) port.syncs owners port.followUps ∧
      ∀ owner ∈ owners, owner ∈ sync :: reports :=
    ⟨owners,described,fun owner member => mem_cons_of_mem sync (reported owner member)⟩
  have answered {sent : SyncTx} {fup : FollowUpPdu} (found : port.syncs[sync]? = some sent)
      (same : SyncDescribed config egress sent sync fup) :
      ∃ owners, Owned (SyncDescribed config egress) port.syncs owners (port.followUps ++ [fup]) ∧
        ∀ owner ∈ owners, owner ∈ sync :: reports := by
    refine ⟨owners ++ [sync],owned_append described found same fun member => fresh (reported sync member),?_⟩
    intro owner member
    rcases mem_append.mp member with old | new
    · exact mem_cons_of_mem sync (reported owner old)
    · exact mem_singleton.mp new ▸ mem_cons_self
  unfold syncTimestamp
  split at timely
  next reversed =>
    rw [if_pos reversed]
    have found := List.getElem?_eq_getElem inside
    obtain ⟨unasked,number⟩ := timely _ found
    refine ⟨held.heard,held.sent,answered found ?_⟩
    unfold SyncDescribed followUpOf
    rw [unasked,number]
  next forward =>
    rw [if_neg forward]
    unfold mdSyncSendSm
    rw [held.heard]
    split
    · exact initializing_held later
    next running =>
      have stopped : conditions.stopped = false := by simpa using running
      split
      next idle => exact ⟨rfl,fun sending => absurd (idle.symm.trans sending) (by decide),later⟩
      next idle => exact ⟨rfl,fun sending => absurd (idle.symm.trans sending) (by decide),later⟩
      next sending =>
        obtain ⟨index,sent,latest,found,asked,number⟩ := held.sent sending
        cases latestRequest_unique latest (timely sending stopped)
        refine ⟨rfl,fun no => (nomatch no),answered found ?_⟩
        unfold SyncDescribed followUpOf
        rw [asked,number]

end Steps

end SyncSndPort

namespace PdelayRespPort

/-- The Pdelay_Resp that waits for its timestamp is the last one and answers the stored request. -/
structure Held (config : TwoStepConfig) (egress : EgressTimes) (reports : List Nat) (port : PdelayRespPort) : Prop where
  sent : port.state = .sentPdelayRespWaitingForTimestamp → ∃ before resp, port.resps = before ++ [resp] ∧
    resp.sourcePortId = config.identity ∧ resp.sequenceId = port.reqRx.sequenceId ∧
    resp.requestingPortIdentity = port.reqRx.sourcePortId
  owned : ∃ owners, Owned (RespDescribed config egress) port.resps owners port.followUps ∧ ∀ owner ∈ owners, owner ∈ reports

section Steps
variable {config : TwoStepConfig} {egress : EgressTimes} {reports : List Nat} {port : PdelayRespPort}
  {conditions : PortConditions} {event : PdelayRespEvent}

private theorem idle_held (idle : port.state ≠ .sentPdelayRespWaitingForTimestamp)
    (owned : ∃ owners, Owned (RespDescribed config egress) port.resps owners port.followUps ∧
      ∀ owner ∈ owners, owner ∈ reports) : port.Held config egress reports :=
  ⟨fun sending => absurd sending idle,owned⟩

private theorem waitingTimestamp_held (owned : ∃ owners, Owned (RespDescribed config egress) port.resps owners port.followUps ∧
    ∀ owner ∈ owners, owner ∈ reports) : (port.waitingTimestamp config).Held config egress reports := by
  refine ⟨fun _ => ⟨port.resps,_,rfl,rfl,rfl,rfl⟩,?_⟩
  obtain ⟨owners,described,reported⟩ := owned
  exact ⟨owners,owned_send _ described,reported⟩

private theorem mdPdelayRespSm_held (owned : ∃ owners, Owned (RespDescribed config egress) port.resps owners port.followUps ∧
      ∀ owner ∈ owners, owner ∈ reports)
    (unused : port.state = .sentPdelayRespWaitingForTimestamp → conditions.respEnabled = true →
      port.rcvdMdTimestampReceive = false ∧ (event = .run → port.Held config egress reports)) :
    (port.mdPdelayRespSm config conditions event).Held config egress reports := by
  unfold mdPdelayRespSm
  split
  · exact idle_held (fun no => nomatch no) owned
  next enabled =>
    have respEnabled : conditions.respEnabled = true := by simpa [PortConditions.respEnabled] using enabled
    split
    · exact idle_held (fun no => nomatch no) owned
    next idle =>
      split
      · exact waitingTimestamp_held owned
      · exact idle_held (fun sending => absurd (idle.symm.trans sending) (by decide)) owned
    next idle =>
      split
      · exact waitingTimestamp_held owned
      · exact idle_held (fun sending => absurd (idle.symm.trans sending) (by decide)) owned
    next sending =>
      obtain ⟨unreported,kept⟩ := unused sending respEnabled
      rw [if_neg (by simp [unreported])]
      split
      · exact idle_held (fun no => nomatch no) owned
      next running =>
        refine kept ?_
        cases event with
        | reqReceived => exact absurd rfl running
        | run => rfl

theorem respTimestamp_held {resp : Nat} (held : port.Held config egress reports) (fresh : resp ∉ reports)
    (timely : port.state = .sentPdelayRespWaitingForTimestamp → conditions.respEnabled = true →
      resp + 1 = port.resps.length) :
    (port.respTimestamp config conditions (egress.resp resp + config.txDelayCompensation)).Held config egress
      (resp :: reports) := by
  obtain ⟨owners,described,reported⟩ := held.owned
  have later : ∃ owners, Owned (RespDescribed config egress) port.resps owners port.followUps ∧
      ∀ owner ∈ owners, owner ∈ resp :: reports :=
    ⟨owners,described,fun owner member => mem_cons_of_mem resp (reported owner member)⟩
  unfold respTimestamp
  by_cases used : port.state = .sentPdelayRespWaitingForTimestamp ∧ conditions.respEnabled = true
  · obtain ⟨sending,enabled⟩ := used
    obtain ⟨before,last,same,source,number,requesting⟩ := held.sent sending
    have index : resp = before.length := by
      have length := timely sending enabled
      rw [same] at length
      simpa using length
    have answers : mdPdelayRespSm config conditions .run
        {port with respTxTs := egress.resp resp + config.txDelayCompensation,rcvdMdTimestampReceive := true} =
        waitingReq config
          {port with respTxTs := egress.resp resp + config.txDelayCompensation,rcvdMdTimestampReceive := true} := by
      unfold mdPdelayRespSm
      rw [if_neg (by simpa [PortConditions.respEnabled] using enabled)]
      simp only [sending,if_true]
    rw [answers]
    have found : port.resps[resp]? = some last := by rw [same,index,List.getElem?_concat_length]
    refine idle_held (fun no => nomatch no) ⟨owners ++ [resp],owned_append described found ?_ fun member =>
      fresh (reported resp member),?_⟩
    · unfold RespDescribed respFollowUpOf
      rw [source,number,requesting]
      rfl
    · intro owner member
      rcases mem_append.mp member with old | new
      · exact mem_cons_of_mem resp (reported owner old)
      · exact mem_singleton.mp new ▸ mem_cons_self
  · exact mdPdelayRespSm_held later fun sending enabled => absurd ⟨sending,enabled⟩ used

end Steps

end PdelayRespPort

namespace TwoStepPort

structure Held (config : TwoStepConfig) (egress : EgressTimes) (port : TwoStepPort) : Prop where
  syncSnd : port.syncSnd.Held config egress port.syncReports
  pdelayResp : port.pdelayResp.Held config egress port.respReports

theorem twoStep_held {config : TwoStepConfig} {egress : EgressTimes} {port : TwoStepPort}
    (input : TwoStepInput × PortConditions) (held : port.Held config egress) (timely : Timely config port input) :
    (port.twoStep config egress input).Held config egress := by
  obtain ⟨message,conditions⟩ := input
  cases message with
  | txMdSync request random => exact ⟨SyncSndPort.txMdSync_held request held.syncSnd timely,held.pdelayResp⟩
  | rsyncSync logSyncInterval => exact ⟨SyncSndPort.rsyncSendSync_held logSyncInterval held.syncSnd,held.pdelayResp⟩
  | syncTimestamp sync random =>
    unfold twoStep
    dsimp only
    split
    next valid => exact ⟨SyncSndPort.syncTimestamp_held held.syncSnd valid.1 valid.2 timely,held.pdelayResp⟩
    · exact held
  | pdelayReq msg ts =>
    refine ⟨held.syncSnd,mdPdelayRespSm_held held.pdelayResp.owned fun sending enabled => ?_⟩
    exact ⟨timely sending enabled,fun no => nomatch no⟩
  | respTimestamp resp =>
    unfold twoStep
    dsimp only
    split
    next valid => exact ⟨held.syncSnd,respTimestamp_held held.pdelayResp valid.2 timely⟩
    · exact held
  | portUpdate =>
    refine ⟨held.syncSnd,mdPdelayRespSm_held held.pdelayResp.owned fun sending enabled => ?_⟩
    exact ⟨timely sending enabled,fun _ => held.pdelayResp⟩

/-- In every run in which the timestamps that are used are those of the last messages, every
Follow_Up describes a Sync of its own and every Pdelay_Resp_Follow_Up a Pdelay_Resp of its own. -/
theorem followUps_describe (config : TwoStepConfig) (egress : EgressTimes) (random : UInt16)
    (inputs : List (TwoStepInput × PortConditions))
    (timely : Steps (twoStep config egress) (Timely config) inputs (begun random)) :
    FollowUpsHold config egress (run (twoStep config egress) inputs (begun random)) := by
  have none_reported : ∀ owner ∈ ([] : List Nat), owner ∈ ([] : List Nat) := fun owner member => member
  have initial : (begun random).Held config egress :=
    ⟨⟨rfl,fun no => (nomatch no),[],owned_nil,none_reported⟩,⟨fun no => (nomatch no),[],owned_nil,none_reported⟩⟩
  have held := run_invariant (twoStep config egress) (fun port input held timely => twoStep_held input held timely)
    initial timely
  obtain ⟨syncOwners,syncDescribed,-⟩ := held.syncSnd.owned
  obtain ⟨respOwners,respDescribed,-⟩ := held.pdelayResp.owned
  exact ⟨⟨syncOwners,syncDescribed⟩,⟨respOwners,respDescribed⟩⟩

section Late

def exampleMaster : TwoStepConfig where
  arithmetic := ⟨fun _ ts => (.ofNanoseconds ts,0),fun _ => 0,fun _ => 0,fun ts => ts⟩
  identity := ⟨7,1⟩
  rsync := false
  txDelayCompensation := 0

def exampleEgress : EgressTimes where
  sync index := if index = 0 then 0 else 1000000000
  resp _ := 50

def sending : PortConditions := ⟨false,true,true,true,true,true⟩

def exampleRequest : MdSyncSend := ⟨⟨7,1⟩,0,⟨0,0,0⟩,.replicate 3 0,0,.replicate 3 0,0,.replicate 3 0,0,0⟩

def promptInputs : List (TwoStepInput × PortConditions) :=
  [(.txMdSync exampleRequest 0,sending),(.syncTimestamp 0 0,sending),(.portUpdate,sending),
    (.pdelayReq ⟨⟨8,1⟩,5⟩ 40,sending),(.respTimestamp 0,sending)]

theorem promptInputs_describe :
    FollowUpsHold exampleMaster exampleEgress (run (twoStep exampleMaster exampleEgress) promptInputs (begun 0)) := by
  refine followUps_describe exampleMaster exampleEgress 0 promptInputs ⟨?_,?_,?_,?_,?_,trivial⟩
  · exact fun no => nomatch no
  · exact fun _ _ => latestRequest_sent rfl
  · exact fun no => nomatch no
  · exact fun no => nomatch no
  · exact fun _ _ => rfl

def lateInputs : List (TwoStepInput × PortConditions) :=
  [(.txMdSync exampleRequest 0,sending),(.txMdSync exampleRequest 0,sending),(.syncTimestamp 0 0,sending)]

/-- The Follow_Up has the sequence id of the second Sync and the time of the first. -/
theorem lateInputs_misdescribed :
    ¬ FollowUpsHold exampleMaster exampleEgress (run (twoStep exampleMaster exampleEgress) lateInputs (begun 0)) := by
  rintro ⟨⟨owners,-,owned⟩,-⟩
  have sent : (run (twoStep exampleMaster exampleEgress) lateInputs (begun 0)).syncSnd.syncs =
    [⟨⟨⟨7,1⟩,0,0⟩,some exampleRequest⟩,⟨⟨⟨7,1⟩,1,0⟩,some exampleRequest⟩] := by decide +kernel
  have answered : (run (twoStep exampleMaster exampleEgress) lateInputs (begun 0)).syncSnd.followUps =
    [mdSetFollowUp exampleMaster exampleRequest 0 1] := by decide +kernel
  rw [sent,answered] at owned
  obtain ⟨owner,-,⟨sync,found,same⟩,-,-⟩ := forall₂_cons_right_iff.mp owned
  match owner,found with
  | 0,found =>
    cases found
    exact absurd (congrArg FollowUpPdu.sequenceId same) (by decide +kernel)
  | 1,found =>
    cases found
    exact absurd (congrArg FollowUpPdu.preciseOriginTimestamp same) (by decide +kernel)
  | _ + 2,found => cases found

end Late

end TwoStepPort

end Genavb.Gptp
