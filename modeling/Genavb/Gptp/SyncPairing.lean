import Genavb.Gptp.TwoStep

/-! Syncs and Follow_Ups are paired: in every run without one of the slips of the machine, what is
handed on comes from a pending Sync and the Follow_Up that has just been received. -/
namespace Genavb.Gptp
open Support SyncRcvPort

namespace SyncRcvPort

section Passes
variable {config : SyncRcvConfig} {conditions : PortConditions} {event : SyncRcvEvent} {port : SyncRcvPort}

private theorem smLoop_idle {fuel : Nat} (idle : (port.smPass config conditions event).state = port.state) :
    port.smLoop config conditions event (fuel + 1) = port.smPass config conditions event :=
  if_pos idle

private theorem smLoop_next {fuel : Nat} (next : (port.smPass config conditions event).state ≠ port.state) :
    port.smLoop config conditions event (fuel + 1) =
      (port.smPass config conditions event).smLoop config conditions .run fuel :=
  if_neg next

private theorem mdSyncRcvSm_resets (reset : port.resets conditions = true) :
    port.mdSyncRcvSm config conditions event = port.smDiscard := by
  unfold mdSyncRcvSm
  rw [if_pos reset]
  split
  · rfl
  · exact smLoop_idle rfl

private theorem mdSyncRcvSm_runs (kept : ¬ port.resets conditions = true) :
    port.mdSyncRcvSm config conditions event = port.smLoop config conditions event smPasses :=
  if_neg kept

def Unmatched (port : SyncRcvPort) : Prop :=
  port.rcvdFollowUp = true → port.followUpRx.sequenceId ≠ port.syncRx.sequenceId

theorem smPass_idle (unready : port.state = .waitingForFollowUp → port.Unmatched)
    (unheard : port.rcvdSync = true → port.state = .waitingForFollowUp ∧ config.force2011 = true)
    (running : event = .run) : port.smPass config conditions event = port := by
  unfold smPass
  split
  next waiting =>
    refine if_neg fun ready => ?_
    obtain ⟨rcvd,-⟩ := Bool.and_eq_true_iff.mp ready
    rw [(unheard rcvd).1] at waiting
    cases waiting
  next waiting =>
    rw [if_neg]
    · split
      next rcvd => exact if_neg (unready waiting rcvd)
      · exact if_neg (by simp [running])
    · intro ready
      have rcvd : port.rcvdSync = true := by simp_all
      simp [(unheard rcvd).2] at ready
  next waiting =>
    refine if_neg fun ready => ?_
    obtain ⟨rcvd,-⟩ := Bool.and_eq_true_iff.mp ready
    rw [(unheard rcvd).1] at waiting
    cases waiting

private theorem smLoop_rests (fuel : Nat) (unready : port.state = .waitingForFollowUp → port.Unmatched)
    (unheard : port.rcvdSync = true → port.state = .waitingForFollowUp ∧ config.force2011 = true) :
    port.smLoop config conditions .run (fuel + 1) = port := by
  have idle : port.smPass config conditions .run = port := smPass_idle unready unheard rfl
  rw [smLoop_idle (congrArg state idle),idle]

theorem smLoop_waits (fuel : Nat) (rcvd : port.rcvdSync = true) (capable : conditions.capable = true)
    (restarts : port.state = .waitingForFollowUp → config.force2011 = false)
    (unmatched : port.state ≠ .waitingForFollowUp → port.Unmatched) :
    port.smLoop config conditions event (fuel + 2) = port.smWaitingForFollowUp := by
  by_cases waiting : port.state = .waitingForFollowUp
  · have pass : port.smPass config conditions event = port.smWaitingForFollowUp := by
      simp [smPass,waiting,restarts waiting,rcvd,capable]
    rw [smLoop_idle (by rw [pass,waiting]; rfl),pass]
  · have pass : port.smPass config conditions event = port.smWaitingForFollowUp := by
      cases state : port.state with
      | waitingForFollowUp => exact absurd state waiting
      | discard | waitingForSync => simp [smPass,state,rcvd,capable]
    rw [smLoop_next (by rw [pass]; exact Ne.symm waiting),pass]
    exact smLoop_rests fuel (fun _ => unmatched waiting) (fun no => nomatch no)

theorem smLoop_delivers (fuel : Nat) (waiting : port.state = .waitingForFollowUp) (unheard : port.rcvdSync = false)
    (rcvd : port.rcvdFollowUp = true) (same : port.followUpRx.sequenceId = port.syncRx.sequenceId) :
    port.smLoop config conditions event (fuel + 2) = {port with followUpReceiveTimeout := none}.smWaitingForSync := by
  have pass : port.smPass config conditions event = {port with followUpReceiveTimeout := none}.smWaitingForSync := by
    simp [smPass,waiting,unheard,rcvd,same]
  rw [smLoop_next (by rw [pass,waiting]; exact fun no => nomatch no),pass]
  exact smLoop_rests fuel (fun no => nomatch no) (fun rcvd => absurd (unheard.symm.trans rcvd) (by decide))

theorem smLoop_expires (fuel : Nat) (waiting : port.state = .waitingForFollowUp) (missing : port.rcvdFollowUp = false)
    (unheard : port.rcvdSync = true → config.force2011 = true) :
    port.smLoop config conditions .fupTimeout (fuel + 2) = port.smDiscard := by
  have pass : port.smPass config conditions .fupTimeout = port.smDiscard := by
    cases rcvd : port.rcvdSync with
    | false => simp [smPass,waiting,missing,rcvd]
    | true => simp [smPass,waiting,missing,rcvd,unheard rcvd]
  rw [smLoop_next (by rw [pass,waiting]; exact fun no => nomatch no),pass]
  exact smLoop_rests fuel (fun no => nomatch no) (fun no => nomatch no)

end Passes

end SyncRcvPort

structure SyncHistory where
  port : SyncRcvPort
  pending : Option (SyncPdu × UInt64)

namespace SyncHistory

/-- The pending Sync after an input: a Sync that the port may receive is pending until it is used,
replaced, lost or timed out. -/
def pendingStep (config : SyncRcvConfig) (input : SyncRcvMessage × PortConditions) (delivers : Bool)
    (history : SyncHistory) : Option (SyncPdu × UInt64) :=
  match input.1 with
  | .sync msg ts =>
    if input.2.reversed config then history.pending
    else if input.2.stopped || !input.2.capable then none
    else some (msg,ts)
  | .followUp _ => if delivers then none else history.pending
  | .timeout => if history.port.followUpReceiveTimeout.isSome then none else history.pending

def step (config : SyncRcvConfig) (input : SyncRcvMessage × PortConditions) (history : SyncHistory) : SyncHistory :=
  let port := history.port.syncRcvStep config input
  ⟨port,history.pendingStep config input (port.delivered.length ≠ history.port.delivered.length)⟩

/-- What is handed on comes from the pending Sync, with its timestamp, and the Follow_Up that is
received; the timer runs exactly while the machine waits for a Follow_Up. -/
structure PairingHolds (config : SyncRcvConfig) (history : SyncHistory) (input : SyncRcvMessage × PortConditions) :
    Prop where
  delivered : (history.step config input).port.delivered = history.port.delivered ∨
    ∃ sync ts msg, history.pending = some (sync,ts) ∧ input.1 = .followUp msg ∧ sync.sequenceId = msg.sequenceId ∧
      (history.step config input).port.delivered = history.port.delivered ++ [setMdSyncReceive sync ts msg] ∧
      (history.step config input).pending = none
  timed : (history.step config input).port.followUpReceiveTimeout.isSome = true ↔
    (history.step config input).port.state = .waitingForFollowUp

/-- None of the slips of the machine is met: a port that waits for a Follow_Up is not reset and
receives no reversed Sync; no Sync finds its Follow_Up in the buffer; in the mode of 802.1AS-2011
no Follow_Up belongs to a Sync received while waiting; the timer does not expire after a Follow_Up
of another Sync. -/
def Unslipped (config : SyncRcvConfig) (history : SyncHistory) (input : SyncRcvMessage × PortConditions) : Prop :=
  let port := history.port
  match input.1 with
  | .sync msg _ =>
    if input.2.reversed config ∨ input.2.stopped = true ∨ input.2.capable = false then port.state ≠ .waitingForFollowUp
    else port.state = .waitingForFollowUp ∧ config.force2011 = false ∨
      (port.rcvdFollowUp = true → port.followUpRx.sequenceId ≠ msg.sequenceId)
  | .followUp msg =>
    input.2.reversed config ∨ (port.state = .waitingForFollowUp →
      port.resets input.2 = false ∧ (msg.sequenceId = port.syncRx.sequenceId → port.rcvdSync = false))
  | .timeout =>
    port.state = .waitingForFollowUp → port.resets input.2 = true ∨ port.rcvdFollowUp = false

/-- The machine waits for a Follow_Up exactly while a Sync is pending, which is the one in the
buffer. -/
structure Paired (config : SyncRcvConfig) (history : SyncHistory) : Prop where
  timed : history.port.followUpReceiveTimeout.isSome = true ↔ history.port.state = .waitingForFollowUp
  waiting : history.port.state = .waitingForFollowUp → history.pending = some (history.port.syncRx,history.port.syncRxTs)
  empty : history.port.state ≠ .waitingForFollowUp → history.pending = none
  heard : history.port.rcvdSync = true → history.port.state = .waitingForFollowUp ∧ config.force2011 = true

section Step
variable {config : SyncRcvConfig} {conditions : PortConditions} {history : SyncHistory} {sync : SyncPdu} {ts : UInt64}
  {msg : FollowUpPdu}

private theorem paired_idle {port : SyncRcvPort} (idle : port.state ≠ .waitingForFollowUp)
    (stopped : port.followUpReceiveTimeout = none) (unheard : port.rcvdSync = false) : Paired config ⟨port,none⟩ where
  timed := iff_of_false (by simp [stopped]) idle
  waiting again := absurd again idle
  empty _ := rfl
  heard rcvd := absurd (unheard.symm.trans rcvd) (by decide)

section
variable (paired : history.Paired config)
include paired

theorem Paired.untimed (idle : history.port.state ≠ .waitingForFollowUp) :
    history.port.followUpReceiveTimeout = none :=
  Option.not_isSome_iff_eq_none.mp fun runs => idle (paired.timed.mp runs)

theorem sync_step (unslipped : history.Unslipped config (.sync sync ts,conditions)) :
    (history.step config (.sync sync ts,conditions)).Paired config ∧
      (history.step config (.sync sync ts,conditions)).port.delivered = history.port.delivered := by
  unfold step pendingStep syncRcvStep gptpHandleSync
  unfold Unslipped at unslipped
  dsimp only at unslipped ⊢
  by_cases reversed : conditions.reversed config = true
  · rw [if_pos (Or.inl reversed)] at unslipped
    rw [if_pos reversed,if_pos reversed]
    exact ⟨⟨paired.timed,fun waiting => absurd waiting unslipped,paired.empty,paired.heard⟩,rfl⟩
  · rw [if_neg reversed,if_neg reversed]
    by_cases lost : conditions.stopped = true ∨ conditions.capable = false
    · rw [if_pos (Or.inr lost)] at unslipped
      rw [mdSyncRcvSm_resets (by simpa [resets] using lost),if_pos (by simpa using lost)]
      exact ⟨paired_idle (fun no => nomatch no) (paired.untimed unslipped) rfl,rfl⟩
    · rw [if_neg (by simp_all)] at unslipped
      have running : ¬ conditions.stopped = true := fun no => lost (.inl no)
      have capable : conditions.capable = true := by simp_all
      rw [mdSyncRcvSm_runs (by simp [resets,running,capable]),if_neg (by simp [running,capable])]
      by_cases kept : history.port.state = .waitingForFollowUp ∧ config.force2011 = true
      · have unmatched : history.port.rcvdFollowUp = true → history.port.followUpRx.sequenceId ≠ sync.sequenceId := by
          refine unslipped.resolve_left fun no => ?_
          exact absurd (kept.2.symm.trans no.2) (by decide)
        have rests : smLoop config conditions .run
            {history.port with syncRxTs := ts,syncRx := sync,rcvdSync := true} (3 + 1) = _ :=
          smLoop_rests 3 (fun _ => unmatched) (fun _ => kept)
        rw [show smPasses = 3 + 1 from rfl,rests]
        exact ⟨⟨paired.timed,fun _ => rfl,fun no => absurd kept.1 no,fun _ => kept⟩,rfl⟩
      · rw [show smPasses = 2 + 2 from rfl,smLoop_waits 2 rfl capable]
        · exact ⟨⟨iff_of_true rfl rfl,fun _ => rfl,fun no => absurd rfl no,fun no => nomatch no⟩,rfl⟩
        · exact fun waiting => Bool.not_eq_true _ ▸ fun no => kept ⟨waiting,no⟩
        · exact fun apart => unslipped.resolve_left fun no => apart no.1

theorem followUp_step
    (unslipped : history.Unslipped config (.followUp msg,conditions)) :
    (history.step config (.followUp msg,conditions)).Paired config ∧
      history.PairingHolds config (.followUp msg,conditions) := by
  have result (port : SyncRcvPort) (same : history.port.syncRcvStep config (.followUp msg,conditions) = port) :
      history.step config (.followUp msg,conditions) =
        ⟨port,if port.delivered.length ≠ history.port.delivered.length then none else history.pending⟩ := by
    rw [← same]
    simp [step,pendingStep]
  by_cases reversed : conditions.reversed config = true
  · have same := result history.port (if_pos reversed)
    rw [if_neg (by simp)] at same
    have next : (history.step config (.followUp msg,conditions)).Paired config :=
      same ▸ {paired with}
    exact ⟨next,.inl (by rw [same]),next.timed⟩
  · have unslipped := unslipped.resolve_left reversed
    by_cases waiting : history.port.state = .waitingForFollowUp
    · obtain ⟨kept,first⟩ := unslipped waiting
      have runs : mdSyncRcvSm config conditions .run
          {history.port with followUpRx := msg,rcvdFollowUp := true} = _ :=
        mdSyncRcvSm_runs (by simpa [resets] using kept)
      by_cases matched : msg.sequenceId = history.port.syncRx.sequenceId
      · have same := result _ ((if_neg reversed).trans (runs.trans
          (smLoop_delivers 2 waiting (first matched) rfl matched)))
        rw [if_pos (by simp [smWaitingForSync])] at same
        refine ⟨same ▸ paired_idle (fun no => nomatch no) rfl (first matched),?_,?_⟩
        · rw [same]
          exact .inr ⟨_,_,msg,paired.waiting waiting,rfl,matched.symm,rfl,rfl⟩
        · rw [same]
          exact iff_of_false Bool.false_ne_true fun no => nomatch no
      · have same := result _ ((if_neg reversed).trans (runs.trans
          (smLoop_rests 3 (fun _ _ => matched) paired.heard)))
        rw [if_neg (by simp)] at same
        have next : (history.step config (.followUp msg,conditions)).Paired config :=
          same ▸ {paired with}
        exact ⟨next,.inl (by rw [same]),next.timed⟩
    · have unheard : history.port.rcvdSync = true → False := fun rcvd => waiting (paired.heard rcvd).1
      have idle := paired.untimed waiting
      by_cases reset : resets conditions {history.port with followUpRx := msg,rcvdFollowUp := true} = true
      · have same := result _ ((if_neg reversed).trans (mdSyncRcvSm_resets reset))
        rw [if_neg (by simp [smDiscard]),paired.empty waiting] at same
        have next : (history.step config (.followUp msg,conditions)).Paired config :=
          same ▸ paired_idle (fun no => nomatch no) idle rfl
        exact ⟨next,.inl (by rw [same]; rfl),next.timed⟩
      · have same := result _ ((if_neg reversed).trans ((mdSyncRcvSm_runs reset).trans
          (smLoop_rests 3 (fun again => absurd again waiting) fun rcvd => (unheard rcvd).elim)))
        rw [if_neg (by simp)] at same
        have next : (history.step config (.followUp msg,conditions)).Paired config :=
          same ▸ {paired with}
        exact ⟨next,.inl (by rw [same]),next.timed⟩

theorem timeout_step (unslipped : history.Unslipped config (.timeout,conditions)) :
    (history.step config (.timeout,conditions)).Paired config ∧
      (history.step config (.timeout,conditions)).port.delivered = history.port.delivered := by
  unfold step pendingStep syncRcvStep followUpTimeout
  cases timer : history.port.followUpReceiveTimeout with
  | none => exact ⟨{paired with},rfl⟩
  | some ms =>
    have waiting := paired.timed.mp (by rw [timer]; rfl)
    suffices discards : {history.port with followUpReceiveTimeout := none}.mdSyncRcvSm config conditions .fupTimeout =
        {history.port with followUpReceiveTimeout := none}.smDiscard by
      rw [discards]
      exact ⟨paired_idle (fun no => nomatch no) rfl rfl,rfl⟩
    by_cases reset : resets conditions {history.port with followUpReceiveTimeout := none} = true
    · exact mdSyncRcvSm_resets reset
    · rw [mdSyncRcvSm_runs reset]
      exact smLoop_expires 2 waiting ((unslipped waiting).resolve_left reset)
        fun rcvd => (paired.heard rcvd).2

end

theorem step_holds (input : SyncRcvMessage × PortConditions) (paired : history.Paired config)
    (unslipped : history.Unslipped config input) :
    (history.step config input).Paired config ∧ history.PairingHolds config input := by
  obtain ⟨message,conditions⟩ := input
  cases message with
  | sync msg ts =>
    have next := sync_step paired unslipped
    exact ⟨next.1,.inl next.2,next.1.timed⟩
  | followUp msg => exact followUp_step paired unslipped
  | timeout =>
    have next := timeout_step paired unslipped
    exact ⟨next.1,.inl next.2,next.1.timed⟩

end Step

def begun : SyncHistory := ⟨.begun,none⟩

/-- In every run that meets none of the slips, every message hands on what its Sync and its
Follow_Up say or nothing, and the timer runs exactly in the state that it is for. -/
theorem syncReceive_paired (config : SyncRcvConfig) (inputs : List (SyncRcvMessage × PortConditions))
    (unslipped : Steps (step config) (Unslipped config) inputs begun) :
    Steps (step config) (PairingHolds config) inputs begun := by
  exact steps_kept (I := Paired config) (step config) (fun history input => step_holds input)
    (paired_idle (fun no => nomatch no) rfl rfl) unslipped

section Slips

def exampleSlave : SyncRcvConfig := ⟨false,false⟩
def running : PortConditions := ⟨false,true,true,true,true,false⟩

def exampleSync (sequenceId : UInt16) : SyncPdu := ⟨⟨7,1⟩,sequenceId,-3⟩
def exampleFollowUp (sequenceId : UInt16) : FollowUpPdu := ⟨⟨7,1⟩,sequenceId,0,-3,⟨0,1,0⟩,0,0,.replicate 3 0,0⟩

def pairedInputs : List (SyncRcvMessage × PortConditions) :=
  [(.sync (exampleSync 1) 100,running),(.followUp (exampleFollowUp 1),running)]

theorem pairedInputs_paired : Steps (step exampleSlave) (PairingHolds exampleSlave) pairedInputs begun :=
  syncReceive_paired exampleSlave pairedInputs (by
    refine ⟨?_,?_,trivial⟩
    · exact .inr (fun no => nomatch no)
    · exact .inr fun _ => ⟨rfl,fun _ => rfl⟩)

def lateInputs : List (SyncRcvMessage × PortConditions) :=
  [(.sync (exampleSync 1) 100,running),(.followUp (exampleFollowUp 2),running),(.timeout,running),
    (.followUp (exampleFollowUp 1),running)]

/-- The late Follow_Up is paired with the Sync that has timed out. -/
theorem lateInputs_unpaired : ¬ Steps (step exampleSlave) (PairingHolds exampleSlave) lateInputs begun := by
  intro ⟨_,_,_,late,_⟩
  obtain same | ⟨sync,ts,msg,pending,-⟩ := late.delivered
  · exact absurd (congrArg List.length same) (by decide +kernel)
  · cases pending

end Slips

end SyncHistory

end Genavb.Gptp
