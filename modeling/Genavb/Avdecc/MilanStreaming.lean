import Genavb.Support.Run
import Genavb.Avdecc.MilanTalker

/-! When the streaming state of a Milan talker follows its inputs: the declaration always does, the
connection to AVTP does unless the only listeners left have failed. -/
namespace Genavb.Avdecc
open Support
open Maap (MacAddress)
open StreamOutputDynamicDesc

namespace StreamOutputDynamicDesc

/-- The stream runs for a ready listener while the talker is declared, which it is for a valid
address and a probe or a listener; a different talker that is withdrawn comes first. -/
def StreamingFollows (output : StreamOutputDynamicDesc) : Prop :=
  (output.avtpConnected = true ↔ output.talkerDeclared = true ∧
    (output.srpListenerStatus = .activeListener ∨ output.srpListenerStatus = .activeAndFailedListeners)) ∧
  if output.srpTalkerWithdrawInProgress = true ∧ output.srpTalkerWithdrawParams ≠ output.params then
    output.talkerDeclared = false
  else
    output.talkerDeclared = true ↔ isInvalidMacAddr output.streamDestMac = false ∧
      (output.probeTxValid = true ∨ output.srpListenerStatus ≠ .noListener)

/-- A connected stream whose last listeners have failed while its talker stays declared. -/
def FailedWhileConnected (output : StreamOutputDynamicDesc) : Prop :=
  output.srpListenerStatus = .failedListener ∧ output.avtpConnected = true ∧ output.talkerDeclared = true ∧
    isInvalidMacAddr output.streamDestMac = false

def WithdrawnApart (output : StreamOutputDynamicDesc) : Prop :=
  output.srpTalkerWithdrawInProgress = true → output.talkerDeclared = false

variable {output : StreamOutputDynamicDesc}

private theorem hasValidSrpParams_iff : output.hasValidSrpParams = true ↔ isInvalidMacAddr output.streamDestMac = false ∧
    (output.probeTxValid = true ∨ output.srpListenerStatus ≠ .noListener) := by
  unfold hasValidSrpParams
  simp

theorem hasActiveListener_iff : output.hasActiveListener = true ↔
    output.srpListenerStatus = .activeListener ∨ output.srpListenerStatus = .activeAndFailedListeners := by
  unfold hasActiveListener
  simp

end StreamOutputDynamicDesc

namespace MilanTalker

section Stages
variable {calls : StackCalls} {talker next : MilanTalker} {status : AcmpStatus}

structure SameInputs (first second : StreamOutputDynamicDesc) : Prop where
  streamId : second.streamId = first.streamId
  streamVlanId : second.streamVlanId = first.streamVlanId
  streamDestMac : second.streamDestMac = first.streamDestMac
  srpListenerStatus : second.srpListenerStatus = first.srpListenerStatus
  probeTxValid : second.probeTxValid = first.probeTxValid

theorem SameInputs.valid {first second : StreamOutputDynamicDesc} (same : SameInputs first second) :
    second.hasValidSrpParams = first.hasValidSrpParams := by
  unfold hasValidSrpParams
  rw [same.streamDestMac,same.srpListenerStatus,same.probeTxValid]

theorem SameInputs.trans {first second third : StreamOutputDynamicDesc} (one : SameInputs first second)
    (two : SameInputs second third) : SameInputs first third :=
  ⟨two.1.trans one.1,two.2.trans one.2,two.3.trans one.3,two.4.trans one.4,two.5.trans one.5⟩

theorem SameInputs.refl (output : StreamOutputDynamicDesc) : SameInputs output output := ⟨rfl,rfl,rfl,rfl,rfl⟩

theorem updateWithdraw_ok (ok : talker.updateWithdraw calls = .ok next) :
    SameInputs talker.output next.output ∧
    next.output.talkerDeclared = (talker.output.talkerDeclared && talker.output.hasValidSrpParams) ∧
    next.output.avtpConnected = talker.output.avtpConnected ∧
    ((next.output.srpTalkerWithdrawInProgress = talker.output.srpTalkerWithdrawInProgress ∧
      next.output.srpTalkerWithdrawParams = talker.output.srpTalkerWithdrawParams) ∨
      talker.output.hasValidSrpParams = false ∧ next.output.srpTalkerWithdrawParams = next.output.params) := by
  unfold updateWithdraw at ok
  dsimp only at ok
  split at ok
  next withdraw =>
    simp only [Bool.and_eq_true,Bool.not_eq_true'] at withdraw
    split at ok
    · cases ok
    · cases ok
      refine ⟨⟨rfl,rfl,rfl,rfl,rfl⟩,?_,rfl,.inr ⟨withdraw.1,rfl⟩⟩
      rw [withdraw.1,Bool.and_false]
  next keep =>
    cases ok
    refine ⟨SameInputs.refl _,?_,rfl,.inl ⟨rfl,rfl⟩⟩
    cases valid : talker.output.hasValidSrpParams <;> cases declared : talker.output.talkerDeclared <;>
      simp [valid,declared] at keep ⊢

theorem updateDisconnect_ok (ok : talker.updateDisconnect calls = .ok next) :
    ∃ connected, next.output = {talker.output with avtpConnected := connected} ∧
      (connected = true ↔ talker.output.avtpConnected = true ∧ talker.output.talkerDeclared = true ∧
        talker.output.srpListenerStatus ≠ .noListener) := by
  unfold updateDisconnect at ok
  dsimp only at ok
  split at ok
  next disconnect =>
    split at ok
    · cases ok
    · cases ok
      refine ⟨false,rfl,fun no => (nomatch no),fun ⟨_,declared,listener⟩ => ?_⟩
      rw [declared,decide_eq_false listener] at disconnect
      exact absurd disconnect (by simp)
  next keep =>
    cases ok
    refine ⟨talker.output.avtpConnected,rfl,fun connected => ?_,fun all => all.1⟩
    rw [connected,Bool.and_true] at keep
    simpa [connected] using keep

theorem updateDeclare_ok (ok : talker.updateDeclare calls = .ok next) :
    SameInputs talker.output next.output ∧ next.output.talkerDeclared = true ∧
    next.output.avtpConnected = talker.output.avtpConnected ∧
    (talker.output.talkerDeclared = false → next.output.srpTalkerWithdrawInProgress = false) ∧
    (talker.output.talkerDeclared = true →
      next.output.srpTalkerWithdrawInProgress = talker.output.srpTalkerWithdrawInProgress) := by
  unfold updateDeclare at ok
  dsimp only at ok
  split at ok
  next declared =>
    cases ok
    exact ⟨SameInputs.refl _,declared,rfl,fun no => absurd (declared.symm.trans no) (by decide),fun _ => rfl⟩
  next undeclared =>
    split at ok
    · cases ok
    · split at ok
      · cases ok
      · cases ok
        cases progress : talker.output.srpTalkerWithdrawInProgress with
        | true => exact ⟨⟨rfl,rfl,rfl,rfl,rfl⟩,rfl,rfl,fun _ => rfl,fun declared => absurd declared undeclared⟩
        | false => exact ⟨⟨rfl,rfl,rfl,rfl,rfl⟩,rfl,rfl,fun _ => progress,fun declared => absurd declared undeclared⟩

theorem updateDeclare_error (error : talker.updateDeclare calls = .error (.success,next)) :
    next = talker ∧ talker.output.talkerDeclared = false ∧ talker.output.srpTalkerWithdrawInProgress = true ∧
      talker.output.srpTalkerWithdrawParams ≠ talker.output.params := by
  unfold updateDeclare at error
  dsimp only at error
  split at error
  · cases error
  next undeclared =>
    split at error
    next other =>
      cases error
      unfold redeclaringSameTalker at other
      simp only [Bool.and_eq_true,Bool.not_eq_true',decide_eq_false_iff_not] at other
      exact ⟨rfl,Bool.eq_false_of_not_eq_true undeclared,other.1,other.2⟩
    · split at error
      · cases error
      · cases error

theorem updateConnect_ok (ok : talker.updateConnect calls = .ok next) :
    ∃ connected, next.output = {talker.output with avtpConnected := connected} ∧
      (connected = true ↔ talker.output.avtpConnected = true ∨
        talker.output.hasActiveListener = true ∧ talker.output.talkerDeclared = true) := by
  unfold updateConnect at ok
  dsimp only at ok
  split at ok
  next connect =>
    simp only [Bool.and_eq_true,Bool.not_eq_true'] at connect
    split at ok
    · cases ok
    · cases ok
      exact ⟨true,rfl,fun _ => .inr ⟨connect.1.1,connect.2⟩,fun _ => rfl⟩
  next keep =>
    cases ok
    refine ⟨talker.output.avtpConnected,rfl,.inl,?_⟩
    rintro (connected | ⟨active,declared⟩)
    · exact connected
    · simpa [active,declared] using keep

variable {exit : AcmpStatus × MilanTalker}

theorem updateWithdraw_error (error : talker.updateWithdraw calls = .error exit) : exit.1 ≠ .success := by
  unfold updateWithdraw at error
  dsimp only at error
  split at error
  · split at error
    · cases error
      exact fun no => nomatch no
    · cases error
  · cases error

theorem updateDisconnect_error (error : talker.updateDisconnect calls = .error exit) : exit.1 ≠ .success := by
  unfold updateDisconnect at error
  dsimp only at error
  split at error
  · split at error
    · cases error
      exact fun no => nomatch no
    · cases error
  · cases error

theorem updateConnect_error (error : talker.updateConnect calls = .error exit) : exit.1 ≠ .success := by
  unfold updateConnect at error
  dsimp only at error
  split at error
  · split at error
    · cases error
      exact fun no => nomatch no
    · cases error
  · cases error

theorem update_success (success : (talker.update calls).1 = .success) :
    ∃ withdrawn idle, talker.updateWithdraw calls = .ok withdrawn ∧ withdrawn.updateDisconnect calls = .ok idle ∧
      ((idle.output.hasValidSrpParams = false ∧ (talker.update calls).2 = idle) ∨
      (idle.output.hasValidSrpParams = true ∧
        (idle.updateDeclare calls = .error (.success,(talker.update calls).2) ∨
        ∃ declared, idle.updateDeclare calls = .ok declared ∧
          declared.updateConnect calls = .ok (talker.update calls).2))) := by
  unfold update at success ⊢
  cases withdraw : talker.updateWithdraw calls with
  | error exit =>
    rw [withdraw] at success
    exact absurd success (updateWithdraw_error withdraw)
  | ok withdrawn =>
    cases disconnect : withdrawn.updateDisconnect calls with
    | error exit =>
      rw [withdraw] at success
      simp only [bind,Except.bind,disconnect] at success
      exact absurd success (updateDisconnect_error disconnect)
    | ok idle =>
      refine ⟨withdrawn,idle,rfl,disconnect,?_⟩
      rw [withdraw] at success
      simp only [bind,Except.bind,disconnect] at success ⊢
      unfold updateValid at success ⊢
      cases valid : idle.output.hasValidSrpParams with
      | false =>
        rw [valid] at success
        exact .inl ⟨rfl,rfl⟩
      | true =>
        rw [valid,if_pos rfl] at success
        refine .inr ⟨rfl,?_⟩
        cases declare : idle.updateDeclare calls with
        | error exit =>
          rw [declare] at success
          obtain ⟨status,waiting⟩ := exit
          simp only [bind,Except.bind] at success ⊢
          rw [success]
          exact .inl rfl
        | ok declared =>
          rw [declare] at success
          simp only [bind,Except.bind] at success ⊢
          cases connect : declared.updateConnect calls with
          | error exit =>
            rw [connect] at success
            exact absurd success (updateConnect_error connect)
          | ok connected => exact .inr ⟨declared,rfl,connect⟩


theorem update_follows (apart : talker.output.WithdrawnApart) (success : (talker.update calls).1 = .success) :
    (talker.update calls).2.output.StreamingFollows ↔ ¬ talker.output.FailedWhileConnected := by
  obtain ⟨withdrawn,idle,withdraw,disconnect,rest⟩ := update_success success
  generalize (talker.update calls).2 = final at rest
  obtain ⟨same,declared,connected,progress⟩ := updateWithdraw_ok withdraw
  obtain ⟨running,idleOutput,runs⟩ := updateDisconnect_ok disconnect
  have valid : idle.output.hasValidSrpParams = talker.output.hasValidSrpParams := by
    rw [← same.valid,idleOutput]
    rfl
  have idleDeclared : idle.output.talkerDeclared = (talker.output.talkerDeclared && talker.output.hasValidSrpParams) := by
    rw [idleOutput]
    exact declared
  have idleConnected : idle.output.avtpConnected = true ↔ talker.output.avtpConnected = true ∧
      idle.output.talkerDeclared = true ∧ talker.output.srpListenerStatus ≠ .noListener := by
    rw [idleDeclared,← declared,← connected,← same.srpListenerStatus,idleOutput]
    exact runs
  have failedValid (failed : talker.output.FailedWhileConnected) : talker.output.hasValidSrpParams = true :=
    hasValidSrpParams_iff.mpr ⟨failed.2.2.2,.inr (by rw [failed.1]; decide)⟩
  unfold StreamingFollows
  rcases rest with ⟨invalid,rfl⟩ | ⟨proper,waits | ⟨ready,declare,connect⟩⟩
  · rw [valid] at invalid
    rw [invalid,Bool.and_false] at idleDeclared
    have none : ¬ final.output.avtpConnected = true := fun running =>
      absurd (idleDeclared.symm.trans (idleConnected.mp running).2.1) (by decide)
    refine iff_of_true ⟨iff_of_false none fun both => absurd (idleDeclared.symm.trans both.1) (by decide),?_⟩
      fun failed => absurd (invalid.symm.trans (failedValid failed)) (by decide)
    split
    · exact idleDeclared
    · rw [← hasValidSrpParams_iff,valid,invalid,idleDeclared]
  · obtain ⟨rfl,undeclared,waiting,other⟩ := updateDeclare_error waits
    have none : ¬ final.output.avtpConnected = true := fun running =>
      absurd (undeclared.symm.trans (idleConnected.mp running).2.1) (by decide)
    refine iff_of_true ⟨iff_of_false none fun both => absurd (undeclared.symm.trans both.1) (by decide),?_⟩
      fun failed => ?_
    · rw [if_pos ⟨waiting,other⟩]
      exact undeclared
    · rw [undeclared,failedValid failed,failed.2.2.1] at idleDeclared
      exact absurd idleDeclared (by simp)
  · obtain ⟨same',declared',connected',fresh,old⟩ := updateDeclare_ok declare
    obtain ⟨streams,finalOutput,final_iff⟩ := updateConnect_ok connect
    have idleSame : SameInputs talker.output idle.output := by
      rw [idleOutput]
      exact same.trans ⟨rfl,rfl,rfl,rfl,rfl⟩
    have inputs : SameInputs talker.output final.output := by
      rw [finalOutput]
      exact (idleSame.trans same').trans ⟨rfl,rfl,rfl,rfl,rfl⟩
    have proper : talker.output.hasValidSrpParams = true := valid.symm.trans proper
    have noProgress : ready.output.srpTalkerWithdrawInProgress = false := by
      cases before : idle.output.talkerDeclared with
      | false => exact fresh before
      | true =>
        rw [old before,idleOutput]
        rcases progress with ⟨kept,_⟩ | ⟨invalid,_⟩
        · dsimp only
          rw [kept]
          refine Bool.eq_false_iff.mpr fun waiting => ?_
          rw [before,apart waiting] at idleDeclared
          exact absurd idleDeclared (by simp)
        · exact absurd (invalid.symm.trans proper) (by decide)
    have finalProgress : final.output.srpTalkerWithdrawInProgress = false := by
      rw [finalOutput]
      exact noProgress
    have finalDeclared : final.output.talkerDeclared = true := by
      rw [finalOutput]
      exact declared'
    have finalConnected : final.output.avtpConnected = true ↔
        talker.output.avtpConnected = true ∧ talker.output.talkerDeclared = true ∧
          talker.output.srpListenerStatus ≠ .noListener ∨ talker.output.hasActiveListener = true := by
      rw [proper,Bool.and_true] at idleDeclared
      have active : ready.output.hasActiveListener = talker.output.hasActiveListener := by
        unfold hasActiveListener
        rw [(idleSame.trans same').srpListenerStatus]
      rw [finalOutput]
      rw [final_iff,connected',idleConnected,idleDeclared,declared',active]
      simp
    have address := hasValidSrpParams_iff.mp proper
    have waits : ¬ (final.output.srpTalkerWithdrawInProgress = true ∧
        final.output.srpTalkerWithdrawParams ≠ final.output.params) :=
      fun both => absurd (finalProgress.symm.trans both.1) (by decide)
    rw [if_neg waits,finalConnected,finalDeclared,inputs.streamDestMac,inputs.probeTxValid,inputs.srpListenerStatus,
      hasActiveListener_iff]
    unfold FailedWhileConnected
    cases listener : talker.output.srpListenerStatus with
    | noListener =>
      rw [listener] at address
      simpa using address
    | failedListener | activeAndFailedListeners | activeListener => simp [address.1]

end Stages

section Runs
variable {calls : StackCalls}

def Leaves (P : MilanTalker → Prop) : Updating → Prop
  | .ok next => P next
  | .error exit => P exit.2

def Keeps (P : MilanTalker → Prop) (stage : MilanTalker → Updating) :
    Prop := ∀ talker, P talker → Leaves P (stage talker)

variable {P : MilanTalker → Prop}

theorem Leaves.bind {first : Updating} {second : MilanTalker → Updating}
    (one : Leaves P first) (two : Keeps P second) : Leaves P (first >>= second) := by
  cases first with
  | error exit => exact one
  | ok next => exact two next one

theorem updateValid_keeps (declare : ∀ talker : MilanTalker, talker.output.hasValidSrpParams = true → P talker →
      Leaves P (talker.updateDeclare calls))
    (connect : Keeps P (updateConnect calls)) : Keeps P (updateValid calls) := by
  intro talker holds
  unfold updateValid
  split
  next valid => exact (declare talker valid holds).bind connect
  · exact holds

variable {talker : MilanTalker}

theorem Leaves.update
    (left : Leaves P (talker.updateWithdraw calls >>= updateDisconnect calls >>= updateValid calls)) :
    P (talker.update calls).2 := by
  unfold MilanTalker.update
  cases outcome : talker.updateWithdraw calls >>= updateDisconnect calls >>= updateValid calls with
  | error | ok =>
    rw [outcome] at left
    exact left

theorem update_keeps (withdraw : Keeps P (updateWithdraw calls))
    (disconnect : Keeps P (updateDisconnect calls)) (valid : Keeps P (updateValid calls))
    (holds : P talker) : P (talker.update calls).2 :=
  (((withdraw talker holds).bind disconnect).bind valid).update

theorem updateWithdraw_apart : Keeps (fun talker => talker.output.WithdrawnApart) (updateWithdraw calls) := by
  intro talker apart
  unfold updateWithdraw
  dsimp only
  split
  · split
    · exact apart
    · exact fun _ => rfl
  · exact apart

theorem updateDisconnect_apart : Keeps (fun talker => talker.output.WithdrawnApart) (updateDisconnect calls) := by
  intro talker apart
  unfold updateDisconnect
  dsimp only
  split
  · split <;> exact apart
  · exact apart

theorem updateDeclare_apart (apart : talker.output.WithdrawnApart) :
    Leaves (fun talker => talker.output.WithdrawnApart) (talker.updateDeclare calls) := by
  unfold updateDeclare
  dsimp only
  split
  · exact apart
  split
  · exact apart
  have ended : (if talker.output.srpTalkerWithdrawInProgress then
      {talker.output with srpTalkerWithdrawInProgress := false, srpTalkerWithdrawTimer := none}
    else talker.output).srpTalkerWithdrawInProgress = false := by
    split
    · rfl
    next idle => exact Bool.eq_false_of_not_eq_true idle
  split
  · exact fun waiting => absurd (ended.symm.trans waiting) (by decide)
  · exact fun waiting => absurd (ended.symm.trans waiting) (by decide)

theorem updateConnect_apart : Keeps (fun talker => talker.output.WithdrawnApart) (updateConnect calls) := by
  intro talker apart
  unfold updateConnect
  dsimp only
  split
  · split <;> exact apart
  · exact apart

theorem prepare_apart (input : TalkerInput) (apart : talker.output.WithdrawnApart) :
    (talker.prepare input).1.output.WithdrawnApart := by
  unfold prepare
  cases input with
  | probeTxCommand sameInterface => cases sameInterface <;> exact apart
  | talkerStatus status => exact apart
  | maapConflict concerned | maapValid concerned => cases concerned <;> exact apart
  | probeTxReceptionTimer =>
    dsimp only
    split <;> exact apart
  | srpTalkerWithdrawTimer =>
    dsimp only
    split
    · exact fun no => nomatch no
    · exact apart

private theorem respond_output (input : TalkerInput) (status : Option AcmpStatus) (talker : MilanTalker) :
    (talker.respond input status).output = talker.output := by
  cases input <;> rfl

theorem talkerStep_apart (input : TalkerInput × StackCalls)
    (apart : talker.output.WithdrawnApart) : (talkerStep input talker).output.WithdrawnApart := by
  have prepared := prepare_apart input.1 apart
  unfold talkerStep
  dsimp only
  split
  · rw [respond_output]
    exact update_keeps updateWithdraw_apart updateDisconnect_apart
      (updateValid_keeps (fun _ _ apart => updateDeclare_apart apart) updateConnect_apart) prepared
  · rw [respond_output]
    exact prepared

theorem talkerRun_apart (streamId : UInt64) (streamVlanId : UInt16) (streamDestMac : MacAddress)
    (inputs : List (TalkerInput × StackCalls)) :
    (run talkerStep inputs (acmpMilanInit streamId streamVlanId streamDestMac)).output.WithdrawnApart :=
  run_invariant talkerStep
    (fun (talker : MilanTalker) input (apart : talker.output.WithdrawnApart) _ => talkerStep_apart input apart)
    (fun no => nomatch no) (steps_always ..)

/-- In every run, an update that succeeds makes the streaming state follow the inputs exactly when
it did not find a connected stream whose listeners have all failed. -/
theorem talkerStreaming_follows (streamId : UInt64) (streamVlanId : UInt16) (streamDestMac : MacAddress)
    (inputs : List (TalkerInput × StackCalls)) (input : TalkerInput) (calls : StackCalls) :
    let talker := ((run talkerStep inputs (acmpMilanInit streamId streamVlanId streamDestMac)).prepare input).1
    (talker.update calls).1 = .success →
      ((talker.update calls).2.output.StreamingFollows ↔ ¬ talker.output.FailedWhileConnected) :=
  fun success => update_follows (prepare_apart input (talkerRun_apart streamId streamVlanId streamDestMac inputs)) success

def allCalls : StackCalls := ⟨true,true,true,true⟩

def listenerInputs : List (TalkerInput × StackCalls) :=
  [(.maapValid true ⟨0x91,0xe0,0xf0,0,0,1⟩,allCalls),(.talkerStatus .activeListener,allCalls)]

def exampleStream : MilanTalker := acmpMilanInit 1 2 ⟨0,0,0,0,0,0⟩

instance (output : StreamOutputDynamicDesc) : Decidable output.FailedWhileConnected :=
  inferInstanceAs (Decidable (_ ∧ _))

theorem readyListener_follows :
    ((((run talkerStep listenerInputs exampleStream).prepare (.talkerStatus .noListener)).1.update allCalls).2.output
      ).StreamingFollows :=
  (talkerStreaming_follows 1 2 ⟨0,0,0,0,0,0⟩ listenerInputs (.talkerStatus .noListener) allCalls
    (by decide +kernel)).mpr (by decide +kernel)

theorem failedListener_connected :
    let result := ((run talkerStep listenerInputs exampleStream).prepare (.talkerStatus .failedListener)).1.update allCalls
    result.1 = .success ∧ ¬ result.2.output.StreamingFollows := by
  refine ⟨by decide +kernel,fun follows => ?_⟩
  have connected := follows.1.mp (by decide +kernel)
  exact absurd connected.2 (by decide +kernel)

end Runs

end MilanTalker

end Genavb.Avdecc
