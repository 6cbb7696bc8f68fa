import Genavb.Avdecc.Inflight

/-! The Milan talker of ACMP (`acmp_milan.c`): a stream output, its declaration to SRP and its
connection to AVTP. -/
namespace Genavb.Avdecc
open Maap (MacAddress)

def ACMP_MILAN_TALKER_TMR_PROBE_TX_RECEPTION_MS : Nat := 15 * 1000
def MRP_LVATIMER_VAL_MAX : Nat := 15000
def ACMP_MILAN_TALKER_TMR_SRP_WITHDRAW_MS : Nat := 2 * MRP_LVATIMER_VAL_MAX

inductive TalkerStreamStatus where
  | noListener
  | failedListener
  | activeAndFailedListeners
  | activeListener
  deriving DecidableEq

structure SrpTalkerParams where
  streamId : UInt64
  vlanId : UInt16
  streamDestMac : MacAddress
  deriving DecidableEq

structure StreamOutputDynamicDesc where
  streamId : UInt64
  streamVlanId : UInt16
  streamDestMac : MacAddress
  srpListenerStatus : TalkerStreamStatus
  probeTxReceptionTimer : Option Nat
  srpTalkerWithdrawTimer : Option Nat
  talkerDeclared : Bool
  avtpConnected : Bool
  probeTxValid : Bool
  srpTalkerWithdrawInProgress : Bool
  srpTalkerWithdrawParams : SrpTalkerParams
  deriving DecidableEq

/-- What a talker sends to SRP, AVTP and the listener that probes it, and when its withdraw timer
expires. -/
inductive TalkerEvent where
  | talkerDeclare (params : SrpTalkerParams)
  | talkerWithdraw (streamId : UInt64)
  | avtpStackConnect (streamId : UInt64) (dstMac : MacAddress)
  | avtpStackDisconnect (streamId : UInt64)
  | probeTxResponse (status : AcmpStatus)
  | srpTalkerWithdrawTimer
  deriving DecidableEq

structure MilanTalker where
  output : StreamOutputDynamicDesc
  events : List TalkerEvent

namespace StreamOutputDynamicDesc

def hasValidSrpParams (output : StreamOutputDynamicDesc) : Bool :=
  !isInvalidMacAddr output.streamDestMac && (output.probeTxValid || output.srpListenerStatus != .noListener)

def params (output : StreamOutputDynamicDesc) : SrpTalkerParams :=
  ⟨output.streamId,output.streamVlanId,output.streamDestMac⟩

def setWithdrawSrpParams (valid : Bool) (output : StreamOutputDynamicDesc) : StreamOutputDynamicDesc :=
  {output with srpTalkerWithdrawParams := if valid then output.params else ⟨0,0,⟨0,0,0,0,0,0⟩⟩}

def redeclaringSameTalker (output : StreamOutputDynamicDesc) : Bool := output.srpTalkerWithdrawParams = output.params

def hasActiveListener (output : StreamOutputDynamicDesc) : Bool :=
  output.srpListenerStatus = .activeListener || output.srpListenerStatus = .activeAndFailedListeners

end StreamOutputDynamicDesc

namespace MilanTalker

abbrev Updating := Except (AcmpStatus × MilanTalker) MilanTalker

section Update
variable (calls : StackCalls)

def updateWithdraw (talker : MilanTalker) : Updating :=
  let output := talker.output
  if !output.hasValidSrpParams && output.talkerDeclared then
    if !calls.withdraw then .error (.talkerMisbehaving,talker)
    else .ok {
      output := {output.setWithdrawSrpParams true with
        talkerDeclared := false
        srpTalkerWithdrawInProgress := true
        srpTalkerWithdrawTimer := some ACMP_MILAN_TALKER_TMR_SRP_WITHDRAW_MS}
      events := talker.events ++ [.talkerWithdraw output.streamId]}
  else .ok talker

def updateDisconnect (talker : MilanTalker) : Updating :=
  let output := talker.output
  if (!output.talkerDeclared || output.srpListenerStatus = .noListener) && output.avtpConnected then
    if !calls.avtpDisconnect then .error (.talkerMisbehaving,talker)
    else .ok {
      output := {output with avtpConnected := false}
      events := talker.events ++ [.avtpStackDisconnect output.streamId]}
  else .ok talker

def updateDeclare (talker : MilanTalker) : Updating :=
  let output := talker.output
  if output.talkerDeclared then .ok talker
  else if output.srpTalkerWithdrawInProgress && !output.redeclaringSameTalker then .error (.success,talker)
  else
    let output :=
      if output.srpTalkerWithdrawInProgress then
        {output with srpTalkerWithdrawInProgress := false, srpTalkerWithdrawTimer := none}
      else output
    if !calls.declare then .error (.talkerMisbehaving,{talker with output := output})
    else .ok {
      output := {output.setWithdrawSrpParams false with talkerDeclared := true}
      events := talker.events ++ [.talkerDeclare output.params]}

def updateConnect (talker : MilanTalker) : Updating :=
  let output := talker.output
  if output.hasActiveListener && !output.avtpConnected && output.talkerDeclared then
    if !calls.avtpConnect then .error (.talkerMisbehaving,talker)
    else .ok {
      output := {output with avtpConnected := true}
      events := talker.events ++ [.avtpStackConnect output.streamId output.streamDestMac]}
  else .ok talker

def updateValid (talker : MilanTalker) : Updating :=
  if talker.output.hasValidSrpParams then talker.updateDeclare calls >>= updateConnect calls else .ok talker

def update (talker : MilanTalker) : AcmpStatus × MilanTalker :=
  match talker.updateWithdraw calls >>= updateDisconnect calls >>= updateValid calls with
  | .ok talker => (.success,talker)
  | .error exit => exit

end Update

end MilanTalker

/-- What happens to a stream output. The first argument of a probe tells whether it was received on
the interface of the stream, that of a MAAP indication whether its port, range and count are those
of the stream. -/
inductive TalkerInput where
  | probeTxCommand (sameInterface : Bool)
  | talkerStatus (status : TalkerStreamStatus)
  | maapConflict (concerned : Bool)
  | maapValid (concerned : Bool) (baseAddress : MacAddress)
  | probeTxReceptionTimer
  | srpTalkerWithdrawTimer

namespace MilanTalker

/-- What an input changes before the update, and whether the update is called. -/
def prepare (input : TalkerInput) (talker : MilanTalker) : MilanTalker × Bool :=
  let output := talker.output
  match input with
  | .probeTxCommand sameInterface =>
    if sameInterface then
      let output := {output with
        probeTxReceptionTimer := some ACMP_MILAN_TALKER_TMR_PROBE_TX_RECEPTION_MS
        probeTxValid := true}
      ({talker with output := output},output.hasValidSrpParams)
    else (talker,false)
  | .talkerStatus status => ({talker with output := {output with srpListenerStatus := status}},true)
  | .maapConflict concerned =>
    if concerned then ({talker with output := {output with streamDestMac := ⟨0,0,0,0,0,0⟩}},true) else (talker,false)
  | .maapValid concerned baseAddress =>
    if concerned then ({talker with output := {output with streamDestMac := baseAddress}},true) else (talker,false)
  | .probeTxReceptionTimer =>
    if output.probeTxReceptionTimer.isSome then
      ({talker with output := {output with probeTxReceptionTimer := none, probeTxValid := false}},true)
    else (talker,false)
  | .srpTalkerWithdrawTimer =>
    if output.srpTalkerWithdrawTimer.isSome then
      ({output := {output with srpTalkerWithdrawTimer := none, srpTalkerWithdrawInProgress := false}
        events := talker.events ++ [.srpTalkerWithdrawTimer]},true)
    else (talker,false)

def respond (input : TalkerInput) (status : Option AcmpStatus) (talker : MilanTalker) : MilanTalker :=
  match input with
  | .probeTxCommand sameInterface =>
    let status := if sameInterface then status.getD .talkerDestMacFail else .incompatibleRequest
    {talker with events := talker.events ++ [.probeTxResponse status]}
  | .talkerStatus _ | .maapConflict _ | .maapValid .. | .probeTxReceptionTimer | .srpTalkerWithdrawTimer => talker

def talkerStep (input : TalkerInput × StackCalls) (talker : MilanTalker) : MilanTalker :=
  let (talker,updates) := talker.prepare input.1
  if updates then
    let (status,talker) := talker.update input.2
    talker.respond input.1 (some status)
  else talker.respond input.1 none

def acmpMilanInit (streamId : UInt64) (streamVlanId : UInt16) (streamDestMac : MacAddress) : MilanTalker where
  output := {
    streamId := streamId
    streamVlanId := streamVlanId
    streamDestMac := streamDestMac
    srpListenerStatus := .noListener
    probeTxReceptionTimer := none
    srpTalkerWithdrawTimer := none
    talkerDeclared := false
    avtpConnected := false
    probeTxValid := false
    srpTalkerWithdrawInProgress := false
    srpTalkerWithdrawParams := ⟨0,0,⟨0,0,0,0,0,0⟩⟩}
  events := []

end MilanTalker

end Genavb.Avdecc
