import Genavb.Avdecc.IeeeEntity
import Genavb.Avdecc.MilanPending
import Genavb.Avdecc.MilanTalker
import Genavb.Avdecc.Notifications

/-! An entity with all that a controller can reach (`avdecc.c`): its entity model, and the streams of ACMP in
the mode of the entity. -/
namespace Genavb.Avdecc

structure AvdeccConfig where
  aem : AemConfig
  ieee : IeeeEntityConfig

structure AvdeccEntity where
  aem : AemEntity
  ieee : IeeeEntity
  listener : MilanListener
  talkers : Nat → MilanTalker

/-- What an entity receives; the messages of the other mode's ACMP do not reach it. -/
inductive AvdeccInput where
  | aecp (input : AemInput)
  | ieee (input : IeeeEntityInput)
  | listener (input : MilanInput)
  | bindRxCommand (pdu : AcmpPdu) (fate : BindFate)
  | talker (index : Nat) (input : TalkerInput × StackCalls)

def AemModel.lockHolder (model : AemModel) : Option UInt64 :=
  if model.lockStatus then some model.lockingControllerId else none

namespace AvdeccEntity
variable (config : AvdeccConfig)

/-- `acmp_is_stream_running`, with the flag that START_STREAMING and STOP_STREAMING set. -/
def stream (desc : AemDesc) (entity : AvdeccEntity) : AemStream :=
  match desc.type with
  | .streamInput =>
    if config.aem.milanMode then
      let sink := entity.listener.sinks desc.index
      ⟨sink.isBound,sink.binding.flags &&& ACMP_FLAG_STREAMING_WAIT ≠ 0⟩
    else ⟨(entity.ieee.streamInputs desc.index.toNat).info.connected,false⟩
  | .streamOutput =>
    if config.aem.milanMode then ⟨(entity.talkers desc.index.toNat).output.avtpConnected,false⟩
    else ⟨(entity.ieee.streamOutputs desc.index.toNat).connectionCount ≠ 0,false⟩
  | _ => ⟨false,false⟩

/-- The two sides read the same descriptors: AECP the streams of ACMP, and ACMP the lock. The messages of the
listener have left. -/
def share (entity : AvdeccEntity) : AvdeccEntity :=
  {entity with
    aem := {entity.aem with model := {entity.aem.model with streams := fun desc => entity.stream config desc}}
    listener := {entity.listener with lock := entity.aem.model.lockHolder,sent := []}}

def setStreaming (desc : AemDesc) (wait : Bool) (before after : AemModel) (listener : MilanListener) : MilanListener :=
  if after.streams desc = before.streams desc then listener
  else if wait then listener.stopStreaming desc.index else listener.startStreaming desc.index

def aecpRcv (input : AemInput) (entity : AvdeccEntity) : AvdeccEntity :=
  let aem := (entity.aem.rcv config.aem input).2
  let listener :=
    match input with
    | .answer ⟨.startStreaming desc,_,_,_,_⟩ _ => setStreaming desc false entity.aem.model aem.model entity.listener
    | .answer ⟨.stopStreaming desc,_,_,_,_⟩ _ => setStreaming desc true entity.aem.model aem.model entity.listener
    | _ => entity.listener
  {entity with aem := aem,listener := listener}

def rcv (input : AvdeccInput) (entity : AvdeccEntity) : AvdeccEntity :=
  match input with
  | .aecp input => entity.aecpRcv config input
  | .ieee input => if config.aem.milanMode then entity else {entity with ieee := (entity.ieee.rcv config.ieee input).2}
  | .listener input =>
    if config.aem.milanMode then {entity with listener := entity.listener.milanStep input} else entity
  | .bindRxCommand pdu fate =>
    if config.aem.milanMode then {entity with listener := entity.listener.rcvBindRxFate pdu fate} else entity
  | .talker index input =>
    if config.aem.milanMode then
      {entity with talkers := Function.update entity.talkers index ((entity.talkers index).talkerStep input)}
    else entity

def step (input : AvdeccInput) (entity : AvdeccEntity) : AvdeccEntity := (entity.rcv config input).share config

end AvdeccEntity

end Genavb.Avdecc
