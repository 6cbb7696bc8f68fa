import Mathlib.Logic.Function.Basic
import Genavb.Maap.Address

/-! The AEM commands of controllers (`aecp.c`): what their handlers check and what they change of the
entity model. -/
namespace Genavb.Avdecc
open Maap (MacAddress)

inductive AemStatus where
  | success
  | notImplemented
  | noSuchDescriptor
  | entityLocked
  | entityAcquired
  | badArguments
  | noResources
  | inProgress
  | entityMisbehaving
  | notSupported
  | streamIsRunning
  deriving DecidableEq

inductive AemDescType where
  | entity
  | configuration
  | audioUnit
  | videoUnit
  | streamInput
  | streamOutput
  | jackInput
  | jackOutput
  | avbInterface
  | clockSource
  | clockDomain
  | audioCluster
  | videoCluster
  | control
  | streamPortInput
  | streamPortOutput
  | other (type : UInt16)
  deriving DecidableEq

structure AemDesc where
  type : AemDescType
  index : UInt16
  deriving DecidableEq

def AEM_STR_LEN_MAX : Nat := 64
def AEM_UTF8_MAX_LENGTH : Nat := 96
def STREAM_PRESENTATION_TIME_OFFSET_MAX : UInt32 := 0x7fffffff

structure LinearUint8 where
  min : UInt8
  max : UInt8
  current : UInt8
  deriving DecidableEq

inductive ControlValues where
  | linearUint8 (values : List LinearUint8)
  | utf8 (string : List UInt8)
  | unsupported
  deriving DecidableEq

structure AemConfig where
  milanMode : Bool
  currentConfiguration : UInt16
  descriptors : AemDesc → Bool
  formats : AemDesc → List UInt64
  controlReadOnly : AemDesc → Bool

structure ObjectName where
  desc : AemDesc
  group : Bool
  deriving DecidableEq

/-- A stream as ACMP leaves it: whether it runs (a Milan stream input: is bound), whether it waits. -/
structure AemStream where
  running : Bool
  streamingWait : Bool
  deriving DecidableEq

/-- What the commands change: the dynamic descriptor of the entity with its lock timer, the streams, and
the descriptor fields that can be set. -/
structure AemModel where
  lockStatus : Bool
  lockingControllerId : UInt64
  lockTimer : Bool
  acquireStatus : Bool
  acquiringControllerId : UInt64
  streams : AemDesc → AemStream
  currentFormat : AemDesc → UInt64
  streamId : AemDesc → UInt64
  presentationTimeOffset : AemDesc → UInt32
  objectName : ObjectName → List UInt8
  control : AemDesc → ControlValues

structure SetStreamInfo where
  streamFormat : Option UInt64
  streamId : Option UInt64
  streamDestMac : Option MacAddress
  streamVlanId : Option UInt16
  msrpAccumulatedLatency : Option UInt32

/-- The commands that the application answers; of the audio mappings whether the checks of the stream
port and of the mappings pass. -/
inductive ApplicationCommand where
  | setControl (desc : AemDesc) (values : List UInt8)
  | startStreaming (desc : AemDesc)
  | stopStreaming (desc : AemDesc)
  | audioMappings (desc : AemDesc) (checked : Except AemStatus Unit)

inductive AemCommand where
  | acquireEntity (type : AemDescType) (release : Bool)
  | lockEntity (type : AemDescType) (unlock : Bool)
  | setStreamFormat (desc : AemDesc) (format : UInt64)
  | setStreamInfo (desc : AemDesc) (info : SetStreamInfo)
  | setName (desc : AemDesc) (nameIndex configurationIndex : UInt16) (name : List UInt8)
  | application (command : ApplicationCommand)
  | query (status : AemStatus)

/-- What a handler decides: the status, the entity model after it and whether it is to be notified. -/
structure AemOutcome where
  status : AemStatus
  model : AemModel
  notify : Bool

def isInvalidMac (address : MacAddress) : Bool := address = ⟨0,0,0,0,0,0⟩

def strnlen (bytes : List UInt8) : Nat := (bytes.takeWhile (· ≠ 0)).length

namespace ControlValues

/-- `aecp_aem_validate_control_value`. -/
def validate (raw : List UInt8) : ControlValues → Bool
  | .linearUint8 values => raw.length = values.length &&
    (values.zip raw).all fun (value,byte) => value.min ≤ byte && byte ≤ value.max
  | .utf8 _ => raw.length ≤ AEM_UTF8_MAX_LENGTH && raw ≠ [] && strnlen raw = raw.length - 1
  | .unsupported => true

/-- `aecp_aem_control_pdu_to_desc`: the values after it and whether they have changed. -/
def pduToDesc (raw : List UInt8) (control : ControlValues) : Option (ControlValues × Bool) :=
  if !control.validate raw then none
  else match control with
    | .linearUint8 values =>
      some (.linearUint8 ((values.zip raw).map fun (value,byte) => {value with current := byte}),
        (values.zip raw).any fun (value,byte) => value.current ≠ byte)
    | .utf8 string =>
      let count := strnlen (raw.take (raw.length - 1)) + 1
      let length := strnlen (string.take (AEM_UTF8_MAX_LENGTH - 1)) + 1
      if count ≠ length || string.take count ≠ raw.take count then some (.utf8 (raw.take count ++ string.drop count),true)
      else some (.utf8 string,false)
    | .unsupported => none

def readable : ControlValues → Bool
  | .unsupported => false
  | _ => true

end ControlValues

namespace AemModel
variable (config : AemConfig)

def isLocked (controllerId : UInt64) (model : AemModel) : Bool :=
  model.lockStatus && model.lockingControllerId ≠ controllerId

def isAcquired (controllerId : UInt64) (model : AemModel) : Bool :=
  model.acquireStatus && model.acquiringControllerId ≠ controllerId

def refusal (controllerId : UInt64) (model : AemModel) : Option AemStatus :=
  if model.isAcquired controllerId then some .entityAcquired
  else if model.isLocked controllerId then some .entityLocked
  else none

def unchanged (status : AemStatus) (model : AemModel) : AemOutcome := ⟨status,model,false⟩

def acquireEntity (controllerId : UInt64) (type : AemDescType) (release : Bool) (model : AemModel) : AemOutcome :=
  if config.milanMode then model.unchanged .notImplemented
  else if type ≠ .entity then model.unchanged .badArguments
  else if release then
    if controllerId = model.acquiringControllerId then {model with acquireStatus := false}.unchanged .success
    else model.unchanged .entityAcquired
  else if !model.acquireStatus then
    {model with acquireStatus := true,acquiringControllerId := controllerId}.unchanged .success
  else if controllerId = model.acquiringControllerId then model.unchanged .success
  else model.unchanged .entityAcquired

def lockEntity (controllerId : UInt64) (type : AemDescType) (unlock : Bool) (model : AemModel) : AemOutcome :=
  if type ≠ .entity then model.unchanged .notSupported
  else if model.isAcquired controllerId then model.unchanged .entityAcquired
  else if unlock then
    if !model.lockStatus then model.unchanged .success
    else if controllerId = model.lockingControllerId then ⟨.success,{model with lockStatus := false,lockTimer := false},true⟩
    else model.unchanged .entityLocked
  else if !model.lockStatus then
    ⟨.success,{model with lockStatus := true,lockTimer := true,lockingControllerId := controllerId},true⟩
  else if controllerId = model.lockingControllerId then {model with lockTimer := true}.unchanged .success
  else model.unchanged .entityLocked

def isStream (type : AemDescType) : Bool := type = .streamInput || type = .streamOutput

def setFormat (desc : AemDesc) (format : UInt64) (model : AemModel) : AemModel × Bool :=
  ({model with currentFormat := Function.update model.currentFormat desc format},model.currentFormat desc ≠ format)

def setStreamFormat (controllerId : UInt64) (desc : AemDesc) (format : UInt64) (model : AemModel) : AemOutcome :=
  if !isStream desc.type then model.unchanged .badArguments
  else if !config.descriptors desc then model.unchanged .noSuchDescriptor
  else match model.refusal controllerId with
    | some status => model.unchanged status
    | none =>
      if (model.streams desc).running then model.unchanged .streamIsRunning
      else if format ∈ config.formats desc then
        let (model,changed) := model.setFormat desc format
        ⟨.success,model,changed⟩
      else model.unchanged .notSupported

/-- The checks of the fields of a SET_STREAM_INFO command: the last that fails gives the status. -/
def setStreamInfoStatus (desc : AemDesc) (info : SetStreamInfo) : AemStatus :=
  let status : AemStatus :=
    match info.streamFormat with
    | some format => if format ∈ config.formats desc then .success else .notSupported
    | none => .success
  let status := if info.streamId.isSome then .notSupported else status
  let status :=
    match info.streamDestMac with
    | some address => if isInvalidMac address then status else .notSupported
    | none => status
  let status := if info.streamVlanId.isSome then .notSupported else status
  match info.msrpAccumulatedLatency with
  | some latency =>
    if !config.milanMode then .notSupported
    else if latency > STREAM_PRESENTATION_TIME_OFFSET_MAX then .badArguments else status
  | none => status

def updateStreamInfo (desc : AemDesc) (info : SetStreamInfo) (model : AemModel) : AemModel × Bool :=
  let (model,formatChanged) :=
    match info.streamFormat with
    | some format => model.setFormat desc format
    | none => (model,false)
  let (model,streamIdChanged) : AemModel × Bool :=
    match info.streamId with
    | some streamId =>
      ({model with streamId := Function.update model.streamId desc streamId},model.streamId desc ≠ streamId)
    | none => (model,false)
  let (model,latencyChanged) : AemModel × Bool :=
    match info.msrpAccumulatedLatency with
    | some latency =>
      ({model with presentationTimeOffset := Function.update model.presentationTimeOffset desc latency},
        model.presentationTimeOffset desc ≠ latency)
    | none => (model,false)
  (model,formatChanged || streamIdChanged || latencyChanged)

def setStreamInfo (controllerId : UInt64) (desc : AemDesc) (info : SetStreamInfo) (model : AemModel) : AemOutcome :=
  if !isStream desc.type then model.unchanged .badArguments
  else if desc.type = .streamInput then model.unchanged .notSupported
  else if !config.descriptors desc then model.unchanged .noSuchDescriptor
  else match model.refusal controllerId with
    | some status => model.unchanged status
    | none =>
      if (model.streams desc).running then model.unchanged .streamIsRunning
      else
        let status := setStreamInfoStatus config desc info
        if status = .success then
          let (model,changed) := model.updateStreamInfo desc info
          ⟨.success,model,changed⟩
        else model.unchanged status

def nameOf (desc : AemDesc) (nameIndex : UInt16) : Option ObjectName :=
  match desc.type with
  | .entity => if nameIndex = 0 then some ⟨desc,false⟩ else if nameIndex = 1 then some ⟨desc,true⟩ else none
  | .streamPortInput | .streamPortOutput | .other _ => none
  | _ => some ⟨desc,false⟩

def setName (controllerId : UInt64) (desc : AemDesc) (nameIndex configurationIndex : UInt16) (name : List UInt8)
    (model : AemModel) : AemOutcome :=
  if configurationIndex ≠ config.currentConfiguration then model.unchanged .notSupported
  else if !config.descriptors desc then model.unchanged .noSuchDescriptor
  else match model.refusal controllerId,nameOf desc nameIndex with
    | some status,_ => model.unchanged status
    | none,none => model.unchanged .badArguments
    | none,some object =>
      let name := name.take AEM_STR_LEN_MAX
      if model.objectName object ≠ name then
        ⟨.success,{model with objectName := Function.update model.objectName object name},true⟩
      else model.unchanged .success

/-- The checks of SET_CONTROL, START_STREAMING, STOP_STREAMING, ADD_AUDIO_MAPPINGS and
REMOVE_AUDIO_MAPPINGS before the command goes to the application. -/
def checkApplicationCommand (controllerId : UInt64) (command : ApplicationCommand) (model : AemModel) :
    Except AemStatus Unit :=
  match command with
  | .setControl desc values =>
    match model.refusal controllerId with
    | some status => .error status
    | none =>
      if !config.descriptors desc then .error .noSuchDescriptor
      else if !(model.control desc).readable then .error .entityMisbehaving
      else if config.controlReadOnly desc then .error .notSupported
      else if !(model.control desc).validate values then .error .badArguments
      else .ok ()
  | .startStreaming desc | .stopStreaming desc =>
    if !isStream desc.type then .error .badArguments
    else if config.milanMode && desc.type = .streamOutput then .error .notSupported
    else match model.refusal controllerId with
      | some status => .error status
      | none => if !config.descriptors desc then .error .noSuchDescriptor else .ok ()
  | .audioMappings desc checked =>
    if desc.type ≠ .streamPortInput && desc.type ≠ .streamPortOutput then .error .badArguments
    else match model.refusal controllerId with
      | some status => .error status
      | none => if !config.descriptors desc then .error .noSuchDescriptor else checked

def handle (controllerId : UInt64) (command : AemCommand) (model : AemModel) : AemOutcome :=
  match command with
  | .acquireEntity type release => model.acquireEntity config controllerId type release
  | .lockEntity type unlock => model.lockEntity controllerId type unlock
  | .setStreamFormat desc format => model.setStreamFormat config controllerId desc format
  | .setStreamInfo desc info => model.setStreamInfo config controllerId desc info
  | .setName desc nameIndex configurationIndex name =>
    model.setName config controllerId desc nameIndex configurationIndex name
  | .application command =>
    match model.checkApplicationCommand config controllerId command with
    | .error status => model.unchanged status
    | .ok () => model.unchanged .inProgress
  | .query status => model.unchanged status

def milanStreaming (desc : AemDesc) (wait : Bool) (model : AemModel) : Option (AemModel × Bool) :=
  if desc.type ≠ .streamInput then none
  else if !config.descriptors desc then none
  else if (model.streams desc).running && (model.streams desc).streamingWait ≠ wait then
    some ({model with streams := Function.update model.streams desc {model.streams desc with streamingWait := wait}},true)
  else some (model,false)

def streaming (desc : AemDesc) (wait : Bool) (model : AemModel) : Option (AemModel × Bool) :=
  if config.milanMode then model.milanStreaming config desc wait else some (model,false)

def lockTimeout (model : AemModel) : AemModel := {model with lockStatus := false,lockTimer := false}

end AemModel

end Genavb.Avdecc
