import Genavb.Avdecc.AemHandlers

/-! SET_STREAM_INFO (`aecp.c`): the changes that the flags of a command select are checked before any of
them is made, and the response of a stream output has the values after the command. -/
namespace Genavb.Avdecc
open Maap (MacAddress)
open AemModel

def AECP_STREAM_FLAG_STREAM_VLAN_ID_VALID : UInt32 := 0x2000000
def AECP_STREAM_FLAG_MSRP_FAILURE_VALID : UInt32 := 0x8000000
def AECP_STREAM_FLAG_STREAM_DEST_MAC_VALID : UInt32 := 0x10000000
def AECP_STREAM_FLAG_MSRP_ACC_LAT_VALID : UInt32 := 0x20000000
def AECP_STREAM_FLAG_STREAM_ID_VALID : UInt32 := 0x40000000
def AECP_STREAM_FLAG_STREAM_FORMAT_VALID : UInt32 := 0x80000000

/-- `aecp_aem_set_stream_info_pdu`, in host order. -/
structure StreamInfoPdu where
  desc : AemDesc
  flags : UInt32
  streamFormat : UInt64
  streamId : UInt64
  msrpAccumulatedLatency : UInt32
  streamDestMac : MacAddress
  msrpFailureCode : UInt8
  msrpFailureBridgeId : UInt64
  streamVlanId : UInt16
  deriving DecidableEq

structure StreamAddress where
  streamDestMac : MacAddress
  streamVlanId : UInt16

inductive StreamInfoField where
  | streamFormat
  | streamId
  | streamDestMac
  | streamVlanId
  | msrpAccumulatedLatency
  | msrpFailure
  deriving DecidableEq

def StreamInfoField.flag : StreamInfoField → UInt32
  | .streamFormat => AECP_STREAM_FLAG_STREAM_FORMAT_VALID
  | .streamId => AECP_STREAM_FLAG_STREAM_ID_VALID
  | .streamDestMac => AECP_STREAM_FLAG_STREAM_DEST_MAC_VALID
  | .streamVlanId => AECP_STREAM_FLAG_STREAM_VLAN_ID_VALID
  | .msrpAccumulatedLatency => AECP_STREAM_FLAG_MSRP_ACC_LAT_VALID
  | .msrpFailure => AECP_STREAM_FLAG_MSRP_FAILURE_VALID

namespace StreamInfoPdu

def has (field : StreamInfoField) (pdu : StreamInfoPdu) : Bool := pdu.flags &&& field.flag ≠ 0

def info (pdu : StreamInfoPdu) : SetStreamInfo where
  streamFormat := if pdu.has .streamFormat then some pdu.streamFormat else none
  streamId := if pdu.has .streamId then some pdu.streamId else none
  streamDestMac := if pdu.has .streamDestMac then some pdu.streamDestMac else none
  streamVlanId := if pdu.has .streamVlanId then some pdu.streamVlanId else none
  msrpAccumulatedLatency := if pdu.has .msrpAccumulatedLatency then some pdu.msrpAccumulatedLatency else none

def setFlag (field : StreamInfoField) (pdu : StreamInfoPdu) :
    StreamInfoPdu := {pdu with flags := pdu.flags ||| field.flag}

end StreamInfoPdu

open StreamInfoPdu

section Command
variable (config : AemConfig) (addresses : AemDesc → StreamAddress)

def report (desc : AemDesc) (model : AemModel) (field : StreamInfoField) (rsp : StreamInfoPdu) : StreamInfoPdu :=
  setFlag field <| match field with
    | .streamFormat => {rsp with streamFormat := model.currentFormat desc}
    | .streamId => {rsp with streamId := model.streamId desc}
    | .streamDestMac => {rsp with streamDestMac := (addresses desc).streamDestMac}
    | .streamVlanId => {rsp with streamVlanId := (addresses desc).streamVlanId}
    | .msrpAccumulatedLatency => {rsp with msrpAccumulatedLatency := model.presentationTimeOffset desc}
    | .msrpFailure => rsp

def reportedFields (desc : AemDesc) : List StreamInfoField :=
  [.streamFormat] ++ (if config.milanMode then [.streamId,.streamVlanId,.msrpAccumulatedLatency] else []) ++
    if isInvalidMac (addresses desc).streamDestMac then [] else [.streamDestMac]

/-- The response, from the entity model after the command: it stays empty when there is no stream output. -/
def setStreamInfoRsp (desc : AemDesc) (model : AemModel) : StreamInfoPdu :=
  let rsp : StreamInfoPdu := ⟨desc,0,0,0,0,⟨0,0,0,0,0,0⟩,0,0,0⟩
  if desc.type ≠ .streamOutput ∨ !config.descriptors desc then rsp
  else (reportedFields config addresses desc).foldl (fun rsp field => report addresses desc model field rsp) rsp

def setStreamInfoCommand (controllerId : UInt64) (pdu : StreamInfoPdu) (model : AemModel) :
    AemOutcome × StreamInfoPdu :=
  let outcome := model.setStreamInfo config controllerId pdu.desc pdu.info
  (outcome,setStreamInfoRsp config addresses pdu.desc outcome.model)

def HasValue (pdu : StreamInfoPdu) (model : AemModel) : StreamInfoField → Prop
  | .streamFormat => model.currentFormat pdu.desc = pdu.streamFormat
  | .streamId => model.streamId pdu.desc = pdu.streamId
  | .streamDestMac => (addresses pdu.desc).streamDestMac = pdu.streamDestMac
  | .streamVlanId => (addresses pdu.desc).streamVlanId = pdu.streamVlanId
  | .msrpAccumulatedLatency => model.presentationTimeOffset pdu.desc = pdu.msrpAccumulatedLatency
  | .msrpFailure => True

/-- Whether a change may be made: a field that can only be read may not. -/
def MayChange (pdu : StreamInfoPdu) : StreamInfoField → Prop
  | .streamFormat => pdu.streamFormat ∈ config.formats pdu.desc
  | .streamDestMac => isInvalidMac pdu.streamDestMac = true
  | .msrpAccumulatedLatency =>
    config.milanMode = true ∧ pdu.msrpAccumulatedLatency ≤ STREAM_PRESENTATION_TIME_OFFSET_MAX
  | _ => False

structure Changeable (controllerId : UInt64) (desc : AemDesc) (model : AemModel) : Prop where
  output : desc.type = .streamOutput
  present : config.descriptors desc = true
  free : model.refusal controllerId = none
  stopped : (model.streams desc).running = false

structure Reports (desc : AemDesc) (model : AemModel) (rsp : StreamInfoPdu) : Prop where
  streamFormat : rsp.streamFormat = model.currentFormat desc
  streamId : rsp.streamId = model.streamId desc
  streamDestMac : rsp.streamDestMac = (addresses desc).streamDestMac
  streamVlanId : rsp.streamVlanId = (addresses desc).streamVlanId
  msrpAccumulatedLatency : rsp.msrpAccumulatedLatency = model.presentationTimeOffset desc

/-- All or nothing, for every field that a flag can make valid, with the values in every response. -/
structure AllOrNothing (controllerId : UInt64) (pdu : StreamInfoPdu) (model : AemModel) : Prop where
  nothing : ¬ (Changeable config controllerId pdu.desc model ∧ ∀ field, pdu.has field → MayChange config pdu field) →
    (setStreamInfoCommand config addresses controllerId pdu model).1.model = model ∧
      (setStreamInfoCommand config addresses controllerId pdu model).1.status ≠ .success
  all : (setStreamInfoCommand config addresses controllerId pdu model).1.status = .success →
    ∀ field, pdu.has field → HasValue addresses pdu (setStreamInfoCommand config addresses controllerId pdu model).1.model field
  reported : Reports addresses pdu.desc (setStreamInfoCommand config addresses controllerId pdu model).1.model
    (setStreamInfoCommand config addresses controllerId pdu model).2

def changed (pdu : StreamInfoPdu) (model : AemModel) : AemModel :=
  {model with
    currentFormat :=
      if pdu.has .streamFormat then Function.update model.currentFormat pdu.desc pdu.streamFormat
      else model.currentFormat
    presentationTimeOffset :=
      if pdu.has .msrpAccumulatedLatency then
        Function.update model.presentationTimeOffset pdu.desc pdu.msrpAccumulatedLatency
      else model.presentationTimeOffset}

/-- The response has the values of a stream output for the fields that it marks as valid, and it marks those
that the mode of the entity defines. -/
structure ReportsValid (desc : AemDesc) (model : AemModel) (rsp : StreamInfoPdu) : Prop where
  about : rsp.desc = desc
  marked : ∀ field, rsp.has field = true ↔ field ∈ reportedFields config addresses desc
  values : ∀ field, rsp.has field → HasValue addresses rsp model field

end Command

namespace StreamInfoPdu

@[simp] theorem has_setFlag (pdu : StreamInfoPdu) (added field : StreamInfoField) :
    (pdu.setFlag added).has field = (decide (added = field) || pdu.has field) := by
  have split : (pdu.flags ||| added.flag) &&& field.flag = pdu.flags &&& field.flag ||| added.flag &&& field.flag :=
    UInt32.toBitVec_inj.mp (by simp [BitVec.and_or_distrib_right])
  have meet : added.flag &&& field.flag = if added = field then field.flag else 0 := by
    cases added <;> cases field <;> decide
  have nonzero : field.flag ≠ 0 := by cases field <;> decide
  unfold has setFlag
  rw [split,meet]
  by_cases same : added = field
  · simp [same,nonzero]
  · simp [same]

end StreamInfoPdu

section Handler
variable {config : AemConfig} {addresses : AemDesc → StreamAddress} {controllerId : UInt64} {desc : AemDesc}
  {pdu : StreamInfoPdu} {model : AemModel}

private theorem setStreamInfo_changeable (changeable : Changeable config controllerId desc model) (info : SetStreamInfo) :
    model.setStreamInfo config controllerId desc info =
      if setStreamInfoStatus config desc info = .success then
        ⟨.success,(model.updateStreamInfo desc info).1,(model.updateStreamInfo desc info).2⟩
      else model.unchanged (setStreamInfoStatus config desc info) := by
  unfold setStreamInfo
  rw [if_neg (by simp [isStream,changeable.output]),if_neg (by simp [changeable.output]),
    if_neg (by simp [changeable.present]),changeable.free]
  rw [if_neg (by simp [changeable.stopped])]

private theorem setStreamInfo_refused (refused : ¬ Changeable config controllerId desc model) (info : SetStreamInfo) :
    (model.setStreamInfo config controllerId desc info).model = model ∧
      (model.setStreamInfo config controllerId desc info).status ≠ .success := by
  unfold setStreamInfo
  split
  · exact ⟨rfl,by simp [unchanged]⟩
  next stream =>
    split
    · exact ⟨rfl,by simp [unchanged]⟩
    next input =>
      split
      · exact ⟨rfl,by simp [unchanged]⟩
      next present =>
        split
        next status held =>
          refine ⟨rfl,?_⟩
          unfold refusal at held
          intro success
          cases success
          split at held
          · cases held
          · split at held
            · cases held
            · cases held
        next free =>
          split
          · exact ⟨rfl,by simp [unchanged]⟩
          next stopped =>
            refine absurd ⟨?_,by simpa using present,free,by simpa using stopped⟩ refused
            simpa [isStream,input] using stream

theorem fields_success_iff (info : SetStreamInfo) : setStreamInfoStatus config desc info = .success ↔
    (∀ format, info.streamFormat = some format → format ∈ config.formats desc) ∧ info.streamId = none ∧
    (∀ address, info.streamDestMac = some address → isInvalidMac address = true) ∧ info.streamVlanId = none ∧
    (∀ latency, info.msrpAccumulatedLatency = some latency →
      config.milanMode = true ∧ latency ≤ STREAM_PRESENTATION_TIME_OFFSET_MAX) := by
  obtain ⟨format,streamId,destMac,vlanId,latency⟩ := info
  unfold setStreamInfoStatus
  -- a check that follows never turns an error into a success
  cases format with
  | none => cases streamId <;> cases destMac <;> cases vlanId <;> cases latency <;> grind
  | some format =>
    by_cases offered : format ∈ config.formats desc
    all_goals cases streamId <;> cases destMac <;> cases vlanId <;> cases latency <;> grind

private theorem checks_success_iff : setStreamInfoStatus config pdu.desc pdu.info = .success ↔
    ∀ field, field ≠ .msrpFailure → pdu.has field → MayChange config pdu field := by
  rw [fields_success_iff]
  unfold info
  dsimp only
  constructor
  · rintro ⟨format,streamId,destMac,vlanId,latency⟩ field other asked
    cases field with
    | streamFormat => exact format _ (if_pos asked)
    | streamId => simp [asked] at streamId
    | streamDestMac => exact destMac _ (if_pos asked)
    | streamVlanId => simp [asked] at vlanId
    | msrpAccumulatedLatency => exact latency _ (if_pos asked)
    | msrpFailure => exact absurd rfl other
  · intro may
    have never {field : StreamInfoField} (other : field ≠ .msrpFailure) (fixed : ¬ MayChange config pdu field) :
        ¬ pdu.has field = true := fun asked => fixed (may field other asked)
    refine ⟨fun format wanted => ?_,if_neg (never (by decide) id),fun address wanted => ?_,if_neg (never (by decide) id),
      fun latency wanted => ?_⟩
    · split at wanted
      next asked =>
        cases wanted
        exact may .streamFormat (by decide) asked
      · cases wanted
    · split at wanted
      next asked =>
        cases wanted
        exact may .streamDestMac (by decide) asked
      · cases wanted
    · split at wanted
      next asked =>
        cases wanted
        exact may .msrpAccumulatedLatency (by decide) asked
      · cases wanted

theorem updateStreamInfo_eq (fixed : ¬ pdu.has .streamId = true) :
    (model.updateStreamInfo pdu.desc pdu.info).1 = changed pdu model := by
  unfold updateStreamInfo info changed
  rw [if_neg fixed]
  cases format : pdu.has .streamFormat <;> cases latency : pdu.has .msrpAccumulatedLatency <;>
    simp [setFormat]

theorem report_desc (rsp : StreamInfoPdu) (field : StreamInfoField) :
    (report addresses desc model field rsp).desc = rsp.desc := by
  cases field <;> rfl

private theorem report_has (rsp : StreamInfoPdu) (added field : StreamInfoField) :
    (report addresses desc model added rsp).has field = (decide (added = field) || rsp.has field) := by
  unfold report
  rw [has_setFlag]
  cases added <;> rfl

theorem report_value {rsp : StreamInfoPdu} (about : rsp.desc = desc) {added field : StreamInfoField}
    (before : added = field ∨ HasValue addresses rsp model field) :
    HasValue addresses (report addresses desc model added rsp) model field := by
  subst about
  cases added <;> cases field <;> first | rfl | exact trivial | exact before.resolve_left nofun

theorem report_fields (fields : List StreamInfoField) {rsp : StreamInfoPdu} (about : rsp.desc = desc)
    (values : ∀ field, rsp.has field → HasValue addresses rsp model field) :
    let final := fields.foldl (fun rsp field => report addresses desc model field rsp) rsp
    final.desc = desc ∧ (∀ field, final.has field = true ↔ field ∈ fields ∨ rsp.has field = true) ∧
      ∀ field, final.has field → HasValue addresses final model field := by
  induction fields generalizing rsp with
  | nil => exact ⟨about,by simp,values⟩
  | cons added rest ih =>
    have kept (field : StreamInfoField) (valid : (report addresses desc model added rsp).has field = true) :
        HasValue addresses (report addresses desc model added rsp) model field := by
      rw [report_has] at valid
      simp only [Bool.or_eq_true,decide_eq_true_eq] at valid
      exact report_value about (valid.imp_right (values field))
    have next := ih ((report_desc rsp added).trans about) kept
    refine ⟨next.1,fun field => ?_,next.2.2⟩
    rw [List.foldl_cons,next.2.1,report_has]
    grind

theorem setStreamInfoRsp_reports (output : desc.type = .streamOutput) (present : config.descriptors desc = true) :
    ReportsValid config addresses desc model (setStreamInfoRsp config addresses desc model) := by
  have stream : ¬ (desc.type ≠ .streamOutput ∨ (!config.descriptors desc) = true) := by simp [output,present]
  unfold setStreamInfoRsp
  rw [if_neg stream]
  have empty (field : StreamInfoField) : ¬ (⟨desc,0,0,0,0,⟨0,0,0,0,0,0⟩,0,0,0⟩ : StreamInfoPdu).has field = true := by
    simp [has]
  obtain ⟨about,marked,values⟩ := @report_fields addresses desc model (reportedFields config addresses desc)
    ⟨desc,0,0,0,0,⟨0,0,0,0,0,0⟩,0,0,0⟩ rfl (fun field valid => absurd valid (empty field))
  exact ⟨about,fun field => (marked field).trans (or_iff_left (empty field)),values⟩

theorem setStreamInfoRsp_empty (none : ¬ (desc.type = .streamOutput ∧ config.descriptors desc = true)) :
    (setStreamInfoRsp config addresses desc model).flags = 0 := by
  have other : desc.type ≠ .streamOutput ∨ (!config.descriptors desc) = true := by
    rcases not_and_or.mp none with kind | absent
    · exact .inl kind
    · exact .inr (by simpa using absent)
  unfold setStreamInfoRsp
  rw [if_pos other]

/-- Either nothing is changed and the response carries an error, or all that is asked for is changed: a cleared
destination address stands for the one that MAAP assigns, and the failure of MSRP cannot be asked for. The response
of a stream output has the values after the command. -/
theorem setStreamInfo_allOrNothing (controllerId : UInt64) (pdu : StreamInfoPdu) (model : AemModel) :
    let command := setStreamInfoCommand config addresses controllerId pdu model
    (command.1.status = .success ↔ Changeable config controllerId pdu.desc model ∧
      ∀ field, field ≠ .msrpFailure → pdu.has field → MayChange config pdu field) ∧
    (command.1.status ≠ .success → command.1.model = model) ∧
    (command.1.status = .success → command.1.model = changed pdu model ∧
      ∀ field, field ≠ .streamDestMac → pdu.has field → HasValue addresses pdu command.1.model field) ∧
    (pdu.desc.type = .streamOutput ∧ config.descriptors pdu.desc = true →
      ReportsValid config addresses pdu.desc command.1.model command.2) ∧
    (¬ (pdu.desc.type = .streamOutput ∧ config.descriptors pdu.desc = true) → command.2.flags = 0) := by
  dsimp only [setStreamInfoCommand]
  refine ⟨?_,?_,?_,fun stream => setStreamInfoRsp_reports stream.1 stream.2,setStreamInfoRsp_empty⟩
  · rw [← checks_success_iff]
    by_cases changeable : Changeable config controllerId pdu.desc model
    · rw [setStreamInfo_changeable changeable]
      split
      next checked => simp [changeable,checked]
      next failed => simp [changeable,failed,unchanged]
    · simp [changeable,(setStreamInfo_refused changeable pdu.info).2]
  · intro failed
    by_cases changeable : Changeable config controllerId pdu.desc model
    · rw [setStreamInfo_changeable changeable] at failed ⊢
      split
      next checked =>
        rw [if_pos checked] at failed
        exact absurd rfl failed
      · rfl
    · exact (setStreamInfo_refused changeable pdu.info).1
  · intro success
    have changeable : Changeable config controllerId pdu.desc model := by
      by_contra refused
      exact (setStreamInfo_refused refused pdu.info).2 success
    rw [setStreamInfo_changeable changeable] at success ⊢
    split at success
    next checked =>
      have may := checks_success_iff.mp checked
      have fixed : ¬ pdu.has .streamId = true := fun asked => may .streamId (by decide) asked
      rw [if_pos checked,updateStreamInfo_eq fixed]
      refine ⟨rfl,fun field other asked => ?_⟩
      cases field with
      | streamFormat | msrpAccumulatedLatency => simp [HasValue,changed,asked]
      | streamId => exact absurd asked fixed
      | streamDestMac => exact absurd rfl other
      | streamVlanId => exact (may .streamVlanId (by decide) asked).elim
      | msrpFailure => trivial
    next failed => exact absurd success failed

end Handler

section Ignored

def streamConfig : AemConfig where
  milanMode := true
  currentConfiguration := 0
  descriptors := fun desc => desc.index = 0
  formats := fun _ => [1,2]
  controlReadOnly := fun _ => false

def streamModel : AemModel where
  lockStatus := false
  lockingControllerId := 0
  lockTimer := false
  acquireStatus := false
  acquiringControllerId := 0
  streams := fun _ => ⟨false,false⟩
  currentFormat := fun _ => 1
  streamId := fun _ => 7
  presentationTimeOffset := fun _ => 2000000
  objectName := fun _ => []
  control := fun _ => .unsupported

def streamAddresses : AemDesc → StreamAddress := fun _ => ⟨⟨0x91,0xe0,0xf0,0,0xfe,1⟩,2⟩

def commandFor (type : AemDescType) (field : StreamInfoField) : StreamInfoPdu :=
  ⟨⟨type,0⟩,field.flag,0,0,0,⟨0,0,0,0,0,0⟩,5,9,0⟩

/-- The failure of MSRP is asked for and ignored, a cleared address is accepted and not stored, and the response
to a command for a stream input has no values. -/
theorem commands_ignored :
    ¬ AllOrNothing streamConfig streamAddresses 1 (commandFor .streamOutput .msrpFailure) streamModel ∧
    ¬ AllOrNothing streamConfig streamAddresses 1 (commandFor .streamOutput .streamDestMac) streamModel ∧
    ¬ AllOrNothing streamConfig streamAddresses 1 (commandFor .streamInput .streamFormat) streamModel := by
  refine ⟨fun holds => ?_,fun holds => ?_,fun holds => ?_⟩
  · have refused := holds.nothing fun permitted => permitted.2 .msrpFailure (by decide +kernel)
    exact refused.2 (by decide +kernel)
  · have stored := holds.all (by decide +kernel) .streamDestMac (by decide +kernel)
    have same : (⟨0x91,0xe0,0xf0,0,0xfe,1⟩ : MacAddress) = ⟨0,0,0,0,0,0⟩ := stored
    exact absurd same (by decide)
  · exact absurd holds.reported.streamFormat (by decide +kernel)

end Ignored

end Genavb.Avdecc
