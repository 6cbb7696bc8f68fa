import Genavb.Avdecc.EntityLock

/-! The values of the controls over the runs of an entity: GET_CONTROL tells those that were last written, byte for
byte, and a control never changes what it accepts. -/
namespace Genavb.Avdecc
open Support AemModel AemEntity List Option

def AVDECC_AECP_MAX_SIZE : Nat := 524 + 8
def AEM_NUM_VALUE_DETAILS_LINEAR_U8_MAX : Nat := 1

namespace ControlValues

/-- `aecp_aem_control_desc_to_pdu`: the bytes written in a room of `len` bytes. -/
def descToPdu (len : Nat) (control : ControlValues) : Option (List UInt8) :=
  if len = 0 then none
  else match control with
    | .linearUint8 values => if len < values.length then none else some (values.map LinearUint8.current)
    | .utf8 string =>
      let count := strnlen (string.take (AEM_UTF8_MAX_LENGTH - 1)) + 1
      if len < count then none else some (string.take count)
    | .unsupported => none

def Declared : ControlValues → Prop
  | .linearUint8 values => values.length ≤ AEM_NUM_VALUE_DETAILS_LINEAR_U8_MAX
  | .utf8 string => string.length = AEM_UTF8_MAX_LENGTH
  | .unsupported => True

section
variable {values : List LinearUint8} {raw : List UInt8} {control after : ControlValues} {changed : Bool} {len : Nat}

theorem zip_current_values (same : raw.length = values.length) :
    ((values.zip raw).map fun (value,byte) => {value with current := byte}).map LinearUint8.current = raw := by
  rw [List.map_map]
  exact List.map_snd_zip (Nat.le_of_eq same)

theorem zip_current_bounds (same : raw.length = values.length) (other : List UInt8) :
    ((((values.zip raw).map fun (value,byte) => {value with current := byte}).zip other).all fun (value,byte) =>
        value.min ≤ byte && byte ≤ value.max) =
      (values.zip other).all fun (value,byte) => value.min ≤ byte && byte ≤ value.max := by
  induction values generalizing raw other with
  | nil => rfl
  | cons value rest ih =>
    cases raw with
    | nil => cases same
    | cons byte bytes =>
      cases other with
      | nil => rfl
      | cons first others =>
        have tail := ih (Nat.succ.inj same) others
        rw [zip_cons_cons,map_cons,zip_cons_cons,all_cons,tail]
        rfl

theorem validate_text {string : List UInt8} (valid : (utf8 string).validate raw = true) :
    ∃ text, 0 ∉ text ∧ raw = text ++ [0] ∧ text.length ≤ AEM_UTF8_MAX_LENGTH - 1 := by
  obtain ⟨bounded,terminated⟩ := Bool.and_eq_true_iff.mp valid
  obtain ⟨short,present⟩ := Bool.and_eq_true_iff.mp bounded
  obtain ⟨text,nonzero,rfl⟩ := terminated_append (of_decide_eq_true present) (of_decide_eq_true terminated)
  have short := of_decide_eq_true short
  rw [length_append] at short
  exact ⟨text,nonzero,rfl,Nat.le_sub_of_add_le short⟩

theorem descToPdu_text {text string : List UInt8} (nonzero : 0 ∉ text) (fits : text.length ≤ AEM_UTF8_MAX_LENGTH - 1)
    (begins : string.take (text.length + 1) = text ++ [0]) (room : text.length < len) :
    (utf8 string).descToPdu len = some (text ++ [0]) := by
  have split : string = text ++ 0 :: string.drop (text.length + 1) := by
    rw [← singleton_append,← append_assoc,← begins,take_append_drop]
  have count : strnlen (string.take (AEM_UTF8_MAX_LENGTH - 1)) = text.length := by
    rw [split]
    exact strnlen_take nonzero _ fits
  unfold descToPdu
  rw [if_neg (Nat.ne_of_gt (Nat.zero_lt_of_lt room))]
  dsimp only
  rw [count,if_neg (Nat.not_lt.mpr room),begins]

/-- What is written is read back, and the values accepted are as before. -/
structure Wrote (raw : List UInt8) (control after : ControlValues) : Prop where
  declared : after.Declared
  short : raw.length ≤ AEM_UTF8_MAX_LENGTH
  reads : ∀ len, 0 < len → raw.length ≤ len → after.descToPdu len = some raw
  accepts : ∀ other, after.validate other = control.validate other

theorem Wrote.utf8 {string after text : List UInt8} (declared : after.length = AEM_UTF8_MAX_LENGTH) (nonzero : 0 ∉ text)
    (fits : text.length ≤ AEM_UTF8_MAX_LENGTH - 1) (begins : after.take (text.length + 1) = text ++ [0]) :
    Wrote (text ++ [0]) (.utf8 string) (.utf8 after) := by
  refine ⟨declared,?_,fun len _ room => descToPdu_text nonzero fits begins ?_,fun _ => rfl⟩
  · rw [length_append]
    exact Nat.add_le_of_le_sub (by decide) fits
  · rw [length_append] at room
    exact room

theorem Wrote.linear (declared : (linearUint8 values).Declared) (sizes : raw.length = values.length) :
    Wrote raw (linearUint8 values)
      (linearUint8 ((values.zip raw).map fun (value,byte) => {value with current := byte})) := by
  have width : ((values.zip raw).map fun (value,byte) => {value with current := byte}).length = values.length := by
    rw [length_map,length_zip,sizes,Nat.min_self]
  constructor
  · exact Nat.le_trans (Nat.le_of_eq width) declared
  · exact sizes ▸ Nat.le_trans declared (by decide)
  · intro len positive room
    unfold descToPdu
    rw [if_neg (Nat.ne_of_gt positive)]
    dsimp only
    rw [zip_current_values sizes,width,if_neg (Nat.not_lt.mpr (sizes ▸ room))]
  · intro other
    unfold validate
    dsimp only
    rw [width,zip_current_bounds sizes]

theorem pduToDesc_wrote (declared : control.Declared) (written : control.pduToDesc raw = some (after,changed)) :
    Wrote raw control after := by
  unfold pduToDesc at written
  split at written
  · cases written
  next valid =>
    rw [Bool.not_eq_true',Bool.not_eq_false] at valid
    cases control with
    | linearUint8 values =>
      cases written
      exact .linear declared (of_decide_eq_true (Bool.and_eq_true_iff.mp valid).1)
    | utf8 string =>
      obtain ⟨text,nonzero,rfl,fits⟩ := validate_text valid
      have whole : (text ++ [0]).take (text.length + 1) = text ++ [0] :=
        take_of_length_le (by rw [length_append]; exact Nat.le_refl _)
      have count : strnlen ((text ++ [0]).take ((text ++ [0]).length - 1)) = text.length :=
        strnlen_take nonzero [] (by rw [length_append]; exact Nat.le_refl _)
      dsimp only at written
      rw [count,whole] at written
      split at written
      · cases written
        apply Wrote.utf8 _ nonzero fits
        · rw [take_append_of_le_length (by rw [length_append]; exact Nat.le_refl _),whole]
        · rw [length_append,length_append,length_drop,declared]
          exact Nat.add_sub_cancel' (Nat.add_le_of_le_sub (by decide) fits)
      next same =>
        cases written
        rw [Bool.or_eq_true,not_or,decide_eq_true_iff,decide_eq_true_iff,not_not,not_not] at same
        exact .utf8 declared nonzero fits same.2
    | unsupported => cases written

end

end ControlValues

def AemModel.getControl (config : AemConfig) (desc : AemDesc) (model : AemModel) : Except AemStatus (List UInt8) :=
  if !config.descriptors desc then .error .noSuchDescriptor
  else match (model.control desc).descToPdu AVDECC_AECP_MAX_SIZE with
    | some values => .ok values
    | none => .error .entityMisbehaving

namespace AemModel
variable {config : AemConfig} {model : AemModel} {controllerId : UInt64}

theorem updateStreamInfo_control {desc : AemDesc} (info : SetStreamInfo) :
    (model.updateStreamInfo desc info).1.control = model.control := by
  obtain ⟨format,streamId,_,_,latency⟩ := info
  cases format <;> cases streamId <;> cases latency <;> rfl

theorem handle_control (command : AemCommand) :
    (model.handle config controllerId command).model.control = model.control := by
  cases command with
  | acquireEntity type release =>
    unfold handle acquireEntity
    dsimp only
    repeat' split
    all_goals rfl
  | lockEntity type unlock =>
    unfold handle lockEntity
    dsimp only
    repeat' split
    all_goals rfl
  | setStreamFormat desc format =>
    unfold handle setStreamFormat
    dsimp only
    repeat' split
    all_goals rfl
  | setStreamInfo desc info =>
    unfold handle setStreamInfo
    dsimp only
    repeat' split
    all_goals first | rfl | exact updateStreamInfo_control info
  | setName desc nameIndex configurationIndex name =>
    unfold handle setName
    dsimp only
    repeat' split
    all_goals rfl
  | application command => rw [application_model]
  | query status => rfl

theorem streaming_control {desc : AemDesc} {wait changed : Bool} {after : AemModel}
    (streamed : model.streaming config desc wait = some (after,changed)) : after.control = model.control := by
  unfold streaming milanStreaming at streamed
  repeat' split at streamed
  all_goals cases streamed
  all_goals rfl

end AemModel

namespace AemEntity
variable (config : AemConfig) (desc : AemDesc)

/-- The values that an input writes to a control: those of the SET_CONTROL command that the application answers,
or those that it tells by itself, where the control accepts them. -/
def written (entity : AemEntity) : AemInput → Option (List UInt8)
  | .answer answer _ =>
    match answer.message with
    | .setControl target values =>
      if target = desc ∧ config.descriptors desc ∧ answer.success ∧ (answer.unsolicited ∨ (entity.answered answer).isSome) then
        let values := controlValues values (entity.answered answer)
        ((entity.model.control desc).pduToDesc values).map fun _ => values
      else none
    | _ => none
  | _ => none

def lastWritten : List AemInput → AemEntity → Option (List UInt8)
  | [],_ => none
  | input :: rest,entity => (lastWritten rest (entity.rcv config input).2).or (entity.written config desc input)

variable {config} {desc} {entity : AemEntity}

theorem update_control {answer : ApplicationAnswer} {forwarded : Option ForwardedCommand} {model after : AemModel}
    {changed : Bool} (other : ∀ values, answer.message ≠ .setControl desc values)
    (updated : update config answer forwarded model = some (after,changed)) : after.control desc = model.control desc := by
  unfold update at updated
  cases message : answer.message with
  | setControl target values =>
    have apart : desc ≠ target := by
      rintro rfl
      exact other values message
    rw [message] at updated
    dsimp only at updated
    split at updated
    · cases updated
    split at updated
    · split at updated
      · cases updated
        exact Function.update_of_ne apart ..
      · cases updated
    split at updated
    · cases updated
    · cases updated
      rfl
  | startStreaming target | stopStreaming target =>
    rw [message] at updated
    dsimp only at updated
    split at updated
    · rw [streaming_control updated]
    · cases updated
      rfl
  | audioMappings | other =>
    rw [message] at updated
    cases updated
    rfl

theorem written_other {answer : ApplicationAnswer} {sending : AemSending}
    (other : ∀ values, answer.message ≠ .setControl desc values) : entity.written config desc (.answer answer sending) = none := by
  unfold written
  dsimp only
  split
  next target values message =>
    rw [if_neg]
    rintro ⟨rfl,_⟩
    exact other values message
  · rfl

theorem answer_other {answer : ApplicationAnswer} {sending : AemSending}
    (other : ∀ values, answer.message ≠ .setControl desc values) :
    (entity.ipcRxControlled config answer sending).2.model.control desc = entity.model.control desc := by
  rw [ipcRxControlled_model]
  split
  · rfl
  cases updated : update config answer (entity.answered answer) entity.model with
  | none => rfl
  | some updates => exact update_control other updated

/-- An input leaves a control as it is, or writes the values of `written` to it. -/
def Kept (config : AemConfig) (desc : AemDesc) (entity : AemEntity) (input : AemInput) : Prop :=
  match entity.written config desc input with
  | some values => ∃ changed,
      (entity.model.control desc).pduToDesc values = some ((entity.rcv config input).2.model.control desc,changed)
  | none => (entity.rcv config input).2.model.control desc = entity.model.control desc

theorem answer_control {answer : ApplicationAnswer} {sending : AemSending} {values : List UInt8}
    (message : answer.message = .setControl desc values) : Kept config desc entity (.answer answer sending) := by
  unfold Kept rcv written
  dsimp only
  rw [ipcRxControlled_model,message]
  unfold update
  rw [message]
  dsimp only
  generalize entity.answered answer = forwarded
  by_cases absent : answer.unsolicited = false ∧ forwarded = none
  · obtain ⟨solicited,rfl⟩ := absent
    rw [solicited]
    simp
  have present : (answer.unsolicited = true ∨ forwarded.isSome = true) := by
    by_contra neither
    rw [not_or] at neither
    exact absent ⟨Bool.eq_false_of_not_eq_true neither.1,not_isSome_iff_eq_none.mp neither.2⟩
  have answers : ¬(!answer.unsolicited && forwarded.isNone) = true := by
    rw [Bool.and_eq_true,Bool.not_eq_true',isNone_iff_eq_none]
    exact absent
  rw [if_neg answers]
  cases described : config.descriptors desc with
  | false => simp
  | true =>
    cases success : answer.success with
    | false =>
      rw [if_neg (by simp)]
      dsimp only
      rw [if_neg (by decide),if_neg (by decide)]
      split
      · rfl
      · rfl
    | true =>
      rw [if_pos ⟨rfl,rfl,rfl,present⟩,if_neg (by decide),if_pos rfl]
      cases result : (entity.model.control desc).pduToDesc (controlValues values forwarded) with
      | none => rfl
      | some outcome =>
        obtain ⟨after,changed⟩ := outcome
        refine ⟨changed,?_⟩
        rw [result]
        dsimp only [map_some,getD_some]
        rw [Function.update_self]

theorem rcv_control (input : AemInput) : Kept config desc entity input := by
  cases input with
  | command received sending =>
    change (entity.receivedControllerCommand config received sending).2.model.control desc = _
    rw [receivedControllerCommand_model]
    split
    · rw [handle_control]
    · rfl
  | answer answer sending =>
    by_cases other : ∀ values, answer.message ≠ .setControl desc values
    · unfold Kept
      rw [written_other other]
      exact answer_other other
    · push Not at other
      obtain ⟨values,message⟩ := other
      exact answer_control message
  | applicationTimeout position restarted =>
    cases restarted with
    | false | true => rfl
  | lockTimeout sending =>
    change (entity.lockTimeout config sending).2.model.control desc = _
    unfold lockTimeout
    split
    · rfl
    split
    · rfl
    · rfl
  | asyncNotification | acmp | registration => rfl

section
variable {inputs : List AemInput}

/-- The control has the values last written, and accepts what it did. -/
structure Holds (control : ControlValues) (values : Option (List UInt8)) (after : ControlValues) : Prop where
  declared : after.Declared
  reads : after.descToPdu AVDECC_AECP_MAX_SIZE = values.elim (control.descToPdu AVDECC_AECP_MAX_SIZE) some
  accepts : ∀ other, after.validate other = control.validate other

theorem holds_step (declared : (entity.model.control desc).Declared) (input : AemInput) :
    Holds (entity.model.control desc) (entity.written config desc input) ((entity.rcv config input).2.model.control desc) := by
  have kept := @rcv_control config desc entity input
  unfold Kept at kept
  cases wrote : entity.written config desc input with
  | none =>
    rw [wrote] at kept
    rw [kept]
    exact ⟨declared,rfl,fun _ => rfl⟩
  | some values =>
    rw [wrote] at kept
    obtain ⟨changed,written⟩ := kept
    obtain ⟨declared,short,reads,accepts⟩ := ControlValues.pduToDesc_wrote declared written
    exact ⟨declared,reads _ (by decide) (Nat.le_trans short (by decide)),accepts⟩

theorem holds_run (declared : (entity.model.control desc).Declared) :
    Holds (entity.model.control desc) (lastWritten config desc inputs entity)
      ((run (fun input entity => (entity.rcv config input).2) inputs entity).model.control desc) := by
  induction inputs generalizing entity with
  | nil => exact ⟨declared,rfl,fun _ => rfl⟩
  | cons input rest ih =>
    have first := @holds_step config desc entity declared input
    obtain ⟨declared,reads,accepts⟩ := ih first.declared
    refine ⟨declared,?_,fun other => (accepts other).trans (first.accepts other)⟩
    rw [run_cons,reads,first.reads,lastWritten]
    cases lastWritten config desc rest (entity.rcv config input).2 with
    | some | none => rfl

theorem lastWritten_described {values : List UInt8} (wrote : lastWritten config desc inputs entity = some values) :
    config.descriptors desc = true := by
  induction inputs generalizing entity with
  | nil => cases wrote
  | cons input rest ih =>
    rw [lastWritten,or_eq_some_iff] at wrote
    obtain later | ⟨_,now⟩ := wrote
    · exact ih later
    unfold written at now
    split at now
    · split at now
      · split at now
        next conditions => exact conditions.2.1
        · cases now
      · cases now
    · cases now

end

end AemEntity

/-- After any run GET_CONTROL tells the values last written to the control, and before any what it told at first;
a control accepts after any run what it did at first. -/
theorem getControl_written (config : AemConfig) (desc : AemDesc) (inputs : List AemInput) (entity : AemEntity)
    (declared : (entity.model.control desc).Declared) :
    (run (fun input entity => (AemEntity.rcv config input entity).2) inputs entity).model.getControl config desc =
        (lastWritten config desc inputs entity).elim (entity.model.getControl config desc) .ok ∧
      ∀ values, ((run (fun input entity => (AemEntity.rcv config input entity).2) inputs entity).model.control desc).validate values =
        (entity.model.control desc).validate values := by
  have holds := @holds_run config desc entity inputs declared
  refine ⟨?_,holds.accepts⟩
  unfold AemModel.getControl
  rw [holds.reads]
  cases wrote : lastWritten config desc inputs entity with
  | none => rfl
  | some values =>
    rw [lastWritten_described wrote]
    rfl

def volumeConfig : AemConfig := {NotifiedEntity.milanConfig with controlReadOnly := fun _ => false}

def volumeEntity : AemEntity :=
  .initial {NotifiedEntity.blankModel with control := fun _ => .linearUint8 [⟨0,100,50⟩]} 1

def volumeSet : List AemInput :=
  [.command ⟨.application (.setControl ⟨.control,0⟩ [25]),7,0,3⟩ ⟨true,true,true,true,fun _ => true⟩,
    .answer ⟨.setControl ⟨.control,0⟩ [],true,false,3,7⟩ ⟨true,true,true,true,fun _ => true⟩,
    .answer ⟨.setControl ⟨.control,0⟩ [101],true,true,0,0⟩ ⟨true,true,true,true,fun _ => true⟩]

theorem getControl_written_volume :
    (run (fun input entity => (AemEntity.rcv volumeConfig input entity).2) volumeSet volumeEntity).model.getControl
      volumeConfig ⟨.control,0⟩ = .ok [25] :=
  (getControl_written volumeConfig ⟨.control,0⟩ volumeSet volumeEntity (Nat.le_refl 1)).1.trans rfl

end Genavb.Avdecc
