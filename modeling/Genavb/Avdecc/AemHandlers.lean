import Genavb.Avdecc.Aem

/-! What the handlers of the AEM commands do to the entity model: which of them leave it as it is, and
that a change is notified. -/
namespace Genavb.Avdecc
open List

def AemOutcome.Tells (model : AemModel) (outcome : AemOutcome) : Prop :=
  outcome.notify = true ↔ outcome.status = .success ∧ outcome.model ≠ model

def AemCommand.Acquires (command : AemCommand) : Prop := ∃ type release, command = .acquireEntity type release

namespace ControlValues

theorem zip_current_changed {values : List LinearUint8} {raw : List UInt8} (same : raw.length = values.length) :
    ((values.zip raw).any fun (value,byte) => value.current ≠ byte) = true ↔
      ((values.zip raw).map fun (value,byte) => {value with current := byte}) ≠ values := by
  induction values generalizing raw with
  | nil => simp
  | cons value rest ih =>
    cases raw with
    | nil => cases same
    | cons byte bytes =>
      have tail := ih (Nat.succ.inj same)
      obtain ⟨min,max,current⟩ := value
      rw [zip_cons_cons,any_cons,map_cons,Bool.or_eq_true,tail,decide_eq_true_iff,ne_eq,ne_eq,ne_eq,List.cons.injEq,
        LinearUint8.mk.injEq,and_iff_right rfl,and_iff_right rfl,not_and_or,@eq_comm _ byte]

theorem terminated_append {raw : List UInt8} (present : raw ≠ []) (terminated : strnlen raw = raw.length - 1) :
    ∃ text, 0 ∉ text ∧ raw = text ++ [0] := by
  induction raw with
  | nil => exact absurd rfl present
  | cons byte rest ih =>
    unfold strnlen at terminated ih
    by_cases zero : byte = 0
    · rw [takeWhile_cons_of_neg (by simpa using zero)] at terminated
      have empty : rest = [] := eq_nil_of_length_eq_zero terminated.symm
      exact ⟨[],not_mem_nil,by rw [zero,empty]; rfl⟩
    · rw [takeWhile_cons_of_pos (by simpa using zero)] at terminated
      have longer : (rest.takeWhile (· ≠ 0)).length + 1 = rest.length := terminated
      have more : rest ≠ [] := by
        rintro rfl
        cases longer
      obtain ⟨text,nonzero,split⟩ := ih more (Nat.eq_sub_of_add_eq longer)
      refine ⟨byte :: text,?_,by rw [split]; rfl⟩
      rw [mem_cons,not_or]
      exact ⟨Ne.symm zero,nonzero⟩

theorem strnlen_take {text : List UInt8} (nonzero : 0 ∉ text) (after : List UInt8) {bound : Nat}
    (fits : text.length ≤ bound) :
    strnlen ((text ++ 0 :: after).take bound) = text.length := by
  induction text generalizing bound with
  | nil =>
    cases bound with
    | zero | succ => rfl
  | cons byte rest ih =>
    cases bound with
    | zero => cases fits
    | succ bound =>
      obtain ⟨other,nonzero⟩ := not_or.mp (mem_cons.not.mp nonzero)
      have tail := ih nonzero (Nat.le_of_succ_le_succ fits)
      unfold strnlen at tail ⊢
      rw [cons_append,take_succ_cons,takeWhile_cons_of_pos (by simpa using Ne.symm other),length_cons,tail]
      rfl

theorem pduToDesc_changed {raw : List UInt8} {control after : ControlValues} {changed : Bool}
    (written : control.pduToDesc raw = some (after,changed)) : changed = true ↔ after ≠ control := by
  unfold pduToDesc at written
  split at written
  · cases written
  next valid =>
    rw [Bool.not_eq_true',Bool.not_eq_false] at valid
    cases control with
    | linearUint8 values =>
      obtain ⟨sizes,_⟩ := Bool.and_eq_true_iff.mp valid
      cases written
      rw [zip_current_changed (of_decide_eq_true sizes),ne_eq,ne_eq,linearUint8.injEq]
    | utf8 string =>
      obtain ⟨bounded,terminated⟩ := Bool.and_eq_true_iff.mp valid
      obtain ⟨short,present⟩ := Bool.and_eq_true_iff.mp bounded
      obtain ⟨text,nonzero,rfl⟩ := terminated_append (of_decide_eq_true present) (of_decide_eq_true terminated)
      have fits : text.length ≤ AEM_UTF8_MAX_LENGTH - 1 := by
        have short := of_decide_eq_true short
        rw [length_append] at short
        exact Nat.le_sub_of_add_le short
      have count : strnlen ((text ++ [0]).take ((text ++ [0]).length - 1)) = text.length :=
        strnlen_take nonzero [] (by rw [length_append]; exact Nat.le_refl _)
      have whole : (text ++ [0]).take (text.length + 1) = text ++ [0] :=
        take_of_length_le (by rw [length_append]; exact Nat.le_refl _)
      dsimp only at written
      rw [count,whole] at written
      split at written
      next differs =>
        cases written
        refine iff_of_true rfl fun same => ?_
        have same := utf8.inj same
        -- The string begins with the text, so that its length is that of the text.
        have begins : string = text ++ 0 :: string.drop (text.length + 1) := by
          rw [← singleton_append,← append_assoc]
          exact same.symm
        have length := strnlen_take nonzero (string.drop (text.length + 1)) fits
        rw [← begins] at length
        have head : string.take (text.length + 1) = text ++ [0] := by
          rw [← same,take_append_of_le_length (by rw [length_append]; exact Nat.le_refl _),whole]
        rw [length,head] at differs
        simp at differs
      · cases written
        exact iff_of_false Bool.false_ne_true (· rfl)
    | unsupported => cases written

end ControlValues

namespace AemModel

def LockTimed (model : AemModel) : Prop := model.lockTimer = model.lockStatus

section Handlers
variable {config : AemConfig} {model : AemModel} {controllerId : UInt64} {desc : AemDesc}

private theorem unchanged_tells (status : AemStatus) : (model.unchanged status).Tells model :=
  iff_of_false Bool.false_ne_true fun changed => changed.2 rfl

variable {after : AemModel}

private theorem tells_of_ne (changed : after ≠ model) : AemOutcome.Tells model ⟨.success,after,true⟩ :=
  iff_of_true rfl ⟨rfl,changed⟩

theorem LockTimed.renew (timed : model.LockTimed) (locked : ¬(!model.lockStatus) = true) :
    {model with lockTimer := true} = model := by
  rw [Bool.not_eq_true',Bool.not_eq_false] at locked
  have running : model.lockTimer = true := timed.trans locked
  rw [← running]

theorem lockEntity_tells (timed : model.LockTimed) (type : AemDescType) (unlock : Bool) :
    (model.lockEntity controllerId type unlock).Tells model := by
  unfold lockEntity
  split
  · exact unchanged_tells _
  split
  · exact unchanged_tells _
  split
  · split
    · exact unchanged_tells _
    next locked =>
      split
      · apply tells_of_ne
        intro same
        exact locked (by rw [← same]; rfl)
      · exact unchanged_tells _
  · split
    next free =>
      apply tells_of_ne
      intro same
      rw [← same] at free
      exact absurd free Bool.false_ne_true
    next locked =>
      split
      · rw [timed.renew locked]
        exact unchanged_tells _
      · exact unchanged_tells _

private theorem update_same_iff {α β : Type} [DecidableEq α] (values : α → β) (key : α) (value : β) :
    Function.update values key value = values ↔ values key = value :=
  Function.update_eq_self_iff.trans eq_comm

theorem setFormat_changed (format : UInt64) :
    (model.setFormat desc format).2 = true ↔ (model.setFormat desc format).1 ≠ model := by
  cases model
  simp [setFormat,update_same_iff,-Function.update_eq_self_iff]

theorem setControl_changed {raw : List UInt8} {after : ControlValues} {changed : Bool}
    (written : (model.control desc).pduToDesc raw = some (after,changed)) :
    changed = true ↔ {model with control := Function.update model.control desc after} ≠ model := by
  rw [ControlValues.pduToDesc_changed written]
  cases model
  simp [eq_comm]

theorem streaming_changed {wait changed : Bool}
    (streamed : model.streaming config desc wait = some (after,changed)) : changed = true ↔ after ≠ model := by
  unfold streaming milanStreaming at streamed
  split at streamed
  · split at streamed
    · cases streamed
    split at streamed
    · cases streamed
    split at streamed
    next waits =>
      cases streamed
      refine iff_of_true rfl fun same => ?_
      have other : (model.streams desc).streamingWait ≠ wait := by
        rw [Bool.and_eq_true,decide_eq_true_iff] at waits
        exact waits.2
      exact other (congrArg AemStream.streamingWait ((update_same_iff ..).mp (congrArg AemModel.streams same)))
    · cases streamed
      exact iff_of_false Bool.false_ne_true (· rfl)
  · cases streamed
    exact iff_of_false Bool.false_ne_true (· rfl)

private theorem tells_of_changed {changed : Bool} (changes : changed = true ↔ after ≠ model) :
    AemOutcome.Tells model ⟨.success,after,changed⟩ :=
  changes.trans (and_iff_right rfl).symm

theorem setStreamFormat_tells (format : UInt64) :
    (model.setStreamFormat config controllerId desc format).Tells model := by
  unfold setStreamFormat
  split
  · exact unchanged_tells _
  split
  · exact unchanged_tells _
  split
  · exact unchanged_tells _
  split
  · exact unchanged_tells _
  split
  · exact tells_of_changed (setFormat_changed format)
  · exact unchanged_tells _

theorem updateStreamInfo_changed (info : SetStreamInfo) :
    (model.updateStreamInfo desc info).2 = true ↔ (model.updateStreamInfo desc info).1 ≠ model := by
  cases model
  obtain ⟨format,streamId,_,_,latency⟩ := info
  cases format <;> cases streamId <;> cases latency <;>
    simp [updateStreamInfo,setFormat,update_same_iff,-Function.update_eq_self_iff,imp_iff_not_or,or_assoc]

theorem setStreamInfo_tells (info : SetStreamInfo) :
    (model.setStreamInfo config controllerId desc info).Tells model := by
  unfold setStreamInfo
  split
  · exact unchanged_tells _
  split
  · exact unchanged_tells _
  split
  · exact unchanged_tells _
  split
  · exact unchanged_tells _
  split
  · exact unchanged_tells _
  dsimp only
  split
  · exact tells_of_changed (updateStreamInfo_changed info)
  · exact unchanged_tells _

theorem setName_tells (nameIndex configurationIndex : UInt16) (name : List UInt8) :
    (model.setName config controllerId desc nameIndex configurationIndex name).Tells model := by
  unfold setName
  split
  · exact unchanged_tells _
  split
  · exact unchanged_tells _
  split
  · exact unchanged_tells _
  · exact unchanged_tells _
  next object _ _ =>
    dsimp only
    split
    next other =>
      apply tells_of_ne
      intro same
      exact other ((update_same_iff ..).mp (congrArg AemModel.objectName same))
    · exact unchanged_tells _

theorem handle_tells (timed : model.LockTimed) {command : AemCommand} (other : ¬command.Acquires) :
    (model.handle config controllerId command).Tells model := by
  cases command with
  | acquireEntity type release => exact absurd ⟨type,release,rfl⟩ other
  | lockEntity type unlock => exact lockEntity_tells timed type unlock
  | setStreamFormat desc format => exact setStreamFormat_tells format
  | setStreamInfo desc info => exact setStreamInfo_tells info
  | setName desc nameIndex configurationIndex name => exact setName_tells nameIndex configurationIndex name
  | application command =>
    unfold handle
    dsimp only
    split
    · exact unchanged_tells _
    · exact unchanged_tells _
  | query status => exact unchanged_tells _

theorem acquireEntity_notify (type : AemDescType) (release : Bool) :
    (model.acquireEntity config controllerId type release).notify = false := by
  unfold acquireEntity
  repeat' split
  all_goals rfl

theorem LockTimed.acquireEntity (timed : model.LockTimed) (type : AemDescType) (release : Bool) :
    (model.acquireEntity config controllerId type release).model.LockTimed := by
  unfold AemModel.acquireEntity
  repeat' split
  all_goals exact timed

theorem LockTimed.lockEntity (timed : model.LockTimed) (type : AemDescType) (unlock : Bool) :
    (model.lockEntity controllerId type unlock).model.LockTimed := by
  unfold AemModel.lockEntity
  split
  · exact timed
  split
  · exact timed
  split
  · split
    · exact timed
    split
    · rfl
    · exact timed
  · split
    · rfl
    next locked =>
      split
      · rw [timed.renew locked]
        exact timed
      · exact timed

def holders (model : AemModel) : Bool × UInt64 × Bool × Bool × UInt64 :=
  (model.lockStatus,model.lockingControllerId,model.lockTimer,model.acquireStatus,model.acquiringControllerId)

theorem LockTimed.of_holders (timed : model.LockTimed) (same : after.holders = model.holders) : after.LockTimed := by
  have timer : after.lockTimer = model.lockTimer := congrArg (·.2.2.1) same
  have status : after.lockStatus = model.lockStatus := congrArg (·.1) same
  exact timer.trans (timed.trans status.symm)

theorem setFormat_holders (format : UInt64) : (model.setFormat desc format).1.holders = model.holders := rfl

private theorem setStreamFormat_holders (format : UInt64) :
    (model.setStreamFormat config controllerId desc format).model.holders = model.holders := by
  unfold setStreamFormat
  split
  · rfl
  split
  · rfl
  split
  · rfl
  split
  · rfl
  split
  · exact setFormat_holders format
  · rfl

theorem updateStreamInfo_holders (info : SetStreamInfo) :
    (model.updateStreamInfo desc info).1.holders = model.holders := by
  obtain ⟨format,streamId,_,_,latency⟩ := info
  cases format <;> cases streamId <;> cases latency <;> rfl

private theorem setStreamInfo_holders (info : SetStreamInfo) :
    (model.setStreamInfo config controllerId desc info).model.holders = model.holders := by
  unfold setStreamInfo
  split
  · rfl
  split
  · rfl
  split
  · rfl
  split
  · rfl
  split
  · rfl
  dsimp only
  split
  · exact updateStreamInfo_holders info
  · rfl

private theorem setName_holders (nameIndex configurationIndex : UInt16) (name : List UInt8) :
    (model.setName config controllerId desc nameIndex configurationIndex name).model.holders = model.holders := by
  unfold setName
  dsimp only
  repeat' split
  all_goals rfl

theorem application_model (command : ApplicationCommand) :
    (model.handle config controllerId (.application command)).model = model := by
  unfold handle
  dsimp only
  split
  · rfl
  · rfl

theorem LockTimed.handle (timed : model.LockTimed) (command : AemCommand) :
    (model.handle config controllerId command).model.LockTimed := by
  cases command with
  | acquireEntity type release => exact timed.acquireEntity type release
  | lockEntity type unlock => exact timed.lockEntity type unlock
  | setStreamFormat desc format => exact timed.of_holders (setStreamFormat_holders format)
  | setStreamInfo desc info => exact timed.of_holders (setStreamInfo_holders info)
  | setName desc nameIndex configurationIndex name =>
    exact timed.of_holders (setName_holders nameIndex configurationIndex name)
  | application command =>
    rw [application_model]
    exact timed
  | query status => exact timed

def Guarded (controllerId : UInt64) (model : AemModel) : Prop := model.refusal controllerId ≠ none

def Exclusive (model : AemModel) : Prop :=
  model.lockStatus = true → model.acquireStatus = true → model.lockingControllerId = model.acquiringControllerId

private theorem isAcquired_iff : model.isAcquired controllerId = true ↔
    model.acquireStatus = true ∧ model.acquiringControllerId ≠ controllerId := by
  unfold isAcquired
  rw [Bool.and_eq_true,decide_eq_true_iff]

theorem isLocked_iff : model.isLocked controllerId = true ↔
    model.lockStatus = true ∧ model.lockingControllerId ≠ controllerId := by
  unfold isLocked
  rw [Bool.and_eq_true,decide_eq_true_iff]

theorem guarded_iff : model.Guarded controllerId ↔
    (model.acquireStatus = true ∧ model.acquiringControllerId ≠ controllerId) ∨
      (model.lockStatus = true ∧ model.lockingControllerId ≠ controllerId) := by
  rw [← isAcquired_iff,← isLocked_iff]
  unfold Guarded refusal
  split
  next acquired => exact iff_of_true nofun (.inl acquired)
  next unacquired =>
    rw [or_iff_right unacquired]
    split
    next locked => exact iff_of_true nofun locked
    next unlocked => exact iff_of_false (· rfl) unlocked

theorem lockEntity_guarded (guarded : model.Guarded controllerId) (type : AemDescType) (unlock : Bool) :
    (model.lockEntity controllerId type unlock).model = model := by
  unfold lockEntity
  split
  · rfl
  split
  · rfl
  next unacquired =>
    have locked : model.lockStatus = true ∧ model.lockingControllerId ≠ controllerId := by
      obtain acquired | locked := guarded_iff.mp guarded
      · exact absurd (isAcquired_iff.mpr acquired) unacquired
      · exact locked
    rw [locked.1,if_neg (Ne.symm locked.2),if_neg (Ne.symm locked.2)]
    split
    · rfl
    · rfl

private theorem acquireEntity_guarded (exclusive : model.Exclusive) (guarded : model.Guarded controllerId) {type : AemDescType}
    {release : Bool} (refused : ¬(config.milanMode = false ∧ type = .entity ∧ release = false ∧ model.acquireStatus = false)) :
    (model.acquireEntity config controllerId type release).model = model := by
  unfold acquireEntity
  split
  · rfl
  next ieee =>
    split
    · rfl
    next entity =>
      split
      next releases =>
        split
        next own =>
          have released : model.acquireStatus = false := by
            by_contra acquired
            have acquired := Bool.eq_true_of_not_eq_false acquired
            obtain ⟨_,other⟩ | ⟨locked,other⟩ := guarded_iff.mp guarded
            · exact other own.symm
            · exact other ((exclusive locked acquired).trans own.symm)
          rw [← released]
          rfl
        · rfl
      next acquires =>
        split
        next free =>
          exact absurd ⟨Bool.eq_false_of_not_eq_true ieee,not_not.mp entity,Bool.eq_false_of_not_eq_true acquires,
            (Bool.not_eq_true' _).mp free⟩ refused
        · split
          · rfl
          · rfl

section
variable (guarded : model.Guarded controllerId)
include guarded

private theorem refusal_guarded : ∃ status, model.refusal controllerId = some status :=
  Option.ne_none_iff_exists'.mp guarded

theorem setStreamFormat_guarded (format : UInt64) :
    (model.setStreamFormat config controllerId desc format).model = model := by
  obtain ⟨status,refused⟩ := refusal_guarded guarded
  unfold setStreamFormat
  rw [refused]
  split
  · rfl
  split
  · rfl
  · rfl

theorem setStreamInfo_guarded (info : SetStreamInfo) :
    (model.setStreamInfo config controllerId desc info).model = model := by
  obtain ⟨status,refused⟩ := refusal_guarded guarded
  unfold setStreamInfo
  rw [refused]
  split
  · rfl
  split
  · rfl
  split
  · rfl
  · rfl

theorem setName_guarded (nameIndex configurationIndex : UInt16)
    (name : List UInt8) :
    (model.setName config controllerId desc nameIndex configurationIndex name).model = model := by
  obtain ⟨status,refused⟩ := refusal_guarded guarded
  unfold setName
  rw [refused]
  split
  · rfl
  split
  · rfl
  · rfl

theorem checkApplicationCommand_guarded (command : ApplicationCommand) :
    ∃ status, model.checkApplicationCommand config controllerId command = .error status := by
  obtain ⟨status,refused⟩ := refusal_guarded guarded
  unfold checkApplicationCommand
  rw [refused]
  cases command with
  | setControl desc values => exact ⟨status,rfl⟩
  | startStreaming desc | stopStreaming desc =>
    dsimp only
    split
    · exact ⟨_,rfl⟩
    split
    · exact ⟨_,rfl⟩
    · exact ⟨_,rfl⟩
  | audioMappings desc checked =>
    dsimp only
    split
    · exact ⟨_,rfl⟩
    · exact ⟨_,rfl⟩

end

section
variable (exclusive : model.Exclusive)
include exclusive

theorem handle_guarded (guarded : model.Guarded controllerId) {command : AemCommand}
    (refused : ¬(config.milanMode = false ∧ command = .acquireEntity .entity false ∧ model.acquireStatus = false)) :
    (model.handle config controllerId command).model = model := by
  cases command with
  | acquireEntity type release =>
    apply acquireEntity_guarded exclusive guarded
    rintro ⟨ieee,rfl,rfl,free⟩
    exact refused ⟨ieee,rfl,free⟩
  | lockEntity type unlock => exact lockEntity_guarded guarded type unlock
  | setStreamFormat desc format => exact setStreamFormat_guarded guarded format
  | setStreamInfo desc info => exact setStreamInfo_guarded guarded info
  | setName desc nameIndex configurationIndex name => exact setName_guarded guarded nameIndex configurationIndex name
  | application command => exact application_model command
  | query status => rfl

theorem Exclusive.of_holders {after : AemModel} (same : after.holders = model.holders) : after.Exclusive := by
  have locked : after.lockStatus = model.lockStatus := congrArg (·.1) same
  have locking : after.lockingControllerId = model.lockingControllerId := congrArg (·.2.1) same
  have acquired : after.acquireStatus = model.acquireStatus := congrArg (·.2.2.2.1) same
  have acquiring : after.acquiringControllerId = model.acquiringControllerId := congrArg (·.2.2.2.2) same
  unfold Exclusive
  rw [locked,locking,acquired,acquiring]
  exact exclusive

theorem Exclusive.lockEntity (type : AemDescType) (unlock : Bool) :
    (model.lockEntity controllerId type unlock).model.Exclusive := by
  unfold AemModel.lockEntity
  split
  · exact exclusive
  split
  · exact exclusive
  next unacquired =>
    split
    · split
      · exact exclusive
      split
      · exact fun locked => absurd locked Bool.false_ne_true
      · exact exclusive
    · split
      · intro _ acquired
        by_contra other
        exact unacquired (isAcquired_iff.mpr ⟨acquired,Ne.symm other⟩)
      split
      · exact exclusive
      · exact exclusive

theorem Exclusive.acquireEntity {type : AemDescType} {release : Bool} (refused : model.Guarded controllerId →
      ¬(config.milanMode = false ∧ type = .entity ∧ release = false ∧ model.acquireStatus = false)) :
    (model.acquireEntity config controllerId type release).model.Exclusive := by
  by_cases guarded : model.Guarded controllerId
  · rw [acquireEntity_guarded exclusive guarded (refused guarded)]
    exact exclusive
  unfold AemModel.acquireEntity
  split
  · exact exclusive
  split
  · exact exclusive
  split
  · split
    · exact fun _ acquired => absurd acquired Bool.false_ne_true
    · exact exclusive
  split
  · intro locked _
    by_contra other
    exact guarded (guarded_iff.mpr (.inr ⟨locked,other⟩))
  split
  · exact exclusive
  · exact exclusive

theorem Exclusive.handle {command : AemCommand} (refused : model.Guarded controllerId →
      ¬(config.milanMode = false ∧ command = .acquireEntity .entity false ∧ model.acquireStatus = false)) :
    (model.handle config controllerId command).model.Exclusive := by
  cases command with
  | acquireEntity type release =>
    apply exclusive.acquireEntity
    rintro guarded ⟨ieee,rfl,rfl,free⟩
    exact refused guarded ⟨ieee,rfl,free⟩
  | lockEntity type unlock => exact exclusive.lockEntity type unlock
  | setStreamFormat desc format => exact exclusive.of_holders (setStreamFormat_holders format)
  | setStreamInfo desc info => exact exclusive.of_holders (setStreamInfo_holders info)
  | setName desc nameIndex configurationIndex name =>
    exact exclusive.of_holders (setName_holders nameIndex configurationIndex name)
  | application command =>
    rw [application_model]
    exact exclusive
  | query status => exact exclusive

end

theorem handle_acquireStatus (milan : config.milanMode = true) (command : AemCommand) :
    (model.handle config controllerId command).model.acquireStatus = model.acquireStatus := by
  cases command with
  | acquireEntity type release =>
    unfold handle acquireEntity
    dsimp only
    rw [milan,if_pos rfl]
    rfl
  | lockEntity type unlock =>
    unfold handle lockEntity
    dsimp only
    repeat' split
    all_goals rfl
  | setStreamFormat desc format => exact congrArg (·.2.2.2.1) (setStreamFormat_holders format)
  | setStreamInfo desc info => exact congrArg (·.2.2.2.1) (setStreamInfo_holders info)
  | setName desc nameIndex configurationIndex name =>
    exact congrArg (·.2.2.2.1) (setName_holders nameIndex configurationIndex name)
  | application command => rw [application_model]
  | query status => rfl

end Handlers

end AemModel

end Genavb.Avdecc
