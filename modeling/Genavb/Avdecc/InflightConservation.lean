import Genavb.Support.Run
import Mathlib.Algebra.Order.BigOperators.Group.List
import Mathlib.Algebra.Ring.Nat
import Genavb.Support.Places

/-! The inflight contexts of an entity (`avdecc.c`): the list each of them is in and its timer, over the
commands of ACMP and AECP with their responses, timeouts and failures. -/
namespace Genavb.Avdecc
open Support

def AECP_COMMANDS_TIMEOUT : Nat := 250
def AECP_IN_PROGRESS_TIMEOUT : Nat := 120
def AECP_CFG_MAX_AEM_IN_PROGRESS : Nat := 10000 / AECP_IN_PROGRESS_TIMEOUT

inductive InflightPlace where
  | free
  | held
  | acmp
  | network
  | application
  deriving DecidableEq

def InflightPlace.isInflight : InflightPlace → Bool
  | .acmp | .network | .application => true
  | .free | .held => false

structure InflightContext where
  timeoutMs : Nat
  sequenceId : UInt16
  controllerEntityId : UInt64
  retried : Nat
  timer : Bool

structure InflightPool where
  places : InflightPlace → List Nat
  contexts : Nat → InflightContext
  acmpSequenceId : UInt16
  aecpSequenceId : UInt16

inductive PoolOperation where
  | get
  | start (place : InflightPlace) (timeoutMs : Nat) (sequenceId : UInt16) (controllerEntityId : UInt64)
  | abort
  | remove (entry : Nat)
  | restart (entry : Nat)
  | expire (entry : Nat)
  | retried (entry count : Nat)
  | countAcmp
  | countAecp

namespace InflightPool

def modifyContext (entry : Nat) (change : InflightContext → InflightContext) (pool : InflightPool) : InflightPool :=
  {pool with contexts := Function.update pool.contexts entry (change (pool.contexts entry))}

def inflightGet (pool : InflightPool) : InflightPool :=
  match pool.places .free with
  | [] => pool
  | entry :: _ => {pool with places := relocate entry .held pool.places}

def inflightStart (place : InflightPlace) (timeoutMs : Nat) (sequenceId : UInt16) (controllerEntityId : UInt64)
    (pool : InflightPool) : InflightPool :=
  match pool.places .held with
  | [] => pool
  | entry :: _ =>
    {pool with places := relocate entry place pool.places}.modifyContext entry fun context =>
      {timeoutMs := timeoutMs
       sequenceId := sequenceId
       controllerEntityId := controllerEntityId
       retried := 0
       timer := context.timer || decide (timeoutMs ≠ 0)}

def inflightAbort (pool : InflightPool) : InflightPool :=
  match pool.places .held with
  | [] => pool
  | entry :: _ => {pool with places := relocate entry .free pool.places}

/-- `avdecc_inflight_remove`, and `avdecc_inflight_timeout` for a timer that is not to be restarted. -/
def inflightRemove (entry : Nat) (pool : InflightPool) : InflightPool :=
  {pool with places := relocate entry .free pool.places}.modifyContext entry ({· with timer := false})

def inflightRestart (entry : Nat) (pool : InflightPool) : InflightPool :=
  pool.modifyContext entry fun context => {context with timer := decide (context.timeoutMs ≠ 0)}

def perform (operation : PoolOperation) (pool : InflightPool) : InflightPool :=
  match operation with
  | .get => pool.inflightGet
  | .start place timeoutMs sequenceId controllerEntityId =>
    pool.inflightStart place timeoutMs sequenceId controllerEntityId
  | .abort => pool.inflightAbort
  | .remove entry => pool.inflightRemove entry
  | .restart entry => pool.inflightRestart entry
  | .expire entry => pool.modifyContext entry ({· with timer := false})
  | .retried entry count => pool.modifyContext entry ({· with retried := count})
  | .countAcmp => {pool with acmpSequenceId := pool.acmpSequenceId + 1}
  | .countAecp => {pool with aecpSequenceId := pool.aecpSequenceId + 1}

def inflightFind (place : InflightPlace) (sequenceId : UInt16) (pool : InflightPool) : Option Nat :=
  (pool.places place).find? fun entry => (pool.contexts entry).sequenceId = sequenceId

def inflightFindController (place : InflightPlace) (sequenceId : UInt16) (controllerEntityId : UInt64)
    (pool : InflightPool) : Option Nat :=
  (pool.places place).find? fun entry =>
    (pool.contexts entry).sequenceId = sequenceId && (pool.contexts entry).controllerEntityId = controllerEntityId

end InflightPool

def acmpGetCommandTimeoutMs (milanMode : Bool) (messageType : UInt8) : Option Nat :=
  if messageType ∈ [0,2,4,6,8,10,12] then
    if milanMode then some 200
    else if messageType = 0 then some 2000
    else if messageType = 6 then some 4500
    else if messageType = 8 then some 500
    else some 200
  else none

/-- Who sends an ACMP command: a listener connects, probes or disconnects, or the application of a
controller gives a message type to `acmp_ipc_rx`. -/
inductive AcmpSender where
  | connectTx
  | disconnectTx
  | application (messageType : UInt8)

/-- The type of the message, unless `acmp_ipc_rx` refuses it. -/
def AcmpSender.messageType : AcmpSender → Option UInt8
  | .connectTx => some 0
  | .disconnectTx => some 2
  | .application messageType => if messageType ∈ [4,6,8,10,12] then some messageType else none

inductive PoolInput where
  | acmpCommand (sender : AcmpSender) (controllerEntityId : UInt64)
  | acmpResponse (sequenceId : UInt16)
  | acmpTimeout (entry : Nat) (buffer : Bool)
  | aecpCommand (controllerEntityId : UInt64)
  | entityResponse (sequenceId : UInt16) (unsolicited inProgress : Bool)
  | controllerResponse (sequenceId : UInt16) (unsolicited : Bool)
  | networkTimeout (entry : Nat) (buffer transmitted : Bool)
  | applicationCommand (sequenceId : UInt16) (controllerEntityId : UInt64)
  | applicationResponse (sequenceId : UInt16) (controllerEntityId : UInt64) (unsolicited accepted : Bool)
  | applicationTimeout (entry : Nat) (buffer transmitted : Bool)
  | abortedCommand

def PoolInput.target : PoolInput → Option InflightPlace
  | .acmpCommand sender _ => if sender.messageType = none then none else some .acmp
  | .aecpCommand _ => some .network
  | .applicationCommand _ _ => some .application
  | _ => none

namespace InflightPool

def sends (place : InflightPlace) (timeoutMs : Nat) (sequenceId : UInt16) (controllerEntityId : UInt64)
    (pool : InflightPool) : List PoolOperation :=
  if pool.places .free = [] then [.get] else [.get,.start place timeoutMs sequenceId controllerEntityId]

def acmpSendCmd (milanMode : Bool) (messageType : UInt8) (controllerEntityId : UInt64) (pool : InflightPool) :
    List PoolOperation :=
  match acmpGetCommandTimeoutMs milanMode messageType with
  | none => [.get,.countAcmp]
  | some timeoutMs => pool.sends .acmp timeoutMs pool.acmpSequenceId controllerEntityId ++ [.countAcmp]

def timesOut (place : InflightPlace) (entry : Nat) (callback : InflightContext → List PoolOperation)
    (pool : InflightPool) : List PoolOperation :=
  if entry ∈ pool.places place ∧ (pool.contexts entry).timer then .expire entry :: callback (pool.contexts entry) else []

def acmpInflightTimeout (entry : Nat) (buffer : Bool) (context : InflightContext) : List PoolOperation :=
  if context.retried ≠ 0 then [.remove entry]
  else if buffer then [.retried entry 1,.restart entry]
  else [.restart entry]

def networkInflightTimeout (entry : Nat) (buffer transmitted : Bool) (context : InflightContext) : List PoolOperation :=
  if context.retried ≠ 0 then [.remove entry]
  else if !buffer then [.remove entry]
  else [.retried entry 1,if transmitted then .restart entry else .remove entry]

def applicationInflightTimeout (entry : Nat) (buffer transmitted : Bool) (context : InflightContext) :
    List PoolOperation :=
  if !buffer then [.remove entry]
  else if context.retried ≥ AECP_CFG_MAX_AEM_IN_PROGRESS then [.remove entry]
  else [.retried entry (context.retried + 1),if transmitted then .restart entry else .remove entry]

def operations (milanMode : Bool) (input : PoolInput) (pool : InflightPool) : List PoolOperation :=
  match input with
  | .acmpCommand sender controllerEntityId =>
    match sender.messageType with
    | none => []
    | some messageType => pool.acmpSendCmd milanMode messageType controllerEntityId
  | .acmpResponse sequenceId => (pool.inflightFind .acmp sequenceId).toList.map .remove
  | .acmpTimeout entry buffer => pool.timesOut .acmp entry (acmpInflightTimeout entry buffer)
  | .aecpCommand controllerEntityId =>
    pool.sends .network AECP_COMMANDS_TIMEOUT pool.aecpSequenceId controllerEntityId ++ [.countAecp]
  | .entityResponse sequenceId unsolicited inProgress =>
    if unsolicited then []
    else (pool.inflightFind .network sequenceId).toList.map (if inProgress then .restart else .remove)
  | .controllerResponse sequenceId unsolicited =>
    if unsolicited then [] else (pool.inflightFind .network sequenceId).toList.map .remove
  | .networkTimeout entry buffer transmitted =>
    pool.timesOut .network entry (networkInflightTimeout entry buffer transmitted)
  | .applicationCommand sequenceId controllerEntityId =>
    pool.sends .application AECP_IN_PROGRESS_TIMEOUT sequenceId controllerEntityId
  | .applicationResponse sequenceId controllerEntityId unsolicited accepted =>
    if unsolicited ∨ !accepted then []
    else (pool.inflightFindController .application sequenceId controllerEntityId).toList.map .remove
  | .applicationTimeout entry buffer transmitted =>
    pool.timesOut .application entry (applicationInflightTimeout entry buffer transmitted)
  | .abortedCommand => [.get,.abort]

def step (milanMode : Bool) (input : PoolInput) (pool : InflightPool) : InflightPool :=
  run perform (pool.operations milanMode input) pool

def inflightInit (maxInflights : Nat) : InflightPool where
  places
    | .free => (List.range maxInflights).reverse
    | _ => []
  contexts _ := ⟨0,0,0,0,false⟩
  acmpSequenceId := 0
  aecpSequenceId := 0

end InflightPool

end Genavb.Avdecc

/-! No inflight context is lost: in every run each of them is in exactly one list, and its timer runs
while a command waits in it. -/
namespace Genavb.Avdecc
open Support Partition List Function

/-- The list that a response looks for its command in, and what tells it. -/
def PoolInput.answers : PoolInput → Option (InflightPlace × (InflightContext → Bool))
  | .acmpResponse sequenceId => some (.acmp,fun context => context.sequenceId = sequenceId)
  | .entityResponse sequenceId false false => some (.network,fun context => context.sequenceId = sequenceId)
  | .controllerResponse sequenceId false => some (.network,fun context => context.sequenceId = sequenceId)
  | .applicationResponse sequenceId controllerEntityId false true =>
    some (.application,fun context =>
      context.sequenceId = sequenceId && context.controllerEntityId = controllerEntityId)
  | _ => none

def PoolInput.expires : PoolInput → Option (InflightPlace × Nat)
  | .acmpTimeout entry _ => some (.acmp,entry)
  | .networkTimeout entry _ _ => some (.network,entry)
  | .applicationTimeout entry _ _ => some (.application,entry)
  | _ => none

/-- How often the timer of a command may still expire; the last time ends the command. -/
def InflightContext.expiriesLeft (context : InflightContext) : InflightPlace → Nat
  | .acmp | .network => if context.retried = 0 then 2 else 1
  | .application => 1 + (AECP_CFG_MAX_AEM_IN_PROGRESS - context.retried)
  | .free | .held => 0

namespace InflightPool

def Conserved (maxInflights : Nat) (pool : InflightPool) : Prop := Partition (· < maxInflights) pool.places

/-- What holds between two events: no context is held, and the timers that run are those of the
commands that wait. -/
structure Settled (maxInflights : Nat) (pool : InflightPool) : Prop where
  conserved : pool.Conserved maxInflights
  released : pool.places .held = []
  timers : ∀ entry, (pool.contexts entry).timer = true ↔ ∃ place, place.isInflight = true ∧ entry ∈ pool.places place
  timeouts : ∀ entry place, place.isInflight = true → entry ∈ pool.places place → (pool.contexts entry).timeoutMs ≠ 0

def Inside (maxInflights : Nat) : PoolOperation → Prop
  | .remove entry => entry < maxInflights
  | _ => True

section Operations
variable {maxInflights : Nat} {pool : InflightPool} {entry : Nat} {place : InflightPlace}
  {change : InflightContext → InflightContext}

@[simp] theorem modifyContext_places : (pool.modifyContext entry change).places = pool.places := rfl

@[simp] theorem modifyContext_same : (pool.modifyContext entry change).contexts entry = change (pool.contexts entry) :=
  update_self ..

@[simp] theorem modifyContext_other {other : Nat} (apart : other ≠ entry) :
    (pool.modifyContext entry change).contexts other = pool.contexts other := update_of_ne apart ..

theorem Conserved.relocates (conserved : pool.Conserved maxInflights) (present : entry ∈ pool.places place)
    (target : InflightPlace) : Partition (· < maxInflights) (relocate entry target pool.places) :=
  relocate conserved ((conserved.all entry).mpr ⟨place,present⟩)

variable {operation : PoolOperation}

theorem Conserved.perform (conserved : pool.Conserved maxInflights)
    (inside : Inside maxInflights operation) : (pool.perform operation).Conserved maxInflights := by
  unfold Conserved
  cases operation with
  | get =>
    unfold InflightPool.perform inflightGet
    dsimp only
    split
    · exact conserved
    next entry rest first => exact conserved.relocates (first ▸ mem_cons_self) _
  | start place timeoutMs sequenceId controllerEntityId =>
    unfold InflightPool.perform inflightStart
    dsimp only
    split
    · exact conserved
    next entry rest first => exact conserved.relocates (first ▸ mem_cons_self) _
  | abort =>
    unfold InflightPool.perform inflightAbort
    dsimp only
    split
    · exact conserved
    next entry rest first => exact conserved.relocates (first ▸ mem_cons_self) _
  | remove entry => exact relocate conserved inside
  | _ => exact conserved

theorem Settled.relocated (settled : pool.Settled maxInflights) (inside : entry < maxInflights)
    {target : InflightPlace} (notHeld : target ≠ .held) (timer : (change (pool.contexts entry)).timer = target.isInflight)
    (timeout : target.isInflight = true → (change (pool.contexts entry)).timeoutMs ≠ 0) :
    ({pool with places := relocate entry target pool.places}.modifyContext entry change).Settled maxInflights := by
  have once := settled.conserved.once
  refine ⟨relocate settled.conserved inside,?_,?_,?_⟩
  · rw [modifyContext_places]
    dsimp only
    rw [relocate_other notHeld.symm,settled.released]
    rfl
  · intro other
    simp only [modifyContext_places,mem_relocate once]
    by_cases same : other = entry
    · subst same
      simp only [modifyContext_same,timer,if_true,exists_eq_right]
    · simp only [modifyContext_other same,if_neg same]
      exact settled.timers other
  · intro other place waits present
    rw [modifyContext_places,mem_relocate once] at present
    by_cases same : other = entry
    · subst same
      rw [if_pos rfl] at present
      rw [modifyContext_same]
      exact timeout (present ▸ waits)
    · rw [if_neg same] at present
      rw [modifyContext_other same]
      exact settled.timeouts other place waits present

theorem Settled.kept (settled : pool.Settled maxInflights)
    (timeout : ∀ context, (change context).timeoutMs = context.timeoutMs)
    (timer : (change (pool.contexts entry)).timer = (pool.contexts entry).timer) :
    (pool.modifyContext entry change).Settled maxInflights := by
  refine ⟨settled.conserved,settled.released,?_,?_⟩
  · intro other
    by_cases same : other = entry
    · rw [same,modifyContext_same,timer]
      exact settled.timers entry
    · rw [modifyContext_other same]
      exact settled.timers other
  · intro other place waits present
    by_cases same : other = entry
    · rw [same,modifyContext_same,timeout]
      exact settled.timeouts entry place waits (same ▸ present)
    · rw [modifyContext_other same]
      exact settled.timeouts other place waits present

private theorem modifyContext_modifyContext (first second : InflightContext → InflightContext) :
    (pool.modifyContext entry first).modifyContext entry second =
      pool.modifyContext entry fun context => second (first context) := by
  unfold modifyContext
  dsimp only
  rw [update_idem,update_self]

section
variable (settled : pool.Settled maxInflights)
include settled

theorem Settled.removes (present : entry ∈ pool.places place) : (pool.inflightRemove entry).Settled maxInflights := by
  apply settled.relocated ((settled.conserved.all entry).mpr ⟨place,present⟩)
  · decide
  · rfl
  · intro waits
    cases waits

theorem Settled.restarts (present : entry ∈ pool.places place)
    (waits : place.isInflight = true) : (pool.inflightRestart entry).Settled maxInflights := by
  apply settled.kept
  · intro context
    rfl
  · rw [(settled.timers entry).mpr ⟨place,waits,present⟩]
    exact decide_eq_true (settled.timeouts entry place waits present)

theorem Settled.marks (count : Nat) :
    (pool.modifyContext entry ({· with retried := count})).Settled maxInflights := settled.kept (fun _ => rfl) rfl

end

private theorem expire_remove : (pool.perform (.expire entry)).perform (.remove entry) = pool.perform (.remove entry) := by
  have both := @modifyContext_modifyContext {pool with places := relocate entry .free pool.places} entry
    ({· with timer := false}) ({· with timer := false})
  exact both

private theorem expire_restart : (pool.perform (.expire entry)).perform (.restart entry) = pool.perform (.restart entry) := by
  unfold perform inflightRestart
  dsimp only
  rw [modifyContext_modifyContext]

private theorem expire_retried (count : Nat) : (pool.perform (.expire entry)).perform (.retried entry count) =
    (pool.perform (.retried entry count)).perform (.expire entry) := by
  unfold perform
  dsimp only
  rw [modifyContext_modifyContext,modifyContext_modifyContext]

structure Decides (entry : Nat) (operations : List PoolOperation) : Prop where
  decides : operations = [.remove entry] ∨ operations = [.restart entry] ∨
    ∃ count, operations = [.retried entry count,.remove entry] ∨ operations = [.retried entry count,.restart entry]

private theorem acmpTimeout_decides (buffer : Bool) (context : InflightContext) :
    Decides entry (acmpInflightTimeout entry buffer context) := by
  unfold acmpInflightTimeout
  split
  · exact ⟨.inl rfl⟩
  · split
    · exact ⟨.inr (.inr ⟨1,.inr rfl⟩)⟩
    · exact ⟨.inr (.inl rfl)⟩

private theorem networkTimeout_decides (buffer transmitted : Bool) (context : InflightContext) :
    Decides entry (networkInflightTimeout entry buffer transmitted context) := by
  unfold networkInflightTimeout
  split
  · exact ⟨.inl rfl⟩
  · split
    · exact ⟨.inl rfl⟩
    · cases transmitted with
      | false => exact ⟨.inr (.inr ⟨1,.inl rfl⟩)⟩
      | true => exact ⟨.inr (.inr ⟨1,.inr rfl⟩)⟩

private theorem applicationTimeout_decides (buffer transmitted : Bool) (context : InflightContext) :
    Decides entry (applicationInflightTimeout entry buffer transmitted context) := by
  unfold applicationInflightTimeout
  split
  · exact ⟨.inl rfl⟩
  · split
    · exact ⟨.inl rfl⟩
    · cases transmitted with
      | false => exact ⟨.inr (.inr ⟨_,.inl rfl⟩)⟩
      | true => exact ⟨.inr (.inr ⟨_,.inr rfl⟩)⟩

theorem Settled.timesOut (settled : pool.Settled maxInflights) (waits : place.isInflight = true)
    {callback : InflightContext → List PoolOperation} (decides : ∀ context, Decides entry (callback context)) :
    (run InflightPool.perform (pool.timesOut place entry callback) pool).Settled maxInflights := by
  unfold InflightPool.timesOut
  split
  next here =>
    rw [run_cons]
    obtain ⟨free | again | ⟨count,free | again⟩⟩ := decides (pool.contexts entry)
    · rw [free,run_cons,run_nil,expire_remove]
      exact settled.removes here.1
    · rw [again,run_cons,run_nil,expire_restart]
      exact settled.restarts here.1 waits
    · rw [free,run_cons,run_cons,run_nil,expire_retried,expire_remove]
      exact @Settled.removes _ _ _ place (settled.marks count) here.1
    · rw [again,run_cons,run_cons,run_nil,expire_retried,expire_restart]
      exact @Settled.restarts _ _ _ place (settled.marks count) here.1 waits
  · exact settled

private theorem get_first {rest : List Nat} (first : pool.places .free = entry :: rest) :
    pool.perform .get = {pool with places := relocate entry .held pool.places} := by
  unfold perform inflightGet
  rw [first]

private theorem get_none (empty : pool.places .free = []) : pool.perform .get = pool := by
  unfold perform inflightGet
  rw [empty]

private theorem sends_first {entry : Nat} {rest : List Nat} (settled : pool.Settled maxInflights)
    (first : pool.places .free = entry :: rest) (timeoutMs : Nat) (sequenceId : UInt16) (controllerEntityId : UInt64) :
    run perform (pool.sends place timeoutMs sequenceId controllerEntityId) pool =
      {pool with places := relocate entry place pool.places}.modifyContext entry fun context =>
        ⟨timeoutMs,sequenceId,controllerEntityId,0,context.timer || decide (timeoutMs ≠ 0)⟩ := by
  have held : relocate entry .held pool.places .held = [entry] := by
    rw [relocate_target,settled.released]
    rfl
  unfold sends
  rw [first,if_neg (cons_ne_nil _ _),run_cons,run_cons,run_nil,get_first first]
  unfold perform inflightStart
  dsimp only
  rw [held]
  dsimp only
  rw [relocate_relocate settled.conserved.once]

theorem sends_none (empty : pool.places .free = []) (timeoutMs : Nat) (sequenceId : UInt16)
    (controllerEntityId : UInt64) :
    run perform (pool.sends place timeoutMs sequenceId controllerEntityId) pool = pool := by
  unfold sends
  rw [if_pos empty,run_cons,run_nil,get_none empty]

section
variable (settled : pool.Settled maxInflights)
include settled

theorem Settled.sends (waits : place.isInflight = true) {timeoutMs : Nat}
    (positive : timeoutMs ≠ 0) (sequenceId : UInt16) (controllerEntityId : UInt64) :
    (run InflightPool.perform (pool.sends place timeoutMs sequenceId controllerEntityId) pool).Settled maxInflights := by
  cases first : pool.places .free with
  | nil =>
    rw [sends_none first]
    exact settled
  | cons entry rest =>
    rw [sends_first settled first]
    apply settled.relocated
    · exact (settled.conserved.all entry).mpr ⟨.free,first ▸ mem_cons_self⟩
    · rintro rfl
      cases waits
    · rw [waits]
      exact Bool.or_eq_true_iff.mpr (.inr (decide_eq_true positive))
    · intro _
      exact positive

theorem Settled.countAcmp : (pool.perform .countAcmp).Settled maxInflights :=
  {settled with}

theorem Settled.countAecp : (pool.perform .countAecp).Settled maxInflights :=
  {settled with}

end

private theorem messageType_timeout {sender : AcmpSender} {messageType : UInt8} (sends : sender.messageType = some messageType)
    (milanMode : Bool) : ∃ timeoutMs, timeoutMs ≠ 0 ∧ acmpGetCommandTimeoutMs milanMode messageType = some timeoutMs := by
  have known : messageType ∈ ([0,2,4,6,8,10,12] : List UInt8) := by
    cases sender with
    | connectTx | disconnectTx =>
      cases sends
      decide
    | application given =>
      dsimp only [AcmpSender.messageType] at sends
      split at sends
      next member =>
        cases sends
        exact mem_cons_of_mem _ (mem_cons_of_mem _ member)
      · cases sends
  unfold acmpGetCommandTimeoutMs
  repeat' split
  all_goals exact ⟨_,by decide,rfl⟩

private theorem find_mem {sequenceId : UInt16} (found : pool.inflightFind place sequenceId = some entry) :
    entry ∈ pool.places place := mem_of_find?_eq_some found

theorem Settled.aborted (settled : pool.Settled maxInflights) :
    (run InflightPool.perform [.get,.abort] pool).Settled maxInflights := by
  rw [run_cons,run_cons,run_nil]
  cases first : pool.places .free with
  | nil =>
    rw [get_none first]
    unfold InflightPool.perform inflightAbort
    rw [settled.released]
    exact settled
  | cons entry rest =>
    have here : entry ∈ pool.places .free := first ▸ mem_cons_self
    have stopped : (pool.contexts entry).timer = false := by
      rw [Bool.eq_false_iff,Ne,settled.timers]
      rintro ⟨place,waits,present⟩
      rw [settled.conserved.apart entry place .free present here] at waits
      cases waits
    have back : ({pool with places := relocate entry .free pool.places}.modifyContext entry id).Settled maxInflights :=
      settled.relocated ((settled.conserved.all entry).mpr ⟨.free,here⟩) (by decide) stopped fun waits => by cases waits
    have held : relocate entry .held pool.places .held = [entry] := by
      rw [relocate_target,settled.released]
      rfl
    rw [get_first first]
    unfold InflightPool.perform inflightAbort
    dsimp only
    rw [held]
    dsimp only
    rw [relocate_relocate settled.conserved.once]
    unfold modifyContext at back
    rwa [id,update_eq_self] at back

theorem Settled.removed {found : Option Nat} (settled : pool.Settled maxInflights)
    (member : ∀ entry, found = some entry → entry ∈ pool.places place) :
    (run InflightPool.perform (found.toList.map .remove) pool).Settled maxInflights := by
  cases found with
  | none => exact settled
  | some entry => exact settled.removes (member entry rfl)

theorem Settled.step (settled : pool.Settled maxInflights) (milanMode : Bool) (input : PoolInput) :
    (pool.step milanMode input).Settled maxInflights := by
  unfold InflightPool.step operations
  cases input with
  | acmpCommand sender controllerEntityId =>
    dsimp only
    cases sends : sender.messageType with
    | none => exact settled
    | some messageType =>
      obtain ⟨timeoutMs,positive,timeout⟩ := messageType_timeout sends milanMode
      dsimp only
      unfold acmpSendCmd
      rw [timeout]
      rw [run_append]
      exact (settled.sends rfl positive _ _).countAcmp
  | acmpResponse sequenceId => exact @Settled.removed _ _ .acmp _ settled fun _ => find_mem
  | acmpTimeout entry buffer => exact settled.timesOut rfl (acmpTimeout_decides buffer)
  | aecpCommand controllerEntityId =>
    rw [run_append]
    exact (settled.sends rfl (by decide) _ _).countAecp
  | entityResponse sequenceId unsolicited inProgress =>
    dsimp only
    cases unsolicited with
    | true => exact settled
    | false =>
      cases inProgress with
      | false => exact @Settled.removed _ _ .network _ settled fun _ => find_mem
      | true =>
        cases found : pool.inflightFind .network sequenceId with
        | none => exact settled
        | some entry => exact settled.restarts (find_mem found) rfl
  | controllerResponse sequenceId unsolicited =>
    cases unsolicited with
    | true => exact settled
    | false => exact @Settled.removed _ _ .network _ settled fun _ => find_mem
  | networkTimeout entry buffer transmitted => exact settled.timesOut rfl (networkTimeout_decides buffer transmitted)
  | applicationCommand sequenceId controllerEntityId => exact settled.sends rfl (by decide) _ _
  | applicationResponse sequenceId controllerEntityId unsolicited accepted =>
    dsimp only
    split
    · exact settled
    · exact @Settled.removed _ _ .application _ settled fun _ found => mem_of_find?_eq_some found
  | applicationTimeout entry buffer transmitted => exact settled.timesOut rfl (applicationTimeout_decides buffer transmitted)
  | abortedCommand => exact settled.aborted

theorem Conserved.run (conserved : pool.Conserved maxInflights) {operations : List PoolOperation}
    (inside : ∀ operation, operation ∈ operations → Inside maxInflights operation) :
    (run InflightPool.perform operations pool).Conserved maxInflights := by
  induction operations generalizing pool with
  | nil => exact conserved
  | cons operation rest ih =>
    rw [run_cons]
    apply ih
    · exact conserved.perform (inside operation mem_cons_self)
    · intro later member
      exact inside later (mem_cons_of_mem _ member)

private theorem sends_inside {timeoutMs : Nat} {sequenceId : UInt16} {controllerEntityId : UInt64}
    (member : operation ∈ pool.sends place timeoutMs sequenceId controllerEntityId) : Inside maxInflights operation := by
  unfold sends at member
  split at member
  · rw [mem_singleton.mp member]
    trivial
  · obtain rfl | member := mem_cons.mp member
    · trivial
    · rw [mem_singleton.mp member]
      trivial

private theorem timesOut_inside (conserved : pool.Conserved maxInflights) {callback : InflightContext → List PoolOperation}
    (decides : ∀ context, Decides entry (callback context))
    (member : operation ∈ pool.timesOut place entry callback) : Inside maxInflights operation := by
  unfold timesOut at member
  split at member
  next here =>
    have freed : entry < maxInflights := (conserved.all entry).mpr ⟨place,here.1⟩
    obtain rfl | member := mem_cons.mp member
    · trivial
    · obtain free | again | ⟨count,free | again⟩ := decides (pool.contexts entry)
      · rw [free] at member
        rw [mem_singleton.mp member]
        exact freed
      · rw [again] at member
        rw [mem_singleton.mp member]
        trivial
      · rw [free] at member
        obtain rfl | member := mem_cons.mp member
        · trivial
        · rw [mem_singleton.mp member]
          exact freed
      · rw [again] at member
        obtain rfl | member := mem_cons.mp member
        · trivial
        · rw [mem_singleton.mp member]
          trivial
  · cases member

private theorem removes_inside (conserved : pool.Conserved maxInflights) {found : Option Nat}
    (present : ∀ entry, found = some entry → entry ∈ pool.places place) {operation : PoolOperation}
    (member : operation ∈ found.toList.map .remove) : Inside maxInflights operation := by
  obtain ⟨entry,inside,rfl⟩ := mem_map.mp member
  exact (conserved.all entry).mpr ⟨place,present entry (Option.mem_toList.mp inside)⟩

section
variable (settled : pool.Settled maxInflights)
include settled

theorem operations_inside (milanMode : Bool) (input : PoolInput)
    (operation : PoolOperation) (member : operation ∈ pool.operations milanMode input) :
    Inside maxInflights operation := by
  have conserved := settled.conserved
  unfold operations at member
  cases input with
  | acmpCommand sender controllerEntityId =>
    dsimp only at member
    cases sends : sender.messageType with
    | none =>
      rw [sends] at member
      cases member
    | some messageType =>
      obtain ⟨timeoutMs,_,timeout⟩ := messageType_timeout sends milanMode
      rw [sends] at member
      dsimp only at member
      unfold acmpSendCmd at member
      rw [timeout] at member
      obtain member | member := mem_append.mp member
      · exact sends_inside member
      · rw [mem_singleton.mp member]
        trivial
  | acmpResponse sequenceId => exact @removes_inside _ _ .acmp conserved _ (fun _ => find_mem) _ member
  | acmpTimeout entry buffer => exact timesOut_inside conserved (acmpTimeout_decides buffer) member
  | aecpCommand controllerEntityId =>
    obtain member | member := mem_append.mp member
    · exact sends_inside member
    · rw [mem_singleton.mp member]
      trivial
  | entityResponse sequenceId unsolicited inProgress =>
    cases unsolicited with
    | true => cases member
    | false =>
      cases inProgress with
      | false => exact @removes_inside _ _ .network conserved _ (fun _ => find_mem) _ member
      | true =>
        obtain ⟨entry,_,rfl⟩ := mem_map.mp member
        trivial
  | controllerResponse sequenceId unsolicited =>
    cases unsolicited with
    | true => cases member
    | false => exact @removes_inside _ _ .network conserved _ (fun _ => find_mem) _ member
  | networkTimeout entry buffer transmitted =>
    exact timesOut_inside conserved (networkTimeout_decides buffer transmitted) member
  | applicationCommand sequenceId controllerEntityId => exact sends_inside member
  | applicationResponse sequenceId controllerEntityId unsolicited accepted =>
    dsimp only at member
    split at member
    · cases member
    · exact @removes_inside _ _ .application conserved _ (fun _ found => mem_of_find?_eq_some found) _ member
  | applicationTimeout entry buffer transmitted =>
    exact timesOut_inside conserved (applicationTimeout_decides buffer transmitted) member
  | abortedCommand =>
    obtain rfl | member := mem_cons.mp member
    · trivial
    · rw [mem_singleton.mp member]
      trivial

theorem Settled.all_free
    (idle : ∀ place, place.isInflight = true → pool.places place = []) :
    (pool.places .free).Perm (List.range maxInflights) := by
  apply perm_range settled.conserved
  intro place other
  cases place with
  | free => exact absurd rfl other
  | held => exact settled.released
  | _ => exact idle _ rfl

theorem Settled.starts {rest : List Nat} (first : pool.places .free = entry :: rest)
    (milanMode : Bool) {input : PoolInput} (target : input.target = some place) :
    (pool.step milanMode input).places place = entry :: (pool.places place).erase entry := by
  have head (target : InflightPlace) :
      relocate entry target pool.places target = entry :: (pool.places target).erase entry := relocate_target
  unfold InflightPool.step operations
  cases input with
  | acmpCommand sender controllerEntityId =>
    dsimp only [PoolInput.target] at target ⊢
    cases sends : sender.messageType with
    | none =>
      rw [sends] at target
      cases target
    | some messageType =>
      obtain ⟨timeoutMs,_,timeout⟩ := messageType_timeout sends milanMode
      rw [sends] at target
      cases target
      dsimp only
      unfold acmpSendCmd
      rw [timeout]
      rw [run_append,sends_first settled first]
      exact head .acmp
  | aecpCommand controllerEntityId =>
    cases target
    rw [run_append,sends_first settled first]
    exact head .network
  | applicationCommand sequenceId controllerEntityId =>
    cases target
    rw [sends_first settled first]
    exact head .application
  | _ => cases target

end

end Operations

section Endings
variable {maxInflights : Nat} {pool after : InflightPool} {entry : Nat} {place : InflightPlace} {input : PoolInput}
  {asked : InflightContext → Bool}

/-- The expiries that all commands that wait may still have. -/
def outstanding (pool : InflightPool) : Nat :=
  (([.acmp,.network,.application] : List InflightPlace).map fun place =>
    ((pool.places place).map fun entry => (pool.contexts entry).expiriesLeft place).sum).sum

/-- A command that waits is answered, or its timer expires; that of an ACMP command which gets no buffer for
its retry is only started again. -/
def Ending (pool : InflightPool) (input : PoolInput) : Prop :=
  (∃ place asked, input.answers = some (place,asked) ∧ ∃ entry ∈ pool.places place, asked (pool.contexts entry) = true) ∨
    ∃ place entry, input.expires = some (place,entry) ∧ entry ∈ pool.places place ∧
      (input = .acmpTimeout entry false → (pool.contexts entry).expiriesLeft place = 1)

/-- The response to a command frees a context, and so does the last expiry of its timer. -/
structure Ends (milanMode : Bool) (pool : InflightPool) (input : PoolInput) : Prop where
  answered : ∀ place asked, input.answers = some (place,asked) →
    ∀ entry ∈ pool.places place, asked (pool.contexts entry) = true →
      ∃ freed ∈ pool.places place, asked (pool.contexts freed) = true ∧
        (pool.step milanMode input).places = relocate freed .free pool.places
  expired : ∀ place entry, input.expires = some (place,entry) → entry ∈ pool.places place →
    (pool.contexts entry).expiriesLeft place = 1 →
      (pool.step milanMode input).places = relocate entry .free pool.places

/-- A context is freed, or its timer may expire less often. -/
structure Lowers (pool : InflightPool) (place : InflightPlace) (entry : Nat) (after : InflightPool) : Prop where
  others : ∀ other, other ≠ entry → after.contexts other = pool.contexts other
  lowered : after.places = relocate entry .free pool.places ∨ after.places = pool.places ∧
    (after.contexts entry).expiriesLeft place < (pool.contexts entry).expiriesLeft place

private theorem expiriesLeft_pos (waits : place.isInflight = true) (context : InflightContext) :
    0 < context.expiriesLeft place := by
  unfold InflightContext.expiriesLeft
  cases place with
  | free | held => cases waits
  | application => exact Nat.add_pos_left Nat.one_pos _
  | _ =>
    dsimp only
    split <;> decide

private theorem expiries_congr {entries : List Nat} (others : ∀ other, other ≠ entry → after.contexts other = pool.contexts other)
    (outside : entry ∉ entries) (place : InflightPlace) :
    (entries.map fun item => (after.contexts item).expiriesLeft place).sum =
      (entries.map fun item => (pool.contexts item).expiriesLeft place).sum := by
  congr 1
  apply map_congr_left
  intro item member
  rw [others item fun same => outside (same ▸ member)]

theorem Lowers.sums (lowers : pool.Lowers place entry after) (conserved : pool.Conserved maxInflights)
    (present : entry ∈ pool.places place) (other : InflightPlace) (waits : other.isInflight = true) :
    ((after.places other).map fun item => (after.contexts item).expiriesLeft other).sum +
        (if other = place then 1 else 0) ≤
      ((pool.places other).map fun item => (pool.contexts item).expiriesLeft other).sum := by
  by_cases here : other = place
  · subst here
    rw [if_pos rfl]
    have whole := sum_map_erase (fun item => (pool.contexts item).expiriesLeft other) present
    have outside : entry ∉ (pool.places other).erase entry := (conserved.once other).not_mem_erase
    obtain freed | ⟨same,lower⟩ := lowers.lowered
    · have left := expiriesLeft_pos waits (pool.contexts entry)
      rw [freed,relocate_other (by rintro rfl; cases waits),expiries_congr lowers.others outside]
      omega
    · have later := sum_map_erase (fun item => (after.contexts item).expiriesLeft other) present
      rw [same,← later,expiries_congr lowers.others outside]
      omega
  · have outside : entry ∉ pool.places other := fun also => here (conserved.apart entry other place also present)
    rw [if_neg here,Nat.add_zero]
    obtain freed | ⟨same,_⟩ := lowers.lowered
    · rw [freed,relocate_other (by rintro rfl; cases waits),erase_of_not_mem outside,
        expiries_congr lowers.others outside]
    · rw [same,expiries_congr lowers.others outside]

theorem Lowers.outstanding (lowers : pool.Lowers place entry after) (conserved : pool.Conserved maxInflights)
    (present : entry ∈ pool.places place) (waits : place.isInflight = true) : after.outstanding < pool.outstanding := by
  have acmp := lowers.sums conserved present .acmp rfl
  have network := lowers.sums conserved present .network rfl
  have application := lowers.sums conserved present .application rfl
  unfold InflightPool.outstanding
  simp only [map_cons,map_nil,sum_cons,sum_nil]
  cases place with
  | free | held => cases waits
  | _ =>
    simp only [reduceCtorEq,if_true,if_false] at acmp network application
    omega

private theorem lowers_remove : pool.Lowers place entry (pool.inflightRemove entry) :=
  ⟨fun _ apart => modifyContext_other apart,.inl rfl⟩

private theorem lowers_retried {count : Nat} {operation : PoolOperation}
    (fewer : ({pool.contexts entry with retried := count} : InflightContext).expiriesLeft place <
      (pool.contexts entry).expiriesLeft place) (last : operation = .remove entry ∨ operation = .restart entry) :
    pool.Lowers place entry (run perform [.retried entry count,operation] (pool.perform (.expire entry))) := by
  rw [run_cons,run_cons,run_nil,expire_retried]
  have marked (other : Nat) (apart : other ≠ entry) : (pool.perform (.retried entry count)).contexts other =
      pool.contexts other := by
    unfold perform
    exact modifyContext_other apart
  obtain rfl | rfl := last
  · rw [expire_remove]
    refine ⟨fun other apart => ?_,.inl rfl⟩
    rw [← marked other apart]
    unfold perform inflightRemove
    exact modifyContext_other apart
  · rw [expire_restart]
    refine ⟨fun other apart => ?_,.inr ⟨rfl,?_⟩⟩
    · rw [← marked other apart]
      unfold perform inflightRestart
      exact modifyContext_other apart
    · unfold perform inflightRestart
      rw [modifyContext_same,modifyContext_same]
      cases place <;> exact fewer

theorem answers_waits (answers : input.answers = some (place,asked)) : place.isInflight = true := by
  unfold PoolInput.answers at answers
  split at answers
  all_goals cases answers
  all_goals rfl

private theorem expires_waits (expires : input.expires = some (place,entry)) : place.isInflight = true := by
  unfold PoolInput.expires at expires
  split at expires
  all_goals cases expires
  all_goals rfl

theorem answered_run (milanMode : Bool) (answers : input.answers = some (place,asked)) :
    pool.step milanMode input =
      run perform (((pool.places place).find? fun item => asked (pool.contexts item)).toList.map .remove) pool := by
  unfold PoolInput.answers at answers
  split at answers
  all_goals cases answers
  all_goals rfl

private theorem answered_removes (milanMode : Bool) (answers : input.answers = some (place,asked))
    (present : entry ∈ pool.places place) (matching : asked (pool.contexts entry) = true) :
    ∃ freed ∈ pool.places place, asked (pool.contexts freed) = true ∧
      pool.step milanMode input = pool.inflightRemove freed := by
  rw [answered_run milanMode answers]
  cases found : (pool.places place).find? fun item => asked (pool.contexts item) with
  | none => exact absurd matching (List.find?_eq_none.mp found entry present)
  | some freed =>
    have same := List.find?_some found
    exact ⟨freed,mem_of_find?_eq_some found,same,rfl⟩

section
variable (settled : pool.Settled maxInflights)
include settled

theorem Settled.timesOut_run (waits : place.isInflight = true) (present : entry ∈ pool.places place)
    (callback : InflightContext → List PoolOperation) :
    run perform (pool.timesOut place entry callback) pool =
      run perform (callback (pool.contexts entry)) (pool.perform (.expire entry)) := by
  unfold InflightPool.timesOut
  rw [if_pos ⟨present,(settled.timers entry).mpr ⟨place,waits,present⟩⟩,run_cons]

theorem Settled.expired (milanMode : Bool) (expires : input.expires = some (place,entry))
    (present : entry ∈ pool.places place)
    (buffered : input = .acmpTimeout entry false → (pool.contexts entry).expiriesLeft place = 1) :
    pool.Lowers place entry (pool.step milanMode input) := by
  unfold InflightPool.step operations
  cases input with
  | acmpTimeout entry buffer =>
    cases expires
    rw [settled.timesOut_run rfl present]
    unfold acmpInflightTimeout
    split
    · rw [run_cons,run_nil,expire_remove]
      exact lowers_remove
    next first =>
      rw [Ne,Decidable.not_not] at first
      cases buffer with
      | false =>
        have last := buffered rfl
        unfold InflightContext.expiriesLeft at last
        rw [if_pos first] at last
        cases last
      | true =>
        apply lowers_retried _ (.inr rfl)
        unfold InflightContext.expiriesLeft
        rw [if_pos first]
        exact Nat.one_lt_two
  | networkTimeout entry buffer transmitted =>
    cases expires
    rw [settled.timesOut_run rfl present]
    unfold networkInflightTimeout
    split
    · rw [run_cons,run_nil,expire_remove]
      exact lowers_remove
    next first =>
      rw [Ne,Decidable.not_not] at first
      split
      · rw [run_cons,run_nil,expire_remove]
        exact lowers_remove
      · apply lowers_retried
        · unfold InflightContext.expiriesLeft
          rw [if_pos first]
          exact Nat.one_lt_two
        · cases transmitted with
          | false => exact .inl rfl
          | true => exact .inr rfl
  | applicationTimeout entry buffer transmitted =>
    cases expires
    rw [settled.timesOut_run rfl present]
    unfold applicationInflightTimeout
    split
    · rw [run_cons,run_nil,expire_remove]
      exact lowers_remove
    · split
      · rw [run_cons,run_nil,expire_remove]
        exact lowers_remove
      next more =>
        apply lowers_retried
        · unfold InflightContext.expiriesLeft
          dsimp only
          omega
        · cases transmitted with
          | false => exact .inl rfl
          | true => exact .inr rfl
  | _ => cases expires

theorem Settled.ends (milanMode : Bool) (input : PoolInput) : pool.Ends milanMode input where
  answered place asked answers entry present matching := by
    obtain ⟨freed,inside,same,removes⟩ := answered_removes milanMode answers present matching
    refine ⟨freed,inside,same,?_⟩
    rw [removes]
    rfl
  expired place entry expires present last := by
    obtain freed | ⟨_,lower⟩ := (settled.expired milanMode expires present fun _ => last).lowered
    · exact freed
    · have left := expiriesLeft_pos (expires_waits expires) ((pool.step milanMode input).contexts entry)
      omega

theorem Settled.ending (milanMode : Bool) (ending : pool.Ending input) :
    (pool.step milanMode input).outstanding < pool.outstanding := by
  obtain ⟨place,asked,answers,entry,present,matching⟩ | ⟨place,entry,expires,present,buffered⟩ := ending
  · obtain ⟨freed,inside,_,removes⟩ := answered_removes milanMode answers present matching
    rw [removes]
    exact lowers_remove.outstanding settled.conserved inside (answers_waits answers)
  · exact (settled.expired milanMode expires present buffered).outstanding settled.conserved present
      (expires_waits expires)

end

theorem idle_or_ending (pool : InflightPool) :
    (∀ place, place.isInflight = true → pool.places place = []) ∨ ∃ input, pool.Ending input := by
  rw [or_iff_not_imp_left]
  intro busy
  push Not at busy
  obtain ⟨place,waits,more⟩ := busy
  obtain ⟨entry,present⟩ := exists_mem_of_ne_nil _ more
  cases place with
  | free | held => cases waits
  | acmp => exact ⟨.acmpTimeout entry true,.inr ⟨.acmp,entry,rfl,present,fun same => by cases same⟩⟩
  | network => exact ⟨.networkTimeout entry true true,.inr ⟨.network,entry,rfl,present,fun same => by cases same⟩⟩
  | application => exact ⟨.applicationTimeout entry true true,.inr ⟨.application,entry,rfl,present,fun same => by cases same⟩⟩

end Endings

theorem inflightInit_settled (maxInflights : Nat) : (inflightInit maxInflights).Settled maxInflights := by
  have nothing (place : InflightPlace) (other : place ≠ .free) : (inflightInit maxInflights).places place = [] := by
    cases place with
    | free => exact absurd rfl other
    | _ => rfl
  have member (entry : Nat) : entry ∈ (inflightInit maxInflights).places .free ↔ entry < maxInflights := by
    unfold inflightInit
    rw [mem_reverse,mem_range]
  refine ⟨⟨?_,?_,?_⟩,rfl,?_,?_⟩
  · intro place
    by_cases here : place = .free
    · rw [here]
      exact nodup_reverse.mpr nodup_range
    · rw [nothing place here]
      exact nodup_nil
  · intro entry first second inFirst inSecond
    by_cases one : first = .free
    · by_cases two : second = .free
      · rw [one,two]
      · rw [nothing second two] at inSecond
        cases inSecond
    · rw [nothing first one] at inFirst
      cases inFirst
  · intro entry
    constructor
    · intro inside
      exact ⟨.free,(member entry).mpr inside⟩
    · rintro ⟨place,present⟩
      by_cases here : place = .free
      · rw [here] at present
        exact (member entry).mp present
      · rw [nothing place here] at present
        cases present
  · intro entry
    refine iff_of_false Bool.false_ne_true ?_
    rintro ⟨place,waits,present⟩
    rw [nothing place (by rintro rfl; cases waits)] at present
    cases present
  · intro entry place waits present
    rw [nothing place (by rintro rfl; cases waits)] at present
    cases present

/-- In every run of an entity each context is in exactly one list or in the hands of a command that is
being sent, also between the operations of an event; between the events none is held, and the timers
that run are those of the commands that wait. A response and the last expiry of its timer free the
context of a command, and these can go on, but not for ever, until nothing waits. Then all contexts are
free and the next command of every kind finds one. -/
theorem inflight_conserved (milanMode : Bool) (maxInflights : Nat) (inputs : List PoolInput) :
    let pool := run (step milanMode) inputs (inflightInit maxInflights)
    pool.Settled maxInflights ∧
    (∀ input operations, operations <+: pool.operations milanMode input →
      (run perform operations pool).Conserved maxInflights) ∧
    (∀ input, pool.Ends milanMode input) ∧
    (∀ endings, Steps (step milanMode) Ending endings pool →
      endings.length + (run (step milanMode) endings pool).outstanding ≤ pool.outstanding) ∧
    ((∀ place, place.isInflight = true → pool.places place = []) ∨ ∃ input, pool.Ending input) ∧
    ((∀ place, place.isInflight = true → pool.places place = []) →
      (pool.places .free).Perm (List.range maxInflights) ∧
      (0 < maxInflights → ∀ (input : PoolInput) place, input.target = some place →
        ∃ entry, (pool.step milanMode input).places place = [entry])) := by
  have settled : (run (step milanMode) inputs (inflightInit maxInflights)).Settled maxInflights :=
    run_invariant (step milanMode) (fun _ input settled _ => settled.step milanMode input)
      (inflightInit_settled maxInflights) (steps_always (step milanMode) inputs _)
  refine ⟨settled,?_,settled.ends milanMode,?_,idle_or_ending _,?_⟩
  · intro input operations before
    apply settled.conserved.run
    intro operation member
    exact operations_inside settled milanMode input operation (before.subset member)
  · intro endings steps
    exact run_measure (step milanMode)
      (fun _ input settled ending => ⟨settled.step milanMode input,settled.ending milanMode ending⟩) settled steps
  · intro idle
    have all := settled.all_free idle
    refine ⟨all,fun positive input place target => ?_⟩
    have waits : place.isInflight = true := by
      cases input with
      | acmpCommand sender controllerEntityId =>
        dsimp only [PoolInput.target] at target
        split at target
        · cases target
        · cases target
          rfl
      | aecpCommand | applicationCommand =>
        cases target
        rfl
      | _ => cases target
    cases first : (run (step milanMode) inputs (inflightInit maxInflights)).places .free with
    | nil =>
      rw [first] at all
      have none := all.length_eq
      rw [length_nil,length_range] at none
      omega
    | cons entry rest =>
      refine ⟨entry,?_⟩
      rw [settled.starts first milanMode target,idle place waits]
      rfl

end InflightPool

end Genavb.Avdecc
