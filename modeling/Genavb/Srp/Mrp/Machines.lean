import Mathlib.Algebra.Ring.Nat
import Genavb.Support.Run
import Mathlib.Logic.Function.Basic

/-! Data model of an MRP application: enumerations and records of `mrp.h`, the soft
timer of `common/timer.c` and the heap of attributes behind the per-type lists. -/
namespace Genavb.Mrp

inductive ApplicantState where
  | VO | VP | VN | AN | AA | QA | LA | AO | QO | AP | QP | LO
  deriving DecidableEq

inductive RegistrarState where
  | IN | LV | MT
  deriving DecidableEq

inductive MrpEvent where
  | BEGIN | NEW | JOIN | LV | TX | TXLA | TXLAF
  | RNEW | RJOININ | RIN | RJOINMT | RMT | RLV | RLA
  | FLUSH | REDECLARE | PERIODIC | LEAVETIMER | LEAVEALLTIMER | PERIODICTIMER
  | PERIODIC_ENABLED | PERIODIC_DISABLED | RLV_IMMEDIATE
  deriving DecidableEq

inductive MrpAction where
  | NONE | NEW | JOIN | LV | SN | SJ | SJ_ | SL | S | S_ | SLA
  | PERIODIC | LEAVETIMER | LEAVEALLTIMER | PERIODICTIMER
  deriving DecidableEq

inductive AttributeEvent where
  | NEW | JOININ | IN | JOINMT | MT | LV | LVA
  deriving DecidableEq

inductive TimerState where
  | PASSIVE | ACTIVE
  deriving DecidableEq

def attributeToRxEvent : AttributeEvent → MrpEvent
  | .NEW => .RNEW
  | .JOININ => .RJOININ
  | .IN => .RIN
  | .JOINMT => .RJOINMT
  | .MT => .RMT
  | .LV => .RLV
  | .LVA => .RLA

/-- A soft timer. `granularity` is the period of the system timer it hangs on, and 0
for a timer with a system timer of its own (`TIMER_TYPE_SYS`). -/
structure Timer where
  created : Bool
  started : Bool
  ms : Int
  granularity : Nat
  deriving DecidableEq

def Timer.unset : Timer := ⟨false,false,0,0⟩

def timerInit (shared : Bool) (ms : Nat) : Timer :=
  ⟨true,false,0,if shared then min ms 100 else 0⟩

/-- The start is refused for a timer that is not created or already runs, and for 0 ms. -/
def timerStart (timer : Timer) (ms : Nat) : Timer :=
  if timer.created && !timer.started && ms != 0 then
    {timer with ms := ms + timer.granularity, started := true}
  else timer

def timerStop (timer : Timer) : Timer := {timer with started := false}

def timerRestart (timer : Timer) (ms : Nat) : Timer :=
  if timer.created then timerStart (timerStop timer) ms else timer

section
variable (timer : Timer)
include timer

@[simp] theorem timerStop_started : (timerStop timer).started = false := rfl

@[simp] theorem timerStop_created : (timerStop timer).created = timer.created := rfl

@[simp] theorem timerStart_created (ms : Nat) : (timerStart timer ms).created = timer.created := by
  unfold timerStart
  split <;> rfl

theorem timerStart_idle (ms : Nat) (created : timer.created = true)
    (idle : timer.started = false) (positive : 0 < ms) :
    timerStart timer ms = {timer with ms := ms + timer.granularity, started := true} := by
  have nonzero : ms ≠ 0 := by omega
  simp [timerStart,created,idle,nonzero]

end

/-- Attribute types index the arrays of `MRP_MAX_ATTR_TYPE` lists. -/
abbrev AttrType := Fin 5

instance attrType_types : NeZero 5 := ⟨by decide⟩

/-- Address of a heap block. A released address is never handed out again, so that a
stale pointer stays recognisable. -/
abbrev AttrId := Nat

structure MrpApplicant where
  state : ApplicantState
  action : MrpAction
  deriving DecidableEq

structure MrpRegistrar where
  state : RegistrarState
  action : MrpAction
  leave : Timer
  deriving DecidableEq

structure MrpAttribute (V : Type) where
  type : AttrType
  val : V
  applicant : MrpApplicant
  registrar : MrpRegistrar
  deriving DecidableEq

/-- What one `mrp_alloc_attribute` meets: no memory, no timer, or a block that still
holds the machine states of its former use (the block is not cleared). -/
inductive AllocOutcome where
  | noMemory
  | noTimer
  | ok (applicant : ApplicantState) (registrar : RegistrarState)
  deriving DecidableEq

/-- The indications of `mad_join_indication` (`new` set or not) and `mad_leave_indication`. -/
inductive Indication where
  | new | join | leave
  deriving DecidableEq

inductive FreeCause where
  | check | immediate | disable
  deriving DecidableEq

inductive Observation where
  | created (id : AttrId)
  | indication (kind : Indication) (id : AttrId) (before : RegistrarState)
  | leaveImmediate (id : AttrId)
  | leaving (id : AttrId)
  | leaveTick (id : AttrId) (ms : Nat)
  | leaveTimeout (id : AttrId) (state : RegistrarState)
  | released (cause : FreeCause) (id : AttrId) (applicant : ApplicantState)
      (registrar : RegistrarState)
  deriving DecidableEq

inductive TransmitCall (V : Type) where
  | action (type : AttrType) (attr : Option (V × AttributeEvent)) (leaveall : Bool)
  | finish (type : AttrType)
  deriving DecidableEq

structure MrpLeaveall where
  state : TimerState
  action : MrpAction
  timer : Timer
  deriving DecidableEq

structure MrpPeriodic where
  state : TimerState
  action : MrpAction
  timer : Timer
  deriving DecidableEq

/-- What an application is configured with once. The bounds are those the configuration
reader enforces on the leave timeout. -/
structure MrpConfig where
  full : Bool
  pointToPoint : Bool
  msrp : Bool
  minAttrType : Nat
  maxAttrType : Nat
  leaveTimeout : Nat
  leaveTimeout_bounds : 600 ≤ leaveTimeout ∧ leaveTimeout ≤ 7500
  deriving DecidableEq

def MrpConfig.ofMsrp (leaveTimeout : Nat) (bounds : 600 ≤ leaveTimeout ∧ leaveTimeout ≤ 7500) : MrpConfig :=
  ⟨true,true,true,1,4,leaveTimeout,bounds⟩

def MrpConfig.ofMvrp (leaveTimeout : Nat) (bounds : 600 ≤ leaveTimeout ∧ leaveTimeout ≤ 7500) : MrpConfig :=
  ⟨true,true,false,1,1,leaveTimeout,bounds⟩

theorem leaveTimeout_default : 600 ≤ 5000 ∧ 5000 ≤ 7500 := by decide

def MrpConfig.attrTypes (config : MrpConfig) : List AttrType :=
  (List.finRange 5).filter fun type => config.minAttrType ≤ type.val && type.val ≤ config.maxAttrType

/-- One MRP application. `heap` holds the live attributes; `attributes` and
`attributesOrdered` are the two chained lists of each attribute type. -/
structure MrpApplication (V : Type) where
  config : MrpConfig
  heap : AttrId → Option (MrpAttribute V)
  attributes : AttrType → List AttrId
  attributesOrdered : AttrType → List AttrId
  nextId : AttrId
  leaveall : MrpLeaveall
  periodic : MrpPeriodic
  join : Timer
  enabled : Bool
  transmit : List (TransmitCall V)
  observed : List Observation
  /-- Set when the code reads or writes an attribute that has been released. -/
  fault : Bool

end Genavb.Mrp

/-! The per-attribute state machines of `mrp.c`: the applicant (802.1Q Table 10-3), the
registrar (Table 10-4) with its leave timer, and what each event can do to them. -/
namespace Genavb.Mrp
open ApplicantState

/-- The event switch of `mrp_applicant_sm`, before the notes on the resulting state. -/
def applicantTransition (pointToPoint : Bool) (registrar : RegistrarState) (event : MrpEvent)
    (state : ApplicantState) : ApplicantState × MrpAction :=
  match event with
  | .BEGIN => (VO,.NONE)
  | .NEW =>
    match state with
    | VN | AN => (state,.NONE)
    | _ => (VN,.NONE)
  | .JOIN =>
    match state with
    | VO | LO => (VP,.NONE)
    | LA => (AA,.NONE)
    | AO => (AP,.NONE)
    | QO => (QP,.NONE)
    | _ => (state,.NONE)
  | .LV =>
    match state with
    | VP => (VO,.NONE)
    | VN | AN | AA | QA => (LA,.NONE)
    | AP => (AO,.NONE)
    | QP => (QO,.NONE)
    | _ => (state,.NONE)
  | .RNEW => (state,.NONE)
  | .RJOININ =>
    match state with
    | VO => (if !pointToPoint then AO else VO,.NONE)
    | VP => (if !pointToPoint then AP else VP,.NONE)
    | AA => (QA,.NONE)
    | AO => (QO,.NONE)
    | AP => (QP,.NONE)
    | _ => (state,.NONE)
  | .RIN =>
    match state with
    | AA => (QA,.NONE)
    | _ => (state,.NONE)
  | .RJOINMT | .RMT =>
    match state with
    | QA => (AA,.NONE)
    | QO => (AO,.NONE)
    | QP => (AP,.NONE)
    | LO => (VO,.NONE)
    | _ => (state,.NONE)
  | .RLV | .RLA | .REDECLARE =>
    match state with
    | VO => (LO,.NONE)
    | AN => (VN,.NONE)
    | AA | QA | AP | QP => (VP,.NONE)
    | AO | QO => (LO,.NONE)
    | _ => (state,.NONE)
  | .PERIODIC =>
    match state with
    | QA => (AA,.NONE)
    | QP => (AP,.NONE)
    | _ => (state,.NONE)
  | .TX =>
    match state with
    | VO => (VO,.S_)
    | VP => (AA,.SJ)
    | VN => (AN,.SN)
    | AN => (if registrar = .IN then QA else AA,.SN)
    | AP | AA => (QA,.SJ)
    | QA => (QA,.SJ_)
    | LA => (VO,.SL)
    | AO | QO | QP => (state,.S_)
    | LO => (VO,.S)
  | .TXLA =>
    match state with
    | VO => (LO,.S_)
    | VP => (AA,.S)
    | VN => (AN,.SN)
    | AN => (QA,.SN)
    | AA | AP | QP => (QA,.SJ)
    | QA => (QA,.SJ)
    | LA | AO | QO => (LO,.S_)
    | LO => (VO,.S_)
  | .TXLAF =>
    match state with
    | VO => (LO,.NONE)
    | VP | VN | LO => (state,.NONE)
    | AN => (VN,.NONE)
    | AA | QA | AP | QP => (VP,.NONE)
    | LA | AO | QO => (LO,.NONE)
  | _ => (state,.NONE)

/-- State and action `mrp_applicant_sm` leaves in the applicant: an applicant-only
participant has no state LO (Table 10-3, Note 1). -/
def applicantMachine (config : MrpConfig) (registrar : RegistrarState) (event : MrpEvent)
    (state : ApplicantState) : MrpApplicant :=
  let (next,action) := applicantTransition config.pointToPoint registrar event state
  if !config.full && next == LO then ⟨VO,action⟩ else ⟨next,action⟩

/-- Table 10-3, Note 6: the states whose entry asks for a transmission opportunity. -/
def requestsTransmit : ApplicantState → Bool
  | VN | AN | AA | LA | VP | AP | LO => true
  | _ => false

def actionToEvent (config : MrpConfig) (registrar : RegistrarState) : MrpAction → Option AttributeEvent
  | .SN => some .NEW
  | .SJ =>
    if config.full then
      if registrar = .IN then some .JOININ else some .JOINMT
    else some .JOINMT
  | .SL => some .LV
  | .S =>
    if config.full then
      if registrar = .IN then some .IN else some .MT
    else some .MT
  | _ => none

/-- The LEAVETIMER row of `mrp_registrar_sm`, also reached from RLV_IMMEDIATE with
`immediate` set. -/
def registrarLeaveTimer (immediate : Bool) (registrar : MrpRegistrar) : MrpRegistrar :=
  match registrar.state with
  | .LV => {registrar with state := .MT, action := if immediate then .NONE else .LV}
  | .MT => {registrar with state := .MT, action := .NONE}
  | .IN => {registrar with action := .NONE}

def registrarMachine (config : MrpConfig) (event : MrpEvent) (registrar : MrpRegistrar) : MrpRegistrar :=
  if !config.full then {registrar with action := .NONE} else
  match event with
  | .BEGIN => {registrar with state := .MT, action := .NONE}
  | .RNEW =>
    {registrar with
      state := .IN, action := .NEW,
      leave := if registrar.state = .LV then timerStop registrar.leave else registrar.leave}
  | .RJOININ | .RJOINMT =>
    {registrar with
      state := .IN,
      action := if registrar.state = .MT then .JOIN else .NONE,
      leave := if registrar.state = .LV then timerStop registrar.leave else registrar.leave}
  | .RLV =>
    -- IN goes to MT at once, the other states fall through to RLA
    if registrar.state = .IN then {registrar with state := .MT, action := .LV}
    else {registrar with action := .NONE}
  | .RLA | .TXLA | .REDECLARE =>
    if registrar.state = .IN then
      {registrar with state := .LV, action := .NONE, leave := timerStart registrar.leave config.leaveTimeout}
    else {registrar with action := .NONE}
  | .RLV_IMMEDIATE =>
    if registrar.state = .IN ∨ registrar.state = .LV then
      registrarLeaveTimer true {registrar with state := .LV}
    else {registrar with action := .NONE}
  | .FLUSH =>
    {registrar with state := .MT, action := if registrar.state = .LV then .LV else .NONE}
  | .LEAVETIMER => registrarLeaveTimer false registrar
  | _ => {registrar with action := .NONE}

inductive RegistrarChange (config : MrpConfig) (registrar : MrpRegistrar) : MrpRegistrar → Prop where
  | keep : RegistrarChange config registrar {registrar with action := .NONE}
  | register (action : MrpAction)
      (given : action = .NEW ∨ action = if registrar.state = .MT then .JOIN else .NONE) :
      RegistrarChange config registrar {
        state := .IN
        action := action
        leave := if registrar.state = .LV then timerStop registrar.leave else registrar.leave }
  | withdraw (registered : registrar.state = .IN) :
      RegistrarChange config registrar {registrar with state := .MT, action := .LV}
  | leaving (registered : registrar.state = .IN) :
      RegistrarChange config registrar
        {registrar with
          state := .LV, action := .NONE, leave := timerStart registrar.leave config.leaveTimeout}

variable {config : MrpConfig}

theorem registrarMachine_received (full : config.full = true) (event : AttributeEvent) (registrar : MrpRegistrar) :
    RegistrarChange config registrar (registrarMachine config (attributeToRxEvent event) registrar) := by
  cases event <;> simp only [attributeToRxEvent,registrarMachine,full]
  case NEW => exact .register .NEW (.inl rfl)
  case JOININ | JOINMT => exact .register _ (.inr rfl)
  case IN | MT => exact .keep
  case LV =>
    by_cases registered : registrar.state = .IN
    · simpa [registered] using RegistrarChange.withdraw registered
    · simpa [registered] using RegistrarChange.keep
  case LVA =>
    by_cases registered : registrar.state = .IN
    · simpa [registered] using RegistrarChange.leaving registered
    · simpa [registered] using RegistrarChange.keep

theorem registrarMachine_immediate (full : config.full = true) (registrar : MrpRegistrar) :
    registrarMachine config .RLV_IMMEDIATE registrar = {registrar with state := .MT, action := .NONE} := by
  cases state : registrar.state <;> simp [registrarMachine,registrarLeaveTimer,full,state]

def actionIndication : MrpAction → Option Indication
  | .NEW => some .new
  | .JOIN => some .join
  | .LV => some .leave
  | _ => none

/-- States from which `mrp_free_attribute_check` releases an attribute (Table 10-3, Note 11). -/
def observes : ApplicantState → Bool
  | VO | AO | QO => true
  | _ => false

def unused (config : MrpConfig) (attr : MrpAttribute V) : Bool :=
  observes attr.applicant.state && (!config.full || attr.registrar.state == .MT)

theorem applicantMachine_leave_kept (full : config.full = true)
    (registrar : RegistrarState) (state : ApplicantState) :
    observes (applicantMachine config registrar .RLV state).state = false := by
  cases state <;> simp [applicantMachine,applicantTransition,observes,full]

theorem applicantMachine_leaveall_kept (full : config.full = true)
    (registrar : RegistrarState) (state : ApplicantState) :
    observes (applicantMachine config registrar .RLA state).state = false := by
  cases state <;> simp [applicantMachine,applicantTransition,observes,full]

end Genavb.Mrp
