import Genavb.Avdecc.Adp
import Genavb.Support.Run

/-! The advertise machines of an IEEE entity and of its interfaces (`adp_ieee.c`), which call each other. -/
namespace Genavb.Avdecc
open Option
open Function (update update_eq_self update_idem update_of_ne update_self)

inductive AdvertiseEntityState where
  | notStarted
  | waiting
  | advertise
  | delay
  deriving DecidableEq

inductive AdvertiseEntityEvent where
  | begin
  | advertise
  | reannounceTimeout
  | delayTimeout
  | terminate
  | run

inductive AdvertiseInterfaceState where
  | notStarted
  | waiting
  | advertise
  | departing
  | receivedDiscover
  | updateGm
  | linkDown
  deriving DecidableEq

inductive AdvertiseInterfaceEvent where
  | begin
  | advertise
  | rcvDiscover
  | gmChange
  | linkUp
  | linkDown
  | terminate
  | run

structure AdvertiseInterface where
  operationalState : Bool
  gptpGrandmasterId : UInt64
  advertiseState : AdvertiseInterfaceState
  deriving DecidableEq

structure AdvertiseSent where
  msgType : AdpMessageType
  portId : Nat
  pdu : AdpHdr
  deriving DecidableEq

/-- An entity with what it has sent. The code does not keep `silent`, the increments of the available index since the
last ENTITY_AVAILABLE. -/
structure AdvertiseCtx where
  byteOrder : ByteOrder
  desc : EntityDescriptor
  ready : Bool
  state : AdvertiseEntityState
  reannounceTimer : Bool
  delayTimer : Bool
  numInterfaces : Nat
  interfaces : Nat → AdvertiseInterface
  sent : List AdvertiseSent
  silent : Nat

namespace AdvertiseCtx

def enter (state : AdvertiseEntityState) (ctx : AdvertiseCtx) : AdvertiseCtx := {ctx with state := state}

def setIndex (availableIndex : UInt32) (ctx : AdvertiseCtx) : AdvertiseCtx :=
  {ctx with desc := {ctx.desc with availableIndex := availableIndex}}

def setDelay (runs : Bool) (ctx : AdvertiseCtx) : AdvertiseCtx := {ctx with delayTimer := runs}

def setReannounce (runs : Bool) (ctx : AdvertiseCtx) : AdvertiseCtx := {ctx with reannounceTimer := runs}

def count (ctx : AdvertiseCtx) : AdvertiseCtx :=
  {ctx.setIndex (ctx.desc.availableIndex + 1) with silent := ctx.silent + 1}

def advertiseState (portId : Nat) (ctx : AdvertiseCtx) :
    AdvertiseInterfaceState := (ctx.interfaces portId).advertiseState

def setInterface (portId : Nat) (state : AdvertiseInterfaceState) (ctx : AdvertiseCtx) : AdvertiseCtx :=
  {ctx with interfaces := update ctx.interfaces portId {ctx.interfaces portId with advertiseState := state}}

def sendPacket (msgType : AdpMessageType) (portId : Nat) (ctx : AdvertiseCtx) : AdvertiseCtx :=
  {ctx with
    sent := ctx.sent ++ [⟨msgType,portId,
      advertisePdu ctx.byteOrder ctx.desc (ctx.interfaces portId).gptpGrandmasterId (.ofNat portId)⟩]
    silent := if msgType = .entityAvailable then 0 else ctx.silent}

/-- The switch of `adp_ieee_advertise_entity_sm`, where `interfaces` gives an event to all interfaces. -/
def entitySwitch (interfaces : AdvertiseInterfaceEvent → AdvertiseCtx → Option AdvertiseCtx)
    (event : AdvertiseEntityEvent) (state : AdvertiseEntityState) (ctx : AdvertiseCtx) : Option AdvertiseCtx :=
  match state,event with
  | .notStarted,.begin => (interfaces .begin (ctx.setIndex 0)).map fun begun => (begun.setDelay true).enter .delay
  | .delay,.delayTimeout => some (ctx.enter .advertise)
  | .delay,.terminate => some ((ctx.setDelay false).enter .notStarted)
  | .advertise,_ => (interfaces .advertise ctx).map fun advertised => (advertised.setReannounce true).enter .waiting
  | .waiting,.terminate => (interfaces .terminate ((ctx.setReannounce false).setIndex 0)).map (·.enter .notStarted)
  | .waiting,.advertise => some (((ctx.setReannounce false).count.setDelay true).enter .delay)
  | .waiting,.reannounceTimeout => some ((ctx.count.setDelay true).enter .delay)
  | _,_ => some ctx

/-- The switch of `adp_ieee_advertise_interface_sm`, where `entity` tells the entity to advertise. -/
def interfaceSwitch (entity : AdvertiseCtx → Option AdvertiseCtx) (portId : Nat) (event : AdvertiseInterfaceEvent)
    (state : AdvertiseInterfaceState) (ctx : AdvertiseCtx) : Option AdvertiseCtx :=
  match state with
  | .notStarted =>
    match event with
    | .begin =>
      some (ctx.setInterface portId (if !(ctx.interfaces portId).operationalState then .linkDown else .waiting))
    | _ => some ctx
  | .waiting =>
    match event with
    | .terminate => some (ctx.setInterface portId .departing)
    | .advertise => some (ctx.setInterface portId .advertise)
    | .rcvDiscover => some (ctx.setInterface portId .receivedDiscover)
    | .gmChange => some (ctx.setInterface portId .updateGm)
    | .linkDown => some (ctx.setInterface portId .linkDown)
    | _ => some ctx
  | .departing => some ((ctx.sendPacket .entityDeparting portId).setInterface portId .notStarted)
  | .advertise => some ((ctx.sendPacket .entityAvailable portId).setInterface portId .waiting)
  | .receivedDiscover | .updateGm => (entity ctx).map (·.setInterface portId .waiting)
  | .linkDown =>
    match event with
    | .linkUp => (entity ctx).map (·.setInterface portId .waiting)
    | _ => some ctx

inductive Call where
  | entity (event : AdvertiseEntityEvent)
  | interface (portId : Nat) (event : AdvertiseInterfaceEvent)

/-- `adp_ieee_advertise_entity_sm` and `adp_ieee_advertise_interface_sm`, which call each other, or `none` if the calls
are nested deeper than `fuel`. A change of the state runs the switch again. -/
def advertiseSm : Nat → Call → AdvertiseCtx → Option AdvertiseCtx
  | 0,_,_ => none
  | fuel + 1,.entity event,ctx =>
    (ctx.entitySwitch (fun told before => (List.range before.numInterfaces).foldlM
      (fun next portNum => advertiseSm fuel (.interface portNum told) next) before) event ctx.state).bind fun next =>
        if next.state ≠ ctx.state then advertiseSm fuel (.entity .run) next else some next
  | fuel + 1,.interface portId event,ctx =>
    if ctx.numInterfaces ≤ portId then some ctx
    else
      (ctx.interfaceSwitch (advertiseSm fuel (.entity .advertise)) portId event (ctx.advertiseState portId)).bind fun next =>
        if next.advertiseState portId ≠ ctx.advertiseState portId then advertiseSm fuel (.interface portId .run) next
        else some next

def entitySm (fuel : Nat) (event : AdvertiseEntityEvent) (ctx : AdvertiseCtx) : Option AdvertiseCtx :=
  advertiseSm fuel (.entity event) ctx

def interfaceSm (fuel portId : Nat) (event : AdvertiseInterfaceEvent) (ctx : AdvertiseCtx) : Option AdvertiseCtx :=
  advertiseSm fuel (.interface portId event) ctx

/-- What reaches the machines: a channel of the entity opens (`avdecc_local_entity_updated`), the entity exits, the
state of a link or the grandmaster of an interface is reported, an ENTITY_DISCOVER is received, a timer expires. -/
inductive AdvertiseInput where
  | updated (ready : Bool)
  | terminate
  | macServiceStatus (portId : Nat) (operational : Bool)
  | gmStatus (portId : Nat) (gmId : UInt64)
  | rcvDiscover (portId : Nat)
  | reannounceTimeout
  | delayTimeout

def entityEvent (fuel : Nat) (event : AdvertiseEntityEvent) (ctx : AdvertiseCtx) : Option AdvertiseCtx :=
  if ctx.ready then ctx.entitySm fuel event else some ctx

def interfaceEvent (fuel portId : Nat) (event : AdvertiseInterfaceEvent) (ctx : AdvertiseCtx) : Option AdvertiseCtx :=
  if ctx.ready then ctx.interfaceSm fuel portId event else some ctx

def saveLink (portId : Nat) (operational : Bool) (ctx : AdvertiseCtx) : AdvertiseCtx :=
  {ctx with
    interfaces := update ctx.interfaces portId {ctx.interfaces portId with operationalState := operational}}

def saveGm (portId : Nat) (gmId : UInt64) (ctx : AdvertiseCtx) : AdvertiseCtx :=
  {ctx with interfaces := update ctx.interfaces portId {ctx.interfaces portId with gptpGrandmasterId := gmId}}

/-- The handlers of the inputs, with calls of the machines that are nested no deeper than `fuel`. -/
def handle (fuel : Nat) (input : AdvertiseInput) (ctx : AdvertiseCtx) : Option AdvertiseCtx :=
  match input with
  | .updated ready => {ctx with ready := ctx.ready || ready}.entityEvent fuel .begin
  | .terminate => ctx.entityEvent fuel .terminate
  | .macServiceStatus portId operational =>
    if ctx.numInterfaces ≤ portId then some ctx
    else do
      let before := (ctx.interfaces portId).operationalState
      let next ←
        if !before && operational then ctx.interfaceEvent fuel portId .linkUp
        else if before && !operational then ctx.interfaceEvent fuel portId .linkDown
        else some ctx
      some (next.saveLink portId operational)
  | .gmStatus portId gmId =>
    if ctx.numInterfaces ≤ portId ∨ (ctx.interfaces portId).gptpGrandmasterId = gmId then some ctx
    else do
      let updated ← (ctx.saveGm portId gmId).entityEvent fuel .begin
      updated.interfaceEvent fuel portId .gmChange
  | .rcvDiscover portId => if ctx.numInterfaces ≤ portId then some ctx else ctx.interfaceEvent fuel portId .rcvDiscover
  | .reannounceTimeout =>
    if ctx.reannounceTimer then (ctx.setReannounce false).entityEvent fuel .reannounceTimeout else some ctx
  | .delayTimeout => if ctx.delayTimer then (ctx.setDelay false).entityEvent fuel .delayTimeout else some ctx

def init (byteOrder : ByteOrder) (desc : EntityDescriptor) (numInterfaces : Nat) (operationalState : Nat → Bool)
    (gptpGrandmasterId : Nat → UInt64) : AdvertiseCtx where
  byteOrder := byteOrder
  desc := desc
  ready := false
  state := .notStarted
  reannounceTimer := false
  delayTimer := false
  numInterfaces := numInterfaces
  interfaces := fun portId => ⟨operationalState portId,gptpGrandmasterId portId,.notStarted⟩
  sent := []
  silent := 0

def Rests (state : AdvertiseInterfaceState) : Prop := state = .notStarted ∨ state = .waiting ∨ state = .linkDown

structure Calm (ctx : AdvertiseCtx) : Prop where
  entity : ctx.state ≠ .advertise
  interfaces : ∀ portId, Rests (ctx.advertiseState portId)

def rearm (ctx : AdvertiseCtx) : AdvertiseCtx :=
  if ctx.state = .waiting then ((ctx.setReannounce false).count.setDelay true).enter .delay else ctx

def Active (portId : Nat) (ctx : AdvertiseCtx) : Prop :=
  portId < ctx.numInterfaces ∧ ctx.advertiseState portId = .waiting

def beginOn (portId : Nat) (ctx : AdvertiseCtx) : AdvertiseCtx :=
  if portId < ctx.numInterfaces ∧ ctx.advertiseState portId = .notStarted then
    ctx.setInterface portId (if (ctx.interfaces portId).operationalState then .waiting else .linkDown)
  else ctx

def advertiseOn (portId : Nat) (ctx : AdvertiseCtx) : AdvertiseCtx :=
  if portId < ctx.numInterfaces ∧ ctx.advertiseState portId = .waiting then ctx.sendPacket .entityAvailable portId else ctx

def departOn (portId : Nat) (ctx : AdvertiseCtx) : AdvertiseCtx :=
  if portId < ctx.numInterfaces ∧ ctx.advertiseState portId = .waiting then
    (ctx.sendPacket .entityDeparting portId).setInterface portId .notStarted
  else ctx

section Interfaces
variable {ctx : AdvertiseCtx} {portId other : Nat} {fuel : Nat} {state : AdvertiseInterfaceState}

private theorem advertiseState_set : (ctx.setInterface portId state).advertiseState portId = state := by
  unfold advertiseState setInterface
  dsimp only
  rw [update_self]

theorem advertiseState_set_ne (apart : other ≠ portId) :
    (ctx.setInterface portId state).advertiseState other = ctx.advertiseState other := by
  unfold advertiseState setInterface
  dsimp only
  rw [update_of_ne apart]

private theorem setInterface_set (second : AdvertiseInterfaceState) :
    (ctx.setInterface portId state).setInterface portId second = ctx.setInterface portId second := by
  unfold setInterface
  dsimp only
  rw [update_idem,update_self]

theorem enter_state (state : AdvertiseEntityState) : (ctx.enter state).state = state := rfl

private theorem setInterface_self (same : ctx.advertiseState portId = state) : ctx.setInterface portId state = ctx := by
  unfold setInterface
  rw [← same]
  unfold advertiseState
  rw [update_eq_self]

private theorem sendPacket_set (msgType : AdpMessageType) : ((ctx.setInterface portId state).sendPacket msgType portId) =
    (ctx.sendPacket msgType portId).setInterface portId state := by
  unfold sendPacket setInterface
  dsimp only
  rw [update_self]

variable {event : AdvertiseInterfaceEvent}

private theorem interfaceSm_stays (idle : portId < ctx.numInterfaces →
    ctx.interfaceSwitch (entitySm fuel .advertise) portId event (ctx.advertiseState portId) = some ctx) :
    ctx.interfaceSm (fuel + 1) portId event = some ctx := by
  show (if ctx.numInterfaces ≤ portId then some ctx else Option.bind (interfaceSwitch ..) _) = _
  split
  · rfl
  next inside =>
    have same := idle (Nat.not_le.mp inside)
    unfold entitySm at same
    rw [same,bind_some]
    exact if_neg (not_not_intro rfl)

variable {next : AdvertiseCtx}

private theorem interfaceSm_moves (inside : portId < ctx.numInterfaces)
    (moves : ctx.interfaceSwitch (entitySm fuel .advertise) portId event (ctx.advertiseState portId) = some next)
    (other : next.advertiseState portId ≠ ctx.advertiseState portId) :
    ctx.interfaceSm (fuel + 1) portId event = next.interfaceSm fuel portId .run := by
  show (if ctx.numInterfaces ≤ portId then some ctx else Option.bind (interfaceSwitch ..) _) = _
  unfold entitySm at moves
  rw [if_neg (Nat.not_le.mpr inside),moves,bind_some]
  exact if_pos other

private theorem interfaceSm_run (rests : Rests (ctx.advertiseState portId)) :
    ctx.interfaceSm (fuel + 1) portId .run = some ctx := by
  refine interfaceSm_stays fun _ => ?_
  rcases rests with state | state | state
  all_goals rw [state]; rfl

theorem interfaceSm_begin (rests : Rests (ctx.advertiseState portId)) :
    ctx.interfaceSm (fuel + 2) portId .begin = some (ctx.beginOn portId) := by
  unfold beginOn
  split
  next both =>
    have begins : ctx.interfaceSwitch (entitySm (fuel + 1) .advertise) portId .begin (ctx.advertiseState portId) =
        some (ctx.setInterface portId (if (ctx.interfaces portId).operationalState then .waiting else .linkDown)) := by
      rw [both.2]
      unfold interfaceSwitch
      cases (ctx.interfaces portId).operationalState with
      | true | false => rfl
    rw [interfaceSm_moves both.1 begins]
    · refine interfaceSm_run ?_
      rw [advertiseState_set]
      split
      · exact .inr (.inl rfl)
      · exact .inr (.inr rfl)
    · rw [advertiseState_set,both.2]
      split
      · decide
      · decide
  next other =>
    refine interfaceSm_stays fun inside => ?_
    rcases rests with state | state | state
    · exact absurd ⟨inside,state⟩ other
    all_goals rw [state]; rfl

/-- The state that an interface which waits goes to first. -/
def leaves : AdvertiseInterfaceEvent → Option AdvertiseInterfaceState
  | .terminate => some .departing
  | .advertise => some .advertise
  | .rcvDiscover => some .receivedDiscover
  | .gmChange => some .updateGm
  | .linkDown => some .linkDown
  | _ => none

section
variable (rests : Rests (ctx.advertiseState portId))
include rests

theorem interfaceSwitch_rests {entity : AdvertiseCtx → Option AdvertiseCtx} {event : AdvertiseInterfaceEvent}
(to' : leaves event = some state) :
    ctx.interfaceSwitch entity portId event (ctx.advertiseState portId) =
      some (if ctx.advertiseState portId = .waiting then ctx.setInterface portId state else ctx) := by
  cases event with
  | begin | linkUp | run => cases to'
  | terminate | advertise | rcvDiscover | gmChange | linkDown =>
    obtain rfl := Option.some.inj to'
    rcases rests with state | state | state
    all_goals rw [state]; rfl

private theorem interfaceSm_waiting (to' : leaves event = some state)
    (ends : portId < ctx.numInterfaces → ctx.advertiseState portId = .waiting →
      (ctx.setInterface portId state).interfaceSm (fuel + 1) portId .run = some next) :
    ctx.interfaceSm (fuel + 2) portId event =
      some (if portId < ctx.numInterfaces ∧ ctx.advertiseState portId = .waiting then next else ctx) := by
  have switch := @interfaceSwitch_rests ctx portId state rests (entitySm (fuel + 1) .advertise) event to'
  split
  next both =>
    rw [if_pos both.2] at switch
    rw [interfaceSm_moves both.1 switch]
    · exact ends both.1 both.2
    · rw [advertiseState_set,both.2]
      rintro rfl
      cases event <;> cases to'
  next other =>
    refine interfaceSm_stays fun inside => switch.trans ?_
    rw [if_neg fun waits => other ⟨inside,waits⟩]

theorem interfaceSm_advertise :
    ctx.interfaceSm (fuel + 3) portId .advertise = some (ctx.advertiseOn portId) := by
  refine interfaceSm_waiting rests rfl fun inside waits => ?_
  have again : (ctx.sendPacket .entityAvailable portId).advertiseState portId = .waiting := waits
  have sends : (ctx.setInterface portId .advertise).interfaceSwitch (entitySm (fuel + 1) .advertise) portId .run
      ((ctx.setInterface portId .advertise).advertiseState portId) = some (ctx.sendPacket .entityAvailable portId) := by
    rw [advertiseState_set]
    show some (((ctx.setInterface portId .advertise).sendPacket _ portId).setInterface portId .waiting) = _
    rw [sendPacket_set,setInterface_set,setInterface_self again]
  have ends : (ctx.sendPacket .entityAvailable portId).advertiseState portId ≠
      (ctx.setInterface portId .advertise).advertiseState portId := by
    rw [again,advertiseState_set]
    decide
  have moved : portId < (ctx.setInterface portId .advertise).numInterfaces := inside
  exact (interfaceSm_moves moved sends ends).trans (interfaceSm_run (.inr (.inl again)))

theorem interfaceSm_terminate :
    ctx.interfaceSm (fuel + 3) portId .terminate = some (ctx.departOn portId) := by
  refine interfaceSm_waiting rests rfl fun inside _ => ?_
  have sends : (ctx.setInterface portId .departing).interfaceSwitch (entitySm (fuel + 1) .advertise) portId .run
      ((ctx.setInterface portId .departing).advertiseState portId) =
        some ((ctx.sendPacket .entityDeparting portId).setInterface portId .notStarted) := by
    rw [advertiseState_set]
    show some (((ctx.setInterface portId .departing).sendPacket _ portId).setInterface portId .notStarted) = _
    rw [sendPacket_set,setInterface_set]
  have ends : ((ctx.sendPacket .entityDeparting portId).setInterface portId .notStarted).advertiseState portId ≠
      (ctx.setInterface portId .departing).advertiseState portId := by
    rw [advertiseState_set,advertiseState_set]
    decide
  have moved : portId < (ctx.setInterface portId .departing).numInterfaces := inside
  exact (interfaceSm_moves moved sends ends).trans (interfaceSm_run (.inl advertiseState_set))

theorem interfaceSm_linkDown :
    ctx.interfaceSm (fuel + 2) portId .linkDown =
      some (if portId < ctx.numInterfaces ∧ ctx.advertiseState portId = .waiting then ctx.setInterface portId .linkDown
        else ctx) :=
  interfaceSm_waiting rests rfl fun _ _ => interfaceSm_run (.inr (.inr advertiseState_set))

end

private theorem entitySm_stays {event : AdvertiseEntityEvent} (idle : ctx.entitySwitch (fun told before =>
    (List.range before.numInterfaces).foldlM (fun next portNum => interfaceSm fuel portNum told next) before) event
      ctx.state = some ctx) : ctx.entitySm (fuel + 1) event = some ctx := by
  show Option.bind (entitySwitch ..) _ = _
  unfold interfaceSm at idle
  rw [idle,bind_some]
  exact if_neg (not_not_intro rfl)

private theorem entitySm_moves {event : AdvertiseEntityEvent} (moves : ctx.entitySwitch (fun told before =>
    (List.range before.numInterfaces).foldlM (fun next portNum => interfaceSm fuel portNum told next) before) event
      ctx.state = some next) (other : next.state ≠ ctx.state) :
    ctx.entitySm (fuel + 1) event = next.entitySm fuel .run := by
  show Option.bind (entitySwitch ..) _ = _
  unfold interfaceSm at moves
  rw [moves,bind_some]
  exact if_pos other

theorem entitySm_run (calm : ctx.state ≠ .advertise) : ctx.entitySm (fuel + 1) .run = some ctx := by
  refine entitySm_stays ?_
  cases state : ctx.state with
  | notStarted | waiting | delay => rfl
  | advertise => exact absurd state calm

private theorem entitySm_settles {event : AdvertiseEntityEvent} (moves : ctx.entitySwitch
    (fun told before => (List.range before.numInterfaces).foldlM
      (fun next portNum => interfaceSm (fuel + 1) portNum told next) before) event ctx.state = some next)
    (other : next.state ≠ ctx.state) (calm : next.state ≠ .advertise) : ctx.entitySm (fuel + 2) event = some next :=
  (entitySm_moves moves other).trans (entitySm_run calm)

private theorem entitySm_advertise (calm : ctx.state ≠ .advertise) : ctx.entitySm (fuel + 2) .advertise = some ctx.rearm := by
  unfold rearm
  split
  next waits =>
    refine entitySm_settles (by rw [waits]; rfl) ?_ (by rw [enter_state]; decide)
    rw [waits,enter_state]
    decide
  next other =>
    refine entitySm_stays ?_
    cases state : ctx.state with
    | notStarted | delay => rfl
    | waiting => exact absurd state other
    | advertise => exact absurd state calm

theorem rearm_set : (ctx.setInterface portId state).rearm = ctx.rearm.setInterface portId state := by
  unfold rearm
  change (if ctx.state = .waiting then _ else _) = _
  split
  · rfl
  · rfl

private theorem rearm_advertiseState : ctx.rearm.advertiseState portId = ctx.advertiseState portId := by
  unfold rearm
  split
  · rfl
  · rfl

private theorem interfaceSm_signal (calm : ctx.Calm) (signals : event = .rcvDiscover ∨ event = .gmChange) :
    ctx.interfaceSm (fuel + 4) portId event =
      some (if portId < ctx.numInterfaces ∧ ctx.advertiseState portId = .waiting then ctx.rearm else ctx) := by
  have told {state : AdvertiseInterfaceState} (signalling : state = .receivedDiscover ∨ state = .updateGm)
      (inside : portId < ctx.numInterfaces) (waits : ctx.advertiseState portId = .waiting) :
      (ctx.setInterface portId state).interfaceSm (fuel + 3) portId .run = some ctx.rearm := by
    have active : ctx.rearm.advertiseState portId = .waiting := rearm_advertiseState.trans waits
    have tells : ((ctx.setInterface portId state).entitySm (fuel + 2) .advertise).map (·.setInterface portId .waiting) =
        some ctx.rearm := by
      rw [@entitySm_advertise (ctx.setInterface portId state) fuel calm.entity,rearm_set,map_some,setInterface_set,
        setInterface_self active]
    have ends : ctx.rearm.advertiseState portId ≠ (ctx.setInterface portId state).advertiseState portId := by
      rw [active,advertiseState_set]
      rcases signalling with rfl | rfl
      · decide
      · decide
    have moved : portId < (ctx.setInterface portId state).numInterfaces := inside
    refine (interfaceSm_moves moved ?_ ends).trans (interfaceSm_run (.inr (.inl active)))
    rw [advertiseState_set]
    rcases signalling with rfl | rfl
    · exact tells
    · exact tells
  rcases signals with rfl | rfl
  · exact interfaceSm_waiting (calm.interfaces portId) rfl (told (.inl rfl))
  · exact interfaceSm_waiting (calm.interfaces portId) rfl (told (.inr rfl))

theorem interfaceSm_linkUp (calm : ctx.Calm) : ctx.interfaceSm (fuel + 3) portId .linkUp =
    some (if portId < ctx.numInterfaces ∧ ctx.advertiseState portId = .linkDown then
      ctx.rearm.setInterface portId .waiting else ctx) := by
  split
  next both =>
    have tells : (ctx.entitySm (fuel + 2) .advertise).map (·.setInterface portId .waiting) =
        some (ctx.rearm.setInterface portId .waiting) := by
      rw [entitySm_advertise calm.entity]
      rfl
    rw [interfaceSm_moves both.1 (by rw [both.2]; exact tells) (by rw [advertiseState_set,both.2]; decide)]
    exact interfaceSm_run (.inr (.inl advertiseState_set))
  next other =>
    refine interfaceSm_stays fun inside => ?_
    rcases calm.interfaces portId with state | state | state
    · rw [state]
      rfl
    · rw [state]
      rfl
    · exact absurd ⟨inside,state⟩ other

section
variable (rests : Rests (ctx.advertiseState other))
include rests

private theorem setInterface_rests (next : Rests state) : Rests ((ctx.setInterface portId state).advertiseState other) := by
  by_cases here : other = portId
  · subst here
    rw [advertiseState_set]
    exact next
  · rw [advertiseState_set_ne here]
    exact rests

private theorem beginOn_rests : Rests ((ctx.beginOn portId).advertiseState other) := by
  unfold beginOn
  split
  · refine setInterface_rests rests ?_
    split
    · exact .inr (.inl rfl)
    · exact .inr (.inr rfl)
  · exact rests

private theorem advertiseOn_rests : Rests ((ctx.advertiseOn portId).advertiseState other) := by
  unfold advertiseOn
  split
  · exact rests
  · exact rests

private theorem departOn_rests : Rests ((ctx.departOn portId).advertiseState other) := by
  unfold departOn
  split
  · refine setInterface_rests ?_ (.inl rfl)
    exact rests
  · exact rests

end

def onEach (effect : Nat → AdvertiseCtx → AdvertiseCtx) (ports : List Nat) (ctx : AdvertiseCtx) : AdvertiseCtx :=
  ports.foldl (fun next portNum => effect portNum next) ctx

variable {effect : Nat → AdvertiseCtx → AdvertiseCtx} {event : AdvertiseInterfaceEvent}

private theorem onEach_rests
    (kept : ∀ portId other ctx, Rests (advertiseState other ctx) → Rests ((effect portId ctx).advertiseState other))
    (rests : ∀ portId, Rests (ctx.advertiseState portId)) (ports : List Nat) :
    Rests ((ctx.onEach effect ports).advertiseState portId) := by
  induction ports generalizing ctx with
  | nil => exact rests portId
  | cons first rest ih => exact ih fun other => kept first other ctx (rests other)

def onAll (effect : Nat → AdvertiseCtx → AdvertiseCtx) (ctx : AdvertiseCtx) : AdvertiseCtx :=
  ctx.onEach effect (List.range ctx.numInterfaces)

private theorem foldlM_all
    (each : ∀ portId ctx, Rests (advertiseState portId ctx) → ctx.interfaceSm fuel portId event = some (effect portId ctx))
    (kept : ∀ portId other ctx, Rests (advertiseState other ctx) → Rests ((effect portId ctx).advertiseState other))
    (rests : ∀ portId, Rests (ctx.advertiseState portId)) :
    (List.range ctx.numInterfaces).foldlM (fun next portNum => interfaceSm fuel portNum event next) ctx =
      some (ctx.onAll effect) := by
  unfold onAll
  generalize List.range ctx.numInterfaces = ports
  induction ports generalizing ctx with
  | nil => rfl
  | cons first rest ih =>
    rw [List.foldlM_cons,each first ctx (rests first)]
    exact ih fun other => kept first other ctx (rests other)

end Interfaces

section Entity
variable {ctx : AdvertiseCtx} {portId fuel : Nat}

def begun (ctx : AdvertiseCtx) : AdvertiseCtx :=
  if ctx.state = .notStarted then (((ctx.setIndex 0).onAll beginOn).setDelay true).enter .delay else ctx

def advertised (ctx : AdvertiseCtx) : AdvertiseCtx :=
  if ctx.state = .delay then (((ctx.enter .advertise).onAll advertiseOn).setReannounce true).enter .waiting else ctx

def terminated (ctx : AdvertiseCtx) : AdvertiseCtx :=
  if ctx.state = .delay then (ctx.setDelay false).enter .notStarted
  else if ctx.state = .waiting then (((ctx.setReannounce false).setIndex 0).onAll departOn).enter .notStarted
  else ctx

def reannounced (ctx : AdvertiseCtx) : AdvertiseCtx :=
  if ctx.state = .waiting then (ctx.count.setDelay true).enter .delay else ctx

private theorem entitySm_begin (calm : ctx.Calm) : ctx.entitySm (fuel + 3) .begin = some ctx.begun := by
  have loop := @foldlM_all (ctx.setIndex 0) (fuel + 2) beginOn .begin (fun _ _ => interfaceSm_begin)
    (fun _ _ _ => beginOn_rests) calm.interfaces
  unfold begun
  split
  next idle =>
    refine entitySm_settles ?_ (by rw [idle,enter_state]; decide) (by rw [enter_state]; decide)
    rw [idle]
    exact congrArg (Option.map _) loop
  next other =>
    refine entitySm_stays ?_
    cases state : ctx.state with
    | notStarted => exact absurd state other
    | waiting | delay => rfl
    | advertise => exact absurd state calm.entity

theorem entitySm_advertising {event : AdvertiseEntityEvent} (state : ctx.state = .advertise)
    (rests : ∀ portId, Rests (ctx.advertiseState portId)) :
    ctx.entitySm (fuel + 4) event = some (((ctx.onAll advertiseOn).setReannounce true).enter .waiting) := by
  have loop := @foldlM_all ctx (fuel + 3) advertiseOn .advertise (fun _ _ => interfaceSm_advertise)
    (fun _ _ _ => advertiseOn_rests) rests
  refine entitySm_settles ?_ (by rw [state,enter_state]; decide) (by rw [enter_state]; decide)
  rw [state]
  exact congrArg (Option.map _) loop

theorem entitySm_delayTimeout (calm : ctx.Calm) : ctx.entitySm (fuel + 5) .delayTimeout = some ctx.advertised := by
  unfold advertised
  split
  next delayed =>
    refine (entitySm_moves (by rw [delayed]; rfl) (by rw [delayed,enter_state]; decide)).trans ?_
    exact entitySm_advertising rfl calm.interfaces
  next other =>
    refine entitySm_stays ?_
    cases state : ctx.state with
    | notStarted | waiting => rfl
    | advertise => exact absurd state calm.entity
    | delay => exact absurd state other

theorem entitySm_terminate (calm : ctx.Calm) : ctx.entitySm (fuel + 4) .terminate = some ctx.terminated := by
  have loop := @foldlM_all ((ctx.setReannounce false).setIndex 0) (fuel + 3) departOn .terminate
    (fun _ _ => interfaceSm_terminate) (fun _ _ _ => departOn_rests) calm.interfaces
  unfold terminated
  split
  next delayed =>
    exact entitySm_settles (by rw [delayed]; rfl) (by rw [delayed,enter_state]; decide) (by rw [enter_state]; decide)
  next undelayed =>
    split
    next waits =>
      refine entitySm_settles ?_ (by rw [waits,enter_state]; decide) (by rw [enter_state]; decide)
      rw [waits]
      exact congrArg (Option.map _) loop
    next other =>
      refine entitySm_stays ?_
      cases state : ctx.state with
      | notStarted => rfl
      | waiting => exact absurd state other
      | advertise => exact absurd state calm.entity
      | delay => exact absurd state undelayed

theorem entitySm_reannounceTimeout (calm : ctx.Calm) :
    ctx.entitySm (fuel + 2) .reannounceTimeout = some ctx.reannounced := by
  unfold reannounced
  split
  next waits =>
    exact entitySm_settles (by rw [waits]; rfl) (by rw [waits,enter_state]; decide) (by rw [enter_state]; decide)
  next other =>
    refine entitySm_stays ?_
    cases state : ctx.state with
    | notStarted | delay => rfl
    | waiting => exact absurd state other
    | advertise => exact absurd state calm.entity

end Entity

section Handlers
variable {ctx : AdvertiseCtx} {portId fuel : Nat} {input : AdvertiseInput}

def signalled (portId : Nat) (ctx : AdvertiseCtx) : AdvertiseCtx :=
  if portId < ctx.numInterfaces ∧ ctx.advertiseState portId = .waiting then ctx.rearm else ctx

def linkedUp (portId : Nat) (ctx : AdvertiseCtx) : AdvertiseCtx :=
  if portId < ctx.numInterfaces ∧ ctx.advertiseState portId = .linkDown then ctx.rearm.setInterface portId .waiting else ctx

def linkedDown (portId : Nat) (ctx : AdvertiseCtx) : AdvertiseCtx :=
  if portId < ctx.numInterfaces ∧ ctx.advertiseState portId = .waiting then ctx.setInterface portId .linkDown else ctx

def whenReady (change : AdvertiseCtx → AdvertiseCtx) (ctx : AdvertiseCtx) : AdvertiseCtx :=
  if ctx.ready then change ctx else ctx

def effect (input : AdvertiseInput) (ctx : AdvertiseCtx) : AdvertiseCtx :=
  match input with
  | .updated ready => {ctx with ready := ctx.ready || ready}.whenReady begun
  | .terminate => ctx.whenReady terminated
  | .macServiceStatus portId operational =>
    if ctx.numInterfaces ≤ portId then ctx
    else
      let before := (ctx.interfaces portId).operationalState
      (if !before && operational then ctx.whenReady (linkedUp portId)
      else if before && !operational then ctx.whenReady (linkedDown portId)
      else ctx).saveLink portId operational
  | .gmStatus portId gmId =>
    if ctx.numInterfaces ≤ portId ∨ (ctx.interfaces portId).gptpGrandmasterId = gmId then ctx
    else ((ctx.saveGm portId gmId).whenReady begun).whenReady (signalled portId)
  | .rcvDiscover portId => if ctx.numInterfaces ≤ portId then ctx else ctx.whenReady (signalled portId)
  | .reannounceTimeout => if ctx.reannounceTimer then (ctx.setReannounce false).whenReady reannounced else ctx
  | .delayTimeout => if ctx.delayTimer then (ctx.setDelay false).whenReady advertised else ctx

private theorem entityEvent_eq {event : AdvertiseEntityEvent} {change : AdvertiseCtx → AdvertiseCtx}
    (returns : ctx.entitySm fuel event = some (change ctx)) :
    ctx.entityEvent fuel event = some (ctx.whenReady change) := by
  unfold entityEvent whenReady
  split
  · exact returns
  · rfl

private theorem interfaceEvent_eq {event : AdvertiseInterfaceEvent} {change : AdvertiseCtx → AdvertiseCtx}
    (returns : ctx.interfaceSm fuel portId event = some (change ctx)) :
    ctx.interfaceEvent fuel portId event = some (ctx.whenReady change) := by
  unfold interfaceEvent whenReady
  split
  · exact returns
  · rfl

theorem saveGm_advertiseState {gmId : UInt64} {other : Nat} :
    (ctx.saveGm portId gmId).advertiseState other = ctx.advertiseState other := by
  unfold saveGm advertiseState
  dsimp only
  by_cases here : other = portId
  · subst here
    rw [update_self]
  · rw [update_of_ne here]

theorem saveLink_advertiseState {operational : Bool} {other : Nat} :
    (ctx.saveLink portId operational).advertiseState other = ctx.advertiseState other := by
  unfold saveLink advertiseState
  dsimp only
  by_cases here : other = portId
  · subst here
    rw [update_self]
  · rw [update_of_ne here]

section
variable (calm : ctx.Calm)
include calm

theorem Calm.saveGm {gmId : UInt64} : (ctx.saveGm portId gmId).Calm :=
  ⟨calm.entity,fun other => by rw [saveGm_advertiseState]; exact calm.interfaces other⟩

theorem Calm.saveLink {operational : Bool} : (ctx.saveLink portId operational).Calm :=
  ⟨calm.entity,fun other => by rw [saveLink_advertiseState]; exact calm.interfaces other⟩

theorem Calm.begun : ctx.begun.Calm := by
  unfold AdvertiseCtx.begun
  split
  · refine ⟨by rw [enter_state]; decide,fun portId => ?_⟩
    exact @onEach_rests (ctx.setIndex 0) portId _ (fun _ _ _ => beginOn_rests) calm.interfaces _
  · exact calm

theorem Calm.advertised : ctx.advertised.Calm := by
  unfold AdvertiseCtx.advertised
  split
  · refine ⟨by rw [enter_state]; decide,fun portId => ?_⟩
    exact @onEach_rests (ctx.enter .advertise) portId _ (fun _ _ _ => advertiseOn_rests) calm.interfaces _
  · exact calm

theorem Calm.terminated : ctx.terminated.Calm := by
  unfold AdvertiseCtx.terminated
  split
  · exact ⟨by rw [enter_state]; decide,calm.interfaces⟩
  · split
    · refine ⟨by rw [enter_state]; decide,fun portId => ?_⟩
      exact @onEach_rests ((ctx.setReannounce false).setIndex 0) portId _ (fun _ _ _ => departOn_rests) calm.interfaces _
    · exact calm

theorem Calm.reannounced : ctx.reannounced.Calm := by
  unfold AdvertiseCtx.reannounced
  split
  · exact ⟨by rw [enter_state]; decide,calm.interfaces⟩
  · exact calm

theorem Calm.rearm : ctx.rearm.Calm := by
  refine ⟨?_,fun portId => by rw [rearm_advertiseState]; exact calm.interfaces portId⟩
  unfold AdvertiseCtx.rearm
  split
  · rw [enter_state]
    decide
  · exact calm.entity

theorem Calm.setInterface {state : AdvertiseInterfaceState} (rests : Rests state) :
    (ctx.setInterface portId state).Calm := ⟨calm.entity,fun other => setInterface_rests (calm.interfaces other) rests⟩

theorem Calm.whenReady {change : AdvertiseCtx → AdvertiseCtx} (kept : (change ctx).Calm) :
    (ctx.whenReady change).Calm := by
  unfold AdvertiseCtx.whenReady
  split
  · exact kept
  · exact calm

theorem handle_eq : ctx.handle (fuel + 5) input = some (ctx.effect input) := by
  cases input with
  | updated ready =>
    have same : {ctx with ready := ctx.ready || ready}.Calm := ⟨calm.entity,calm.interfaces⟩
    exact entityEvent_eq (entitySm_begin same)
  | terminate => exact entityEvent_eq (entitySm_terminate calm)
  | macServiceStatus portId operational =>
    unfold handle AdvertiseCtx.effect
    dsimp only
    split
    · rfl
    · split
      · rw [interfaceEvent_eq (interfaceSm_linkUp calm)]
        rfl
      · split
        · rw [interfaceEvent_eq (interfaceSm_linkDown (calm.interfaces portId))]
          rfl
        · rfl
  | gmStatus portId gmId =>
    unfold handle AdvertiseCtx.effect
    dsimp only
    split
    · rfl
    · have saved : (ctx.saveGm portId gmId).Calm := calm.saveGm
      have begun := saved.whenReady saved.begun
      rw [entityEvent_eq (entitySm_begin saved)]
      exact interfaceEvent_eq (interfaceSm_signal begun (.inr rfl))
  | rcvDiscover portId =>
    unfold handle AdvertiseCtx.effect
    dsimp only
    split
    · rfl
    · exact interfaceEvent_eq (interfaceSm_signal calm (.inl rfl))
  | reannounceTimeout =>
    unfold handle AdvertiseCtx.effect
    dsimp only
    split
    · have stopped : (ctx.setReannounce false).Calm := ⟨calm.entity,calm.interfaces⟩
      exact entityEvent_eq (entitySm_reannounceTimeout stopped)
    · rfl
  | delayTimeout =>
    unfold handle AdvertiseCtx.effect
    dsimp only
    split
    · have stopped : (ctx.setDelay false).Calm := ⟨calm.entity,calm.interfaces⟩
      exact entityEvent_eq (entitySm_delayTimeout stopped)
    · rfl

end

end Handlers

end AdvertiseCtx

end Genavb.Avdecc
