import Genavb.Avdecc.AdpAdvertise
import Mathlib.Data.List.Chain

/-! What an IEEE entity advertises in a run: its machines always return and keep a timer running, it departs when it
terminates unless it is about to advertise, and its available index increases while one interface is active. -/
namespace Genavb.Avdecc
open Support AdvertiseEntityState List

namespace AdvertiseCtx

def step (input : AdvertiseInput) (ctx : AdvertiseCtx) : AdvertiseCtx := (ctx.handle 5 input).getD ctx

def Returns (ctx : AdvertiseCtx) (input : AdvertiseInput) : Prop :=
  ∀ fuel, 5 ≤ fuel → ctx.handle fuel input = some (ctx.step input)

def TimerRuns (ctx : AdvertiseCtx) : Prop :=
  ctx.state ≠ .notStarted → (∃ portId, ctx.Active portId) → ctx.delayTimer = true ∨ ctx.reannounceTimer = true

/-- An entity that terminates while it advertises departs from its active interfaces. -/
def Departs (ctx : AdvertiseCtx) (input : AdvertiseInput) : Prop :=
  match input with
  | .terminate => ctx.ready = true → ctx.state ≠ .notStarted → ∀ portId, ctx.Active portId →
    ∃ msg ∈ (ctx.step input).sent.drop ctx.sent.length, msg.msgType = .entityDeparting ∧ msg.portId = portId
  | _ => True

def availables (sent : List AdvertiseSent) : List UInt32 :=
  (sent.filter (·.msgType = .entityAvailable)).map (·.pdu.availableIndex)

def Ahead (first second : UInt32) : Prop := 0 < (second - first).toNat ∧ (second - first).toNat < 2^31

def Increasing (ctx : AdvertiseCtx) : Prop := (availables ctx.sent).IsChain Ahead

/-- The entity does not terminate before the first round of advertisements, or between the start of a round and its
messages, while an interface is active. -/
def TerminatesInTime (ctx : AdvertiseCtx) (input : AdvertiseInput) : Prop :=
  match input with
  | .terminate => ctx.state = .delay → ∀ portId, ¬ ctx.Active portId
  | _ => True

def activePorts (ctx : AdvertiseCtx) : List Nat :=
  (List.range ctx.numInterfaces).filter fun portId => ctx.advertiseState portId = .waiting

/-- No AVAILABLE has been sent when the entity starts, and at each round at most one interface is active, with less
than 2^31 rounds since the last message. -/
def OneSpeaks (ctx : AdvertiseCtx) (input : AdvertiseInput) : Prop :=
  match input with
  | .updated _ | .gmStatus _ _ => ctx.state = .notStarted → availables ctx.sent = []
  | .delayTimeout => ctx.delayTimer = true → ctx.activePorts = [] ∨ (ctx.activePorts.length = 1 ∧ ctx.silent < 2^31)
  | _ => True

structure Coherent (ctx : AdvertiseCtx) : Prop where
  calm : ctx.Calm
  delay : ctx.delayTimer = true ↔ ctx.state = .delay
  reannounce : ctx.reannounceTimer = true ↔ ctx.state = .waiting
  started : ctx.ready = false → ctx.state = .notStarted

section Clock
variable {ctx : AdvertiseCtx} {portId : Nat} {input : AdvertiseInput} {effect : Nat → AdvertiseCtx → AdvertiseCtx}

private theorem onEach_kept {β : Type} (read : AdvertiseCtx → β) (kept : ∀ portId ctx, read (effect portId ctx) = read ctx)
    (ports : List Nat) : read (ctx.onEach effect ports) = read ctx := by
  induction ports generalizing ctx with
  | nil => rfl
  | cons first rest ih => exact ih.trans (kept first ctx)

def clock (ctx : AdvertiseCtx) : AdvertiseEntityState × Bool × Bool × Bool × UInt32 :=
  (ctx.state,ctx.delayTimer,ctx.reannounceTimer,ctx.ready,ctx.desc.availableIndex)

private theorem beginOn_clock : (ctx.beginOn portId).clock = ctx.clock := by
  unfold beginOn
  split
  · rfl
  · rfl

private theorem advertiseOn_clock : (ctx.advertiseOn portId).clock = ctx.clock := by
  unfold advertiseOn
  split
  · rfl
  · rfl

private theorem departOn_clock : (ctx.departOn portId).clock = ctx.clock := by
  unfold departOn
  split
  · rfl
  · rfl

section
variable (kept : ∀ portId ctx, (effect portId ctx).clock = ctx.clock)
include kept

private theorem onAll_clock :
    (ctx.onAll effect).clock = ctx.clock := onEach_kept clock kept _

private theorem onAll_delayTimer :
    (ctx.onAll effect).delayTimer = ctx.delayTimer := congrArg (·.2.1) (onAll_clock kept)

private theorem onAll_reannounceTimer :
    (ctx.onAll effect).reannounceTimer = ctx.reannounceTimer := congrArg (·.2.2.1) (onAll_clock kept)

private theorem onAll_ready :
    (ctx.onAll effect).ready = ctx.ready := congrArg (·.2.2.2.1) (onAll_clock kept)

end

section
variable (coherent : ctx.Coherent)
include coherent

theorem Coherent.delay_stopped (other : ctx.state ≠ .delay) : ctx.delayTimer = false :=
  Bool.eq_false_iff.mpr fun runs => other (coherent.delay.mp runs)

theorem Coherent.reannounce_stopped (other : ctx.state ≠ .waiting) :
    ctx.reannounceTimer = false := Bool.eq_false_iff.mpr fun runs => other (coherent.reannounce.mp runs)

theorem Coherent.isReady (started : ctx.state ≠ .notStarted) : ctx.ready = true := by
  by_contra notReady
  exact started (coherent.started (Bool.eq_false_iff.mpr notReady))

theorem Coherent.begun (ready : ctx.ready = true) : ctx.begun.Coherent := by
  have calm := coherent.calm.begun
  unfold AdvertiseCtx.begun at calm ⊢
  split at calm
  next idle =>
    have stopped : (ctx.setIndex 0).reannounceTimer = false :=
      coherent.reannounce_stopped (by rw [idle]; decide)
    have isReady : (ctx.setIndex 0).ready = true := ready
    rw [if_pos idle]
    refine ⟨calm,iff_of_true rfl rfl,iff_of_false ?_ (by rw [enter_state]; decide),fun notReady => ?_⟩
    · change ¬ ((ctx.setIndex 0).onAll beginOn).reannounceTimer = true
      rw [onAll_reannounceTimer fun _ _ => beginOn_clock,stopped]
      decide
    · change ((ctx.setIndex 0).onAll beginOn).ready = false at notReady
      rw [onAll_ready fun _ _ => beginOn_clock,isReady] at notReady
      cases notReady
  next busy =>
    rw [if_neg busy]
    exact coherent

theorem Coherent.terminated : ctx.terminated.Coherent := by
  have calm := coherent.calm.terminated
  unfold AdvertiseCtx.terminated at calm ⊢
  split at calm
  next delayed =>
    have stopped := coherent.reannounce_stopped (by rw [delayed]; decide)
    rw [if_pos delayed]
    refine ⟨calm,iff_of_false Bool.false_ne_true (by rw [enter_state]; decide),iff_of_false ?_ (by rw [enter_state]; decide),
      fun _ => rfl⟩
    change ¬ ctx.reannounceTimer = true
    rw [stopped]
    decide
  next other =>
    rw [if_neg other]
    split at calm
    next waits =>
      have stopped : ((ctx.setReannounce false).setIndex 0).delayTimer = false := coherent.delay_stopped other
      rw [if_pos waits]
      refine ⟨calm,iff_of_false ?_ (by rw [enter_state]; decide),iff_of_false ?_ (by rw [enter_state]; decide),fun _ => rfl⟩
      · change ¬ (((ctx.setReannounce false).setIndex 0).onAll departOn).delayTimer = true
        rw [onAll_delayTimer fun _ _ => departOn_clock,stopped]
        decide
      · change ¬ (((ctx.setReannounce false).setIndex 0).onAll departOn).reannounceTimer = true
        rw [onAll_reannounceTimer fun _ _ => departOn_clock]
        exact Bool.false_ne_true
    next idle =>
      rw [if_neg idle]
      exact coherent

theorem Coherent.advertised (runs : ctx.delayTimer = true) : (ctx.setDelay false).advertised.Coherent := by
  have stopped : (ctx.setDelay false).Calm := ⟨coherent.calm.entity,coherent.calm.interfaces⟩
  have calm := stopped.advertised
  have delayed := coherent.delay.mp runs
  have isReady := coherent.isReady (by rw [delayed]; decide)
  unfold AdvertiseCtx.advertised at calm ⊢
  rw [if_pos (show (ctx.setDelay false).state = .delay from delayed)] at calm ⊢
  refine ⟨calm,iff_of_false ?_ (by rw [enter_state]; decide),iff_of_true rfl rfl,fun notReady => ?_⟩
  · change ¬ (((ctx.setDelay false).enter .advertise).onAll advertiseOn).delayTimer = true
    rw [onAll_delayTimer fun _ _ => advertiseOn_clock]
    exact Bool.false_ne_true
  · change (((ctx.setDelay false).enter .advertise).onAll advertiseOn).ready = false at notReady
    rw [onAll_ready fun _ _ => advertiseOn_clock] at notReady
    exact absurd (isReady.symm.trans notReady) (by decide)

theorem Coherent.reannounced (runs : ctx.reannounceTimer = true) :
    (ctx.setReannounce false).reannounced.Coherent := by
  have stopped : (ctx.setReannounce false).Calm := ⟨coherent.calm.entity,coherent.calm.interfaces⟩
  have calm := stopped.reannounced
  have waits := coherent.reannounce.mp runs
  have isReady := coherent.isReady (by rw [waits]; decide)
  unfold AdvertiseCtx.reannounced at calm ⊢
  rw [if_pos (show (ctx.setReannounce false).state = .waiting from waits)] at calm ⊢
  exact ⟨calm,iff_of_true rfl rfl,iff_of_false Bool.false_ne_true (by rw [enter_state]; decide),
    fun notReady => absurd (isReady.symm.trans notReady) (by decide)⟩

theorem Coherent.rearm : ctx.rearm.Coherent := by
  have calm := coherent.calm.rearm
  unfold AdvertiseCtx.rearm at calm ⊢
  split at calm
  next waits =>
    have isReady := coherent.isReady (by rw [waits]; decide)
    rw [if_pos waits]
    exact ⟨calm,iff_of_true rfl rfl,iff_of_false Bool.false_ne_true (by rw [enter_state]; decide),
      fun notReady => absurd (isReady.symm.trans notReady) (by decide)⟩
  next other =>
    rw [if_neg other]
    exact coherent

theorem Coherent.setInterface {state : AdvertiseInterfaceState} (rests : Rests state) :
    (ctx.setInterface portId state).Coherent :=
  ⟨coherent.calm.setInterface rests,coherent.delay,coherent.reannounce,coherent.started⟩

theorem Coherent.signalled : (ctx.signalled portId).Coherent := by
  unfold AdvertiseCtx.signalled
  split
  · exact coherent.rearm
  · exact coherent

theorem Coherent.linkedUp : (ctx.linkedUp portId).Coherent := by
  unfold AdvertiseCtx.linkedUp
  split
  · exact coherent.rearm.setInterface (.inr (.inl rfl))
  · exact coherent

theorem Coherent.linkedDown : (ctx.linkedDown portId).Coherent := by
  unfold AdvertiseCtx.linkedDown
  split
  · exact coherent.setInterface (.inr (.inr rfl))
  · exact coherent

theorem Coherent.whenReady {change : AdvertiseCtx → AdvertiseCtx}
    (kept : ctx.ready = true → (change ctx).Coherent) : (ctx.whenReady change).Coherent := by
  unfold AdvertiseCtx.whenReady
  split
  next ready => exact kept ready
  · exact coherent

theorem Coherent.effected : (ctx.effect input).Coherent := by
  cases input with
  | updated ready =>
    have opened : {ctx with ready := ctx.ready || ready}.Coherent :=
      ⟨⟨coherent.calm.entity,coherent.calm.interfaces⟩,coherent.delay,coherent.reannounce,
        fun notReady => coherent.started (Bool.or_eq_false_iff.mp notReady).1⟩
    exact opened.whenReady fun isReady => opened.begun isReady
  | terminate => exact coherent.whenReady fun _ => coherent.terminated
  | macServiceStatus portId operational =>
    unfold AdvertiseCtx.effect
    dsimp only
    split
    · exact coherent
    · have linked : (if !(ctx.interfaces portId).operationalState && operational then
          ctx.whenReady (AdvertiseCtx.linkedUp portId)
          else if (ctx.interfaces portId).operationalState && !operational then
            ctx.whenReady (AdvertiseCtx.linkedDown portId)
          else ctx).Coherent := by
        split
        · exact coherent.whenReady fun _ => coherent.linkedUp
        · split
          · exact coherent.whenReady fun _ => coherent.linkedDown
          · exact coherent
      exact ⟨linked.calm.saveLink,linked.delay,linked.reannounce,linked.started⟩
  | gmStatus portId gmId =>
    unfold AdvertiseCtx.effect
    dsimp only
    split
    · exact coherent
    · have saved : (ctx.saveGm portId gmId).Coherent :=
        ⟨coherent.calm.saveGm,coherent.delay,coherent.reannounce,coherent.started⟩
      have begun := saved.whenReady fun ready => saved.begun ready
      exact begun.whenReady fun _ => begun.signalled
  | rcvDiscover portId =>
    unfold AdvertiseCtx.effect
    dsimp only
    split
    · exact coherent
    · exact coherent.whenReady fun _ => coherent.signalled
  | reannounceTimeout =>
    unfold AdvertiseCtx.effect
    dsimp only
    split
    next runs =>
      have ready : (ctx.setReannounce false).ready = true :=
        coherent.isReady (by rw [coherent.reannounce.mp runs]; decide)
      unfold AdvertiseCtx.whenReady
      rw [if_pos ready]
      exact coherent.reannounced runs
    · exact coherent
  | delayTimeout =>
    unfold AdvertiseCtx.effect
    dsimp only
    split
    next runs =>
      have ready : (ctx.setDelay false).ready = true := coherent.isReady (by rw [coherent.delay.mp runs]; decide)
      unfold AdvertiseCtx.whenReady
      rw [if_pos ready]
      exact coherent.advertised runs
    · exact coherent

end

private theorem step_eq (calm : ctx.Calm) : ctx.step input = ctx.effect input := by
  unfold step
  rw [@handle_eq ctx 0 input calm]
  rfl

theorem Coherent.step (coherent : ctx.Coherent) : (ctx.step input).Coherent := by
  rw [step_eq coherent.calm]
  exact coherent.effected

theorem Coherent.returns (coherent : ctx.Coherent) : ctx.Returns input := by
  intro fuel enough
  obtain ⟨more,rfl⟩ := Nat.exists_eq_add_of_le' enough
  rw [handle_eq coherent.calm,step_eq coherent.calm]

theorem Coherent.timerRuns (coherent : ctx.Coherent) : ctx.TimerRuns := by
  intro started _
  cases at' : ctx.state with
  | notStarted => exact absurd at' started
  | waiting => exact .inr (coherent.reannounce.mpr at')
  | advertise => exact absurd at' coherent.calm.entity
  | delay => exact .inl (coherent.delay.mpr at')

end Clock

section Departures
variable {ctx : AdvertiseCtx} {portId other : Nat} {input : AdvertiseInput}

theorem departOn_active (apart : other ≠ portId) : (ctx.departOn portId).Active other ↔ ctx.Active other := by
  unfold departOn
  split
  · unfold Active
    rw [advertiseState_set_ne apart]
    rfl
  · rfl

theorem departOn_sent : ∃ added, (ctx.departOn portId).sent = ctx.sent ++ added ∧
    (∀ msg ∈ added, msg.msgType = .entityDeparting) ∧ (ctx.Active portId → ∃ msg ∈ added, msg.portId = portId) := by
  unfold departOn
  split
  · refine ⟨_,rfl,fun msg member => ?_,fun _ => ⟨_,mem_singleton_self _,rfl⟩⟩
    rw [mem_singleton.mp member]
  next idle => exact ⟨[],(append_nil _).symm,fun _ member => absurd member not_mem_nil,fun active => absurd active idle⟩

theorem onEach_depart {ports : List Nat} (nodup : ports.Nodup) :
    ∃ added, (ctx.onEach departOn ports).sent = ctx.sent ++ added ∧
    (∀ msg ∈ added, msg.msgType = .entityDeparting) ∧
    ∀ portId ∈ ports, ctx.Active portId → ∃ msg ∈ added, msg.portId = portId := by
  induction ports generalizing ctx with
  | nil => exact ⟨[],(append_nil _).symm,fun _ member => absurd member not_mem_nil,
      fun _ member => absurd member not_mem_nil⟩
  | cons first rest ih =>
    obtain ⟨fresh,nodup⟩ := nodup_cons.mp nodup
    obtain ⟨own,sent,departs,told⟩ := @departOn_sent ctx first
    obtain ⟨added,later,others,rest'⟩ := @ih (ctx.departOn first) nodup
    refine ⟨own ++ added,?_,fun msg member => ?_,fun portId member active => ?_⟩
    · change ((ctx.departOn first).onEach departOn rest).sent = _
      rw [later,sent,append_assoc]
    · rcases mem_append.mp member with early | late
      · exact departs msg early
      · exact others msg late
    · rcases mem_cons.mp member with rfl | later
      · obtain ⟨msg,member,same⟩ := told active
        exact ⟨msg,mem_append_left _ member,same⟩
      · have apart : portId ≠ first := fun same => fresh (same ▸ later)
        obtain ⟨msg,member,same⟩ := rest' portId later ((departOn_active apart).mpr active)
        exact ⟨msg,mem_append_right _ member,same⟩

private theorem terminated_sent :
    ∃ added, ctx.terminated.sent = ctx.sent ++ added ∧ (∀ msg ∈ added, msg.msgType = .entityDeparting) ∧
    (ctx.state = .waiting → ∀ portId, ctx.Active portId → ∃ msg ∈ added, msg.portId = portId) ∧
    (ctx.state = .delay → added = []) := by
  unfold terminated
  split
  next delayed =>
    refine ⟨[],(append_nil _).symm,fun _ member => absurd member not_mem_nil,fun waits => ?_,fun _ => rfl⟩
    rw [delayed] at waits
    cases waits
  next other =>
    split
    next waits =>
      obtain ⟨added,sent,departs,told⟩ := @onEach_depart ((ctx.setReannounce false).setIndex 0) _
        (@nodup_range ctx.numInterfaces)
      exact ⟨added,sent,departs,fun _ portId active => told portId (mem_range.mpr active.1) active,
        fun delayed => absurd delayed other⟩
    next idle =>
      exact ⟨[],(append_nil _).symm,fun _ member => absurd member not_mem_nil,fun waits => absurd waits idle,
        fun _ => rfl⟩

theorem departs_iff (coherent : ctx.Coherent) : ctx.Departs input ↔ ctx.TerminatesInTime input := by
  cases input with
  | terminate =>
    have stepped : ctx.ready = true → ctx.step .terminate = ctx.terminated := by
      intro ready
      rw [step_eq coherent.calm]
      unfold AdvertiseCtx.effect whenReady
      rw [if_pos ready]
    obtain ⟨added,sent,departs,waiting,delayed⟩ := @terminated_sent ctx
    have appended : ctx.terminated.sent.drop ctx.sent.length = added := by rw [sent,drop_left]
    constructor
    · intro all isDelayed portId active
      have ready := coherent.isReady (by rw [isDelayed]; decide)
      obtain ⟨msg,member,_⟩ := all ready (by rw [isDelayed]; decide) portId active
      rw [stepped ready,appended,delayed isDelayed] at member
      cases member
    · intro inTime ready started portId active
      rw [stepped ready,appended]
      cases at' : ctx.state with
      | notStarted => exact absurd at' started
      | waiting =>
        obtain ⟨msg,member,same⟩ := waiting at' portId active
        exact ⟨msg,member,departs msg member,same⟩
      | advertise => exact absurd at' coherent.calm.entity
      | delay => exact absurd active (inTime at' portId)
  | updated | macServiceStatus | gmStatus | rcvDiscover | reannounceTimeout | delayTimeout => exact Iff.rfl

end Departures

/-- The indexes that were sent increase, and while the entity advertises its index is as many rounds after the last
one as have been silent; a round that has begun is one of them. -/
structure Counted (ctx : AdvertiseCtx) : Prop where
  increasing : ctx.Increasing
  counted : ctx.state ≠ .notStarted → ∀ last ∈ (availables ctx.sent).getLast?,
    ctx.desc.availableIndex = last + .ofNat ctx.silent
  begun : ctx.state = .delay → availables ctx.sent ≠ [] → 0 < ctx.silent

section Indexes
variable {ctx after : AdvertiseCtx} {portId : Nat} {input : AdvertiseInput} {ports : List Nat}

def log (ctx : AdvertiseCtx) : AdvertiseEntityState × UInt32 × List AdvertiseSent × Nat :=
  (ctx.state,ctx.desc.availableIndex,ctx.sent,ctx.silent)

theorem Counted.congr (counted : ctx.Counted) (same : after.log = ctx.log) : after.Counted := by
  unfold log at same
  simp only [Prod.mk.injEq] at same
  obtain ⟨state,index,sent,silent⟩ := same
  refine ⟨?_,?_,?_⟩
  · unfold Increasing
    rw [sent]
    exact counted.increasing
  · rw [state,index,sent,silent]
    exact counted.counted
  · rw [state,sent,silent]
    exact counted.begun

private theorem availables_append (first second : List AdvertiseSent) :
    availables (first ++ second) = availables first ++ availables second := by
  unfold availables
  rw [filter_append,map_append]

theorem availables_departing {added : List AdvertiseSent} (departs : ∀ msg ∈ added, msg.msgType = .entityDeparting) :
    availables added = [] := by
  unfold availables
  rw [filter_eq_nil_iff.mpr fun msg member => by simp [departs msg member]]
  rfl

theorem onEach_advertise :
    availables (ctx.onEach advertiseOn ports).sent = availables ctx.sent ++ List.replicate
      (ports.countP fun portId => portId < ctx.numInterfaces ∧ ctx.advertiseState portId = .waiting) ctx.desc.availableIndex ∧
    (ctx.onEach advertiseOn ports).silent =
      if ports.countP (fun portId => portId < ctx.numInterfaces ∧ ctx.advertiseState portId = .waiting) = 0 then ctx.silent
      else 0 := by
  induction ports generalizing ctx with
  | nil => simp [onEach]
  | cons first rest ih =>
    have next := @ih (ctx.advertiseOn first)
    change availables ((ctx.advertiseOn first).onEach advertiseOn rest).sent = _ ∧
      ((ctx.advertiseOn first).onEach advertiseOn rest).silent = _
    rw [next.1,next.2,countP_cons]
    unfold advertiseOn
    split
    next active =>
      constructor
      · change availables (ctx.sent ++ [_]) ++ _ = _
        rw [availables_append,append_assoc,if_pos (decide_eq_true active),Nat.add_comm,replicate_add]
        rfl
      · rw [if_pos (decide_eq_true active),if_neg (Nat.succ_ne_zero _)]
        exact ite_self 0
    next idle =>
      rw [if_neg (by simpa using idle)]
      exact ⟨rfl,rfl⟩

theorem activePorts_length : ctx.activePorts.length = (List.range ctx.numInterfaces).countP fun portId =>
    portId < ctx.numInterfaces ∧ ctx.advertiseState portId = .waiting := by
  rw [countP_eq_length_filter]
  congr 1
  refine filter_congr fun portId member => ?_
  have inside := mem_range.mp member
  simp [inside]

theorem advertised_sent (delayed : ctx.state = .delay) :
    availables ctx.advertised.sent =
      availables ctx.sent ++ List.replicate ctx.activePorts.length ctx.desc.availableIndex ∧
    ctx.advertised.silent = if ctx.activePorts.length = 0 then ctx.silent else 0 := by
  have round := @onEach_advertise (ctx.enter .advertise) (List.range ctx.numInterfaces)
  unfold advertised
  rw [if_pos delayed,activePorts_length]
  exact round

section
variable (counted : ctx.Counted)
include counted

theorem Counted.next (started : ctx.state ≠ .notStarted)
    (index : after.desc.availableIndex = ctx.desc.availableIndex + 1) (sent : after.sent = ctx.sent)
    (silent : after.silent = ctx.silent + 1) : after.Counted := by
  refine ⟨?_,fun _ last member => ?_,fun _ _ => ?_⟩
  · unfold Increasing
    rw [sent]
    exact counted.increasing
  · rw [sent] at member
    rw [index,silent,counted.counted started last member,UInt32.ofNat_add,UInt32.add_assoc]
    rfl
  · omega

theorem Counted.rearm : ctx.rearm.Counted := by
  unfold AdvertiseCtx.rearm
  split
  next waits => exact counted.next (by rw [waits]; decide) rfl rfl rfl
  · exact counted

theorem Counted.reannounced : ctx.reannounced.Counted := by
  unfold AdvertiseCtx.reannounced
  split
  next waits => exact counted.next (by rw [waits]; decide) rfl rfl rfl
  · exact counted

theorem Counted.beginning (first : ctx.state = .notStarted → availables ctx.sent = []) : ctx.begun.Counted := by
  unfold AdvertiseCtx.begun
  split
  next idle =>
    have sent : ((ctx.setIndex 0).onAll beginOn).sent = ctx.sent := by
      refine onEach_kept AdvertiseCtx.sent (fun portId ctx => ?_) _
      unfold beginOn
      split
      · rfl
      · rfl
    have none : availables ((((ctx.setIndex 0).onAll beginOn).setDelay true).enter .delay).sent = [] := by
      change availables ((ctx.setIndex 0).onAll beginOn).sent = []
      rw [sent,first idle]
    refine ⟨?_,fun _ last member => ?_,fun _ some => absurd none some⟩
    · unfold Increasing
      rw [none]
      exact .nil
    · rw [none] at member
      cases member
  · exact counted

theorem Counted.terminated (calm : ctx.Calm) : ctx.terminated.Counted := by
  obtain ⟨added,sent,departs,_,_⟩ := @terminated_sent ctx
  have same : availables ctx.terminated.sent = availables ctx.sent := by
    rw [sent,availables_append,availables_departing departs,append_nil]
  have ended : ctx.terminated.state = .notStarted := by
    unfold AdvertiseCtx.terminated
    cases at' : ctx.state with
    | notStarted => simp [at']
    | waiting | delay => simp [enter_state]
    | advertise => exact absurd at' calm.entity
  refine ⟨?_,fun started => absurd ended started,fun delayed => ?_⟩
  · unfold Increasing
    rw [same]
    exact counted.increasing
  · rw [ended] at delayed
    cases delayed

theorem Counted.advertised (delayed : ctx.state = .delay)
    (one : ctx.activePorts = [] ∨ (ctx.activePorts.length = 1 ∧ ctx.silent < 2^31)) : ctx.advertised.Counted := by
  obtain ⟨sent,silent⟩ := advertised_sent delayed
  have waits : ctx.advertised.state = .waiting := by
    unfold AdvertiseCtx.advertised
    rw [if_pos delayed,enter_state]
  have index : ctx.advertised.desc.availableIndex = ctx.desc.availableIndex := by
    unfold AdvertiseCtx.advertised
    rw [if_pos delayed]
    exact congrArg (·.2.2.2.2) (onAll_clock fun _ _ => advertiseOn_clock)
  have started : ctx.state ≠ .notStarted := by
    rw [delayed]
    decide
  rcases one with none | ⟨single,few⟩
  · rw [none,length_nil,replicate_zero,append_nil] at sent
    rw [none,length_nil,if_pos rfl] at silent
    refine ⟨?_,fun _ last member => ?_,fun again => ?_⟩
    · unfold Increasing
      rw [sent]
      exact counted.increasing
    · rw [sent] at member
      rw [index,silent]
      exact counted.counted started last member
    · rw [waits] at again
      cases again
  · rw [single] at sent
    rw [single,if_neg Nat.one_ne_zero] at silent
    refine ⟨?_,fun _ last member => ?_,fun again => ?_⟩
    · unfold Increasing
      rw [sent,isChain_append]
      refine ⟨counted.increasing,.singleton _,fun last member next same => ?_⟩
      have new : ctx.desc.availableIndex = next := by simpa using same
      have begun := counted.begun delayed (by
        intro none
        rw [none] at member
        cases member)
      rw [← new,counted.counted started last member]
      unfold Ahead
      rw [UInt32.add_comm,UInt32.add_sub_cancel,UInt32.toNat_ofNat']
      omega
    · have new : ctx.desc.availableIndex = last := by
        rw [sent] at member
        simpa using member
      rw [index,silent,new]
      exact (UInt32.add_zero _).symm
    · rw [waits] at again
      cases again

theorem Counted.whenReady {change : AdvertiseCtx → AdvertiseCtx} (kept : (change ctx).Counted) :
    (ctx.whenReady change).Counted := by
  unfold AdvertiseCtx.whenReady
  split
  · exact kept
  · exact counted

theorem Counted.signalled : (ctx.signalled portId).Counted := by
  unfold AdvertiseCtx.signalled
  split
  · exact counted.rearm
  · exact counted

theorem Counted.effect (coherent : ctx.Coherent) (speaks : ctx.OneSpeaks input) : (ctx.effect input).Counted := by
  cases input with
  | updated ready =>
    have opened : {ctx with ready := ctx.ready || ready}.Counted := counted.congr rfl
    exact opened.whenReady (opened.beginning speaks)
  | terminate => exact counted.whenReady (counted.terminated coherent.calm)
  | macServiceStatus portId operational =>
    have up : (ctx.linkedUp portId).Counted := by
      unfold linkedUp
      split
      · exact counted.rearm.congr rfl
      · exact counted
    have down : (ctx.linkedDown portId).Counted := by
      unfold linkedDown
      split
      · exact counted.congr rfl
      · exact counted
    have saved {before : AdvertiseCtx} (counted : before.Counted) : (before.saveLink portId operational).Counted :=
      counted.congr rfl
    unfold AdvertiseCtx.effect
    dsimp only
    split
    · exact counted
    · refine saved ?_
      split
      · exact counted.whenReady up
      · split
        · exact counted.whenReady down
        · exact counted
  | gmStatus portId gmId =>
    unfold AdvertiseCtx.effect
    dsimp only
    split
    · exact counted
    · have saved : (ctx.saveGm portId gmId).Counted := counted.congr rfl
      have begun := saved.whenReady (saved.beginning speaks)
      exact begun.whenReady begun.signalled
  | rcvDiscover portId =>
    unfold AdvertiseCtx.effect
    dsimp only
    split
    · exact counted
    · exact counted.whenReady counted.signalled
  | reannounceTimeout =>
    unfold AdvertiseCtx.effect
    dsimp only
    split
    · have stopped : (ctx.setReannounce false).Counted := counted.congr rfl
      exact stopped.whenReady stopped.reannounced
    · exact counted
  | delayTimeout =>
    unfold AdvertiseCtx.effect
    dsimp only
    split
    next runs =>
      have stopped : (ctx.setDelay false).Counted := counted.congr rfl
      exact stopped.whenReady (stopped.advertised (coherent.delay.mp runs) (speaks runs))
    · exact counted

end

end Indexes

section Runs
variable (byteOrder : ByteOrder) (desc : EntityDescriptor) (numInterfaces : Nat) (operationalState : Nat → Bool)
variable (gptpGrandmasterId : Nat → UInt64)

theorem init_coherent : (init byteOrder desc numInterfaces operationalState gptpGrandmasterId).Coherent :=
  ⟨⟨noConfusion,fun _ => .inl rfl⟩,iff_of_false Bool.false_ne_true noConfusion,
    iff_of_false Bool.false_ne_true noConfusion,fun _ => rfl⟩

theorem init_counted : (init byteOrder desc numInterfaces operationalState gptpGrandmasterId).Counted :=
  ⟨.nil,fun _ _ member => (nomatch member),fun _ some => absurd rfl some⟩

/-- In every run the machines return and the entity keeps a timer running. It departs as it should exactly in the runs in
which it does not terminate before a round on an active interface, and its indexes increase in every run in which it
starts once and speaks on one interface at a time. -/
theorem advertises :
    let start := init byteOrder desc numInterfaces operationalState gptpGrandmasterId
    ∀ inputs : List AdvertiseInput,
      Steps step Returns inputs start ∧ (run step inputs start).TimerRuns ∧
      (Steps step Departs inputs start ↔ Steps step TerminatesInTime inputs start) ∧
      (Steps step OneSpeaks inputs start → (run step inputs start).Increasing) := by
  intro start inputs
  have initial : start.Coherent := init_coherent ..
  have kept : ∀ ctx input, Coherent ctx → True → (ctx.step input).Coherent := fun _ _ coherent _ => coherent.step
  refine ⟨?_,?_,?_,fun speaks => ?_⟩
  · exact steps_kept step (fun _ _ coherent _ => ⟨coherent.step,coherent.returns⟩) initial (steps_always step inputs start)
  · exact (run_invariant step kept initial (steps_always step inputs start)).timerRuns
  · exact steps_iff step (I := Coherent) (fun _ _ coherent => departs_iff coherent)
      (fun _ _ coherent _ => coherent.step) initial
  · have both : Coherent start ∧ Counted start := ⟨initial,init_counted ..⟩
    refine (run_invariant step (I := fun ctx => ctx.Coherent ∧ ctx.Counted) (fun ctx input holds allowed => ?_) both
      speaks).2.increasing
    refine ⟨holds.1.step,?_⟩
    rw [step_eq holds.1.calm]
    exact holds.2.effect holds.1 allowed

/-- An entity that terminates before its first round does not depart, and one with two active interfaces advertises the
same index on both. -/
theorem silent_departure :
    let start := init .little ⟨5,0,0,0,0,0,0,0,0,0⟩ 2 (fun _ => true) fun _ => 1
    ¬ Steps step Departs [.updated true,.terminate] start ∧ ¬ (run step [.updated true,.delayTimeout] start).Increasing := by
  refine ⟨fun departs => ?_,?_⟩
  · obtain ⟨msg,member,_⟩ := departs.2.1 (by decide +kernel) (by decide +kernel) 0
      ⟨by decide +kernel,by decide +kernel⟩
    exact absurd (ne_nil_of_mem member) (by decide +kernel)
  · have sent : availables (run step [.updated true,.delayTimeout]
        (init .little ⟨5,0,0,0,0,0,0,0,0,0⟩ 2 (fun _ => true) fun _ => 1)).sent = [0,0] := by decide +kernel
    intro increasing
    unfold Increasing at increasing
    rw [sent] at increasing
    exact absurd (isChain_pair.mp increasing).1 (by decide)

end Runs

end AdvertiseCtx

end Genavb.Avdecc
