import Genavb.Gptp.AnnounceTimeout

/-! What a port has received ages out, in every run in which the receipt timeouts can be waited for. -/
namespace Genavb.Gptp
open Support GptpInstance
open Function (update update_self update_of_ne)

namespace TimedInstance
variable {timed first second : TimedInstance} {port : Nat}

section Ages

/-- Each timer runs, with the time that the timeout and the interval give, while there is something for it to end. -/
structure Ages (port : Nat) (timed : TimedInstance) : Prop where
  announce : timed.inst.config.automotive = false → (timed.inst.ports port).infoIs = .received →
    timed.view.timeoutTimer port = some (receiptMs (timed.announced port).1 (timed.announced port).2)
  capable : (timed.capable port).neighborGptpCapable = true → (timed.capable port).timeoutTimer =
    some (receiptMs (timed.capable port).gptpCapableReceiptTimeout (timed.capable port).takenLog)
  sync : ∀ timeout logInterval, (timed.sync port).accepted = some (timeout,logInterval) →
    (timed.sync port).timeoutTimer = some (receiptMs timeout logInterval)

def GivesUp (timed : TimedInstance) (input : TimedInput) : Prop :=
  match input with
  | .announceTimeout port => timed.hears port = true → timed.inst.config.automotive = false →
    (timed.view.timeoutTimer port).isSome = true → ((timedStep input timed).inst.ports port).infoIs ≠ .received
  | .syncTimeout port => timed.hears port = true → timed.inst.config.automotive = false →
    (timed.sync port).timeoutTimer.isSome = true → timed.inst.gmPresent = true →
    ((timedStep input timed).inst.ports port).infoIs ≠ .received
  | .capableTimeout port => timed.hears port = true → (timed.capable port).timeoutTimer.isSome = true →
    (timed.capable port).rcvdGptpCapableTlv = false → ((timedStep input timed).capable port).neighborGptpCapable = false
  | _ => True

/-- The timeouts that are taken can be waited for, no TLV is overwritten before the machine has dealt with it, and no
timer expires for a capable neighbor while the machine is stopped. -/
def Clean (timed : TimedInstance) (input : TimedInput) : Prop :=
  match input with
  | .announce port announce fits logMsgInterval => timed.hears port = true → timed.inst.config.automotive = false →
    timed.inst.Adopts port announce fits → InRange (timed.view.announceReceiptTimeout port) logMsgInterval
  | .mdSync port logMessageInterval source synchronizes => timed.hears port = true →
    timed.syncAccepted port source = true →
    InRange (timed.sync port).syncReceiptTimeout (synchronizes.getD logMessageInterval)
  | .signaling port true logInterval => timed.hears port = true → timed.force2011 = false →
    InRange (timed.capable port).gptpCapableReceiptTimeout logInterval
  | .signaling port false _ => timed.hears port = true → (timed.capable port).rcvdGptpCapableTlv = false
  | .capableTimeout port => timed.hears port = true → (timed.capable port).timeoutTimer.isSome = true →
    timed.capableStopped port = true → (timed.capable port).neighborGptpCapable = false
  | _ => True

instance (timed : TimedInstance) (input : TimedInput) : Decidable (timed.Clean input) :=
  match input with
  | .announce _ _ _ _ => inferInstanceAs (Decidable (_ → _ → _ → _))
  | .mdSync _ _ _ _ => inferInstanceAs (Decidable (_ → _ → _))
  | .signaling _ true _ => inferInstanceAs (Decidable (_ → _ → _))
  | .signaling _ false _ => inferInstanceAs (Decidable (_ → _))
  | .announceTimeout _ => inferInstanceAs (Decidable True)
  | .syncTimeout _ => inferInstanceAs (Decidable True)
  | .capableTimeout _ => inferInstanceAs (Decidable (_ → _ → _ → _))
  | .transmitTimer _ => inferInstanceAs (Decidable True)
  | .linkStatus _ _ => inferInstanceAs (Decidable True)
  | .acrossDomains _ _ => inferInstanceAs (Decidable True)
  | .priority1 _ => inferInstanceAs (Decidable True)
  | .priority2 _ => inferInstanceAs (Decidable True)
  | .announceReceiptTimeout _ _ => inferInstanceAs (Decidable True)
  | .syncReceiptTimeout _ _ => inferInstanceAs (Decidable True)

end Ages

section Held

structure Held (timed : TimedInstance) : Prop where
  rest : timed.inst.config.automotive = false → timed.inst.config.instanceEnable = true → timed.inst.Rest
  informed : timed.inst.config.automotive = false → timed.Informed
  supervised : ∀ port, port < timed.inst.numberPorts → Supervised (timed.capable port)
  synced : ∀ port timeout logInterval, (timed.sync port).accepted = some (timeout,logInterval) →
    (timed.sync port).timeoutTimer = some (receiptMs timeout logInterval)

theorem Informed.congr (informed : first.Informed) (view : second.view = first.view)
    (announced : second.announced = first.announced) : second.Informed := by
  intro port inside received
  rw [numberPorts,inst,view] at inside
  rw [inst,view] at received
  have awaits := informed port inside received
  constructor
  · rw [view,announced]
    exact awaits.interval
  · rw [announced]
    exact awaits.inRange
  · rw [view,announced]
    exact awaits.runs

theorem Held.ages (held : timed.Held) (inside : port < timed.inst.numberPorts) : timed.Ages port :=
  ⟨fun standard received => (held.informed standard port inside received).runs,(held.supervised port inside).runs,
    held.synced port⟩

private theorem hears_iff : timed.hears port = true ↔ timed.inst.config.instanceEnable = true ∧ port < timed.inst.numberPorts := by
  unfold hears
  rw [Bool.and_eq_true,decide_eq_true_eq]

theorem Held.silent (held : timed.Held) (enabled : timed.inst.config.instanceEnable = true) : timed.Silent := by
  intro standard port inside
  have rest := held.rest standard enabled
  exact ⟨(rest.ports port inside).noMessage,(rest.ports port inside).noAnnounce⟩

theorem Moved.sync (moved : Moved first second) : second.sync = first.sync := by
  rw [moved.kept.same]
  rfl

theorem Held.moved (held : first.Held) (moved : Moved first second)
    (supervised : ∀ port, port < first.inst.numberPorts → Supervised (second.capable port)) : second.Held := by
  refine ⟨?_,?_,?_,?_⟩
  · rw [moved.config]
    exact fun standard enabled => moved.rest enabled (held.rest standard enabled)
  · rw [moved.config]
    exact fun standard => moved.kept.informed ((held.informed standard).congr rfl rfl)
  · intro other inside
    rw [numberPorts,moved.config] at inside
    exact supervised other inside
  · rw [moved.sync]
    exact held.synced

theorem Held.kept (held : first.Held) (kept : Kept first second)
    (rest : first.inst.config.instanceEnable = true → first.inst.Rest → second.inst.Rest) : second.Held := by
  refine held.moved (kept.moved rest) ?_
  rw [show second.capable = first.capable from congrArg Prod.fst kept.beside]
  exact held.supervised

theorem Held.setCapable {value : CapableReceive} (held : timed.Held) (supervised : Supervised value) :
    (timed.setCapable port value).Held := by
  refine held.moved (setCapable_moved timed port value) fun other inside => ?_
  change Supervised (update timed.capable port value other)
  by_cases here : other = port
  case pos =>
    subst here
    rw [update_self]
    exact supervised
  case neg =>
    rw [update_of_ne here]
    exact held.supervised other inside

theorem Held.turns (held : first.Held) (turns : Turns port first second) : second.Held := by
  obtain ⟨after,same,supervised,_⟩ := turns.capable
  refine held.moved turns.moved ?_
  rw [same]
  exact (held.setCapable supervised).supervised

theorem Held.setSync {value : SyncReceipt} (held : timed.Held)
    (synced : ∀ timeout logInterval, value.accepted = some (timeout,logInterval) →
      value.timeoutTimer = some (receiptMs timeout logInterval)) : (timed.setSync port value).Held := by
  refine ⟨held.rest,fun standard => (held.informed standard).congr rfl rfl,held.supervised,?_⟩
  intro other
  change ∀ timeout logInterval, (update timed.sync port value other).accepted = _ →
    (update timed.sync port value other).timeoutTimer = _
  by_cases here : other = port
  case pos =>
    subst here
    rw [update_self]
    exact synced
  case neg =>
    rw [update_of_ne here]
    exact held.synced other

end Held

section Steps
variable {timed : TimedInstance} {port : Nat}

private theorem gptpStep_rest {inst : GptpInstance} (rest : inst.Rest) (input : GptpInput) : (gptpStep input inst).Rest :=
  (gptpStep_outcome input rest).rest

theorem Held.announce {announce : AnnouncePdu} {fits : Bool} {logMsgInterval : Int8} (held : timed.Held)
    (hears : timed.hears port = true)
    (heard : timed.inst.config.automotive = false → timed.inst.Adopts port announce fits →
      InRange (timed.view.announceReceiptTimeout port) logMsgInterval) :
    (timed.gptpHandleAnnounce port announce fits logMsgInterval).Held := by
  have ⟨enabled,inside⟩ := hears_iff.mp hears
  cases kind : timed.inst.config.automotive with
  | true =>
    unfold gptpHandleAnnounce
    rw [kind]
    exact held
  | false =>
    have rest := held.rest kind enabled
    have taken := gptpHandleAnnounce_taken rest inside (held.informed kind) fits (heard kind)
    have final : (timed.gptpHandleAnnounce port announce fits logMsgInterval).inst.Rest := by
      have step := gptpStep_rest rest (.announce port announce fits)
      unfold gptpStep at step
      rw [enabled] at step
      dsimp only at step
      rw [if_pos inside] at step
      rw [gptpHandleAnnounce_inst]
      exact step
    refine ⟨fun _ _ => final,fun _ => taken.informed,?_,?_⟩
    · intro other within
      rw [numberPorts,taken.config] at within
      rw [show (timed.gptpHandleAnnounce port announce fits logMsgInterval).capable = timed.capable from
        congrArg Prod.fst taken.beside]
      exact held.supervised other within
    · rw [show (timed.gptpHandleAnnounce port announce fits logMsgInterval).sync = timed.sync from
        congrArg (fun beside => beside.2.1) taken.beside]
      exact held.synced

theorem setSync_setSync (first second : SyncReceipt) (timed : TimedInstance) :
    (timed.setSync port first).setSync port second = timed.setSync port second := by
  unfold setSync
  rw [Function.update_idem]

theorem setSync_port (value : SyncReceipt) (timed : TimedInstance) : (timed.setSync port value).sync port = value :=
  update_self _ _ _

theorem Held.mdSync {logMessageInterval : Int8} {source : ClockIdentity} {synchronizes : Option Int8} (held : timed.Held)
    (inRange : timed.syncAccepted port source = true →
      InRange (timed.sync port).syncReceiptTimeout (synchronizes.getD logMessageInterval)) :
    (timed.portSyncSyncRcvSm port logMessageInterval source synchronizes).Held := by
  unfold portSyncSyncRcvSm
  split
  · exact held.setSync (held.synced port)
  · split
    next accepted =>
      have inRange := inRange accepted
      cases synchronizes with
      | none =>
        refine held.setSync fun timeout logInterval same => ?_
        obtain ⟨rfl,rfl⟩ := same
        exact inRange.restart
      | some operLogSyncInterval =>
        unfold gptpSyncIndication mdSyncReceived
        dsimp only
        rw [setSync_setSync,setSync_port]
        refine held.setSync fun timeout logInterval same => ?_
        obtain ⟨rfl,rfl⟩ := same
        exact inRange.restart
    · exact held

theorem setCapable_setCapable (first second : CapableReceive) (timed : TimedInstance) :
    (timed.setCapable port first).setCapable port second = timed.setCapable port second := by
  unfold setCapable
  rw [Function.update_idem]

private theorem setCapable_port (value : CapableReceive) (timed : TimedInstance) :
    (timed.setCapable port value).capable port = value := update_self _ _ _

theorem Held.signaling {gptpCapable : Bool} {logInterval : Int8} (held : timed.Held) (hears : timed.hears port = true)
    (clean : timed.Clean (.signaling port gptpCapable logInterval)) :
    (timed.handleSignaling port gptpCapable logInterval).Held := by
  have ⟨enabled,inside⟩ := hears_iff.mp hears
  have supervised := held.supervised port inside
  unfold handleSignaling
  cases gptpCapable with
  | false =>
    have noTlv := clean hears
    exact held.setCapable ⟨supervised.runs,fun pending => absurd (noTlv.symm.trans pending) (by decide),
      supervised.initialized⟩
  | true =>
    split
    · exact held
    next heeds =>
      have inRange := clean hears (by simpa using heeds)
      have noticed : Supervised {timed.capable port with
          signalingLog := logInterval
          rcvdGptpCapableTlv := true
          tlvLog := logInterval} := ⟨supervised.runs,fun _ => ⟨rfl,inRange⟩,supervised.initialized⟩
      have held := @Held.setCapable _ port _ held noticed
      have here := (held.supervised port inside)
      dsimp only
      rw [setCapable_setCapable,setCapable_port,if_pos rfl]
      exact held.turns (portGptpCapableReceiveSm_turns (held.silent enabled) inside here.expecting (.inl here))

private theorem infoSm_gives {inst : GptpInstance} {event : AnnounceInfoEvent} (rest : inst.Rest) (inside : port < inst.numberPorts)
    (expires : inst.Expires event) : ((inst.infoSm event port).ports port).infoIs ≠ .received := by
  intro still
  by_cases received : (inst.ports port).infoIs = .received
  case pos =>
    have selects := (infoSm_expires rest inside received expires).1
    have ⟨before,_⟩ := Selects.received selects inside still
    rw [show ((inst.setPort port (ageing (inst.ports port))).requestSelection port).ports port =
      ageing (inst.ports port) from setPort_same ..] at before
    exact absurd before (by simp [ageing])
  case neg =>
    rw [infoSm_persists rest inside fun due => received due.1] at still
    exact received still

private theorem infoSm_rests {event : AnnounceInfoEvent} {inst : GptpInstance} (rest : inst.Rest) (inside : port < inst.numberPorts)
    (timer : event = .announceTimeout ∨ event = .syncTimeout) : (inst.infoSm event port).Rest := by
  obtain rfl | rfl := timer
  · have step := gptpStep_rest rest (.announceTimeout port)
    unfold gptpStep at step
    rw [rest.running.instanceEnable] at step
    dsimp only at step
    rwa [if_pos inside] at step
  · have step := gptpStep_rest rest (.syncTimeout port)
    unfold gptpStep at step
    rw [rest.running.instanceEnable] at step
    dsimp only at step
    rwa [if_pos inside] at step

section
variable (held : timed.Held)
include held

section
variable (hears : timed.hears port = true)
include hears

theorem Held.syncTimeout :
    ((timed.stopSyncTimer port).infoSm .syncTimeout port).Held := by
  have ⟨enabled,inside⟩ := hears_iff.mp hears
  have stopped : (timed.stopSyncTimer port).Held := held.setSync nofun
  refine stopped.kept (infoSm_silent (stopped.silent enabled) inside .syncTimeout) fun _ rest => ?_
  rw [infoSm_inst]
  exact infoSm_rests rest inside (.inr rfl)

theorem Held.announceTimeout :
    ((timed.stopAnnounceTimer port).infoSm .announceTimeout port).Held := by
  have ⟨enabled,inside⟩ := hears_iff.mp hears
  have silent : (timed.stopAnnounceTimer port).Silent := held.silent enabled
  have kept := infoSm_silent silent (show port < _ from inside) .announceTimeout
  have moved := kept.moved fun _ rest => by
    rw [infoSm_inst]
    exact infoSm_rests rest inside (.inl rfl)
  refine ⟨?_,?_,?_,?_⟩
  · rw [moved.config]
    exact fun standard _ => moved.rest enabled (held.rest standard enabled)
  · rw [moved.config]
    intro standard other within received
    have before := kept.before within
    have apart : other ≠ port := by
      rintro rfl
      rw [infoSm_inst] at received
      exact infoSm_gives (held.rest standard enabled) inside (.inl rfl) received
    have awaits := held.informed standard other before ((kept.ports other before).received received)
    refine kept.awaits ⟨awaits.interval,awaits.inRange,?_⟩
    exact (update_of_ne apart _ _).trans awaits.runs
  · intro other within
    rw [show ((timed.stopAnnounceTimer port).infoSm .announceTimeout port).capable = timed.capable from
      congrArg Prod.fst kept.beside]
    exact held.supervised other (kept.before within)
  · rw [moved.sync]
    exact held.synced

private theorem capableTimeout_turns
    (clean : timed.capableStopped port = true → (timed.capable port).neighborGptpCapable = false) :
    Turns port (timed.stopCapableTimer port) ((timed.stopCapableTimer port).portGptpCapableReceiveSm .timeout port) := by
  have ⟨enabled,inside⟩ := hears_iff.mp hears
  have supervised := held.supervised port inside
  have here : (timed.stopCapableTimer port).capable port = {timed.capable port with timeoutTimer := none} :=
    setCapable_port ..
  refine portGptpCapableReceiveSm_turns (held.silent enabled) inside ?_ ?_
  · rw [here]
    exact ⟨supervised.pending,supervised.initialized⟩
  · rw [here]
    cases stopped : timed.capableStopped port with
    | false => exact .inr ⟨rfl,stopped⟩
    | true => exact .inl ⟨fun up => absurd ((clean stopped).symm.trans up) (by decide),supervised.pending,
        supervised.initialized⟩

theorem Held.capableTimeout
    (clean : timed.capableStopped port = true → (timed.capable port).neighborGptpCapable = false) :
    ((timed.stopCapableTimer port).portGptpCapableReceiveSm .timeout port).Held := by
  have turns := capableTimeout_turns held hears clean
  obtain ⟨after,same,supervised,_⟩ := turns.capable
  have whole : ((timed.stopCapableTimer port).portGptpCapableReceiveSm .timeout port).capable =
      update timed.capable port after := same.trans (Function.update_idem ..)
  refine held.moved ((setCapable_moved timed port _).trans turns.moved) ?_
  rw [whole]
  exact (held.setCapable supervised).supervised

end

theorem Held.transmitTimer :
    (timed.lift (GptpInstance.portAnnounceTransmitSm .transmitInterval port)).Held :=
  held.kept (kept_sends (portAnnounceTransmitSm_sends .transmitInterval)) fun _ rest =>
    rest.sends (portAnnounceTransmitSm_sends .transmitInterval)

end

def linked (port : Nat) (operational : Bool) (timed : TimedInstance) : TimedInstance :=
  (((timed.lift fun inst => inst.setPort port {inst.ports port with portOper := operational}).infoSm .run
    port).portAnnounceRcvSm port).lift (GptpInstance.portAnnounceTransmitSm .run port)

theorem linked_kept (silent : timed.Silent) (inside : port < timed.inst.numberPorts) (operational : Bool) :
    Kept timed (timed.linked port operational) := by
  have set : Kept timed (timed.lift fun inst => inst.setPort port {inst.ports port with portOper := operational}) :=
    kept_setPort (p := port) rfl rfl ⟨id,id,id⟩
  have run := set.trans (infoSm_silent (set.silent silent) (set.inside inside) .run)
  have received := run.trans (portAnnounceRcvSm_silent (run.silent silent) (run.inside inside))
  exact received.trans (kept_sends (portAnnounceTransmitSm_sends .run))

theorem linked_inst (operational : Bool) : (timed.linked port operational).inst = timed.inst.gptpLinkStatus port operational := by
  unfold linked
  rw [lift_inst,portAnnounceRcvSm_inst,infoSm_inst]
  rfl

theorem Held.linkStatus {operational : Bool} (held : timed.Held) (hears : timed.hears port = true) :
    (timed.gptpLinkStatus port operational).Held := by
  have ⟨enabled,inside⟩ := hears_iff.mp hears
  have kept := linked_kept (held.silent enabled) inside operational
  have held : (timed.linked port operational).Held := held.kept kept fun _ rest => by
    have step := gptpStep_rest rest (.linkStatus port operational)
    unfold gptpStep at step
    rw [enabled] at step
    dsimp only at step
    rw [if_pos inside] at step
    rw [linked_inst]
    exact step
  have enabled : (timed.linked port operational).inst.config.instanceEnable = true := by
    rw [kept.config]
    exact enabled
  have inside := kept.inside inside
  have here := held.supervised port inside
  change (if (timed.linked port operational).force2011 then timed.linked port operational
    else (timed.linked port operational).portGptpCapableReceiveSm .run port).Held
  split
  · exact held
  · exact held.turns (portGptpCapableReceiveSm_turns (held.silent enabled) inside here.expecting (.inl here))

theorem Held.acrossDomains (held : timed.Held) (hears : timed.hears port = true) :
    (timed.gptpUpdateAsCapable port).Held := by
  have ⟨enabled,inside⟩ := hears_iff.mp hears
  have silent := held.silent enabled
  exact held.kept (setAsCapable_kept silent inside _) (setAsCapable_moved silent inside _).rest

theorem Held.priority {input : GptpInput} (held : timed.Held) (config : (gptpStep input timed.inst).config = timed.inst.config)
    (ports : (gptpStep input timed.inst).ports = timed.inst.ports) : (timed.lift (gptpStep input)).Held := by
  refine held.kept (kept_lift config fun port _ => ?_) fun _ rest => gptpStep_rest rest input
  rw [ports]
  exact .refl _

end Steps

section Runs

theorem Held.step {input : TimedInput} (held : timed.Held) (clean : timed.Clean input) : (timedStep input timed).Held := by
  unfold timedStep
  cases input with
  | announce port announce fits logMsgInterval =>
    dsimp only
    split
    next hears => exact held.announce hears (clean hears)
    · exact held
  | mdSync port logMessageInterval source synchronizes =>
    dsimp only
    split
    next hears => exact held.mdSync (clean hears)
    · exact held
  | signaling port gptpCapable logInterval =>
    dsimp only
    split
    next hears => exact held.signaling hears clean
    · exact held
  | announceTimeout port =>
    dsimp only
    split
    next expires => exact held.announceTimeout expires.1
    · exact held
  | syncTimeout port =>
    dsimp only
    split
    next expires => exact held.syncTimeout expires.1
    · exact held
  | capableTimeout port =>
    dsimp only
    split
    next expires => exact held.capableTimeout expires.1 (clean expires.1 expires.2)
    · exact held
  | transmitTimer port =>
    dsimp only
    split
    · exact held.transmitTimer
    · exact held
  | linkStatus port operational =>
    dsimp only
    split
    next hears => exact held.linkStatus hears
    · exact held
  | acrossDomains port capable =>
    have told : ({timed with acrossDomains := update timed.acrossDomains port capable} : TimedInstance).Held :=
      ⟨held.rest,fun standard => (held.informed standard).congr rfl rfl,held.supervised,held.synced⟩
    dsimp only
    split
    next hears => exact told.acrossDomains hears
    · exact told
  | priority1 | priority2 =>
    refine held.priority ?_ ?_
    · unfold gptpStep
      exact (apply_ite GptpInstance.config ..).trans (ite_self _)
    · unfold gptpStep
      exact (apply_ite GptpInstance.ports ..).trans (ite_self _)
  | announceReceiptTimeout port value =>
    refine ⟨held.rest,fun standard other inside received => ?_,held.supervised,held.synced⟩
    have awaits := held.informed standard other inside received
    exact {awaits with}
  | syncReceiptTimeout port value => exact held.setSync (held.synced port)

theorem Held.givesUp {input : TimedInput} (held : timed.Held) (clean : timed.Clean input) : timed.GivesUp input := by
  cases input with
  | announceTimeout port =>
    intro hears standard runs
    have ⟨enabled,inside⟩ := hears_iff.mp hears
    unfold timedStep
    dsimp only
    rw [if_pos ⟨hears,runs⟩,infoSm_inst]
    exact infoSm_gives (held.rest standard enabled) inside (.inl rfl)
  | syncTimeout port =>
    intro hears standard runs present
    have ⟨enabled,inside⟩ := hears_iff.mp hears
    unfold timedStep
    dsimp only
    rw [if_pos ⟨hears,runs⟩,infoSm_inst]
    exact infoSm_gives (held.rest standard enabled) inside (.inr ⟨rfl,present⟩)
  | capableTimeout port =>
    intro hears runs noTlv
    have turns := capableTimeout_turns held hears (clean hears runs)
    obtain ⟨after,same,supervised,quiet⟩ := turns.capable
    have here : (timed.stopCapableTimer port).capable port = {timed.capable port with timeoutTimer := none} :=
      setCapable_port ..
    rw [here] at quiet
    have stopped : after.timeoutTimer = none := (quiet noTlv).2
    unfold timedStep
    dsimp only
    rw [if_pos ⟨hears,runs⟩,same,update_self]
    by_contra up
    rw [Bool.not_eq_false] at up
    exact Option.some_ne_none _ ((supervised.runs up).symm.trans stopped)
  | announce | mdSync | signaling | transmitTimer | linkStatus | acrossDomains | priority1 | priority2
  | announceReceiptTimeout | syncReceiptTimeout => trivial

variable (config : GptpConfig) (system : SystemParams) (sysProperties : TimeProperties) (enabled : Nat → Bool)
  (force2011 : Bool)

theorem start_held : (start config system sysProperties enabled force2011).Held := by
  refine ⟨?_,?_,fun _ _ => ⟨nofun,nofun,nofun⟩,fun _ => nofun⟩
  · change (gptpInstanceInit config system sysProperties enabled).config.automotive = false →
      (gptpInstanceInit config system sysProperties enabled).config.instanceEnable = true → _
    rw [gptpInstanceInit_config]
    exact fun standard runs => gptpInstanceInit_rest config system sysProperties enabled standard runs
  · change (gptpInstanceInit config system sysProperties enabled).config.automotive = false → _
    rw [gptpInstanceInit_config]
    intro standard port inside received
    have inside : port < config.numberPorts := by
      change port < (gptpInstanceInit config system sysProperties enabled).config.numberPorts at inside
      rwa [gptpInstanceInit_config] at inside
    have off := gptpInstanceInit_disabled config system sysProperties enabled standard inside
    exact absurd (off.symm.trans received) (by decide)

/-- Received information ages out in every run whose timeouts can be waited for, and what has expired is given up. -/
theorem information_ages (inputs : List TimedInput)
    (clean : Steps timedStep Clean inputs (start config system sysProperties enabled force2011)) :
    (∀ port, port < (run timedStep inputs (start config system sysProperties enabled force2011)).inst.numberPorts →
      (run timedStep inputs (start config system sysProperties enabled force2011)).Ages port) ∧
    Steps timedStep GivesUp inputs (start config system sysProperties enabled force2011) := by
  have first := start_held config system sysProperties enabled force2011
  constructor
  · have held := run_invariant timedStep (fun _ _ held clean => held.step clean) first clean
    exact fun port inside => held.ages inside
  · exact steps_kept timedStep (fun _ _ held clean => ⟨held.step clean,held.givesUp clean⟩) first clean

end Runs

section Examples

def twoTimedPorts : TimedInstance :=
  start ⟨false,0,true,false,2,twoPorts_bound,rfl⟩ (.priorityVectorUpdate 9 true 246 ⟨248,254,100⟩ 248) .zero (fun _ => true) false

def heardOnce : List TimedInput :=
  [.linkStatus 1 true,.acrossDomains 1 true,.announce 1 (announceOf (BufferedInstance.tracedAnnounce 106).data) true 0,
    .signaling 1 true 0,.mdSync 1 (-3) 0 none]

theorem information_ages_once : (run timedStep heardOnce twoTimedPorts).view.timeoutTimer 1 = some 3000 ∧
    ((run timedStep heardOnce twoTimedPorts).capable 1).timeoutTimer = some 9000 ∧
    ((run timedStep heardOnce twoTimedPorts).sync 1).timeoutTimer = some 375 := by
  have clean : Steps timedStep Clean heardOnce twoTimedPorts :=
    ⟨by decide +kernel,by decide +kernel,by decide +kernel,by decide +kernel,by decide +kernel,trivial⟩
  have ages := (information_ages _ _ _ _ _ heardOnce clean).1 1 (by decide +kernel)
  refine ⟨?_,?_,?_⟩
  · exact (ages.announce rfl (by decide +kernel)).trans (by decide +kernel)
  · exact (ages.capable (by decide +kernel)).trans (by decide +kernel)
  · exact ages.sync 3 (-3) (by decide +kernel)

/-- The timer of a neighbor that announces 2^22 s between its TLVs wraps around. -/
theorem interval_wraps : ¬∀ (config : GptpConfig) (system : SystemParams) (sysProperties : TimeProperties)
    (enabled : Nat → Bool) (force2011 : Bool) (inputs : List TimedInput),
    (∀ port, port < (run timedStep inputs (start config system sysProperties enabled force2011)).inst.numberPorts →
      (run timedStep inputs (start config system sysProperties enabled force2011)).Ages port) ∧
    Steps timedStep GivesUp inputs (start config system sysProperties enabled force2011) := by
  intro ages
  have wraps := ((ages ⟨false,0,true,false,2,by decide,rfl⟩ (.priorityVectorUpdate 9 true 246 ⟨248,254,100⟩ 248) .zero
    (fun _ => true) false [.linkStatus 1 true,.signaling 1 true 127]).1 1 (by decide +kernel)).capable (by decide +kernel)
  revert wraps
  decide +kernel

end Examples

end TimedInstance

end Genavb.Gptp
