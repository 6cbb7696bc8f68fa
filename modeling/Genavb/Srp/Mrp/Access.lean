import Genavb.Srp.Mrp.Store

/-! Every access of an application is to a live attribute, as long as its store is kept. -/
namespace Genavb.Mrp
open Support
open Function (update update_of_ne update_self)
open StepRule

variable {V : Type}

def Live (app : MrpApplication V) (id : AttrId) : Prop := ∃ attr, app.heap id = some attr

structure Sound (app : MrpApplication V) : Prop where
  store : Store app
  clean : app.fault = false

/-- What an operation on one live attribute leaves alone. -/
structure Keeps (id : AttrId) (app next : MrpApplication V) : Prop where
  fault : next.fault = app.fault
  config : next.config = app.config
  others : ∀ other, other ≠ id → next.heap other = app.heap other

variable {id : AttrId} {app : MrpApplication V}

theorem Keeps.trans {next last : MrpApplication V} (first : Keeps id app next)
    (second : Keeps id next last) : Keeps id app last :=
  ⟨second.fault.trans first.fault,second.config.trans first.config,
    fun other different => (second.others other different).trans (first.others other different)⟩

private theorem applicantSm_keeps (event : MrpEvent) (live : Live app id) :
    Keeps id app (mrpApplicantSm event id app) ∧ Live (mrpApplicantSm event id app) id := by
  obtain ⟨attr,found⟩ := live
  obtain ⟨ordered,join,transmit,outcome⟩ := mrpApplicantSm_outcome event found
  rw [outcome]
  exact ⟨⟨rfl,rfl,fun other different => update_of_ne different _ _⟩,_,update_self _ _ _⟩

private theorem registrarSm_keeps (event : MrpEvent) (live : Live app id) :
    Keeps id app (mrpRegistrarSm event id app).1 ∧ Live (mrpRegistrarSm event id app).1 id := by
  obtain ⟨attr,found⟩ := live
  obtain ⟨entries,outcome,-⟩ := mrpRegistrarSm_outcome event found
  rw [outcome]
  exact ⟨⟨rfl,rfl,fun other different => update_of_ne different _ _⟩,_,update_self _ _ _⟩

private theorem freeAttribute_keeps (cause : FreeCause) (live : Live app id) :
    Keeps id app (mrpFreeAttribute cause id app) := by
  obtain ⟨attr,found⟩ := live
  unfold mrpFreeAttribute
  rw [found]
  exact ⟨rfl,rfl,fun other different => update_of_ne different _ _⟩

private theorem freeAttributeCheck_keeps (live : Live app id) : Keeps id app (mrpFreeAttributeCheck id app) := by
  obtain ⟨attr,found⟩ := live
  unfold mrpFreeAttributeCheck
  rw [found]
  dsimp only
  split
  · exact freeAttribute_keeps .check ⟨attr,found⟩
  · exact ⟨rfl,rfl,fun _ _ => rfl⟩

private theorem freeAttributeCheck_live {attr : MrpAttribute V}
    (found : app.heap id = some attr) (used : unused app.config attr = false) :
    mrpFreeAttributeCheck id app = app := by
  simp [mrpFreeAttributeCheck,found,used]

theorem applicantSm_check (event : MrpEvent) (live : Live app id)
    (kept : ∀ registrar state, observes (applicantMachine app.config registrar event state).state = false) :
    mrpFreeAttributeCheck id (mrpApplicantSm event id app) = mrpApplicantSm event id app := by
  obtain ⟨attr,found⟩ := live
  obtain ⟨ordered,join,transmit,outcome⟩ := mrpApplicantSm_outcome event found
  rw [outcome]
  apply freeAttributeCheck_live (update_self _ _ _)
  simp [unused,kept]

private theorem leaveallAttribute_keeps (full : app.config.full = true)
    (live : Live app id) : Keeps id app (leaveallAttribute id app) ∧ Live (leaveallAttribute id app) id := by
  have registrar := registrarSm_keeps .RLA live
  have applicant := applicantSm_keeps .RLA registrar.2
  have kept := applicantSm_check .RLA registrar.2 (by
    intro state applicant
    exact applicantMachine_leaveall_kept (by rw [registrar.1.config]; exact full) state applicant)
  unfold leaveallAttribute
  rw [kept]
  exact ⟨registrar.1.trans applicant.1,applicant.2⟩

theorem leaveImmediate_keeps (full : app.config.full = true) (live : Live app id) :
    Keeps id app (mrpProcessAttributeLeaveImmediate id app) ∧ Live (mrpProcessAttributeLeaveImmediate id app) id := by
  have observed : Live (app.observe (.leaveImmediate id)) id := live
  have registrar := registrarSm_keeps .RLV_IMMEDIATE observed
  have applicant := applicantSm_keeps .RLV registrar.2
  have kept := applicantSm_check .RLV registrar.2 (by
    intro state applicant
    exact applicantMachine_leave_kept (by rw [registrar.1.config]; exact full) state applicant)
  have asked : Keeps id app (app.observe (.leaveImmediate id)) := ⟨rfl,rfl,fun _ _ => rfl⟩
  change Keeps id app (mrpFreeAttributeCheck id (mrpApplicantSm .RLV id _)) ∧
    Live (mrpFreeAttributeCheck id (mrpApplicantSm .RLV id _)) id
  rw [kept]
  exact ⟨asked.trans (registrar.1.trans applicant.1),applicant.2⟩

theorem Sound.walk {body : MrpApplication V → AttrId → MrpApplication V}
    (sound : ∀ app id, Live app id → Store app → Store (body app id) ∧ Keeps id app (body app id))
    {ids : List AttrId} (nodup : ids.Nodup) (live : ∀ id ∈ ids, Live app id)
    (holds : Sound app) : Sound (ids.foldl body app) := by
  induction ids generalizing app with
  | nil => exact holds
  | cons id rest ih =>
    obtain ⟨absent,nodup⟩ := List.nodup_cons.mp nodup
    obtain ⟨store,keeps⟩ := sound app id (live id List.mem_cons_self) holds.store
    refine ih nodup ?_ ⟨store,keeps.fault.trans holds.clean⟩
    intro other member
    have different : other ≠ id := by
      rintro rfl
      exact absent member
    obtain ⟨attr,found⟩ := live other (List.mem_cons_of_mem _ member)
    exact ⟨attr,(keeps.others other different).trans found⟩

theorem Sound.attributes {body : MrpApplication V → AttrId → MrpApplication V}
    (sound : ∀ app id, Live app id → Store app → Store (body app id) ∧ Keeps id app (body app id))
    (type : AttrType) (holds : Sound app) :
    Sound ((app.attributes type).foldl body app) :=
  holds.walk sound (holds.store.nodup type) fun _ member => holds.store.live member

theorem Sound.frame {next : MrpApplication V} (holds : Sound app) (same : SameStore app next)
    (fault : next.fault = app.fault) [DecidableEq V] : Sound next :=
  ⟨store_rule.frame same holds.store,fault.trans holds.clean⟩

variable [DecidableEq V]

private theorem leaveallActionHandler_sound (holds : Sound app) : Sound (mrpLeaveallActionHandler app) := by
  unfold mrpLeaveallActionHandler
  split
  · refine foldl _ (fun app type holds => ?_) _ ?_
    · exact holds.frame (sameStore_transmitAction type none true app) rfl
    · refine foldl _ (fun app type holds => holds.attributes ?_ type) _ holds
      intro app id live store
      exact ⟨store_rule.leaveallAttribute id store,(leaveallAttribute_keeps store.full live).1⟩
  · exact holds

omit [DecidableEq V] in
theorem sameFault_transmitRequest (app : MrpApplication V) : (mrpTransmitRequest app).fault = app.fault := by
  unfold mrpTransmitRequest
  split <;> rfl

private theorem leaveallSm_sound (event : MrpEvent) (random : Nat) (holds : Sound app) :
    Sound (mrpLeaveallSm event random app) := by
  have same : ∀ leaveall : MrpLeaveall, Sound {app with leaveall := leaveall} :=
    fun leaveall => holds.frame (sameStore_leaveall leaveall app) rfl
  unfold mrpLeaveallSm
  dsimp only
  split
  · exact leaveallActionHandler_sound (same _)
  · split
    · exact leaveallActionHandler_sound (same _)
    · split
      · exact leaveallActionHandler_sound (same _)
      · exact leaveallActionHandler_sound (same _)
    · exact leaveallActionHandler_sound (same _)
    · have requested := holds.frame (sameStore_transmitRequest app) (sameFault_transmitRequest app)
      exact leaveallActionHandler_sound (requested.frame (sameStore_leaveall _ _) rfl)
    · exact leaveallActionHandler_sound (same _)

theorem receiveLeaveall_sound (type : AttrType) (random : Nat) (holds : Sound app) :
    Sound (receiveLeaveall type random app) := by
  unfold receiveLeaveall
  split
  · exact holds
  · refine leaveallSm_sound .RLA random (holds.attributes ?_ type)
    intro app id live store
    obtain ⟨keeps,attr,found⟩ := leaveallAttribute_keeps store.full live
    have walked : leaveallWalk app id = leaveallAttribute id app := by simp [leaveallWalk,found]
    rw [walked]
    exact ⟨store_rule.leaveallAttribute id store,keeps⟩

theorem joinTimer_sound (holds : Sound app) : Sound (mrpJoinTimerHandler app) := by
  refine foldl _ (fun app type holds => holds.frame (sameStore_transmitEnd type app) rfl) _ ?_
  refine foldl _ (fun app type holds => ?_) _ (leaveallSm_sound .TX 0 holds)
  have perm := holds.store.ordered type
  refine holds.walk ?_ (perm.nodup_iff.mpr (holds.store.nodup type))
    fun _ member => holds.store.live (perm.mem_iff.mp member)
  intro app id live store
  have applicant := fun event => applicantSm_keeps event live
  exact ⟨store_rule.freeAttributeCheck id (store_rule.applicantSm _ id store),
    (applicant _).1.trans (freeAttributeCheck_keeps (applicant _).2)⟩

theorem periodicTimer_sound (holds : Sound app) : Sound (mrpPeriodicTimerHandler app) := by
  have sameFault : ∀ app : MrpApplication V, (mrpPeriodicSm .PERIODICTIMER app).fault = app.fault := by
    intro app
    unfold mrpPeriodicSm
    dsimp only
    split <;> rfl
  refine Sound.frame ?_ (sameStore_periodicSm .PERIODICTIMER _) (sameFault _)
  refine foldl _ (fun app type holds => holds.attributes ?_ type) _ holds
  intro app id live store
  exact ⟨store_rule.applicantSm .PERIODIC id store,(applicantSm_keeps .PERIODIC live).1⟩

private theorem enable_sound (random : Nat) (holds : Sound app) : Sound (mrpEnable random app) := by
  unfold mrpEnable
  split
  · exact holds
  · refine Sound.frame ?_ (sameStore_enabled true _) rfl
    have started : Sound (if app.config.full then mrpLeaveallSm .BEGIN random app else app) := by
      split
      · exact leaveallSm_sound .BEGIN random holds
      · exact holds
    generalize (if app.config.full then mrpLeaveallSm .BEGIN random app else app) = begun at started ⊢
    split
    · exact started.frame (sameStore_periodicSm .BEGIN _) rfl
    · exact started

theorem disable_sound (holds : Sound app) : Sound (mrpDisable app) := by
  unfold mrpDisable
  split
  · exact holds
  · refine Sound.frame ?_ (sameStore_enabled false _) rfl
    have stopped : ∀ periodic join leaveall,
        Sound {app with periodic := periodic, join := join, leaveall := leaveall} := by
      intro periodic join leaveall
      exact holds.frame ⟨rfl,rfl,rfl,rfl,rfl,rfl⟩ rfl
    refine foldl _ (fun app type holds => holds.attributes ?_ type) _ ?_
    · split <;> exact stopped _ _ _
    · intro app id live store
      obtain ⟨attr,found⟩ := live
      exact ⟨store_rule.disable found store,freeAttribute_keeps .disable ⟨attr,found⟩⟩

private theorem findAttribute_live (type : AttrType) (val : V) (store : Store app) : mrpFindAttribute type val app ≠ .stale :=
  Store.find_live val fun _ member => store.live member

private theorem allocAttribute_sound {type : AttrType} {val : V} {alloc : AllocOutcome}
    (holds : Sound app) (missing : mrpFindAttribute type val app = .missing) (granted : alloc ≠ .noTimer) :
    Sound (mrpAllocAttribute type val alloc app).1 ∧
    (∀ id, Live app id → Live (mrpAllocAttribute type val alloc app).1 id) ∧
    ∀ id, (mrpAllocAttribute type val alloc app).2 = some id → Live (mrpAllocAttribute type val alloc app).1 id := by
  cases alloc with
  | noMemory => exact ⟨holds,fun _ live => live,by simp [mrpAllocAttribute]⟩
  | noTimer => exact absurd rfl granted
  | ok applicant registrar =>
    have store := store_rule.create_moved applicant registrar missing holds.store
    rw [mrpAllocAttribute_ok] at store ⊢
    generalize state : (if app.config.full = true then RegistrarState.MT else registrar) = begun at store ⊢
    have heap : ∀ id, (app.create type val begun).heap id =
        update app.heap app.nextId (some (.begun app.config type val begun)) id := fun _ => rfl
    have others : ∀ id, Live app id → Live (app.create type val begun) id := by
      rintro id ⟨attr,found⟩
      by_cases same : id = app.nextId
      · exact ⟨_,by rw [heap,same,update_self]⟩
      · exact ⟨attr,by rw [heap,update_of_ne same,found]⟩
    have self : Live (app.create type val begun) app.nextId := ⟨_,by rw [heap,update_self]⟩
    refine ⟨⟨store,?_⟩,?_,?_⟩
    · split <;> exact holds.clean
    · intro id live
      split <;> exact others id live
    · rintro id ⟨⟩
      split <;> exact self

private theorem applicantSm_sound (event : MrpEvent) (live : Live app id)
    (holds : Sound app) : Sound (mrpApplicantSm event id app) ∧
      ∀ other, Live app other → Live (mrpApplicantSm event id app) other := by
  obtain ⟨keeps,self⟩ := applicantSm_keeps event live
  refine ⟨⟨store_rule.applicantSm event id holds.store,keeps.fault.trans holds.clean⟩,?_⟩
  rintro other ⟨attr,found⟩
  by_cases same : other = id
  · exact same ▸ self
  · exact ⟨attr,(keeps.others other same).trans found⟩

private theorem getAttribute_sound {type : AttrType} {val : V} {alloc : AllocOutcome}
    (holds : Sound app) (granted : mrpFindAttribute type val app = .missing → alloc ≠ .noTimer) :
    Sound (mrpGetAttribute type val alloc app).1 ∧
    (∀ id, Live app id → Live (mrpGetAttribute type val alloc app).1 id) ∧
    ∀ id, (mrpGetAttribute type val alloc app).2 = some id → Live (mrpGetAttribute type val alloc app).1 id := by
  unfold mrpGetAttribute
  split
  next id found =>
    refine ⟨holds,fun _ live => live,?_⟩
    rintro _ ⟨⟩
    obtain ⟨attr,live,-⟩ := (Store.find_found found).2
    exact ⟨attr,live⟩
  next missing => exact allocAttribute_sound holds missing (granted missing)
  next stale => exact absurd stale (findAttribute_live type val holds.store)

private theorem freeAttributeCheck_sound (live : Live app id) (holds : Sound app) : Sound (mrpFreeAttributeCheck id app) ∧
      ∀ other, other ≠ id → Live app other → Live (mrpFreeAttributeCheck id app) other := by
  have keeps := freeAttributeCheck_keeps live
  refine ⟨⟨store_rule.freeAttributeCheck id holds.store,keeps.fault.trans holds.clean⟩,?_⟩
  rintro other different ⟨attr,found⟩
  exact ⟨attr,(keeps.others other different).trans found⟩

private theorem mrpCall_sound {own : Option AttrId} {request : MrpCall V}
    (holds : Sound app) (kept : storeKept own app request) (mine : ∀ id, own = some id → Live app id) :
    Sound (mrpCall request app) ∧ ∀ id, own = some id → Live (mrpCall request app) id := by
  cases request with
  | joinRequest type val new alloc =>
    change Sound (mrpMadJoinRequest type val new alloc app).1 ∧
      ∀ id, own = some id → Live (mrpMadJoinRequest type val new alloc app).1 id
    unfold mrpMadJoinRequest
    split
    · exact ⟨holds,mine⟩
    next on =>
      obtain ⟨got,others,self⟩ := getAttribute_sound holds (kept (by simpa using on))
      split
      next next equal =>
        rw [equal] at got others
        exact ⟨got,fun id own => others id (mine id own)⟩
      next next id equal =>
        rw [equal] at got others self
        obtain ⟨sound,live⟩ := applicantSm_sound (if new then .NEW else .JOIN) (self id rfl) got
        exact ⟨sound,fun id own => live id (others id (mine id own))⟩
  | joinImmediate type val alloc =>
    change Sound (mrpMadJoinImmediate type val alloc app).1 ∧
      ∀ id, own = some id → Live (mrpMadJoinImmediate type val alloc app).1 id
    unfold mrpMadJoinImmediate
    split
    · exact ⟨holds,mine⟩
    next on =>
      split
      · exact ⟨holds,mine⟩
      next stale => exact absurd stale (findAttribute_live type val holds.store)
      next missing =>
        obtain ⟨got,others,self⟩ := allocAttribute_sound holds missing (kept (by simpa using on) missing)
        split
        next next equal =>
          rw [equal] at got others
          exact ⟨got,fun id own => others id (mine id own)⟩
        next next id equal =>
          rw [equal] at got others self
          obtain ⟨joined,live⟩ := applicantSm_sound .JOIN (self id rfl) got
          obtain ⟨sent,still⟩ := applicantSm_sound .TX (live id (self id rfl)) joined
          exact ⟨sent,fun id own => still id (live id (others id (mine id own)))⟩
  | leaveRequest type val =>
    change Sound (mrpMadLeaveRequest type val app) ∧
      ∀ id, own = some id → Live (mrpMadLeaveRequest type val app) id
    unfold mrpMadLeaveRequest
    split
    · exact ⟨holds,mine⟩
    · split
      next id found =>
        obtain ⟨attr,live,-⟩ := (Store.find_found found).2
        obtain ⟨left,others⟩ := applicantSm_sound .LV ⟨attr,live⟩ holds
        obtain ⟨checked,still⟩ := freeAttributeCheck_sound (others id ⟨attr,live⟩) left
        refine ⟨checked,fun other own => ?_⟩
        by_cases same : other = id
        · -- the handler's own attribute is one the check keeps
          subst same
          obtain ⟨ordered,join,transmit,outcome⟩ := mrpApplicantSm_outcome .LV live
          have used := kept other own found
          rw [outcome] at others ⊢
          rw [freeAttributeCheck_live (update_self _ _ _)]
          · exact others other ⟨attr,live⟩
          · rw [Bool.eq_false_iff]
            exact fun idle => used ⟨attr,live,idle⟩
        · exact still other same (others other (mine other own))
      · exact ⟨holds,mine⟩
      next stale => exact absurd stale (findAttribute_live type val holds.store)
  | freeImmediate id =>
    have held : (app.heap id).isSome = true ∧ own ≠ some id := kept
    obtain ⟨live,different⟩ := held
    obtain ⟨attr,found⟩ := Option.isSome_iff_exists.mp live
    have keeps := freeAttribute_keeps .immediate ⟨attr,found⟩
    refine ⟨⟨store_rule.freeImmediate found kept holds.store,keeps.fault.trans holds.clean⟩,?_⟩
    intro other own
    obtain ⟨item,live⟩ := mine other own
    have apart : other ≠ id := by
      rintro rfl
      exact different own
    exact ⟨item,(keeps.others other apart).trans live⟩
  | leaveImmediate id =>
    have live : Live app id := Option.isSome_iff_exists.mp kept
    obtain ⟨keeps,self⟩ := leaveImmediate_keeps holds.store.full live
    refine ⟨⟨store_rule.leaveImmediate kept holds.store,keeps.fault.trans holds.clean⟩,?_⟩
    intro other own
    by_cases same : other = id
    · exact same ▸ self
    · obtain ⟨item,live⟩ := mine other own
      exact ⟨item,(keeps.others other same).trans live⟩

theorem script_sound {calls : List (MrpCall V)} (holds : Sound app)
    (kept : Steps mrpCall (storeKept (some id)) calls app) (live : Live app id) :
    Sound (run mrpCall calls app) ∧ Live (run mrpCall calls app) id := by
  induction calls generalizing app with
  | nil => exact ⟨holds,live⟩
  | cons request rest ih =>
    obtain ⟨sound,mine⟩ := mrpCall_sound holds kept.1 fun _ own => Option.some.inj own ▸ live
    exact ih sound kept.2 (mine id rfl)

private theorem indicate_sound (event : MrpEvent) (calls : Indication → AttrId → List (MrpCall V))
    (holds : Sound app) (live : Live app id) (handled : ∀ kind next, mrpRegistrarSm event id app = (next,some kind) →
      Steps mrpCall (storeKept (some id)) (calls kind id) next) :
    Sound ((scripted calls).registrarSm event id app) ∧ Live ((scripted calls).registrarSm event id app) id := by
  obtain ⟨keeps,self⟩ := registrarSm_keeps event live
  obtain ⟨attr,found⟩ := live
  have moved : Sound (mrpRegistrarSm event id app).1 :=
    ⟨holds.store.registrarSm event found,keeps.fault.trans holds.clean⟩
  unfold MrpClient.registrarSm
  rw [scripted_app]
  split
  next next given => rw [given] at moved self; exact ⟨moved,self⟩
  next next kind given =>
    rw [given] at moved self
    exact script_sound moved (handled kind next given) self

theorem mrpStep_sound {input : MrpInput V} (holds : Sound app)
    (allowed : Allowed storeKept app input) : Sound (mrpStep input app) := by
  cases input with
  | call request => exact (mrpCall_sound holds allowed (by simp)).1
  | receive type val event alloc calls =>
    obtain ⟨granted,handled⟩ := allowed
    change Sound ((scripted calls).mrpProcessAttribute type val event alloc app)
    unfold MrpClient.mrpProcessAttribute
    rw [scripted_app]
    split
    · exact holds
    next on =>
      obtain ⟨got,-,self⟩ := getAttribute_sound holds (granted (by simpa using on))
      split
      next next equal => rw [equal] at got; exact got
      next next id equal =>
        rw [equal] at got self
        cases event with
        | none => exact got
        | some event =>
          have told := indicate_sound (attributeToRxEvent event) calls got (self id rfl) (by
            intro kind last given
            exact handled kind id last (by simp [indicated,on,equal,given]))
          obtain ⟨moved,others⟩ := applicantSm_sound (attributeToRxEvent event) told.2 told.1
          exact (freeAttributeCheck_sound (others id told.2) moved).1
  | leaveAll type random => exact receiveLeaveall_sound type random holds
  | leaveTimer id count calls =>
    change Sound ((scripted calls).timerProcess id count app)
    unfold MrpClient.timerProcess
    rw [scripted_app]
    rcases leaveTimerProcess_cases id count app with
      same | ⟨attr,ms,found,running,⟨positive,ticked⟩ | ⟨due,fired⟩⟩
    · rw [same]
      exact holds
    · rw [ticked]
      exact ⟨store_rule.tick ms found running positive holds.store,holds.clean⟩
    · rw [fired]
      have expired : Sound (app.expire id attr ms) :=
        ⟨holds.store.expire found ms,holds.clean⟩
      have told := indicate_sound .LEAVETIMER calls expired ⟨_,update_self _ _ _⟩ (by
        intro kind last given
        exact allowed kind id last (by simp [indicated,fired,given]))
      exact (freeAttributeCheck_sound told.2 told.1).1
  | joinTimer =>
    unfold mrpStep
    dsimp only
    split
    · exact joinTimer_sound (holds.frame (sameStore_join _ app) rfl)
    · exact holds
  | leaveAllTimer random =>
    unfold mrpStep
    dsimp only
    split
    · exact leaveallSm_sound _ random (holds.frame (sameStore_leaveall _ app) rfl)
    · exact holds
  | periodicTimer =>
    unfold mrpStep
    dsimp only
    split
    · exact periodicTimer_sound (holds.frame (sameStore_periodic _ app) rfl)
    · exact holds
  | enable random => exact enable_sound random holds
  | disable => exact disable_sound holds

/-- Runs in which no leave timer is refused to a new attribute, pointer arguments are live and no
handler releases the attribute it is called for: the lists hold the live attributes, each once
and with a value of its own, releases have their reason and no released block is accessed. -/
theorem attribute_store_sound (config : MrpConfig) (full : config.full = true) (random : Nat)
    (inputs : List (MrpInput V)) (kept : Steps mrpStep (Allowed storeKept) inputs (mrpInit config random)) :
    Sound (run mrpStep inputs (mrpInit config random)) := by
  have initial : Sound (MrpApplication.cleared (V := V) config) := ⟨Store.cleared full,rfl⟩
  exact run_invariant _ (fun _ _ holds allowed => mrpStep_sound holds allowed)
    (enable_sound random initial) kept

theorem attribute_store_sound_withdrawn :
    Steps mrpStep (Allowed storeKept)
      [.receive 3 7 (some .JOININ) (.ok .VO .MT) fun _ _ => [],.call (.joinRequest 3 7 false .noMemory),
        .call (.leaveRequest 3 7),.receive 3 7 (some .LV) .noMemory fun _ _ => []]
      (mrpInit (V := Nat) (.ofMsrp 5000 (by decide)) 10000) ∧
    Sound (run mrpStep
      [.receive 3 7 (some .JOININ) (.ok .VO .MT) fun _ _ => [],.call (.joinRequest 3 7 false .noMemory),
        .call (.leaveRequest 3 7),.receive 3 7 (some .LV) .noMemory fun _ _ => []]
      (mrpInit (V := Nat) (.ofMsrp 5000 (by decide)) 10000)) := by
  have kept : Steps mrpStep (Allowed storeKept)
      [.receive 3 7 (some .JOININ) (.ok .VO .MT) fun _ _ => [],.call (.joinRequest 3 7 false .noMemory),
        .call (.leaveRequest 3 7),.receive 3 7 (some .LV) .noMemory fun _ _ => []]
      (mrpInit (V := Nat) (.ofMsrp 5000 (by decide)) 10000) := by
    refine ⟨⟨?_,?_⟩,?_,?_,⟨?_,?_⟩,trivial⟩
    · intro _ _
      decide
    · intro _ _ _ _
      trivial
    · intro _
      decide
    · intro id own
      cases own
    · intro _
      decide
    · intro _ _ _ _
      trivial
  exact ⟨kept,attribute_store_sound _ rfl _ _ kept⟩

/-- A refused timer leaves a released block in both lists, and a handler that withdraws the
attribute it is called for has the machines run on a released block. -/
theorem attribute_store_breaks :
    ¬Sound (run mrpStep [.receive 3 7 (some .JOININ) .noTimer fun _ _ => []]
      (mrpInit (V := Nat) (.ofMsrp 5000 (by decide)) 10000)) ∧
    ¬Sound (run mrpStep
      [.receive 3 7 (some .JOININ) (.ok .VO .MT) fun _ _ => [],.call (.joinRequest 3 7 false .noMemory),
        .receive 3 7 (some .LV) .noMemory fun _ _ => [.leaveRequest 3 7]]
      (mrpInit (V := Nat) (.ofMsrp 5000 (by decide)) 10000)) := by
  constructor
  · intro sound
    obtain ⟨attr,found,-⟩ := (sound.store.listed 3 0).mp (by decide)
    cases found
  · intro sound
    have clean := sound.clean
    revert clean
    decide

end Genavb.Mrp
