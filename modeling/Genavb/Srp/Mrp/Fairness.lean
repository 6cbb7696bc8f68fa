import Genavb.Srp.Mrp.JoinTimer

/-! What a run of the join timer handler does to the attributes and to the MRPDUs under construction. -/
namespace Genavb.Mrp
open Support TxPort List Option

section Builder
variable {port : TxPort} {mrpdu : MrpAttributeMrpdu}

theorem Headed.error_idle (headed : Headed mrpdu) :
    (mrpMsgError port mrpdu).desc = false ∧ (mrpMsgError port mrpdu).vector.start = none := by
  unfold mrpMsgError
  rw [if_neg (Nat.ne_of_lt headed.header)]
  split
  · exact transmitEnd_idle headed.desc
  · split
    · exact transmitEnd_idle headed.desc
    · split
      · exact transmitEnd_idle headed.desc
      · exact transmitEnd_idle headed.desc

theorem Formed.pass_again (formed : Formed mrpdu) (attr : Option TxAttribute) (leaveall : Bool)
    (again : (transmitPass port attr leaveall mrpdu).2 = true) :
    (transmitPass port attr leaveall mrpdu).1.desc = false ∧
      (transmitPass port attr leaveall mrpdu).1.vector.start = none := by
  have message : ∀ next opened, (if !mrpdu.desc then mrpMsgStart port 15 port.mtu (newPacket port mrpdu)
      else (mrpdu,true)) = (next,opened) → opened = true → Headed next := by
    intro next opened result started
    cases desc : mrpdu.desc with
    | true =>
      simp only [desc,Bool.not_true,Bool.false_eq_true,if_false,Prod.mk.injEq] at result
      obtain ⟨rfl,-⟩ := result
      exact ⟨desc,formed.header desc⟩
    | false =>
      obtain ⟨data,msg,room,begun,-,header⟩ := mrpMsgStart_new port
      simp only [desc,Bool.not_false,if_true,begun,Prod.mk.injEq] at result
      obtain ⟨rfl,rfl⟩ := result
      exact ⟨rfl,header started⟩
  have added : ∀ (next : MrpAttributeMrpdu) start (attr : TxAttribute) result, Headed next →
      (if !(appVectorAddEvent port start attr (mrpVectorFirstValue start attr.val next)).2 then
        (mrpMsgError port (appVectorAddEvent port start attr (mrpVectorFirstValue start attr.val next)).1,true)
        else ((appVectorAddEvent port start attr (mrpVectorFirstValue start attr.val next)).1,false)) = result →
      result.2 = true → result.1.desc = false ∧ result.1.vector.start = none := by
    intro next start attr result headed same again
    have valued : Headed (mrpVectorFirstValue start attr.val next) := headed.same rfl rfl
    subst same
    split at again
    next refused =>
      rw [if_pos refused]
      exact (valued.addEvent start attr).error_idle
    · cases again
  unfold transmitPass at again ⊢
  generalize (if !mrpdu.desc then mrpMsgStart port 15 port.mtu (newPacket port mrpdu) else (mrpdu,true)) = result
    at message again ⊢
  obtain ⟨next,opened⟩ := result
  cases opened with
  | false => cases again
  | true =>
    have headed := message next true rfl rfl
    simp only [Bool.not_true,Bool.false_eq_true,if_false] at again ⊢
    have vector := headed.vectorOpen port
    generalize (if next.vector.start.isNone then
      mrpVectorStart port next.msg.msgEnd next.msg.endMax next else (next,true)) = result at vector again ⊢
    obtain ⟨next,opened⟩ := result
    cases opened with
    | false => exact vector.error_idle
    | true =>
      simp only [Bool.not_true,Bool.false_eq_true,if_false] at again ⊢
      have marked : Headed (if leaveall then _ else _) := vector.marked leaveall
      generalize (if leaveall then mrpVectorLeaveallEvent (next.vector.start.getD 0) next else next) = held
        at marked again ⊢
      cases attr with
      | none => cases again
      | some attr =>
        dsimp only at again ⊢
        split at again
        next more =>
          rw [if_pos more]
          split at again
          next domain =>
            rw [if_pos domain]
            exact transmitEnd_idle marked.desc
          next other =>
            rw [if_neg other]
            have second := (marked.vectorClosed false (next.vector.start.getD 0)).vectorStart port
            split at again
            next refused =>
              rw [if_pos refused]
              exact (second _ _).error_idle
            next room =>
              rw [if_neg room]
              exact added _ _ attr _ (second _ _) rfl again
        next first =>
          rw [if_neg first]
          exact added _ _ attr _ marked rfl again

theorem appVectorAddEvent_room {start : Nat} {attr : TxAttribute} (number : mrpdu.vector.numberOfValues = 0)
    (room : mrpdu.vector.eventStart + port.eventLength ≤ mrpdu.vector.endMax) :
    (appVectorAddEvent port start attr mrpdu).2 = true := by
  have fits : ∀ length packed, length ≤ port.eventLength → (vectorAddEvent start length packed mrpdu).2 = true := by
    intro length packed short
    unfold vectorAddEvent
    rw [if_neg (by omega)]
  unfold appVectorAddEvent mrpVectorAddEventFour mrpVectorAddEvent
  unfold eventLength at fits
  cases app : port.app with
  | MSRP =>
    simp only [app,SrpApp.eventLength,msrpEventLength] at fits
    dsimp only
    split
    next listener => exact fits _ _ (by simp [number,listener])
    · split
      · exact fits _ _ (by simp [number])
      · rfl
  | MVRP =>
    simp only [app,SrpApp.eventLength,mvrpEventLength] at fits
    exact fits _ _ (by simp [number])

theorem transmitPass_fresh (least : port.HoldsOne) (desc : mrpdu.desc = false) (closed : mrpdu.vector.start = none)
    (attr : Option TxAttribute) (leaveall : Bool) : (transmitPass port attr leaveall mrpdu).2 = false := by
  obtain ⟨message,started,ready,vector⟩ := packet_started least ⟨desc,closed,rfl⟩
  have room : 15 + port.headerLength + 0 + 2 + port.attributeLength + port.eventLength + 4 ≤ port.mtu := by
    unfold HoldsOne vectorLength at least
    omega
  obtain ⟨bare,opening,opened⟩ := mrpVectorStart_opened ready (by simp only [length_nil]; omega)
  have marked : Opened port [] (bareVector port leaveall.toNat) leaveall.toNat 0 mrpdu.sent
      (if leaveall then mrpVectorLeaveallEvent (15 + port.headerLength) bare else bare) := by
    cases leaveall with
    | true => exact mrpVectorLeaveallEvent_opened opened
    | false => exact opened
  unfold transmitPass
  simp only [desc,Bool.not_false,if_true,started,Bool.not_true,Bool.false_eq_true,if_false,vector,
    isNone_none,opening,opened.begun.start,getD_some,length_nil,Nat.add_zero]
  cases attr with
  | none => rfl
  | some attr =>
    have added := @appVectorAddEvent_room port (mrpVectorFirstValue (15 + port.headerLength) attr.val
      (if leaveall then mrpVectorLeaveallEvent (15 + port.headerLength) bare else bare)) (15 + port.headerLength) attr
      marked.number (by
        change (if leaveall then mrpVectorLeaveallEvent (15 + port.headerLength) bare else bare).vector.eventStart + _ ≤
          (if leaveall then mrpVectorLeaveallEvent (15 + port.headerLength) bare else bare).vector.endMax
        rw [marked.eventStart,marked.vectorMax]
        simp only [length_nil]
        omega)
    simp only [marked.number,ne_eq,not_true_eq_false,if_false,added,Bool.not_true,Bool.false_eq_true]

theorem transmitAction_ends (least : port.HoldsOne) (formed : Formed mrpdu) (attr : Option TxAttribute)
    (leaveall : Bool) : ∃ next, transmitAction port attr leaveall 2 mrpdu = some next := by
  have first := @Formed.pass_again port mrpdu formed attr leaveall
  unfold transmitAction
  dsimp only
  split
  next again =>
    obtain ⟨desc,closed⟩ := first again
    have settled := transmitPass_fresh least desc closed attr leaveall
    unfold transmitAction
    simp only [settled,Bool.false_eq_true,if_false]
    exact ⟨_,rfl⟩
  · exact ⟨_,rfl⟩

end Builder

theorem msrp_lengths (type : Nat) : msrpAttributeLength type + msrpEventLength type 1 ≤ 35 := by
  unfold msrpAttributeLength msrpEventLength
  unfold MSRP_ATTR_TYPE_TALKER_ADVERTISE MSRP_ATTR_TYPE_TALKER_FAILED MSRP_ATTR_TYPE_LISTENER MSRP_ATTR_TYPE_DOMAIN
  split_ifs <;> omega

theorem MrpConfig.txPort_holdsOne (config : MrpConfig) {mtu : Nat} (least : 60 ≤ mtu) (fresh : Memory)
    (type : AttrType) : (config.txPort mtu fresh type).HoldsOne := by
  unfold HoldsOne vectorLength headerLength attributeLength eventLength
  unfold MrpConfig.txPort
  cases config.msrp with
  | false =>
    simp [SrpApp.hasAttributeListLength,SrpApp.attributeLength,SrpApp.eventLength,mvrpEventLength]
    omega
  | true =>
    simp [SrpApp.hasAttributeListLength,SrpApp.attributeLength,SrpApp.eventLength]
    have longest := msrp_lengths type.val
    omega

section Transmitter
variable {port : AttrType → TxPort} {tx next : MrpTransmitter}

theorem MrpTransmitter.calls_append (fuel : Nat) (first second : List (TransmitCall Bytes)) (tx : MrpTransmitter) :
    calls port fuel (first ++ second) tx = (calls port fuel first tx).bind (calls port fuel second) := by
  induction first generalizing tx with
  | nil => rfl
  | cons call rest ih =>
    simp only [cons_append,calls,bind_assoc]
    congr 1
    funext next
    exact ih next

theorem MrpTransmitter.Kept.calls_end (least : ∀ type, (port type).HoldsOne) (kept : tx.Kept)
    (list : List (TransmitCall Bytes)) :
    ∃ next, MrpTransmitter.calls port 2 list tx = some next := by
  induction list generalizing tx with
  | nil => exact ⟨tx,rfl⟩
  | cons call rest ih =>
    have called : ∃ next, tx.call port 2 call = some next := by
      cases call with
      | action type attr leaveall =>
        obtain ⟨mrpdu,ended⟩ := transmitAction_ends (least type) (kept type).1 (attr.map .ofValue) leaveall
        exact ⟨_,by rw [call,ended]; rfl⟩
      | finish type => exact ⟨_,rfl⟩
    obtain ⟨middle,called⟩ := called
    have single : MrpTransmitter.calls port 2 [call] tx = some middle := by rw [MrpTransmitter.calls,called]; rfl
    obtain ⟨next,ended⟩ := ih (kept.calls single)
    exact ⟨next,by rw [MrpTransmitter.calls,called]; exact ended⟩

theorem MrpTransmitter.Kept.finished (kept : tx.Kept) {types : List AttrType}
    (ended : MrpTransmitter.calls port 2 (types.map TransmitCall.finish) tx = some next) (type : AttrType) :
    (type ∈ types → Idle [] (next.mrpdu type)) ∧ (Idle [] (tx.mrpdu type) → Idle [] (next.mrpdu type)) := by
  induction types generalizing tx with
  | nil =>
    cases ended
    exact ⟨nofun,id⟩
  | cons first rest ih =>
    obtain ⟨middle,called,ended⟩ := bind_eq_some_iff.mp ended
    have single : MrpTransmitter.calls port 2 [.finish first] tx = some middle := by rw [MrpTransmitter.calls,called]; rfl
    obtain ⟨inside,stays⟩ := ih (kept.calls single) ended
    cases called
    have own : Idle [] ((tx.handOver first (transmitEnd (port first) (tx.mrpdu first))).mrpdu first) := by
      simp only [handOver,Function.update_self]
      cases desc : (tx.mrpdu first).desc with
      | true =>
        obtain ⟨closed,none⟩ := @transmitEnd_idle (port first) _ desc
        exact ⟨closed,none,rfl⟩
      | false =>
        have same : transmitEnd (port first) (tx.mrpdu first) = tx.mrpdu first := by simp [transmitEnd,desc]
        rw [same]
        exact ⟨desc,(kept first).1.closed desc,rfl⟩
    refine ⟨?_,?_⟩
    · intro member
      rcases mem_cons.mp member with rfl | member
      · exact stays own
      · exact inside member
    · intro idle
      apply stays
      by_cases same : type = first
      · subst same
        exact own
      · simpa [handOver,same] using idle

end Transmitter

def MrpApplication.waiting (app : MrpApplication V) : List AttrId :=
  app.config.attrTypes.flatMap app.attributesOrdered

/-- A run of the handler: `ready` is the application after the LeaveAll machine, `next` after the run. -/
structure FairRun (app ready next : MrpApplication Bytes) : Prop where
  /-- The LeaveAll machine keeps all attributes, and their order when it sends no LeaveAll. -/
  present : ∀ type, (ready.attributesOrdered type).Perm (app.attributesOrdered type)
  order : joinTimerEvent ready = .TX → ready.attributesOrdered = app.attributesOrdered
  distinct : ready.waiting.Nodup
  /-- The walk of the source ends, having visited each attribute in turn. -/
  visits : ∀ fuel, (∀ type, (app.attributesOrdered type).length ≤ fuel) → joinTimerRun fuel app = some (next,ready.waiting)
  /-- Every attribute has taken the event once. -/
  taken : ∀ id ∈ ready.waiting, ∃ attr, ready.heap id = some attr ∧
    next.heap id = attr.transmitted ready.config (joinTimerEvent ready)
  transmit : next.transmit = ready.transmit ++ (ready.waiting.flatMap (fun id => (ready.heap id).elim []
    (MrpAttribute.transmission ready.config (joinTimerEvent ready))) ++ ready.config.attrTypes.map .finish)
  fault : next.fault = app.fault

private theorem transmitEnds_calls (types : List AttrType) (app : MrpApplication V) :
    types.foldl (fun app type => mrpTransmitEnd type app) app =
      {app with transmit := app.transmit ++ types.map .finish} := by
  induction types generalizing app with
  | nil => simp
  | cons type rest ih =>
    rw [foldl_cons,ih]
    simp [mrpTransmitEnd]

private theorem attrTypes_nodup (config : MrpConfig) : config.attrTypes.Nodup := (nodup_finRange 5).filter _

theorem Queued.waiting_nodup {app : MrpApplication V} (queued : Queued app) : app.waiting.Nodup := by
  apply nodup_flatMap.mpr
  refine ⟨fun type _ => queued.nodup type,?_⟩
  exact (attrTypes_nodup app.config).imp fun different => queued.apart different

theorem mrpJoinTimerHandler_types (app : MrpApplication V) :
    mrpJoinTimerHandler app = (joinTypes (joinTimerEvent (mrpLeaveallSm .TX 0 app))
      (mrpLeaveallSm .TX 0 app).config.attrTypes (mrpLeaveallSm .TX 0 app)).config.attrTypes.foldl
        (fun app type => mrpTransmitEnd type app) (joinTypes (joinTimerEvent (mrpLeaveallSm .TX 0 app))
          (mrpLeaveallSm .TX 0 app).config.attrTypes (mrpLeaveallSm .TX 0 app)) := rfl

theorem joinTimer_run {app : MrpApplication Bytes} (linked : Linked app) :
    FairRun app (mrpLeaveallSm .TX 0 app) (mrpJoinTimerHandler app) := by
  obtain ⟨leaveall,redeclared,same⟩ := mrpLeaveallSm_ready linked
  have start : Linked {app with leaveall := leaveall} := ⟨⟨linked.nodup,linked.live⟩,linked.listed⟩
  have handler := mrpJoinTimerHandler_types app
  have run : ∀ fuel, joinTimerRun fuel app = (do
    let (next,visited) ← joinTimerWalks (joinTimerEvent (mrpLeaveallSm .TX 0 app)) fuel
      (mrpLeaveallSm .TX 0 app).config.attrTypes (mrpLeaveallSm .TX 0 app)
    return (next.config.attrTypes.foldl (fun app type => mrpTransmitEnd type app) next,visited)) := fun _ => rfl
  generalize mrpLeaveallSm .TX 0 app = ready at redeclared same handler run ⊢
  have queued : Queued ready := (redeclared.linked start).toQueued
  obtain ⟨transmitted,walks⟩ := @joinTimerWalks_visits Bytes ready (joinTimerEvent ready) ready.config.attrTypes
    (attrTypes_nodup ready.config) queued
  generalize joinTypes (joinTimerEvent ready) ready.config.attrTypes ready = next at transmitted walks handler
  rw [transmitEnds_calls,transmitted.config] at handler
  rw [handler]
  refine ⟨redeclared.ordered,?_,queued.waiting_nodup,?_,?_,?_,transmitted.fault.trans redeclared.fault⟩
  · intro plain
    have other : leaveall.action ≠ .SLA := by
      intro sent
      have action := (congrArg MrpLeaveall.action redeclared.leaveall).trans sent
      rw [joinTimerEvent,if_pos action] at plain
      cases plain
    rw [same other]
  · intro fuel enough
    have walked := walks fuel fun type _ => (redeclared.ordered type).length_eq ▸ enough type
    rw [run,walked]
    simp only [bind_eq_bind,bind_some,transmitEnds_calls,transmitted.config]
    rfl
  · intro id member
    obtain ⟨type,-,inside⟩ := mem_flatMap.mp member
    obtain ⟨attr,found,-⟩ := queued.live type id inside
    refine ⟨attr,found,?_⟩
    have taken := transmitted.visited id member
    rw [found] at taken
    exact taken
  · change next.transmit ++ _ = _
    rw [transmitted.transmit,append_assoc]
    rfl

/-- One run of the join timer handler gives every attribute its transmit event once, in the order of the lists, ends,
and leaves no MRPDU of its types under construction. -/
theorem joinTimer_fair (app : MrpApplication Bytes) (linked : Linked app) (mtu : Nat) (least : 60 ≤ mtu)
    (fresh : Memory) (tx : MrpTransmitter) (kept : tx.Kept) :
    FairRun app (mrpLeaveallSm .TX 0 app) (mrpJoinTimerHandler app) ∧
      ∃ calls next, (mrpJoinTimerHandler app).transmit = app.transmit ++ calls ∧
        MrpTransmitter.calls (app.config.txPort mtu fresh) 2 calls tx = some next ∧
        ∀ type ∈ app.config.attrTypes, (next.mrpdu type).desc = false ∧ (next.mrpdu type).vector.start = none := by
  have run := joinTimer_run linked
  refine ⟨run,?_⟩
  obtain ⟨leaveall,redeclared,-⟩ := mrpLeaveallSm_ready linked
  obtain ⟨first,begun⟩ := redeclared.transmit
  have config : (mrpLeaveallSm .TX 0 app).config = app.config := redeclared.config
  have transmit := run.transmit
  rw [begun,config,← append_assoc,append_assoc app.transmit] at transmit
  generalize first ++ List.flatMap _ _ = calls at transmit
  obtain ⟨middle,built⟩ := kept.calls_end (app.config.txPort_holdsOne least fresh) calls
  have later := kept.calls built
  obtain ⟨next,ended⟩ := later.calls_end (app.config.txPort_holdsOne least fresh)
    (app.config.attrTypes.map TransmitCall.finish)
  refine ⟨calls ++ app.config.attrTypes.map .finish,next,?_,?_,?_⟩
  · rw [transmit,append_assoc]
  · rw [MrpTransmitter.calls_append,built]
    exact ended
  · intro type member
    have idle := (later.finished ended type).1 member
    exact ⟨idle.desc,idle.start⟩

def twoDeclarations : MrpApplication Bytes :=
  run mrpStep [.call (.joinRequest 3 [0,0,0,0,0,0,0,1,2] false (.ok .VO .MT)),
    .call (.joinRequest 3 [0,0,0,0,0,0,0,2,2] false (.ok .VO .MT))] (mrpInit (.ofMsrp 5000 leaveTimeout_default) 10000)

theorem joinTimer_fair_two :
    FairRun twoDeclarations (mrpLeaveallSm .TX 0 twoDeclarations) (mrpJoinTimerHandler twoDeclarations) ∧
      ∃ calls next, (mrpJoinTimerHandler twoDeclarations).transmit = twoDeclarations.transmit ++ calls ∧
        MrpTransmitter.calls (twoDeclarations.config.txPort 1500 fun _ => 0) 2 calls
          (.cleared (twoDeclarations.config.txPort 1500 fun _ => 0)) = some next ∧
        ∀ type ∈ twoDeclarations.config.attrTypes,
          (next.mrpdu type).desc = false ∧ (next.mrpdu type).vector.start = none := by
  have store : Store twoDeclarations := by
    refine granted_rule.run (Store.cleared rfl) ⟨?_,?_,trivial⟩
    · intro _
      decide
    · intro _
      decide
  exact joinTimer_fair twoDeclarations store.linked 1500 (by decide) _ _ fun _ => ⟨.finished rfl rfl,rfl⟩

end Genavb.Mrp
