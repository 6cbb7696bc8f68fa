import Genavb.Srp.Msrp.Context

/-! What the MAP does to streams and attributes leaves the domains of the ports alone. -/
namespace Genavb.Mrp
open MrpApplication
variable {V : Type} (app : MrpApplication V) (id : AttrId) (event : MrpEvent) (type : AttrType)

private theorem enabled_ite {condition : Prop} [Decidable condition] {first second : MrpApplication V} {enabled : Bool}
    (one : first.enabled = enabled) (other : second.enabled = enabled) :
    (if condition then first else second).enabled = enabled := by
  split
  · exact one
  · exact other

@[simp] theorem mrpTransmitRequest_enabled : (mrpTransmitRequest app).enabled = app.enabled := by
  unfold mrpTransmitRequest
  split <;> rfl

@[simp] theorem mrpApplicantActionHandler_enabled (attr : MrpAttribute V) :
    (mrpApplicantActionHandler attr app).enabled = app.enabled := by
  unfold mrpApplicantActionHandler
  split <;> rfl

@[simp] theorem mrpApplicantSm_enabled : (mrpApplicantSm event id app).enabled = app.enabled := by
  unfold mrpApplicantSm
  split
  · rfl
  next attr _ =>
    have requested {condition : Prop} [Decidable condition] :
        (if condition then mrpTransmitRequest app else app).enabled = app.enabled :=
      enabled_ite (mrpTransmitRequest_enabled app) rfl
    rw [mrpApplicantActionHandler_enabled]
    exact enabled_ite requested requested

@[simp] theorem mrpRegistrarSm_enabled : (mrpRegistrarSm event id app).1.enabled = app.enabled := by
  unfold mrpRegistrarSm
  split
  · rfl
  next attr _ =>
    dsimp only
    split <;> simp only [observe,write] <;> split <;> rfl

@[simp] theorem mrpFreeAttribute_enabled (cause : FreeCause) :
    (mrpFreeAttribute cause id app).enabled = app.enabled := by
  unfold mrpFreeAttribute
  split <;> rfl

@[simp] theorem mrpFreeAttributeCheck_enabled : (mrpFreeAttributeCheck id app).enabled = app.enabled := by
  unfold mrpFreeAttributeCheck
  split
  · rfl
  next attr _ => split <;> simp

@[simp] theorem mrpAllocAttribute_enabled (val : V) (alloc : AllocOutcome) :
    (mrpAllocAttribute type val alloc app).1.enabled = app.enabled := by
  unfold mrpAllocAttribute
  split
  · rfl
  · rfl
  · simp [observe,write,link]

@[simp] theorem mrpProcessAttributeFreeImmediate_enabled :
    (mrpProcessAttributeFreeImmediate id app).enabled = app.enabled := by
  simp [mrpProcessAttributeFreeImmediate]

variable [DecidableEq V] (val : V) (alloc : AllocOutcome)

@[simp] theorem mrpGetAttribute_enabled : (mrpGetAttribute type val alloc app).1.enabled = app.enabled := by
  unfold mrpGetAttribute
  split
  · rfl
  · simp
  · rfl

@[simp] theorem mrpMadJoinRequest_enabled (new : Bool) :
    (mrpMadJoinRequest type val new alloc app).1.enabled = app.enabled := by
  unfold mrpMadJoinRequest
  split
  · rfl
  · have got := mrpGetAttribute_enabled app type val alloc
    split
    next equal => rwa [equal] at got
    next equal =>
      rw [equal] at got
      simpa using got

@[simp] theorem mrpMadJoinImmediate_enabled : (mrpMadJoinImmediate type val alloc app).1.enabled = app.enabled := by
  unfold mrpMadJoinImmediate
  split
  · rfl
  · split
    · rfl
    · rfl
    · have allocated := mrpAllocAttribute_enabled app type val alloc
      split
      next equal => rwa [equal] at allocated
      next equal =>
        rw [equal] at allocated
        simpa using allocated

@[simp] theorem mrpMadLeaveRequest_enabled : (mrpMadLeaveRequest type val app).enabled = app.enabled := by
  unfold mrpMadLeaveRequest
  split
  · rfl
  · split
    · simp
    · rfl
    · rfl

end Genavb.Mrp

namespace Genavb.Mrp
variable {V : Type} (app : MrpApplication V)

theorem mrpEnable_enabled (random : Nat) : (mrpEnable random app).enabled = true := by
  unfold mrpEnable
  split
  next on => exact on
  · rfl

theorem mrpDisable_enabled : (mrpDisable app).enabled = false := by
  unfold mrpDisable
  split
  next off => simpa using off
  · rfl

end Genavb.Mrp

namespace Genavb.Msrp
open Support Mrp Mvrp Function

/-- What a port knows of its domains, and whether its MRP application is enabled. -/
structure DomainTable where
  boundary : Nat → Bool
  domain : Nat → Option DomainValue
  domains : List MsrpDomain
  numDomains : Nat
  running : Bool

def MsrpPort.table (port : MsrpPort) : DomainTable where
  boundary := port.srpDomainBoundaryPort
  domain := port.domain
  domains := port.domains
  numDomains := port.numDomains
  running := port.mrpApp.enabled

namespace MsrpCtx
variable (ctx : MsrpCtx) (port : Nat)

def tables : MsrpConfig × PortMask × (Nat → DomainTable) :=
  (ctx.config,ctx.enabledState,fun port => (ctx.port port).table)

theorem tables_modifyPort (f : MsrpPort → MsrpPort) : (ctx.modifyPort port f).tables =
    (ctx.config,ctx.enabledState,Function.update ctx.tables.2.2 port (f (ctx.port port)).table) := by
  refine Prod.ext rfl (Prod.ext rfl (funext fun other => ?_))
  change (Function.update ctx.port port (f (ctx.port port)) other).table =
    Function.update ctx.tables.2.2 port (f (ctx.port port)).table other
  by_cases same : other = port
  case pos =>
    rw [same,update_self,update_self]
  case neg =>
    rw [update_of_ne same,update_of_ne same]
    rfl

theorem tables_modifyPort_same {f : MsrpPort → MsrpPort} (same : (f (ctx.port port)).table = (ctx.port port).table) :
    (ctx.modifyPort port f).tables = ctx.tables := by
  rw [tables_modifyPort,same]
  exact Prod.ext rfl (Prod.ext rfl (update_eq_self port _))

private theorem tables_setApp {app : MrpApplication AttributeValue} (same : app.enabled = (ctx.app port).enabled) :
    (ctx.setApp port app).tables = ctx.tables := by
  apply tables_modifyPort_same
  change DomainTable.mk _ _ _ _ app.enabled = DomainTable.mk _ _ _ _ (ctx.app port).enabled
  rw [same]

@[simp] theorem tables_store (stream : MsrpStream) : (ctx.store stream).tables = ctx.tables := rfl

@[simp] theorem tables_joinRequest (value : AttributeValue) (new : Bool) :
    (ctx.joinRequest port value new).1.tables = ctx.tables :=
  tables_setApp ctx.tick port (mrpMadJoinRequest_enabled _ _ _ _ _)

@[simp] theorem tables_joinImmediate (value : AttributeValue) :
    (ctx.joinImmediate port value).1.tables = ctx.tables :=
  tables_setApp ctx.tick port (mrpMadJoinImmediate_enabled _ _ _ _)

@[simp] theorem tables_leaveRequest (value : AttributeValue) : (ctx.leaveRequest port value).tables = ctx.tables :=
  tables_setApp ctx port (mrpMadLeaveRequest_enabled _ _ _)

end MsrpCtx

open MsrpCtx

namespace Work
variable (work : Work) (direction : Direction) (port : Nat)

private theorem tables_ite {condition : Prop} [Decidable condition] {first second work : Work}
    (one : first.ctx.tables = work.ctx.tables) (other : second.ctx.tables = work.ctx.tables) :
    (if condition then first else second).ctx.tables = work.ctx.tables := by
  split
  · exact one
  · exact other

@[simp] theorem tables_fdbUpdate (fv : TalkerAdvertise) (forward : Bool) :
    (work.msrpFdbUpdate port fv forward).1.ctx.tables = work.ctx.tables := by
  unfold msrpFdbUpdate
  by_cases same : maskHas work.stream.fdbState port = forward
  case pos => rw [if_pos same]
  case neg =>
    rw [if_neg same]
    cases work.ctx.answer.fdb <;> rfl

@[simp] theorem tables_updateFqtss (fv : TalkerAdvertise) (add : Bool) :
    (work.msrpUpdateFqtss port fv add).1.ctx.tables = work.ctx.tables := by
  unfold msrpUpdateFqtss
  by_cases same : maskHas work.stream.fqtssState port = add
  case pos => rw [if_pos same]
  case neg =>
    rw [if_neg same]
    dsimp only
    split <;> rfl

@[simp] theorem tables_registerVlan : (work.msrpRegisterVlan port).ctx.tables = work.ctx.tables := by
  unfold msrpRegisterVlan
  split <;> rfl

@[simp] theorem tables_deregisterVlan : (work.msrpDeregisterVlan port).ctx.tables = work.ctx.tables := by
  unfold msrpDeregisterVlan
  split <;> rfl

@[simp] theorem tables_declarationStatus : (work.declarationStatus direction port).ctx.tables = work.ctx.tables := rfl

@[simp] theorem tables_removeDeclaration (value : AttributeValue) :
    (work.removeDeclaration direction port value).ctx.tables = work.ctx.tables :=
  tables_leaveRequest work.ctx port value

@[simp] theorem tables_withdrawDeclaration (id : AttrId) (value : AttributeValue) :
    (work.withdrawDeclaration direction port id value).1.ctx.tables = work.ctx.tables := by
  unfold withdrawDeclaration
  split
  · exact tables_leaveRequest work.ctx port value
  · have freed : (work.ctx.modifyApp port (mrpProcessAttributeFreeImmediate id)).tables = work.ctx.tables :=
      tables_setApp work.ctx port (mrpProcessAttributeFreeImmediate_enabled _ _)
    dsimp only
    split
    · exact freed
    · exact freed

@[simp] theorem tables_joinDeclaration (value : AttributeValue) (new immediate : Bool) :
    (work.joinDeclaration direction port value new immediate).ctx.tables = work.ctx.tables := by
  cases immediate with
  | true =>
    exact tables_ite (tables_joinImmediate work.ctx port value) (tables_joinImmediate work.ctx port value)
  | false =>
    exact tables_ite (tables_joinRequest work.ctx port value new)
      (tables_joinRequest work.ctx port value new)

@[simp] theorem tables_updateDeclaration (value : AttributeValue) (changed : AttributeValue → Bool) (new : Bool) :
    (work.updateDeclaration direction port value changed new).ctx.tables = work.ctx.tables := by
  unfold updateDeclaration
  dsimp only
  split
  next replaced immediate found =>
    have same : replaced.ctx.tables = work.ctx.tables := by
      split at found
      · split at found
        · cases found; rfl
        next id previous _ =>
          split at found
          · have withdrawn := tables_withdrawDeclaration work direction port id previous
            cases withdrawn' : work.withdrawDeclaration direction port id previous with
            | mk next other =>
              rw [withdrawn'] at found withdrawn
              cases found
              exact withdrawn
          · cases found
      · cases found
    rw [tables_declarationStatus]
    split
    · exact same
    · rw [tables_joinDeclaration,same]
  · split
    · rfl
    · split
      · rw [tables_declarationStatus,tables_joinDeclaration]
      · rw [tables_joinDeclaration]

@[simp] theorem tables_releaseReservation : (work.releaseReservation port).ctx.tables = work.ctx.tables := by
  unfold releaseReservation
  split
  · rfl
  · split
    · rfl
    · dsimp only
      rw [tables_updateFqtss]
      split
      · rw [tables_fdbUpdate]
      · rfl

@[simp] theorem tables_talkerRemoveDeclaration : (work.talkerRemoveDeclaration port).ctx.tables = work.ctx.tables := by
  unfold talkerRemoveDeclaration
  split
  · rfl
  · rw [tables_removeDeclaration,tables_releaseReservation]

@[simp] theorem tables_talkerReserve (type : TalkerDeclarationType) (code : FailureCode) :
    (work.talkerReserve port type code).1.ctx.tables = work.ctx.tables := by
  unfold talkerReserve
  split
  · have updated := tables_updateFqtss work port work.stream.fv.advertise true
    split
    next equal =>
      rw [equal] at updated
      rw [tables_releaseReservation,updated]
    next next equal =>
      rw [equal] at updated
      split
      · have forwarded := tables_fdbUpdate next port next.stream.fv.advertise true
        split
        next equal' =>
          rw [equal'] at forwarded
          rw [tables_releaseReservation,forwarded,updated]
        next equal' =>
          rw [equal'] at forwarded
          exact forwarded.trans updated
      · exact updated
  · rw [tables_releaseReservation]

@[simp] theorem tables_talkerUpdateDeclaration (type : TalkerDeclarationType) (code : FailureCode) (new : Bool) :
    (work.talkerUpdateDeclaration port type code new).ctx.tables = work.ctx.tables := by
  unfold talkerUpdateDeclaration
  simp

@[simp] theorem tables_listenerRemoveDeclaration :
    (work.listenerRemoveDeclaration port).ctx.tables = work.ctx.tables := by
  unfold listenerRemoveDeclaration
  split
  · rfl
  · dsimp only
    rw [tables_removeDeclaration]
    split
    · rw [tables_deregisterVlan]
    · rfl

@[simp] theorem tables_listenerUpdateDeclaration (merged : ListenerDeclarationType) (new : Bool) :
    (work.listenerUpdateDeclaration port merged new).ctx.tables = work.ctx.tables := by
  unfold listenerUpdateDeclaration
  rw [tables_updateDeclaration]
  split
  · rfl
  · split
    · rw [tables_deregisterVlan]
    · rw [tables_registerVlan]

@[simp] theorem tables_removeIfDeclared : (work.removeIfDeclared direction port).ctx.tables = work.ctx.tables := by
  unfold removeIfDeclared
  split
  · match direction with
    | .TALKER => exact tables_talkerRemoveDeclaration work port
    | .LISTENER => exact tables_listenerRemoveDeclaration work port
  · rfl

private theorem tables_foldl {f : Work → Nat → Work} (same : ∀ work port, (f work port).ctx.tables = work.ctx.tables)
    (ports : List Nat) : (ports.foldl f work).ctx.tables = work.ctx.tables := by
  induction ports generalizing work with
  | nil => rfl
  | cons port rest ih => exact (ih (f work port)).trans (same work port)

@[simp] theorem tables_mapUpdateTalkerStream (new : Bool) :
    (work.msrpMapUpdateTalkerStream new).ctx.tables = work.ctx.tables := by
  unfold msrpMapUpdateTalkerStream
  split
  · exact tables_foldl work (fun work port => tables_removeIfDeclared work _ port) _
  · apply tables_foldl
    intro work port
    unfold talkerMapPort
    split
    · rw [tables_talkerUpdateDeclaration]
    · rw [tables_removeIfDeclared]

@[simp] theorem tables_mapUpdateListenerStream (new : Bool) :
    (work.msrpMapUpdateListenerStream new).ctx.tables = work.ctx.tables := by
  unfold msrpMapUpdateListenerStream
  split
  · exact tables_foldl work (fun work port => tables_removeIfDeclared work _ port) _
  · apply tables_foldl
    intro work port
    unfold listenerMapPort
    split
    · rw [tables_listenerUpdateDeclaration]
    · rw [tables_removeIfDeclared]

private theorem tables_ipcTalkerStatus : (work.msrpIpcTalkerStatus port).ctx.tables = work.ctx.tables := by
  unfold msrpIpcTalkerStatus
  split <;> rfl

private theorem tables_ipcListenerStatus : (work.msrpIpcListenerStatus port).ctx.tables = work.ctx.tables := by
  unfold msrpIpcListenerStatus
  split <;> rfl

theorem tables_listenerRegistrationMerge : (work.msrpListenerRegistrationMerge port).ctx.tables = work.ctx.tables := by
  have checked : (if work.readsReleased .LISTENER port then work.faulted (.releasedAttribute port) else work).ctx.tables =
      work.ctx.tables := tables_ite rfl rfl
  exact tables_ite ((tables_ipcTalkerStatus _ port).trans checked)
    (tables_ite ((tables_ipcTalkerStatus _ port).trans checked) checked)

theorem tables_stored (next : Work) (joined : Option AttributeValue) (same : next.ctx.tables = work.ctx.tables) :
    (match next.mergedTalkerType port,joined with
      | .FAILED,some (.talkerFailed value) =>
        next.modifyStream fun stream => {stream with fv := {stream.fv with failureInfo := value.failureInfo}}
      | _,_ => next).ctx.tables = work.ctx.tables := by
  split
  · exact same
  · exact same

theorem tables_talkerRegistrationMerge (joined : Option AttributeValue) :
    (work.msrpTalkerRegistrationMerge port joined).ctx.tables = work.ctx.tables := by
  have checked : (if work.readsReleased .TALKER port then work.faulted (.releasedAttribute port) else work).ctx.tables =
      work.ctx.tables := tables_ite rfl rfl
  have merged := @tables_stored _ port _ joined checked
  exact tables_ite ((tables_ipcListenerStatus _ port).trans merged)
    (tables_ite ((tables_ipcListenerStatus _ port).trans merged) merged)

end Work

@[simp] theorem tables_mapUpdateStream (new : Bool) (stream : MsrpStream) (ctx : MsrpCtx) :
    (msrpMapUpdateStream new stream ctx).tables = ctx.tables := by
  unfold msrpMapUpdateStream
  dsimp only
  have same := (Work.tables_mapUpdateListenerStream ((⟨stream,ctx⟩ : Work).msrpMapUpdateTalkerStream new) new).trans
    (Work.tables_mapUpdateTalkerStream ⟨stream,ctx⟩ new)
  split
  · exact same
  · exact same

@[simp] theorem tables_mapUpdate (ctx : MsrpCtx) : (msrpMapUpdate ctx).tables = ctx.tables := by
  have entries (streamIds : List StreamId) : (streamIds.foldl msrpMapUpdateEntry ctx).tables = ctx.tables := by
    induction streamIds generalizing ctx with
    | nil => rfl
    | cons streamId rest ih =>
      refine (ih _).trans ?_
      unfold msrpMapUpdateEntry
      split
      · rfl
      · rw [tables_mapUpdateStream]
  exact entries _

end Genavb.Msrp
