import Genavb.Srp.Mvrp.Runs

/-! The VLAN table of a bridge, as the calls of MVRP program it, against the registrations of
the VLAN objects. -/
namespace Genavb.Mvrp
open Support Mrp MvrpVlan List Function

abbrev VlanEntries := VlanId → Option (Nat → Bool)

def VlanTableCall.apply (entries : VlanEntries) : VlanTableCall → VlanEntries
  | .update vlanId port registered =>
    Function.update entries vlanId (some (Function.update ((entries vlanId).getD fun _ => false) port registered))
  | .delete vlanId => Function.update entries vlanId none

def programmed (calls : List VlanTableCall) : VlanEntries := calls.foldl VlanTableCall.apply fun _ => none

def entryHas (calls : List VlanTableCall) (vlanId : VlanId) (port : Nat) : Bool :=
  match programmed calls vlanId with
  | none => false
  | some ports => ports port

section Entries
variable {calls : List VlanTableCall} {vlanId other : VlanId} {port : Nat} {registered : Bool}

theorem programmed_snoc (calls : List VlanTableCall) (call : VlanTableCall) :
    programmed (calls ++ [call]) = call.apply (programmed calls) := by
  simp [programmed]

theorem programmed_update_other (different : other ≠ vlanId) :
    programmed (calls ++ [.update vlanId port registered]) other = programmed calls other := by
  rw [programmed_snoc]
  exact update_of_ne different _ _

theorem programmed_delete_other (different : other ≠ vlanId) :
    programmed (calls ++ [.delete vlanId]) other = programmed calls other := by
  rw [programmed_snoc]
  exact update_of_ne different _ _

theorem programmed_delete_self : programmed (calls ++ [.delete vlanId]) vlanId = none := by
  rw [programmed_snoc]
  exact update_self _ _ _

theorem entryHas_update (target : Nat) : entryHas (calls ++ [.update vlanId port registered]) vlanId target =
    if target = port then registered else entryHas calls vlanId target := by
  have self : programmed (calls ++ [.update vlanId port registered]) vlanId =
      some (Function.update ((programmed calls vlanId).getD fun _ => false) port registered) := by
    rw [programmed_snoc]
    exact update_self _ _ _
  unfold entryHas
  rw [self]
  dsimp only
  split
  next same => rw [same,update_self]
  next different =>
    rw [update_of_ne different]
    cases programmed calls vlanId with
    | none | some => rfl

end Entries

/-- The table holds the registered ports of the VLAN objects, and no entry without an object. -/
structure Tracked (ctx : MvrpCtx) : Prop where
  ports : ∀ vlanId target, entryHas ctx.vlanTable vlanId target = true ↔
    ∃ port, port < ctx.config.portMax ∧ ctx.config.logicalPort port = target ∧ ctx.vlanRegistered vlanId port = true
  entries : ∀ vlanId, programmed ctx.vlanTable vlanId ≠ none → (ctx.mvrpFindVlan vlanId).isSome = true

section Lookup
variable {ctx : MvrpCtx} {vlan : MvrpVlan}

theorem mvrpFindVlan_store_other {kept : MvrpVlan} {vlanId : VlanId} (different : vlanId ≠ kept.vlanId)
    (ctx : MvrpCtx) : (ctx.store kept).mvrpFindVlan vlanId = ctx.mvrpFindVlan vlanId := by
  unfold MvrpCtx.mvrpFindVlan MvrpCtx.store
  induction ctx.map.vlans with
  | nil => rfl
  | cons first rest ih =>
    by_cases here : first.vlanId = kept.vlanId
    · have away : ¬ kept.vlanId = vlanId := Ne.symm different
      have gone : ¬ first.vlanId = vlanId := here ▸ away
      simpa [here,gone,away] using ih
    · by_cases found : first.vlanId = vlanId
      · simp [found,different]
      · simpa [here,found] using ih

theorem mvrpFindVlan_free (vlan : MvrpVlan) (ctx : MvrpCtx) (vlanId : VlanId) :
    (ctx.mvrpFreeVlan vlan).mvrpFindVlan vlanId =
      if vlanId = vlan.vlanId then none else ctx.mvrpFindVlan vlanId := by
  unfold MvrpCtx.mvrpFindVlan MvrpCtx.mvrpFreeVlan
  induction ctx.map.vlans with
  | nil => simp
  | cons first rest ih =>
    by_cases here : first.vlanId = vlan.vlanId
    · by_cases same : vlanId = vlan.vlanId
      · simp [same] at ih ⊢
      · have gone : ¬ first.vlanId = vlanId := fun equal => same (equal ▸ here)
        simpa [here,same,gone,Ne.symm same] using ih
    · by_cases found : first.vlanId = vlanId
      · simp [found,found ▸ here]
      · simpa [here,found] using ih

theorem mvrpMapUpdateVlan_lookup (new : Bool) (alloc : Nat → AllocOutcome)
    (present : (ctx.mvrpFindVlan vlan.vlanId).isSome = true) :
    (∀ vlanId, vlanId ≠ vlan.vlanId →
      (mvrpMapUpdateVlan new alloc vlan ctx).mvrpFindVlan vlanId = ctx.mvrpFindVlan vlanId) ∧
    (mvrpMapUpdateVlan new alloc vlan ctx).fault = ctx.fault ∧
    if vlan.isRegisteredAny || vlan.isUserDeclaredAny then
      (mvrpMapUpdateVlan new alloc vlan ctx).vlanTable = ctx.vlanTable ∧
      ∃ kept, (mvrpMapUpdateVlan new alloc vlan ctx).mvrpFindVlan vlan.vlanId = some kept ∧
        kept.registeredState = vlan.registeredState
    else
      (mvrpMapUpdateVlan new alloc vlan ctx).mvrpFindVlan vlan.vlanId = none ∧
      (mvrpMapUpdateVlan new alloc vlan ctx).vlanTable =
        if ctx.config.isBridge then ctx.vlanTable ++ [.delete vlan.vlanId] else ctx.vlanTable := by
  obtain ⟨kept,apps,next,shape,_,made,updated⟩ := mvrpMapUpdateVlan_outcome new alloc vlan ctx
  have sameId : kept.vlanId = vlan.vlanId := by rw [shape]
  obtain ⟨before,found⟩ := Option.isSome_iff_exists.mp present
  have others : ∀ vlanId, vlanId ≠ vlan.vlanId → next.mvrpFindVlan vlanId = ctx.mvrpFindVlan vlanId := by
    intro vlanId different
    rw [made,mvrpFindVlan_store_other (sameId ▸ different)]
    rfl
  have own : next.mvrpFindVlan vlan.vlanId = some kept := by
    rw [made]
    exact mvrpFindVlan_store found sameId
  have table : next.vlanTable = ctx.vlanTable := by rw [made]; rfl
  have fault : next.fault = ctx.fault := by rw [made]; rfl
  have config : next.config = ctx.config := by rw [made]; rfl
  rw [updated]
  cases used : vlan.isRegisteredAny || vlan.isUserDeclaredAny with
  | true =>
    have stays : (!vlan.isRegisteredAny && !vlan.isUserDeclaredAny) = false := by
      rw [← Bool.not_or,used]
      rfl
    simp only [stays,Bool.false_eq_true,if_false,if_true]
    exact ⟨others,fault,table,kept,own,by rw [shape]⟩
  | false =>
    have freed : (!vlan.isRegisteredAny && !vlan.isUserDeclaredAny) = true := by
      rw [← Bool.not_or,used]
      rfl
    simp only [freed,Bool.false_eq_true,if_false,if_true]
    refine ⟨?_,fault,?_,?_⟩
    · intro vlanId different
      rw [mvrpFindVlan_free,sameId,if_neg different,others vlanId different]
    · rw [mvrpFindVlan_free,sameId,if_pos rfl]
    · simp only [MvrpCtx.mvrpFreeVlan,config,table,sameId]

theorem vlanRegistered_found {vlanId : VlanId} (found : ctx.mvrpFindVlan vlanId = some vlan) (port : Nat) :
    ctx.vlanRegistered vlanId port = vlan.isRegistered port := by
  simp [MvrpCtx.vlanRegistered,found]

theorem vlanRegistered_congr {next : MvrpCtx} {vlanId : VlanId}
    (same : next.mvrpFindVlan vlanId = ctx.mvrpFindVlan vlanId) (port : Nat) :
    next.vlanRegistered vlanId port = ctx.vlanRegistered vlanId port := by
  simp only [MvrpCtx.vlanRegistered,same]

end Lookup

section Tracked
variable {ctx next : MvrpCtx} {vlan : MvrpVlan}

variable (tracked : Tracked ctx)
include tracked

theorem Tracked.transfer (config : next.config = ctx.config)
    (table : next.vlanTable = ctx.vlanTable)
    (registered : ∀ vlanId port, next.vlanRegistered vlanId port = ctx.vlanRegistered vlanId port)
    (kept : ∀ vlanId, (ctx.mvrpFindVlan vlanId).isSome = true → (next.mvrpFindVlan vlanId).isSome = true) :
    Tracked next := by
  refine ⟨?_,?_⟩
  · intro vlanId target
    rw [table,config,tracked.ports]
    simp only [registered]
  · intro vlanId entry
    rw [table] at entry
    exact kept vlanId (tracked.entries vlanId entry)

theorem Tracked.delete {removed : VlanId} (config : next.config = ctx.config)
    (table : next.vlanTable = ctx.vlanTable ++ [.delete removed]) (gone : next.mvrpFindVlan removed = none)
    (others : ∀ vlanId, vlanId ≠ removed → next.mvrpFindVlan vlanId = ctx.mvrpFindVlan vlanId) : Tracked next := by
  refine ⟨?_,?_⟩
  · intro vlanId target
    rw [table,config]
    by_cases mine : vlanId = removed
    · subst mine
      rw [entryHas,programmed_delete_self]
      simp [MvrpCtx.vlanRegistered,gone]
    · rw [entryHas,programmed_delete_other mine]
      simp only [vlanRegistered_congr (others vlanId mine)]
      exact tracked.ports vlanId target
  · intro vlanId entry
    rw [table] at entry
    by_cases mine : vlanId = removed
    · exact absurd (mine ▸ programmed_delete_self) entry
    · rw [others vlanId mine]
      rw [programmed_delete_other mine] at entry
      exact tracked.entries vlanId entry

theorem Tracked.update (bridge : ctx.config.isBridge = true) (new : Bool)
    (alloc : Nat → AllocOutcome) (present : (ctx.mvrpFindVlan vlan.vlanId).isSome = true)
    (same : ∀ port, ctx.vlanRegistered vlan.vlanId port = vlan.isRegistered port) :
    Tracked (mvrpMapUpdateVlan new alloc vlan ctx) := by
  obtain ⟨others,_,own⟩ := mvrpMapUpdateVlan_lookup new alloc present
  have config := mvrpMapUpdateVlan_config new alloc vlan ctx
  split at own
  · obtain ⟨table,kept,found,registered⟩ := own
    refine tracked.transfer config table ?_ ?_
    · intro vlanId port
      by_cases mine : vlanId = vlan.vlanId
      · rw [mine,vlanRegistered_found found,same]
        simp only [isRegistered,registered]
      · exact vlanRegistered_congr (others vlanId mine) port
    · intro vlanId before
      by_cases mine : vlanId = vlan.vlanId
      · rw [mine,found]
        rfl
      · rw [others vlanId mine]
        exact before
  next unused =>
    obtain ⟨gone,table⟩ := own
    exact tracked.delete config table gone others

theorem Tracked.write {port : Nat} (vlanId : VlanId) (value : Bool)
    (distinct : ∀ p q, p < ctx.config.portMax → q < ctx.config.portMax →
      ctx.config.logicalPort p = ctx.config.logicalPort q → p = q)
    (inside : port < ctx.config.portMax) (config : next.config = ctx.config)
    (others : ∀ other, other ≠ vlanId → next.mvrpFindVlan other = ctx.mvrpFindVlan other)
    (kept : (next.mvrpFindVlan vlanId).isSome = true) (registered : ∀ q, q < ctx.config.portMax →
      next.vlanRegistered vlanId q = if q = port then value else ctx.vlanRegistered vlanId q)
    (table : next.vlanTable = ctx.vlanTable ++ [.update vlanId (ctx.config.logicalPort port) value]) :
    Tracked next := by
  refine ⟨?_,?_⟩
  · intro other target
    rw [table,config]
    by_cases mine : other = vlanId
    · subst mine
      rw [entryHas_update]
      split
      next here =>
        subst here
        constructor
        · intro set
          exact ⟨port,inside,rfl,by rw [registered port inside,if_pos rfl]; exact set⟩
        · intro ⟨q,within,same,has⟩
          have equal := distinct q port within inside same
          subst equal
          rw [registered q within,if_pos rfl] at has
          exact has
      next away =>
        rw [tracked.ports]
        apply exists_congr
        intro q
        constructor
        · intro ⟨within,same,has⟩
          have apart : q ≠ port := fun equal => away (equal ▸ same.symm)
          exact ⟨within,same,by rw [registered q within,if_neg apart]; exact has⟩
        · intro ⟨within,same,has⟩
          have apart : q ≠ port := fun equal => away (equal ▸ same.symm)
          rw [registered q within,if_neg apart] at has
          exact ⟨within,same,has⟩
    · rw [entryHas,programmed_update_other mine]
      simp only [vlanRegistered_congr (others other mine)]
      exact tracked.ports other target
  · intro other entry
    by_cases mine : other = vlanId
    · rw [mine]
      exact kept
    · rw [others other mine]
      rw [table,programmed_update_other mine] at entry
      exact tracked.entries other entry

end Tracked

section Handlers
variable {ctx : MvrpCtx}

def Follows (ctx : MvrpCtx) : Prop := ctx.fault = true ∨ Tracked ctx

structure MvrpConfig.Bridge (config : MvrpConfig) : Prop where
  isBridge : config.isBridge = true
  distinct : ∀ p q, p < config.portMax → q < config.portMax → config.logicalPort p = config.logicalPort q → p = q

theorem create_lookup (vlanId : VlanId) (memory : Bool) (ctx : MvrpCtx) :
    ctx.mvrpCreateVlan vlanId memory = (ctx,none) ∨
      ∃ next vlan, ctx.mvrpCreateVlan vlanId memory = (next,some vlan) ∧ vlan.vlanId = vlanId ∧
        next.mvrpFindVlan vlanId = some vlan ∧ next.config = ctx.config ∧ next.fault = ctx.fault ∧
        (Tracked ctx → Tracked next) := by
  unfold MvrpCtx.mvrpCreateVlan
  cases found : ctx.mvrpFindVlan vlanId with
  | some vlan => exact .inr ⟨ctx,vlan,rfl,(mvrpFindVlan_some found).2,found,rfl,rfl,id⟩
  | none =>
    dsimp only
    split
    · exact .inl rfl
    · split
      · exact .inl rfl
      · split
        · exact .inl rfl
        · refine .inr ⟨_,_,rfl,rfl,by simp [MvrpCtx.mvrpFindVlan],rfl,rfl,?_⟩
          intro tracked
          have others : ∀ other, other ≠ vlanId →
              MvrpCtx.mvrpFindVlan other {ctx with map := {ctx.map with
                vlans := ⟨0,0,vlanId,0,fun _ => 0⟩ :: ctx.map.vlans, numVlans := ctx.map.numVlans + 1}} =
              ctx.mvrpFindVlan other := by
            intro other different
            simp [MvrpCtx.mvrpFindVlan,Ne.symm different]
          refine tracked.transfer rfl rfl ?_ ?_
          · intro other port
            by_cases mine : other = vlanId
            · subst mine
              simp [MvrpCtx.vlanRegistered,found]
              simp [MvrpCtx.mvrpFindVlan,isRegistered]
            · exact vlanRegistered_congr (others other mine) port
          · intro other present
            by_cases mine : other = vlanId
            · rw [mine,found] at present
              exact absurd present Bool.false_ne_true
            · rw [others other mine]
              exact present

variable {vlanId : VlanId}

theorem store_tracked {vlan kept : MvrpVlan} (tracked : Tracked ctx)
    (found : ctx.mvrpFindVlan vlanId = some vlan) (sameId : kept.vlanId = vlanId)
    (same : kept.registeredState = vlan.registeredState) : Tracked (ctx.store kept) := by
  have own := mvrpFindVlan_store found sameId
  refine tracked.transfer rfl rfl ?_ ?_
  · intro other port
    by_cases mine : other = vlanId
    · rw [mine,vlanRegistered_found own,vlanRegistered_found found]
      simp only [isRegistered,same]
    · exact vlanRegistered_congr (mvrpFindVlan_store_other (sameId ▸ mine) ctx) port
  · intro other present
    by_cases mine : other = vlanId
    · rw [mine,own]
      rfl
    · rw [mvrpFindVlan_store_other (sameId ▸ mine)]
      exact present

theorem Follows.update {vlan : MvrpVlan} (follows : Follows ctx)
    (bridge : ctx.config.isBridge = true) (changed : MvrpVlan) (found : ctx.mvrpFindVlan vlanId = some vlan)
    (sameId : changed.vlanId = vlanId) (same : changed.registeredState = vlan.registeredState) (new : Bool)
    (alloc : Nat → AllocOutcome) : Follows (mvrpMapUpdateVlan new alloc changed ctx) := by
  subst sameId
  have present : (ctx.mvrpFindVlan changed.vlanId).isSome = true := by rw [found]; rfl
  rcases follows with fault | tracked
  · exact .inl ((mvrpMapUpdateVlan_lookup new alloc present).2.1.trans fault)
  · refine .inr (tracked.update bridge new alloc present ?_)
    intro port
    rw [vlanRegistered_found found]
    simp only [isRegistered,same]

theorem Follows.modify {f : MvrpVlan → MvrpVlan} (follows : Follows ctx)
    (sameId : ∀ vlan, (f vlan).vlanId = vlan.vlanId) (same : ∀ vlan, (f vlan).registeredState = vlan.registeredState) :
    Follows (ctx.modifyVlan vlanId f) := by
  unfold MvrpCtx.modifyVlan
  split
  · exact .inl rfl
  next vlan found =>
    rcases follows with fault | tracked
    · exact .inl fault
    · exact .inr (store_tracked tracked found ((sameId vlan).trans (mvrpFindVlan_some found).2) (same vlan))

section
variable (bridge : ctx.config.isBridge = true)
include bridge

theorem Follows.register (follows : Follows ctx) (logicalPort : Nat)
    (vlanId : VlanId) (resources : Resources) : Follows (ctx.mvrpRegisterVlanMember logicalPort vlanId resources).1 := by
  unfold MvrpCtx.mvrpRegisterVlanMember
  split
  · exact follows
  next port _ =>
    rcases create_lookup vlanId resources.memory ctx with refused | ⟨next,vlan,created,sameId,found,config,fault,kept⟩
    · rw [refused]
      exact follows
    rw [created]
    have nextFollows : Follows next := follows.imp (fault.trans ·) kept
    refine Follows.modify ?_ (fun _ => rfl) (fun _ => rfl)
    split
    · exact nextFollows.update (config ▸ bridge) (vlan.userDeclarationSet port) found sameId rfl _ _
    · exact nextFollows

theorem Follows.deregister (follows : Follows ctx) (logicalPort : Nat) (vlanId : VlanId) (resources : Resources) :
    Follows (ctx.mvrpDeregisterVlanMember logicalPort vlanId resources).1 := by
  unfold MvrpCtx.mvrpDeregisterVlanMember
  split
  · exact follows
  next port _ =>
    split
    · exact follows
    next vlan found =>
      have sameId := (mvrpFindVlan_some found).2
      have counted : ∀ changed : MvrpVlan, changed.vlanId = vlan.vlanId →
          changed.registeredState = vlan.registeredState →
          Follows (if changed.refCount port = 0 then
            (mvrpMapUpdateVlan false resources.alloc (changed.userDeclarationClear port) ctx,Status.SUCCESS)
            else (ctx.store changed,Status.SUCCESS)).1 := by
        intro changed id registered
        split
        · exact follows.update bridge (changed.userDeclarationClear port) found (id.trans sameId) registered _ _
        · rcases follows with fault | tracked
          · exact .inl fault
          · exact .inr (store_tracked tracked found (id.trans sameId) registered)
      split
      · exact counted (vlan.refCountDown port) rfl rfl
      · exact counted vlan rfl rfl

theorem vlanUpdate_bridge (port : Nat) (vlanId : VlanId) (registered : Bool) :
    (ctx.vlanUpdate port vlanId registered).vlanTable =
      ctx.vlanTable ++ [.update vlanId (ctx.config.logicalPort port) registered] ∧
    (ctx.vlanUpdate port vlanId registered).map = ctx.map ∧
    (ctx.vlanUpdate port vlanId registered).fault = (ctx.fault || (ctx.mvrpFindVlan vlanId).isNone) := by
  unfold MvrpCtx.vlanUpdate
  rw [if_pos bridge]
  split
  next gone => exact ⟨rfl,rfl,by rw [gone]; simp [MvrpCtx.faulted]⟩
  next there => exact ⟨rfl,rfl,by simp [there]⟩

end

section
variable (follows : Follows ctx)
include follows

theorem Follows.indication {vlan : MvrpVlan} {port : Nat} {value : Bool}
(changed : MvrpVlan) (bridge : ctx.config.Bridge) (inside : port < ctx.config.portMax)
    (found : ctx.mvrpFindVlan vlanId = some vlan) (sameId : changed.vlanId = vlanId)
    (bits : ∀ q, q < 16 → changed.isRegistered q = if q = port then value else vlan.isRegistered q) (new : Bool)
    (alloc : Nat → AllocOutcome) : Follows ((mvrpMapUpdateVlan new alloc changed ctx).vlanUpdate port vlanId value) := by
  subst sameId
  have present : (ctx.mvrpFindVlan changed.vlanId).isSome = true := by rw [found]; rfl
  obtain ⟨others,fault,own⟩ := mvrpMapUpdateVlan_lookup new alloc present
  have config := mvrpMapUpdateVlan_config new alloc changed ctx
  obtain ⟨table,map,faultAfter⟩ := vlanUpdate_bridge (by rw [config]; exact bridge.isBridge) port changed.vlanId value
  rcases follows with broken | tracked
  · left
    rw [faultAfter,fault,broken]
    rfl
  split at own
  · obtain ⟨sameTable,kept,at_kept,registered⟩ := own
    right
    have sameFind : ∀ other, ((mvrpMapUpdateVlan new alloc changed ctx).vlanUpdate port changed.vlanId value).mvrpFindVlan
        other = (mvrpMapUpdateVlan new alloc changed ctx).mvrpFindVlan other := by
      intro other
      simp only [MvrpCtx.mvrpFindVlan,map]
    refine tracked.write changed.vlanId value bridge.distinct inside ?_ ?_ ?_ ?_ ?_
    · rw [vlanUpdate_config,config]
    · intro other different
      rw [sameFind,others other different]
    · rw [sameFind,at_kept]
      rfl
    · intro q within
      rw [vlanRegistered_congr (sameFind changed.vlanId),vlanRegistered_found at_kept,vlanRegistered_found found]
      have small : q < 16 := by
        have := ctx.config.portMax_bound
        omega
      rw [← bits q small]
      simp only [isRegistered,registered]
    · rw [table,sameTable,config]
  · left
    rw [faultAfter,own.1]
    simp

theorem Follows.joinIndication (bridge : ctx.config.Bridge) {port : Nat}
    (inside : port < ctx.config.portMax) (vlanId : VlanId) (new : Bool) (resources : Resources) :
    Follows (ctx.mvrpJoinIndication port vlanId new resources) := by
  unfold MvrpCtx.mvrpJoinIndication
  rcases create_lookup vlanId resources.memory ctx with refused | ⟨next,vlan,created,sameId,found,config,fault,kept⟩
  · rw [refused]
    exact follows
  · rw [created]
    have nextFollows : Follows next := follows.imp (fault.trans ·) kept
    rw [← config] at bridge inside
    refine nextFollows.indication (vlan.registeredSet port) bridge inside found sameId ?_ _ _
    intro q small
    simp only [isRegistered,registeredSet,maskHas_set _ small]
    by_cases here : q = port
    · simp [here]
    · simp [here,Ne.symm here]

theorem Follows.leaveIndication (bridge : ctx.config.Bridge) {port : Nat}
    (inside : port < ctx.config.portMax) (vlanId : VlanId) (resources : Resources) :
    Follows (ctx.mvrpLeaveIndication port vlanId resources) := by
  unfold MvrpCtx.mvrpLeaveIndication
  split
  · exact follows
  next vlan found =>
    refine follows.indication (vlan.registeredClear port) bridge inside found (mvrpFindVlan_some found).2 ?_ _ _
    intro q small
    simp only [isRegistered,registeredClear,maskHas_clear _ small]
    by_cases here : q = port
    · simp [here]
    · simp [here,Ne.symm here]

theorem Follows.portStatus (bridge : ctx.config.isBridge = true) (logicalPort : Nat)
    (operational : Bool) (alloc : VlanId → Nat → AllocOutcome) :
    Follows (ctx.mvrpPortStatus logicalPort operational alloc) := by
  have entries : ∀ (vlanIds : List VlanId) (start : MvrpCtx), start.config.isBridge = true → Follows start →
      Follows (vlanIds.foldl (mvrpMapUpdateEntry alloc) start) := by
    intro vlanIds
    induction vlanIds with
    | nil => exact fun _ _ holds => holds
    | cons vlanId rest ih =>
      intro start switch holds
      rw [foldl_cons]
      unfold mvrpMapUpdateEntry
      split
      · exact ih _ switch (.inl rfl)
      next vlan found =>
        refine ih _ ?_ (holds.update switch vlan found (mvrpFindVlan_some found).2 rfl _ _)
        rw [mvrpMapUpdateVlan_config]
        exact switch
  unfold MvrpCtx.mvrpPortStatus
  split
  · exact follows
  · exact entries _ _ bridge (follows.imp id fun tracked => tracked.transfer rfl rfl (fun _ _ => rfl) fun _ => id)

end

theorem Tracked.free (tracked : Tracked ctx) (bridge : ctx.config.isBridge = true) (vlan : MvrpVlan) :
    Tracked (ctx.mvrpFreeVlan vlan) := by
  have table : (ctx.mvrpFreeVlan vlan).vlanTable = ctx.vlanTable ++ [.delete vlan.vlanId] := by
    simp only [MvrpCtx.mvrpFreeVlan,bridge,if_true]
  refine tracked.delete rfl table ?_ fun vlanId different => ?_
  · rw [mvrpFindVlan_free,if_pos rfl]
  · rw [mvrpFindVlan_free,if_neg different]

theorem Follows.setApp (follows : Follows ctx) (port : Nat) (app : MrpApplication VlanId) :
    Follows (ctx.setApp port app) :=
  follows.imp id fun tracked => tracked.transfer rfl rfl (fun _ _ => rfl) fun _ => id

/-- A turn of the last loop of `mvrp_exit`. -/
def mvrpWithdrawn (ctx : MvrpCtx) (vlan : MvrpVlan) : MvrpCtx :=
  let left := (List.range ctx.config.portMax).foldl (fun state port => mvrpWithdraw port state.1 state.2) (vlan,ctx)
  left.2.mvrpFreeVlan left.1

theorem mvrpWithdrawn_eq (ctx : MvrpCtx) (vlan : MvrpVlan) :
    ∃ kept apps, mvrpWithdrawn ctx vlan = MvrpCtx.mvrpFreeVlan kept {ctx with mrpApp := apps} := by
  obtain ⟨kept,apps,reached,_⟩ := withdraw_list (List.range ctx.config.portMax) vlan ctx
  unfold mvrpWithdrawn
  rw [reached]
  exact ⟨kept,apps,rfl⟩

theorem Follows.exit (follows : Follows ctx) (bridge : ctx.config.isBridge = true) : Follows ctx.mvrpExit := by
  have disabled : ∀ ports : List Nat, Follows (ports.foldl (fun ctx port =>
        if ctx.config.initialized port then ctx.setApp port (mrpDisable (ctx.mrpApp port)) else ctx) ctx) ∧
      (ports.foldl (fun ctx port =>
        if ctx.config.initialized port then ctx.setApp port (mrpDisable (ctx.mrpApp port)) else ctx) ctx).config =
          ctx.config := by
    intro ports
    induction ports using List.reverseRecOn with
    | nil => exact ⟨follows,rfl⟩
    | append_singleton ports port ih =>
      rw [foldl_append,foldl_cons,foldl_nil]
      split
      · exact ⟨ih.1.setApp _ _,ih.2⟩
      · exact ih
  have freed : ∀ (vlans : List MvrpVlan) (start : MvrpCtx), start.config.isBridge = true → Follows start →
      Follows (vlans.foldl (fun ctx vlan => mvrpWithdrawn ctx vlan) start) := by
    intro vlans
    induction vlans with
    | nil => exact fun _ _ holds => holds
    | cons vlan rest ih =>
      intro start switch holds
      obtain ⟨kept,apps,turn⟩ := mvrpWithdrawn_eq start vlan
      rw [foldl_cons,turn]
      refine ih _ switch (holds.imp id fun tracked => ?_)
      have withdrawn : Tracked {start with mrpApp := apps} :=
        tracked.transfer rfl rfl (fun _ _ => rfl) fun _ => id
      exact withdrawn.free switch kept
  exact freed _ _ (by rw [(disabled _).2]; exact bridge) (disabled _).1

theorem client_follows (config : MvrpConfig) (bridge : config.Bridge) (resources : Resources) {port : Nat}
    (inside : port < config.portMax) :
    (MvrpCtx.client resources port).Keeps fun ctx => ctx.config = config ∧ Follows ctx where
  setApp app _ holds := ⟨holds.1,holds.2.setApp port app⟩
  indication kind id state holds := by
    obtain ⟨same,follows⟩ := holds
    subst same
    simp only [MvrpCtx.client,MvrpCtx.mvrpIndication]
    split
    · exact ⟨rfl,.inl rfl⟩
    next attr _ =>
      cases kind with
      | new | join => exact ⟨mvrpJoinIndication_config _ _ _ _ _,follows.joinIndication bridge inside _ _ _⟩
      | leave => exact ⟨mvrpLeaveIndication_config _ _ _ _,follows.leaveIndication bridge inside _ _⟩

end Handlers

section Steps
variable {config : MvrpConfig} {ctx : MvrpCtx}

theorem mvrpRegisterVlanMember_config (logicalPort : Nat) (vlanId : VlanId) (resources : Resources) (ctx : MvrpCtx) :
    (ctx.mvrpRegisterVlanMember logicalPort vlanId resources).1.config = ctx.config := by
  unfold MvrpCtx.mvrpRegisterVlanMember
  split
  · rfl
  · have created := mvrpCreateVlan_config vlanId resources.memory ctx
    split
    next next made => exact (congrArg (fun pair => pair.1.config) made) ▸ created
    next next vlan made =>
      rw [made] at created
      have modified : ∀ (f : MvrpVlan → MvrpVlan) (ctx : MvrpCtx), (ctx.modifyVlan vlanId f).config = ctx.config := by
        intro f ctx
        unfold MvrpCtx.modifyVlan
        split <;> rfl
      rw [modified]
      split
      · exact (mvrpMapUpdateVlan_config _ _ _ _).trans created
      · exact created

theorem mvrpDeregisterVlanMember_config (logicalPort : Nat) (vlanId : VlanId) (resources : Resources)
    (ctx : MvrpCtx) : (ctx.mvrpDeregisterVlanMember logicalPort vlanId resources).1.config = ctx.config := by
  unfold MvrpCtx.mvrpDeregisterVlanMember
  split
  · rfl
  · split
    · rfl
    · dsimp only
      split
      · split
        · exact mvrpMapUpdateVlan_config _ _ _ _
        · rfl
      · split
        · exact mvrpMapUpdateVlan_config _ _ _ _
        · rfl

theorem mvrpPortStatus_config (logicalPort : Nat) (operational : Bool) (alloc : VlanId → Nat → AllocOutcome)
    (ctx : MvrpCtx) : (ctx.mvrpPortStatus logicalPort operational alloc).config = ctx.config := by
  have entries : ∀ (vlanIds : List VlanId) (start : MvrpCtx),
      (vlanIds.foldl (mvrpMapUpdateEntry alloc) start).config = start.config := by
    intro vlanIds
    induction vlanIds with
    | nil => exact fun _ => rfl
    | cons vlanId rest ih =>
      intro start
      rw [foldl_cons,ih]
      unfold mvrpMapUpdateEntry
      split
      · rfl
      · exact mvrpMapUpdateVlan_config _ _ _ _
  unfold MvrpCtx.mvrpPortStatus
  split
  · rfl
  · exact entries _ _

theorem mvrpExit_config (ctx : MvrpCtx) : ctx.mvrpExit.config = ctx.config := by
  have disabled : ∀ (ports : List Nat) (start : MvrpCtx), (ports.foldl (fun ctx port =>
      if ctx.config.initialized port then ctx.setApp port (mrpDisable (ctx.mrpApp port)) else ctx) start).config =
        start.config := by
    intro ports
    induction ports with
    | nil => exact fun _ => rfl
    | cons port rest ih =>
      intro start
      rw [foldl_cons,ih]
      split <;> rfl
  have freed : ∀ (vlans : List MvrpVlan) (start : MvrpCtx), (vlans.foldl (fun ctx vlan => mvrpWithdrawn ctx vlan) start).config =
      start.config := by
    intro vlans
    induction vlans with
    | nil => exact fun _ => rfl
    | cons vlan rest ih =>
      intro start
      obtain ⟨kept,apps,turn⟩ := mvrpWithdrawn_eq start vlan
      rw [foldl_cons,turn]
      rw [ih]
      rfl
  exact (freed _ _).trans (disabled _ _)

theorem follows_step (bridge : config.Bridge) (input : MvrpInput) (holds : ctx.config = config ∧ Follows ctx) :
    (mvrpStep input ctx).config = config ∧ Follows (mvrpStep input ctx) := by
  have whole := holds
  obtain ⟨same,follows⟩ := holds
  subst same
  cases input with
  | ipc message resources =>
    cases message with
    | vlanRegister correctLength port vlanId =>
      simp only [mvrpStep,mvrpIpcRx]
      split
      · exact whole
      · exact ⟨mvrpRegisterVlanMember_config _ _ _ _,follows.register bridge.isBridge _ _ _⟩
    | vlanDeregister correctLength port vlanId =>
      simp only [mvrpStep,mvrpIpcRx]
      split
      · exact whole
      · exact ⟨mvrpDeregisterVlanMember_config _ _ _ _,follows.deregister bridge.isBridge _ _ _⟩
    | unknown => exact whole
  | packet port memory length meets =>
    simp only [mvrpStep,MvrpCtx.mvrpProcessPacket]
    split
    · exact whole
    next inside =>
      split
      · exact whole
      · have within : port < ctx.config.portMax := Nat.lt_of_not_le inside
        have every : ∀ deliveries : List (Delivery × Nat),
            (fun reached : MvrpCtx => reached.config = ctx.config ∧ Follows reached)
              (deliveries.foldl (fun ctx item => ctx.mvrpDeliver port (meets.resources item.2) (meets.alloc item.2)
                (meets.random item.2) item.1) ctx) := by
          intro deliveries
          induction deliveries using List.reverseRecOn with
          | nil => exact whole
          | append_singleton deliveries item ih =>
            rw [foldl_append,foldl_cons,foldl_nil]
            unfold MvrpCtx.mvrpDeliver
            split <;> exact (client_follows ctx.config bridge _ within).trigger _ ih
        exact every _
  | mrp port trigger resources =>
    simp only [mvrpStep]
    split
    next inside => exact (client_follows ctx.config bridge resources inside).trigger trigger whole
    · exact whole
  | joinIndication port vlanId new resources =>
    simp only [mvrpStep]
    split
    next inside => exact ⟨mvrpJoinIndication_config _ _ _ _ _,follows.joinIndication bridge inside _ _ _⟩
    · exact whole
  | leaveIndication port vlanId resources =>
    simp only [mvrpStep]
    split
    next inside => exact ⟨mvrpLeaveIndication_config _ _ _ _,follows.leaveIndication bridge inside _ _⟩
    · exact whole
  | portStatus logicalPort operational alloc =>
    exact ⟨mvrpPortStatus_config _ _ _ _,follows.portStatus bridge.isBridge _ _ _⟩
  | exit => exact ⟨mvrpExit_config _,follows.exit bridge.isBridge⟩

end Steps

section Run
variable {config : MvrpConfig} {mrp : MrpConfig} {random : Nat → Nat} {inputs : List MvrpInput}

/-- The table of a bridge holds exactly the registered ports of every VLAN, and no entry for a
VLAN without an object, as long as no released object was read. -/
theorem vlan_table_follows (bridge : config.Bridge)
    (clean : (run mvrpStep inputs (MvrpCtx.mvrpInit config mrp random)).fault = false) :
    (∀ vlanId target, entryHas (run mvrpStep inputs (MvrpCtx.mvrpInit config mrp random)).vlanTable vlanId target = true ↔
      ∃ port, port < config.portMax ∧ config.logicalPort port = target ∧
        (run mvrpStep inputs (MvrpCtx.mvrpInit config mrp random)).vlanRegistered vlanId port = true) ∧
    ∀ vlanId, (run mvrpStep inputs (MvrpCtx.mvrpInit config mrp random)).mvrpFindVlan vlanId = none →
      programmed (run mvrpStep inputs (MvrpCtx.mvrpInit config mrp random)).vlanTable vlanId = none := by
  have initial : Tracked (MvrpCtx.mvrpInit config mrp random) := by
    refine ⟨?_,fun vlanId entry => absurd rfl entry⟩
    intro vlanId target
    simp [MvrpCtx.mvrpInit,entryHas,programmed,MvrpCtx.vlanRegistered,MvrpCtx.mvrpFindVlan]
  have preserved : ∀ ctx input, (ctx.config = config ∧ Follows ctx) → True →
      (mvrpStep input ctx).config = config ∧ Follows (mvrpStep input ctx) :=
    fun ctx input holds _ => follows_step bridge input holds
  obtain ⟨same,broken | tracked⟩ := run_invariant mvrpStep preserved ⟨rfl,.inr initial⟩
    (steps_always mvrpStep inputs _)
  · rw [clean] at broken
    exact absurd broken Bool.false_ne_true
  refine ⟨?_,?_⟩
  · intro vlanId target
    rw [tracked.ports,same]
  · intro vlanId gone
    by_contra entry
    have there := tracked.entries vlanId entry
    rw [gone] at there
    exact absurd there Bool.false_ne_true

end Run

section Examples

theorem twoPorts_bridge : twoPorts.Bridge := ⟨rfl,fun _ _ _ _ same => same⟩

theorem vlan_table_follows_joined :
    (∀ vlanId target, entryHas (run mvrpStep [.joinIndication 1 5 true plenty]
        (MvrpCtx.mvrpInit twoPorts vidConfig fun _ => 10000)).vlanTable vlanId target = true ↔
      ∃ port, port < 2 ∧ port = target ∧ (run mvrpStep [.joinIndication 1 5 true plenty]
        (MvrpCtx.mvrpInit twoPorts vidConfig fun _ => 10000)).vlanRegistered vlanId port = true) ∧
    ∀ vlanId, (run mvrpStep [.joinIndication 1 5 true plenty]
        (MvrpCtx.mvrpInit twoPorts vidConfig fun _ => 10000)).mvrpFindVlan vlanId = none →
      programmed (run mvrpStep [.joinIndication 1 5 true plenty]
        (MvrpCtx.mvrpInit twoPorts vidConfig fun _ => 10000)).vlanTable vlanId = none :=
  vlan_table_follows twoPorts_bridge rfl

/-- A VLAN the user declared has no entry, and the leave indication of a VLAN that nothing else
needs reads the released object and programs an entry after the deletion. -/
theorem vlan_table_departs :
    ((run mvrpStep [registerFive plenty] (MvrpCtx.mvrpInit twoPorts vidConfig fun _ => 10000)).vlanUserDeclared 5 0 =
        true ∧
      entryHas (run mvrpStep [registerFive plenty]
        (MvrpCtx.mvrpInit twoPorts vidConfig fun _ => 10000)).vlanTable 5 0 = false) ∧
    (run mvrpStep [.joinIndication 1 5 true plenty,.leaveIndication 1 5 plenty]
        (MvrpCtx.mvrpInit twoPorts vidConfig fun _ => 10000)).vlanTable =
      [.update 5 1 true,.delete 5,.update 5 1 false] ∧
    (run mvrpStep [.joinIndication 1 5 true plenty,.leaveIndication 1 5 plenty]
        (MvrpCtx.mvrpInit twoPorts vidConfig fun _ => 10000)).fault = true :=
  ⟨⟨rfl,rfl⟩,rfl,rfl⟩

end Examples

end Genavb.Mvrp
