import Genavb.Srp.Mvrp.Update

/-! The VLAN database of MVRP stays consistent over every run. -/
namespace Genavb.Mvrp
open Support Mrp List Function Option

/-- A VLAN object is on the list for a reason, and its declarations are those its
registrations and user declarations ask for. -/
structure Placed (ctx : MvrpCtx) (vlan : MvrpVlan) : Prop where
  registered : ∀ port, port < 16 → vlan.isRegistered port = true → port < ctx.config.portMax
  user : ∀ port, port < 16 → vlan.isUserDeclared port = true → port < ctx.config.portMax
  used : ∃ port, port < ctx.config.portMax ∧ (vlan.isRegistered port = true ∨ vlan.isUserDeclared port = true)
  declared : ∀ port, port < ctx.config.portMax → vlan.isDeclared port = true → ctx.map.wants vlan port = true
  wanted : ∀ port, port < ctx.config.portMax → ctx.map.wants vlan port = true →
    vlan.isDeclared port = true ∨ refused ctx vlan.vlanId port

def Counted (ctx : MvrpCtx) (vlan : MvrpVlan) : Prop :=
  ∀ port, port < ctx.config.portMax → (0 < vlan.refCount port ↔ vlan.isUserDeclared port = true)

structure Table (ctx : MvrpCtx) : Prop where
  distinct : (ctx.map.vlans.map (·.vlanId)).Nodup
  number : ctx.map.numVlans = ctx.map.vlans.length
  most : ctx.map.numVlans ≤ CFG_MVRP_MAX_VLANS

structure Consistent (ctx : MvrpCtx) : Prop where
  table : Table ctx
  placed : ∀ vlan ∈ ctx.map.vlans, Placed ctx vlan
  counted : ∀ vlan ∈ ctx.map.vlans, Counted ctx vlan

section Table
variable {ctx : MvrpCtx} {vlan : MvrpVlan} {vlanId : VlanId}

theorem mvrpFindVlan_some (found : ctx.mvrpFindVlan vlanId = some vlan) :
    vlan ∈ ctx.map.vlans ∧ vlan.vlanId = vlanId :=
  ⟨mem_of_find?_eq_some found,by simpa using List.find?_some found⟩

theorem mvrpFindVlan_none (missing : ctx.mvrpFindVlan vlanId = none) :
    ∀ vlan ∈ ctx.map.vlans, vlan.vlanId ≠ vlanId := by
  intro vlan member
  simpa using List.find?_eq_none.mp missing vlan member

theorem length_filter_key {vlans : List MvrpVlan} (distinct : (vlans.map (·.vlanId)).Nodup)
    (present : vlanId ∈ vlans.map (·.vlanId)) :
    (vlans.filter fun other => other.vlanId != vlanId).length + 1 = vlans.length := by
  induction vlans with
  | nil => simp at present
  | cons first rest ih =>
    simp only [map_cons,nodup_cons] at distinct
    by_cases here : first.vlanId = vlanId
    · have others : ∀ other ∈ rest, (other.vlanId != vlanId) = true := by
        intro other member
        rw [bne_iff_ne]
        intro same
        exact distinct.1 (mem_map.mpr ⟨other,member,same.trans here.symm⟩)
      simp [here,filter_eq_self.mpr others]
    · have later : vlanId ∈ rest.map (·.vlanId) := by
        rcases mem_cons.mp present with same | later
        · exact absurd same.symm here
        · exact later
      simp [here,ih distinct.2 later]

theorem store_keys (vlan : MvrpVlan) (ctx : MvrpCtx) :
    (ctx.store vlan).map.vlans.map (·.vlanId) = ctx.map.vlans.map (·.vlanId) := by
  simp only [MvrpCtx.store,List.map_map]
  apply List.map_congr_left
  intro other _
  simp only [Function.comp_apply]
  split
  next same => exact same.symm
  · rfl

theorem Table.store (table : Table ctx) (vlan : MvrpVlan) : Table (ctx.store vlan) :=
  ⟨by rw [store_keys]; exact table.distinct,by simp [MvrpCtx.store,table.number],table.most⟩

theorem Table.free (table : Table ctx) (present : vlan.vlanId ∈ ctx.map.vlans.map (·.vlanId)) :
    Table (ctx.mvrpFreeVlan vlan) := by
  have length := length_filter_key table.distinct present
  have number := table.number
  have most := table.most
  refine ⟨?_,?_,?_⟩
  · exact table.distinct.sublist (filter_sublist.map _)
  · simp only [MvrpCtx.mvrpFreeVlan]
    omega
  · simp only [MvrpCtx.mvrpFreeVlan]
    omega

theorem Table.create (table : Table ctx) (vlan : MvrpVlan) (missing : ctx.mvrpFindVlan vlan.vlanId = none)
    (below : ctx.map.numVlans < CFG_MVRP_MAX_VLANS) :
    Table {ctx with map := {ctx.map with vlans := vlan :: ctx.map.vlans, numVlans := ctx.map.numVlans + 1}} := by
  refine ⟨?_,?_,below⟩
  · rw [map_cons,nodup_cons]
    refine ⟨?_,table.distinct⟩
    intro member
    obtain ⟨other,inside,same⟩ := mem_map.mp member
    exact mvrpFindVlan_none missing other inside same
  · simp [table.number]

end Table

theorem wants_congr {map next : MvrpMap} (same : next.forwardingState = map.forwardingState) (vlan : MvrpVlan)
    (port : Nat) : next.wants vlan port = map.wants vlan port := by
  simp only [MvrpMap.wants,MvrpMap.isForwarding,MvrpVlan.isRegisteredOtherForwarding,same]

variable {ctx : MvrpCtx} {vlan : MvrpVlan}

theorem Placed.transfer {next : MvrpCtx} (placed : Placed ctx vlan)
    (config : next.config = ctx.config) (forwarding : next.map.forwardingState = ctx.map.forwardingState)
    (requests : ∀ port, lastRequest next.requests vlan.vlanId port = lastRequest ctx.requests vlan.vlanId port) :
    Placed next vlan := by
  refine ⟨?_,?_,?_,?_,?_⟩
  · rw [config]
    exact placed.registered
  · rw [config]
    exact placed.user
  · rw [config]
    exact placed.used
  · intro port inside declared
    rw [wants_congr forwarding]
    exact placed.declared port (config ▸ inside) declared
  · intro port inside wanted
    rw [wants_congr forwarding] at wanted
    unfold refused
    rw [requests]
    exact placed.wanted port (config ▸ inside) wanted

structure Updated (ctx : MvrpCtx) (vlan : MvrpVlan) (next : MvrpCtx) : Prop where
  config : next.config = ctx.config
  forwarding : next.map.forwardingState = ctx.map.forwardingState
  table : Table next
  requests : ∀ vlanId port, vlanId ≠ vlan.vlanId →
    lastRequest next.requests vlanId port = lastRequest ctx.requests vlanId port
  origin : ∀ other ∈ next.map.vlans, (other ∈ ctx.map.vlans ∧ other.vlanId ≠ vlan.vlanId) ∨
    ((∃ declared, other = {vlan with declaredState := declared}) ∧ Placed next other)
  present : vlan.isRegisteredAny = true ∨ vlan.isUserDeclaredAny = true →
    vlan.vlanId ∈ next.map.vlans.map (·.vlanId)

structure OnPorts (ctx : MvrpCtx) (vlan : MvrpVlan) : Prop where
  registered : ∀ port, port < 16 → vlan.isRegistered port = true → port < ctx.config.portMax
  user : ∀ port, port < 16 → vlan.isUserDeclared port = true → port < ctx.config.portMax

theorem Placed.onPorts (placed : Placed ctx vlan) : OnPorts ctx vlan :=
  ⟨placed.registered,placed.user⟩

theorem mvrpMapUpdateVlan_updated (new : Bool) (alloc : Nat → AllocOutcome)
    (table : Table ctx) (present : vlan.vlanId ∈ ctx.map.vlans.map (·.vlanId)) (onPorts : OnPorts ctx vlan) :
    Updated ctx vlan (mvrpMapUpdateVlan new alloc vlan ctx) := by
  obtain ⟨kept,apps,next,shape,bits,made,updated⟩ := mvrpMapUpdateVlan_outcome new alloc vlan ctx
  have sameId : kept.vlanId = vlan.vlanId := by rw [shape]
  have asked : Table {ctx with
      mrpApp := apps
      requests := ctx.requests ++ (List.range ctx.config.portMax).filterMap (portRequest ctx new alloc vlan)} :=
    {table with}
  have nextTable : Table next := made ▸ asked.store kept
  have keys : next.map.vlans.map (·.vlanId) = ctx.map.vlans.map (·.vlanId) := by
    rw [made]
    exact store_keys kept _
  have config : next.config = ctx.config := by rw [made]; rfl
  have forwarding : next.map.forwardingState = ctx.map.forwardingState := by rw [made]; rfl
  have record : next.requests =
      ctx.requests ++ (List.range ctx.config.portMax).filterMap (portRequest ctx new alloc vlan) := by rw [made]; rfl
  have requests : ∀ vlanId port, vlanId ≠ vlan.vlanId →
      lastRequest next.requests vlanId port = lastRequest ctx.requests vlanId port := by
    intro vlanId port different
    rw [record,lastRequest_other different]
  have members : ∀ other ∈ next.map.vlans, (other ∈ ctx.map.vlans ∧ other.vlanId ≠ vlan.vlanId) ∨ other = kept := by
    intro other member
    rw [made] at member
    obtain ⟨before,inside,same⟩ := mem_map.mp member
    split at same
    · exact .inr same.symm
    next different => exact .inl ⟨same ▸ inside,by rw [← same,← sameId]; exact different⟩
  have within := ctx.config.portMax_bound
  have sameWants : ∀ port, next.map.wants kept port = ctx.map.wants vlan port := by
    intro port
    rw [wants_congr forwarding,shape]
    rfl
  have keptPlaced : vlan.isRegisteredAny = true ∨ vlan.isUserDeclaredAny = true → Placed next kept := by
    intro any
    refine ⟨?_,?_,?_,?_,?_⟩
    · rw [config,shape]
      exact onPorts.registered
    · rw [config,shape]
      exact onPorts.user
    · rw [config,shape]
      rcases any with some_registered | some_declared
      · obtain ⟨port,inside,has⟩ := (mask_ne_zero _).mp (bne_iff_ne.mp some_registered)
        exact ⟨port,onPorts.registered port inside has,.inl has⟩
      · obtain ⟨port,inside,has⟩ := (mask_ne_zero _).mp (bne_iff_ne.mp some_declared)
        exact ⟨port,onPorts.user port inside has,.inr has⟩
    · intro port inside declared
      rw [config] at inside
      rw [bits port (by omega),if_pos inside] at declared
      rw [sameWants]
      exact (Bool.and_eq_true_iff.mp declared).1
    · intro port inside wanted
      rw [config] at inside
      rw [sameWants] at wanted
      rw [bits port (by omega),if_pos inside]
      cases declared : declares ctx new alloc vlan port with
      | true => exact .inl rfl
      | false =>
        refine .inr ?_
        rw [refused,record,sameId]
        exact lastRequest_own inside wanted declared
  rw [updated]
  cases any : vlan.isRegisteredAny || vlan.isUserDeclaredAny with
  | false =>
    obtain ⟨unregistered,undeclared⟩ := Bool.or_eq_false_iff.mp any
    simp only [unregistered,undeclared,Bool.not_false,Bool.and_self,if_true]
    refine ⟨config,forwarding,nextTable.free (by rw [keys,sameId]; exact present),requests,?_,?_⟩
    · intro other member
      obtain ⟨inside,different⟩ := mem_filter.mp member
      rcases members other inside with old | same
      · exact .inl old
      · exact absurd (same ▸ rfl) (bne_iff_ne.mp different)
    · simp [unregistered,undeclared]
  | true =>
    have used := Bool.or_eq_true_iff.mp any
    have stays : (!vlan.isRegisteredAny && !vlan.isUserDeclaredAny) = false := by
      rw [← Bool.not_or,any]
      rfl
    simp only [stays,Bool.false_eq_true,if_false]
    refine ⟨config,forwarding,nextTable,requests,?_,?_⟩
    · intro other member
      rcases members other member with old | same
      · exact .inl old
      · exact .inr ⟨⟨kept.declaredState,same.trans shape⟩,same ▸ keptPlaced used⟩
    · intro _
      rw [keys]
      exact present

/-- The context while a handler holds one VLAN: the others are in order. -/
structure Held (ctx : MvrpCtx) (vlan : MvrpVlan) : Prop where
  table : Table ctx
  present : vlan.vlanId ∈ ctx.map.vlans.map (·.vlanId)
  onPorts : OnPorts ctx vlan
  counted : Counted ctx vlan
  others : ∀ other ∈ ctx.map.vlans, other.vlanId ≠ vlan.vlanId → Placed ctx other ∧ Counted ctx other

theorem Consistent.held {vlanId : VlanId} (consistent : Consistent ctx)
    (found : ctx.mvrpFindVlan vlanId = some vlan) : Held ctx vlan := by
  obtain ⟨member,_⟩ := mvrpFindVlan_some found
  exact ⟨consistent.table,mem_map.mpr ⟨vlan,member,rfl⟩,(consistent.placed vlan member).onPorts,
    consistent.counted vlan member,fun other inside _ => ⟨consistent.placed other inside,consistent.counted other inside⟩⟩

theorem Consistent.create (consistent : Consistent ctx) (vlanId : VlanId) (memory : Bool) :
    ctx.mvrpCreateVlan vlanId memory = (ctx,none) ∨
      ∃ next vlan, ctx.mvrpCreateVlan vlanId memory = (next,some vlan) ∧ vlan.vlanId = vlanId ∧ Held next vlan ∧
        next.config = ctx.config ∧ (∀ old, ctx.mvrpFindVlan vlanId = some old → vlan = old) ∧
        (ctx.mvrpFindVlan vlanId = none → ∀ port, vlan.refCount port = 0) := by
  unfold MvrpCtx.mvrpCreateVlan
  cases found : ctx.mvrpFindVlan vlanId with
  | some vlan =>
    exact .inr ⟨ctx,vlan,rfl,(mvrpFindVlan_some found).2,consistent.held found,rfl,fun old same =>
      Option.some.inj same,fun none => absurd none (some_ne_none vlan)⟩
  | none =>
    dsimp only
    split
    · exact .inl rfl
    next below =>
      split
      · exact .inl rfl
      · split
        · exact .inl rfl
        · refine .inr ⟨_,_,rfl,rfl,⟨?_,by simp,⟨?_,?_⟩,?_,?_⟩,rfl,fun old same => absurd same.symm (some_ne_none old),
            fun _ _ => rfl⟩
          · exact consistent.table.create ⟨0,0,vlanId,0,fun _ => 0⟩ found (Decidable.not_not.mp below)
          · intro port _ has
            simp [MvrpVlan.isRegistered] at has
          · intro port _ has
            simp [MvrpVlan.isUserDeclared] at has
          · intro port _
            simp [MvrpVlan.isUserDeclared]
          · intro other member different
            rcases mem_cons.mp member with same | old
            · exact absurd (same ▸ rfl) different
            · exact ⟨(consistent.placed other old).transfer rfl rfl fun _ => rfl,consistent.counted other old⟩

section Handlers
variable {ctx next : MvrpCtx} {vlan : MvrpVlan}

theorem Counted.transfer (counted : Counted ctx vlan) (config : next.config = ctx.config) : Counted next vlan := by
  unfold Counted
  rw [config]
  exact counted

theorem Updated.other {other : MvrpVlan} (updated : Updated ctx vlan next) (different : other.vlanId ≠ vlan.vlanId)
    (placed : Placed ctx other) : Placed next other :=
  placed.transfer updated.config updated.forwarding fun port => updated.requests other.vlanId port different

theorem Held.updated (held : Held ctx vlan) (changed : MvrpVlan) (same : changed.vlanId = vlan.vlanId)
    (onPorts : OnPorts ctx changed) (new : Bool) (alloc : Nat → AllocOutcome) :
    Updated ctx changed (mvrpMapUpdateVlan new alloc changed ctx) :=
  mvrpMapUpdateVlan_updated new alloc held.table (same ▸ held.present) onPorts

theorem Held.update (held : Held ctx vlan) (changed : MvrpVlan) (same : changed.vlanId = vlan.vlanId)
    (onPorts : OnPorts ctx changed) (counted : Counted ctx changed) (new : Bool) (alloc : Nat → AllocOutcome) :
    Consistent (mvrpMapUpdateVlan new alloc changed ctx) := by
  have updated := held.updated changed same onPorts new alloc
  refine ⟨updated.table,?_,?_⟩
  · intro other member
    rcases updated.origin other member with ⟨old,different⟩ | ⟨_,placed⟩
    · exact updated.other different (held.others other old (same ▸ different)).1
    · exact placed
  · intro other member
    rcases updated.origin other member with ⟨old,different⟩ | ⟨⟨declared,rfl⟩,_⟩
    · exact (held.others other old (same ▸ different)).2.transfer updated.config
    · exact fun port inside => counted port (updated.config ▸ inside)

variable {port : Nat}

section
variable (onPorts : OnPorts ctx vlan)
include onPorts

theorem OnPorts.registeredSet (inside : port < ctx.config.portMax) : OnPorts ctx (vlan.registeredSet port) := by
  refine ⟨?_,onPorts.user⟩
  intro j small has
  simp only [MvrpVlan.isRegistered,MvrpVlan.registeredSet,maskHas_set _ small,Bool.or_eq_true,decide_eq_true_eq] at has
  rcases has with old | here
  · exact onPorts.registered j small old
  · exact here ▸ inside

theorem OnPorts.registeredClear (port : Nat) : OnPorts ctx (vlan.registeredClear port) := by
  refine ⟨?_,onPorts.user⟩
  intro j small has
  simp only [MvrpVlan.isRegistered,MvrpVlan.registeredClear,maskHas_clear _ small,Bool.and_eq_true] at has
  exact onPorts.registered j small has.1

theorem OnPorts.userDeclarationSet (inside : port < ctx.config.portMax) :
    OnPorts ctx (vlan.userDeclarationSet port) := by
  refine ⟨onPorts.registered,?_⟩
  intro j small has
  simp only [MvrpVlan.isUserDeclared,MvrpVlan.userDeclarationSet,maskHas_set _ small,Bool.or_eq_true,
    decide_eq_true_eq] at has
  rcases has with old | here
  · exact onPorts.user j small old
  · exact here ▸ inside

theorem OnPorts.userDeclarationClear (port : Nat) : OnPorts ctx (vlan.userDeclarationClear port) := by
  refine ⟨onPorts.registered,?_⟩
  intro j small has
  simp only [MvrpVlan.isUserDeclared,MvrpVlan.userDeclarationClear,maskHas_clear _ small,Bool.and_eq_true] at has
  exact onPorts.user j small has.1

end

theorem Consistent.vlanUpdate (consistent : Consistent ctx) (port : Nat) (vlanId : VlanId) (registered : Bool) :
    Consistent (ctx.vlanUpdate port vlanId registered) := by
  unfold MvrpCtx.vlanUpdate
  split
  · dsimp only
    split <;> exact ⟨{consistent.table with},
      fun vlan member => (consistent.placed vlan member).transfer rfl rfl fun _ => rfl,consistent.counted⟩
  · exact consistent

theorem Consistent.joinIndication (consistent : Consistent ctx) (inside : port < ctx.config.portMax)
    (vlanId : VlanId) (new : Bool) (resources : Resources) :
    Consistent (ctx.mvrpJoinIndication port vlanId new resources) := by
  unfold MvrpCtx.mvrpJoinIndication
  rcases consistent.create vlanId resources.memory with refused | ⟨next,vlan,created,_,held,config,_⟩
  · rw [refused]
    exact consistent
  · rw [created]
    apply Consistent.vlanUpdate
    rw [← config] at inside
    exact held.update (vlan.registeredSet port) rfl (held.onPorts.registeredSet inside) held.counted _ _

theorem Consistent.leaveIndication (consistent : Consistent ctx) (port : Nat) (vlanId : VlanId)
    (resources : Resources) : Consistent (ctx.mvrpLeaveIndication port vlanId resources) := by
  unfold MvrpCtx.mvrpLeaveIndication
  split
  · exact consistent
  next vlan found =>
    have held := consistent.held found
    exact (held.update (vlan.registeredClear port) rfl (held.onPorts.registeredClear port) held.counted _ _).vlanUpdate
      _ _ _

theorem store_consistent (table : Table ctx) (vlan : MvrpVlan) (placed : Placed ctx vlan) (counted : Counted ctx vlan)
    (others : ∀ other ∈ ctx.map.vlans, other.vlanId ≠ vlan.vlanId → Placed ctx other ∧ Counted ctx other) :
    Consistent (ctx.store vlan) := by
  have each : ∀ other ∈ (ctx.store vlan).map.vlans, Placed ctx other ∧ Counted ctx other := by
    intro other member
    obtain ⟨before,inside,same⟩ := mem_map.mp member
    split at same
    · exact same ▸ ⟨placed,counted⟩
    next different => exact same ▸ others before inside different
  exact ⟨table.store vlan,fun other member => (each other member).1.transfer rfl rfl fun _ => rfl,
    fun other member => (each other member).2⟩

theorem Placed.recount (placed : Placed ctx vlan) (refCount : Nat → Nat) :
    Placed ctx {vlan with refCount := refCount} :=
  {placed with}

theorem logicalToMvrpPort_inside {logicalPort : Nat} (found : ctx.logicalToMvrpPort logicalPort = some port) :
    port < ctx.config.portMax := by
  unfold MvrpCtx.logicalToMvrpPort at found
  split at found
  · exact absurd found.symm (some_ne_none _)
  next first here =>
    split at found
    · exact Option.some.inj found ▸ mem_range.mp (mem_of_find?_eq_some here)
    · exact absurd found.symm (some_ne_none _)

theorem Counted.up (others : ∀ j, j < ctx.config.portMax → j ≠ port →
      (0 < vlan.refCount j ↔ vlan.isUserDeclared j = true))
    (declared : vlan.isUserDeclared port = true) (below : vlan.refCount port + 1 < 2 ^ 32) :
    Counted ctx (vlan.refCountUp port) := by
  intro j inside
  simp only [MvrpVlan.refCountUp,MvrpVlan.isUserDeclared]
  by_cases here : j = port
  · subst here
    rw [update_self,Nat.mod_eq_of_lt below]
    exact iff_of_true (Nat.succ_pos _) declared
  · rw [update_of_ne here]
    exact others j inside here

theorem modifyVlan_consistent {vlanId : VlanId} {f : MvrpVlan → MvrpVlan} (table : Table ctx)
    (present : vlanId ∈ ctx.map.vlans.map (·.vlanId)) (sameId : ∀ vlan, (f vlan).vlanId = vlan.vlanId)
    (own : ∀ vlan, ctx.mvrpFindVlan vlanId = some vlan → Placed ctx (f vlan) ∧ Counted ctx (f vlan))
    (others : ∀ other ∈ ctx.map.vlans, other.vlanId ≠ vlanId → Placed ctx other ∧ Counted ctx other) :
    Consistent (ctx.modifyVlan vlanId f) := by
  unfold MvrpCtx.modifyVlan
  split
  next missing =>
    obtain ⟨vlan,member,same⟩ := mem_map.mp present
    exact absurd same (mvrpFindVlan_none missing vlan member)
  next vlan found =>
    have both := own vlan found
    refine store_consistent table (f vlan) both.1 both.2 ?_
    rw [sameId,(mvrpFindVlan_some found).2]
    exact others

theorem maskSet_nonzero (vlan : MvrpVlan) (small : port < 16) :
    (vlan.userDeclarationSet port).isUserDeclaredAny = true := by
  rw [MvrpVlan.isUserDeclaredAny,bne_iff_ne,mask_ne_zero]
  exact ⟨port,small,by simp [MvrpVlan.userDeclarationSet,maskHas_set _ small]⟩

theorem Consistent.register (consistent : Consistent ctx) {logicalPort : Nat} {vlanId : VlanId}
    (resources : Resources)
    (below : ∀ port vlan, ctx.logicalToMvrpPort logicalPort = some port → ctx.mvrpFindVlan vlanId = some vlan →
      vlan.refCount port + 1 < 2 ^ 32) :
    Consistent (ctx.mvrpRegisterVlanMember logicalPort vlanId resources).1 := by
  unfold MvrpCtx.mvrpRegisterVlanMember
  cases located : ctx.logicalToMvrpPort logicalPort with
  | none => exact consistent
  | some port =>
    rcases consistent.create vlanId resources.memory with refused | ⟨next,vlan,created,sameId,held,config,old,fresh⟩
    · rw [refused]
      exact consistent
    rw [created]
    dsimp only
    have inside : port < next.config.portMax := config ▸ logicalToMvrpPort_inside located
    have small : vlan.refCount port + 1 < 2 ^ 32 := by
      cases found : ctx.mvrpFindVlan vlanId with
      | none =>
        rw [fresh found]
        decide
      | some before =>
        rw [old before found]
        exact below port before located found
    have bound := next.config.portMax_bound
    subst sameId
    split
    next unused =>
      have updated := held.updated (vlan.userDeclarationSet port) rfl (held.onPorts.userDeclarationSet inside)
        (ctx.mvrpFindVlan vlan.vlanId).isNone resources.alloc
      refine modifyVlan_consistent updated.table (updated.present (.inr (maskSet_nonzero vlan (by omega))))
        (fun _ => rfl) ?_ ?_
      · intro other found
        obtain ⟨member,same⟩ := mvrpFindVlan_some found
        rcases updated.origin other member with ⟨_,different⟩ | ⟨⟨declared,shape⟩,placed⟩
        · exact absurd same different
        refine ⟨placed.recount _,Counted.up ?_ ?_ ?_⟩
        · intro j there different
          rw [shape]
          have counted := held.counted j (updated.config ▸ there)
          have outside : MvrpVlan.isUserDeclared (vlan.userDeclarationSet port) j = vlan.isUserDeclared j := by
            have small : j < 16 := by
              have := updated.config ▸ there
              omega
            simp [MvrpVlan.isUserDeclared,MvrpVlan.userDeclarationSet,maskHas_set _ small,Ne.symm different]
          exact outside ▸ counted
        · rw [shape]
          have small : port < 16 := by omega
          simp [MvrpVlan.isUserDeclared,MvrpVlan.userDeclarationSet,maskHas_set _ small]
        · rw [shape]
          exact small
      · intro other member different
        rcases updated.origin other member with ⟨old,_⟩ | ⟨⟨declared,shape⟩,_⟩
        · have before := held.others other old different
          exact ⟨updated.other different before.1,before.2.transfer updated.config⟩
        · exact absurd (shape ▸ rfl) different
    next referenced =>
      -- the count was not zero, so the VLAN is an old one and nothing was created
      cases found : ctx.mvrpFindVlan vlan.vlanId with
      | none => exact absurd (fresh found port) referenced
      | some before =>
        have same : next = ctx ∧ vlan = before := by
          rw [MvrpCtx.mvrpCreateVlan,found] at created
          obtain ⟨first,second⟩ := Prod.mk.inj created
          exact ⟨first.symm,(Option.some.inj second).symm⟩
        obtain ⟨rfl,rfl⟩ := same
        refine modifyVlan_consistent consistent.table held.present (fun _ => rfl) ?_ ?_
        · intro other here
          obtain rfl : vlan = other := Option.some.inj (found.symm.trans here)
          obtain ⟨member,_⟩ := mvrpFindVlan_some found
          have counted := consistent.counted vlan member
          refine ⟨(consistent.placed vlan member).recount _,Counted.up (fun j there _ => counted j there) ?_ small⟩
          exact (counted port inside).mp (Nat.pos_of_ne_zero referenced)
        · intro other member _
          exact ⟨consistent.placed other member,consistent.counted other member⟩

end Handlers

end Genavb.Mvrp
