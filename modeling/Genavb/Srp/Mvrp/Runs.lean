import Genavb.Srp.Mvrp.Database

/-! Requests, indications, port status, packets and the exit of MVRP, in any order: the database
is consistent after each of them. -/
namespace Genavb.Mvrp
open Support Mrp MvrpVlan List Function

section Requests
variable {ctx : MvrpCtx} {vlan : MvrpVlan}

theorem Counted.clear {port : Nat} (counted : Counted ctx vlan) (unused : vlan.refCount port = 0) :
    Counted ctx (vlan.userDeclarationClear port) := by
  intro j inside
  have small : j < 16 := by
    have := ctx.config.portMax_bound
    omega
  simp only [userDeclarationClear,isUserDeclared,maskHas_clear _ small]
  by_cases here : j = port
  · subst here
    simp [unused]
  · have before := counted j inside
    simpa [Ne.symm here,isUserDeclared] using before

theorem Counted.release {port : Nat} (counted : Counted ctx vlan) (last : vlan.refCount port - 1 = 0) :
    Counted ctx ((vlan.refCountDown port).userDeclarationClear port) := by
  intro j inside
  have small : j < 16 := by
    have := ctx.config.portMax_bound
    omega
  simp only [userDeclarationClear,refCountDown,isUserDeclared,maskHas_clear _ small]
  by_cases here : j = port
  · subst here
    simp [last]
  · have before := counted j inside
    simpa [here,Ne.symm here,isUserDeclared] using before

theorem Counted.down {port : Nat} (counted : Counted ctx vlan) (remaining : vlan.refCount port - 1 ≠ 0) :
    Counted ctx (vlan.refCountDown port) := by
  intro j inside
  simp only [refCountDown,isUserDeclared]
  by_cases here : j = port
  · subst here
    have before := counted j inside
    rw [update_self]
    exact iff_of_true (by omega) (before.mp (by omega))
  · rw [update_of_ne here]
    exact counted j inside

theorem Consistent.deregister (consistent : Consistent ctx) (logicalPort : Nat) (vlanId : VlanId)
    (resources : Resources) : Consistent (ctx.mvrpDeregisterVlanMember logicalPort vlanId resources).1 := by
  unfold MvrpCtx.mvrpDeregisterVlanMember
  split
  · exact consistent
  next port located =>
    split
    · exact consistent
    next vlan found =>
      have held := consistent.held found
      by_cases unused : vlan.refCount port = 0
      · simp only [unused,ne_eq,not_true,if_false,if_true]
        exact held.update (vlan.userDeclarationClear port) rfl (held.onPorts.userDeclarationClear port)
          (held.counted.clear unused) _ _
      · have count : (vlan.refCountDown port).refCount port = vlan.refCount port - 1 := update_self _ _ _
        simp only [unused,ne_eq,not_false_eq_true,if_true,count]
        split
        next last =>
          have onPorts := held.onPorts.userDeclarationClear port
          exact held.update ((vlan.refCountDown port).userDeclarationClear port) rfl
            ⟨onPorts.registered,onPorts.user⟩ (held.counted.release last) _ _
        next remaining =>
          obtain ⟨member,_⟩ := mvrpFindVlan_some found
          exact store_consistent consistent.table _ ((consistent.placed vlan member).recount _)
            (held.counted.down remaining) held.others

end Requests

section PortStatus

/-- The database while `mvrp_map_update` has the VLANs `waiting` before it. -/
structure Pending (waiting : List VlanId) (ctx : MvrpCtx) : Prop where
  table : Table ctx
  onPorts : ∀ vlan ∈ ctx.map.vlans, OnPorts ctx vlan
  counted : ∀ vlan ∈ ctx.map.vlans, Counted ctx vlan
  placed : ∀ vlan ∈ ctx.map.vlans, vlan.vlanId ∉ waiting → Placed ctx vlan

variable {ctx : MvrpCtx}

theorem Pending.next {vlanId : VlanId} {waiting : List VlanId} (pending : Pending (vlanId :: waiting) ctx)
    (alloc : VlanId → Nat → AllocOutcome) : Pending waiting (mvrpMapUpdateEntry alloc ctx vlanId) := by
  unfold mvrpMapUpdateEntry
  split
  next missing =>
    refine ⟨{pending.table with},
      fun vlan member => ⟨(pending.onPorts vlan member).registered,(pending.onPorts vlan member).user⟩,
      pending.counted,?_⟩
    intro vlan member outside
    have different := mvrpFindVlan_none missing vlan member
    exact (pending.placed vlan member (not_mem_cons_of_ne_of_not_mem different outside)).transfer rfl rfl
      fun _ => rfl
  next vlan found =>
    obtain ⟨member,same⟩ := mvrpFindVlan_some found
    have updated := mvrpMapUpdateVlan_updated false (alloc vlanId) pending.table (mem_map.mpr ⟨vlan,member,rfl⟩)
      (pending.onPorts vlan member)
    refine ⟨updated.table,?_,?_,?_⟩
    · intro other inside
      rcases updated.origin other inside with ⟨old,_⟩ | ⟨_,placed⟩
      · have onPorts := pending.onPorts other old
        exact ⟨updated.config ▸ onPorts.registered,updated.config ▸ onPorts.user⟩
      · exact placed.onPorts
    · intro other inside
      rcases updated.origin other inside with ⟨old,_⟩ | ⟨⟨declared,rfl⟩,_⟩
      · exact (pending.counted other old).transfer updated.config
      · have counted := pending.counted vlan member
        exact fun port there => counted port (updated.config ▸ there)
    · intro other inside outside
      rcases updated.origin other inside with ⟨old,different⟩ | ⟨_,placed⟩
      · have apart : other.vlanId ≠ vlanId := same ▸ different
        exact updated.other different
          (pending.placed other old (not_mem_cons_of_ne_of_not_mem apart outside))
      · exact placed

theorem Pending.all {waiting : List VlanId} (pending : Pending waiting ctx) (alloc : VlanId → Nat → AllocOutcome) :
    Consistent (waiting.foldl (mvrpMapUpdateEntry alloc) ctx) := by
  induction waiting generalizing ctx with
  | nil => exact ⟨pending.table,fun vlan member => pending.placed vlan member not_mem_nil,pending.counted⟩
  | cons vlanId waiting ih => exact ih (pending.next alloc)

theorem Consistent.reforward (consistent : Consistent ctx) (operational forwarding : PortMask)
    (alloc : VlanId → Nat → AllocOutcome) :
    Consistent (mvrpMapUpdate alloc {ctx with
      operationalState := operational, map := {ctx.map with forwardingState := forwarding}}) := by
  apply Pending.all
  refine ⟨{consistent.table with},?_,consistent.counted,?_⟩
  · intro vlan member
    exact ⟨(consistent.placed vlan member).registered,(consistent.placed vlan member).user⟩
  · intro vlan member outside
    exact absurd (mem_map.mpr ⟨vlan,member,rfl⟩) outside

theorem Consistent.portStatus (consistent : Consistent ctx) (logicalPort : Nat) (operational : Bool)
    (alloc : VlanId → Nat → AllocOutcome) : Consistent (ctx.mvrpPortStatus logicalPort operational alloc) := by
  unfold MvrpCtx.mvrpPortStatus
  split
  · exact consistent
  · exact consistent.reforward _ _ alloc

end PortStatus

section Exit

theorem Consistent.setApp {ctx : MvrpCtx} (consistent : Consistent ctx) (port : Nat) (app : MrpApplication VlanId) :
    Consistent (ctx.setApp port app) :=
  ⟨{consistent.table with},
    fun vlan member => (consistent.placed vlan member).transfer rfl rfl fun _ => rfl,consistent.counted⟩

theorem withdraw_list (ports : List Nat) (vlan : MvrpVlan) (ctx : MvrpCtx) : ∃ kept apps,
    ports.foldl (fun state port => mvrpWithdraw port state.1 state.2) (vlan,ctx) = (kept,{ctx with mrpApp := apps}) ∧
      kept.vlanId = vlan.vlanId := by
  induction ports generalizing vlan ctx with
  | nil => exact ⟨vlan,ctx.mrpApp,rfl,rfl⟩
  | cons port ports ih =>
    rw [foldl_cons]
    have first : ∃ kept apps, mvrpWithdraw port vlan ctx = (kept,{ctx with mrpApp := apps}) ∧
        kept.vlanId = vlan.vlanId := by
      unfold mvrpWithdraw
      split
      · exact ⟨_,_,rfl,rfl⟩
      · exact ⟨vlan,ctx.mrpApp,rfl,rfl⟩
    obtain ⟨kept,apps,withdrawn,sameId⟩ := first
    obtain ⟨last,final,reached,lastId⟩ := ih kept {ctx with mrpApp := apps}
    rw [withdrawn]
    exact ⟨last,final,reached,lastId.trans sameId⟩

theorem exit_loop {ctx : MvrpCtx} (table : Table ctx) {rest : List MvrpVlan} (remaining : ctx.map.vlans = rest) :
    Consistent (rest.foldl (fun ctx vlan =>
      let (vlan,ctx) := (List.range ctx.config.portMax).foldl
        (fun state port => mvrpWithdraw port state.1 state.2) (vlan,ctx)
      ctx.mvrpFreeVlan vlan) ctx) := by
  induction rest generalizing ctx with
  | nil => exact ⟨table,by simp [remaining],by simp [remaining]⟩
  | cons vlan rest ih =>
    obtain ⟨kept,apps,reached,sameId⟩ := withdraw_list (List.range ctx.config.portMax) vlan ctx
    rw [foldl_cons]
    simp only [reached]
    have nextTable : Table {ctx with mrpApp := apps} := {table with}
    refine ih (nextTable.free (by simp [remaining,sameId])) ?_
    have distinct := table.distinct
    rw [remaining,map_cons,nodup_cons] at distinct
    have others : ∀ other ∈ rest, (other.vlanId != vlan.vlanId) = true := by
      intro other member
      rw [bne_iff_ne]
      intro same
      exact distinct.1 (mem_map.mpr ⟨other,member,same⟩)
    simp [MvrpCtx.mvrpFreeVlan,remaining,sameId,filter_eq_self.mpr others]

theorem Consistent.exit {ctx : MvrpCtx} (consistent : Consistent ctx) : Consistent ctx.mvrpExit := by
  have disabled : ∀ ports : List Nat, Consistent (ports.foldl (fun ctx port =>
      if ctx.config.initialized port then ctx.setApp port (mrpDisable (ctx.mrpApp port)) else ctx) ctx) := by
    intro ports
    induction ports using List.reverseRecOn with
    | nil => exact consistent
    | append_singleton ports port ih =>
      rw [foldl_append,foldl_cons,foldl_nil]
      split
      · exact ih.setApp _ _
      · exact ih
  exact exit_loop (disabled _).table rfl

end Exit

section Steps
variable {ctx : MvrpCtx}

theorem mvrpMapUpdateVlan_config (new : Bool) (alloc : Nat → AllocOutcome) (vlan : MvrpVlan) (ctx : MvrpCtx) :
    (mvrpMapUpdateVlan new alloc vlan ctx).config = ctx.config := by
  obtain ⟨kept,apps,next,_,_,made,updated⟩ := mvrpMapUpdateVlan_outcome new alloc vlan ctx
  rw [updated]
  split <;> rw [made] <;> rfl

theorem vlanUpdate_config (port : Nat) (vlanId : VlanId) (registered : Bool) (ctx : MvrpCtx) :
    (ctx.vlanUpdate port vlanId registered).config = ctx.config := by
  unfold MvrpCtx.vlanUpdate
  split
  · dsimp only
    split <;> rfl
  · rfl

theorem mvrpCreateVlan_config (vlanId : VlanId) (memory : Bool) (ctx : MvrpCtx) :
    (ctx.mvrpCreateVlan vlanId memory).1.config = ctx.config := by
  unfold MvrpCtx.mvrpCreateVlan
  split
  · rfl
  · split
    · rfl
    · split
      · rfl
      · split <;> rfl

theorem mvrpJoinIndication_config (port : Nat) (vlanId : VlanId) (new : Bool) (resources : Resources) (ctx : MvrpCtx) :
    (ctx.mvrpJoinIndication port vlanId new resources).config = ctx.config := by
  have created := mvrpCreateVlan_config vlanId resources.memory ctx
  unfold MvrpCtx.mvrpJoinIndication
  split
  next next made =>
    rw [made] at created
    exact created
  next next vlan made =>
    rw [made] at created
    rw [vlanUpdate_config,mvrpMapUpdateVlan_config]
    exact created

theorem mvrpLeaveIndication_config (port : Nat) (vlanId : VlanId) (resources : Resources) (ctx : MvrpCtx) :
    (ctx.mvrpLeaveIndication port vlanId resources).config = ctx.config := by
  unfold MvrpCtx.mvrpLeaveIndication
  split
  · rfl
  · rw [vlanUpdate_config,mvrpMapUpdateVlan_config]

theorem client_keeps (resources : Resources) (port : Nat) :
    (MvrpCtx.client resources port).Keeps fun ctx => Consistent ctx ∧ port < ctx.config.portMax where
  setApp app _ holds := ⟨holds.1.setApp port app,holds.2⟩
  indication kind id state holds := by
    obtain ⟨consistent,inside⟩ := holds
    simp only [MvrpCtx.client,MvrpCtx.mvrpIndication]
    split
    · exact ⟨⟨{consistent.table with},
        fun vlan member => (consistent.placed vlan member).transfer rfl rfl fun _ => rfl,consistent.counted⟩,inside⟩
    next attr _ =>
      cases kind with
      | new
      | join => exact ⟨consistent.joinIndication inside _ _ _,by rw [mvrpJoinIndication_config]; exact inside⟩
      | leave => exact ⟨consistent.leaveIndication port _ _,by rw [mvrpLeaveIndication_config]; exact inside⟩

theorem Consistent.packet (consistent : Consistent ctx) (port : Nat) (memory : Memory) (length : Nat)
    (meets : MvrpCtx.PacketResources) : Consistent (ctx.mvrpProcessPacket port memory length meets) := by
  unfold MvrpCtx.mvrpProcessPacket
  split
  · exact consistent
  next inside =>
    split
    · exact consistent
    · have every : ∀ deliveries : List (Delivery × Nat), ctx.config.portMax > port →
          Consistent (deliveries.foldl (fun ctx item =>
            ctx.mvrpDeliver port (meets.resources item.2) (meets.alloc item.2) (meets.random item.2) item.1) ctx) ∧
          port < (deliveries.foldl (fun ctx item =>
            ctx.mvrpDeliver port (meets.resources item.2) (meets.alloc item.2) (meets.random item.2) item.1)
              ctx).config.portMax := by
        intro deliveries within
        induction deliveries using List.reverseRecOn with
        | nil => exact ⟨consistent,within⟩
        | append_singleton deliveries item ih =>
          rw [foldl_append,foldl_cons,foldl_nil]
          unfold MvrpCtx.mvrpDeliver
          split <;> exact (client_keeps _ port).trigger _ ih
      exact (every _ (by omega)).1

/-- A registration by the user that would bring its reference count to 2^32. -/
def NoWrap (ctx : MvrpCtx) (input : MvrpInput) : Prop :=
  match input with
  | .ipc (.vlanRegister _ logicalPort vlanId) _ => ∀ port vlan, ctx.logicalToMvrpPort logicalPort = some port →
      ctx.mvrpFindVlan vlanId = some vlan → vlan.refCount port + 1 < 2 ^ 32
  | _ => True

theorem Consistent.step (consistent : Consistent ctx) (input : MvrpInput) (noWrap : NoWrap ctx input) :
    Consistent (mvrpStep input ctx) := by
  cases input with
  | ipc message resources =>
    cases message with
    | vlanRegister correctLength port vlanId =>
      simp only [mvrpStep,mvrpIpcRx]
      split
      · exact consistent
      · exact consistent.register resources noWrap
    | vlanDeregister correctLength port vlanId =>
      simp only [mvrpStep,mvrpIpcRx]
      split
      · exact consistent
      · exact consistent.deregister port vlanId resources
    | unknown => exact consistent
  | packet port memory length meets => exact consistent.packet port memory length meets
  | mrp port trigger resources =>
    simp only [mvrpStep]
    split
    next inside => exact ((client_keeps resources port).trigger trigger ⟨consistent,inside⟩).1
    · exact consistent
  | joinIndication port vlanId new resources =>
    simp only [mvrpStep]
    split
    next inside => exact consistent.joinIndication inside vlanId new resources
    · exact consistent
  | leaveIndication port vlanId resources =>
    simp only [mvrpStep]
    split
    · exact consistent.leaveIndication port vlanId resources
    · exact consistent
  | portStatus logicalPort operational alloc => exact consistent.portStatus logicalPort operational alloc
  | exit => exact consistent.exit

theorem consistent_init (config : MvrpConfig) (mrp : MrpConfig) (random : Nat → Nat) :
    Consistent (MvrpCtx.mvrpInit config mrp random) :=
  ⟨⟨nodup_nil,rfl,Nat.zero_le _⟩,by simp [MvrpCtx.mvrpInit],by simp [MvrpCtx.mvrpInit]⟩

end Steps

def MvrpMap.Wanted (map : MvrpMap) (vlan : MvrpVlan) (port : Nat) : Prop :=
  map.isForwarding port = true ∧
    ((∃ other, other < 16 ∧ other ≠ port ∧ vlan.isRegistered other = true ∧ map.isForwarding other = true) ∨
      vlan.isUserDeclared port = true)

def MvrpCtx.vlanRegistered (ctx : MvrpCtx) (vlanId : VlanId) (port : Nat) : Bool :=
  match ctx.mvrpFindVlan vlanId with
  | none => false
  | some vlan => vlan.isRegistered port

def MvrpCtx.vlanUserDeclared (ctx : MvrpCtx) (vlanId : VlanId) (port : Nat) : Bool :=
  match ctx.mvrpFindVlan vlanId with
  | none => false
  | some vlan => vlan.isUserDeclared port

structure VlanDatabase (ctx : MvrpCtx) : Prop where
  present : ∀ vlanId, (ctx.mvrpFindVlan vlanId).isSome = true ↔ ∃ port, port < ctx.config.portMax ∧
    (ctx.vlanRegistered vlanId port = true ∨ ctx.vlanUserDeclared vlanId port = true)
  counted : ∀ vlan ∈ ctx.map.vlans, ∀ port, port < ctx.config.portMax →
    (0 < vlan.refCount port ↔ vlan.isUserDeclared port = true)
  declared : ∀ vlan ∈ ctx.map.vlans, ∀ port, port < ctx.config.portMax → vlan.isDeclared port = true →
    ctx.map.Wanted vlan port
  undeclared : ∀ vlan ∈ ctx.map.vlans, ∀ port, port < ctx.config.portMax → ctx.map.Wanted vlan port →
    vlan.isDeclared port = false → refused ctx vlan.vlanId port
  number : ctx.map.numVlans = ctx.map.vlans.length
  most : ctx.map.numVlans ≤ CFG_MVRP_MAX_VLANS

def UpdateDeclares (ctx : MvrpCtx) : Prop :=
  ∀ vlan new alloc, vlan.vlanId ∈ ctx.map.vlans.map (·.vlanId) →
    ∀ after ∈ (mvrpMapUpdateVlan new alloc vlan ctx).map.vlans, after.vlanId = vlan.vlanId →
      ∀ port, port < ctx.config.portMax → (after.isDeclared port = true ↔
        ctx.map.Wanted vlan port ∧ (vlan.isDeclared port = true ∨ ctx.grants new alloc vlan.vlanId port = true))

theorem update_declares (ctx : MvrpCtx) : UpdateDeclares ctx := by
  intro vlan new alloc present after member same port inside
  obtain ⟨kept,apps,next,shape,bits,made,updated⟩ := mvrpMapUpdateVlan_outcome new alloc vlan ctx
  have sameId : kept.vlanId = vlan.vlanId := by rw [shape]
  have listed : after ∈ next.map.vlans := by
    rw [updated] at member
    split at member
    · exact (mem_filter.mp member).1
    · exact member
  have own : after = kept := by
    rw [made] at listed
    obtain ⟨before,_,written⟩ := mem_map.mp listed
    split at written
    · exact written.symm
    next different =>
      rw [← written,← sameId] at same
      exact absurd same different
  have small : port < 16 := by
    have := ctx.config.portMax_bound
    omega
  have wanted : ctx.map.wants vlan port = true ↔ ctx.map.Wanted vlan port := wants_iff ctx.map vlan port
  rw [own,bits port small,if_pos inside,declares,Bool.and_eq_true,Bool.or_eq_true,wanted]

theorem Consistent.database {ctx : MvrpCtx} (consistent : Consistent ctx) : VlanDatabase ctx := by
  refine ⟨?_,consistent.counted,?_,?_,consistent.table.number,consistent.table.most⟩
  · intro vlanId
    simp only [MvrpCtx.vlanRegistered,MvrpCtx.vlanUserDeclared]
    cases found : ctx.mvrpFindVlan vlanId with
    | none => simp
    | some vlan => exact iff_of_true rfl (consistent.placed vlan (mvrpFindVlan_some found).1).used
  · intro vlan member port inside declared
    exact (wants_iff ctx.map vlan port).mp ((consistent.placed vlan member).declared port inside declared)
  · intro vlan member port inside wanted undeclared
    rcases (consistent.placed vlan member).wanted port inside ((wants_iff ctx.map vlan port).mpr wanted) with
      declared | refused
    · rw [undeclared] at declared
      exact absurd declared Bool.false_ne_true
    · exact refused

section Database
variable {config : MvrpConfig} {mrp : MrpConfig} {random : Nat → Nat} {inputs : List MvrpInput}

theorem vlan_database (noWrap : Steps mvrpStep NoWrap inputs (MvrpCtx.mvrpInit config mrp random)) :
    VlanDatabase (run mvrpStep inputs (MvrpCtx.mvrpInit config mrp random)) ∧
      UpdateDeclares (run mvrpStep inputs (MvrpCtx.mvrpInit config mrp random)) := by
  have preserved : ∀ ctx input, Consistent ctx → NoWrap ctx input → Consistent (mvrpStep input ctx) :=
    fun _ input consistent allowed => consistent.step input allowed
  have consistent := run_invariant mvrpStep preserved (consistent_init config mrp random) noWrap
  exact ⟨consistent.database,update_declares _⟩

end Database

section Examples

def onePort : MvrpConfig := ⟨false,1,fun _ => 0,fun _ => true,onePort_bound⟩

def twoPorts : MvrpConfig := ⟨true,2,id,fun _ => true,by decide⟩

def vidConfig : MrpConfig := MrpConfig.ofMvrp 600 ⟨by decide,by decide⟩

def plenty : Resources := ⟨true,fun _ => .ok .VO .MT⟩

def noAttribute : Resources := ⟨true,fun _ => .noMemory⟩

def registerFive (resources : Resources) : MvrpInput := .ipc (.vlanRegister true 0 5) resources

/-- Port 0 declares the VLAN that is registered on port 1, and then the user does. -/
theorem vlan_database_registered :
    let ctx := run mvrpStep [.portStatus 0 true (fun _ _ => .noMemory),.portStatus 1 true (fun _ _ => .noMemory),
      .joinIndication 1 5 true plenty,registerFive plenty] (MvrpCtx.mvrpInit twoPorts vidConfig fun _ => 10000)
    VlanDatabase ctx ∧ UpdateDeclares ctx ∧ ctx.requests = [⟨5,0,true⟩] := by
  have holds := @vlan_database twoPorts vidConfig (fun _ => 10000)
    [.portStatus 0 true (fun _ _ => .noMemory),.portStatus 1 true (fun _ _ => .noMemory),
      .joinIndication 1 5 true plenty,registerFive plenty] ⟨trivial,trivial,trivial,?_,trivial⟩
  · exact ⟨holds.1,holds.2,rfl⟩
  · intro port vlan located found
    obtain rfl := Option.some.inj located
    obtain rfl := Option.some.inj found
    decide

theorem mvrpFindVlan_store {ctx : MvrpCtx} {vlan kept : MvrpVlan} {vlanId : VlanId}
    (found : ctx.mvrpFindVlan vlanId = some vlan) (sameId : kept.vlanId = vlanId) :
    (ctx.store kept).mvrpFindVlan vlanId = some kept := by
  unfold MvrpCtx.mvrpFindVlan MvrpCtx.store at *
  revert found
  induction ctx.map.vlans with
  | nil => exact fun found => absurd found (Option.some_ne_none vlan).symm
  | cons first rest ih =>
    intro found
    by_cases here : first.vlanId = vlanId
    · simp [sameId,here]
    · have later : List.find? (fun vlan => vlan.vlanId == vlanId) rest = some vlan := by
        simpa [List.find?_cons,here] using found
      simpa [sameId,here] using ih later

theorem register_again {ctx : MvrpCtx} {vlan : MvrpVlan} {port logicalPort : Nat} {vlanId : VlanId}
    (resources : Resources) (located : ctx.logicalToMvrpPort logicalPort = some port)
    (found : ctx.mvrpFindVlan vlanId = some vlan) (referenced : vlan.refCount port ≠ 0) :
    mvrpStep (.ipc (.vlanRegister true logicalPort vlanId) resources) ctx = ctx.store (vlan.refCountUp port) := by
  simp [mvrpStep,mvrpIpcRx,MvrpCtx.mvrpRegisterVlanMember,located,MvrpCtx.mvrpCreateVlan,found,referenced,
    MvrpCtx.modifyVlan]

theorem registrations_wrap {ctx : MvrpCtx} {vlan : MvrpVlan} {port logicalPort : Nat} {vlanId : VlanId}
    (resources : Resources) (located : ctx.logicalToMvrpPort logicalPort = some port)
    (found : ctx.mvrpFindVlan vlanId = some vlan) (declared : vlan.isUserDeclared port = true)
    (one : vlan.refCount port = 1) {count : Nat} (below : count < 2 ^ 32) :
    ∃ next kept,
      run mvrpStep (List.replicate count (.ipc (.vlanRegister true logicalPort vlanId) resources)) ctx = next ∧
      next.config = ctx.config ∧ next.mvrpFindVlan vlanId = some kept ∧ kept.isUserDeclared port = true ∧
      kept.refCount port = (count + 1) % 2 ^ 32 := by
  induction count with
  | zero => exact ⟨ctx,vlan,rfl,rfl,found,declared,one⟩
  | succ count ih =>
    obtain ⟨next,kept,reached,config,stays,remains,counted⟩ := ih (by omega)
    rw [Nat.mod_eq_of_lt below] at counted
    have nowhere : next.logicalToMvrpPort logicalPort = some port := by
      unfold MvrpCtx.logicalToMvrpPort at located ⊢
      rw [config]
      exact located
    have sameId := (mvrpFindVlan_some stays).2
    refine ⟨next.store (kept.refCountUp port),kept.refCountUp port,?_,config,mvrpFindVlan_store stays sameId,remains,?_⟩
    · rw [replicate_succ',run_append,reached]
      exact register_again resources nowhere stays (by omega)
    · simp only [refCountUp,update_self,counted]

def undeclaredFive : MvrpCtx :=
  run mvrpStep [.portStatus 0 true (fun _ _ => .noMemory),registerFive noAttribute]
    (MvrpCtx.mvrpInit onePort vidConfig fun _ => 10000)

theorem undeclaredFive_wanted : ∃ vlan, undeclaredFive.mvrpFindVlan 5 = some vlan ∧ vlan.refCount 0 = 1 ∧
    vlan.isUserDeclared 0 = true ∧ undeclaredFive.map.isForwarding 0 = true ∧ vlan.isDeclared 0 = false ∧
    undeclaredFive.config = onePort :=
  ⟨_,rfl,rfl,rfl,rfl,rfl,rfl⟩

theorem vlan_database_fails :
    (¬ ∀ inputs, ∀ vlan ∈ (run mvrpStep inputs (MvrpCtx.mvrpInit onePort vidConfig fun _ => 10000)).map.vlans,
      ∀ port, port < onePort.portMax → (vlan.isDeclared port = true ↔
        (run mvrpStep inputs (MvrpCtx.mvrpInit onePort vidConfig fun _ => 10000)).map.Wanted vlan port)) ∧
    ¬ ∀ inputs, ∀ vlan ∈ (run mvrpStep inputs (MvrpCtx.mvrpInit onePort vidConfig fun _ => 10000)).map.vlans,
      ∀ port, port < onePort.portMax → (0 < vlan.refCount port ↔ vlan.isUserDeclared port = true) := by
  obtain ⟨vlan,found,one,user,forwarding,undeclared,config⟩ := undeclaredFive_wanted
  constructor
  · intro claimed
    have declared := (claimed _ vlan (mvrpFindVlan_some found).1 0 (by decide)).mpr ⟨forwarding,.inr user⟩
    rw [undeclared] at declared
    exact absurd declared Bool.false_ne_true
  · intro claimed
    have located : undeclaredFive.logicalToMvrpPort 0 = some 0 := by
      unfold MvrpCtx.logicalToMvrpPort
      rfl
    obtain ⟨next,kept,reached,_,stays,remains,counted⟩ :=
      registrations_wrap plenty located found user one (Nat.sub_lt (Nat.two_pow_pos 32) Nat.one_pos)
    rw [undeclaredFive,← run_append] at reached
    have member := (mvrpFindVlan_some stays).1
    rw [← reached] at member
    have positive := (claimed _ kept member 0 (by decide)).mpr remains
    rw [counted] at positive
    exact absurd positive (by simp)

end Examples

end Genavb.Mvrp
