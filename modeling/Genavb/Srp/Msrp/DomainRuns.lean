import Genavb.Srp.Msrp.Domains

/-! Runs of enables, disables and domain indications: the slots of every port, and what the boundary flags say. -/
namespace Genavb.Msrp
open Support Mrp Common Mvrp MsrpCtx List
open Function (update update_eq_self update_idem update_of_ne update_self)
open DomainTable

section Ports
variable {ctx : MsrpCtx} {port : Nat} {joined : DomainValue → Bool}

private theorem isEnabled_congr {other : MsrpCtx} {tables : MsrpConfig × PortMask × (Nat → DomainTable)}
    (same : other.tables = tables) : other.isEnabled port = maskHas tables.2.1 port := by
  rw [← same]
  rfl

private theorem tables_running (f : MrpApplication AttributeValue → MrpApplication AttributeValue) :
    (ctx.modifyApp port f).tables = ctx.tablesWith port {ctx.table port with running := (f (ctx.app port)).enabled} :=
  tables_modifyPort_table _ rfl

theorem tables_enabledState (port : Nat) (state : Bool) (ctx : MsrpCtx) :
    (ctx.msrpUpdateEnabledState port state).tables =
    (ctx.config,if state then maskSet ctx.enabledState port else maskClear ctx.enabledState port,ctx.tables.2.2) :=
  tables_mapUpdate _

theorem tables_detachStreams (streamIds : List StreamId) (ctx : MsrpCtx) :
    (streamIds.foldl (detachStream port) ctx).tables = ctx.tables := by
  induction streamIds generalizing ctx with
  | nil => rfl
  | cons streamId rest ih =>
    refine (ih _).trans ?_
    unfold detachStream
    split
    · rfl
    · dsimp only
      rw [tables_store,Work.tables_talkerRegistrationMerge,Work.tables_listenerRegistrationMerge]

theorem declareDomains_slots (classes : List Nat)
    (inside : ∀ srClass ∈ classes, srClass ∈ enabledSrClasses ctx.config.srClass)
    (slots : (ctx.table port).Slots ctx.config.srClass fun _ => false) (own : (ctx.table port).Own ctx.config.srClass) :
    ∃ table : DomainTable, (declareDomains port classes ctx).1.tables = ctx.tablesWith port table ∧
      table.Slots ctx.config.srClass (fun _ => false) ∧ table.Own ctx.config.srClass ∧
      table.running = (ctx.table port).running ∧ ((declareDomains port classes ctx).2 = true → ∀ srClass,
        srClass ∈ classes ∨ ((ctx.table port).domain srClass).isSome → (table.domain srClass).isSome) ∧
      ((∀ tick, (ctx.config.os tick).memory = true) → (declareDomains port classes ctx).2 = true) := by
  induction classes generalizing ctx with
  | nil =>
    exact ⟨ctx.table port,tablesWith_self.symm,slots,own,rfl,
      fun _ srClass known => known.resolve_left not_mem_nil,fun _ => rfl⟩
  | cons srClass rest ih =>
    obtain ⟨first,inside⟩ := forall_mem_cons.mp inside
    unfold declareDomains
    dsimp only
    rcases @declare_cases ctx port (classDomain ctx.config.srClass srClass CFG_MVRP_VID) with
      ⟨found,tables,room⟩ | ⟨missing,tables,-,short⟩
    · rw [found,if_neg (by simp)]
      have step := tables_setDomain tables srClass (some (classDomain ctx.config.srClass srClass CFG_MVRP_VID))
      have config := tablesWith_config step
      have table := tablesWith_table step
      have created := slots.create room fun _ => rfl
      have slot := mem_values_create (classDomain ctx.config.srClass srClass CFG_MVRP_VID) (ctx.table port)
      have owned : ((ctx.table port).create (classDomain ctx.config.srClass srClass CFG_MVRP_VID)).Own
          ctx.config.srClass := by
        unfold create
        split
        · exact own
        · intro domain member
          rcases mem_cons.mp member with rfl | member
          · exact ⟨srClass,first,rfl⟩
          · exact own domain member
      obtain ⟨last,same,slots',own',running,all,complete⟩ := ih (config ▸ inside)
        (by
          rw [table,config]
          exact created.setDomain srClass fun fv same => ⟨Option.some.inj same ▸ slot,_,(Option.some.inj same).symm⟩)
        (by
          rw [table,config]
          exact owned)
      rw [config] at slots' own'
      refine ⟨last,same.trans (tablesWith_trans step),slots',own',?_,fun ok other known => all ok other ?_,?_⟩
      · rw [running,table]
        exact create_running _ _
      rw [table]
      by_cases equal : other = srClass
      case pos =>
        rw [equal]
        exact .inr (by simp)
      case neg =>
        rcases known with member | declared
        · exact .inl ((mem_cons.mp member).resolve_left equal)
        · refine .inr ?_
          dsimp only
          rw [update_of_ne equal,create_domain]
          exact declared
      · rw [config] at complete
        exact complete
    · rw [missing]
      have step := tables_setDomain (tables.trans (@tablesWith_self ctx port).symm) srClass none
      refine ⟨_,step,slots.setDomain srClass fun _ impossible => absurd impossible (by simp),own,rfl,fun impossible =>
        absurd impossible Bool.false_ne_true,fun memory => ?_⟩
      have refused := short (own.room slots)
      rw [answer,memory] at refused
      cases refused

structure Kept (config : SrClassConfig) (enabled : Bool) (joined : DomainValue → Bool) (table : DomainTable) : Prop where
  slots : table.Slots config joined
  running : table.running = enabled
  idle : enabled = false → (∀ fv, joined fv = false) ∧ table.Own config
  matched : enabled = true → ∀ srClass ∈ enabledSrClasses config, table.Matched config srClass

private theorem enabledSrClasses_nodup (config : SrClassConfig) : (enabledSrClasses config).Nodup := nodup_range.filter _

theorem Kept.updated {config : SrClassConfig} {table : DomainTable} {fv : DomainValue} {registered : Bool}
    (kept : Kept config true joined table) (known : fv ∈ table.values ∨ table.numDomains < CFG_MSRP_MAX_DOMAINS) :
    Kept config true (update joined fv registered) ((enabledSrClasses config).foldl
      (updateClass config) ((table.create fv).register fv registered)) := by
  have slots : ((table.create fv).register fv registered).Slots config (update joined fv registered) := by
    by_cases slot : fv ∈ table.values
    case pos => exact (kept.slots.create known fun absent => absurd slot absent).register fv registered
    case neg =>
      have cleared : table.Slots config (update joined fv false) := by
        refine kept.slots.congr fun other member => (update_of_ne ?_ _ _).symm
        rintro rfl
        exact slot member
      have created := (cleared.create known fun _ => update_self ..).register fv registered
      rwa [update_idem] at created
  have running : ((enabledSrClasses config).foldl (updateClass config)
      ((table.create fv).register fv registered)).running = true := by
    rw [updateClasses_eq (enabledSrClasses_nodup config)]
    exact (create_running fv table).trans kept.running
  refine ⟨slots.updateClasses _,running,fun impossible => absurd impossible (by simp),fun _ srClass member => ?_⟩
  refine slots.matched (enabledSrClasses_nodup config) member ?_
  obtain ⟨declared,found,-⟩ := kept.matched rfl srClass member
  change ((table.create fv).domain srClass).isSome = true
  rw [create_domain,found]
  rfl

theorem kept_join {fv : DomainValue} (kept : Kept ctx.config.srClass true joined (ctx.table port)) :
    ∃ table, (ctx.msrpDomainJoinIndication port fv).tables = ctx.tablesWith port table ∧
      Kept ctx.config.srClass true (update joined fv true) table := by
  unfold msrpDomainJoinIndication
  have cases := @create_cases ctx port fv
  split
  next created equal =>
    rw [equal] at cases
    rcases cases with ⟨impossible,-⟩ | ⟨-,same,absent,-⟩
    · cases impossible
    · refine ⟨ctx.table port,same.trans tablesWith_self.symm,?_⟩
      refine {kept with
        slots := kept.slots.congr fun other member => (update_of_ne ?_ _ _).symm
        idle := fun impossible => absurd impossible (by simp)}
      rintro rfl
      exact absent member
  next created equal =>
    rw [equal] at cases
    rcases cases with ⟨-,tables,room⟩ | ⟨impossible,-⟩
    · have registered := @tables_register created port fv true
      rw [tablesWith_trans tables,tablesWith_table tables] at registered
      refine ⟨_,?_,kept.updated room⟩
      rw [tables_domainUpdate,tablesWith_trans registered,tablesWith_table registered,tablesWith_config registered]
    · cases impossible

theorem kept_leave {fv : DomainValue} (kept : Kept ctx.config.srClass true joined (ctx.table port)) :
    ∃ table, (ctx.msrpDomainLeaveIndication port fv).tables = ctx.tablesWith port table ∧
      Kept ctx.config.srClass true (update joined fv false) table := by
  unfold msrpDomainLeaveIndication
  cases found : ctx.msrpFindDomain port fv with
  | none =>
    have absent : fv ∉ (ctx.table port).values := by
      rw [← find_isSome,found]
      simp
    refine ⟨ctx.table port,tablesWith_self.symm,?_⟩
    refine {kept with
      slots := kept.slots.congr fun other member => (update_of_ne ?_ _ _).symm
      idle := fun impossible => absurd impossible (by simp)}
    rintro rfl
    exact absent member
  | some domain =>
    have slot : fv ∈ (ctx.table port).values := by
      rw [← find_isSome,found]
      rfl
    have registered := @tables_register ctx port fv false
    have created : (ctx.table port).create fv = ctx.table port := if_pos slot
    have updated : Kept ctx.config.srClass true (update joined fv false) _ := kept.updated (.inl slot)
    rw [created] at updated
    refine ⟨_,?_,updated⟩
    rw [tables_domainUpdate,tablesWith_trans registered,tablesWith_table registered,tablesWith_config registered]

theorem DomainTable.Slots.released {config : SrClassConfig} {table : DomainTable} (slots : table.Slots config joined) :
    Kept config false (fun _ => false) {table with
      domains := []
      numDomains := table.numDomains - table.domains.length
      domain := fun _ => none
      running := false} := by
  have empty : table.numDomains - table.domains.length = 0 := by
    rw [slots.count,Nat.sub_self]
  refine ⟨⟨nodup_nil,empty,empty ▸ Nat.zero_le _,?_,?_⟩,rfl,fun _ => ⟨fun _ => rfl,?_⟩,?_⟩
  · intro domain member
    cases member
  · intro srClass fv found
    cases found
  · intro domain member
    cases member
  · intro impossible
    cases impossible

/-- What a step at a port leaves: another table of this port, and perhaps another enabled bit. -/
structure StepAt (port : Nat) (ctx next : MsrpCtx) (table : DomainTable) : Prop where
  config : next.config = ctx.config
  enabled : ∀ other, other ≠ port → next.isEnabled other = ctx.isEnabled other
  tables : next.tables.2.2 = update ctx.tables.2.2 port table

theorem StepAt.of_tables {next : MsrpCtx} {table : DomainTable} (tables : next.tables = ctx.tablesWith port table) :
    StepAt port ctx next table :=
  ⟨tablesWith_config tables,fun _ _ => isEnabled_congr tables,congrArg (fun tables => tables.2.2) tables⟩

theorem StepAt.trans {middle next : MsrpCtx} {first second : DomainTable} (step : StepAt port ctx middle first)
    (tables : next.tables = middle.tablesWith port second) : StepAt port ctx next second := by
  refine ⟨(tablesWith_config tables).trans step.config,fun other different => ?_,?_⟩
  · exact (isEnabled_congr tables).trans (step.enabled other different)
  · refine (congrArg (fun tables => tables.2.2) tables).trans ?_
    change update middle.tables.2.2 port second = _
    rw [step.tables,update_idem]

theorem StepAt.table {next : MsrpCtx} {table : DomainTable} (step : StepAt port ctx next table) :
    next.table port = table :=
  (congrFun step.tables port).trans (update_self _ _ _)

theorem StepAt.stop {next : MsrpCtx} {table : DomainTable} (step : StepAt port ctx next table) :
    StepAt port ctx (next.modifyApp port mrpDisable) {table with running := false} ∧
      (next.modifyApp port mrpDisable).isEnabled port = next.isEnabled port := by
  have stopped := @tables_running next port mrpDisable
  rw [step.table,mrpDisable_enabled] at stopped
  exact ⟨step.trans stopped,isEnabled_congr stopped⟩

private theorem tables_enable (inside : port < 16) (state : Bool) {next : MsrpCtx} {table : DomainTable}
    (tables : next.tables = ctx.tablesWith port table) :
    StepAt port ctx (next.msrpUpdateEnabledState port state) table ∧
      (next.msrpUpdateEnabledState port state).isEnabled port = state := by
  have updated := tables_enabledState port state next
  have mask : next.enabledState = ctx.enabledState := congrArg (fun tables => tables.2.1) tables
  refine ⟨⟨(congrArg Prod.fst updated).trans (tablesWith_config tables),fun other different => ?_,?_⟩,?_⟩
  · rw [isEnabled_congr updated]
    change maskHas (if state then maskSet next.enabledState port else maskClear next.enabledState port) other =
      maskHas ctx.enabledState other
    rw [mask]
    by_cases bound : other < 16
    case pos =>
      cases state with
      | true => simp [maskHas_set _ bound,different.symm]
      | false => simp [maskHas_clear _ bound,different.symm]
    case neg =>
      rw [Bool.eq_false_iff.mpr (mt maskHas_inside bound),Bool.eq_false_iff.mpr (mt maskHas_inside bound)]
  · exact (congrArg (fun tables => tables.2.2) updated).trans (congrArg (fun tables => tables.2.2) tables)
  · rw [isEnabled_congr updated]
    cases state with
    | true => simp [maskHas_set _ inside]
    | false => simp [maskHas_clear _ inside]

theorem kept_disabled {next : MsrpCtx} {table : DomainTable} {config : SrClassConfig}
    (tables : next.tables = ctx.tablesWith port table) (slots : table.Slots config joined) :
    ∃ table, ((next.msrpExitDomains port).modifyApp port mrpDisable).tables = ctx.tablesWith port table ∧
      Kept config false (fun _ => false) table := by
  have exits := @tables_exitDomains next port
  rw [tablesWith_trans tables,tablesWith_table tables] at exits
  have stopped := @tables_running (next.msrpExitDomains port) port mrpDisable
  rw [tablesWith_trans exits,tablesWith_table exits,mrpDisable_enabled] at stopped
  exact ⟨_,stopped,slots.released⟩

private theorem kept_portEnable {random : Nat} (inside : port < 16)
    (kept : Kept ctx.config.srClass (ctx.isEnabled port) joined (ctx.table port)) :
    ∃ table, StepAt port ctx (ctx.msrpPortEnable port random) table ∧
      Kept ctx.config.srClass ((ctx.msrpPortEnable port random).isEnabled port) joined table ∧
      (ctx.config.initialized port = true →
        (∀ tick, (ctx.config.os tick).memory = true ∧ (ctx.config.os tick).multicast = true) →
        (ctx.msrpPortEnable port random).isEnabled port = true) := by
  unfold msrpPortEnable
  split
  next on =>
    refine ⟨ctx.table port,.of_tables tablesWith_self.symm,kept,fun initialized _ => ?_⟩
    simpa [initialized] using on
  next off =>
    have disabled : ctx.isEnabled port = false := by
      rw [Bool.or_eq_true,not_or] at off
      exact Bool.eq_false_iff.mpr off.1
    obtain ⟨none_joined,own⟩ := kept.idle disabled
    have joined_false : joined = fun _ => false := funext none_joined
    subst joined_false
    have started := @tables_running ctx port (mrpEnable random)
    have config := tablesWith_config started
    obtain ⟨table,tables,slots,own',running,all,complete⟩ := @declareDomains_slots (ctx.modifyApp port (mrpEnable random)) port
      ctx.enabledClasses (fun srClass member => member)
      (by
        rw [config,tablesWith_table started]
        exact {kept.slots with})
      (by
        rw [config,tablesWith_table started]
        exact own)
    rw [tablesWith_trans started] at tables
    rw [config] at slots own'
    split
    next declared equal =>
      rw [equal] at tables complete
      have stopped := @tables_running declared port mrpDisable
      rw [tablesWith_trans tables,tablesWith_table tables,mrpDisable_enabled] at stopped
      have still := (isEnabled_congr stopped).trans disabled
      refine ⟨_,.of_tables stopped,?_,fun _ answers => absurd (complete fun tick => (config ▸ answers tick).1) (by simp)⟩
      rw [still]
      exact ⟨{slots with},rfl,fun _ => ⟨fun _ => rfl,own'⟩,fun impossible => absurd impossible (by simp)⟩
    next declared equal =>
      rw [equal] at tables all
      have updated := @tables_domainUpdate declared port
      rw [tablesWith_trans tables,tablesWith_table tables,tablesWith_config tables] at updated
      dsimp only
      split
      next refused =>
        have ticked : (declared.msrpDomainUpdateBoundaryPort port).tick.tables = _ := updated
        obtain ⟨last,stopped,released⟩ := kept_disabled ticked (slots.updateClasses _)
        have still := (isEnabled_congr stopped).trans disabled
        refine ⟨last,.of_tables stopped,?_,fun _ answers => ?_⟩
        · rw [still]
          exact released
        · rw [answer,tablesWith_config updated,(answers _).2] at refused
          cases refused
      · have ticked : (declared.msrpDomainUpdateBoundaryPort port).tick.tables = _ := updated
        obtain ⟨step,on⟩ := tables_enable inside true ticked
        refine ⟨_,step,?_,fun _ _ => on⟩
        rw [on]
        refine ⟨slots.updateClasses _,?_,fun impossible => absurd impossible (by simp),fun _ srClass member => ?_⟩
        · rw [updateClasses_eq (enabledSrClasses_nodup _)]
          rw [tablesWith_table started,mrpEnable_enabled] at running
          exact running
        · exact slots.matched (enabledSrClasses_nodup _) member (all rfl srClass (.inl member))

theorem kept_portDisable (inside : port < 16)
    (kept : Kept ctx.config.srClass (ctx.isEnabled port) joined (ctx.table port)) :
    ∃ table, StepAt port ctx (ctx.msrpPortDisable port) table ∧
      Kept ctx.config.srClass ((ctx.msrpPortDisable port).isEnabled port)
        (if (ctx.msrpPortDisable port).isEnabled port then joined else fun _ => false) table := by
  unfold msrpPortDisable
  split
  · refine ⟨ctx.table port,.of_tables tablesWith_self.symm,?_⟩
    cases enabled : ctx.isEnabled port with
    | true =>
      rw [enabled] at kept
      exact kept
    | false =>
      rw [enabled] at kept
      have joined_false : joined = fun _ => false := funext (kept.idle rfl).1
      rw [joined_false] at kept
      exact kept
  · have exits := @tables_exitDomains ctx.tick port
    have detached := (@tables_detachStreams port ((ctx.tick.msrpExitDomains port).map.streams.map MsrpStream.streamId)
      (ctx.tick.msrpExitDomains port)).trans exits
    obtain ⟨step,off⟩ := tables_enable inside false detached
    obtain ⟨stopped,still⟩ := step.stop
    refine ⟨_,{stopped with},?_⟩
    rw [still,off]
    exact kept.slots.released

end Ports

/-- The context and, for each port, the domains that its peers have joined and not left since it was enabled. -/
structure DomainSystem where
  ctx : MsrpCtx
  joined : Nat → DomainValue → Bool

inductive DomainInput where
  | portEnable (port random : Nat)
  | portDisable (port : Nat)
  | join (port : Nat) (fv : DomainValue)
  | leave (port : Nat) (fv : DomainValue)

def DomainSystem.indicated (port : Nat) (fv : DomainValue) (registered : Bool) (system : DomainSystem) :
    Nat → DomainValue → Bool :=
  update system.joined port (update (system.joined port) fv registered)

def domainStep : DomainInput → DomainSystem → DomainSystem
  | .portEnable port random,system =>
    if port < system.ctx.config.portMax then {system with ctx := system.ctx.msrpPortEnable port random} else system
  | .portDisable port,system =>
    if port < system.ctx.config.portMax then
      let ctx := system.ctx.msrpPortDisable port
      ⟨ctx,update system.joined port (if ctx.isEnabled port then system.joined port else fun _ => false)⟩
    else system
  | .join port fv,system =>
    if (system.ctx.app port).enabled then
      ⟨system.ctx.msrpDomainJoinIndication port fv,system.indicated port fv true⟩
    else system
  | .leave port fv,system =>
    if (system.ctx.app port).enabled then
      ⟨system.ctx.msrpDomainLeaveIndication port fv,system.indicated port fv false⟩
    else system

def msrpPortInit (mrp : MrpConfig) (random : Nat) : MsrpPort where
  portEnabledStatus := true
  srpDomainBoundaryPort := fun _ => false
  domain := fun _ => none
  domains := []
  numDomains := 0
  mrpApp := mrpDisable (mrpInit mrp random)

def msrpInit (config : MsrpConfig) (fqtss : Nat → FqtssPortParams) (mvrp : MvrpCtx) (random : Nat → Nat) : MsrpCtx where
  config := config
  map := ⟨[],0,0⟩
  operationalState := 0
  enabledState := 0
  msrpEnabledStatus := false
  port := fun port => msrpPortInit config.mrp (random port)
  fqtss := fqtss
  mvrp := mvrp
  ticks := 0
  fdb := []
  ipc := []
  faults := []

def DomainSystem.start (config : MsrpConfig) (fqtss : Nat → FqtssPortParams) (mvrp : MvrpCtx) (random : Nat → Nat) :
    DomainSystem := ⟨msrpInit config fqtss mvrp random,fun _ _ => false⟩

def DomainSystem.Kept (system : DomainSystem) : Prop :=
  ∀ port, Msrp.Kept system.ctx.config.srClass (system.ctx.isEnabled port) (system.joined port) (system.ctx.table port)

theorem DomainSystem.kept_start (config : MsrpConfig) (fqtss : Nat → FqtssPortParams) (mvrp : MvrpCtx)
    (random : Nat → Nat) : (DomainSystem.start config fqtss mvrp random).Kept := by
  intro port
  have disabled : (DomainSystem.start config fqtss mvrp random).ctx.isEnabled port = false := maskHas_zero port
  rw [disabled]
  refine ⟨⟨nodup_nil,rfl,Nat.zero_le _,?_,?_⟩,mrpDisable_enabled _,fun _ => ⟨fun _ => rfl,?_⟩,?_⟩
  · intro domain member
    cases member
  · intro srClass fv found
    cases found
  · intro domain member
    cases member
  · intro impossible
    cases impossible

theorem StepAt.kept {port : Nat} {system : DomainSystem} {next : MsrpCtx} {table : DomainTable}
    {joined : DomainValue → Bool} (all : system.Kept) (step : StepAt port system.ctx next table)
    (kept : Msrp.Kept system.ctx.config.srClass (next.isEnabled port) joined table) :
    DomainSystem.Kept ⟨next,update system.joined port joined⟩ := by
  intro other
  change Msrp.Kept next.config.srClass (next.isEnabled other) (update system.joined port joined other)
    (next.table other)
  rw [step.config]
  by_cases same : other = port
  case pos =>
    rw [same,update_self,step.table]
    exact kept
  case neg =>
    have table : next.table other = system.ctx.table other :=
      (congrFun step.tables other).trans (update_of_ne same _ _)
    rw [update_of_ne same,step.enabled other same,table]
    exact all other

theorem DomainSystem.kept_step {system : DomainSystem} (input : DomainInput) (all : system.Kept) :
    (domainStep input system).Kept := by
  have bound := system.ctx.config.portMax_bound
  cases input with
  | portEnable port random =>
    simp only [domainStep]
    split
    next inside =>
      obtain ⟨table,step,kept,-⟩ := @kept_portEnable _ _ _ random (by omega) (all port)
      have next := step.kept all kept
      rwa [update_eq_self] at next
    · exact all
  | portDisable port =>
    simp only [domainStep]
    split
    next inside =>
      obtain ⟨table,step,kept⟩ := kept_portDisable (by omega) (all port)
      exact step.kept all kept
    · exact all
  | join port fv =>
    simp only [domainStep]
    split
    next running =>
      have kept := all port
      have enabled : system.ctx.isEnabled port = true := kept.running.symm.trans running
      rw [enabled] at kept
      obtain ⟨table,tables,kept⟩ := @kept_join _ _ _ fv kept
      refine StepAt.kept all (.of_tables tables) ?_
      rw [(isEnabled_congr tables).trans enabled]
      exact kept
    · exact all
  | leave port fv =>
    simp only [domainStep]
    split
    next running =>
      have kept := all port
      have enabled : system.ctx.isEnabled port = true := kept.running.symm.trans running
      rw [enabled] at kept
      obtain ⟨table,tables,kept⟩ := @kept_leave _ _ _ fv kept
      refine StepAt.kept all (.of_tables tables) ?_
      rw [(isEnabled_congr tables).trans enabled]
      exact kept
    · exact all

/-- What the slots of a port hold, and that its own domains can always be declared again. -/
structure SlotsKept (system : DomainSystem) (port : Nat) : Prop where
  kept : Kept system.ctx.config.srClass (system.ctx.isEnabled port) (system.joined port) (system.ctx.table port)
  again : ∀ random, port < system.ctx.config.portMax → system.ctx.config.initialized port = true →
    (∀ tick, (system.ctx.config.os tick).memory = true ∧ (system.ctx.config.os tick).multicast = true) →
      (domainStep (.portEnable port random) system).ctx.isEnabled port = true

/-- In every run, on every port, every domain that is declared or registered with a slot has one slot, and the boundary
flags follow the registered domains. -/
theorem domains_kept (config : MsrpConfig) (fqtss : Nat → FqtssPortParams) (mvrp : MvrpCtx) (random : Nat → Nat)
    (inputs : List DomainInput) (port : Nat) :
    SlotsKept (run domainStep inputs (DomainSystem.start config fqtss mvrp random)) port := by
  have all : (run domainStep inputs (DomainSystem.start config fqtss mvrp random)).Kept :=
    run_invariant domainStep (fun system input kept _ => DomainSystem.kept_step input kept)
      (DomainSystem.kept_start config fqtss mvrp random) (steps_always domainStep inputs _)
  refine ⟨all port,fun random inside initialized answers => ?_⟩
  generalize run domainStep inputs _ = system at all inside initialized answers
  have bound := system.ctx.config.portMax_bound
  simp only [domainStep,if_pos inside]
  obtain ⟨-,-,-,on⟩ := @kept_portEnable _ _ _ random (by omega) (all port)
  exact on initialized answers

/-- The slots are those of the domains that are registered or declared, and no others. -/
def SlotsReleased (system : DomainSystem) (port : Nat) : Prop :=
  (system.ctx.port port).numDomains = ((system.ctx.port port).domains.filter fun domain =>
    domain.registered || (List.range CFG_MSRP_MAX_CLASSES).any fun srClass =>
      (system.ctx.port port).domain srClass == some domain.fv).length

/-- The boundary flag says that no registered domain is the declared one. -/
def BoundaryUnmatched (system : DomainSystem) (port srClass : Nat) : Prop :=
  (system.ctx.port port).srpDomainBoundaryPort srClass = true ↔
    ∀ domain ∈ (system.ctx.port port).domains,
      domain.registered = true → (system.ctx.port port).domain srClass ≠ some domain.fv

instance (system : DomainSystem) (port : Nat) : Decidable (SlotsReleased system port) :=
  inferInstanceAs (Decidable (_ = _))

instance (system : DomainSystem) (port srClass : Nat) : Decidable (BoundaryUnmatched system port srClass) :=
  inferInstanceAs (Decidable (_ ↔ _))

def onePort : MsrpConfig where
  isBridge := false
  portMax := 1
  logicalPort := id
  initialized := fun _ => true
  sendLeaveOnDeclarationUpdate := true
  srClass := ⟨0,1,SrClassConfig.classes_AB⟩
  trafficClass := fun _ _ => 0
  mrp := .ofMsrp 5000 leaveTimeout_default
  os := fun _ => ⟨true,.ok .VO .MT,true,true,true,⟨true,fun _ => .ok .VO .MT⟩,(1,1)⟩
  portMax_bound := Mvrp.onePort_bound

def onePortStart : DomainSystem :=
  .start onePort (fun _ => ⟨fun _ => ⟨0,0,false⟩,0,0⟩)
    (.mvrpInit ⟨false,1,id,fun _ => true,Mvrp.onePort_bound⟩ (.ofMvrp 5000 leaveTimeout_default) fun _ => 10000) fun _ => 10000

def sixDomains : List DomainInput := [10,11,12,13,14,15].flatMap fun vid => [.join 0 ⟨6,5,vid⟩,.leave 0 ⟨6,5,vid⟩]

/-- A domain that comes and goes keeps its slot, and after six of them the next one gets none; a second domain with
another priority makes the port a boundary port. -/
theorem domain_slots_leak :
    ¬SlotsReleased (run domainStep [.portEnable 0 10000,.join 0 ⟨6,5,2⟩,.leave 0 ⟨6,5,2⟩] onePortStart) 0 ∧
    ⟨6,3,9⟩ ∉ ((run domainStep (.portEnable 0 10000 :: sixDomains ++ [.join 0 ⟨6,3,9⟩]) onePortStart).ctx.table
      0).values ∧
    ¬BoundaryUnmatched (run domainStep [.portEnable 0 10000,.join 0 ⟨6,3,2⟩,.join 0 ⟨6,5,2⟩] onePortStart) 0 0 := by
  decide

end Genavb.Msrp
