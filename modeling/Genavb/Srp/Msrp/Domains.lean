import Genavb.Srp.Msrp.DomainFrames
import Mathlib.Data.List.Perm.Subperm

/-! Enabling and disabling MSRP on a port, and what the domain functions do to the table of the port. -/
namespace Genavb.Msrp
open Support Mrp Common Mvrp List Option
open Function (update update_eq_self update_idem update_self)
open DomainTable

namespace MsrpCtx

def classDomain (config : SrClassConfig) (srClass : Nat) (vid : VlanId) : DomainValue :=
  ⟨UInt8.ofNat (config.srClassId srClass),UInt8.ofNat (config.srClassPcp srClass),vid⟩

def msrpUpdateEnabledState (port : Nat) (state : Bool) (ctx : MsrpCtx) : MsrpCtx :=
  msrpMapUpdate {ctx with
    enabledState := if state then maskSet ctx.enabledState port else maskClear ctx.enabledState port}

def exitDomain (port : Nat) (ctx : MsrpCtx) (domain : MsrpDomain) : MsrpCtx :=
  (ctx.leaveRequest port (.domain domain.fv)).modifyPort port fun item =>
    {item with domains := item.domains.erase domain, numDomains := item.numDomains - 1}

def msrpExitDomains (port : Nat) (ctx : MsrpCtx) : MsrpCtx :=
  ((ctx.port port).domains.foldl (exitDomain port) ctx).modifyPort port fun item =>
    {item with domain := fun _ => none}

/-- The loop of `msrp_port_enable`; it ends with a domain that could not be declared. -/
def declareDomains (port : Nat) : List Nat → MsrpCtx → MsrpCtx × Bool
  | [],ctx => (ctx,true)
  | srClass :: rest,ctx =>
    let (ctx,domain) := ctx.msrpDeclareDomain port (classDomain ctx.config.srClass srClass CFG_MVRP_VID)
    let ctx := ctx.modifyPort port fun item => {item with domain := update item.domain srClass domain}
    if domain.isNone then (ctx,false) else declareDomains port rest ctx

def msrpPortEnable (port random : Nat) (ctx : MsrpCtx) : MsrpCtx :=
  if ctx.isEnabled port || !ctx.config.initialized port then ctx
  else
    match declareDomains port ctx.enabledClasses (ctx.modifyApp port (mrpEnable random)) with
    | (ctx,false) => ctx.modifyApp port mrpDisable
    | (ctx,true) =>
      let ctx := ctx.msrpDomainUpdateBoundaryPort port
      if !ctx.answer.multicast then (ctx.tick.msrpExitDomains port).modifyApp port mrpDisable
      else ctx.tick.msrpUpdateEnabledState port true

def detachStream (port : Nat) (ctx : MsrpCtx) (streamId : StreamId) : MsrpCtx :=
  match ctx.msrpFindStream streamId with
  | none => ctx.faulted (.releasedStream streamId)
  | some stream =>
    let work : Work := ⟨(stream.setRegisteredAttributes .LISTENER port []).setRegisteredAttributes .TALKER port [],ctx⟩
    let work := (work.msrpListenerRegistrationMerge port).msrpTalkerRegistrationMerge port none
    work.ctx.store work.stream

def msrpPortDisable (port : Nat) (ctx : MsrpCtx) : MsrpCtx :=
  if !ctx.isEnabled port || !ctx.config.initialized port then ctx
  else
    let ctx := ctx.tick.msrpExitDomains port
    let ctx := (ctx.map.streams.map MsrpStream.streamId).foldl (detachStream port) ctx
    (ctx.msrpUpdateEnabledState port false).modifyApp port mrpDisable

end MsrpCtx


namespace DomainTable

def values (table : DomainTable) : List DomainValue := table.domains.map MsrpDomain.fv

def registeredOf (config : SrClassConfig) (srClass : Nat) (table : DomainTable) : List DomainValue :=
  (table.domains.filter fun domain =>
    domain.registered && domain.fv.srClassId.toNat == config.srClassId srClass).map (·.fv)

def boundaryOf (config : SrClassConfig) (srClass : Nat) (table : DomainTable) : Bool :=
  match table.domain srClass with
  | none => !(table.registeredOf config srClass).isEmpty
  | some _ => (table.registeredOf config srClass).isEmpty ||
      (table.registeredOf config srClass).any fun other => other.srClassPriority.toNat != config.srClassPcp srClass

def mismatching (config : SrClassConfig) (srClass : Nat) (declared : DomainValue) (table : DomainTable) :
    List DomainValue :=
  (table.registeredOf config srClass).filter fun (other : DomainValue) =>
    other.srClassPriority.toNat == config.srClassPcp srClass && other.srClassVid != declared.srClassVid

/-- What the port declares for a class when it has adopted the VLAN of a registered domain. -/
def adopted (config : SrClassConfig) (srClass : Nat) (table : DomainTable) : Option DomainValue :=
  (table.domain srClass).map fun declared =>
    ((table.mismatching config srClass declared).getLast?).getD declared

def updateClass (config : SrClassConfig) (table : DomainTable) (srClass : Nat) : DomainTable :=
  {table with
    boundary := update table.boundary srClass (table.boundaryOf config srClass)
    domain := update table.domain srClass (table.adopted config srClass)}

def register (fv : DomainValue) (registered : Bool) (table : DomainTable) : DomainTable :=
  {table with domains := table.domains.map fun domain =>
    if domain.fv = fv then {domain with registered := registered} else domain}

def create (fv : DomainValue) (table : DomainTable) : DomainTable :=
  if fv ∈ table.values then table
  else {table with domains := ⟨fv,false⟩ :: table.domains, numDomains := table.numDomains + 1}

end DomainTable

def enabledSrClasses (config : SrClassConfig) : List Nat :=
  (List.range CFG_MSRP_MAX_CLASSES).filter fun srClass => config.srClassEnabled srClass && srClass != SR_CLASS_NONE

namespace MsrpCtx
variable (ctx : MsrpCtx) (port : Nat)

def table : DomainTable := (ctx.port port).table

def tablesWith (table : DomainTable) : MsrpConfig × PortMask × (Nat → DomainTable) :=
  (ctx.config,ctx.enabledState,update ctx.tables.2.2 port table)

variable {ctx} {port}

variable {other : MsrpCtx}

private theorem tables_table (same : other.tables = ctx.tables) : other.table port = ctx.table port :=
  congrArg (fun tables => tables.2.2 port) same

variable {table : DomainTable}

theorem tablesWith_config (same : other.tables = ctx.tablesWith port table) : other.config = ctx.config :=
  congrArg Prod.fst same

theorem tablesWith_table (same : other.tables = ctx.tablesWith port table) : other.table port = table :=
  (congrArg (fun tables => tables.2.2 port) same).trans (update_self _ _ _)

theorem tablesWith_self : ctx.tablesWith port (ctx.table port) = ctx.tables :=
  Prod.ext rfl (Prod.ext rfl (update_eq_self port _))

theorem tablesWith_trans {first second : DomainTable} (same : other.tables = ctx.tablesWith port first) :
    other.tablesWith port second = ctx.tablesWith port second := by
  refine Prod.ext (tablesWith_config same) (Prod.ext (congrArg (fun tables => tables.2.1) same) ?_)
  have ports : other.tables.2.2 = update ctx.tables.2.2 port first := congrArg (fun tables => tables.2.2) same
  change update other.tables.2.2 port second = _
  rw [ports,update_idem]
  rfl

theorem tables_modifyPort_table {f : MsrpPort → MsrpPort} (table : DomainTable)
    (result : (f (ctx.port port)).table = table) : (ctx.modifyPort port f).tables = ctx.tablesWith port table := by
  rw [tables_modifyPort,result]
  rfl

theorem find_isSome (fv : DomainValue) : (ctx.msrpFindDomain port fv).isSome = true ↔ fv ∈ (ctx.table port).values := by
  unfold msrpFindDomain
  rw [List.find?_isSome]
  simp only [beq_iff_eq]
  exact mem_map.symm

theorem create_cases (fv : DomainValue) :
    ((ctx.msrpCreateDomain port fv).2 = true ∧
      (ctx.msrpCreateDomain port fv).1.tables = ctx.tablesWith port ((ctx.table port).create fv) ∧
      (fv ∈ (ctx.table port).values ∨ (ctx.table port).numDomains < CFG_MSRP_MAX_DOMAINS)) ∨
    ((ctx.msrpCreateDomain port fv).2 = false ∧ (ctx.msrpCreateDomain port fv).1.tables = ctx.tables ∧
      fv ∉ (ctx.table port).values ∧
      ((ctx.table port).numDomains < CFG_MSRP_MAX_DOMAINS → ctx.answer.memory = false)) := by
  unfold msrpCreateDomain create
  by_cases found : fv ∈ (ctx.table port).values
  case pos =>
    rw [if_pos ((find_isSome fv).mpr found),if_pos found]
    exact .inl ⟨rfl,tablesWith_self.symm,.inl found⟩
  case neg =>
    rw [if_neg (mt (find_isSome fv).mp found),if_neg found]
    split
    next taken => exact .inr ⟨rfl,rfl,found,fun room => absurd room taken⟩
    next room =>
      split
      next short => exact .inr ⟨rfl,rfl,found,fun _ => by simpa using short⟩
      · refine .inl ⟨rfl,?_,.inr (not_not.mp room)⟩
        exact tables_modifyPort_table _ rfl

theorem declare_cases (fv : DomainValue) :
    ((ctx.msrpDeclareDomain port fv).2 = some fv ∧
      (ctx.msrpDeclareDomain port fv).1.tables = ctx.tablesWith port ((ctx.table port).create fv) ∧
      (fv ∈ (ctx.table port).values ∨ (ctx.table port).numDomains < CFG_MSRP_MAX_DOMAINS)) ∨
    ((ctx.msrpDeclareDomain port fv).2 = none ∧ (ctx.msrpDeclareDomain port fv).1.tables = ctx.tables ∧
      fv ∉ (ctx.table port).values ∧
      ((ctx.table port).numDomains < CFG_MSRP_MAX_DOMAINS → ctx.answer.memory = false)) := by
  unfold msrpDeclareDomain
  have cases := @create_cases ctx port fv
  split
  next created equal =>
    rw [equal] at cases
    rcases cases with ⟨impossible,-⟩ | ⟨-,refused⟩
    · cases impossible
    · exact .inr ⟨rfl,refused⟩
  next created equal =>
    rw [equal] at cases
    rcases cases with ⟨-,tables,room⟩ | ⟨impossible,-⟩
    · exact .inl ⟨rfl,(tables_joinRequest created port _ _).trans tables,room⟩
    · cases impossible

variable {srClass : Nat}

private theorem tables_writeBoundary {next : MsrpCtx} {boundary : Bool} {declared : Nat → Option DomainValue}
    (same : next.tables = ctx.tablesWith port {ctx.table port with domain := declared}) :
    (if (next.port port).srpDomainBoundaryPort srClass = boundary then (next,false)
      else (next.modifyPort port fun item =>
        {item with srpDomainBoundaryPort := update item.srpDomainBoundaryPort srClass boundary},true)).1.tables =
      ctx.tablesWith port {ctx.table port with
        boundary := update (ctx.table port).boundary srClass boundary, domain := declared} := by
  have table := tablesWith_table same
  split
  next kept =>
    have flag : (ctx.table port).boundary srClass = boundary :=
      (congrFun (congrArg DomainTable.boundary table) srClass).symm.trans kept
    rw [same,← flag,update_eq_self]
  · refine (tables_modifyPort_table {next.table port with
      boundary := update (next.table port).boundary srClass boundary} rfl).trans ?_
    rw [tablesWith_trans same,table]

private theorem mismatching_mem {declared other : DomainValue} {config : SrClassConfig}
    (member : other ∈ table.mismatching config srClass declared) :
    other ∈ table.registeredOf config srClass ∧ other.srClassPriority.toNat = config.srClassPcp srClass ∧
      other = classDomain config srClass other.srClassVid := by
  obtain ⟨registered,wanted⟩ := mem_filter.mp member
  rw [Bool.and_eq_true,beq_iff_eq] at wanted
  refine ⟨registered,wanted.1,?_⟩
  obtain ⟨domain,kept,rfl⟩ := mem_map.mp registered
  have ofClass := (mem_filter.mp kept).2
  rw [Bool.and_eq_true,beq_iff_eq] at ofClass
  unfold classDomain
  rw [← wanted.1,← ofClass.2,UInt8.ofNat_toNat,UInt8.ofNat_toNat]

private theorem registeredOf_values {config : SrClassConfig} {fv : DomainValue}
    (member : fv ∈ table.registeredOf config srClass) : fv ∈ table.values := by
  obtain ⟨domain,kept,rfl⟩ := mem_map.mp member
  exact mem_map_of_mem (mem_filter.mp kept).1

theorem tables_setDomain {next : MsrpCtx} (same : next.tables = ctx.tablesWith port table)
    (srClass : Nat) (domain : Option DomainValue) :
    (next.modifyPort port fun item => {item with domain := update item.domain srClass domain}).tables =
      ctx.tablesWith port {table with domain := update table.domain srClass domain} := by
  refine (tables_modifyPort_table {next.table port with
    domain := update (next.table port).domain srClass domain} rfl).trans ?_
  rw [tablesWith_trans same,tablesWith_table same]

theorem tables_redeclare {previous value other : DomainValue} (slot : other ∈ (ctx.table port).values)
    (same : value = other) :
    (((ctx.leaveRequest port (.domain previous)).msrpDeclareDomain port value).1.modifyPort port fun item =>
      {item with
        domain := update item.domain srClass
          ((ctx.leaveRequest port (.domain previous)).msrpDeclareDomain port value).2}).tables =
      ctx.tablesWith port {ctx.table port with
        domain := update (ctx.table port).domain srClass (some other)} := by
  subst same
  have left : (ctx.leaveRequest port (.domain previous)).tables = ctx.tables := tables_leaveRequest _ _ _
  have table := @tables_table _ port _ left
  rcases @declare_cases (ctx.leaveRequest port (.domain previous)) port value with ⟨found,tables,-⟩ | ⟨-,-,absent,-⟩
  · have kept : (ctx.table port).create value = ctx.table port := if_pos slot
    rw [table,kept,tablesWith_trans (left.trans tablesWith_self.symm)] at tables
    rw [found]
    exact tables_setDomain tables srClass _
  · rw [table] at absent
    exact absurd slot absent

theorem tables_updateBoundaryClass (srClass : Nat) : (ctx.updateBoundaryClass port srClass).1.tables =
    ctx.tablesWith port ((ctx.table port).updateClass ctx.config.srClass srClass) := by
  have registered : ctx.registeredDomains port srClass = (ctx.table port).registeredOf ctx.config.srClass srClass := rfl
  unfold updateBoundaryClass updateClass boundaryOf DomainTable.adopted
  rw [registered]
  cases declared : (ctx.table port).domain srClass with
  | none =>
    have declared' : (ctx.port port).domain srClass = none := declared
    simp only [declared']
    apply tables_writeBoundary
    rw [map_none,← declared,update_eq_self]
    exact tablesWith_self.symm
  | some fv =>
    have declared' : (ctx.port port).domain srClass = some fv := declared
    simp only [declared']
    cases last : ((ctx.table port).mismatching ctx.config.srClass srClass fv).getLast? with
    | none =>
      have none_left := last
      unfold mismatching at none_left
      simp only [none_left]
      apply tables_writeBoundary
      rw [map_some,last,getD_none,← declared,update_eq_self]
      exact tablesWith_self.symm
    | some other =>
      obtain ⟨member,-,value⟩ := mismatching_mem (mem_of_getLast? last)
      have adopted := last
      unfold mismatching at adopted
      simp only [adopted]
      apply tables_writeBoundary
      rw [map_some,last,getD_some]
      exact tables_redeclare (registeredOf_values member) value.symm

theorem tables_updateClasses (classes : List Nat) (state : MsrpCtx × Bool) :
    (classes.foldl (fun state srClass =>
      let (ctx,changed) := state.1.updateBoundaryClass port srClass
      (ctx,state.2 || changed)) state).1.tables =
      state.1.tablesWith port (classes.foldl (updateClass state.1.config.srClass) (state.1.table port)) := by
  induction classes generalizing state with
  | nil => exact tablesWith_self.symm
  | cons srClass rest ih =>
    have step := @tables_updateBoundaryClass state.1 port srClass
    rw [foldl_cons,foldl_cons,ih,tablesWith_trans step]
    rw [tablesWith_config step,tablesWith_table step]

theorem tables_domainUpdate : (ctx.msrpDomainUpdateBoundaryPort port).tables =
    ctx.tablesWith port ((enabledSrClasses ctx.config.srClass).foldl (updateClass ctx.config.srClass)
      (ctx.table port)) := by
  have classes := @tables_updateClasses port ctx.enabledClasses (ctx,false)
  unfold msrpDomainUpdateBoundaryPort
  dsimp only
  split
  · exact (tables_mapUpdate _).trans classes
  · exact classes

theorem tables_register (fv : DomainValue) (registered : Bool) : (ctx.setDomainRegistered port fv registered).tables =
    ctx.tablesWith port ((ctx.table port).register fv registered) := tables_modifyPort_table _ rfl

theorem tables_exitDomains : (ctx.msrpExitDomains port).tables = ctx.tablesWith port {ctx.table port with
    domains := []
    numDomains := (ctx.table port).numDomains - (ctx.table port).domains.length
    domain := fun _ => none} := by
  have freed (domains : List MsrpDomain) (ctx : MsrpCtx) (all : (ctx.table port).domains = domains) :
      (domains.foldl (exitDomain port) ctx).tables = ctx.tablesWith port {ctx.table port with
        domains := [], numDomains := (ctx.table port).numDomains - domains.length} := by
    induction domains generalizing ctx with
    | nil =>
      refine tablesWith_self.symm.trans (congrArg (ctx.tablesWith port) ?_)
      change ctx.table port = {ctx.table port with domains := [], numDomains := (ctx.table port).numDomains}
      rw [← all]
    | cons domain rest ih =>
      have left := tables_leaveRequest ctx port (.domain domain.fv)
      have step : (exitDomain port ctx domain).tables = ctx.tablesWith port {ctx.table port with
          domains := rest, numDomains := (ctx.table port).numDomains - 1} := by
        refine (tables_modifyPort_table {(ctx.leaveRequest port (.domain domain.fv)).table port with
          domains := ((ctx.leaveRequest port (.domain domain.fv)).table port).domains.erase domain
          numDomains := ((ctx.leaveRequest port (.domain domain.fv)).table port).numDomains - 1} rfl).trans ?_
        rw [tablesWith_trans (left.trans tablesWith_self.symm),tables_table left,all,erase_cons_head]
      rw [foldl_cons,ih _ (congrArg DomainTable.domains (tablesWith_table step)),tablesWith_trans step,
        tablesWith_table step]
      simp only [length_cons,Nat.sub_sub,Nat.add_comm 1]
  have all := freed (ctx.table port).domains ctx rfl
  have last := @tables_modifyPort_table ((ctx.table port).domains.foldl (exitDomain port) ctx) port
    (fun item => {item with domain := fun _ => none}) _ rfl
  refine last.trans ?_
  rw [tablesWith_trans all]
  exact congrArg (ctx.tablesWith port) (congrArg (fun table : DomainTable => {table with domain := fun _ => none})
    (tablesWith_table all))

end MsrpCtx

end Genavb.Msrp

/-! Which domains hold the slots of a port, and what the loop over the classes makes of them. -/
namespace Genavb.Msrp
open Common MsrpCtx List Function Option

namespace DomainTable

/-- Every slot holds one domain, the flags say what the peers have registered, and what is declared has a slot. -/
structure Slots (config : SrClassConfig) (joined : DomainValue → Bool) (table : DomainTable) : Prop where
  distinct : table.values.Nodup
  count : table.numDomains = table.domains.length
  few : table.numDomains ≤ CFG_MSRP_MAX_DOMAINS
  registered : ∀ domain ∈ table.domains, domain.registered = joined domain.fv
  declared : ∀ srClass fv, table.domain srClass = some fv →
    fv ∈ table.values ∧ ∃ vid, fv = classDomain config srClass vid

def Own (config : SrClassConfig) (table : DomainTable) : Prop :=
  ∀ domain ∈ table.domains, ∃ srClass ∈ enabledSrClasses config, domain.fv = classDomain config srClass CFG_MVRP_VID

/-- A domain is declared for the class, and the flag says whether a registered domain is the declared one and none has
another priority. -/
def Matched (config : SrClassConfig) (srClass : Nat) (table : DomainTable) : Prop :=
  ∃ fv, table.domain srClass = some fv ∧
    (table.boundary srClass = true ↔ fv ∉ table.registeredOf config srClass ∨
      ∃ other ∈ table.registeredOf config srClass, other.srClassPriority.toNat ≠ config.srClassPcp srClass)

section Steps
variable {config : SrClassConfig} {joined : DomainValue → Bool} {table : DomainTable} {fv : DomainValue}

theorem values_register (fv : DomainValue) (registered : Bool) (table : DomainTable) :
    (table.register fv registered).values = table.values := by
  unfold values register
  rw [List.map_map]
  apply List.map_congr_left
  intro domain _
  change (if domain.fv = fv then _ else domain : MsrpDomain).fv = domain.fv
  split <;> rfl

theorem values_create (fv : DomainValue) (table : DomainTable) :
    (table.create fv).values = if fv ∈ table.values then table.values else fv :: table.values := by
  unfold create
  split <;> rfl

theorem mem_values_create (fv : DomainValue) (table : DomainTable) : fv ∈ (table.create fv).values := by
  rw [values_create]
  split
  next found => exact found
  · exact mem_cons_self

theorem create_domain (fv : DomainValue) (table : DomainTable) : (table.create fv).domain = table.domain := by
  unfold create
  split <;> rfl

theorem Own.room (own : table.Own config) (slots : table.Slots config joined) :
    table.numDomains < CFG_MSRP_MAX_DOMAINS := by
  have values : table.values ⊆ (enabledSrClasses config).map fun srClass => classDomain config srClass CFG_MVRP_VID := by
    intro fv member
    obtain ⟨domain,slot,rfl⟩ := mem_map.mp member
    obtain ⟨srClass,enabled,same⟩ := own domain slot
    exact mem_map.mpr ⟨srClass,enabled,same.symm⟩
  have classes : enabledSrClasses config ⊆ [0,1,2,3,4,6,7] := by
    intro srClass member
    obtain ⟨below,enabled⟩ := mem_filter.mp member
    have inside := mem_range.mp below
    rw [Bool.and_eq_true,bne_iff_ne] at enabled
    have other := enabled.2
    unfold SR_CLASS_NONE at other
    unfold CFG_MSRP_MAX_CLASSES at inside
    simp only [mem_cons,not_mem_nil,or_false]
    omega
  have few := (subperm_of_subset slots.distinct values).length_le
  have most : (enabledSrClasses config).length ≤ 7 :=
    (subperm_of_subset (nodup_range.filter _) classes).length_le
  rw [length_map] at few
  have length : table.values.length = table.numDomains := (length_map _).trans slots.count.symm
  unfold CFG_MSRP_MAX_DOMAINS
  omega

theorem create_running (fv : DomainValue) (table : DomainTable) : (table.create fv).running = table.running := by
  unfold create
  split <;> rfl

namespace Slots

section
variable (slots : table.Slots config joined)
include slots

theorem congr {other : DomainValue → Bool}
    (same : ∀ fv ∈ table.values, joined fv = other fv) : table.Slots config other :=
  {slots with registered := fun domain member =>
    (slots.registered domain member).trans (same _ (mem_map_of_mem member))}

theorem create (room : fv ∈ table.values ∨ table.numDomains < CFG_MSRP_MAX_DOMAINS)
    (fresh : fv ∉ table.values → joined fv = false) : (table.create fv).Slots config joined := by
  unfold DomainTable.create
  split
  · exact slots
  next absent =>
    refine ⟨nodup_cons.mpr ⟨absent,slots.distinct⟩,congrArg (· + 1) slots.count,room.resolve_left absent,?_,?_⟩
    · intro domain member
      rcases mem_cons.mp member with rfl | member
      · exact (fresh absent).symm
      · exact slots.registered domain member
    · intro srClass declared found
      obtain ⟨slot,own⟩ := slots.declared srClass declared found
      exact ⟨mem_cons_of_mem _ slot,own⟩

theorem register (fv : DomainValue) (registered : Bool) :
    (table.register fv registered).Slots config (Function.update joined fv registered) := by
  have values := values_register fv registered table
  refine ⟨values ▸ slots.distinct,?_,slots.few,?_,fun srClass declared found => ?_⟩
  · exact slots.count.trans (length_map _).symm
  · intro domain member
    obtain ⟨before,inside,rfl⟩ := mem_map.mp member
    by_cases same : before.fv = fv
    case pos =>
      rw [if_pos same,same,update_self]
    case neg =>
      rw [if_neg same,update_of_ne same]
      exact slots.registered before inside
  · rw [values]
    exact slots.declared srClass declared found

theorem setDomain (srClass : Nat) {domain : Option DomainValue}
    (own : ∀ fv, domain = some fv → fv ∈ table.values ∧ ∃ vid, fv = classDomain config srClass vid) :
    Slots config joined {table with domain := Function.update table.domain srClass domain} := by
  refine {slots with declared := fun other fv found => ?_}
  by_cases same : other = srClass
  case pos =>
    subst same
    exact own fv (by simpa using found)
  case neg => exact slots.declared other fv (by simpa [update_of_ne same] using found)

theorem adopted {srClass : Nat} (found : table.adopted config srClass = some fv) :
    fv ∈ table.values ∧ ∃ vid, fv = classDomain config srClass vid := by
  obtain ⟨declared,before,rfl⟩ := map_eq_some_iff.mp found
  cases last : (table.mismatching config srClass declared).getLast? with
  | none => exact slots.declared srClass declared before
  | some other =>
    obtain ⟨member,-,value⟩ := mismatching_mem (mem_of_getLast? last)
    exact ⟨registeredOf_values member,_,value⟩

theorem updateClass (srClass : Nat) : (table.updateClass config srClass).Slots config joined :=
  {slots.setDomain srClass fun _ found => slots.adopted found with}

theorem updateClasses (classes : List Nat) :
    (classes.foldl (DomainTable.updateClass config) table).Slots config joined := by
  induction classes generalizing table with
  | nil => exact slots
  | cons srClass rest ih => exact ih (slots.updateClass srClass)

end

end Slots

theorem updateClasses_eq {classes : List Nat} (distinct : classes.Nodup) :
    classes.foldl (updateClass config) table = {table with
      boundary := fun srClass => if srClass ∈ classes then table.boundaryOf config srClass else table.boundary srClass
      domain := fun srClass => if srClass ∈ classes then table.adopted config srClass else table.domain srClass} := by
  induction classes generalizing table with
  | nil => simp
  | cons first rest ih =>
    obtain ⟨absent,distinct⟩ := nodup_cons.mp distinct
    rw [foldl_cons,ih distinct]
    have declared {srClass : Nat} (member : srClass ∈ rest) :
        (table.updateClass config first).domain srClass = table.domain srClass := by
      apply update_of_ne
      rintro rfl
      exact absent member
    have boundary {srClass : Nat} (member : srClass ∈ rest) :
        (table.updateClass config first).boundaryOf config srClass = table.boundaryOf config srClass := by
      unfold boundaryOf
      rw [declared member]
      rfl
    have adopted {srClass : Nat} (member : srClass ∈ rest) :
        (table.updateClass config first).adopted config srClass = table.adopted config srClass := by
      unfold DomainTable.adopted
      rw [declared member]
      rfl
    congr 1
    · funext srClass
      by_cases member : srClass ∈ rest
      case pos => simp only [member,if_true,mem_cons,or_true,boundary]
      case neg =>
        by_cases same : srClass = first
        case pos => simp [updateClass,same,absent]
        case neg => simp [updateClass,same,member]
    · funext srClass
      by_cases member : srClass ∈ rest
      case pos => simp only [member,if_true,mem_cons,or_true,adopted]
      case neg =>
        by_cases same : srClass = first
        case pos => simp [updateClass,same,absent]
        case neg => simp [updateClass,same,member]

theorem Slots.adopted_registered (slots : table.Slots config joined) {srClass : Nat} {declared other : DomainValue}
    (before : table.domain srClass = some declared) (member : other ∈ table.registeredOf config srClass)
    (priority : other.srClassPriority.toNat = config.srClassPcp srClass) :
    ∃ fv, table.adopted config srClass = some fv ∧ fv ∈ table.registeredOf config srClass := by
  unfold DomainTable.adopted
  rw [before,map_some]
  refine ⟨_,rfl,?_⟩
  cases last : (table.mismatching config srClass declared).getLast? with
  | some adopted => exact (mismatching_mem (mem_of_getLast? last)).1
  | none =>
    obtain ⟨-,vid,own⟩ := slots.declared srClass declared before
    obtain ⟨domain,kept,rfl⟩ := mem_map.mp member
    have ofClass := (mem_filter.mp kept).2
    rw [Bool.and_eq_true,beq_iff_eq] at ofClass
    have vlan : domain.fv.srClassVid = declared.srClassVid := by
      by_contra different
      have found : domain.fv ∈ table.mismatching config srClass declared :=
        mem_filter.mpr ⟨member,by simp [priority,different]⟩
      rw [List.getLast?_eq_none_iff.mp last] at found
      cases found
    have same : declared = domain.fv := by
      rw [own] at vlan ⊢
      change domain.fv.srClassVid = vid at vlan
      unfold classDomain
      rw [← priority,← ofClass.2,UInt8.ofNat_toNat,UInt8.ofNat_toNat,← vlan]
    rw [same]
    exact member

theorem Slots.matched (slots : table.Slots config joined) {classes : List Nat} (distinct : classes.Nodup)
    {srClass : Nat} (member : srClass ∈ classes) (declared : (table.domain srClass).isSome) :
    (classes.foldl (DomainTable.updateClass config) table).Matched config srClass := by
  obtain ⟨before,found⟩ := Option.isSome_iff_exists.mp declared
  obtain ⟨fv,adopted⟩ : ∃ fv, table.adopted config srClass = some fv := by
    unfold DomainTable.adopted
    rw [found]
    exact ⟨_,rfl⟩
  rw [updateClasses_eq distinct]
  refine ⟨fv,(if_pos member).trans adopted,?_⟩
  change (if srClass ∈ classes then table.boundaryOf config srClass else _) = true ↔
    fv ∉ table.registeredOf config srClass ∨
      ∃ other ∈ table.registeredOf config srClass, other.srClassPriority.toNat ≠ config.srClassPcp srClass
  rw [if_pos member]
  unfold boundaryOf
  rw [found]
  rw [Bool.or_eq_true,List.isEmpty_iff,List.any_eq_true]
  simp only [bne_iff_ne]
  constructor
  · rintro (none_registered | different)
    · rw [none_registered]
      exact .inl List.not_mem_nil
    · exact .inr different
  · rintro (missing | different)
    · by_contra neither
      rw [not_or] at neither
      obtain ⟨other,registered⟩ := List.exists_mem_of_ne_nil _ neither.1
      have priority : other.srClassPriority.toNat = config.srClassPcp srClass := by
        by_contra other_priority
        exact neither.2 ⟨other,registered,other_priority⟩
      obtain ⟨same,adopted',inside⟩ := slots.adopted_registered found registered priority
      rw [adopted] at adopted'
      cases adopted'
      exact missing inside
    · exact .inr different

end Steps

end DomainTable

end Genavb.Msrp
