import Genavb.Hsr.Holding

/-! Which nodes a tick of `hsr_nodeforget_timer_handler` (`hsr.c`) removes, with their streams and forwarding
entries, and which it is to remove. -/
namespace Genavb.Hsr
open Genavb.Support List Option
open Genavb.Maap (MacAddress)
open HsrDevice

variable {config : HsrPortConfig} {hw : Hardware} {dev : HsrDevice} {node : HsrNode} {mac : MacAddress}

namespace HsrNode

def generated (hw : Hardware) (node : HsrNode) : Option UInt16 := node.genId.bind hw.sequenceGenerationRead

def stale (hw : Hardware) (node : HsrNode) : Bool := node.generated hw = some node.seqnum

/-- The handler is right about a proxied node. -/
def Forgettable (hw : Hardware) (node : HsrNode) : Prop :=
  ∃ value, node.generated hw = some value ∧ (value = node.seqnum → node.streams.length ≤ 1) ∧
    (value ≠ node.seqnum → node.streams ≠ [])

end HsrNode

namespace HsrCtx

theorem forgetStream_length (i : Nat) (node : HsrNode) (dev : HsrDevice) :
    (forgetStream hw i node dev).1.streams.length =
      (if i < node.streams.length then node.streams.length - 1 else node.streams.length) ∧
    (forgetStream hw i node dev).1.mac = node.mac := by
  unfold forgetStream
  split
  case h_1 beyond =>
    rw [if_neg (Nat.not_lt.mpr (List.getElem?_eq_none_iff.mp beyond))]
    exact ⟨rfl,rfl⟩
  case h_2 stream present =>
    obtain ⟨inside,here⟩ := List.getElem?_eq_some_iff.mp present
    rw [if_pos inside,HsrNode.streamDel_node,HsrNode.without_mac]
    refine ⟨?_,rfl⟩
    unfold HsrNode.without
    split
    next absent =>
      have apart := List.findIdx?_eq_none_iff.mp absent stream (mem_of_getElem? present)
      simp at apart
    next index found =>
      obtain ⟨before,_⟩ := List.findIdx?_eq_some_iff_getElem.mp found
      exact length_eraseIdx_of_lt before

/-- The loop over the streams of a node misses every second one. -/
theorem forgetStreams_length (node : HsrNode) (dev : HsrDevice) :
    (forgetStreams hw node dev).1.streams.length = node.streams.length / 2 ∧
      (forgetStreams hw node dev).1.mac = node.mac := by
  have steps : ∀ count ≤ node.streams.length, ∃ now : HsrNode × HsrDevice,
      (List.range count).foldl (fun now i => forgetStream hw i now.1 now.2) (node,dev) = now ∧
      now.1.streams.length = max (node.streams.length - count) (node.streams.length / 2) ∧ now.1.mac = node.mac := by
    intro count
    induction count with
    | zero => exact fun _ => ⟨(node,dev),rfl,by dsimp only; omega,rfl⟩
    | succ count ih =>
      intro inside
      obtain ⟨now,same,length,address⟩ := ih (by omega)
      obtain ⟨next,kept⟩ := @forgetStream_length hw count now.1 now.2
      refine ⟨forgetStream hw count now.1 now.2,?_,?_,kept.trans address⟩
      · rw [range_succ,foldl_append,same]
        rfl
      · rw [next]
        split <;> omega
  obtain ⟨now,same,length,address⟩ := steps node.streams.length le_rfl
  rw [forgetStreams,same]
  exact ⟨by omega,address⟩

theorem forgetStreams_cleared (few : node.streams.length ≤ 1) :
    Cleared hw node.entries dev (forgetStreams hw node dev).2 := by
  unfold HsrNode.entries
  match only : node.streams,few with
  | [],_ =>
    simp only [forgetStreams,only]
    exact Cleared.quiet (Quiet.refl dev)
  | [stream],_ =>
    have same : forgetStreams hw node dev = node.streamDel stream.vid (dev.fdbDel hw node.mac stream.vid) := by
      simp [forgetStreams,forgetStream,only,range_succ]
    have index : node.streamidGetIndex stream.vid = some 0 := by simp [HsrNode.streamidGetIndex,only]
    rw [same]
    refine Cleared.fdbDel (Quiet.refl dev) HsrNode.streamDel_quiet
      ⟨[.streamIdentity stream.streamId,.streamFilter stream.drop.dropFilterId,
        .streamIdentity stream.drop.streamId],?_,mem_cons_self⟩
    unfold HsrNode.streamDel
    rw [index,only]
    simp [dropFilterDel,delete,tableIdFree]

theorem forgetRing_forgets (nodes : List HsrNode) (dev : HsrDevice) :
    (forgetRing config hw nodes dev).1 = (nodes.filter (·.cnt ≠ 0)).map (fun node => {node with cnt := 0}) ∧
      Cleared hw ((nodes.filter (·.cnt = 0)).flatMap HsrNode.entries) dev (forgetRing config hw nodes dev).2 := by
  induction nodes generalizing dev with
  | nil => exact ⟨rfl,Cleared.quiet (Quiet.refl dev)⟩
  | cons node nodes ih =>
    unfold forgetRing
    split
    next counted =>
      obtain ⟨kept,cleared⟩ := ih dev
      rw [filter_cons_of_pos (by simpa using counted),filter_cons_of_neg (by simpa using counted),map_cons,
        ← kept]
      exact ⟨rfl,cleared⟩
    next silent =>
      obtain ⟨kept,cleared⟩ := ih (node.del config hw dev)
      rw [filter_cons_of_neg (by simpa using silent),filter_cons_of_pos (by simpa using silent),
        flatMap_cons]
      exact ⟨kept,(HsrNode.del_cleared node dev).trans cleared⟩

def keptProxies (hw : Hardware) (nodes : List HsrNode) : List HsrNode :=
  (nodes.filter (!·.stale hw)).map fun node => {node with seqnum := (node.generated hw).getD node.seqnum}

private theorem forgetProxy_cons (seqnum : UInt16) (node : HsrNode) (nodes : List HsrNode) (dev : HsrDevice) :
    ∃ value next now, value = (node.generated hw).getD seqnum ∧
      forgetProxy config hw seqnum (node :: nodes) dev =
        ((if next.streams.length = 0 then [] else [next]) ++ (forgetProxy config hw value nodes now).1,
          (forgetProxy config hw value nodes now).2) ∧
      next.mac = node.mac ∧ next.seqnum = value ∧
      (value = node.seqnum → next.streams.length = node.streams.length / 2 ∧
        (node.streams.length ≤ 1 → Cleared hw node.entries dev now)) ∧
      (value ≠ node.seqnum → next = {node with seqnum := value} ∧ (next.streams.length ≠ 0 → now = dev)) := by
  refine ⟨(node.generated hw).getD seqnum,?_⟩
  rw [forgetProxy,show node.genId.bind hw.sequenceGenerationRead = node.generated hw from rfl]
  generalize (node.generated hw).getD seqnum = value
  obtain ⟨left,told,made,address,idle,busy⟩ : ∃ left told,
      (if value = node.seqnum then forgetStreams hw node dev else (node,dev)) = (left,told) ∧ left.mac = node.mac ∧
      (value = node.seqnum → left.streams.length = node.streams.length / 2 ∧
        (node.streams.length ≤ 1 → Cleared hw node.entries dev told)) ∧
      (value ≠ node.seqnum → left = node ∧ told = dev) := by
    obtain ⟨length,address⟩ := @forgetStreams_length hw node dev
    split
    next same => exact ⟨_,_,rfl,address,fun _ => ⟨length,forgetStreams_cleared⟩,fun other => absurd same other⟩
    next other => exact ⟨node,dev,rfl,rfl,fun same => absurd same other,fun _ => ⟨rfl,rfl⟩⟩
  rw [made]
  by_cases empty : left.streams.length = 0
  · refine ⟨{left with seqnum := value},({left with seqnum := value} : HsrNode).del config hw told,rfl,?_,address,rfl,?_,?_⟩
    · simp only [if_pos empty,nil_append]
    · refine fun same => ⟨(idle same).1,fun few => ?_⟩
      have none : ({left with seqnum := value} : HsrNode).entries = [] := by
        rw [HsrNode.entries,length_eq_zero_iff.mp empty,map_nil]
      have last := @HsrNode.del_cleared config hw {left with seqnum := value} told
      rw [none] at last
      exact append_nil node.entries ▸ ((idle same).2 few).trans last
    · exact fun other => ⟨by rw [(busy other).1],fun full => absurd empty full⟩
  · refine ⟨{left with seqnum := value},told,rfl,?_,address,rfl,idle,?_⟩
    · simp only [if_neg empty]
      rfl
    · exact fun other => ⟨by rw [(busy other).1],fun _ => (busy other).2⟩

theorem forgetProxy_forgets (seqnum : UInt16) (nodes : List HsrNode) (dev : HsrDevice)
    (right : ∀ node ∈ nodes, node.Forgettable hw) :
    (forgetProxy config hw seqnum nodes dev).1 = keptProxies hw nodes ∧
      Cleared hw ((nodes.filter (·.stale hw)).flatMap HsrNode.entries) dev (forgetProxy config hw seqnum nodes dev).2 := by
  induction nodes generalizing seqnum dev with
  | nil => exact ⟨rfl,Cleared.quiet (Quiet.refl dev)⟩
  | cons node nodes ih =>
    obtain ⟨number,read,few,some⟩ := right node mem_cons_self
    obtain ⟨value,next,now,same,turn,-,-,idle,busy⟩ := @forgetProxy_cons config hw seqnum node nodes dev
    rw [read,getD_some] at same
    subst same
    obtain ⟨kept,cleared⟩ := ih value now fun other member => right other (mem_cons_of_mem node member)
    rw [turn]
    by_cases same : value = node.seqnum
    · have stale : node.stale hw = true := by simp [HsrNode.stale,read,same]
      obtain ⟨length,gone⟩ := idle same
      have none : next.streams.length = 0 := by have := few same; omega
      rw [keptProxies,filter_cons_of_neg (by simp [stale]),filter_cons_of_pos stale,flatMap_cons,if_pos none]
      exact ⟨kept,(gone (few same)).trans cleared⟩
    · have fresh : node.stale hw = false := by simp [HsrNode.stale,read,same]
      obtain ⟨rfl,untouched⟩ := busy same
      have full : node.streams.length ≠ 0 := fun empty => some same (length_eq_zero_iff.mp empty)
      rw [untouched full] at cleared
      rw [keptProxies,filter_cons_of_pos (by simp [fresh]),filter_cons_of_neg (by simp [fresh]),if_neg full,
        map_cons,read,untouched full,getD_some]
      rw [untouched full] at kept
      exact ⟨congrArg _ kept,cleared⟩

private theorem forgetProxy_mac (seqnum : UInt16) (nodes : List HsrNode) (dev : HsrDevice) :
    ((forgetProxy config hw seqnum nodes dev).1.map HsrNode.mac).Sublist (nodes.map HsrNode.mac) := by
  induction nodes generalizing seqnum dev with
  | nil => exact Sublist.slnil
  | cons node nodes ih =>
    obtain ⟨value,next,now,-,turn,address,-⟩ := @forgetProxy_cons config hw seqnum node nodes dev
    rw [turn]
    split
    · exact (ih value now).cons node.mac
    · change (next.mac :: _).Sublist _
      rw [address]
      exact (ih value now).cons_cons node.mac

/-- Where the loop leaves the right list, it has been right about every node. -/
theorem forgetProxy_exact (seqnum : UInt16) (nodes : List HsrNode) (dev : HsrDevice)
    (distinct : (nodes.map HsrNode.mac).Nodup)
    (kept : (forgetProxy config hw seqnum nodes dev).1 = keptProxies hw nodes) : ∀ node ∈ nodes, node.Forgettable hw := by
  induction nodes generalizing seqnum dev with
  | nil => exact fun node member => (nomatch member)
  | cons node nodes ih =>
    obtain ⟨apart,distinct⟩ := nodup_cons.mp distinct
    obtain ⟨value,next,now,same,turn,address,number,idle,busy⟩ := @forgetProxy_cons config hw seqnum node nodes dev
    have looped := @forgetProxy_mac config hw value nodes now
    have listed : ∀ other ∈ keptProxies hw nodes, other.mac ∈ nodes.map HsrNode.mac := by
      intro other member
      obtain ⟨before,inside,rfl⟩ := mem_map.mp member
      exact mem_map.mpr ⟨before,mem_of_mem_filter inside,rfl⟩
    rw [turn] at kept
    by_cases stale : node.stale hw = true
    · have read : node.generated hw = some node.seqnum := by simpa [HsrNode.stale] using stale
      rw [read,getD_some] at same
      rw [keptProxies,filter_cons_of_neg (by simp [stale])] at kept
      by_cases empty : next.streams.length = 0
      · rw [if_pos empty] at kept
        refine forall_mem_cons.mpr ⟨⟨_,read,fun _ => ?_,fun other => absurd rfl other⟩,ih value now distinct kept⟩
        have := (idle same).1
        omega
      · rw [if_neg empty] at kept
        have inside : next ∈ keptProxies hw nodes := by
          rw [keptProxies,← kept]
          exact mem_cons_self
        exact absurd (address ▸ listed next inside) apart
    · rw [keptProxies,filter_cons_of_pos (by simp [stale]),map_cons] at kept
      by_cases empty : next.streams.length = 0
      · rw [if_pos empty,nil_append] at kept
        have inside := looped.subset
          (mem_map_of_mem (kept ▸ mem_cons_self : {node with seqnum := (node.generated hw).getD node.seqnum} ∈ _))
        exact absurd inside apart
      · rw [if_neg empty] at kept
        obtain ⟨head,rest⟩ := List.cons.inj kept
        refine forall_mem_cons.mpr ⟨?_,ih value now distinct rest⟩
        have noted : value = (node.generated hw).getD node.seqnum := by rw [← number,head]
        have streams : next.streams = node.streams := by rw [head]
        have busy : value ≠ node.seqnum := by
          intro idling
          have := (idle idling).1
          rw [streams] at this empty
          omega
        cases read : node.generated hw with
        | none =>
          rw [read] at noted
          exact absurd noted busy
        | some number =>
          rw [read,getD_some] at noted
          refine ⟨number,read,fun same => absurd (noted.trans same) busy,fun _ none => empty ?_⟩
          rw [streams,none]
          rfl

def proxied (ctx : HsrCtx) : List MacAddress := ctx.proxyList.map HsrNode.mac

private theorem nodeListSet_mac (nodes : List HsrNode) (node : HsrNode) :
    (nodeListSet nodes node).map HsrNode.mac = nodes.map HsrNode.mac := by
  induction nodes with
  | nil => rfl
  | cons head rest ih =>
    unfold nodeListSet
    split
    next same => rw [map_cons,map_cons,same]
    next => rw [map_cons,map_cons,ih]

private theorem macFilterDrop_proxied (vid : UInt16) (portmask : PortSet) (ctx : HsrCtx) :
    (macFilterDrop hw mac vid portmask ctx).proxied = ctx.proxied := by
  unfold macFilterDrop
  split
  · rfl
  · split
    · rfl
    · split
      · rfl
      · exact nodeListSet_mac _ _

theorem learnRing_proxied (station : Station) (streamid : Nat) (ctx : HsrCtx) :
    (learnRing config hw station streamid ctx).proxied = ctx.proxied := by
  unfold learnRing
  split
  · rfl
  · split
    · rfl
    · dsimp only
      split
      · split <;> rfl
      · rfl

private theorem ringLeave_proxied (ctx : HsrCtx) : (ctx.ringLeave config hw mac).proxied = ctx.proxied := by
  unfold ringLeave
  split <;> rfl

theorem learnProxy_distinct {ctx : HsrCtx} (station : Station) (streamid : Nat) (distinct : ctx.proxied.Nodup) :
    (learnProxy config hw station streamid ctx).proxied.Nodup := by
  have left : (ctx.ringLeave config hw station.mac).proxied.Nodup := by rwa [ringLeave_proxied]
  unfold learnProxy
  split
  next node _ =>
    rw [macFilterDrop_proxied]
    unfold proxied
    rwa [nodeListSet_mac]
  next unknown =>
    have new : station.mac ∉ (ctx.ringLeave config hw station.mac).proxied := by
      rw [ringLeave_proxied]
      intro member
      obtain ⟨node,inside,same⟩ := mem_map.mp member
      exact absurd (decide_eq_true same) (find?_eq_none.mp unknown node inside)
    dsimp only
    split
    · exact left
    · split
      · split
        · rw [macFilterDrop_proxied]
          exact nodup_cons.mpr ⟨new,left⟩
        · exact left
      · exact left

theorem learnStream_distinct {ctx : HsrCtx} (station : Station) (distinct : ctx.proxied.Nodup) :
    (learnStream config hw station ctx).proxied.Nodup := by
  have new : (learnStream.newStream config hw station ctx).proxied.Nodup := by
    unfold learnStream.newStream
    split
    · exact distinct
    · dsimp only
      split
      · split
        · split
          · rw [learnRing_proxied]
            exact distinct
          · exact learnProxy_distinct station _ distinct
        · exact distinct
      · exact distinct
  unfold learnStream
  split
  · split
    · exact distinct
    · exact new
  · exact new

theorem learnEntry_distinct {ctx next : HsrCtx} {station : Station} (distinct : ctx.proxied.Nodup)
    (goes : ctx.learnEntry config hw station = some next) : next.proxied.Nodup := by
  unfold learnEntry at goes
  split at goes
  · exact some.inj goes ▸ distinct
  · split at goes
    · split at goes
      · have kept (node : HsrNode) : ((nodeListSet ctx.proxyList node).map HsrNode.mac).Nodup := by
          rwa [nodeListSet_mac]
        dsimp only at goes
        split at goes
        · exact some.inj goes ▸ (eraseP_sublist.map HsrNode.mac).nodup (kept _)
        · exact some.inj goes ▸ kept _
      · cases goes
    · split at goes
      · cases goes
      · exact some.inj goes ▸ distinct

private theorem operationModeSelect_proxied (mode : HsrMode) (enable : Bool) (ctx : HsrCtx) :
    (ctx.operationModeSelect config hw mode enable).proxied = ctx.proxied := by
  cases mode <;> rfl

theorem step_distinct {ctx : HsrCtx} (input : HsrInput × Hardware) (distinct : ctx.proxied.Nodup) :
    (ctx.step config input).proxied.Nodup := by
  obtain ⟨input,hw⟩ := input
  cases input with
  | maclearn frame =>
    change (ctx.maclearnProcess config hw frame).proxied.Nodup
    unfold maclearnProcess
    split
    · exact distinct
    next station _ =>
      split
      · exact distinct
      next next goes =>
        have kept := learnEntry_distinct distinct goes
        split
        · exact kept
        · exact learnStream_distinct station kept
  | supervision smac mac =>
    change (ctx.supervisionProcess smac mac).proxied.Nodup
    unfold supervisionProcess
    split
    · exact distinct
    · exact distinct
  | nodeforget => exact (forgetProxy_mac 0 ctx.proxyList _).nodup distinct
  | operationModeSet mode =>
    change (ctx.operationModeSet config hw mode).proxied.Nodup
    unfold operationModeSet
    split
    · exact distinct
    · change (operationModeSelect ..).proxied.Nodup
      rw [operationModeSelect_proxied]
      split
      · exact distinct
      · rwa [operationModeSelect_proxied]

/-- The proxy list is searched by address before a node is added to it. -/
theorem proxied_distinct (inputs : List (HsrInput × Hardware)) (fdb : Fdb) :
    (run (step config) inputs (init fdb)).proxied.Nodup :=
  run_invariant (step config) (fun (ctx : HsrCtx) input (distinct : ctx.proxied.Nodup) _ => step_distinct input distinct)
    nodup_nil (steps_always _ inputs _)

def forgotten (hw : Hardware) (ctx : HsrCtx) : List (MacAddress × HsrStream) :=
  (ctx.ringList.filter (·.cnt = 0) ++ ctx.proxyList.filter (·.stale hw)).flatMap HsrNode.entries

/-- What a tick is to do: the nodes of the ring without a supervision frame and the proxied ones whose generator has
not advanced go, with their streams and entries; the others stay as they are, with what the next tick
compares. -/
structure Forgets (hw : Hardware) (ctx after : HsrCtx) : Prop where
  ring : after.ringList = (ctx.ringList.filter (·.cnt ≠ 0)).map fun node => {node with cnt := 0}
  proxy : after.proxyList = keptProxies hw ctx.proxyList
  fdb : ∀ mac vid, after.dev.fdb mac vid =
    if ∃ entry ∈ ctx.forgotten hw, entry.1 = mac ∧ entry.2.vid = vid then none else ctx.dev.fdb mac vid
  told : ∃ objects, ctx.dev.deleted ++ objects = after.dev.deleted ∧
    ∀ entry ∈ ctx.forgotten hw, HwObject.streamIdentity entry.2.streamId ∈ objects

/-- A tick forgets the nodes that it is to forget if and only if every generator can be read, no idle proxied node
has two streams, no other is without one, and the bridge deletes the entries. -/
theorem nodeforget_forgets (config : HsrPortConfig) (hw : Hardware) (ctx : HsrCtx)
    (distinct : (ctx.proxyList.map HsrNode.mac).Nodup) :
    ctx.Forgets hw (ctx.nodeforgetTimerHandler config hw) ↔ (∀ node ∈ ctx.proxyList, node.Forgettable hw) ∧
      ∀ entry ∈ ctx.forgotten hw, hw.fdbDelete entry.1 entry.2.vid = true ∨ ctx.dev.fdb entry.1 entry.2.vid = none := by
  obtain ⟨ring,cleared⟩ := @forgetRing_forgets config hw ctx.ringList ctx.dev
  have whole : (∀ node ∈ ctx.proxyList, node.Forgettable hw) →
      (ctx.nodeforgetTimerHandler config hw).proxyList = keptProxies hw ctx.proxyList ∧
        Cleared hw (ctx.forgotten hw) ctx.dev (ctx.nodeforgetTimerHandler config hw).dev := by
    intro right
    obtain ⟨proxy,further⟩ := @forgetProxy_forgets config hw 0 ctx.proxyList (forgetRing config hw ctx.ringList ctx.dev).2 right
    rw [forgotten,flatMap_append]
    exact ⟨proxy,cleared.trans further⟩
  constructor
  · intro forgets
    have right := forgetProxy_exact 0 ctx.proxyList (forgetRing config hw ctx.ringList ctx.dev).2 distinct forgets.proxy
    refine ⟨right,fun entry member => ?_⟩
    have gone := forgets.fdb entry.1 entry.2.vid
    rw [if_pos ⟨entry,member,rfl,rfl⟩,(whole right).2.fdb] at gone
    by_cases deleted : hw.fdbDelete entry.1 entry.2.vid = true
    · exact Or.inl deleted
    · rw [if_neg fun both => deleted both.1] at gone
      exact Or.inr gone
  · rintro ⟨right,deleted⟩
    obtain ⟨proxy,all⟩ := whole right
    refine ⟨ring,proxy,fun mac vid => ?_,all.told⟩
    rw [all.fdb]
    by_cases listed : ∃ entry ∈ ctx.forgotten hw, entry.1 = mac ∧ entry.2.vid = vid
    · obtain ⟨entry,member,rfl,rfl⟩ := listed
      rw [if_pos (show ∃ other ∈ ctx.forgotten hw, _ from ⟨entry,member,rfl,rfl⟩)]
      split
      · rfl
      next kept => exact (deleted entry member).resolve_left fun deletes => kept ⟨deletes,entry,member,rfl,rfl⟩
    · rw [if_neg listed,if_neg fun both => listed both.2]

end HsrCtx

def Hardware.success : Hardware where
  vlanPortGetDefault := fun _ => some 1
  fdbRead := fun _ _ => true
  fdbUpdate := fun _ _ _ => true
  fdbDelete := fun _ _ => true
  streamIdentityUpdate := fun _ _ => true
  streamFilterUpdate := fun _ => true
  sequenceIdentificationUpdate := fun _ _ => true
  sequenceGenerationRead := fun _ => some 0
  sequenceGenerationUpdate := fun _ _ => true
  sequenceRecoveryUpdate := fun _ _ => true
  osMalloc := true

def stationMac : MacAddress := ⟨0x02,0,0,0,0,0x01⟩

def edgeConfig : HsrPortConfig where
  brMgmtPort := 2
  logicalBrPortList := [10,11,12,13]
  ringPortMask := 3
  few := by decide
  inside := fun port has =>
    (by decide : ∀ port, port < 8 → maskHas (3 : PortSet) port = true → port < 4) port (maskHas_inside has) has

def proxiedStation (frames : List (Nat × UInt16)) : HsrCtx :=
  run (HsrCtx.step edgeConfig) (frames.map fun frame => (.maclearn ⟨frame.1,stationMac,some frame.2⟩,.success))
    (HsrCtx.init fun _ _ => none)

theorem nodeforget_forgets_one :
    (proxiedStation [(12,1)]).Forgets .success ((proxiedStation [(12,1)]).nodeforgetTimerHandler edgeConfig .success) := by
  apply (HsrCtx.nodeforget_forgets edgeConfig .success (proxiedStation [(12,1)]) (HsrCtx.proxied_distinct _ _)).mpr
  refine ⟨fun node member => ⟨0,?_,?_,?_⟩,fun _ _ => Or.inl rfl⟩
  all_goals revert node; decide

/-- Of a station in two VLANs the node stays, with one stream. -/
theorem nodeforget_misses_second : ¬ (proxiedStation [(12,1),(13,2)]).Forgets .success
    ((proxiedStation [(12,1),(13,2)]).nodeforgetTimerHandler edgeConfig .success) := by
  intro forgets
  have length := congrArg List.length forgets.proxy
  revert length
  decide

end Genavb.Hsr
