import Genavb.Maap.Indications

/-! The indications of MAAP over whole runs: they describe the ranges, and they are numbered like
the responses as long as the state machine of no port with another logical number sends one. -/
namespace Genavb.Maap
open Support List
open List (append_assoc append_nil forall_mem_cons mem_append mem_cons mem_cons_of_mem mem_cons_self mem_map
  mem_singleton not_mem_nil pairwise_cons)

section Ports
variable {logicalPort : Nat → UInt16} {port : Nat} {log : List MaapOutput} {ranges : List MaapRange} {env : MaapEnv}

theorem About.unique {output : MaapOutput} {other : Nat} {rangeId otherId : UInt32} (about : output.About port rangeId)
    (again : output.About other otherId) : other = port ∧ otherId = rangeId := by
  cases output with
  | transmit | indication | chosen => exact ⟨again.1.symm.trans about.1,again.2.symm.trans about.2⟩
  | createResponse | deleteResponse => exact about.elim

structure PortTold (logicalPort : UInt16) (port : Nat) (log : List MaapOutput) (ranges : List MaapRange) : Prop where
  distinct : ranges.Pairwise fun first second => first.rangeId ≠ second.rangeId
  told : ∀ range ∈ ranges, RangeTold port log range
  answered : ∀ range ∈ ranges, CreateAnswered logicalPort range.rangeId log
  gone : ∀ rangeId, (∀ range ∈ ranges, range.rangeId ≠ rangeId) →
    ∀ start count, lastIndication port rangeId log ≠ some (start,count,.success)

theorem CreateAnswered.append {logicalPort : UInt16} {rangeId : UInt32}
    (answered : CreateAnswered logicalPort rangeId log)
    (extra : List MaapOutput) : CreateAnswered logicalPort rangeId (log ++ extra) := by
  obtain ⟨sync,dst,count,baseAddress,answer⟩ := answered
  exact ⟨sync,dst,count,baseAddress,mem_append_left _ answer⟩

private theorem lastIndication_others {rangeId : UInt32} {extra : List MaapOutput}
    (others : ∀ output ∈ extra, ¬ output.About port rangeId) :
    lastIndication port rangeId (log ++ extra) = lastIndication port rangeId log := by
  induction extra generalizing log with
  | nil => rw [append_nil]
  | cons output rest ih =>
    obtain ⟨other,others⟩ := forall_mem_cons.mp others
    rw [append_cons,ih others,lastIndication_quiet fun _ _ _ _ _ _ _ _ _ => other]

theorem PortTold.others {logicalPort : UInt16} (told : PortTold logicalPort port log ranges) {extra : List MaapOutput}
    (others : ∀ output ∈ extra, ∀ rangeId, ¬ output.About port rangeId) :
    PortTold logicalPort port (log ++ extra) ranges where
  distinct := told.distinct
  told range member := (told.told range member).others fun output added => others output added range.rangeId
  answered range member := (told.answered range member).append extra
  gone rangeId unused := by
    rw [lastIndication_others fun output added => others output added rangeId]
    exact told.gone rangeId unused

theorem PortTold.strangers {logicalPort : UInt16} (told : PortTold logicalPort port log ranges)
    {index : Nat} {rangeId : UInt32}
    (unused : ∀ range ∈ ranges, range.rangeId ≠ rangeId) {extra : List MaapOutput} (about : ∀ output ∈ extra, ∀ other otherId, output.About other otherId →
      other = index ∧ otherId = rangeId) :
    (∀ range ∈ ranges, RangeTold port (log ++ extra) range) ∧
    ∀ otherId, otherId ≠ rangeId → (∀ range ∈ ranges, range.rangeId ≠ otherId) →
      ∀ start count, lastIndication port otherId (log ++ extra) ≠ some (start,count,.success) := by
  constructor
  · intro range member
    exact (told.told range member).others fun output added again => unused range member (about output added _ _ again).2
  · intro otherId apart absent
    rw [lastIndication_others fun output added again => apart (about output added _ _ again).2]
    exact told.gone otherId absent

structure PortActs (logicalPort : Nat → UInt16) (port : Nat) (start finish : List MaapRange × MaapEnv) : Prop where
  rangeIds : finish.1.map MaapRange.rangeId = start.1.map MaapRange.rangeId
  extended : ∃ extra, finish.2.outputs = start.2.outputs ++ extra ∧
    ∀ output ∈ extra, ∃ range ∈ start.1, output.About port range.rangeId
  told : ∀ range ∈ finish.1, RangeTold port finish.2.outputs range
  right : History (IndicationRight logicalPort) finish.2.outputs

private theorem eachRange_acts {handle : MaapRange → MaapEnv → MaapRange × MaapEnv}
    (distinct : ranges.Pairwise fun first second => first.rangeId ≠ second.rangeId)
    (told : ∀ range ∈ ranges, RangeTold port env.outputs range)
    (right : History (IndicationRight logicalPort) env.outputs)
    (acts : ∀ range ∈ ranges, ∀ later extra, later.outputs = env.outputs ++ extra →
      RangeTold port later.outputs range → Acts logicalPort port (range,later) (handle range later)) :
    PortActs logicalPort port (ranges,env) (eachRange handle ranges env) := by
  induction ranges generalizing env with
  | nil =>
    exact ⟨rfl,⟨[],(append_nil _).symm,fun _ no => absurd no not_mem_nil⟩,
      fun _ no => absurd no not_mem_nil,right⟩
  | cons head rest ih =>
    obtain ⟨apart,distinct⟩ := pairwise_cons.mp distinct
    obtain ⟨known,others⟩ := forall_mem_cons.mp told
    have first := acts head mem_cons_self env [] (append_nil _).symm known
    obtain ⟨extra,outputs,about⟩ := first.extended
    have further : PortActs logicalPort port (rest,(handle head env).2) (eachRange handle rest (handle head env).2) := by
      refine ih distinct ?_ (first.right known right) ?_
      · intro range member
        rw [outputs]
        exact (others range member).others fun output added again =>
          apart range member (About.unique (about output added) again).2.symm
      · intro range member later more outputs' known
        refine acts range (mem_cons_of_mem _ member) later (extra ++ more) ?_ known
        rw [outputs',outputs,append_assoc]
    obtain ⟨more,outputs',about'⟩ := further.extended
    unfold eachRange
    refine ⟨congrArg₂ List.cons first.rangeId further.rangeIds,⟨extra ++ more,?_,?_⟩,?_,further.right⟩
    · dsimp only
      rw [outputs',outputs,append_assoc]
    · intro output added
      rcases mem_append.mp added with early | late
      · exact ⟨head,mem_cons_self,about output early⟩
      · obtain ⟨range,member,about⟩ := about' output late
        exact ⟨range,mem_cons_of_mem _ member,about⟩
    · refine forall_mem_cons.mpr ⟨?_,further.told⟩
      rw [outputs']
      refine (first.told known).others fun output added again => ?_
      obtain ⟨range,member,about⟩ := about' output added
      refine apart range member ?_
      rw [← first.rangeId]
      exact (About.unique about again).2

variable {handle : MaapRange → MaapEnv → MaapRange × MaapEnv} {found : MaapRange → Bool}

theorem eachRange_none (none : ∀ range ∈ ranges, found range = false) :
    eachRange (fun range env => if found range then handle range env else (range,env)) ranges env = (ranges,env) := by
  induction ranges with
  | nil => rfl
  | cons head rest ih =>
    obtain ⟨first,none⟩ := forall_mem_cons.mp none
    unfold eachRange
    rw [first,if_neg Bool.false_ne_true]
    dsimp only
    rw [ih none]

theorem onRange_eq_eachRange (only : ranges.Pairwise fun first second => found first = true → found second = false) :
    onRange found handle ranges env =
      eachRange (fun range env => if found range then handle range env else (range,env)) ranges env := by
  induction ranges with
  | nil => rfl
  | cons head rest ih =>
    obtain ⟨first,only⟩ := pairwise_cons.mp only
    unfold onRange eachRange
    split
    next here =>
      have none : ∀ range ∈ rest, found range = false := fun range member => first range member here
      dsimp only
      rw [eachRange_none none]
    · dsimp only
      rw [ih only]

end Ports

section Receive
variable {port : Nat} {localMac src : MacAddress} {pdu : MaapPdu} {ethertype : UInt16} {range : MaapRange}
  {ranges : List MaapRange} {env : MaapEnv}

private theorem maapSmRestart_outputs (port : Nat) (env : MaapEnv) (stopped : range.state = .initial)
    (size : range.macCount ≤ MAAP_DYNAMIC_POOL_SIZE) :
    ∃ before message, (∀ output ∈ before, output.About port range.rangeId) ∧ message.About port range.rangeId ∧
      (maapSmRestart port range env).2.outputs = env.outputs ++ before ++
        [.chosen port range.rangeId (drawnStart range.macCount env.random) range.macCount] ++ [message] := by
  rw [maapSmRestart_eq stopped size]
  unfold maapSmReserveAddress notifyConflict
  rw [stopped]
  cases range.sendConflictIndication with
  | false =>
    refine ⟨[],_,fun _ no => absurd no not_mem_nil,?_,by rw [append_nil]; rfl⟩
    exact ⟨rfl,rfl⟩
  | true =>
    refine ⟨[_],_,fun _ member => ?_,?_,rfl⟩
    · rw [mem_singleton.mp member]
      exact ⟨rfl,rfl⟩
    · exact ⟨rfl,rfl⟩

theorem maapNetReceive_extended (size : range.macCount ≤ MAAP_DYNAMIC_POOL_SIZE) :
    ∃ extra, (maapNetReceive port localMac src pdu ethertype range env).2.outputs = env.outputs ++ extra ∧
      ∀ output ∈ extra, output.About port range.rangeId := by
  rcases maapNetReceive_received port env ethertype with ⟨_,restart⟩ | ⟨_,same⟩ | ⟨_,_,_,conflict,_,defend⟩
  · have rangeId : range.stopped.rangeId = range.rangeId := congrArg (·.1) range.stopped_extent
    have count : range.stopped.macCount = range.macCount := congrArg (·.2.2) range.stopped_extent
    rw [← count] at size
    obtain ⟨before,message,about,about',outputs⟩ := maapSmRestart_outputs port env range.stopped_state size
    rw [restart,outputs,append_assoc,append_assoc]
    refine ⟨_,rfl,?_⟩
    rw [rangeId] at about about' ⊢
    intro output added
    rcases mem_append.mp added with early | late
    · exact about output early
    · rcases mem_append.mp late with chosen | last
      · rw [mem_singleton.mp chosen]
        exact ⟨rfl,rfl⟩
      · rw [mem_singleton.mp last]
        exact about'
  · rw [same]
    exact ⟨[],(append_nil _).symm,fun _ no => absurd no not_mem_nil⟩
  · rw [defend]
    exact ⟨[_],rfl,fun _ member => by rw [mem_singleton.mp member]; exact ⟨rfl,rfl⟩⟩

theorem receive_extended (env : MaapEnv) (size : ∀ range ∈ ranges, range.macCount ≤ MAAP_DYNAMIC_POOL_SIZE) :
    ∃ extra, (eachRange (maapNetReceive port localMac src pdu ethertype) ranges env).2.outputs = env.outputs ++ extra ∧
      ∀ output ∈ extra, ∃ range ∈ ranges, output.About port range.rangeId := by
  induction ranges generalizing env with
  | nil => exact ⟨[],(append_nil _).symm,fun _ no => absurd no not_mem_nil⟩
  | cons head rest ih =>
    obtain ⟨small,size⟩ := forall_mem_cons.mp size
    obtain ⟨first,outputs,about⟩ := maapNetReceive_extended small
    obtain ⟨more,outputs',about'⟩ := ih _ size
    unfold eachRange
    rw [outputs',outputs,append_assoc]
    refine ⟨_,rfl,fun output added => ?_⟩
    rcases mem_append.mp added with early | late
    · exact ⟨head,mem_cons_self,about output early⟩
    · obtain ⟨range,member,about⟩ := about' output late
      exact ⟨range,mem_cons_of_mem _ member,about⟩

theorem receive_probes (distinct : ranges.Pairwise fun first second => first.rangeId ≠ second.rangeId)
    (size : ∀ range ∈ ranges, range.macCount ≤ MAAP_DYNAMIC_POOL_SIZE) (member : range ∈ ranges)
    (restarts : Restarts localMac src pdu ethertype range = true) (start : MacAddress) (count : UInt16) :
    probesSent port range.rangeId start count
      (eachRange (maapNetReceive port localMac src pdu ethertype) ranges env).2.outputs ≤ 1 := by
  induction ranges generalizing env with
  | nil => exact absurd member not_mem_nil
  | cons head rest ih =>
    obtain ⟨small,sizes⟩ := forall_mem_cons.mp size
    obtain ⟨apart,distinct⟩ := pairwise_cons.mp distinct
    unfold eachRange
    rcases mem_cons.mp member with rfl | later
    · obtain ⟨more,outputs,about⟩ :=
        receive_extended (maapNetReceive port localMac src pdu ethertype range env).2 sizes
      rw [outputs,probesSent_others]
      · have rangeId : range.stopped.rangeId = range.rangeId := congrArg (·.1) range.stopped_extent
        have count : range.stopped.macCount = range.macCount := congrArg (·.2.2) range.stopped_extent
        rw [← count] at small
        obtain ⟨before,message,_,_,sent⟩ := maapSmRestart_outputs port env range.stopped_state small
        rw [maapNetReceive_restarts port env restarts,sent,rangeId]
        exact probesSent_chosen
      · intro output added again
        obtain ⟨other,member,about⟩ := about output added
        exact apart other member (About.unique about again).2
    · exact ih distinct sizes later

end Receive

namespace MaapCtx

structure AllTold (logicalPort : Nat → UInt16) (maap : MaapCtx) : Prop where
  logical : ∀ index, (maap.port index).logicalPort = logicalPort index
  ports : ∀ index, PortTold (logicalPort index) index maap.env.outputs (maap.port index).range
  right : History (IndicationRight logicalPort) maap.env.outputs

section Preservation
variable {logicalPort : Nat → UInt16} {maap : MaapCtx} {index : Nat}

private theorem setPort_logical {port : MaapPort} (same : port.logicalPort = (maap.port index).logicalPort) (other : Nat) :
    ((maap.setPort index port).port other).logicalPort = (maap.port other).logicalPort := by
  by_cases here : other = index
  · rw [here,setPort_same,same]
  · rw [setPort_other here]

theorem AllTold.onPort (all : AllTold logicalPort maap) {handle : List MaapRange → MaapEnv → List MaapRange × MaapEnv}
    (acts : PortActs logicalPort index ((maap.port index).range,maap.env) (handle (maap.port index).range maap.env)) :
    AllTold logicalPort (maap.onPort index handle) := by
  obtain ⟨extra,outputs,about⟩ := acts.extended
  have old := all.ports index
  have member_old (rangeId : UInt32) : (∃ range ∈ (handle (maap.port index).range maap.env).1, range.rangeId = rangeId) ↔
      ∃ range ∈ (maap.port index).range, range.rangeId = rangeId := by
    rw [← mem_map,← mem_map,acts.rangeIds]
  unfold MaapCtx.onPort
  refine ⟨fun other => (setPort_logical (by rfl) other).trans (all.logical other),?_,acts.right⟩
  intro other
  rw [outputs]
  by_cases here : other = index
  · subst here
    rw [setPort_same]
    refine ⟨?_,?_,?_,?_⟩
    · have distinct := pairwise_map.mpr old.distinct
      rw [← acts.rangeIds] at distinct
      exact pairwise_map.mp distinct
    · rw [← outputs]
      exact acts.told
    · intro range member
      obtain ⟨before,present,same⟩ := (member_old range.rangeId).mp ⟨range,member,rfl⟩
      rw [← same]
      exact (old.answered before present).append extra
    · intro rangeId unused
      have absent : ∀ range ∈ (maap.port other).range, range.rangeId ≠ rangeId := by
        intro range member same
        obtain ⟨after,present,same⟩ := (member_old rangeId).mpr ⟨range,member,same⟩
        exact unused after present same
      rw [lastIndication_others]
      · exact old.gone rangeId absent
      · intro output added again
        obtain ⟨range,member,about⟩ := about output added
        exact absent range member (About.unique about again).2.symm
  · rw [setPort_other here]
    refine (all.ports other).others fun output added rangeId again => ?_
    obtain ⟨range,_,about⟩ := about output added
    exact here (About.unique about again).1

theorem AllTold.emit (all : AllTold logicalPort maap) {output : MaapOutput}
    (quiet : ∀ port rangeId, ¬ output.About port rangeId) (right : IndicationRight logicalPort maap.env.outputs output) :
    AllTold logicalPort (maap.emit output) where
  logical := all.logical
  ports index := (all.ports index).others fun added member rangeId again => by
    rw [mem_singleton.mp member] at again
    exact quiet index rangeId again
  right := history_append all.right right

private theorem isRangeIdUsed_false {port : MaapPort} {rangeId : UInt32} (unused : port.isRangeIdUsed rangeId = false) :
    ∀ range ∈ port.range, range.rangeId ≠ rangeId := by
  intro range member
  unfold MaapPort.isRangeIdUsed at unused
  rw [any_eq_false] at unused
  simpa using unused range member

theorem AllTold.chosen (all : AllTold logicalPort maap) {rangeId : UInt32}
    (unused : (maap.port index).isRangeIdUsed rangeId = false) (start : MacAddress) (count : Nat)
    (random : Nat → Nat) :
    AllTold logicalPort
      {maap with env := {maap.env with random := random}.emit (.chosen index rangeId start count)} := by
  refine ⟨all.logical,fun other => ?_,history_append all.right trivial⟩
  have about : ∀ output ∈ [MaapOutput.chosen index rangeId start count], ∀ other otherId,
      output.About other otherId → other = index ∧ otherId = rangeId := by
    intro output member other otherId about
    rw [mem_singleton.mp member] at about
    exact ⟨about.1.symm,about.2.symm⟩
  by_cases here : other = index
  · subst here
    have old := all.ports other
    obtain ⟨told,_⟩ := old.strangers (isRangeIdUsed_false unused) about
    refine ⟨old.distinct,told,fun range member => (old.answered range member).append _,?_⟩
    intro otherId absent
    change ∀ start' count', lastIndication other otherId (maap.env.outputs ++ [_]) ≠ some (start',count',.success)
    rw [lastIndication_quiet (by simp)]
    exact old.gone otherId absent
  · exact (all.ports other).others fun output member otherId again => here (about output member other otherId again).1

theorem AllTold.add {first env : MaapEnv} {base range : MaapRange} {portId : UInt16} {sync : Bool}
    {src count : UInt16} {start : MacAddress} (all : AllTold logicalPort {maap with env := first})
    (unused : ∀ old ∈ (maap.port index).range, old.rangeId ≠ base.rangeId)
    (acts : Acts logicalPort index (base,first) (range,env)) (known : RangeTold index first.outputs base)
    (logical : portId = logicalPort index) :
    AllTold logicalPort ({maap.setPort index (withRange range (maap.port index)) with env := env}.emit
      (.createResponse sync src .success portId range.rangeId count start)) := by
  obtain ⟨extra,outputs,about⟩ := acts.extended
  have same : range.rangeId = base.rangeId := acts.rangeId
  have strange : ∀ output ∈ extra ++ [.createResponse sync src .success portId range.rangeId count start],
      ∀ other otherId, output.About other otherId → other = index ∧ otherId = base.rangeId := by
    intro output added other otherId again
    rcases mem_append.mp added with early | last
    · exact About.unique (about output early) again
    · rw [mem_singleton.mp last] at again
      exact again.elim
  refine ⟨fun other => (setPort_logical (by rfl) other).trans (all.logical other),?_,
    history_append (acts.right known all.right) trivial⟩
  intro other
  dsimp only [MaapCtx.emit,MaapEnv.emit] at outputs ⊢
  by_cases here : other = index
  · subst here
    rw [setPort_same]
    have old := all.ports other
    obtain ⟨told,gone⟩ := old.strangers unused strange
    have told' : RangeTold other (env.outputs ++ [.createResponse sync src .success portId range.rangeId count start])
        range := (acts.told known).other id
    rw [outputs,append_assoc] at told' ⊢
    refine ⟨pairwise_cons.mpr ⟨fun old member again => unused old member (again.symm.trans same),old.distinct⟩,
      forall_mem_cons.mpr ⟨told',told⟩,forall_mem_cons.mpr ⟨?_,fun old' member =>
        (old.answered old' member).append _⟩,fun otherId absent => ?_⟩
    · rw [← logical]
      exact ⟨sync,src,count,start,by simp⟩
    · obtain ⟨apart,absent⟩ := forall_mem_cons.mp absent
      exact gone otherId (fun again => apart (same.trans again.symm)) absent
  · rw [setPort_other here,outputs,append_assoc]
    exact (all.ports other).others fun output added otherId again => here (strange output added other otherId again).1

theorem AllTold.create (all : AllTold logicalPort maap) {sync : Bool} {src portId amount : UInt16} {flag : UInt8}
    {rangeId : UInt32} {baseAddress : MacAddress} {memory timers : Bool} :
    AllTold logicalPort (maap.maapIpcCreate sync src flag portId rangeId amount baseAddress memory timers) := by
  rcases maapIpcCreate_cases with ⟨env,refused,failed⟩ | ⟨index,range,env,_,logical,valid,_,begun,created⟩
  · rw [failed]
    refine AllTold.emit ?_ (fun _ _ => id) trivial
    rcases refused with rfl | ⟨index,_,valid,rfl⟩
    · exact all
    · obtain ⟨random,address⟩ := rangeAddress_eq index rangeId (requestedAddress flag baseAddress) valid.size maap.env
      rw [address]
      exact all.chosen valid.unused _ _ random
  · rw [created]
    obtain ⟨random,address⟩ := rangeAddress_eq index rangeId (requestedAddress flag baseAddress) valid.size maap.env
    rw [address] at begun
    have unused := isRangeIdUsed_false valid.unused
    have chosen := all.chosen valid.unused ((requestedAddress flag baseAddress).getD
      (drawnStart amount.toNat maap.env.random)) amount.toNat random
    generalize (requestedAddress flag baseAddress).getD (drawnStart amount.toNat maap.env.random) = start at begun chosen
    generalize {maap.env with random := random}.emit (.chosen index rangeId start amount.toNat) = first at begun chosen
    have known : RangeTold index first.outputs (initialRange rangeId start amount.toNat) :=
      ⟨valid.size,fun no => (nomatch no),fun _ => (chosen.ports index).gone rangeId unused,fun no => (nomatch no),
        fun no => (nomatch no)⟩
    have acts : Acts logicalPort index (initialRange rangeId start amount.toNat,first) (range,env) := by
      rw [← begun]
      exact maapSmReserveAddress_acts rfl
    exact chosen.add unused acts known (logical.symm.trans (all.logical index))

theorem AllTold.delete (all : AllTold logicalPort maap) {sync : Bool} {src portId : UInt16} {rangeId : UInt32} :
    AllTold logicalPort (maap.maapIpcDelete sync src portId rangeId) := by
  rcases maapIpcDelete_cases with failed | ⟨index,range,before,after,_,logical,same,ranges,deleted⟩
  · rw [failed]
    exact all.emit (fun _ _ => id) trivial
  · rw [deleted]
    subst same
    have old := all.ports index
    have number : portId = logicalPort index := logical.symm.trans (all.logical index)
    rw [ranges] at old
    have apart : ∀ other ∈ before ++ after, other.rangeId ≠ range.rangeId := by
      have distinct := pairwise_middle (fun h => h.symm) |>.mp old.distinct
      intro other member same
      exact (pairwise_cons.mp distinct).1 other member same.symm
    have kept : ∀ other ∈ before ++ after, other ∈ before ++ range :: after := by
      intro other member
      rcases mem_append.mp member with early | late
      · exact mem_append_left _ early
      · exact mem_append_right _ (mem_cons_of_mem _ late)
    have present : range ∈ before ++ range :: after := mem_append_right _ mem_cons_self
    have answered : CreateAnswered portId range.rangeId
        (maap.env.outputs ++ [.deleteResponse sync src .success portId range.rangeId]) := by
      rw [number]
      exact (old.answered range present).append _
    have strange : ∀ output ∈ [MaapOutput.deleteResponse sync src .success portId range.rangeId,
        .indication index range.rangeId sync portId range.rangeId range.startMacAddr (.ofNat range.macCount) .free],
        ∀ other otherId, output.About other otherId → other = index ∧ otherId = range.rangeId := by
      intro output added other otherId again
      rcases mem_cons.mp added with response | free
      · rw [response] at again
        exact again.elim
      · rw [mem_singleton.mp free] at again
        exact ⟨again.1.symm,again.2.symm⟩
    refine ⟨fun other => (setPort_logical (by rfl) other).trans (all.logical other),?_,
      history_append (history_append all.right trivial) ⟨number,rfl,answered,fun no => (nomatch no)⟩⟩
    intro other
    dsimp only [MaapCtx.emit,MaapEnv.emit]
    by_cases here : other = index
    · subst here
      rw [setPort_same]
      refine ⟨?_,?_,?_,?_⟩
      · exact (pairwise_cons.mp (pairwise_middle (fun h => h.symm) |>.mp old.distinct)).2
      · intro left member
        rw [append_assoc]
        exact (old.told left (kept left member)).others fun output added again =>
          apart left member (strange output added _ _ again).2
      · intro left member
        exact ((old.answered left (kept left member)).append _).append _
      · intro otherId absent
        by_cases same : otherId = range.rangeId
        · rw [same,lastIndication_indication]
          exact fun _ _ no => by cases no
        · rw [append_assoc]
          change ∀ start count, lastIndication other otherId (maap.env.outputs ++ [_,_]) ≠ some (start,count,.success)
          rw [lastIndication_others fun output added again => same (strange output added _ _ again).2]
          refine old.gone otherId fun range' member again => ?_
          rcases mem_append.mp member with early | late
          · exact absent range' (mem_append_left _ early) again
          · rcases mem_cons.mp late with rfl | late
            · exact same again.symm
            · exact absent range' (mem_append_right _ late) again
    · rw [setPort_other here,append_assoc]
      exact (all.ports other).others fun output added otherId again => here (strange output added other otherId again).1

theorem maapStep_told (input : MaapInput) (all : AllTold logicalPort maap)
    (numbered : ∀ index range, input.port? = some index → range ∈ (maap.port index).range →
      Indicates (maap.port index).localPhysicalMac input range → .ofNat index = logicalPort index) :
    AllTold logicalPort (maapStep input maap) := by
  have acts {index : Nat} (here : input.port? = some index) {range : MaapRange}
      (member : range ∈ (maap.port index).range) (concerned : input.concerns range = true) {later : MaapEnv}
      {extra : List MaapOutput} (outputs : later.outputs = maap.env.outputs ++ extra)
      (told : RangeTold index later.outputs range) :
      Acts logicalPort index (range,later) (handleRange (maap.port index).localPhysicalMac input range later) := by
    refine handleRange_acts here concerned told fun indicates => ⟨numbered index range here member indicates,?_⟩
    rw [outputs]
    exact ((all.ports index).answered range member).append extra
  have whole {index : Nat} (here : input.port? = some index) (concerned : ∀ range, input.concerns range = true) :
      AllTold logicalPort (maap.onPort index (eachRange (handleRange (maap.port index).localPhysicalMac input))) :=
    all.onPort (eachRange_acts (all.ports index).distinct (all.ports index).told all.right
      fun range member later extra outputs told => acts here member (concerned range) outputs told)
  have single {index : Nat} (here : input.port? = some index) {rangeId : UInt32}
      (concerned : ∀ range, input.concerns range = true → range.rangeId = rangeId) :
      AllTold logicalPort
        (maap.onPort index (onRange input.concerns (handleRange (maap.port index).localPhysicalMac input))) := by
    refine all.onPort ?_
    rw [onRange_eq_eachRange]
    · refine eachRange_acts (all.ports index).distinct (all.ports index).told all.right ?_
      intro range member later extra outputs told
      split
      next concerned => exact acts here member concerned outputs told
      · exact Acts.refl ..
    · refine (all.ports index).distinct.imp fun apart first => ?_
      refine Bool.eq_false_iff.mpr fun second => apart ?_
      exact (concerned _ first).trans (concerned _ second).symm
  unfold maapStep
  cases input with
  | create => exact all.create
  | delete => exact all.delete
  | receive | macStatus =>
    dsimp only
    split
    · exact whole rfl fun _ => rfl
    · exact all
  | probeTimer | announceTimer =>
    dsimp only
    split
    · exact single rfl fun range concerned => of_decide_eq_true (Bool.and_eq_true_iff.mp concerned).1
    · exact all

end Preservation

/-- The indications describe the ranges: a range has the addresses of its last success, it is
defended after a success only, and an indication has the port and the range of the response. -/
structure IndicationsHold (logicalPort : Nat → UInt16) (maap : MaapCtx) : Prop where
  kept : ∀ index rangeId start count, lastIndication index rangeId maap.env.outputs = some (start,count,.success) →
    ∃ range ∈ (maap.port index).range,
      range.rangeId = rangeId ∧ range.startMacAddr = start ∧ range.macCount = count.toNat
  defended : ∀ index, ∀ range ∈ (maap.port index).range, range.state = .defend →
    lastIndication index range.rangeId maap.env.outputs = some (range.startMacAddr,.ofNat range.macCount,.success)
  right : History (IndicationRight logicalPort) maap.env.outputs
  restarted : ∀ index ethertype src pdu, index < maap.portMax → ∀ range ∈ (maap.port index).range,
    Restarts (maap.port index).localPhysicalMac src pdu ethertype range = true → ∀ start count,
      probesSent index range.rangeId start count
        (maapStep (.receive index ethertype src pdu) maap).env.outputs ≤ 1

def NumberedAlike (maap : MaapCtx) (input : MaapInput) : Prop :=
  ∀ index range, input.port? = some index → range ∈ (maap.port index).range →
    Indicates (maap.port index).localPhysicalMac input range → .ofNat index = (maap.port index).logicalPort

section Runs
variable {logicalPort : Nat → UInt16} {maap : MaapCtx}

theorem AllTold.hold (all : AllTold logicalPort maap) : maap.IndicationsHold logicalPort := by
  refine ⟨?_,?_,all.right,?_⟩
  · intro index rangeId start count last
    by_cases present : ∃ range ∈ (maap.port index).range, range.rangeId = rangeId
    · obtain ⟨range,member,rfl⟩ := present
      have told := (all.ports index).told range member
      cases send : range.sendConflictIndication with
      | false => exact absurd last (told.silent send start count)
      | true =>
        have same := last.symm.trans (told.success send)
        simp only [Option.some.injEq,Prod.mk.injEq] at same
        refine ⟨range,member,rfl,same.1.symm,?_⟩
        rw [same.2.1,UInt16.toNat_ofNat']
        have small : MAAP_DYNAMIC_POOL_SIZE < 2^16 := by decide
        exact (Nat.mod_eq_of_lt (told.size.trans_lt small)).symm
    · refine absurd last ((all.ports index).gone rangeId (fun range member same => ?_) start count)
      exact present ⟨range,member,same⟩
  · intro index range member defend
    have told := (all.ports index).told range member
    exact told.success (told.defended defend)
  · intro index ethertype src pdu inside range member restarts start count
    unfold maapStep
    dsimp only
    rw [if_pos inside]
    have port := all.ports index
    exact receive_probes port.distinct (fun range member => (port.told range member).size) member restarts start count

theorem maapStep_logical (input : MaapInput) (all : AllTold logicalPort maap) (numbered : NumberedAlike maap input) :
    AllTold logicalPort (maapStep input maap) :=
  maapStep_told input all fun index range here member indicates =>
    (numbered index range here member indicates).trans (all.logical index)

/-- In every run in which only state machines of ports numbered alike send indications, these
describe the ranges. -/
theorem maapIndications_hold (portMax : Nat) (logicalPort : Nat → UInt16) (localPhysicalMac : Nat → MacAddress)
    (random : Nat → Nat) (inputs : List MaapInput)
    (numbered : Steps maapStep NumberedAlike inputs (maapInit portMax logicalPort localPhysicalMac random)) :
    (run maapStep inputs (maapInit portMax logicalPort localPhysicalMac random)).IndicationsHold logicalPort := by
  refine AllTold.hold (run_invariant maapStep (fun maap input all numbered => maapStep_logical input all numbered)
    ?_ numbered)
  refine ⟨fun _ => rfl,fun index => ⟨List.Pairwise.nil,?_,?_,?_⟩,history_nil _⟩
  · exact fun _ no => absurd no not_mem_nil
  · exact fun _ no => absurd no not_mem_nil
  · exact fun _ _ _ _ no => by cases no

def probedInputs (portId : UInt16) : List MaapInput :=
  [.create false 1 1 portId 7 16 ⟨0x91,0xe0,0xf0,0x00,0x00,0x00⟩ true true,.probeTimer 0 7,.probeTimer 0 7,
    .probeTimer 0 7]

def probedInit (logicalPort : UInt16) : MaapCtx :=
  maapInit 1 (fun _ => logicalPort) (fun _ => ⟨0,0,0,0,0,2⟩) fun _ => 0

theorem numberedAlike_indications : (run maapStep (probedInputs 0) (probedInit 0)).IndicationsHold fun _ => 0 := by
  refine maapIndications_hold _ _ _ _ _ ⟨?_,?_,?_,?_,trivial⟩ <;> rintro index range here - -
  · exact nomatch here
  all_goals
    cases here
    decide +kernel

/-- The application of logical port 1 is told of a success on port 0. -/
theorem numberedApart_indications : ¬ (run maapStep (probedInputs 1) (probedInit 1)).IndicationsHold fun _ => 1 := by
  intro hold
  have right := hold.right ((run maapStep (probedInputs 1) (probedInit 1)).env.outputs.take 6)
    (.indication 0 7 false 0 7 ⟨0x91,0xe0,0xf0,0x00,0x00,0x00⟩ 16 .success)
    ((run maapStep (probedInputs 1) (probedInit 1)).env.outputs.drop 7) (by decide +kernel)
  exact absurd right.1 (by decide)

end Runs

end MaapCtx

end Genavb.Maap
