import Genavb.Maap.Conflicts
import Genavb.Maap.IndicationRuns

/-! What the handlers make of the ranges of a station and what they send for them: a range keeps its
addresses, or it probes others. -/
namespace Genavb.Maap
open List
open List (append_assoc append_nil forall_mem_cons mem_append mem_cons mem_cons_of_mem mem_singleton not_mem_nil)

/-- A range whose state machine has begun, with some addresses of the pool. -/
structure MaapRange.Live (range : MaapRange) : Prop where
  begun : range.state ≠ .initial
  some : 0 < range.macCount
  size : range.macCount ≤ MAAP_DYNAMIC_POOL_SIZE

def MaapPdu.Proper (ethertype : UInt16) (pdu : MaapPdu) : Prop :=
  ethertype = ETHERTYPE_AVTP ∧ pdu.subtype = AVTP_SUBTYPE_MAAP ∧
    (pdu.messageType ≠ MAAP_DEFEND → 0 < pdu.requestedCount.toNat)

def MaapOutput.Proper : MaapOutput → Prop
  | .transmit _ _ _ ethertype pdu => pdu.Proper ethertype
  | _ => True

def MaapOutput.Told : MaapOutput → Prop
  | .transmit _ _ _ ethertype pdu => pdu.Proper ethertype ∧ pdu.messageType ≠ MAAP_DEFEND
  | _ => True

def MaapRange.cast (range : MaapRange) (port messageType : Nat) : MaapOutput :=
  .transmit port range.rangeId MAAP_MULTICAST_ADDR ETHERTYPE_AVTP (range.message messageType)

/-- The range has the addresses of an old one, and announces them if that one did not defend them. -/
structure Stays (port : Nat) (old new : MaapRange) (sent : List MaapOutput) : Prop where
  start : new.startMacAddr = old.startMacAddr
  count : new.macCount = old.macCount
  announced : new.state = .defend → old.state = .defend ∨ new.cast port MAAP_ANNOUNCE ∈ sent

structure Probes (port : Nat) (new : MaapRange) (sent : List MaapOutput) : Prop where
  state : new.state = .probe
  probe : new.cast port MAAP_PROBE ∈ sent

structure Turned (port : Nat) (old new : MaapRange) (sent : List MaapOutput) : Prop where
  live : new.Live
  proper : ∀ output ∈ sent, output.Proper
  moves : Probes port new sent ∨ Stays port old new sent

def Does (turned : MaapRange → List MaapOutput → Prop) (env : MaapEnv) (result : MaapRange × MaapEnv) : Prop :=
  ∃ sent, result.2.outputs = env.outputs ++ sent ∧ turned result.1 sent

section Machine
variable {port : Nat} {range old new : MaapRange} {env : MaapEnv} {sent later : List MaapOutput}

theorem Stays.mono (stays : Stays port old new sent) (subset : sent ⊆ later) : Stays port old new later :=
  ⟨stays.start,stays.count,fun defends => (stays.announced defends).imp_right fun member => subset member⟩

theorem Probes.mono (probes : Probes port new sent) (subset : sent ⊆ later) : Probes port new later :=
  ⟨probes.state,subset probes.probe⟩

theorem Stays.refl : Stays port old old sent := ⟨rfl,rfl,.inl⟩

theorem Turned.nothing (live : range.Live) : Turned port range range [] :=
  ⟨live,fun _ absent => absurd absent not_mem_nil,.inr .refl⟩

private theorem does_nothing {turned : MaapRange → List MaapOutput → Prop} (nothing : turned range []) :
    Does turned env (range,env) := ⟨[],(append_nil _).symm,nothing⟩

theorem MaapRange.Live.count_toNat (live : range.Live) : (UInt16.ofNat range.macCount).toNat = range.macCount := by
  have size := live.size
  unfold MAAP_DYNAMIC_POOL_SIZE at size
  rw [UInt16.toNat_ofNat']
  omega

private theorem proper_message {messageType : Nat} (live : range.Live) :
    (range.message messageType).Proper ETHERTYPE_AVTP := by
  refine ⟨rfl,rfl,fun _ => ?_⟩
  change 0 < (UInt16.ofNat range.macCount).toNat
  rw [live.count_toNat]
  exact live.some

private theorem proper_cast {messageType : Nat} (live : range.Live) : (range.cast port messageType).Proper :=
  proper_message live

theorem MaapOutput.Told.proper {output : MaapOutput} (told : output.Told) : output.Proper := by
  cases output with
  | transmit => exact told.1
  | createResponse | deleteResponse | indication | chosen => trivial

private theorem reserve_probes {before : List MaapOutput} {next : MaapEnv} (initial : range.state = .initial)
    (some : 0 < range.macCount) (size : range.macCount ≤ MAAP_DYNAMIC_POOL_SIZE)
    (outputs : next.outputs = env.outputs ++ before) (told : ∀ output ∈ before, output.Told) :
    Does (fun new sent => new.Live ∧ (∀ output ∈ sent, output.Told) ∧ Probes port new sent) env
      (maapSmReserveAddress port range next) := by
  unfold maapSmReserveAddress
  rw [initial]
  have live : ({range with state := .probe} : MaapRange).Live := ⟨by simp,some,size⟩
  refine ⟨before ++ [range.cast port MAAP_PROBE],?_,⟨by simp,some,size⟩,?_,⟨rfl,?_⟩⟩
  · simp [maapSprobe,maapNetTransmit,MaapEnv.randomRange,MaapEnv.emit,outputs,MaapRange.cast]
    rfl
  · intro output member
    rcases mem_append.mp member with early | last
    · exact told output early
    · rw [mem_singleton.mp last]
      exact ⟨@proper_message {range with state := .probe} MAAP_PROBE live,show MAAP_PROBE ≠ MAAP_DEFEND by decide⟩
  · exact mem_append_right _ (mem_singleton.mpr rfl)

theorem restart_probes (initial : range.state = .initial) (some : 0 < range.macCount)
    (size : range.macCount ≤ MAAP_DYNAMIC_POOL_SIZE) :
    Does (fun new sent => new.Live ∧ (∀ output ∈ sent, output.Told) ∧ Probes port new sent) env
      (maapSmRestart port range env) := by
  rw [maapSmRestart_eq initial size]
  unfold notifyConflict
  split
  · refine @reserve_probes port _ env [_,_] _ initial some size (append_assoc ..) ?_
    simp [MaapOutput.Told]
  · refine @reserve_probes port _ env [_] _ initial some size rfl ?_
    simp [MaapOutput.Told]

private theorem stopped_count (range : MaapRange) : range.stopped.macCount = range.macCount :=
  congrArg (·.2.2) range.stopped_extent

theorem probeTimer_turns (live : range.Live) : Does (Turned port range) env (maapSmProbeTimer port range env) := by
  unfold maapSmProbeTimer
  cases state : range.state with
  | initial | defend => exact does_nothing (.nothing live)
  | probe =>
    dsimp only [maapSprobe,maapNetTransmit]
    split
    next last =>
      -- the last probe, the success and the first announce
      unfold maapSmProbeCount
      rw [state]
      refine ⟨[range.cast port MAAP_PROBE,.indication port range.rangeId false (.ofNat port)
        range.rangeId range.startMacAddr (.ofNat range.macCount) .success,range.cast port MAAP_ANNOUNCE],?_,
        ⟨by simp,live.some,live.size⟩,?_,?_⟩
      · change env.outputs ++ [_] ++ [_] ++ [_] = _
        rw [append_assoc,append_assoc]
        rfl
      · intro output member
        rcases mem_cons.mp member with rfl | member
        · exact proper_cast live
        rcases mem_cons.mp member with rfl | member
        · trivial
        · rw [mem_singleton.mp member]
          exact proper_cast live
      · refine .inr ⟨rfl,rfl,fun _ => .inr ?_⟩
        exact mem_cons_of_mem _ (mem_cons_of_mem _ (mem_singleton.mpr rfl))
    · refine ⟨[range.cast port MAAP_PROBE],rfl,⟨by simp [state],live.some,live.size⟩,?_,.inr ⟨rfl,rfl,?_⟩⟩
      · simpa using proper_cast live
      · intro defends
        exact absurd (state.symm.trans defends) (by decide)

theorem announceTimer_turns (live : range.Live) :
    Does (Turned port range) env (maapSmAnnounceTimer port range env) := by
  unfold maapSmAnnounceTimer
  cases state : range.state with
  | initial | probe => exact does_nothing (.nothing live)
  | defend =>
    refine ⟨[range.cast port MAAP_ANNOUNCE],rfl,⟨by simp [maapSannounce,state],live.some,live.size⟩,?_,?_⟩
    · simpa using proper_cast live
    · exact .inr ⟨rfl,rfl,fun _ => .inl state⟩

theorem portOperational_turns (live : range.Live) :
    Does (Turned port range) env (maapSmPortOperational port range env) := by
  have count := stopped_count range
  obtain ⟨sent,outputs,live',told,probes⟩ := @reserve_probes port _ env [] _ range.stopped_state
    (count ▸ live.some) (count ▸ live.size) (append_nil _).symm (by simp)
  have turns : Does (Turned port range) env (maapSmReserveAddress port range.stopped env) :=
    ⟨sent,outputs,live',fun output member => (told output member).proper,.inl probes⟩
  unfold MaapRange.stopped at turns
  unfold maapSmPortOperational
  cases state : range.state with
  | initial => exact absurd state live.begun
  | probe | defend =>
    rw [state] at turns
    exact turns

theorem Turned.of_timers {probeTimer announceTimer : Option Nat}
    (turned : Turned port {range with probeTimer := probeTimer, announceTimer := announceTimer} new sent) :
    Turned port range new sent :=
  ⟨turned.live,turned.proper,turned.moves.imp_right fun stays => {stays with}⟩

end Machine

section Receive

def defendPdu (probe : MaapPdu) (conflict : ConflictInfo) : MaapPdu :=
  {initialPdu MAAP_DEFEND with
    requestedStartAddress := probe.requestedStartAddress
    requestedCount := .ofNat probe.requestedCount.toNat
    conflictStartAddress := conflict.startAddr
    conflictCount := .ofNat conflict.count}

/-- A DEFEND of a range for a PROBE: it goes to the station that asked, with what it asked for and the addresses
that both want. -/
structure Answers (range : MaapRange) (src : MacAddress) (probe : MaapPdu) (dst : MacAddress) (answer : MaapPdu) :
    Prop where
  dst : dst = src
  start : answer.requestedStartAddress = probe.requestedStartAddress
  count : answer.requestedCount = probe.requestedCount
  defended : range.state = .defend
  conflict : addresses answer.conflictStartAddress answer.conflictCount.toNat =
    range.addresses ∩ addresses probe.requestedStartAddress probe.requestedCount.toNat

def MaapOutput.AnswersBy (range : MaapRange) (src : MacAddress) (probe : MaapPdu) : MaapOutput → Prop
  | .transmit _ _ dst _ answer => answer.messageType = MAAP_DEFEND → Answers range src probe dst answer
  | _ => True

structure Heard (port : Nat) (localMac src : MacAddress) (ethertype : UInt16) (pdu : MaapPdu) (old new : MaapRange)
    (sent : List MaapOutput) : Prop extends Turned port old new sent where
  kept : Probes port new sent ∨ Restarts localMac src pdu ethertype old = false
  answered : pdu.messageType = MAAP_PROBE → ethertype = ETHERTYPE_AVTP → pdu.subtype = AVTP_SUBTYPE_MAAP →
    old.state = .defend → Conflicting pdu old = true → ∃ answer, answer.messageType = MAAP_DEFEND ∧
      answer.requestedStartAddress = pdu.requestedStartAddress ∧ answer.requestedCount = pdu.requestedCount ∧
      .transmit port old.rangeId src ETHERTYPE_AVTP answer ∈ sent
  answers : pdu.messageType = MAAP_PROBE → 0 < pdu.requestedCount.toNat →
    ∀ output ∈ sent, output.AnswersBy old src pdu

variable {port : Nat} {localMac src : MacAddress} {ethertype : UInt16} {pdu : MaapPdu} {range : MaapRange}
  {env : MaapEnv}

theorem MaapOutput.Told.answersBy {output : MaapOutput} (told : output.Told) : output.AnswersBy range src pdu := by
  cases output with
  | transmit => exact fun defend => absurd defend told.2
  | createResponse | deleteResponse | indication | chosen => trivial

theorem answers_shared {conflict : ConflictInfo} (live : range.Live) (defended : range.state = .defend)
    (found : areRangesInConflict range.startMacAddr range.macCount pdu.requestedStartAddress
      pdu.requestedCount.toNat = some conflict) (some : 0 < pdu.requestedCount.toNat) :
    Answers range src pdu src (defendPdu pdu conflict) := by
  have small : pdu.requestedCount.toNat < 2^32 := pdu.requestedCount.toNat_lt.trans (by decide)
  have shared := areRangesInConflict_shared live.some.ne' some.ne' small found
  have few : conflict.count ≤ range.macCount := by
    rw [shared]
    unfold sharedRange
    dsimp only
    split <;> omega
  have size := few.trans live.size
  have count : (UInt16.ofNat conflict.count).toNat = conflict.count := by
    unfold MAAP_DYNAMIC_POOL_SIZE at size
    rw [UInt16.toNat_ofNat']
    omega
  refine ⟨rfl,rfl,UInt16.ofNat_toNat,defended,?_⟩
  dsimp only [defendPdu]
  rw [count,shared]
  exact addresses_sharedRange ..

theorem receive_defends {conflict : ConflictInfo} (probe : pdu.messageType = MAAP_PROBE)
    (avtp : ethertype = ETHERTYPE_AVTP) (maap : pdu.subtype = AVTP_SUBTYPE_MAAP) (defended : range.state = .defend)
    (found : areRangesInConflict range.startMacAddr range.macCount pdu.requestedStartAddress
      pdu.requestedCount.toNat = some conflict) :
    maapNetReceive port localMac src pdu ethertype range env =
      (range,maapNetTransmitDefend port range (rangeInfo localMac src pdu conflict) env) := by
  unfold maapNetReceive maapHandleProbe maapSmRprobe
  rw [if_neg (not_not.mpr avtp),if_neg (not_not.mpr maap),if_pos probe,found]
  rw [defended]

private theorem receive_heard (live : range.Live) :
    Does (Heard port localMac src ethertype pdu range) env
      (maapNetReceive port localMac src pdu ethertype range env) := by
  rcases maapNetReceive_received port env ethertype with ⟨restarts,restart⟩ | ⟨stays,same⟩ |
    ⟨stays,defended,probe,conflict,found,defend⟩
  · rw [restart]
    have count := stopped_count range
    obtain ⟨sent,outputs,live',told,probes⟩ := @restart_probes port _ env range.stopped_state
      (count ▸ live.some) (count ▸ live.size)
    refine ⟨sent,outputs,⟨live',fun output member => (told output member).proper,.inl probes⟩,.inl probes,?_,?_⟩
    · intro probe _ _ defended
      unfold Restarts at restarts
      rw [if_pos probe,defended] at restarts
      simp at restarts
    · exact fun _ _ output member => (told output member).answersBy
  · rw [same]
    refine does_nothing ⟨.nothing live,.inr stays,?_,fun _ _ _ absent => absurd absent not_mem_nil⟩
    intro probe avtp maap defended conflicting
    obtain ⟨conflict,found⟩ := Option.isSome_iff_exists.mp conflicting
    rw [receive_defends probe avtp maap defended found] at same
    have outputs := congrArg (fun result => result.2.outputs.length) same
    exact absurd outputs (by simp [maapNetTransmitDefend,MaapEnv.emit])
  · rw [defend]
    have proper : ∀ output ∈ [MaapOutput.transmit port range.rangeId src ETHERTYPE_AVTP (defendPdu pdu conflict)],
        output.Proper := by
      intro output member
      rw [mem_singleton.mp member]
      exact ⟨rfl,rfl,fun other => absurd rfl other⟩
    refine ⟨[_],rfl,⟨live,proper,.inr .refl⟩,.inr stays,fun _ _ _ _ _ => ?_,?_⟩
    · exact ⟨defendPdu pdu conflict,rfl,rfl,UInt16.ofNat_toNat,mem_singleton.mpr rfl⟩
    · intro _ some output member
      rw [mem_singleton.mp member]
      exact fun _ => answers_shared live defended found some

end Receive

section Ranges

/-- The ranges of a port come each of an old one, and every output is sent for one of them. -/
structure Each (turned : MaapRange → MaapRange → List MaapOutput → Prop) (ranges news : List MaapRange)
    (sent : List MaapOutput) : Prop where
  origin : ∀ new ∈ news, ∃ old ∈ ranges, ∃ part, part ⊆ sent ∧ turned old new part
  result : ∀ old ∈ ranges, ∃ new part, part ⊆ sent ∧ turned old new part
  cause : ∀ output ∈ sent, ∃ old ∈ ranges, ∃ new part, output ∈ part ∧ turned old new part

variable {turned : MaapRange → MaapRange → List MaapOutput → Prop} {old new : MaapRange} {ranges news : List MaapRange}
  {part sent : List MaapOutput} {handle : MaapRange → MaapEnv → MaapRange × MaapEnv} {env : MaapEnv}

theorem Each.nil : Each turned [] [] [] :=
  ⟨fun _ absent => absurd absent not_mem_nil,fun _ absent => absurd absent not_mem_nil,
    fun _ absent => absurd absent not_mem_nil⟩

theorem Each.cons (first : turned old new part) (rest : Each turned ranges news sent) :
    Each turned (old :: ranges) (new :: news) (part ++ sent) where
  origin range member := by
    rcases mem_cons.mp member with rfl | later
    · exact ⟨old,mem_cons_self,part,subset_append_left ..,first⟩
    · obtain ⟨before,present,own,subset,turns⟩ := rest.origin range later
      exact ⟨before,mem_cons_of_mem _ present,own,subset_append_of_subset_right _ subset,turns⟩
  result range member := by
    rcases mem_cons.mp member with rfl | later
    · exact ⟨new,part,subset_append_left ..,first⟩
    · obtain ⟨after,own,subset,turns⟩ := rest.result range later
      exact ⟨after,own,subset_append_of_subset_right _ subset,turns⟩
  cause output member := by
    rcases mem_append.mp member with early | later
    · exact ⟨old,mem_cons_self,new,part,early,first⟩
    · obtain ⟨before,present,after⟩ := rest.cause output later
      exact ⟨before,mem_cons_of_mem _ present,after⟩

theorem Each.refl (nothing : ∀ range ∈ ranges, turned range range []) : Each turned ranges ranges [] := by
  induction ranges with
  | nil => exact .nil
  | cons range rest ih =>
    obtain ⟨first,nothing⟩ := forall_mem_cons.mp nothing
    exact .cons first (ih nothing)

private theorem eachRange_each (does : ∀ range ∈ ranges, ∀ env, Does (turned range) env (handle range env)) (env : MaapEnv) :
    ∃ sent, (eachRange handle ranges env).2.outputs = env.outputs ++ sent ∧
      Each turned ranges (eachRange handle ranges env).1 sent := by
  induction ranges generalizing env with
  | nil => exact ⟨[],(append_nil _).symm,.nil⟩
  | cons range rest ih =>
    obtain ⟨first,does⟩ := forall_mem_cons.mp does
    obtain ⟨part,outputs,turns⟩ := first env
    obtain ⟨sent,more,each⟩ := ih does (handle range env).2
    refine ⟨part ++ sent,?_,.cons turns each⟩
    rw [← append_assoc,← outputs]
    exact more

theorem onRange_each {found : MaapRange → Bool} (nothing : ∀ range ∈ ranges, turned range range [])
    (does : ∀ range ∈ ranges, ∀ env, Does (turned range) env (handle range env)) (env : MaapEnv) :
    ∃ sent, (onRange found handle ranges env).2.outputs = env.outputs ++ sent ∧
      Each turned ranges (onRange found handle ranges env).1 sent := by
  induction ranges generalizing env with
  | nil => exact ⟨[],(append_nil _).symm,.nil⟩
  | cons range rest ih =>
    obtain ⟨first,does⟩ := forall_mem_cons.mp does
    obtain ⟨idle,nothing⟩ := forall_mem_cons.mp nothing
    unfold onRange
    split
    · obtain ⟨part,outputs,turns⟩ := first env
      exact ⟨part ++ [],outputs.trans (by rw [append_nil]),.cons turns (.refl nothing)⟩
    · obtain ⟨sent,outputs,each⟩ := ih nothing does env
      exact ⟨sent,outputs,.cons idle each⟩

end Ranges

section Port

/-- A port keeps its address, and each of its ranges probes or has the addresses of an old one. -/
structure PortTurned (index : Nat) (old new : MaapPort) (sent : List MaapOutput) : Prop where
  mac : new.localPhysicalMac = old.localPhysicalMac
  live : ∀ range ∈ new.range, range.Live
  moves : ∀ range ∈ new.range, Probes index range sent ∨ ∃ before ∈ old.range, Stays index before range sent

structure Acted (maap next : MaapCtx) (sent : List MaapOutput) : Prop where
  outputs : next.env.outputs = maap.env.outputs ++ sent
  portMax : next.portMax = maap.portMax
  proper : ∀ output ∈ sent, output.Proper
  ports : ∀ index, PortTurned index (maap.port index) (next.port index) sent

variable {maap next : MaapCtx} {index : Nat} {sent : List MaapOutput}

def MaapCtx.Live (maap : MaapCtx) : Prop := ∀ index, ∀ range ∈ (maap.port index).range, range.Live

theorem PortTurned.refl {port : MaapPort} (live : ∀ range ∈ port.range, range.Live) : PortTurned index port port sent :=
  ⟨rfl,live,fun range member => .inr ⟨range,member,.refl⟩⟩

theorem Acted.nothing (live : maap.Live) : Acted maap maap [] :=
  ⟨(append_nil _).symm,rfl,fun _ absent => absurd absent not_mem_nil,fun index => .refl (live index)⟩

theorem Acted.setPort {env : MaapEnv} {port : MaapPort} (live : maap.Live)
    (outputs : env.outputs = maap.env.outputs ++ sent)
    (proper : ∀ output ∈ sent, output.Proper) (turned : PortTurned index (maap.port index) port sent) :
    Acted maap {maap.setPort index port with env := env} sent := by
  refine ⟨outputs,rfl,proper,fun other => ?_⟩
  by_cases here : other = index
  · subst here
    change PortTurned other _ ((maap.setPort other port).port other) sent
    rw [MaapCtx.setPort_same]
    exact turned
  · change PortTurned other _ ((maap.setPort index port).port other) sent
    rw [MaapCtx.setPort_other here]
    exact .refl (live other)

theorem Acted.emit (acted : Acted maap next sent) {output : MaapOutput} (proper : output.Proper) :
    Acted maap (next.emit output) (sent ++ [output]) := by
  have subset : sent ⊆ sent ++ [output] := subset_append_left ..
  refine ⟨?_,acted.portMax,?_,fun index => ?_⟩
  · dsimp only [MaapCtx.emit,MaapEnv.emit]
    rw [acted.outputs,append_assoc]
  · intro other member
    rcases mem_append.mp member with early | last
    · exact acted.proper other early
    · rw [mem_singleton.mp last]
      exact proper
  · obtain ⟨mac,live,moves⟩ := acted.ports index
    refine ⟨mac,live,fun range member => (moves range member).imp (·.mono subset) ?_⟩
    rintro ⟨before,present,stays⟩
    exact ⟨before,present,stays.mono subset⟩

private theorem onPort_acted {handle : List MaapRange → MaapEnv → List MaapRange × MaapEnv} (live : maap.Live)
    (outputs : (handle (maap.port index).range maap.env).2.outputs = maap.env.outputs ++ sent)
    (each : Each (Turned index) (maap.port index).range (handle (maap.port index).range maap.env).1 sent) :
    Acted maap (maap.onPort index handle) sent := by
  refine .setPort live outputs ?_ ⟨rfl,?_,?_⟩
  · intro output member
    obtain ⟨_,_,_,_,own,turned⟩ := each.cause output member
    exact turned.proper output own
  · intro range member
    obtain ⟨_,_,_,_,turned⟩ := each.origin range member
    exact turned.live
  · intro range member
    obtain ⟨before,present,_,subset,turned⟩ := each.origin range member
    refine turned.moves.imp (·.mono subset) fun stays => ?_
    exact ⟨before,present,stays.mono subset⟩

private theorem handleRange_turns {port : Nat} {range : MaapRange} {env : MaapEnv} {localMac : MacAddress} {input : MaapInput}
    (here : input.port? = some port) (live : range.Live) :
    Does (Turned port range) env (handleRange localMac input range env) := by
  have timers (probeTimer announceTimer : Option Nat) :
      ({range with probeTimer := probeTimer, announceTimer := announceTimer} : MaapRange).Live :=
    {live with}
  cases input with
  | create | delete => exact nomatch here
  | receive origin ethertype src pdu =>
    cases here
    obtain ⟨sent,outputs,heard⟩ := receive_heard live
    exact ⟨sent,outputs,heard.toTurned⟩
  | probeTimer origin rangeId =>
    cases here
    obtain ⟨sent,outputs,turned⟩ := probeTimer_turns (timers none range.announceTimer)
    exact ⟨sent,outputs,turned.of_timers⟩
  | announceTimer origin rangeId =>
    cases here
    obtain ⟨sent,outputs,turned⟩ := announceTimer_turns (timers range.probeTimer none)
    exact ⟨sent,outputs,turned.of_timers⟩
  | macStatus origin operational =>
    cases here
    cases operational with
    | true => exact portOperational_turns live
    | false => exact does_nothing (.nothing live)

theorem create_acted (live : maap.Live) {sync : Bool} {src portId amount : UInt16} {flag : UInt8} {rangeId : UInt32}
    {baseAddress : MacAddress} {memory timers : Bool} :
    ∃ sent, Acted maap (maap.maapIpcCreate sync src flag portId rangeId amount baseAddress memory timers) sent := by
  rcases MaapCtx.maapIpcCreate_cases with ⟨env,refused,failed⟩ | ⟨index,range,env,_,_,valid,_,begun,created⟩
  · rw [failed]
    rcases refused with rfl | ⟨index,_,valid,rfl⟩
    · exact ⟨_,(Acted.nothing live).emit trivial⟩
    · obtain ⟨random,address⟩ := MaapCtx.rangeAddress_eq index rangeId (MaapCtx.requestedAddress flag baseAddress)
        valid.size maap.env
      rw [address]
      generalize (MaapCtx.requestedAddress flag baseAddress).getD (drawnStart amount.toNat maap.env.random) = start
      have chosen : Acted maap
          {maap with env := MaapEnv.emit (.chosen index rangeId start amount.toNat) {maap.env with random := random}}
          [.chosen index rangeId start amount.toNat] :=
        ⟨rfl,rfl,forall_mem_singleton.mpr trivial,fun other => .refl (live other)⟩
      exact ⟨_,chosen.emit trivial⟩
  · rw [created]
    obtain ⟨random,address⟩ := MaapCtx.rangeAddress_eq index rangeId (MaapCtx.requestedAddress flag baseAddress)
      valid.size maap.env
    rw [address] at begun
    generalize (MaapCtx.requestedAddress flag baseAddress).getD (drawnStart amount.toNat maap.env.random) = start
      at begun
    replace begun : maapSmReserveAddress index (MaapCtx.initialRange rangeId start amount.toNat)
        ({maap.env with random := random}.emit (.chosen index rangeId start amount.toNat)) = (range,env) := begun
    obtain ⟨sent,outputs,began,told,probes⟩ := @reserve_probes index (MaapCtx.initialRange rangeId start amount.toNat)
      maap.env [.chosen index rangeId start amount.toNat] ({maap.env with random := random}.emit
        (.chosen index rangeId start amount.toNat)) rfl valid.nonempty valid.size rfl
        (forall_mem_singleton.mpr trivial)
    rw [begun] at outputs began probes
    have added : Acted maap {maap.setPort index (MaapCtx.withRange range (maap.port index)) with env := env} sent :=
      .setPort live outputs (fun output member => (told output member).proper)
        ⟨rfl,forall_mem_cons.mpr ⟨began,live index⟩,
          forall_mem_cons.mpr ⟨.inl probes,fun old member => .inr ⟨old,member,.refl⟩⟩⟩
    exact ⟨_,added.emit trivial⟩

theorem delete_acted (live : maap.Live) {sync : Bool} {src portId : UInt16} {rangeId : UInt32} :
    ∃ sent, Acted maap (maap.maapIpcDelete sync src portId rangeId) sent := by
  rcases MaapCtx.maapIpcDelete_cases with failed | ⟨index,range,before,after,_,_,_,ranges,deleted⟩
  · rw [failed]
    exact ⟨_,(Acted.nothing live).emit trivial⟩
  · rw [deleted]
    have kept : ∀ other ∈ before ++ after, other ∈ (maap.port index).range := by
      rw [ranges]
      exact (List.Sublist.append_left (sublist_cons_self ..) _).subset
    have removed : Acted maap (maap.setPort index {maap.port index with
        range := before ++ after
        allocatedRangesCount := (maap.port index).allocatedRangesCount - 1}) [] :=
      .setPort live (append_nil _).symm (fun _ absent => absurd absent not_mem_nil)
        ⟨rfl,fun other member => live index other (kept other member),
          fun other member => .inr ⟨other,kept other member,.refl⟩⟩
    have answered := @Acted.emit _ _ _ removed (.deleteResponse sync src .success portId rangeId) trivial
    exact ⟨_,answered.emit trivial⟩

theorem maapStep_acted (input : MaapInput) (live : maap.Live) : ∃ sent, Acted maap (maapStep input maap) sent := by
  have whole {index : Nat} (here : input.port? = some index) :
      ∃ sent, Acted maap (if index < maap.portMax then
        maap.onPort index (eachRange (handleRange (maap.port index).localPhysicalMac input)) else maap) sent := by
    split
    · obtain ⟨sent,outputs,each⟩ := eachRange_each
        (fun range member env => handleRange_turns here (live index range member)) maap.env
      exact ⟨sent,onPort_acted live outputs each⟩
    · exact ⟨[],.nothing live⟩
  have single {index : Nat} (here : input.port? = some index) (found : MaapRange → Bool) :
      ∃ sent, Acted maap (if index < maap.portMax then
        maap.onPort index (onRange found (handleRange (maap.port index).localPhysicalMac input)) else maap) sent := by
    split
    · obtain ⟨sent,outputs,each⟩ := onRange_each (fun range member => Turned.nothing (live index range member))
        (fun range member env => handleRange_turns here (live index range member)) maap.env
      exact ⟨sent,onPort_acted live outputs each⟩
    · exact ⟨[],.nothing live⟩
  cases input with
  | create => exact create_acted live
  | delete => exact delete_acted live
  | receive | macStatus => exact whole rfl
  | probeTimer | announceTimer => exact single rfl _

theorem maapStep_heard {ethertype : UInt16} {src : MacAddress} {pdu : MaapPdu} (live : maap.Live)
    (inside : index < maap.portMax) :
    ∃ sent, Acted maap (maapStep (.receive index ethertype src pdu) maap) sent ∧
      Each (Heard index (maap.port index).localPhysicalMac src ethertype pdu) (maap.port index).range
        ((maapStep (.receive index ethertype src pdu) maap).port index).range sent := by
  obtain ⟨sent,outputs,each⟩ := eachRange_each
    (fun range member env => receive_heard (live index range member)) maap.env
  have step : maapStep (.receive index ethertype src pdu) maap = maap.onPort index
      (eachRange (maapNetReceive index (maap.port index).localPhysicalMac src pdu ethertype)) := if_pos inside
  rw [step]
  refine ⟨sent,onPort_acted live outputs ⟨?_,?_,?_⟩,?_⟩
  · intro new member
    obtain ⟨old,present,part,subset,heard⟩ := each.origin new member
    exact ⟨old,present,part,subset,heard.toTurned⟩
  · intro old member
    obtain ⟨new,part,subset,heard⟩ := each.result old member
    exact ⟨new,part,subset,heard.toTurned⟩
  · intro output member
    obtain ⟨old,present,new,part,own,heard⟩ := each.cause output member
    exact ⟨old,present,new,part,own,heard.toTurned⟩
  · unfold MaapCtx.onPort
    rw [MaapCtx.setPort_same]
    exact each

end Port

end Genavb.Maap
