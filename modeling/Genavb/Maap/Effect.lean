import Genavb.Maap.Handlers

/-! What the handlers do with one range: when they keep its addresses and when it restarts with
others. -/
namespace Genavb.Maap

def MaapRange.extent (range : MaapRange) : UInt32 × MacAddress × Nat :=
  (range.rangeId,range.startMacAddr,range.macCount)

def MaapRange.stopped (range : MaapRange) : MaapRange :=
  match range.state with
  | .initial => range
  | .probe => {range with probeTimer := none, state := .initial}
  | .defend => {range with announceTimer := none, state := .initial}

section Machine
variable {port : Nat} {range : MaapRange} {env : MaapEnv}

theorem MaapRange.stopped_state (range : MaapRange) : range.stopped.state = .initial := by
  unfold stopped
  cases state : range.state with
  | initial => exact state
  | probe | defend => rfl

theorem MaapRange.stopped_extent (range : MaapRange) : range.stopped.extent = range.extent := by
  unfold stopped
  cases range.state <;> rfl

theorem MaapRange.stopped_send (range : MaapRange) :
    range.stopped.sendConflictIndication = range.sendConflictIndication := by
  unfold stopped
  cases range.state <;> rfl

private theorem maapSmReserveAddress_extent : (maapSmReserveAddress port range env).1.extent = range.extent := by
  unfold maapSmReserveAddress
  cases range.state <;> rfl

theorem maapSmBegin_extent : (maapSmBegin port range env).1.extent = range.extent := by
  unfold maapSmBegin
  cases range.state with
  | initial => exact maapSmReserveAddress_extent
  | probe | defend => rfl

theorem maapSmProbeCount_extent : (maapSmProbeCount port range env).1.extent = range.extent := by
  unfold maapSmProbeCount
  cases range.state <;> rfl

theorem maapSmAnnounceTimer_extent : (maapSmAnnounceTimer port range env).1.extent = range.extent := by
  unfold maapSmAnnounceTimer
  cases range.state <;> rfl

theorem maapSmProbeTimer_extent : (maapSmProbeTimer port range env).1.extent = range.extent := by
  unfold maapSmProbeTimer
  cases range.state with
  | initial | defend => rfl
  | probe =>
    dsimp only
    split
    · exact maapSmProbeCount_extent
    · rfl

theorem maapSmPortOperational_extent : (maapSmPortOperational port range env).1.extent = range.extent := by
  unfold maapSmPortOperational
  cases range.state <;> exact maapSmReserveAddress_extent

def drawnStart (count : Nat) (random : Nat → Nat) : MacAddress :=
  .generated (random 0 % (MAAP_DYNAMIC_POOL_SIZE - count + 1))

private theorem maapGenerateAddress_eq {count : Nat} (size : count ≤ MAAP_DYNAMIC_POOL_SIZE) :
    maapGenerateAddress port range count env =
      ({range with startMacAddr := drawnStart count env.random},
        {env with random := fun draw => env.random (draw + 1)}.emit
          (.chosen port range.rangeId (drawnStart count env.random) range.macCount)) := by
  unfold maapGenerateAddress drawnStart
  rw [if_neg (Nat.not_lt.mpr size)]
  rfl

theorem notifyConflict_range : (notifyConflict port range env).1 = {range with sendConflictIndication := false} := by
  unfold notifyConflict
  split
  · rfl
  next quiet =>
    rw [Bool.not_eq_true] at quiet
    rw [← quiet]

theorem notifyConflict_random : (notifyConflict port range env).2.random = env.random := by
  unfold notifyConflict
  split <;> rfl

section
variable (stopped : range.state = .initial)
include stopped

theorem maapSmReserveAddress_random :
    (maapSmReserveAddress port range env).2.random = fun draw => env.random (draw + 1) := by
  unfold maapSmReserveAddress
  rw [stopped]
  rfl

section
variable (size : range.macCount ≤ MAAP_DYNAMIC_POOL_SIZE)
include size

theorem maapSmRestart_eq :
    maapSmRestart port range env =
      maapSmReserveAddress port
        {range with sendConflictIndication := false, startMacAddr := drawnStart range.macCount env.random}
        ({(notifyConflict port range env).2 with random := fun draw => env.random (draw + 1)}.emit
          (.chosen port range.rangeId (drawnStart range.macCount env.random) range.macCount)) := by
  obtain ⟨rangeId,macCount,startMacAddr,state,probes,send,probeTimer,announceTimer⟩ := range
  obtain rfl : state = .initial := stopped
  unfold maapSmRestart
  dsimp only
  rw [notifyConflict_range,maapGenerateAddress_eq size,notifyConflict_random]

theorem maapSmRestart_extent :
    (maapSmRestart port range env).1.extent =
      (range.rangeId,drawnStart range.macCount env.random,range.macCount) := by
  rw [maapSmRestart_eq stopped size,maapSmReserveAddress_extent]
  rfl

theorem maapSmRestart_random : (maapSmRestart port range env).2.random = fun draw => env.random (draw + 2) := by
  rw [maapSmRestart_eq stopped size,maapSmReserveAddress_random (by exact stopped)]
  rfl

end

end

end Machine

section Receive
variable (localMac src : MacAddress) (pdu : MaapPdu)

def Conflicting (range : MaapRange) : Bool :=
  (areRangesInConflict range.startMacAddr range.macCount pdu.requestedStartAddress pdu.requestedCount.toNat).isSome

def Answered (range : MaapRange) : Bool :=
  range.startMacAddr = pdu.requestedStartAddress ∧ range.macCount = pdu.requestedCount.toNat

def Restarts (ethertype : UInt16) (range : MaapRange) : Bool :=
  ethertype = ETHERTYPE_AVTP && (pdu.subtype = AVTP_SUBTYPE_MAAP &&
  if pdu.messageType = MAAP_PROBE then
    range.state = .probe && Conflicting pdu range && !maapCompareMac localMac src
  else if pdu.messageType = MAAP_ANNOUNCE then
    (range.state = .probe || range.state = .defend && !maapCompareMac localMac src) && Conflicting pdu range
  else if pdu.messageType = MAAP_DEFEND then
    (range.state = .probe || range.state = .defend && !maapCompareMac localMac src) && Answered pdu range
  else false)

variable {localMac src : MacAddress} {pdu : MaapPdu} {port : Nat} {range : MaapRange} {env : MaapEnv}

theorem maapSmRprobe_cases (conflict : ConflictInfo) :
    maapSmRprobe port (rangeInfo localMac src pdu conflict) range env =
      if range.state = .probe ∧ maapCompareMac localMac src = false then maapSmRestart port range.stopped env
      else if range.state = .defend then
        (range,maapNetTransmitDefend port range (rangeInfo localMac src pdu conflict) env)
      else (range,env) := by
  unfold maapSmRprobe MaapRange.stopped rangeInfo
  cases range.state with
  | initial | defend => rfl
  | probe => cases maapCompareMac localMac src <;> rfl

theorem maapSmRdefend_cases (conflict : ConflictInfo) :
    maapSmRdefend port (rangeInfo localMac src pdu conflict) range env =
      if range.state = .probe ∨ range.state = .defend ∧ maapCompareMac localMac src = false then
        maapSmRestart port range.stopped env
      else (range,env) := by
  unfold maapSmRdefend MaapRange.stopped rangeInfo
  cases range.state with
  | initial | probe => rfl
  | defend => cases maapCompareMac localMac src <;> rfl

def Received (restarts : Bool) (result : MaapRange × MaapEnv) (port : Nat) (localMac src : MacAddress)
    (pdu : MaapPdu) (range : MaapRange) (env : MaapEnv) : Prop :=
  (restarts = true ∧ result = maapSmRestart port range.stopped env) ∨
  (restarts = false ∧ result = (range,env)) ∨
  (restarts = false ∧ range.state = .defend ∧ pdu.messageType = MAAP_PROBE ∧
    ∃ conflict, areRangesInConflict range.startMacAddr range.macCount pdu.requestedStartAddress
        pdu.requestedCount.toNat = some conflict ∧
      result = (range,maapNetTransmitDefend port range (rangeInfo localMac src pdu conflict) env))

theorem maapHandleProbe_received (probe : pdu.messageType = MAAP_PROBE) :
    Received (range.state = .probe && Conflicting pdu range && !maapCompareMac localMac src)
      (maapHandleProbe port localMac src pdu range env) port localMac src pdu range env := by
  rcases Option.eq_none_or_eq_some (areRangesInConflict range.startMacAddr range.macCount pdu.requestedStartAddress
    pdu.requestedCount.toNat) with found | ⟨conflict,found⟩
  · refine .inr (.inl ⟨?_,?_⟩)
    · unfold Conflicting
      rw [found]
      simp
    · unfold maapHandleProbe
      rw [found]
  · have heard : Conflicting pdu range = true := by
      unfold Conflicting
      rw [found]
      rfl
    unfold maapHandleProbe
    rw [found,heard]
    dsimp only
    rw [maapSmRprobe_cases,Bool.and_true]
    split
    next restarts => exact .inl ⟨by simpa using restarts,rfl⟩
    next keeps =>
      have keeps : (decide (range.state = .probe) && !maapCompareMac localMac src) = false := by simpa using keeps
      split
      next defends => exact .inr (.inr ⟨keeps,defends,probe,conflict,found,rfl⟩)
      · exact .inr (.inl ⟨keeps,rfl⟩)

private theorem maapSmRdefend_received {conflict : ConflictInfo} {concerned : Bool} {result : MaapRange × MaapEnv}
    (heard : concerned = true → result = maapSmRdefend port (rangeInfo localMac src pdu conflict) range env)
    (unheard : concerned = false → result = (range,env)) :
    Received ((range.state = .probe || range.state = .defend && !maapCompareMac localMac src) && concerned)
      result port localMac src pdu range env := by
  cases concerned with
  | false => exact .inr (.inl ⟨Bool.and_false _,unheard rfl⟩)
  | true =>
    rw [heard rfl,maapSmRdefend_cases,Bool.and_true]
    split
    next restarts => exact .inl ⟨by simpa using restarts,rfl⟩
    next keeps => exact .inr (.inl ⟨by simpa using keeps,rfl⟩)

theorem maapHandleAnnounce_received :
    Received ((range.state = .probe || range.state = .defend && !maapCompareMac localMac src) && Conflicting pdu range)
      (maapHandleAnnounce port localMac src pdu range env) port localMac src pdu range env := by
  unfold maapHandleAnnounce Conflicting
  rcases Option.eq_none_or_eq_some (areRangesInConflict range.startMacAddr range.macCount pdu.requestedStartAddress
    pdu.requestedCount.toNat) with found | ⟨conflict,found⟩
  · rw [found]
    exact .inr (.inl ⟨Bool.and_false _,rfl⟩)
  · rw [found]
    exact maapSmRdefend_received (fun _ => rfl) fun no => nomatch no

theorem maapHandleDefend_received :
    Received ((range.state = .probe || range.state = .defend && !maapCompareMac localMac src) && Answered pdu range)
      (maapHandleDefend port localMac src pdu range env) port localMac src pdu range env := by
  unfold maapHandleDefend Answered
  apply maapSmRdefend_received
  · intro asked
    rw [if_pos (of_decide_eq_true asked)]
  · intro other
    rw [if_neg (of_decide_eq_false other)]

theorem maapNetReceive_received (port : Nat) (env : MaapEnv) (ethertype : UInt16) :
    Received (Restarts localMac src pdu ethertype range)
      (maapNetReceive port localMac src pdu ethertype range env) port localMac src pdu range env := by
  have nothing : Received false (range,env) port localMac src pdu range env := .inr (.inl ⟨rfl,rfl⟩)
  unfold maapNetReceive Restarts
  by_cases avtp : ethertype = ETHERTYPE_AVTP
  case neg => rw [if_pos avtp,decide_eq_false avtp]; exact nothing
  rw [if_neg (not_not.mpr avtp),decide_eq_true avtp,Bool.true_and]
  by_cases maap : pdu.subtype = AVTP_SUBTYPE_MAAP
  case neg => rw [if_pos maap,decide_eq_false maap]; exact nothing
  rw [if_neg (not_not.mpr maap),decide_eq_true maap,Bool.true_and]
  by_cases probe : pdu.messageType = MAAP_PROBE
  · rw [if_pos probe,if_pos probe]
    exact maapHandleProbe_received probe
  rw [if_neg probe,if_neg probe]
  by_cases announce : pdu.messageType = MAAP_ANNOUNCE
  · rw [if_pos announce,if_pos announce]
    exact maapHandleAnnounce_received
  rw [if_neg announce,if_neg announce]
  by_cases defend : pdu.messageType = MAAP_DEFEND
  · rw [if_pos defend,if_pos defend]
    exact maapHandleDefend_received
  · rw [if_neg defend,if_neg defend]
    exact nothing

variable {ethertype : UInt16}

theorem maapNetReceive_restarts (port : Nat) (env : MaapEnv)
    (restarts : Restarts localMac src pdu ethertype range = true) :
    maapNetReceive port localMac src pdu ethertype range env = maapSmRestart port range.stopped env := by
  rcases maapNetReceive_received port env ethertype with ⟨_,restart⟩ | ⟨stays,_⟩ | ⟨stays,_⟩
  · exact restart
  · exact absurd (restarts.symm.trans stays) (by decide)
  · exact absurd (restarts.symm.trans stays) (by decide)

theorem maapNetReceive_draws (port : Nat) (env : MaapEnv)
    (restarts : Restarts localMac src pdu ethertype range = true) (size : range.macCount ≤ MAAP_DYNAMIC_POOL_SIZE) :
    (maapNetReceive port localMac src pdu ethertype range env).1.extent =
      (range.rangeId,drawnStart range.macCount env.random,range.macCount) ∧
    (maapNetReceive port localMac src pdu ethertype range env).2.random = fun draw => env.random (draw + 2) := by
  have rangeId : range.stopped.rangeId = range.rangeId := congrArg (·.1) range.stopped_extent
  have count : range.stopped.macCount = range.macCount := congrArg (·.2.2) range.stopped_extent
  rw [← rangeId,← count,maapNetReceive_restarts port env restarts]
  rw [← count] at size
  exact ⟨maapSmRestart_extent range.stopped_state size,maapSmRestart_random range.stopped_state size⟩

theorem maapNetReceive_stays (port : Nat) (env : MaapEnv)
    (stays : Restarts localMac src pdu ethertype range = false) :
    (maapNetReceive port localMac src pdu ethertype range env).1 = range ∧
      (maapNetReceive port localMac src pdu ethertype range env).2.random = env.random := by
  rcases maapNetReceive_received port env ethertype with ⟨restarts,_⟩ | ⟨_,same⟩ | ⟨_,_,_,conflict,_,defend⟩
  · exact absurd (restarts.symm.trans stays) (by decide)
  · rw [same]
    exact ⟨rfl,rfl⟩
  · rw [defend]
    exact ⟨rfl,rfl⟩

end Receive

namespace MaapCtx

section Requests
variable {maap : MaapCtx} {index : Nat} {rangeId : UInt32} {addr : Option MacAddress} {count : Nat}
  {memory timers : Bool}

/-- A request that the port can meet: the range has a valid size, is in the pool and new. -/
structure Allocatable (port : MaapPort) (rangeId : UInt32) (addr : Option MacAddress) (count : Nat) : Prop where
  nonempty : 0 < count
  size : count ≤ MAAP_DYNAMIC_POOL_SIZE
  inPool : ∀ start, addr = some start → maapIsInDynamicPool start count = true
  unused : port.isRangeIdUsed rangeId = false

theorem rangeAddress_eq (index : Nat) (rangeId : UInt32) (addr : Option MacAddress)
    (size : count ≤ MAAP_DYNAMIC_POOL_SIZE) (env : MaapEnv) :
    ∃ random, rangeAddress index rangeId addr count env =
      (initialRange rangeId (addr.getD (drawnStart count env.random)) count,
        {env with random := random}.emit (.chosen index rangeId (addr.getD (drawnStart count env.random)) count)) := by
  unfold rangeAddress
  cases addr with
  | none =>
    rw [maapGenerateAddress_eq size]
    exact ⟨_,rfl⟩
  | some start => exact ⟨env.random,rfl⟩

theorem maapRangeAlloc_cases :
    maap.maapRangeAlloc index rangeId addr count memory timers = (none,maap) ∨
    (Allocatable (maap.port index) rangeId addr count ∧
      (maap.maapRangeAlloc index rangeId addr count memory timers =
        (none,{maap with env := (rangeAddress index rangeId addr count maap.env).2}) ∨
      ((maap.port index).checkInternalConflict (rangeAddress index rangeId addr count maap.env).1 = false ∧
        maap.maapRangeAlloc index rangeId addr count memory timers =
          (some (rangeAddress index rangeId addr count maap.env).1,
            {maap with env := (rangeAddress index rangeId addr count maap.env).2}.setPort index
              {maap.port index with allocatedRangesCount := (maap.port index).allocatedRangesCount + 1})))) := by
  unfold maapRangeAlloc
  dsimp only
  split
  · exact .inl rfl
  next sized =>
  simp only [Bool.or_eq_true,decide_eq_true_eq,not_or] at sized
  split
  · exact .inl rfl
  next outside =>
  split
  · exact .inl rfl
  split
  · exact .inl rfl
  next used =>
  split
  · exact .inl rfl
  have inPool : ∀ start, addr = some start → maapIsInDynamicPool start count = true := by
    rintro start rfl
    simpa using outside
  refine .inr ⟨⟨by omega,by omega,inPool,Bool.eq_false_of_not_eq_true used⟩,?_⟩
  split
  · exact .inl rfl
  next apart =>
  simp only [Bool.or_eq_true,not_or,Bool.not_eq_true] at apart
  exact .inr ⟨apart.1,rfl⟩

def withRange (range : MaapRange) (port : MaapPort) : MaapPort :=
  {port with allocatedRangesCount := port.allocatedRangesCount + 1, range := range :: port.range}

theorem maapNewRangeOnPort_cases :
    maap.maapNewRangeOnPort index rangeId addr count memory timers = (none,maap) ∨
    (Allocatable (maap.port index) rangeId addr count ∧
      (maap.maapNewRangeOnPort index rangeId addr count memory timers =
        (none,{maap with env := (rangeAddress index rangeId addr count maap.env).2}) ∨
      ∃ range env, maapSmBegin index (rangeAddress index rangeId addr count maap.env).1
          (rangeAddress index rangeId addr count maap.env).2 = (range,env) ∧
        (maap.port index).checkInternalConflict (rangeAddress index rangeId addr count maap.env).1 = false ∧
        maap.maapNewRangeOnPort index rangeId addr count memory timers =
          (some range,{maap.setPort index (withRange range (maap.port index)) with env := env}))) := by
  unfold maapNewRangeOnPort
  rcases maapRangeAlloc_cases with failed | ⟨valid,failed | ⟨apart,allocated⟩⟩
  · rw [failed]
    exact .inl rfl
  · rw [failed]
    exact .inr ⟨valid,.inl rfl⟩
  · rw [allocated]
    dsimp only
    rw [setPort_same]
    generalize begun : maapSmBegin index _ _ = result
    obtain ⟨range,env⟩ := result
    refine .inr ⟨valid,.inr ⟨range,env,begun,apart,?_⟩⟩
    unfold withRange setPort
    simp only [Function.update_idem]

private theorem logicalToMaapPort_found {logicalPort : UInt16} (found : maap.logicalToMaapPort logicalPort = some index) :
    index < maap.portMax ∧ (maap.port index).logicalPort = logicalPort := by
  have member := List.mem_of_find?_eq_some found
  have same := List.find?_some found
  exact ⟨List.mem_range.mp member,(of_decide_eq_true same).symm⟩

theorem removeRange_found {ranges left : List MaapRange} {range : MaapRange}
    (found : removeRange rangeId ranges = some (range,left)) :
    range.rangeId = rangeId ∧ ∃ before after, ranges = before ++ range :: after ∧ left = before ++ after := by
  induction ranges generalizing left with
  | nil => exact absurd found (by simp [removeRange])
  | cons head rest ih =>
    unfold removeRange at found
    split at found
    next same =>
      cases found
      exact ⟨same,[],_,rfl,rfl⟩
    · split at found
      · cases found
      next removed later =>
        cases found
        obtain ⟨same,before,after,rfl,rfl⟩ := ih later
        exact ⟨same,head :: before,after,rfl,rfl⟩

section Responses
variable {sync : Bool} {src portId amount : UInt16} {flag : UInt8} {baseAddress : MacAddress}

theorem maapIpcCreate_cases :
    (∃ env, (env = maap.env ∨ ∃ index, index < maap.portMax ∧
        Allocatable (maap.port index) rangeId (requestedAddress flag baseAddress) amount.toNat ∧
        env = (rangeAddress index rangeId (requestedAddress flag baseAddress) amount.toNat maap.env).2) ∧
      maap.maapIpcCreate sync src flag portId rangeId amount baseAddress memory timers =
        {maap with env := env}.emit (.createResponse sync src .error portId rangeId amount baseAddress)) ∨
    ∃ index range env, index < maap.portMax ∧ (maap.port index).logicalPort = portId ∧
      Allocatable (maap.port index) rangeId (requestedAddress flag baseAddress) amount.toNat ∧
      (maap.port index).checkInternalConflict
        (rangeAddress index rangeId (requestedAddress flag baseAddress) amount.toNat maap.env).1 = false ∧
      maapSmBegin index (rangeAddress index rangeId (requestedAddress flag baseAddress) amount.toNat maap.env).1
        (rangeAddress index rangeId (requestedAddress flag baseAddress) amount.toNat maap.env).2 = (range,env) ∧
      maap.maapIpcCreate sync src flag portId rangeId amount baseAddress memory timers =
        {maap.setPort index (withRange range (maap.port index)) with env := env}.emit
          (.createResponse sync src .success portId range.rangeId (.ofNat range.macCount) range.startMacAddr) := by
  unfold maapIpcCreate
  cases found : maap.logicalToMaapPort portId with
  | none => exact .inl ⟨maap.env,.inl rfl,rfl⟩
  | some index =>
    obtain ⟨inside,logical⟩ := logicalToMaapPort_found found
    dsimp only
    rcases maapNewRangeOnPort_cases with failed | ⟨valid,failed | ⟨range,env,begun,apart,created⟩⟩
    · rw [failed]
      exact .inl ⟨maap.env,.inl rfl,rfl⟩
    · rw [failed]
      exact .inl ⟨_,.inr ⟨index,inside,valid,rfl⟩,rfl⟩
    · rw [created]
      refine .inr ⟨index,range,env,inside,logical,valid,apart,begun,?_⟩
      dsimp only
      rw [setPort_same]
      unfold withRange
      rw [logical]

theorem maapIpcDelete_cases :
    maap.maapIpcDelete sync src portId rangeId = maap.emit (.deleteResponse sync src .error portId rangeId) ∨
    ∃ index range before after, index < maap.portMax ∧ (maap.port index).logicalPort = portId ∧
      range.rangeId = rangeId ∧ (maap.port index).range = before ++ range :: after ∧
      maap.maapIpcDelete sync src portId rangeId =
        ((maap.setPort index {maap.port index with
          range := before ++ after
          allocatedRangesCount := (maap.port index).allocatedRangesCount - 1}).emit
            (.deleteResponse sync src .success portId rangeId)).emit
              (.indication index rangeId sync portId rangeId range.startMacAddr (.ofNat range.macCount) .free) := by
  unfold maapIpcDelete
  cases found : maap.logicalToMaapPort portId with
  | none => exact .inl rfl
  | some index =>
    obtain ⟨inside,logical⟩ := logicalToMaapPort_found found
    dsimp only
    cases removed : removeRange rangeId (maap.port index).range with
    | none => exact .inl rfl
    | some pair =>
      obtain ⟨range,left⟩ := pair
      obtain ⟨same,before,after,ranges,rfl⟩ := removeRange_found removed
      refine .inr ⟨index,range,before,after,inside,logical,same,ranges,?_⟩
      dsimp only
      rw [logical,same]

end Responses

end Requests

end MaapCtx

end Genavb.Maap
