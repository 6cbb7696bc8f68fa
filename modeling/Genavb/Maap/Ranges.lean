import Genavb.Support.Run
import Genavb.Maap.Effect

/-! The address ranges of a port over whole runs: they lie in the pool and are counted, and they
are disjoint as long as restarts do not draw addresses that are in use. -/
namespace Genavb.Maap
open Support
open List (forall_mem_cons map_cons mem_cons mem_cons_of_mem mem_cons_self pairwise_cons)
open Set

def pool : Set Nat := Icc MAAP_DYNAMIC_POOL_MIN.macValue MAAP_DYNAMIC_POOL_MAX.macValue

structure MaapPort.RangesHold (port : MaapPort) : Prop where
  counted : port.allocatedRangesCount = port.range.length
  nonempty : ∀ range ∈ port.range, 0 < range.macCount
  inPool : ∀ range ∈ port.range, range.addresses ⊆ pool
  apart : port.range.Pairwise fun first second => Disjoint first.addresses second.addresses

section Draws

def drawnAddresses (restarts : MaapRange → Bool) : List MaapRange → (Nat → Nat) → List (Set Nat)
  | [],_ => []
  | range :: rest,random =>
    if restarts range then
      addresses (drawnStart range.macCount random) range.macCount ::
        drawnAddresses restarts rest fun draw => random (draw + 2)
    else drawnAddresses restarts rest random

/-- The addresses drawn are not those of a range that stays, and differ from each other. -/
def DrawsApart (maap : MaapCtx) : MaapInput → Prop
  | .receive index ethertype src pdu =>
    let restarts := Restarts (maap.port index).localPhysicalMac src pdu ethertype
    let drawn := drawnAddresses restarts (maap.port index).range maap.env.random
    drawn.Pairwise Disjoint ∧
      ∀ addresses ∈ drawn, ∀ range ∈ (maap.port index).range, restarts range = false →
        Disjoint addresses range.addresses
  | .create .. | .delete .. | .probeTimer .. | .announceTimer .. | .macStatus .. => True

end Draws

section Extents
variable {first second : MaapRange} {handle : MaapRange → MaapEnv → MaapRange × MaapEnv}

theorem MaapRange.addresses_extent (same : first.extent = second.extent) : first.addresses = second.addresses := by
  unfold addresses
  rw [show first.startMacAddr = second.startMacAddr from congrArg (·.2.1) same,
    show first.macCount = second.macCount from congrArg (·.2.2) same]

private theorem extent_addresses {range : MaapRange} {rangeId : UInt32} {start : MacAddress} {count : Nat}
    (extent : range.extent = (rangeId,start,count)) :
    range.addresses = addresses start count ∧ range.macCount = count := by
  cases extent
  exact ⟨rfl,rfl⟩

theorem eachRange_extent (kept : ∀ range env, (handle range env).1.extent = range.extent) (ranges : List MaapRange)
    (env : MaapEnv) : (eachRange handle ranges env).1.map MaapRange.extent = ranges.map MaapRange.extent := by
  induction ranges generalizing env with
  | nil => rfl
  | cons range rest ih =>
    unfold eachRange
    simp only [map_cons]
    rw [kept,ih]

theorem eachRange_length (ranges : List MaapRange) (env : MaapEnv) :
    (eachRange handle ranges env).1.length = ranges.length := by
  induction ranges generalizing env with
  | nil => rfl
  | cons range rest ih => exact congrArg (· + 1) (ih _)

theorem onRange_extent {found : MaapRange → Bool} (kept : ∀ range env, (handle range env).1.extent = range.extent)
    (ranges : List MaapRange) (env : MaapEnv) :
    (onRange found handle ranges env).1.map MaapRange.extent = ranges.map MaapRange.extent := by
  induction ranges with
  | nil => rfl
  | cons range rest ih =>
    unfold onRange
    split
    · simp only [map_cons]
      rw [kept]
    · simp only [map_cons]
      rw [ih]

end Extents

namespace MaapPort.RangesHold
variable {port : MaapPort}

theorem congr (hold : port.RangesHold) {ranges : List MaapRange}
    (same : ranges.map MaapRange.extent = port.range.map MaapRange.extent) :
    MaapPort.RangesHold {port with range := ranges} := by
  have known {range : MaapRange} (member : range ∈ ranges) :
      ∃ old ∈ port.range, old.extent = range.extent := by
    have member : range.extent ∈ port.range.map MaapRange.extent := by
      rw [← same]
      exact List.mem_map_of_mem member
    exact List.mem_map.mp member
  refine ⟨?_,?_,?_,?_⟩
  · rw [show ranges.length = port.range.length by simpa using congrArg List.length same]
    exact hold.counted
  · intro range member
    obtain ⟨old,present,extent⟩ := known member
    rw [← show old.macCount = range.macCount from congrArg (·.2.2) extent]
    exact hold.nonempty old present
  · intro range member
    obtain ⟨old,present,extent⟩ := known member
    rw [← MaapRange.addresses_extent extent]
    exact hold.inPool old present
  · have apart : (port.range.map MaapRange.extent).Pairwise fun first second =>
        Disjoint (addresses first.2.1 first.2.2) (addresses second.2.1 second.2.2) :=
      List.pairwise_map.mpr hold.apart
    rw [← same,List.pairwise_map] at apart
    exact apart

theorem macCount_le (hold : port.RangesHold) {range : MaapRange} (member : range ∈ port.range) :
    range.macCount ≤ MAAP_DYNAMIC_POOL_SIZE := by
  have some := hold.nonempty range member
  have inside := hold.inPool range member
  unfold MaapRange.addresses addresses pool at inside
  have first := inside (mem_Ico.mpr ⟨le_refl _,by omega⟩)
  have last := inside (mem_Ico.mpr
    ⟨show range.startMacAddr.macValue ≤ range.startMacAddr.macValue + range.macCount - 1 by omega,by omega⟩)
  rw [mem_Icc] at first last
  have size : MAAP_DYNAMIC_POOL_MAX.macValue = MAAP_DYNAMIC_POOL_MIN.macValue + (MAAP_DYNAMIC_POOL_SIZE - 1) := by
    decide +kernel
  have pos : 0 < MAAP_DYNAMIC_POOL_SIZE := by decide
  omega

end MaapPort.RangesHold

section Generated

private theorem drawnStart_inPool {count : Nat} (some : 0 < count) (size : count ≤ MAAP_DYNAMIC_POOL_SIZE)
    (random : Nat → Nat) : addresses (drawnStart count random) count ⊆ pool := by
  have offset : random 0 % (MAAP_DYNAMIC_POOL_SIZE - count + 1) < MAAP_DYNAMIC_POOL_SIZE - count + 1 :=
    Nat.mod_lt _ (by omega)
  have small : MAAP_DYNAMIC_POOL_SIZE < 2^16 := by decide
  unfold addresses pool drawnStart
  rw [MacAddress.generated_macValue (by omega)]
  have size : MAAP_DYNAMIC_POOL_MAX.macValue = MAAP_DYNAMIC_POOL_MIN.macValue + (MAAP_DYNAMIC_POOL_SIZE - 1) := by
    decide +kernel
  intro value inside
  rw [mem_Ico] at inside
  rw [mem_Icc]
  omega

theorem maapIsInDynamicPool_subset {addr : MacAddress} {count : Nat} (some : 0 < count)
    (inside : maapIsInDynamicPool addr count = true) : addresses addr count ⊆ pool := by
  unfold maapIsInDynamicPool at inside
  simp only [Bool.and_eq_true,decide_eq_true_eq] at inside
  intro value member
  unfold addresses at member
  rw [mem_Ico] at member
  unfold pool
  rw [mem_Icc]
  omega

end Generated

section Receive
variable {port : Nat} {localMac src : MacAddress} {pdu : MaapPdu} {ethertype : UInt16}

variable {ranges : List MaapRange} {env : MaapEnv}

private theorem receive_member (size : ∀ range ∈ ranges, 0 < range.macCount ∧ range.macCount ≤ MAAP_DYNAMIC_POOL_SIZE) :
    ∀ range ∈ (eachRange (maapNetReceive port localMac src pdu ethertype) ranges env).1,
      (range ∈ ranges ∧ Restarts localMac src pdu ethertype range = false) ∨
      (range.addresses ∈ drawnAddresses (Restarts localMac src pdu ethertype) ranges env.random ∧
        0 < range.macCount ∧ range.addresses ⊆ pool) := by
  induction ranges generalizing env with
  | nil => exact fun range member => absurd member List.not_mem_nil
  | cons head rest ih =>
    obtain ⟨⟨some,small⟩,tail⟩ := forall_mem_cons.mp size
    unfold eachRange drawnAddresses
    dsimp only
    intro range member
    cases restarts : Restarts localMac src pdu ethertype head with
    | true =>
      obtain ⟨extent,random⟩ := maapNetReceive_draws port env restarts small
      rcases mem_cons.mp member with drawn | later
      · rw [← drawn] at extent
        rw [(extent_addresses extent).1,(extent_addresses extent).2]
        exact .inr ⟨mem_cons_self,some,drawnStart_inPool some small env.random⟩
      · rcases ih tail range later with ⟨old,stays⟩ | ⟨drawn,valid⟩
        · exact .inl ⟨mem_cons_of_mem _ old,stays⟩
        · rw [random] at drawn
          exact .inr ⟨mem_cons_of_mem _ drawn,valid⟩
    | false =>
      obtain ⟨same,random⟩ := maapNetReceive_stays port env restarts
      rw [same] at member
      rcases mem_cons.mp member with rfl | later
      · exact .inl ⟨mem_cons_self,restarts⟩
      · rcases ih tail range later with ⟨old,stays⟩ | drawn
        · exact .inl ⟨mem_cons_of_mem _ old,stays⟩
        · rw [random] at drawn
          exact .inr drawn

theorem receive_apart (size : ∀ range ∈ ranges, 0 < range.macCount ∧ range.macCount ≤ MAAP_DYNAMIC_POOL_SIZE)
    (apart : ranges.Pairwise fun first second => Disjoint first.addresses second.addresses)
    (drawn : (drawnAddresses (Restarts localMac src pdu ethertype) ranges env.random).Pairwise Disjoint)
    (unused : ∀ addresses ∈ drawnAddresses (Restarts localMac src pdu ethertype) ranges env.random,
      ∀ range ∈ ranges, Restarts localMac src pdu ethertype range = false → Disjoint addresses range.addresses) :
    (eachRange (maapNetReceive port localMac src pdu ethertype) ranges env).1.Pairwise fun first second =>
      Disjoint first.addresses second.addresses := by
  induction ranges generalizing env with
  | nil => exact List.Pairwise.nil
  | cons head rest ih =>
    obtain ⟨⟨some,small⟩,tail⟩ := forall_mem_cons.mp size
    obtain ⟨before,apart⟩ := pairwise_cons.mp apart
    unfold eachRange
    dsimp only
    unfold drawnAddresses at drawn unused
    cases restarts : Restarts localMac src pdu ethertype head with
    | true =>
      obtain ⟨extent,random⟩ := maapNetReceive_draws port env restarts small
      rw [if_pos restarts] at drawn unused
      obtain ⟨first,drawn⟩ := pairwise_cons.mp drawn
      obtain ⟨own,unused⟩ := forall_mem_cons.mp unused
      rw [← random] at drawn unused first
      refine pairwise_cons.mpr ⟨?_,ih tail apart drawn fun set member range old =>
        unused set member range (mem_cons_of_mem _ old)⟩
      intro range member
      rw [(extent_addresses extent).1]
      rcases receive_member tail range member with ⟨old,stays⟩ | ⟨other,_⟩
      · exact own range (mem_cons_of_mem _ old) stays
      · exact first _ other
    | false =>
      obtain ⟨same,random⟩ := maapNetReceive_stays port env restarts
      rw [restarts,if_neg Bool.false_ne_true] at drawn unused
      rw [same]
      rw [← random] at drawn unused
      refine pairwise_cons.mpr ⟨?_,ih tail apart drawn fun set member range old =>
        unused set member range (mem_cons_of_mem _ old)⟩
      intro range member
      rcases receive_member tail range member with ⟨old,_⟩ | ⟨other,_⟩
      · exact before range old
      · exact (unused _ other head mem_cons_self restarts).symm

end Receive

namespace MaapCtx

def RangesHold (maap : MaapCtx) : Prop := ∀ index, (maap.port index).RangesHold

section Preservation
variable {maap : MaapCtx} {index : Nat}

variable {port : MaapPort}

theorem RangesHold.setPort (hold : maap.RangesHold) (index : Nat) (changed : port.RangesHold) :
    (maap.setPort index port).RangesHold := by
  intro other
  by_cases same : other = index
  · rw [same,setPort_same]
    exact changed
  · rw [setPort_other same]
    exact hold other

theorem checkInternalConflict_apart (hold : port.RangesHold) {range : MaapRange}
    (some : 0 < range.macCount) (passed : port.checkInternalConflict range = false) :
    ∀ old ∈ port.range, Disjoint range.addresses old.addresses := by
  intro old member
  unfold MaapPort.checkInternalConflict at passed
  rw [List.any_eq_false] at passed
  have clear := passed old member
  rw [Option.not_isSome_iff_eq_none] at clear
  exact ((areRangesInConflict_iff (hold.nonempty old member) some).mp clear).symm

theorem withRange_hold (hold : port.RangesHold) {range : MaapRange} (some : 0 < range.macCount)
    (inPool : range.addresses ⊆ pool) (apart : ∀ old ∈ port.range, Disjoint range.addresses old.addresses) :
    (withRange range port).RangesHold where
  counted := congrArg (· + 1) hold.counted
  nonempty := forall_mem_cons.mpr ⟨some,hold.nonempty⟩
  inPool := forall_mem_cons.mpr ⟨inPool,hold.inPool⟩
  apart := pairwise_cons.mpr ⟨apart,hold.apart⟩

theorem rangeAddress_inPool {rangeId : UInt32} {addr : Option MacAddress} {count : Nat}
    (valid : Allocatable port rangeId addr count) (env : MaapEnv) :
    0 < (rangeAddress index rangeId addr count env).1.macCount ∧
      (rangeAddress index rangeId addr count env).1.addresses ⊆ pool := by
  obtain ⟨random,address⟩ := rangeAddress_eq index rangeId addr valid.size env
  rw [address]
  refine ⟨valid.nonempty,?_⟩
  cases addr with
  | none => exact drawnStart_inPool valid.nonempty valid.size env.random
  | some start => exact maapIsInDynamicPool_subset valid.nonempty (valid.inPool start rfl)

theorem RangesHold.create (hold : maap.RangesHold) {sync : Bool} {src portId amount : UInt16} {flag : UInt8}
    {rangeId : UInt32} {baseAddress : MacAddress} {memory timers : Bool} :
    (maap.maapIpcCreate sync src flag portId rangeId amount baseAddress memory timers).RangesHold := by
  rcases maapIpcCreate_cases with ⟨env,_,failed⟩ | ⟨index,range,env,_,_,valid,passed,begun,created⟩
  · rw [failed]
    exact hold
  · rw [created]
    have extent := (congrArg (fun result => result.1.extent) begun).symm.trans maapSmBegin_extent
    obtain ⟨some,inPool⟩ := rangeAddress_inPool valid maap.env
    have apart := checkInternalConflict_apart (hold index) some passed
    rw [← MaapRange.addresses_extent extent] at inPool apart
    have count : range.macCount = MaapRange.macCount _ := congrArg (·.2.2) extent
    rw [← count] at some
    exact hold.setPort index (withRange_hold (hold index) some inPool apart)

theorem RangesHold.delete (hold : maap.RangesHold) {sync : Bool} {src portId : UInt16} {rangeId : UInt32} :
    (maap.maapIpcDelete sync src portId rangeId).RangesHold := by
  rcases maapIpcDelete_cases with failed | ⟨index,range,before,after,_,_,_,ranges,deleted⟩
  · rw [failed]
    exact hold
  · rw [deleted]
    have left : (before ++ after).Sublist (maap.port index).range := by
      rw [ranges]
      exact List.Sublist.append_left (List.sublist_cons_self _ _) _
    have old := hold index
    refine hold.setPort index ⟨?_,?_,?_,?_⟩
    · dsimp only
      rw [old.counted,ranges]
      simp
    · exact fun range member => old.nonempty range (left.subset member)
    · exact fun range member => old.inPool range (left.subset member)
    · exact old.apart.sublist left

theorem RangesHold.onPort (hold : maap.RangesHold) {handle : List MaapRange → MaapEnv → List MaapRange × MaapEnv}
    (handled : MaapPort.RangesHold
      {maap.port index with range := (handle (maap.port index).range maap.env).1}) :
    (maap.onPort index handle).RangesHold :=
  hold.setPort index handled

variable {input : MaapInput}

private theorem handleRange_extent (localMac : MacAddress)
    (other : ∀ port ethertype src pdu, input ≠ .receive port ethertype src pdu) (range : MaapRange) (env : MaapEnv) :
    (handleRange localMac input range env).1.extent = range.extent := by
  cases input with
  | create | delete => rfl
  | receive port ethertype src pdu => exact absurd rfl (other port ethertype src pdu)
  | probeTimer => exact maapSmProbeTimer_extent
  | announceTimer => exact maapSmAnnounceTimer_extent
  | macStatus port operational =>
    cases operational with
    | true => exact maapSmPortOperational_extent
    | false => rfl

theorem RangesHold.whole (hold : maap.RangesHold) (localMac : MacAddress)
    (other : ∀ port ethertype src pdu, input ≠ .receive port ethertype src pdu) :
    (maap.onPort index (eachRange (handleRange localMac input))).RangesHold :=
  hold.onPort ((hold index).congr (eachRange_extent (handleRange_extent localMac other) _ _))

theorem RangesHold.single (hold : maap.RangesHold) (localMac : MacAddress)
    (other : ∀ port ethertype src pdu, input ≠ .receive port ethertype src pdu) (found : MaapRange → Bool) :
    (maap.onPort index (onRange found (handleRange localMac input))).RangesHold :=
  hold.onPort ((hold index).congr (onRange_extent (handleRange_extent localMac other) _ _))

theorem RangesHold.receive (hold : maap.RangesHold) {ethertype : UInt16} {src : MacAddress} {pdu : MaapPdu}
    (apart : DrawsApart maap (.receive index ethertype src pdu)) :
    (maap.onPort index (eachRange (handleRange (maap.port index).localPhysicalMac
      (.receive index ethertype src pdu)))).RangesHold := by
  obtain ⟨drawn,unused⟩ := apart
  have old := hold index
  have size : ∀ range ∈ (maap.port index).range, 0 < range.macCount ∧ range.macCount ≤ MAAP_DYNAMIC_POOL_SIZE :=
    fun range member => ⟨old.nonempty range member,old.macCount_le member⟩
  refine hold.onPort ⟨?_,?_,?_,receive_apart size old.apart drawn unused⟩
  · rw [eachRange_length]
    exact old.counted
  · intro range member
    rcases receive_member size range member with ⟨present,_⟩ | ⟨_,some,_⟩
    · exact old.nonempty range present
    · exact some
  · intro range member
    rcases receive_member size range member with ⟨present,_⟩ | ⟨_,_,inside⟩
    · exact old.inPool range present
    · exact inside

theorem maapStep_hold (input : MaapInput) (hold : maap.RangesHold) (apart : DrawsApart maap input) :
    (maapStep input maap).RangesHold := by
  unfold maapStep
  cases input with
  | create => exact hold.create
  | delete => exact hold.delete
  | receive port ethertype src pdu =>
    dsimp only
    split
    · exact hold.receive apart
    · exact hold
  | probeTimer | announceTimer =>
    dsimp only
    split
    · exact hold.single _ (by simp) _
    · exact hold
  | macStatus port operational =>
    dsimp only
    split
    · exact hold.whole _ (by simp)
    · exact hold

/-- In every run whose restarts draw addresses that no other range of the port has, the ranges
lie in the pool, do not overlap, and are counted. -/
theorem maapPort_ranges (portMax : Nat) (logicalPort : Nat → UInt16) (localPhysicalMac : Nat → MacAddress)
    (random : Nat → Nat) (inputs : List MaapInput)
    (apart : Steps maapStep DrawsApart inputs (maapInit portMax logicalPort localPhysicalMac random)) :
    (run maapStep inputs (maapInit portMax logicalPort localPhysicalMac random)).RangesHold := by
  refine run_invariant maapStep (fun maap input hold apart => maapStep_hold input hold apart) ?_ apart
  intro index
  exact ⟨rfl,by simp [maapInit],by simp [maapInit],List.Pairwise.nil⟩

end Preservation

section Overlap

def probed (rangeId : UInt32) (startMacAddr : MacAddress) : MaapRange :=
  ⟨rangeId,1,startMacAddr,.probe,3,false,some 500,none⟩

def lowAddress : MacAddress := ⟨0x91,0xe0,0xf0,0x00,0x00,0x00⟩
def highAddress : MacAddress := ⟨0x91,0xe0,0xf0,0x00,0x00,0x10⟩

def createInputs : List MaapInput :=
  [.create false 1 1 0 1 1 lowAddress true true,.create false 1 1 0 2 1 highAddress true true]

def highProbe : MaapPdu := {initialPdu MAAP_PROBE with requestedStartAddress := highAddress, requestedCount := 1}

def lowerProbe : MaapInput := .receive 0 ETHERTYPE_AVTP ⟨0,0,0,0,0,1⟩ highProbe

def createInit (draw : Nat) : MaapCtx :=
  maapInit 1 (fun _ => 0) (fun _ => ⟨0,0,0,0,0,2⟩) fun position => if position = 2 then draw else 0

theorem otherDraw_apart : (run maapStep (createInputs ++ [lowerProbe]) (createInit 32)).RangesHold := by
  refine maapPort_ranges _ _ _ _ _ ((steps_append ..).mpr ⟨⟨trivial,trivial,trivial⟩,?_,trivial⟩)
  change DrawsApart (run maapStep createInputs (createInit 32)) lowerProbe
  have ranges : ((run maapStep createInputs (createInit 32)).port 0).range =
      [probed 2 highAddress,probed 1 lowAddress] := by decide +kernel
  have localMac : ((run maapStep createInputs (createInit 32)).port 0).localPhysicalMac = ⟨0,0,0,0,0,2⟩ := by
    decide +kernel
  have start : drawnStart 1 (run maapStep createInputs (createInit 32)).env.random =
      ⟨0x91,0xe0,0xf0,0x00,0x00,0x20⟩ := by decide +kernel
  have second : Restarts ⟨0,0,0,0,0,2⟩ ⟨0,0,0,0,0,1⟩ highProbe ETHERTYPE_AVTP (probed 2 highAddress) = true := by
    decide +kernel
  have first : Restarts ⟨0,0,0,0,0,2⟩ ⟨0,0,0,0,0,1⟩ highProbe ETHERTYPE_AVTP (probed 1 lowAddress) = false := by
    decide +kernel
  unfold DrawsApart lowerProbe
  dsimp only
  rw [ranges,localMac]
  unfold drawnAddresses
  unfold drawnAddresses
  refine ⟨List.pairwise_singleton _ _,?_⟩
  intro set member range old stays
  rw [List.mem_singleton.mp member]
  rcases mem_cons.mp old with rfl | old
  · exact absurd (second.symm.trans stays) (by decide)
  · rw [List.mem_singleton.mp old]
    exact Ico_disjoint_Ico.mpr (by decide +kernel)

/-- The restarted range gets the address of the first one. -/
theorem sameDraw_overlap : ¬ (run maapStep (createInputs ++ [lowerProbe]) (createInit 0)).RangesHold := by
  intro hold
  have ranges : ((run maapStep (createInputs ++ [lowerProbe]) (createInit 0)).port 0).range =
      [probed 2 lowAddress,probed 1 lowAddress] := by decide +kernel
  have apart := (hold 0).apart
  rw [ranges,List.pairwise_pair] at apart
  have member : lowAddress.macValue ∈ (probed 1 lowAddress).addresses := ⟨le_rfl,Nat.lt_succ_self _⟩
  exact disjoint_left.mp apart member member

end Overlap

end MaapCtx

end Genavb.Maap
