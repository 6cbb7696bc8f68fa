import Genavb.Maap.Handlers

/-! The addresses that a received range shares with the ranges of a port (`maap.c`). -/
namespace Genavb.Maap

section Shared
variable (addrLocal : MacAddress) (countLocal : Nat) (addrPdu : MacAddress) (countPdu : Nat)

def sharedRange : ConflictInfo :=
  let startAddr := if addrPdu.macValue < addrLocal.macValue then addrLocal else addrPdu
  ⟨startAddr,min (addrLocal.macValue + countLocal) (addrPdu.macValue + countPdu) - startAddr.macValue⟩

theorem addresses_sharedRange :
    addresses (sharedRange addrLocal countLocal addrPdu countPdu).startAddr
        (sharedRange addrLocal countLocal addrPdu countPdu).count =
      addresses addrLocal countLocal ∩ addresses addrPdu countPdu := by
  ext value
  simp only [addresses,sharedRange,Set.mem_inter_iff,Set.mem_Ico]
  split
  · omega
  · omega

private theorem addresses_nonempty (startAddr : MacAddress) (count : Nat) :
    (addresses startAddr count).Nonempty ↔ count ≠ 0 := by
  rw [addresses,Set.nonempty_Ico]
  omega

theorem addresses_inj {first second : ConflictInfo} (some : first.count ≠ 0)
    (same : addresses first.startAddr first.count = addresses second.startAddr second.count) : first = second := by
  have ends : first.startAddr.macValue < first.startAddr.macValue + first.count := by omega
  have values := (Set.Ico_eq_Ico_iff (.inl ends)).mp same
  obtain ⟨startAddr,count⟩ := first
  obtain ⟨startAddr',count'⟩ := second
  have begins : startAddr = startAddr' := MacAddress.macValue_injective values.1
  simp_all

def width (count : Nat) : Nat := if count = 0 then 2^32 else count

/-- Neither range is empty, or they do not even meet when an empty range is taken to have 2³² addresses. -/
def Sized : Prop :=
  (countLocal ≠ 0 ∧ countPdu ≠ 0) ∨ addrLocal.macValue + width countLocal ≤ addrPdu.macValue ∨
    addrPdu.macValue + width countPdu ≤ addrLocal.macValue

/-- Exactly ranges that share addresses are reported, with the addresses that they share. -/
structure Exact : Prop where
  found : (areRangesInConflict addrLocal countLocal addrPdu countPdu).isSome ↔
    (addresses addrLocal countLocal ∩ addresses addrPdu countPdu).Nonempty
  reported : ∀ conflict, areRangesInConflict addrLocal countLocal addrPdu countPdu = some conflict →
    addresses conflict.startAddr conflict.count = addresses addrLocal countLocal ∩ addresses addrPdu countPdu

end Shared

section Conflicts
variable {addrLocal addrPdu : MacAddress} {countLocal countPdu : Nat}

private theorem width_eq (count : Nat) : width count = countLess count + 1 := by
  unfold width countLess
  split <;> omega

private theorem areRangesInConflict_isSome : (areRangesInConflict addrLocal countLocal addrPdu countPdu).isSome ↔
    ¬(addrLocal.macValue + width countLocal ≤ addrPdu.macValue ∨ addrPdu.macValue + width countPdu ≤ addrLocal.macValue) := by
  unfold areRangesInConflict
  rw [width_eq,width_eq]
  dsimp only
  split
  · simp only [Option.isSome_some,true_iff]
    omega
  · split
    · simp only [Option.isSome_some,true_iff]
      omega
    · simp only [Option.isSome_none,Bool.false_eq_true,false_iff,not_not]
      omega

theorem shared_nonempty (someLocal : countLocal ≠ 0) (somePdu : countPdu ≠ 0) :
    (addresses addrLocal countLocal ∩ addresses addrPdu countPdu).Nonempty ↔
      ¬(addrLocal.macValue + countLocal ≤ addrPdu.macValue ∨ addrPdu.macValue + countPdu ≤ addrLocal.macValue) := by
  rw [← addresses_sharedRange,addresses_nonempty]
  simp only [sharedRange]
  split
  · omega
  · omega

theorem areRangesInConflict_shared {conflict : ConflictInfo} (someLocal : countLocal ≠ 0) (somePdu : countPdu ≠ 0)
    (small : countPdu < 2^32) (found : areRangesInConflict addrLocal countLocal addrPdu countPdu = some conflict) :
    conflict = sharedRange addrLocal countLocal addrPdu countPdu := by
  unfold areRangesInConflict at found
  rw [countLess_pos (by omega),countLess_pos (by omega)] at found
  unfold sharedRange
  dsimp only at found ⊢
  split at found
  next before =>
    rw [if_pos before.1]
    rw [← Option.some.inj found,ConflictInfo.mk.injEq]
    refine ⟨rfl,?_⟩
    split <;> omega
  · split at found
    next inside =>
      rw [if_neg (by omega)]
      rw [← Option.some.inj found,ConflictInfo.mk.injEq]
      refine ⟨rfl,?_⟩
      split <;> omega
    · cases found

theorem exact_iff (small : countPdu < 2^32) :
    Exact addrLocal countLocal addrPdu countPdu ↔ Sized addrLocal countLocal addrPdu countPdu := by
  by_cases sized : countLocal ≠ 0 ∧ countPdu ≠ 0
  case pos =>
    simp only [Sized,sized,ne_eq,not_false_eq_true,and_self,true_or,iff_true]
    refine ⟨?_,fun conflict found => ?_⟩
    · rw [shared_nonempty sized.1 sized.2,areRangesInConflict_isSome,width,width,if_neg sized.1,if_neg sized.2]
    · rw [areRangesInConflict_shared sized.1 sized.2 small found,addresses_sharedRange]
  case neg =>
    have none : addresses addrLocal countLocal ∩ addresses addrPdu countPdu = ∅ := by
      rw [← Set.not_nonempty_iff_eq_empty]
      rintro ⟨value,inLocal,inPdu⟩
      simp only [addresses,Set.mem_Ico] at inLocal inPdu
      omega
    rw [Sized,or_iff_right sized]
    constructor
    · intro exact'
      by_contra meet
      have found := exact'.found.mp (areRangesInConflict_isSome.mpr meet)
      rw [none] at found
      exact Set.not_nonempty_empty found
    · intro apart
      have clear : (areRangesInConflict addrLocal countLocal addrPdu countPdu).isSome = false := by
        rw [← Bool.not_eq_true]
        intro found
        exact areRangesInConflict_isSome.mp found apart
      refine ⟨?_,fun conflict found => ?_⟩
      · simp [clear,none]
      · simp [found] at clear

end Conflicts

section Resolution
variable (port : Nat) (localMac src : MacAddress) (pdu : MaapPdu)

def resolve (maapSm : MaapRangeInfo → MaapRange → MaapEnv → MaapRange × MaapEnv) (range : MaapRange) (env : MaapEnv) :
    MaapRange × MaapEnv :=
  let conflict := sharedRange range.startMacAddr range.macCount pdu.requestedStartAddress pdu.requestedCount.toNat
  if conflict.count = 0 then (range,env) else maapSm (rangeInfo localMac src pdu conflict) range env

structure Resolved (ranges : List MaapRange) (env : MaapEnv) : Prop where
  exact : ∀ range ∈ ranges,
    Exact range.startMacAddr range.macCount pdu.requestedStartAddress pdu.requestedCount.toNat
  probe : eachRange (maapHandleProbe port localMac src pdu) ranges env =
    eachRange (resolve localMac src pdu (maapSmRprobe port)) ranges env
  announce : eachRange (maapHandleAnnounce port localMac src pdu) ranges env =
    eachRange (resolve localMac src pdu (maapSmRdefend port)) ranges env

variable {localMac src : MacAddress} {pdu : MaapPdu}

private theorem resolve_eq {maapSm : MaapRangeInfo → MaapRange → MaapEnv → MaapRange × MaapEnv} {range : MaapRange}
    (exact' : Exact range.startMacAddr range.macCount pdu.requestedStartAddress pdu.requestedCount.toNat)
    (env : MaapEnv) :
    resolve localMac src pdu maapSm range env =
      match areRangesInConflict range.startMacAddr range.macCount pdu.requestedStartAddress pdu.requestedCount.toNat with
      | none => (range,env)
      | some conflict => maapSm (rangeInfo localMac src pdu conflict) range env := by
  have found := exact'.found
  rw [← addresses_sharedRange,addresses_nonempty] at found
  unfold resolve
  cases clear : areRangesInConflict range.startMacAddr range.macCount pdu.requestedStartAddress
    pdu.requestedCount.toNat with
  | none =>
    rw [clear] at found
    simp only [Option.isSome_none,Bool.false_eq_true,false_iff,not_not] at found
    rw [if_pos found]
  | some conflict =>
    have reported := exact'.reported conflict clear
    rw [clear] at found
    have some := found.mp rfl
    rw [if_neg some]
    rw [← addresses_sharedRange] at reported
    rw [addresses_inj some reported.symm]

private theorem eachRange_congr {first second : MaapRange → MaapEnv → MaapRange × MaapEnv} {ranges : List MaapRange}
    (same : ∀ range ∈ ranges, ∀ env, first range env = second range env) (env : MaapEnv) :
    eachRange first ranges env = eachRange second ranges env := by
  induction ranges generalizing env with
  | nil => rfl
  | cons range rest ih =>
    unfold eachRange
    rw [same range List.mem_cons_self env]
    simp only [ih fun range member => same range (List.mem_cons_of_mem _ member)]

end Resolution

/-- The conflicts of a message with the ranges of a port are found and resolved exactly if no empty range is taken for a
wide one. -/
theorem conflicts_resolved (port : Nat) (localMac src : MacAddress) (pdu : MaapPdu) (ranges : List MaapRange)
    (env : MaapEnv) :
    Resolved port localMac src pdu ranges env ↔ ∀ range ∈ ranges,
      Sized range.startMacAddr range.macCount pdu.requestedStartAddress pdu.requestedCount.toNat := by
  have small : pdu.requestedCount.toNat < 2^32 := pdu.requestedCount.toNat_lt.trans (by decide)
  constructor
  · intro resolved range member
    exact (exact_iff small).mp (resolved.exact range member)
  · intro sized
    have exact' := fun range member => (exact_iff small).mpr (sized range member)
    refine ⟨exact',?_,?_⟩
    · apply eachRange_congr
      intro range member env
      exact (resolve_eq (exact' range member) env).symm
    · apply eachRange_congr
      intro range member env
      exact (resolve_eq (exact' range member) env).symm

theorem empty_probe_conflicts : ¬∀ (port : Nat) (localMac src : MacAddress) (pdu : MaapPdu) (ranges : List MaapRange)
    (env : MaapEnv), Resolved port localMac src pdu ranges env := by
  intro resolved
  let range : MaapRange := ⟨1,8,⟨0x91,0xe0,0xf0,0,1,0⟩,.defend,0,true,none,some 30000⟩
  let pdu : MaapPdu := {initialPdu MAAP_PROBE with requestedStartAddress := ⟨0x91,0xe0,0xf0,0,0,0⟩}
  have found := ((resolved 0 ⟨2,0,0,0,0,1⟩ ⟨2,0,0,0,0,2⟩ pdu [range] ⟨fun _ => 0,[]⟩).exact range
    List.mem_cons_self).found.mp (by decide)
  obtain ⟨value,_,inPdu⟩ := found
  simp [addresses,pdu,initialPdu] at inPdu

end Genavb.Maap
