import Genavb.Maap.Ranges
import Genavb.Maap.Turns

/-! Two MAAP stations on one network, with the messages on their way between them: which of the two
gives up addresses that both want, and when neither can keep them. -/
namespace Genavb.Maap
open Support List
open Function (update update_eq_self update_of_ne update_self)
open MaapCtx

inductive Side where
  | first
  | second
  deriving DecidableEq

def Side.other : Side → Side
  | .first => .second
  | .second => .first

structure MaapFrame where
  src : MacAddress
  ethertype : UInt16
  pdu : MaapPdu
  deriving DecidableEq

def frames (port : Nat) (src dst : MacAddress) (outputs : List MaapOutput) : List MaapFrame :=
  outputs.filterMap fun
    | .transmit origin _ target ethertype pdu =>
      if origin = port ∧ (target = MAAP_MULTICAST_ADDR ∨ target = dst) then some ⟨src,ethertype,pdu⟩ else none
    | _ => none

/-- Two stations, the port of each that is on the network, and the messages on their way to each. -/
structure Stations where
  maap : Side → MaapCtx
  port : Side → Nat
  toward : Side → List MaapFrame

/-- A station has an input of its own, which may be a message of a third one, or it receives a message
of the other one, not always the oldest. -/
inductive StationsInput where
  | own (side : Side) (input : MaapInput)
  | deliver (side : Side) (position : Nat)

def MaapRange.Meets (range other : MaapRange) : Prop := (range.addresses ∩ other.addresses).Nonempty

namespace Stations

def mac (stations : Stations) (side : Side) : MacAddress :=
  ((stations.maap side).port (stations.port side)).localPhysicalMac

def ranges (stations : Stations) (side : Side) : List MaapRange :=
  ((stations.maap side).port (stations.port side)).range

def sends (side : Side) (input : MaapInput) (stations : Stations) : List MaapOutput :=
  (maapStep input (stations.maap side)).env.outputs.drop (stations.maap side).env.outputs.length

def takes (side : Side) (input : MaapInput) (stations : Stations) : Stations :=
  {stations with
    maap := update stations.maap side (maapStep input (stations.maap side))
    toward := update stations.toward side.other (stations.toward side.other ++
      frames (stations.port side) (stations.mac side) (stations.mac side.other) (stations.sends side input))}

def arrived (side : Side) (position : Nat) (stations : Stations) : Stations :=
  {stations with toward := update stations.toward side ((stations.toward side).eraseIdx position)}

def receives (side : Side) (frame : MaapFrame) (stations : Stations) : MaapInput :=
  .receive (stations.port side) frame.ethertype frame.src frame.pdu

def step (input : StationsInput) (stations : Stations) : Stations :=
  match input with
  | .own side input => stations.takes side input
  | .deliver side position =>
    match (stations.toward side)[position]? with
    | none => stations
    | some frame => (stations.arrived side position).takes side (stations.receives side frame)

def begun (port portMax : Side → Nat) (logicalPort : Side → Nat → UInt16) (localPhysicalMac : Side → Nat → MacAddress)
    (random : Side → Nat → Nat) : Stations :=
  ⟨fun side => .maapInit (portMax side) (logicalPort side) (localPhysicalMac side) (random side),port,fun _ => []⟩

/-- Of two ranges that meet, exactly one gives up its addresses for a message of the other. -/
def Yields (stations : Stations) (messageType : Nat) (range other : MaapRange) : Prop :=
  Restarts (stations.mac .first) (stations.mac .second) (other.message messageType) ETHERTYPE_AVTP range ≠
    Restarts (stations.mac .second) (stations.mac .first) (range.message messageType) ETHERTYPE_AVTP other

/-- Two ranges that are both probed, or both announced, do not both stay or both go; if each station
has received what the other has sent, no address is announced by both. -/
structure Settled (stations : Stations) : Prop where
  probes : ∀ range ∈ stations.ranges .first, ∀ other ∈ stations.ranges .second, range.Meets other →
    range.state = .probe → other.state = .probe → stations.Yields MAAP_PROBE range other
  announces : ∀ range ∈ stations.ranges .first, ∀ other ∈ stations.ranges .second, range.Meets other →
    range.state = .defend → other.state = .defend → stations.Yields MAAP_ANNOUNCE range other
  received : (∀ side, stations.toward side = []) → ∀ range ∈ stations.ranges .first,
    ∀ other ∈ stations.ranges .second, range.Meets other → ¬(range.state = .defend ∧ other.state = .defend)

/-- What a delivered message does: a PROBE is answered by its DEFENDs, and a DEFEND makes the range restart
that probes the addresses asked for, and no other. -/
structure FrameRight (stations : Stations) (side : Side) (frame : MaapFrame) (sent : List MaapOutput) : Prop where
  received : ∀ range env, Received (Restarts (stations.mac side) frame.src frame.pdu frame.ethertype range)
    (maapNetReceive (stations.port side) (stations.mac side) frame.src frame.pdu frame.ethertype range env)
    (stations.port side) (stations.mac side) frame.src frame.pdu range env
  probe : frame.pdu.messageType = MAAP_PROBE → ∀ output ∈ sent, ∃ range ∈ stations.ranges side,
    output.AnswersBy range frame.src frame.pdu
  defend : frame.pdu.messageType = MAAP_DEFEND → ∀ range ∈ stations.ranges side, range.state = .probe →
    Answered frame.pdu range = true → Restarts (stations.mac side) frame.src frame.pdu frame.ethertype range = true
  asked : frame.pdu.messageType = MAAP_DEFEND → ∀ range ∈ stations.ranges side,
    Restarts (stations.mac side) frame.src frame.pdu frame.ethertype range = true → Answered frame.pdu range = true
  once : frame.pdu.messageType = MAAP_DEFEND → ((stations.ranges side).filter
    (Restarts (stations.mac side) frame.src frame.pdu frame.ethertype)).length ≤ 1

def StepRight (stations : Stations) (input : StationsInput) : Prop :=
  ∀ side position frame, input = .deliver side position → (stations.toward side)[position]? = some frame →
    stations.FrameRight side frame ((stations.arrived side position).sends side (stations.receives side frame))

/-- Whenever a DEFEND is delivered, at most one range of the station has the addresses that it names. -/
def Lone (stations : Stations) (input : StationsInput) : Prop :=
  ∀ side position frame, input = .deliver side position → (stations.toward side)[position]? = some frame →
    frame.pdu.messageType = MAAP_DEFEND → ((stations.ranges side).filter (Answered frame.pdu)).length ≤ 1

end Stations

section Frames
variable {port : Nat} {src dst : MacAddress} {outputs : List MaapOutput} {frame : MaapFrame}

theorem Side.eq_or_other (side one : Side) : one = side ∨ one = side.other := by
  cases side <;> cases one <;> simp [other]

theorem Side.other_ne (side : Side) : side.other ≠ side := by
  cases side <;> simp [other]

@[simp] theorem Side.other_other (side : Side) : side.other.other = side := by
  cases side <;> rfl

private theorem mem_frames : frame ∈ frames port src dst outputs ↔ frame.src = src ∧ ∃ range target,
    (target = MAAP_MULTICAST_ADDR ∨ target = dst) ∧
      .transmit port range target frame.ethertype frame.pdu ∈ outputs := by
  unfold frames
  rw [mem_filterMap]
  constructor
  · rintro ⟨output,member,found⟩
    cases output with
    | transmit origin range target ethertype pdu =>
      dsimp only at found
      split at found
      next here =>
        cases found
        exact ⟨rfl,range,target,here.2,here.1 ▸ member⟩
      · cases found
    | createResponse | deleteResponse | indication | chosen => cases found
  · rintro ⟨rfl,range,target,heard,member⟩
    exact ⟨_,member,if_pos ⟨rfl,heard⟩⟩

private theorem cast_frames {range : MaapRange} {messageType : Nat} (sends : range.cast port messageType ∈ outputs) :
    ⟨src,ETHERTYPE_AVTP,range.message messageType⟩ ∈ frames port src dst outputs :=
  mem_frames.mpr ⟨rfl,range.rangeId,_,.inl rfl,sends⟩

end Frames

/-- A range that is announced at the lower station, and one that meets it at the upper one: some message that is on its
way will tell. -/
inductive Covered (down up : List MaapFrame) (range other : MaapRange) : Prop where
  | announce {frame : MaapFrame} (flying : frame ∈ up) (told : frame.pdu = range.message MAAP_ANNOUNCE)
  | probe {frame : MaapFrame} (flying : frame ∈ down) (told : frame.pdu = other.message MAAP_PROBE)
  | defend {frame : MaapFrame} (flying : frame ∈ up) (told : frame.pdu.messageType = MAAP_DEFEND)
      (start : frame.pdu.requestedStartAddress = other.startMacAddr)
      (count : frame.pdu.requestedCount.toNat = other.macCount)

section Messages
variable {range other : MaapRange} {src mac : MacAddress} {messageType : Nat} {pdu : MaapPdu} {ethertype : UInt16}

theorem MaapRange.Meets.symm (meet : range.Meets other) : other.Meets range := by
  unfold MaapRange.Meets at meet ⊢
  rw [Set.inter_comm]
  exact meet

private theorem meets_congr {old : MaapRange} (start : range.startMacAddr = old.startMacAddr)
    (count : range.macCount = old.macCount) : range.Meets other ↔ old.Meets other := by
  unfold MaapRange.Meets MaapRange.addresses
  rw [start,count]

private theorem message_congr {old : MaapRange} (start : range.startMacAddr = old.startMacAddr)
    (count : range.macCount = old.macCount) : range.message messageType = old.message messageType := by
  unfold MaapRange.message
  rw [start,count]

private theorem conflicting_message (live : range.Live) (lives : other.Live) :
    Conflicting (range.message messageType) other = true ↔ range.Meets other := by
  have exact' : Exact other.startMacAddr other.macCount range.startMacAddr (UInt16.ofNat range.macCount).toNat :=
    (exact_iff ((UInt16.toNat_lt _).trans (by decide))).mpr
      (.inl ⟨lives.some.ne',by rw [live.count_toNat]; exact live.some.ne'⟩)
  have found := exact'.found
  rw [live.count_toNat] at found
  unfold Conflicting MaapRange.Meets
  rw [Set.inter_comm]
  change (areRangesInConflict _ _ _ (UInt16.ofNat range.macCount).toNat).isSome = true ↔ _
  rw [live.count_toNat]
  exact found

private theorem compare_asymm (lower : maapCompareMac mac src = true) : maapCompareMac src mac = false := by
  unfold maapCompareMac at lower ⊢
  rw [decide_eq_true_eq] at lower
  rw [decide_eq_false_iff_not]
  exact lt_asymm lower

private theorem compare_total (apart : mac ≠ src) : maapCompareMac mac src = true ∨ maapCompareMac src mac = true := by
  unfold maapCompareMac
  rw [decide_eq_true_eq,decide_eq_true_eq]
  rcases lt_trichotomy mac.reverseMacValue src.reverseMacValue with lower | same | upper
  · exact .inl lower
  · exact absurd (MacAddress.reverseMacValue_injective same) apart
  · exact .inr upper

private theorem compare_ne (apart : mac ≠ src) : maapCompareMac mac src ≠ maapCompareMac src mac := by
  rcases compare_total apart with lower | upper
  · rw [lower,compare_asymm lower]
    decide
  · rw [upper,compare_asymm upper]
    decide

private theorem probe_restarts (state : range.state = .probe) :
    Restarts mac src (other.message MAAP_PROBE) ETHERTYPE_AVTP range =
      (Conflicting (other.message MAAP_PROBE) range && !maapCompareMac mac src) := by
  unfold Restarts
  rw [if_pos (show (other.message MAAP_PROBE).messageType = MAAP_PROBE by rfl),state]
  rfl

private theorem announce_restarts : Restarts mac src (other.message MAAP_ANNOUNCE) ETHERTYPE_AVTP range =
    ((range.state = .probe || range.state = .defend && !maapCompareMac mac src) &&
      Conflicting (other.message MAAP_ANNOUNCE) range) := by
  have announce : (other.message MAAP_ANNOUNCE).messageType ≠ MAAP_PROBE := show MAAP_ANNOUNCE ≠ MAAP_PROBE by decide
  unfold Restarts
  rfl

theorem upper_announced (live : range.Live) (lives : other.Live) (meet : range.Meets other)
    (upper : maapCompareMac mac src = false) :
    Restarts mac src (range.message MAAP_ANNOUNCE) ETHERTYPE_AVTP other = true := by
  rw [announce_restarts,(conflicting_message live lives).mpr meet,upper]
  cases state : other.state with
  | initial => exact absurd state lives.begun
  | probe | defend => rfl

theorem upper_defended (lives : other.Live) (proper : pdu.Proper ethertype) (told : pdu.messageType = MAAP_DEFEND)
    (start : pdu.requestedStartAddress = other.startMacAddr) (count : pdu.requestedCount.toNat = other.macCount)
    (upper : maapCompareMac mac src = false) : Restarts mac src pdu ethertype other = true := by
  have answered : Answered pdu other = true := decide_eq_true ⟨start.symm,count.symm⟩
  unfold Restarts
  rw [proper.1,proper.2.1,told,if_neg (by decide),if_neg (by decide),if_pos rfl,answered,upper]
  cases state : other.state with
  | initial => exact absurd state lives.begun
  | probe | defend => rfl

end Messages

namespace Stations

structure Coherent (stations : Stations) : Prop where
  apart : stations.mac .first ≠ stations.mac .second
  inside : ∀ side, stations.port side < (stations.maap side).portMax
  live : ∀ side, (stations.maap side).Live
  flying : ∀ side, ∀ frame ∈ stations.toward side, frame.src = stations.mac side.other ∧ frame.pdu.Proper frame.ethertype
  covered : ∀ side, maapCompareMac (stations.mac side) (stations.mac side.other) = true →
    ∀ range ∈ stations.ranges side, range.state = .defend → ∀ other ∈ stations.ranges side.other, range.Meets other →
      Covered (stations.toward side) (stations.toward side.other) range other

section Turns
variable {stations : Stations} {side : Side} {rest : List MaapFrame} {input : MaapInput} {sent : List MaapOutput}
  {heard : Option MaapFrame}

theorem Coherent.settled (coherent : stations.Coherent) : stations.Settled where
  probes range member other present meet state again := by
    have live := coherent.live .first _ range member
    have lives := coherent.live .second _ other present
    unfold Yields
    rw [probe_restarts state,probe_restarts again,(conflicting_message lives live).mpr meet.symm,
      (conflicting_message live lives).mpr meet,Bool.true_and,Bool.true_and]
    intro same
    exact compare_ne coherent.apart (Bool.not_inj same)
  announces range member other present meet state again := by
    have live := coherent.live .first _ range member
    have lives := coherent.live .second _ other present
    unfold Yields
    rw [announce_restarts,announce_restarts,state,again,(conflicting_message lives live).mpr meet.symm,
      (conflicting_message live lives).mpr meet,Bool.and_true,Bool.and_true]
    intro same
    exact compare_ne coherent.apart (Bool.not_inj same)
  received empty range member other present meet := by
    rintro ⟨state,again⟩
    have none {down up : List MaapFrame} {range other : MaapRange} (down' : down = []) (up' : up = []) :
        ¬Covered down up range other := by
      subst down' up'
      intro covered
      cases covered with
      | announce flying | probe flying | defend flying => exact absurd flying not_mem_nil
    rcases compare_total coherent.apart with lower | upper
    · exact none (empty _) (empty _) (coherent.covered .first lower range member state other present meet)
    · exact none (empty _) (empty _) (coherent.covered .second upper other present again range member meet.symm)

def turn (side : Side) (rest : List MaapFrame) (input : MaapInput) (stations : Stations) : Stations :=
  Stations.takes side input {stations with toward := update stations.toward side rest}

/-- What an input, or a message that is taken from those on their way, does to a station. -/
structure Turning (stations : Stations) (side : Side) (rest : List MaapFrame) (heard : Option MaapFrame)
    (input : MaapInput) (sent : List MaapOutput) : Prop where
  acted : Acted (stations.maap side) (maapStep input (stations.maap side)) sent
  left : rest ⊆ stations.toward side
  lost : ∀ frame ∈ stations.toward side, frame ∈ rest ∨ frame ∈ heard
  moves : ∀ new ∈ ((maapStep input (stations.maap side)).port (stations.port side)).range,
    Probes (stations.port side) new sent ∨ ∃ old ∈ stations.ranges side, Stays (stations.port side) old new sent ∧
      ∀ frame ∈ heard, Restarts (stations.mac side) frame.src frame.pdu frame.ethertype old = false
  answered : ∀ frame ∈ heard, frame.pdu.messageType = MAAP_PROBE → frame.pdu.Proper frame.ethertype →
    ∀ range ∈ stations.ranges side, range.state = .defend → Conflicting frame.pdu range = true →
      ∃ answer rangeId, answer.messageType = MAAP_DEFEND ∧
        answer.requestedStartAddress = frame.pdu.requestedStartAddress ∧
        answer.requestedCount = frame.pdu.requestedCount ∧
        .transmit (stations.port side) rangeId frame.src ETHERTYPE_AVTP answer ∈ sent

private theorem turn_maap : (stations.turn side rest input).maap side = maapStep input (stations.maap side) :=
  update_self ..

private theorem turn_maap_other : (stations.turn side rest input).maap side.other = stations.maap side.other :=
  update_of_ne side.other_ne ..

private theorem turn_toward : (stations.turn side rest input).toward side = rest :=
  (update_of_ne side.other_ne.symm ..).trans (update_self ..)

private theorem turn_toward_other (acted : Acted (stations.maap side) (maapStep input (stations.maap side)) sent) :
    (stations.turn side rest input).toward side.other = stations.toward side.other ++
      frames (stations.port side) (stations.mac side) (stations.mac side.other) sent := by
  have sends : Stations.sends side input {stations with toward := update stations.toward side rest} =
      sent := by
    unfold sends
    rw [acted.outputs,drop_left]
  refine (update_self ..).trans ?_
  rw [sends]
  exact congrArg (· ++ _) (update_of_ne side.other_ne ..)

private theorem turn_ranges : (stations.turn side rest input).ranges side =
    ((maapStep input (stations.maap side)).port (stations.port side)).range :=
  congrArg (fun maap => (MaapCtx.port maap (stations.port side)).range) turn_maap

private theorem turn_ranges_other : (stations.turn side rest input).ranges side.other = stations.ranges side.other :=
  congrArg (fun maap => (MaapCtx.port maap (stations.port side.other)).range) turn_maap_other

theorem turn_mac (acted : Acted (stations.maap side) (maapStep input (stations.maap side)) sent) (one : Side) :
    (stations.turn side rest input).mac one = stations.mac one := by
  rcases side.eq_or_other one with rfl | rfl
  · refine (congrArg (fun maap => (MaapCtx.port maap (stations.port one)).localPhysicalMac) turn_maap).trans ?_
    exact (acted.ports (stations.port one)).mac
  · exact congrArg (fun maap => (MaapCtx.port maap (stations.port side.other)).localPhysicalMac) turn_maap_other

section
variable (coherent : stations.Coherent)
include coherent

section
variable (turning : stations.Turning side rest heard input sent)
include turning

theorem covered_lower
    (lower : maapCompareMac (stations.mac side) (stations.mac side.other) = true) {new other : MaapRange}
    (member : new ∈ ((maapStep input (stations.maap side)).port (stations.port side)).range)
    (defended : new.state = .defend) (present : other ∈ stations.ranges side.other) (meet : new.Meets other) :
    Covered rest (stations.toward side.other ++
      frames (stations.port side) (stations.mac side) (stations.mac side.other) sent) new other := by
  rcases turning.moves new member with probes | ⟨old,known,stays,keeps⟩
  · exact absurd (probes.state.symm.trans defended) (by decide)
  rcases stays.announced defended with before | announced
  case inr => exact .announce (mem_append_right _ (cast_frames announced)) rfl
  have meets := (meets_congr stays.start stays.count).mp meet
  have lives := coherent.live side.other _ other present
  have live := coherent.live side _ old known
  cases coherent.covered side lower old known before other present meets with
  | announce flying told =>
    exact .announce (mem_append_left _ flying) (told.trans (message_congr stays.start stays.count).symm)
  | defend flying told start count => exact .defend (mem_append_left _ flying) told start count
  | @probe frame flying told =>
    rcases turning.lost frame flying with left | taken
    · exact .probe left told
    -- the PROBE is received now, and the range defends what it asks for
    obtain ⟨src,proper⟩ := coherent.flying side frame flying
    have conflicting : Conflicting frame.pdu old = true := by
      rw [told]
      exact (conflicting_message lives live).mpr meets.symm
    obtain ⟨answer,rangeId,type,start,count,member⟩ :=
      turning.answered frame taken (congrArg MaapPdu.messageType told) proper old known before conflicting
    rw [told] at start count
    have answers : (⟨stations.mac side,ETHERTYPE_AVTP,answer⟩ : MaapFrame) ∈
        frames (stations.port side) (stations.mac side) (stations.mac side.other) sent :=
      mem_frames.mpr ⟨rfl,rangeId,frame.src,.inr src,member⟩
    refine .defend (mem_append_right _ answers) type start ?_
    exact (congrArg UInt16.toNat count).trans lives.count_toNat

theorem covered_upper
    (upper : maapCompareMac (stations.mac side.other) (stations.mac side) = true) {range new : MaapRange}
    (present : range ∈ stations.ranges side.other) (defended : range.state = .defend)
    (member : new ∈ ((maapStep input (stations.maap side)).port (stations.port side)).range) (meet : range.Meets new) :
    Covered (stations.toward side.other ++
      frames (stations.port side) (stations.mac side) (stations.mac side.other) sent) rest range new := by
  rcases turning.moves new member with probes | ⟨old,known,stays,keeps⟩
  · exact .probe (mem_append_right _ (cast_frames probes.probe)) rfl
  have meets := ((meets_congr stays.start stays.count).mp meet.symm).symm
  have live := coherent.live side.other _ range present
  have lives := coherent.live side _ old known
  have later := compare_asymm upper
  have covered := coherent.covered side.other (by rw [Side.other_other]; exact upper) range present defended old
    (by rw [Side.other_other]; exact known) meets
  rw [Side.other_other] at covered
  cases covered with
  | probe flying told =>
    exact .probe (mem_append_left _ flying) (told.trans (message_congr stays.start stays.count).symm)
  | @announce frame flying told =>
    rcases turning.lost frame flying with left | taken
    · exact .announce left told
    -- the range would have restarted
    obtain ⟨src,proper⟩ := coherent.flying side frame flying
    have restarts := @upper_announced range old frame.src _ live lives meets (src ▸ later)
    rw [← told,← proper.1] at restarts
    exact absurd (restarts.symm.trans (keeps frame taken)) (by decide)
  | @defend frame flying told start count =>
    rcases turning.lost frame flying with left | taken
    · exact .defend left told (start.trans stays.start.symm) (count.trans stays.count.symm)
    obtain ⟨src,proper⟩ := coherent.flying side frame flying
    have restarts := @upper_defended old frame.src _ frame.pdu frame.ethertype lives proper told start count
      (src ▸ later)
    exact absurd (restarts.symm.trans (keeps frame taken)) (by decide)

private theorem turn_coherent : (stations.turn side rest input).Coherent := by
  have acted := turning.acted
  have mac := @turn_mac stations side rest input sent acted
  refine ⟨?_,?_,?_,?_,?_⟩
  · rw [mac,mac]
    exact coherent.apart
  · intro one
    rcases side.eq_or_other one with rfl | rfl
    · rw [turn_maap,acted.portMax]
      exact coherent.inside one
    · rw [turn_maap_other]
      exact coherent.inside side.other
  · intro one
    rcases side.eq_or_other one with rfl | rfl
    · rw [turn_maap]
      exact fun index => (acted.ports index).live
    · rw [turn_maap_other]
      exact coherent.live side.other
  · intro one frame member
    rw [mac]
    rcases side.eq_or_other one with rfl | rfl
    · rw [turn_toward] at member
      exact coherent.flying one frame (turning.left member)
    · rw [turn_toward_other acted] at member
      rcases mem_append.mp member with early | added
      · exact coherent.flying side.other frame early
      · obtain ⟨src,_,_,_,sends⟩ := mem_frames.mp added
        rw [Side.other_other]
        exact ⟨src,acted.proper _ sends⟩
  · intro one lower range member defended other present meet
    rw [mac,mac] at lower
    rcases side.eq_or_other one with rfl | rfl
    · rw [turn_ranges] at member
      rw [turn_ranges_other] at present
      rw [turn_toward,turn_toward_other acted]
      exact covered_lower coherent turning lower member defended present meet
    · rw [Side.other_other] at lower present ⊢
      rw [turn_ranges_other] at member
      rw [turn_ranges] at present
      rw [turn_toward,turn_toward_other acted]
      exact covered_upper coherent turning lower member defended present meet

end

theorem own_turns (side : Side) (input : MaapInput) :
    ∃ sent, stations.Turning side (stations.toward side) none input sent := by
  obtain ⟨sent,acted⟩ := maapStep_acted input (coherent.live side)
  refine ⟨sent,acted,List.Subset.refl _,fun _ member => .inl member,fun new member => ?_,
    fun frame absent => absurd absent (Option.not_mem_none _)⟩
  refine ((acted.ports _).moves new member).imp_right ?_
  rintro ⟨old,known,stays⟩
  exact ⟨old,known,stays,fun frame absent => absurd absent (Option.not_mem_none _)⟩

theorem deliver_turns {position : Nat} {frame : MaapFrame} (found : (stations.toward side)[position]? = some frame) :
    ∃ sent, stations.Turning side ((stations.toward side).eraseIdx position) (some frame)
        (stations.receives side frame) sent ∧
      Each (Heard (stations.port side) (stations.mac side) frame.src frame.ethertype frame.pdu) (stations.ranges side)
        ((maapStep (stations.receives side frame) (stations.maap side)).port (stations.port side)).range sent := by
  obtain ⟨sent,acted,each⟩ := maapStep_heard (coherent.live side) (coherent.inside side)
  refine ⟨sent,⟨acted,(eraseIdx_sublist ..).subset,fun other member => ?_,fun new member => ?_,?_⟩,each⟩
  · obtain ⟨place,at'⟩ := mem_iff_getElem?.mp member
    by_cases here : place = position
    · rw [here,found] at at'
      exact .inr at'
    · exact .inl (mem_eraseIdx_iff_getElem?.mpr ⟨place,here,at'⟩)
  · obtain ⟨old,known,part,subset,heard⟩ := each.origin new member
    rcases heard.kept with probes | keeps
    · exact .inl (probes.mono subset)
    rcases heard.moves with probes | stays
    · exact .inl (probes.mono subset)
    · refine .inr ⟨old,known,stays.mono subset,fun other taken => ?_⟩
      rw [← Option.some.inj taken]
      exact keeps
  · intro other taken probe proper range member defended conflicting
    obtain rfl := Option.some.inj taken
    obtain ⟨new,part,subset,heard⟩ := each.result range member
    obtain ⟨answer,type,start,count,sends⟩ := heard.answered probe proper.1 proper.2.1 defended conflicting
    exact ⟨answer,range.rangeId,type,start,count,subset sends⟩

end

private theorem restarts_answered {localMac src : MacAddress} {pdu : MaapPdu} {ethertype : UInt16} {range : MaapRange}
    (told : pdu.messageType = MAAP_DEFEND) (restarts : Restarts localMac src pdu ethertype range = true) :
    Answered pdu range = true := by
  unfold Restarts at restarts
  rw [told,if_neg (by decide),if_neg (by decide),if_pos rfl] at restarts
  simp only [Bool.and_eq_true] at restarts
  exact restarts.2.2.2

theorem deliver_right (coherent : stations.Coherent) {position : Nat} {frame : MaapFrame}
    (found : (stations.toward side)[position]? = some frame)
    (lone : frame.pdu.messageType = MAAP_DEFEND → ((stations.ranges side).filter (Answered frame.pdu)).length ≤ 1)
    (each : Each (Heard (stations.port side) (stations.mac side) frame.src frame.ethertype frame.pdu)
      (stations.ranges side)
      ((maapStep (stations.receives side frame) (stations.maap side)).port (stations.port side)).range sent) :
    stations.FrameRight side frame sent := by
  obtain ⟨src,proper⟩ := coherent.flying side frame (mem_of_getElem? found)
  refine ⟨fun range env => maapNetReceive_received _ env _,?_,?_,?_,?_⟩
  · intro probe output member
    obtain ⟨range,known,new,part,own,heard⟩ := each.cause output member
    have some := proper.2.2 (by rw [probe]; decide)
    exact ⟨range,known,heard.answers probe some output own⟩
  · intro told range member state answered
    unfold Restarts
    rw [proper.1,proper.2.1,told,if_neg (by decide),if_neg (by decide),if_pos rfl,answered,state]
    rfl
  · exact fun told range member restarts => restarts_answered told restarts
  · intro told
    refine le_trans ?_ (lone told)
    rw [← countP_eq_length_filter,← countP_eq_length_filter]
    exact countP_mono_left fun range _ restarts => restarts_answered told restarts

theorem step_kept (input : StationsInput) (coherent : stations.Coherent) (lone : stations.Lone input) :
    (step input stations).Coherent ∧ stations.StepRight input := by
  cases input with
  | own side input =>
    obtain ⟨sent,turning⟩ := own_turns coherent side input
    have next : step (.own side input) stations = stations.turn side (stations.toward side) input := by
      unfold step turn
      rw [update_eq_self]
    rw [next]
    exact ⟨turn_coherent coherent turning,fun _ _ _ own => nomatch own⟩
  | deliver side position =>
    cases found : (stations.toward side)[position]? with
    | none =>
      have next : step (.deliver side position) stations = stations := by
        unfold step
        dsimp only
        rw [found]
      rw [next]
      refine ⟨coherent,fun other place frame here at' => ?_⟩
      cases here
      exact nomatch found.symm.trans at'
    | some frame =>
      obtain ⟨sent,turning,each⟩ := deliver_turns coherent found
      have next : step (.deliver side position) stations =
          stations.turn side ((stations.toward side).eraseIdx position) (stations.receives side frame) := by
        unfold step
        dsimp only
        rw [found]
        rfl
      rw [next]
      refine ⟨turn_coherent coherent turning,fun other place again here at' => ?_⟩
      cases here
      obtain rfl := Option.some.inj (found.symm.trans at')
      have sends : (stations.arrived side position).sends side (stations.receives side frame) = sent := by
        change List.drop (stations.maap side).env.outputs.length
          (maapStep (stations.receives side frame) (stations.maap side)).env.outputs = sent
        rw [turning.acted.outputs,drop_left]
      rw [sends]
      exact deliver_right coherent found (lone side position frame rfl found) each

end Turns

section Runs
variable {port portMax : Side → Nat} {logicalPort : Side → Nat → UInt16} {localPhysicalMac : Side → Nat → MacAddress}
  {random : Side → Nat → Nat}

theorem begun_coherent (inside : ∀ side, port side < portMax side)
    (apart : localPhysicalMac .first (port .first) ≠ localPhysicalMac .second (port .second)) :
    (begun port portMax logicalPort localPhysicalMac random).Coherent :=
  ⟨apart,inside,fun _ _ _ absent => absurd absent not_mem_nil,
    fun _ _ absent => absurd absent not_mem_nil,fun _ _ _ absent => absurd absent not_mem_nil⟩

/-- In every run in which no DEFEND meets two ranges of one station with the addresses that it names, the
stations settle who has which addresses. -/
theorem stations_settle (inside : ∀ side, port side < portMax side)
    (apart : localPhysicalMac .first (port .first) ≠ localPhysicalMac .second (port .second))
    (inputs : List StationsInput)
    (lone : Steps step Lone inputs (begun port portMax logicalPort localPhysicalMac random)) :
    Steps step StepRight inputs (begun port portMax logicalPort localPhysicalMac random) ∧
      (run step inputs (begun port portMax logicalPort localPhysicalMac random)).Settled := by
  have coherent := @begun_coherent port portMax logicalPort localPhysicalMac random inside apart
  constructor
  · exact steps_kept step (fun _ input coherent lone => step_kept input coherent lone) coherent lone
  · have reached : (run step inputs (begun port portMax logicalPort localPhysicalMac random)).Coherent :=
      @run_invariant _ _ step Lone Coherent (fun _ input coherent lone => (step_kept input coherent lone).1) _ _
        coherent lone
    exact reached.settled

def twoStations : Stations :=
  begun (fun _ => 0) (fun _ => 1) (fun _ _ => 0)
    (fun side _ => match side with
      | .first => ⟨0,0,0,0,0,1⟩
      | .second => ⟨0,0,0,0,0,2⟩)
    fun _ _ => 0

def asks (rangeId : UInt32) (startMacAddr : MacAddress) : MaapInput :=
  .create false 1 1 0 rangeId 1 startMacAddr true true

def defendedInputs : List StationsInput :=
  [.own .first (asks 7 lowAddress),.own .first (.probeTimer 0 7),.own .first (.probeTimer 0 7),
    .own .first (.probeTimer 0 7)]

def answeredInputs : List StationsInput :=
  [.own .second (asks 1 lowAddress),.deliver .first 0,.deliver .second 5]

private theorem lone_own {stations : Stations} {side : Side} {input : MaapInput} : stations.Lone (.own side input) :=
  fun _ _ _ own => nomatch own

private theorem lone_deliver {stations : Stations} {side : Side} {position : Nat} {frame : MaapFrame}
    (found : (stations.toward side)[position]? = some frame)
    (few : frame.pdu.messageType = MAAP_DEFEND → ((stations.ranges side).filter (Answered frame.pdu)).length ≤ 1) :
    stations.Lone (.deliver side position) := by
  intro other place again here at' told
  cases here
  obtain rfl := Option.some.inj (found.symm.trans at')
  exact few told

def defendFrame : MaapFrame :=
  ⟨⟨0,0,0,0,0,1⟩,ETHERTYPE_AVTP,{initialPdu MAAP_DEFEND with
    requestedStartAddress := lowAddress
    requestedCount := 1
    conflictStartAddress := lowAddress
    conflictCount := 1}⟩

theorem answered_settle :
    Steps step StepRight (defendedInputs ++ answeredInputs) twoStations ∧
      (run step (defendedInputs ++ answeredInputs) twoStations).Settled := by
  refine stations_settle (fun _ => Nat.zero_lt_one) (by decide) _ ((steps_append ..).mpr ⟨?_,lone_own,?_,?_,trivial⟩)
  · exact ⟨lone_own,lone_own,lone_own,lone_own,trivial⟩
  · refine @lone_deliver _ _ _ ⟨⟨0,0,0,0,0,2⟩,ETHERTYPE_AVTP,(probed 1 lowAddress).message MAAP_PROBE⟩
      ?_ fun no => absurd no (by decide)
    decide +kernel
  · refine @lone_deliver _ _ _ defendFrame ?_ fun _ => ?_
    · decide +kernel
    · decide +kernel

def sameInputs : List StationsInput :=
  [.own .second (asks 1 lowAddress),.own .second (asks 2 highAddress),
    .own .second (.receive 0 ETHERTYPE_AVTP ⟨0,0,0,0,0,3⟩ {highProbe with messageType := MAAP_ANNOUNCE}),
    .deliver .first 0]

theorem same_restart : ¬∀ (port portMax : Side → Nat) (logicalPort : Side → Nat → UInt16)
    (localPhysicalMac : Side → Nat → MacAddress) (random : Side → Nat → Nat) (inputs : List StationsInput),
    (∀ side, port side < portMax side) →
    localPhysicalMac .first (port .first) ≠ localPhysicalMac .second (port .second) →
    Steps step StepRight inputs (begun port portMax logicalPort localPhysicalMac random) ∧
      (run step inputs (begun port portMax logicalPort localPhysicalMac random)).Settled := by
  intro settle
  have right : Steps step StepRight (defendedInputs ++ sameInputs ++ [.deliver .second 5]) twoStations :=
    (settle _ _ _ _ _ _ (fun _ => Nat.zero_lt_one) (by decide)).1
  have last := ((steps_append ..).mp right).2.1
  have once := (last .second 5 defendFrame rfl (by decide +kernel)).once rfl
  exact absurd once (by decide +kernel)

end Runs

end Stations

end Genavb.Maap
