import Genavb.Avtp.Iec61883
import Mathlib.Data.List.Forall2
import Mathlib.Tactic.Ring

/-! The timestamps of an IEC 61883-6 stream (`61883_iidc.c`): the frames that the talker gives one are those at which
the listener places it, in every run and after any loss. -/
namespace Genavb.Avtp
open Genavb.Support StreamRx
open BitVec (ofNat_add toNat_add toNat_ofNat toNat_sub)
open CipPacket

def nextMark (interval frame : Nat) : Nat := (frame + interval - 1) / interval * interval

section Marks
variable {interval frame mark count : Nat}

private theorem nextMark_spec (positive : 0 < interval) : interval ∣ nextMark interval frame ∧
    frame ≤ nextMark interval frame ∧ nextMark interval frame < frame + interval := by
  have whole := Nat.div_add_mod (frame + interval - 1) interval
  have part := Nat.mod_lt (frame + interval - 1) positive
  rw [Nat.mul_comm] at whole
  rw [nextMark]
  refine ⟨Nat.dvd_mul_left _ _,?_,?_⟩ <;> omega

private theorem nextMark_unique (positive : 0 < interval) (divides : interval ∣ mark) (after : frame ≤ mark)
    (near : mark < frame + interval) : nextMark interval frame = mark := by
  obtain ⟨other,before,close⟩ := @nextMark_spec _ frame positive
  rcases Nat.lt_trichotomy (nextMark interval frame) mark with less | same | more
  · have gap := Nat.le_of_dvd (Nat.sub_pos_of_lt less) (Nat.dvd_sub divides other)
    omega
  · exact same
  · have gap := Nat.le_of_dvd (Nat.sub_pos_of_lt more) (Nat.dvd_sub other divides)
    omega

private theorem nextMark_add (positive : 0 < interval) (short : count ≤ interval) : nextMark interval (frame + count) =
    if nextMark interval frame < frame + count then nextMark interval frame + interval else nextMark interval frame := by
  obtain ⟨divides,after,near⟩ := @nextMark_spec _ frame positive
  split
  · apply nextMark_unique positive
    · exact (Nat.dvd_add_right divides).mpr (Nat.dvd_refl interval)
    · omega
    · omega
  · apply nextMark_unique positive divides
    · omega
    · omega

theorem nextMark_mono {other : Nat} (before : frame ≤ other) : nextMark interval frame ≤ nextMark interval other := by
  apply Nat.mul_le_mul_right
  apply Nat.div_le_div_right
  omega

theorem nextMark_lt_iff (positive : 0 < interval) : nextMark interval frame < frame + count ↔
    ∃ mark, frame ≤ mark ∧ mark < frame + count ∧ interval ∣ mark := by
  obtain ⟨divides,after,near⟩ := @nextMark_spec _ frame positive
  constructor
  · exact fun inside => ⟨_,after,inside,divides⟩
  · rintro ⟨mark,later,inside,other⟩
    by_cases close : mark < frame + interval
    · rw [nextMark_unique positive other later close]
      exact inside
    · omega

def marks (interval frame count : Nat) : Nat := (nextMark interval (frame + count) - nextMark interval frame) / interval

theorem marks_eq (positive : 0 < interval) :
    marks interval frame count = (count + interval - 1 - (nextMark interval frame - frame)) / interval := by
  obtain ⟨_,after,near⟩ := @nextMark_spec _ frame positive
  have whole : nextMark interval (frame + count) - nextMark interval frame =
      ((frame + count + interval - 1) / interval - (frame + interval - 1) / interval) * interval := by
    rw [Nat.sub_mul]
    rfl
  rw [marks,whole,Nat.mul_div_cancel _ positive,← Nat.sub_mul_div]
  change (_ - interval * ((frame + interval - 1) / interval)) / interval = _
  rw [Nat.mul_comm]
  change (_ - nextMark interval frame) / interval = _
  congr 1
  omega

private theorem marks_add (positive : 0 < interval) {more : Nat} (short : count ≤ interval) :
    marks interval frame (count + more) =
      (if nextMark interval frame < frame + count then 1 else 0) + marks interval (frame + count) more := by
  have mono := @nextMark_mono interval (frame + count) (frame + count + more) (by omega)
  rw [marks,marks,← Nat.add_assoc]
  have step := @nextMark_add _ frame _ positive short
  split at step
  · rw [if_pos ‹_›]
    rw [step] at mono ⊢
    obtain ⟨gap,equal⟩ := Nat.exists_eq_add_of_le mono
    rw [equal]
    have first : nextMark interval frame + interval + gap - nextMark interval frame = gap + interval * 1 := by omega
    have second : nextMark interval frame + interval + gap - (nextMark interval frame + interval) = gap := by omega
    rw [first,second,Nat.add_mul_div_left _ _ positive,Nat.add_comm]
  · rw [if_neg ‹_›,step,Nat.zero_add]

end Marks

namespace Iec61883_6Stream
variable (config : Iec61883_6Stream)

private theorem sytInterval_eq : config.sytInterval = 2 ^ config.sytIntervalLn2 := by
  rw [sytInterval,Nat.one_shiftLeft]

private theorem sytInterval_pos : 0 < config.sytInterval := by
  rw [sytInterval_eq]
  exact Nat.two_pow_pos _

private theorem framesPerPacket_le : config.framesPerPacket ≤ config.sytInterval := by
  rw [sytInterval_eq]
  exact config.covers

private theorem sytInterval_dvd : config.sytInterval ∣ 256 := by
  rw [sytInterval_eq]
  exact Nat.pow_dvd_pow 2 config.divides

private theorem sytInterval_le : config.sytInterval ≤ 256 := Nat.le_of_dvd (by decide) config.sytInterval_dvd

private theorem framesInPacket_le (desc : MediaRxDesc config) : desc.framesInPacket ≤ config.framesPerPacket := by
  unfold MediaRxDesc.framesInPacket
  split
  · apply Nat.div_le_of_le_mul
    rw [Nat.mul_comm]
    exact desc.fits
  · exact Nat.le_refl _

end Iec61883_6Stream

section SytInterval
variable {framesPerPacket : Nat}

theorem sytIntervalLn2From_spec (left ln2 : Nat) (enough : framesPerPacket ≤ 2 ^ (ln2 + left)) :
    framesPerPacket ≤ 2 ^ sytIntervalLn2From framesPerPacket left ln2 ∧
      ∀ bound, ln2 ≤ bound → framesPerPacket ≤ 2 ^ bound → sytIntervalLn2From framesPerPacket left ln2 ≤ bound := by
  induction left generalizing ln2 with
  | zero => exact ⟨enough,fun _ below _ => below⟩
  | succ left ih =>
    rw [sytIntervalLn2From,Nat.one_shiftLeft]
    split
    next small =>
      obtain ⟨covers,least⟩ := ih (ln2 + 1) (by rw [Nat.add_right_comm]; exact enough)
      refine ⟨covers,fun bound below enough => least bound ?_ enough⟩
      apply Nat.lt_of_le_of_ne below
      rintro rfl
      exact absurd enough (Nat.not_le.mpr small)
    next large => exact ⟨Nat.not_lt.mp large,fun _ below _ => below⟩

private theorem sytIntervalLn2_spec (framesPerPacket : Nat) :
    framesPerPacket ≤ 2 ^ avtp61883_6SytIntervalLn2 framesPerPacket ∧ ∀ bound, SYT_INTERVAL_LN2 ≤ bound →
      framesPerPacket ≤ 2 ^ bound → avtp61883_6SytIntervalLn2 framesPerPacket ≤ bound := by
  apply sytIntervalLn2From_spec
  exact Nat.le_trans (Nat.le_of_lt Nat.lt_two_pow_self) (Nat.pow_le_pow_right (by decide) (Nat.le_add_left _ _))

def Iec61883_6Stream.ofFormat (format : Iec61883_6Format) (framesPerPacket : Nat) (checked : format.checkFormat = true)
    (few : framesPerPacket ≤ 256) : Iec61883_6Stream where
  format := format
  framesPerPacket := framesPerPacket
  sytIntervalLn2 := avtp61883_6SytIntervalLn2 framesPerPacket
  checked := checked
  covers := (sytIntervalLn2_spec framesPerPacket).1
  divides := (sytIntervalLn2_spec framesPerPacket).2 8 (by decide) few

end SytInterval

/-- A packet has a timestamp exactly if a frame at a multiple of the SYT interval is in it. -/
def Marked (config : Iec61883_6Stream) (packet : CipPacket) : Prop :=
  packet.timestamp.isSome = true ↔
    ∃ frame, packet.first ≤ frame ∧ frame < packet.first + packet.frames ∧ config.sytInterval ∣ frame

namespace CipTalker
variable {config : Iec61883_6Stream} {talker : CipTalker}

structure Sound (config : Iec61883_6Stream) (talker : CipTalker) : Prop where
  mediaCount : talker.mediaCount = BitVec.ofNat 32 talker.frames
  frameWithTs : talker.frameWithTs = BitVec.ofNat 32 (nextMark config.sytInterval talker.frames)
  dbc : talker.dbc = BitVec.ofNat 8 talker.frames

theorem Sound.reset (talker : CipTalker) : talker.streamTsReset.Sound config := by
  have zero : nextMark config.sytInterval 0 = 0 :=
    nextMark_unique config.sytInterval_pos (Nat.dvd_zero _) (Nat.le_refl 0) (by have := config.sytInterval_pos; omega)
  constructor
  · rfl
  · change (0 : Word) = BitVec.ofNat 32 (nextMark config.sytInterval 0)
    rw [zero]
    rfl
  · rfl

theorem toInt_gap {frame mark count : Nat} (after : frame ≤ mark) (near : mark < frame + 256) (short : count ≤ 256) :
    0 < (BitVec.ofNat 32 frame + BitVec.ofNat 32 count - BitVec.ofNat 32 mark).toInt ↔ mark < frame + count := by
  rw [BitVec.toInt_eq_toNat_cond,toNat_sub,toNat_add,toNat_ofNat,toNat_ofNat,
    toNat_ofNat]
  split <;> omega

theorem toNat_needed {frame mark count interval : Nat} (after : frame ≤ mark) (near : mark < frame + interval)
    (short : interval ≤ 256) (few : count ≤ 2 ^ 13) :
    ((BitVec.ofNat 32 frame - BitVec.ofNat 32 mark) + BitVec.ofNat 32 count + BitVec.ofNat 32 interval - 1).toNat =
      count + interval - 1 - (mark - frame) := by
  have one : (1 : Word).toNat = 1 := rfl
  simp only [toNat_sub,toNat_add,toNat_ofNat,one]
  omega

theorem Sound.tsBatch (sound : talker.Sound config) {rc : Nat} (few : rc ≤ NET_TX_BATCH) :
    (talker.tsBatch config rc).toNat = marks config.sytInterval talker.frames (rc * config.framesPerPacket) := by
  obtain ⟨_,after,near⟩ := @nextMark_spec _ talker.frames config.sytInterval_pos
  have interval := config.sytInterval_le
  have packets : rc * config.framesPerPacket ≤ NET_TX_BATCH * config.sytInterval :=
    Nat.mul_le_mul few config.framesPerPacket_le
  have sum := @toNat_needed talker.frames _ (rc * config.framesPerPacket) _ after near interval (by
    rw [NET_TX_BATCH] at packets
    omega)
  rw [CipTalker.tsBatch,sound.mediaCount,sound.frameWithTs,marks_eq config.sytInterval_pos]
  generalize BitVec.ofNat 32 talker.frames - _ + _ + _ - 1 = needed at sum ⊢
  have shifted : (needed >>> config.sytIntervalLn2).toNat = needed.toNat / config.sytInterval := by
    rw [BitVec.toNat_ushiftRight,Nat.shiftRight_eq_div_pow,config.sytInterval_eq]
  have small : needed.toNat / config.sytInterval ≤ NET_TX_BATCH := by
    apply Nat.le_of_lt_succ
    apply Nat.div_lt_of_lt_mul
    rw [sum,Nat.mul_succ,Nat.mul_comm config.sytInterval]
    omega
  split
  next exceeds =>
    have more := BitVec.lt_def.mp exceeds
    rw [shifted] at more
    exact absurd more (Nat.not_lt.mpr small)
  · rw [shifted,sum]

theorem Sound.getTs (sound : talker.Sound config) {count : Nat} (short : count ≤ config.framesPerPacket) :
    (0 < (talker.mediaCount + BitVec.ofNat 32 count - talker.frameWithTs).toInt) ↔
      nextMark config.sytInterval talker.frames < talker.frames + count := by
  obtain ⟨_,after,near⟩ := @nextMark_spec _ talker.frames config.sytInterval_pos
  have interval := config.sytInterval_le
  have packet := config.framesPerPacket_le
  rw [sound.mediaCount,sound.frameWithTs]
  exact toInt_gap after (by omega) (by omega)

theorem launch_frame (config : Iec61883_6Stream) (maxTransitTime : Word) (ts : List Word) (talker : CipTalker) :
    ∃ tsLaunch timePerPacket, talker.launch config maxTransitTime ts =
      {talker with tsLaunch := tsLaunch,timePerPacket := timePerPacket} := by
  unfold launch
  split
  · exact ⟨_,_,rfl⟩
  · exact ⟨_,talker.timePerPacket,rfl⟩

theorem sendPacket_spec (sound : talker.Sound config) (maxTransitTime : Word) (desc : MediaRxDesc config)
    (ts : List Word) : ∃ packet sent, talker.sendPacket config maxTransitTime desc ts = (packet,sent) ∧
    packet.first = talker.frames ∧ packet.frames = desc.framesInPacket ∧ packet.dbc = BitVec.ofNat 8 talker.frames ∧
    packet.timestamp = (if nextMark config.sytInterval talker.frames < talker.frames + desc.framesInPacket then
      some (ts.headD 0) else none) ∧
    sent.sent = talker.sent ∧ Sound config {sent with
      dbc := sent.dbc + BitVec.ofNat 8 desc.framesInPacket
      frames := sent.frames + desc.framesInPacket} ∧ sent.frames = talker.frames := by
  obtain ⟨tsLaunch,timePerPacket,launched⟩ := launch_frame config maxTransitTime ts talker
  have get := sound.getTs (config.framesInPacket_le desc)
  have mark := @nextMark_add _ talker.frames _ config.sytInterval_pos
    (Nat.le_trans (config.framesInPacket_le desc) config.framesPerPacket_le)
  unfold sendPacket
  rw [launched]
  simp only [decide_eq_true_eq,get]
  refine ⟨_,_,rfl,rfl,rfl,sound.dbc,rfl,rfl,⟨?_,?_,?_⟩,rfl⟩
  · change talker.mediaCount + _ = _
    rw [sound.mediaCount,ofNat_add]
  · change (if _ then talker.frameWithTs + _ else talker.frameWithTs) = _
    rw [mark,sound.frameWithTs]
    split
    · rw [ofNat_add]
    · rfl
  · change talker.dbc + _ = _
    rw [sound.dbc,ofNat_add]

structure Counted (config : Iec61883_6Stream) (packet : CipPacket) : Prop where
  dbc : packet.dbc = BitVec.ofNat 8 packet.first
  short : packet.frames ≤ config.framesPerPacket
  timestamp : packet.timestamp.isSome = true ↔ nextMark config.sytInterval packet.first < packet.first + packet.frames

theorem Counted.marked {packet : CipPacket} (counted : Counted config packet) : Marked config packet := by
  rw [Marked,← nextMark_lt_iff config.sytInterval_pos]
  exact counted.timestamp

private theorem framesInPacket_full {desc : MediaRxDesc config} (full : desc.isPartial = false) :
    desc.framesInPacket = config.framesPerPacket := by
  rw [MediaRxDesc.framesInPacket,full]
  rfl

theorem sendPackets_spec (maxTransitTime : Word) (desc : List (MediaRxDesc config)) (ts : List Word)
    (talker : CipTalker) (sound : talker.Sound config)
    (enough : marks config.sytInterval talker.frames (desc.length * config.framesPerPacket) ≤ ts.length) :
    (talker.sendPackets config maxTransitTime desc ts).2.Sound config ∧
    (talker.sendPackets config maxTransitTime desc ts).2.sent = talker.sent ∧
    (∀ packet ∈ (talker.sendPackets config maxTransitTime desc ts).1, Counted config packet) ∧
    (talker.sendPackets config maxTransitTime desc ts).1.filterMap timestamp <+: ts ∧
    ((∀ packet ∈ desc, packet.isPartial = false) →
      ((talker.sendPackets config maxTransitTime desc ts).1.filterMap timestamp).length =
        marks config.sytInterval talker.frames (desc.length * config.framesPerPacket)) := by
  induction desc generalizing ts talker with
  | nil => simpa [sendPackets,marks] using sound
  | cons first rest ih =>
    obtain ⟨packet,sent,step,start,frames,dbc,timestamp,log,next,same⟩ := sendPacket_spec sound maxTransitTime first ts
    have short := config.framesInPacket_le first
    have some_iff : packet.timestamp.isSome = true ↔
        nextMark config.sytInterval talker.frames < talker.frames + first.framesInPacket := by
      rw [timestamp]
      split <;> simp [*]
    have counted : Counted config packet :=
      ⟨by rw [dbc,start],by rw [frames]; exact short,by rw [start,frames]; exact some_iff⟩
    have length : (first :: rest).length * config.framesPerPacket =
        config.framesPerPacket + rest.length * config.framesPerPacket := by
      rw [List.length_cons]
      ring
    rw [length,marks_add config.sytInterval_pos config.framesPerPacket_le] at enough
    -- a packet with a timestamp finds one
    have taken : packet.timestamp.isSome = true → ∃ rest, ts = ts.headD 0 :: rest := by
      rw [some_iff]
      intro inside
      rw [if_pos (by omega)] at enough
      match ts,enough with
      | [],enough => exact absurd enough (by simp)
      | head :: tail,_ => exact ⟨tail,rfl⟩
    cases kind : first.isPartial with
    | true =>
      have whole : talker.sendPackets config maxTransitTime (first :: rest) ts = ([packet],sent.streamTsReset) := by
        rw [sendPackets,step]
        simp [kind]
      rw [whole]
      refine ⟨Sound.reset sent,log,?_,?_,fun all => absurd (all first (by simp)) (by simp [kind])⟩
      · intro other member
        rw [List.mem_singleton.mp member]
        exact counted
      · rw [timestamp] at taken
        rw [List.filterMap_cons,timestamp]
        split
        · simp
        next value equal =>
          obtain ⟨tail,split⟩ := taken (by rw [equal]; rfl)
          split at equal
          · cases equal
            exact ⟨tail,split.symm⟩
          · cases equal
    | false =>
      rw [framesInPacket_full kind] at some_iff next
      generalize left : (if packet.timestamp.isSome then ts.drop 1 else ts) = ts'
      generalize middle : ({sent with
        dbc := sent.dbc + BitVec.ofNat 8 config.framesPerPacket
        frames := sent.frames + config.framesPerPacket} : CipTalker) = after at next
      have begins : after.frames = talker.frames + config.framesPerPacket := by rw [← middle,← same]
      have whole : talker.sendPackets config maxTransitTime (first :: rest) ts =
          (packet :: (after.sendPackets config maxTransitTime rest ts').1,
            (after.sendPackets config maxTransitTime rest ts').2) := by
        rw [sendPackets,step,← left,← middle]
        simp [kind,framesInPacket_full kind]
      have remaining : marks config.sytInterval after.frames (rest.length * config.framesPerPacket) ≤ ts'.length := by
        rw [begins,← left]
        split
        next given =>
          rw [if_pos (some_iff.mp given)] at enough
          rw [List.length_drop]
          omega
        next absent =>
          rw [if_neg (fun inside => absent (some_iff.mpr inside)),Nat.zero_add] at enough
          exact enough
      obtain ⟨last,sent',each,takes,all⟩ := ih ts' after next remaining
      rw [whole]
      refine ⟨last,sent'.trans (by rw [← middle]; exact log),?_,?_,?_⟩
      · intro other member
        rcases List.mem_cons.mp member with rfl | later
        · exact counted
        · exact each other later
      · cases value : packet.timestamp with
        | none =>
          simpa [value,← left] using takes
        | some given =>
          obtain ⟨tail,split⟩ := taken (by rw [value]; rfl)
          have head : given = ts.headD 0 := by
            rw [timestamp] at value
            split at value
            · exact (Option.some.inj value).symm
            · cases value
          rw [List.filterMap_cons_some value,head,split,List.headD_cons,List.prefix_cons_inj]
          rw [split] at left
          simpa [value,← left] using takes
      · intro full
        have others := all fun packet member => full packet (List.mem_cons_of_mem _ member)
        rw [begins] at others
        rw [length,marks_add config.sytInterval_pos config.framesPerPacket_le,← others]
        cases value : packet.timestamp with
        | none =>
          rw [value] at some_iff
          rw [List.filterMap_cons_none value,if_neg (fun inside => absurd (some_iff.mpr inside) (by simp)),Nat.zero_add]
        | some given =>
          rw [value] at some_iff
          rw [List.filterMap_cons_some value,if_pos (some_iff.mp rfl),List.length_cons,Nat.add_comm]

/-- A batch takes its timestamps in turn, and all of them if it is complete. -/
structure Logged (config : Iec61883_6Stream) (batch : CipBatch) : Prop where
  counted : ∀ packet ∈ batch.packets, Counted config packet
  inTurn : batch.packets.filterMap timestamp <+: batch.ts
  uses : batch.complete = true → batch.packets.filterMap timestamp = batch.ts

theorem netTx_logged (maxTransitTime : Word) (tick : CipTick config) (sound : talker.Sound config)
    (logged : ∀ batch ∈ talker.sent, Logged config batch) :
    (talker.avtp61883_6NetTx config maxTransitTime tick).Sound config ∧
      ∀ batch ∈ (talker.avtp61883_6NetTx config maxTransitTime tick).sent, Logged config batch := by
  unfold avtp61883_6NetTx
  split
  · exact ⟨Sound.reset talker,logged⟩
  next desc media =>
    have few : desc.length ≤ NET_TX_BATCH := tick.fits desc media
    have batch := sound.tsBatch few
    dsimp only
    generalize talker.tsBatch config desc.length = asked at batch ⊢
    generalize tick.mediaClock asked = ts
    split
    · exact ⟨Sound.reset _,by split <;> exact logged⟩
    next answered =>
      rw [not_not] at answered
      -- the alignment and the toggle leave the counters alone
      generalize start : (if tick.reset then _ else _ : CipTalker) = ready
      have counters : ready.Sound config ∧ ready.frames = talker.frames ∧ ready.sent = talker.sent := by
        rw [← start]
        split <;> split <;> exact ⟨{sound with},rfl,rfl⟩
      obtain ⟨prepared,frames,log⟩ := counters
      have enough : marks config.sytInterval ready.frames (desc.length * config.framesPerPacket) ≤ ts.length := by
        rw [frames,← batch,answered]
      obtain ⟨last,kept,each,takes,all⟩ := sendPackets_spec maxTransitTime desc ts ready prepared enough
      refine ⟨{last with},?_⟩
      intro entry member
      rcases List.mem_append.mp member with old | new
      · rw [kept,log] at old
        exact logged entry old
      · rw [List.mem_singleton.mp new]
        refine ⟨each,takes,fun complete => ?_⟩
        have full : ∀ packet ∈ desc, packet.isPartial = false := by simpa using complete
        apply takes.eq_of_length
        rw [all full,frames,← batch,answered]

end CipTalker

open CipTalker

structure Carries (config : Iec61883_6Stream) (packet : CipPacket) (desc : NetRxDesc) : Prop where
  room : desc.l3Offset.toNat + 32 ≤ 2 ^ 16
  header : ∃ streamId, desc.data.bytes desc.l3Offset.toNat 32 = packet.header config streamId

namespace Carries
variable {config : Iec61883_6Stream} {packet : CipPacket} {desc : NetRxDesc}

section
variable (carries : Carries config packet desc)
include carries

theorem byte : ∃ streamId, ∀ place, place < 32 →
    desc.data (desc.l3Offset.toNat + place) = (packet.header config streamId).getD place 0 := by
  obtain ⟨streamId,held⟩ := carries.header
  exact ⟨streamId,fun place inside => Memory.bytes_get held inside⟩

theorem avtp : desc.subtype = AVTP_SUBTYPE_61883_IIDC ∧
    desc.tv = packet.timestamp.isSome ∧ desc.avtpTimestamp = packet.timestamp.getD 0 ∧
    desc.protocolSpecificHeader = (1#2 ++ 31#6) ++ (0xa#4 ++ 0#4) := by
  obtain ⟨streamId,byte⟩ := carries.byte
  refine ⟨byte 0 (by decide),?_,?_,?_⟩
  · rw [NetRxDesc.tv,NetRxDesc.hdr,byte 1 (by decide)]
    change (1#1 ++ 0#3 ++ BitVec.ofBool packet.mr ++ 0#2 ++ BitVec.ofBool packet.timestamp.isSome : Byte).getLsbD 0 = _
    cases packet.mr <;> cases packet.timestamp.isSome <;> rfl
  · exact Memory.word_of (byte 12 (by decide)) (byte 13 (by decide)) (byte 14 (by decide)) (byte 15 (by decide))
  · rw [NetRxDesc.protocolSpecificHeader,Memory.half,byte 22 (by decide),Nat.add_assoc,byte 23 (by decide)]
    rfl

theorem cip (flags : AvtpFlags) :
    (avtpRxDesc desc flags).tag = IEC_61883_PSH_TAG_CIP_INCLUDED ∧
    (avtpRxDesc desc flags).sph = false ∧ (avtpRxDesc desc flags).qpc = 0 ∧
    (avtpRxDesc desc flags).fmt = IEC_61883_CIP_FMT_6 ∧
    (avtpRxDesc desc flags).fdf = config.format.fdf ∧
    (avtpRxDesc desc flags).dbs = config.format.dbs ∧
    (avtpRxDesc desc flags).dbc = packet.dbc := by
  obtain ⟨streamId,byte⟩ := carries.byte
  have place : ∀ place, place < 8 → (avtpRxDesc desc flags).iecHdr place =
      (packet.header config streamId).getD (24 + place) 0 := by
    intro place inside
    have room := carries.room
    have offset : (desc.l3Offset + 24).toNat = desc.l3Offset.toNat + 24 := by
      change (_ + 24) % _ = _
      omega
    rw [← byte _ (by omega),← Nat.add_assoc,← offset]
    rfl
  refine ⟨?_,?_,?_,?_,place 5 (by decide),place 1 (by decide),place 3 (by decide)⟩
  · change (desc.protocolSpecificHeader >>> 14).toNat = _
    rw [carries.avtp.2.2.2]
    rfl
  · rw [AvtpRxDesc.sph,place 2 (by decide)]
    exact (by decide : (0 : Byte).getLsbD 2 = false)
  · rw [AvtpRxDesc.qpc,place 2 (by decide)]
    exact (by decide : (0 : Byte) >>> 3 &&& 7 = 0)
  · rw [AvtpRxDesc.fmt,place 4 (by decide)]
    exact (by decide : (2#2 ++ 0x10#6 : Byte) &&& 0x3f = IEC_61883_CIP_FMT_6)

end

end Carries

section Listener
variable {config : Iec61883_6Stream} {dbc sytCount : Byte} {first : Nat}

theorem sytResync_gap (aligned : config.sytInterval ∣ sytCount.toNat) (counts : dbc = BitVec.ofNat 8 first) :
    first + (sytResync config dbc sytCount - dbc).toNat = nextMark config.sytInterval first ∧
      config.sytInterval ∣ (sytResync config dbc sytCount).toNat := by
  have positive := config.sytInterval_pos
  have bits : dbc.toNat = first % 256 := by rw [counts,toNat_ofNat]
  suffices gap : config.sytInterval ∣ first + (sytResync config dbc sytCount - dbc).toNat ∧
      (sytResync config dbc sytCount - dbc).toNat < config.sytInterval by
    refine ⟨(nextMark_unique positive gap.1 (Nat.le_add_right _ _) (by omega)).symm,?_⟩
    have same : (first + (sytResync config dbc sytCount - dbc).toNat) % 256 = (sytResync config dbc sytCount).toNat := by
      rw [toNat_sub,bits]
      omega
    rw [← same]
    exact (Nat.dvd_mod_iff config.sytInterval_dvd).mpr gap.1
  have mask : ∀ count, count &&& (config.sytInterval - 1) = count % config.sytInterval := by
    intro count
    rw [config.sytInterval_eq,Nat.and_two_pow_sub_one_eq_mod]
  unfold sytResync
  dsimp only
  split
  · have residue : dbc.toNat % config.sytInterval = first % config.sytInterval := by
      rw [bits]
      exact Nat.mod_mod_of_dvd first config.sytInterval_dvd
    rw [mask,mask,residue]
    generalize skipped : (config.sytInterval - first % config.sytInterval) % config.sytInterval = skip
    have short : skip < config.sytInterval := skipped ▸ Nat.mod_lt _ positive
    have gap : (BitVec.ofNat 8 (dbc.toNat + skip) - dbc).toNat = skip := by
      rw [toNat_sub,toNat_ofNat]
      omega
    rw [gap]
    refine ⟨?_,short⟩
    apply Nat.dvd_of_mod_eq_zero
    rw [Nat.add_mod,← skipped,Nat.mod_mod]
    have rest := Nat.mod_lt first positive
    by_cases zero : first % config.sytInterval = 0
    · rw [zero,Nat.sub_zero,Nat.mod_self,Nat.zero_add,Nat.zero_mod]
    · rw [Nat.mod_eq_of_lt (by omega : config.sytInterval - first % config.sytInterval < config.sytInterval),
        Nat.add_sub_cancel' (Nat.le_of_lt rest),Nat.mod_self]
  next near =>
    refine ⟨?_,Nat.not_le.mp near⟩
    have same : (first + (sytCount - dbc).toNat) % 256 = sytCount.toNat := by
      rw [toNat_sub,bits]
      omega
    rw [← Nat.dvd_mod_iff config.sytInterval_dvd,same]
    exact aligned

private theorem checkFormat_spec {format : Iec61883_6Format} (checked : format.checkFormat = true) :
    (fdfEvt format.fdf = IEC_61883_6_FDF_EVT_AM824 ∨ fdfEvt format.fdf = IEC_61883_6_FDF_EVT_FLOATING ∨
      fdfEvt format.fdf = IEC_61883_6_FDF_EVT_INT32) ∧ 0 < format.dbs.toNat ∧ format.dbs.toNat ≤ 32 := by
  simp only [Iec61883_6Format.checkFormat,Bool.and_eq_true,Bool.or_eq_true,Bool.not_eq_true',Bool.or_eq_false_iff,
    beq_iff_eq,CFG_AVTP_61883_6_MAX_CHANNELS,beq_eq_false_iff_ne] at checked
  obtain ⟨⟨⟨evt,some,few⟩,_⟩,_⟩ := checked
  refine ⟨?_,?_,Nat.not_lt.mp (of_decide_eq_false few)⟩
  · rcases evt with (am824 | floating) | int32
    · exact Or.inl am824.1
    · exact Or.inr (Or.inl floating)
    · exact Or.inr (Or.inr int32)
  · apply Nat.pos_of_ne_zero
    exact fun zero => some (BitVec.eq_of_toNat_eq zero)

theorem offset_frames {format : Iec61883_6Format} (checked : format.checkFormat = true) (gap : Byte) :
    (((gap.setWidth 16 * format.dbs.setWidth 16) <<< 2 : Half)).toNat = gap.toNat * format.sampleStride := by
  obtain ⟨_,some,few⟩ := checkFormat_spec checked
  have nonzero : format.dbs ≠ 0 := by
    intro zero
    rw [zero] at some
    exact absurd some (by decide)
  have bound : gap.toNat * format.dbs.toNat ≤ 255 * 32 := Nat.mul_le_mul (Nat.le_of_lt_succ gap.isLt) few
  have dbs := format.dbs.isLt
  rw [Iec61883_6Format.sampleStride,if_neg nonzero,BitVec.toNat_shiftLeft,BitVec.toNat_mul,BitVec.toNat_setWidth,
    BitVec.toNat_setWidth,Nat.mod_eq_of_lt (by omega : gap.toNat < 2 ^ 16),
    Nat.mod_eq_of_lt (by omega : format.dbs.toNat < 2 ^ 16),Nat.mod_eq_of_lt (by omega : gap.toNat * format.dbs.toNat < 2 ^ 16),
    Nat.shiftLeft_eq,Nat.shiftLeft_eq,Nat.mod_eq_of_lt (by omega),Nat.mul_assoc]

/-- The media descriptor of a packet has its timestamp at the frame that the talker gave it to. -/
def Located (config : Iec61883_6Stream) (packet : CipPacket) (media : MediaDesc) : Prop :=
  ∀ ts, packet.timestamp = some ts → ∃ frame entry,
    packet.first ≤ frame ∧ frame < packet.first + packet.frames ∧ config.sytInterval ∣ frame ∧
    media.avtpTs = [entry] ∧ entry.val = some ts ∧ entry.flags = AvtpFlags.none ∧
    entry.offset.toNat = (frame - packet.first) * config.format.sampleStride

theorem rxDesc_located {packet : CipPacket} {desc : NetRxDesc} (carries : Carries config packet desc)
    (counted : Counted config packet) (aligned : config.sytInterval ∣ sytCount.toNat) (flags : AvtpFlags) :
    ∃ media after, avtp61883_6RxDesc config (avtpRxDesc desc flags) sytCount = (Handled.give media,after) ∧
      Located config packet media ∧ config.sytInterval ∣ after.toNat := by
  obtain ⟨tag,sph,qpc,fmt,fdf,dbs,dbc⟩ := carries.cip flags
  obtain ⟨_,tv,value,_⟩ := carries.avtp
  obtain ⟨evt,_,_⟩ := checkFormat_spec config.checked
  obtain ⟨gap,next⟩ := sytResync_gap aligned counted.dbc
  have data : config.format.fdf ≠ IEC_61883_6_FDF_NODATA := by
    intro none
    rw [none] at evt
    exact absurd evt (by decide)
  have kinds : (decide (fdfEvt config.format.fdf = IEC_61883_6_FDF_EVT_AM824) ||
      decide (fdfEvt config.format.fdf = IEC_61883_6_FDF_EVT_FLOATING) ||
      decide (fdfEvt config.format.fdf = IEC_61883_6_FDF_EVT_INT32)) = true := by
    simpa [or_assoc] using evt
  unfold avtp61883_6RxDesc
  rw [tag,sph,qpc,fmt,fdf,dbc,dbs,if_neg (by simp),if_neg data]
  rw [if_pos kinds]
  have invalid : (avtpRxDesc desc flags).flags.timestampInvalid = !packet.timestamp.isSome := by
    rw [← tv]
    rfl
  rw [invalid]
  cases given : packet.timestamp with
  | none =>
    refine ⟨_,_,rfl,?_,next⟩
    intro ts equal
    rw [given] at equal
    cases equal
  | some ts =>
    refine ⟨_,_,rfl,?_,?_⟩
    · intro ts' equal
      rw [given] at equal
      cases equal
      have inside := counted.timestamp.mp (by rw [given]; rfl)
      obtain ⟨divides,after,_⟩ := @nextMark_spec _ packet.first config.sytInterval_pos
      refine ⟨nextMark config.sytInterval packet.first,_,after,inside,divides,rfl,?_,rfl,?_⟩
      · change some (if desc.tv then desc.avtpTimestamp else 0) = some ts
        rw [tv,value,given]
        rfl
      · rw [← gap,Nat.add_sub_cancel_left]
        exact offset_frames config.checked _
    · rw [toNat_add,toNat_ofNat,Nat.dvd_mod_iff config.sytInterval_dvd]
      apply Nat.dvd_add next
      exact (Nat.dvd_mod_iff config.sytInterval_dvd).mpr (Nat.dvd_refl _)

theorem receivePacket_located {packet : CipPacket} {desc : NetRxDesc} {stream : StreamListener Byte}
    (carries : Carries config packet desc) (counted : Counted config packet)
    (subtype : stream.subtype = AVTP_SUBTYPE_61883_IIDC) (aligned : config.sytInterval ∣ stream.subtypeData.toNat) :
    ∃ media after, receivePacket (avtp61883_6RxDesc config) desc stream = (Handled.give media,after) ∧
      Located config packet media ∧ after.subtype = AVTP_SUBTYPE_61883_IIDC ∧
      config.sytInterval ∣ after.subtypeData.toNat := by
  obtain ⟨media,next,step,located,kept⟩ := rxDesc_located carries counted aligned (packetFlags desc stream)
  have same : (desc.subtype != stream.subtype) = false := by
    rw [carries.avtp.1,subtype]
    rfl
  refine ⟨media,{StreamRx.follow desc stream with subtypeData := next},?_,located,subtype,kept⟩
  rw [receivePacket,same,step]
  rfl

theorem received_located {delivered : List CipPacket} {desc : List NetRxDesc}
    (carries : List.Forall₂ (Carries config) delivered desc)
    (counted : ∀ packet ∈ delivered, Counted config packet) (stream : StreamListener Byte)
    (subtype : stream.subtype = AVTP_SUBTYPE_61883_IIDC) (aligned : config.sytInterval ∣ stream.subtypeData.toNat) :
    List.Forall₂ (Located config) delivered
      (eachItem (receivePacket (avtp61883_6RxDesc config)) desc stream).1.media := by
  induction carries generalizing stream with
  | nil => exact List.Forall₂.nil
  | cons first rest ih =>
    obtain ⟨media,after,step,located,kind,next⟩ :=
      receivePacket_located first (counted _ List.mem_cons_self) subtype aligned
    have others := ih (fun packet member => counted packet (List.mem_cons_of_mem _ member)) after kind next
    rw [eachItem,step]
    exact List.Forall₂.cons located others

end Listener

/-- In every run of the talker the packets with a frame at a multiple of the SYT interval have a timestamp, complete
batches use those that they fetched, and the packets that arrive have theirs at that frame. -/
theorem timestamps_placed (config : Iec61883_6Stream) (maxTransitTime timePerPacket : Word)
    (ticks : List (CipTick config)) (source : Bool) {delivered : List CipPacket} {received : List (List NetRxDesc)}
    (inOrder : delivered.Sublist
      ((run (CipTalker.avtp61883_6NetTx config maxTransitTime) ticks (CipTalker.init timePerPacket)).sent.flatMap
        CipBatch.packets)) (carries : List.Forall₂ (Carries config) delivered received.flatten) :
    (∀ batch ∈ (run (CipTalker.avtp61883_6NetTx config maxTransitTime) ticks (CipTalker.init timePerPacket)).sent,
      (∀ packet ∈ batch.packets, Marked config packet) ∧
      batch.packets.filterMap CipPacket.timestamp <+: batch.ts ∧
      (batch.complete = true → batch.packets.filterMap CipPacket.timestamp = batch.ts)) ∧
    List.Forall₂ (Located config) delivered
      (streamBatches (avtp61883_6NetRx config) received (cipListener source)).1.media := by
  obtain ⟨_,logged⟩ := @run_invariant _ _ (avtp61883_6NetTx config maxTransitTime) (fun _ _ => True)
    (fun talker => talker.Sound config ∧ ∀ batch ∈ talker.sent, Logged config batch)
    (fun _ tick invariant _ => netTx_logged maxTransitTime tick invariant.1 invariant.2) ticks
    (init timePerPacket) ⟨Sound.reset (init timePerPacket),fun _ member => (nomatch member)⟩
    (steps_always _ ticks _)
  constructor
  · intro batch member
    have entry := logged batch member
    exact ⟨fun packet inside => (entry.counted packet inside).marked,entry.inTurn,entry.uses⟩
  · rw [avtp61883_6NetRx,streamBatches_each]
    apply received_located carries
    · intro packet member
      obtain ⟨batch,sent,inside⟩ := List.mem_flatMap.mp (inOrder.subset member)
      exact (logged batch sent).counted packet inside
    · rfl
    · exact Nat.dvd_zero _

def twoChannels : Iec61883_6Stream := Iec61883_6Stream.ofFormat ⟨0x22,2,0,0,0,0,false,true⟩ 6 (by decide) (by decide)

def fullPacket : MediaRxDesc twoChannels := ⟨false,48,by decide⟩

def twoPackets : CipTick twoChannels where
  mediaRx := some [fullPacket,fullPacket]
  mediaClock := fun asked => (List.range asked.toNat).map fun place => BitVec.ofNat 32 (1000 + place)
  doAlign := true
  reset := false
  fits := by
    intro desc same
    cases same
    decide

def secondPacket : CipPacket where
  first := 6
  frames := 6
  sequenceNum := 1
  mr := false
  timestamp := some 1001
  streamDataLength := 56
  dbc := 6
  launch := 1000 + 125000

def secondFrame : NetRxDesc where
  id := 0
  l2Offset := 128
  len := 98
  l3Offset := 142
  ts := 0
  data := Memory.write (fun _ => 0) 142 (secondPacket.header twoChannels (0,0))

theorem secondPacket_placed : List.Forall₂ (Located twoChannels) [secondPacket]
    (streamBatches (avtp61883_6NetRx twoChannels) [[secondFrame]] (cipListener false)).1.media := by
  have carried : Carries twoChannels secondPacket secondFrame := ⟨by decide,(0,0),by decide⟩
  apply (timestamps_placed twoChannels 0 125000 [twoPackets] false _ _).2
  · decide
  · exact List.Forall₂.cons carried List.Forall₂.nil

end Genavb.Avtp
