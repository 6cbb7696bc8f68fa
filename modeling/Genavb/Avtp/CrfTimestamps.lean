import Genavb.Avtp.StreamReceive
import Genavb.Support.Run
import Mathlib.Data.List.Chain

/-! The CRF talker (`crf.c`): 64-bit timestamps made of the 32-bit ones of the media clock. -/
namespace Genavb.Avtp


def extended (high low : Word) : BitVec 64 := BitVec.ofNat 64 (high.toNat * 2 ^ 32 + low.toNat)

def high (time : BitVec 64) : Word := (time >>> 32).setWidth 32

def low (time : BitVec 64) : Word := time.setWidth 32

def CRF_TX_BATCH : Nat := 1
def CRF_TIMESTAMPS_PER_PDU_MIN : Nat := 1
def CRF_TIMESTAMPS_PER_PDU_MAX : Nat := 8
def CRF_LATENCY_MAX : Word := 2000000

/-- A talker whose format has passed `crf_check_format`. -/
structure CrfTalkerConfig where
  timestampsPerPdu : Nat
  framesPerPacket : Word
  maxTransitTime : Word
  latency : Word
  positive : CRF_TIMESTAMPS_PER_PDU_MIN ≤ timestampsPerPdu
  few : timestampsPerPdu ≤ CRF_TIMESTAMPS_PER_PDU_MAX

def avtpStreamPresentationOffset (maxTransitTime latency : Word) : Word := maxTransitTime + latency

def CrfTalkerConfig.crfStreamPresentationOffset (config : CrfTalkerConfig) : Word :=
  avtpStreamPresentationOffset config.maxTransitTime
    (if CRF_LATENCY_MAX < config.latency then CRF_LATENCY_MAX else config.latency)

structure CrfPdu where
  sequenceNum : BitVec 8
  ts : Word
  timestamps : List (Word × Word)

def CrfPdu.written (pdu : CrfPdu) :
    List (BitVec 64) := pdu.timestamps.map fun timestamp => extended timestamp.1 timestamp.2

/-- A packet that was given to the network, with the gPTP time of an alignment before it and the timestamps that the
media clock gave for it. -/
structure CrfSent where
  aligned : Option (BitVec 64)
  clock : List Word
  pdu : CrfPdu

structure CrfTalker where
  tsMsb : Word
  tsLast : Word
  mediaCount : Word
  lockedCount : Word
  sequenceNum : BitVec 8
  sent : List CrfSent

/-- What one call of `crf_net_tx` meets: the allocator of its one descriptor, the phase changes of the domain, the
gPTP clock, and the answer of the media clock for an alignment timestamp. -/
structure CrfTick where
  netTxAlloc : Bool
  lockedCount : Word
  clockGettime : Option (BitVec 64)
  mediaClock : Option Word → List Word

namespace CrfTalker

def init (lockedCount : Word) : CrfTalker := ⟨0,0,0,lockedCount,0,[]⟩

/-- The loop of `crf_net_tx` over the timestamps of a packet, which skips every other one of the media clock. -/
def writeTimestamps : Nat → List Word → CrfTalker → List (Word × Word) × CrfTalker
  | 0,_,talker => ([],talker)
  | left + 1,ts,talker =>
    let tsNow := ts.headD 0
    let tsMsb := if tsNow < talker.tsLast then talker.tsMsb + 1 else talker.tsMsb
    let (rest,last) := writeTimestamps left (ts.drop 2) {talker with tsMsb := tsMsb,tsLast := tsNow}
    ((tsMsb,tsNow) :: rest,last)

/-- The wrap test of `crf_net_tx` after an alignment. -/
def startMsb (aligned : Option (BitVec 64)) (ts : List Word) (talker : CrfTalker) : Word :=
  match aligned with
  | none => talker.tsMsb
  | some tnow => if low tnow < ts.headD 0 then talker.tsMsb + 1 else talker.tsMsb

/-- `crf_net_tx` from the answer of the media clock on. A batch is one packet. -/
def sendTimestamps (config : CrfTalkerConfig) (aligned : Option (BitVec 64)) (ts : List Word) (talker : CrfTalker) :
    CrfTalker :=
  if ts.length = CRF_TX_BATCH * config.timestampsPerPdu * 2 then
    let (timestamps,talker) :=
      writeTimestamps config.timestampsPerPdu ts {talker with tsMsb := talker.startMsb aligned ts}
    {talker with
      mediaCount := talker.mediaCount + config.framesPerPacket
      sequenceNum := talker.sequenceNum + 1
      sent := talker.sent ++ [⟨aligned,ts,⟨talker.sequenceNum,ts.headD 0 - config.maxTransitTime,timestamps⟩⟩]}
  else {talker with mediaCount := 0}

def doAlign (tick : CrfTick) (talker : CrfTalker) : Bool :=
  talker.lockedCount != tick.lockedCount || talker.mediaCount == 0

def crfNetTx (config : CrfTalkerConfig) (tick : CrfTick) (talker : CrfTalker) : CrfTalker :=
  if tick.netTxAlloc then
    if talker.doAlign tick then
      match tick.clockGettime with
      | none => {talker with lockedCount := tick.lockedCount,mediaCount := 0}
      | some tnow =>
        {talker with lockedCount := tick.lockedCount,tsMsb := high tnow}.sendTimestamps config (some tnow)
          (tick.mediaClock (some (low tnow + config.crfStreamPresentationOffset)))
    else talker.sendTimestamps config none (tick.mediaClock none)
  else {talker with mediaCount := 0}

end CrfTalker

end Genavb.Avtp

/-! The 64-bit timestamps of a CRF talker over its runs (`crf.c`): which alignments extend the media clock's 32 bits
to the time that the gPTP clock showed. -/
namespace Genavb.Avtp
open Genavb.Support CrfTalker
open BitVec (add_assoc eq_of_toNat_eq lt_def toNat_add toNat_setWidth toNat_sub)

/-- The timestamps of the media clock as 64-bit times: each the first one at or after the one before it. -/
def follow (last : BitVec 64) : List Word → List (BitVec 64)
  | [] => []
  | ts :: rest =>
    let next := last + (ts - low last).setWidth 64
    next :: follow next rest

def everyOther : Nat → List Word → List Word
  | 0,_ => []
  | left + 1,ts => ts.headD 0 :: everyOther left (ts.drop 2)

section Words
variable (hi lo now : Word) (time : BitVec 64)

private theorem toNat_extended : (extended hi lo).toNat = hi.toNat * 2 ^ 32 + lo.toNat := by
  rw [extended,BitVec.toNat_ofNat,Nat.mod_eq_of_lt (by omega)]

theorem toNat_high : (high time).toNat = time.toNat / 2 ^ 32 := by
  rw [high,toNat_setWidth,BitVec.toNat_ushiftRight,Nat.shiftRight_eq_div_pow,Nat.mod_eq_of_lt]
  omega

private theorem toNat_low : (low time).toNat = time.toNat % 2 ^ 32 := by
  rw [low,toNat_setWidth]

theorem extended_high_low : extended (high time) (low time) = time := by
  apply eq_of_toNat_eq
  rw [toNat_extended,toNat_high,toNat_low]
  omega

@[simp] theorem low_extended : low (extended hi lo) = lo := by
  apply eq_of_toNat_eq
  rw [toNat_low,toNat_extended]
  omega

theorem extended_inj {first second : Word} : extended first lo = extended second lo ↔ first = second := by
  refine ⟨fun equal => ?_,fun same => by rw [same]⟩
  have numbers := congrArg BitVec.toNat equal
  rw [toNat_extended,toNat_extended] at numbers
  apply eq_of_toNat_eq
  omega

private theorem extended_next : extended (if now < lo then hi + 1 else hi) now = extended hi lo + (now - lo).setWidth 64 := by
  apply eq_of_toNat_eq
  rw [toNat_extended,toNat_add,toNat_extended,toNat_setWidth,toNat_sub]
  have less : now < lo ↔ now.toNat < lo.toNat := lt_def
  split
  next wrapped =>
    rw [less] at wrapped
    rw [toNat_add,show (1 : Word).toNat = 1 from rfl]
    omega
  next behind =>
    rw [less] at behind
    omega

private theorem follow_unique (last time : BitVec 64) (ts : Word) :
    time = last + (ts - low last).setWidth 64 ↔ low time = ts ∧ (time - last).toNat < 2 ^ 32 := by
  have step : (ts - low last).toNat = (2 ^ 32 - last.toNat % 2 ^ 32 + ts.toNat) % 2 ^ 32 := by
    rw [toNat_sub,toNat_low]
  have gap : (time - last).toNat = (2 ^ 64 - last.toNat + time.toNat) % 2 ^ 64 := toNat_sub ..
  constructor
  · rintro equal
    have sum := congrArg BitVec.toNat equal
    rw [toNat_add,toNat_setWidth,step] at sum
    refine ⟨?_,by omega⟩
    apply eq_of_toNat_eq
    rw [toNat_low]
    omega
  · rintro ⟨bits,near⟩
    have bits := congrArg BitVec.toNat bits
    rw [toNat_low] at bits
    apply eq_of_toNat_eq
    rw [toNat_add,toNat_setWidth,step]
    omega

end Words

def lastWritten (log : List CrfSent) : BitVec 64 := (log.getLast?.bind fun sent => sent.pdu.written.getLast?).getD 0

def Advances (ts next : Word) : Prop := 0 < (next - ts).toNat ∧ (next - ts).toNat < 2 ^ 31

def Later (time next : BitVec 64) : Prop := 0 < (next - time).toNat ∧ (next - time).toNat < 2 ^ 32

/-- The timestamps of a packet are the true times of the media clock: they follow on the gPTP time of the alignment,
or on the last one written. -/
structure TrueTime (config : CrfTalkerConfig) (before : List CrfSent) (sent : CrfSent) : Prop where
  follows : sent.pdu.written =
    follow (sent.aligned.getD (lastWritten before)) (everyOther config.timestampsPerPdu sent.clock)
  aligned : ∀ tnow step, sent.aligned = some tnow →
    sent.clock.head? = some (low tnow + config.crfStreamPresentationOffset + step) →
    config.crfStreamPresentationOffset.toNat + step.toNat < 2 ^ 32 →
    sent.pdu.written.head? = some (tnow + config.crfStreamPresentationOffset.setWidth 64 + step.setWidth 64)
  increases : ∀ past, before.getLast? = some past → sent.aligned = none →
    (past.clock ++ sent.clock).IsChain Advances → (lastWritten before :: sent.pdu.written).IsChain Later
  rises : sent.clock.IsChain Advances → sent.pdu.written.IsChain Later

/-- The two wrap tests of an alignment together count the wrap of the media clock after the gPTP time. -/
def Aligns (config : CrfTalkerConfig) (talker : CrfTalker) (tick : CrfTick) : Prop :=
  tick.netTxAlloc = true → talker.doAlign tick = true → ∀ tnow, tick.clockGettime = some tnow →
    ∀ ts rest, tick.mediaClock (some (low tnow + config.crfStreamPresentationOffset)) = ts :: rest →
      (ts :: rest).length = CRF_TX_BATCH * config.timestampsPerPdu * 2 →
      ts < low tnow ∧ ts < talker.tsLast ∨ ts = low tnow ∧ talker.tsLast ≤ ts

section Follow
variable {talker : CrfTalker} {ts : List Word} {n : Nat}

private theorem low_next (last : BitVec 64) (ts : Word) : low (last + (ts - low last).setWidth 64) = ts :=
  ((follow_unique last _ ts).mp rfl).1

theorem writeTimestamps_follow (n : Nat) (ts : List Word) (talker : CrfTalker) : ∃ tsMsb tsLast,
    (writeTimestamps n ts talker).2 = {talker with tsMsb := tsMsb,tsLast := tsLast} ∧
    (writeTimestamps n ts talker).1.map Prod.snd = everyOther n ts ∧
    (writeTimestamps n ts talker).1.map (fun timestamp => extended timestamp.1 timestamp.2) =
      follow (extended talker.tsMsb talker.tsLast) (everyOther n ts) ∧
    extended tsMsb tsLast =
      ((follow (extended talker.tsMsb talker.tsLast) (everyOther n ts)).getLast?).getD (extended talker.tsMsb talker.tsLast) := by
  induction n generalizing ts talker with
  | zero => exact ⟨talker.tsMsb,talker.tsLast,rfl,rfl,rfl,rfl⟩
  | succ left ih =>
    have next := extended_next talker.tsMsb talker.tsLast (ts.headD 0)
    obtain ⟨tsMsb,tsLast,state,lows,written,last⟩ := ih (ts.drop 2) {talker with
      tsMsb := if ts.headD 0 < talker.tsLast then talker.tsMsb + 1 else talker.tsMsb
      tsLast := ts.headD 0}
    refine ⟨tsMsb,tsLast,?_,?_,?_,?_⟩
    · rw [writeTimestamps,state]
    · rw [writeTimestamps,everyOther,List.map_cons,lows]
    · rw [writeTimestamps,everyOther,List.map_cons,written,follow,low_extended,next]
    · rw [last,everyOther,follow,low_extended,← next,List.getLast?_cons,Option.getD_some]

theorem follow_eq_iff (start tnow : BitVec 64) (first : Word) (rest : List Word) :
    follow start (first :: rest) = follow tnow (first :: rest) ↔
      start + (first - low start).setWidth 64 = tnow + (first - low tnow).setWidth 64 := by
  constructor
  · exact fun same => (List.cons.inj same).1
  · intro heads
    rw [follow,follow,heads]

theorem follow_aligned (tnow : BitVec 64) (tsLast first : Word) (rest : List Word) :
    follow (extended (if low tnow < first then high tnow + 1 else high tnow) tsLast) (first :: rest) =
        follow tnow (first :: rest) ↔
      first < low tnow ∧ first < tsLast ∨ first = low tnow ∧ tsLast ≤ first := by
  have ideal := extended_next (high tnow) (low tnow) first
  rw [extended_high_low] at ideal
  rw [follow_eq_iff,low_extended,← extended_next,← ideal,extended_inj]
  clear ideal
  generalize low tnow = bits
  generalize high tnow = most
  have one : (1 : Word).toNat = 1 := rfl
  simp only [lt_def,BitVec.le_def,← BitVec.toNat_inj]
  split <;> split <;> split <;> simp only [toNat_add,one,true_iff] <;> omega

private theorem follow_later {previous skipped : Word} (last : BitVec 64) (bits : low last = previous)
    (length : ts.length = 2 * n)
    (advances : (previous :: skipped :: ts).IsChain Advances) : (last :: follow last (everyOther n ts)).IsChain Later := by
  induction n generalizing ts last previous skipped with
  | zero => exact List.IsChain.singleton last
  | succ left ih =>
    obtain ⟨first,second,rest,rfl⟩ : ∃ first second rest, ts = first :: second :: rest := by
      match ts,length with
      | first :: second :: rest,_ => exact ⟨first,second,rest,rfl⟩
    obtain ⟨half,other,chain⟩ : Advances previous skipped ∧ Advances skipped first ∧
        (first :: second :: rest).IsChain Advances := by simpa [List.isChain_cons_cons] using advances
    refine List.isChain_cons_cons.mpr ⟨?_,?_⟩
    · obtain ⟨_,near⟩ := (follow_unique last _ first).mp rfl
      refine ⟨?_,near⟩
      rw [bits]
      have gap : 0 < (first - previous).toNat := by
        obtain ⟨low,high⟩ := half
        obtain ⟨low',high'⟩ := other
        bv_omega
      have width : ((first - previous).setWidth 64).toNat = (first - previous).toNat := by
        rw [toNat_setWidth,Nat.mod_eq_of_lt (by omega)]
      rw [List.headD_cons,toNat_sub,toNat_add,width]
      omega
    · apply ih _ (low_next last first)
      · simp only [List.length_cons] at length
        change rest.length = 2 * left
        omega
      · exact chain

theorem everyOther_first {first second : Word} {rest : List Word} {count : Nat} (more : count = n + 1) :
    everyOther count (first :: second :: rest) = first :: everyOther n rest := by
  subst more
  rfl

theorem everyOther_last (length : ts.length = 2 * (n + 1)) : ∃ front first second,
    ts = front ++ [first,second] ∧ (everyOther (n + 1) ts).getLast? = some first := by
  induction n generalizing ts with
  | zero =>
    match ts,length with
    | [first,second],_ => exact ⟨[],first,second,rfl,rfl⟩
  | succ left ih =>
    match ts,length with
    | head :: next :: rest,length =>
      have shorter : rest.length = 2 * (left + 1) := by
        simp only [List.length_cons] at length
        omega
      obtain ⟨front,first,second,split,last⟩ := ih shorter
      refine ⟨head :: next :: front,first,second,by rw [split]; rfl,?_⟩
      rw [everyOther,List.getLast?_cons,List.drop_succ_cons,List.drop_succ_cons,List.drop_zero,last]
      rfl

end Follow

theorem offset_step (tnow : BitVec 64) (offset step : Word) (bound : offset.toNat + step.toNat < 2 ^ 32) :
    tnow + (low tnow + offset + step - low tnow).setWidth 64 = tnow + offset.setWidth 64 + step.setWidth 64 := by
  have gap : low tnow + offset + step - low tnow = offset + step := by
    rw [add_assoc,BitVec.add_comm,BitVec.add_sub_cancel]
  rw [gap,add_assoc]
  congr 1
  apply eq_of_toNat_eq
  rw [toNat_setWidth,toNat_add,toNat_add,toNat_setWidth,toNat_setWidth]
  omega

section Entries
variable {config : CrfTalkerConfig} {before : List CrfSent} {sent : CrfSent}

def Clocked (config : CrfTalkerConfig) (sent : CrfSent) : Prop :=
  sent.clock.length = 2 * config.timestampsPerPdu ∧
    sent.pdu.timestamps.map Prod.snd = everyOther config.timestampsPerPdu sent.clock

theorem Clocked.split (clocked : Clocked config sent) : ∃ n first second rest, config.timestampsPerPdu = n + 1 ∧
    sent.clock = first :: second :: rest ∧ rest.length = 2 * n := by
  obtain ⟨length,_⟩ := clocked
  obtain ⟨n,count⟩ : ∃ n, config.timestampsPerPdu = n + 1 := ⟨_,(Nat.sub_add_cancel config.positive).symm⟩
  rw [count] at length
  match equal : sent.clock,length with
  | first :: second :: rest,length =>
    refine ⟨n,first,second,rest,count,rfl,?_⟩
    simp only [List.length_cons] at length
    omega

theorem low_lastWritten {past : CrfSent} (clocked : Clocked config past) (last : before.getLast? = some past) :
    ∃ front first second, past.clock = front ++ [first,second] ∧ low (lastWritten before) = first := by
  obtain ⟨n,_,_,_,count,_,_⟩ := clocked.split
  obtain ⟨length,lows⟩ := clocked
  rw [count] at length lows
  obtain ⟨front,first,second,split,final⟩ := everyOther_last length
  refine ⟨front,first,second,split,?_⟩
  rw [← lows,List.getLast?_map,Option.map_eq_some_iff] at final
  obtain ⟨timestamp,ends,rfl⟩ := final
  rw [lastWritten,last,Option.bind_some,CrfPdu.written,List.getLast?_map,ends]
  exact low_extended timestamp.1 timestamp.2

private theorem trueTime_iff (clocked : Clocked config sent) (pasts : ∀ past ∈ before, Clocked config past) :
    TrueTime config before sent ↔ sent.pdu.written =
      follow (sent.aligned.getD (lastWritten before)) (everyOther config.timestampsPerPdu sent.clock) := by
  refine ⟨fun exact => exact.follows,fun follows => ?_⟩
  obtain ⟨n,first,second,rest,count,clock,length⟩ := clocked.split
  refine ⟨follows,?_,?_,?_⟩
  · intro tnow step aligned head bound
    rw [clock,List.head?_cons,Option.some.injEq] at head
    rw [follows,aligned,Option.getD_some,clock,count,everyOther,follow,List.head?_cons,List.headD_cons,head]
    congr 1
    exact offset_step tnow config.crfStreamPresentationOffset step bound
  · intro past last aligned advances
    obtain ⟨front,previous,skipped,split,bits⟩ := low_lastWritten (pasts past (List.mem_of_getLast? last)) last
    rw [follows,aligned,Option.getD_none]
    apply follow_later _ bits
    · exact clocked.1
    · rw [split,List.append_assoc] at advances
      exact advances.right_of_append
  · intro advances
    rw [follows,clock,count,everyOther,follow]
    rw [clock] at advances
    exact follow_later _ (low_next _ first) length advances

end Entries

namespace CrfTalker
variable {config : CrfTalkerConfig} {talker : CrfTalker} {ts : List Word} {aligned : Option (BitVec 64)}

private theorem sendTimestamps_cases (config : CrfTalkerConfig) (aligned : Option (BitVec 64)) (ts : List Word)
    (talker : CrfTalker) :
    (ts.length ≠ 2 * config.timestampsPerPdu ∧ talker.sendTimestamps config aligned ts = {talker with mediaCount := 0}) ∨
    (ts.length = 2 * config.timestampsPerPdu ∧ ∃ sent : CrfSent,
      (talker.sendTimestamps config aligned ts).sent = talker.sent ++ [sent] ∧ sent.aligned = aligned ∧ sent.clock = ts ∧
      sent.pdu.timestamps.map Prod.snd = everyOther config.timestampsPerPdu ts ∧
      sent.pdu.written =
        follow (extended (talker.startMsb aligned ts) talker.tsLast) (everyOther config.timestampsPerPdu ts) ∧
      sent.pdu.written.getLast? =
        some (extended (talker.sendTimestamps config aligned ts).tsMsb (talker.sendTimestamps config aligned ts).tsLast)) := by
  have batch : CRF_TX_BATCH * config.timestampsPerPdu * 2 = 2 * config.timestampsPerPdu := by
    rw [CRF_TX_BATCH]
    omega
  unfold sendTimestamps
  rw [batch]
  split
  next length =>
    refine Or.inr ⟨length,?_⟩
    obtain ⟨tsMsb,tsLast,state,lows,written,last⟩ := writeTimestamps_follow config.timestampsPerPdu ts
      {talker with tsMsb := talker.startMsb aligned ts}
    generalize writeTimestamps config.timestampsPerPdu ts {talker with tsMsb := talker.startMsb aligned ts} = result
      at state lows written
    obtain ⟨timestamps,after⟩ := result
    subst state
    refine ⟨_,rfl,rfl,rfl,lows,written,?_⟩
    refine (congrArg List.getLast? written).trans ?_
    obtain ⟨n,count⟩ : ∃ n, config.timestampsPerPdu = n + 1 := ⟨_,(Nat.sub_add_cancel config.positive).symm⟩
    rw [count,everyOther,follow,List.getLast?_cons] at last ⊢
    rw [Option.getD_some] at last
    rw [last]
  next short => exact Or.inl ⟨short,rfl⟩

structure Sound (config : CrfTalkerConfig) (talker : CrfTalker) : Prop where
  clocked : ∀ sent ∈ talker.sent, Clocked config sent
  last : talker.mediaCount ≠ 0 → extended talker.tsMsb talker.tsLast = lastWritten talker.sent

theorem Sound.drop (sound : talker.Sound config) {after : CrfTalker} (sent : after.sent = talker.sent)
    (reset : after.mediaCount = 0) : after.Sound config :=
  ⟨by rw [sent]; exact sound.clocked,fun running => absurd reset running⟩

theorem Sound.send {sent : CrfSent} {after : CrfTalker} (sound : talker.Sound config) (clocked : Clocked config sent)
    (longer : after.sent = talker.sent ++ [sent])
    (last : sent.pdu.written.getLast? = some (extended after.tsMsb after.tsLast)) : after.Sound config := by
  constructor
  · rw [longer]
    intro other member
    rcases List.mem_append.mp member with old | new
    · exact sound.clocked other old
    · exact List.mem_singleton.mp new ▸ clocked
  · intro _
    rw [lastWritten,longer,List.getLast?_concat,Option.bind_some,last,Option.getD_some]

private theorem crfNetTx_logs (config : CrfTalkerConfig) (tick : CrfTick) (sound : talker.Sound config) :
    (talker.crfNetTx config tick).Sound config ∧
    (((talker.crfNetTx config tick).sent = talker.sent ∧ Aligns config talker tick) ∨
      ∃ sent, (talker.crfNetTx config tick).sent = talker.sent ++ [sent] ∧
        (TrueTime config talker.sent sent ↔ Aligns config talker tick)) := by
  unfold crfNetTx
  split
  next allocated =>
    split
    next align =>
      split
      next failed =>
        refine ⟨sound.drop rfl rfl,Or.inl ⟨rfl,fun _ _ tnow given => ?_⟩⟩
        rw [failed] at given
        cases given
      next tnow given =>
        have met : Aligns config talker tick ↔ ∀ ts rest,
            tick.mediaClock (some (low tnow + config.crfStreamPresentationOffset)) = ts :: rest →
            (ts :: rest).length = CRF_TX_BATCH * config.timestampsPerPdu * 2 →
            ts < low tnow ∧ ts < talker.tsLast ∨ ts = low tnow ∧ talker.tsLast ≤ ts := by
          refine ⟨fun aligns => aligns allocated align tnow given,fun here _ _ time again => ?_⟩
          rw [given,Option.some.injEq] at again
          exact again ▸ here
        have batch : CRF_TX_BATCH * config.timestampsPerPdu * 2 = 2 * config.timestampsPerPdu := by
          rw [CRF_TX_BATCH]
          omega
        rw [met,batch]
        generalize tick.mediaClock (some (low tnow + config.crfStreamPresentationOffset)) = ts
        rcases sendTimestamps_cases config (some tnow) ts
          {talker with lockedCount := tick.lockedCount,tsMsb := high tnow} with ⟨short,dropped⟩ | ⟨length,sent,longer,rest⟩
        · rw [dropped]
          refine ⟨sound.drop rfl rfl,Or.inl ⟨rfl,fun first rest equal full => ?_⟩⟩
          exact absurd (equal ▸ full) short
        · obtain ⟨aligned,clock,lows,written,last⟩ := rest
          have clocked : Clocked config sent := ⟨clock ▸ length,clock ▸ lows⟩
          refine ⟨sound.send clocked longer last,Or.inr ⟨sent,longer,?_⟩⟩
          obtain ⟨n,first,second,later,count,split,_⟩ := clocked.split
          rw [trueTime_iff clocked sound.clocked,written,aligned,clock]
          rw [clock] at split
          rw [split] at length
          rw [split,everyOther_first count,Option.getD_some,startMsb,List.headD_cons,follow_aligned]
          constructor
          · intro right ts rest equal _
            cases equal
            exact right
          · exact fun all => all first (second :: later) rfl length
    next keep =>
      have running : talker.mediaCount ≠ 0 := by
        intro zero
        exact keep (by simp [doAlign,zero])
      have vacuous : Aligns config talker tick := fun _ align => absurd align keep
      rcases sendTimestamps_cases config none (tick.mediaClock none) talker with ⟨short,dropped⟩ | ⟨length,sent,longer,rest⟩
      · rw [dropped]
        exact ⟨sound.drop rfl rfl,Or.inl ⟨rfl,vacuous⟩⟩
      · obtain ⟨aligned,clock,lows,written,last⟩ := rest
        have clocked : Clocked config sent := ⟨clock ▸ length,clock ▸ lows⟩
        refine ⟨sound.send clocked longer last,Or.inr ⟨sent,longer,iff_of_true ?_ vacuous⟩⟩
        rw [trueTime_iff clocked sound.clocked,written,aligned,clock,Option.getD_none,← sound.last running]
        rfl
  next refused =>
    exact ⟨sound.drop rfl rfl,Or.inl ⟨rfl,fun allocated => absurd allocated refused⟩⟩

/-- In a run the timestamps of all packets are the true times of the media clock exactly if at every alignment the two
wrap tests count the wrap. -/
theorem timestamps_extend (config : CrfTalkerConfig) (lockedCount : Word) (ticks : List CrfTick) :
    History (TrueTime config) (run (CrfTalker.crfNetTx config) ticks (CrfTalker.init lockedCount)).sent ↔
      Steps (CrfTalker.crfNetTx config) (Aligns config) ticks (CrfTalker.init lockedCount) := by
  have start : (init lockedCount).Sound config :=
    ⟨fun _ member => (nomatch member),fun running => absurd rfl running⟩
  have whole := @history_run _ _ _ (crfNetTx config) sent (TrueTime config) (Aligns config)
    (Sound config) (fun _ tick sound => (crfNetTx_logs config tick sound).1)
    (fun _ tick sound => (crfNetTx_logs config tick sound).2) ticks (init lockedCount) start
  rw [whole]
  exact and_iff_right (history_nil (TrueTime config))

end CrfTalker

def oneTimestamp : CrfTalkerConfig where
  timestampsPerPdu := 1
  framesPerPacket := 1
  maxTransitTime := 2000000
  latency := 2000000
  positive := by decide
  few := by decide

def firstAlignment : CrfTick where
  netTxAlloc := true
  lockedCount := 0
  clockGettime := some 1000000000
  mediaClock := fun asked => [asked.getD 0,asked.getD 0 + 10000000]

theorem first_packet_ahead : ¬ History (TrueTime oneTimestamp)
    (run (CrfTalker.crfNetTx oneTimestamp) [firstAlignment] (CrfTalker.init 0)).sent := by
  intro right
  have first := right [] _ [] rfl
  have written := first.follows
  revert written
  decide

end Genavb.Avtp
