import Genavb.Support.Run
import Genavb.Maap.Effect

/-! What the application has been told of a range, and what each handler adds to it. -/
namespace Genavb.Maap
open Support List

section Log
variable (port : Nat) (rangeId : UInt32)

def MaapOutput.About : MaapOutput → Prop
  | .transmit origin range .. | .indication origin range .. | .chosen origin range .. =>
    origin = port ∧ range = rangeId
  | .createResponse .. | .deleteResponse .. => False

def lastIndication (log : List MaapOutput) : Option (MacAddress × UInt16 × MaapStatus) :=
  log.foldl (fun last output =>
    match output with
    | .indication origin range _ _ _ baseAddress count status =>
      if origin = port ∧ range = rangeId then some (baseAddress,count,status) else last
    | _ => last) none

/-- The number of PROBE messages sent for these addresses since the last choice of an address of
the range. -/
def probesSent (start : MacAddress) (count : UInt16) (log : List MaapOutput) : Nat :=
  log.foldl (fun number output =>
    match output with
    | .chosen origin range _ _ => if origin = port ∧ range = rangeId then 0 else number
    | .transmit origin range _ _ pdu =>
      if origin = port ∧ range = rangeId ∧ pdu.messageType = MAAP_PROBE ∧ pdu.requestedStartAddress = start ∧
        pdu.requestedCount = count then number + 1 else number
    | _ => number) 0

variable {port rangeId} {log : List MaapOutput} {output : MaapOutput} {start : MacAddress} {count : UInt16}

theorem lastIndication_quiet (quiet : ∀ origin range sync portId id baseAddress count status,
    output = .indication origin range sync portId id baseAddress count status → ¬ output.About port rangeId) :
    lastIndication port rangeId (log ++ [output]) = lastIndication port rangeId log := by
  unfold lastIndication
  rw [foldl_append]
  cases output with
  | indication origin range sync portId id baseAddress count status => exact if_neg (quiet _ _ _ _ _ _ _ _ rfl)
  | transmit | createResponse | deleteResponse | chosen => rfl

theorem lastIndication_indication {sync : Bool} {portId : UInt16} {id : UInt32} {status : MaapStatus} :
    lastIndication port rangeId (log ++ [.indication port rangeId sync portId id start count status]) =
      some (start,count,status) := by
  unfold lastIndication
  rw [foldl_append]
  exact if_pos ⟨rfl,rfl⟩

theorem probesSent_le (kept : ∀ start count, output ≠ .chosen port rangeId start count) :
    probesSent port rangeId start count log ≤ probesSent port rangeId start count (log ++ [output]) := by
  unfold probesSent
  rw [foldl_append]
  cases output with
  | chosen origin range start count =>
    simp only [foldl_cons,foldl_nil]
    split
    next same =>
      obtain ⟨rfl,rfl⟩ := same
      exact absurd rfl (kept start count)
    · exact le_rfl
  | transmit =>
    simp only [foldl_cons,foldl_nil]
    split
    · exact Nat.le_succ _
    · exact le_rfl
  | indication | createResponse | deleteResponse => exact le_rfl

theorem probesSent_probe {dst : MacAddress} {ethertype : UInt16} {pdu : MaapPdu}
    (probe : pdu.messageType = MAAP_PROBE) :
    probesSent port rangeId pdu.requestedStartAddress pdu.requestedCount
        (log ++ [.transmit port rangeId dst ethertype pdu]) =
      probesSent port rangeId pdu.requestedStartAddress pdu.requestedCount log + 1 := by
  unfold probesSent
  rw [foldl_append]
  exact if_pos ⟨rfl,rfl,probe,rfl,rfl⟩

theorem probesSent_other (other : ¬ output.About port rangeId) :
    probesSent port rangeId start count (log ++ [output]) = probesSent port rangeId start count log := by
  unfold probesSent
  rw [foldl_append]
  cases output with
  | chosen => exact if_neg other
  | transmit origin range dst ethertype pdu => exact if_neg fun same => other ⟨same.1,same.2.1⟩
  | indication | createResponse | deleteResponse => rfl

theorem probesSent_others {extra : List MaapOutput} (others : ∀ output ∈ extra, ¬ output.About port rangeId) :
    probesSent port rangeId start count (log ++ extra) = probesSent port rangeId start count log := by
  induction extra generalizing log with
  | nil => rw [append_nil]
  | cons output rest ih =>
    obtain ⟨other,others⟩ := forall_mem_cons.mp others
    rw [append_cons,ih others,probesSent_other other]

theorem probesSent_chosen {address : MacAddress} {size : Nat} :
    probesSent port rangeId start count (log ++ [.chosen port rangeId address size] ++ [output]) ≤ 1 := by
  unfold probesSent
  rw [foldl_append,foldl_append]
  simp only [foldl_cons,foldl_nil,and_self,if_true]
  cases output with
  | chosen =>
    dsimp only
    split <;> exact Nat.zero_le _
  | transmit =>
    dsimp only
    split
    · exact le_rfl
    · exact Nat.zero_le _
  | indication | createResponse | deleteResponse => exact Nat.zero_le _

def CreateAnswered (logicalPort : UInt16) (rangeId : UInt32) (log : List MaapOutput) : Prop :=
  ∃ sync dst count baseAddress, MaapOutput.createResponse sync dst .success logicalPort rangeId count baseAddress ∈ log

/-- An indication has the port and the range of the response to the create request, and a success
comes after all probes. -/
def IndicationRight (logicalPort : Nat → UInt16) (before : List MaapOutput) : MaapOutput → Prop
  | .indication origin range _ portId id baseAddress count status =>
    portId = logicalPort origin ∧ id = range ∧ CreateAnswered portId id before ∧
      (status = .success →
        MAAP_PROBE_RETRANSMITS_VAL.toNat + 1 ≤ probesSent origin range baseAddress count before)
  | .transmit .. | .createResponse .. | .deleteResponse .. | .chosen .. => True

end Log

/-- What the application knows of a range and what the range has sent fit its state. -/
structure RangeTold (port : Nat) (log : List MaapOutput) (range : MaapRange) : Prop where
  size : range.macCount ≤ MAAP_DYNAMIC_POOL_SIZE
  success : range.sendConflictIndication = true →
    lastIndication port range.rangeId log = some (range.startMacAddr,.ofNat range.macCount,.success)
  silent : range.sendConflictIndication = false →
    ∀ start count, lastIndication port range.rangeId log ≠ some (start,count,.success)
  defended : range.state = .defend → range.sendConflictIndication = true
  probed : range.state = .probe → 0 < range.maapProbeCount.toNat ∧
    range.maapProbeCount.toNat ≤ MAAP_PROBE_RETRANSMITS_VAL.toNat ∧
    MAAP_PROBE_RETRANSMITS_VAL.toNat + 1 ≤
      probesSent port range.rangeId range.startMacAddr (.ofNat range.macCount) log + range.maapProbeCount.toNat

section Frame
variable {port : Nat} {log : List MaapOutput} {range : MaapRange} {output : MaapOutput}

section
variable (told : RangeTold port log range)
include told

theorem RangeTold.append
    (quiet : ∀ origin id sync portId rangeId baseAddress count status,
      output = .indication origin id sync portId rangeId baseAddress count status →
        ¬ output.About port range.rangeId)
    (kept : ∀ start count, output ≠ .chosen port range.rangeId start count) :
    RangeTold port (log ++ [output]) range where
  size := told.size
  success := by
    rw [lastIndication_quiet quiet]
    exact told.success
  silent := by
    rw [lastIndication_quiet quiet]
    exact told.silent
  defended := told.defended
  probed := by
    intro probe
    obtain ⟨some,few,sent⟩ := told.probed probe
    exact ⟨some,few,sent.trans (Nat.add_le_add_right (probesSent_le kept) _)⟩

theorem RangeTold.other (other : ¬ output.About port range.rangeId) : RangeTold port (log ++ [output]) range :=
  told.append (fun _ _ _ _ _ _ _ _ _ => other) fun start count chosen => other (by rw [chosen]; exact ⟨rfl,rfl⟩)

theorem RangeTold.others {extra : List MaapOutput}
    (others : ∀ output ∈ extra, ¬ output.About port range.rangeId) : RangeTold port (log ++ extra) range := by
  induction extra generalizing log with
  | nil => simpa using told
  | cons output rest ih =>
    obtain ⟨other,others⟩ := forall_mem_cons.mp others
    rw [append_cons]
    exact ih (told.other other) others

theorem RangeTold.transmit (dst : MacAddress) (ethertype : UInt16)
    (pdu : MaapPdu) : RangeTold port (log ++ [.transmit port range.rangeId dst ethertype pdu]) range :=
  told.append (fun _ _ _ _ _ _ _ _ no => nomatch no) fun _ _ no => nomatch no

end

end Frame

/-- A step of one range: it only adds to the log what is about that range, in the right way. -/
structure Acts (logicalPort : Nat → UInt16) (port : Nat) (start finish : MaapRange × MaapEnv) : Prop where
  rangeId : finish.1.rangeId = start.1.rangeId
  extended : ∃ extra, finish.2.outputs = start.2.outputs ++ extra ∧
    ∀ output ∈ extra, output.About port start.1.rangeId
  told : RangeTold port start.2.outputs start.1 → RangeTold port finish.2.outputs finish.1
  right : RangeTold port start.2.outputs start.1 → History (IndicationRight logicalPort) start.2.outputs →
    History (IndicationRight logicalPort) finish.2.outputs

namespace Acts
variable {logicalPort : Nat → UInt16} {port : Nat} {range : MaapRange} {env : MaapEnv}
  {start middle finish : MaapRange × MaapEnv}

theorem refl (logicalPort : Nat → UInt16) (port : Nat) (start : MaapRange × MaapEnv) :
    Acts logicalPort port start start :=
  ⟨rfl,⟨[],(append_nil _).symm,fun _ no => absurd no not_mem_nil⟩,id,fun _ => id⟩

theorem trans (first : Acts logicalPort port start middle) (second : Acts logicalPort port middle finish) :
    Acts logicalPort port start finish where
  rangeId := second.rangeId.trans first.rangeId
  extended := by
    obtain ⟨before,equal,about⟩ := first.extended
    obtain ⟨after,equal',about'⟩ := second.extended
    refine ⟨before ++ after,by rw [equal',equal,append_assoc],?_⟩
    intro output member
    rcases mem_append.mp member with early | late
    · exact about output early
    · rw [← first.rangeId]
      exact about' output late
  told := fun told => second.told (first.told told)
  right := fun told right => second.right (first.told told) (first.right told right)

theorem emits {output : MaapOutput} {next : MaapRange} {nextEnv : MaapEnv} (rangeId : next.rangeId = range.rangeId)
    (outputs : nextEnv.outputs = env.outputs ++ [output]) (about : output.About port range.rangeId)
    (told : RangeTold port env.outputs range → RangeTold port (env.outputs ++ [output]) next)
    (right : RangeTold port env.outputs range → IndicationRight logicalPort env.outputs output) :
    Acts logicalPort port (range,env) (next,nextEnv) where
  rangeId := rangeId
  extended := ⟨[output],outputs,fun _ member => by rw [mem_singleton.mp member]; exact about⟩
  told := by
    rw [outputs]
    exact told
  right := by
    rw [outputs]
    exact fun known past => history_append past (right known)

theorem changes {next : MaapRange} {nextEnv : MaapEnv} (rangeId : next.rangeId = range.rangeId)
    (outputs : nextEnv.outputs = env.outputs)
    (told : RangeTold port env.outputs range → RangeTold port env.outputs next) :
    Acts logicalPort port (range,env) (next,nextEnv) where
  rangeId := rangeId
  extended := ⟨[],by rw [outputs,append_nil],fun _ no => absurd no not_mem_nil⟩
  told := by
    rw [outputs]
    exact told
  right := by
    rw [outputs]
    exact fun _ => id

end Acts

end Genavb.Maap

/-! What the handlers tell the application of a range: each of them keeps what is known of the
range fitting its state. -/
namespace Genavb.Maap
open Acts

section Inputs

def Indicates (localMac : MacAddress) (input : MaapInput) (range : MaapRange) : Prop :=
  match input with
  | .receive _ ethertype src pdu => Restarts localMac src pdu ethertype range = true ∧ range.sendConflictIndication = true
  | .probeTimer _ rangeId => range.rangeId = rangeId ∧ range.state = .probe ∧ range.maapProbeCount = 1
  | .create .. | .delete .. | .announceTimer .. | .macStatus .. => False

def MaapInput.port? : MaapInput → Option Nat
  | .receive port .. | .probeTimer port _ | .announceTimer port _ | .macStatus port _ => some port
  | .create .. | .delete .. => none

def MaapInput.concerns : MaapInput → MaapRange → Bool
  | .receive .. ,_ | .macStatus ..,_ => true
  | .probeTimer _ rangeId,range => range.rangeId = rangeId && range.probeTimer.isSome
  | .announceTimer _ rangeId,range => range.rangeId = rangeId && range.announceTimer.isSome
  | .create ..,_ | .delete ..,_ => false

end Inputs

section Machine
variable {logicalPort : Nat → UInt16} {port : Nat} {range : MaapRange} {env : MaapEnv}

def Numbered (logicalPort : Nat → UInt16) (port : Nat) (rangeId : UInt32) (log : List MaapOutput) : Prop :=
  .ofNat port = logicalPort port ∧ CreateAnswered (logicalPort port) rangeId log

theorem Numbered.append {rangeId : UInt32} {log : List MaapOutput} (numbered : Numbered logicalPort port rangeId log)
    (extra : List MaapOutput) : Numbered logicalPort port rangeId (log ++ extra) := by
  obtain ⟨number,sync,dst,count,baseAddress,answer⟩ := numbered
  exact ⟨number,sync,dst,count,baseAddress,List.mem_append_left _ answer⟩

private theorem probesSent_own (port : Nat) (range : MaapRange) (log : List MaapOutput) :
    probesSent port range.rangeId range.startMacAddr (.ofNat range.macCount)
        (log ++ [.transmit port range.rangeId MAAP_MULTICAST_ADDR ETHERTYPE_AVTP (range.message MAAP_PROBE)]) =
      probesSent port range.rangeId range.startMacAddr (.ofNat range.macCount) log + 1 :=
  probesSent_probe (show (range.message MAAP_PROBE).messageType = MAAP_PROBE from rfl)

theorem maapSmReserveAddress_acts (stopped : range.state = .initial) :
    Acts logicalPort port (range,env) (maapSmReserveAddress port range env) := by
  unfold maapSmReserveAddress
  rw [stopped]
  refine emits rfl rfl ⟨rfl,rfl⟩ (fun told => ?_) fun _ => trivial
  have sent := told.transmit MAAP_MULTICAST_ADDR ETHERTYPE_AVTP (range.message MAAP_PROBE)
  refine ⟨sent.size,sent.success,sent.silent,fun defend => (nomatch defend),fun _ => ⟨?_,?_,?_⟩⟩
  · exact show 0 < MAAP_PROBE_RETRANSMITS_VAL.toNat by decide
  · exact le_rfl
  · have probed := probesSent_own port range env.outputs
    exact (Nat.add_comm _ _).le.trans (Nat.add_le_add_right (Nat.le_of_add_left_le probed.ge) _)

private theorem stopped_acts : Acts logicalPort port (range,env) (range.stopped,env) := by
  unfold MaapRange.stopped
  cases state : range.state with
  | initial => exact refl ..
  | probe | defend =>
    exact changes rfl rfl fun told =>
      ⟨told.size,told.success,told.silent,fun no => (nomatch no),fun no => (nomatch no)⟩

section
variable (stopped : range.state = .initial)
include stopped

theorem notifyConflict_acts
    (numbered : range.sendConflictIndication = true → Numbered logicalPort port range.rangeId env.outputs) :
    Acts logicalPort port (range,env) (notifyConflict port range env) := by
  unfold notifyConflict
  split
  next send =>
    obtain ⟨number,answered⟩ := numbered send
    refine emits rfl rfl ⟨rfl,rfl⟩ (fun told => ?_) fun _ => ⟨number,rfl,?_,fun no => (nomatch no)⟩
    · refine ⟨told.size,fun no => (nomatch no),fun _ start count => ?_,fun defend => ?_,fun probe => ?_⟩
      · dsimp only
        rw [lastIndication_indication]
        exact fun no => by cases no
      · exact absurd (stopped.symm.trans defend) (by decide)
      · exact absurd (stopped.symm.trans probe) (by decide)
    · rw [number]
      exact answered
  · exact refl ..

theorem chosen_acts (silent : range.sendConflictIndication = false)
    (start : MacAddress) (random : Nat → Nat) :
    Acts logicalPort port (range,env) ({range with startMacAddr := start},
      {env with random := random}.emit (.chosen port range.rangeId start range.macCount)) := by
  refine emits rfl rfl ⟨rfl,rfl⟩ (fun told => ?_) fun _ => trivial
  refine ⟨told.size,fun send => absurd (silent.symm.trans send) (by decide),fun _ start count => ?_,
    fun defend => absurd (stopped.symm.trans defend) (by decide),
    fun probe => absurd (stopped.symm.trans probe) (by decide)⟩
  dsimp only
  rw [lastIndication_quiet (by simp)]
  exact told.silent silent start count

theorem maapSmRestart_acts (size : range.macCount ≤ MAAP_DYNAMIC_POOL_SIZE)
    (numbered : range.sendConflictIndication = true → Numbered logicalPort port range.rangeId env.outputs) :
    Acts logicalPort port (range,env) (maapSmRestart port range env) := by
  rw [maapSmRestart_eq stopped size]
  have notified := notifyConflict_acts stopped numbered
  rw [← Prod.mk.eta (p := notifyConflict port range env),notifyConflict_range] at notified
  have silenced : ({range with sendConflictIndication := false} : MaapRange).state = .initial := stopped
  exact (notified.trans (chosen_acts silenced rfl _ _)).trans (maapSmReserveAddress_acts stopped)

end

private theorem transmit_acts (dst : MacAddress) (ethertype : UInt16) (pdu : MaapPdu) (random : Nat → Nat)
    (timer : Option Nat) :
    Acts logicalPort port (range,env) ({range with announceTimer := timer},
      {env.emit (.transmit port range.rangeId dst ethertype pdu) with random := random}) := by
  refine emits rfl rfl ⟨rfl,rfl⟩ (fun told => ?_) fun _ => trivial
  have sent := told.transmit dst ethertype pdu
  exact {sent with}

theorem success_acts (range : MaapRange) (env : MaapEnv)
    (numbered : Numbered logicalPort port range.rangeId env.outputs) (sent : MAAP_PROBE_RETRANSMITS_VAL.toNat + 1 ≤
      probesSent port range.rangeId range.startMacAddr (.ofNat range.macCount) env.outputs) :
    Acts logicalPort port (range,env)
      ({range with probeTimer := none, sendConflictIndication := true, state := .defend},
        maapSmIndication port range .success env) := by
  obtain ⟨number,answered⟩ := numbered
  refine emits rfl rfl ⟨rfl,rfl⟩ (fun told => ?_) fun _ => ⟨number,rfl,?_,fun _ => sent⟩
  · refine ⟨told.size,fun _ => lastIndication_indication,fun no => (nomatch no),fun _ => rfl,fun no => (nomatch no)⟩
  · rw [number]
    exact answered

theorem maapSmProbeTimer_acts (told : RangeTold port env.outputs range)
    (numbered : range.state = .probe → range.maapProbeCount = 1 →
      Numbered logicalPort port range.rangeId env.outputs) :
    Acts logicalPort port (range,env) (maapSmProbeTimer port range env) := by
  unfold maapSmProbeTimer
  cases state : range.state with
  | initial | defend => exact refl ..
  | probe =>
    obtain ⟨some,few,sent⟩ := told.probed state
    have probes := probesSent_own port range env.outputs
    have less : (range.maapProbeCount - 1).toNat = range.maapProbeCount.toNat - 1 :=
      UInt32.toNat_sub_of_le _ 1 (UInt32.le_iff_toNat_le.mpr (show 1 ≤ range.maapProbeCount.toNat from some))
    dsimp only [maapSprobe,maapNetTransmit]
    split
    next last =>
      have one : range.maapProbeCount.toNat = 1 := by
        have zero := congrArg UInt32.toNat last
        rw [less,show UInt32.toNat 0 = 0 from rfl] at zero
        omega
      have numbered := numbered state (UInt32.toNat_inj.mp one)
      rw [one] at sent
      -- the last probe, the indication of the success and the first announce
      have probe : Acts logicalPort port (range,env)
          ({range with state := .initial, maapProbeCount := range.maapProbeCount - 1},
            maapNetTransmit port range MAAP_PROBE env) := by
        refine emits rfl rfl ⟨rfl,rfl⟩ (fun told => ?_) fun _ => trivial
        have sent' := told.transmit MAAP_MULTICAST_ADDR ETHERTYPE_AVTP (range.message MAAP_PROBE)
        exact ⟨sent'.size,sent'.success,sent'.silent,fun no => (nomatch no),fun no => (nomatch no)⟩
      have success := success_acts {range with state := .initial, maapProbeCount := range.maapProbeCount - 1}
        (maapNetTransmit port range MAAP_PROBE env) (numbered.append _) (sent.trans_eq probes.symm)
      unfold maapSmProbeCount
      rw [state]
      exact (probe.trans success).trans (transmit_acts ..)
    next more =>
      have left : (range.maapProbeCount - 1).toNat ≠ 0 := fun zero => more (UInt32.toNat_inj.mp zero)
      refine emits rfl rfl ⟨rfl,rfl⟩ (fun told => ?_) fun _ => trivial
      have sent' := told.transmit MAAP_MULTICAST_ADDR ETHERTYPE_AVTP (range.message MAAP_PROBE)
      refine ⟨sent'.size,sent'.success,sent'.silent,fun defend => ?_,fun _ => ⟨?_,?_,?_⟩⟩
      · exact absurd (state.symm.trans defend) (by decide)
      · exact Nat.pos_of_ne_zero left
      · dsimp only
        omega
      · dsimp only
        rw [probes]
        omega

theorem maapSmAnnounceTimer_acts : Acts logicalPort port (range,env) (maapSmAnnounceTimer port range env) := by
  unfold maapSmAnnounceTimer
  cases range.state with
  | initial | probe => exact refl ..
  | defend => exact transmit_acts ..

theorem maapSmPortOperational_acts : Acts logicalPort port (range,env) (maapSmPortOperational port range env) := by
  have stopped : Acts logicalPort port (range,env) (range.stopped,env) := stopped_acts
  have reserved := stopped.trans (maapSmReserveAddress_acts range.stopped_state)
  unfold maapSmPortOperational
  unfold MaapRange.stopped at reserved
  cases state : range.state with
  | initial | defend | probe =>
    rw [state] at reserved
    exact reserved

theorem maapNetReceive_acts {localMac src : MacAddress} {pdu : MaapPdu} {ethertype : UInt16}
    (told : RangeTold port env.outputs range)
    (numbered : Restarts localMac src pdu ethertype range = true → range.sendConflictIndication = true →
      Numbered logicalPort port range.rangeId env.outputs) :
    Acts logicalPort port (range,env) (maapNetReceive port localMac src pdu ethertype range env) := by
  rcases maapNetReceive_received port env ethertype with ⟨restarts,restart⟩ | ⟨_,same⟩ | ⟨_,_,_,conflict,_,defend⟩
  · rw [restart]
    have stop : Acts logicalPort port (range,env) (range.stopped,env) := stopped_acts
    refine stop.trans (maapSmRestart_acts range.stopped_state (stop.told told).size fun send => ?_)
    rw [stop.rangeId]
    exact numbered restarts (range.stopped_send.symm.trans send)
  · rw [same]
    exact refl ..
  · rw [defend]
    exact transmit_acts _ _ _ _ range.announceTimer

private theorem timer_acts (logicalPort : Nat → UInt16) (port : Nat) (range : MaapRange) (env : MaapEnv)
    (probeTimer announceTimer : Option Nat) :
    Acts logicalPort port (range,env) ({range with probeTimer := probeTimer, announceTimer := announceTimer},env) :=
  changes rfl rfl fun told => {told with}

theorem handleRange_acts {localMac : MacAddress} {input : MaapInput} (here : input.port? = some port)
    (concerned : input.concerns range = true) (told : RangeTold port env.outputs range)
    (numbered : Indicates localMac input range → Numbered logicalPort port range.rangeId env.outputs) :
    Acts logicalPort port (range,env) (handleRange localMac input range env) := by
  cases input with
  | create | delete => exact nomatch here
  | receive origin ethertype src pdu =>
    cases here
    exact maapNetReceive_acts told fun restarts send => numbered ⟨restarts,send⟩
  | probeTimer origin rangeId =>
    cases here
    have timer := timer_acts logicalPort port range env none range.announceTimer
    have same : range.rangeId = rangeId := by
      unfold MaapInput.concerns at concerned
      simp only [Bool.and_eq_true,decide_eq_true_eq] at concerned
      exact concerned.1
    exact timer.trans (maapSmProbeTimer_acts (timer.told told) fun probe last => numbered ⟨same,probe,last⟩)
  | announceTimer origin rangeId =>
    cases here
    have timer := timer_acts logicalPort port range env range.probeTimer none
    exact timer.trans maapSmAnnounceTimer_acts
  | macStatus origin operational =>
    cases here
    cases operational with
    | true => exact maapSmPortOperational_acts
    | false => exact refl ..

end Machine

end Genavb.Maap
