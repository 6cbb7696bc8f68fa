import Genavb.Common.ScaledNs
import Genavb.Gptp.Forgetting
import Genavb.Gptp.Intervals

/-! What becomes of a received Announce message: whether it has gone in a loop, and how its
information compares with that of the port (`port_fsm.c`, `bmca.c`). -/
namespace Genavb.Gptp
open Support GptpInstance Common

def ETH_HDR_SIZE : Nat := 14

namespace NetRxDesc

structure Foreign (own : ClockIdentity) (desc : NetRxDesc) : Prop where
  counts : desc.Counts own
  trace : desc.pathTraceTlv → ∀ index, index < desc.tlvLength / 8 → desc.pathEntry index ≠ own

def Aligned (desc : NetRxDesc) : Prop := desc.pathTraceTlv → desc.tlvLength % 8 = 0

variable {own : ClockIdentity} {desc : NetRxDesc}

theorem Whole.pathCount (whole : desc.Whole own) (header : ETH_HDR_SIZE ≤ desc.headerLen) (fits : desc.fits = true)
    (counts : desc.Counts own) (traced : desc.pathTraceTlv) (aligned : desc.tlvLength % 8 = 0)
    (apart : ∀ index, index < desc.pathCount → desc.pathEntry index ≠ own) : desc.pathCount = desc.tlvLength / 8 := by
  have size : desc.len.toNat ≤ 68 + 16 * 8 := of_decide_eq_true fits
  have header : 14 ≤ desc.headerLen := header
  by_contra passed
  have clipped : desc.pathCount = 15 := by
    unfold NetRxDesc.pathCount MAX_PTLV_ENTRIES at passed ⊢
    omega
  have last := whole.entries counts traced aligned 14 (by omega) fun before earlier => apart before (by omega)
  unfold messageLen at last
  omega

theorem Whole.foreign_iff (whole : desc.Whole own) (header : ETH_HDR_SIZE ≤ desc.headerLen) (fits : desc.fits = true) :
    (desc.Counts own ∧ (desc.pathTraceTlv → desc.tlvLength % 8 = 0 ∧
      ∀ index, index < desc.pathCount → desc.pathEntry index ≠ own)) ↔ desc.Foreign own ∧ desc.Aligned := by
  constructor
  · rintro ⟨counts,path⟩
    refine ⟨⟨counts,fun traced => ?_⟩,fun traced => (path traced).1⟩
    obtain ⟨aligned,apart⟩ := path traced
    rw [← whole.pathCount header fits counts traced aligned apart]
    exact apart
  · rintro ⟨foreign,aligned⟩
    refine ⟨foreign.counts,fun traced => ⟨aligned traced,fun index inside => ?_⟩⟩
    apply foreign.trace traced index
    unfold NetRxDesc.pathCount at inside
    omega

end NetRxDesc

section Refusal
variable {inst : GptpInstance} {port : Nat} {announce : AnnouncePdu}

def Untouched (port : Nat) (before after : GptpInstance) : Prop :=
  ∃ announceRx rcvdAnnouncePtr announceRcvState, after = before.setPort port {before.ports port with
    announceRx := announceRx
    rcvdAnnouncePtr := rcvdAnnouncePtr
    announceRcvState := announceRcvState}

theorem Untouched.refl (port : Nat) (inst : GptpInstance) : Untouched port inst inst := by
  refine ⟨(inst.ports port).announceRx,(inst.ports port).rcvdAnnouncePtr,(inst.ports port).announceRcvState,?_⟩
  simp [setPort]

namespace GptpInstance

theorem untouched_refused (quiet : (inst.ports port).rcvdMsg = false) (idle : (inst.ports port).rcvdAnnouncePar = false)
    (announce : AnnouncePdu) : Untouched port inst (inst.setPort port (pending announce false (inst.ports port))) := by
  refine ⟨announce,true,.receive,congrArg (inst.setPort port) ?_⟩
  simp [pending,quiet,idle]

theorem untouched_discarded (quiet : (inst.ports port).rcvdMsg = false)
    (idle : (inst.ports port).rcvdAnnouncePar = false)
    (announce : AnnouncePdu) : Untouched port inst (inst.setPort port (discarded announce (inst.ports port))) := by
  refine ⟨announce,true,.discard,congrArg (inst.setPort port) ?_⟩
  simp [discarded,arrived,quiet,idle]

theorem portAnnounceRcvSm_refuses (rest : inst.Rest) (inside : port < inst.numberPorts)
    (capable : (inst.ports port).capable = true) (refused : inst.announceQualifies announce = false) :
    (inst.setPort port (arrived announce (inst.ports port))).portAnnounceRcvSm port =
      inst.setPort port (pending announce false (inst.ports port)) := by
  have here := rest.ports port inside
  have total : (inst.setPort port (pending announce false (inst.ports port))).Rest := by
    have whole := (rest.but inside (inst.ports port)).rest (rest_unqualified announce here)
    rw [setPort_setPort] at whole
    exact whole
  have received : (inst.setPort port (arrived announce (inst.ports port))).rcvSmReceive port =
      inst.setPort port (pending announce false (inst.ports port)) := by
    rw [rcvSmReceive_arrived,refused,if_neg Bool.false_ne_true]
    exact infoSm_rest total inside
  have pass : (inst.setPort port (arrived announce (inst.ports port))).rcvSmPass port =
      inst.setPort port (pending announce false (inst.ports port)) := by
    have on : (arrived announce (inst.ports port)).capable = true := capable
    have quiet : (arrived announce (inst.ports port)).rcvdMsg = false := here.noMessage
    unfold rcvSmPass
    rw [setPort_same,on,quiet,received]
    cases (arrived announce (inst.ports port)).announceRcvState <;> rfl
  have again : (inst.setPort port (pending announce false (inst.ports port))).rcvSmPass port =
      inst.setPort port (pending announce false (inst.ports port)) := by
    simp [rcvSmPass,pending]
  unfold portAnnounceRcvSm
  dsimp only
  rw [pass,again,ite_self]
  have running : (inst.setPort port (arrived announce (inst.ports port))).Running :=
    {rest.running with}
  have on : (arrived announce (inst.ports port)).capable = true := capable
  rw [running.standard,running.notBegin,running.instanceEnable,setPort_same,on]
  simp

theorem gptpHandleAnnounce_refuses (rest : inst.Rest) (inside : port < inst.numberPorts) (fits : Bool)
    (refused : fits = true → (inst.ports port).capable = true → inst.announceQualifies announce = false) :
    Untouched port inst (inst.gptpHandleAnnounce port announce fits) := by
  have here := rest.ports port inside
  unfold gptpHandleAnnounce
  rw [rest.running.standard]
  cases fits with
  | false => exact .refl port inst
  | true =>
    change Untouched port inst ((inst.setPort port (arrived announce (inst.ports port))).portAnnounceRcvSm port)
    cases capable : (inst.ports port).capable with
    | true =>
      rw [portAnnounceRcvSm_refuses rest inside capable (refused rfl capable)]
      exact untouched_refused here.noMessage here.noAnnounce announce
    | false =>
      rw [portAnnounceRcvSm_discards inst announce rest.running.standard capable]
      exact untouched_discarded here.noMessage here.noAnnounce announce

end GptpInstance

end Refusal

namespace BufferedInstance

/-- An Announce that is read qualifies exactly if it is `proper`, and any other one leaves what the selection works on
as it was. -/
structure Judges (port : Nat) (desc : NetRxDesc) (proper : Prop) (state : BufferedInstance) : Prop where
  qualified : state.reads port desc = true →
    ((state.inst.qualifyAnnounce port (announceOf (desc.copied (state.buffers port)))).2 = true ↔ proper)
  untouched : (state.reads port desc = true → ¬proper) →
    Untouched port state.inst.drained (state.step (.announce port desc)).inst

section Judgement
variable {port : Nat} {desc : NetRxDesc} {state : BufferedInstance}

private theorem announceQualifies_whole (header : ETH_HDR_SIZE ≤ desc.headerLen) (reads : state.reads port desc = true)
    (whole : desc.Whole state.inst.thisClock) :
    state.inst.announceQualifies (announceOf (desc.copied (state.buffers port))) = true ↔
      desc.Foreign state.inst.thisClock ∧ desc.Aligned := by
  have fits : desc.fits = true := by
    simp only [BufferedInstance.reads,Bool.and_eq_true] at reads
    exact reads.1.1.2
  exact (whole.qualifies fun index inside => NetRxDesc.copied_message inside).trans (whole.foreign_iff header fits)

theorem step_untouched (rests : state.inst.Rest ∨ state.Idle) (refused : state.reads port desc = true →
      state.inst.announceQualifies (announceOf (desc.copied (state.buffers port))) = false) :
    Untouched port state.inst.drained (state.step (.announce port desc)).inst := by
  rcases rests with rest | idle
  case inr =>
    rw [idle.announce]
    exact .refl port _
  case inl =>
    have drained := drained_rest rest
    rw [step_announce]
    unfold gptpStep
    rw [drained.running.instanceEnable]
    dsimp only
    by_cases inside : port < state.inst.drained.numberPorts
    case neg =>
      rw [if_neg inside]
      exact .refl port _
    case pos =>
      rw [if_pos inside]
      apply gptpHandleAnnounce_refuses drained inside
      intro fits capable
      apply refused
      have standard : state.inst.config.automotive = false := rest.running.standard
      have runs : state.inst.config.instanceEnable = true := rest.running.instanceEnable
      have capable : (state.inst.ports port).capable = true := capable
      have inside : port < state.inst.numberPorts := inside
      simp [BufferedInstance.reads,standard,runs,fits,inside,capable]

end Judgement

/-- An Announce that has gone in a loop does not qualify and changes nothing; any other one with whole entries
qualifies. -/
theorem loops_detected (config : GptpConfig) (system : SystemParams) (sysProperties : TimeProperties)
    (enabled : Nat → Bool) (inputs : List NetInput) (port : Nat) (desc : NetRxDesc)
    (header : ETH_HDR_SIZE ≤ desc.headerLen)
    (whole : (run step inputs (start config system sysProperties enabled)).reads port desc = true →
      desc.Whole (run step inputs (start config system sysProperties enabled)).inst.thisClock) :
    (run step inputs (start config system sysProperties enabled)).Judges port desc
      (desc.Foreign (run step inputs (start config system sysProperties enabled)).inst.thisClock ∧ desc.Aligned) := by
  have rests := run_rests config system sysProperties enabled inputs
  generalize run step inputs (start config system sysProperties enabled) = state at whole rests
  constructor
  · intro reads
    rw [qualifyAnnounce_decision]
    exact announceQualifies_whole header reads (whole reads)
  · intro improper
    apply step_untouched rests
    intro reads
    rw [Bool.eq_false_iff]
    exact fun qualifies => improper reads ((announceQualifies_whole header reads (whole reads)).mp qualifies)

theorem loops_detected_traced :
    (run step [linkUp,becomesCapable] twoBufferedPorts).Judges 1 (tracedAnnounce 106)
      ((tracedAnnounce 106).Foreign (run step [linkUp,becomesCapable] twoBufferedPorts).inst.thisClock ∧
        (tracedAnnounce 106).Aligned) :=
  loops_detected _ _ _ _ [linkUp,becomesCapable] 1 (tracedAnnounce 106) (by decide) fun _ => tracedAnnounce_whole _

def unalignedAnnounce : NetRxDesc := ⟨86,14,fun index => if index = 65 then 8 else if index = 67 then 4 else 0⟩

/-- An Announce with half an entry in its path trace does not qualify, wherever it comes from. -/
theorem unaligned_refused : ¬∀ (config : GptpConfig) (system : SystemParams) (sysProperties : TimeProperties)
    (enabled : Nat → Bool) (inputs : List NetInput) (port : Nat) (desc : NetRxDesc), ETH_HDR_SIZE ≤ desc.headerLen →
    ((run step inputs (start config system sysProperties enabled)).reads port desc = true →
      desc.Whole (run step inputs (start config system sysProperties enabled)).inst.thisClock) →
    (run step inputs (start config system sysProperties enabled)).Judges port desc
      (desc.Foreign (run step inputs (start config system sysProperties enabled)).inst.thisClock) := by
  intro judges
  have whole (own : ClockIdentity) : unalignedAnnounce.Whole own :=
    ⟨by decide,fun _ => by decide,fun _ => by decide,fun _ _ => by decide,
      fun _ _ aligned => absurd aligned (by decide)⟩
  have judged := judges ⟨false,0,true,false,2,by decide,rfl⟩ (.priorityVectorUpdate 9 true 246 ⟨248,254,100⟩ 248) .zero
    (fun _ => true) [linkUp,becomesCapable] 1 unalignedAnnounce (by decide) fun _ => whole _
  have qualifies := (judged.qualified (by decide +kernel)).mpr
    ⟨⟨by decide +kernel,by decide⟩,fun _ index inside => absurd inside (by simp [show unalignedAnnounce.tlvLength = 4 from rfl])⟩
  revert qualifies
  decide +kernel

end BufferedInstance

open GptpInstance (messageVector)

inductive AnnouncePrio
  | superiorMasterInfo
  | repeatedMasterInfo
  | inferiorMasterInfo
  deriving DecidableEq

/-- An instance with what else received information changes: the number of grandmaster changes, and for each port the
announce receipt timeout, in intervals, as an interval, and as the timer with its ms. -/
structure InfoView where
  inst : GptpInstance
  gmChangeCount : UInt32
  announceReceiptTimeout : Nat → UInt8
  timeoutTimeInterval : Nat → UScaledNs
  timeoutTimer : Nat → Option Nat

namespace InfoView
-- `select` is the port state selection machine.
variable (select : InfoView → InfoView) (port : Nat)

def restartTimeout (interval : UInt64) (view : InfoView) : InfoView :=
  {view with timeoutTimer := Function.update view.timeoutTimer port (restartMs interval.toNat)}

def gmChange (view : InfoView) : InfoView := {view with gmChangeCount := view.gmChangeCount + 1}

def infoSmSuperior (logMsgInterval : Int8) (view : InfoView) : InfoView :=
  let interval := (view.announceReceiptTimeout port).toUInt64 * .ofNat (logToNs logMsgInterval)
  let view := {view with
    inst := view.inst.infoSmSuperior id port
    timeoutTimeInterval := Function.update view.timeoutTimeInterval port (u64ToUScaledNs interval)}
  select (view.restartTimeout port interval).gmChange

def infoSmRepeated (view : InfoView) : InfoView :=
  let view := view.restartTimeout port (uScaledNsToU64 (view.timeoutTimeInterval port))
  {view with inst := view.inst.infoSmRepeated port}

def infoSmInferior (view : InfoView) : InfoView := {view.gmChange with inst := view.inst.infoSmInferior port}

def rcvdInfo (inst : GptpInstance) : AnnouncePrio :=
  match compareMsgPriorityVector (inst.ports port).messagePriority (inst.ports port).portPriority with
  | .aBetter => .superiorMasterInfo
  | .aBSame => .repeatedMasterInfo
  | .bBetter => .inferiorMasterInfo

def infoSmReceive (logMsgInterval : Int8) (view : InfoView) : InfoView :=
  if !(view.inst.ports port).rcvdAnnouncePtr then {view with inst := view.inst.faulted}
  else
    let view := {view with inst := view.inst.rcvInfo port}
    match rcvdInfo port view.inst with
    | .superiorMasterInfo => view.infoSmSuperior select port logMsgInterval
    | .repeatedMasterInfo => view.infoSmRepeated port
    | .inferiorMasterInfo => view.infoSmInferior port

def delivered (announce : AnnouncePdu) (view : InfoView) : InfoView :=
  {view with inst := view.inst.setPort port (pending announce true (view.inst.ports port))}

end InfoView

open InfoView

section Classes
variable {select : InfoView → InfoView} {port : Nat} {announce : AnnouncePdu} {logMsgInterval : Int8} {view : InfoView}

/-- The vector of a message is that of the port, or the better one, or another one of the same sender, or worse. -/
structure Classifies (message stored : PriorityVector) (info : AnnouncePrio) : Prop where
  superior : info = .superiorMasterInfo ↔
    message ≠ stored ∧ (message < stored ∨ message.sourcePortIdentity = stored.sourcePortIdentity)
  repeated : info = .repeatedMasterInfo ↔ message = stored
  inferior : info = .inferiorMasterInfo ↔
    stored < message ∧ message.sourcePortIdentity ≠ stored.sourcePortIdentity

/-- A repeated Announce only restarts the announce receipt timeout. -/
structure Undisturbed (port : Nat) (before after : InfoView) : Prop where
  restarted : after.timeoutTimer port =
    restartMs (uScaledNsToU64 (before.timeoutTimeInterval port)).toNat
  roles : after.inst.selectedRole = before.inst.selectedRole
  reselect : after.inst.reselect = before.inst.reselect
  selected : after.inst.selected = before.inst.selected
  gmChangeCount : after.gmChangeCount = before.gmChangeCount

/-- An Announce is classified by its vector, and nothing is disturbed if it is repeated. -/
structure Proper (select : InfoView → InfoView) (port : Nat) (announce : AnnouncePdu) (logMsgInterval : Int8)
    (view : InfoView) : Prop where
  classifies : Classifies (messageVector port announce) (view.inst.ports port).portPriority
    (rcvdInfo port ((view.delivered port announce).inst.rcvInfo port))
  undisturbed : messageVector port announce = (view.inst.ports port).portPriority →
    Undisturbed port view ((view.delivered port announce).infoSmReceive select port logMsgInterval)

theorem comparePriorityVector_aBetter (a b : PriorityVector) : comparePriorityVector a b = .aBetter ↔ a < b := by
  unfold comparePriorityVector
  rw [ofMemcmp_aBetter,memcmp_priorityVector,compare_lt_iff_lt]

private theorem memcmp_source (a b : PriorityVector) :
    memcmp a.sourcePortIdentity.bytes b.sourcePortIdentity.bytes = .eq ↔
      a.sourcePortIdentity = b.sourcePortIdentity := by
  rw [memcmp_portIdentity,compare_eq_iff_eq]

private theorem rcvdInfo_delivered : rcvdInfo port ((view.delivered port announce).inst.rcvInfo port) =
    match compareMsgPriorityVector (messageVector port announce) (view.inst.ports port).portPriority with
    | .aBetter => .superiorMasterInfo
    | .aBSame => .repeatedMasterInfo
    | .bBetter => .inferiorMasterInfo := by
  unfold rcvdInfo delivered
  simp only [rcvInfo,setPort_same,pending]

private theorem rcvdInfo_sameSource (same : (messageVector port announce).sourcePortIdentity =
    (view.inst.ports port).portPriority.sourcePortIdentity) :
    rcvdInfo port ((view.delivered port announce).inst.rcvInfo port) = .superiorMasterInfo := by
  rw [rcvdInfo_delivered,compareMsgPriorityVector,if_pos ((memcmp_source _ _).mpr same)]

theorem classifies_sameSource {message stored : PriorityVector} (differs : message ≠ stored)
    (same : message.sourcePortIdentity = stored.sourcePortIdentity) : Classifies message stored .superiorMasterInfo := by
  constructor
  · simp [differs,same]
  · simp [differs]
  · simp [same]

theorem classifies_otherSource {message stored : PriorityVector}
    (apart : message.sourcePortIdentity ≠ stored.sourcePortIdentity) :
    Classifies message stored (match comparePriorityVector message stored with
      | .aBetter => .superiorMasterInfo
      | .aBSame => .repeatedMasterInfo
      | .bBetter => .inferiorMasterInfo) := by
  have differs : message ≠ stored := fun same => apart (congrArg _ same)
  rcases lt_or_gt_of_ne differs with better | worse
  · rw [(comparePriorityVector_aBetter _ _).mpr better]
    constructor
    · simp [differs,better]
    · simp [differs]
    · simp [not_lt_of_gt better]
  · rw [(comparePriorityVector_bBetter _ _).mpr worse]
    constructor
    · simp [differs,apart,not_lt_of_gt worse]
    · simp [differs]
    · simp [apart,worse]

end Classes

/-- Every Announce is classified properly but the repeated ones, which are all taken as superior. -/
theorem announces_classified (select : InfoView → InfoView) (port : Nat) (announce : AnnouncePdu)
    (logMsgInterval : Int8) (view : InfoView) : Proper select port announce logMsgInterval view ↔
      messageVector port announce ≠ (view.inst.ports port).portPriority := by
  constructor
  · intro proper same
    have superior := @rcvdInfo_sameSource port announce view (congrArg PriorityVector.sourcePortIdentity same)
    rw [proper.classifies.repeated.mpr same] at superior
    cases superior
  · intro differs
    refine ⟨?_,fun same => absurd same differs⟩
    by_cases source : (messageVector port announce).sourcePortIdentity =
        (view.inst.ports port).portPriority.sourcePortIdentity
    · rw [rcvdInfo_sameSource source]
      exact classifies_sameSource differs source
    · rw [rcvdInfo_delivered,compareMsgPriorityVector,if_neg fun same => source ((memcmp_source _ _).mp same)]
      exact classifies_otherSource source

section Examples
open BufferedInstance

def followingView : InfoView where
  inst := (run step [linkUp,becomesCapable,.announce 1 (tracedAnnounce 106)] twoBufferedPorts).inst
  gmChangeCount := 1
  announceReceiptTimeout := fun _ => 3
  timeoutTimeInterval := fun _ => u64ToUScaledNs 3000000000
  timeoutTimer := fun _ => some 3000

/-- The same announce is superior once more. -/
theorem repeated_superior : ¬∀ (select : InfoView → InfoView) (port : Nat) (announce : AnnouncePdu)
    (logMsgInterval : Int8) (view : InfoView), Proper select port announce logMsgInterval view := by
  intro proper
  have repeated := (proper id 1 (announceOf (tracedAnnounce 106).data) 0 followingView).classifies.repeated.mpr
    (by decide +kernel)
  revert repeated
  decide +kernel

end Examples

end Genavb.Gptp
