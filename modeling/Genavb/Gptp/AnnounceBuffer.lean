import Genavb.Gptp.Announce

/-! The bytes of the Announce messages: a received frame is copied with its length into the buffer
of its port, which keeps what it held beyond, and the message is read from the buffer. -/
namespace Genavb.Gptp
open AnnouncePdu

def ntoh (bytes : Nat → UInt8) (offset : Nat) : Nat → Nat
  | 0 => 0
  | count + 1 => ntoh bytes offset count * 256 + (bytes (offset + count)).toNat

def ntohs (bytes : Nat → UInt8) (offset : Nat) : UInt16 := .ofNat (ntoh bytes offset 2)
def ntohll (bytes : Nat → UInt8) (offset : Nat) : UInt64 := .ofNat (ntoh bytes offset 8)

/-- The flags, the offset to UTC and the time source of `record_other_announce_info`. -/
def announceProperties (bytes : Nat → UInt8) : TimeProperties where
  leap61 := ntohs bytes 6 &&& 1 ≠ 0
  leap59 := ntohs bytes 6 &&& 2 ≠ 0
  currentUtcOffsetValid := ntohs bytes 6 &&& 4 ≠ 0
  timeTraceable := ntohs bytes 6 &&& 16 ≠ 0
  frequencyTraceable := ntohs bytes 6 &&& 32 ≠ 0
  currentUtcOffset := ntohs bytes 44
  timeSource := bytes 63

def announceOf (bytes : Nat → UInt8) : AnnouncePdu where
  sourcePortId := ⟨ntohll bytes 20,ntohs bytes 28⟩
  properties := announceProperties bytes
  grandmasterPriority1 := bytes 47
  grandmasterClockQuality := ⟨bytes 48,bytes 49,ntohs bytes 50⟩
  grandmasterPriority2 := bytes 52
  grandmasterIdentity := ntohll bytes 53
  stepsRemoved := ntohs bytes 61
  tlvType := ntohs bytes 64
  tlvLength := ntohs bytes 66
  pathSequence := .ofFn fun index => ntohll bytes (68 + 8 * index)

/-- A received frame: `len` counts the header of the frame as well, while `data` is the memory from
the message on, with what follows the frame. -/
structure NetRxDesc where
  len : UInt16
  headerLen : Nat
  data : Nat → UInt8

namespace NetRxDesc

def messageLen (desc : NetRxDesc) : Nat := desc.len.toNat - desc.headerLen

def fits (desc : NetRxDesc) : Bool := desc.len.toNat ≤ ANNOUNCE_PDU_SIZE

def copied (desc : NetRxDesc) (buffer : Nat → UInt8) : Nat → UInt8 :=
  fun index => if index < desc.len.toNat then desc.data index else buffer index

def pathTraceTlv (desc : NetRxDesc) : Prop := ntohs desc.data 64 = PTP_TLV_TYPE_PATH_TRACE
def tlvLength (desc : NetRxDesc) : Nat := (ntohs desc.data 66).toNat
def pathEntry (desc : NetRxDesc) (index : Nat) : ClockIdentity := ntohll desc.data (68 + 8 * index)

def pathCount (desc : NetRxDesc) : Nat := min desc.tlvLength ((MAX_PTLV_ENTRIES - 1) * 8) / 8

structure Counts (own : ClockIdentity) (desc : NetRxDesc) : Prop where
  foreign : ntohll desc.data 20 ≠ own
  near : ntohs desc.data 61 < 255

/-- Whatever the parser goes on to read lies within the message. -/
structure Whole (own : ClockIdentity) (desc : NetRxDesc) : Prop where
  clock : 28 ≤ desc.messageLen
  steps : ntohll desc.data 20 ≠ own → 63 ≤ desc.messageLen
  tlvType : desc.Counts own → 66 ≤ desc.messageLen
  tlvLength : desc.Counts own → desc.pathTraceTlv → 68 ≤ desc.messageLen
  entries : desc.Counts own → desc.pathTraceTlv → desc.tlvLength % 8 = 0 → ∀ index, index < desc.pathCount →
    (∀ before, before < index → desc.pathEntry before ≠ own) → 76 + 8 * index ≤ desc.messageLen

structure SameMessage (first second : NetRxDesc) : Prop where
  len : second.len = first.len
  headerLen : second.headerLen = first.headerLen
  data : ∀ index, index < first.messageLen → second.data index = first.data index

end NetRxDesc

inductive NetInput where
  | announce (port : Nat) (desc : NetRxDesc)
  | event (input : GptpInput) (quiet : ∀ port announce fits, input ≠ .announce port announce fits)

def NetInput.Same : NetInput → NetInput → Prop
  | .announce port desc,.announce other desc' => other = port ∧ desc.SameMessage desc'
  | .event input _,.event other _ => other = input
  | _,_ => False

/-- An instance with the bytes of `announce_rx` of its ports. -/
structure BufferedInstance where
  inst : GptpInstance
  buffers : Nat → Nat → UInt8

/-- What can be seen of a step: whether its announce qualifies, the path trace afterwards and the
messages sent. -/
structure Observation where
  qualified : Bool
  pathTrace : List ClockIdentity
  outputs : List GptpOutput
  deriving DecidableEq

def GptpInstance.drained (inst : GptpInstance) : GptpInstance := {inst with outputs := []}

namespace BufferedInstance

def step (input : NetInput) (state : BufferedInstance) : BufferedInstance :=
  let inst := state.inst.drained
  match input with
  | .announce port desc =>
    if inst.config.automotive || !desc.fits then ⟨inst,state.buffers⟩
    else
      let buffer := desc.copied (state.buffers port)
      ⟨gptpStep (.announce port (announceOf buffer) true) inst,Function.update state.buffers port buffer⟩
  | .event input _ => ⟨gptpStep input inst,state.buffers⟩

def reads (port : Nat) (desc : NetRxDesc) (state : BufferedInstance) : Bool :=
  state.inst.config.instanceEnable && !state.inst.config.automotive && desc.fits &&
    port < state.inst.numberPorts && (state.inst.ports port).capable

def qualified (input : NetInput) (state : BufferedInstance) : Bool :=
  match input with
  | .announce port desc =>
    state.reads port desc && state.inst.announceQualifies (announceOf (desc.copied (state.buffers port)))
  | .event _ _ => false

def observe (input : NetInput) (state : BufferedInstance) : Observation :=
  let next := state.step input
  ⟨state.qualified input,next.inst.pathEntries next.inst.numPtlv,next.inst.outputs⟩

def observations : List NetInput → BufferedInstance → List Observation
  | [],_ => []
  | input :: rest,state => state.observe input :: observations rest (state.step input)

def start (config : GptpConfig) (system : SystemParams) (sysProperties : TimeProperties) (enabled : Nat → Bool) :
    BufferedInstance :=
  ⟨.gptpInstanceInit config system sysProperties enabled,fun _ _ => 0⟩

end BufferedInstance

section Reading
variable {first second : Nat → UInt8} {offset count : Nat}

private theorem ntoh_congr (same : ∀ index, index < offset + count → second index = first index) :
    ntoh second offset count = ntoh first offset count := by
  induction count with
  | zero => rfl
  | succ count ih =>
    unfold ntoh
    rw [ih fun index inside => same index (by omega),same (offset + count) (by omega)]

private theorem ntohs_congr (same : ∀ index, index < offset + 2 → second index = first index) :
    ntohs second offset = ntohs first offset := congrArg UInt16.ofNat (ntoh_congr same)

private theorem ntohll_congr (same : ∀ index, index < offset + 8 → second index = first index) :
    ntohll second offset = ntohll first offset := congrArg UInt64.ofNat (ntoh_congr same)

end Reading

def AnnouncePdu.head (announce : AnnouncePdu) : AnnouncePdu :=
  {announce with tlvLength := 0,pathSequence := .replicate _ 0}

namespace GptpInstance

/-- The instance decides alike about the two messages and takes the same data from them. -/
structure SameRead (inst : GptpInstance) (first second : AnnouncePdu) : Prop where
  qualifies : inst.announceQualifies second = inst.announceQualifies first
  head : inst.announceQualifies first = true → second.head = first.head
  trace : inst.announceQualifies first = true → first.hasPathTrace = true → second.storedTrace = first.storedTrace

variable {inst : GptpInstance} {first second third : AnnouncePdu}

theorem hasPathTrace_congr (same : second.head = first.head) : second.hasPathTrace = first.hasPathTrace := by
  have heads : second.head.hasPathTrace = first.head.hasPathTrace := congrArg hasPathTrace same
  exact heads

theorem SameRead.congr {other : GptpInstance} (same : inst.SameRead first second)
    (clock : other.thisClock = inst.thisClock) :
    other.SameRead first second := by
  have judge (announce : AnnouncePdu) : other.announceQualifies announce = inst.announceQualifies announce := by
    unfold announceQualifies
    rw [clock]
  constructor
  · rw [judge,judge]
    exact same.qualifies
  · rw [judge]
    exact same.head
  · rw [judge]
    exact same.trace

theorem SameRead.symm (same : inst.SameRead first second) : inst.SameRead second first := by
  constructor
  · exact same.qualifies.symm
  · intro qualified
    exact (same.head (same.qualifies ▸ qualified)).symm
  · intro qualified traced
    have qualified' : inst.announceQualifies first = true := same.qualifies ▸ qualified
    rw [hasPathTrace_congr (same.head qualified')] at traced
    exact (same.trace qualified' traced).symm

theorem SameRead.trans (left : inst.SameRead first second) (right : inst.SameRead second third) :
    inst.SameRead first third := by
  constructor
  · exact right.qualifies.trans left.qualifies
  · intro qualified
    exact (right.head (left.qualifies.trans qualified)).trans (left.head qualified)
  · intro qualified traced
    have traced' : second.hasPathTrace = true := (hasPathTrace_congr (left.head qualified)).trans traced
    exact (right.trace (left.qualifies.trans qualified) traced').trans (left.trace qualified traced)

end GptpInstance

section Parsing
variable {bytes : Nat → UInt8} {desc : NetRxDesc} {inst : GptpInstance} {own : ClockIdentity}

private theorem storedTrace_announceOf (bytes : Nat → UInt8) : (announceOf bytes).storedTrace =
    (List.range (min (ntohs bytes 66).toNat ((MAX_PTLV_ENTRIES - 1) * 8) / 8)).map fun index =>
      ntohll bytes (68 + 8 * index) := by
  unfold storedTrace announceOf MAX_PTLV_ENTRIES
  refine List.ext_getElem ?_ fun index inside _ => ?_
  · simp only [List.length_take,Vector.length_toList,List.length_map,List.length_range]
    omega
  · simp only [List.getElem_take,Vector.getElem_toList,Vector.getElem_ofFn,List.getElem_map,List.getElem_range]

theorem all_entries (holds : ∀ index, index < desc.messageLen → bytes index = desc.data index)
    (entries : ∀ index, index < desc.pathCount → (∀ before, before < index → desc.pathEntry before ≠ own) →
      76 + 8 * index ≤ desc.messageLen) :
    (∀ index, index < desc.pathCount → ntohll bytes (68 + 8 * index) ≠ own) ↔
      ∀ index, index < desc.pathCount → desc.pathEntry index ≠ own := by
  have read (index : Nat) (inside : 76 + 8 * index ≤ desc.messageLen) :
      ntohll bytes (68 + 8 * index) = desc.pathEntry index :=
    ntohll_congr fun position within => holds position (by omega)
  constructor
  · intro apart index
    induction index using Nat.strong_induction_on with
    | _ index ih =>
      intro inside
      have within := entries index inside fun before earlier => ih before earlier (by omega)
      rw [← read index within]
      exact apart index inside
  · intro apart index inside
    rw [read index (entries index inside fun before earlier => apart before (by omega))]
    exact apart index inside

theorem storedTrace_all (bytes : Nat → UInt8) : (announceOf bytes).storedTrace.all (fun entry => entry ≠ own) = true ↔
    ∀ index, index < min (ntohs bytes 66).toNat ((MAX_PTLV_ENTRIES - 1) * 8) / 8 → ntohll bytes (68 + 8 * index) ≠ own := by
  simp [storedTrace_announceOf]

theorem announceQualifies_iff (bytes : Nat → UInt8) : inst.announceQualifies (announceOf bytes) = true ↔
    (ntohll bytes 20 ≠ inst.thisClock ∧ ntohs bytes 61 < 255) ∧ (ntohs bytes 64 = PTP_TLV_TYPE_PATH_TRACE →
      (ntohs bytes 66).toNat % 8 = 0 ∧
      ∀ index, index < min (ntohs bytes 66).toNat ((MAX_PTLV_ENTRIES - 1) * 8) / 8 →
        ntohll bytes (68 + 8 * index) ≠ inst.thisClock) := by
  rw [← storedTrace_all]
  unfold GptpInstance.announceQualifies hasPathTrace
  have clock : (announceOf bytes).sourcePortId.clockIdentity = ntohll bytes 20 := rfl
  have steps : (announceOf bytes).stepsRemoved = ntohs bytes 61 := rfl
  have kind : (announceOf bytes).tlvType = ntohs bytes 64 := rfl
  have length : (announceOf bytes).tlvLength = ntohs bytes 66 := rfl
  rw [clock,steps,kind,length]
  by_cases traced : ntohs bytes 64 = PTP_TLV_TYPE_PATH_TRACE <;> simp [traced]

private theorem ntohs_message (holds : ∀ index, index < desc.messageLen → bytes index = desc.data index) {offset : Nat}
    (inside : offset + 2 ≤ desc.messageLen) : ntohs bytes offset = ntohs desc.data offset :=
  ntohs_congr fun index within => holds index (by omega)

namespace NetRxDesc.Whole

variable (whole : desc.Whole inst.thisClock)
  (holds : ∀ index, index < desc.messageLen → bytes index = desc.data index)
include whole holds

theorem counts_iff : (ntohll bytes 20 ≠ inst.thisClock ∧ ntohs bytes 61 < 255) ↔ desc.Counts inst.thisClock := by
  have clock : ntohll bytes 20 = ntohll desc.data 20 :=
    ntohll_congr fun index within => holds index (by have := whole.clock; omega)
  rw [clock]
  constructor
  · intro counts
    have steps := ntohs_message holds (whole.steps counts.1)
    rw [steps] at counts
    exact ⟨counts.1,counts.2⟩
  · intro counts
    have steps := ntohs_message holds (whole.steps counts.foreign)
    rw [steps]
    exact ⟨counts.foreign,counts.near⟩

theorem qualifies : inst.announceQualifies (announceOf bytes) = true ↔ desc.Counts inst.thisClock ∧
    (desc.pathTraceTlv → desc.tlvLength % 8 = 0 ∧ ∀ index, index < desc.pathCount → desc.pathEntry index ≠ inst.thisClock) := by
  rw [announceQualifies_iff,whole.counts_iff holds]
  refine and_congr_right fun counts => ?_
  rw [ntohs_message holds (whole.tlvType counts)]
  refine imp_congr_right fun traced => ?_
  rw [ntohs_message holds (whole.tlvLength counts traced)]
  exact and_congr_right fun aligned => all_entries holds (whole.entries counts traced aligned)

theorem sameRead : inst.SameRead (announceOf desc.data) (announceOf bytes) := by
  have own : ∀ index, index < desc.messageLen → desc.data index = desc.data index := fun _ _ => rfl
  have qualifies := (whole.qualifies holds).trans (whole.qualifies own).symm
  constructor
  · exact Bool.eq_iff_iff.mpr qualifies
  · intro qualified
    have fixed := whole.tlvType ((whole.qualifies own).mp qualified).1
    have one (index : Nat) (inside : index < 66) : bytes index = desc.data index := holds index (by omega)
    have two (offset : Nat) (inside : offset + 2 ≤ 66) : ntohs bytes offset = ntohs desc.data offset :=
      ntohs_congr fun index within => one index (by omega)
    have eight (offset : Nat) (inside : offset + 8 ≤ 66) : ntohll bytes offset = ntohll desc.data offset :=
      ntohll_congr fun index within => one index (by omega)
    unfold head announceOf announceProperties
    simp only [two,eight,one,Nat.reduceAdd,Nat.reduceLT,Nat.reduceLeDiff]
  · intro qualified traced
    obtain ⟨counts,path⟩ := (whole.qualifies own).mp qualified
    have kind : ntohs desc.data 64 = PTP_TLV_TYPE_PATH_TRACE := of_decide_eq_true traced
    have traced : desc.pathTraceTlv := kind
    obtain ⟨aligned,apart⟩ := path traced
    rw [storedTrace_announceOf,storedTrace_announceOf,ntohs_message holds (whole.tlvLength counts traced)]
    refine List.map_congr_left fun index member => ?_
    have inside : index < desc.pathCount := List.mem_range.mp member
    have within := whole.entries counts traced aligned index inside fun before earlier => apart before (by omega)
    exact ntohll_congr fun position near => holds position (by omega)

end NetRxDesc.Whole

theorem NetRxDesc.copied_message {buffer : Nat → UInt8} {index : Nat} (inside : index < desc.messageLen) :
    desc.copied buffer index = desc.data index := by
  unfold messageLen at inside
  exact if_pos (by omega)

theorem NetRxDesc.SameMessage.sameRead {second : NetRxDesc} {left right : Nat → UInt8} (same : SameMessage desc second)
    (whole : desc.Whole inst.thisClock) :
    inst.SameRead (announceOf (desc.copied left)) (announceOf (second.copied right)) := by
  have messages : second.messageLen = desc.messageLen := by
    unfold NetRxDesc.messageLen
    rw [same.len,same.headerLen]
  have first : inst.SameRead (announceOf desc.data) (announceOf (desc.copied left)) :=
    whole.sameRead fun index inside => copied_message inside
  have other : inst.SameRead (announceOf desc.data) (announceOf (second.copied right)) :=
    whole.sameRead fun index inside => (copied_message (messages ▸ inside)).trans (same.data index inside)
  exact first.symm.trans other

end Parsing

end Genavb.Gptp
