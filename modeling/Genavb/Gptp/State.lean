import Genavb.Support.BigEndian
import Mathlib.Logic.Function.Basic
import Genavb.Support.Bitmap

/-! Priority vectors of the best master selection (`ptp.h`, `bmca.c`): their layout in memory,
the comparisons of the code and the lexicographic order of IEEE 802.1AS. -/
namespace Genavb.Gptp
open Support

abbrev ClockIdentity := UInt64

structure ClockQuality where
  clockClass : UInt8
  clockAccuracy : UInt8
  offsetScaledLogVariance : UInt16
  deriving DecidableEq

structure SystemIdentity where
  priority1 : UInt8
  clockQuality : ClockQuality
  priority2 : UInt8
  clockIdentity : ClockIdentity
  deriving DecidableEq

structure PortIdentity where
  clockIdentity : ClockIdentity
  portNumber : UInt16
  deriving DecidableEq

structure PriorityVector where
  rootSystemIdentity : SystemIdentity
  stepsRemoved : UInt16
  sourcePortIdentity : PortIdentity
  portNumber : UInt16
  deriving DecidableEq

section Layout

def clockIdentityBytes (identity : ClockIdentity) : List Nat := bigEndian 8 identity.toNat

def ClockQuality.bytes (quality : ClockQuality) : List Nat :=
  bigEndian 1 quality.clockClass.toNat ++ (bigEndian 1 quality.clockAccuracy.toNat ++
    bigEndian 2 quality.offsetScaledLogVariance.toNat)

def SystemIdentity.bytes (system : SystemIdentity) : List Nat :=
  bigEndian 1 system.priority1.toNat ++ (system.clockQuality.bytes ++
    (bigEndian 1 system.priority2.toNat ++ clockIdentityBytes system.clockIdentity))

def PortIdentity.bytes (port : PortIdentity) : List Nat :=
  clockIdentityBytes port.clockIdentity ++ bigEndian 2 port.portNumber.toNat

def PriorityVector.bytes (vector : PriorityVector) : List Nat :=
  vector.rootSystemIdentity.bytes ++ (bigEndian 2 vector.stepsRemoved.toNat ++
    (vector.sourcePortIdentity.bytes ++ bigEndian 2 vector.portNumber.toNat))

end Layout

section Comparisons

inductive BmcaVectorCmp where
  | aBetter
  | aBSame
  | bBetter
  deriving DecidableEq

def BmcaVectorCmp.ofMemcmp : Ordering → BmcaVectorCmp
  | .gt => .bBetter
  | .lt => .aBetter
  | .eq => .aBSame

def compareClockIdentity (ida idb : ClockIdentity) : Ordering :=
  memcmp (clockIdentityBytes ida) (clockIdentityBytes idb)

def compareSystemIdentity (pa pb : PriorityVector) : BmcaVectorCmp :=
  .ofMemcmp (memcmp pa.rootSystemIdentity.bytes pb.rootSystemIdentity.bytes)

def comparePriorityVector (pa pb : PriorityVector) : BmcaVectorCmp :=
  .ofMemcmp (memcmp pa.bytes pb.bytes)

/-- A message from the sender of the port vector is better whatever it carries. -/
def compareMsgPriorityVector (msgP portP : PriorityVector) : BmcaVectorCmp :=
  if memcmp msgP.sourcePortIdentity.bytes portP.sourcePortIdentity.bytes = .eq then .aBetter
  else comparePriorityVector msgP portP

end Comparisons

section Order

def SystemIdentity.key (system : SystemIdentity) : ℕ ×ₗ ℕ ×ₗ ℕ ×ₗ ℕ ×ₗ ℕ ×ₗ ℕ :=
  toLex (system.priority1.toNat,toLex (system.clockQuality.clockClass.toNat,
    toLex (system.clockQuality.clockAccuracy.toNat,
      toLex (system.clockQuality.offsetScaledLogVariance.toNat,
        toLex (system.priority2.toNat,system.clockIdentity.toNat)))))

def PortIdentity.key (port : PortIdentity) : ℕ ×ₗ ℕ :=
  toLex (port.clockIdentity.toNat,port.portNumber.toNat)

theorem SystemIdentity.key_injective : Function.Injective SystemIdentity.key := by
  intro a b same
  obtain ⟨_,⟨_,_,_⟩,_,_⟩ := a
  obtain ⟨_,⟨_,_,_⟩,_,_⟩ := b
  simp only [key,toLex_inj,Prod.mk.injEq,UInt8.toNat_inj,UInt16.toNat_inj,UInt64.toNat_inj] at same
  obtain ⟨rfl,rfl,rfl,rfl,rfl,rfl⟩ := same
  rfl

theorem PortIdentity.key_injective : Function.Injective PortIdentity.key := by
  intro a b same
  obtain ⟨_,_⟩ := a
  obtain ⟨_,_⟩ := b
  simp only [key,toLex_inj,Prod.mk.injEq,UInt16.toNat_inj,UInt64.toNat_inj] at same
  obtain ⟨rfl,rfl⟩ := same
  rfl

instance : LinearOrder SystemIdentity := LinearOrder.lift' _ SystemIdentity.key_injective
instance : LinearOrder PortIdentity := LinearOrder.lift' _ PortIdentity.key_injective

def PriorityVector.key (vector : PriorityVector) : SystemIdentity ×ₗ ℕ ×ₗ PortIdentity ×ₗ ℕ :=
  toLex (vector.rootSystemIdentity,toLex (vector.stepsRemoved.toNat,
    toLex (vector.sourcePortIdentity,vector.portNumber.toNat)))

theorem PriorityVector.key_injective : Function.Injective PriorityVector.key := by
  intro a b same
  obtain ⟨_,_,_,_⟩ := a
  obtain ⟨_,_,_,_⟩ := b
  simp only [key,toLex_inj,Prod.mk.injEq,UInt16.toNat_inj] at same
  obtain ⟨rfl,rfl,rfl,rfl⟩ := same
  rfl

instance : LinearOrder PriorityVector := LinearOrder.lift' _ PriorityVector.key_injective

end Order

section Agreement

theorem memcmp_clockIdentity (a b : ClockIdentity) :
    memcmp (clockIdentityBytes a) (clockIdentityBytes b) = compare a.toNat b.toNat :=
  memcmp_bigEndian a.toNat_lt b.toNat_lt

theorem memcmp_u8 (a b : UInt8) : memcmp (bigEndian 1 a.toNat) (bigEndian 1 b.toNat) = compare a.toNat b.toNat :=
  memcmp_bigEndian a.toNat_lt b.toNat_lt

theorem memcmp_u16 (a b : UInt16) : memcmp (bigEndian 2 a.toNat) (bigEndian 2 b.toNat) = compare a.toNat b.toNat :=
  memcmp_bigEndian a.toNat_lt b.toNat_lt

theorem memcmp_systemIdentity (a b : SystemIdentity) : memcmp a.bytes b.bytes = compare a b := by
  rw [compare_of_lt_iff SystemIdentity.key fun _ _ => Iff.rfl]
  unfold SystemIdentity.bytes ClockQuality.bytes SystemIdentity.key
  rw [memcmp_append (by simp),memcmp_append (by simp),memcmp_append (by simp),memcmp_append (by simp),
    memcmp_append (by simp)]
  simp only [memcmp_u8,memcmp_u16,memcmp_clockIdentity,compare_toLex,Ordering.then_assoc]

theorem memcmp_portIdentity (a b : PortIdentity) : memcmp a.bytes b.bytes = compare a b := by
  rw [compare_of_lt_iff PortIdentity.key fun _ _ => Iff.rfl]
  unfold PortIdentity.bytes PortIdentity.key
  rw [memcmp_append (by simp [clockIdentityBytes])]
  simp only [memcmp_u16,memcmp_clockIdentity,compare_toLex]

theorem memcmp_priorityVector (a b : PriorityVector) : memcmp a.bytes b.bytes = compare a b := by
  rw [compare_of_lt_iff PriorityVector.key fun _ _ => Iff.rfl]
  unfold PriorityVector.bytes PriorityVector.key
  rw [memcmp_append (by simp [SystemIdentity.bytes,ClockQuality.bytes,clockIdentityBytes]),
    memcmp_append (by simp),memcmp_append (by simp [PortIdentity.bytes,clockIdentityBytes])]
  simp only [memcmp_u16,memcmp_systemIdentity,memcmp_portIdentity,compare_toLex]

theorem ofMemcmp_bBetter (order : Ordering) : BmcaVectorCmp.ofMemcmp order = .bBetter ↔ order = .gt := by
  cases order <;> decide

theorem ofMemcmp_aBetter (order : Ordering) : BmcaVectorCmp.ofMemcmp order = .aBetter ↔ order = .lt := by
  cases order <;> decide

theorem compareClockIdentity_eq (a b : ClockIdentity) : compareClockIdentity a b = .eq ↔ a = b := by
  unfold compareClockIdentity
  rw [memcmp_clockIdentity,compare_eq_iff_eq,UInt64.toNat_inj]

theorem compareSystemIdentity_bBetter (a b : PriorityVector) :
    compareSystemIdentity a b = .bBetter ↔ b.rootSystemIdentity < a.rootSystemIdentity := by
  unfold compareSystemIdentity
  rw [ofMemcmp_bBetter,memcmp_systemIdentity,compare_gt_iff_gt]

theorem comparePriorityVector_bBetter (a b : PriorityVector) : comparePriorityVector a b = .bBetter ↔ b < a := by
  unfold comparePriorityVector
  rw [ofMemcmp_bBetter,memcmp_priorityVector,compare_gt_iff_gt]

variable {a b : PriorityVector}

theorem lt_of_root_lt (better : a.rootSystemIdentity < b.rootSystemIdentity) : a < b :=
  Prod.Lex.toLex_lt_toLex.mpr (.inl better)

def PriorityVector.unnumbered (vector : PriorityVector) : PriorityVector := {vector with portNumber := 0}

theorem lt_of_unnumbered_lt (less : a.unnumbered < b.unnumbered) : a < b := by
  have less : a.unnumbered.key < b.unnumbered.key := less
  have goal : a.key < b.key := by
    unfold PriorityVector.key PriorityVector.unnumbered at less
    unfold PriorityVector.key
    simp only [Prod.Lex.toLex_lt_toLex] at less ⊢
    rcases less with root | ⟨root,steps | ⟨steps,source | ⟨_,number⟩⟩⟩
    · exact .inl root
    · exact .inr ⟨root,.inl steps⟩
    · exact .inr ⟨root,.inr ⟨steps,.inl source⟩⟩
    · exact absurd number (lt_irrefl _)
  exact goal

theorem unnumbered_mono (less : a ≤ b) : a.unnumbered ≤ b.unnumbered := by
  by_contra more
  exact absurd less (not_le.mpr (lt_of_unnumbered_lt (not_le.mp more)))

end Agreement

end Genavb.Gptp

/-! Data model of a gPTP instance (`ptp.h`, `gptp.h`): the ports with their announce state
machines, the global variables of the best master selection and what is sent. -/
namespace Genavb.Gptp

def MAX_PTLV_ENTRIES : Nat := 16

def PTP_TLV_TYPE_PATH_TRACE : UInt16 := 0x0008

inductive PortRole where
  | disabledPort
  | masterPort
  | passivePort
  | slavePort
  deriving DecidableEq

inductive SpanningTreeInfo where
  | received
  | mine
  | aged
  | disabled
  deriving DecidableEq

structure TimeProperties where
  leap61 : Bool
  leap59 : Bool
  currentUtcOffsetValid : Bool
  timeTraceable : Bool
  frequencyTraceable : Bool
  currentUtcOffset : UInt16
  timeSource : UInt8
  deriving DecidableEq

/-- An Announce message as it stands in `announce_rx`: the bytes past the end of the message
are arbitrary. -/
structure AnnouncePdu where
  sourcePortId : PortIdentity
  properties : TimeProperties
  grandmasterPriority1 : UInt8
  grandmasterClockQuality : ClockQuality
  grandmasterPriority2 : UInt8
  grandmasterIdentity : ClockIdentity
  stepsRemoved : UInt16
  tlvType : UInt16
  tlvLength : UInt16
  pathSequence : Vector ClockIdentity MAX_PTLV_ENTRIES
  deriving DecidableEq

structure AnnounceTx where
  msgLength : UInt16
  ptpTimescale : Bool
  properties : TimeProperties
  sourcePortId : PortIdentity
  sequenceId : UInt16
  rootSystemIdentity : SystemIdentity
  stepsRemoved : UInt16
  tlvType : UInt16
  tlvLength : UInt16
  pathSequence : List ClockIdentity
  deriving DecidableEq

inductive AnnounceInfoState where
  | disabled
  | aged
  | update
  | current
  | superiorMasterPort
  | repeatedMasterPort
  | inferiorMasterOrOther
  deriving DecidableEq

inductive AnnounceInfoEvent where
  | syncTimeout
  | announceTimeout
  | run
  deriving DecidableEq

inductive AnnounceRcvState where
  | discard
  | receive
  deriving DecidableEq

inductive AnnounceTransmitState where
  | transmitInit
  | idle
  | transmitPeriodic
  | transmitAnnounce
  deriving DecidableEq

inductive AnnounceTransmitEvent where
  | transmitInterval
  | run
  deriving DecidableEq

inductive PortStateSmState where
  | initBridge
  | selection
  deriving DecidableEq

/-- A port of an instance. `adopted` records the Announce message that was last taken as the
port vector; the code keeps no such copy. -/
structure GptpPort where
  portOper : Bool
  ptpPortEnabled : Bool
  asCapable : Bool
  asymmetryMeasurementMode : Bool
  infoIs : SpanningTreeInfo
  portPriority : PriorityVector
  masterPriority : PriorityVector
  messagePriority : PriorityVector
  messageStepsRemoved : UInt16
  portStepsRemoved : UInt16
  updtInfo : Bool
  rcvdMsg : Bool
  newInfo : Bool
  ann : TimeProperties
  announceInfoState : AnnounceInfoState
  announceRcvState : AnnounceRcvState
  announceTransmitState : AnnounceTransmitState
  announceRx : AnnouncePdu
  rcvdAnnouncePar : Bool
  /-- Whether `rcvd_announce_ptr` points to `announce_rx` or is NULL. -/
  rcvdAnnouncePtr : Bool
  announceTxSeqnum : UInt16
  adopted : Option AnnouncePdu

/-- The identity of this system and its own priority vector, which
`gptp_instance_priority_vector_update` ties together. -/
structure SystemParams where
  thisClock : ClockIdentity
  gmCapable : Bool
  systemPriority : PriorityVector
  root_this : systemPriority.rootSystemIdentity.clockIdentity = thisClock
  source_this : systemPriority.sourcePortIdentity = ⟨thisClock,0⟩
  steps_zero : systemPriority.stepsRemoved = 0
  port_zero : systemPriority.portNumber = 0

structure GptpConfig where
  automotive : Bool
  domainNumber : UInt8
  instanceEnable : Bool
  externalPortConfigurationEnabled : Bool
  numberPorts : Nat
  /-- The port numbers, from one on, are bits of the 16-bit masks. -/
  numberPorts_bound : numberPorts < 16
  /-- Nothing sets the flag. -/
  external_off : externalPortConfigurationEnabled = false

theorem twoPorts_bound : 2 < 16 := by decide

inductive GptpOutput where
  | announce (port : Nat) (message : AnnounceTx)
  | gmStatus (pathSequence : List ClockIdentity)
  | systemRoleChange (isGrandmaster : Bool)
  | gmIndication (vector : PriorityVector)
  deriving DecidableEq

/-- `fault` is set where the code would read through a NULL pointer or nest its state
machines without bound. -/
structure GptpInstance where
  config : GptpConfig
  system : SystemParams
  begin : Bool
  gmPriority : PriorityVector
  lastGmPriority : PriorityVector
  selectedRole : Nat → PortRole
  reselect : BitVec 16
  selected : BitVec 16
  masterStepsRemoved : UInt16
  properties : TimeProperties
  sysProperties : TimeProperties
  pathTrace : Nat → ClockIdentity
  numPtlv : Nat
  gmPresent : Bool
  isGrandmaster : Bool
  gmInfoVector : PriorityVector
  portStateSmState : PortStateSmState
  ports : Nat → GptpPort
  outputs : List GptpOutput
  fault : Bool

section Allocation

def SystemIdentity.zero : SystemIdentity := ⟨0,⟨0,0,0⟩,0,0⟩
def PriorityVector.zero : PriorityVector := ⟨.zero,0,⟨0,0⟩,0⟩
def TimeProperties.zero : TimeProperties := ⟨false,false,false,false,false,0,0⟩
def AnnouncePdu.zero : AnnouncePdu := ⟨⟨0,0⟩,.zero,0,⟨0,0,0⟩,0,0,0,0,0,.replicate _ 0⟩

/-- `gptp_instance_priority_vector_update`, on the root identity that is configured. -/
def SystemParams.priorityVectorUpdate (thisClock : ClockIdentity) (gmCapable : Bool) (priority1 : UInt8)
    (quality : ClockQuality) (priority2 : UInt8) : SystemParams :=
  let priority1 := if gmCapable then (if priority1 = 255 then 254 else priority1) else 255
  let clockClass := if gmCapable then (if quality.clockClass = 255 then 248 else quality.clockClass) else 255
  ⟨thisClock,gmCapable,
    ⟨⟨priority1,{quality with clockClass := clockClass},priority2,thisClock⟩,0,⟨thisClock,0⟩,0⟩,
    rfl,rfl,rfl,rfl⟩

/-- A port of zeroed memory after `gptp_port_set_config_parameters`. -/
def GptpPort.configured (system : SystemParams) (enabled : Bool) : GptpPort where
  portOper := false
  ptpPortEnabled := enabled
  asCapable := false
  asymmetryMeasurementMode := false
  infoIs := .received
  portPriority := system.systemPriority
  masterPriority := system.systemPriority
  messagePriority := .zero
  messageStepsRemoved := 0
  portStepsRemoved := 0
  updtInfo := false
  rcvdMsg := false
  newInfo := false
  ann := .zero
  announceInfoState := .disabled
  announceRcvState := .discard
  announceTransmitState := .transmitInit
  announceRx := .zero
  rcvdAnnouncePar := false
  rcvdAnnouncePtr := false
  announceTxSeqnum := 0
  adopted := none

def GptpInstance.configured (config : GptpConfig) (system : SystemParams) (sysProperties : TimeProperties)
    (enabled : Nat → Bool) : GptpInstance where
  config := config
  system := system
  begin := false
  gmPriority := .zero
  lastGmPriority := .zero
  selectedRole := fun _ => .slavePort
  reselect := 0
  selected := 0
  masterStepsRemoved := 0
  properties := .zero
  sysProperties := sysProperties
  pathTrace := fun _ => 0
  numPtlv := 0
  gmPresent := false
  isGrandmaster := false
  gmInfoVector := .zero
  portStateSmState := .initBridge
  ports := fun port => .configured system (enabled port)
  outputs := []
  fault := false

end Allocation

namespace GptpInstance

abbrev numberPorts (inst : GptpInstance) : Nat := inst.config.numberPorts
abbrev thisClock (inst : GptpInstance) : ClockIdentity := inst.system.thisClock
abbrev systemPriority (inst : GptpInstance) : PriorityVector := inst.system.systemPriority

/-- `get_port_identity_number`: the ports are numbered from one. -/
def portIdentityNumber (port : Nat) : UInt16 := .ofNat (port + 1)

def setPort (port : Nat) (value : GptpPort) (inst : GptpInstance) : GptpInstance :=
  {inst with ports := Function.update inst.ports port value}

def emit (output : GptpOutput) (inst : GptpInstance) : GptpInstance :=
  {inst with outputs := inst.outputs ++ [output]}

def faulted (inst : GptpInstance) : GptpInstance := {inst with fault := true}

def pathEntries (count : Nat) (inst : GptpInstance) : List ClockIdentity :=
  (List.range count).map inst.pathTrace

@[simp] theorem setPort_same (port : Nat) (value : GptpPort) (inst : GptpInstance) :
    (inst.setPort port value).ports port = value := Function.update_self ..

@[simp] theorem setPort_other {port other : Nat} (apart : other ≠ port) (value : GptpPort)
    (inst : GptpInstance) : (inst.setPort port value).ports other = inst.ports other :=
  Function.update_of_ne apart ..

end GptpInstance

end Genavb.Gptp
