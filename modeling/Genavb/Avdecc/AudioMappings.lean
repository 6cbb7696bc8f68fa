import Mathlib.Data.Set.Function
import Genavb.Avdecc.Notifications

/-! ADD_AUDIO_MAPPINGS and REMOVE_AUDIO_MAPPINGS (`aecp.c`): when the mappings of a command pass. -/
namespace Genavb.Avdecc
open List

/-- `struct aecp_aem_get_audio_map_mappings_format`. -/
structure AudioMapping where
  streamIndex : UInt16
  streamChannel : UInt16
  clusterOffset : UInt16
  clusterChannel : UInt16
  deriving DecidableEq

namespace AudioMapping

def stream (port : AemDescType) (mapping : AudioMapping) : AemDesc :=
  ⟨if port = .streamPortOutput then .streamOutput else .streamInput,mapping.streamIndex⟩

/-- The comparisons of the inner loop: another mapping of the same channel. -/
def excludes (port : AemDescType) (mapping other : AudioMapping) : Bool :=
  if port = .streamPortInput then
    other.clusterOffset = mapping.clusterOffset && other.clusterChannel = mapping.clusterChannel &&
      (other.streamIndex ≠ mapping.streamIndex || other.streamChannel ≠ mapping.streamChannel)
  else
    other.streamIndex = mapping.streamIndex && other.streamChannel = mapping.streamChannel &&
      (other.clusterOffset ≠ mapping.clusterOffset || other.clusterChannel ≠ mapping.clusterChannel)

/-- The channel that a mapping feeds: one of a cluster on an input, one of a stream on an output. -/
def fed (port : AemDescType) (mapping : AudioMapping) : UInt16 × UInt16 :=
  if port = .streamPortInput then (mapping.clusterOffset,mapping.clusterChannel)
  else (mapping.streamIndex,mapping.streamChannel)

private theorem excludes_iff (port : AemDescType) (mapping other : AudioMapping) :
    mapping.excludes port other = true ↔ mapping.fed port = other.fed port ∧ mapping ≠ other := by
  obtain ⟨index,channel,offset,clusterChannel⟩ := mapping
  obtain ⟨otherIndex,otherChannel,otherOffset,otherCluster⟩ := other
  unfold excludes fed
  by_cases input : port = .streamPortInput
  · simp only [input,if_true,Bool.and_eq_true,Bool.or_eq_true,decide_eq_true_eq,Prod.mk.injEq,ne_eq,mk.injEq]
    grind
  · simp only [input,if_false,Bool.and_eq_true,Bool.or_eq_true,decide_eq_true_eq,Prod.mk.injEq,ne_eq,mk.injEq]
    grind

end AudioMapping

open AudioMapping

namespace AemModel
variable (config : AemConfig)

def checkAudioMappings (port : AemDescType) (model : AemModel) : List AudioMapping → Except AemStatus Unit
  | [] => .ok ()
  | mapping :: rest =>
    if !config.descriptors (mapping.stream port) then .error .badArguments
    else if port = .streamPortOutput && (model.streams (mapping.stream port)).running then .error .streamIsRunning
    else if rest.any (mapping.excludes port) then .error .badArguments
    else checkAudioMappings port model rest

/-- The handler: the status and whether the application has been sent the command. -/
def modifyAudioMappings (controllerId : UInt64) (desc : AemDesc) (mappings : List AudioMapping)
    (sending : AemSending) (model : AemModel) : AemStatus × Bool :=
  match model.checkApplicationCommand config controllerId
      (.audioMappings desc (model.checkAudioMappings config desc.type mappings)) with
  | .error status => (status,false)
  | .ok () =>
    if !sending.ipc then (.entityMisbehaving,false)
    else if !sending.context then (.noResources,true)
    else (.inProgress,true)

/-- What the checks ask of the mappings of a command; the channels of a stream are those of its format. -/
structure AudioMappingsValid (channels : AemDesc → Nat) (port : AemDescType) (mappings : List AudioMapping)
    (model : AemModel) : Prop where
  streams : ∀ mapping ∈ mappings, config.descriptors (mapping.stream port) = true ∧
    mapping.streamChannel.toNat < channels (mapping.stream port)
  stopped : port = .streamPortOutput → ∀ mapping ∈ mappings, (model.streams (mapping.stream port)).running = false
  single : Set.InjOn (fed port) {mapping | mapping ∈ mappings}

section
variable {config} {model : AemModel} {port : AemDescType} {mapping : AudioMapping} {mappings : List AudioMapping}

theorem single_cons : Set.InjOn (fed port) {other | other ∈ mapping :: mappings} ↔
    mappings.any (mapping.excludes port) = false ∧ Set.InjOn (fed port) {other | other ∈ mappings} := by
  rw [any_eq_false]
  constructor
  · intro single
    refine ⟨fun other member excluded => ?_,single.mono fun other member => mem_cons_of_mem mapping member⟩
    obtain ⟨same,different⟩ := (excludes_iff port mapping other).1 excluded
    exact different (single mem_cons_self (mem_cons_of_mem mapping member) same)
  · rintro ⟨head,rest⟩ first isFirst second isSecond same
    have apart : ∀ other ∈ mappings, mapping.fed port = other.fed port → mapping = other := by
      intro other member together
      by_contra different
      exact head other member ((excludes_iff port mapping other).2 ⟨together,different⟩)
    rcases mem_cons.1 isFirst with rfl | firstRest
    · rcases mem_cons.1 isSecond with rfl | secondRest
      · rfl
      · exact apart second secondRest same
    · rcases mem_cons.1 isSecond with rfl | secondRest
      · exact (apart first firstRest same.symm).symm
      · exact rest firstRest secondRest same

private theorem checkAudioMappings_ok : model.checkAudioMappings config port mappings = .ok () ↔
    (∀ mapping ∈ mappings, config.descriptors (mapping.stream port) = true) ∧
      (port = .streamPortOutput → ∀ mapping ∈ mappings, (model.streams (mapping.stream port)).running = false) ∧
      Set.InjOn (fed port) {mapping | mapping ∈ mappings} := by
  induction mappings with
  | nil => simp [checkAudioMappings]
  | cons mapping mappings ih =>
    rw [single_cons,forall_mem_cons]
    unfold checkAudioMappings
    split
    case isTrue absent => simp_all
    split
    case isTrue running =>
      obtain ⟨output,running⟩ := by simpa using running
      subst output
      simp [running]
    split
    case isTrue excluded => simp_all
    case isFalse present stopped apart =>
      simp_all

theorem checkAudioMappings_perm {permuted : List AudioMapping} (same : mappings.Perm permuted) :
    model.checkAudioMappings config port mappings = .ok () ↔ model.checkAudioMappings config port permuted = .ok () := by
  rw [checkAudioMappings_ok,checkAudioMappings_ok]
  simp only [same.mem_iff]

private theorem modifyAudioMappings_iff {controllerId : UInt64} {desc : AemDesc} {sending : AemSending} :
    (model.modifyAudioMappings config controllerId desc mappings sending).2 = true ↔
      (desc.type = .streamPortInput ∨ desc.type = .streamPortOutput) ∧ model.refusal controllerId = none ∧
        config.descriptors desc = true ∧ sending.ipc = true ∧
        model.checkAudioMappings config desc.type mappings = .ok () := by
  have checked : (model.modifyAudioMappings config controllerId desc mappings sending).2 = true ↔
      model.checkApplicationCommand config controllerId
        (.audioMappings desc (model.checkAudioMappings config desc.type mappings)) = .ok () ∧ sending.ipc = true := by
    unfold modifyAudioMappings
    cases model.checkApplicationCommand config controllerId
      (.audioMappings desc (model.checkAudioMappings config desc.type mappings)) with
    | error status => simp
    | ok value => cases sending.ipc <;> cases sending.context <;> simp
  rw [checked]
  unfold checkApplicationCommand
  by_cases isPort : desc.type = .streamPortInput ∨ desc.type = .streamPortOutput
  · have other : (desc.type ≠ .streamPortInput && desc.type ≠ .streamPortOutput) = false := by grind
    simp only [other,isPort,true_and]
    cases model.refusal controllerId <;> cases config.descriptors desc <;> simp [and_comm]
  · have other : (desc.type ≠ .streamPortInput && desc.type ≠ .streamPortOutput) = true := by grind
    simp only [other,isPort,if_true,false_and,reduceCtorEq]

end

/-- The application is sent the command if and only if the stream port is there and not another
controller's, its streams are there and not running, and no channel is fed by two different mappings; the
order of the mappings does not matter. -/
theorem modifyAudioMappings_sent (controllerId : UInt64) (desc : AemDesc) (mappings : List AudioMapping)
    (sending : AemSending) (model : AemModel) (channels : AemDesc → Nat)
    (counted : ∀ mapping ∈ mappings, config.descriptors (mapping.stream desc.type) = true →
      mapping.streamChannel.toNat < channels (mapping.stream desc.type)) :
    ((model.modifyAudioMappings config controllerId desc mappings sending).2 = true ↔
      (desc.type = .streamPortInput ∨ desc.type = .streamPortOutput) ∧ model.refusal controllerId = none ∧
        config.descriptors desc = true ∧ sending.ipc = true ∧
        model.AudioMappingsValid config channels desc.type mappings) ∧
    ∀ permuted, mappings.Perm permuted →
      (model.modifyAudioMappings config controllerId desc permuted sending).2 =
        (model.modifyAudioMappings config controllerId desc mappings sending).2 := by
  refine ⟨?_,fun permuted same => ?_⟩
  · rw [modifyAudioMappings_iff,checkAudioMappings_ok]
    refine and_congr_right fun _ => and_congr_right fun _ => and_congr_right fun _ => and_congr_right fun _ => ?_
    constructor
    · rintro ⟨streams,stopped,single⟩
      exact ⟨fun mapping member => ⟨streams mapping member,counted mapping member (streams mapping member)⟩,stopped,single⟩
    · intro valid
      exact ⟨fun mapping member => (valid.streams mapping member).1,valid.stopped,valid.single⟩
  · rw [Bool.eq_iff_iff,modifyAudioMappings_iff,modifyAudioMappings_iff,checkAudioMappings_perm same]

def idle : AemConfig × AemModel :=
  (⟨true,0,fun _ => true,fun _ => [],fun _ => false⟩,
    ⟨false,0,false,false,0,fun _ => ⟨false,false⟩,fun _ => 0,fun _ => 0,fun _ => 0,fun _ => [],fun _ => .unsupported⟩)

theorem modifyAudioMappings_sent_two :
    (idle.2.modifyAudioMappings idle.1 1 ⟨.streamPortInput,0⟩ [⟨0,1,2,0⟩,⟨0,1,3,0⟩] ⟨true,true,true,true,fun _ => true⟩).2 =
      true ∧
    idle.2.AudioMappingsValid idle.1 (fun _ => 8) .streamPortInput [⟨0,1,2,0⟩,⟨0,1,3,0⟩] := by
  have sent := (modifyAudioMappings_sent idle.1 1 ⟨.streamPortInput,0⟩ [⟨0,1,2,0⟩,⟨0,1,3,0⟩]
    ⟨true,true,true,true,fun _ => true⟩ idle.2 (fun _ => 8) (by decide)).1
  have done : (idle.2.modifyAudioMappings idle.1 1 ⟨.streamPortInput,0⟩ [⟨0,1,2,0⟩,⟨0,1,3,0⟩]
    ⟨true,true,true,true,fun _ => true⟩).2 = true := by decide
  exact ⟨done,(sent.1 done).2.2.2.2⟩

/-- The same mapping twice passes, although both name one channel of a cluster. -/
theorem modifyAudioMappings_twice : ¬∀ (config : AemConfig) (model : AemModel) (channels : AemDesc → Nat)
    (controllerId : UInt64) (desc : AemDesc) (mappings : List AudioMapping) (sending : AemSending),
    (desc.type = .streamPortInput ∨ desc.type = .streamPortOutput) → model.refusal controllerId = none →
    config.descriptors desc = true → sending.ipc = true →
    ((model.modifyAudioMappings config controllerId desc mappings sending).2 = true ↔
      (∀ mapping ∈ mappings, config.descriptors (mapping.stream desc.type) = true ∧
        mapping.streamChannel.toNat < channels (mapping.stream desc.type)) ∧
      (desc.type = .streamPortOutput →
        ∀ mapping ∈ mappings, (model.streams (mapping.stream desc.type)).running = false) ∧
      mappings.Pairwise fun mapping other => mapping.fed desc.type ≠ other.fed desc.type) := by
  intro claimed
  have sent := claimed idle.1 idle.2 (fun _ => 8) 1 ⟨.streamPortInput,0⟩ [⟨0,1,2,0⟩,⟨0,1,2,0⟩]
    ⟨true,true,true,true,fun _ => true⟩ (by decide) (by decide) (by decide) (by decide)
  revert sent
  decide

end AemModel

end Genavb.Avdecc
