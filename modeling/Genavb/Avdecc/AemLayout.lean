import Genavb.Support.Memory
import Genavb.Support.Run
import Mathlib.Algebra.Group.Nat.Defs

/-! The block with the dynamic descriptors of an entity (`aem_dynamic_descs_init`), and the path sequences that
GM_STATUS messages store in the descriptors of its AVB interfaces. -/
namespace Genavb.Avdecc
open Support List Option

inductive DynamicDescType where
  | entity
  | avbInterface
  | streamOutput
  | streamInput
  | clockDomain
  deriving DecidableEq

/-- Where a compiler puts the fields of `struct avb_interface_dynamic_desc` behind the first one, and its size. -/
structure AvbInterfaceLayout where
  gptpGmChanged : Nat
  maxPtlvEntries : Nat
  numPtlvEntries : Nat
  pathSequence : Nat
  size : Nat
  grandmaster : 8 ≤ gptpGmChanged
  counter : gptpGmChanged + 4 ≤ maxPtlvEntries
  most : maxPtlvEntries + 2 ≤ numPtlvEntries
  number : numPtlvEntries + 2 ≤ pathSequence
  flexible : pathSequence ≤ size
  small : size < 2^12

/-- The sizes of the structures, which have a few hundred bytes, and the numbers of descriptors. The block is where
`os_malloc` has put it. -/
structure DynamicDescs where
  layout : AvbInterfaceLayout
  headersSize : Nat
  entitySize : Nat
  streamOutputSize : Nat
  streamInputSize : Nat
  clockDomainSize : Nat
  numInterfaces : Nat
  numStreamOutputs : Nat
  numStreamInputs : Nat
  numClockDomains : Nat
  maxPtlvEntries : Nat
  block : Nat
  small : headersSize < 2^12 ∧ entitySize < 2^12 ∧ streamOutputSize < 2^12 ∧ streamInputSize < 2^12 ∧
    clockDomainSize < 2^12
  counted : numInterfaces < 2^16 ∧ numStreamOutputs < 2^16 ∧ numStreamInputs < 2^16 ∧ numClockDomains < 2^16
  range : maxPtlvEntries ≤ 179

structure AemDescHdr where
  ptr : Nat
  size : Nat
  total : Nat

/-- A message with its path sequence, whose length is what `desc->len` leaves for it. -/
structure GmStatus where
  domain : UInt8
  gmId : List UInt8
  numPtlv : UInt16
  pathSequence : List UInt8
  eight : gmId.length = 8

namespace DynamicDescs
variable (descs : DynamicDescs)

def pathSequenceSize : Nat := descs.maxPtlvEntries * 8

/-- What `offset` counts up to, in 32 bits: the start of the interfaces and of what is behind them. -/
def interfacesAt : Nat := (descs.headersSize + descs.entitySize) % 2^32

def streamOutputsAt : Nat :=
  (descs.interfacesAt + descs.numInterfaces * (descs.layout.size + descs.pathSequenceSize)) % 2^32

def streamInputsAt : Nat := (descs.streamOutputsAt + descs.numStreamOutputs * descs.streamOutputSize) % 2^32

def clockDomainsAt : Nat := (descs.streamInputsAt + descs.numStreamInputs * descs.streamInputSize) % 2^32

def singleDynamicDescInit (offset size total : Nat) : AemDescHdr := ⟨descs.block + offset,size % 2^16,total % 2^16⟩

/-- `aem_dynamic_descs_init`: the room for the path sequences is allocated, but is not part of `size`. -/
def descHdr : DynamicDescType → AemDescHdr
  | .entity => descs.singleDynamicDescInit (descs.headersSize % 2^32) descs.entitySize 1
  | .avbInterface => descs.singleDynamicDescInit descs.interfacesAt descs.layout.size descs.numInterfaces
  | .streamOutput => descs.singleDynamicDescInit descs.streamOutputsAt descs.streamOutputSize descs.numStreamOutputs
  | .streamInput => descs.singleDynamicDescInit descs.streamInputsAt descs.streamInputSize descs.numStreamInputs
  | .clockDomain => descs.singleDynamicDescInit descs.clockDomainsAt descs.clockDomainSize descs.numClockDomains

def aemGetDescriptor (type : DynamicDescType) (index : Nat) : Option Nat :=
  let desc := descs.descHdr type
  if index < desc.total then some (desc.ptr + desc.size * index) else none

def interfaceInit (memory : Memory) (index : Nat) : Memory :=
  match descs.aemGetDescriptor .avbInterface index with
  | none => memory
  | some avbItf => store (avbItf + descs.layout.maxPtlvEntries) (u16Bytes descs.maxPtlvEntries) memory

/-- What `avdecc_dynamic_states_init` makes of the block, which is zero before. -/
def dynamicStatesInit : Memory := (List.range descs.numInterfaces).foldl descs.interfaceInit fun _ => 0

/-- The new path sequence, cut at the limit in the descriptor. A number is kept with its high byte first. -/
def storePathSequence (avbItf : Nat) (status : GmStatus) (memory : Memory) : Memory :=
  let num := status.numPtlv.toNat
  let most := u16At memory (avbItf + descs.layout.maxPtlvEntries)
  let entries := if num ≤ most then num else most
  let path := status.pathSequence.take (entries * 8)
  let counted := store (avbItf + descs.layout.numPtlvEntries) (u16Bytes entries) memory
  if u16At memory (avbItf + descs.layout.numPtlvEntries) ≠ num ∨
      bytesAt counted (avbItf + descs.layout.pathSequence) (entries * 8) ≠ path then
    store (avbItf + descs.layout.pathSequence) path counted
  else counted

def storeGmId (avbItf : Nat) (status : GmStatus) (memory : Memory) : Memory :=
  if bytesAt memory avbItf 8 = status.gmId then memory
  else
    let counter := avbItf + descs.layout.gptpGmChanged
    let changed := u16At memory counter * 65536 + u16At memory (counter + 2) + 1
    store counter (u16Bytes (changed / 65536) ++ u16Bytes changed) (store avbItf status.gmId memory)

/-- The descriptor that a message on a port is for, unless it is refused: its length is not that of its path sequence,
it comes from another domain than CFG_DEFAULT_GPTP_DOMAIN, or the entity has no such interface. -/
def target (input : Nat × GmStatus) : Option Nat :=
  if input.2.pathSequence.length ≠ input.2.numPtlv.toNat * 8 ∨ input.2.domain ≠ 0 then none
  else descs.aemGetDescriptor .avbInterface input.1

def gmStatusStep (input : Nat × GmStatus) (memory : Memory) : Memory :=
  match descs.target input with
  | none => memory
  | some avbItf => descs.storeGmId avbItf input.2 (descs.storePathSequence avbItf input.2 memory)

def pathOf (avbItf : Nat) (memory : Memory) : List UInt8 :=
  bytesAt memory (avbItf + descs.layout.pathSequence) (u16At memory (avbItf + descs.layout.numPtlvEntries) * 8)

/-- `aecp_aem_get_as_path_response`: the count and the path sequence, or none for ENTITY_MISBEHAVING. -/
def getAsPathResponse (index : Nat) (memory : Memory) : Option (Nat × List UInt8) :=
  (descs.aemGetDescriptor .avbInterface index).map fun avbItf =>
    (u16At memory (avbItf + descs.layout.numPtlvEntries),descs.pathOf avbItf memory)

def descriptor (type : DynamicDescType) (index : Nat) (memory : Memory) : Option (List UInt8 × List UInt8) :=
  (descs.aemGetDescriptor type index).map fun address =>
    match type with
    | .avbInterface => (bytesAt memory address descs.layout.pathSequence,descs.pathOf address memory)
    | type => (bytesAt memory address (descs.descHdr type).size,[])

def stored (input : Nat × GmStatus) : Option (List UInt8) :=
  (descs.target input).map fun _ => input.2.pathSequence.take (descs.maxPtlvEntries * 8)

def Fits (index : Nat) (path : List UInt8) : Prop :=
  descs.layout.pathSequence + path.length ≤ descs.layout.size ∨ index + 1 = descs.numInterfaces

def PathFits (input : Nat × GmStatus) : Prop := ∀ path, descs.stored input = some path → descs.Fits input.1 path

def lastStored (last : Nat → List UInt8) (input : Nat × GmStatus) : Nat → List UInt8 :=
  match descs.stored input with
  | none => last
  | some path => Function.update last input.1 path

def Apart (memory : Memory) (input : Nat × GmStatus) : Prop :=
  ∀ type index, (type,index) ≠ (.avbInterface,input.1) →
    descs.descriptor type index (descs.gmStatusStep input memory) = descs.descriptor type index memory

structure Holds (avbItf : Nat) (path : List UInt8) (memory : Memory) : Prop where
  most : u16At memory (avbItf + descs.layout.maxPtlvEntries) = descs.maxPtlvEntries
  number : u16At memory (avbItf + descs.layout.numPtlvEntries) * 8 = path.length
  written : Written memory (avbItf + descs.layout.pathSequence) path

def itf (index : Nat) : Nat := descs.block + descs.interfacesAt + descs.layout.size * index

def Kept (last : Nat → List UInt8) (memory : Memory) : Prop :=
  ∀ index < descs.numInterfaces, descs.Holds (descs.itf index) (last index) memory ∧ descs.Fits index (last index)

section
variable {descs : DynamicDescs} {avbItf : Nat} {path : List UInt8} {memory second : Memory}

theorem Holds.apart {low high : Nat} (holds : descs.Holds avbItf path memory) (outside : Outside low high memory second)
    (apart : avbItf + descs.layout.pathSequence + path.length ≤ low ∨ high ≤ avbItf + descs.layout.maxPtlvEntries) :
    descs.Holds avbItf path second := by
  have most := descs.layout.most
  have number := descs.layout.number
  refine ⟨?_,?_,?_⟩
  · rw [outside.u16At (by omega)]
    exact holds.most
  · rw [outside.u16At (by omega)]
    exact holds.number
  · exact outside.written (by omega) (Nat.le_refl _) holds.written

theorem storePathSequence_holds (status : GmStatus) (whole : status.pathSequence.length = status.numPtlv.toNat * 8)
    (most : u16At memory (avbItf + descs.layout.maxPtlvEntries) = descs.maxPtlvEntries)
    (path_eq : path = status.pathSequence.take (descs.maxPtlvEntries * 8)) :
    descs.Holds avbItf path (descs.storePathSequence avbItf status memory) ∧
      Outside avbItf (avbItf + descs.layout.pathSequence + path.length) memory
        (descs.storePathSequence avbItf status memory) := by
  have small := status.numPtlv.toNat_lt
  have before := descs.layout.most
  have number := descs.layout.number
  unfold storePathSequence
  dsimp only
  rw [most]
  generalize entries_eq : (if status.numPtlv.toNat ≤ descs.maxPtlvEntries then status.numPtlv.toNat
    else descs.maxPtlvEntries) = entries
  have cut : status.pathSequence.take (entries * 8) = path := by
    rw [path_eq,← entries_eq]
    split
    · rw [take_of_length_le (by omega),take_of_length_le (by omega)]
    · rfl
  have length : path.length = entries * 8 := by
    rw [← cut,length_take,whole]
    split at entries_eq <;> omega
  have below : entries < 65536 := by
    split at entries_eq <;> omega
  have counted := outside_store (avbItf + descs.layout.numPtlvEntries) (u16Bytes entries) memory
  rw [u16Bytes_length] at counted
  have limit : u16At (store (avbItf + descs.layout.numPtlvEntries) (u16Bytes entries) memory)
      (avbItf + descs.layout.maxPtlvEntries) = descs.maxPtlvEntries := (counted.u16At (by omega)).trans most
  have count := u16At_written below (written_store (avbItf + descs.layout.numPtlvEntries) (u16Bytes entries) memory)
  simp only [cut]
  split
  · have stored := outside_store (avbItf + descs.layout.pathSequence) path
      (store (avbItf + descs.layout.numPtlvEntries) (u16Bytes entries) memory)
    refine ⟨⟨?_,?_,written_store _ _ _⟩,(counted.mono (by omega) (by omega)).trans (stored.mono (by omega) (by omega))⟩
    · rw [stored.u16At (by omega)]
      exact limit
    · rw [stored.u16At (by omega),count]
      omega
  next same =>
    rw [not_or,not_not,not_not] at same
    refine ⟨⟨limit,?_,?_⟩,counted.mono (by omega) (by omega)⟩
    · rw [count]
      omega
    · rw [← same.2]
      exact written_bytesAt _ _ _

theorem storeGmId_outside (descs : DynamicDescs) (avbItf : Nat) (status : GmStatus) (memory : Memory) :
    Outside avbItf (avbItf + descs.layout.maxPtlvEntries) memory (descs.storeGmId avbItf status memory) := by
  have grandmaster := descs.layout.grandmaster
  have counter := descs.layout.counter
  have eight := status.eight
  unfold storeGmId
  split
  · exact fun _ _ => rfl
  · refine ((outside_store avbItf status.gmId memory).mono (by omega) (by omega)).trans ?_
    refine (outside_store _ _ _).mono (by omega) ?_
    simp only [length_append,u16Bytes_length]
    omega

private theorem aemGetDescriptor_avbInterface (index : Nat) :
    descs.aemGetDescriptor .avbInterface index =
      if index < descs.numInterfaces then some (descs.itf index) else none := by
  have small : descs.layout.size < 2^16 := descs.layout.small.trans (by decide)
  simp only [aemGetDescriptor,descHdr,singleDynamicDescInit,itf,Nat.mod_eq_of_lt descs.counted.1,Nat.mod_eq_of_lt small]

private theorem gmStatusStep_holds {input : Nat × GmStatus} {last : Nat → List UInt8} (kept : descs.Kept last memory)
    (stored : descs.stored input = some path) :
    input.1 < descs.numInterfaces ∧ path.length ≤ descs.pathSequenceSize ∧
      descs.Holds (descs.itf input.1) path (descs.gmStatusStep input memory) ∧
      Outside (descs.itf input.1) (descs.itf input.1 + descs.layout.pathSequence + path.length) memory
        (descs.gmStatusStep input memory) := by
  obtain ⟨avbItf,target,rfl⟩ := map_eq_some_iff.mp stored
  unfold gmStatusStep
  rw [target]
  unfold DynamicDescs.target at target
  split at target
  · simp at target
  next taken =>
    rw [aemGetDescriptor_avbInterface] at target
    split at target
    next inside =>
      cases target
      obtain ⟨holds,outside⟩ := storePathSequence_holds input.2 (by simpa using fun wrong => taken (.inl wrong))
        (kept _ inside).1.most rfl
      have named := descs.storeGmId_outside (descs.itf input.1) input.2
        (descs.storePathSequence (descs.itf input.1) input.2 memory)
      have most := descs.layout.most
      have number := descs.layout.number
      refine ⟨inside,?_,holds.apart named (.inr (Nat.le_refl _)),outside.trans (named.mono (Nat.le_refl _) (by omega))⟩
      exact length_take_le _ _
    · simp at target

private theorem itf_apart {first other : Nat} {content : List UInt8} (ne : first ≠ other) (inside : first < descs.numInterfaces)
    (insideOther : other < descs.numInterfaces) (fits : descs.Fits first path) (fitsOther : descs.Fits other content) :
    descs.itf first + descs.layout.pathSequence + path.length ≤ descs.itf other ∨
      descs.itf other + descs.layout.pathSequence + content.length ≤ descs.itf first := by
  unfold Fits at fits fitsOther
  unfold itf
  rcases Nat.lt_or_gt_of_ne ne with before | after
  · have next := Nat.mul_le_mul_left descs.layout.size before
    rw [Nat.succ_eq_add_one,Nat.mul_add] at next
    omega
  · have next := Nat.mul_le_mul_left descs.layout.size after
    rw [Nat.succ_eq_add_one,Nat.mul_add] at next
    omega

theorem sizes_bounded :
    descs.headersSize + descs.entitySize + descs.numInterfaces * (descs.layout.size + descs.pathSequenceSize) +
      descs.numStreamOutputs * descs.streamOutputSize + descs.numStreamInputs * descs.streamInputSize < 2^32 := by
  obtain ⟨headers,entity,output,input,_⟩ := descs.small
  obtain ⟨interfaces,outputs,inputs,_⟩ := descs.counted
  have range := descs.range
  have itf := descs.layout.small
  have path : descs.layout.size + descs.pathSequenceSize ≤ 2^13 := by
    unfold pathSequenceSize
    omega
  have first := Nat.mul_le_mul interfaces.le path
  have second := Nat.mul_le_mul outputs.le output.le
  have third := Nat.mul_le_mul inputs.le input.le
  omega

private theorem ats_unwrapped : descs.interfacesAt = descs.headersSize + descs.entitySize ∧
    descs.streamOutputsAt = descs.interfacesAt + descs.numInterfaces * (descs.layout.size + descs.pathSequenceSize) ∧
    descs.streamOutputsAt ≤ descs.streamInputsAt ∧ descs.streamInputsAt ≤ descs.clockDomainsAt := by
  have bounded := descs.sizes_bounded
  have interfaces : descs.interfacesAt = descs.headersSize + descs.entitySize := Nat.mod_eq_of_lt (by omega)
  have outputs : descs.streamOutputsAt =
      descs.interfacesAt + descs.numInterfaces * (descs.layout.size + descs.pathSequenceSize) :=
    Nat.mod_eq_of_lt (by omega)
  have inputs : descs.streamInputsAt = descs.streamOutputsAt + descs.numStreamOutputs * descs.streamOutputSize :=
    Nat.mod_eq_of_lt (by omega)
  have clocks : descs.clockDomainsAt = descs.streamInputsAt + descs.numStreamInputs * descs.streamInputSize :=
    Nat.mod_eq_of_lt (by omega)
  exact ⟨interfaces,outputs,by omega,by omega⟩

theorem itf_inside {index : Nat} (inside : index < descs.numInterfaces) (fits : path.length ≤ descs.pathSequenceSize) :
    descs.itf index + descs.layout.pathSequence + path.length ≤ descs.block + descs.streamOutputsAt := by
  obtain ⟨_,outputs,_⟩ := descs.ats_unwrapped
  have flexible := descs.layout.flexible
  have next := Nat.mul_le_mul_left descs.layout.size inside
  have rooms := Nat.mul_le_mul_right descs.pathSequenceSize inside
  rw [Nat.succ_eq_add_one,Nat.mul_add] at next
  rw [Nat.succ_eq_add_one,Nat.add_mul] at rooms
  rw [outputs,Nat.mul_add,Nat.mul_comm _ descs.layout.size]
  unfold itf
  omega

theorem beside {type : DynamicDescType} {index address : Nat} (ne : type ≠ .avbInterface)
    (found : descs.aemGetDescriptor type index = some address) :
    address + (descs.descHdr type).size ≤ descs.block + descs.interfacesAt ∨
      descs.block + descs.streamOutputsAt ≤ address := by
  obtain ⟨interfaces,outputs,inputs,clocks⟩ := descs.ats_unwrapped
  unfold aemGetDescriptor at found
  dsimp only at found
  split at found
  next inside =>
    cases found
    cases type with
    | avbInterface => exact absurd rfl ne
    | entity =>
      have zero : index = 0 := by simpa [descHdr,singleDynamicDescInit] using inside
      left
      simp only [descHdr,singleDynamicDescInit,zero]
      omega
    | streamOutput | streamInput | clockDomain =>
      right
      simp only [descHdr,singleDynamicDescInit]
      omega
  · simp at found

section
variable {last : Nat → List UInt8} (kept : descs.Kept last memory)
include kept

theorem Kept.step {input : Nat × GmStatus} (fits : descs.PathFits input) :
    descs.Kept (descs.lastStored last input) (descs.gmStatusStep input memory) := by
  unfold lastStored
  split
  next none_stored =>
    have refused : descs.target input = none := by simpa [stored] using none_stored
    unfold gmStatusStep
    rw [refused]
    exact kept
  next path stored =>
    obtain ⟨inside,_,holds,outside⟩ := gmStatusStep_holds kept stored
    intro index below
    by_cases same : index = input.1
    · subst same
      rw [Function.update_self]
      exact ⟨holds,fits path stored⟩
    · obtain ⟨before,fitting⟩ := kept index below
      rw [Function.update_of_ne same]
      have apart := itf_apart same below inside fitting (fits path stored)
      exact ⟨before.apart outside (by omega),fitting⟩

theorem Kept.apart {input : Nat × GmStatus} (fits : descs.PathFits input) : descs.Apart memory input := by
  intro type index other
  cases stored_eq : descs.stored input with
  | none =>
    have refused : descs.target input = none := by simpa [stored] using stored_eq
    unfold gmStatusStep
    rw [refused]
  | some path =>
    obtain ⟨inside,short,holds,outside⟩ := gmStatusStep_holds kept stored_eq
    unfold descriptor
    cases found : descs.aemGetDescriptor type index with
    | none => rfl
    | some address =>
      rw [map_some,map_some]
      by_cases same : type = .avbInterface
      · subst same
        rw [aemGetDescriptor_avbInterface] at found
        split at found
        next below =>
          cases found
          have ne : index ≠ input.1 := fun equal => other (by rw [equal])
          obtain ⟨before,fitting⟩ := kept index below
          have apart := itf_apart ne below inside fitting (fits path stored_eq)
          have head : bytesAt (descs.gmStatusStep input memory) (descs.itf index) descs.layout.pathSequence =
              bytesAt memory (descs.itf index) descs.layout.pathSequence := outside.bytesAt (by omega)
          have path : descs.pathOf (descs.itf index) (descs.gmStatusStep input memory) =
              descs.pathOf (descs.itf index) memory := by
            unfold pathOf
            rw [(before.apart outside (by omega)).number,before.number]
            exact outside.bytesAt (by omega)
          simp only [head,path]
        · simp at found
      · have ends := itf_inside inside short
        have starts : descs.block + descs.interfacesAt ≤ descs.itf input.1 := Nat.le_add_right _ _
        have place := beside same found
        have read : bytesAt (descs.gmStatusStep input memory) address (descs.descHdr type).size =
            bytesAt memory address (descs.descHdr type).size := outside.bytesAt (by omega)
        cases type with
        | avbInterface => exact absurd rfl same
        | entity | streamOutput | streamInput | clockDomain => simp only [read]

theorem Kept.asPath {index : Nat} (inside : index < descs.numInterfaces) :
    descs.getAsPathResponse index memory = some ((last index).length / 8,last index) := by
  obtain ⟨holds,_⟩ := kept index inside
  have number := holds.number
  unfold getAsPathResponse pathOf
  rw [aemGetDescriptor_avbInterface,if_pos inside,map_some,number,bytesAt_written holds.written]
  congr 2
  omega

theorem Kept.run {inputs : List (Nat × GmStatus)} (fits : ∀ input ∈ inputs, descs.PathFits input) :
    Steps descs.gmStatusStep descs.Apart inputs memory ∧
      descs.Kept (inputs.foldl descs.lastStored last) (run descs.gmStatusStep inputs memory) := by
  induction inputs generalizing memory last with
  | nil => exact ⟨trivial,kept⟩
  | cons input rest ih =>
    have first := fits input (.head _)
    obtain ⟨steps,final⟩ := ih (kept.step first) fun later member => fits later (.tail _ member)
    exact ⟨⟨kept.apart first,steps⟩,final⟩

end

theorem interfaceInit_range {count : Nat} (below : count ≤ descs.numInterfaces) {index : Nat}
    (inside : index < descs.numInterfaces) :
    let memory := (List.range count).foldl descs.interfaceInit fun _ => 0
    u16At memory (descs.itf index + descs.layout.numPtlvEntries) = 0 ∧
      (index < count → u16At memory (descs.itf index + descs.layout.maxPtlvEntries) = descs.maxPtlvEntries) := by
  have most := descs.layout.most
  have number := descs.layout.number
  have flexible := descs.layout.flexible
  induction count with
  | zero =>
    exact ⟨by simp [u16At],fun wrong => absurd wrong (Nat.not_lt_zero _)⟩
  | succ count ih =>
    obtain ⟨zero,limit⟩ := ih (by omega)
    have next : count < descs.numInterfaces := below
    rw [range_succ,foldl_append]
    generalize (List.range count).foldl descs.interfaceInit (fun _ => 0) = memory at *
    simp only [foldl_cons,foldl_nil,interfaceInit,aemGetDescriptor_avbInterface,if_pos next]
    have written := outside_store (descs.itf count + descs.layout.maxPtlvEntries) (u16Bytes descs.maxPtlvEntries) memory
    rw [u16Bytes_length] at written
    by_cases same : index = count
    · subst same
      refine ⟨?_,fun _ => u16At_written (by have := descs.range; omega) (written_store _ _ _)⟩
      rw [written.u16At (by omega)]
      exact zero
    · have apart := itf_apart same inside next (show descs.Fits index [] from .inl flexible)
        (show descs.Fits count [] from .inl flexible)
      rw [written.u16At (by omega),written.u16At (by omega)]
      exact ⟨zero,fun less => limit (by omega)⟩

theorem dynamicStatesInit_kept : descs.Kept (fun _ => []) descs.dynamicStatesInit := by
  intro index inside
  obtain ⟨zero,limit⟩ := interfaceInit_range (Nat.le_refl _) inside
  exact ⟨⟨limit inside,by rw [dynamicStatesInit,zero]; rfl,written_nil _ _⟩,.inl descs.layout.flexible⟩

end

def twoInterfaces : DynamicDescs where
  layout := {
    gptpGmChanged := 28
    maxPtlvEntries := 34
    numPtlvEntries := 36
    pathSequence := 264
    size := 264
    grandmaster := by decide
    counter := by decide
    most := by decide
    number := by decide
    flexible := by decide
    small := by decide }
  headersSize := 608
  entitySize := 80
  streamOutputSize := 312
  streamInputSize := 448
  clockDomainSize := 80
  numInterfaces := 2
  numStreamOutputs := 1
  numStreamInputs := 1
  numClockDomains := 1
  maxPtlvEntries := 16
  block := 4096
  small := by decide
  counted := by decide
  range := by decide

def onePath : GmStatus where
  domain := 0
  gmId := [0,4,159,0,0,0,0,1]
  numPtlv := 1
  pathSequence := [0,4,159,0,0,0,0,1]
  eight := rfl

def noPath : GmStatus where
  domain := 0
  gmId := [0,4,159,0,0,0,0,1]
  numPtlv := 0
  pathSequence := []
  eight := rfl

/-- In every run whose path sequences fit, a message changes the descriptor of its interface only, and GET_AS_PATH
returns what was stored last. -/
theorem paths_apart (descs : DynamicDescs) (inputs : List (Nat × GmStatus))
    (fits : ∀ input ∈ inputs, descs.PathFits input) :
    Steps descs.gmStatusStep descs.Apart inputs descs.dynamicStatesInit ∧
      ∀ index < descs.numInterfaces,
        descs.getAsPathResponse index (run descs.gmStatusStep inputs descs.dynamicStatesInit) = some
          ((inputs.foldl descs.lastStored (fun _ => []) index).length / 8,
          inputs.foldl descs.lastStored (fun _ => []) index) := by
  obtain ⟨steps,kept⟩ := dynamicStatesInit_kept.run fits
  exact ⟨steps,fun index inside => kept.asPath inside⟩

theorem twoInterfaces_paths_apart :
    Steps twoInterfaces.gmStatusStep twoInterfaces.Apart [(0,noPath),(1,onePath)] twoInterfaces.dynamicStatesInit :=
  (paths_apart twoInterfaces [(0,noPath),(1,onePath)] (by
    intro input member path stored
    rcases mem_pair.mp member with rfl | rfl
    · obtain ⟨_,_,empty⟩ := map_eq_some_iff.mp stored
      exact .inl (by rw [← empty]; decide)
    · exact .inr rfl)).1

/-- One entry for the first of two interfaces overwrites the grandmaster of the second one. -/
theorem onePath_overwrites :
    ¬ Steps twoInterfaces.gmStatusStep twoInterfaces.Apart [(0,onePath)] twoInterfaces.dynamicStatesInit := by
  intro steps
  have same := steps.1 .avbInterface 1 (by decide)
  revert same
  decide +kernel

end DynamicDescs
end Genavb.Avdecc
