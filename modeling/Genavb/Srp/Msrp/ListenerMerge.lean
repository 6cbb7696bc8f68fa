import Genavb.Srp.Msrp.Context
import Mathlib.Order.Bounds.Lattice

/-! Merging of listener registrations (802.1Q 35.2.4.4.3): on a port and over the ports, what is declared is the least
upper bound of what is registered. -/
namespace Genavb.Msrp
open Support List

namespace ListenerDeclarationType

/-- Nothing is below everything, Ready Failed is above everything. -/
instance : PartialOrder ListenerDeclarationType where
  le first second := first = .NONE ∨ second = .READY_FAILED ∨ first = second
  le_refl first := .inr (.inr rfl)
  le_trans first second third := by
    cases first <;> cases second <;> cases third <;> simp
  le_antisymm first second := by
    cases first <;> cases second <;> simp

instance (first second : ListenerDeclarationType) : Decidable (first ≤ second) :=
  inferInstanceAs (Decidable (first = .NONE ∨ second = .READY_FAILED ∨ first = second))

def combine : ListenerDeclarationType → ListenerDeclarationType → ListenerDeclarationType
  | .NONE,other => other
  | other,.NONE => other
  | .ASKING_FAILED,.ASKING_FAILED => .ASKING_FAILED
  | .READY,.READY => .READY
  | _,_ => .READY_FAILED

instance : SemilatticeSup ListenerDeclarationType where
  sup := combine
  le_sup_left first second := by
    cases first <;> cases second <;> decide
  le_sup_right first second := by
    cases first <;> cases second <;> decide
  sup_le first second third := by
    cases first <;> cases second <;> cases third <;> decide

theorem readyFailed_sup (other : ListenerDeclarationType) : .READY_FAILED ⊔ other = .READY_FAILED := by
  cases other <;> rfl

end ListenerDeclarationType

open ListenerDeclarationType

namespace Work
variable {work : Work}

def registeredTypes (port : Nat) (work : Work) : Set ListenerDeclarationType :=
  {type | ∃ id value, (id,some value) ∈ work.registered .LISTENER port ∧ value.listenerType = type}

theorem hasRegistered_iff (port : Nat) (type : ListenerDeclarationType) :
    work.hasRegistered .LISTENER port (fun value => value.listenerType == type) = true ↔
      type ∈ work.registeredTypes port := by
  unfold hasRegistered
  rw [any_eq_true]
  constructor
  · rintro ⟨⟨id,value⟩,member,wanted⟩
    cases value with
    | none => cases wanted
    | some value => exact ⟨id,value,member,of_decide_eq_true wanted⟩
  · rintro ⟨id,value,member,same⟩
    exact ⟨(id,some value),member,decide_eq_true same⟩

private theorem mergedListenerType_isLUB (port : Nat) (work : Work) :
    IsLUB (work.registeredTypes port) (work.mergedListenerType port) := by
  have has (type : ListenerDeclarationType) := @hasRegistered_iff work port type
  unfold mergedListenerType
  simp only
  constructor
  · intro type member
    split
    · cases type <;> decide
    next without =>
      have registered := (has type).mpr member
      cases type with
      | NONE => exact .inl rfl
      | READY_FAILED => exact absurd registered without
      | ASKING_FAILED =>
        rw [if_pos registered]
        split <;> decide
      | READY =>
        split <;> decide
  · intro bound bounds
    split
    next failed => exact bounds ((has _).mp failed)
    · split
      next asking =>
        split
        next ready => exact sup_le (bounds ((has _).mp ready)) (bounds ((has _).mp asking))
        · exact bounds ((has _).mp asking)
      · split
        next ready => exact bounds ((has _).mp ready)
        · exact .inl rfl

end Work

def portTypes (stream : MsrpStream) (own : Nat) (ports : List Nat) : Set ListenerDeclarationType :=
  {type | ∃ port ∈ ports, port ≠ own ∧ stream.isRegistered .LISTENER port = true ∧
    (stream.port port).listenerDeclarationType = type}

theorem mergeListeners_isLUB (stream : MsrpStream) (own : Nat) (ports : List Nat) (merged : ListenerDeclarationType) :
    IsLUB (insert merged (portTypes stream own ports)) (mergeListeners stream own ports merged) := by
  induction ports generalizing merged with
  | nil =>
    have empty : portTypes stream own [] = ∅ := by
      ext type
      simp [portTypes]
    rw [empty,insert_empty_eq]
    exact isLUB_singleton
  | cons port rest ih =>
    have skipped (absent : port = own ∨ stream.isRegistered .LISTENER port = false) :
        portTypes stream own (port :: rest) = portTypes stream own rest := by
      ext type
      rcases absent with same | absent
      · simp [portTypes,same]
      · simp [portTypes,absent]
    rw [mergeListeners]
    split
    next same =>
      rw [skipped (.inl same)]
      exact ih merged
    next other =>
      split
      next absent =>
        rw [skipped (.inr (by simpa using absent))]
        exact ih merged
      next present =>
        have registered : stream.isRegistered .LISTENER port = true := by simpa using present
        have added : portTypes stream own (port :: rest) =
            insert (stream.port port).listenerDeclarationType (portTypes stream own rest) := by
          ext type
          simp only [portTypes,mem_cons,Set.mem_ofPred_eq,Set.mem_insert_iff]
          constructor
          · rintro ⟨place,rfl | later,apart,bit,same⟩
            · exact .inl same.symm
            · exact .inr ⟨place,later,apart,bit,same⟩
          · rintro (same | ⟨place,later,apart,bit,same⟩)
            · exact ⟨port,.inl rfl,other,registered,same.symm⟩
            · exact ⟨place,.inr later,apart,bit,same⟩
        rw [added]
        generalize (stream.port port).listenerDeclarationType = type
        -- what has been merged so far and the port's declaration are joined before the rest
        have joined {next : ListenerDeclarationType} (same : next = merged ⊔ type) :
            IsLUB (insert merged (insert type (portTypes stream own rest))) (mergeListeners stream own rest next) := by
          have := ih next
          rw [isLUB_iff_le_iff] at this ⊢
          intro bound
          rw [this bound,upperBounds_insert,upperBounds_insert,upperBounds_insert,same]
          simp [and_assoc]
        have absorbed (full : merged ⊔ type = .READY_FAILED) :
            IsLUB (insert merged (insert type (portTypes stream own rest))) .READY_FAILED := by
          constructor
          · intro other _
            exact .inr (.inl rfl)
          · intro bound bounds
            rw [← full]
            exact sup_le (bounds (Set.mem_insert _ _)) (bounds (Set.mem_insert_of_mem _ (Set.mem_insert _ _)))
        cases merged with
        | NONE => exact joined (by cases type <;> rfl)
        | READY_FAILED => exact absorbed (readyFailed_sup type)
        | ASKING_FAILED | READY =>
          simp only
          split
          next full => exact absorbed (by rcases full with rfl | rfl <;> rfl)
          next less => exact joined (by cases type <;> simp at less <;> rfl)

def userTypes (stream : MsrpStream) : Set ListenerDeclarationType :=
  {type | stream.isUserDeclaredAny .LISTENER = true ∧ type = .READY}

private theorem mapListenerRegistrationMerge_isLUB (portMax : Nat) (stream : MsrpStream) (own : Nat) :
    IsLUB (userTypes stream ∪ portTypes stream own (List.range portMax))
      (mapListenerRegistrationMerge portMax stream own) := by
  have merged := mergeListeners_isLUB stream own (List.range portMax)
    (if stream.isUserDeclaredAny .LISTENER then .READY else .NONE)
  rw [isLUB_iff_le_iff] at merged ⊢
  intro bound
  rw [mapListenerRegistrationMerge,merged bound,upperBounds_insert,upperBounds_union]
  refine and_congr_left fun _ => ?_
  constructor
  · rintro above type ⟨user,rfl⟩
    rwa [user,if_pos rfl] at above
  · intro above
    split
    next user => exact above ⟨user,rfl⟩
    · exact .inl rfl

namespace Work
variable {work : Work}

private theorem talkerStatus_stream (port : Nat) (work : Work) :
    (work.msrpIpcTalkerStatus port).stream = work.stream ∧ (work.msrpIpcTalkerStatus port).ctx.port = work.ctx.port := by
  unfold msrpIpcTalkerStatus
  split <;> exact ⟨rfl,rfl⟩

/-- What the merge on a port leaves: the type of the port, the bit of a port without registrations cleared, and
nothing else that a merge reads. -/
structure PortMerged (port : Nat) (work next : Work) : Prop where
  type : (next.stream.port port).listenerDeclarationType = work.mergedListenerType port
  others : ∀ other, other ≠ port → (next.stream.port other).listenerDeclarationType =
    (work.stream.port other).listenerDeclarationType
  attributes : ∀ other, (next.stream.port other).registeredAttributes = (work.stream.port other).registeredAttributes
  bits : next.stream.registeredState .LISTENER = work.stream.registeredState .LISTENER ∨
    work.mergedListenerType port = .NONE ∧
      next.stream.registeredState .LISTENER = maskClear (work.stream.registeredState .LISTENER) port
  user : next.stream.userDeclaredState = work.stream.userDeclaredState
  port : next.ctx.port = work.ctx.port

variable {port : Nat} {next : Work}

theorem PortMerged.congr {last : Work} (merged : PortMerged port work next)
    (stream : last.stream = next.stream) (ports : last.ctx.port = next.ctx.port) : PortMerged port work last := by
  refine ⟨?_,?_,?_,?_,?_,ports.trans merged.port⟩ <;> rw [stream]
  · exact merged.type
  · exact merged.others
  · exact merged.attributes
  · exact merged.bits
  · exact merged.user

private theorem setType_merged {stream : MsrpStream} {ctx : MsrpCtx}
    (attributes : stream.port = work.stream.port) (user : stream.userDeclaredState = work.stream.userDeclaredState)
    (ports : ctx.port = work.ctx.port)
    (bits : stream.registeredState .LISTENER = work.stream.registeredState .LISTENER ∨
      work.mergedListenerType port = .NONE ∧
        stream.registeredState .LISTENER = maskClear (work.stream.registeredState .LISTENER) port) :
    PortMerged port work ⟨stream.modifyPort port fun item =>
      {item with listenerDeclarationType := work.mergedListenerType port},ctx⟩ := by
  refine ⟨?_,?_,?_,bits,user,ports⟩
  · simp [MsrpStream.modifyPort]
  · intro other apart
    simp [MsrpStream.modifyPort,Function.update_of_ne apart,attributes]
  · intro other
    by_cases same : other = port
    · subst same
      simp [MsrpStream.modifyPort,attributes]
    · simp [MsrpStream.modifyPort,Function.update_of_ne same,attributes]

private theorem registrationMerge_merged (port : Nat) (work : Work) :
    PortMerged port work (work.msrpListenerRegistrationMerge port) := by
  unfold msrpListenerRegistrationMerge
  have same : (if work.readsReleased .LISTENER port then work.faulted (.releasedAttribute port) else work).stream =
      work.stream ∧
      (if work.readsReleased .LISTENER port then work.faulted (.releasedAttribute port) else work).ctx.port =
        work.ctx.port ∧
      (if work.readsReleased .LISTENER port then work.faulted (.releasedAttribute port) else work).mergedListenerType port =
        work.mergedListenerType port := by
    split <;> exact ⟨rfl,rfl,rfl⟩
  generalize (if work.readsReleased .LISTENER port then work.faulted (.releasedAttribute port) else work) = read at same
  obtain ⟨stream,ports,type⟩ := same
  simp only
  rw [type]
  split
  next none =>
    obtain ⟨status,statusPorts⟩ := talkerStatus_stream port (read.modifyStream fun stream =>
      (stream.setRegistered .LISTENER port false).modifyPort port fun item =>
        {item with listenerDeclarationType := work.mergedListenerType port})
    refine (setType_merged ?_ ?_ ?_ ?_).congr status statusPorts
    · rw [← stream]
      rfl
    · rw [← stream]
      rfl
    · exact ports
    · refine .inr ⟨none,?_⟩
      rw [← stream]
      simp [MsrpStream.setRegistered,MsrpStream.setBit]
  · split
    · obtain ⟨status,statusPorts⟩ := talkerStatus_stream port (read.modifyStream fun stream =>
        stream.modifyPort port fun item => {item with listenerDeclarationType := work.mergedListenerType port})
      refine (setType_merged ?_ ?_ ?_ ?_).congr status statusPorts
      · rw [stream]
      · rw [stream]
      · exact ports
      · rw [stream]
        exact .inl rfl
    next held =>
      refine ⟨?_,fun other _ => ?_,fun other => ?_,.inl ?_,?_,ports⟩
      · exact (not_not.mp held).symm
      all_goals rw [stream]

section
variable (merged : PortMerged port work next)
include merged

theorem PortMerged.registered (other : Nat) : next.registered .LISTENER other = work.registered .LISTENER other := by
  unfold Work.registered MsrpCtx.app
  rw [merged.attributes,merged.port]

theorem PortMerged.mergedListenerType (other : Nat) :
    next.mergedListenerType other = work.mergedListenerType other := by
  unfold Work.mergedListenerType hasRegistered
  rw [merged.registered]

theorem PortMerged.isRegistered (other : Nat) :
    next.stream.isRegistered .LISTENER other = work.stream.isRegistered .LISTENER other ∨
      next.stream.isRegistered .LISTENER other = false ∧ work.mergedListenerType other = .NONE := by
  unfold MsrpStream.isRegistered
  rcases merged.bits with same | ⟨none,cleared⟩
  · rw [same]
    exact .inl rfl
  · rw [cleared]
    by_cases inside : other < 16
    · rw [maskHas_clear _ inside]
      by_cases here : port = other
      · subst here
        exact .inr ⟨by simp,none⟩
      · exact .inl (by simp [here])
    · have beyond (mask : BitVec 16) : maskHas mask other = false :=
        Bool.eq_false_iff.mpr fun has => inside (maskHas_inside has)
      rw [beyond,beyond]
      exact .inl rfl

end

def mergePorts (ports : List Nat) (work : Work) : Work :=
  ports.foldl (fun work port => work.msrpListenerRegistrationMerge port) work

structure PortsMerged (ports : List Nat) (work next : Work) : Prop where
  types : ∀ port ∈ ports, (next.stream.port port).listenerDeclarationType = work.mergedListenerType port
  registered : ∀ port, next.mergedListenerType port = work.mergedListenerType port
  bits : ∀ port, next.stream.isRegistered .LISTENER port = work.stream.isRegistered .LISTENER port ∨
    next.stream.isRegistered .LISTENER port = false ∧ work.mergedListenerType port = .NONE
  user : next.stream.userDeclaredState = work.stream.userDeclaredState

theorem mergePorts_merged (ports : List Nat) (work : Work) : PortsMerged ports work (work.mergePorts ports) := by
  induction ports using List.reverseRecOn with
  | nil => exact ⟨by simp,fun _ => rfl,fun _ => .inl rfl,rfl⟩
  | append_singleton ports port ih =>
    have step : work.mergePorts (ports ++ [port]) = (work.mergePorts ports).msrpListenerRegistrationMerge port := by
      simp [mergePorts]
    rw [step]
    generalize work.mergePorts ports = before at *
    have merged := registrationMerge_merged port before
    refine ⟨?_,fun other => (merged.mergedListenerType other).trans (ih.registered other),?_,merged.user.trans ih.user⟩
    · intro other member
      by_cases here : other = port
      · subst here
        rw [merged.type,ih.registered]
      · rw [merged.others other here]
        exact ih.types other (by simpa [here] using member)
    · intro other
      rcases merged.isRegistered other with same | ⟨cleared,none⟩
      · rw [same]
        exact ih.bits other
      · exact .inr ⟨cleared,(ih.registered other).symm.trans none⟩

def otherTypes (portMax own : Nat) (work : Work) : Set ListenerDeclarationType :=
  {type | ∃ port < portMax, port ≠ own ∧ work.stream.isRegistered .LISTENER port = true ∧
    type ∈ work.registeredTypes port}

private theorem mergePorts_isLUB (portMax own : Nat) (work : Work) :
    IsLUB (userTypes work.stream ∪ work.otherTypes portMax own)
      (mapListenerRegistrationMerge portMax (work.mergePorts (List.range portMax)).stream own) := by
  have merged := mergePorts_merged (List.range portMax) work
  have declared := mapListenerRegistrationMerge_isLUB portMax (work.mergePorts (List.range portMax)).stream own
  generalize work.mergePorts (List.range portMax) = next at *
  have user : userTypes next.stream = userTypes work.stream := by
    unfold userTypes MsrpStream.isUserDeclaredAny
    rw [merged.user]
  rw [isLUB_iff_le_iff] at declared ⊢
  intro bound
  rw [declared bound,user,upperBounds_union,upperBounds_union]
  refine and_congr_right fun _ => ?_
  constructor
  · rintro above type ⟨port,inside,apart,bit,member⟩
    have least := (mergedListenerType_isLUB port work).1 member
    rcases merged.bits port with same | ⟨_,none⟩
    · refine le_trans least (above ⟨port,mem_range.mpr inside,apart,same.trans bit,?_⟩)
      exact merged.types port (mem_range.mpr inside)
    · rw [none] at least
      exact le_trans least (.inl rfl)
  · rintro above type ⟨port,inside,apart,bit,rfl⟩
    rw [merged.types port inside]
    refine (mergedListenerType_isLUB port work).2 fun type member => above ⟨port,mem_range.mp inside,apart,?_,member⟩
    rcases merged.bits port with same | ⟨cleared,_⟩
    · exact same.symm.trans bit
    · rw [cleared] at bit
      cases bit

/-- The same registrations, with the ports numbered otherwise and the attributes of a port in any order. -/
structure Renumbered (portMax : Nat) (numbering : Equiv.Perm Nat) (work other : Work) : Prop where
  ports : ∀ port, numbering port < portMax ↔ port < portMax
  attributes : ∀ port, (other.registered .LISTENER (numbering port)).Perm (work.registered .LISTENER port)
  bits : ∀ port, other.stream.isRegistered .LISTENER (numbering port) = work.stream.isRegistered .LISTENER port
  user : other.stream.isUserDeclaredAny .LISTENER = work.stream.isUserDeclaredAny .LISTENER

theorem Renumbered.registeredTypes {portMax : Nat} {numbering : Equiv.Perm Nat} {other : Work}
    (renumbered : Renumbered portMax numbering work other) (port : Nat) :
    other.registeredTypes (numbering port) = work.registeredTypes port := by
  ext type
  unfold Work.registeredTypes
  simp only [Set.mem_ofPred_eq,(renumbered.attributes port).mem_iff]

theorem Renumbered.otherTypes {portMax : Nat} {numbering : Equiv.Perm Nat} {other : Work}
    (renumbered : Renumbered portMax numbering work other) (own : Nat) :
    other.otherTypes portMax (numbering own) = work.otherTypes portMax own := by
  ext type
  constructor
  · rintro ⟨place,inside,apart,bit,member⟩
    obtain ⟨port,rfl⟩ := numbering.surjective place
    rw [renumbered.bits] at bit
    rw [renumbered.registeredTypes] at member
    exact ⟨port,(renumbered.ports port).mp inside,fun same => apart (congrArg numbering same),bit,member⟩
  · rintro ⟨port,inside,apart,bit,member⟩
    refine ⟨numbering port,(renumbered.ports port).mpr inside,fun same => apart (numbering.injective same),?_,?_⟩
    · rw [renumbered.bits]
      exact bit
    · rw [renumbered.registeredTypes]
      exact member

end Work

/-- The merge on a port is the least upper bound of the port's registrations, the merge for a port that of the other
ports' declarations and the user's, and both in turn are the least upper bound of all registrations at once, whatever
order the attributes are in and however the ports are numbered. -/
theorem listenerRegistration_merged (portMax own : Nat) (work : Work) :
    IsLUB (work.registeredTypes own)
        ((work.msrpListenerRegistrationMerge own).stream.port own).listenerDeclarationType ∧
      IsLUB (userTypes work.stream ∪ portTypes work.stream own (List.range portMax))
        (mapListenerRegistrationMerge portMax work.stream own) ∧
      IsLUB (userTypes work.stream ∪ work.otherTypes portMax own)
        (mapListenerRegistrationMerge portMax (work.mergePorts (List.range portMax)).stream own) ∧
      ∀ (numbering : Equiv.Perm Nat) (other : Work), Work.Renumbered portMax numbering work other →
        other.mergedListenerType (numbering own) = work.mergedListenerType own ∧
        mapListenerRegistrationMerge portMax (other.mergePorts (List.range portMax)).stream (numbering own) =
          mapListenerRegistrationMerge portMax (work.mergePorts (List.range portMax)).stream own := by
  refine ⟨?_,mapListenerRegistrationMerge_isLUB portMax work.stream own,Work.mergePorts_isLUB portMax own work,?_⟩
  · rw [(Work.registrationMerge_merged own work).type]
    exact Work.mergedListenerType_isLUB own work
  · intro numbering other renumbered
    constructor
    · have merged := Work.mergedListenerType_isLUB (numbering own) other
      rw [renumbered.registeredTypes] at merged
      exact merged.unique (Work.mergedListenerType_isLUB own work)
    · have merged := Work.mergePorts_isLUB portMax (numbering own) other
      have user : userTypes other.stream = userTypes work.stream := by
        unfold userTypes
        rw [renumbered.user]
      rw [renumbered.otherTypes,user] at merged
      exact merged.unique (Work.mergePorts_isLUB portMax own work)

end Genavb.Msrp
