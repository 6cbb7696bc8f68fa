import Genavb.Support.Ring
import Genavb.Support.Run
import Mathlib.Data.List.Infix

/-! The lockless queue of `queue_common.h`: a writer and a reader share a ring of entries and two indices, and the atomic
steps of the one come between those of the other in any order. -/
namespace Genavb.Common
open Genavb.Support List

variable {E : Type}

structure Queue (E : Type) where
  size : Nat
  maxSize : Nat
  read : Nat
  write : Nat
  entry : Nat → E

def queueInit (maxSize : Nat) (entry : Nat → E) : Queue E := ⟨maxSize,maxSize,0,0,entry⟩

/-- The check is one of the old size. -/
def queueSetSize (size : Nat) (q : Queue E) : Queue E × Bool :=
  if q.size < 1 ∨ q.maxSize < q.size then (q,false) else ({q with size := size},true)

def queuePending (q : Queue E) : Nat := ringCount q.maxSize q.read q.write

/-- The difference is one of `unsigned int`, and is taken as an `int`. -/
def queueAvailable (q : Queue E) : Nat :=
  let difference := (q.size + 4294967296 - 1 - queuePending q) % 4294967296
  if difference < 2147483648 then difference else 0

def queueIncr (q : Queue E) (index : Nat) : Nat := ringNext q.maxSize index

/-- Between `queue_enqueue_init` and `queue_enqueue_done` a writer has its index and what it has queued; `left` is what
remains of the entries that it found available. -/
inductive QueueWriter (E : Type)
  | idle
  | checked (available : Nat)
  | writing (write : Nat) (queued : List E) (left : Nat)

inductive QueueReader (E : Type)
  | idle
  | checked (pending : Nat)
  | reading (read : Nat) (got : List E) (left : Nat)

/-- A queue with its two users. `accepted` and `delivered` are the entries of the sequences that are done. -/
structure QueueSystem (E : Type) where
  queue : Queue E
  writer : QueueWriter E
  reader : QueueReader E
  accepted : List E
  delivered : List E

inductive QueueStep (E : Type)
  | setSize (size : Nat)
  | available
  | enqueueInit
  | enqueueNext (entry : E)
  | enqueueDone
  | pending
  | dequeueInit
  | dequeueNext
  | dequeueDone

/-- The users keep to the order of the calls and to the number of entries that they have checked. -/
def queueStep (step : QueueStep E) (system : QueueSystem E) : QueueSystem E :=
  let q := system.queue
  match step,system.writer,system.reader with
  | .setSize size,_,_ => {system with queue := (queueSetSize size q).1}
  | .available,.writing _ _ _,_ => system
  | .available,_,_ => {system with writer := .checked (queueAvailable q)}
  | .enqueueInit,.checked available,_ => {system with writer := .writing q.write [] available}
  | .enqueueNext entry,.writing write queued (left + 1),_ =>
    {system with
      queue := {q with entry := Function.update q.entry write entry}
      writer := .writing (queueIncr q write) (queued ++ [entry]) left}
  | .enqueueDone,.writing write queued _,_ =>
    {system with queue := {q with write := write}, writer := .idle, accepted := system.accepted ++ queued}
  | .pending,_,.reading _ _ _ => system
  | .pending,_,_ => {system with reader := .checked (queuePending q)}
  | .dequeueInit,_,.checked pending => {system with reader := .reading q.read [] pending}
  | .dequeueNext,_,.reading read got (left + 1) =>
    {system with reader := .reading (queueIncr q read) (got ++ [q.entry read]) left}
  | .dequeueDone,_,.reading read got _ =>
    {system with queue := {q with read := read}, reader := .idle, delivered := system.delivered ++ got}
  | _,_,_ => system

def QueueSystem.start (maxSize : Nat) (entry : Nat → E) : QueueSystem E := ⟨queueInit maxSize entry,.idle,.idle,[],[]⟩

def queueEntries (q : Queue E) : List E :=
  (List.range (queuePending q)).map fun i => q.entry ((q.read + i) % q.maxSize)

def QueueWriter.queued : QueueWriter E → List E
  | .writing _ queued _ => queued
  | _ => []

/-- What the writer may still queue, or has found that it may. -/
def QueueWriter.room : QueueWriter E → Nat
  | .idle => 0
  | .checked available => available
  | .writing _ _ left => left

/-- The writer's index is behind its entries and there is room for what it may still queue. -/
structure WriterRight (maxSize : Nat) (system : QueueSystem E) : Prop where
  place : ∀ write queued left, system.writer = .writing write queued left →
    write = (system.accepted.length + queued.length) % maxSize
  room : system.accepted.length + system.writer.queued.length + system.writer.room < system.delivered.length + maxSize

def ReaderRight (maxSize : Nat) (system : QueueSystem E) : Prop :=
  match system.reader with
  | .idle => True
  | .checked pending => system.delivered.length + pending ≤ system.accepted.length
  | .reading read got left =>
    read = (system.delivered.length + got.length) % maxSize ∧
      system.delivered.length + got.length + left ≤ system.accepted.length ∧
      system.delivered ++ got <+: system.accepted

structure QueueRight (maxSize : Nat) (system : QueueSystem E) : Prop where
  max : system.queue.maxSize = maxSize
  size : system.queue.size ≤ maxSize
  read : system.queue.read = system.delivered.length % maxSize
  write : system.queue.write = system.accepted.length % maxSize
  order : system.delivered <+: system.accepted
  holds : RingHolds maxSize system.queue.entry (system.accepted ++ system.writer.queued) system.delivered.length
  writer : WriterRight maxSize system
  reader : ReaderRight maxSize system

namespace QueueRight
variable {maxSize : Nat} {system : QueueSystem E}

variable (right : QueueRight maxSize system)
include right

theorem ahead : system.accepted.length < system.delivered.length + maxSize := by
  have room := right.writer.room
  omega

theorem pending :
    queuePending system.queue = system.accepted.length - system.delivered.length := by
  rw [queuePending,right.max,right.read,right.write]
  exact ringCount_mod right.order.length_le right.ahead

theorem positive : 0 < maxSize := by
  have ordered := right.order.length_le
  have ahead := right.ahead
  omega

theorem available (small : maxSize < 2147483648) :
    system.accepted.length + queueAvailable system.queue < system.delivered.length + maxSize := by
  have ahead := right.ahead
  have size := right.size
  have count := right.pending
  unfold queueAvailable
  generalize queuePending system.queue = pending at count ⊢
  dsimp only
  split <;> omega

theorem setSize {size : Nat} (small : size ≤ maxSize) :
    QueueRight maxSize {system with queue := (queueSetSize size system.queue).1} := by
  unfold queueSetSize
  split
  · exact right
  · exact {right with size := small,writer := ⟨right.writer.place,right.writer.room⟩,reader := right.reader}

theorem checked (between : system.writer.queued = []) {available : Nat}
    (room : system.accepted.length + available < system.delivered.length + maxSize) :
    QueueRight maxSize {system with writer := .checked available} where
  __ := right
  holds := by
    have holds := right.holds
    rw [between] at holds
    exact holds
  writer := ⟨nofun,room⟩

theorem enqueueInit {available : Nat} (asked : system.writer = .checked available) :
    QueueRight maxSize {system with writer := .writing system.queue.write [] available} where
  __ := right
  holds := by
    have holds := right.holds
    rw [asked] at holds
    exact holds
  writer := by
    constructor
    · rintro _ _ _ same
      obtain ⟨rfl,rfl,rfl⟩ := QueueWriter.writing.inj same
      exact right.write
    · have room := right.writer.room
      rw [asked] at room
      exact room

theorem enqueueNext {write left : Nat} {queued : List E}
    (busy : system.writer = .writing write queued (left + 1)) (entry : E) :
    QueueRight maxSize {system with
      queue := {system.queue with entry := Function.update system.queue.entry write entry}
      writer := .writing (queueIncr system.queue write) (queued ++ [entry]) left} where
  __ := right
  holds := by
    have holds := right.holds
    have room := right.writer.room
    rw [busy] at holds room
    dsimp only [QueueWriter.queued,QueueWriter.room] at holds room ⊢
    rw [← append_assoc,right.writer.place write queued _ busy,← length_append]
    exact holds.push (by rw [length_append]; omega) entry
  writer := by
    constructor
    · rintro _ _ _ same
      obtain ⟨rfl,rfl,rfl⟩ := QueueWriter.writing.inj same
      rw [queueIncr,right.max,right.writer.place write queued _ busy,ringNext_mod right.positive,length_append,
        length_singleton,Nat.add_assoc]
    · have room := right.writer.room
      rw [busy] at room
      dsimp only [QueueWriter.queued,QueueWriter.room] at room ⊢
      rw [length_append,length_singleton]
      omega

theorem enqueueDone {write left : Nat} {queued : List E}
    (busy : system.writer = .writing write queued left) :
    QueueRight maxSize {system with
      queue := {system.queue with write := write}
      writer := .idle
      accepted := system.accepted ++ queued} where
  __ := right
  write := by
    rw [length_append]
    exact right.writer.place write queued left busy
  order := right.order.trans (prefix_append ..)
  holds := by
    have holds := right.holds
    rw [busy] at holds
    dsimp only [QueueWriter.queued] at holds ⊢
    rw [append_nil]
    exact holds
  writer := by
    refine ⟨nofun,?_⟩
    have room := right.writer.room
    rw [busy] at room
    dsimp only [QueueWriter.queued,QueueWriter.room] at room ⊢
    rw [length_append,length_nil]
    omega
  reader := by
    have reader := right.reader
    unfold ReaderRight at reader ⊢
    cases phase : system.reader with
    | idle => trivial
    | checked pending =>
      rw [phase] at reader
      dsimp only at reader ⊢
      rw [length_append]
      omega
    | reading read got left =>
      rw [phase] at reader
      obtain ⟨place,inside,front⟩ := reader
      refine ⟨place,?_,front.trans (prefix_append ..)⟩
      dsimp only
      rw [length_append]
      omega

theorem look :
    QueueRight maxSize {system with reader := .checked (queuePending system.queue)} := by
  refine {right with writer := ⟨right.writer.place,right.writer.room⟩,reader := ?_}
  have ordered := right.order.length_le
  change system.delivered.length + queuePending system.queue ≤ system.accepted.length
  rw [right.pending]
  omega

theorem dequeueInit {pending : Nat} (asked : system.reader = .checked pending) :
    QueueRight maxSize {system with reader := .reading system.queue.read [] pending} := by
  refine {right with writer := ⟨right.writer.place,right.writer.room⟩,reader := ⟨right.read,?_,?_⟩}
  · have reader := right.reader
    rw [ReaderRight,asked] at reader
    exact reader
  · rw [append_nil]
    exact right.order

theorem dequeueNext {read left : Nat} {got : List E}
    (busy : system.reader = .reading read got (left + 1)) :
    QueueRight maxSize {system with
      reader := .reading (queueIncr system.queue read) (got ++ [system.queue.entry read]) left} := by
  have reader := right.reader
  rw [ReaderRight,busy] at reader
  obtain ⟨place,inside,front⟩ := reader
  refine {right with writer := ⟨right.writer.place,right.writer.room⟩,reader := ⟨?_,?_,?_⟩}
  · rw [queueIncr,right.max,place,ringNext_mod right.positive,length_append,length_singleton,Nat.add_assoc]
  · dsimp only
    rw [length_append,length_singleton]
    omega
  · have more : system.delivered.length + got.length < system.accepted.length := by omega
    have stands := right.holds.front _ _ (Nat.le_add_right ..) (List.getElem?_eq_getElem more)
    have longer := concat_get_prefix front (by rw [length_append]; exact more)
    simp only [length_append,get_eq_getElem] at longer
    rw [place,stands,← append_assoc]
    exact longer

theorem dequeueDone {read left : Nat} {got : List E}
    (busy : system.reader = .reading read got left) :
    QueueRight maxSize {system with
      queue := {system.queue with read := read}
      reader := .idle
      delivered := system.delivered ++ got} := by
  have reader := right.reader
  rw [ReaderRight,busy] at reader
  obtain ⟨place,inside,front⟩ := reader
  refine {right with read := ?_,order := front,holds := ?_,writer := ⟨right.writer.place,?_⟩,reader := trivial}
  · rw [length_append]
    exact place
  · rw [length_append]
    exact right.holds.drop (Nat.le_add_right ..)
  · have room := right.writer.room
    dsimp only
    rw [length_append]
    omega

end QueueRight

section Runs
variable {maxSize : Nat} {system : QueueSystem E}

theorem queueStep_right (small : maxSize < 2147483648) (step : QueueStep E)
    (size : ∀ size, step = .setSize size → size ≤ maxSize) (right : QueueRight maxSize system) :
    QueueRight maxSize (queueStep step system) := by
  unfold queueStep
  split
  next size _ _ => exact right.setSize (size _ rfl)
  next => exact right
  next between =>
    refine right.checked ?_ (right.available small)
    cases writer : system.writer with
    | writing write queued left => exact absurd writer (between write queued left)
    | _ => rfl
  next asked => exact right.enqueueInit asked
  next busy => exact right.enqueueNext busy _
  next busy => exact right.enqueueDone busy
  next => exact right
  next => exact right.look
  next asked => exact right.dequeueInit asked
  next busy => exact right.dequeueNext busy
  next busy => exact right.dequeueDone busy
  next => exact right

theorem start_right (positive : 0 < maxSize) (entry : Nat → E) : QueueRight maxSize (.start maxSize entry) where
  max := rfl
  size := Nat.le_refl _
  read := (Nat.zero_mod _).symm
  write := (Nat.zero_mod _).symm
  order := prefix_refl _
  holds := nofun
  writer := by
    refine ⟨nofun,?_⟩
    change 0 + 0 + 0 < 0 + maxSize
    omega
  reader := trivial

theorem QueueRight.entries (right : QueueRight maxSize system) :
    system.delivered ++ queueEntries system.queue = system.accepted := by
  have ordered := right.order.length_le
  have slots := right.holds.front.slots ordered
  have same (i : Nat) : (system.queue.read + i) % system.queue.maxSize = (system.delivered.length + i) % maxSize := by
    rw [right.read,right.max,Nat.mod_add_mod]
  have split := right.order
  rw [queueEntries,right.pending]
  simp only [same]
  rw [slots]
  nth_rewrite 1 [prefix_iff_eq_take.mp split]
  exact take_append_drop ..

/-- Whatever steps of the reader come between those of the writer, what has been delivered are the entries accepted, once
and in order, up to those in the queue, and these never fill it. -/
theorem queue_fifo (positive : 0 < maxSize) (small : maxSize < 2147483648) (entry : Nat → E) (steps : List (QueueStep E))
    (sizes : ∀ size, .setSize size ∈ steps → size ≤ maxSize) :
    (run queueStep steps (.start maxSize entry)).delivered ++
        queueEntries (run queueStep steps (.start maxSize entry)).queue =
      (run queueStep steps (.start maxSize entry)).accepted ∧
    (queueEntries (run queueStep steps (.start maxSize entry)).queue).length < maxSize := by
  have right : QueueRight maxSize (run queueStep steps (.start maxSize entry)) := by
    apply foldl_kept ?_ (start_right positive entry)
    intro system right step member
    refine queueStep_right small step ?_ right
    rintro size rfl
    exact sizes size member
  refine ⟨right.entries,?_⟩
  have ahead := right.ahead
  rw [queueEntries,length_map,length_range,right.pending]
  omega

/-- Entries of a full queue are refused, and those behind the wrap come in order. -/
theorem queue_fifo_three :
    ((run queueStep [.available,.enqueueInit,.pending,.enqueueNext 5,.enqueueNext 6,.enqueueNext 7,.enqueueDone,.pending,
        .dequeueInit,.dequeueNext,.available,.dequeueDone,.available,.enqueueInit,.enqueueNext 8]
        (.start 3 fun _ => 0)).delivered ++
      queueEntries (run queueStep [.available,.enqueueInit,.pending,.enqueueNext 5,.enqueueNext 6,.enqueueNext 7,
        .enqueueDone,.pending,.dequeueInit,.dequeueNext,.available,.dequeueDone,.available,.enqueueInit,.enqueueNext 8]
        (.start 3 fun _ => 0)).queue = [5,6]) := by
  have fifo := (queue_fifo (show 0 < 3 by decide) (by decide) (fun _ => 0) [.available,.enqueueInit,.pending,
    .enqueueNext 5,.enqueueNext 6,.enqueueNext 7,.enqueueDone,.pending,.dequeueInit,.dequeueNext,.available,.dequeueDone,
    .available,.enqueueInit,.enqueueNext 8] (by simp)).1
  exact fifo.trans rfl

end Runs

/-- `queue_enqueue`, and whether it accepted the entry. -/
def queueEnqueue (entry : E) (q : Queue E) : Queue E × Bool :=
  if queueAvailable q = 0 then (q,false)
  else ({q with entry := Function.update q.entry q.write entry,write := queueIncr q q.write},true)

def queueDequeue (q : Queue E) : Queue E × Option E :=
  if queuePending q = 0 then (q,none) else ({q with read := queueIncr q q.read},some (q.entry q.read))

theorem queueEnqueue_steps (system : QueueSystem E) (idle : system.writer = .idle) (entry : E) :
    (run queueStep [.available,.enqueueInit,.enqueueNext entry,.enqueueDone] system).queue =
        (queueEnqueue entry system.queue).1 ∧
      (run queueStep [.available,.enqueueInit,.enqueueNext entry,.enqueueDone] system).accepted =
        system.accepted ++ if (queueEnqueue entry system.queue).2 then [entry] else [] := by
  obtain ⟨queue,writer,reader,accepted,delivered⟩ := system
  obtain rfl : writer = .idle := idle
  cases found : queueAvailable queue <;> simp [queueStep,queueEnqueue,found]

theorem queueDequeue_steps (system : QueueSystem E) (idle : system.reader = .idle) :
    (run queueStep [.pending,.dequeueInit,.dequeueNext,.dequeueDone] system).queue = (queueDequeue system.queue).1 ∧
      (run queueStep [.pending,.dequeueInit,.dequeueNext,.dequeueDone] system).delivered =
        system.delivered ++ (queueDequeue system.queue).2.toList := by
  obtain ⟨queue,writer,reader,accepted,delivered⟩ := system
  obtain rfl : reader = .idle := idle
  cases found : queuePending queue <;> simp [queueStep,queueDequeue,found]

end Genavb.Common
