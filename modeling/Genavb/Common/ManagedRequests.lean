import Genavb.Common.ManagedObjects

/-! Requests for managed objects: the response holds the replies, each of them exact, as long as
every error status finds room for its header. -/
namespace Genavb.Common
open Genavb.Support ObjectTree List
open Option (bind_eq_bind bind_eq_some_iff bind_none bind_some map_eq_bind map_some)
open List (append_assoc append_nil length_append mem_cons_self)

@[simp] theorem headerStatus_length (id length : Nat) (status : NodeStatus) :
    (headerStatus id length status).length = 6 := rfl

private theorem halfValue_halfBytes (value : Nat) : halfValue (halfBytes value) = value % 65536 := by
  simp only [halfValue,halfBytes,getD_cons_zero,getD_cons_succ,UInt8.toNat_ofNat']
  omega

private theorem halfBytes_mod (value : Nat) : halfBytes (value % 65536) = halfBytes value := by
  have low : UInt8.ofNat (value % 65536) = UInt8.ofNat value := by
    apply UInt8.toNat_inj.mp
    rw [UInt8.toNat_ofNat',UInt8.toNat_ofNat']
    omega
  have high : UInt8.ofNat (value % 65536 / 256) = UInt8.ofNat (value / 256) := by
    apply UInt8.toNat_inj.mp
    rw [UInt8.toNat_ofNat',UInt8.toNat_ofNat']
    omega
  rw [halfBytes,low,high,halfBytes]

private theorem lengthTold_header (id length : Nat) (status : NodeStatus) (behind : List UInt8) :
    lengthTold (headerStatus id length status ++ behind) = length % 65536 :=
  halfValue_halfBytes length

@[simp] theorem repliesBytes_append (first second : List Reply) :
    repliesBytes (first ++ second) = repliesBytes first ++ repliesBytes second := by
  induction first with
  | nil => rfl
  | cons reply others ih =>
    rw [cons_append,repliesBytes,repliesBytes,ih,append_assoc]

variable {σ ρ : Type} {buffer : Response}

structure Standing (buffer : Response) (before : List UInt8) (room : Nat) (memory : Memory) : Prop where
  written : Written memory buffer.start before
  place : buffer.start + before.length + room = buffer.stop

def Lost (result : Option (Nat × Machine σ)) : Prop := ∀ out machine, result = some (out,machine) → out = 0

def Follows (buffer : Response) (before : List UInt8) (result : Option (Nat × Machine σ)) (answer : Answer σ) : Prop :=
  if answer.fits then
    ∃ machine, result = some (buffer.start + (before ++ repliesBytes answer.replies).length,machine) ∧
      Standing buffer (before ++ repliesBytes answer.replies) answer.room machine.memory ∧ machine.app = answer.app
  else Lost result

section Headers
variable {before inner bytes : List UInt8} {room : Nat} {memory : Memory} {machine : Machine σ}

theorem Standing.put (standing : Standing buffer before room memory) (bytes : List UInt8) (app : σ)
    (small : bytes.length ≤ room) :
    ∃ after, buffer.put (buffer.start + before.length) bytes ⟨memory,app⟩ = some ⟨after,app⟩ ∧
      Standing buffer (before ++ bytes) (room - bytes.length) after := by
  have place := standing.place
  refine ⟨store (buffer.start + before.length) bytes memory,?_,store_extends bytes standing.written,?_⟩
  · rw [Response.put,if_pos ⟨by omega,by omega⟩]
  · rw [length_append]
    omega

theorem Standing.start (standing : Standing buffer before room memory) (id : Nat) (app : σ) (small : 6 ≤ room) :
    ∃ after, buffer.putHeaderStatusStart (buffer.start + before.length) id ⟨memory,app⟩ =
        some (buffer.start + before.length,⟨after,app⟩) ∧
      Standing buffer (before ++ headerStatus id 2 .ok) (room - 6) after := by
  have place := standing.place
  obtain ⟨after,value,stands⟩ := standing.put (headerStatus id 2 .ok) app small
  refine ⟨after,?_,stands⟩
  have enough : ¬ (buffer.start + before.length ≤ buffer.stop ∧ buffer.stop - (buffer.start + before.length) < 6) := by
    omega
  rw [Response.putHeaderStatusStart,if_neg enough,value]
  rfl

theorem Standing.full (standing : Standing buffer before room machine.memory) (id : Nat) (full : room < 6) :
    buffer.putHeaderStatusStart (buffer.start + before.length) id machine = some (0,machine) := by
  have place := standing.place
  rw [Response.putHeaderStatusStart,if_pos (by omega)]

theorem Standing.finish {id : Nat} (standing : Standing buffer (before ++ (headerStatus id 2 .ok ++ inner)) room memory)
    (status : NodeStatus) (length : Nat) (app : σ) :
    ∃ after, buffer.putHeaderStatusEnd (buffer.start + before.length) status length ⟨memory,app⟩ =
        some (buffer.start + before.length + 6,⟨after,app⟩) ∧
      Standing buffer (before ++ (headerStatus id (2 + length) status ++ inner)) room after := by
  have place := standing.place
  have size : (before ++ halfBytes id).length = before.length + 2 := length_append
  have shape (length : Nat) (status : NodeStatus) : before ++ (headerStatus id length status ++ inner) =
      (before ++ halfBytes id) ++ ((halfBytes length ++ halfBytes status.code) ++ inner) := by
    simp [headerStatus]
  have written := standing.written
  rw [shape] at written
  have told : bytesAt memory (buffer.start + before.length + 2) 2 = halfBytes 2 := by
    have field := (written_append.mp (written_append.mp (written_append.mp written).2).1).1
    rw [size] at field
    exact bytesAt_written field
  have fresh := @store_replaces _ _ _ _ _ (halfBytes (2 + length) ++ halfBytes status.code) written rfl
  rw [← shape,size] at fresh
  simp only [length_append,headerStatus_length] at place
  have inside : buffer.start ≤ buffer.start + before.length + 2 ∧
      buffer.start + before.length + 2 + (halfBytes (2 + length) ++ halfBytes status.code).length ≤ buffer.stop := by
    change _ ∧ buffer.start + before.length + 2 + 4 ≤ buffer.stop
    omega
  have wide (value : Nat) : halfBytes (2 % 65536 + value) = halfBytes (2 + value) := rfl
  refine ⟨store (buffer.start + (before.length + 2)) (halfBytes (2 + length) ++ halfBytes status.code) memory,?_,fresh,?_⟩
  · rw [Response.putHeaderStatusEnd,told,halfValue_halfBytes,wide,Response.put,if_pos inside]
    rfl
  · simp only [length_append,headerStatus_length]
    exact place

theorem Standing.header (standing : Standing buffer before room machine.memory) (id : Nat) (status : NodeStatus)
    (small : 6 ≤ room) :
    ∃ memory, buffer.putHeaderStatus (buffer.start + before.length) id status machine =
        some (buffer.start + (before ++ headerStatus id 2 status).length,⟨memory,machine.app⟩) ∧
      Standing buffer (before ++ headerStatus id 2 status) (room - 6) memory := by
  obtain ⟨first,begun,opened⟩ := standing.start id machine.app small
  rw [← append_nil (headerStatus id 2 .ok)] at opened
  obtain ⟨memory,ended,closed⟩ := opened.finish status 0 machine.app
  rw [append_nil] at closed
  refine ⟨memory,?_,closed⟩
  have real := buffer.real
  simp only [Response.putHeaderStatus,begun,bind_eq_bind,bind_some]
  rw [if_neg (by omega),ended,length_append,headerStatus_length,Nat.add_assoc]

private theorem start_lost (id : Nat) (machine : Machine σ) : buffer.putHeaderStatusStart 0 id machine = none := by
  have real := buffer.real
  have ordered := buffer.ordered
  rw [Response.putHeaderStatusStart,if_neg (by omega),Response.put,if_neg (by omega)]
  rfl

private theorem header_lost (id : Nat) (status : NodeStatus) (machine : Machine σ) :
    buffer.putHeaderStatus 0 id status machine = none := by
  rw [Response.putHeaderStatus,start_lost]
  rfl

theorem repliesBytes_leaf (id : Nat) (status : NodeStatus) (value : List UInt8) :
    repliesBytes [.leaf id status value] = headerStatus id (2 + value.length) status ++ value := by
  rw [repliesBytes,repliesBytes,Reply.bytes,append_nil]

theorem repliesBytes_node (id : Nat) (children : List Reply) :
    repliesBytes [.node id children] =
      headerStatus id (2 + (repliesBytes children).length) .ok ++ repliesBytes children := by
  rw [repliesBytes,repliesBytes,Reply.bytes,append_nil]

theorem Follows.of_bytes {answer : Answer σ} {result : Option (Nat × Machine σ)} {memory : Memory}
    (fits : answer.fits = true) (same : repliesBytes answer.replies = bytes)
    (value : result = some (buffer.start + (before ++ bytes).length,⟨memory,answer.app⟩))
    (after : Standing buffer (before ++ bytes) answer.room memory) : Follows buffer before result answer := by
  subst same
  rw [Follows,if_pos fits]
  exact ⟨_,value,after,rfl⟩

section
variable (standing : Standing buffer before room machine.memory)
include standing

theorem Follows.refuse (id : Nat) (status : NodeStatus) :
    Follows buffer before (buffer.putHeaderStatus (buffer.start + before.length) id status machine)
      (.refuse id status room machine.app) := by
  unfold Answer.refuse
  split
  next full =>
    simp only [Response.putHeaderStatus,standing.full id full,bind_eq_bind,bind_some,if_pos]
    intro out last same
    exact (Prod.mk.inj (Option.some.inj same)).1.symm
  next small =>
    obtain ⟨memory,value,after⟩ := standing.header id status (Nat.le_of_not_lt small)
    exact .of_bytes rfl ((repliesBytes_leaf id status []).trans (append_nil _)) value after

theorem Follows.nothing :
    Follows buffer before (some (buffer.start + before.length,machine)) (.nothing room machine.app) := by
  refine ⟨machine,?_,?_,rfl⟩
  · rw [Answer.nothing,repliesBytes,append_nil]
  · rw [Answer.nothing,repliesBytes,append_nil]
    exact standing

private theorem leafGet_follows (leaf : Leaf σ) (id base : Nat) :
    ∃ result, buffer.leafGet leaf id (buffer.start + before.length) base machine =
        result.map (fun outcome => (outcome,(Answer.leafGet leaf id base room machine.app).2)) ∧
      Follows buffer before result (Answer.leafGet leaf id base room machine.app).1 := by
  have real := buffer.real
  have place := standing.place
  unfold Response.leafGet Answer.leafGet
  split
  · exact ⟨_,(map_eq_bind ..).symm,.refuse standing id .errLength⟩
  · cases sized : leafObjectSize leaf.type with
    | none => exact ⟨_,(map_eq_bind ..).symm,.refuse standing id .errType⟩
    | some size =>
      dsimp only
      split
      next full =>
        refine ⟨_,?_,.nothing standing⟩
        rw [standing.full id full]
        rfl
      next small =>
        obtain ⟨first,begun,opened⟩ := standing.start id machine.app (Nat.le_of_not_lt small)
        have left : buffer.stop - (buffer.start + before.length + 6) = room - 6 := by omega
        simp only [begun,bind_eq_bind,bind_some]
        rw [if_neg (by omega),left]
        by_cases more : room - 6 < size
        · rw [if_pos more,if_pos more]
          rw [← append_nil (headerStatus id 2 .ok)] at opened
          obtain ⟨memory,ended,closed⟩ := opened.finish .errLength 0 machine.app
          rw [ended]
          refine ⟨some (_,⟨memory,machine.app⟩),rfl,.of_bytes rfl (repliesBytes_leaf id .errLength []) ?_ closed⟩
          simp [Nat.add_assoc]
        · rw [if_neg more,if_neg more]
          have count := leaf.sized size sized machine.app base
          obtain ⟨second,wrote,filled⟩ := opened.put (leaf.get machine.app base) machine.app (by omega)
          rw [length_append,headerStatus_length,← Nat.add_assoc] at wrote
          rw [append_assoc,count] at filled
          obtain ⟨memory,ended,closed⟩ := filled.finish .ok size machine.app
          simp only [wrote,bind_some,ended]
          have bytes := repliesBytes_leaf id .ok (leaf.get machine.app base)
          rw [count] at bytes
          refine ⟨some (_,⟨memory,machine.app⟩),rfl,.of_bytes rfl bytes ?_ closed⟩
          simp [Nat.add_assoc,count]

theorem leafSet_follows {request : List UInt8} (leaf : Leaf σ)
    (id base : Nat) {inp inEnd : Nat} (ordered : inp ≤ inEnd) (inside : inEnd ≤ request.length) :
    Follows buffer before (buffer.leafSet request leaf id inp inEnd (buffer.start + before.length) base machine)
      (.leafSet request leaf id inp inEnd base room machine.app) := by
  have real := buffer.real
  unfold Response.leafSet Answer.leafSet
  split
  · exact .refuse standing id .errWrite
  · cases sized : leafObjectSize leaf.type with
    | none => exact .refuse standing id .errType
    | some size =>
      dsimp only
      by_cases full : room < 6
      · simp only [standing.full id full,bind_eq_bind,bind_some,if_pos,full]
        exact .nothing standing
      · rw [if_neg full]
        obtain ⟨first,begun,opened⟩ := standing.start id machine.app (Nat.le_of_not_lt full)
        rw [← append_nil (headerStatus id 2 .ok)] at opened
        simp only [begun,bind_eq_bind,bind_some]
        rw [if_neg (by omega)]
        by_cases short : inEnd - inp < size
        · rw [if_pos short,if_pos short]
          obtain ⟨memory,ended,closed⟩ := opened.finish .errLength 0 machine.app
          rw [ended]
          refine .of_bytes rfl (repliesBytes_leaf id .errLength []) ?_ closed
          simp [Nat.add_assoc]
        · rw [if_neg short,if_neg short,readBytes,if_pos (by omega)]
          obtain ⟨memory,ended,closed⟩ := opened.finish .ok 0 (leaf.set ((request.drop inp).take size) base machine.app)
          simp only [bind_some,ended]
          refine .of_bytes rfl (repliesBytes_leaf id .ok []) ?_ closed
          simp [Nat.add_assoc]

end

theorem Follows.behind {result : Option (Nat × Machine σ)} {answer later : Answer σ} (fits : answer.fits = true)
    (follows : Follows buffer (before ++ repliesBytes answer.replies) result later) :
    Follows buffer before result (answer.next fun _ _ => later) := by
  rw [Answer.next,if_pos fits]
  unfold Follows at follows ⊢
  rw [repliesBytes_append,← append_assoc]
  exact follows

theorem Follows.next {result : Option (Nat × Machine σ)} {answer : Answer σ}
    (first : Follows buffer before result answer)
    {further : Nat × Machine σ → Option (Nat × Machine σ)} {after : Nat → σ → Answer σ}
    (goes : ∀ machine, Standing buffer (before ++ repliesBytes answer.replies) answer.room machine.memory →
      Follows buffer (before ++ repliesBytes answer.replies)
        (further (buffer.start + (before ++ repliesBytes answer.replies).length,machine)) (after answer.room machine.app))
    (lost : ∀ machine, Lost (further (0,machine))) : Follows buffer before (result.bind further) (answer.next after) := by
  unfold Follows at first
  split at first
  next fits =>
    obtain ⟨machine,value,standing,app⟩ := first
    have second := goes machine standing
    rw [app] at second
    rw [value,bind_some]
    exact .behind fits second
  next misses =>
    rw [Answer.next,if_neg misses,Follows,if_neg misses]
    intro out machine same
    obtain ⟨⟨place,middle⟩,value,later⟩ := bind_eq_some_iff.mp same
    obtain rfl := first place middle value
    exact lost middle out machine later

theorem Follows.headed (standing : Standing buffer before room machine.memory) (id : Nat)
    {inner : Nat → Machine σ → Option (Nat × Machine σ)} {answers : Nat → σ → Answer σ}
    (goes : ∀ machine, Standing buffer (before ++ headerStatus id 2 .ok) (room - 6) machine.memory →
      Follows buffer (before ++ headerStatus id 2 .ok) (inner (buffer.start + before.length + 6) machine)
        (answers (room - 6) machine.app)) :
    Follows buffer before (buffer.headed inner id (buffer.start + before.length) machine)
      (.headed answers id room machine.app) := by
  have real := buffer.real
  unfold Response.headed Answer.headed
  by_cases full : room < 6
  · simp only [standing.full id full,bind_eq_bind,bind_some,if_pos,full]
    exact .nothing standing
  · rw [if_neg full]
    obtain ⟨first,begun,opened⟩ := standing.start id machine.app (Nat.le_of_not_lt full)
    have inside := goes ⟨first,machine.app⟩ opened
    simp only [begun,bind_eq_bind,bind_some]
    rw [if_neg (by omega)]
    generalize answers (room - 6) machine.app = answer at inside
    unfold Follows at inside
    split at inside
    next fits =>
      obtain ⟨second,value,stands,app⟩ := inside
      rw [append_assoc] at stands
      rw [value,bind_some]
      have length : ((((buffer.start + (before ++ headerStatus id 2 .ok ++ repliesBytes answer.replies).length : Nat) : Int) -
          ((buffer.start + before.length : Nat) + 6)) % 65536).toNat = (repliesBytes answer.replies).length % 65536 := by
        simp only [length_append,headerStatus_length]
        omega
      have header : headerStatus id (2 + (repliesBytes answer.replies).length % 65536) .ok =
          headerStatus id (2 + (repliesBytes answer.replies).length) .ok := by
        rw [headerStatus,← halfBytes_mod (2 + _),Nat.add_mod_mod,halfBytes_mod,headerStatus]
      obtain ⟨after,ended,closed⟩ := stands.finish .ok ((repliesBytes answer.replies).length % 65536) second.app
      rw [header] at closed
      rw [length,ended,bind_some]
      have kept : ({answer with replies := [.node id answer.replies]} : Answer σ).fits = true := fits
      apply Follows.of_bytes kept (repliesBytes_node id answer.replies) ?_ closed
      rw [app]
      simp only [length_append,headerStatus_length,Nat.add_assoc]
    next misses =>
      rw [Follows,if_neg misses]
      intro out last same
      obtain ⟨⟨place,middle⟩,value,later⟩ := bind_eq_some_iff.mp same
      obtain rfl := inside place middle value
      obtain ⟨ended,_,same⟩ := bind_eq_some_iff.mp later
      exact (Prod.mk.inj (Option.some.inj same)).1.symm

private theorem leafGet_lost (leaf : Leaf σ) (id base : Nat) (machine : Machine σ) :
    buffer.leafGet leaf id 0 base machine = none := by
  unfold Response.leafGet
  simp only [start_lost,header_lost,bind_eq_bind,bind_none]
  split
  · rfl
  · split <;> rfl

theorem leafSet_lost {request : List UInt8} (leaf : Leaf σ) (id inp inEnd base : Nat) (machine : Machine σ) :
    buffer.leafSet request leaf id inp inEnd 0 base machine = none := by
  unfold Response.leafSet
  simp only [start_lost,header_lost,bind_eq_bind,bind_none]
  split
  · rfl
  · split <;> rfl

private theorem headed_lost (inner : Nat → Machine σ → Option (Nat × Machine σ)) (id : Nat) (machine : Machine σ) :
    buffer.headed inner id 0 machine = none := by
  unfold Response.headed
  rw [start_lost]
  rfl

end Headers

section Keys
variable {tree : ObjectTree σ ρ} {request : List UInt8} {dynamic : Bool} {child : List ρ}

private theorem readHalf_inside {place : Nat} (inside : place + 2 ≤ request.length) :
    ∃ value, readHalf request place = some value := by
  rw [readHalf,readBytes,if_pos inside]
  exact ⟨_,rfl⟩

theorem getHeader_inside {inp inEnd : Nat} (ordered : inp ≤ inEnd) (inside : inEnd ≤ request.length) :
    ∃ found, getHeader request inp inEnd = some found ∧ ∀ header ∈ found, inp + 4 ≤ inEnd := by
  unfold getHeader
  split
  · exact ⟨none,rfl,nofun⟩
  next room =>
    obtain ⟨id,first⟩ := @readHalf_inside request inp (by omega)
    obtain ⟨length,second⟩ := @readHalf_inside request (inp + 2) (by omega)
    rw [first,second]
    exact ⟨some ⟨id,length⟩,rfl,fun _ _ => by omega⟩

private theorem leafAt_leaf {entry place : ρ} {id : Nat} {leaf : Leaf σ} (there : (tree.node entry).child[id]? = some place)
    (found : tree.node place = .leaf leaf) : tree.leafAt entry id = some leaf := by
  rw [leafAt,there,map_some,found]

theorem leafObjectSize_known {type : LeafType} (known : type ≠ .unknown) : ∃ size, leafObjectSize type = some size := by
  cases type <;> first | exact ⟨_,rfl⟩ | exact absurd rfl known

def Named (tree : ObjectTree σ ρ) (dynamic : Bool) (child : List ρ) (keyId : Nat) : Prop :=
  dynamic = true → ∃ entry place, child[0]? = some entry ∧ (tree.node entry).child[keyId]? = some place ∧
    ∀ leaf, tree.node place = .leaf leaf → leaf.type ≠ .unknown

structure KeyRight (tree : ObjectTree σ ρ) (request : List UInt8) (dynamic : Bool) (child : List ρ) (key : EntryKey) :
    Prop where
  compared : dynamic = true → ∃ entry leaf size, child[0]? = some entry ∧ tree.leafAt entry key.id = some leaf ∧
    leafObjectSize leaf.type = some size ∧ (key.length ≠ 0 → key.val + size ≤ request.length)
  counted : dynamic = false → ∃ index, readHalf request key.val = some index ∧ index < child.length

theorem keyStatus_right {keyId inp inEnd : Nat} (named : Named tree dynamic child keyId) (header : NodeHeader)
    (ordered : inp ≤ inEnd) (inside : inEnd ≤ request.length) :
    ∃ status, tree.keyStatus request dynamic child keyId header inp inEnd = some status ∧ (status = .ok →
      header.id = keyId ∧ inp + header.length ≤ inEnd ∧
        KeyRight tree request dynamic child ⟨header.id,header.length,inp⟩) := by
  unfold keyStatus
  split
  · exact ⟨_,rfl,nofun⟩
  next same =>
    rw [ne_eq,not_not] at same
    split
    · exact ⟨_,rfl,nofun⟩
    next enough =>
      cases dynamic with
      | true =>
        obtain ⟨entry,place,first,there,known⟩ := named rfl
        rw [← same] at there
        simp only [first,there,bind_eq_bind,bind_some,if_pos]
        cases found : tree.node place with
        | leaf leaf =>
          obtain ⟨size,sized⟩ := leafObjectSize_known (known leaf found)
          simp only [sized,bind_some]
          refine ⟨_,rfl,?_⟩
          split
          · exact nofun
          next fits =>
            intro _
            refine ⟨same,by omega,fun _ => ⟨entry,leaf,size,first,leafAt_leaf there found,sized,?_⟩,nofun⟩
            intro some
            dsimp only at some ⊢
            omega
        | _ => exact ⟨_,rfl,nofun⟩
      | false =>
        rw [if_neg (by decide)]
        split
        · exact ⟨_,rfl,nofun⟩
        next two =>
          obtain ⟨index,read⟩ := @readHalf_inside request inp (by omega)
          rw [read]
          refine ⟨_,rfl,?_⟩
          split
          · exact nofun
          next below => exact fun _ => ⟨same,by omega,nofun,fun _ => ⟨index,read,Nat.lt_of_not_le below⟩⟩

theorem listEntryExtractKeys_right {keyIds : List Nat} {inEnd : Nat}
    (named : ∀ keyId ∈ keyIds, Named tree dynamic child keyId)
    (inside : inEnd ≤ request.length) {keys : List EntryKey} (right : ∀ key ∈ keys, KeyRight tree request dynamic child key)
    {inp : Nat} (ordered : inp ≤ inEnd) :
    ∃ outcome, tree.listEntryExtractKeys request dynamic child inEnd keyIds keys inp = some outcome ∧
      ∀ found behind, outcome = .found found behind → inp ≤ behind ∧ behind ≤ inEnd ∧
        (∀ key ∈ found, KeyRight tree request dynamic child key) ∧ found.map EntryKey.id = keys.map EntryKey.id ++ keyIds := by
  induction keyIds generalizing keys inp with
  | nil =>
    refine ⟨_,rfl,?_⟩
    intro found behind same
    obtain ⟨rfl,rfl⟩ := KeyOutcome.found.inj same
    exact ⟨Nat.le_refl _,ordered,right,(append_nil _).symm⟩
  | cons keyId others ih =>
    obtain ⟨header,read,room⟩ := getHeader_inside ordered inside
    unfold listEntryExtractKeys
    rw [read]
    cases header with
    | none => exact ⟨_,rfl,nofun⟩
    | some header =>
      have room := room header rfl
      obtain ⟨status,value,fine⟩ :=
        keyStatus_right (named keyId (mem_cons_self ..)) header room inside
      simp only [bind_eq_bind,bind_some,value]
      by_cases ok : status = .ok
      · rw [if_pos ok]
        obtain ⟨same,fits,key⟩ := fine ok
        have all : ∀ each ∈ keys ++ [(⟨header.id,header.length,inp + 4⟩ : EntryKey)],
            KeyRight tree request dynamic child each := by
          intro each member
          rcases mem_append.mp member with old | new
          · exact right each old
          · rw [mem_singleton.mp new]
            exact key
        obtain ⟨outcome,value,found⟩ := ih (fun keyId member => named keyId (.tail _ member)) all fits
        refine ⟨outcome,value,?_⟩
        intro keys behind outcome
        obtain ⟨before,after,rights,ids⟩ := found keys behind outcome
        refine ⟨by omega,after,rights,?_⟩
        rw [ids,map_append,append_assoc,← same]
        rfl
      · rw [if_neg ok]
        exact ⟨_,rfl,nofun⟩

end Keys

section Lists
variable {tree : ObjectTree σ ρ} {request : List UInt8} {before : List UInt8} {room : Nat} {machine : Machine σ}

theorem listKeys_right {n : ρ} {keyId : List Nat} {dynamicHandler : Option (σ → List Nat)}
    (node : tree.node n = .list keyId dynamicHandler child) {inp inEnd : Nat} (ordered : inp ≤ inEnd)
    (inside : inEnd ≤ request.length) :
    ∃ outcome, tree.listEntryExtractKeys request dynamicHandler.isSome child inEnd keyId [] inp = some outcome ∧
      ∀ found behind, outcome = .found found behind → inp ≤ behind ∧ behind ≤ inEnd ∧
        (∀ key ∈ found, KeyRight tree request dynamicHandler.isSome child key) ∧ found.map EntryKey.id = keyId := by
  have named (key : Nat) (member : key ∈ keyId) : Named tree dynamicHandler.isSome child key := by
    intro dynamic
    obtain ⟨entries,rfl⟩ := Option.isSome_iff_exists.mp dynamic
    obtain ⟨entry,others,rfl,keys⟩ := tree.dynamic n keyId entries child node
    obtain ⟨place,there,known⟩ := keys key member
    exact ⟨entry,place,rfl,there,known⟩
  exact @listEntryExtractKeys_right _ _ tree request _ child keyId inEnd named inside [] nofun inp ordered

theorem leafGet_ok {leaf : Leaf σ} {id base room : Nat} {app : σ}
    (ok : (Answer.leafGet leaf id base room app).2 = .ok) :
    (Answer.leafGet leaf id base room app).1.fits = true := by
  unfold Answer.leafGet at ok ⊢
  split at ok
  · exact nomatch ok
  next readable =>
    rw [if_neg readable]
    split at ok
    · exact nomatch ok
    · split
      · rfl
      · split <;> rfl

variable {entry : ρ} {keys : List EntryKey}

theorem listEntryMatch_some {child : List ρ} (first : child[0]? = some entry)
    (right : ∀ key ∈ keys, KeyRight tree request true child key) (base : Nat) (app : σ) :
    ∃ matched, tree.listEntryMatch request entry base app keys = some matched := by
  induction keys with
  | nil => exact ⟨_,rfl⟩
  | cons key others ih =>
    have rest := ih fun each member => right each (.tail _ member)
    unfold listEntryMatch
    split
    · exact rest
    next some =>
      obtain ⟨other,leaf,size,same,found,sized,inside⟩ := (right key (mem_cons_self ..)).compared rfl
      obtain rfl := Option.some.inj (first.symm.trans same)
      simp only [found,bind_eq_bind,bind_some,leafCompare,sized]
      rw [readBytes,if_pos (inside some)]
      dsimp only [bind_some]
      split
      · exact rest
      · exact ⟨_,rfl⟩

theorem keysGet_follows (leaves : ∀ key ∈ keys, ∃ leaf, tree.leafAt entry key.id = some leaf)
    (standing : Standing buffer before room machine.memory) (base : Nat) :
    ∃ result, tree.keysGet buffer entry base keys (buffer.start + before.length) machine =
        result.map (fun outcome => (outcome,(tree.answerKeys entry base keys room machine.app).2)) ∧
      Follows buffer before result (tree.answerKeys entry base keys room machine.app).1 := by
  induction keys generalizing before room machine with
  | nil => exact ⟨some (_,machine),rfl,.nothing standing⟩
  | cons key others ih =>
    obtain ⟨leaf,found⟩ := leaves key (mem_cons_self ..)
    obtain ⟨result,value,follows⟩ := leafGet_follows standing leaf key.id base
    unfold keysGet answerKeys
    simp only [found,bind_eq_bind,bind_some,value]
    by_cases ok : (Answer.leafGet leaf key.id base room machine.app).2 = .ok
    · have fits := leafGet_ok ok
      rw [Follows,if_pos fits] at follows
      obtain ⟨after,rfl,stands,app⟩ := follows
      simp only [map_some,bind_some,if_pos ok]
      obtain ⟨last,goes,rest⟩ := ih (fun each member => leaves each (.tail _ member)) stands
      rw [app] at goes rest
      exact ⟨last,goes,.behind fits rest⟩
    · simp only [if_neg ok]
      refine ⟨result,?_,follows⟩
      cases result <;> simp [ok]

theorem keysGet_lost {base out : Nat} {after : Machine σ} {complete : Bool}
    (same : tree.keysGet buffer entry base keys 0 machine = some ((out,after),complete)) : out = 0 := by
  cases keys with
  | nil => exact (Prod.mk.inj (Prod.mk.inj (Option.some.inj same)).1).1.symm
  | cons key others =>
    obtain ⟨leaf,_,same⟩ := bind_eq_some_iff.mp same
    rw [leafGet_lost] at same
    exact nomatch same

variable {iterate : Nat → Nat → Machine σ → Option (Nat × Machine σ)} {answers : Nat → Nat → σ → Answer σ}

theorem entriesIterate_lost (lost : ∀ base machine, Lost (iterate base 0 machine))
    (bases : List Nat) (machine : Machine σ) :
    Lost (tree.entriesIterate request buffer iterate entry keys bases 0 machine) := by
  induction bases generalizing machine with
  | nil =>
    intro out after same
    exact (Prod.mk.inj (Option.some.inj same)).1.symm
  | cons base others ih =>
    intro out after same
    obtain ⟨matched,_,same⟩ := bind_eq_some_iff.mp same
    split at same
    · obtain ⟨⟨⟨place,middle⟩,complete⟩,value,same⟩ := bind_eq_some_iff.mp same
      obtain rfl := keysGet_lost value
      dsimp only at same
      split at same
      · obtain ⟨⟨place,last⟩,value,same⟩ := bind_eq_some_iff.mp same
        obtain rfl := lost base middle place last value
        exact ih last out after same
      · exact (Prod.mk.inj (Option.some.inj same)).1.symm
    · exact ih machine out after same

theorem entriesIterate_follows (lost : ∀ base machine, Lost (iterate base 0 machine))
    (goes : ∀ base before room machine, Standing buffer before room machine.memory →
      Follows buffer before (iterate base (buffer.start + before.length) machine) (answers base room machine.app))
    {child : List ρ} (first : child[0]? = some entry)
    (right : ∀ key ∈ keys, KeyRight tree request true child key) (bases : List Nat)
    (standing : Standing buffer before room machine.memory) :
    Follows buffer before
      (tree.entriesIterate request buffer iterate entry keys bases (buffer.start + before.length) machine)
      (tree.answerEntries request answers entry keys bases room machine.app) := by
  have leaves (key : EntryKey) (member : key ∈ keys) : ∃ leaf, tree.leafAt entry key.id = some leaf := by
    obtain ⟨other,leaf,_,same,found,_⟩ := (right key member).compared rfl
    obtain rfl := Option.some.inj (first.symm.trans same)
    exact ⟨leaf,found⟩
  induction bases generalizing before room machine with
  | nil => exact .nothing standing
  | cons base others ih =>
    obtain ⟨matched,value⟩ := listEntryMatch_some first right base machine.app
    unfold entriesIterate answerEntries
    simp only [value,bind_eq_bind,bind_some]
    cases matched with
    | false => exact ih standing
    | true =>
      obtain ⟨result,value,follows⟩ := keysGet_follows leaves standing base
      rw [value]
      generalize tree.answerKeys entry base keys room machine.app = answered at follows
      obtain ⟨answer,complete⟩ := answered
      cases complete with
      | false =>
        cases result <;> exact follows
      | true =>
        have turn : Follows buffer before (result.bind fun outcome => iterate base outcome.1 outcome.2)
            (answer.next (answers base)) :=
          follows.next (fun machine stands => goes base _ _ machine stands) (lost base)
        have rest : Follows buffer before ((result.bind fun outcome => iterate base outcome.1 outcome.2).bind fun outcome =>
            tree.entriesIterate request buffer iterate entry keys others outcome.1 outcome.2)
            ((answer.next (answers base)).next (tree.answerEntries request answers entry keys others)) :=
          turn.next (fun machine stands => ih stands) fun machine => entriesIterate_lost lost others machine
        rw [Option.bind_assoc] at rest
        cases result <;> exact rest

end Lists

structure Goes (buffer : Response) (first inEnd : Nat) (iterate : Iterate σ ρ)
    (answers : ρ → Nat → Nat → Nat → σ → Answer σ) : Prop where
  lost : ∀ n inp base machine, Lost (iterate n inp base 0 machine)
  follows : ∀ n inp base before room machine, first ≤ inp → inp ≤ inEnd → Standing buffer before room machine.memory →
    Follows buffer before (iterate n inp base (buffer.start + before.length) machine) (answers n inp base room machine.app)

section Children
variable {tree : ObjectTree σ ρ} {request : List UInt8} {before : List UInt8} {room : Nat} {machine : Machine σ}
  {iterate : Iterate σ ρ} {answers : ρ → Nat → Nat → Nat → σ → Answer σ}

theorem listEntryIterate_follows {n : ρ} {keyId : List Nat} {dynamicHandler : Option (σ → List Nat)} {child : List ρ}
    (node : tree.node n = .list keyId dynamicHandler child) {inp inEnd : Nat} (goes : Goes buffer inp inEnd iterate answers)
    (ordered : inp ≤ inEnd) (inside : inEnd ≤ request.length) (standing : Standing buffer before room machine.memory) :
    Follows buffer before
      (tree.listEntryIterate request buffer iterate keyId dynamicHandler child inp inEnd (buffer.start + before.length)
        machine)
      (tree.answerList request answers keyId dynamicHandler child inp inEnd room machine.app) := by
  obtain ⟨outcome,value,found⟩ := listKeys_right node ordered inside
  unfold listEntryIterate answerList
  rw [value]
  dsimp only [bind_eq_bind,bind_some]
  cases outcome with
  | stopped => exact .nothing standing
  | refused id status => exact .refuse standing id status
  | found keys behind =>
    obtain ⟨later,within,right,ids⟩ := found keys behind rfl
    cases dynamicHandler with
    | some entries =>
      obtain ⟨entry,others,rfl,_⟩ := tree.dynamic n keyId entries child node
      apply entriesIterate_follows (goes.lost entry behind) ?_ rfl right _ standing
      intro base before room machine stands
      exact goes.follows entry behind base before room machine later within stands
    | none =>
      obtain ⟨first,others,rfl,leaves⟩ := tree.static n keyId child node
      cases keys with
      | nil => exact nomatch ids
      | cons key keys =>
        obtain ⟨index,read,below⟩ := (right key (mem_cons_self ..)).counted rfl
        obtain ⟨place,leaf,there,node⟩ := leaves child[index] (getElem_mem below)
        rw [map_cons] at ids
        have id : key.id = first := (List.cons.inj ids).1
        rw [← id] at there
        have at_ := leafAt_leaf there node
        simp only [List.head?_cons,bind_some,read,List.getElem?_eq_getElem below,at_]
        obtain ⟨result,value,follows⟩ := leafGet_follows standing leaf key.id 0
        rw [value]
        generalize Answer.leafGet leaf key.id 0 room machine.app = answered at follows
        obtain ⟨answer,status⟩ := answered
        by_cases ok : status = .ok
        · have turn : Follows buffer before (result.bind fun outcome => iterate child[index] behind 0 outcome.1 outcome.2)
              (answer.next (answers child[index] behind 0)) :=
            follows.next (fun machine stands => goes.follows child[index] behind 0 _ _ machine later within stands)
              (goes.lost child[index] behind 0)
          rw [if_pos ok]
          cases result with
          | none => exact turn
          | some outcome =>
            dsimp only [map_some,bind_some]
            rw [if_pos ok]
            exact turn
        · rw [if_neg ok]
          cases result with
          | none => exact follows
          | some outcome =>
            dsimp only [map_some,bind_some]
            rw [if_neg ok]
            exact follows

theorem childSwitch_follows (operation : NodeOperation) (child : ρ) (id base : Nat) {inp inEnd : Nat}
    (goes : Goes buffer inp inEnd iterate answers) (ordered : inp ≤ inEnd) (inside : inEnd ≤ request.length)
    (standing : Standing buffer before room machine.memory) :
    ∃ (result : Option (Nat × Machine σ)) (stops : Nat → Bool), (∀ out, stops out = true → out = 0) ∧
      tree.childSwitch request buffer operation iterate child id inp inEnd (buffer.start + before.length) base machine =
        result.map (fun outcome => (outcome,stops outcome.1)) ∧
      Follows buffer before result
        (tree.answerSwitch request operation answers child id inp inEnd base room machine.app) := by
  unfold childSwitch answerSwitch
  have never (out : Nat) (stop : (fun _ => false) out = true) : out = 0 := nomatch stop
  cases node : tree.node child with
  | container _ =>
    refine ⟨_,fun _ => false,never,(map_eq_bind ..).symm,.headed standing id ?_⟩
    intro machine stands
    rw [Nat.add_assoc,← headerStatus_length id 2 .ok,← length_append]
    exact goes.follows child inp 0 _ _ machine (Nat.le_refl _) ordered stands
  | list keyId dynamicHandler entries =>
    refine ⟨_,fun _ => false,never,(map_eq_bind ..).symm,.headed standing id ?_⟩
    intro machine stands
    rw [Nat.add_assoc,← headerStatus_length id 2 .ok,← length_append]
    exact listEntryIterate_follows node goes ordered inside stands
  | leaf leaf =>
    cases operation with
    | get =>
      obtain ⟨result,value,follows⟩ := leafGet_follows standing leaf id base
      refine ⟨result,fun _ => false,never,?_,follows⟩
      dsimp only
      rw [value]
      cases result <;> rfl
    | set =>
      refine ⟨_,fun _ => false,never,(map_eq_bind ..).symm,leafSet_follows standing leaf id base ordered inside⟩
  | leafList => exact ⟨some (_,machine),fun _ => false,never,rfl,.nothing standing⟩
  | other _ =>
    refine ⟨_,fun out => decide (out = 0),fun _ stop => of_decide_eq_true stop,(map_eq_bind ..).symm,
      .refuse standing id .errType⟩

theorem childSwitch_lost {operation : NodeOperation} {child : ρ} {id inp inEnd base out : Nat} {after : Machine σ}
    {stop : Bool} (same : tree.childSwitch request buffer operation iterate child id inp inEnd 0 base machine =
      some ((out,after),stop)) : out = 0 := by
  unfold childSwitch at same
  cases node : tree.node child <;> rw [node] at same
  case leaf leaf =>
    cases operation
    · dsimp only at same
      rw [leafGet_lost] at same
      exact nomatch same
    · dsimp only at same
      rw [leafSet_lost] at same
      exact nomatch same
  case container =>
    rw [nodeIterate,headed_lost] at same
    exact nomatch same
  case list =>
    dsimp only at same
    rw [listIterate,headed_lost] at same
    exact nomatch same
  case leafList => exact (Prod.mk.inj (Prod.mk.inj (Option.some.inj same)).1).1.symm
  case other =>
    rw [header_lost] at same
    exact nomatch same

theorem childIterate_lost (operation : NodeOperation) (fuel inEnd : Nat) (n : ρ) (inp base : Nat)
    (machine : Machine σ) :
    Lost (tree.childIterate request buffer operation fuel inEnd n inp base 0 machine) := by
  induction fuel generalizing inEnd n inp base machine with
  | zero => exact nofun
  | succ fuel ih =>
    intro out after same
    unfold childIterate at same
    split at same
    · obtain ⟨header,_,same⟩ := bind_eq_some_iff.mp same
      cases header with
      | none => exact (Prod.mk.inj (Option.some.inj same)).1.symm
      | some header =>
        dsimp only at same
        split at same
        · rw [header_lost] at same
          exact nomatch same
        · split at same
          · rw [header_lost] at same
            exact nomatch same
          · obtain ⟨⟨⟨place,middle⟩,stop⟩,value,same⟩ := bind_eq_some_iff.mp same
            obtain rfl := childSwitch_lost value
            split at same
            · exact (Prod.mk.inj (Option.some.inj same)).1.symm
            · exact ih _ _ _ _ middle out after same
    · exact (Prod.mk.inj (Option.some.inj same)).1.symm

theorem childIterate_goes (operation : NodeOperation) (fuel : Nat) {first inEnd : Nat} (inside : inEnd ≤ request.length)
    (fueled : inEnd - first < fuel) :
    Goes buffer first inEnd (tree.childIterate request buffer operation fuel inEnd)
      (tree.answerChildren request operation fuel inEnd) := by
  induction fuel generalizing first inEnd with
  | zero => exact absurd fueled (Nat.not_lt_zero _)
  | succ fuel ih =>
    refine ⟨fun n inp base machine => childIterate_lost operation _ _ n inp base machine,?_⟩
    intro n inp base before room machine later ordered standing
    unfold childIterate answerChildren
    split
    next more =>
      obtain ⟨header,read,behind⟩ := getHeader_inside ordered inside
      rw [read]
      dsimp only [bind_eq_bind,bind_some]
      cases header with
      | none => exact .nothing standing
      | some header =>
        dsimp only
        split
        · exact .refuse standing header.id .errLength
        next fits =>
          have within : inp + 4 + header.length ≤ request.length := by omega
          have rest := @ih (inp + 4 + header.length) inEnd inside (by omega)
          have inner := @ih (inp + 4) (inp + 4 + header.length) within (by omega)
          have real := buffer.real
          cases there : (tree.node n).child[header.id]? with
          | none =>
            have refused := Follows.refuse standing header.id .errId
            apply refused.next
            · intro machine stands
              rw [if_neg (by omega)]
              exact rest.follows n _ base _ _ machine (Nat.le_refl _) (Nat.le_of_not_lt fits) stands
            · intro machine out last same
              rw [if_pos rfl] at same
              exact (Prod.mk.inj (Option.some.inj same)).1.symm
          | some child =>
            obtain ⟨result,stops,never,value,follows⟩ :=
              childSwitch_follows operation child header.id base inner (Nat.le_add_right _ _) within standing
            have going (length : Nat) : ¬ stops (buffer.start + length) = true := by
              intro stop
              have lost := never _ stop
              omega
            dsimp only
            rw [value]
            generalize tree.answerSwitch request operation (tree.answerChildren request operation fuel _) child header.id
              (inp + 4) _ base room machine.app = answer at follows ⊢
            have turn : Follows buffer before (result.bind fun outcome =>
                if stops outcome.1 then some outcome
                else tree.childIterate request buffer operation fuel inEnd n (inp + 4 + header.length) base outcome.1 outcome.2)
                (answer.next (tree.answerChildren request operation fuel inEnd n (inp + 4 + header.length) base)) := by
              apply follows.next
              · intro machine stands
                rw [if_neg (going _)]
                exact rest.follows n _ base _ _ machine (Nat.le_refl _) (Nat.le_of_not_lt fits) stands
              · intro machine out last same
                split at same
                · exact (Prod.mk.inj (Option.some.inj same)).1.symm
                · exact rest.lost n _ base machine out last same
            cases result <;> exact turn
    · exact .nothing standing

end Children

mutual
/-- A header's value or children, and theirs, leave its length in sixteen bits. -/
def Reply.Short : Reply → Prop
  | .leaf _ _ value => value.length ≤ 65533
  | .node _ children => (repliesBytes children).length ≤ 65533 ∧ repliesShort children

def repliesShort : List Reply → Prop
  | [] => True
  | reply :: others => reply.Short ∧ repliesShort others
end

mutual
theorem Reply.exact_iff : ∀ reply : Reply, reply.Exact ↔ reply.Short
  | .leaf id status value => by
    rw [Reply.Exact,Reply.Short,Reply.bytes,lengthTold_header]
    omega
  | .node id children => by
    rw [Reply.Exact,Reply.Short,Reply.bytes,lengthTold_header,repliesExact_iff children]
    apply and_congr_left'
    omega

private theorem repliesExact_iff : ∀ replies : List Reply, repliesExact replies ↔ repliesShort replies
  | [] => Iff.rfl
  | reply :: others => by
    rw [repliesExact,repliesShort,Reply.exact_iff reply,repliesExact_iff others]
end

/-- `module_iterate` comes back, and the response ends within its buffer and is the nesting of the
replies, in which each header tells the length of what it holds. -/
def Handled (tree : ObjectTree σ ρ) (request : List UInt8) (buffer : Response) (operation : NodeOperation) (n : ρ)
    (machine : Machine σ) : Prop :=
  let replies := (tree.answerModule request operation n (buffer.stop - buffer.start) machine.app).replies
  ∃ stop after, tree.moduleIterate request buffer operation n machine = some (stop,after) ∧
    stop = buffer.start + (repliesBytes replies).length ∧ stop ≤ buffer.stop ∧
    bytesAt after.memory buffer.start (repliesBytes replies).length = repliesBytes replies ∧ repliesExact replies

def twoContainers : ObjectTree Unit Nat where
  node n := if n = 0 then .other [1,1] else .container []
  static n _ _ found := by split at found <;> exact nomatch found
  dynamic n _ _ _ found := by split at found <;> exact nomatch found

end Genavb.Common
