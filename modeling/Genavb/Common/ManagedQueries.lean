import Genavb.Common.ManagedRequests

/-! What a GET tells of the managed objects apart from any buffer: the entries of a dynamic list that have the keys asked
for, in the order of the list, and each with its keys and the children asked for. A response with room for it is that. -/
namespace Genavb.Common
open Genavb.Support ObjectTree List
open Option (bind_eq_bind bind_some)

variable {σ ρ : Type}

def leafStatus (leaf : Leaf σ) (base : Nat) : NodeStatus :=
  if leaf.val = 0 ∧ base = 0 ∨ leaf.readable = false then .errLength
  else if leaf.type = .unknown then .errType
  else .ok

def leafReply (leaf : Leaf σ) (id base : Nat) (app : σ) : Reply :=
  .leaf id (leafStatus leaf base) (if leafStatus leaf base = .ok then leaf.get app base else [])

namespace ObjectTree
variable (tree : ObjectTree σ ρ) (request : List UInt8)

/-- A key of length zero asks for any value. -/
def keySelects (entry : ρ) (app : σ) (base : Nat) (key : EntryKey) : Bool :=
  key.length == 0 || (tree.leafAt entry key.id).any fun leaf =>
    (request.drop key.val).take ((leafObjectSize leaf.type).getD 0) == leaf.compared app base

def entrySelected (entry : ρ) (app : σ) (keys : List EntryKey) (base : Nat) : Bool :=
  keys.all (tree.keySelects request entry app base)

def keyReplies (entry : ρ) (app : σ) (keys : List EntryKey) (base : Nat) : List Reply :=
  keys.filterMap fun key => (tree.leafAt entry key.id).map fun leaf => leafReply leaf key.id base app

def indexedEntry (child : List ρ) (keys : List EntryKey) : Option (ρ × Nat × Leaf σ) := do
  let key ← keys.head?
  let index ← readHalf request key.val
  let entry ← child[index]?
  let leaf ← tree.leafAt entry key.id
  some (entry,key.id,leaf)

variable (children : ρ → Nat → Nat → List Reply)

def entryReplies (entry : ρ) (inp : Nat) (app : σ) (keys : List EntryKey) (base : Nat) : List Reply :=
  tree.keyReplies entry app keys base ++ children entry inp base

def listReplies (keyId : List Nat) (dynamicHandler : Option (σ → List Nat)) (child : List ρ) (inp inEnd : Nat)
    (app : σ) : List Reply :=
  match tree.listEntryExtractKeys request dynamicHandler.isSome child inEnd keyId [] inp with
  | some (.refused id status) => [.leaf id status []]
  | some (.found keys inp) =>
    match dynamicHandler with
    | some entries =>
      match child[0]? with
      | some entry =>
        ((entries app).filter (tree.entrySelected request entry app keys)).flatMap
          (tree.entryReplies children entry inp app keys)
      | none => []
    | none =>
      match tree.indexedEntry request child keys with
      | some (entry,id,leaf) =>
        leafReply leaf id 0 app :: if leafStatus leaf 0 = .ok then children entry inp 0 else []
      | none => []
  | _ => []

def switchReplies (child : ρ) (id inp inEnd base : Nat) (app : σ) : List Reply :=
  match tree.node child with
  | .container _ => [.node id (children child inp 0)]
  | .list keyId dynamicHandler entries =>
    [.node id (tree.listReplies request children keyId dynamicHandler entries inp inEnd app)]
  | .leaf leaf => [leafReply leaf id base app]
  | .leafList => []
  | .other _ => [.leaf id .errType []]

def childReplies (app : σ) : Nat → Nat → ρ → Nat → Nat → List Reply
  | 0,_ => fun _ _ _ => []
  | fuel + 1,inEnd => fun n inp base =>
    if inp < inEnd then
      match getHeader request inp inEnd with
      | some (some header) =>
        let behind := inp + 4 + header.length
        if inEnd < behind then [.leaf header.id .errLength []]
        else
          (match (tree.node n).child[header.id]? with
            | none => [.leaf header.id .errId []]
            | some child =>
              tree.switchReplies request (childReplies app fuel behind) child header.id (inp + 4) behind base app) ++
            childReplies app fuel inEnd n behind base
      | _ => []
    else []

def told (n : ρ) (app : σ) : List Reply :=
  tree.childReplies request app (request.length + 1) request.length n 0 0

/-- The keys of a dynamic list may be read, and its handler comes to an end with the base 0. -/
structure KeysReadable : Prop where
  readable : ∀ n keyId entries child entry, tree.node n = .list keyId (some entries) child → child[0]? = some entry →
    ∀ key ∈ keyId, ∀ leaf, tree.leafAt entry key = some leaf → leaf.readable = true
  real : ∀ n keyId entries child, tree.node n = .list keyId (some entries) child → ∀ app, ∀ base ∈ entries app, base ≠ 0

end ObjectTree

/-- Answers with room for the replies are these, and leave the application as it was. -/
def Tells (answers : Nat → σ → Answer σ) (replies : List Reply) (app : σ) : Prop :=
  ∀ room, (repliesBytes replies).length ≤ room →
    answers room app = ⟨replies,room - (repliesBytes replies).length,app,true⟩

section Answers
variable {app : σ} {answers later : Nat → σ → Answer σ} {replies others : List Reply}

theorem Tells.nothing : Tells Answer.nothing [] app := fun _ _ => rfl

theorem repliesBytes_status (id : Nat) (status : NodeStatus) : (repliesBytes [.leaf id status []]).length = 6 := by
  rw [repliesBytes_leaf,append_nil,headerStatus_length]

theorem Tells.refuse (id : Nat) (status : NodeStatus) : Tells (Answer.refuse id status) [.leaf id status []] app := by
  intro room small
  rw [repliesBytes_status] at small ⊢
  rw [Answer.refuse,if_neg (Nat.not_lt.mpr small)]

theorem Tells.next (first : Tells answers replies app) (second : Tells later others app) :
    Tells (fun room app => (answers room app).next later) (replies ++ others) app := by
  intro room small
  rw [repliesBytes_append,length_append] at small ⊢
  dsimp only
  rw [first room (by omega),Answer.next,if_pos rfl]
  dsimp only
  rw [second _ (by omega),Nat.sub_sub]

theorem Tells.headed (id : Nat) (inner : Tells answers replies app) :
    Tells (Answer.headed answers id) [.node id replies] app := by
  intro room small
  rw [repliesBytes_node,length_append,headerStatus_length] at small ⊢
  rw [Answer.headed,if_neg (by omega)]
  dsimp only
  rw [inner _ (by omega),Nat.sub_sub]

private theorem leafGet_tells (leaf : Leaf σ) (id base : Nat) (app : σ) (room : Nat)
    (small : (repliesBytes [leafReply leaf id base app]).length ≤ room) :
    Answer.leafGet leaf id base room app =
      (⟨[leafReply leaf id base app],room - (repliesBytes [leafReply leaf id base app]).length,app,true⟩,
        leafStatus leaf base) := by
  unfold Answer.leafGet leafReply leafStatus at *
  split
  next barred =>
    simp only [if_pos barred] at small ⊢
    rw [Tells.refuse id .errLength room small]
    rfl
  next open_ =>
    simp only [if_neg open_] at small ⊢
    cases sized : leafObjectSize leaf.type with
    | none =>
      have strange : leaf.type = .unknown := by
        cases same : leaf.type <;> rw [same] at sized <;> first | rfl | exact nomatch sized
      simp only [if_pos strange] at small ⊢
      rw [Tells.refuse id .errType room small]
      rfl
    | some size =>
      have known : leaf.type ≠ .unknown := by
        intro same
        rw [same] at sized
        exact nomatch sized
      simp only [if_neg known,if_pos] at small ⊢
      rw [repliesBytes_leaf,length_append,headerStatus_length,leaf.sized size sized] at small ⊢
      rw [if_neg (by omega),if_neg (by omega),Nat.sub_sub]

private theorem leafGet_answers (leaf : Leaf σ) (id base : Nat) (app : σ) :
    Tells (fun room app => (Answer.leafGet leaf id base room app).1) [leafReply leaf id base app] app := by
  intro room small
  exact congrArg Prod.fst (leafGet_tells leaf id base app room small)

end Answers

section Lists
variable {tree : ObjectTree σ ρ} {request : List UInt8} {app : σ} {entry : ρ} {keys : List EntryKey} {base : Nat}

private theorem answerKeys_tells (found : ∀ key ∈ keys, ∃ leaf, tree.leafAt entry key.id = some leaf ∧ leafStatus leaf base = .ok)
    (room : Nat) (small : (repliesBytes (tree.keyReplies entry app keys base)).length ≤ room) :
    tree.answerKeys entry base keys room app = (⟨tree.keyReplies entry app keys base,
      room - (repliesBytes (tree.keyReplies entry app keys base)).length,app,true⟩,true) := by
  induction keys generalizing room with
  | nil => rfl
  | cons key others ih =>
    obtain ⟨leaf,there,ok⟩ := found key (mem_cons_self ..)
    have replies : tree.keyReplies entry app (key :: others) base =
        [leafReply leaf key.id base app] ++ tree.keyReplies entry app others base := by
      rw [keyReplies,filterMap_cons,there]
      rfl
    rw [replies,repliesBytes_append,length_append] at small ⊢
    have first := leafGet_tells leaf key.id base app room (by omega)
    have rest := ih (fun each member => found each (.tail _ member))
      (room - (repliesBytes [leafReply leaf key.id base app]).length) (by omega)
    unfold answerKeys
    simp only [there,first,if_pos ok,rest,Answer.next,if_pos,Nat.sub_sub]

theorem listEntryMatch_selects {child : List ρ} (first : child[0]? = some entry)
    (right : ∀ key ∈ keys, KeyRight tree request true child key) (base : Nat) (app : σ) :
    tree.listEntryMatch request entry base app keys = some (tree.entrySelected request entry app keys base) := by
  induction keys with
  | nil => rfl
  | cons key others ih =>
    have rest := ih fun each member => right each (.tail _ member)
    rw [entrySelected] at rest
    rw [entrySelected,all_cons]
    unfold listEntryMatch
    split
    next wild =>
      rw [rest,keySelects,wild]
      rfl
    next valued =>
      obtain ⟨other,leaf,size,same,found,sized,inside⟩ := (right key (mem_cons_self ..)).compared rfl
      obtain rfl := Option.some.inj (first.symm.trans same)
      have selects : tree.keySelects request entry app base key =
          ((request.drop key.val).take size == leaf.compared app base) := by
        rw [keySelects,found,Option.any_some,sized,Option.getD_some,beq_false_of_ne valued,Bool.false_or]
      simp only [found,bind_eq_bind,bind_some,leafCompare,sized]
      rw [readBytes,if_pos (inside valued),bind_some,selects]
      cases (request.drop key.val).take size == leaf.compared app base
      · rfl
      · exact rest

theorem answerEntries_tells {child : List ρ} (first : child[0]? = some entry)
    (right : ∀ key ∈ keys, KeyRight tree request true child key) {iterate : Nat → Nat → σ → Answer σ}
    {replies : Nat → List Reply} (tells : ∀ base, Tells (iterate base) (replies base) app) {bases : List Nat}
    (found : ∀ base ∈ bases, ∀ key ∈ keys, ∃ leaf, tree.leafAt entry key.id = some leaf ∧ leafStatus leaf base = .ok) :
    Tells (tree.answerEntries request iterate entry keys bases)
      ((bases.filter (tree.entrySelected request entry app keys)).flatMap fun base =>
        tree.keyReplies entry app keys base ++ replies base) app := by
  induction bases with
  | nil => exact .nothing
  | cons base others ih =>
    have rest := ih fun each member => found each (.tail _ member)
    have matched := listEntryMatch_selects first right base app
    intro room small
    unfold answerEntries
    rw [matched]
    cases selected : tree.entrySelected request entry app keys base with
    | false =>
      rw [filter_cons_of_neg (by rw [selected]; exact Bool.false_ne_true)] at small ⊢
      rw [if_neg (by decide)]
      exact rest room small
    | true =>
      rw [filter_cons_of_pos selected,flatMap_cons] at small ⊢
      rw [if_pos rfl]
      have keyed : Tells (fun room app => (tree.answerKeys entry base keys room app).1)
          (tree.keyReplies entry app keys base) app := by
        intro room small
        exact congrArg Prod.fst (answerKeys_tells (found base (mem_cons_self ..)) room small)
      have complete : (tree.answerKeys entry base keys room app).2 = true := by
        rw [repliesBytes_append,repliesBytes_append,length_append,length_append] at small
        rw [answerKeys_tells (found base (mem_cons_self ..)) room (by omega)]
      have turn := ((keyed.next (tells base)).next rest) room small
      dsimp only at turn ⊢
      rw [if_pos complete]
      exact turn

theorem keys_told (readable : tree.KeysReadable) {n : ρ} {keyId : List Nat} {entries : σ → List Nat} {child : List ρ}
    (node : tree.node n = .list keyId (some entries) child) (first : child[0]? = some entry)
    (right : ∀ key ∈ keys, KeyRight tree request true child key) (ids : keys.map EntryKey.id = keyId)
    (app : σ) : ∀ base ∈ entries app, ∀ key ∈ keys,
      ∃ leaf, tree.leafAt entry key.id = some leaf ∧ leafStatus leaf base = .ok := by
  intro base entered key member
  obtain ⟨other,leaf,size,same,found,sized,_⟩ := (right key member).compared rfl
  obtain rfl := Option.some.inj (first.symm.trans same)
  have opened := readable.readable n keyId entries child entry node first key.id
    (ids ▸ mem_map_of_mem member) leaf found
  have real := readable.real n keyId entries child node app base entered
  have known : leaf.type ≠ .unknown := by
    intro same
    rw [same] at sized
    exact nomatch sized
  refine ⟨leaf,found,?_⟩
  rw [leafStatus,if_neg (by simp [real,opened]),if_neg known]

end Lists

def TellsWithin (first inEnd : Nat) (answers : ρ → Nat → Nat → Nat → σ → Answer σ) (children : ρ → Nat → Nat → List Reply)
    (app : σ) : Prop :=
  ∀ n inp base, first ≤ inp → inp ≤ inEnd → Tells (answers n inp base) (children n inp base) app

section Children
variable {tree : ObjectTree σ ρ} {request : List UInt8} {app : σ}
  {answers : ρ → Nat → Nat → Nat → σ → Answer σ} {children : ρ → Nat → Nat → List Reply} {inp inEnd : Nat}

theorem answerList_tells (readable : tree.KeysReadable) {n : ρ} {keyId : List Nat}
    {dynamicHandler : Option (σ → List Nat)} {child : List ρ} (node : tree.node n = .list keyId dynamicHandler child)
    (tells : TellsWithin inp inEnd answers children app) (ordered : inp ≤ inEnd) (inside : inEnd ≤ request.length) :
    Tells (tree.answerList request answers keyId dynamicHandler child inp inEnd)
      (tree.listReplies request children keyId dynamicHandler child inp inEnd app) app := by
  obtain ⟨outcome,value,found⟩ := listKeys_right node ordered inside
  intro room small
  unfold listReplies at small ⊢
  unfold answerList
  rw [value] at small ⊢
  cases outcome with
  | stopped => exact Tells.nothing room small
  | refused id status => exact Tells.refuse id status room small
  | found keys behind =>
    obtain ⟨later,within,right,ids⟩ := found keys behind rfl
    cases dynamicHandler with
    | some entries =>
      obtain ⟨entry,others,rfl,_⟩ := tree.dynamic n keyId entries child node
      exact answerEntries_tells rfl right (fun base => tells entry behind base later within)
        (keys_told readable node rfl right ids app) room small
    | none =>
      unfold indexedEntry at small ⊢
      dsimp only at small ⊢
      generalize (do
        let key ← keys.head?
        let index ← readHalf request key.val
        let entry ← child[index]?
        let leaf ← tree.leafAt entry key.id
        some (entry,key.id,leaf)) = found at small ⊢
      obtain _ | ⟨entry,id,leaf⟩ := found
      · exact Tells.nothing room small
      · dsimp only at small ⊢
        by_cases ok : leafStatus leaf 0 = .ok
        · rw [if_pos ok] at small ⊢
          have turn := ((leafGet_answers leaf id 0 app).next (tells entry behind 0 later within)) room small
          have keyed := leafGet_tells leaf id 0 app room (Nat.le_trans (by simp [repliesBytes]) small)
          dsimp only at turn
          rw [keyed] at turn ⊢
          dsimp only
          rw [if_pos ok]
          exact turn
        · rw [if_neg ok] at small ⊢
          rw [leafGet_tells leaf id 0 app room small]
          dsimp only
          rw [if_neg ok]

theorem answerSwitch_tells (readable : tree.KeysReadable) (tells : TellsWithin inp inEnd answers children app)
    (ordered : inp ≤ inEnd) (inside : inEnd ≤ request.length) (child : ρ) (id base : Nat) :
    Tells (tree.answerSwitch request .get answers child id inp inEnd base)
      (tree.switchReplies request children child id inp inEnd base app) app := by
  unfold answerSwitch switchReplies
  cases node : tree.node child with
  | container _ => exact .headed id (tells child inp 0 (Nat.le_refl _) ordered)
  | list keyId dynamicHandler entries => exact .headed id (answerList_tells readable node tells ordered inside)
  | leaf leaf => exact leafGet_answers leaf id base app
  | leafList => exact .nothing
  | other _ => exact .refuse id .errType

theorem answerChildren_tells (readable : tree.KeysReadable) (app : σ) (fuel first : Nat) {inEnd : Nat}
    (inside : inEnd ≤ request.length) :
    TellsWithin first inEnd (tree.answerChildren request .get fuel inEnd) (tree.childReplies request app fuel inEnd) app := by
  induction fuel generalizing first inEnd with
  | zero => exact fun _ _ _ _ _ => .nothing
  | succ fuel ih =>
    intro n inp base _ ordered
    unfold answerChildren childReplies
    dsimp only
    split
    next more =>
      obtain ⟨header,read,_⟩ := getHeader_inside ordered inside
      rw [read]
      cases header with
      | none => exact .nothing
      | some header =>
        dsimp only
        split
        · exact .refuse header.id .errLength
        next fits =>
          have within : inp + 4 + header.length ≤ request.length := by omega
          have rest := ih (inp + 4 + header.length) inside n (inp + 4 + header.length) base (Nat.le_refl _)
            (Nat.le_of_not_lt fits)
          cases there : (tree.node n).child[header.id]? with
          | none =>
            have refused : Tells (Answer.refuse header.id .errId) [.leaf header.id .errId []] app := .refuse header.id .errId
            exact refused.next rest
          | some child =>
            have inner := ih (inp + 4) within
            exact (answerSwitch_tells readable inner (Nat.le_add_right _ _) within child header.id base).next rest
    · exact .nothing

end Children

/-- A GET with room for its replies writes these and nothing else, and the application stays as it was. -/
theorem moduleIterate_tells (tree : ObjectTree σ ρ) (readable : tree.KeysReadable) (request : List UInt8)
    (buffer : Response) (n : ρ) (machine : Machine σ)
    (room : (repliesBytes (tree.told request n machine.app)).length ≤ buffer.stop - buffer.start) :
    ∃ after, tree.moduleIterate request buffer .get n machine =
        some (buffer.start + (repliesBytes (tree.told request n machine.app)).length,after) ∧
      bytesAt after.memory buffer.start (repliesBytes (tree.told request n machine.app)).length =
        repliesBytes (tree.told request n machine.app) ∧
      after.app = machine.app := by
  have standing : Standing buffer [] (buffer.stop - buffer.start) machine.memory :=
    ⟨written_nil _ _,by rw [length_nil,Nat.add_zero,Nat.add_sub_cancel' buffer.ordered]⟩
  have goes := @childIterate_goes _ _ buffer tree request .get (request.length + 1) 0 request.length
    (Nat.le_refl _) (by omega)
  have follows := goes.follows n 0 0 [] _ machine (Nat.le_refl _) (Nat.zero_le _) standing
  have answered := answerChildren_tells readable machine.app (request.length + 1) 0 (Nat.le_refl _) n 0 0
    (Nat.le_refl _) (Nat.zero_le _) (buffer.stop - buffer.start) room
  rw [answered,Follows,if_pos rfl] at follows
  obtain ⟨after,value,stands,same⟩ := follows
  rw [nil_append] at value stands
  exact ⟨after,value,bytesAt_written stands.written,same⟩

def portByte (times : Nat) : Leaf Unit where
  type := .uint8
  readable := true
  writable := false
  val := 1
  get _ base := [UInt8.ofNat (times * base)]
  compared _ base := [UInt8.ofNat (times * base)]
  set _ _ app := app
  sized _ same _ _ := Option.some.inj same

def portTable : ObjectTree Unit Nat where
  node n :=
    if n = 0 then .other [1]
    else if n = 1 then .list [0] (some fun _ => [1,2,3]) [2]
    else if n = 2 then .other [3,4]
    else .leaf (portByte (n - 2))
  static n keyId child node := by
    split at node
    · exact nomatch node
    · split at node
      · exact nomatch node
      · split at node <;> exact nomatch node
  dynamic n keyId entries child node := by
    split at node
    · exact nomatch node
    · split at node
      · obtain ⟨rfl,_,rfl⟩ := Node.list.inj node
        refine ⟨2,[],rfl,?_⟩
        intro key member
        obtain rfl := mem_singleton.mp member
        refine ⟨3,rfl,?_⟩
        rintro leaf same
        obtain rfl := Node.leaf.inj same
        exact nofun
      · split at node <;> exact nomatch node

private theorem portTable_list {n : Nat} {keyId : List Nat} {entries : Unit → List Nat} {child : List Nat}
    (node : portTable.node n = .list keyId (some entries) child) :
    keyId = [0] ∧ entries = (fun _ => [1,2,3]) ∧ child = [2] := by
  unfold portTable at node
  dsimp only at node
  split at node
  · exact nomatch node
  · split at node
    · obtain ⟨rfl,same,rfl⟩ := Node.list.inj node
      exact ⟨rfl,(Option.some.inj same).symm,rfl⟩
    · split at node <;> exact nomatch node

theorem portTable_readable : portTable.KeysReadable := by
  constructor
  · intro n keyId entries child entry node first key member leaf found
    obtain ⟨rfl,_,rfl⟩ := portTable_list node
    obtain rfl := mem_singleton.mp member
    obtain rfl := Option.some.inj first
    obtain rfl := Option.some.inj found
    rfl
  · intro n keyId entries child node app base entered
    obtain ⟨_,rfl,_⟩ := portTable_list node
    rintro rfl
    simp at entered

set_option maxRecDepth 4000 in
theorem moduleIterate_tells_port :
    portTable.told [0,0,9,0,0,0,1,0,2,1,0,0,0] 0 () = [.node 0 [.leaf 0 .ok [2],.leaf 1 .ok [4]]] ∧
    ∃ after, portTable.moduleIterate [0,0,9,0,0,0,1,0,2,1,0,0,0] ⟨100,140,by decide,by decide⟩ .get 0 ⟨fun _ => 0,()⟩ =
        some (120,after) ∧
      bytesAt after.memory 100 20 = [0,0,16,0,0,0,0,0,3,0,0,0,2,1,0,3,0,0,0,4] ∧ after.app = () := by
  have value : portTable.told [0,0,9,0,0,0,1,0,2,1,0,0,0] 0 () = [.node 0 [.leaf 0 .ok [2],.leaf 1 .ok [4]]] := rfl
  refine ⟨value,?_⟩
  have told := moduleIterate_tells portTable portTable_readable [0,0,9,0,0,0,1,0,2,1,0,0,0]
    ⟨100,140,by decide,by decide⟩ 0 ⟨fun _ => 0,()⟩ (by decide)
  dsimp only at told
  rw [value] at told
  exact told

end Genavb.Common
