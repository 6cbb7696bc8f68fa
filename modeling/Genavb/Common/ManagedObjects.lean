import Genavb.Support.Memory

/-! Managed objects (`managed_objects.c`): a request for a tree of objects is gone through and its response is written.
A read behind the request, a write beside the response buffer and a use of a child that is not there have no result. -/
namespace Genavb.Common
open Genavb.Support

/-- `enum leaf_type`, and any other value in its place. -/
inductive LeafType
  | bool
  | uint8
  | uint16
  | uint32
  | uint64
  | int8
  | int16
  | int32
  | int64
  | double
  | scaledNs
  | uscaledNs
  | clockIdentity
  | portIdentity
  | macAddress
  | unknown
  deriving DecidableEq

def leafObjectSize : LeafType → Option Nat
  | .bool | .uint8 | .int8 => some 1
  | .uint16 | .int16 => some 2
  | .uint32 | .int32 => some 4
  | .uint64 | .int64 | .double | .clockIdentity => some 8
  | .scaledNs | .uscaledNs => some 12
  | .portIdentity => some 10
  | .macAddress => some 6
  | .unknown => none

inductive NodeStatus
  | ok
  | errLength
  | errId
  | errType
  | errRead
  | errWrite
  | errMaxChild
  | errKeyId
  | errKeyLength
  deriving DecidableEq

def NodeStatus.code : NodeStatus → Nat
  | .ok => 0
  | .errLength => 1
  | .errId => 2
  | .errType => 3
  | .errRead => 4
  | .errWrite => 5
  | .errMaxChild => 6
  | .errKeyId => 7
  | .errKeyLength => 8

inductive NodeOperation
  | get
  | set

/-- `struct leaf` over the state of the application. What its handler or the copy of its storage
reads and writes for the base of a list entry is `get` and `set`; `leaf_compare` calls the handler
without its data. -/
structure Leaf (σ : Type) where
  type : LeafType
  readable : Bool
  writable : Bool
  val : Nat
  get : σ → Nat → List UInt8
  compared : σ → Nat → List UInt8
  set : List UInt8 → Nat → σ → σ
  sized : ∀ size, leafObjectSize type = some size → ∀ app base, (get app base).length = size

/-- The nodes by `enum node_type`: modules and list entries are never children that `child_iterate`
goes into. A dynamic list has a handler, taken as the bases of its entries in turn. -/
inductive Node (σ ρ : Type)
  | container (child : List ρ)
  | list (keyId : List Nat) (dynamicHandler : Option (σ → List Nat)) (child : List ρ)
  | leaf (leaf : Leaf σ)
  | leafList
  | other (child : List ρ)

def Node.child {σ ρ : Type} : Node σ ρ → List ρ
  | .container child => child
  | .list _ _ child => child
  | .leaf _ => []
  | .leafList => []
  | .other child => child

/-- A tree as the `_INIT` macros build it: a static list has a key, which names a leaf in each
entry, and a dynamic list has its entry, in which the keys name children. -/
structure ObjectTree (σ ρ : Type) where
  node : ρ → Node σ ρ
  static : ∀ n keyId child, node n = .list keyId none child → ∃ key others, keyId = key :: others ∧
    ∀ entry ∈ child, ∃ place leaf, (node entry).child[key]? = some place ∧ node place = .leaf leaf
  dynamic : ∀ n keyId entries child, node n = .list keyId (some entries) child → ∃ entry others, child = entry :: others ∧
    ∀ key ∈ keyId, ∃ place, (node entry).child[key]? = some place ∧ ∀ leaf, node place = .leaf leaf → leaf.type ≠ .unknown

def halfBytes (value : Nat) : List UInt8 := [UInt8.ofNat value,UInt8.ofNat (value / 256)]

def halfValue (bytes : List UInt8) : Nat := (bytes.getD 0 0).toNat + (bytes.getD 1 0).toNat * 256

def headerStatus (id length : Nat) (status : NodeStatus) : List UInt8 :=
  halfBytes id ++ (halfBytes length ++ halfBytes status.code)

structure NodeHeader where
  id : Nat
  length : Nat

structure Response where
  start : Nat
  stop : Nat
  real : 6 ≤ start
  ordered : start ≤ stop

structure Machine (σ : Type) where
  memory : Memory
  app : σ

variable {σ ρ : Type}

namespace Response
variable (buffer : Response)

def put (address : Nat) (bytes : List UInt8) (machine : Machine σ) : Option (Machine σ) :=
  if buffer.start ≤ address ∧ address + bytes.length ≤ buffer.stop then
    some {machine with memory := store address bytes machine.memory}
  else none

def putHeaderStatusStart (buf id : Nat) (machine : Machine σ) : Option (Nat × Machine σ) :=
  if buf ≤ buffer.stop ∧ buffer.stop - buf < 6 then some (0,machine)
  else (buffer.put buf (headerStatus id 2 .ok) machine).map fun machine => (buf,machine)

def putHeaderStatusEnd (hdr : Nat) (status : NodeStatus) (length : Nat) (machine : Machine σ) :
    Option (Nat × Machine σ) :=
  (buffer.put (hdr + 2) (halfBytes (halfValue (bytesAt machine.memory (hdr + 2) 2) + length) ++ halfBytes status.code)
    machine).map fun machine => (hdr + 6,machine)

def putHeaderStatus (buf id : Nat) (status : NodeStatus) (machine : Machine σ) : Option (Nat × Machine σ) := do
  let (hdr,machine) ← buffer.putHeaderStatusStart buf id machine
  if hdr = 0 then some (0,machine) else buffer.putHeaderStatusEnd hdr status 0 machine

def leafGet (leaf : Leaf σ) (id out base : Nat) (machine : Machine σ) : Option ((Nat × Machine σ) × NodeStatus) := do
  if leaf.val = 0 ∧ base = 0 ∨ leaf.readable = false then
    some (← buffer.putHeaderStatus out id .errLength machine,.errLength)
  else
    match leafObjectSize leaf.type with
    | none => some (← buffer.putHeaderStatus out id .errType machine,.errType)
    | some size =>
      let (hdr,machine) ← buffer.putHeaderStatusStart out id machine
      if hdr = 0 then some ((out,machine),.errLength)
      else if buffer.stop - (hdr + 6) < size then
        let (out,machine) ← buffer.putHeaderStatusEnd hdr .errLength 0 machine
        some ((out,machine),.errLength)
      else
        let machine ← buffer.put (hdr + 6) (leaf.get machine.app base) machine
        let (out,machine) ← buffer.putHeaderStatusEnd hdr .ok size machine
        some ((out + size,machine),.ok)

end Response

def readBytes (request : List UInt8) (place count : Nat) : Option (List UInt8) :=
  if place + count ≤ request.length then some ((request.drop place).take count) else none

def readHalf (request : List UInt8) (place : Nat) : Option Nat := (readBytes request place 2).map halfValue

def getHeader (request : List UInt8) (buf stop : Nat) : Option (Option NodeHeader) :=
  if buf ≤ stop ∧ stop - buf < 4 then some none
  else do
    let id ← readHalf request buf
    let length ← readHalf request (buf + 2)
    some (some ⟨id,length⟩)

def Response.leafSet (buffer : Response) (request : List UInt8) (leaf : Leaf σ) (id inp inEnd out base : Nat)
    (machine : Machine σ) : Option (Nat × Machine σ) := do
  if leaf.val = 0 ∧ base = 0 ∨ leaf.writable = false then buffer.putHeaderStatus out id .errWrite machine
  else
    match leafObjectSize leaf.type with
    | none => buffer.putHeaderStatus out id .errType machine
    | some size =>
      let (hdr,machine) ← buffer.putHeaderStatusStart out id machine
      if hdr = 0 then some (out,machine)
      else if inEnd - inp < size then buffer.putHeaderStatusEnd hdr .errLength 0 machine
      else
        let value ← readBytes request inp size
        buffer.putHeaderStatusEnd hdr .ok 0 {machine with app := leaf.set value base machine.app}

structure EntryKey where
  id : Nat
  length : Nat
  val : Nat

/-- What `list_entry_extract_keys` comes to: no header, a key that it answers with an error, or all
keys and the place behind them. -/
inductive KeyOutcome
  | stopped
  | refused (id : Nat) (status : NodeStatus)
  | found (keys : List EntryKey) (inp : Nat)

namespace ObjectTree
variable (tree : ObjectTree σ ρ) (request : List UInt8)

def leafAt (entry : ρ) (id : Nat) : Option (Leaf σ) :=
  match (tree.node entry).child[id]?.map tree.node with
  | some (.leaf leaf) => some leaf
  | _ => none

def keyStatus (dynamic : Bool) (child : List ρ) (keyId : Nat) (header : NodeHeader) (inp inEnd : Nat) :
    Option NodeStatus := do
  if header.id ≠ keyId then some .errKeyId
  else if inEnd - inp < header.length then some .errLength
  else if dynamic then
    let entry ← child[0]?
    let place ← (tree.node entry).child[header.id]?
    match tree.node place with
    | .leaf leaf =>
      let size ← leafObjectSize leaf.type
      some (if header.length ≠ 0 ∧ header.length ≠ size then .errKeyLength else .ok)
    | _ => some .errType
  else if header.length ≠ 2 then some .errKeyLength
  else do
    let index ← readHalf request inp
    some (if child.length ≤ index then .errMaxChild else .ok)

/-- `list_entry_extract_keys`, before it writes. -/
def listEntryExtractKeys (dynamic : Bool) (child : List ρ) (inEnd : Nat) :
    List Nat → List EntryKey → Nat → Option KeyOutcome
  | [],keys,inp => some (.found keys inp)
  | keyId :: others,keys,inp => do
    match ← getHeader request inp inEnd with
    | none => some .stopped
    | some header =>
      let status ← tree.keyStatus request dynamic child keyId header (inp + 4) inEnd
      if status = .ok then
        listEntryExtractKeys dynamic child inEnd others (keys ++ [⟨header.id,header.length,inp + 4⟩])
          (inp + 4 + header.length)
      else some (.refused header.id status)

def leafCompare (leaf : Leaf σ) (base key : Nat) (app : σ) : Option Bool := do
  let size ← leafObjectSize leaf.type
  let bytes ← readBytes request key size
  some (bytes == leaf.compared app base)

def listEntryMatch (entry : ρ) (base : Nat) (app : σ) : List EntryKey → Option Bool
  | [] => some true
  | key :: others => do
    if key.length = 0 then listEntryMatch entry base app others
    else
      let leaf ← tree.leafAt entry key.id
      if ← leafCompare request leaf base key.val app then listEntryMatch entry base app others else some false

variable (buffer : Response)

def keysGet (entry : ρ) (base : Nat) : List EntryKey → Nat → Machine σ → Option ((Nat × Machine σ) × Bool)
  | [],out,machine => some ((out,machine),true)
  | key :: others,out,machine => do
    let leaf ← tree.leafAt entry key.id
    let ((out,machine),status) ← buffer.leafGet leaf key.id out base machine
    if status = .ok then keysGet entry base others out machine else some ((out,machine),false)

abbrev Iterate (σ ρ : Type) := ρ → Nat → Nat → Nat → Machine σ → Option (Nat × Machine σ)

def entriesIterate (iterate : Nat → Nat → Machine σ → Option (Nat × Machine σ)) (entry : ρ) (keys : List EntryKey) :
    List Nat → Nat → Machine σ → Option (Nat × Machine σ)
  | [],out,machine => some (out,machine)
  | base :: others,out,machine => do
    if ← tree.listEntryMatch request entry base machine.app keys then
      let ((out,machine),complete) ← tree.keysGet buffer entry base keys out machine
      if complete then
        let (out,machine) ← iterate base out machine
        entriesIterate iterate entry keys others out machine
      else some (out,machine)
    else entriesIterate iterate entry keys others out machine

def listEntryIterate (iterate : Iterate σ ρ) (keyId : List Nat) (dynamicHandler : Option (σ → List Nat))
    (child : List ρ)
    (inp inEnd out : Nat) (machine : Machine σ) : Option (Nat × Machine σ) := do
  match ← tree.listEntryExtractKeys request dynamicHandler.isSome child inEnd keyId [] inp with
  | .stopped => some (out,machine)
  | .refused id status => buffer.putHeaderStatus out id status machine
  | .found keys inp =>
    match dynamicHandler with
    | some entries =>
      let entry ← child[0]?
      tree.entriesIterate request buffer (iterate entry inp) entry keys (entries machine.app) out machine
    | none =>
      let key ← keys.head?
      let index ← readHalf request key.val
      let entry ← child[index]?
      let leaf ← tree.leafAt entry key.id
      let ((out,machine),status) ← buffer.leafGet leaf key.id out 0 machine
      if status = .ok then iterate entry inp 0 out machine else some (out,machine)

end ObjectTree

/-- The header that `node_iterate` and `list_iterate` put around what they iterate. -/
def Response.headed (buffer : Response) (inner : Nat → Machine σ → Option (Nat × Machine σ)) (id out : Nat)
    (machine : Machine σ) : Option (Nat × Machine σ) := do
  let (hdr,machine) ← buffer.putHeaderStatusStart out id machine
  if hdr = 0 then some (out,machine)
  else
    let (out,machine) ← inner (hdr + 6) machine
    let (_,machine) ← buffer.putHeaderStatusEnd hdr .ok (((out : Int) - (hdr + 6)) % 65536).toNat machine
    some (out,machine)

namespace ObjectTree
variable (tree : ObjectTree σ ρ) (request : List UInt8) (buffer : Response) (operation : NodeOperation)

def nodeIterate (iterate : Iterate σ ρ) (n : ρ) (id inp out : Nat) (machine : Machine σ) : Option (Nat × Machine σ) :=
  buffer.headed (fun out machine => iterate n inp 0 out machine) id out machine

def listIterate (iterate : Iterate σ ρ) (keyId : List Nat) (dynamicHandler : Option (σ → List Nat)) (child : List ρ)
    (id inp inEnd out : Nat) (machine : Machine σ) : Option (Nat × Machine σ) :=
  buffer.headed (fun out machine =>
    tree.listEntryIterate request buffer iterate keyId dynamicHandler child inp inEnd out machine) id out machine

def childSwitch (iterate : Iterate σ ρ) (n : ρ) (id inp inEnd out base : Nat) (machine : Machine σ) :
    Option ((Nat × Machine σ) × Bool) := do
  match tree.node n with
  | .container _ => some (← nodeIterate buffer iterate n id inp out machine,false)
  | .list keyId dynamicHandler child =>
    some (← tree.listIterate request buffer iterate keyId dynamicHandler child id inp inEnd out machine,false)
  | .leaf leaf =>
    match operation with
    | .get => some ((← buffer.leafGet leaf id out base machine).1,false)
    | .set => some (← buffer.leafSet request leaf id inp inEnd out base machine,false)
  | .leafList => some ((out,machine),false)
  | .other _ =>
    let (out,machine) ← buffer.putHeaderStatus out id .errType machine
    some ((out,machine),decide (out = 0))

/-- `child_iterate`. Each turn of the loop, and each call in one, goes on in the request. -/
def childIterate : Nat → Nat → Iterate σ ρ
  | 0,_ => fun _ _ _ _ _ => none
  | fuel + 1,inEnd => fun n inp base out machine => do
    if inp < inEnd then
      match ← getHeader request inp inEnd with
      | none => some (out,machine)
      | some header =>
        if inEnd < inp + 4 + header.length then buffer.putHeaderStatus out header.id .errLength machine
        else
          match (tree.node n).child[header.id]? with
          | none =>
            let (out,machine) ← buffer.putHeaderStatus out header.id .errId machine
            if out = 0 then some (out,machine)
            else childIterate fuel inEnd n (inp + 4 + header.length) base out machine
          | some child =>
            let ((out,machine),stop) ← tree.childSwitch request buffer operation
              (childIterate fuel (inp + 4 + header.length)) child header.id (inp + 4) (inp + 4 + header.length) out base
              machine
            if stop then some (out,machine)
            else childIterate fuel inEnd n (inp + 4 + header.length) base out machine
    else some (out,machine)

def moduleIterate (n : ρ) (machine : Machine σ) : Option (Nat × Machine σ) :=
  tree.childIterate request buffer operation (request.length + 1) request.length n 0 0 buffer.start machine

end ObjectTree

end Genavb.Common

/-! The replies to a request for managed objects: what each object answers as long as there is room, apart from how the
response is put into its buffer. -/
namespace Genavb.Common

inductive Reply
  | leaf (id : Nat) (status : NodeStatus) (value : List UInt8)
  | node (id : Nat) (children : List Reply)

mutual
def Reply.bytes : Reply → List UInt8
  | .leaf id status value => headerStatus id (2 + value.length) status ++ value
  | .node id children => headerStatus id (2 + (repliesBytes children).length) .ok ++ repliesBytes children

def repliesBytes : List Reply → List UInt8
  | [] => []
  | reply :: others => reply.bytes ++ repliesBytes others
end

def lengthTold (bytes : List UInt8) : Nat := halfValue ((bytes.drop 2).take 2)

mutual
/-- The header tells the length of its status and its value or its children, and theirs do so too. -/
def Reply.Exact : Reply → Prop
  | .leaf id status value => lengthTold (Reply.leaf id status value).bytes = 2 + value.length
  | .node id children =>
    lengthTold (Reply.node id children).bytes = 2 + (repliesBytes children).length ∧ repliesExact children

def repliesExact : List Reply → Prop
  | [] => True
  | reply :: others => reply.Exact ∧ repliesExact others
end

/-- Replies, the room that they leave, and whether each error status had room. -/
structure Answer (σ : Type) where
  replies : List Reply
  room : Nat
  app : σ
  fits : Bool

variable {σ ρ : Type}

namespace Answer

def nothing (room : Nat) (app : σ) : Answer σ := ⟨[],room,app,true⟩

def next (answer : Answer σ) (after : Nat → σ → Answer σ) : Answer σ :=
  if answer.fits then
    let later := after answer.room answer.app
    {later with replies := answer.replies ++ later.replies}
  else answer

def refuse (id : Nat) (status : NodeStatus) (room : Nat) (app : σ) : Answer σ :=
  if room < 6 then ⟨[],room,app,false⟩ else ⟨[.leaf id status []],room - 6,app,true⟩

def headed (inner : Nat → σ → Answer σ) (id room : Nat) (app : σ) : Answer σ :=
  if room < 6 then nothing room app
  else
    let answer := inner (room - 6) app
    {answer with replies := [.node id answer.replies]}

def leafGet (leaf : Leaf σ) (id base room : Nat) (app : σ) : Answer σ × NodeStatus :=
  if leaf.val = 0 ∧ base = 0 ∨ leaf.readable = false then (refuse id .errLength room app,.errLength)
  else
    match leafObjectSize leaf.type with
    | none => (refuse id .errType room app,.errType)
    | some size =>
      if room < 6 then (nothing room app,.errLength)
      else if room - 6 < size then (⟨[.leaf id .errLength []],room - 6,app,true⟩,.errLength)
      else (⟨[.leaf id .ok (leaf.get app base)],room - 6 - size,app,true⟩,.ok)

def leafSet (request : List UInt8) (leaf : Leaf σ) (id inp inEnd base room : Nat) (app : σ) : Answer σ :=
  if leaf.val = 0 ∧ base = 0 ∨ leaf.writable = false then refuse id .errWrite room app
  else
    match leafObjectSize leaf.type with
    | none => refuse id .errType room app
    | some size =>
      if room < 6 then nothing room app
      else if inEnd - inp < size then ⟨[.leaf id .errLength []],room - 6,app,true⟩
      else ⟨[.leaf id .ok []],room - 6,leaf.set ((request.drop inp).take size) base app,true⟩

end Answer

namespace ObjectTree
variable (tree : ObjectTree σ ρ) (request : List UInt8) (operation : NodeOperation)

def answerKeys (entry : ρ) (base : Nat) : List EntryKey → Nat → σ → Answer σ × Bool
  | [],room,app => (.nothing room app,true)
  | key :: others,room,app =>
    match tree.leafAt entry key.id with
    | none => (.nothing room app,false)
    | some leaf =>
      let (answer,status) := Answer.leafGet leaf key.id base room app
      if status = .ok then
        let (later,complete) := answerKeys entry base others answer.room answer.app
        (answer.next fun _ _ => later,complete)
      else (answer,false)

def answerEntries (iterate : Nat → Nat → σ → Answer σ) (entry : ρ) (keys : List EntryKey) :
    List Nat → Nat → σ → Answer σ
  | [],room,app => .nothing room app
  | base :: others,room,app =>
    if tree.listEntryMatch request entry base app keys = some true then
      let (answer,complete) := tree.answerKeys entry base keys room app
      if complete then
        (answer.next (iterate base)).next (answerEntries iterate entry keys others)
      else answer
    else answerEntries iterate entry keys others room app

def answerList (iterate : ρ → Nat → Nat → Nat → σ → Answer σ) (keyId : List Nat)
    (dynamicHandler : Option (σ → List Nat)) (child : List ρ) (inp inEnd room : Nat) (app : σ) : Answer σ :=
  match tree.listEntryExtractKeys request dynamicHandler.isSome child inEnd keyId [] inp with
  | some (.refused id status) => .refuse id status room app
  | some (.found keys inp) =>
    match dynamicHandler with
    | some entries =>
      match child[0]? with
      | some entry => tree.answerEntries request (iterate entry inp) entry keys (entries app) room app
      | none => .nothing room app
    | none =>
      let found := do
        let key ← keys.head?
        let index ← readHalf request key.val
        let entry ← child[index]?
        let leaf ← tree.leafAt entry key.id
        some (entry,key.id,leaf)
      match found with
      | some (entry,id,leaf) =>
        let (answer,status) := Answer.leafGet leaf id 0 room app
        if status = .ok then answer.next (iterate entry inp 0) else answer
      | none => .nothing room app
  | _ => .nothing room app

def answerSwitch (iterate : ρ → Nat → Nat → Nat → σ → Answer σ) (child : ρ) (id inp inEnd base room : Nat) (app : σ) :
    Answer σ :=
  match tree.node child with
  | .container _ => .headed (iterate child inp 0) id room app
  | .list keyId dynamicHandler entries =>
    .headed (tree.answerList request iterate keyId dynamicHandler entries inp inEnd) id room app
  | .leaf leaf =>
    match operation with
    | .get => (Answer.leafGet leaf id base room app).1
    | .set => .leafSet request leaf id inp inEnd base room app
  | .leafList => .nothing room app
  | .other _ => .refuse id .errType room app

def answerChildren : Nat → Nat → ρ → Nat → Nat → Nat → σ → Answer σ
  | 0,_ => fun _ _ _ room app => .nothing room app
  | fuel + 1,inEnd => fun n inp base room app =>
    if inp < inEnd then
      match getHeader request inp inEnd with
      | some (some header) =>
        let behind := inp + 4 + header.length
        if inEnd < behind then .refuse header.id .errLength room app
        else
          let answer : Answer σ :=
            match (tree.node n).child[header.id]? with
            | none => .refuse header.id .errId room app
            | some child =>
              tree.answerSwitch request operation (answerChildren fuel behind) child header.id (inp + 4) behind base room
                app
          answer.next (answerChildren fuel inEnd n behind base)
      | _ => .nothing room app
    else .nothing room app

def answerModule (n : ρ) (room : Nat) (app : σ) : Answer σ :=
  tree.answerChildren request operation (request.length + 1) request.length n 0 0 room app

end ObjectTree

end Genavb.Common
