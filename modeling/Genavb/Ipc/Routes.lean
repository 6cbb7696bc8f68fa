import Genavb.Ipc.Endpoints

/-! The channels of a system and the applications that connect them: requests through channels of many writers, replies
through channels of many readers. -/
namespace Genavb.Ipc
open Function (update update_self update_of_ne)

structure Endpoint where
  channel : Nat
  slot : Nat
  serial : Nat
  deriving DecidableEq

structure Request where
  src : Nat
  sender : Endpoint
  deriving DecidableEq

/-- `connector` tells who has made an entry of the `dst_map` of a channel, and `requests` what the readers of channels of
many writers have received. -/
structure Network (ipc : Buffers) where
  system : Nat → IpcSystem ipc
  connector : Nat → Nat → Option Endpoint
  requests : List Request

/-- A reply is a message for the source of a request. -/
inductive NetworkInput (ipc : Buffers) where
  | operate (c : Nat) (input : IpcInput ipc)
  | connect (w i r j : Nat)
  | reply (request : Request) (c i buffer len dst : Nat) (granted : Nat → Bool) (woken : Nat → Int)

namespace Network
variable {ipc : Buffers}

def init (ipc : Buffers) (types : Nat → IpcType) : Network ipc where
  system := fun c => .init ipc (types c) c
  connector := fun _ _ => none
  requests := []

def channel (c : Nat) (net : Network ipc) : Channel ipc := (net.system c).channel

def received (c : Nat) (input : IpcInput ipc) (net : Network ipc) : List Request :=
  match input with
  | .receive i granted =>
    let channel := net.channel c
    if channel.isWriter i ∨ (channel.slot i).isNone ∨ channel.type ≠ .manyWriters then []
    else
      match channel.ipcRx i granted with
      | (_,none) => []
      | (channel,some (_,src)) => ((channel.serial channel.last).map fun serial => ⟨src,c,channel.last,serial⟩).toList
  | _ => []

def operate (c : Nat) (input : IpcInput ipc) (net : Network ipc) : Network ipc :=
  {net with
    system := update net.system c (ipcStep input (net.system c))
    requests := net.requests ++ net.received c input}

/-- `IPC_IOC_CONNECT_TX` and `ipc_tx_connect`, by the writer in slot `i` of channel `w` for the reader in slot `j` of
channel `r`. -/
def connect (w i r j : Nat) (net : Network ipc) : Network ipc :=
  match (net.channel w).serial i with
  | none => net
  | some serial =>
    if (net.channel w).type ≠ .manyWriters ∨ !(net.channel w).isWriter i then net
    else
      let reader := net.channel r
      let net := {net with system := update net.system r (ipcStep (.connect (net.channel w).index i j) (net.system r))}
      if reader.type = .manyReaders ∧ !reader.isWriter j ∧ (reader.slot j).isSome then
        {net with connector := update net.connector r (update (net.connector r) i (some ⟨w,i,serial⟩))}
      else net

end Network

variable {ipc : Buffers}

def networkStep (input : NetworkInput ipc) (net : Network ipc) : Network ipc :=
  match input with
  | .operate _ (.connect ..) => net
  | .operate c input => net.operate c input
  | .connect w i r j => net.connect w i r j
  | .reply _ c i buffer len dst granted woken => net.operate c (.send i buffer len dst granted woken)

def slotAddress (channel slot : Nat) : Nat := slot ||| channel <<< 8

/-- Every used entry leads to an open reader, and was made by the writer that has its address now. -/
def Routed (net : Network ipc) : Prop := ∀ r k serial, ((net.channel r).dstMap k).2 = some serial →
  (∃ j, (net.channel r).isWriter j = false ∧ (net.channel r).serial j = some serial) ∧
  ∃ w writer, net.connector r k = some ⟨w,k,writer⟩ ∧ ((net.channel r).dstMap k).1 = slotAddress w k ∧
    (net.channel w).serial k = some writer

/-- A reply that is accepted goes to the reader that the sender of the request has connected. -/
def Answered (net : Network ipc) : NetworkInput ipc → Prop
  | .reply request c i buffer len dst granted woken =>
    let system := net.system c
    let content := system.content i buffer
    request ∈ net.requests → system.channel.type = .manyReaders → ipc.destination dst content = request.src →
      (system.request i buffer len dst granted woken).2 = true → ∃ j serial,
        system.request i buffer len dst granted woken =
          system.channel.ipcTxTo i j buffer (ipc.sends len content) content granted woken ∧
        system.channel.serial j = some serial ∧
        system.channel.dstMap request.sender.slot = (request.src,some serial) ∧
        net.connector c request.sender.slot = some request.sender
  | _ => True

/-- The entries that lead to a reader when it is closed: the Linux driver clears the first one, `rtos/ipc.c` none. -/
def Platform.Clears : Platform → Nat → (Nat → Nat × Option Nat) → Prop
  | .linux,serial,dstMap => ∀ k l, (dstMap k).2 = some serial → (dstMap l).2 = some serial → k = l
  | .rtos,serial,dstMap => ∀ k, (dstMap k).2 ≠ some serial

/-- A reader closes with no more entries than are cleared, a writer with none, and no other writer has taken the address
of a sender when it gets its reply. -/
def Clean (platform : Platform) (net : Network platform.buffers) : NetworkInput platform.buffers → Prop
  | .operate c (.close i) => ∀ serial, (net.channel c).serial i = some serial →
    ((net.channel c).type = .manyReaders → (net.channel c).isWriter i = false →
      platform.Clears serial (net.channel c).dstMap) ∧
    ((net.channel c).type = .manyWriters → (net.channel c).isWriter i = true → ∀ r k reader,
      (net.channel r).dstMap k ≠ (slotAddress c i,some reader))
  | .reply request c i buffer _ dst _ _ => request ∈ net.requests →
    platform.buffers.destination dst ((net.system c).content i buffer) = request.src → ∀ serial,
      (net.channel request.sender.channel).serial request.sender.slot = some serial → serial = request.sender.serial
  | _ => True

end Genavb.Ipc

/-! The entries of `dst_map` against the slots they lead to and the writers they are for. -/
namespace Genavb.Ipc
open Function (update update_self update_of_ne)

/-- An entry of a channel of many readers, and the ends of the channels of its reader and of its writer. -/
structure Route (ends : Nat → Ends) (connector : Nat → Nat → Option Endpoint) (r k serial : Nat) : Prop where
  readers : (ends r).type = .manyReaders
  reader : ∃ j, j ≠ 0 ∧ (ends r).serial j = some serial
  writer : ∃ w writer, connector r k = some ⟨w,k,writer⟩ ∧ ((ends r).dstMap k).1 = slotAddress w k ∧
    (ends w).type = .manyWriters ∧ k ≠ 0 ∧ (ends w).serial k = some writer

/-- `N` is the last slot of a channel. -/
structure Routes (N : Nat) (ends : Nat → Ends) (connector : Nat → Nat → Option Endpoint) : Prop where
  index : ∀ c, (ends c).index = c
  inside : ∀ {c i serial}, (ends c).serial i = some serial → i ≤ N ∧ serial < (ends c).opened
  apart : ∀ {c i j serial}, (ends c).serial i = some serial → (ends c).serial j = some serial → i = j
  route : ∀ {r k serial}, ((ends r).dstMap k).2 = some serial → Route ends connector r k serial

namespace Ends

def opens (i : Nat) (ends : Ends) : Ends :=
  {ends with serial := update ends.serial i (some ends.opened),opened := ends.opened + 1}

def closes (i : Nat) (dstMap : Nat → Nat × Option Nat) (ends : Ends) : Ends :=
  {ends with serial := update ends.serial i none,dstMap := dstMap}

def connects (i : Nat) (entry : Nat × Option Nat) (ends : Ends) : Ends :=
  {ends with dstMap := update ends.dstMap i entry}

end Ends

section Routes
variable {N : Nat} {ends : Nat → Ends} {connector : Nat → Nat → Option Endpoint} {c i r k serial : Nat}

theorem Route.congr {after : Nat → Ends} (route : Route ends connector r k serial)
    (types : ∀ c, (after c).type = (ends c).type) (entry : (after r).dstMap k = (ends r).dstMap k)
    (readers : ∀ j, j ≠ 0 → (ends r).serial j = some serial → (after r).serial j = some serial)
    (writers : ∀ w writer, (ends w).type = .manyWriters → ((ends r).dstMap k).1 = slotAddress w k →
      (ends w).serial k = some writer → (after w).serial k = some writer) :
    Route after connector r k serial := by
  obtain ⟨j,positive,at_j⟩ := route.reader
  obtain ⟨w,writer,made,address,type,other,at_k⟩ := route.writer
  refine ⟨(types r).trans route.readers,⟨j,positive,readers j positive at_j⟩,?_⟩
  rw [entry]
  exact ⟨w,writer,made,address,(types w).trans type,other,writers w writer type address at_k⟩

private theorem update_ends {X : Type} (ends : Nat → Ends) (c : Nat) (after : Ends) (field : Ends → X)
    (same : field after = field (ends c)) (other : Nat) :
    field (update ends c after other) = field (ends other) := by
  by_cases here : other = c
  case pos => rw [here,update_self,same]
  case neg => rw [update_of_ne here]

variable (routes : Routes N ends connector)
include routes

theorem Routes.opens (free : (ends c).serial i = none) (below : i ≤ N) :
    Routes N (update ends c ((ends c).opens i)) connector := by
  have older : ∀ {other j old}, (ends other).serial j = some old →
      (update ends c ((ends c).opens i) other).serial j = some old := by
    intro other j old found
    by_cases here : other = c
    case neg => rwa [update_of_ne here]
    case pos =>
      subst here
      have apart : j ≠ i := by
        rintro rfl
        exact absurd (free.symm.trans found) (by simp)
      rw [update_self]
      exact (update_of_ne apart _ _).trans found
  have cases : ∀ {other j old}, (update ends c ((ends c).opens i) other).serial j = some old →
      (ends other).serial j = some old ∨ other = c ∧ j = i ∧ old = (ends c).opened := by
    intro other j old found
    by_cases here : other = c
    case neg =>
      rw [update_of_ne here] at found
      exact .inl found
    case pos =>
      subst here
      rw [update_self] at found
      change update (ends other).serial i (some (ends other).opened) j = some old at found
      by_cases there : j = i
      case pos =>
        rw [there,update_self] at found
        exact .inr ⟨rfl,there,(Option.some.inj found).symm⟩
      case neg =>
        rw [update_of_ne there] at found
        exact .inl found
  refine ⟨?_,?_,?_,?_⟩
  · intro other
    exact (update_ends ends c ((ends c).opens i) Ends.index rfl other).trans (routes.index other)
  · intro other j old found
    have grown : (ends other).opened ≤ (update ends c ((ends c).opens i) other).opened := by
      by_cases here : other = c
      case neg => rw [update_of_ne here]
      case pos =>
        subst here
        rw [update_self]
        exact Nat.le_succ _
    obtain before | ⟨rfl,rfl,rfl⟩ := cases found
    · exact ⟨(routes.inside before).1,(routes.inside before).2.trans_le grown⟩
    · refine ⟨below,?_⟩
      rw [update_self]
      exact Nat.lt_succ_self _
  · intro other j l old found same
    obtain before | ⟨rfl,rfl,rfl⟩ := cases found
    · obtain also_before | ⟨rfl,rfl,rfl⟩ := cases same
      · exact routes.apart before also_before
      · exact absurd (routes.inside before).2 (Nat.lt_irrefl _)
    · obtain before | ⟨_,rfl,_⟩ := cases same
      · exact absurd (routes.inside before).2 (Nat.lt_irrefl _)
      · rfl
  · intro r k serial found
    have entries : (update ends c ((ends c).opens i) r).dstMap = (ends r).dstMap :=
      update_ends ends c ((ends c).opens i) Ends.dstMap rfl r
    rw [entries] at found
    exact (routes.route found).congr (update_ends ends c ((ends c).opens i) Ends.type rfl) (congrFun entries k)
      (fun j _ at_j => older at_j) (fun w writer _ _ at_k => older at_k)

theorem Routes.closes {left : Nat → Nat × Option Nat} (at_i : (ends c).serial i = some serial)
    (kept : ∀ {k old}, (left k).2 = some old → left k = (ends c).dstMap k)
    (cleared : (ends c).type = .manyReaders → i ≠ 0 → ∀ k, (left k).2 ≠ some serial)
    (unused : (ends c).type = .manyWriters → i ≠ 0 → ∀ r k reader, (ends r).dstMap k ≠ (slotAddress c i,some reader)) :
    Routes N (update ends c ((ends c).closes i left)) connector := by
  have older : ∀ {other j old}, (update ends c ((ends c).closes i left) other).serial j = some old →
      (ends other).serial j = some old := by
    intro other j old found
    by_cases here : other = c
    case neg => rwa [update_of_ne here] at found
    case pos =>
      subst here
      rw [update_self] at found
      change update (ends other).serial i none j = some old at found
      by_cases there : j = i
      case pos =>
        rw [there,update_self] at found
        cases found
      case neg => rwa [update_of_ne there] at found
  have others : ∀ {other j old}, (other = c → j ≠ i) → (ends other).serial j = some old →
      (update ends c ((ends c).closes i left) other).serial j = some old := by
    intro other j old apart found
    by_cases here : other = c
    case neg => rwa [update_of_ne here]
    case pos =>
      subst here
      rw [update_self]
      exact (update_of_ne (apart rfl) _ _).trans found
  refine ⟨?_,?_,?_,?_⟩
  · intro other
    exact (update_ends ends c ((ends c).closes i left) Ends.index rfl other).trans (routes.index other)
  · intro other j old found
    have same : (update ends c ((ends c).closes i left) other).opened = (ends other).opened :=
      update_ends ends c ((ends c).closes i left) Ends.opened rfl other
    rw [same]
    exact routes.inside (older found)
  · intro other j l old found same
    exact routes.apart (older found) (older same)
  · intro r k old found
    have entry : (update ends c ((ends c).closes i left) r).dstMap k = (ends r).dstMap k := by
      by_cases here : r = c
      case neg => rw [update_of_ne here]
      case pos =>
        subst here
        rw [update_self] at found ⊢
        exact kept found
    have route := routes.route ((congrArg Prod.snd entry).symm.trans found)
    refine route.congr (update_ends ends c ((ends c).closes i left) Ends.type rfl) entry ?_ ?_
    · intro j positive at_j
      refine others ?_ at_j
      rintro rfl rfl
      rw [at_i] at at_j
      cases at_j
      rw [update_self] at found
      exact cleared route.readers positive k found
    · intro w writer type address at_k
      refine others ?_ at_k
      rintro rfl rfl
      obtain ⟨_,_,_,_,_,positive,_⟩ := route.writer
      refine unused type positive r k old (Prod.ext address ?_)
      exact (congrArg Prod.snd entry).symm.trans found

theorem Routes.connects {w j writer : Nat} (readers : (ends r).type = .manyReaders)
    (reader : j ≠ 0) (at_j : (ends r).serial j = some serial) (writers : (ends w).type = .manyWriters) (positive : i ≠ 0)
    (at_i : (ends w).serial i = some writer) :
    Routes N (update ends r ((ends r).connects i (slotAddress w i,some serial)))
      (update connector r (update (connector r) i (some ⟨w,i,writer⟩))) := by
  have types := update_ends ends r ((ends r).connects i (slotAddress w i,some serial)) Ends.type rfl
  have serials := update_ends ends r ((ends r).connects i (slotAddress w i,some serial)) Ends.serial rfl
  refine ⟨?_,?_,?_,?_⟩
  · intro other
    exact (update_ends ends r ((ends r).connects i (slotAddress w i,some serial)) Ends.index rfl other).trans (routes.index other)
  · intro other l old found
    have same := update_ends ends r ((ends r).connects i (slotAddress w i,some serial)) Ends.opened rfl other
    rw [same]
    rw [serials] at found
    exact routes.inside found
  · intro other l m old found same
    rw [serials] at found same
    exact routes.apart found same
  · intro other k old found
    by_cases new : other = r ∧ k = i
    case pos =>
      obtain ⟨rfl,rfl⟩ := new
      have entry : (update ends other ((ends other).connects k (slotAddress w k,some serial)) other).dstMap k =
          (slotAddress w k,some serial) := by
        rw [update_self]
        exact update_self _ _ _
      rw [entry] at found
      cases found
      refine ⟨(types other).trans readers,⟨j,reader,?_⟩,w,writer,?_,congrArg Prod.fst entry,(types w).trans writers,positive,?_⟩
      · rw [serials]
        exact at_j
      · rw [update_self,update_self]
      · rw [serials]
        exact at_i
    case neg =>
      have entry : (update ends r ((ends r).connects i (slotAddress w i,some serial)) other).dstMap k = (ends other).dstMap k := by
        by_cases here : other = r
        case neg => rw [update_of_ne here]
        case pos =>
          subst here
          rw [update_self]
          exact update_of_ne (fun same => new ⟨rfl,same⟩) _ _
      have made : update connector r (update (connector r) i (some ⟨w,i,writer⟩)) other k = connector other k := by
        by_cases here : other = r
        case neg => rw [update_of_ne here]
        case pos =>
          subst here
          rw [update_self]
          exact update_of_ne (fun same => new ⟨rfl,same⟩) _ _
      have route := routes.route ((congrArg Prod.snd entry).symm.trans found)
      have moved := route.congr types entry (fun l _ at_l => by rwa [serials]) (fun v old _ _ at_k => by rwa [serials])
      refine ⟨moved.readers,moved.reader,?_⟩
      rw [made]
      exact moved.writer

end Routes

end Genavb.Ipc
