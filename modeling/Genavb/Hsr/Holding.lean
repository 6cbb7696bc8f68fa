import Genavb.Hsr.Context

/-! What giving identifiers back and deleting entries does to the tables of the HSR stack (`hsr.c`). -/
namespace Genavb.Hsr
open Genavb.Support List
open Genavb.Maap (MacAddress)

namespace HsrDevice
variable {hw : Hardware} {dev after : HsrDevice} {table : HsrTable} {id : Nat}

@[simp] theorem fdbDel_tables (mac : MacAddress) (vid : UInt16) : (dev.fdbDel hw mac vid).tables = dev.tables := by
  unfold fdbDel
  split <;> rfl

@[simp] theorem fdbDel_deleted (mac : MacAddress) (vid : UInt16) : (dev.fdbDel hw mac vid).deleted = dev.deleted := by
  unfold fdbDel
  split <;> rfl

@[simp] theorem fdbDel_mode (mac : MacAddress) (vid : UInt16) : (dev.fdbDel hw mac vid).mode = dev.mode := by
  unfold fdbDel
  split <;> rfl

def Room (table : HsrTable) (dev : HsrDevice) : Prop := (dev.tables table).alloc ≠ none

theorem Room.free {other : HsrTable} (room : dev.Room other) (table : HsrTable) (id : Nat) :
    (dev.tableIdFree table id).Room other := by
  by_cases same : other = table
  · subst same
    rw [Room,tableIdFree]
    dsimp only
    rw [Function.update_self]
    exact Bitmap.alloc_free (by decide) room id
  · rw [Room,tableIdFree]
    dsimp only
    rw [Function.update_of_ne same]
    exact room

theorem Room.of_tables (room : dev.Room table) (same : after.tables = dev.tables) : after.Room table := by
  rw [Room,same]
  exact room

/-- Identifiers are given back and objects deleted, and nothing else happens. -/
structure Quiet (dev after : HsrDevice) : Prop where
  fdb : after.fdb = dev.fdb
  mode : after.mode = dev.mode
  told : dev.deleted <+: after.deleted
  room : ∀ table, dev.Room table → after.Room table

namespace Quiet

theorem refl (dev : HsrDevice) : dev.Quiet dev := ⟨rfl,rfl,prefix_rfl,fun _ => id⟩

variable (quiet : dev.Quiet after)
include quiet

theorem free (table : HsrTable) (id : Nat) : dev.Quiet (after.tableIdFree table id) :=
  ⟨quiet.fdb,quiet.mode,quiet.told,fun other room => (quiet.room other room).free table id⟩

theorem delete (object : HwObject) : dev.Quiet (after.delete object) :=
  ⟨quiet.fdb,quiet.mode,quiet.told.trans (prefix_append _ _),quiet.room⟩

theorem dropFilterDel (drop : HsrStreamDrop) : dev.Quiet (after.dropFilterDel drop) :=
  (((quiet.delete _).free .dropTable drop.dropFilterId).delete _).free .streamTable drop.streamId

end Quiet

/-- The entries and the stream identities of the listed streams are deleted, the entries as far as the bridge does
that. -/
structure Cleared (hw : Hardware) (entries : List (MacAddress × HsrStream)) (dev after : HsrDevice) : Prop where
  fdb : ∀ mac vid, after.fdb mac vid =
    if hw.fdbDelete mac vid = true ∧ ∃ entry ∈ entries, entry.1 = mac ∧ entry.2.vid = vid then none else dev.fdb mac vid
  mode : after.mode = dev.mode
  told : ∃ objects, dev.deleted ++ objects = after.deleted ∧
    ∀ entry ∈ entries, HwObject.streamIdentity entry.2.streamId ∈ objects
  room : ∀ table, dev.Room table → after.Room table

namespace Cleared
variable {last : HsrDevice} {entries others : List (MacAddress × HsrStream)} {mac : MacAddress} {stream : HsrStream}

theorem quiet (quiet : dev.Quiet after) : Cleared hw [] dev after := by
  obtain ⟨objects,told⟩ := quiet.told
  exact ⟨fun mac vid => by simp [quiet.fdb],quiet.mode,⟨objects,told,fun _ member => (nomatch member)⟩,quiet.room⟩

theorem trans (first : Cleared hw entries dev after) (second : Cleared hw others after last) :
    Cleared hw (entries ++ others) dev last := by
  refine ⟨?_,second.mode.trans first.mode,?_,fun table before => second.room table (first.room table before)⟩
  · intro mac vid
    rw [second.fdb,first.fdb]
    simp only [mem_append,or_and_right,exists_or]
    by_cases now : hw.fdbDelete mac vid = true ∧ ∃ entry ∈ others, entry.1 = mac ∧ entry.2.vid = vid
    · rw [if_pos now,if_pos ⟨now.1,Or.inr now.2⟩]
    · rw [if_neg now]
      congr 1
      grind
  · obtain ⟨early,same,listed⟩ := first.told
    obtain ⟨late,ends,further⟩ := second.told
    refine ⟨early ++ late,by rw [← append_assoc,same,ends],fun entry member => ?_⟩
    rcases mem_append.mp member with member | member
    · exact mem_append_left late (listed entry member)
    · exact mem_append_right early (further entry member)

theorem fdbDel {now : HsrDevice} (before : dev.Quiet now) (quiet : (now.fdbDel hw mac stream.vid).Quiet after)
    (told : ∃ objects, dev.deleted ++ objects = after.deleted ∧ HwObject.streamIdentity stream.streamId ∈ objects) :
    Cleared hw [(mac,stream)] dev after := by
  obtain ⟨objects,same,listed⟩ := told
  refine ⟨fun station vlan => ?_,quiet.mode.trans ((fdbDel_mode _ _).trans before.mode),⟨objects,same,?_⟩,fun table room =>
    quiet.room table ((before.room table room).of_tables (fdbDel_tables _ _))⟩
  · rw [quiet.fdb,← before.fdb]
    unfold HsrDevice.fdbDel
    by_cases here : mac = station
    · subst here
      by_cases there : stream.vid = vlan
      · subst there
        split <;> simp [*]
      · split <;> simp [there,Ne.symm there]
    · split <;> simp [here,Ne.symm here]
  · exact fun entry member => mem_singleton.mp member ▸ listed

end Cleared

end HsrDevice

end Genavb.Hsr

/-! What deleting a stream, leaving mode N and deleting a node take away. -/
namespace Genavb.Hsr
open Genavb.Support
open Genavb.Maap (MacAddress)
open HsrDevice
open Option (elim_none elim_some)
open HwObject Quiet

variable {config : HsrPortConfig} {hw : Hardware}

namespace HsrNode

def entries (node : HsrNode) : List (MacAddress × HsrStream) := node.streams.map (node.mac,·)

section StreamDel
variable {node : HsrNode} {dev : HsrDevice} {vid : UInt16}

theorem streamDel_quiet : dev.Quiet (node.streamDel vid dev).2 := by
  unfold streamDel
  split
  · exact refl dev
  · exact (((refl dev).free _ _).delete _).dropFilterDel _

end StreamDel

section ModeN
variable {node : HsrNode} {dev : HsrDevice}

theorem modenClear_quiet : ∃ modenStream, (node.modenClear config dev).1 = {node with modenStream := modenStream} ∧
    dev.Quiet (node.modenClear config dev).2 := by
  unfold modenClear
  split
  · exact ⟨node.modenStream,rfl,refl dev⟩
  · refine List.foldlRecOn (motive := fun now : HsrNode × HsrDevice => ∃ modenStream,
      now.1 = {node with modenStream := modenStream} ∧ dev.Quiet now.2) _ _
      ⟨node.modenStream,rfl,refl dev⟩ fun now before stream _ => ?_
    have ports : ∃ modenStream, (modenClearPorts (List.range (config.ringPorts.length - 1)) now.1 now.2).1 =
        {node with modenStream := modenStream} ∧
        dev.Quiet (modenClearPorts (List.range (config.ringPorts.length - 1)) now.1 now.2).2 := by
      refine List.foldlRecOn (motive := fun now : HsrNode × HsrDevice => ∃ modenStream,
        now.1 = {node with modenStream := modenStream} ∧ dev.Quiet now.2) _ _ before fun now kept entry _ => ?_
      obtain ⟨modenStream,same,quiet⟩ := kept
      exact ⟨now.1.modenStream.set entry none,by rw [modenClearPort,same],(quiet.free _ _).delete _⟩
    obtain ⟨modenStream,same,quiet⟩ := ports
    exact ⟨modenStream,same,quiet.delete _⟩

end ModeN

section Del
variable {node : HsrNode} {dev : HsrDevice}

theorem generatorDel_quiet : dev.Quiet (node.generatorDel dev) := by
  unfold generatorDel
  split
  · exact refl dev
  · exact List.foldlRecOn (motive := dev.Quiet) _ _ (((refl dev).delete _).free _ _)
      fun now quiet stream _ => quiet.dropFilterDel stream.drop

theorem recoveryDel_quiet : dev.Quiet (node.recoveryDel config dev) := by
  unfold recoveryDel
  split
  · exact refl dev
  · exact ((refl dev).delete _).free _ _

theorem streamsDel_cleared (mac : MacAddress) (streams : List HsrStream) :
    Cleared hw (streams.map (mac,·)) dev (streamsDel hw mac streams dev) := by
  induction streams generalizing dev with
  | nil => exact Cleared.quiet (refl dev)
  | cons stream later ih =>
    have freed := ((refl dev).delete (.streamIdentity stream.streamId)).free .streamTable stream.streamId
    have first : Cleared hw [(mac,stream)] dev
        (((dev.delete (.streamIdentity stream.streamId)).tableIdFree .streamTable stream.streamId).fdbDel hw mac stream.vid) :=
      Cleared.fdbDel freed (refl _)
        ⟨[.streamIdentity stream.streamId],by rw [fdbDel_deleted]; rfl,List.mem_singleton_self _⟩
    exact first.trans ih

theorem del_cleared (node : HsrNode) (dev : HsrDevice) : Cleared hw node.entries dev (node.del config hw dev) := by
  have left : ∃ modenStream after, (if dev.mode = .n then node.modenClear config dev else (node,dev)) =
      ({node with modenStream := modenStream},after) ∧ dev.Quiet after := by
    split
    · obtain ⟨modenStream,same,quiet⟩ := @modenClear_quiet config node dev
      exact ⟨modenStream,_,Prod.ext same rfl,quiet⟩
    · exact ⟨node.modenStream,dev,rfl,refl dev⟩
  obtain ⟨modenStream,after,same,quiet⟩ := left
  have first : Cleared hw [] dev after := Cleared.quiet quiet
  generalize moden : ({node with modenStream := modenStream} : HsrNode) = left at same
  have listed : left.entries = node.entries := by rw [← moden]; rfl
  have streams : Cleared hw left.entries after (streamsDel hw left.mac left.streams after) :=
    streamsDel_cleared left.mac left.streams
  have whole := first.trans ((streams.trans (Cleared.quiet (@generatorDel_quiet left _))).trans
    (Cleared.quiet (@recoveryDel_quiet config left _)))
  unfold del
  rw [same]
  simpa [listed] using whole

end Del

end HsrNode

def HsrNode.without (vid : UInt16) (node : HsrNode) : HsrNode :=
  match node.streamidGetIndex vid with
  | none => node
  | some index => node.streamidDel index

namespace HsrNode
variable {node : HsrNode} {vid : UInt16} {dev : HsrDevice}

@[simp] theorem streamDel_node : (node.streamDel vid dev).1 = node.without vid := by
  unfold streamDel without
  cases node.streamidGetIndex vid <;> rfl

theorem without_same (vid : UInt16) (node : HsrNode) :
    ∃ streams spare, node.without vid = {node with streams := streams,spare := spare} := by
  unfold without
  split
  · exact ⟨node.streams,node.spare,rfl⟩
  next index _ => exact ⟨_,_,rfl⟩

@[simp] theorem without_mac : (node.without vid).mac = node.mac := by
  obtain ⟨streams,spare,same⟩ := without_same vid node
  rw [same]

end HsrNode

end Genavb.Hsr
