import Genavb.Srp.Mrp.Transmit
import Genavb.Srp.Mrp.Receive
import Mathlib.Data.List.Forall2

/-! Agreement of the packet builder and the parser: what a sequence of transmit actions was
given is what the receiver of its packets is handed, unless a packet ends with the firstValue
of a vector that was taken back and the parser finds something in it. -/
namespace Genavb.Mrp
open Support TxPlan TxPacket List

def TxCall.items (port : TxPort) (call : TxCall) : List Delivery :=
  leaveAllItems port call.leaveall ++ call.attr.toList.map (TxAttribute.item port)

def Delivers (app : SrpApp) (pdu : List UInt8) (delivered : List Delivery) : Prop :=
  ∀ memory, Written memory 0 pdu → mrpProcessPacket app true memory pdu.length = (delivered,some true)

/-- The frames fit the MTU, and their receiver is handed what the calls were given. -/
def Agrees (port : TxPort) (calls : List TxCall) (pdus : List (List UInt8)) : Prop :=
  (∀ pdu ∈ pdus, pdu.length ≤ port.mtu) ∧
  ∃ deliveries, List.Forall₂ (Delivers port.app) pdus deliveries ∧
    deliveries.flatten = calls.flatMap (TxCall.items port)

/-- The firstValue of an attribute, followed by end marks, reads as nothing. -/
def Silent (port : TxPort) (attr : TxAttribute) : Prop :=
  ∀ memory, Written memory 0 (firstValue port attr ++ [0,0,0,0]) →
    Quiet port.app memory (port.attributeLength + 4) (mrpGetNextMessage memory (port.attributeLength + 4) 0)

section Plan
variable {port : TxPort} {plan : TxPlan}

theorem TxPlan.add_items {call : TxCall} (fits : call.Fits port plan) :
    (plan.add port call).packets.flatMap (items port) =
      plan.packets.flatMap (items port) ++ call.items port := by
  unfold add
  split
  next current => simp [packets,current,items,TxCall.items]
  next leaveall attrs current none =>
    have noLeaveAll := fits.first (by simp [current])
    rw [fits.some_value none] at noLeaveAll
    exact Bool.noConfusion noLeaveAll
  next leaveall attrs attr current value =>
    have noLeaveAll := fits.first (by simp [current])
    split <;>
      simp [packets,current,items,TxCall.items,value,noLeaveAll,leaveAllItems]

theorem TxPlan.of_items {calls : List TxCall} (correct : CallsValid port calls) :
    (of port calls).packets.flatMap (items port) = calls.flatMap (TxCall.items port) := by
  apply run (fun plan calls => plan.packets.flatMap (items port) = calls.flatMap (TxCall.items port))
    correct
  · rfl
  · intro plan before call given fits
    rw [add_items fits,given]
    simp

end Plan

section Packet
variable {port : TxPort} {packet : TxPacket}

private theorem residueTail_length {attr : TxAttribute} (value : attr.Valid port) :
    (residueTail port (some attr)).length = port.attributeLength + 4 := by
  simp [residueTail,firstValue_length value]

private theorem quiet_moved {app : SrpApp} {memory : Memory} {length header packetEnd : Nat}
    (place : packetEnd = length + header) :
    Quiet app memory packetEnd (mrpGetNextMessage memory packetEnd header) ↔
      Quiet app (fun i => memory (i + header)) length (mrpGetNextMessage (fun i => memory (i + header)) length 0) := by
  have moved : mrpGetNextMessage memory (length + header) (0 + header) =
      (mrpGetNextMessage (fun i => memory (i + header)) length 0).shift header := mrpGetNextMessage_shift header 0
  rw [Nat.zero_add] at moved
  rw [place,moved,quiet_shift]

theorem bytes_tail (port : TxPort) (packet : TxPacket) :
    ∃ front, packet.bytes port = front ++ residueTail port packet.residue := by
  refine ⟨frameHeader port ++ (messageHeader port (packet.listBytes port).length ++
    (vectors port packet.leaveall packet.attrs ++ [0,0])),?_⟩
  have tail := listBytes_tail port packet
  simp only [bytes,frameBytes,tail]
  simp

theorem store_before (front : List UInt8) (memory : Memory) :
    (fun i => store 0 front (fun i => memory (i - front.length)) (i + front.length)) = memory := by
  funext i
  simp [store]

theorem delivers_silent (valid : port.Valid) (sound : packet.Sound port) (small : (packet.bytes port).length < 65536)
    (silent : ∀ attr, packet.residue = some attr → Silent port attr) :
    Delivers port.app (packet.bytes port) (packet.items port) := by
  intro memory written
  obtain ⟨header,fuel,enough,tail,place,processed⟩ :=
    mrpProcessPacket_packet valid sound.valid sound.filled small written
  have ended : parseLoop port.app false memory (packet.bytes port).length fuel
      (mrpGetNextMessage memory (packet.bytes port).length header) = ([],some true) := by
    rw [← place]
    cases left : packet.residue with
    | none =>
      simp only [left,residueTail] at tail ⊢
      have mark : u16At memory header = 0 := u16At_written (by decide) tail
      unfold mrpGetNextMessage
      rw [if_neg (by simp),if_pos mark,parseLoop_finish]
    | some attr =>
      obtain ⟨_,_,value⟩ := sound.residue attr left
      rw [left] at tail enough
      have here : Written (fun i => memory (i + header)) 0 (residueTail port (some attr)) := by
        intro i byte found
        simpa [Nat.add_comm] using tail i byte found
      have quiet := silent attr left _ here
      rw [residueTail_length value] at enough ⊢
      exact parse_of_quiet ((quiet_moved (Nat.add_comm _ _)).mpr quiet) (mrpGetNextMessage_within (by omega))
  rw [processed,ended]
  simp

private theorem delivers_only (valid : port.Valid) (sound : packet.Sound port) (small : (packet.bytes port).length < 65536)
    {delivered : List Delivery} (delivers : Delivers port.app (packet.bytes port) delivered) :
    (packet.items port).length ≤ delivered.length ∧
      (delivered.length = (packet.items port).length → ∀ attr, packet.residue = some attr → Silent port attr) := by
  constructor
  · have written := written_store 0 (packet.bytes port) (fun _ => 0)
    obtain ⟨header,fuel,_,_,_,processed⟩ := mrpProcessPacket_packet valid sound.valid sound.filled small written
    rw [delivers _ written] at processed
    rw [(Prod.mk.inj processed).1]
    simp
  · intro exact_length attr left memory here
    obtain ⟨_,_,value⟩ := sound.residue attr left
    obtain ⟨front,split⟩ := bytes_tail port packet
    have behind := store_before front memory
    have written : Written (store 0 front (fun i => memory (i - front.length))) 0 (packet.bytes port) := by
      rw [split,left]
      refine written_append.mpr ⟨written_store _ _ _,?_⟩
      intro i byte found
      rw [Nat.zero_add,Nat.add_comm,congrFun behind i]
      simpa using here i byte found
    obtain ⟨header,fuel,_,_,place,processed⟩ := mrpProcessPacket_packet valid sound.valid sound.filled small written
    rw [delivers _ written] at processed
    obtain ⟨all,accepted⟩ := Prod.mk.inj processed
    have silent := congrArg List.length all
    rw [length_append,exact_length] at silent
    have total := congrArg List.length split
    rw [length_append] at total
    have same : header = front.length := by omega
    rw [left,residueTail_length value] at place
    have quiet := quiet_of_parse (mrpGetNextMessage_checked header)
      (Prod.ext (eq_nil_of_length_eq_zero (by omega)) accepted.symm)
    rw [quiet_moved (by rw [← place,Nat.add_comm]),same,behind] at quiet
    exact quiet

end Packet

section Transmission
variable {port : TxPort} {calls : List TxCall}

theorem lengths_exact {R : TxPacket → List Delivery → Prop} {packets : List TxPacket}
    {deliveries : List (List Delivery)} (each : List.Forall₂ R packets deliveries)
    (least : ∀ packet delivered, R packet delivered → (packet.items port).length ≤ delivered.length)
    (total : deliveries.flatten.length = (packets.flatMap (items port)).length) :
    List.Forall₂ (fun packet delivered => R packet delivered ∧ delivered.length = (packet.items port).length)
      packets deliveries := by
  have sums : ∀ {packets : List TxPacket} {deliveries : List (List Delivery)}, List.Forall₂ R packets deliveries →
      (packets.flatMap (items port)).length ≤ deliveries.flatten.length := by
    intro packets deliveries each
    induction each with
    | nil => exact Nat.le_refl _
    | cons first rest ih =>
      have own := least _ _ first
      simp only [flatMap_cons,flatten_cons,length_append]
      omega
  induction each with
  | nil => exact .nil
  | cons first rest ih =>
    have own := least _ _ first
    have others := sums rest
    simp only [flatMap_cons,flatten_cons,length_append] at total
    exact .cons ⟨first,by omega⟩ (ih (by omega))

theorem agrees_packets (valid : port.Valid) (least : port.HoldsOne) (small : port.mtu ≤ 65535)
    (correct : CallsValid port calls) :
    Agrees port calls ((of port calls).packets.map (bytes port)) ↔
      ∀ packet ∈ (of port calls).packets, ∀ attr, packet.residue = some attr → Silent port attr := by
  have sound := of_sound least correct
  have short : ∀ packet ∈ (of port calls).packets, (packet.bytes port).length < 65536 := by
    intro packet member
    have fits := bytes_mtu least (sound packet member)
    omega
  constructor
  · intro ⟨_,deliveries,each,given⟩
    rw [forall₂_map_left_iff] at each
    rw [← of_items correct] at given
    have known := (forall₂_and_left _ _).mpr ⟨fun packet member => And.intro (sound packet member) (short packet member),
      each⟩
    have exact_lengths := lengths_exact known
      (fun packet delivered both => (delivers_only valid both.1.1 both.1.2 both.2).1) (congrArg List.length given)
    have silent : List.Forall₂ (fun packet _ => (∀ attr, packet.residue = some attr → Silent port attr) ∧ True)
        (of port calls).packets deliveries :=
      exact_lengths.imp fun packet delivered both =>
        ⟨(delivers_only valid both.1.1.1 both.1.1.2 both.1.2).2 both.2,trivial⟩
    exact ((forall₂_and_left _ _).mp silent).1
  · intro silent
    refine ⟨?_,(of port calls).packets.map (items port),?_,?_⟩
    · intro pdu member
      obtain ⟨packet,inside,rfl⟩ := mem_map.mp member
      exact bytes_mtu least (sound packet inside)
    · rw [forall₂_map_left_iff,forall₂_map_right_iff,forall₂_same]
      exact fun packet member => delivers_silent valid (sound packet member) (short packet member) (silent packet member)
    · rw [← flatMap_def,of_items correct]

private theorem residues_boundary (least : port.HoldsOne) (correct : CallsValid port calls) (attr : TxAttribute) :
    (∃ packet ∈ (of port calls).packets, packet.residue = some attr) ↔
      port.leavesResidue = true ∧ ∃ j, port.Boundary j ∧ (callValues calls)[j]? = some attr := by
  rw [← (of_tracks least correct).residues attr]
  constructor
  · intro ⟨packet,member,left⟩
    rcases mem_append.mp member with sent | current
    · exact ⟨packet,sent,left⟩
    · cases opened : (of port calls).current <;> simp [opened] at current
      simp [current] at left
  · intro ⟨packet,sent,left⟩
    exact ⟨packet,mem_append_left _ sent,left⟩

private theorem plan_agrees (valid : port.Valid) (least : port.HoldsOne) (small : port.mtu ≤ 65535)
    (correct : CallsValid port calls) :
    Agrees port calls ((of port calls).packets.map (bytes port)) ↔
      (port.leavesResidue = true →
        ∀ j attr, port.Boundary j → (callValues calls)[j]? = some attr → Silent port attr) := by
  rw [agrees_packets valid least small correct]
  constructor
  · intro silent leaves j attr boundary found
    obtain ⟨packet,member,left⟩ := (residues_boundary least correct attr).mpr ⟨leaves,j,boundary,found⟩
    exact silent packet member attr left
  · intro silent packet member attr left
    obtain ⟨leaves,j,boundary,found⟩ := (residues_boundary least correct attr).mp ⟨packet,member,left⟩
    exact silent leaves j attr boundary found

theorem silent_short {attr : TxAttribute} (short : port.attributeLength ≤ 8)
    {first second : UInt8} {rest : List UInt8} (starts : firstValue port attr = first :: second :: rest) :
    Silent port attr ↔ first = 0 ∧ second = 0 := by
  have word : ∀ memory, Written memory 0 (firstValue port attr ++ [0,0,0,0]) → (u16At memory 0 = 0 ↔ first = 0 ∧ second = 0) := by
    intro memory written
    rw [starts] at written
    unfold u16At
    rw [written 0 first (by simp),written 1 second (by simp),← UInt8.toNat_inj,← UInt8.toNat_inj]
    simp only [UInt8.toNat_zero]
    omega
  constructor
  · intro silent
    have written := written_store 0 (firstValue port attr ++ [0,0,0,0]) (fun _ => 0)
    have quiet := silent _ written
    generalize store 0 (firstValue port attr ++ [0,0,0,0]) (fun _ => 0) = memory at written quiet
    apply (word memory written).mp
    by_contra started
    unfold mrpGetNextMessage at quiet
    rw [if_neg (by omega),if_neg started,if_neg (by omega)] at quiet
    cases quiet with
    | message _ _ _ fits rest =>
      cases rest with
      | vector _ _ _ _ inside => omega
  · intro zero memory written
    unfold mrpGetNextMessage
    rw [if_neg (by omega),if_pos ((word memory written).mpr zero)]
    exact .accepted

/-- The packets of a sequence of transmit actions agree with what their receiver is handed exactly
when no value that starts a packet leaves a firstValue that the parser finds something in. -/
theorem mrpdu_agreement (port : TxPort) (calls : List TxCall) (valid : port.Valid) (least : port.HoldsOne)
    (small : port.mtu ≤ 65535) (correct : CallsValid port calls) :
    ∃ pdus, (∀ fuel, 2 ≤ fuel → transmit port fuel calls = some pdus) ∧
      (Agrees port calls pdus ↔
        (port.leavesResidue = true →
          ∀ j attr, port.Boundary j → (callValues calls)[j]? = some attr → Silent port attr)) := by
  refine ⟨(of port calls).packets.map (bytes port),?_,plan_agrees valid least small correct⟩
  intro fuel enough
  obtain ⟨more,rfl⟩ := Nat.exists_eq_add_of_le enough
  rw [Nat.add_comm]
  exact transmit_plan valid least correct more

end Transmission

def mvrpPort : TxPort := ⟨.MVRP,MVRP_ATTR_TYPE_VID,1500,fun _ => 0⟩

theorem mrpdu_agreement_leaveall :
    ∃ pdus, (∀ fuel, 2 ≤ fuel →
        transmit mvrpPort fuel [⟨none,true⟩,⟨some ⟨[0,5],.JOININ⟩,false⟩] = some pdus) ∧
      (Agrees mvrpPort [⟨none,true⟩,⟨some ⟨[0,5],.JOININ⟩,false⟩] pdus ↔
        (mvrpPort.leavesResidue = true → ∀ j attr, mvrpPort.Boundary j →
          (callValues [⟨none,true⟩,⟨some ⟨[0,5],.JOININ⟩,false⟩])[j]? = some attr → Silent mvrpPort attr)) :=
  mrpdu_agreement mvrpPort [⟨none,true⟩,⟨some ⟨[0,5],.JOININ⟩,false⟩] rfl (by unfold TxPort.HoldsOne; decide) (by decide)
    ⟨by simp [TxAttribute.Valid,mvrpPort,SrpApp.attributeValueLength],by simp,by simp⟩

def vlanCalls : List TxCall := (List.range 296).map fun i => ⟨some ⟨u16Bytes (i + 1),.JOININ⟩,false⟩

/-- The first packet ends with the identifier 296, which does not read as an end mark. -/
theorem mrpdu_residue_refused :
    mvrpPort.Valid ∧ mvrpPort.HoldsOne ∧ mvrpPort.mtu ≤ 65535 ∧ CallsValid mvrpPort vlanCalls ∧
      ∀ fuel pdus, 2 ≤ fuel → transmit mvrpPort fuel vlanCalls = some pdus → ¬ Agrees mvrpPort vlanCalls pdus := by
  have valid : mvrpPort.Valid := rfl
  have least : mvrpPort.HoldsOne := by
    unfold TxPort.HoldsOne
    decide
  have correct : CallsValid mvrpPort vlanCalls := by
    refine ⟨?_,?_,?_⟩
    · intro call member attr value
      obtain ⟨i,_,rfl⟩ := mem_map.mp member
      obtain rfl := Option.some.inj value
      exact ⟨rfl,fun msrp => SrpApp.noConfusion msrp⟩
    · intro call member none
      obtain ⟨i,_,rfl⟩ := mem_map.mp member
      exact absurd none (Option.some_ne_none _)
    · intro call member
      obtain ⟨i,_,rfl⟩ := mem_map.mp (mem_of_mem_tail member)
      rfl
  refine ⟨valid,least,by decide,correct,?_⟩
  intro fuel pdus enough sent agrees
  obtain ⟨more,rfl⟩ := Nat.exists_eq_add_of_le enough
  rw [Nat.add_comm,transmit_plan valid least correct more] at sent
  obtain rfl := Option.some.inj sent
  have silent := (plan_agrees valid least (by decide) correct).mp agrees (by decide) 295 ⟨[1,40],.JOININ⟩
    ⟨by decide,by decide⟩ (by simp [callValues,vlanCalls,u16Bytes])
  have zero := (silent_short (by decide) rfl).mp silent
  exact absurd zero.1 (by decide)

end Genavb.Mrp
