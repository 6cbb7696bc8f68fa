import Genavb.Srp.Mrp.Build

/-! Which packets a sequence of calls of the builder produces: a plan of packets, each filled
to capacity before the next, that `mrp_transmit_action` follows call by call. -/
namespace Genavb.Mrp
open Support List Option
open Option (getD_some isNone_some map_some toList_some)
open TxPort

def TxPort.leavesResidue (port : TxPort) : Bool :=
  !port.isDomain && 2 + port.attributeLength ≤ port.room % port.vectorLength

structure TxPlan where
  sent : List TxPacket
  current : Option (Bool × List TxAttribute)

namespace TxPlan

def start : TxPlan := ⟨[],none⟩

def add (port : TxPort) (call : TxCall) (plan : TxPlan) : TxPlan :=
  match plan.current,call.attr with
  | none,attr => {plan with current := some (call.leaveall,attr.toList)}
  | some _,none => plan
  | some (leaveall,attrs),some attr =>
    if attrs.length < port.capacity then {plan with current := some (leaveall,attrs ++ [attr])}
    else {
      sent := plan.sent ++ [⟨leaveall,attrs,if port.leavesResidue then some attr else none⟩]
      current := some (false,[attr])}

def packets (plan : TxPlan) : List TxPacket :=
  plan.sent ++ (plan.current.map fun (leaveall,attrs) => TxPacket.mk leaveall attrs none).toList

end TxPlan

def Holding (port : TxPort) (leaveall : Bool) (attrs : List TxAttribute) (sent : List (List UInt8))
    (mrpdu : MrpAttributeMrpdu) : Prop :=
  match attrs with
  | [] => Opened port [] (bareVector port leaveall.toNat) leaveall.toNat 0 sent mrpdu
  | _ :: _ => ∃ closed content leaveAllEvent, closed ++ content = vectors port leaveall attrs ∧
      Opened port closed content leaveAllEvent 1 sent mrpdu

def Follows (port : TxPort) (plan : TxPlan) (mrpdu : MrpAttributeMrpdu) : Prop :=
  match plan.current with
  | none => Idle (plan.sent.map (TxPacket.bytes port)) mrpdu
  | some (leaveall,attrs) => Holding port leaveall attrs (plan.sent.map (TxPacket.bytes port)) mrpdu

def TxPort.HoldsOne (port : TxPort) : Prop := 15 + port.headerLength + port.vectorLength + 4 ≤ port.mtu

section Builder
variable {port : TxPort} {closed content : List UInt8} {sent : List (List UInt8)} {mrpdu : MrpAttributeMrpdu}
  {leaveall : Bool} {attrs : List TxAttribute} {attr : TxAttribute}

theorem packet_started (least : port.HoldsOne) (idle : Idle sent mrpdu) :
    ∃ next, mrpMsgStart port 15 port.mtu (newPacket port mrpdu) = (next,true) ∧ Ready port [] sent next ∧
      next.vector.start = none := by
  unfold HoldsOne vectorLength at least
  have begun : (newPacket port mrpdu).desc = true ∧ (newPacket port mrpdu).len = 15 ∧
      (newPacket port mrpdu).sent = sent := ⟨rfl,rfl,idle.sent⟩
  obtain ⟨next,started,ready,vector⟩ := mrpMsgStart_ready (by omega) begun (frameHeader_written port)
  exact ⟨next,started,ready,by rw [vector]; exact idle.start⟩

private theorem first_added (valid : port.Valid) (least : port.HoldsOne) {leaveAllEvent : Nat}
    (value : attr.Valid port) (lva : leaveAllEvent = leaveall.toNat)
    (opened : Opened port [] (bareVector port leaveAllEvent) leaveAllEvent 0 sent mrpdu) :
    ∃ next, appVectorAddEvent port (15 + port.headerLength) attr
        (mrpVectorFirstValue (15 + port.headerLength) attr.val mrpdu) = (next,true) ∧
      Holding port leaveall [attr] sent next := by
  obtain ⟨next,added,holds⟩ := firstValue_added valid value opened least
  exact ⟨next,added,[],_,_,by simp [vectors,lva],holds⟩

private theorem transmitPass_idle (valid : port.Valid) (least : port.HoldsOne) (idle : Idle sent mrpdu)
    (attr : Option TxAttribute) (values : ∀ value, attr = some value → value.Valid port) (leaveall : Bool) :
    ∃ next, transmitPass port attr leaveall mrpdu = (next,false) ∧
      Holding port leaveall attr.toList sent next := by
  obtain ⟨message,started,ready,closed⟩ := packet_started least idle
  have room : 15 + port.headerLength + 0 + 2 + port.attributeLength + 4 ≤ port.mtu := by
    unfold HoldsOne vectorLength at least
    omega
  obtain ⟨bare,opening,opened⟩ := mrpVectorStart_opened ready room
  have marked : Opened port [] (bareVector port leaveall.toNat) leaveall.toNat 0 sent
      (if leaveall then mrpVectorLeaveallEvent (15 + port.headerLength) bare else bare) := by
    cases leaveall with
    | true => exact mrpVectorLeaveallEvent_opened opened
    | false => exact opened
  unfold transmitPass
  simp only [idle.desc,Bool.not_false,if_true,started,Bool.not_true,Bool.false_eq_true,if_false,closed,
    isNone_none,opening,opened.begun.start,getD_some,length_nil,Nat.add_zero]
  cases attr with
  | none => exact ⟨_,rfl,marked⟩
  | some attr =>
    obtain ⟨next,added,holding⟩ := first_added valid least (values attr rfl) rfl marked
    refine ⟨next,?_,holding⟩
    simp only [marked.number,ne_eq,not_true_eq_false,if_false,added,Bool.not_true,Bool.false_eq_true]

theorem transmitPass_first (valid : port.Valid) (least : port.HoldsOne) (value : attr.Valid port)
    (holding : Holding port leaveall [] sent mrpdu) :
    ∃ next, transmitPass port (some attr) false mrpdu = (next,false) ∧ Holding port leaveall [attr] sent next := by
  have opened : Opened port [] (bareVector port leaveall.toNat) leaveall.toNat 0 sent mrpdu := holding
  obtain ⟨next,added,more⟩ := first_added valid least value rfl opened
  refine ⟨next,?_,more⟩
  unfold transmitPass
  simp only [opened.begun.ready.desc,opened.begun.start,opened.number,Bool.not_true,Bool.false_eq_true,if_false,
    isNone_some,getD_some,length_nil,Nat.add_zero,ne_eq,not_true_eq_false,added]

private theorem transmitPass_next {leaveAllEvent : Nat} (plain : port.isDomain = false)
    (opened : Opened port closed content leaveAllEvent 1 sent mrpdu) :
    transmitPass port (some attr) false mrpdu =
      let mrpdu := vectorClosed false (15 + port.headerLength + closed.length) mrpdu
      let start := mrpdu.msg.msgEnd
      let (mrpdu,opened) := mrpVectorStart port start mrpdu.msg.endMax mrpdu
      if !opened then (mrpMsgError port mrpdu,true) else
      let (mrpdu,added) := appVectorAddEvent port start attr (mrpVectorFirstValue start attr.val mrpdu)
      if !added then (mrpMsgError port mrpdu,true) else (mrpdu,false) := by
  have notDomain : ¬ (port.app = .MSRP ∧ port.type = MSRP_ATTR_TYPE_DOMAIN) := by
    simpa [isDomain] using plain
  unfold transmitPass
  simp only [opened.begun.ready.desc,opened.begun.start,opened.number,Bool.not_true,Bool.false_eq_true,if_false,
    isNone_some,getD_some,ne_eq,Nat.one_ne_zero,not_false_eq_true,if_true,notDomain]

theorem transmitPass_append (valid : port.Valid) (value : attr.Valid port) (more : attrs ≠ [])
    (plain : port.isDomain = false) (holding : Holding port leaveall attrs sent mrpdu)
    (fits : 15 + port.headerLength + (vectors port leaveall attrs).length + port.vectorLength + 4 ≤ port.mtu) :
    ∃ next, transmitPass port (some attr) false mrpdu = (next,false) ∧
      Holding port leaveall (attrs ++ [attr]) sent next := by
  obtain ⟨first,rest,rfl⟩ := exists_cons_of_ne_nil more
  obtain ⟨closed,content,leaveAllEvent,contents,opened⟩ := holding
  have ready := vectorClosed_more opened.begun
  rw [contents] at ready
  obtain ⟨bare,opening,empty⟩ := mrpVectorStart_opened ready (by unfold vectorLength at fits; omega)
  obtain ⟨next,added,holds⟩ := firstValue_added valid value empty fits
  refine ⟨next,?_,vectors port leaveall (first :: rest),_,0,(vectors_snoc _ _ _ _ more).symm,holds⟩
  rw [transmitPass_next plain opened]
  simp only [opening]
  simp only [ready.msgEnd,added,Bool.not_true,Bool.false_eq_true,if_false]

theorem transmitPass_split (valid : port.Valid) (value : attr.Valid port) (more : attrs ≠ [])
    (holding : Holding port leaveall attrs sent mrpdu) (full : port.isDomain = false →
      port.mtu < 15 + port.headerLength + (vectors port leaveall attrs).length + port.vectorLength + 4)
    (least : 4 ≤ port.mtu) (residue : Option TxAttribute)
    (left : residue = if port.isDomain = false ∧ 15 + port.headerLength + (vectors port leaveall attrs).length +
      2 + port.attributeLength + 4 ≤ port.mtu then some attr else none) :
    ∃ next, transmitPass port (some attr) false mrpdu = (next,true) ∧
      Idle (sent ++ [TxPacket.bytes port ⟨leaveall,attrs,residue⟩]) next := by
  obtain ⟨first,rest,rfl⟩ := exists_cons_of_ne_nil more
  obtain ⟨closed,content,leaveAllEvent,contents,opened⟩ := holding
  cases domain : port.isDomain with
  | true =>
    have isDomain : port.app = .MSRP ∧ port.type = MSRP_ATTR_TYPE_DOMAIN := by
      simpa [isDomain] using domain
    simp only [domain,Bool.true_eq_false,false_and,if_false] at left
    subst left
    refine ⟨transmitEnd port mrpdu,?_,?_⟩
    · unfold transmitPass
      simp only [opened.begun.ready.desc,opened.begun.start,opened.number,Bool.not_true,Bool.false_eq_true,if_false,
        isNone_some,getD_some,ne_eq,Nat.one_ne_zero,not_false_eq_true,if_true,isDomain,and_self]
    · have ended := transmitEnd_begun opened.begun
      rw [← append_assoc,contents] at ended
      simpa [TxPacket.bytes,TxPacket.listBytes,residueBytes] using ended
  | false =>
    have ready := vectorClosed_more opened.begun
    rw [contents] at ready
    rw [transmitPass_next domain opened]
    by_cases started : 15 + port.headerLength + (vectors port leaveall (first :: rest)).length + 2 +
        port.attributeLength + 4 ≤ port.mtu
    · rw [if_pos ⟨domain,started⟩] at left
      subst left
      obtain ⟨bare,opening,empty⟩ := mrpVectorStart_opened ready started
      obtain ⟨next,refused,holds⟩ := firstValue_refused valid value empty (full domain) least
      refine ⟨mrpMsgError port next,?_,?_⟩
      · simp only [opening]
        simp only [ready.msgEnd,refused,Bool.not_true,Bool.not_false,Bool.false_eq_true,if_false,if_true]
      · have ended := mrpMsgError_begun holds.begun
        simpa [TxPacket.bytes,TxPacket.listBytes,residueBytes,mrpVectorHeader,u16Bytes] using ended
    · rw [if_neg (fun both => started both.2)] at left
      subst left
      obtain ⟨next,refused,begun⟩ := mrpVectorStart_full ready (Nat.lt_of_not_le started) least
      refine ⟨mrpMsgError port next,?_,?_⟩
      · simp only [refused,Bool.not_false,if_true]
      · simpa [TxPacket.bytes,TxPacket.listBytes,residueBytes] using mrpMsgError_begun begun

end Builder

section Plan
variable {port : TxPort} {plan : TxPlan} {mrpdu : MrpAttributeMrpdu}

private theorem vectorLength_pos (port : TxPort) : 0 < port.vectorLength := by
  unfold vectorLength
  omega

private theorem capacity_pos (least : port.HoldsOne) : 0 < port.capacity := by
  unfold capacity
  split
  · exact Nat.zero_lt_one
  · apply Nat.div_pos _ (vectorLength_pos port)
    unfold room
    unfold HoldsOne at least
    omega

theorem capacity_room (least : port.HoldsOne) (plain : port.isDomain = false) {n : Nat} (below : n < port.capacity) :
    15 + port.headerLength + n * port.vectorLength + port.vectorLength + 4 ≤ port.mtu := by
  simp only [capacity,plain,Bool.false_eq_true,if_false] at below
  have fits := (Nat.le_div_iff_mul_le (vectorLength_pos port)).mp below
  rw [Nat.succ_mul] at fits
  unfold room at fits
  unfold HoldsOne at least
  omega

theorem capacity_full (plain : port.isDomain = false) :
    port.mtu < 15 + port.headerLength + port.capacity * port.vectorLength + port.vectorLength + 4 := by
  simp only [capacity,plain,Bool.false_eq_true,if_false]
  have excess := Nat.lt_mul_div_succ port.room (vectorLength_pos port)
  rw [Nat.mul_succ,Nat.mul_comm] at excess
  generalize port.room / port.vectorLength * port.vectorLength = taken at excess ⊢
  unfold room at excess
  omega

private theorem residue_room (plain : port.isDomain = false) :
    15 + port.headerLength + port.capacity * port.vectorLength + 2 + port.attributeLength + 4 ≤ port.mtu ↔
      port.leavesResidue = true := by
  have split := Nat.div_add_mod port.room port.vectorLength
  simp only [capacity,leavesResidue,plain,Bool.false_eq_true,if_false,Bool.not_false,Bool.true_and,
    decide_eq_true_eq]
  rw [Nat.mul_comm] at split
  generalize port.room / port.vectorLength * port.vectorLength = taken at split ⊢
  unfold room at split ⊢
  omega

structure TxPacket.Sound (port : TxPort) (packet : TxPacket) : Prop where
  bound : packet.attrs.length ≤ port.capacity
  valid : ∀ attr ∈ packet.attrs, attr.Valid port
  filled : packet.attrs = [] → packet.leaveall = true
  residue : ∀ attr, packet.residue = some attr → port.leavesResidue = true ∧ packet.attrs ≠ [] ∧ attr.Valid port

def TxPlan.Sound (port : TxPort) (plan : TxPlan) : Prop := ∀ packet ∈ plan.packets, packet.Sound port

/-- A LeaveAll comes on the first call, and a call without LeaveAll has a value. -/
structure TxCall.Fits (port : TxPort) (plan : TxPlan) (call : TxCall) : Prop where
  valid : ∀ attr, call.attr = some attr → attr.Valid port
  some_value : call.attr = none → call.leaveall = true
  first : plan.current ≠ none → call.leaveall = false

theorem TxPlan.Sound.current (sound : plan.Sound port) {leaveall : Bool} {attrs : List TxAttribute}
    (opened : plan.current = some (leaveall,attrs)) : TxPacket.Sound port ⟨leaveall,attrs,none⟩ :=
  sound _ (by simp [TxPlan.packets,opened])

private theorem sound_one (least : port.HoldsOne) {leaveall : Bool} {attr : TxAttribute} (valid : attr.Valid port) :
    TxPacket.Sound port ⟨leaveall,[attr],none⟩ where
  bound := capacity_pos least
  valid := by simpa using valid
  filled := by simp
  residue := by simp

theorem TxPlan.Sound.add (least : port.HoldsOne) (sound : plan.Sound port) {call : TxCall}
    (fits : call.Fits port plan) : (plan.add port call).Sound port := by
  have sentSound : ∀ packet ∈ plan.sent, packet.Sound port := fun packet member =>
    sound packet (mem_append_left _ member)
  intro packet member
  unfold TxPlan.add at member
  split at member
  · rcases mem_append.mp member with old | new
    · exact sentSound packet old
    simp only [map_some,toList_some,mem_singleton] at new
    subst new
    cases value : call.attr with
    | none => exact ⟨by simp,by simp,fun _ => fits.some_value value,by simp⟩
    | some attr => exact sound_one least (fits.valid attr value)
  · exact sound packet member
  next leaveall attrs attr current value =>
    have kept := sound.current current
    have correct := fits.valid attr value
    split at member
    next below =>
      rcases mem_append.mp member with old | new
      · exact sentSound packet old
      simp only [map_some,toList_some,mem_singleton] at new
      subst new
      refine ⟨by rw [length_append]; exact below,?_,by simp,by simp⟩
      intro other added
      rcases mem_append.mp added with old | new
      · exact kept.valid other old
      · rw [mem_singleton.mp new]
        exact correct
    next above =>
      simp only [TxPlan.packets,map_some,toList_some,mem_append,mem_singleton] at member
      rcases member with (old | closed) | new
      · exact sentSound packet old
      · subst closed
        refine ⟨kept.bound,kept.valid,kept.filled,?_⟩
        intro other left
        cases leaves : port.leavesResidue with
        | false => simp [leaves] at left
        | true =>
          simp only [leaves,if_true,Option.some.injEq] at left
          refine ⟨rfl,?_,left ▸ correct⟩
          intro empty
          simp only at empty
          exact above (by rw [empty]; exact capacity_pos least)
      · subst new
        exact sound_one least correct

theorem transmitAction_follows (valid : port.Valid) (least : port.HoldsOne) (sound : plan.Sound port)
    {call : TxCall} (fits : call.Fits port plan) (follows : Follows port plan mrpdu) (fuel : Nat) :
    ∃ next, transmitAction port call.attr call.leaveall (fuel + 2) mrpdu = some next ∧
      Follows port (plan.add port call) next := by
  have single : ∀ next, transmitPass port call.attr call.leaveall mrpdu = (next,false) →
      transmitAction port call.attr call.leaveall (fuel + 2) mrpdu = some next := by
    intro next passed
    simp only [transmitAction,passed,Bool.false_eq_true,if_false]
  unfold Follows TxPlan.add
  unfold Follows at follows
  cases current : plan.current with
  | none =>
    simp only [current] at follows ⊢
    obtain ⟨next,passed,holding⟩ := transmitPass_idle valid least follows call.attr fits.valid call.leaveall
    exact ⟨next,single next passed,holding⟩
  | some packet =>
    obtain ⟨leaveall,attrs⟩ := packet
    have noLeaveAll := fits.first (by simp [current])
    obtain ⟨attr,value⟩ := ne_none_iff_exists'.mp fun none => by
      rw [fits.some_value none] at noLeaveAll
      exact Bool.noConfusion noLeaveAll
    have correct := fits.valid attr value
    rw [value,noLeaveAll] at single ⊢
    simp only [current] at follows ⊢
    have packet := sound.current current
    by_cases more : attrs = []
    · subst more
      rw [if_pos (show [].length < port.capacity from capacity_pos least)]
      obtain ⟨next,passed,holding⟩ := transmitPass_first valid least correct follows
      exact ⟨next,single next passed,holding⟩
    have size := vectors_length leaveall packet.valid more
    have nonempty := length_pos_iff.mpr more
    rcases Nat.lt_or_ge attrs.length port.capacity with below | above
    · rw [if_pos below]
      have plain : port.isDomain = false := by
        cases domain : port.isDomain with
        | false => rfl
        | true =>
          simp only [capacity,domain,if_true] at below
          omega
      obtain ⟨next,passed,holding⟩ := transmitPass_append valid correct more plain follows
        (by rw [size]; exact capacity_room least plain below)
      exact ⟨next,single next passed,holding⟩
    · rw [if_neg (Nat.not_lt.mpr above)]
      have filled : attrs.length = port.capacity := Nat.le_antisymm packet.bound above
      rw [filled] at size
      obtain ⟨middle,passed,idle⟩ := transmitPass_split valid correct more follows
        (fun plain => by rw [size]; exact capacity_full plain)
        (by unfold HoldsOne at least; omega)
        (if port.leavesResidue then some attr else none) (by
          rw [size]
          cases domain : port.isDomain with
          | true => simp [leavesResidue,domain]
          | false => simp only [true_and,residue_room domain])
      obtain ⟨next,again,holding⟩ := transmitPass_idle valid least idle (some attr)
        (fun other same => by rw [← Option.some.inj same]; exact correct) false
      refine ⟨next,?_,?_⟩
      · simp only [transmitAction,passed,again,Bool.false_eq_true,if_false,if_true]
      · simpa using holding

/-- The sequences of calls of one attribute type that `mrp.c` makes between two packets ends: each gives a
value or a LeaveAll, which comes first. -/
structure CallsValid (port : TxPort) (calls : List TxCall) : Prop where
  valid : ∀ call ∈ calls, ∀ attr, call.attr = some attr → attr.Valid port
  some_value : ∀ call ∈ calls, call.attr = none → call.leaveall = true
  first : ∀ call ∈ calls.tail, call.leaveall = false

def TxPlan.of (port : TxPort) (calls : List TxCall) : TxPlan :=
  calls.foldl (fun plan call => plan.add port call) .start

theorem TxPlan.start_sound (port : TxPort) : TxPlan.start.Sound port := by
  intro packet member
  simp [TxPlan.packets,TxPlan.start] at member

variable {calls : List TxCall}

theorem TxPlan.run (Inv : TxPlan → List TxCall → Prop) (correct : CallsValid port calls) (begin : Inv .start [])
    (step : ∀ plan before call, Inv plan before → call.Fits port plan → Inv (plan.add port call) (before ++ [call])) :
    Inv (.of port calls) calls := by
  induction calls using List.reverseRecOn with
  | nil => exact begin
  | append_singleton before call ih =>
    have earlier : CallsValid port before := by
      refine ⟨fun other member => correct.valid other (mem_append_left _ member),
        fun other member => correct.some_value other (mem_append_left _ member),fun other member => ?_⟩
      apply correct.first
      cases before with
      | nil => exact absurd member (by simp)
      | cons head rest => exact mem_append_left _ member
    have fits : call.Fits port (.of port before) := by
      refine ⟨correct.valid call (by simp),correct.some_value call (by simp),fun opened => ?_⟩
      apply correct.first
      cases before with
      | nil => exact absurd rfl opened
      | cons head rest => simp
    have next := step _ before call (ih earlier) fits
    simpa [TxPlan.of] using next

theorem TxPlan.of_sound (least : port.HoldsOne) (correct : CallsValid port calls) :
    (TxPlan.of port calls).Sound port :=
  TxPlan.run (fun plan _ => plan.Sound port) correct (TxPlan.start_sound port)
    fun _ _ _ sound fits => sound.add least fits

theorem transmitActions_append (fuel : Nat) (first second : List TxCall) (mrpdu : MrpAttributeMrpdu) :
    transmitActions port fuel (first ++ second) mrpdu =
      (transmitActions port fuel first mrpdu).bind (transmitActions port fuel second) := by
  induction first generalizing mrpdu with
  | nil => rfl
  | cons call rest ih =>
    simp only [cons_append,transmitActions,bind_eq_bind]
    cases transmitAction port call.attr call.leaveall fuel mrpdu with
    | none => rfl
    | some next => exact ih next

theorem transmitActions_follows (valid : port.Valid) (least : port.HoldsOne)
    (correct : CallsValid port calls) (fuel : Nat) :
    ∃ next, transmitActions port (fuel + 2) calls (.cleared port) = some next ∧
      Follows port (.of port calls) next := by
  have run := TxPlan.run (fun plan calls => plan.Sound port ∧
    ∃ next, transmitActions port (fuel + 2) calls (.cleared port) = some next ∧ Follows port plan next) correct
    ⟨TxPlan.start_sound port,.cleared port,rfl,rfl,rfl,rfl⟩
    (by
      intro plan before call ⟨sound,mrpdu,done,follows⟩ fits
      obtain ⟨next,taken,more⟩ := transmitAction_follows valid least sound fits follows fuel
      refine ⟨sound.add least fits,next,?_,more⟩
      simp [transmitActions_append,done,transmitActions,taken])
  exact run.2

theorem transmitEnd_follows (follows : Follows port plan mrpdu) :
    (transmitEnd port mrpdu).sent = plan.packets.map (TxPacket.bytes port) := by
  unfold Follows at follows
  unfold TxPlan.packets
  cases current : plan.current with
  | none =>
    simp only [current] at follows
    simp [transmitEnd,follows.desc,follows.sent]
  | some packet =>
    obtain ⟨leaveall,attrs⟩ := packet
    simp only [current] at follows
    have ended : ∃ closed content, closed ++ content = vectors port leaveall attrs ∧
        Begun port closed content (plan.sent.map (TxPacket.bytes port)) mrpdu := by
      cases attrs with
      | nil => exact ⟨[],_,rfl,follows.begun⟩
      | cons first rest =>
        obtain ⟨closed,content,_,contents,opened⟩ := follows
        exact ⟨closed,content,contents,opened.begun⟩
    obtain ⟨closed,content,contents,begun⟩ := ended
    rw [(transmitEnd_begun begun).sent,← append_assoc,contents]
    simp [TxPacket.bytes,TxPacket.listBytes,residueBytes]

theorem transmit_plan (valid : port.Valid) (least : port.HoldsOne) (correct : CallsValid port calls) (fuel : Nat) :
    transmit port (fuel + 2) calls = some ((TxPlan.of port calls).packets.map (TxPacket.bytes port)) := by
  obtain ⟨next,done,follows⟩ := transmitActions_follows valid least correct fuel
  rw [transmit,done,map_some,transmitEnd_follows follows]

def callValues (calls : List TxCall) : List TxAttribute := calls.filterMap TxCall.attr

def TxPort.Boundary (port : TxPort) (j : Nat) : Prop := 0 < j ∧ port.capacity ∣ j

/-- How a plan stands to the values it was given: which of them started a packet after a full one. -/
structure Tracks (port : TxPort) (plan : TxPlan) (values : List TxAttribute) : Prop where
  count : values.length = plan.sent.length * port.capacity + (plan.current.map fun packet => packet.2.length).getD 0
  begun : plan.sent ≠ [] → ∃ leaveall attrs, plan.current = some (leaveall,attrs) ∧ attrs ≠ []
  residues : ∀ attr, (∃ packet ∈ plan.sent, packet.residue = some attr) ↔
    port.leavesResidue = true ∧ ∃ j, port.Boundary j ∧ values[j]? = some attr

private theorem boundary_snoc (port : TxPort) (values : List TxAttribute) (attr other : TxAttribute) :
    (∃ j, port.Boundary j ∧ (values ++ [attr])[j]? = some other) ↔
      (∃ j, port.Boundary j ∧ values[j]? = some other) ∨ port.Boundary values.length ∧ other = attr := by
  constructor
  · intro ⟨j,boundary,found⟩
    by_cases inside : j < values.length
    · rw [List.getElem?_append_left inside] at found
      exact .inl ⟨j,boundary,found⟩
    · rw [List.getElem?_append_right (Nat.le_of_not_lt inside)] at found
      obtain ⟨last,same⟩ := List.getElem?_eq_some_iff.mp found
      have here : j = values.length := by
        simp only [length_singleton] at last
        omega
      subst here
      exact .inr ⟨boundary,by simpa using same.symm⟩
  · rintro (⟨j,boundary,found⟩ | ⟨boundary,rfl⟩)
    · have inside := (List.getElem?_eq_some_iff.mp found).1
      exact ⟨j,boundary,by rw [List.getElem?_append_left inside]; exact found⟩
    · exact ⟨values.length,boundary,by simp⟩

theorem Tracks.add (least : port.HoldsOne) (sound : plan.Sound port) {values : List TxAttribute}
    (tracks : Tracks port plan values) (call : TxCall) :
    Tracks port (plan.add port call) (values ++ call.attr.toList) := by
  have positive := capacity_pos least
  have count := tracks.count
  unfold TxPlan.add
  split
  next current =>
    have unsent : plan.sent = [] := by
      by_contra sent
      obtain ⟨leaveall,attrs,opened,_⟩ := tracks.begun sent
      simp [current] at opened
    have unvalued : values = [] := by
      simpa [unsent,current] using count
    subst unvalued
    refine ⟨by simp [unsent],fun sent => absurd unsent sent,?_⟩
    intro attr
    constructor
    · intro ⟨packet,member,_⟩
      simp [unsent] at member
    · intro ⟨_,j,⟨above,_⟩,found⟩
      have inside := (List.getElem?_eq_some_iff.mp found).1
      cases value : call.attr with
      | none => simp [value] at inside
      | some attr =>
        simp [value] at inside
        omega
  next value => simpa [value] using tracks
  next leaveall attrs attr current value =>
    have bound := (sound.current current).bound
    simp only [current,map_some,getD_some] at count
    simp only [value,toList_some]
    split
    next below =>
      have inside : ¬ port.Boundary values.length := by
        intro ⟨above,divides⟩
        rw [count] at divides
        have short : port.capacity ∣ attrs.length := (Nat.dvd_add_right (Nat.dvd_mul_left _ _)).mp divides
        have empty : attrs.length = 0 := Nat.eq_zero_of_dvd_of_lt short below
        by_cases sent : plan.sent = []
        · simp [sent,empty] at count
          simp [count] at above
        · obtain ⟨_,_,opened,more⟩ := tracks.begun sent
          rw [current] at opened
          obtain ⟨_,rfl⟩ := Prod.mk.inj (Option.some.inj opened)
          exact more (length_eq_zero_iff.mp empty)
      refine ⟨?_,fun _ => ⟨leaveall,attrs ++ [attr],rfl,by simp⟩,?_⟩
      · simp [count]
        omega
      · intro other
        rw [tracks.residues other]
        rw [boundary_snoc]
        simp only [inside,false_and,or_false]
    next above =>
      have filled : attrs.length = port.capacity := Nat.le_antisymm bound (Nat.le_of_not_lt above)
      have boundary : port.Boundary values.length := by
        rw [Boundary,count,filled]
        exact ⟨Nat.add_pos_right _ positive,Nat.dvd_add (Nat.dvd_mul_left _ _) (Nat.dvd_refl _)⟩
      refine ⟨?_,fun _ => ⟨false,[attr],rfl,by simp⟩,?_⟩
      · simp [count,filled,Nat.add_mul]
      · intro other
        rw [boundary_snoc]
        simp only [mem_append,mem_singleton,or_and_right,exists_or,exists_eq_left,tracks.residues other,
          boundary,true_and,and_or_left]
        cases leaves : port.leavesResidue <;> simp [eq_comm]

theorem TxPlan.of_tracks (least : port.HoldsOne) (correct : CallsValid port calls) :
    Tracks port (.of port calls) (callValues calls) := by
  have run := TxPlan.run (fun plan calls => plan.Sound port ∧ Tracks port plan (callValues calls)) correct
    ⟨TxPlan.start_sound port,by simp [callValues,TxPlan.start],by simp [TxPlan.start],
      by simp [TxPlan.start,callValues]⟩
    (by
      intro plan before call ⟨sound,tracks⟩ fits
      have added := tracks.add least sound call
      refine ⟨sound.add least fits,?_⟩
      cases value : call.attr <;> simpa [callValues,value] using added)
  exact run.2

theorem vectors_room (least : port.HoldsOne) {packet : TxPacket} (sound : packet.Sound port) :
    (vectors port packet.leaveall packet.attrs).length ≤ port.room := by
  have one : port.vectorLength ≤ port.room := by
    unfold room
    unfold HoldsOne at least
    omega
  by_cases empty : packet.attrs = []
  · rw [empty]
    refine Nat.le_trans ?_ one
    simp [vectors,bareVector,vectorLength]
  rw [vectors_length _ sound.valid empty]
  have bound := sound.bound
  unfold capacity at bound
  split at bound
  · exact Nat.le_trans (Nat.mul_le_mul_right _ bound) (by rwa [Nat.one_mul])
  · exact (Nat.le_div_iff_mul_le (vectorLength_pos port)).mp bound

theorem bytes_length (port : TxPort) (packet : TxPacket) :
    (packet.bytes port).length = 15 + port.headerLength + (vectors port packet.leaveall packet.attrs).length +
      (residueBytes port packet.residue).length + 4 := by
  simp [TxPacket.bytes,frameBytes,TxPacket.listBytes]
  omega

theorem bytes_mtu (least : port.HoldsOne) {packet : TxPacket} (sound : packet.Sound port) :
    (packet.bytes port).length ≤ port.mtu := by
  rw [bytes_length]
  have inRoom := vectors_room least sound
  unfold room at inRoom
  cases left : packet.residue with
  | none =>
    unfold HoldsOne at least
    simp only [residueBytes,length_nil]
    omega
  | some attr =>
    obtain ⟨leaves,more,valid⟩ := sound.residue attr left
    have plain : port.isDomain = false := by
      cases domain : port.isDomain with
      | false => rfl
      | true => simp [leavesResidue,domain] at leaves
    have fits := (residue_room plain).mpr leaves
    have most := Nat.mul_le_mul_right port.vectorLength sound.bound
    rw [vectors_length _ sound.valid more]
    simp only [residueBytes,length_append,length_cons,length_nil,firstValue_length valid]
    omega

end Plan

end Genavb.Mrp
