import Genavb.Srp.Mrp.Transmit
import Genavb.Srp.Mrp.Restart

/-! PDUs after a restart. `mrp_disable` frees the attributes and stops the timers, but an MRPDU
that was begun stays; without one, what is transmitted after the enable is what an application
transmits that is initialised at that moment. -/
namespace Genavb.Mrp
open Support MrpConfig Option

theorem mrpMsgStart_new (port : TxPort) : ∃ data msg opened,
    (∀ mrpdu, mrpMsgStart port 15 port.mtu (newPacket port mrpdu) =
      ({newPacket port mrpdu with data := data, msg := msg},opened)) ∧
    (opened = false → msg.start = msg.msgEnd) ∧ (opened = true → msg.start < msg.msgEnd) := by
  let header := store 14 [port.app.protoVersion] (netAddEthHeader port.app port.fresh)
  let type := UInt8.ofNat port.type
  let length := UInt8.ofNat (port.app.attributeLength port.type)
  cases list : port.app.hasAttributeListLength with
  | true =>
    by_cases room : 15 + 4 > port.mtu - 2
    · exact ⟨header,⟨15,15,15,port.mtu - 2⟩,false,
        fun mrpdu => by simp only [mrpMsgStart,list,if_true,room]; rfl,fun _ => rfl,nofun⟩
    · exact ⟨store 15 [type,length,0,0] header,⟨15,19,19,port.mtu - 2⟩,true,
        fun mrpdu => by simp only [mrpMsgStart,list,if_true,room,if_false]; rfl,nofun,fun _ => (by decide : 15 < 19)⟩
  | false =>
    by_cases room : 15 + 2 > port.mtu - 2
    · exact ⟨header,⟨15,15,15,port.mtu - 2⟩,false,
        fun mrpdu => by simp only [mrpMsgStart,list,Bool.false_eq_true,if_false,room,if_true]; rfl,fun _ => rfl,nofun⟩
    · exact ⟨store 15 [type,length] header,⟨15,17,17,port.mtu - 2⟩,true,
        fun mrpdu => by simp only [mrpMsgStart,list,Bool.false_eq_true,if_false,room]; rfl,nofun,
        fun _ => (by decide : 15 < 17)⟩

theorem transmitEnd_idle {port : TxPort} {mrpdu : MrpAttributeMrpdu} (begun : mrpdu.desc = true) :
    (transmitEnd port mrpdu).desc = false ∧ (transmitEnd port mrpdu).vector.start = none := by
  unfold transmitEnd
  simp only [begun,Bool.not_true,Bool.false_eq_true,if_false]
  cases start : mrpdu.vector.start with
  | none => exact ⟨trivial,start⟩
  | some first => exact ⟨trivial,rfl⟩

def Alike (mrpdu other : MrpAttributeMrpdu) : Prop :=
  mrpdu = other ∨ Idle other.sent mrpdu ∧ Idle other.sent other

namespace Alike
variable {port : TxPort} {mrpdu other : MrpAttributeMrpdu}

section
variable (alike : Alike mrpdu other)
include alike

theorem sent : mrpdu.sent = other.sent := by
  rcases alike with rfl | ⟨idle,-⟩
  · rfl
  · exact idle.sent

theorem emptied : Alike {mrpdu with sent := []} {other with sent := []} := by
  rcases alike with rfl | ⟨first,second⟩
  · exact .inl rfl
  · exact .inr ⟨⟨first.desc,first.start,rfl⟩,second.desc,second.start,rfl⟩

theorem transmitEnd : Alike (transmitEnd port mrpdu) (transmitEnd port other) := by
  rcases alike with rfl | ⟨first,second⟩
  · exact .inl rfl
  · right
    simpa [Mrp.transmitEnd,first.desc,second.desc] using And.intro first second

theorem pass (port : TxPort) (attr : Option TxAttribute) (leaveall : Bool) :
    Alike (transmitPass port attr leaveall mrpdu).1 (transmitPass port attr leaveall other).1 ∧
      (transmitPass port attr leaveall mrpdu).2 = (transmitPass port attr leaveall other).2 := by
  rcases alike with rfl | ⟨first,second⟩
  · exact ⟨.inl rfl,rfl⟩
  obtain ⟨data,msg,opened,begun,refused,started⟩ := mrpMsgStart_new port
  unfold transmitPass
  simp only [first.desc,second.desc,Bool.not_false,if_true,begun]
  cases opened with
  | false =>
    have none := refused rfl
    simp only [Bool.not_false,if_true,mrpMsgError,none]
    exact ⟨.inr ⟨⟨rfl,first.start,first.sent⟩,rfl,second.start,rfl⟩,trivial⟩
  | true =>
    have apart : msg.start ≠ msg.msgEnd := Nat.ne_of_lt (started rfl)
    simp only [Bool.not_true,Bool.false_eq_true,if_false,newPacket,first.start,second.start,isNone_none,if_true]
    by_cases fits : msg.msgEnd + 2 + port.app.attributeLength port.type > msg.endMax - 2
    · -- the vector is refused: an empty message is transmitted
      simp only [mrpVectorStart,fits,if_true,Bool.not_false,mrpMsgError,apart,if_false]
      refine ⟨.inr ⟨⟨?_,?_,?_⟩,?_,?_,?_⟩,trivial⟩
      · exact (transmitEnd_idle rfl).1
      · exact (transmitEnd_idle rfl).2
      · simp [Mrp.transmitEnd,vectorClosed,mrpVectorEnd,mrpMsgEnd,first.sent]
      · exact (transmitEnd_idle rfl).1
      · exact (transmitEnd_idle rfl).2
      · rfl
    · simp only [mrpVectorStart,fits,if_false,first.sent]
      exact ⟨.inl rfl,trivial⟩

theorem action (port : TxPort) (attr : Option TxAttribute) (leaveall : Bool) (fuel : Nat) :
    Option.Rel Alike (transmitAction port attr leaveall fuel mrpdu) (transmitAction port attr leaveall fuel other) := by
  induction fuel generalizing mrpdu other with
  | zero => exact .none
  | succ fuel ih =>
    obtain ⟨next,same⟩ := alike.pass port attr leaveall
    unfold transmitAction
    dsimp only
    rw [same]
    split
    · exact ih next
    · exact .some next

end

end Alike

structure Headed (mrpdu : MrpAttributeMrpdu) : Prop where
  desc : mrpdu.desc = true
  header : mrpdu.msg.start < mrpdu.msg.msgEnd

namespace Headed
variable {port : TxPort} {mrpdu next : MrpAttributeMrpdu}

variable (headed : Headed mrpdu)
include headed

theorem same (desc : next.desc = mrpdu.desc) (msg : next.msg = mrpdu.msg) : Headed next :=
  ⟨desc.trans headed.desc,by rw [msg]; exact headed.header⟩

theorem vectorStart (port : TxPort) (buf bufEnd : Nat) :
    Headed (mrpVectorStart port buf bufEnd mrpdu).1 := by
  unfold mrpVectorStart
  dsimp only
  split
  · exact headed.same rfl rfl
  · exact headed.same rfl rfl

theorem vectorOpen (port : TxPort) : Headed (if mrpdu.vector.start.isNone then
    mrpVectorStart port mrpdu.msg.msgEnd mrpdu.msg.endMax mrpdu else (mrpdu,true)).1 := by
  split
  · exact headed.vectorStart port _ _
  · exact headed

theorem marked (leaveall : Bool) :
    Headed (if leaveall then mrpVectorLeaveallEvent (mrpdu.vector.start.getD 0) mrpdu else mrpdu) := by
  split
  · exact headed.same rfl rfl
  · exact headed

theorem addEvent (start : Nat) (attr : TxAttribute) :
    Headed (appVectorAddEvent port start attr mrpdu).1 := by
  have added : ∀ length packed, Headed (vectorAddEvent start length packed mrpdu).1 := by
    intro length packed
    unfold vectorAddEvent
    split
    · exact headed
    · exact headed.same rfl rfl
  unfold appVectorAddEvent
  split
  · split
    · exact added _ _
    · split
      · exact added _ _
      · exact headed
  · exact added _ _

theorem vectorClosed (final : Bool) (start : Nat) : Headed (vectorClosed final start mrpdu) :=
  ⟨headed.desc,Nat.lt_of_lt_of_le headed.header (Nat.le_add_right _ _)⟩

end Headed

structure Formed (mrpdu : MrpAttributeMrpdu) : Prop where
  closed : mrpdu.desc = false → mrpdu.vector.start = none
  header : mrpdu.desc = true → mrpdu.msg.start < mrpdu.msg.msgEnd

namespace Formed
variable {port : TxPort} {mrpdu : MrpAttributeMrpdu}

theorem finished (desc : mrpdu.desc = false) (start : mrpdu.vector.start = none) : Formed mrpdu :=
  ⟨fun _ => start,fun begun => by rw [desc] at begun; cases begun⟩

theorem headed (headed : Headed mrpdu) : Formed mrpdu :=
  ⟨fun absent => absurd (headed.desc.symm.trans absent) nofun,fun _ => headed.header⟩

theorem ended (begun : mrpdu.desc = true) : Formed (transmitEnd port mrpdu) :=
  finished (transmitEnd_idle begun).1 (transmitEnd_idle begun).2

theorem transmitEnd (formed : Formed mrpdu) : Formed (transmitEnd port mrpdu) := by
  cases desc : mrpdu.desc with
  | true => exact ended desc
  | false => simpa [Mrp.transmitEnd,desc] using formed

theorem msgError (headed : Headed mrpdu) : Formed (mrpMsgError port mrpdu) := by
  unfold mrpMsgError
  rw [if_neg (Nat.ne_of_lt headed.header)]
  split
  · exact ended headed.desc
  · split
    · exact ended headed.desc
    · split
      · exact ended headed.desc
      · exact ended headed.desc

theorem added (headed : Headed mrpdu) (start : Nat) (attr : TxAttribute) :
    Formed (if !(appVectorAddEvent port start attr (mrpVectorFirstValue start attr.val mrpdu)).2 then
      (mrpMsgError port (appVectorAddEvent port start attr (mrpVectorFirstValue start attr.val mrpdu)).1,true)
      else ((appVectorAddEvent port start attr (mrpVectorFirstValue start attr.val mrpdu)).1,false)).1 := by
  have valued : Headed (mrpVectorFirstValue start attr.val mrpdu) := headed.same rfl rfl
  split
  · exact msgError (valued.addEvent start attr)
  · exact .headed (valued.addEvent start attr)

theorem pass (formed : Formed mrpdu) (port : TxPort) (attr : Option TxAttribute) (leaveall : Bool) :
    Formed (transmitPass port attr leaveall mrpdu).1 := by
  have message : ∀ next opened, (if !mrpdu.desc then mrpMsgStart port 15 port.mtu (newPacket port mrpdu)
      else (mrpdu,true)) = (next,opened) →
      (opened = true → Headed next) ∧ (opened = false → Formed (mrpMsgError port next)) := by
    intro next opened result
    cases desc : mrpdu.desc with
    | true =>
      simp only [desc,Bool.not_true,Bool.false_eq_true,if_false,Prod.mk.injEq] at result
      obtain ⟨rfl,rfl⟩ := result
      exact ⟨fun _ => ⟨desc,formed.header desc⟩,nofun⟩
    | false =>
      obtain ⟨data,msg,room,begun,refused,started⟩ := mrpMsgStart_new port
      simp only [desc,Bool.not_false,if_true,begun,Prod.mk.injEq] at result
      obtain ⟨rfl,rfl⟩ := result
      refine ⟨fun room => ⟨rfl,started room⟩,fun none => finished ?_ ?_⟩
      · simp [mrpMsgError,refused none]
      · simpa [mrpMsgError,refused none,newPacket] using formed.closed desc
  unfold transmitPass
  generalize (if !mrpdu.desc then mrpMsgStart port 15 port.mtu (newPacket port mrpdu) else (mrpdu,true)) = result
    at message
  obtain ⟨next,opened⟩ := result
  obtain ⟨started,refused⟩ := message next opened rfl
  cases opened with
  | false => exact refused rfl
  | true =>
    have headed := started rfl
    simp only [Bool.not_true,Bool.false_eq_true,if_false]
    have vector := headed.vectorOpen port
    generalize (if next.vector.start.isNone then
      mrpVectorStart port next.msg.msgEnd next.msg.endMax next else (next,true)) = result at vector
    obtain ⟨next,opened⟩ := result
    cases opened with
    | false => exact msgError vector
    | true =>
      simp only [Bool.not_true,Bool.false_eq_true,if_false]
      have marked : Headed (if leaveall then _ else _) := vector.marked leaveall
      generalize (if leaveall then mrpVectorLeaveallEvent (next.vector.start.getD 0) next else next) = held
        at marked
      cases attr with
      | none => exact .headed marked
      | some attr =>
        dsimp only
        split
        · split
          · exact ended marked.desc
          · have second := (marked.vectorClosed false (next.vector.start.getD 0)).vectorStart port
            split
            · exact msgError (second _ _)
            · exact added (second _ _) _ attr
        · exact added marked _ attr

theorem action (formed : Formed mrpdu) (attr : Option TxAttribute) (leaveall : Bool) {fuel : Nat}
    {next : MrpAttributeMrpdu} (done : transmitAction port attr leaveall fuel mrpdu = some next) : Formed next := by
  induction fuel generalizing mrpdu with
  | zero => cases done
  | succ fuel ih =>
    have passed := formed.pass port attr leaveall
    unfold transmitAction at done
    dsimp only at done
    split at done
    · exact ih passed done
    · cases done
      exact passed

end Formed

abbrev Bytes := List UInt8

/-- The builders of an application, one for each attribute type, and the PDUs they have handed to
the network in their order. -/
structure MrpTransmitter where
  mrpdu : AttrType → MrpAttributeMrpdu
  wire : List (AttrType × Bytes)

def MrpConfig.txPort (config : MrpConfig) (mtu : Nat) (fresh : Memory) (type : AttrType) : TxPort :=
  ⟨if config.msrp then .MSRP else .MVRP,type.val,mtu,fresh⟩

def TxAttribute.ofValue (value : Bytes × AttributeEvent) : TxAttribute := ⟨value.1,value.2⟩

namespace MrpTransmitter

def cleared (port : AttrType → TxPort) : MrpTransmitter := ⟨fun type => .cleared (port type),[]⟩

def handOver (type : AttrType) (mrpdu : MrpAttributeMrpdu) (tx : MrpTransmitter) : MrpTransmitter where
  mrpdu := Function.update tx.mrpdu type {mrpdu with sent := []}
  wire := tx.wire ++ mrpdu.sent.map fun pdu => (type,pdu)

/-- One call of the transmit path, with at most `fuel` jumps back in `mrp_transmit_action`. -/
def call (port : AttrType → TxPort) (fuel : Nat) (tx : MrpTransmitter) : TransmitCall Bytes → Option MrpTransmitter
  | .action type attr leaveall =>
    (transmitAction (port type) (attr.map .ofValue) leaveall fuel (tx.mrpdu type)).map
      fun mrpdu => tx.handOver type mrpdu
  | .finish type => some (tx.handOver type (transmitEnd (port type) (tx.mrpdu type)))

def calls (port : AttrType → TxPort) (fuel : Nat) : List (TransmitCall Bytes) → MrpTransmitter → Option MrpTransmitter
  | [],tx => some tx
  | call :: rest,tx => (tx.call port fuel call).bind (calls port fuel rest)

end MrpTransmitter

structure AlikeTx (tx other : MrpTransmitter) : Prop where
  mrpdu : ∀ type, Alike (tx.mrpdu type) (other.mrpdu type)
  wire : tx.wire = other.wire

namespace AlikeTx
variable {port : AttrType → TxPort} {fuel : Nat} {tx other : MrpTransmitter}

theorem handOver (alike : AlikeTx tx other) (type : AttrType) {mrpdu next : MrpAttributeMrpdu}
    (same : Alike mrpdu next) : AlikeTx (tx.handOver type mrpdu) (other.handOver type next) := by
  refine ⟨fun item => ?_,?_⟩
  · by_cases mine : item = type
    · subst mine
      simpa [MrpTransmitter.handOver] using same.emptied
    · simpa [MrpTransmitter.handOver,mine] using alike.mrpdu item
  · simp [MrpTransmitter.handOver,alike.wire,same.sent]

theorem call (alike : AlikeTx tx other) (port : AttrType → TxPort) (fuel : Nat) (call : TransmitCall Bytes) :
    Option.Rel AlikeTx (tx.call port fuel call) (other.call port fuel call) := by
  cases call with
  | action type attr leaveall =>
    have acted := (alike.mrpdu type).action (port type) (attr.map .ofValue) leaveall fuel
    simp only [MrpTransmitter.call]
    generalize transmitAction (port type) (attr.map .ofValue) leaveall fuel (tx.mrpdu type) = result at acted ⊢
    generalize transmitAction (port type) (attr.map .ofValue) leaveall fuel (other.mrpdu type) = next at acted ⊢
    cases acted with
    | none => exact .none
    | some same => exact .some (alike.handOver type same)
  | finish type => exact .some (alike.handOver type (alike.mrpdu type).transmitEnd)

theorem calls (alike : AlikeTx tx other) (list : List (TransmitCall Bytes)) :
    (MrpTransmitter.calls port fuel list tx).map MrpTransmitter.wire =
      (MrpTransmitter.calls port fuel list other).map MrpTransmitter.wire := by
  induction list generalizing tx other with
  | nil => exact congrArg some alike.wire
  | cons first rest ih =>
    have called := alike.call port fuel first
    simp only [MrpTransmitter.calls]
    generalize tx.call port fuel first = result at called ⊢
    generalize other.call port fuel first = next at called ⊢
    cases called with
    | none => rfl
    | some same => exact ih same

end AlikeTx

def MrpTransmitter.Kept (tx : MrpTransmitter) : Prop :=
  ∀ type, Formed (tx.mrpdu type) ∧ (tx.mrpdu type).sent = []

theorem MrpTransmitter.Kept.calls {port : AttrType → TxPort} {fuel : Nat} {list : List (TransmitCall Bytes)}
    {tx next : MrpTransmitter} (kept : tx.Kept) (done : calls port fuel list tx = some next) : next.Kept := by
  have handed : ∀ (tx : MrpTransmitter) type mrpdu, tx.Kept → Formed mrpdu → (tx.handOver type mrpdu).Kept := by
    intro tx type mrpdu kept formed item
    by_cases mine : item = type
    · subst mine
      simpa [MrpTransmitter.handOver] using (⟨formed.closed,formed.header⟩ : Formed {mrpdu with sent := []})
    · simpa [MrpTransmitter.handOver,mine] using kept item
  induction list generalizing tx with
  | nil =>
    cases done
    exact kept
  | cons first rest ih =>
    unfold MrpTransmitter.calls at done
    obtain ⟨after,called,done⟩ := bind_eq_some_iff.mp done
    refine ih ?_ done
    cases first with
    | action type attr leaveall =>
      obtain ⟨mrpdu,acted,rfl⟩ := map_eq_some_iff.mp called
      exact handed tx type mrpdu kept ((kept type).1.action _ _ acted)
    | finish type =>
      cases called
      exact handed tx type _ kept (kept type).1.transmitEnd

/-- A run in which an application is disabled and enabled again: the inputs before the disable, at
which it is enabled, and those that meet it disabled. -/
structure Restart (config : MrpConfig) where
  random : Nat
  before : List (MrpInput Bytes)
  enabled : (run mrpStep before (mrpInit config random)).enabled = true
  meanwhile : List (MrpInput Bytes)
  off : ∀ input ∈ meanwhile, ∀ random, input ≠ .enable random

namespace Restart
variable {config : MrpConfig}

def left (restart : Restart config) : MrpApplication Bytes :=
  run mrpStep restart.before (mrpInit config restart.random)

def disabled (restart : Restart config) : MrpApplication Bytes :=
  run mrpStep restart.meanwhile (mrpDisable restart.left)

/-- The application after the enable and further inputs, which name the attributes created since. -/
def resumed (restart : Restart config) (random : Nat) (after : List (MrpInput Bytes)) : MrpApplication Bytes :=
  run mrpStep (after.map (MrpInput.shift restart.disabled.nextId)) (mrpEnable random restart.disabled)

def pdus (restart : Restart config) (mtu : Nat) (fresh : Memory) (fuel random : Nat)
    (after : List (MrpInput Bytes)) : Option (List (AttrType × Bytes)) := do
  let port := config.txPort mtu fresh
  let tx ← MrpTransmitter.calls port fuel restart.disabled.transmit (.cleared port)
  let since := (restart.resumed random after).transmit.drop restart.disabled.transmit.length
  let tx ← MrpTransmitter.calls port fuel since {tx with wire := []}
  return tx.wire

/-- At the disable no MRPDU is under construction, and until then no leave timer was refused to an
attribute that was created. -/
structure Clear (restart : Restart config) (mtu : Nat) (fresh : Memory) (fuel : Nat) : Prop where
  granted : Steps mrpStep (Allowed timerGranted) restart.before (mrpInit config restart.random)
  idle : ∃ tx, MrpTransmitter.calls (config.txPort mtu fresh) fuel restart.left.transmit
      (.cleared (config.txPort mtu fresh)) = some tx ∧ ∀ type, (tx.mrpdu type).desc = false

end Restart

def initialPdus (config : MrpConfig) (mtu : Nat) (fresh : Memory) (fuel random : Nat)
    (inputs : List (MrpInput Bytes)) : Option (List (AttrType × Bytes)) :=
  (MrpTransmitter.calls (config.txPort mtu fresh) fuel (run mrpStep inputs (mrpInit config random)).transmit
    (.cleared (config.txPort mtu fresh))).map MrpTransmitter.wire

section Isolation
variable {config : MrpConfig}

theorem Restart.disabled_off (restart : Restart config) (full : config.full = true)
    (granted : Steps mrpStep (Allowed timerGranted) restart.before (mrpInit config restart.random)) :
    Off config restart.disabled ∧ restart.disabled.transmit = restart.left.transmit := by
  have store : Store restart.left := granted_rule.run (Store.cleared full) granted
  have timed : Timed config restart.left :=
    run_invariant mrpStep (fun _ input timed _ => timed.step input)
      ((Timed.cleared config).enable restart.random) (steps_always _ _ _)
  obtain ⟨off,same⟩ := disable_off store timed restart.enabled
  have meanwhile : ∀ (inputs : List (MrpInput Bytes)) (app : MrpApplication Bytes),
      (∀ input ∈ inputs, ∀ random, input ≠ .enable random) → Off config app →
      Off config (run mrpStep inputs app) ∧ (run mrpStep inputs app).transmit = app.transmit := by
    intro inputs
    induction inputs with
    | nil => exact fun app _ off => ⟨off,rfl⟩
    | cons input rest ih =>
      intro app other off
      obtain ⟨next,kept⟩ := off.step input (other input List.mem_cons_self)
      obtain ⟨last,all⟩ := ih (mrpStep input app) (fun item member => other item (List.mem_cons_of_mem _ member)) next
      exact ⟨last,all.trans kept⟩
  obtain ⟨last,kept⟩ := meanwhile restart.meanwhile _ restart.off off
  exact ⟨last,kept.trans same⟩

theorem Restart.pdus_initial (restart : Restart config) (full : config.full = true) {mtu : Nat} {fresh : Memory}
    {fuel : Nat} (clear : restart.Clear mtu fresh fuel) (random : Nat) (after : List (MrpInput Bytes)) :
    restart.pdus mtu fresh fuel random after = initialPdus config mtu fresh fuel random after := by
  obtain ⟨off,same⟩ := restart.disabled_off full clear.granted
  obtain ⟨tx,built,idle⟩ := clear.idle
  have resumes := (off.enable full random).steps after
  have since : (restart.resumed random after).transmit.drop restart.disabled.transmit.length =
      (run mrpStep after (mrpInit config random)).transmit := by
    have all := resumes.transmit
    change (restart.resumed random after).transmit = _ at all
    rw [all,List.drop_left]
  have begun : (MrpTransmitter.cleared (config.txPort mtu fresh)).Kept :=
    fun type => ⟨.finished rfl rfl,rfl⟩
  have kept := begun.calls built
  have alike : AlikeTx {tx with wire := []} (.cleared (config.txPort mtu fresh)) :=
    ⟨fun type => .inr ⟨⟨idle type,(kept type).1.closed (idle type),(kept type).2⟩,rfl,rfl,rfl⟩,rfl⟩
  unfold Restart.pdus initialPdus
  rw [same] at since ⊢
  simp only [built,since,bind_eq_bind,bind_some]
  rw [← alike.calls]
  exact (map_eq_bind ..).symm

/-- Two runs of an application that is restarted while no MRPDU is under construction transmit the
same PDUs after the enable, whatever came before it, and these are the PDUs of a new application. -/
theorem restarts_isolated (config : MrpConfig) (full : config.full = true) (mtu : Nat) (fresh : Memory) (fuel : Nat)
    (first second : Restart config) (firstClear : first.Clear mtu fresh fuel)
    (secondClear : second.Clear mtu fresh fuel) (random : Nat) (after : List (MrpInput Bytes)) :
    first.pdus mtu fresh fuel random after = second.pdus mtu fresh fuel random after ∧
      first.pdus mtu fresh fuel random after = initialPdus config mtu fresh fuel random after := by
  have one := first.pdus_initial full firstClear random after
  have two := second.pdus_initial full secondClear random after
  exact ⟨one.trans two.symm,one⟩

end Isolation

def plainRestart : Restart (.ofMsrp 5000 leaveTimeout_default) :=
  ⟨10000,[],by decide,[],by simp⟩

def sentRestart : Restart (.ofMsrp 5000 leaveTimeout_default) :=
  ⟨10000,[.call (.joinRequest 3 [0,0,0,0,0,0,0,1,2] false (.ok .VO .MT)),.joinTimer],by decide,
    [.call (.joinRequest 3 [0,0,0,0,0,0,0,3,2] false (.ok .VO .MT))],by simp⟩

def joinedRestart : Restart (.ofMsrp 5000 leaveTimeout_default) :=
  ⟨10000,[.call (.joinImmediate 3 [0,0,0,0,0,0,0,1,2] (.ok .VO .MT))],by decide,[],by simp⟩

def declaration : List (MrpInput Bytes) :=
  [.call (.joinRequest 3 [0,0,0,0,0,0,0,2,2] false (.ok .VO .MT)),.joinTimer]

theorem restarts_isolated_sent :
    sentRestart.pdus 1500 (fun _ => 0) 2 10000 declaration = plainRestart.pdus 1500 (fun _ => 0) 2 10000 declaration ∧
      sentRestart.pdus 1500 (fun _ => 0) 2 10000 declaration =
        initialPdus (.ofMsrp 5000 (by decide)) 1500 (fun _ => 0) 2 10000 declaration := by
  have idle : ∀ restart : Restart (.ofMsrp 5000 (by decide)), (MrpTransmitter.calls
      (txPort (.ofMsrp 5000 (by decide)) 1500 fun _ => 0) 2 restart.left.transmit
      (.cleared (txPort (.ofMsrp 5000 (by decide)) 1500 fun _ => 0))).any
        (fun tx => decide (∀ type, (tx.mrpdu type).desc = false)) = true →
      ∃ tx, MrpTransmitter.calls (txPort (.ofMsrp 5000 (by decide)) 1500 fun _ => 0) 2 restart.left.transmit
        (.cleared (txPort (.ofMsrp 5000 (by decide)) 1500 fun _ => 0)) = some tx ∧
          ∀ type, (tx.mrpdu type).desc = false := by
    intro restart checked
    obtain ⟨tx,built,idle⟩ := (any_eq_true _ _).mp checked
    exact ⟨tx,built,of_decide_eq_true idle⟩
  have sent : sentRestart.Clear 1500 (fun _ => 0) 2 := by
    refine ⟨⟨?_,?_,trivial⟩,idle _ (by decide +kernel)⟩
    · intro _
      decide
    · intro _ _ _ _
      trivial
  have plain : plainRestart.Clear 1500 (fun _ => 0) 2 := ⟨trivial,idle _ (by decide +kernel)⟩
  exact restarts_isolated _ rfl 1500 (fun _ => 0) 2 sentRestart plainRestart sent plain 10000 declaration

/-- The events of an immediate join that the disable finds in an MRPDU under construction are
transmitted after the enable. -/
theorem joinedRestart_leaks :
    joinedRestart.pdus 1500 (fun _ => 0) 2 10000 declaration ≠
      plainRestart.pdus 1500 (fun _ => 0) 2 10000 declaration := by
  decide +kernel

end Genavb.Mrp
