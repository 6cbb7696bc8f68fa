import Genavb.Qos.PortReset
import Genavb.Support.Run

/-! The totals, ids and queues of every port agree with its reservations in every run whose requests neither
overflow the 32-bit sums nor lose a reservation to a lower rate. -/
namespace Genavb.Qos
open Common Support StreamQueue NetQos BitVec

namespace SrClass

structure Consistent (sr : SrClass) : Prop where
  idleSlope : sr.idleSlope.toNat = sr.reserved
  streams : sr.streams = total sr.streamMax count sr.stream
  rate : sr.shaper.rate.toNat = total sr.streamMax bits sr.stream
  creditMin : sr.shaper.creditMin.toInt = -(total sr.streamMax bits sr.stream : Int)
  ids : ∀ i < sr.streamMax, ∀ j < sr.streamMax, (sr.stream i).used = true → (sr.stream j).used = true →
    (sr.stream i).id = (sr.stream j).id → i = j
  queues : ∀ i < sr.streamMax, (sr.stream i).connected = true →
    ∃ q, (sr.stream i).qosQueue = some q ∧ (sr.qosQueue q).enabled = (sr.stream i).configured

end SrClass

namespace PortQos

def reserved (port : PortQos) : Nat := total CFG_SR_CLASS_MAX SrClass.reserved port.srClass

structure Consistent (port : PortQos) : Prop where
  usedRate : port.usedRate.toNat = port.reserved
  share : (100 * port.usedRate.toNat : Int) ≤ 75 * port.rate.toInt
  classes : ∀ c < CFG_SR_CLASS_MAX, (port.srClass c).Consistent

/-- The reservation fits; or it does not, the 32-bit sum shows this, and there is no id and no label to be written. -/
def Decided (c i : Nat) (request : NetSrConfig) (port : PortQos) : Prop :=
  let sum := port.reserved - ((port.srClass c).stream i).slope + request.idleSlope.toNat
  sum ≤ port.maxRate.toNat ∨
    port.maxRate.toNat < sum % 2 ^ 32 ∧ ((port.srClass c).stream i).id = request.streamId ∧
      port.Labelled c i ⟨request.vlanId.setWidth 12,BitVec.ofNat 3 request.priority⟩

end PortQos

/-- A stream socket gets a queue. -/
def NetQos.Connectable (l : Nat) (srClass : Option Nat) (streamId : StreamId) (vlan : Bool) (priority : Nat)
    (net : NetQos) : Prop :=
  net.bridge l = false ∧ ∃ p, net.logicalPort l = some p ∧
    match srClass with
    | some srClass => (net.port p).Connectable net.config srClass streamId
    | none => (net.qosQueueFree p (if vlan then priority else QOS_BEST_EFFORT_PRIORITY)).isSome = true

def Allowed (net : NetQos) : QosInput → Prop
  | .srConfig request => ∀ p c i, net.logicalPort request.port = some p → prioritySrClass request.priority = some c →
      ((net.port p).netQosStreamGet c request.streamId).2 = some i → (net.port p).Decided c i request
  | .streamConnect l srClass streamId vlan priority _ =>
      net.Connectable l srClass streamId vlan priority → net.streamHdlrFind l streamId = none
  | .linkUp p phySpeed => (net.port p).enabled = false →
      phySpeed * 1000000 % 2 ^ 32 < 2 ^ 31 ∧ (net.port p).Readmits (phySpeed * 1000000 % 2 ^ 32 / 100 * 75)
  | _ => True

def RefusedUnchanged (net : NetQos) (input : QosInput) : Prop :=
  (qosRequest input net).2 = false → qosStep input net = net

section Ports
variable {port : PortQos} {c i : Nat} {request : NetSrConfig}

theorem PortQos.Sound.reserved (sound : port.Sound) :
    port.reserved = port.window (fun _ => CFG_SR_CLASS_HIGH_STREAM_MAX) slope := by
  have same : (fun d => total CFG_SR_CLASS_HIGH_STREAM_MAX slope (port.srClass d).stream) =
      fun d => (port.srClass d).reserved := by
    ext d
    unfold SrClass.reserved
    rw [(sound.shaped d).size]
  unfold PortQos.window
  rw [same]
  rfl

theorem PortQos.Sound.small (sound : port.Sound) : port.reserved < 2 ^ 31 := by
  have room := sound.summed.room
  have share := sound.share
  have rate := sound.rate
  rw [sound.reserved]
  omega

theorem PortQos.Sound.consistent (sound : port.Sound) : port.Consistent where
  usedRate := by
    have small := sound.small
    rw [sound.summed.usedRate,← sound.reserved,toNat_ofNat,Nat.mod_eq_of_lt (by omega)]
  share := by
    have small := sound.small
    have room := sound.summed.room
    have share := sound.share
    have natural : port.rate.toInt = (port.rate.toNat : Int) := by
      apply toInt_eq_toNat_of_lt
      have rate := sound.rate
      omega
    rw [sound.summed.usedRate,← sound.reserved,toNat_ofNat,Nat.mod_eq_of_lt (by omega),natural]
    rw [← sound.reserved] at room
    omega
  classes := by
    intro c inside
    have shaped := sound.shaped c
    have counted := sound.counted c inside
    have part : (port.srClass c).reserved ≤ port.reserved := weight_le_total inside
    have small := sound.small
    have lighter : total (port.srClass c).streamMax bits (port.srClass c).stream ≤
        (port.srClass c).reserved := total_mono shaped.apart.scaled
    rw [← shaped.size] at counted
    refine ⟨?_,counted.streams,?_,?_,shaped.apart.distinct,?_⟩
    · rw [counted.idleSlope,toNat_ofNat]
      exact Nat.mod_eq_of_lt (show (port.srClass c).reserved < 2 ^ 32 by omega)
    · rw [counted.rate,toNat_ofNat,Nat.mod_eq_of_lt (by omega)]
    · rw [counted.creditMin]
      generalize total (port.srClass c).streamMax bits (port.srClass c).stream = bits at lighter
      rw [toInt_eq_toNat_cond,toNat_neg,toNat_ofNat]
      split <;> omega
    · intro i below connected
      obtain ⟨q,link,_⟩ := shaped.linked.joined i below connected
      exact ⟨q,link,shaped.matched i below q connected link⟩

theorem SrClass.Reserves.reserved {sr : SrClass} (reserves : (port.srClass c).Reserves sr) :
    (port.setClass c sr).reserved = port.reserved := by
  apply total_congr
  intro d _
  by_cases here : d = c
  case pos =>
    subst here
    rw [setClass_srClass]
    unfold SrClass.reserved
    rw [reserves.size,reserves.slopes]
  case neg => rw [setClass_other here]

def PortQos.labelled (c i : Nat) (request : NetSrConfig) (port : PortQos) : PortQos :=
  let next := (port.netQosStreamGet c request.streamId).1
  if request.idleSlope ≠ 0 then
    next.labelStream c i ⟨request.vlanId.setWidth 12,BitVec.ofNat 3 request.priority⟩
  else next

theorem labelled_cases (sound : port.Sound) (found : (port.netQosStreamGet c request.streamId).2 = some i) : ∃ sr,
    port.labelled c i request = port.setClass c sr ∧ (port.srClass c).Reserves sr ∧ sr.Shaped ∧
      i < (port.srClass c).streamMax ∧
      ∀ j < (port.srClass c).streamMax, j ≠ i → (sr.stream j).used = true → (sr.stream j).id ≠ (sr.stream i).id := by
  obtain ⟨shaped,below,fresh⟩ := (sound.shaped c).streamGet found
  have reserves := streamGet_reserves request.streamId (port.srClass c)
  unfold PortQos.labelled
  split
  · obtain ⟨sr,result,same,keeps,slots⟩ := labelStream_cases c i
      ⟨request.vlanId.setWidth 12,BitVec.ofNat 3 request.priority⟩ (port.netQosStreamGet c request.streamId).1
    have own : (port.netQosStreamGet c request.streamId).1.srClass c =
        ((port.srClass c).streamGet request.streamId).1 := setClass_srClass _
    rw [own] at same keeps slots
    refine ⟨sr,?_,reserves.trans same,keeps shaped (reserves.size ▸ below),below,?_⟩
    · rw [result]
      exact setClass_setClass _ _
    · intro j within apart used
      rw [(slots j).1] at used
      rw [(slots j).2,(slots i).2]
      exact fresh j within apart used
  · exact ⟨_,rfl,reserves,shaped,below,fresh⟩

theorem labelled_same (found : (port.netQosStreamGet c request.streamId).2 = some i)
    (id : ((port.srClass c).stream i).id = request.streamId)
    (labelled : port.Labelled c i ⟨request.vlanId.setWidth 12,BitVec.ofNat 3 request.priority⟩) :
    port.labelled c i request = port := by
  have lookup : (port.netQosStreamGet c request.streamId).1 = port := by
    unfold PortQos.netQosStreamGet at found ⊢
    rcases streamGet_cases request.streamId (port.srClass c) with ⟨k,_,_,_,result⟩ | ⟨_,⟨k,_,_,result⟩ | result⟩
    · rw [result]
      exact setClass_self
    · rw [result] at found ⊢
      cases found
      have same : ((port.srClass c).modifyStream i fun stream => {stream with id := request.streamId}) =
          port.srClass c := by
        unfold SrClass.modifyStream
        rw [← id]
        simp
      rw [same]
      exact setClass_self
    · rw [result]
      exact setClass_self
  unfold PortQos.labelled
  rw [lookup]
  split
  · exact labelStream_same labelled
  · rfl

theorem PortQos.Sound.reserve (sound : port.Sound) (inside : c < CFG_SR_CLASS_MAX)
    (found : (port.netQosStreamGet c request.streamId).2 = some i) (decided : port.Decided c i request) :
    ((port.labelled c i request).netQosStreamConfigure c i request.idleSlope).1.Sound ∧
      (((port.labelled c i request).netQosStreamConfigure c i request.idleSlope).2.isNone = false →
        ((port.labelled c i request).netQosStreamConfigure c i request.idleSlope).1 = port) := by
  obtain ⟨sr,result,reserves,shaped,below,fresh⟩ := labelled_cases sound found
  have kept : (port.labelled c i request).Sound := result ▸ sound.setClass shaped reserves
  have own : (port.labelled c i request).srClass c = sr := by rw [result,setClass_srClass]
  have size : sr.streamMax = (port.srClass c).streamMax := reserves.size
  have counted : i < CFG_SR_CLASS_HIGH_STREAM_MAX := (sound.shaped c).size ▸ below
  have within : i < ((port.labelled c i request).srClass c).streamMax := by
    rw [own,size]
    exact below
  have maxRate : (port.labelled c i request).maxRate = port.maxRate := by
    rw [result]
    rfl
  have total : (port.labelled c i request).reserved = port.reserved := by rw [result,reserves.reserved]
  have demand : (port.labelled c i request).demand (fun _ => CFG_SR_CLASS_HIGH_STREAM_MAX) c i request.idleSlope =
      port.reserved - ((port.srClass c).stream i).slope + request.idleSlope.toNat := by
    unfold PortQos.demand
    rw [← kept.reserved,total,own,slope_reservation (reserves.slots i)]
  have cleared := (kept.shaped c).apart.cleared i within
  have test := @PortQos.Summed.refuses _ _ c i request.idleSlope kept.summed inside counted cleared
  rw [demand] at test
  rcases decided with fits | ⟨full,id,label⟩
  case inl =>
    have room : ¬(port.labelled c i request).maxRate.toNat <
        (port.reserved - ((port.srClass c).stream i).slope + request.idleSlope.toNat) % 2 ^ 32 := by
      rw [maxRate]
      exact Nat.not_lt.mpr ((Nat.mod_le _ _).trans fits)
    rw [netQosStreamConfigure_granted cleared (room ∘ test.mp)]
    refine ⟨?_,by simp⟩
    apply kept.configure inside within
    · rw [demand,maxRate]
      exact fits
    · rw [own,size]
      exact fresh
  case inr =>
    rw [← maxRate] at full
    rw [netQosStreamConfigure_refused (test.mpr full)]
    exact ⟨kept,fun _ => labelled_same found id label⟩

end Ports

section Requests
variable {net : NetQos} {input : QosInput}

@[simp] theorem modifyPort_port (net : NetQos) (p r : Nat) (f : PortQos → PortQos) :
    (net.modifyPort p f).port r = if r = p then f (net.port p) else net.port r := by
  unfold modifyPort
  by_cases here : r = p
  case pos =>
    subst here
    simp
  case neg => simp [here]

private theorem modifyPort_same {p : Nat} {f : PortQos → PortQos} (same : f (net.port p) = net.port p) :
    net.modifyPort p f = net := by
  unfold modifyPort
  rw [same,Function.update_eq_self]

def NetQos.Sound (net : NetQos) : Prop := ∀ p, (net.port p).Sound

theorem NetQos.Sound.modifyPort {p : Nat} {f : PortQos → PortQos} (sound : net.Sound) (kept : (f (net.port p)).Sound) :
    (net.modifyPort p f).Sound := by
  intro r
  rw [modifyPort_port]
  split
  · exact kept
  · exact sound r

theorem NetQos.Sound.srConfig {request : NetSrConfig} (sound : net.Sound) (allowed : Allowed net (.srConfig request)) :
    (net.netQosSrConfig request).1.Sound ∧
      ((net.netQosSrConfig request).2.isNone = false → (net.netQosSrConfig request).1 = net) := by
  unfold netQosSrConfig
  cases phys : net.logicalPort request.port with
  | none => exact ⟨sound,fun _ => rfl⟩
  | some p =>
    cases class_of : prioritySrClass request.priority with
    | none => exact ⟨sound,fun _ => rfl⟩
    | some c =>
      dsimp only
      cases get : (net.port p).netQosStreamGet c request.streamId with
      | mk next result =>
        cases result with
        | none =>
          have same := @streamGet_missing (net.port p) c request.streamId (by rw [get])
          rw [get] at same
          have kept : net.modifyPort p (fun _ => next) = net := modifyPort_same same
          dsimp only
          rw [kept]
          exact ⟨sound,fun _ => rfl⟩
        | some i =>
          have found : ((net.port p).netQosStreamGet c request.streamId).2 = some i := by rw [get]
          have reserve := (sound p).reserve (prioritySrClass_inside class_of) found (allowed p c i phys class_of found)
          have labelled : (net.port p).labelled c i request =
              if request.idleSlope ≠ 0 then
                next.labelStream c i ⟨request.vlanId.setWidth 12,BitVec.ofNat 3 request.priority⟩
              else next := by
            unfold PortQos.labelled
            rw [get]
          rw [labelled] at reserve
          dsimp only
          refine ⟨sound.modifyPort reserve.1,?_⟩
          intro refused
          exact modifyPort_same (reserve.2 refused)

private theorem srClassInit_size (config : SrClassConfig) (prio : Nat) (sr : SrClass) :
    (netQosSrClassInit config prio sr).streamMax = CFG_SR_CLASS_HIGH_STREAM_MAX := by
  unfold netQosSrClassInit
  split <;> rfl

variable {port : PortQos}

theorem PortQos.Sound.srClassInit {prio : Nat} (sound : port.Sound) (config : SrClassConfig)
    (inside : prio < CFG_SR_CLASS_MAX) (idle : port.streams = 0) :
    (port.setClass prio (netQosSrClassInit config prio (port.srClass prio))).Sound := by
  have shaped := sound.shaped prio
  have size := (srClassInit_size config prio (port.srClass prio)).trans shaped.size.symm
  have none : (port.srClass prio).streams = 0 := by
    have counts := sound.summed.streams
    have part := @weight_le_total _ _ _ (fun d => total CFG_SR_CLASS_HIGH_STREAM_MAX count
      (port.srClass d).stream) id inside
    rw [idle] at counts
    rw [(sound.counted prio inside).streams]
    exact Nat.eq_zero_of_le_zero (part.trans_eq counts.symm)
  apply sound.setClass
  · refine ⟨size.trans shaped.size,?_,?_,?_⟩
    · rw [size]
      exact shaped.apart
    · rw [size]
      exact shaped.linked
    · rw [size]
      exact shaped.matched
  · exact ⟨size,rfl,rfl,none.symm,fun _ => rfl⟩

theorem PortQos.Sound.srClasses (sound : port.Sound) (config : SrClassConfig) (idle : port.streams = 0) :
    ((List.range CFG_SR_CLASS_MAX).foldl (fun port prio =>
      port.setClass prio (netQosSrClassInit config prio (port.srClass prio))) port).Sound := by
  have loop := @foldl_range _ (fun (_ : Nat) (state : PortQos) => state.Sound ∧ state.streams = 0)
    (fun port prio => port.setClass prio (netQosSrClassInit config prio (port.srClass prio))) port CFG_SR_CLASS_MAX
    ⟨sound,idle⟩ fun prio inside state kept => ⟨kept.1.srClassInit config inside kept.2,kept.2⟩
  exact loop.1

theorem NetQos.Sound.srClassConfigure (sound : net.Sound) (logicalPort first second : Nat) :
    (net.netQosSrClassConfigure logicalPort first second).1.Sound ∧
      ((net.netQosSrClassConfigure logicalPort first second).2.isNone = false →
        (net.netQosSrClassConfigure logicalPort first second).1 = net) := by
  unfold netQosSrClassConfigure
  cases net.logicalPort logicalPort with
  | none => exact ⟨sound,fun _ => rfl⟩
  | some p =>
    dsimp only
    split
    · exact ⟨sound,fun _ => rfl⟩
    next idle =>
      cases srClassConfig first second with
      | none => exact ⟨sound,fun _ => rfl⟩
      | some config =>
        dsimp only
        refine ⟨?_,by simp⟩
        apply @Sound.modifyPort {net with config := config}
        · exact sound
        · exact (sound p).srClasses config (by omega)

theorem PortQos.Sound.enable (sound : port.Sound) (enabled : Bool) :
    PortQos.Sound {port with enabled := enabled} where
  __ := sound
  summed := {sound.summed with}

theorem PortQos.Sound.ethAvbOpen (sound : port.Sound) {phySpeed : Nat}
    (allowed : port.enabled = false → phySpeed * 1000000 % 2 ^ 32 < 2 ^ 31 ∧
      port.Readmits (phySpeed * 1000000 % 2 ^ 32 / 100 * 75)) : (port.ethAvbOpen phySpeed).Sound := by
  unfold PortQos.ethAvbOpen
  split
  · exact sound
  next closed =>
    rw [Bool.not_eq_true] at closed
    obtain ⟨positive,readmits⟩ := allowed closed
    rw [← toNat_ofNat] at positive readmits
    exact (sound.reset positive readmits).enable true

theorem NetQos.Sound.queueConnect {l p : Nat} {srClass : Option Nat} {streamId : StreamId} {vlan : Bool} {priority : Nat}
    {socket : VlanLabel} (sound : net.Sound) (phys : net.logicalPort l = some p) (own : net.bridge l = false) :
    (net.queueConnect p srClass streamId vlan priority socket = (net,none)) ∨
      ∃ next queue, net.queueConnect p srClass streamId vlan priority socket = (next,some queue) ∧ next.Sound ∧
        next.handler = net.handler ∧ net.Connectable l srClass streamId vlan priority := by
  unfold NetQos.queueConnect
  cases srClass with
  | some srClass =>
    dsimp only
    rcases @PortQos.Sound.streamConnect _ net.config srClass streamId socket (sound p) with
      refused | ⟨port,queue,granted,kept,connectable⟩
    · rw [refused]
      exact .inl (congrArg (·,none) (modifyPort_same rfl))
    · rw [granted]
      exact .inr ⟨_,_,rfl,sound.modifyPort kept,rfl,own,p,phys,connectable⟩
  | none =>
    cases free : net.qosQueueFree p (if vlan then priority else QOS_BEST_EFFORT_PRIORITY) with
    | none => exact .inl rfl
    | some queue => exact .inr ⟨_,_,rfl,sound,rfl,own,p,phys,Option.isSome_iff_exists.mpr ⟨queue,free⟩⟩

theorem NetQos.Sound.avtpSocketConnect {l : Nat} {srClass : Option Nat} {streamId : StreamId} {vlan : Bool}
    {priority : Nat} {socket : VlanLabel} (sound : net.Sound)
    (allowed : Allowed net (.streamConnect l srClass streamId vlan priority socket)) :
    (net.avtpSocketConnect l srClass streamId vlan priority socket).1.Sound ∧
      ((net.avtpSocketConnect l srClass streamId vlan priority socket).2 = false →
        (net.avtpSocketConnect l srClass streamId vlan priority socket).1 = net) := by
  unfold NetQos.avtpSocketConnect
  cases phys : net.logicalPort l with
  | none => exact ⟨sound,fun _ => rfl⟩
  | some p =>
    dsimp only
    cases bridge : net.bridge l with
    | true => exact ⟨sound,fun _ => rfl⟩
    | false =>
      rcases @NetQos.Sound.queueConnect _ l p srClass streamId vlan priority socket sound phys bridge with
        refused | ⟨next,queue,connected,kept,same,connectable⟩
      · rw [refused]
        exact ⟨sound,fun _ => rfl⟩
      · have free := allowed connectable
        unfold streamHdlrFind at free
        rw [← same] at free
        rw [connected]
        dsimp only
        unfold streamHdlrFind
        rw [free]
        exact ⟨kept,nofun⟩

theorem NetQos.Sound.avtpSocketDisconnect (sound : net.Sound) (l : Nat) (streamId : StreamId) :
    (net.avtpSocketDisconnect l streamId).Sound := by
  unfold NetQos.avtpSocketDisconnect
  split
  next p stream _ _ =>
    cases stream.queue with
    | sr c q => exact @NetQos.Sound.modifyPort {net with handler := _} p _ sound (sound p).netQosStreamDisconnect
    | plain t q => exact sound
  · exact sound

theorem netQosInit_sound (config : SrClassConfig) (logicalPort : Nat → Option Nat) (bridge : Nat → Bool) :
    (netQosInit config logicalPort bridge).Sound := by
  intro p
  have none (weight : StreamQueue → Nat) (light : weight ⟨⟨0,0⟩,0,none,⟨0,0⟩,0,false,false⟩ = 0) (n : Nat) (c : Nat) :
      total n weight (((netQosInit config logicalPort bridge).port p).srClass c).stream = 0 :=
    total_eq_zero fun _ _ => light
  have window (weight : StreamQueue → Nat) (light : weight ⟨⟨0,0⟩,0,.none,⟨0,0⟩,0,false,false⟩ = 0) :
      ((netQosInit config logicalPort bridge).port p).window (fun _ => CFG_SR_CLASS_HIGH_STREAM_MAX) weight = 0 :=
    total_eq_zero fun c _ => none weight light _ c
  refine ⟨?_,?_,⟨?_,?_,?_⟩,?_,?_⟩
  · intro c
    refine ⟨srClassInit_size config c _,⟨?_,fun _ _ _ => rfl,fun _ _ => Nat.le_refl _⟩,⟨?_,?_,?_⟩,?_⟩
    · intro i _ j _ used
      cases used
    · intro i _ connected
      cases connected
    · intro q i back
      cases back
    · intro q
      constructor
      · intro connected
        cases connected
      · exact fun linked => absurd rfl linked
    · intro i _ q connected
      cases connected
  · intro c _
    refine ⟨?_,?_,?_,?_⟩
    · rw [none _ rfl]
      rfl
    · rw [none _ rfl]
      rfl
    · rw [none _ rfl]
      rfl
    · rw [none _ rfl]
      rfl
  · rw [window _ rfl]
    rfl
  · rw [window _ rfl]
    rfl
  · rw [window _ rfl]
    exact Nat.zero_le _
  · exact Nat.le_refl _
  · exact Nat.two_pow_pos 31

private theorem qosStep_kept (sound : net.Sound) (allowed : Allowed net input) :
    (qosStep input net).Sound ∧ RefusedUnchanged net input := by
  cases input with
  | srConfig request => exact sound.srConfig allowed
  | streamConnect l srClass streamId vlan priority socket => exact sound.avtpSocketConnect allowed
  | streamDisconnect l streamId => exact ⟨sound.avtpSocketDisconnect l streamId,nofun⟩
  | linkUp p phySpeed =>
    refine ⟨sound.modifyPort ((sound p).ethAvbOpen allowed),?_⟩
    intro refused
    have enabled : (net.port p).enabled = true := by simpa [qosRequest] using refused
    apply modifyPort_same
    unfold PortQos.ethAvbOpen
    rw [if_pos enabled]
  | linkDown p =>
    refine ⟨sound.modifyPort ((sound p).enable false),?_⟩
    intro refused
    cases refused
  | srClassConfigure logicalPort first second => exact sound.srClassConfigure logicalPort first second

end Requests

section Runs

def classesAB : SrClassConfig := ⟨0,1,SrClassConfig.classes_AB⟩

def reserveB (streamId : StreamId) (idleSlope : BitVec 32) : QosInput := .srConfig ⟨0,2,2,idleSlope,streamId⟩

def noBridge (_ : Nat) : Bool := false

def onePort (port : Nat) : Option Nat := if port = 0 then some 0 else none

end Runs

end Genavb.Qos
