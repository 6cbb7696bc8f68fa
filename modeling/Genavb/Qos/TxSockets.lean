import Genavb.Qos.State
import Genavb.Support.Bitmap

/-! The transmit scheduler of `net_tx.c`: pending and scheduled queues, the credits of the shapers, and the ticks of the
hardware timer. -/
namespace Genavb.Qos
open Support
open Function (update)

def QUEUE_ENTRIES_MAX : Nat := 32
def CFG_NET_TX_EXTRA_ENTRIES : Nat := 32
def CFG_TRAFFIC_CLASS_MAX : Nat := 4
def HW_TIMER_PERIOD_NS : BitVec 32 := 125000
def BITS_PER_LONG : Nat := 64
def ETHER_MIN_FRAME_SIZE : BitVec 32 := 64
def FCS_LEN : BitVec 32 := 4
def PORT_OVERHEAD : BitVec 32 := 24

/-- The memory of a queue: it lies in a socket, or in a port for the packets of the host. -/
inductive TxRing where
  | socket (s : Nat)
  | host (p : Nat)
  deriving DecidableEq

def TxRing.size : TxRing → Nat
  | .socket _ => QUEUE_ENTRIES_MAX + CFG_NET_TX_EXTRA_ENTRIES
  | .host _ => QUEUE_ENTRIES_MAX

/-- `ts` is there with the flag `AVB_TX_FLAG_TS`. -/
structure TxDesc where
  len : BitVec 32
  ts : Option (BitVec 32)
  deriving DecidableEq

/-- What the transmit context adds to a shaper. `seen` counts the intervals before its last update. -/
structure Credit where
  credit : BitVec 32
  tlast : BitVec 32
  seen : Nat
  deriving DecidableEq

inductive ShaperId where
  | port
  | srClass (c : Nat)
  | stream (c i : Nat)
  deriving DecidableEq

/-- An increment of a credit, which is limited to zero where the shaper was idle. -/
structure CreditUpdate where
  shaper : ShaperId
  wakes : Bool
  before : Credit
  tnow : BitVec 32
  now : Nat
  rate : BitVec 32
  after : BitVec 32
  deriving DecidableEq

/-- `i + p / q`. -/
structure Rational where
  i : BitVec 32
  p : BitVec 32
  q : BitVec 32
  deriving DecidableEq

namespace Rational

def reduce (r : Rational) : Rational :=
  if r.p < r.q then r
  else
    let r := {r with i := r.i + 1, p := r.p - r.q}
    if r.p < r.q then r else {r with i := r.i + r.p / r.q, p := r.p - r.p / r.q * r.q}

def init (p : Nat) (q : BitVec 32) : Rational :=
  let q := if q = 0 then 1 else q
  reduce ⟨BitVec.ofNat 32 (p / q.toNat),BitVec.ofNat 32 (p % q.toNat),q⟩

def add (r1 r2 : Rational) : Rational :=
  if r1.q = r2.q then reduce ⟨r1.i + r2.i,r1.p + r2.p,r1.q⟩
  else reduce ⟨r1.i + r2.i,r1.p * r2.q + r2.p * r1.q,r1.q * r2.q⟩

def intMul (i : BitVec 32) (r : Rational) : BitVec 32 := i * r.i + i * r.p / r.q

def intDiv (r1 : Rational) (i : BitVec 32) : Rational := init (r1.i.toNat * r1.q.toNat + r1.p.toNat) (i * r1.q)

def intCmp (i : BitVec 32) (r : Rational) : Int :=
  if 0 < (i - r.i).toInt then 1
  else if (i - r.i).toInt < 0 then -1
  else if r.p = 0 then 0
  else -1

end Rational

/-- A traffic class. The queues of an SR class are those of `SrClass`, of which `queue` has the memory. -/
structure TrafficClass where
  qosQueue : Nat → QosQueue
  queue : Nat → Option TxRing
  scheduledMask : BitVec 64
  slast : Nat
  sharedPendingMask : BitVec 64
  log : List (RoundRobinEntry 64)

/-- The transmit context of an SR class. `intervals` counts all its intervals. -/
structure SrTransmit where
  shaper : Credit
  stream : Nat → Credit
  scale : BitVec 32
  interval : Rational
  intervalRatio : Rational
  tnext : Rational
  tnextGptp : BitVec 32
  intervalN : BitVec 32
  pendingMask : BitVec 64
  intervals : Nat

structure TxPort where
  qos : PortQos
  shaper : Shaper
  credit : Credit
  tnow : BitVec 32
  intervalN : BitVec 32
  intervals : Nat
  trafficClass : Nat → TrafficClass
  sr : Nat → SrTransmit
  updates : List CreditUpdate

/-- A port and the memory of all queues. -/
structure Traffic where
  port : TxPort
  ring : TxRing → List TxDesc

/-- What the driver makes of a packet: it takes it, takes it with its ring full then, or refuses it. -/
inductive Xmit where
  | sent
  | full
  | refused
  deriving DecidableEq

inductive Stop where
  | goes
  | full
  | lost
  deriving DecidableEq

/-- A tick after `sent` packets. -/
structure Sending extends Traffic where
  sent : Nat
  stop : Stop

structure PtpGrid where
  now : BitVec 32
  period : BitVec 32

def incrCredit (credit dt rate : BitVec 32) : BitVec 32 :=
  if 0x10000 < dt ∨ 0x40000000 ≤ credit.toInt then 0x40000000 else credit + dt * rate

/-- The increment of a credit. That of a shaper that was idle is limited to zero right after it. -/
def Credit.incr (wakes : Bool) (tnow : BitVec 32) (now : Nat) (rate : BitVec 32) (credit : Credit) : Credit :=
  let sum := incrCredit credit.credit (tnow - credit.tlast) rate
  ⟨if wakes ∧ 0 < sum.toInt then 0 else sum,tnow,now⟩

def avtpBefore (now t : BitVec 32) : Bool := 0 < (t - now).toInt

def shaperReady (shaper : Shaper) (credit : Credit) : Bool := shaper.creditMin.toInt ≤ credit.credit.toInt

def frameBits (len : BitVec 32) : BitVec 32 :=
  ((if len < ETHER_MIN_FRAME_SIZE - FCS_LEN then ETHER_MIN_FRAME_SIZE - FCS_LEN else len) + PORT_OVERHEAD) * 8

def srTclass (c : Nat) : Nat := (priorityToTclass (srPrioPcp c)).getD 0

/-- The bits of a mask from the top, as the loops over pending queues take them. -/
def bitsDown (mask : BitVec 64) : List Nat := (List.range BITS_PER_LONG).reverse.filter (maskHas mask)

namespace TrafficClass

def setShared (q : Nat) (tc : TrafficClass) : TrafficClass :=
  {tc with sharedPendingMask := maskSet tc.sharedPendingMask q}

def clearShared (q : Nat) (tc : TrafficClass) : TrafficClass :=
  {tc with sharedPendingMask := maskClear tc.sharedPendingMask q}

def schedule (q : Nat) (tc : TrafficClass) : TrafficClass := {tc with scheduledMask := maskSet tc.scheduledMask q}

def unschedule (q : Nat) (tc : TrafficClass) : TrafficClass :=
  {tc with scheduledMask := maskClear tc.scheduledMask q, log := tc.log ++ [.cleared q]}

/-- `round_robin_scheduler`, which makes the queue it finds the last one served. -/
def serve (q : Nat) (tc : TrafficClass) : TrafficClass :=
  {tc with slast := q, log := tc.log ++ [.served q tc.scheduledMask]}

end TrafficClass

namespace TxPort

def modifyTraffic (t : Nat) (f : TrafficClass → TrafficClass) (port : TxPort) : TxPort :=
  {port with trafficClass := update port.trafficClass t (f (port.trafficClass t))}

def modifySr (c : Nat) (f : SrTransmit → SrTransmit) (port : TxPort) : TxPort :=
  {port with sr := update port.sr c (f (port.sr c))}

def qosQueue (t q : Nat) (port : TxPort) : QosQueue :=
  match tclassSrClass t with
  | some c => (port.qos.srClass c).qosQueue q
  | none => (port.trafficClass t).qosQueue q

def portIncrCredit (port : TxPort) : TxPort :=
  if port.credit.credit.toInt < 0 then
    let credit := port.credit.incr true port.intervalN port.intervals port.shaper.rate
    {port with
      credit := credit
      updates := port.updates ++
        [⟨.port,true,port.credit,port.intervalN,port.intervals,port.shaper.rate,credit.credit⟩]}
  else {port with credit := ⟨port.credit.credit,port.intervalN,port.intervals⟩}

def streamIncrCredit (wakes : Bool) (c i : Nat) (port : TxPort) : TxPort :=
  let sr := port.sr c
  let rate := ((port.qos.srClass c).stream i).shaper.rate
  let credit := (sr.stream i).incr wakes sr.intervalN sr.intervals rate
  {port.modifySr c fun sr => {sr with stream := update sr.stream i credit} with
    updates := port.updates ++
      [⟨.stream c i,wakes,sr.stream i,sr.intervalN,sr.intervals,rate,credit.credit⟩]}

def srClassIncrCredit (wakes : Bool) (c : Nat) (port : TxPort) : TxPort :=
  let sr := port.sr c
  let rate := (port.qos.srClass c).shaper.rate
  let credit := sr.shaper.incr wakes sr.intervalN sr.intervals rate
  {port.modifySr c fun sr => {sr with shaper := credit} with
    updates := port.updates ++
      [⟨.srClass c,wakes,sr.shaper,sr.intervalN,sr.intervals,rate,credit.credit⟩]}

def portDecCredit (len : BitVec 32) (port : TxPort) : TxPort :=
  {port with credit := {port.credit with credit := port.credit.credit - frameBits len}}

def portReady (port : TxPort) : Bool := shaperReady port.shaper port.credit

def srClassReady (c : Nat) (port : TxPort) : Bool := shaperReady (port.qos.srClass c).shaper (port.sr c).shaper

def streamReady (c i : Nat) (port : TxPort) : Bool :=
  shaperReady ((port.qos.srClass c).stream i).shaper ((port.sr c).stream i)

end TxPort

namespace Traffic

def modifyPort (f : TxPort → TxPort) (traffic : Traffic) : Traffic := {traffic with port := f traffic.port}

def content (t q : Nat) (traffic : Traffic) : List TxDesc :=
  match (traffic.port.trafficClass t).queue q with
  | some r => traffic.ring r
  | none => []

/-- It has no result where it follows a pointer that is null. -/
def queueTxReady (c t i : Nat) (traffic : Traffic) : Option Bool := do
  let q ← ((traffic.port.qos.srClass c).stream i).qosQueue
  let r ← (traffic.port.trafficClass t).queue q
  match traffic.ring r with
  | [] => return false
  | desc :: _ =>
    match desc.ts with
    | some ts => return avtpBefore ts (traffic.port.sr c).tnextGptp
    | none => return true

def srClassDecCredit (c t q : Nat) (len : BitVec 32) (traffic : Traffic) : Option Traffic := do
  let i ← (traffic.port.qosQueue t q).stream
  let bits := frameBits len * (traffic.port.sr c).scale
  let traffic := traffic.modifyPort fun port => (port.modifySr c fun sr =>
    {sr with
      stream := update sr.stream i {sr.stream i with credit := (sr.stream i).credit - bits}
      shaper := {sr.shaper with credit := sr.shaper.credit - bits}}).modifyTraffic t (TrafficClass.clearShared q)
  if !(← traffic.queueTxReady c t i) then
    let traffic :=
      if traffic.content t q ≠ [] then traffic.modifyPort fun port => port.modifyTraffic t (TrafficClass.setShared q)
      else traffic
    return traffic.modifyPort fun port =>
      (port.modifySr c fun sr => {sr with pendingMask := maskClear sr.pendingMask q}).modifyTraffic t
        (TrafficClass.unschedule q)
  else
    let traffic := traffic.modifyPort fun port => port.modifyTraffic t (TrafficClass.setShared q)
    if !traffic.port.streamReady c i then
      return traffic.modifyPort fun port => port.modifyTraffic t (TrafficClass.unschedule q)
    else return traffic

def schedulePending (c t q i : Nat) (traffic : Traffic) : Traffic :=
  if traffic.port.streamReady c i then traffic.modifyPort fun port => port.modifyTraffic t (TrafficClass.schedule q)
  else traffic

def newPending (c t : Nat) (traffic : Traffic) (q : Nat) : Option Traffic := do
  let i ← (traffic.port.qosQueue t q).stream
  if ← traffic.queueTxReady c t i then
    let traffic := traffic.modifyPort fun port =>
      (port.modifySr c fun sr => {sr with pendingMask := maskSet sr.pendingMask q}).streamIncrCredit true c i
    return traffic.schedulePending c t q i
  else return traffic

def oldPending (c t : Nat) (traffic : Traffic) (q : Nat) : Option Traffic := do
  let i ← (traffic.port.qosQueue t q).stream
  return (traffic.modifyPort fun port => port.streamIncrCredit false c i).schedulePending c t q i

def srClassUpdate (c t : Nat) (traffic : Traffic) : Option Traffic := do
  let idle : Bool := (traffic.port.trafficClass t).scheduledMask = 0
  let new := (traffic.port.trafficClass t).sharedPendingMask &&& ~~~(traffic.port.sr c).pendingMask
  let traffic ← (bitsDown new).foldlM (newPending c t) traffic
  let old := (traffic.port.sr c).pendingMask &&& ~~~(traffic.port.trafficClass t).scheduledMask
  let traffic ← (bitsDown old).foldlM (oldPending c t) traffic
  if idle ∧ (traffic.port.trafficClass t).scheduledMask = 0 then return traffic
  else return traffic.modifyPort fun port => port.srClassIncrCredit idle c

def trafficClassUpdateQueue (t q : Nat) (traffic : Traffic) : Traffic :=
  let traffic := traffic.modifyPort fun port => port.modifyTraffic t (TrafficClass.clearShared q)
  if traffic.content t q ≠ [] then traffic.modifyPort fun port => port.modifyTraffic t (TrafficClass.setShared q)
  else traffic.modifyPort fun port => port.modifyTraffic t (TrafficClass.unschedule q)

def trafficClassUpdate (t : Nat) (traffic : Traffic) : Traffic :=
  let new := (traffic.port.trafficClass t).sharedPendingMask &&& ~~~(traffic.port.trafficClass t).scheduledMask
  (bitsDown new).foldl (fun traffic q =>
    if traffic.content t q ≠ [] then traffic.modifyPort fun port => port.modifyTraffic t (TrafficClass.schedule q)
    else traffic) traffic

def packets (t : Nat) (traffic : Traffic) : Nat :=
  ((List.range CFG_TRAFFIC_CLASS_QUEUE_MAX).map fun q => (traffic.content t q).length).sum

def queueFlush (t q : Nat) (traffic : Traffic) : Traffic :=
  if !(traffic.port.qosQueue t q).connected then traffic
  else
    let traffic := traffic.modifyPort fun port =>
      port.modifyTraffic t fun tc => (tc.clearShared q).unschedule q
    match (traffic.port.trafficClass t).queue q with
    | none => traffic
    | some r => {traffic with ring := update traffic.ring r []}

def streamFlush (c : Nat) (traffic : Traffic) (i : Nat) : Traffic :=
  let stream := (traffic.port.qos.srClass c).stream i
  if !stream.connected then traffic
  else
    match stream.qosQueue with
    | none => traffic
    | some q => (traffic.modifyPort fun port =>
        port.modifySr c fun sr => {sr with pendingMask := maskClear sr.pendingMask q}).queueFlush (srTclass c) q

def portFlush (traffic : Traffic) : Traffic :=
  let traffic := (List.range CFG_TRAFFIC_CLASS_MAX).foldl (fun traffic t =>
    (List.range CFG_TRAFFIC_CLASS_QUEUE_MAX).foldl (fun traffic q => traffic.queueFlush t q) traffic) traffic
  (List.range CFG_SR_CLASS_MAX).foldl (fun traffic c =>
    (List.range (traffic.port.qos.srClass c).streamMax).foldl (streamFlush c) traffic) traffic

end Traffic

namespace Sending

/-- `sr_class_tx` and `traffic_class_tx`: `account` is what follows a packet that the driver has taken. -/
def transmit (t q : Nat) (account : BitVec 32 → Traffic → Option Traffic) (xmit : Nat → Xmit) (s : Sending) :
    Option Sending := do
  let r ← (s.port.trafficClass t).queue q
  match s.ring r with
  | [] => none
  | desc :: rest =>
    match xmit s.sent with
    | .refused => return {s with sent := s.sent + 1, stop := .full}
    | outcome =>
      let traffic : Traffic := ⟨s.port.portDecCredit desc.len,update s.ring r rest⟩
      return ⟨← account desc.len traffic,s.sent + 1,if outcome = .full then .full else .goes⟩

def srClassTurn (c t : Nat) (xmit : Nat → Xmit) (s : Sending) : Option Sending := do
  match roundRobin (s.port.trafficClass t).scheduledMask (s.port.trafficClass t).slast with
  | none => return {s with stop := .lost}
  | some q =>
    let port := s.port.modifyTraffic t (TrafficClass.serve q)
    let i ← (port.qosQueue t q).stream
    {s with port := port.streamIncrCredit false c i}.transmit t q (Traffic.srClassDecCredit c t q) xmit

def srClassGoes (c t : Nat) (s : Sending) : Bool :=
  s.stop = .goes ∧ s.port.portReady ∧ s.port.srClassReady c ∧ (s.port.trafficClass t).scheduledMask ≠ 0

def srClassScheduler (c t : Nat) (grid : PtpGrid) (xmit : Nat → Xmit) (s : Sending) : Option Sending := do
  let sr := s.port.sr c
  if sr.tnext.intCmp s.port.tnow < 0 then return s
  let tnextGptp := grid.now - (s.port.tnow - sr.tnext.i) + sr.intervalRatio.intMul grid.period
  let traffic : Traffic := ⟨s.port.modifySr c fun sr => {sr with tnextGptp := tnextGptp},s.ring⟩
  let traffic ← traffic.srClassUpdate c t
  let s ← loop (srClassGoes c t) (srClassTurn c t xmit) (traffic.packets t + 1) ⟨traffic,s.sent,.goes⟩
  if s.stop = .lost then return s
  return {s with port := s.port.modifySr c fun sr =>
    {sr with tnext := sr.tnext.add sr.interval, intervalN := sr.intervalN + 1, intervals := sr.intervals + 1}}

def trafficClassTurn (t : Nat) (xmit : Nat → Xmit) (s : Sending) : Option Sending :=
  match roundRobin (s.port.trafficClass t).scheduledMask (s.port.trafficClass t).slast with
  | none => some {s with stop := .lost}
  | some q => {s with port := s.port.modifyTraffic t (TrafficClass.serve q)}.transmit t q
      (fun _ traffic => some (traffic.trafficClassUpdateQueue t q)) xmit

def trafficClassGoes (t : Nat) (s : Sending) : Bool :=
  s.stop = .goes ∧ s.port.portReady ∧ (s.port.trafficClass t).scheduledMask ≠ 0

def trafficClassScheduler (t : Nat) (xmit : Nat → Xmit) (s : Sending) : Option Sending :=
  let traffic := s.toTraffic.trafficClassUpdate t
  loop (trafficClassGoes t) (trafficClassTurn t xmit) (traffic.packets t + 1) ⟨traffic,s.sent,.goes⟩

def classScheduler (grid : PtpGrid) (xmit : Nat → Xmit) (s : Sending) (t : Nat) : Option Sending :=
  match tclassSrClass t with
  | some c => s.srClassScheduler c t grid xmit
  | none => s.trafficClassScheduler t xmit

end Sending

/-- A tick, in which the PTP grid of the port stands at `grid` and the driver takes the packets as `xmit` says. -/
def portScheduler (grid : PtpGrid) (xmit : Nat → Xmit) (traffic : Traffic) : Option Traffic := do
  let s : Sending := ⟨traffic.modifyPort TxPort.portIncrCredit,0,.goes⟩
  let s ← (List.range CFG_TRAFFIC_CLASS_MAX).reverse.foldlM (Sending.classScheduler grid xmit) s
  return s.toTraffic.modifyPort fun port =>
    {port with
      tnow := port.tnow + HW_TIMER_PERIOD_NS
      intervalN := port.intervalN + 1
      intervals := port.intervals + 1}

end Genavb.Qos

/-! The sockets of the transmit side (`net_socket.c`, `avtp.c`, `ptp.c`, `mrp.c`), the link and the reservations, on the
queues of the scheduler. -/
namespace Genavb.Qos
open Common Support
open Function (update)

def srClassIntervalScale : List Nat := [1,2,8,8,8]

/-- An address of a transmit socket. `srClass` is none for `SR_CLASS_NONE`, and the priority of such a stream counts if
it has a VLAN. -/
inductive TxAddress where
  | stream (srClass : Option Nat) (streamId : StreamId) (vlan : Bool) (priority : Nat)
  | avdecc (priority : Nat)
  | ptp (priority : Nat)
  | mrp (priority : Nat)
  deriving DecidableEq

structure TxQueueId where
  p : Nat
  t : Nat
  q : Nat
  deriving DecidableEq

/-- `port` is the logical port of its address. -/
structure TxSocket where
  connected : Bool
  port : Nat
  address : Option TxAddress
  qosQueue : Option TxQueueId
  deriving DecidableEq

/-- `handler` lists the stream sockets of a logical port, and `netSock` is its socket with timestamps. -/
structure NetTx where
  config : SrClassConfig
  logicalPort : Nat → Option Nat
  bridge : Nat → Bool
  port : Nat → TxPort
  ring : TxRing → List TxDesc
  socket : Nat → TxSocket
  handler : Nat → List Nat
  netSock : Nat → Option Nat

def TxAddress.streamId : TxAddress → Option StreamId
  | .stream _ streamId _ _ => some streamId
  | _ => none

namespace TxPort

/-- `qos_queue_connect` for a class that is not an SR class. -/
def queueConnect (priority : Nat) (r : TxRing) (port : TxPort) : TxPort × Option (Nat × Nat) :=
  match priorityToTclass priority with
  | none => (port,none)
  | some t =>
    if (tclassSrClass t).isSome then (port,none)
    else
      match (List.range CFG_TRAFFIC_CLASS_QUEUE_MAX).find? fun q => !((port.trafficClass t).qosQueue q).connected with
      | none => (port,none)
      | some q => (port.modifyTraffic t fun tc =>
          {tc with
            qosQueue := update tc.qosQueue q {tc.qosQueue q with connected := true, enabled := true}
            queue := update tc.queue q (some r)},some (t,q))

def streamConnect (config : SrClassConfig) (srClass : Nat) (streamId : StreamId) (r : TxRing) (port : TxPort) :
    TxPort × Option (Nat × Nat) :=
  match port.qos.netQosStreamConnect config srClass streamId ⟨0,0⟩ with
  | (qos,none) => ({port with qos := qos},none)
  | (qos,some (c,q)) => ({port with qos := qos}.modifyTraffic (srTclass c) fun tc =>
      {tc with queue := update tc.queue q (some r)},some (srTclass c,q))

/-- A configured stream has an idle slope, so that the reset flushes none. -/
def ethAvbOpen (phySpeed : Nat) (port : TxPort) : TxPort :=
  if port.qos.enabled then port
  else
    let portRateBps := BitVec.ofNat 32 (phySpeed * 1000000)
    let rate := BitVec.ofInt 32 (portRateBps.toInt.tdiv 1000000) * HW_TIMER_PERIOD_NS / 1000
    {port with
      qos := port.qos.ethAvbOpen phySpeed
      shaper := shaperInit (rate - (rate + 4999) / 5000)
      credit := ⟨0,0,port.intervals⟩
      intervalN := 0
      sr := fun c =>
        if c < CFG_SR_CLASS_MAX then {port.sr c with shaper := ⟨0,0,(port.sr c).intervals⟩, intervalN := 0}
        else port.sr c}

def srTransmitInit (srClass : Nat) : SrTransmit :=
  let scale := srClassIntervalScale.getD srClass 0
  let period := (srClassInterval srClass).getD (0,1)
  let interval := Rational.init period.1 (BitVec.ofNat 32 (period.2 * scale))
  { shaper := ⟨0,0,0⟩
    stream := fun _ => ⟨0,0,0⟩
    scale := BitVec.ofNat 32 scale
    interval := interval
    intervalRatio := interval.intDiv HW_TIMER_PERIOD_NS
    tnext := Rational.init 0 interval.q
    tnextGptp := 0
    intervalN := 0
    pendingMask := 0
    intervals := 0 }

/-- A port after `net_qos_port_init` and the connection of the queue of its host. -/
def init (config : SrClassConfig) (p : Nat) : TxPort :=
  let port : TxPort :=
    { qos := (netQosInit config (fun _ => none) fun _ => false).port p
      shaper := ⟨0,0⟩
      credit := ⟨0,0,0⟩
      tnow := 0
      intervalN := 0
      intervals := 0
      trafficClass := fun _ => ⟨fun _ => ⟨false,false,none,none⟩,fun _ => none,0,0,0,[]⟩
      sr := fun c => srTransmitInit (srPrioClass config c)
      updates := [] }
  (port.queueConnect QOS_BEST_EFFORT_PRIORITY (.host p)).1

end TxPort

namespace Traffic

/-- `qos_queue_disconnect` of a class that is not an SR class. -/
def queueDisconnect (t q : Nat) (traffic : Traffic) : Traffic :=
  (traffic.queueFlush t q).modifyPort fun port => port.modifyTraffic t fun tc =>
    {tc with
      queue := update tc.queue q none
      qosQueue := update tc.qosQueue q {tc.qosQueue q with connected := false}}

def streamDisconnect (c t q : Nat) (traffic : Traffic) : Traffic :=
  match (traffic.port.qosQueue t q).stream with
  | none => traffic
  | some i =>
    let stream := (traffic.port.qos.srClass c).stream i
    let traffic := (traffic.queueFlush t q).modifyPort fun port =>
      port.modifyTraffic t fun tc => {tc with queue := update tc.queue q none}
    let traffic :=
      match stream.connected,stream.qosQueue with
      | true,some k => traffic.modifyPort fun port =>
          port.modifySr c fun sr => {sr with pendingMask := maskClear sr.pendingMask k}
      | _,_ => traffic
    traffic.modifyPort fun port => {port with qos := port.qos.netQosStreamDisconnect c q}

def disconnect (t q : Nat) (traffic : Traffic) : Traffic :=
  match tclassSrClass t with
  | some c => traffic.streamDisconnect c t q
  | none => traffic.queueDisconnect t q

def srConfig (c : Nat) (request : NetSrConfig) (traffic : Traffic) : Traffic :=
  match traffic.port.qos.netQosStreamGet c request.streamId with
  | (qos,none) => traffic.modifyPort fun port => {port with qos := qos}
  | (qos,some i) =>
    let qos :=
      if request.idleSlope ≠ 0 then qos.labelStream c i ⟨request.vlanId.setWidth 12,BitVec.ofNat 3 request.priority⟩
      else qos
    let (qos,error) := qos.netQosStreamConfigure c i request.idleSlope
    let traffic := traffic.modifyPort fun port => {port with qos := qos}
    if error = none ∧ request.idleSlope = 0 then traffic.streamFlush c i else traffic

def enqueue (t q : Nat) (r : TxRing) (descs : List TxDesc) (traffic : Traffic) : Traffic :=
  let available := r.size - 1 - (traffic.ring r).length
  if descs.take available = [] then traffic
  else
    ⟨traffic.port.modifyTraffic t (TrafficClass.setShared q),
      update traffic.ring r (traffic.ring r ++ descs.take available)⟩

end Traffic

namespace NetTx

def modifyTraffic (p : Nat) (f : Traffic → Traffic) (net : NetTx) : NetTx :=
  let traffic := f ⟨net.port p,net.ring⟩
  {net with port := update net.port p traffic.port, ring := traffic.ring}

def modifySocket (s : Nat) (f : TxSocket → TxSocket) (net : NetTx) : NetTx :=
  {net with socket := update net.socket s (f (net.socket s))}

/-- `__socket_disconnect`, which is given the logical port that the socket is about to be connected to, if there is
one. -/
def socketDisconnect (l s : Nat) (net : NetTx) : NetTx :=
  let sock := net.socket s
  if !sock.connected then net
  else
    let net :=
      match sock.address with
      | some (.stream _ _ _ _) => {net with handler := fun l => (net.handler l).erase s}
      | some (.ptp _) => {net with netSock := update net.netSock l none}
      | _ => net
    let net :=
      match sock.qosQueue with
      | some queue => net.modifyTraffic queue.p (Traffic.disconnect queue.t queue.q)
      | none => net
    net.modifySocket s fun _ => ⟨false,0,none,none⟩

def streamHdlrFind (l : Nat) (streamId : StreamId) (net : NetTx) : Bool :=
  (net.handler l).any fun s => ((net.socket s).address.bind TxAddress.streamId) == some streamId

def queueConnect (p : Nat) (address : TxAddress) (s : Nat) (net : NetTx) : NetTx × Option TxQueueId :=
  let (port,queue) :=
    match address with
    | .stream (some srClass) streamId _ _ => (net.port p).streamConnect net.config srClass streamId (.socket s)
    | .stream none _ vlan priority =>
      (net.port p).queueConnect (if vlan then priority else QOS_BEST_EFFORT_PRIORITY) (.socket s)
    | .avdecc priority => (net.port p).queueConnect priority (.socket s)
    | .ptp priority => (net.port p).queueConnect priority (.socket s)
    | .mrp priority => (net.port p).queueConnect priority (.socket s)
  let queue := queue.map fun queue => ⟨p,queue.1,queue.2⟩
  ({net with port := update net.port p port}.modifySocket s fun sock => {sock with qosQueue := queue},queue)

/-- What is refused before a queue is connected. -/
def refuses (l : Nat) (address : TxAddress) (net : NetTx) : Bool :=
  match address with
  | .stream srClass _ _ _ => net.bridge l || srClass.any fun srClass => !net.config.srClassEnabled srClass
  | .avdecc _ => net.bridge l
  | .ptp _ => (net.netSock l).isSome
  | .mrp _ => false

/-- The connection of a socket that is not connected. A stream that the logical port has already is refused only after
the queue is connected. -/
def connectFresh (l p s : Nat) (address : TxAddress) (net : NetTx) : NetTx :=
  if net.refuses l address then net
  else
    match net.queueConnect p address s with
    | (net,none) => net
    | (net,some _) =>
      match address with
      | .stream _ streamId _ _ =>
        if net.streamHdlrFind l streamId then net
        else
          {net with handler := update net.handler l (s :: net.handler l)}.modifySocket s fun sock =>
            {sock with connected := true, port := l, address := some address}
      | .ptp _ =>
        {net with netSock := update net.netSock l (some s)}.modifySocket s fun sock =>
          {sock with connected := true, port := l, address := some address}
      | _ => net.modifySocket s fun sock => {sock with connected := true, port := l, address := some address}

def socketConnect (l s : Nat) (address : TxAddress) (net : NetTx) : NetTx :=
  match net.logicalPort l with
  | none => net
  | some p => (net.socketDisconnect l s).connectFresh l p s address

def socketWrite (s : Nat) (descs : List TxDesc) (net : NetTx) : NetTx :=
  match (net.socket s).connected,(net.socket s).qosQueue with
  | true,some queue =>
    let port := net.port queue.p
    if port.qos.enabled ∧ (port.qosQueue queue.t queue.q).enabled then
      net.modifyTraffic queue.p (Traffic.enqueue queue.t queue.q (.socket s) descs)
    else net
  | _,_ => net

def hostWrite (p : Nat) (desc : TxDesc) (net : NetTx) : NetTx :=
  if (net.port p).qos.enabled then net.modifyTraffic p (Traffic.enqueue 0 0 (.host p) [desc]) else net

def ethAvbClose (p : Nat) (net : NetTx) : NetTx :=
  net.modifyTraffic p fun traffic =>
    (traffic.modifyPort fun port => {port with qos := port.qos.ethAvbClose}).portFlush

end NetTx

inductive TxEvent where
  | connect (l s : Nat) (address : TxAddress)
  | disconnect (s : Nat)
  | write (s : Nat) (descs : List TxDesc)
  | hostWrite (p : Nat) (desc : TxDesc)
  | srConfig (request : NetSrConfig)
  | linkUp (p phySpeed : Nat)
  | linkDown (p : Nat)
  | tick (p : Nat) (grid : PtpGrid) (xmit : Nat → Xmit)

namespace NetTx

/-- The tick of a port that is enabled, which has no result where it takes a packet from an empty queue or follows a
null pointer. -/
def tick (p : Nat) (grid : PtpGrid) (xmit : Nat → Xmit) (net : NetTx) : Option NetTx :=
  if (net.port p).qos.enabled then
    (portScheduler grid xmit ⟨net.port p,net.ring⟩).map fun traffic =>
      {net with port := update net.port p traffic.port, ring := traffic.ring}
  else some net

def handle (event : TxEvent) (net : NetTx) : Option NetTx :=
  match event with
  | .connect l s address => some (net.socketConnect l s address)
  | .disconnect s => some (net.socketDisconnect (net.socket s).port s)
  | .write s descs => some (net.socketWrite s descs)
  | .hostWrite p desc => some (net.hostWrite p desc)
  | .srConfig request =>
    match net.logicalPort request.port,prioritySrClass request.priority with
    | some p,some c => some (net.modifyTraffic p (Traffic.srConfig c request))
    | _,_ => some net
  | .linkUp p phySpeed => some {net with port := update net.port p ((net.port p).ethAvbOpen phySpeed)}
  | .linkDown p => some (net.ethAvbClose p)
  | .tick p grid xmit => net.tick p grid xmit

def step (event : TxEvent) (net : NetTx) : NetTx := (net.handle event).getD net

def init (config : SrClassConfig) (logicalPort : Nat → Option Nat) (bridge : Nat → Bool) : NetTx where
  config := config
  logicalPort := logicalPort
  bridge := bridge
  port := TxPort.init config
  ring := fun _ => []
  socket := fun _ => ⟨false,0,none,none⟩
  handler := fun _ => []
  netSock := fun _ => none

end NetTx

end Genavb.Qos
