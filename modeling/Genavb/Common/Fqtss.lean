import Mathlib.Logic.Function.Basic
import Mathlib.Tactic.Common
import Mathlib.Algebra.Ring.Nat

/-! The SR classes of `sr_class.c`. -/
namespace Genavb.Common

/-- The classes A to E are 0 to 4, and `SR_CLASS_NONE` comes behind them. -/
def SR_CLASS_MAX : Nat := 5
def SR_CLASS_NONE : Nat := 5
def SR_CLASS_HIGH_PCP : Nat := 3
def SR_CLASS_LOW_PCP : Nat := 2
def SR_CLASS_HIGH_ID : Nat := 6
def SR_CLASS_LOW_ID : Nat := 5

/-- The two classes `sr_class_config` enables. -/
structure SrClassConfig where
  high : Nat
  low : Nat
  ordered : high < low ∧ low < SR_CLASS_MAX

namespace SrClassConfig

theorem classes_AB : 0 < 1 ∧ 1 < SR_CLASS_MAX := by decide

def srClassEnabled (config : SrClassConfig) (srClass : Nat) : Bool :=
  srClass == config.high || srClass == config.low

def srClassPcp (config : SrClassConfig) (srClass : Nat) : Nat :=
  if srClass = config.high then SR_CLASS_HIGH_PCP else SR_CLASS_LOW_PCP

def srClassId (config : SrClassConfig) (srClass : Nat) : Nat :=
  if srClass = config.high then SR_CLASS_HIGH_ID else SR_CLASS_LOW_ID

def srPcpClass (config : SrClassConfig) (pcp : Nat) : Nat :=
  if pcp = SR_CLASS_HIGH_PCP then config.high
  else if pcp = SR_CLASS_LOW_PCP then config.low
  else SR_CLASS_NONE

end SrClassConfig

/-- `interval_P` and `interval_Q` of the class table; an index behind the table reads foreign
memory. -/
def srClassInterval : Nat → Option (Nat × Nat)
  | 0 => some (125000,1)
  | 1 => some (250000,1)
  | 2 => some (4000000,3)
  | 3 => some (640000000,441)
  | 4 => some (1000000,1)
  | _ => none

end Genavb.Common

/-! Bandwidth accounting of `fqtss.c` and the idle slope of a stream (`srp.c`). -/
namespace Genavb.Common

def FQTSS_MAX_TRAFFIC_CLASS : Nat := 8
def CFG_MAX_LOGICAL_PORTS : Nat := 7

structure BandwidthAvailability where
  deltaBandwidth : Nat
  operIdleSlope : Nat
  lockClassBandwidth : Bool

structure FqtssPortParams where
  bandwidthAvailability : Nat → BandwidthAvailability
  totalOperIdleSlope : Nat
  portTransmitRate : Nat

/-- Ethernet framing of 14 bytes of header and 4 of FCS, at least 64 bytes, with gap and
preamble. -/
def macFrameSize (frameSize : Nat) : Nat := 12 + 8 + max (14 + frameSize + 4) 64

def srpTspecToIdleSlope (interval : Nat × Nat) (maxFrameSize maxIntervalFrames : Nat) : Nat :=
  let maxFrameRate := maxIntervalFrames * interval.2 * 1000000000 / interval.1
  macFrameSize (maxFrameSize + 4 + 1) * 8 * maxFrameRate

namespace FqtssPortParams

def operIdleSlope (params : FqtssPortParams) (trafficClass : Nat) : Nat :=
  (params.bandwidthAvailability trafficClass).operIdleSlope

def totalDeltaBandwidth (params : FqtssPortParams) (trafficClass : Nat) : Nat :=
  (((List.range FQTSS_MAX_TRAFFIC_CLASS).filter fun i =>
    trafficClass ≤ i && !(params.bandwidthAvailability i).lockClassBandwidth).map fun i =>
      (params.bandwidthAvailability i).deltaBandwidth).sum % 2 ^ 32

def newTotalIdleSlope (params : FqtssPortParams) (trafficClass newIdleSlope : Nat) : Nat :=
  let oper := params.operIdleSlope trafficClass
  if oper > newIdleSlope ∧ oper - newIdleSlope > params.totalOperIdleSlope then 0
  else (params.totalOperIdleSlope + newIdleSlope + 2 ^ 64 - oper) % 2 ^ 64

def checkValidOperIdleSlope (params : FqtssPortParams) (trafficClass newIdleSlope : Nat) : Bool :=
  let availability := params.bandwidthAvailability trafficClass
  if availability.lockClassBandwidth then
    newIdleSlope ≤ params.portTransmitRate / 100 * availability.deltaBandwidth % 2 ^ 64
  else
    params.newTotalIdleSlope trafficClass newIdleSlope ≤
      params.portTransmitRate / 100 * params.totalDeltaBandwidth trafficClass % 2 ^ 64

def setOperIdleSlope (params : FqtssPortParams) (trafficClass newIdleSlope total : Nat) : FqtssPortParams :=
  {params with
    bandwidthAvailability := Function.update params.bandwidthAvailability trafficClass
      {params.bandwidthAvailability trafficClass with operIdleSlope := newIdleSlope}
    totalOperIdleSlope := total}

/-- `common_fqtss_stream_add` on a valid logical port; `granted` is the answer of the operating
system, and `none` an error. -/
def streamAdd (params : FqtssPortParams) (trafficClass idleSlope : Nat) (granted : Bool) : Option FqtssPortParams :=
  if trafficClass ≥ FQTSS_MAX_TRAFFIC_CLASS then none
  else
    let newIdleSlope := (params.operIdleSlope trafficClass + idleSlope) % 2 ^ 64
    if !params.checkValidOperIdleSlope trafficClass newIdleSlope then none
    else if !granted then none
    else some (params.setOperIdleSlope trafficClass newIdleSlope ((params.totalOperIdleSlope + idleSlope) % 2 ^ 64))

def streamRemove (params : FqtssPortParams) (trafficClass idleSlope : Nat) (granted : Bool) : Option FqtssPortParams :=
  if trafficClass ≥ FQTSS_MAX_TRAFFIC_CLASS then none
  else
    let newIdleSlope := params.operIdleSlope trafficClass - idleSlope
    if !granted then none
    else some (params.setOperIdleSlope trafficClass newIdleSlope (params.newTotalIdleSlope trafficClass newIdleSlope))

end FqtssPortParams

end Genavb.Common
