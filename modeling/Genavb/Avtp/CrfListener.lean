import Genavb.Avtp.StreamReceive
import Genavb.Support.Run

/-! The CRF listener (`crf.c`): the timestamps of a CRF stream are checked for their period and handed to the clock
producer, or others are generated in their place. -/
namespace Genavb.Avtp

def PST_MAX : Word := 1000

def avtpBefore (now t : Word) : Bool := 0 < (t - now).toInt

/-- `is_avtp_ts_valid`, without samples to wait for. -/
def isAvtpTsValid (rxTs avtpTs maxTransitTime maxTimingUncertainty : Word) : Bool :=
  !avtpBefore avtpTs (rxTs - PST_MAX) && !avtpBefore (rxTs + maxTransitTime + maxTimingUncertainty + PST_MAX) avtpTs

def osAbs (value : Word) : Word := if value.msb then -value else value

inductive CrfState
  | locked
  | freeWheeling
  | freeWheelingToLocked
  | lockedToFreeWheeling
  deriving DecidableEq

inductive CrfEvent
  | timeout
  | timestamps
  deriving DecidableEq

/-- What a CRF listener is set up with. `crf_check_format` takes from 300 to 48000 timestamps in a
second, and one to eight in a packet. -/
structure CrfConfig where
  type : Byte
  hdr : Word × Word
  timestampsPerPdu : Nat
  periodNominal : Word
  freeWheelingToLockedDelay : Word
  maxTransitTime : Word
  maxTimingUncertainty : Word
  some : 0 < timestampsPerPdu
  bounded : periodNominal.toNat ≤ 10 ^ 9

def CrfConfig.periodErr (config : CrfConfig) : Word := config.periodNominal / 64

/-- One call of `clock_producer_stream_rx`, with the states that the machine went through. -/
structure CrfHanded where
  before : CrfState
  after : CrfState
  ts : List Word
  doStitch : Bool
  deriving DecidableEq

/-- `struct crf_subtype_data`, the free-wheeling flag of the clock domain, and what happened to timestamps. -/
structure CrfListener where
  state : CrfState
  tsLast : Word
  tsLastSet : Bool
  receivedTsLast : Word
  period : Word
  timestamp : Word
  gptpCurrent : Word
  source : Bool
  freeWheeling : Bool
  handed : List CrfHanded
  received : List Word
  measured : List Word

namespace CrfListener
variable (config : CrfConfig)

def init : CrfListener := ⟨.locked,0,false,0,config.periodNominal,0,0,false,false,[],[],[]⟩

def averaged (mean period : Word) : Word := (mean * 3 + 2) / 4 + (period + 2) / 4

def periodOff (period : Word) : Bool := config.periodErr < osAbs (period - config.periodNominal)

def measureTimestamp (ts : Word) (crf : CrfListener) : Bool × CrfListener :=
  let period := ts - crf.receivedTsLast
  let off := 0 < crf.timestamp && periodOff config period
  let mean :=
    if 0 < crf.timestamp && !off then
      if crf.timestamp = 1 then period else averaged crf.period period
    else crf.period
  let timestamp := if off then 0 else crf.timestamp
  (off,{crf with
    period := mean
    timestamp := if timestamp < 0xffffffff then timestamp + 1 else timestamp
    receivedTsLast := ts
    measured := crf.measured ++ [ts]})

def measureTimestamps : List Word → CrfListener → Bool × CrfListener
  | [],crf => (false,crf)
  | ts :: rest,crf =>
    let (first,crf) := measureTimestamp config ts crf
    let (others,crf) := measureTimestamps rest crf
    (first || others,crf)

def crfMeasurePeriod (ts : List Word) (crf : CrfListener) : Int × CrfListener :=
  let (off,crf) := measureTimestamps config ts crf
  (if off then -1 else if config.freeWheelingToLockedDelay < crf.timestamp then 1 else 0,crf)

def crfGenerateTimestamps (crf : CrfListener) : Nat → Word → List Word
  | 0,_ => []
  | left + 1,tsLast => (tsLast + crf.period) :: crfGenerateTimestamps crf left (tsLast + crf.period)

def generateFrom (crf : CrfListener) : Word := if crf.tsLastSet then crf.tsLast else crf.gptpCurrent + crf.period

def crfSetState (state : CrfState) (crf : CrfListener) : CrfListener :=
  {crf with
    state := state
    freeWheeling :=
      if crf.source then
        match state with
        | .freeWheeling => true
        | .locked => false
        | _ => crf.freeWheeling
      else crf.freeWheeling}

/-- What a transition does with the timestamps: whether it generates others for them, and whether it stitches. -/
structure Transition where
  crf : CrfListener
  generate : Bool
  doStitch : Bool

def crfTransition (event : CrfEvent) (ts : List Word) (crf : CrfListener) : Transition :=
  match crf.state,event with
  | .locked,.timestamps =>
    let (rc,crf) := crfMeasurePeriod config ts crf
    if rc < 0 then ⟨crf.crfSetState .freeWheeling,true,false⟩ else ⟨crf,false,false⟩
  | .locked,.timeout => ⟨crf.crfSetState .lockedToFreeWheeling,true,false⟩
  | .freeWheeling,.timeout => ⟨crf,true,false⟩
  | .freeWheeling,.timestamps =>
    let (rc,crf) := crfMeasurePeriod config ts {crf with receivedTsLast := crf.tsLast,timestamp := 1}
    if rc < 0 then ⟨crf.crfSetState .freeWheelingToLocked,true,false⟩ else ⟨crf.crfSetState .locked,false,false⟩
  | .freeWheelingToLocked,.timeout => ⟨crf.crfSetState .freeWheeling,true,false⟩
  | .freeWheelingToLocked,.timestamps =>
    let (rc,crf) := crfMeasurePeriod config ts crf
    if rc < 0 then ⟨crf.crfSetState .freeWheeling,true,false⟩
    else if 0 < rc then ⟨crf.crfSetState .locked,false,true⟩
    else ⟨crf,true,false⟩
  | .lockedToFreeWheeling,.timestamps =>
    let (rc,crf) := crfMeasurePeriod config ts {crf with receivedTsLast := crf.tsLast}
    if rc < 0 then ⟨crf.crfSetState .freeWheeling,true,false⟩ else ⟨crf.crfSetState .locked,false,false⟩
  | .lockedToFreeWheeling,.timeout => ⟨crf.crfSetState .freeWheeling,true,false⟩

/-- `crf_state_handler`, with the timestamps that it leaves in the array. The clock producer takes them away. -/
def crfStateHandler (event : CrfEvent) (ts : List Word) (crf : CrfListener) : List Word × CrfListener :=
  let transition := crfTransition config event ts crf
  let ts :=
    if transition.generate then crfGenerateTimestamps transition.crf ts.length transition.crf.generateFrom else ts
  let after := {transition.crf with tsLast := ts.getLastD 0,tsLastSet := true}
  if after.source then
    ([],{after with handed := after.handed ++ [⟨crf.state,after.state,ts,transition.doStitch⟩]})
  else (ts,after)

def readClock (gptp : Option Word) (crf : CrfListener) : CrfListener :=
  {crf with gptpCurrent := gptp.getD crf.gptpCurrent}

end CrfListener

structure CrfRx where
  crf : CrfListener
  ts : List Word
  desc : List Nat
  freed : List Nat

namespace CrfRx
variable (config : CrfConfig)

def descFlush (rx : CrfRx) : CrfRx :=
  let (ts,crf) :=
    if rx.ts.isEmpty then (rx.ts,rx.crf) else CrfListener.crfStateHandler config .timestamps rx.ts rx.crf
  ⟨crf,ts,[],rx.freed ++ rx.desc⟩

def mismatch (frame : NetRxDesc) : Bool :=
  frame.hdr 3 != config.type || frame.data.word (frame.l3Offset.toNat + 12) != config.hdr.1 ||
    frame.data.word (frame.l3Offset.toNat + 16) != config.hdr.2

def timestamps (frame : NetRxDesc) : List Word :=
  (List.range config.timestampsPerPdu).map fun place => frame.data.word (frame.l3Offset.toNat + 20 + place * 8 + 4)

def tsValid (frame : NetRxDesc) : Bool :=
  isAvtpTsValid frame.ts ((timestamps config frame).headD 0) config.maxTransitTime config.maxTimingUncertainty

def receive (rx : CrfRx) (frame : NetRxDesc) : CrfRx :=
  if mismatch config frame then
    let rx := rx.descFlush config
    {rx with freed := rx.freed ++ [frame.id]}
  else if tsValid config frame then
    {rx with
      crf := {rx.crf with received := rx.crf.received ++ timestamps config frame}
      ts := rx.ts ++ timestamps config frame
      desc := rx.desc ++ [frame.id]}
  else {rx with desc := rx.desc ++ [frame.id]}

end CrfRx

inductive CrfInput
  | receive (gptp : Option Word) (desc : List NetRxDesc)
  | timer (gptp : Option Word)
  | sourceOpen
  | sourceClose

namespace CrfListener
variable (config : CrfConfig)

def crfNetRx (gptp : Option Word) (desc : List NetRxDesc) (crf : CrfListener) : CrfListener :=
  ((desc.foldl (CrfRx.receive config) ⟨crf.readClock gptp,[],[],[]⟩).descFlush config).crf

def crfTimerHandler (gptp : Option Word) (crf : CrfListener) : CrfListener :=
  ((crf.readClock gptp).crfStateHandler config .timeout (List.replicate config.timestampsPerPdu 0)).2

/-- `clock_source_stream_open` and `clock_source_stream_close`, which leaves the domain without its flag. -/
def step : CrfInput → CrfListener → CrfListener
  | .receive gptp desc,crf => crf.crfNetRx config gptp desc
  | .timer gptp,crf => crf.crfTimerHandler config gptp
  | .sourceOpen,crf => if crf.source then crf else {crf with source := true,freeWheeling := false,handed := []}
  | .sourceClose,crf => {crf with source := false,freeWheeling := false}

end CrfListener

end Genavb.Avtp
