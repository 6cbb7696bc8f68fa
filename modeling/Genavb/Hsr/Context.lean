import Genavb.Hsr.Device

/-! The HSR stack (`hsr.c`): MAC learning, supervision frames, the forgetting of nodes and the operation modes. -/
namespace Genavb.Hsr
open Genavb.Support
open Genavb.Maap (MacAddress)

structure HsrCtx where
  dev : HsrDevice
  ringList : List HsrNode
  proxyList : List HsrNode

/-- A frame given to `hsr_maclearn_process`; `vid` is `none` for `VLAN_VID_NONE`. -/
structure LearnFrame where
  port : Nat
  mac : MacAddress
  vid : Option UInt16

structure Station where
  mac : MacAddress
  vid : UInt16
  tagged : Bool
  port : Nat
  isRingPort : Bool
  fwdmask : PortSet

inductive HsrInput where
  | maclearn (frame : LearnFrame)
  | supervision (smac mac : MacAddress)
  | nodeforget
  | operationModeSet (mode : HsrMode)

variable (config : HsrPortConfig) (hw : Hardware)

def LearnFrame.station (frame : LearnFrame) : Option Station :=
  match config.logicPortToBridgePort frame.port with
  | none => none
  | some port =>
    let isRingPort := maskHas config.ringPortMask port
    let fwdmask := if isRingPort then config.ringPortMask else maskBit 8 port
    match frame.vid with
    | none =>
      match hw.vlanPortGetDefault frame.port with
      | none => none
      | some vid => some ⟨frame.mac,vid,false,port,isRingPort,fwdmask⟩
    | some vid => some ⟨frame.mac,vid,true,port,isRingPort,fwdmask⟩

namespace HsrCtx

def init (fdb : Fdb) : HsrCtx where
  dev := ⟨.h,fun _ => List.replicate HSR_TABLES_ARRAY_CNT 0,fdb,[]⟩
  ringList := []
  proxyList := []

def filterDropIds (portmask : PortSet) (present : Bool) (dev : HsrDevice) : Option HsrStreamDrop × HsrDevice :=
  match dev.tableIdAlloc .streamTable with
  | none => (none,dev)
  | some (streamid,dev) =>
    if hw.streamIdentityUpdate streamid portmask then
      match dev.tableIdAlloc .dropTable with
      | none => (none,(dev.delete (.streamIdentity streamid)).tableIdFree .streamTable streamid)
      | some (dropFilterId,dev) =>
        if hw.streamFilterUpdate dropFilterId then
          if present then (some ⟨streamid,dropFilterId⟩,dev)
          else
            let dev := (dev.delete (.streamFilter dropFilterId)).tableIdFree .dropTable dropFilterId
            (none,(dev.delete (.streamIdentity streamid)).tableIdFree .streamTable streamid)
        else
          let dev := dev.tableIdFree .dropTable dropFilterId
          (none,(dev.delete (.streamIdentity streamid)).tableIdFree .streamTable streamid)
    else (none,dev.tableIdFree .streamTable streamid)

def macFilterDrop (mac : MacAddress) (vid : UInt16) (portmask : PortSet) (ctx : HsrCtx) : HsrCtx :=
  match nodeListFind ctx.proxyList mac with
  | none => ctx
  | some entry =>
    match entry.streamidGetIndex vid with
    | none => {ctx with dev := (filterDropIds hw portmask false ctx.dev).2}
    | some index =>
      match filterDropIds hw portmask true ctx.dev with
      | (none,dev) => {ctx with dev := dev}
      | (some drop,dev) =>
        let streams := entry.streams.modify index fun stream => {stream with drop := drop,filtered := true}
        {ctx with dev := dev,proxyList := nodeListSet ctx.proxyList {entry with streams := streams}}

def ringDel (node : HsrNode) (ctx : HsrCtx) : HsrCtx :=
  {ctx with dev := node.del config hw ctx.dev,ringList := nodeListDel ctx.ringList node.mac}

def proxyDel (node : HsrNode) (ctx : HsrCtx) : HsrCtx :=
  {ctx with dev := node.del config hw ctx.dev,proxyList := nodeListDel ctx.proxyList node.mac}

/-- What `hsr_maclearn_process` does with the entry that the database has: `none` where it returns. -/
def learnEntry (station : Station) (ctx : HsrCtx) : Option HsrCtx :=
  match ctx.dev.fdbEntryExist config hw station.mac station.vid with
  | none => some ctx
  | some oldFwdmask =>
    match nodeListFind ctx.proxyList station.mac with
    | some node =>
      if oldFwdmask ≠ station.fwdmask ∧ station.isRingPort = false then
        let (node,dev) := node.streamDel station.vid ctx.dev
        let ctx := {ctx with dev := dev,proxyList := nodeListSet ctx.proxyList node}
        if node.streams.length = 0 then some (ctx.proxyDel config hw node) else some ctx
      else none
    | none => if oldFwdmask = station.fwdmask then none else some ctx

/-- The labels at the end of `hsr_maclearn_process`, from `streamid_add_err` on. -/
def streamidAddErr (station : Station) (streamid : Nat) (ctx : HsrCtx) : HsrCtx :=
  {ctx with dev := (ctx.dev.tableIdFree .streamTable streamid).fdbDel hw station.mac station.vid}

/-- The labels from `frer_alloc_err` or `frer_identify_err` on. -/
def frerIdentifyErr (station : Station) (streamid : Nat) (ctx : HsrCtx) : HsrCtx :=
  streamidAddErr hw station streamid {ctx with dev := ctx.dev.delete (.streamIdentity streamid)}

def learnRing (station : Station) (streamid : Nat) (ctx : HsrCtx) : HsrCtx :=
  match nodeListFind ctx.ringList station.mac with
  | some node =>
    let node := (node.streamidAdd streamid station.vid station.tagged).getD node
    {ctx with ringList := nodeListSet ctx.ringList node}
  | none =>
    match ctx.dev.tableIdAlloc .recTable with
    | none => frerIdentifyErr hw station streamid ctx
    | some (recGroup,dev) =>
      let recId := recGroup * config.brPortMax
      if frerRecAdd config hw recId streamid then
        if hw.osMalloc then
          let node := HsrNode.new station.mac station.vid station.tagged station.fwdmask streamid none (some recId) false
          let (node,dev) := if dev.mode = .n then node.modenSet config hw dev else (node,dev)
          {ctx with dev := dev,ringList := node :: ctx.ringList}
        else
          let dev := (dev.delete (.sequenceRecovery recId)).tableIdFree .recTable (recId / config.brPortMax)
          frerIdentifyErr hw station streamid {ctx with dev := dev}
      else frerIdentifyErr hw station streamid {ctx with dev := dev.tableIdFree .recTable (recId / config.brPortMax)}

def ringLeave (mac : MacAddress) (ctx : HsrCtx) : HsrCtx :=
  match nodeListFind ctx.ringList mac with
  | none => ctx
  | some node => ctx.ringDel config hw node

def learnProxy (station : Station) (streamid : Nat) (ctx : HsrCtx) : HsrCtx :=
  match nodeListFind ctx.proxyList station.mac with
  | some node =>
    let node := (node.streamidAdd streamid station.vid station.tagged).getD node
    macFilterDrop hw station.mac station.vid config.ringPortMask {ctx with proxyList := nodeListSet ctx.proxyList node}
  | none =>
    let ctx := ctx.ringLeave config hw station.mac
    match ctx.dev.tableIdAlloc .genTable with
    | none => frerIdentifyErr hw station streamid ctx
    | some (genId,dev) =>
      if hw.sequenceGenerationUpdate genId streamid then
        if hw.osMalloc then
          let isring := decide (station.port = config.brMgmtPort)
          let node := HsrNode.new station.mac station.vid station.tagged station.fwdmask streamid (some genId) none isring
          macFilterDrop hw station.mac station.vid config.ringPortMask
            {ctx with dev := dev,proxyList := node :: ctx.proxyList}
        else
          let dev := (dev.delete (.sequenceGeneration genId)).tableIdFree .genTable genId
          frerIdentifyErr hw station streamid {ctx with dev := dev}
      else frerIdentifyErr hw station streamid {ctx with dev := dev.tableIdFree .genTable genId}

def learnStream (station : Station) (ctx : HsrCtx) : HsrCtx :=
  match nodeListFind ctx.proxyList station.mac with
  | some node => if node.fwdmask = station.fwdmask then ctx else newStream ctx
  | none => newStream ctx
where
  newStream (ctx : HsrCtx) : HsrCtx :=
    match ctx.dev.tableIdAlloc .streamTable with
    | none => ctx
    | some (streamid,dev) =>
      let ctx := {ctx with dev := dev}
      if hw.streamIdentityUpdate streamid station.fwdmask then
        if frerIdentificationAdd config hw streamid then
          if station.isRingPort then learnRing config hw station streamid ctx
          else learnProxy config hw station streamid ctx
        else frerIdentifyErr hw station streamid ctx
      else streamidAddErr hw station streamid ctx

def maclearnProcess (frame : LearnFrame) (ctx : HsrCtx) : HsrCtx :=
  match frame.station config hw with
  | none => ctx
  | some station =>
    match ctx.learnEntry config hw station with
    | none => ctx
    | some ctx =>
      match ctx.dev.fdbEntryAdd config hw station.mac station.vid station.fwdmask with
      | (false,dev) => {ctx with dev := dev}
      | (true,dev) => learnStream config hw station {ctx with dev := dev}

def supervisionProcess (smac mac : MacAddress) (ctx : HsrCtx) : HsrCtx :=
  match nodeListFind ctx.ringList mac with
  | none => ctx
  | some node =>
    let cnt := if node.cnt + 1 = 0 then 1 else node.cnt + 1
    {ctx with ringList := nodeListSet ctx.ringList {node with cnt := cnt,isring := decide (smac = mac)}}

def forgetRing : List HsrNode → HsrDevice → List HsrNode × HsrDevice
  | [],dev => ([],dev)
  | entry :: rest,dev =>
    if entry.cnt ≠ 0 then
      let (rest,dev) := forgetRing rest dev
      ({entry with cnt := 0} :: rest,dev)
    else forgetRing rest (entry.del config hw dev)

/-- The body of the loop of `hsr_nodeforget_timer_handler` over the streams of a proxied node, which deletes the
stream at `i` and by that moves the next one to its place. -/
def forgetStream (i : Nat) (entry : HsrNode) (dev : HsrDevice) : HsrNode × HsrDevice :=
  match entry.streams[i]? with
  | none => (entry,dev)
  | some stream => entry.streamDel stream.vid (dev.fdbDel hw entry.mac stream.vid)

def forgetStreams (entry : HsrNode) (dev : HsrDevice) : HsrNode × HsrDevice :=
  (List.range entry.streams.length).foldl (fun now i => forgetStream hw i now.1 now.2) (entry,dev)

/-- The loop of `hsr_nodeforget_timer_handler` over the proxy list. A generator that cannot be read leaves the
number of the one before. -/
def forgetProxy : UInt16 → List HsrNode → HsrDevice → List HsrNode × HsrDevice
  | _,[],dev => ([],dev)
  | seqnum,entry :: rest,dev =>
    let seqnum := (entry.genId.bind hw.sequenceGenerationRead).getD seqnum
    let (entry,dev) := if seqnum = entry.seqnum then forgetStreams hw entry dev else (entry,dev)
    let entry := {entry with seqnum := seqnum}
    if entry.streams.length = 0 then forgetProxy seqnum rest (entry.del config hw dev)
    else
      let (rest,dev) := forgetProxy seqnum rest dev
      (entry :: rest,dev)

def nodeforgetTimerHandler (ctx : HsrCtx) : HsrCtx :=
  let (ringList,dev) := forgetRing config hw ctx.ringList ctx.dev
  let (proxyList,dev) := forgetProxy config hw 0 ctx.proxyList dev
  ⟨dev,ringList,proxyList⟩

def operationModeu (enable : Bool) (ctx : HsrCtx) : HsrCtx :=
  {ctx with
    dev := ctx.proxyList.foldl (fun dev entry =>
      let fwdmask := if enable then HSR_SWITCH_PORT_MASK else entry.fwdmask
      entry.streams.foldl (fun dev stream => dev.fdbFwdUpdate config hw entry.mac stream.vid fwdmask) dev) ctx.dev}

def modenLoop (enable : Bool) : List HsrNode → HsrDevice → List HsrNode × HsrDevice
  | [],dev => ([],dev)
  | entry :: rest,dev =>
    let (entry,dev) := if enable then entry.modenSet config hw dev else entry.modenClear config dev
    let (rest,dev) := modenLoop enable rest dev
    (entry :: rest,dev)

def operationModen (enable : Bool) (ctx : HsrCtx) : HsrCtx :=
  let (ringList,dev) := modenLoop config hw enable ctx.ringList ctx.dev
  {ctx with dev := dev,ringList := ringList}

/-- `hsr_node_operation_mode_select`. Mode T changes only the sequence identification of the ports. -/
def operationModeSelect (mode : HsrMode) (enable : Bool) (ctx : HsrCtx) : HsrCtx :=
  match mode with
  | .n => ctx.operationModen config hw enable
  | .u => ctx.operationModeu config hw enable
  | _ => ctx

def operationModeSet (mode : HsrMode) (ctx : HsrCtx) : HsrCtx :=
  if ctx.dev.mode = mode then ctx
  else
    let ctx := if ctx.dev.mode = .h then ctx else ctx.operationModeSelect config hw ctx.dev.mode false
    let ctx := ctx.operationModeSelect config hw mode true
    {ctx with dev := {ctx.dev with mode := mode}}

def step (input : HsrInput × Hardware) (ctx : HsrCtx) : HsrCtx :=
  match input.1 with
  | .maclearn frame => ctx.maclearnProcess config input.2 frame
  | .supervision smac mac => ctx.supervisionProcess smac mac
  | .nodeforget => ctx.nodeforgetTimerHandler config input.2
  | .operationModeSet mode => ctx.operationModeSet config input.2 mode

end HsrCtx

end Genavb.Hsr
