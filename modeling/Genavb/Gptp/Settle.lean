import Genavb.Gptp.Announce

/-! What the machines of a port do when no announce is pending: the transmit machine sends with
the data of the instance, and `set_selected_tree` brings every port to rest. -/
namespace Genavb.Gptp
open Support List

def GptpPort.core (port : GptpPort) : GptpPort :=
  {port with newInfo := false, announceTransmitState := .idle, announceTxSeqnum := 0}

namespace GptpInstance

section Sending

def SameGlobals (first second : GptpInstance) : Prop :=
  second = {first with ports := second.ports, outputs := second.outputs}

theorem SameGlobals.refl (inst : GptpInstance) : inst.SameGlobals inst := rfl

variable {first second third : GptpInstance}

theorem SameGlobals.trans (left : first.SameGlobals second)
    (right : second.SameGlobals third) : first.SameGlobals third := by
  rw [left] at right
  exact right

def Announces (inst : GptpInstance) (message : AnnounceTx) : Prop :=
  message.tlvType = PTP_TLV_TYPE_PATH_TRACE ∧ message.pathSequence = inst.pathEntries inst.numPtlvEntries ∧
    message.tlvLength = .ofNat (8 * inst.numPtlvEntries) ∧ message.stepsRemoved = inst.masterStepsRemoved

def OnlyAnnounces (first second : GptpInstance) : Prop :=
  ∃ sent, second.outputs = first.outputs ++ sent ∧ ∀ output, output ∈ sent →
    ∃ port message, output = .announce port message ∧ first.role port = .masterPort ∧ first.Announces message

theorem OnlyAnnounces.of_eq (same : second.outputs = first.outputs) : first.OnlyAnnounces second :=
  ⟨[],by simp [same],fun _ member => absurd member not_mem_nil⟩

theorem Announces.congr (same : first.SameGlobals second) {message : AnnounceTx}
    (announces : second.Announces message) : first.Announces message := by
  rw [same] at announces
  exact announces

theorem OnlyAnnounces.trans (same : first.SameGlobals second)
    (left : first.OnlyAnnounces second) (right : second.OnlyAnnounces third) : first.OnlyAnnounces third := by
  obtain ⟨sent,outputs,master⟩ := left
  obtain ⟨sent',outputs',master'⟩ := right
  refine ⟨sent ++ sent',by rw [outputs',outputs,append_assoc],?_⟩
  intro output member
  rcases mem_append.mp member with early | late
  · exact master output early
  · obtain ⟨port,message,rfl,role,announces⟩ := master' output late
    rw [same] at role
    exact ⟨port,message,rfl,role,announces.congr same⟩

structure Sends (first second : GptpInstance) : Prop where
  globals : first.SameGlobals second
  ports : ∀ port, (second.ports port).core = (first.ports port).core
  announces : first.OnlyAnnounces second

theorem Sends.refl (inst : GptpInstance) : inst.Sends inst :=
  ⟨.refl inst,fun _ => rfl,.of_eq rfl⟩

theorem Sends.trans (left : first.Sends second) (right : second.Sends third) : first.Sends third :=
  ⟨left.globals.trans right.globals,fun port => (right.ports port).trans (left.ports port),
    left.announces.trans left.globals right.announces⟩

private theorem sends_setPort {inst : GptpInstance} {port : Nat} {value : GptpPort}
    (same : value.core = (inst.ports port).core) : inst.Sends (inst.setPort port value) := by
  refine ⟨rfl,?_,.of_eq rfl⟩
  intro other
  by_cases here : other = port
  · subst here
    rw [setPort_same,same]
  · rw [setPort_other here]

theorem sends_transmitAnnounce {inst : GptpInstance} {port : Nat} (master : inst.role port = .masterPort) :
    inst.Sends (inst.transmitSmTransmitAnnounce port) := by
  refine ⟨rfl,?_,?_⟩
  · intro other
    unfold transmitSmTransmitAnnounce mdAnnounceTransmit setTransmitState emit
    by_cases here : other = port
    · subst here
      simp [setPort,GptpPort.core]
    · simp [setPort,Function.update_of_ne here]
  · refine ⟨[.announce port ((inst.setPort port {inst.ports port with newInfo := false}).mdSetAnnounce port)],rfl,?_⟩
    intro output member
    obtain rfl := mem_singleton.mp member
    exact ⟨port,_,rfl,master,rfl,rfl,rfl,rfl⟩

end Sending

section Transmit
variable {inst : GptpInstance} {port : Nat}

def transmitWork (event : AnnounceTransmitEvent) (port : GptpPort) : Nat :=
  match port.announceTransmitState with
  | .idle => if event = .transmitInterval then 5 else if port.newInfo then 3 else 1
  | .transmitInit | .transmitAnnounce | .transmitPeriodic => if port.newInfo then 4 else 2

theorem transmitSmPass_sends (event : AnnounceTransmitEvent) : inst.Sends (inst.transmitSmPass port event) := by
  unfold transmitSmPass
  split
  · split
    · exact sends_setPort rfl
    · split
      next ready => exact sends_transmitAnnounce ready.2.1
      · exact .refl inst
  all_goals exact sends_setPort rfl

theorem transmitSmPass_work (event : AnnounceTransmitEvent)
    (moved : ((inst.transmitSmPass port event).ports port).announceTransmitState ≠
      (inst.ports port).announceTransmitState) :
    transmitWork .run ((inst.transmitSmPass port event).ports port) <
      transmitWork event (inst.ports port) := by
  unfold transmitSmPass at moved ⊢
  cases state : (inst.ports port).announceTransmitState with
  | idle =>
    simp only [state] at moved ⊢
    split
    next due =>
      simp only [transmitSmTransmitPeriodic,setPort_same,transmitWork,state,if_pos due.1]
      split <;> decide
    · split
      next ready =>
        simp only [transmitSmTransmitAnnounce,mdAnnounceTransmit,setTransmitState,emit,setPort,
          Function.update_self,transmitWork,state,ready.1,if_true]
        cases event <;> decide
      next idle =>
        rename_i early
        rw [if_neg early,if_neg idle,state] at moved
        exact absurd rfl moved
  | transmitInit | transmitPeriodic | transmitAnnounce =>
    simp only [setTransmitState,setPort_same,transmitWork,state]
    cases (inst.ports port).newInfo <;> decide

private theorem transmitSmLoop_sends {passes : Nat} {event : AnnounceTransmitEvent}
    (enough : transmitWork event (inst.ports port) ≤ passes) :
    inst.Sends (inst.transmitSmLoop port passes event) := by
  induction passes generalizing inst event with
  | zero =>
    have some : 0 < transmitWork event (inst.ports port) := by
      unfold transmitWork
      split <;> split <;> first | omega | (split <;> omega)
    omega
  | succ passes ih =>
    unfold transmitSmLoop
    have pass : inst.Sends (inst.transmitSmPass port event) := transmitSmPass_sends event
    dsimp only
    split
    · exact pass
    next moved =>
      have less := transmitSmPass_work event moved
      exact pass.trans (ih (by omega))

private theorem transmitWork_le (event : AnnounceTransmitEvent) (port : GptpPort) : transmitWork event port ≤ SM_PASSES := by
  unfold transmitWork SM_PASSES
  split <;> split <;> first | omega | (split <;> omega)

theorem portAnnounceTransmitSm_sends (event : AnnounceTransmitEvent) :
    inst.Sends (inst.portAnnounceTransmitSm event port) := by
  unfold portAnnounceTransmitSm
  split
  · exact .refl inst
  · split
    · have starts : inst.Sends (inst.transmitSmTransmitInit port) := sends_setPort rfl
      exact starts.trans (transmitSmLoop_sends (transmitWork_le _ _))
    · exact transmitSmLoop_sends (transmitWork_le _ _)

end Transmit

section Information
variable {inst : GptpInstance} {port : Nat}

/-- A port as the selection leaves it: with its own information if that is to be updated. -/
def settled (inst : GptpInstance) (port : GptpPort) : GptpPort :=
  if !port.capable then port
  else if port.updtInfo then {port with
    portPriority := port.masterPriority
    portStepsRemoved := inst.masterStepsRemoved
    updtInfo := false
    infoIs := .mine
    announceInfoState := .current}
  else {port with announceInfoState := .current}

/-- No announce is pending at the port; a disabled port waits in its state, and the information
of a port that has aged is to be updated. -/
structure Calm (port : GptpPort) : Prop where
  noMessage : port.rcvdMsg = false
  disabled : port.capable = false → port.announceInfoState = .disabled ∧ port.infoIs = .disabled
  enabled : port.capable = true → port.announceInfoState ≠ .disabled ∧ port.infoIs ≠ .disabled
  aged : port.announceInfoState = .aged → port.updtInfo = true

structure Running (inst : GptpInstance) : Prop where
  notBegin : inst.begin = false
  instanceEnable : inst.config.instanceEnable = true
  standard : inst.config.automotive = false
  outside : ∀ port, inst.numberPorts ≤ port → inst.role port ≠ .masterPort

structure Settles (port : Nat) (first second : GptpInstance) : Prop where
  globals : first.SameGlobals second
  here : (second.ports port).core = (first.settled (first.ports port)).core
  others : ∀ other, other ≠ port → (second.ports other).core = (first.ports other).core
  announces : first.OnlyAnnounces second

private theorem settled_congr {first second : GptpInstance} (same : first.SameGlobals second) (port : GptpPort) :
    second.settled port = first.settled port := by
  rw [same]
  rfl

private theorem settled_core (port : GptpPort) : (inst.settled port).core = (inst.settled port.core).core := by
  unfold settled
  rw [show port.core.capable = port.capable from rfl,show port.core.updtInfo = port.updtInfo from rfl]
  split
  · rfl
  · split <;> rfl

theorem core_congr {first second : GptpPort} (same : first.core = second.core) {β : Type}
    (read : GptpPort → β) (reads : ∀ port, read port = read port.core) : read first = read second := by
  rw [reads first,reads second,same]

theorem Calm.congr {first second : GptpPort} (same : first.core = second.core) (calm : Calm first) : Calm second := by
  have message : second.rcvdMsg = first.rcvdMsg := (core_congr same (·.rcvdMsg) fun _ => rfl).symm
  have capable : second.capable = first.capable := (core_congr same (·.capable) fun _ => rfl).symm
  have state : second.announceInfoState = first.announceInfoState :=
    (core_congr same (·.announceInfoState) fun _ => rfl).symm
  have info : second.infoIs = first.infoIs := (core_congr same (·.infoIs) fun _ => rfl).symm
  have update : second.updtInfo = first.updtInfo := (core_congr same (·.updtInfo) fun _ => rfl).symm
  obtain ⟨noMessage,disabled,enabled,aged⟩ := calm
  constructor
  · rw [message,noMessage]
  · rw [capable,state,info]
    exact disabled
  · rw [capable,state,info]
    exact enabled
  · rw [state,update]
    exact aged

theorem Running.congr {first second : GptpInstance} (same : first.SameGlobals second) (running : first.Running) :
    second.Running := by
  rw [same]
  exact {running with}

end Information

section Settling
variable {inst : GptpInstance} {port : Nat} {select : GptpInstance → GptpInstance}

variable {value : GptpPort}

theorem settled_disabled (disabled : value.capable = false) : inst.settled value = value := by
  unfold settled
  rw [disabled]
  rfl

theorem settled_kept (capable : value.capable = true) (kept : value.updtInfo = false) :
    inst.settled value = {value with announceInfoState := .current} := by
  unfold settled
  rw [capable,kept]
  rfl

theorem settled_update (capable : value.capable = true) (update : value.updtInfo = true) :
    inst.settled value = {value with
      portPriority := value.masterPriority
      portStepsRemoved := inst.masterStepsRemoved
      updtInfo := false
      infoIs := .mine
      announceInfoState := .current} := by
  unfold settled
  rw [capable,update]
  rfl

variable {passes : Nat}

private theorem infoSmLoop_calm {event : AnnounceInfoEvent} (running : inst.Running) (calm : Calm (inst.ports port)) :
    inst.infoSmLoop select port (passes + 1) event =
      if ((inst.infoSmPass select port event).ports port).announceInfoState =
          (inst.ports port).announceInfoState then inst.infoSmPass select port event
      else (inst.infoSmPass select port event).infoSmLoop select port passes .run := by
  have proceeds : (inst.begin || !inst.config.instanceEnable ||
      (!(inst.ports port).capable && (inst.ports port).infoIs ≠ .disabled)) = false := by
    rw [running.notBegin,running.instanceEnable]
    cases capable : (inst.ports port).capable with
    | true => rfl
    | false => simp [(calm.disabled capable).2]
  rw [infoSmLoop,proceeds]
  rfl

theorem infoSmLoop_disabled {event : AnnounceInfoEvent} (running : inst.Running)
    (calm : Calm (inst.ports port)) (disabled : (inst.ports port).capable = false) :
    inst.infoSmLoop select port (passes + 1) event = inst := by
  have pass : inst.infoSmPass select port event = inst := by
    unfold infoSmPass
    simp [(calm.disabled disabled).1,disabled,calm.noMessage]
  rw [infoSmLoop_calm running calm,pass,if_pos rfl]

theorem infoSmLoop_rests (running : inst.Running) (calm : Calm (inst.ports port))
    (state : (inst.ports port).announceInfoState = .current) (kept : (inst.ports port).updtInfo = false) :
    inst.infoSmLoop select port (passes + 1) .run = inst := by
  have pass : inst.infoSmPass select port .run = inst := by
    unfold infoSmPass
    simp [state,kept,calm.noMessage]
  rw [infoSmLoop_calm running calm,pass,if_pos rfl]

def Passing (state : AnnounceInfoState) : Prop :=
  state = .update ∨ state = .superiorMasterPort ∨ state = .repeatedMasterPort ∨ state = .inferiorMasterOrOther

private theorem calm_current (calm : Calm value) (capable : value.capable = true) :
    Calm {value with announceInfoState := .current} := by
  refine ⟨calm.noMessage,?_,?_,?_⟩
  · intro disabled
    exact absurd (capable.symm.trans disabled) (by decide)
  · intro _
    exact ⟨by simp,(calm.enabled capable).2⟩
  · intro aged
    exact absurd aged (by simp)

private theorem infoSmLoop_passing (running : inst.Running) (calm : Calm (inst.ports port))
    (passing : Passing (inst.ports port).announceInfoState) :
    inst.infoSmLoop select port (passes + 1) .run =
      (inst.infoSmCurrent port).infoSmLoop select port passes .run := by
  have pass : inst.infoSmPass select port .run = inst.infoSmCurrent port := by
    unfold infoSmPass
    rcases passing with state | state | state | state <;> simp only [state]
  have moved : ((inst.infoSmCurrent port).ports port).announceInfoState ≠
      (inst.ports port).announceInfoState := by
    unfold infoSmCurrent
    rcases passing with state | state | state | state <;> simp [state]
  rw [infoSmLoop_calm running calm,pass,if_neg moved]

private theorem infoSmCurrent_globals : inst.SameGlobals (inst.infoSmCurrent port) := rfl

theorem infoSmLoop_passing_kept (running : inst.Running) (calm : Calm (inst.ports port))
    (passing : Passing (inst.ports port).announceInfoState) (capable : (inst.ports port).capable = true)
    (kept : (inst.ports port).updtInfo = false) :
    inst.infoSmLoop select port (passes + 2) .run = inst.infoSmCurrent port := by
  rw [infoSmLoop_passing running calm passing]
  apply infoSmLoop_rests (running.congr infoSmCurrent_globals)
  · unfold infoSmCurrent
    rw [setPort_same]
    exact calm_current calm capable
  · unfold infoSmCurrent
    rw [setPort_same]
  · unfold infoSmCurrent
    rw [setPort_same]
    exact kept

def updated (inst : GptpInstance) (port : Nat) : GptpInstance :=
  inst.setPort port {inst.ports port with
    portPriority := (inst.ports port).masterPriority
    portStepsRemoved := inst.masterStepsRemoved
    updtInfo := false
    infoIs := .mine
    newInfo := true
    announceInfoState := .update}

theorem infoSmUpdate_sends : (inst.updated port).Sends (inst.infoSmUpdate port) := portAnnounceTransmitSm_sends .run

theorem infoSmUpdate_core : ((inst.infoSmUpdate port).ports port).core = ((inst.updated port).ports port).core :=
  infoSmUpdate_sends.ports port

theorem calm_updated (calm : Calm (inst.ports port)) (capable : (inst.ports port).capable = true) :
    Calm ((inst.updated port).ports port) := by
  unfold updated
  rw [setPort_same]
  refine ⟨calm.noMessage,?_,?_,?_⟩
  · intro disabled
    exact absurd (capable.symm.trans disabled) (by decide)
  · intro _
    exact ⟨by simp,by simp⟩
  · intro aged
    exact absurd aged (by simp)

private theorem infoSmUpdate_globals : inst.SameGlobals (inst.infoSmUpdate port) := by
  have first : inst.SameGlobals (inst.updated port) := rfl
  exact first.trans infoSmUpdate_sends.globals

private theorem infoSmLoop_update (running : inst.Running) (calm : Calm (inst.ports port))
    (state : (inst.ports port).announceInfoState = .current ∨ (inst.ports port).announceInfoState = .aged)
    (capable : (inst.ports port).capable = true) (update : (inst.ports port).updtInfo = true)
    (selected : inst.isSelected port = true) :
    inst.infoSmLoop select port (passes + 3) .run = (inst.infoSmUpdate port).infoSmCurrent port := by
  have pass : inst.infoSmPass select port .run = inst.infoSmUpdate port := by
    unfold infoSmPass
    rcases state with state | state <;> simp [state,update,selected,calm.noMessage]
  have core : ((inst.infoSmUpdate port).ports port).core = ((inst.updated port).ports port).core :=
    infoSmUpdate_core
  have now : ((inst.infoSmUpdate port).ports port).announceInfoState = .update := by
    rw [core_congr core (·.announceInfoState) fun _ => rfl]
    unfold updated
    rw [setPort_same]
  have settledInfo : ((inst.infoSmUpdate port).ports port).updtInfo = false := by
    rw [core_congr core (·.updtInfo) fun _ => rfl]
    unfold updated
    rw [setPort_same]
  have still : ((inst.infoSmUpdate port).ports port).capable = true := by
    rw [core_congr core (·.capable) fun _ => rfl]
    unfold updated
    rw [setPort_same]
    exact capable
  have moved : ((inst.infoSmUpdate port).ports port).announceInfoState ≠
      (inst.ports port).announceInfoState := by
    rw [now]
    rcases state with state | state <;> rw [state] <;> decide
  rw [infoSmLoop_calm running calm,pass,if_neg moved]
  exact infoSmLoop_passing_kept (running.congr infoSmUpdate_globals)
    ((calm_updated calm capable).congr core.symm) (.inl now) still settledInfo

section
variable (capable : (inst.ports port).capable = true)
include capable

theorem infoSmCurrent_settles
    (kept : (inst.ports port).updtInfo = false) : Settles port inst (inst.infoSmCurrent port) := by
  refine ⟨rfl,?_,?_,.of_eq rfl⟩
  · unfold infoSmCurrent
    rw [setPort_same,settled_kept capable kept]
  · intro other apart
    unfold infoSmCurrent
    rw [setPort_other apart]

private theorem infoSmUpdate_settles
    (update : (inst.ports port).updtInfo = true) :
    Settles port inst ((inst.infoSmUpdate port).infoSmCurrent port) := by
  have sends : (inst.updated port).Sends (inst.infoSmUpdate port) := infoSmUpdate_sends
  have stored : inst.SameGlobals (inst.updated port) := rfl
  refine ⟨infoSmUpdate_globals.trans rfl,?_,?_,?_⟩
  · have same := core_congr (sends.ports port) (fun value => {value.core with announceInfoState := .current})
      fun _ => rfl
    unfold infoSmCurrent
    rw [setPort_same,settled_update capable update]
    refine Eq.trans same ?_
    unfold updated
    rw [setPort_same]
    rfl
  · intro other apart
    unfold infoSmCurrent
    rw [setPort_other apart,sends.ports other]
    unfold updated
    rw [setPort_other apart]
  · have nothing : inst.OnlyAnnounces (inst.updated port) := .of_eq rfl
    exact (nothing.trans stored sends.announces).trans infoSmUpdate_globals (.of_eq rfl)

theorem Settles.of_passing {next : GptpInstance}
    (settles : Settles port (inst.infoSmCurrent port) next) : Settles port inst next := by
  have stored : inst.SameGlobals (inst.infoSmCurrent port) := rfl
  have nothing : inst.OnlyAnnounces (inst.infoSmCurrent port) := .of_eq rfl
  refine ⟨stored.trans settles.globals,?_,?_,nothing.trans stored settles.announces⟩
  · rw [settles.here,settled_congr stored]
    unfold infoSmCurrent
    rw [setPort_same]
    unfold settled
    rw [show ({inst.ports port with announceInfoState := .current} : GptpPort).capable = true from capable,capable]
    cases (inst.ports port).updtInfo <;> rfl
  · intro other apart
    rw [settles.others other apart]
    unfold infoSmCurrent
    rw [setPort_other apart]

end

theorem infoSm_settles (running : inst.Running) (calm : Calm (inst.ports port))
    (selected : inst.isSelected port = true) : Settles port inst (inst.portAnnounceInfoSm select .run port) := by
  unfold portAnnounceInfoSm
  rw [running.standard,if_neg Bool.false_ne_true]
  cases capable : (inst.ports port).capable with
  | false =>
    rw [show SM_PASSES = 7 + 1 from rfl,infoSmLoop_disabled running calm capable]
    exact ⟨rfl,by rw [settled_disabled capable],fun _ _ => rfl,.of_eq rfl⟩
  | true =>
    cases update : (inst.ports port).updtInfo with
    | true =>
      by_cases ready : (inst.ports port).announceInfoState = .current ∨ (inst.ports port).announceInfoState = .aged
      · rw [show SM_PASSES = 5 + 3 from rfl,infoSmLoop_update running calm ready capable update selected]
        exact infoSmUpdate_settles capable update
      · have passing : Passing (inst.ports port).announceInfoState := by
          have started := (calm.enabled capable).1
          unfold Passing
          cases state : (inst.ports port).announceInfoState <;> simp_all
        have current : ((inst.infoSmCurrent port).ports port) =
            {inst.ports port with announceInfoState := .current} := setPort_same ..
        rw [show SM_PASSES = 7 + 1 from rfl,infoSmLoop_passing running calm passing]
        refine .of_passing capable ?_
        rw [show 7 = 4 + 3 from rfl,infoSmLoop_update (running.congr infoSmCurrent_globals)
          (by rw [current]; exact calm_current calm capable) (.inl (by rw [current])) (by rw [current]; exact capable)
          (by rw [current]; exact update) selected]
        exact infoSmUpdate_settles (by rw [current]; exact capable)
          (by rw [current]; exact update)
    | false =>
      by_cases state : (inst.ports port).announceInfoState = .current
      · rw [show SM_PASSES = 7 + 1 from rfl,infoSmLoop_rests running calm state update]
        refine ⟨rfl,?_,fun _ _ => rfl,.of_eq rfl⟩
        rw [settled_kept capable update,← state]
      · have passing : Passing (inst.ports port).announceInfoState := by
          have started := (calm.enabled capable).1
          have young : (inst.ports port).announceInfoState ≠ .aged := fun aged =>
            absurd (calm.aged aged) (by rw [update]; decide)
          unfold Passing
          cases kind : (inst.ports port).announceInfoState <;> simp_all
        rw [show SM_PASSES = 6 + 2 from rfl,infoSmLoop_passing_kept running calm passing capable update]
        exact infoSmCurrent_settles capable update

theorem Settles.sends {first second third : GptpInstance} (settles : Settles port first second)
    (sends : second.Sends third) : Settles port first third :=
  ⟨settles.globals.trans sends.globals,(sends.ports port).trans settles.here,
    fun other apart => (sends.ports other).trans (settles.others other apart),
    settles.announces.trans settles.globals sends.announces⟩

end Settling

section Tree
variable {inst : GptpInstance} {select : GptpInstance → GptpInstance}

/-- What `set_selected_tree` has done after its first `count` ports. -/
structure SettledTo (count : Nat) (first second : GptpInstance) : Prop where
  globals : first.SameGlobals second
  ports : ∀ port, (second.ports port).core =
    if port < count then (first.settled (first.ports port)).core else (first.ports port).core
  announces : first.OnlyAnnounces second

theorem selected_all {port : Nat} (inside : port < inst.numberPorts) :
    ({inst with selected := BitVec.allOnes 16} : GptpInstance).isSelected port = true := by
  have bound := inst.config.numberPorts_bound
  unfold isSelected
  have within : port + 1 < 16 := Nat.lt_of_le_of_lt (Nat.succ_le_of_lt inside) bound
  rw [maskHas_getLsbD _ within,BitVec.getLsbD_allOnes]
  exact decide_eq_true within

theorem isSelected_congr {first second : GptpInstance} (same : first.SameGlobals second) (port : Nat) :
    second.isSelected port = first.isSelected port := by
  rw [same]
  rfl

theorem settledTo_range {count : Nat} (running : inst.Running)
    (calm : ∀ port, port < inst.numberPorts → Calm (inst.ports port))
    (selected : ∀ port, port < inst.numberPorts → inst.isSelected port = true) (inside : count ≤ inst.numberPorts) :
    SettledTo count inst ((List.range count).foldl
      (fun inst port => (inst.portAnnounceInfoSm select .run port).portAnnounceTransmitSm .run port) inst) := by
  induction count with
  | zero => exact ⟨rfl,fun port => by rw [if_neg (Nat.not_lt_zero port)]; rfl,.of_eq rfl⟩
  | succ count ih =>
    rw [range_succ,foldl_append]
    have before := ih (Nat.le_of_succ_le inside)
    generalize (List.range count).foldl
      (fun inst port => (inst.portAnnounceInfoSm select .run port).portAnnounceTransmitSm .run port) inst = middle
      at before
    have running' := running.congr before.globals
    have untouched : (middle.ports count).core = (inst.ports count).core := by
      rw [before.ports,if_neg (Nat.lt_irrefl _)]
    have settles : Settles count middle (middle.portAnnounceInfoSm select .run count) :=
      infoSm_settles running' ((calm count inside).congr untouched.symm)
        ((isSelected_congr before.globals count).trans (selected count inside))
    have step : Settles count middle
        ((middle.portAnnounceInfoSm select .run count).portAnnounceTransmitSm .run count) :=
      settles.sends (portAnnounceTransmitSm_sends .run)
    refine ⟨before.globals.trans step.globals,?_,before.announces.trans before.globals step.announces⟩
    intro port
    by_cases here : port = count
    · subst here
      rw [if_pos (Nat.lt_succ_self _)]
      refine step.here.trans ?_
      rw [settled_core,untouched,← settled_core,settled_congr before.globals]
    · refine (step.others port here).trans ?_
      rw [before.ports]
      have order : port < count + 1 ↔ port < count := by omega
      simp only [order]

theorem setSelectedTree_settles (running : inst.Running)
    (calm : ∀ port, port < inst.numberPorts → Calm (inst.ports port)) :
    SettledTo inst.numberPorts {inst with selected := BitVec.allOnes 16} (inst.setSelectedTree select) := by
  have running' : ({inst with selected := BitVec.allOnes 16} : GptpInstance).Running :=
    {running with}
  exact settledTo_range running' calm (fun _ inside => selected_all inside) le_rfl

end Tree

end GptpInstance

end Genavb.Gptp
