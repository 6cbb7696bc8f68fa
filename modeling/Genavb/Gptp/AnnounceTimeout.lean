import Genavb.Gptp.ReceiptIntervals
import Genavb.Gptp.StepsRemoved

/-! The announce receipt timer runs while a port has received information. -/
namespace Genavb.Gptp
open GptpInstance Common
open Function (update update_self update_of_ne)

namespace TimedInstance

section Information
variable {timed first second third : TimedInstance} {port : Nat} {value : GptpPort}

/-- The timer runs with the time of the Announce that was last taken. -/
structure Awaits (port : Nat) (timed : TimedInstance) : Prop where
  interval : timed.view.timeoutTimeInterval port =
    u64ToUScaledNs (receiptInterval (timed.announced port).1 (timed.announced port).2)
  inRange : InRange (timed.announced port).1 (timed.announced port).2
  runs : timed.view.timeoutTimer port = some (receiptMs (timed.announced port).1 (timed.announced port).2)

def Informed (timed : TimedInstance) : Prop :=
  ∀ port, port < timed.inst.numberPorts → (timed.inst.ports port).infoIs = .received → timed.Awaits port

theorem Kept.before (kept : Kept first second) (inside : port < second.inst.numberPorts) :
    port < first.inst.numberPorts := by
  rw [numberPorts,← kept.config]
  exact inside

theorem Kept.awaits (kept : Kept first second) (awaits : first.Awaits port) : second.Awaits port := by
  rw [kept.same]
  exact {awaits with}

theorem Kept.informed (kept : Kept first second) (informed : first.Informed) : second.Informed := by
  intro port inside received
  have before := kept.before inside
  exact kept.awaits (informed port before ((kept.ports port before).received received))

def beside (timed : TimedInstance) : (Nat → CapableReceive) × (Nat → SyncReceipt) × Bool :=
  (timed.capable,timed.sync,timed.force2011)

theorem Kept.beside (kept : Kept first second) : second.beside = first.beside := by
  rw [kept.same]
  rfl

structure Taken (first second : TimedInstance) : Prop where
  config : second.inst.config = first.inst.config
  beside : second.beside = first.beside
  quiet : second.Quiet
  informed : second.Informed

theorem Taken.kept (taken : Taken first second) (kept : Kept second third) : Taken first third where
  config := kept.config.trans taken.config
  beside := kept.beside.trans taken.beside
  quiet := kept.quiet taken.quiet
  informed := kept.informed taken.informed

/-- No Announce is pending but on `port`. -/
def QuietBut (port : Nat) (timed : TimedInstance) : Prop := ∀ other, other < timed.inst.numberPorts → other ≠ port →
  (timed.inst.ports other).rcvdMsg = false ∧ (timed.inst.ports other).rcvdAnnouncePar = false

theorem Kept.quietBut (kept : Kept first second) (quiet : first.QuietBut port) : second.QuietBut port := by
  intro other inside apart
  have before := kept.before inside
  have hushed := kept.ports other before
  exact ⟨hushed.rcvdMsg (quiet other before apart).1,hushed.rcvdAnnouncePar (quiet other before apart).2⟩

theorem QuietBut.set (quiet : first.QuietBut port) (config : second.inst.config = first.inst.config)
    (ports : second.inst.ports = update first.inst.ports port value) : second.QuietBut port := by
  intro other inside apart
  rw [ports,update_of_ne apart]
  rw [numberPorts,config] at inside
  exact quiet other inside apart

theorem Informed.set (informed : first.Informed) (config : second.inst.config = first.inst.config)
    (ports : second.inst.ports = update first.inst.ports port value)
    (others : ∀ other, other ≠ port → first.Awaits other → second.Awaits other)
    (here : value.infoIs = .received → second.Awaits port) : second.Informed := by
  intro other inside received
  rw [numberPorts,config] at inside
  rw [ports] at received
  by_cases same : other = port
  case pos =>
    subst same
    rw [update_self] at received
    exact here received
  case neg =>
    rw [update_of_ne same] at received
    exact others other same (informed other inside received)

theorem QuietBut.taken (quiet : first.QuietBut port) (config : second.inst.config = first.inst.config)
    (ports : second.inst.ports = update first.inst.ports port value) (beside : second.beside = first.beside)
    (informed : second.Informed) (noMessage : value.rcvdMsg = false) (noAnnounce : value.rcvdAnnouncePar = false) : Taken first second := by
  refine ⟨config,beside,?_,informed⟩
  intro other inside
  by_cases same : other = port
  case pos =>
    subst same
    rw [ports,update_self]
    exact ⟨noMessage,noAnnounce⟩
  case neg => exact quiet.set config ports other inside same

theorem superior_taken (quiet : timed.QuietBut port) (informed : timed.Informed)
    (noAnnounce : (timed.inst.ports port).rcvdAnnouncePar = false)
    (inRange : InRange (timed.view.announceReceiptTimeout port) (timed.announceLog port)) :
    Taken timed (timed.infoSmSuperior id port) := by
  refine quiet.taken rfl rfl rfl (informed.set rfl rfl ?_ fun _ => ?_) rfl noAnnounce
  · intro other apart awaits
    have interval : (timed.infoSmSuperior id port).view.timeoutTimeInterval other =
        timed.view.timeoutTimeInterval other := update_of_ne apart _ _
    have timer : (timed.infoSmSuperior id port).view.timeoutTimer other = timed.view.timeoutTimer other :=
      update_of_ne apart _ _
    have announced : (timed.infoSmSuperior id port).announced other = timed.announced other := update_of_ne apart _ _
    constructor
    · rw [interval,announced]
      exact awaits.interval
    · rw [announced]
      exact awaits.inRange
    · rw [timer,announced]
      exact awaits.runs
  · have announced : (timed.infoSmSuperior id port).announced port =
        (timed.view.announceReceiptTimeout port,timed.announceLog port) := update_self _ _ _
    constructor
    · rw [announced]
      exact update_self _ _ _
    · rw [announced]
      exact inRange
    · rw [announced,← inRange.restart]
      exact update_self _ _ _

theorem repeated_taken (quiet : timed.QuietBut port) (informed : timed.Informed) (inside : port < timed.inst.numberPorts)
    (noAnnounce : (timed.inst.ports port).rcvdAnnouncePar = false) :
    Taken timed {timed with view := timed.view.infoSmRepeated port} := by
  refine quiet.taken rfl rfl rfl (informed.set rfl rfl ?_ ?_) rfl noAnnounce
  · intro other apart awaits
    refine ⟨awaits.interval,awaits.inRange,?_⟩
    exact (update_of_ne apart _ _).trans awaits.runs
  · intro received
    have awaits := informed port inside received
    refine ⟨awaits.interval,awaits.inRange,?_⟩
    have restarted : ({timed with view := timed.view.infoSmRepeated port} : TimedInstance).view.timeoutTimer port =
        restartMs (uScaledNsToU64 (timed.view.timeoutTimeInterval port)).toNat := update_self _ _ _
    rw [restarted,awaits.interval]
    exact awaits.inRange.restart

theorem inferior_taken (quiet : timed.QuietBut port) (informed : timed.Informed) (inside : port < timed.inst.numberPorts)
    (noAnnounce : (timed.inst.ports port).rcvdAnnouncePar = false) :
    Taken timed {timed with view := timed.view.infoSmInferior port} := by
  refine quiet.taken rfl rfl rfl (informed.set rfl rfl ?_ fun received => ?_) rfl noAnnounce
  · exact fun _ _ awaits => {awaits with}
  · have awaits := informed port inside received
    exact {awaits with}

section
variable {select : TimedInstance → TimedInstance}
  (selects : ∀ timed : TimedInstance, timed.Quiet → Kept timed (select timed))
include selects

theorem infoSmReceive_taken (quiet : timed.QuietBut port) (informed : timed.Informed)
    (inside : port < timed.inst.numberPorts) (noAnnounce : (timed.inst.ports port).rcvdAnnouncePar = false)
    (pointer : (timed.inst.ports port).rcvdAnnouncePtr = true)
    (heard : Superior port (timed.inst.ports port) (timed.inst.ports port).announceRx →
      InRange (timed.view.announceReceiptTimeout port) (timed.announceLog port)) :
    Taken timed (timed.infoSmReceive select port) := by
  have same : ((timed.lift (GptpInstance.rcvInfo port)).inst.ports port) = {timed.inst.ports port with
      messagePriority := messageVector port (timed.inst.ports port).announceRx
      messageStepsRemoved := (timed.inst.ports port).announceRx.stepsRemoved} := setPort_same ..
  have kept : Kept timed (timed.lift (GptpInstance.rcvInfo port)) := kept_setPort (p := port) rfl rfl ⟨id,id,id⟩
  have quiet' := kept.quietBut quiet
  have informed' := kept.informed informed
  have noAnnounce' : ((timed.lift (GptpInstance.rcvInfo port)).inst.ports port).rcvdAnnouncePar = false := by
    rw [same]
    exact noAnnounce
  unfold infoSmReceive
  rw [pointer,if_neg (by decide)]
  dsimp only
  cases order : compareMsgPriorityVector (messageVector port (timed.inst.ports port).announceRx)
      (timed.inst.ports port).portPriority with
  | aBetter =>
    rw [lift_inst,rcvdInfo_of (rcvInfo_compare.trans order)]
    have taken := superior_taken quiet' informed' noAnnounce' (heard order)
    exact Taken.kept {taken with} (selects _ taken.quiet)
  | aBSame =>
    rw [lift_inst,rcvdInfo_of (rcvInfo_compare.trans order)]
    have taken := repeated_taken quiet' informed' inside noAnnounce'
    exact {taken with}
  | bBetter =>
    rw [lift_inst,rcvdInfo_of (rcvInfo_compare.trans order)]
    have taken := inferior_taken quiet' informed' inside noAnnounce'
    exact {taken with}

end

theorem infoSmPass_receiving (select : TimedInstance → TimedInstance) (receives : Receives port (timed.inst.ports port)) :
    timed.infoSmPass select port .run = timed.infoSmReceive select port := by
  unfold infoSmPass
  rw [receives.state]
  dsimp only
  rw [if_neg (by simp),if_pos ⟨receives.message,by rw [receives.noUpdate]; rfl⟩]

theorem infoSm_taken (running : timed.inst.Running) (quiet : timed.QuietBut port) (informed : timed.Informed)
    (inside : port < timed.inst.numberPorts) (receives : Receives port (timed.inst.ports port))
    (heard : Superior port (timed.inst.ports port) (timed.inst.ports port).announceRx →
      InRange (timed.view.announceReceiptTimeout port) (timed.announceLog port)) :
    Taken timed (timed.infoSm .run port) := by
  have pass := infoSmReceive_taken (fun _ quiet => portStateSelectionSm_kept SM_NESTING quiet) quiet informed inside
    receives.noAnnounce receives.pointer heard
  rw [← infoSmPass_receiving _ receives] at pass
  have inside' : port < (timed.infoSmPass (portStateSelectionSm SM_NESTING) port .run).inst.numberPorts := by
    rw [numberPorts,pass.config]
    exact inside
  unfold infoSm portAnnounceInfoSm
  rw [running.standard,if_neg (by decide),show SM_PASSES = 7 + 1 from rfl,infoSmLoop,running.notBegin,
    running.instanceEnable,receives.capable]
  dsimp only
  rw [if_neg (by simp)]
  split
  · exact pass
  · exact pass.kept (infoSmLoop_kept (fun _ quiet => portStateSelectionSm_kept SM_NESTING quiet) 7 .run pass.quiet inside')

end Information

section Reception
variable {timed : TimedInstance} {port : Nat}

theorem qualifyAnnounce_noted (inst : GptpInstance) (announce : AnnouncePdu) : inst.qualifyAnnounce port announce =
    (if inst.announceQualifies announce then inst.noted port announce else inst,inst.announceQualifies announce) := by
  unfold qualifyAnnounce noted
  cases inst.announceQualifies announce with
  | false => rfl
  | true =>
    rw [if_neg (by decide),if_pos rfl]
    split <;> rfl

theorem noted_kept (timed : TimedInstance) (port : Nat) (announce : AnnouncePdu) :
    Kept timed (timed.lift (GptpInstance.noted port announce)) := by
  refine kept_lift (noted_config announce) fun other _ => ?_
  rw [noted_ports]
  exact .refl _

def examined (qualified : Bool) (value : GptpPort) : GptpPort :=
  {value with
    rcvdAnnouncePar := false
    rcvdMsg := qualified
    announceRcvState := .receive}

theorem rcvSmReceive_examined (pointer : (timed.inst.ports port).rcvdAnnouncePtr = true) :
    timed.rcvSmReceive port =
      if timed.inst.announceQualifies (timed.inst.ports port).announceRx then
        ((timed.lift (GptpInstance.noted port (timed.inst.ports port).announceRx)).lift fun inst =>
          inst.setPort port (examined true (inst.ports port))).infoSm .run port
      else (timed.lift fun inst => inst.setPort port (examined false (inst.ports port))).infoSm .run port := by
  unfold rcvSmReceive
  rw [pointer,if_neg (by decide),qualifyAnnounce_noted]
  cases timed.inst.announceQualifies (timed.inst.ports port).announceRx <;> rfl

theorem examined_taken {noted : TimedInstance} (kept : Kept timed noted) (ports : noted.inst.ports = timed.inst.ports)
    (running : noted.inst.Running) (quiet : timed.QuietBut port) (informed : timed.Informed)
    (inside : port < timed.inst.numberPorts) (receives : Receives port (examined true (timed.inst.ports port)))
    (heard : Superior port (timed.inst.ports port) (timed.inst.ports port).announceRx →
      InRange (timed.view.announceReceiptTimeout port) (timed.announceLog port)) :
    Taken timed ((noted.lift fun inst => inst.setPort port (examined true (inst.ports port))).infoSm .run port) := by
  have informed' := kept.informed informed
  have inside' := kept.inside inside
  have same : (noted.lift fun inst => inst.setPort port (examined true (inst.ports port))).inst.ports port =
      examined true (timed.inst.ports port) := by
    rw [lift_inst,setPort_same,ports]
  have receipt : noted.view.announceReceiptTimeout = timed.view.announceReceiptTimeout := by
    rw [kept.same]
    rfl
  have log : noted.announceLog = timed.announceLog := by
    rw [kept.same]
    rfl
  suffices taken : Taken (noted.lift fun inst => inst.setPort port (examined true (inst.ports port)))
      ((noted.lift fun inst => inst.setPort port (examined true (inst.ports port))).infoSm .run port) from
    ⟨taken.config.trans kept.config,taken.beside.trans kept.beside,taken.quiet,taken.informed⟩
  refine infoSm_taken ?_ ?_ ?_ inside' ?_ ?_
  · exact {running with}
  · exact (kept.quietBut quiet).set rfl rfl
  · refine informed'.set rfl rfl ?_ fun received => ?_
    · exact fun _ _ awaits => {awaits with}
    · have awaits := informed' port inside' received
      exact {awaits with}
  · rw [same]
    exact receives
  · rw [same]
    change _ → InRange (noted.view.announceReceiptTimeout port) (noted.announceLog port)
    rw [receipt,log]
    exact heard

theorem rcvSmReceive_taken (running : timed.inst.Running) (quiet : timed.QuietBut port) (informed : timed.Informed)
    (inside : port < timed.inst.numberPorts) (pointer : (timed.inst.ports port).rcvdAnnouncePtr = true)
    (receives : timed.inst.announceQualifies (timed.inst.ports port).announceRx = true →
      Receives port (examined true (timed.inst.ports port)))
    (heard : timed.inst.announceQualifies (timed.inst.ports port).announceRx = true →
      Superior port (timed.inst.ports port) (timed.inst.ports port).announceRx →
      InRange (timed.view.announceReceiptTimeout port) (timed.announceLog port)) :
    Taken timed (timed.rcvSmReceive port) := by
  rw [rcvSmReceive_examined pointer]
  cases qualifies : timed.inst.announceQualifies (timed.inst.ports port).announceRx with
  | false =>
    have set : Kept timed (timed.lift fun inst => inst.setPort port (examined false (inst.ports port))) :=
      kept_setPort (p := port) rfl rfl ⟨fun _ => rfl,fun _ => rfl,id⟩
    have taken := quiet.taken set.config rfl rfl (set.informed informed) rfl rfl
    exact taken.kept (infoSm_kept taken.quiet inside .run)
  | true =>
    have noted : (timed.inst.noted port (timed.inst.ports port).announceRx).Running := by
      rw [noted_same]
      exact {running with}
    exact examined_taken (noted_kept timed port _) noted_ports noted quiet informed inside (receives qualifies)
      (heard qualifies)

def arriving (port : Nat) (announce : AnnouncePdu) (logMsgInterval : Int8) (timed : TimedInstance) : TimedInstance :=
  {timed.lift fun inst => inst.setPort port (arrived announce (inst.ports port)) with
    announceLog := update timed.announceLog port logMsgInterval}

variable {announce : AnnouncePdu} {logMsgInterval : Int8}

private theorem arriving_port : (timed.arriving port announce logMsgInterval).inst.ports port =
    arrived announce (timed.inst.ports port) := setPort_same ..

theorem portAnnounceRcvSm_taken (rest : timed.inst.Rest) (inside : port < timed.inst.numberPorts)
    (informed : timed.Informed)
    (heard : timed.inst.Adopts port announce true → InRange (timed.view.announceReceiptTimeout port) logMsgInterval) :
    Taken (timed.arriving port announce logMsgInterval)
      ((timed.arriving port announce logMsgInterval).portAnnounceRcvSm port) := by
  have here := rest.ports port inside
  have others : timed.QuietBut port := fun other inside _ =>
    ⟨(rest.ports other inside).noMessage,(rest.ports other inside).noAnnounce⟩
  have quiet : (timed.arriving port announce logMsgInterval).QuietBut port := others.set rfl rfl
  have known : (timed.arriving port announce logMsgInterval).Informed :=
    informed.set rfl rfl (fun _ _ awaits => {awaits with}) fun received =>
      have awaits := informed port inside received
      {awaits with}
  have running : (timed.arriving port announce logMsgInterval).inst.Running :=
    {rest.running with}
  have pass (capable : (timed.inst.ports port).capable = true) :
      (timed.arriving port announce logMsgInterval).rcvSmPass port =
        (timed.arriving port announce logMsgInterval).rcvSmReceive port := by
    unfold rcvSmPass
    rw [arriving_port,show (arrived announce (timed.inst.ports port)).rcvdMsg = false from here.noMessage,
      show (arrived announce (timed.inst.ports port)).capable = true from capable]
    cases (arrived announce (timed.inst.ports port)).announceRcvState <;> rfl
  have taken (capable : (timed.inst.ports port).capable = true) :
      Taken (timed.arriving port announce logMsgInterval)
        ((timed.arriving port announce logMsgInterval).rcvSmReceive port) := by
    refine rcvSmReceive_taken running quiet known inside ?_ ?_ ?_
    · rw [arriving_port]
      rfl
    · rw [arriving_port]
      intro qualifies
      have near : announce.stepsRemoved < 255 := near_of_qualifies qualifies
      exact (receives_pending here capable near :)
    · rw [arriving_port]
      intro qualifies superior
      rw [show (timed.arriving port announce logMsgInterval).announceLog port = logMsgInterval from update_self _ _ _]
      exact heard ⟨⟨rfl,inside,capable,qualifies⟩,superior⟩
  unfold portAnnounceRcvSm
  rw [running.standard,running.notBegin,running.instanceEnable,arriving_port,if_neg (by decide)]
  cases capable : (timed.inst.ports port).capable with
  | false =>
    rw [show (arrived announce (timed.inst.ports port)).capable = false from capable,
      show (timed.arriving port announce logMsgInterval).inst.config.externalPortConfigurationEnabled = false from
        timed.inst.config.external_off]
    have discarded : Kept (timed.arriving port announce logMsgInterval)
        ((timed.arriving port announce logMsgInterval).lift (GptpInstance.rcvSmDiscard port)) :=
      kept_setPort (p := port) rfl rfl ⟨fun _ => rfl,fun _ => rfl,id⟩
    exact quiet.taken discarded.config rfl rfl (discarded.informed known) rfl rfl
  | true =>
    have received := taken capable
    have inside' : port < ((timed.arriving port announce logMsgInterval).rcvSmReceive port).inst.numberPorts := by
      rw [numberPorts,received.config]
      exact inside
    have again : ((timed.arriving port announce logMsgInterval).rcvSmReceive port).rcvSmPass port =
        (timed.arriving port announce logMsgInterval).rcvSmReceive port := by
      unfold rcvSmPass
      rw [(received.quiet port inside').2]
      rfl
    rw [show (arrived announce (timed.inst.ports port)).capable = true from capable,if_neg (by simp),pass capable]
    dsimp only
    rw [again,ite_self]
    exact received

theorem gptpHandleAnnounce_taken (rest : timed.inst.Rest) (inside : port < timed.inst.numberPorts)
    (informed : timed.Informed) (fits : Bool)
    (heard : timed.inst.Adopts port announce fits → InRange (timed.view.announceReceiptTimeout port) logMsgInterval) :
    Taken timed (timed.gptpHandleAnnounce port announce fits logMsgInterval) := by
  unfold gptpHandleAnnounce
  rw [rest.running.standard]
  cases fits with
  | false =>
    have quiet : timed.Quiet := fun other inside => ⟨(rest.ports other inside).noMessage,(rest.ports other inside).noAnnounce⟩
    exact ⟨rfl,rfl,quiet,informed⟩
  | true =>
    have taken := portAnnounceRcvSm_taken rest inside informed heard
    exact {taken with}

end Reception

end TimedInstance

end Genavb.Gptp
