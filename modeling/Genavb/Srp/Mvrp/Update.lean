import Genavb.Srp.Mvrp.Context

/-! What a MAP update of one VLAN does: the declared bit of every port afterwards, and the
join requests that were made for it. -/
namespace Genavb.Mvrp
open Support Mrp MvrpVlan MvrpCtx List

/-- A port has to declare the VLAN: it is forwarding, and the VLAN is registered on another
forwarding port or declared by the user on this one. -/
def MvrpMap.wants (map : MvrpMap) (vlan : MvrpVlan) (port : Nat) : Bool :=
  map.isForwarding port && (vlan.isRegisteredOtherForwarding map port || vlan.isUserDeclared port)

def MvrpCtx.grants (ctx : MvrpCtx) (new : Bool) (alloc : Nat → AllocOutcome) (vlanId : VlanId) (port : Nat) : Bool :=
  (mrpMadJoinRequest vidType vlanId new (alloc port) (ctx.mrpApp port)).2.isSome

def declares (ctx : MvrpCtx) (new : Bool) (alloc : Nat → AllocOutcome) (vlan : MvrpVlan) (port : Nat) : Bool :=
  ctx.map.wants vlan port && (vlan.isDeclared port || ctx.grants new alloc vlan.vlanId port)

def portRequest (ctx : MvrpCtx) (new : Bool) (alloc : Nat → AllocOutcome) (vlan : MvrpVlan) (port : Nat) :
    Option JoinRequest :=
  if ctx.map.wants vlan port && !vlan.isDeclared port then
    some ⟨vlan.vlanId,port,ctx.grants new alloc vlan.vlanId port⟩
  else none

section Port
variable {ctx : MvrpCtx} {vlan : MvrpVlan} {port : Nat}

theorem wants_iff (map : MvrpMap) (vlan : MvrpVlan) (port : Nat) :
    map.wants vlan port = true ↔ map.isForwarding port = true ∧
      ((∃ other, other < 16 ∧ other ≠ port ∧ vlan.isRegistered other = true ∧ map.isForwarding other = true) ∨
        vlan.isUserDeclared port = true) := by
  unfold MvrpMap.wants isRegisteredOtherForwarding
  rw [Bool.and_eq_true,Bool.or_eq_true,bne_iff_ne,maskClear_ne_zero]
  apply and_congr_right
  intro _
  apply or_congr_left
  constructor
  · intro ⟨other,inside,different,both⟩
    rw [maskHas_and _ _ inside,Bool.and_eq_true] at both
    exact ⟨other,inside,different,both.1,both.2⟩
  · intro ⟨other,inside,different,registered,forwarding⟩
    refine ⟨other,inside,different,?_⟩
    rw [maskHas_and _ _ inside,Bool.and_eq_true]
    exact ⟨registered,forwarding⟩

theorem mvrpMapUpdatePort_wants (new : Bool) (alloc : Nat → AllocOutcome) (vlan : MvrpVlan) (ctx : MvrpCtx)
    (port : Nat) : mvrpMapUpdatePort new alloc vlan ctx port =
      if ctx.map.wants vlan port then
        if vlan.isDeclared port then (vlan,ctx)
        else
          let (app,attr) := mrpMadJoinRequest vidType vlan.vlanId new (alloc port) (ctx.mrpApp port)
          let ctx := {ctx.setApp port app with requests := ctx.requests ++ [⟨vlan.vlanId,port,attr.isSome⟩]}
          if attr.isSome then (vlan.declaredSet port,ctx) else (vlan,ctx)
      else mvrpWithdraw port vlan ctx := by
  unfold mvrpMapUpdatePort MvrpMap.wants
  cases ctx.map.isForwarding port with
  | false | true => rfl

theorem mvrpMapUpdatePort_outcome (new : Bool) (alloc : Nat → AllocOutcome) (vlan : MvrpVlan) (ctx : MvrpCtx)
    (port : Nat) : ∃ declared app,
      mvrpMapUpdatePort new alloc vlan ctx port =
        ({vlan with declaredState := declared},{ctx with
          mrpApp := Function.update ctx.mrpApp port app
          requests := ctx.requests ++ (portRequest ctx new alloc vlan port).toList}) ∧
      ∀ j, j < 16 → maskHas declared j = if j = port then declares ctx new alloc vlan port else vlan.isDeclared j := by
  rw [mvrpMapUpdatePort_wants]
  unfold portRequest declares grants
  have unchanged : ∀ value, vlan.isDeclared port = value →
      ∀ j, j < 16 → maskHas vlan.declaredState j = if j = port then value else vlan.isDeclared j := by
    intro value same j _
    split
    next here => rw [here,← same]; rfl
    · rfl
  cases wanted : ctx.map.wants vlan port with
  | false =>
    unfold mvrpWithdraw
    cases declared : vlan.isDeclared port with
    | true =>
      refine ⟨maskClear vlan.declaredState port,_,by simp [declaredClear,setApp]; rfl,?_⟩
      intro j inside
      rw [maskHas_clear _ inside]
      by_cases here : j = port
      · simp [here]
      · simp [here,Ne.symm here,isDeclared]
    | false =>
      exact ⟨vlan.declaredState,ctx.mrpApp port,by simp,unchanged _ declared⟩
  | true =>
    cases declared : vlan.isDeclared port with
    | true =>
      exact ⟨vlan.declaredState,ctx.mrpApp port,by simp,unchanged _ declared⟩
    | false =>
      cases granted : (mrpMadJoinRequest vidType vlan.vlanId new (alloc port) (ctx.mrpApp port)).2.isSome with
      | true =>
        refine ⟨maskSet vlan.declaredState port,_,by simp [granted,declaredSet,setApp]; rfl,?_⟩
        intro j inside
        rw [maskHas_set _ inside]
        by_cases here : j = port
        · simp [here]
        · simp [here,Ne.symm here,isDeclared]
      | false =>
        exact ⟨vlan.declaredState,_,by simp [granted,setApp]; rfl,unchanged _ declared⟩

theorem updatePorts_outcome (new : Bool) (alloc : Nat → AllocOutcome) (vlan : MvrpVlan) (ctx : MvrpCtx)
    {count : Nat} (inside : count ≤ 16) : ∃ declared apps,
      (List.range count).foldl (fun state port => mvrpMapUpdatePort new alloc state.1 state.2 port) (vlan,ctx) =
        ({vlan with declaredState := declared},{ctx with
          mrpApp := apps
          requests := ctx.requests ++ (List.range count).filterMap (portRequest ctx new alloc vlan)}) ∧
      (∀ j, j < 16 → maskHas declared j = if j < count then declares ctx new alloc vlan j else vlan.isDeclared j) ∧
      ∀ j, count ≤ j → apps j = ctx.mrpApp j := by
  induction count with
  | zero => exact ⟨vlan.declaredState,ctx.mrpApp,by simp,by simp [isDeclared],by simp⟩
  | succ count ih =>
    obtain ⟨declared,apps,reached,bits,untouched⟩ := ih (by omega)
    obtain ⟨next,app,step,nextBits⟩ := mvrpMapUpdatePort_outcome new alloc {vlan with declaredState := declared}
      {ctx with
        mrpApp := apps
        requests := ctx.requests ++ (List.range count).filterMap (portRequest ctx new alloc vlan)} count
    -- the iteration finds the VLAN's bit and the application of its port as they were at the start
    have sameBit : isDeclared {vlan with declaredState := declared} count = vlan.isDeclared count := by
      have bit := bits count (by omega)
      simpa [isDeclared] using bit
    have sameApp := untouched count (Nat.le_refl _)
    have sameRequest : ∀ requests, portRequest {ctx with mrpApp := apps, requests := requests} new alloc
        {vlan with declaredState := declared} count = portRequest ctx new alloc vlan count := by
      intro requests
      simp only [portRequest,grants,sameBit,sameApp]
      rfl
    have sameDeclares : ∀ requests, declares {ctx with mrpApp := apps, requests := requests} new alloc
        {vlan with declaredState := declared} count = declares ctx new alloc vlan count := by
      intro requests
      simp only [declares,grants,sameBit,sameApp]
      rfl
    refine ⟨next,Function.update apps count app,?_,?_,?_⟩
    · have single : [count].filterMap (portRequest ctx new alloc vlan) =
          (portRequest ctx new alloc vlan count).toList := by
        cases made : portRequest ctx new alloc vlan count <;> simp [made]
      rw [range_succ,foldl_append,reached,filterMap_append,single]
      simp only [foldl_cons,foldl_nil,step,sameRequest,append_assoc]
    · intro j within
      rw [nextBits j within,sameDeclares]
      by_cases here : j = count
      · simp [here]
      · have bit := bits j within
        simp only [here,if_false,isDeclared] at bit ⊢
        rw [bit]
        have order : j < count + 1 ↔ j < count := by omega
        simp only [order]
    · intro j beyond
      rw [Function.update_of_ne (by omega),untouched j (by omega)]

def lastRequest (requests : List JoinRequest) (vlanId : VlanId) (port : Nat) : Option JoinRequest :=
  (requests.filter fun request => request.vlanId == vlanId && request.port == port).getLast?

def refused (ctx : MvrpCtx) (vlanId : VlanId) (port : Nat) : Prop :=
  lastRequest ctx.requests vlanId port = some ⟨vlanId,port,false⟩

theorem portRequest_filter (new : Bool) (alloc : Nat → AllocOutcome) (vlan : MvrpVlan) (ctx : MvrpCtx)
    (vlanId : VlanId) (port count : Nat) :
    ((List.range count).filterMap (portRequest ctx new alloc vlan)).filter
        (fun request => request.vlanId == vlanId && request.port == port) =
      if vlanId = vlan.vlanId ∧ port < count then (portRequest ctx new alloc vlan port).toList else [] := by
  induction count with
  | zero => simp
  | succ count ih =>
    rw [range_succ,filterMap_append,filter_append,ih]
    have shape : ∀ request, portRequest ctx new alloc vlan count = some request →
        request.vlanId = vlan.vlanId ∧ request.port = count := by
      intro request made
      unfold portRequest at made
      split at made
      · rw [← Option.some.inj made]; exact ⟨rfl,rfl⟩
      · exact absurd made (Option.some_ne_none _).symm
    cases made : portRequest ctx new alloc vlan count with
    | none =>
      by_cases here : port = count
      · simp [here,made]
      · simp [made,show port < count + 1 ↔ port < count by omega]
    | some request =>
      obtain ⟨sameVlan,samePort⟩ := shape request made
      by_cases here : port = count
      · subst here
        by_cases own : vlanId = vlan.vlanId
        · simp [made,sameVlan,samePort,own]
        · simp [made,sameVlan,own,Ne.symm own]
      · simp [made,samePort,Ne.symm here,show port < count + 1 ↔ port < count by omega]

theorem mvrpMapUpdateVlan_outcome (new : Bool) (alloc : Nat → AllocOutcome) (vlan : MvrpVlan) (ctx : MvrpCtx) :
    ∃ kept apps next,
      kept = {vlan with declaredState := kept.declaredState} ∧
      (∀ j, j < 16 → kept.isDeclared j = if j < ctx.config.portMax then declares ctx new alloc vlan j else vlan.isDeclared j) ∧
      next = store kept {ctx with
        mrpApp := apps
        requests := ctx.requests ++ (List.range ctx.config.portMax).filterMap (portRequest ctx new alloc vlan)} ∧
      mvrpMapUpdateVlan new alloc vlan ctx =
        if !vlan.isRegisteredAny && !vlan.isUserDeclaredAny then next.mvrpFreeVlan kept else next := by
  obtain ⟨declared,apps,reached,bits,_⟩ := updatePorts_outcome new alloc vlan ctx ctx.config.portMax_bound
  refine ⟨{vlan with declaredState := declared},apps,_,rfl,bits,rfl,?_⟩
  unfold mvrpMapUpdateVlan mvrpMapUpdatePorts
  rw [reached]
  rfl

theorem lastRequest_other {new : Bool} {alloc : Nat → AllocOutcome} {vlanId : VlanId} (other : vlanId ≠ vlan.vlanId)
    (port count : Nat) :
    lastRequest (ctx.requests ++ (List.range count).filterMap (portRequest ctx new alloc vlan)) vlanId port =
      lastRequest ctx.requests vlanId port := by
  unfold lastRequest
  rw [filter_append,portRequest_filter,if_neg (fun both => other both.1),append_nil]

theorem lastRequest_own {new : Bool} {alloc : Nat → AllocOutcome} {count : Nat} (inside : port < count)
    (wanted : ctx.map.wants vlan port = true) (undeclared : declares ctx new alloc vlan port = false) :
    lastRequest (ctx.requests ++ (List.range count).filterMap (portRequest ctx new alloc vlan)) vlan.vlanId port =
      some ⟨vlan.vlanId,port,false⟩ := by
  simp only [declares,wanted,Bool.true_and,Bool.or_eq_false_iff] at undeclared
  unfold lastRequest
  rw [filter_append,portRequest_filter,if_pos ⟨rfl,inside⟩]
  simp [portRequest,wanted,undeclared]

end Port

end Genavb.Mvrp
