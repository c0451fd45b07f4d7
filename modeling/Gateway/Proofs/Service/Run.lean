import Gateway.Proofs.Bridge
import Gateway.Proofs.Service.Log
import Gateway.Session.BridgeStep

/-!
# Services in runs of a bridge

The services that a step on a bridge performs, whether it asks for one itself or runs code that does:
hooks, callbacks, and handlers of dispatched requests. As long as the steps plan no codes and leave
the cache of the core to services (`BridgeStep.IsPlain`), a run goes along the log of its services
(`performs_runAll`).
-/

namespace Gateway

/-! ### Steps on the core -/

/-- Whether a step on a core neither plans codes nor calls the cache. -/
def CoreStep.IsPlain : CoreStep → Prop
  | .cacheGet _ | .cacheExists _ | .cacheDelete _ | .cacheSet .. | .plan .. => False
  | _ => True

/-- Such a step changes nothing that the log would tell. -/
theorem CoreStep.aside_run {s : CoreStep} (hs : s.IsPlain) {h : Host} (hc : h.core.Unplanned) :
    Aside h { h with core := (s.run h.core).2 } := by
  cases s with
  | readChunk r n =>
    have hread : ((CoreStep.readChunk r n).run h.core).2 = (h.core.readChunk r n).2 := by
      rw [run]
      rcases h.core.readChunk r n with ⟨_ | _, c⟩
      · rfl
      · rfl
    rw [hread]
    exact Aside.of_exchanges ((Core.local_readChunk r n).frame hc).beside
  | writeHeaderBlock r block =>
    exact Aside.of_exchanges ((Core.local_writeHeaderBlock r block).frame hc).beside
  | writeBodyChunk r chunk =>
    exact Aside.of_exchanges ((Core.local_writeBodyChunk r chunk).frame hc).beside
  | cacheGet | cacheExists | cacheDelete | cacheSet | plan => exact hs.elim
  | _ => exact ⟨rfl, rfl, rfl, rfl, id, [], (List.append_nil _).symm⟩

namespace Bridge

variable {b : Bridge}

/-! ### Running code -/

/-- The services of the handler that answers a dispatched request. -/
def performedInDispatch (b : Bridge) (env h : Handle) : List Performed :=
  match b.pending.get? env with
  | none => []
  | some vars =>
    match Request.ofEnvironment vars with
    | .error _ => []
    | .ok r => (b.app.serve r).performed (b.turn h r)

theorem performs_dispatch (hc : b.core.Unplanned) (env h : Handle) :
    Performs b.host (b.performedInDispatch env h) (b.dispatch env h).2.host := by
  rw [performedInDispatch]
  cases hvars : b.pending.get? env with
  | none =>
    rw [LifetimeStep.dispatch_of_missing hvars]
    exact Aside.refl b.host
  | some vars =>
    rw [LifetimeStep.dispatch_of_waiting hvars]
    dsimp only
    cases Request.ofEnvironment vars with
    | error e => exact Aside.refl b.host
    | ok r => exact TurnProgram.performs_run (b.app.serve r) (t := b.turn h r) hc

/-- The services of the callback of a signal. -/
def performedInSignal (b : Bridge) (signum : UInt8) : List Performed :=
  match b.host.signals.get? signum with
  | none => []
  | some callback => (b.app.callback callback signum).performed b.host

theorem performs_dispatchSignal (hc : b.core.Unplanned) (signum : UInt8) :
    Performs b.host (b.performedInSignal signum) (b.dispatchSignal signum).2.host := by
  rw [performedInSignal, dispatchSignal]
  cases b.host.signals.get? signum with
  | none => exact Aside.refl b.host
  | some callback => exact HostProgram.performs_run (b.app.callback callback signum) hc

end Bridge

namespace BridgeStep

variable {b : Bridge}

/-! ### Opening a request -/

/-- The bridge with a request opened, the chunks of its body queued and its environment filled. -/
def opened (vars : List (Bytes × Bytes)) (chunks : List Bytes) (b : Bridge) : Bridge :=
  let h := b.core.nextHandle
  let b := b.withCore (chunks.foldl (fun c chunk => c.pushBody h chunk) b.core.openRequest.2)
  vars.foldl (fun b v => (b.envAdd h v.1 v.2).2) (b.envNew h)

theorem serve_snd (vars : List (Bytes × Bytes)) (chunks : List Bytes) (b : Bridge) :
    (serve vars chunks b).2 =
      ((opened vars chunks b).dispatch b.core.nextHandle b.core.nextHandle).2 := rfl

theorem host_foldl_envAdd (r : Handle) (vars : List (Bytes × Bytes)) (b : Bridge) :
    (vars.foldl (fun b v => (b.envAdd r v.1 v.2).2) b).host = b.host := by
  induction vars generalizing b with
  | nil => rfl
  | cons v vars ih => exact ih (b.envAdd r v.1 v.2).2

theorem aside_foldl_pushBody (r : Handle) (chunks : List Bytes) {h : Host} {c : Core}
    (hc : Aside h { h with core := c }) :
    Aside h { h with core := chunks.foldl (fun c chunk => c.pushBody r chunk) c } := by
  induction chunks generalizing c with
  | nil => exact hc
  | cons chunk chunks ih =>
    exact ih (hc.trans (Aside.of_exchanges (h := { h with core := c }) rfl))

theorem aside_opened (vars : List (Bytes × Bytes)) (chunks : List Bytes) (b : Bridge) :
    Aside b.host (opened vars chunks b).host := by
  have hopen : Aside b.host { b.host with core := b.core.openRequest.2 } :=
    ⟨rfl, rfl, rfl, rfl, id, [], (List.append_nil _).symm⟩
  rw [opened, host_foldl_envAdd]
  exact aside_foldl_pushBody b.core.nextHandle chunks hopen

theorem continues_opened (vars : List (Bytes × Bytes)) (chunks : List Bytes) (b : Bridge) :
    b.Continues (opened vars chunks b) := by
  have hvars : ∀ (r : Handle) (d : Bridge), b.Continues d →
      b.Continues (vars.foldl (fun b v => (b.envAdd r v.1 v.2).2) d) := by
    intro r d hd
    induction vars generalizing d with
    | nil => exact hd
    | cons v vars ih => exact ih _ (hd.trans ⟨_, _, rfl⟩)
  exact hvars _ _ ⟨_, _, rfl⟩

/-! ### Steps -/

/-- Whether a step plans no codes and leaves the cache of the core to services. -/
def IsPlain : BridgeStep → Prop
  | .core s => s.IsPlain
  | _ => True

/-- The services that a step performs, in order. -/
def performed (s : BridgeStep) (b : Bridge) : List Performed :=
  match s with
  | .service s => [⟨s, b.host⟩]
  | .request vars chunks =>
    (opened vars chunks b).performedInDispatch b.core.nextHandle b.core.nextHandle
  | .dispatch env h => b.performedInDispatch env h
  | .dispatchSignal n => b.performedInSignal n
  | .banner => b.app.banner.performed b.host
  | .postFork => b.app.postFork.performed b.host
  | .postInit => b.app.postInit.performed b.host
  | _ => []

theorem run_dispatchSignal_snd (n : UInt8) (b : Bridge) :
    ((BridgeStep.dispatchSignal n).run b).2 = (b.dispatchSignal n).2 := by
  rw [run]
  rcases b.dispatchSignal n with ⟨⟨ran, _ | m⟩, d⟩
  · rfl
  · rfl

theorem performs_run {s : BridgeStep} (hs : s.IsPlain) (hc : b.core.Unplanned) :
    Performs b.host (s.performed b) (s.run b).2.host := by
  cases s with
  | core s => exact CoreStep.aside_run hs hc
  | service s => exact Performs.service b.host s
  | request vars chunks =>
    have hopen := aside_opened vars chunks b
    show Performs b.host _ (serve vars chunks b).2.host
    rw [serve_snd]
    exact (Bridge.performs_dispatch (hopen.unplanned hc) _ _).of_aside hopen
  | dispatch env h => exact Bridge.performs_dispatch hc env h
  | dispatchSignal n =>
    rw [run_dispatchSignal_snd]
    exact Bridge.performs_dispatchSignal hc n
  | banner => exact HostProgram.performs_run b.app.banner hc
  | postFork => exact HostProgram.performs_run b.app.postFork hc
  | postInit => exact HostProgram.performs_run b.app.postInit hc
  | runCore id => exact ⟨rfl, rfl, rfl, rfl, fun hc => hc, [id], rfl⟩
  | _ => exact Aside.refl b.host

theorem continues_run (s : BridgeStep) (b : Bridge) : b.Continues (s.run b).2 := by
  cases s with
  | request vars chunks =>
    show b.Continues (serve vars chunks b).2
    rw [serve_snd]
    exact (continues_opened vars chunks b).trans (Bridge.continues_dispatch _ _ _)
  | dispatch env h => exact Bridge.continues_dispatch b env h
  | dispatchSignal n =>
    rw [run_dispatchSignal_snd]
    exact Bridge.continues_dispatchSignal b n
  | _ => exact ⟨_, _, rfl⟩

/-- A bridge keeps its application. -/
theorem app_run (s : BridgeStep) (b : Bridge) : (s.run b).2.app = b.app :=
  (continues_run s b).app_eq

/-! ### Runs -/

/-- The bridge after steps. -/
def runAll (steps : List BridgeStep) (b : Bridge) : Bridge :=
  steps.foldl (fun b s => (s.run b).2) b

/-- The services that steps perform, in order. -/
def performedAll : List BridgeStep → Bridge → List Performed
  | [], _ => []
  | s :: steps, b => s.performed b ++ performedAll steps (s.run b).2

/-- A run goes along its log. -/
theorem performs_runAll {steps : List BridgeStep} (hsteps : ∀ s ∈ steps, s.IsPlain)
    (hc : b.core.Unplanned) : Performs b.host (performedAll steps b) (runAll steps b).host := by
  induction steps generalizing b with
  | nil => exact Aside.refl b.host
  | cons s steps ih =>
    have hstep := performs_run (hsteps s List.mem_cons_self) hc
    have hrest := ih (fun s' hs' => hsteps s' (List.mem_cons_of_mem s hs')) (hstep.unplanned hc)
    exact hstep.trans hrest

theorem app_runAll (steps : List BridgeStep) (b : Bridge) : (runAll steps b).app = b.app := by
  induction steps generalizing b with
  | nil => rfl
  | cons s steps ih => exact (ih (s.run b).2).trans (app_run s b)

end BridgeStep

end Gateway
