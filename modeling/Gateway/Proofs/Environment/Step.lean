import Gateway.Proofs.Environment.Pending
import Gateway.Proofs.Request.Parts
import Gateway.Session.ServerStep

/-!
# Steps on the environments of a server

The steps in which environments begin and end. Each is performed on a server by the code that there
is for it, and comes down to one operation on the bridge (`bridge_run`). What a step does to the
environment under one handle is said by `follow`, from which everything about runs is derived.
-/

namespace Gateway

/-- A step in the life of an environment. -/
inductive LifetimeStep where
  | new (h : Handle)
  | add (h : Handle) (name value : Bytes)
  | release (h : Handle)
  /-- Dispatches the request `h` with the environment of `env`. -/
  | dispatch (env h : Handle)
  /-- The same through the plugin, where a panic of the handler ends. -/
  | request (env h : Handle)
  deriving DecidableEq

namespace LifetimeStep

/-! ### Performing steps -/

def toServerStep : LifetimeStep → ServerStep
  | .new h => .bridge (.envNew h)
  | .add h name value => .bridge (.envAdd h name value)
  | .release h => .bridge (.envRelease h)
  | .dispatch env h => .bridge (.dispatch env h)
  | .request env h => .plugin (.request env.token h.token)

def run (s : LifetimeStep) (t : Server) : Answer × Server :=
  s.toServerStep.run t

def runAll (steps : List LifetimeStep) (t : Server) : Server :=
  steps.foldl (fun t s => (s.run t).2) t

/-- What a step does to the bridge. -/
def onBridge (s : LifetimeStep) (b : Bridge) : Bridge :=
  match s with
  | .new h => b.envNew h
  | .add h name value => (b.envAdd h name value).2
  | .release h => (b.envRelease h).2
  | .dispatch env h | .request env h => (b.dispatch env h).2

/-- A panic takes nothing back. -/
theorem bridge_withBridge {α : Type} (fallback : α) (f : Bridge → (α × Option Panic) × Bridge)
    {p : Plugin} {b : Bridge} (hb : p.bridge = some b) :
    (p.withBridge fallback f).2.bridge = some (f b).2 := by
  rw [Plugin.withBridge, hb]
  dsimp only
  rcases f b with ⟨⟨x, _ | panic⟩, b'⟩
  · rfl
  · rfl

theorem ofToken?_token (h : Handle) : Handle.ofToken? h.token = some h := by
  rw [Handle.ofToken?, dif_pos h.token_ne_zero]

/-- Every step leaves the bridge that its operation leaves. -/
theorem bridge_run (s : LifetimeStep) {t : Server} {b : Bridge} (hb : t.plugin.bridge = some b) :
    (s.run t).2.plugin.bridge = some (s.onBridge b) := by
  cases s with
  | request env h =>
    show (t.plugin.request env.token h.token).2.bridge = _
    rw [Plugin.request, ofToken?_token, ofToken?_token]
    exact bridge_withBridge (-1) _ hb
  | _ =>
    rw [run, toServerStep, ServerStep.run, hb]
    rfl

theorem bridge_runAll (steps : List LifetimeStep) {t : Server} {b : Bridge}
    (hb : t.plugin.bridge = some b) :
    (runAll steps t).plugin.bridge = some (steps.foldl (fun b s => s.onBridge b) b) := by
  induction steps generalizing t b with
  | nil => exact hb
  | cons s steps ih => exact ih (bridge_run s hb)

/-! ### What a step means for one handle -/

/-- Whether a step ends an environment under the handle `h`: it is dropped or handed out. -/
def ends (h : Handle) : LifetimeStep → Bool
  | .release k | .dispatch k _ | .request k _ => k = h
  | _ => false

/-- The octets that a step adds to an environment under the handle `h`. -/
def addition? (h : Handle) : LifetimeStep → Option (Bytes × Bytes)
  | .add k name value => if k = h then some (name, value) else none
  | _ => none

/-- The environment under the handle `h` after a step, when it was `e` before. -/
def follow (h : Handle) (e : Option Environment) (s : LifetimeStep) : Option Environment :=
  if s = .new h then some Environment.empty
  else if s.ends h then none
  else
    match s.addition? h with
    | none => e
    | some p => e.map fun vars => vars.insertRaw p.1 p.2

/-- Serving a request does not touch the environments that wait. -/
theorem pending_answer (b : Bridge) (h : Handle) (r : Request) :
    (b.answer h r).2.pending = b.pending := rfl

theorem dispatch_of_missing {b : Bridge} {env : Handle} (hvars : b.pending.get? env = none)
    (h : Handle) : b.dispatch env h = (none, b) := by
  have htake : b.pending.take env = (none, (b.pending.take env).2) := Prod.ext hvars rfl
  rw [Bridge.dispatch, htake]

/-- An environment that waits is handed out before the request is read from it. -/
theorem dispatch_of_waiting {b : Bridge} {env : Handle} {vars : Environment}
    (hvars : b.pending.get? env = some vars) (h : Handle) :
    b.dispatch env h =
      match Request.ofEnvironment vars with
      | .error u => (u.panic?, { b with pending := (b.pending.take env).2 })
      | .ok r => ({ b with pending := (b.pending.take env).2 } : Bridge).answer h r := by
  have htake : b.pending.take env = (some vars, (b.pending.take env).2) := Prod.ext hvars rfl
  cases hr : Request.ofEnvironment vars with
  | error u =>
    rw [Bridge.dispatch, htake]
    dsimp only
    rw [hr]
  | ok r =>
    rw [Bridge.dispatch, htake]
    dsimp only
    rw [hr]

/-- A dispatch hands the environment out, whatever comes of it. -/
theorem get?_dispatch (b : Bridge) (env h j : Handle) :
    (b.dispatch env h).2.pending.get? j = if j = env then none else b.pending.get? j := by
  cases hvars : b.pending.get? env with
  | none =>
    -- nothing is taken, and nothing was there
    rw [dispatch_of_missing hvars]
    by_cases hj : j = env
    · rw [if_pos hj, hj]
      exact hvars
    · rw [if_neg hj]
  | some vars =>
    -- it is taken before the request is read, so both ways of going on find it gone
    rw [dispatch_of_waiting hvars, ← Pending.get?_take]
    cases Request.ofEnvironment vars with
    | error u => rfl
    | ok r => exact congrArg (Pending.get? · j) (pending_answer _ h r)

theorem environment_of_ofEnvironment {vars : Environment} {r : Request}
    (hr : Request.ofEnvironment vars = .ok r) : r.environment = vars :=
  (Request.ofEnvironment_eq_ok_iff.mp hr).2.2.2.2.2

/-- Whatever a step does, `follow` says what becomes of each environment. -/
theorem get?_onBridge (s : LifetimeStep) (b : Bridge) (h : Handle) :
    (s.onBridge b).pending.get? h = follow h (b.pending.get? h) s := by
  cases s with
  | new k =>
    show (b.pending.create k).get? h = _
    rw [Pending.get?_create]
    by_cases hk : h = k
    · simp [follow, hk]
    · simp [follow, hk, Ne.symm hk, ends, addition?]
  | add k name value =>
    show (b.pending.add k name value).2.get? h = _
    rw [Pending.get?_add]
    by_cases hk : h = k
    · simp [follow, hk, ends, addition?]
    · simp [follow, hk, Ne.symm hk, ends, addition?]
  | release k =>
    show (b.pending.discard k).2.get? h = _
    rw [Pending.get?_discard]
    by_cases hk : h = k
    · simp [follow, hk, ends]
    · simp [follow, hk, Ne.symm hk, ends, addition?]
  | dispatch env k | request env k =>
    show (b.dispatch env k).2.pending.get? h = _
    rw [get?_dispatch]
    by_cases hk : h = env
    · simp [follow, hk, ends]
    · simp [follow, hk, Ne.symm hk, ends, addition?]

/-- After a run, each environment is what the steps make of it one after the other. -/
theorem get?_foldl_onBridge (steps : List LifetimeStep) (b : Bridge) (h : Handle) :
    (steps.foldl (fun b s => s.onBridge b) b).pending.get? h =
      steps.foldl (follow h) (b.pending.get? h) := by
  induction steps generalizing b with
  | nil => rfl
  | cons s steps ih => rw [List.foldl_cons, List.foldl_cons, ih, get?_onBridge]

end LifetimeStep

end Gateway
