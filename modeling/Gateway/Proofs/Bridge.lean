import Gateway.Proofs.Environment.Step

/-!
# What a bridge starts with and what it keeps

A new bridge has its application, its settings and its core, and nothing else yet. Whatever it does,
only the environments that wait and the host change (`Bridge.Continues`). A dispatch ends in one of
three ways: nothing waited, no request was read from what waited, or the request was answered
(`dispatch_snd`).
-/

namespace Gateway.Bridge

/-- What a new bridge is made of. -/
theorem new_eq_ok_iff {app : Application} {settings : Settings} {core : Core} {b : Bridge} :
    Bridge.new app settings core = .ok b ↔
      ∃ contentType, HeaderValue.ofBytes? (Utf8.ofString settings.defaultContentType) =
          some contentType ∧
        b = { app, settings, defaultContentType := contentType
              host := { core, plugin := settings.pluginName } } := by
  rw [Bridge.new]
  cases HeaderValue.ofBytes? (Utf8.ofString settings.defaultContentType) with
  | none => simp
  | some contentType => simp [eq_comm]

/-! ### What stays -/

/-- Whether a bridge can have become another one: they differ at most in what waits and in the host. -/
def Continues (b d : Bridge) : Prop :=
  ∃ pending host, d = { b with pending := pending, host := host }

namespace Continues

variable {b c d : Bridge}

theorem refl (b : Bridge) : b.Continues b :=
  ⟨b.pending, b.host, rfl⟩

theorem trans (hbc : b.Continues c) (hcd : c.Continues d) : b.Continues d := by
  obtain ⟨_, _, rfl⟩ := hbc
  obtain ⟨pending, host, rfl⟩ := hcd
  exact ⟨pending, host, rfl⟩

theorem app_eq (hbd : b.Continues d) : d.app = b.app := by
  obtain ⟨_, _, rfl⟩ := hbd
  rfl

theorem defaultContentType_eq (hbd : b.Continues d) :
    d.defaultContentType = b.defaultContentType := by
  obtain ⟨_, _, rfl⟩ := hbd
  rfl

end Continues

/-! ### Dispatches -/

/-- The bridge after an environment was handed out. -/
def taken (b : Bridge) (env : Handle) : Bridge :=
  { b with pending := (b.pending.take env).2 }

/-- What holds of a bridge after a dispatch, in each way that it may end. -/
theorem dispatch_snd {P : Bridge → Prop} {b : Bridge} {env h : Handle} (hidle : P b)
    (htaken : P (b.taken env)) (hserved : ∀ r, P ((b.taken env).answer h r).2) :
    P (b.dispatch env h).2 := by
  cases hvars : b.pending.get? env with
  | none => rwa [LifetimeStep.dispatch_of_missing hvars]
  | some vars =>
    rw [LifetimeStep.dispatch_of_waiting hvars]
    cases Request.ofEnvironment vars with
    | error e => exact htaken
    | ok r => exact hserved r

theorem continues_dispatch (b : Bridge) (env h : Handle) : b.Continues (b.dispatch env h).2 :=
  dispatch_snd (P := b.Continues) (Continues.refl b) ⟨_, _, rfl⟩ fun _ => ⟨_, _, rfl⟩

theorem app_dispatch (b : Bridge) (env h : Handle) : (b.dispatch env h).2.app = b.app :=
  (continues_dispatch b env h).app_eq

theorem defaultContentType_dispatch (b : Bridge) (env h : Handle) :
    (b.dispatch env h).2.defaultContentType = b.defaultContentType :=
  (continues_dispatch b env h).defaultContentType_eq

/-- The panic that the handler of a dispatch runs into. Reading the request is not the handler's. -/
def handlerPanic? (b : Bridge) (env h : Handle) : Option Panic :=
  match b.pending.get? env with
  | none => none
  | some vars =>
    match Request.ofEnvironment vars with
    | .error _ => none
    | .ok r => ((b.taken env).answer h r).1

/-- A handler runs only where a request was read from an environment. -/
theorem dispatch_of_handlerPanic {b : Bridge} {env h : Handle}
    (hpanic : (b.handlerPanic? env h).isSome) :
    ∃ vars r, b.pending.get? env = some vars ∧ Request.ofEnvironment vars = .ok r ∧
      b.dispatch env h = (b.taken env).answer h r := by
  cases hvars : b.pending.get? env with
  | none =>
    rw [handlerPanic?, hvars] at hpanic
    exact absurd hpanic Bool.false_ne_true
  | some vars =>
    have hdispatch := LifetimeStep.dispatch_of_waiting hvars h
    cases hr : Request.ofEnvironment vars with
    | error u =>
      simp only [handlerPanic?, hvars, hr] at hpanic
      exact absurd hpanic Bool.false_ne_true
    | ok r =>
      rw [hr] at hdispatch
      exact ⟨vars, r, rfl, hr, hdispatch⟩

/-- The panic of a handler is the panic of its dispatch. -/
theorem dispatch_fst_of_handlerPanic {b : Bridge} {env h : Handle}
    (hpanic : (b.handlerPanic? env h).isSome) :
    (b.dispatch env h).1 = b.handlerPanic? env h := by
  obtain ⟨vars, r, hvars, hr, hdispatch⟩ := dispatch_of_handlerPanic hpanic
  simp only [hdispatch, handlerPanic?, hvars, hr]

theorem continues_dispatchSignal (b : Bridge) (signum : UInt8) :
    b.Continues (b.dispatchSignal signum).2 := by
  rw [dispatchSignal]
  cases b.host.signals.get? signum with
  | none => exact Continues.refl b
  | some callback => exact ⟨_, _, rfl⟩

theorem app_dispatchSignal (b : Bridge) (signum : UInt8) :
    (b.dispatchSignal signum).2.app = b.app :=
  (continues_dispatchSignal b signum).app_eq

end Gateway.Bridge
