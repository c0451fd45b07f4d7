import Gateway.Proofs.Bridge
import Gateway.Proofs.Program

/-!
# Panics at the boundary

The entry points turn a panic into a code. A panic in the code of a request or of a signal is like a
return in its place: everything is left as the return leaves it, so whatever comes afterwards goes
the same way, and only the call itself reports failure instead of success (`log_returning`). What the
handler did before the panic stays done.

For each call in a run it may be chosen that its code returns wherever it would panic. Such code is
the `calm` form of the same code: it asks for the same and is answered the same until then.
-/

namespace Gateway

/-- The application whose requests and signals return where they would panic. -/
def Application.calm (app : Application) : Application :=
  { app with
    serve := fun r => (app.serve r).calm
    callback := fun callback signum => (app.callback callback signum).calm }

/-! ### Calm code -/

/-- A turn after a handler asked for one thing after the other. -/
def Turn.after {ω : Type} [ResponseWriter ω] (t : Turn ω) (calls : List TurnCall) : Turn ω :=
  calls.foldl (fun t c => (t.act c).2) t

namespace TurnProgram

variable {ω : Type} [ResponseWriter ω]

/-- What code asks for in a turn, in order. -/
def calls {α : Type} (p : TurnProgram α) (t : Turn ω) : List TurnCall :=
  Program.asked (I := TurnInterface) Turn.act p t

theorem run_snd {α : Type} (p : TurnProgram α) (t : Turn ω) : (p.run t).2 = t.after (p.calls t) :=
  Program.run_snd (I := TurnInterface) Turn.act p t

/-- Code that returns instead asks for the same. -/
theorem calls_calm (p : TurnProgram Unit) (t : Turn ω) :
    TurnProgram.calls (Program.calm p) t = p.calls t :=
  Program.asked_calm (I := TurnInterface) Turn.act p t

theorem run_calm (p : TurnProgram Unit) (t : Turn ω) :
    TurnProgram.run (Program.calm p) t = (.done (), (p.run t).2) :=
  Program.run_calm (I := TurnInterface) Turn.act p t

end TurnProgram

theorem HostProgram.run_calm (p : HostProgram Unit) (h : Host) :
    HostProgram.run (Program.calm p) h = (.done (), (p.run h).2) :=
  Program.run_calm (I := HostInterface) Host.act p h

/-! ### Calm bridges -/

namespace Bridge

/-- The bridge with the calm form of its application. -/
def calm (b : Bridge) : Bridge :=
  { b with app := b.app.calm }

theorem answer_calm (b : Bridge) (h : Handle) (r : Request) :
    b.calm.answer h r = (none, (b.answer h r).2.calm) := by
  have hrun : (b.calm.app.serve r).run (b.calm.turn h r) =
      (.done (), ((b.app.serve r).run (b.turn h r)).2) :=
    TurnProgram.run_calm (b.app.serve r) (b.turn h r)
  rw [answer, hrun]
  rfl

/-- Calm code ends in no panic. A panic in reading the request is not the handler's, and stays. -/
theorem dispatch_calm (b : Bridge) (env h : Handle) :
    b.calm.dispatch env h =
      (if (b.handlerPanic? env h).isSome then none else (b.dispatch env h).1,
        (b.dispatch env h).2.calm) := by
  cases hvars : b.pending.get? env with
  | none =>
    have hvars' : b.calm.pending.get? env = none := hvars
    have hcode : b.handlerPanic? env h = none := by rw [handlerPanic?, hvars]
    rw [LifetimeStep.dispatch_of_missing hvars, LifetimeStep.dispatch_of_missing hvars', hcode]
    rfl
  | some vars =>
    have hvars' : b.calm.pending.get? env = some vars := hvars
    rw [LifetimeStep.dispatch_of_waiting hvars, LifetimeStep.dispatch_of_waiting hvars']
    cases hr : Request.ofEnvironment vars with
    | error u =>
      have hcode : b.handlerPanic? env h = none := by simp only [handlerPanic?, hvars, hr]
      rw [hcode]
      rfl
    | ok r =>
      have hcode : b.handlerPanic? env h = ((b.taken env).answer h r).1 := by
        simp only [handlerPanic?, hvars, hr]
      refine (answer_calm (b.taken env) h r).trans (Prod.ext ?_ rfl)
      rw [hcode]
      show none = if ((b.taken env).answer h r).1.isSome then none else ((b.taken env).answer h r).1
      cases ((b.taken env).answer h r).1 <;> rfl

theorem dispatchSignal_calm (b : Bridge) (signum : UInt8) :
    b.calm.dispatchSignal signum =
      (((b.dispatchSignal signum).1.1, none), (b.dispatchSignal signum).2.calm) := by
  cases hcallback : b.host.signals.get? signum with
  | none =>
    have hcallback' : b.calm.host.signals.get? signum = none := hcallback
    rw [dispatchSignal, dispatchSignal, hcallback, hcallback']
  | some callback =>
    have hcallback' : b.calm.host.signals.get? signum = some callback := hcallback
    have hrun : (b.calm.app.callback callback signum).run b.calm.host =
        (.done (), ((b.app.callback callback signum).run b.host).2) :=
      HostProgram.run_calm (b.app.callback callback signum) b.host
    rw [dispatchSignal, dispatchSignal, hcallback, hcallback']
    dsimp only
    rw [hrun]
    rfl

/-- A callback that panics is one that was there. -/
theorem dispatchSignal_of_panic {b : Bridge} {signum : UInt8}
    (hpanic : (b.dispatchSignal signum).1.2.isSome) : (b.dispatchSignal signum).1.1 = true := by
  cases hcallback : b.host.signals.get? signum with
  | none =>
    rw [dispatchSignal, hcallback] at hpanic
    exact absurd hpanic Bool.false_ne_true
  | some callback =>
    rw [dispatchSignal, hcallback]

end Bridge

/-! ### Calls of the server -/

namespace Plugin

variable {p : Plugin} {b : Bridge}

/-- Lets the server call the plugin while the application of the bridge is calm. -/
def calmly {α : Type} (call : Plugin → α × Plugin) (p : Plugin) : α × Plugin :=
  match p.bridge with
  | none => call p
  | some b =>
    match call { p with bridge := some b.calm } with
    | (x, q) => (x, { q with bridge := q.bridge.map fun d => { d with app := b.app } })

/-- A panic is reported by the fallback and takes nothing back. -/
theorem withBridge_of_bridge {α : Type} (hb : p.bridge = some b) (fallback : α)
    (f : Bridge → (α × Option Panic) × Bridge) :
    p.withBridge fallback f =
      (if (f b).1.2.isSome then fallback else (f b).1.1, { p with bridge := some (f b).2 }) := by
  rw [withBridge, hb]
  dsimp only
  rcases f b with ⟨⟨x, _ | panic⟩, b'⟩
  · rfl
  · rfl

end Plugin

/-- What a call that runs the code of a request or of a signal does with the bridge. -/
structure CodeCall where
  /-- What the server is told, and the panic that the call ends in. -/
  run : Bridge → (Int × Option Panic) × Bridge
  /-- The panic of the code. A panic in reading the request is not its own. -/
  codePanic? : Bridge → Option Panic

namespace CodeCall

/-- Runs the handler of a request. -/
def request (env h : Handle) : CodeCall where
  run b := ((0, (b.dispatch env h).1), (b.dispatch env h).2)
  codePanic? b := b.handlerPanic? env h

/-- Runs the callback of a signal. -/
def signal (n : UInt8) : CodeCall where
  run b := ((Plugin.code (b.dispatchSignal n).1.1, (b.dispatchSignal n).1.2), (b.dispatchSignal n).2)
  codePanic? b := (b.dispatchSignal n).1.2

/-- What is to be known of a call: calm code ends in no panic and leaves the same, and code that
panics would have succeeded. -/
structure Lawful (c : CodeCall) : Prop where
  run_calm (b : Bridge) : c.run b.calm =
    (((c.run b).1.1, if (c.codePanic? b).isSome then none else (c.run b).1.2), (c.run b).2.calm)
  app_run (b : Bridge) : (c.run b).2.app = b.app
  panic_eq {b : Bridge} : (c.codePanic? b).isSome → (c.run b).1.2 = c.codePanic? b
  code_eq_zero {b : Bridge} : (c.codePanic? b).isSome → (c.run b).1.1 = 0

theorem lawful_request (env h : Handle) : (request env h).Lawful where
  run_calm b := by
    show ((0, (b.calm.dispatch env h).1), (b.calm.dispatch env h).2) = _
    rw [Bridge.dispatch_calm]
    rfl
  app_run b := Bridge.app_dispatch b env h
  panic_eq hpanic := Bridge.dispatch_fst_of_handlerPanic hpanic
  code_eq_zero _ := rfl

theorem lawful_signal (n : UInt8) : (signal n).Lawful where
  run_calm b := by
    show ((Plugin.code (b.calm.dispatchSignal n).1.1, (b.calm.dispatchSignal n).1.2), _) =
      ((Plugin.code (b.dispatchSignal n).1.1,
        if (b.dispatchSignal n).1.2.isSome then none else (b.dispatchSignal n).1.2), _)
    rw [Bridge.dispatchSignal_calm]
    cases (b.dispatchSignal n).1.2 <;> rfl
  app_run b := Bridge.app_dispatchSignal b n
  panic_eq _ := rfl
  code_eq_zero {b} hpanic := by
    show Plugin.code (b.dispatchSignal n).1.1 = 0
    rw [Bridge.dispatchSignal_of_panic hpanic]
    rfl

end CodeCall

namespace PluginStep

variable {s : PluginStep} {p : Plugin} {b : Bridge} {c : CodeCall}

/-- Performs a step while the code of a request or of a signal returns where it would panic. -/
def runCalm (s : PluginStep) (p : Plugin) : Answer × Plugin :=
  match s with
  | .request .. | .signalHandler .. => p.calmly s.run
  | _ => s.run p

/-- The call of a step that runs the code of a request or of a signal, unless its numbers name
none. -/
def codeCall? : PluginStep → Option CodeCall
  | .request env h =>
    match Handle.ofToken? env, Handle.ofToken? h with
    | some env, some h => some (.request env h)
    | _, _ => none
  | .signalHandler signum _ => (Plugin.signalOf? signum).map CodeCall.signal
  | _ => none

/-- The panic that the code of a request or of a signal runs into. -/
def panic? (s : PluginStep) (p : Plugin) : Option Panic :=
  s.codeCall?.bind fun c => p.bridge.bind c.codePanic?

/-- Two kinds of steps reach the bridge with code of the application. -/
theorem codeCall?_cases (hs : s.codeCall? = some c) :
    (∃ env h e k, s = .request env h ∧ Handle.ofToken? env = some e ∧ Handle.ofToken? h = some k ∧
      c = .request e k) ∨
    (∃ signum tag n, s = .signalHandler signum tag ∧ Plugin.signalOf? signum = some n ∧
      c = .signal n) := by
  cases s with
  | request env h =>
    rw [codeCall?] at hs
    cases he : Handle.ofToken? env with
    | none => simp [he] at hs
    | some e =>
      cases hk : Handle.ofToken? h with
      | none => simp [he, hk] at hs
      | some k =>
        rw [he, hk, Option.some.injEq] at hs
        exact Or.inl ⟨env, h, e, k, rfl, he, hk, hs.symm⟩
  | signalHandler signum tag =>
    obtain ⟨n, hn, hc⟩ := Option.map_eq_some_iff.mp hs
    exact Or.inr ⟨signum, tag, n, rfl, hn, hc.symm⟩
  | _ => exact absurd hs (by simp [codeCall?])

theorem lawful_of_codeCall? (hs : s.codeCall? = some c) : c.Lawful := by
  rcases codeCall?_cases hs with ⟨env, h, e, k, -, -, -, rfl⟩ | ⟨signum, tag, n, -, -, rfl⟩
  · exact CodeCall.lawful_request e k
  · exact CodeCall.lawful_signal n

theorem run_of_codeCall? (hs : s.codeCall? = some c) (p : Plugin) :
    s.run p = coded (p.withBridge (-1) c.run) := by
  rcases codeCall?_cases hs with ⟨env, h, e, k, rfl, he, hk, rfl⟩ | ⟨signum, tag, n, rfl, hn, rfl⟩
  · rw [run, Plugin.request, he, hk]
    rfl
  · rw [run, Plugin.signalHandler, hn]
    rfl

theorem runCalm_of_codeCall? (hs : s.codeCall? = some c) (p : Plugin) :
    s.runCalm p = p.calmly fun p => coded (p.withBridge (-1) c.run) := by
  have hrun : s.run = fun p => coded (p.withBridge (-1) c.run) :=
    funext fun p => run_of_codeCall? hs p
  rw [← hrun]
  rcases codeCall?_cases hs with ⟨env, h, e, k, rfl, -⟩ | ⟨signum, tag, n, rfl, -⟩
  · rfl
  · rfl

/-- A step that refuses its numbers is performed as it is. -/
theorem calmly_of_refused (hs : ∀ q, s.run q = (.number (-1), q)) (p : Plugin) :
    p.calmly s.run = s.run p := by
  obtain ⟨_ | b, tracing⟩ := p
  · rfl
  · rw [Plugin.calmly]
    dsimp only
    rw [hs, hs]
    rfl

theorem runCalm_of_none (hs : s.codeCall? = none) (p : Plugin) : s.runCalm p = s.run p := by
  cases s with
  | request env h =>
    refine calmly_of_refused (fun q => ?_) p
    rw [codeCall?] at hs
    rw [run, Plugin.request]
    cases he : Handle.ofToken? env with
    | none => rfl
    | some e =>
      cases hk : Handle.ofToken? h with
      | none => rfl
      | some k => simp [he, hk] at hs
  | signalHandler signum tag =>
    refine calmly_of_refused (fun q => ?_) p
    have hn : Plugin.signalOf? signum = none := Option.map_eq_none_iff.mp hs
    rw [run, Plugin.signalHandler, hn]
    rfl
  | _ => rfl

/-- A step whose code panics is the call of this code on a bridge. -/
theorem exists_of_panic (hpanic : (s.panic? p).isSome) :
    ∃ c b, s.codeCall? = some c ∧ p.bridge = some b ∧ (c.codePanic? b).isSome := by
  obtain ⟨panic, hpanic⟩ := Option.isSome_iff_exists.mp hpanic
  obtain ⟨c, hs, hpanic⟩ := Option.bind_eq_some_iff.mp hpanic
  obtain ⟨b, hb, hpanic⟩ := Option.bind_eq_some_iff.mp hpanic
  exact ⟨c, b, hs, hb, Option.isSome_iff_exists.mpr ⟨panic, hpanic⟩⟩

/-- A panic is reported as a failure. -/
theorem run_of_panic (hpanic : (s.panic? p).isSome) : (s.run p).1 = .number (-1) := by
  obtain ⟨c, b, hs, hb, hpanic⟩ := exists_of_panic hpanic
  have hends : (c.run b).1.2.isSome := by
    rw [(lawful_of_codeCall? hs).panic_eq hpanic]
    exact hpanic
  rw [run_of_codeCall? hs, Plugin.withBridge_of_bridge hb, if_pos hends]
  rfl

/-- A step whose code returns instead of panicking differs in its answer only. -/
theorem runCalm_eq (s : PluginStep) (p : Plugin) :
    s.runCalm p = (if (s.panic? p).isSome then .number 0 else (s.run p).1, (s.run p).2) := by
  cases hs : s.codeCall? with
  | none =>
    rw [runCalm_of_none hs, panic?, hs]
    rfl
  | some c =>
    obtain ⟨bridge, tracing⟩ := p
    cases bridge with
    | none =>
      rw [runCalm_of_codeCall? hs, run_of_codeCall? hs, panic?, hs]
      rfl
    | some b =>
      have hlaws := lawful_of_codeCall? hs
      have hpanic : panic? s ⟨some b, tracing⟩ = c.codePanic? b := by
        rw [panic?, hs]
        rfl
      have hback : { (c.run b).2.calm with app := b.app } = (c.run b).2 := by
        rw [← hlaws.app_run b]
        rfl
      rw [runCalm_of_codeCall? hs, run_of_codeCall? hs, hpanic, Plugin.withBridge_of_bridge rfl,
        Plugin.calmly]
      dsimp only
      rw [Plugin.withBridge_of_bridge rfl, hlaws.run_calm, coded, coded]
      dsimp only [Option.map_some]
      rw [hback]
      -- the code panics, or the call ends as it does with calm code
      by_cases hcode : (c.codePanic? b).isSome
      · rw [if_pos hcode, if_pos hcode, hlaws.code_eq_zero hcode]
        rfl
      · rw [if_neg hcode, if_neg hcode]

/-- A request that panics had an environment, which is gone, and changed in its turn what its handler
asked for. -/
theorem request_of_panic {env h : Nat} (hpanic : ((PluginStep.request env h).panic? p).isSome) :
    ∃ e k b vars r, Handle.ofToken? env = some e ∧ Handle.ofToken? h = some k ∧
      p.bridge = some b ∧ b.pending.get? e = some vars ∧ Request.ofEnvironment vars = .ok r ∧
      ((b.app.serve r).run (b.turn k r)).1.panic?.isSome ∧
      ((PluginStep.request env h).run p).2 =
        { p with bridge := some { b with
            pending := (b.pending.take e).2
            host := ((b.turn k r).after ((b.app.serve r).calls (b.turn k r))).host } } := by
  obtain ⟨c, b, hs, hb, hpanic⟩ := exists_of_panic hpanic
  rcases codeCall?_cases hs with ⟨env', h', e, k, heq, he, hk, rfl⟩ | ⟨_, _, _, heq, -⟩
  · obtain ⟨rfl, rfl⟩ := PluginStep.request.inj heq
    have hdispatch := Bridge.dispatch_fst_of_handlerPanic hpanic
    obtain ⟨vars, r, hvars, hr, hanswer⟩ := Bridge.dispatch_of_handlerPanic hpanic
    refine ⟨e, k, b, vars, r, he, hk, hb, hvars, hr, ?_, ?_⟩
    · rw [hanswer] at hdispatch
      rw [← show _ = (CodeCall.request e k).codePanic? b from hdispatch] at hpanic
      exact hpanic
    · rw [run_of_codeCall? hs, Plugin.withBridge_of_bridge hb, ← TurnProgram.run_snd]
      show (_, { p with bridge := some (b.dispatch e k).2 }).2 = _
      rw [hanswer]
      rfl
  · exact absurd heq PluginStep.noConfusion

end PluginStep

/-! ### Runs -/

namespace ServerStep

/-- Performs a step while the code of a request or of a signal returns where it would panic. -/
def runCalm (s : ServerStep) (t : Server) : Answer × Server :=
  match s with
  | .plugin s =>
    match s.runCalm t.plugin with
    | (a, p) => (a, { t with plugin := p })
  | s => s.run t

/-- The panic that the code of a request or of a signal runs into when the server calls it. -/
def panic? (s : ServerStep) (t : Server) : Option Panic :=
  match s with
  | .plugin s => s.panic? t.plugin
  | _ => none

/-- What happens when a step is performed. -/
structure Entry where
  step : ServerStep
  before : Server
  answer : Answer
  after : Server

/-- The same with a return in the place of a panic: success is reported. -/
def Entry.returned (returns : Bool) (e : Entry) : Entry :=
  if returns && (e.step.panic? e.before).isSome then { e with answer := .number 0 } else e

/-- Runs steps one after the other. With each step stands whether its code returns where it would
panic. -/
def log : List (ServerStep × Bool) → Server → List Entry
  | [], _ => []
  | (s, returns) :: steps, t =>
    let r := if returns then s.runCalm t else s.run t
    ⟨s, t, r.1, r.2⟩ :: log steps r.2

theorem runCalm_eq (s : ServerStep) (t : Server) :
    s.runCalm t = (if (s.panic? t).isSome then .number 0 else (s.run t).1, (s.run t).2) := by
  cases s with
  | plugin s =>
    rw [runCalm, PluginStep.runCalm_eq]
    rfl
  | _ => rfl

/-- The log of a run in which code returns is the log of the run in which it panics, but for the
answers of these calls. -/
theorem log_eq (steps : List (ServerStep × Bool)) (t : Server) :
    log steps t =
      List.zipWith Entry.returned (steps.map Prod.snd)
        (log (steps.map fun s => (s.1, false)) t) := by
  induction steps generalizing t with
  | nil => rfl
  | cons s steps ih =>
    obtain ⟨s, returns⟩ := s
    have hstep : (if returns then s.runCalm t else s.run t) =
        (if returns && (s.panic? t).isSome then .number 0 else (s.run t).1, (s.run t).2) := by
      cases returns with
      | false => rfl
      | true => exact runCalm_eq s t
    have hentry : Entry.returned returns ⟨s, t, (s.run t).1, (s.run t).2⟩ =
        ⟨s, t, if returns && (s.panic? t).isSome then .number 0 else (s.run t).1, (s.run t).2⟩ := by
      rw [Entry.returned]
      dsimp only
      split <;> rfl
    -- both runs go on from the same server
    rw [log, hstep, ih, ← hentry]
    rfl

theorem mem_log {steps : List ServerStep} {t : Server} {e : Entry}
    (he : e ∈ log (steps.map fun s => (s, false)) t) :
    e.answer = (e.step.run e.before).1 ∧ e.after = (e.step.run e.before).2 := by
  induction steps generalizing t with
  | nil => exact absurd he List.not_mem_nil
  | cons s steps ih =>
    rcases List.mem_cons.mp he with rfl | he
    · exact ⟨rfl, rfl⟩
    · exact ih he

/-- A panic is a return with another code. Let any steps be performed, and choose for each call of a
request or signal whether its code returns where it would panic: every step finds and leaves the same
server and gives the same answer as in the run in which all code panics, except that the chosen calls
that panic there give -1 there and 0 here. A request that panics has lost its environment and no
other, everything else is as the calls of its handler before the panic left it, and the handler that
returns asks for no other calls. -/
theorem log_returning (steps : List (ServerStep × Bool)) (t : Server) :
    let panicking := log (steps.map fun s => (s.1, false)) t
    log steps t = List.zipWith Entry.returned (steps.map Prod.snd) panicking ∧
    ∀ e ∈ panicking, (e.step.panic? e.before).isSome →
      e.answer = .number (-1) ∧
      ∀ env h, e.step = .plugin (.request env h) →
        ∃ k j b b' vars r, Handle.ofToken? env = some k ∧ Handle.ofToken? h = some j ∧
          e.before.plugin.bridge = some b ∧ e.after.plugin.bridge = some b' ∧
          b.pending.get? k = some vars ∧ Request.ofEnvironment vars = .ok r ∧
          ((b.app.serve r).run (b.turn j r)).1.panic?.isSome ∧
          (∀ i, b'.pending.get? i = if i = k then none else b.pending.get? i) ∧
          b'.host = ((b.turn j r).after ((b.app.serve r).calls (b.turn j r))).host ∧
          TurnProgram.calls (Program.calm (b.app.serve r)) (b.turn j r) =
            (b.app.serve r).calls (b.turn j r) := by
  intro panicking
  refine ⟨log_eq steps t, fun e he hpanic => ?_⟩
  have hplain : panicking = log ((steps.map Prod.fst).map fun s => (s, false)) t := by
    rw [List.map_map]
    rfl
  rw [hplain] at he
  obtain ⟨step, before, answer, after⟩ := e
  obtain ⟨hanswer, hafter⟩ := mem_log he
  dsimp only at hanswer hafter hpanic ⊢
  cases step with
  | plugin s =>
    refine ⟨hanswer.trans (PluginStep.run_of_panic hpanic), fun env h hs => ?_⟩
    obtain rfl : s = .request env h := ServerStep.plugin.inj hs
    obtain ⟨k, j, b, vars, r, hk, hj, hb, hvars, hr, hcode, hrun⟩ :=
      PluginStep.request_of_panic hpanic
    have hbridge : after.plugin.bridge = some _ :=
      (congrArg (fun t : Server => t.plugin.bridge) hafter).trans (congrArg Plugin.bridge hrun)
    exact ⟨k, j, b, _, vars, r, hk, hj, hb, hbridge, hvars, hr, hcode, b.pending.get?_take k, rfl,
      TurnProgram.calls_calm (b.app.serve r) (b.turn j r)⟩
  | core s => exact absurd hpanic Bool.false_ne_true
  | bridge s => exact absurd hpanic Bool.false_ne_true
  | install app settings => exact absurd hpanic Bool.false_ne_true

/-- A handler that writes and then panics. -/
theorem answers_of_written_then_panicked :
    let h : Handle := ⟨4096, by decide⟩
    let vars := Pending.empty.create h
    let b : Bridge :=
      { app := { serve := fun _ => .call (.writeBody [112]) fun _ => .panic (.text "exploded") }
        settings := {}, defaultContentType := [116], host := { core := (Core.openRequest {}).2 }
        pending := (vars.add h (Utf8.ofString "REQUEST_METHOD") (Utf8.ofString "PUT")).2 }
    let t : Server := { plugin := { bridge := some b } }
    let request : ServerStep := .plugin (.request 4096 4096)
    (log [(request, false)] t).map Entry.answer = [.number (-1)] ∧
      (log [(request, true)] t).map Entry.answer = [.number 0] ∧
      (log [(request, true)] t).map (fun e => (e.after.core.exchange h).wire) =
        [HeaderBlock.render .http11 Status.ok
          (HeaderMap.empty.insert HeaderName.contentType [116]) ++ [112]] := by
  intro h vars b t request
  have hpanic : (request.panic? t).isSome := by decide +kernel
  obtain ⟨hlog, hpanics⟩ := log_returning [(request, true)] t
  have hfailed := (hpanics _ (List.mem_singleton_self _) hpanic).1
  refine ⟨congrArg (fun a => [a]) hfailed, ?_, by decide +kernel⟩
  rw [hlog]
  show [(Entry.returned true ⟨request, t, _, _⟩).answer] = [.number 0]
  rw [Entry.returned]
  dsimp only
  rw [hpanic]
  rfl

end ServerStep

end Gateway
