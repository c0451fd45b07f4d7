import Gateway.Proofs.Plugin.Refusal
import Gateway.Proofs.Service.Run

/-!
# One bridge for the process

The first bridge that is installed serves the process for good. Before it, each entry point answers
by its fallback and leaves the server exactly as it was (`PluginStep.run_of_unserved`), so a bridge
that is installed later cannot tell what was called too early. After it, each further attempt is
refused and leaves the server exactly as it was (`ServerStep.run_of_late`), so a run goes on as if
nobody had attempted it (`ServerStep.history_filter`), and the core that no bridge took has no say any
more (`ServerStep.run_withIdle`).
-/

namespace Gateway

/-! ### Installing -/

/-- The bridge once it serves the process. -/
def Bridge.serving (b : Bridge) : Bridge :=
  { b with host := { b.host with installed := true } }

/-- Why a bridge is not installed beside another one: it could not be made, or it comes too late. -/
def Bridge.refusal (offered : Except Failure Bridge) : Failure :=
  match offered with
  | .error f => f
  | .ok _ => .fault .alreadyInstalled

namespace Plugin

variable {α : Type} {p : Plugin} {b : Bridge} {app : Application} {settings : Settings} {core : Core}

theorem install_of_error {f : Failure} (hnew : Bridge.new app settings core = .error f) :
    p.install app settings core = (.error f, p) := by
  rw [install, hnew]

theorem install_of_none (hp : p.bridge = none) (hnew : Bridge.new app settings core = .ok b) :
    p.install app settings core = (.ok (), { p with bridge := some b.serving }) := by
  rw [install, hnew, hp]
  rfl

theorem install_of_bridge (hp : p.bridge = some b) :
    p.install app settings core = (.error (Bridge.refusal (Bridge.new app settings core)), p) := by
  rw [install, hp]
  cases Bridge.new app settings core with
  | error f => rfl
  | ok d => rfl

theorem withBridge_of_none (hp : p.bridge = none) (fallback : α)
    (f : Bridge → (α × Option Panic) × Bridge) : p.withBridge fallback f = (fallback, p) := by
  rw [withBridge, hp]

end Plugin

/-! ### Entry points -/

namespace PluginStep

variable {s : PluginStep} {p : Plugin} {b : Bridge} {a : Answer}

/-- What an entry point answers where there is no bridge. Whoever installs a bridge or sets up the
log needs none. -/
def unserved? : PluginStep → Option Answer
  | .install .. | .initTracing => none
  | .postFork | .postInit | .runCore _ => some .nothing
  | .capabilities => some (.flag false)
  | .envNew _ => some (.number 0)
  | .envAdd .. | .envFree _ | .request .. | .signalHandler .. => some (.number (-1))

/-- An entry point refuses its arguments, whatever the plugin holds, or does something with the
bridge, which stays the same bridge. -/
theorem run_cases (hs : s.unserved? = some a) (p : Plugin) :
    s.run p = (a, p) ∨
      ∃ (α : Type) (fallback : α) (f : Bridge → (α × Option Panic) × Bridge) (report : α → Answer),
        s.run p = (report (p.withBridge fallback f).1, (p.withBridge fallback f).2) ∧
          report fallback = a ∧ ∀ b : Bridge, b.Continues (f b).2 := by
  cases s with
  | install | initTracing => cases hs
  | postFork =>
    cases hs
    exact .inr ⟨Unit, (), _, fun _ => .nothing, rfl, rfl, fun b => ⟨_, _, rfl⟩⟩
  | postInit =>
    cases hs
    exact .inr ⟨Unit, (), _, fun _ => .nothing, rfl, rfl, fun b => ⟨_, _, rfl⟩⟩
  | runCore id =>
    cases hs
    exact .inr ⟨Unit, (), _, fun _ => .nothing, rfl, rfl, fun b => ⟨_, _, rfl⟩⟩
  | capabilities =>
    cases hs
    refine .inr ⟨Bool, false, fun b => ((true, none), b), .flag, ?_, rfl, Bridge.Continues.refl⟩
    obtain ⟨_ | b, tracing⟩ := p
    · rfl
    · rfl
  | envNew target =>
    cases hs
    rw [run, Plugin.envNew]
    cases Handle.ofToken? target with
    | none => exact .inl rfl
    | some h =>
      exact .inr ⟨Nat, 0, fun b => ((h.token, none), b.envNew h), fun n => .number n, rfl, rfl,
        fun b => ⟨_, _, rfl⟩⟩
  | envAdd env name nameLength value valueLength =>
    cases hs
    rw [run, Plugin.envAdd]
    split
    · exact .inr ⟨Int, -1, _, .number, rfl, rfl, fun b => ⟨_, _, rfl⟩⟩
    · exact .inl rfl
  | envFree env =>
    cases hs
    rw [run, Plugin.envFree]
    split
    · exact .inl rfl
    · exact .inr ⟨Int, -1, _, .number, rfl, rfl, fun b => ⟨_, _, rfl⟩⟩
  | request env target =>
    cases hs
    rw [run, Plugin.request]
    split
    · next e h _ _ =>
      exact .inr ⟨Int, -1, _, .number, rfl, rfl, fun b => Bridge.continues_dispatch b e h⟩
    · exact .inl rfl
  | signalHandler signum tag =>
    cases hs
    rw [run, Plugin.signalHandler]
    split
    · exact .inl rfl
    · next n _ =>
      exact .inr ⟨Int, -1, _, .number, rfl, rfl, fun b => Bridge.continues_dispatchSignal b n⟩

/-- Without a bridge an entry point does nothing else than answer. -/
theorem run_of_unserved (hp : p.bridge = none) (hs : s.unserved? = some a) : s.run p = (a, p) := by
  rcases run_cases hs p with hrun | ⟨α, fallback, f, report, hrun, hfallback, -⟩
  · exact hrun
  · rw [hrun, Plugin.withBridge_of_none hp, hfallback]

/-- A bridge that serves the process does so after each call. -/
theorem continues_run (hp : p.bridge = some b) (s : PluginStep) :
    ∃ d, (s.run p).2.bridge = some d ∧ b.Continues d := by
  have hkept : ∃ d, p.bridge = some d ∧ b.Continues d := ⟨b, hp, Bridge.Continues.refl b⟩
  cases hs : s.unserved? with
  | some a =>
    rcases run_cases hs p with hrun | ⟨α, fallback, f, report, hrun, -, hf⟩
    · rw [hrun]
      exact hkept
    · rw [hrun, Plugin.withBridge_of_bridge hp]
      exact ⟨_, rfl, hf b⟩
  | none =>
    cases s with
    | install app settings core =>
      rw [run, Plugin.install_of_bridge hp]
      exact hkept
    | initTracing => exact hkept
    | _ => cases hs

end PluginStep

/-! ### Attempts -/

namespace ServerStep

variable {s : ServerStep} {t : Server} {b : Bridge} {offered : Except Failure Bridge}

/-- The settings of the bridge that a step attempts to install. -/
def settings? : ServerStep → Option Settings
  | .install _ settings | .plugin (.install _ settings _) => some settings
  | _ => none

/-- Whether a step attempts to install a bridge. -/
def isAttempt (s : ServerStep) : Bool :=
  s.settings?.isSome

/-- Whether a step attempts to install a bridge that can be made: its default content type is a legal
header value. -/
def Installs (s : ServerStep) : Prop :=
  ∃ settings, s.settings? = some settings ∧
    (HeaderValue.ofBytes? (Utf8.ofString settings.defaultContentType)).isSome = true

/-- The bridge that a step attempts to install, or why it cannot be made. -/
def offered? (s : ServerStep) (t : Server) : Option (Except Failure Bridge) :=
  match s with
  | .install app settings => some (Bridge.new app settings t.core)
  | .plugin (.install app settings c) => some (Bridge.new app settings c)
  | _ => none

/-- An attempt is made through the plugin, whoever has the core. -/
theorem run_of_offered (hs : s.offered? t = some offered) :
    ∃ app settings core, s.settings? = some settings ∧ offered = Bridge.new app settings core ∧
      s.run t = (ServerStep.plugin (.install app settings core)).run t := by
  cases s with
  | install app settings => exact ⟨app, settings, t.core, rfl, (Option.some.inj hs).symm, rfl⟩
  | plugin s =>
    cases s with
    | install app settings core => exact ⟨app, settings, core, rfl, (Option.some.inj hs).symm, rfl⟩
    | _ => cases hs
  | _ => cases hs

theorem offered_of_isAttempt (hs : s.isAttempt = true) (t : Server) :
    ∃ offered, s.offered? t = some offered := by
  cases s with
  | install app settings => exact ⟨_, rfl⟩
  | plugin s =>
    cases s with
    | install app settings core => exact ⟨_, rfl⟩
    | _ => cases hs
  | _ => cases hs

/-- A bridge is offered exactly where one can be made. -/
theorem installs_iff (hs : s.offered? t = some offered) : s.Installs ↔ ∃ b, offered = .ok b := by
  obtain ⟨app, settings, core, hsettings, rfl, -⟩ := run_of_offered hs
  constructor
  · rintro ⟨settings', hsettings', hlegal⟩
    obtain rfl := Option.some.inj (hsettings.symm.trans hsettings')
    obtain ⟨contentType, hcontentType⟩ := Option.isSome_iff_exists.mp hlegal
    exact ⟨_, Bridge.new_eq_ok_iff.mpr ⟨contentType, hcontentType, rfl⟩⟩
  · rintro ⟨b, hb⟩
    obtain ⟨contentType, hcontentType, -⟩ := Bridge.new_eq_ok_iff.mp hb
    exact ⟨settings, hsettings, Option.isSome_iff_exists.mpr ⟨contentType, hcontentType⟩⟩

/-! ### Before there is a bridge -/

theorem run_of_unmade {f : Failure} (hs : s.offered? t = some (.error f)) :
    s.run t = (.failure f, t) := by
  obtain ⟨app, settings, core, -, hnew, hrun⟩ := run_of_offered hs
  rw [hrun]
  refine run_plugin_of_unchanged ?_
  rw [PluginStep.run, Plugin.install_of_error hnew.symm]

/-- The first bridge is installed. -/
theorem run_of_first (ht : t.plugin.bridge = none) (hs : s.offered? t = some (.ok b)) :
    s.run t = (.nothing, { t with plugin := { t.plugin with bridge := some b.serving } }) := by
  obtain ⟨app, settings, core, -, hnew, hrun⟩ := run_of_offered hs
  rw [hrun, run, onPlugin, PluginStep.run, Plugin.install_of_none ht hnew.symm]

/-- Without an attempt that succeeds there is no bridge after a step. -/
theorem bridge_run_of_none (ht : t.plugin.bridge = none) (hs : ¬s.Installs) :
    (s.run t).2.plugin.bridge = none := by
  cases hoffered : s.offered? t with
  | some offered =>
    cases offered with
    | error f =>
      rw [run_of_unmade hoffered]
      exact ht
    | ok b => exact absurd ((installs_iff hoffered).mpr ⟨b, rfl⟩) hs
  | none =>
    cases s with
    | core s =>
      show (t.withCore (s.run t.core).2).plugin.bridge = none
      rw [Server.withCore, ht]
      exact ht
    | bridge s =>
      rw [run, ht]
      exact ht
    | install app settings => cases hoffered
    | plugin s =>
      cases hanswer : s.unserved? with
      | some a =>
        rw [run_plugin_of_unchanged (PluginStep.run_of_unserved ht hanswer)]
        exact ht
      | none =>
        cases s with
        | install app settings core => cases hoffered
        | initTracing => exact ht
        | _ => cases hanswer

/-! ### Once there is a bridge -/

/-- Every further attempt is refused. -/
theorem run_of_late (ht : t.plugin.bridge = some b) (hs : s.offered? t = some offered) :
    s.run t = (.failure (Bridge.refusal offered), t) := by
  obtain ⟨app, settings, core, -, rfl, hrun⟩ := run_of_offered hs
  rw [hrun]
  refine run_plugin_of_unchanged ?_
  rw [PluginStep.run, Plugin.install_of_bridge ht]

/-- The bridge stays. -/
theorem continues_run (ht : t.plugin.bridge = some b) (s : ServerStep) :
    ∃ d, (s.run t).2.plugin.bridge = some d ∧ b.Continues d := by
  cases s with
  | core s =>
    show ∃ d, (t.withCore (s.run t.core).2).plugin.bridge = some d ∧ _
    rw [Server.withCore, ht]
    exact ⟨_, rfl, _, _, rfl⟩
  | bridge s =>
    rw [run, ht]
    exact ⟨_, rfl, BridgeStep.continues_run s b⟩
  | install app settings => exact PluginStep.continues_run ht (.install app settings t.core)
  | plugin s => exact PluginStep.continues_run ht s

/-- The core that no bridge took has no say. -/
theorem run_withIdle (ht : t.plugin.bridge = some b) (s : ServerStep) (core : Core) :
    s.run { t with idle := core } = ((s.run t).1, { (s.run t).2 with idle := core }) := by
  obtain ⟨idle, ⟨_, tracing⟩⟩ := t
  cases ht
  cases s with
  | _ => rfl

/-! ### Runs -/

/-- The server after steps. -/
def runAll (steps : List ServerStep) (t : Server) : Server :=
  steps.foldl (fun t s => (s.run t).2) t

/-- What happens when steps are performed. -/
def history (steps : List ServerStep) (t : Server) : List Entry :=
  log (steps.map fun s => (s, false)) t

theorem history_cons (s : ServerStep) (steps : List ServerStep) (t : Server) :
    history (s :: steps) t = ⟨s, t, (s.run t).1, (s.run t).2⟩ :: history steps (s.run t).2 := rfl

theorem bridge_runAll_of_none (ht : t.plugin.bridge = none) {steps : List ServerStep}
    (hsteps : ∀ s ∈ steps, ¬s.Installs) : (runAll steps t).plugin.bridge = none := by
  induction steps generalizing t with
  | nil => exact ht
  | cons s steps ih =>
    exact ih (bridge_run_of_none ht (hsteps s List.mem_cons_self))
      fun s' hs' => hsteps s' (List.mem_cons_of_mem s hs')

/-- The bridge serves at every step of a run. -/
theorem continues_of_mem_history (ht : t.plugin.bridge = some b) {steps : List ServerStep}
    {e : Entry} (he : e ∈ history steps t) : ∃ d, e.before.plugin.bridge = some d ∧ b.Continues d := by
  induction steps generalizing t b with
  | nil => exact absurd he List.not_mem_nil
  | cons s steps ih =>
    rw [history_cons] at he
    rcases List.mem_cons.mp he with rfl | he
    · exact ⟨b, ht, Bridge.Continues.refl b⟩
    · obtain ⟨c, hc, hbc⟩ := continues_run ht s
      obtain ⟨d, hd, hcd⟩ := ih hc he
      exact ⟨d, hd, hbc.trans hcd⟩

/-- Without the attempts that come too late, a run goes the same way. -/
theorem history_filter (ht : t.plugin.bridge = some b) (steps : List ServerStep) :
    (history steps t).filter (fun e => !e.step.isAttempt) =
        history (steps.filter fun s => !s.isAttempt) t ∧
      runAll steps t = runAll (steps.filter fun s => !s.isAttempt) t := by
  induction steps generalizing t b with
  | nil => exact ⟨rfl, rfl⟩
  | cons s steps ih =>
    cases hs : s.isAttempt with
    | true =>
      -- the attempt is refused, so the rest starts from the same server in both runs
      obtain ⟨offered, hoffered⟩ := offered_of_isAttempt hs t
      have hunchanged := congrArg Prod.snd (run_of_late ht hoffered)
      obtain ⟨hhistory, hend⟩ := ih ht
      rw [history_cons, hunchanged]
      refine ⟨?_, ?_⟩
      · simpa [hs] using hhistory
      · simpa [runAll, hs, hunchanged] using hend
    | false =>
      obtain ⟨d, hd, -⟩ := continues_run ht s
      obtain ⟨hhistory, hend⟩ := ih hd
      rw [history_cons]
      refine ⟨?_, ?_⟩
      · simpa [hs, history_cons] using hhistory
      · simpa [runAll, hs] using hend

theorem history_withIdle (ht : t.plugin.bridge = some b) (steps : List ServerStep) (core : Core) :
    (history steps { t with idle := core }).map Entry.answer =
        (history steps t).map Entry.answer ∧
      runAll steps { t with idle := core } = { runAll steps t with idle := core } := by
  induction steps generalizing t b with
  | nil => exact ⟨rfl, rfl⟩
  | cons s steps ih =>
    obtain ⟨d, hd, -⟩ := continues_run ht s
    obtain ⟨hanswers, hend⟩ := ih hd
    rw [history_cons, history_cons, run_withIdle ht s core]
    refine ⟨congrArg ((s.run t).1 :: ·) hanswers, ?_⟩
    rw [runAll, List.foldl_cons, run_withIdle ht s core]
    exact hend

/-- There is one bridge for the process, for good. As long as no attempt succeeded, every entry point
answers by its fallback and leaves the server as it was, and an attempt with a bridge that cannot be
made leaves it so, too. The first attempt with a bridge that can be made succeeds. Afterwards a run and
what it leaves are those of the run without the attempts in it, whatever became of the core that no
bridge took: it is always the first bridge that serves, with the application and the settings that it
came with, and every attempt is refused and leaves the server as it was. -/
theorem first_bridge_serves {t : Server} (ht : t.plugin.bridge = none) {early : List ServerStep}
    (hearly : ∀ s ∈ early, ¬s.Installs) :
    let u := runAll early t
    (∀ s a, s.unserved? = some a → (ServerStep.plugin s).run u = (a, u)) ∧
      (∀ s, (ServerStep.bridge s).run u = (.noBridge, u)) ∧
      (∀ s : ServerStep, ∀ f, s.offered? u = some (.error f) → s.run u = (.failure f, u)) ∧
      ∀ first : ServerStep, first.Installs → ∃ b, first.offered? u = some (.ok b) ∧
        let v : Server := { u with plugin := { u.plugin with bridge := some b.serving } }
        first.run u = (.nothing, v) ∧
        ∀ late : List ServerStep,
          let others := late.filter fun s => !s.isAttempt
          (history late v).filter (fun e => !e.step.isAttempt) = history others v ∧
          runAll late v = runAll others v ∧
          (∀ core, (history late { v with idle := core }).map Entry.answer =
              (history late v).map Entry.answer ∧
            runAll late { v with idle := core } = { runAll late v with idle := core }) ∧
          ∀ e ∈ history late v,
            (∃ d, e.before.plugin.bridge = some d ∧ b.Continues d) ∧
            ∀ offered, e.step.offered? e.before = some offered →
              e.answer = .failure (Bridge.refusal offered) ∧ e.after = e.before := by
  intro u
  have hnone : u.plugin.bridge = none := bridge_runAll_of_none ht hearly
  refine ⟨?_, ?_, fun s f hs => run_of_unmade hs, ?_⟩
  · intro s a hs
    exact run_plugin_of_unchanged (PluginStep.run_of_unserved hnone hs)
  · intro s
    rw [run, hnone]
  · intro first hfirst
    obtain ⟨settings, hsettings, -⟩ := id hfirst
    obtain ⟨offered, hoffered⟩ :=
      offered_of_isAttempt (Option.isSome_iff_exists.mpr ⟨settings, hsettings⟩) u
    obtain ⟨b, rfl⟩ := (installs_iff hoffered).mp hfirst
    refine ⟨b, hoffered, run_of_first hnone hoffered, fun late => ?_⟩
    intro others
    have hv : ({ u with plugin := { u.plugin with bridge := some b.serving } } : Server).plugin.bridge =
        some b.serving := rfl
    obtain ⟨hhistory, hend⟩ := history_filter hv late
    refine ⟨hhistory, hend, history_withIdle hv late, ?_⟩
    intro e he
    obtain ⟨d, hd, hserving⟩ := continues_of_mem_history hv he
    have hb : b.Continues b.serving := ⟨_, _, rfl⟩
    refine ⟨⟨d, hd, hb.trans hserving⟩, fun offered hoffered => ?_⟩
    obtain ⟨hanswer, hafter⟩ := mem_log he
    rw [run_of_late hd hoffered] at hanswer hafter
    exact ⟨hanswer, hafter⟩

/-- A call that comes too early, a bridge that cannot be made, and one bridge after another. The
first of them answers the request. -/
theorem wire_of_first_bridge :
    let h : Handle := ⟨4096, by decide⟩
    let writing (octet : UInt8) : Application :=
      { serve := fun _ => .call (.writeBody [octet]) fun _ => .done () }
    let method : ServerStep :=
      .plugin (.envAdd 4096 (some (Utf8.ofString "REQUEST_METHOD")) 14 (some (Utf8.ofString "PUT")) 3)
    let early : List ServerStep :=
      [.plugin (.envNew 4096), .plugin (.install (writing 48) { defaultContentType := "\n" } {})]
    let first : ServerStep := .plugin (.install (writing 49) {} (Core.openRequest {}).2)
    let late : List ServerStep :=
      [.plugin (.envNew 4096), .plugin (.install (writing 50) {} {}), method, .install (writing 51) {},
        .plugin (.request 4096 4096)]
    let t : Server := runAll early {}
    (ServerStep.plugin (.request 4096 4096)).run t = (.number (-1), t) ∧
      ((runAll late (first.run t).2).core.exchange h).wire =
        HeaderBlock.render .http11 Status.ok
          (HeaderMap.empty.insert HeaderName.contentType (Utf8.ofString "text/html; charset=utf-8")) ++
          [49] := by
  intro h writing method early first late t
  have hcalled : ¬(ServerStep.plugin (.envNew 4096)).Installs := by
    rintro ⟨settings, hsettings, -⟩
    cases hsettings
  have hunmade : ∀ app core,
      ¬(ServerStep.plugin (.install app { defaultContentType := "\n" } core)).Installs := by
    rintro app core ⟨settings, hsettings, hlegal⟩
    cases hsettings
    revert hlegal
    decide +kernel
  have hearly : ∀ s ∈ early, ¬s.Installs := by
    simp [early, hcalled, hunmade]
  obtain ⟨hunserved, -, -, hfirst⟩ := first_bridge_serves (t := {}) rfl hearly
  have hinstalls : first.Installs := ⟨{}, rfl, by decide +kernel⟩
  obtain ⟨b, hb, hrun, hlate⟩ := hfirst first hinstalls
  obtain ⟨contentType, hcontentType, rfl⟩ := Bridge.new_eq_ok_iff.mp (Option.some.inj hb)
  have hdefault : HeaderValue.ofBytes? (Utf8.ofString ({} : Settings).defaultContentType) =
      some (Utf8.ofString "text/html; charset=utf-8") := by decide +kernel
  obtain rfl := Option.some.inj (hcontentType.symm.trans hdefault)
  obtain ⟨-, hend, -⟩ := hlate late
  refine ⟨hunserved _ _ rfl, ?_⟩
  rw [hrun, hend]
  decide +kernel

end ServerStep

end Gateway
