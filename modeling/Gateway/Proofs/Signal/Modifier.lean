import Gateway.Proofs.Signal.Registration

/-!
# The modifier of a plugin

A bridge asks for the modifier of its plugin when a signal is registered, until an answer is one, that
is, lies between 0 and 255. It never asks again, and every registration goes on with that answer,
whatever the core would answer later on and whether or not it takes the registration.

The calls of a run are therefore a function of the registrations in its log and of what the core had
ready to answer at each of them (`registrationTrace`): no cell that is filled once occurs in it. The
invariant `Host.Remembers` ties the cell and the recorded calls to this function, along the log of any
run (`modifier_of_run`).
-/

namespace Gateway

/-! ### Answers and calls of a log -/

namespace Performed

/-- What the core has ready to answer when a registration asks for the modifier. -/
def modifierAnswer? (e : Performed) : Option Int :=
  match e.service with
  | .registerSignal .. => some e.host.core.modifier
  | _ => none

end Performed

/-- The first of the answers ready at the registrations of a log that lies between 0 and 255. -/
def firstModifier? (log : List Performed) : Option Int :=
  (log.filterMap Performed.modifierAnswer?).find? fun answer => decide (0 ≤ answer ∧ answer ≤ 255)

namespace Performed

/-- The calls that a registration makes, by the services performed before it: it asks for the modifier
unless there was an answer before, and registers with the first answer, its own one included. -/
def registrationCalls (plugin : String) (before : List Performed) (e : Performed) : List Event :=
  match e.service with
  | .registerSignal signum owner _ =>
    (if (firstModifier? before).isSome then [] else [.modifierLookup plugin]) ++
      (firstModifier? (before ++ [e])).toList.map fun answer =>
        .registerSignal signum owner (UInt8.ofNat answer.toNat)
  | _ => []

end Performed

/-- The calls that the registrations of a log make after the services before it. -/
def registrationTrace (plugin : String) : List Performed → List Performed → List Event
  | _, [] => []
  | before, e :: log =>
    e.registrationCalls plugin before ++ registrationTrace plugin (before ++ [e]) log

/-! ### The first answer -/

theorem firstModifier?_append (before log : List Performed) :
    firstModifier? (before ++ log) = (firstModifier? before).or (firstModifier? log) := by
  rw [firstModifier?, List.filterMap_append, List.find?_append]
  rfl

/-- The first answer stays the first one. -/
theorem firstModifier?_append_of_some {before : List Performed} {answer : Int}
    (hbefore : firstModifier? before = some answer) (log : List Performed) :
    firstModifier? (before ++ log) = some answer := by
  rw [firstModifier?_append, hbefore, Option.some_or]

theorem firstModifier?_concat_of_none (log : List Performed) {e : Performed}
    (he : e.modifierAnswer? = none) : firstModifier? (log ++ [e]) = firstModifier? log := by
  have hone : firstModifier? [e] = none := by simp [firstModifier?, he]
  rw [firstModifier?_append, hone, Option.or_none]

/-- It is an octet. -/
theorem toNat_of_firstModifier? {log : List Performed} {answer : Int}
    (hlog : firstModifier? log = some answer) :
    ((UInt8.ofNat answer.toNat).toNat : Int) = answer := by
  have hrange : 0 ≤ answer ∧ answer ≤ 255 := by
    rw [firstModifier?] at hlog
    simpa using List.find?_some hlog
  rw [UInt8.toNat_ofNat']
  omega

/-! ### The trace -/

theorem registrationTrace_concat (plugin : String) (before log : List Performed) (e : Performed) :
    registrationTrace plugin before (log ++ [e]) =
      registrationTrace plugin before log ++ e.registrationCalls plugin (before ++ log) := by
  induction log generalizing before with
  | nil => simp [registrationTrace]
  | cons d log ih => simp [registrationTrace, ih]

/-- Whatever registers does so with the first answer of the whole log. -/
theorem firstModifier?_of_mem_trace {plugin : String} {before log : List Performed} {signum : UInt8}
    {owner : String} {m : UInt8}
    (hm : Event.registerSignal signum owner m ∈ registrationTrace plugin before log) :
    firstModifier? (before ++ log) = some (m.toNat : Int) := by
  induction log generalizing before with
  | nil => exact absurd hm List.not_mem_nil
  | cons e log ih =>
    rw [registrationTrace, List.mem_append] at hm
    rw [List.append_cons]
    rcases hm with hm | hm
    · cases hservice : e.service with
      | registerSignal signum' owner' callback =>
        simp only [Performed.registrationCalls, hservice] at hm
        have hcall := (List.mem_append.mp hm).resolve_left fun hm => by split at hm <;> simp at hm
        obtain ⟨answer, hanswer, hcall⟩ := List.mem_map.mp hcall
        rw [Option.mem_toList] at hanswer
        obtain ⟨-, -, rfl⟩ := Event.registerSignal.inj hcall
        rw [toNat_of_firstModifier? hanswer]
        exact firstModifier?_append_of_some hanswer log
      | _ => simp [Performed.registrationCalls, hservice] at hm
    · exact ih hm

/-! ### What a host remembers -/

namespace Host

variable {h h' : Host} {plugin : String} {start : List Event} {log : List Performed}

/-- Whether a host knows the first answer of the log, and its core recorded the calls of the
registrations in it, after those at the start. -/
structure Remembers (plugin : String) (start : List Event) (log : List Performed) (h : Host) :
    Prop where
  plugin_eq : h.plugin = plugin
  modifier_eq : h.modifier = (firstModifier? log).map fun answer => UInt8.ofNat answer.toNat
  calls_eq : h.core.events.filter Event.isRegistrationCall = start ++ registrationTrace plugin [] log

/-- What a registration leaves, whether or not the core takes it. -/
theorem registerSignal_snd (hc : h.core.Unplanned) (signum : UInt8) (owner : String)
    (callback : Callback) :
    let after := (h.registerSignal signum owner callback).2
    after.plugin = h.plugin ∧ after.modifier = h.modifier? ∧
      after.core.events = h.core.events ++ h.registrationCalls signum owner := by
  rcases registerSignal_cases hc signum owner callback with ⟨-, hserve⟩ | ⟨-, hserve⟩
  all_goals
    rw [hserve]
    exact ⟨rfl, rfl, rfl⟩

theorem Remembers.congr (hlog : h.Remembers plugin start log) (hh' : Aside h h') :
    h'.Remembers plugin start log where
  plugin_eq := hh'.plugin_eq.trans hlog.plugin_eq
  modifier_eq := hh'.modifier_eq.trans hlog.modifier_eq
  calls_eq := by
    obtain ⟨loops, hevents⟩ := hh'.events_eq
    have hloops : (loops.map Event.coreLoop).filter Event.isRegistrationCall = [] := by
      simp [Event.isRegistrationCall]
    rw [hevents, List.filter_append, hloops, List.append_nil, hlog.calls_eq]

variable {e : Performed} {signum : UInt8} {owner : String} {callback : Callback}

/-- At a registration, the host knows the modifier from now on if there was an answer. -/
theorem Remembers.modifier?_eq (hlog : e.host.Remembers plugin start log)
    (he : e.service = .registerSignal signum owner callback) :
    e.host.modifier? = (firstModifier? (log ++ [e])).map fun answer => UInt8.ofNat answer.toNat := by
  have hanswer : e.modifierAnswer? = some e.host.core.modifier := by
    rw [Performed.modifierAnswer?, he]
  have hown : Service.modifierOf? e.host.core.modifier =
      (firstModifier? [e]).map fun answer => UInt8.ofNat answer.toNat := by
    rw [firstModifier?, List.filterMap_cons_some hanswer, Service.modifierOf?]
    split
    · next hrange => simp [hrange]
    · next hrange => simp [hrange]
  rw [modifier?, firstModifier?_append, hlog.modifier_eq, hown]
  cases firstModifier? log with
  | none => rfl
  | some answer => rfl

/-- It makes the calls that the log tells. -/
theorem Remembers.registrationCalls_eq (hlog : e.host.Remembers plugin start log)
    (he : e.service = .registerSignal signum owner callback) :
    e.host.registrationCalls signum owner = e.registrationCalls plugin log := by
  rw [registrationCalls, hlog.modifier?_eq he, hlog.modifier_eq, hlog.plugin_eq,
    Performed.registrationCalls, he, Option.isSome_map]
  cases firstModifier? (log ++ [e]) with
  | none => rfl
  | some answer => rfl

/-- Services keep what a host remembers up to date. -/
theorem Remembers.serve (hlog : e.host.Remembers plugin start log) (hc : e.host.core.Unplanned) :
    e.after.Remembers plugin start (log ++ [e]) := by
  rcases serve_cases hc e.service with
    ⟨signum, owner, callback, he⟩ | ⟨hother, cache, calls, hserve, -, hcalls⟩
  · obtain ⟨hplugin, hmodifier, hevents⟩ := registerSignal_snd hc signum owner callback
    have hafter : e.after = (e.host.registerSignal signum owner callback).2 := by
      rw [Performed.after, he]
      rfl
    rw [hafter]
    refine ⟨hplugin.trans hlog.plugin_eq, hmodifier.trans (hlog.modifier?_eq he), ?_⟩
    rw [hevents, List.filter_append, (filter_registrationCalls e.host signum owner).2,
      hlog.registrationCalls_eq he, hlog.calls_eq, registrationTrace_concat, List.nil_append,
      List.append_assoc]
  · have hafter : e.after = e.host.withCache cache calls := hserve
    have hanswer : e.modifierAnswer? = none := by
      rw [Performed.modifierAnswer?]
      split
      · next signum owner callback he => exact (hother signum owner callback he).elim
      · rfl
    have hown : e.registrationCalls plugin log = [] := by
      rw [Performed.registrationCalls]
      split
      · next signum owner callback he => exact (hother signum owner callback he).elim
      · rfl
    rw [hafter]
    refine ⟨hlog.plugin_eq, ?_, ?_⟩
    · rw [firstModifier?_concat_of_none log hanswer]
      exact hlog.modifier_eq
    · show (e.host.core.events ++ calls).filter Event.isRegistrationCall = _
      rw [List.filter_append, hcalls, List.append_nil, hlog.calls_eq, registrationTrace_concat,
        List.nil_append, hown, List.append_nil]

/-- A host that did not ask yet remembers the log that it goes along. -/
theorem remembers_of_performs (hmodifier : h.modifier = none) (hc : h.core.Unplanned)
    (hlog : Performs h log h') :
    h'.Remembers h.plugin (h.core.events.filter Event.isRegistrationCall) log :=
  hlog.preserves (P := fun log h' => h'.Remembers _ _ log) hc
    (fun haside hdone => hdone.congr haside) (fun hplan hdone => hdone.serve hplan)
    ⟨rfl, hmodifier, (List.append_nil _).symm⟩

end Host

/-! ### Runs -/

namespace BridgeStep

variable {app : Application} {settings : Settings} {core : Core} {b : Bridge}

/-- In every run of a new bridge, whoever registers signals in it and whatever the core is set to
answer between two registrations: the calls that registrations make are those of the trace, so the
name of the plugin is looked up by the registrations up to the first one whose answer lies between 0
and 255, and by no later one, and what is registered carries that answer, its own signal and its own
owner. A registration before that answer looks the modifier up, registers nothing and is answered with
no. -/
theorem modifier_of_run (hb : Bridge.new app settings core = .ok b) (hc : core.Unplanned)
    {steps : List BridgeStep} (hsteps : ∀ s ∈ steps, s.IsPlain) :
    let log := performedAll steps b
    let d := runAll steps b
    let plugin := settings.pluginName
    d.core.events.filter Event.isRegistrationCall =
        core.events.filter Event.isRegistrationCall ++ registrationTrace plugin [] log ∧
      (∀ signum owner m, Event.registerSignal signum owner m ∈ registrationTrace plugin [] log →
        firstModifier? log = some (m.toNat : Int)) ∧
      (d.host.modifier.map fun m => (m.toNat : Int)) = firstModifier? log ∧
      ∀ before e after, log = before ++ e :: after →
        ∀ signum owner callback, e.service = .registerSignal signum owner callback →
          e.after.core.events = e.host.core.events ++ e.registrationCalls plugin before ∧
          (firstModifier? (before ++ [e]) = none →
            e.registrationCalls plugin before = [.modifierLookup plugin] ∧
              (e.host.serve (.registerSignal signum owner callback)).1 = false) := by
  obtain ⟨contentType, -, rfl⟩ := Bridge.new_eq_ok_iff.mp hb
  intro log d plugin
  have hrun : Performs _ log d.host := performs_runAll hsteps hc
  have hend := Host.remembers_of_performs rfl hc hrun
  refine ⟨hend.calls_eq, fun signum owner m hm => firstModifier?_of_mem_trace hm, ?_, ?_⟩
  · rw [hend.modifier_eq, Option.map_map]
    cases hfirst : firstModifier? log with
    | none => rfl
    | some answer => exact congrArg some (toNat_of_firstModifier? hfirst)
  · intro before e after hlog signum owner callback he
    rw [hlog] at hrun
    have hbefore := hrun.upTo
    have hplan : e.host.core.Unplanned := hbefore.unplanned hc
    have hknown := Host.remembers_of_performs rfl hc hbefore
    refine ⟨?_, fun hnone => ⟨?_, ?_⟩⟩
    · obtain ⟨-, -, hevents⟩ := Host.registerSignal_snd hplan signum owner callback
      rw [Performed.after, he, ← hknown.registrationCalls_eq he]
      exact hevents
    · have hnever : firstModifier? before = none := by
        rw [firstModifier?_append, Option.or_eq_none_iff] at hnone
        exact hnone.1
      rw [Performed.registrationCalls, he, hnone, hnever]
      rfl
    · rw [← Bool.not_eq_true]
      intro hyes
      obtain ⟨hmodifier, -⟩ := (Host.registerSignal_fst hplan).mp hyes
      rw [← Host.isSome_modifier?, hknown.modifier?_eq he, hnone] at hmodifier
      exact Bool.false_ne_true hmodifier

/-- Two answers that are no octets, one that the bridge keeps although the core refuses to register,
and another one that comes too late. -/
theorem modifier_kept_of_refused :
    let b : Bridge :=
      { app := Application.empty, settings := {}, host := { core := {}, plugin := "rust" }
        defaultContentType := Utf8.ofString "text/html; charset=utf-8" }
    let register (owner : String) : BridgeStep := .service (.registerSignal 5 owner .quiet)
    let answering (n : Int) : BridgeStep := .core (.setModifier n)
    let steps : List BridgeStep :=
      [answering (-1), register "early", answering 300, register "high", answering 18,
        .core (.failRegistrations true), register "refused", answering 7,
        .core (.failRegistrations false), register "late"]
    Bridge.new Application.empty {} {} = .ok b ∧
      firstModifier? (performedAll steps b) = some 18 ∧
      (runAll steps b).core.events.filter Event.isRegistrationCall =
        [.modifierLookup "rust", .modifierLookup "rust", .modifierLookup "rust",
          .registerSignal 5 "refused" 18, .registerSignal 5 "late" 18] := by
  intro b register answering steps
  have hsteps : ∀ s ∈ steps, s.IsPlain := by
    simp [steps, register, answering, IsPlain, CoreStep.IsPlain]
  have hnew : Bridge.new Application.empty {} {} = .ok b :=
    Bridge.new_eq_ok_iff.mpr ⟨_, by decide +kernel, rfl⟩
  obtain ⟨hcalls, -⟩ := modifier_of_run hnew (fun _ => rfl) hsteps
  refine ⟨hnew, by decide +kernel, ?_⟩
  rw [hcalls]
  decide +kernel

end BridgeStep

end Gateway
