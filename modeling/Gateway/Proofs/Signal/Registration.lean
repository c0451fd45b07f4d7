import Gateway.Proofs.Service.Run

/-!
# Signals and their receivers

The slots of a bridge and the receivers that the core knows stay in step (`Host.InStep`), in every
run and at every service in it: a slot holds the callback of the last registration that was answered
with yes, and a receiver is known exactly where a slot is filled. A registration is answered with yes
when the modifier is known, or can be known now, and the core does not refuse; one that is answered
with no fills no slot and makes no receiver known (`registerSignal_fst`, `registerSignal_of_no`). So a
signal that arrives runs the callback that was registered for it last (`signals_of_run`).
-/

namespace Gateway

/-! ### Registrations -/

/-- The signal and the callback of a registration that was answered with yes. -/
def Performed.registers? (e : Performed) : Option (UInt8 × Callback) :=
  match e.service with
  | .registerSignal signum owner callback =>
    if (e.host.serve (.registerSignal signum owner callback)).1 then some (signum, callback) else none
  | _ => none

/-- The callback of the last registration of a signal that was answered with yes. -/
def lastRegistered? (log : List Performed) (signum : UInt8) : Option Callback :=
  ((log.filterMap Performed.registers?).filter fun r => r.1 = signum).getLast?.map Prod.snd

theorem lastRegistered?_concat_of_none (log : List Performed) {e : Performed}
    (he : e.registers? = none) (n : UInt8) : lastRegistered? (log ++ [e]) n = lastRegistered? log n := by
  simp [lastRegistered?, he]

/-- One more registration counts for its signal, and for no other one. -/
theorem lastRegistered?_concat_of_some (log : List Performed) {e : Performed} {signum : UInt8}
    {callback : Callback} (he : e.registers? = some (signum, callback)) (n : UInt8) :
    lastRegistered? (log ++ [e]) n = if n = signum then some callback else lastRegistered? log n := by
  by_cases hn : n = signum
  · simp [lastRegistered?, he, hn]
  · simp [lastRegistered?, he, hn, Ne.symm hn]

namespace Host

variable {h : Host} {signum : UInt8} {owner : String} {callback : Callback}

/-- When a registration is answered with yes. -/
theorem registerSignal_fst (hc : h.core.Unplanned) :
    (h.registerSignal signum owner callback).1 = true ↔
      (h.modifier.isSome = true ∨ (0 ≤ h.core.modifier ∧ h.core.modifier ≤ 255)) ∧
        h.core.failRegistrations = false := by
  rw [← isSome_modifier?]
  rcases registerSignal_cases hc signum owner callback with ⟨hdone, hserve⟩ | ⟨hdone, hserve⟩
  · rw [hserve]
    exact iff_of_false Bool.false_ne_true hdone
  · rw [hserve]
    exact iff_of_true rfl hdone

/-- A registration that is answered with no fills no slot and makes no receiver known. -/
theorem registerSignal_of_no (hc : h.core.Unplanned)
    (hno : (h.registerSignal signum owner callback).1 = false) :
    (h.registerSignal signum owner callback).2.signals = h.signals ∧
      (h.registerSignal signum owner callback).2.core.registered = h.core.registered := by
  rcases registerSignal_cases hc signum owner callback with ⟨-, hserve⟩ | ⟨-, hserve⟩
  · rw [hserve]
    exact ⟨rfl, rfl⟩
  · rw [hserve] at hno
    cases hno

/-- One that is answered with yes does both. -/
theorem registerSignal_of_yes (hc : h.core.Unplanned)
    (hyes : (h.registerSignal signum owner callback).1 = true) :
    (h.registerSignal signum owner callback).2.signals = h.signals.set signum callback ∧
      (h.registerSignal signum owner callback).2.core.registered =
        h.core.registered.insert signum owner := by
  rcases registerSignal_cases hc signum owner callback with ⟨-, hserve⟩ | ⟨-, hserve⟩
  · rw [hserve] at hyes
    cases hyes
  · rw [hserve]
    exact ⟨rfl, rfl⟩

/-! ### The two tables -/

/-- Whether every slot holds what was last registered for its signal, and the core knows a receiver
exactly where a slot is filled. -/
structure InStep (log : List Performed) (h : Host) : Prop where
  slot_eq : ∀ n, h.signals.get? n = lastRegistered? log n
  receiver_iff : ∀ n,
    (h.serve (.isSignalRegistered n)).1 = true ↔ (h.signals.get? n).isSome = true

variable {h' : Host} {log : List Performed}

theorem InStep.congr (hlog : h.InStep log) (hsignals : h'.signals = h.signals)
    (hregistered : h'.core.registered = h.core.registered) : h'.InStep log where
  slot_eq n := by
    rw [hsignals]
    exact hlog.slot_eq n
  receiver_iff n := by
    show h'.core.registered.contains n = true ↔ _
    rw [hsignals, hregistered]
    exact hlog.receiver_iff n

theorem inStep_of_empty (hsignals : h.signals = SignalTable.empty)
    (hregistered : h.core.registered = Table.empty) : h.InStep [] where
  slot_eq n := by
    rw [hsignals]
    rfl
  receiver_iff n := by
    show h.core.registered.contains n = true ↔ _
    rw [hsignals, hregistered]
    exact Iff.rfl

/-- A slot and a receiver come together. -/
theorem InStep.register (hlog : h.InStep log) {e : Performed}
    (he : e.registers? = some (signum, callback)) (hsignals : h'.signals = h.signals.set signum callback)
    (hregistered : h'.core.registered = h.core.registered.insert signum owner) :
    h'.InStep (log ++ [e]) where
  slot_eq n := by
    rw [hsignals, SignalTable.get?_set, lastRegistered?_concat_of_some log he, hlog.slot_eq]
  receiver_iff n := by
    show h'.core.registered.contains n = true ↔ _
    have hold : h.core.registered.contains n = true ↔ (h.signals.get? n).isSome = true :=
      hlog.receiver_iff n
    rw [Table.contains_eq_isSome] at hold ⊢
    rw [hsignals, hregistered, SignalTable.get?_set, Table.get?_insert]
    by_cases hn : n = signum
    · simp [hn]
    · simpa [hn] using hold

/-- Where nothing is registered, both tables stay. -/
theorem InStep.keep (hlog : h.InStep log) {e : Performed} (he : e.registers? = none)
    (hsignals : h'.signals = h.signals) (hregistered : h'.core.registered = h.core.registered) :
    h'.InStep (log ++ [e]) := by
  have hkept := hlog.congr hsignals hregistered
  refine ⟨fun n => ?_, hkept.receiver_iff⟩
  rw [lastRegistered?_concat_of_none log he]
  exact hkept.slot_eq n

/-- Services keep the tables in step. -/
theorem InStep.serve {e : Performed} (hlog : e.host.InStep log) (hc : e.host.core.Unplanned) :
    e.after.InStep (log ++ [e]) := by
  obtain ⟨s, h⟩ := e
  rcases serve_cases hc s with ⟨signum, owner, callback, rfl⟩ | ⟨hother, cache, calls, hserve, -⟩
  · have hanswer : Performed.registers? ⟨.registerSignal signum owner callback, h⟩ =
      if (h.registerSignal signum owner callback).1 then some (signum, callback) else none := rfl
    cases hyes : (h.registerSignal signum owner callback).1 with
    | true =>
      rw [hyes] at hanswer
      obtain ⟨hsignals, hregistered⟩ := registerSignal_of_yes hc hyes
      exact hlog.register hanswer hsignals hregistered
    | false =>
      rw [hyes] at hanswer
      obtain ⟨hsignals, hregistered⟩ := registerSignal_of_no hc hyes
      exact hlog.keep hanswer hsignals hregistered
  · have hanswer : Performed.registers? ⟨s, h⟩ = none := by
      cases s with
      | registerSignal signum owner callback => exact (hother signum owner callback rfl).elim
      | _ => rfl
    have hafter : Performed.after ⟨s, h⟩ = h.withCache cache calls := hserve
    rw [hafter]
    exact hlog.keep hanswer rfl rfl

/-- Along a log the tables are in step, at every service and at the end. -/
theorem inStep_of_performs (hsignals : h.signals = SignalTable.empty)
    (hregistered : h.core.registered = Table.empty) (hc : h.core.Unplanned)
    (hlog : Performs h log h') : h'.InStep log :=
  hlog.preserves (P := fun log h => h.InStep log) hc
    (fun haside hdone => hdone.congr haside.signals_eq haside.registered_eq)
    (fun hplan hdone => hdone.serve hplan) (inStep_of_empty hsignals hregistered)

end Host

/-! ### Runs -/

namespace BridgeStep

variable {b : Bridge}

/-- A signal without a callback is answered with -1, and nothing happens. -/
theorem run_dispatchSignal_of_none {signum : UInt8} (hslot : b.host.signals.get? signum = none) :
    (dispatchSignal signum).run b = (.number (-1), b) := by
  rw [run, Bridge.dispatchSignal, hslot]
  rfl

/-- A signal with a callback has it run. -/
theorem run_dispatchSignal_of_some {signum : UInt8} {callback : Callback}
    (hslot : b.host.signals.get? signum = some callback) :
    (dispatchSignal signum).run b =
      (match ((b.app.callback callback signum).run b.host).1 with
        | .done _ => .number 0
        | .panicked p => .failure (.panicked p),
        { b with host := ((b.app.callback callback signum).run b.host).2 }) := by
  rw [run, Bridge.dispatchSignal, hslot]
  dsimp only
  rcases (b.app.callback callback signum).run b.host with ⟨_ | p, h⟩
  · rfl
  · rfl

/-- In every run from a bridge on which nothing is registered, and at every service in it, the two
tables are in step and registrations are answered by what the core says. A signal that arrives then
runs the callback that was registered for it last, once, or nothing. -/
theorem signals_of_run (hsignals : b.host.signals = SignalTable.empty)
    (hregistered : b.core.registered = Table.empty) (hc : b.core.Unplanned)
    {steps : List BridgeStep} (hsteps : ∀ s ∈ steps, s.IsPlain) :
    let log := performedAll steps b
    let d := runAll steps b
    d.host.InStep log ∧
      (∀ before e after, log = before ++ e :: after → e.host.InStep before ∧
        ∀ signum owner callback, e.service = .registerSignal signum owner callback →
          ((e.host.serve (.registerSignal signum owner callback)).1 = true ↔
            (e.host.modifier.isSome = true ∨
              (0 ≤ e.host.core.modifier ∧ e.host.core.modifier ≤ 255)) ∧
            e.host.core.failRegistrations = false) ∧
          ((e.host.serve (.registerSignal signum owner callback)).1 = false →
            e.after.signals = e.host.signals ∧
              e.after.core.registered = e.host.core.registered)) ∧
      ∀ signum,
        (lastRegistered? log signum = none → (dispatchSignal signum).run d = (.number (-1), d)) ∧
        ∀ callback, lastRegistered? log signum = some callback →
          (dispatchSignal signum).run d =
            (match ((b.app.callback callback signum).run d.host).1 with
              | .done _ => .number 0
              | .panicked p => .failure (.panicked p),
              { d with host := ((b.app.callback callback signum).run d.host).2 }) := by
  intro log d
  have hrun : Performs b.host log d.host := performs_runAll hsteps hc
  have hend : d.host.InStep log := Host.inStep_of_performs hsignals hregistered hc hrun
  refine ⟨hend, ?_, fun signum => ⟨?_, ?_⟩⟩
  · intro before e after hlog
    rw [hlog] at hrun
    have hbefore := hrun.upTo
    have hplan : e.host.core.Unplanned := hbefore.unplanned hc
    refine ⟨Host.inStep_of_performs hsignals hregistered hc hbefore, ?_⟩
    intro signum owner callback hservice
    refine ⟨Host.registerSignal_fst hplan, fun hno => ?_⟩
    rw [Performed.after, hservice]
    exact Host.registerSignal_of_no hplan hno
  · intro hnone
    exact run_dispatchSignal_of_none ((hend.slot_eq signum).trans hnone)
  · intro callback hsome
    have happ : d.app = b.app := app_runAll steps b
    rw [← happ]
    exact run_dispatchSignal_of_some ((hend.slot_eq signum).trans hsome)

/-- Registrations that came too early, that were refused and that came again: the last one that was
answered with yes has its callback run, once, and a signal that nobody registered runs nothing. -/
theorem callback_of_registered_again :
    let b : Bridge :=
      { app := Application.empty, settings := {}, defaultContentType := [], host := { core := {} } }
    let register (id : String) : BridgeStep := .service (.registerSignal 5 "worker" (.named id))
    let steps : List BridgeStep :=
      [.core (.setModifier (-1)), register "early", .core (.setModifier 18), register "first",
        .core (.failRegistrations true), register "refused", .core (.setModifier 300),
        .core (.failRegistrations false), register "second"]
    let d := runAll steps b
    d.host.signals.get? 5 = some (.named "second") ∧
      (dispatchSignal 5).run d =
        (.number 0, { d with host := d.host.note (.callback "second" 5) }) ∧
      (dispatchSignal 6).run d = (.number (-1), d) := by
  intro b register steps d
  have hsteps : ∀ s ∈ steps, s.IsPlain := by
    simp [steps, register, IsPlain, CoreStep.IsPlain]
  obtain ⟨hend, -, hsignal⟩ := signals_of_run (b := b) rfl rfl (fun _ => rfl) hsteps
  have hfive : lastRegistered? (performedAll steps b) 5 = some (.named "second") := by
    decide +kernel
  have hsix : lastRegistered? (performedAll steps b) 6 = none := by
    decide +kernel
  refine ⟨(hend.slot_eq 5).trans hfive, ?_, (hsignal 6).1 hsix⟩
  exact (hsignal 5).2 (.named "second") hfive

end BridgeStep

end Gateway
