import Gateway.Proofs.Body
import Gateway.Proofs.Isolation.Turn
import Gateway.Proofs.Program
import Gateway.Proofs.Service.Effect

/-!
# Services as they were performed

The services that code asks for are logged in order, each with the host that performed it
(`Performed`). The log tells everything about signals, the modifier, registrations and recorded
calls: from one service to the next a host changes at most in what concerns single requests, in its
journal, in how its core is set, and in the core loops that were run (`Aside`). A run of code leads
from host to host along its log in this sense (`Performs`), whether it ends or panics, so what asides
and services keep holds at every entry of the log and at its end (`Performs.preserves`).
-/

namespace Gateway

/-- A service, and the host that performed it. -/
structure Performed where
  service : Service
  host : Host

namespace Performed

/-- The host after the service. -/
def after (e : Performed) : Host :=
  (e.host.serve e.service).2

end Performed

/-! ### Between two services -/

/-- What becomes of a host while no service is performed. -/
structure Aside (h h' : Host) : Prop where
  signals_eq : h'.signals = h.signals
  modifier_eq : h'.modifier = h.modifier
  plugin_eq : h'.plugin = h.plugin
  registered_eq : h'.core.registered = h.core.registered
  unplanned : h.core.Unplanned → h'.core.Unplanned
  /-- Nothing but core loops is recorded. -/
  events_eq : ∃ loops : List Int, h'.core.events = h.core.events ++ loops.map Event.coreLoop

namespace Aside

variable {h h' h'' : Host}

theorem refl (h : Host) : Aside h h :=
  ⟨rfl, rfl, rfl, rfl, id, [], (List.append_nil _).symm⟩

theorem trans (hh' : Aside h h') (hh'' : Aside h' h'') : Aside h h'' where
  signals_eq := hh''.signals_eq.trans hh'.signals_eq
  modifier_eq := hh''.modifier_eq.trans hh'.modifier_eq
  plugin_eq := hh''.plugin_eq.trans hh'.plugin_eq
  registered_eq := hh''.registered_eq.trans hh'.registered_eq
  unplanned := hh''.unplanned ∘ hh'.unplanned
  events_eq := by
    obtain ⟨loops, hevents⟩ := hh'.events_eq
    obtain ⟨loops', hevents'⟩ := hh''.events_eq
    refine ⟨loops ++ loops', ?_⟩
    rw [hevents', hevents, List.map_append, List.append_assoc]

/-- Taking a note. -/
theorem note (h : Host) (n : Note) : Aside h (h.note n) :=
  ⟨rfl, rfl, rfl, rfl, id, [], (List.append_nil _).symm⟩

/-- Reading and writing requests. -/
theorem of_exchanges {c : Core} (hc : c = { h.core with exchanges := c.exchanges }) :
    Aside h { h with core := c } := by
  rw [hc]
  exact ⟨rfl, rfl, rfl, rfl, id, [], (List.append_nil _).symm⟩

end Aside

/-! ### Along a log -/

/-- Whether `h` becomes `h'` when services are performed as logged, with nothing but asides before,
between and after them. -/
def Performs : Host → List Performed → Host → Prop
  | h, [], h' => Aside h h'
  | h, e :: log, h' => Aside h e.host ∧ Performs e.after log h'

namespace Performs

variable {h h' h'' : Host} {log log' : List Performed}

theorem service (h : Host) (s : Service) : Performs h [⟨s, h⟩] (h.serve s).2 :=
  ⟨Aside.refl h, Aside.refl _⟩

theorem of_aside (hh' : Aside h h') (hlog : Performs h' log h'') : Performs h log h'' := by
  cases log with
  | nil => exact hh'.trans hlog
  | cons e log => exact ⟨hh'.trans hlog.1, hlog.2⟩

theorem trans (hlog : Performs h log h') (hlog' : Performs h' log' h'') :
    Performs h (log ++ log') h'' := by
  induction log generalizing h with
  | nil => exact of_aside hlog hlog'
  | cons e log ih => exact ⟨hlog.1, ih hlog.2⟩

/-- A log leads to each of its entries. -/
theorem upTo {before after : List Performed} {e : Performed}
    (hlog : Performs h (before ++ e :: after) h') : Performs h before e.host := by
  induction before generalizing h with
  | nil => exact hlog.1
  | cons d before ih => exact ⟨hlog.1, ih hlog.2⟩

theorem unplanned (hlog : Performs h log h') (hc : h.core.Unplanned) : h'.core.Unplanned := by
  induction log generalizing h with
  | nil => exact hlog.unplanned hc
  | cons e log ih => exact ih hlog.2 (Host.unplanned_serve (hlog.1.unplanned hc) e.service)

/-- What holds of the log so far and the host, and is kept by asides and services, holds of the whole
log in the end. -/
theorem preserves {P : List Performed → Host → Prop} (hc : h.core.Unplanned)
    (haside : ∀ {done h h'}, Aside h h' → P done h → P done h')
    (hserve : ∀ {done e}, e.host.core.Unplanned → P done e.host → P (done ++ [e]) e.after)
    (hlog : Performs h log h') (hstart : P [] h) : P log h' := by
  suffices hmore : ∀ done, P done h → P (done ++ log) h' from hmore [] hstart
  clear hstart
  induction log generalizing h with
  | nil =>
    intro done hdone
    rw [List.append_nil]
    exact haside hlog hdone
  | cons e log ih =>
    intro done hdone
    have hplan : e.host.core.Unplanned := hlog.1.unplanned hc
    rw [List.append_cons]
    exact ih (Host.unplanned_serve hplan e.service) hlog.2 _ (hserve hplan (haside hlog.1 hdone))

end Performs

/-! ### Reading a body -/

namespace Body

variable {c : Core}

/-- Reading changes nothing beside exchanges, wherever the octets come from. -/
theorem beside_read (b : Body) (n : Nat) (hc : c.Unplanned) :
    (b.read n c).2.2 = { c with exchanges := (b.read n c).2.2.exchanges } := by
  cases b with
  | queued h => exact ((local_read h n).frame hc).beside
  | stored rest => rfl

theorem beside_drain (b : Body) (hc : c.Unplanned) :
    (b.drain c).2.2 = { c with exchanges := (b.drain c).2.2.exchanges } := by
  cases b with
  | queued h => exact ((local_drain h).frame hc).beside
  | stored rest =>
    have hprobe : ∀ i : Nat, 0 < (fun _ : Nat => probe) i := fun _ => Nat.succ_pos 31
    have hdrain : ((stored rest).drain c).2.2 = c :=
      congrArg (·.2.2) (drainFrom_stored hprobe (Nat.lt_succ_self rest.length) 0 c)
    rw [hdrain]

end Body

/-! ### Logs of programs -/

/-- The service that code outside of requests asks for. -/
def HostCall.service? : HostCall → Option Service
  | .service s => some s
  | _ => none

/-- The service that a handler asks for. -/
def TurnCall.service? : TurnCall → Option Service
  | .host c => c.service?
  | _ => none

namespace Program

variable {I : Interface} {α σ : Type}

/-- The services among what a program asks for in a run. -/
def performed (act : (c : I.Call) → σ → I.Answer c × σ) (service? : I.Call → Option Service)
    (host : σ → Host) (p : Program I α) (s : σ) : List Performed :=
  (p.trace act s).filterMap fun e => (service? e.1).map fun x => ⟨x, host e.2⟩

/-- A program whose questions are services and asides goes along its log. -/
theorem performs_run {act : (c : I.Call) → σ → I.Answer c × σ} {service? : I.Call → Option Service}
    {host : σ → Host}
    (haside : ∀ {c s}, service? c = none → (host s).core.Unplanned →
      Aside (host s) (host (act c s).2))
    (hserve : ∀ {c x s}, service? c = some x → host (act c s).2 = ((host s).serve x).2)
    (p : Program I α) {s : σ} (hs : (host s).core.Unplanned) :
    Performs (host s) (p.performed act service? host s) (host (p.run act s).2) := by
  induction p generalizing s with
  | done a => exact Aside.refl (host s)
  | panic m => exact Aside.refl (host s)
  | call c next ih =>
    cases hc : service? c with
    | none =>
      have hstep := haside hc hs
      have hlog : (call c next).performed act service? host s =
          (next (act c s).1).performed act service? host (act c s).2 := by
        simp [performed, trace, hc]
      rw [hlog]
      exact (ih _ (hstep.unplanned hs)).of_aside hstep
    | some x =>
      have hstep := hserve (s := s) hc
      have hlog : (call c next).performed act service? host s =
          ⟨x, host s⟩ :: (next (act c s).1).performed act service? host (act c s).2 := by
        simp [performed, trace, hc]
      have hs' : (host (act c s).2).core.Unplanned := by
        rw [hstep]
        exact Host.unplanned_serve hs x
      rw [hlog]
      refine ⟨Aside.refl _, ?_⟩
      rw [Performed.after, ← hstep]
      exact ih _ hs'

end Program

namespace HostProgram

variable {α : Type}

/-- The services of a run. -/
def performed (p : HostProgram α) (h : Host) : List Performed :=
  Program.performed (I := HostInterface) Host.act HostCall.service? id p h

theorem performs_run (p : HostProgram α) {h : Host} (hc : h.core.Unplanned) :
    Performs h (p.performed h) (p.run h).2 := by
  refine @Program.performs_run _ _ _ Host.act HostCall.service? id ?_ ?_ p h hc
  · intro c h hc _
    cases c with
    | service s => cases hc
    | isInstalled => exact Aside.refl h
    | note n => exact Aside.note h n
  · intro c s h hc
    cases c with
    | service s => cases hc; rfl
    | isInstalled | note n => cases hc

end HostProgram

namespace TurnProgram

variable {α : Type}

/-- The services of a run. -/
def performed (p : TurnProgram α) (t : Turn Sink) : List Performed :=
  Program.performed (I := TurnInterface) Turn.act TurnCall.service? Turn.host p t

theorem performs_run (p : TurnProgram α) {t : Turn Sink} (hc : t.host.core.Unplanned) :
    Performs t.host (p.performed t) (p.run t).2.host := by
  refine Program.performs_run ?_ ?_ p hc
  · intro c t hc hplan
    cases c with
    | headers | isCommitted => exact Aside.refl t.host
    | setHeaders h => exact Aside.refl t.host
    | writeHeader s => exact Aside.of_exchanges ((Sink.local_writeHeader t.writer s).frame hplan).beside
    | writeBody b => exact Aside.of_exchanges ((Sink.local_writeBody t.writer b).frame hplan).beside
    | read n => exact Aside.of_exchanges (Body.beside_read t.body n hplan)
    | drain => exact Aside.of_exchanges (Body.beside_drain t.body hplan)
    | host c =>
      cases c with
      | service s => cases hc
      | isInstalled => exact Aside.refl t.host
      | note n => exact Aside.note t.host n
  · intro c s t hc
    cases c with
    | host c =>
      cases c with
      | service s => cases hc; rfl
      | isInstalled | note n => cases hc
    | _ => cases hc

end TurnProgram

end Gateway
