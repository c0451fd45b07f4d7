import Gateway.Proofs.Environment.Step
import Gateway.Proofs.Plugin.Panic

/-!
# Calls that are refused

What the server hands to the entry points of the plugin need not mean anything: a null request or
environment, a length below zero, octets at no address, a number that is no signal. Such a call
(`PluginStep.IsInvalid`) is answered by its fallback and leaves the plugin exactly as it was
(`PluginStep.run_of_isInvalid`), and a request whose environment does not wait changes nothing
either. A variable whose name and value are in order is stored (`Plugin.envAdd_of_spans`).
-/

namespace Gateway

/-! ### Ranges of octets -/

namespace Plugin

/-- Whether an address and a length name no octets. -/
def IsBadRange (address : Option Bytes) (length : Int) : Prop :=
  length < 0 ∨ address = none ∧ 0 < length

/-- Whether an address and a length name these octets: none at all at any address, or as many as the
length says at the beginning of what is there. -/
def Spans (address : Option Bytes) (length : Int) (octets : Bytes) : Prop :=
  length = 0 ∧ octets = [] ∨
    0 < length ∧ length = octets.length ∧ ∃ more, address = some (octets ++ more)

variable {address : Option Bytes} {length : Int} {octets : Bytes}

theorem octetsAt_of_isBadRange (hbad : IsBadRange address length) : octetsAt address length = none := by
  unfold octetsAt
  rcases hbad with hneg | ⟨hnull, hpos⟩
  · rw [if_pos hneg]
  · have hnonneg : ¬length < 0 := by omega
    have hne : length ≠ 0 := by omega
    rw [if_neg hnonneg, if_neg hne, hnull]
    rfl

theorem octetsAt_of_spans (hspans : Spans address length octets) :
    octetsAt address length = some octets := by
  unfold octetsAt
  rcases hspans with ⟨hzero, hnone⟩ | ⟨hpos, hlength, more, haddress⟩
  · simp [hzero, hnone]
  · have hnonneg : ¬length < 0 := by omega
    have hne : length ≠ 0 := by omega
    have hcount : length.toNat = octets.length := by omega
    rw [if_neg hnonneg, if_neg hne, haddress, hcount]
    simp

variable {α : Type} {p : Plugin} {b : Bridge}

/-- What changes nothing on the bridge changes nothing on the plugin. -/
theorem withBridge_of_unchanged (hb : p.bridge = some b) (fallback : α)
    {f : Bridge → (α × Option Panic) × Bridge} {x : α} (hf : f b = ((x, none), b)) :
    p.withBridge fallback f = (x, p) := by
  rw [withBridge_of_bridge hb, hf, ← hb]
  rfl

end Plugin

/-! ### Tokens -/

/-- Whether an environment waits under a token. -/
def Bridge.Waits (b : Bridge) (token : Nat) : Prop :=
  ∃ h : Handle, h.token = token ∧ (b.pending.get? h).isSome = true

theorem Handle.token_of_ofToken? {token : Nat} {h : Handle} (hh : Handle.ofToken? token = some h) :
    h.token = token := by
  unfold Handle.ofToken? at hh
  split at hh
  · cases hh
    rfl
  · cases hh

theorem Bridge.get?_of_not_waits {b : Bridge} {token : Nat} {h : Handle}
    (hh : Handle.ofToken? token = some h) (hwaits : ¬b.Waits token) : b.pending.get? h = none := by
  rw [← Option.not_isSome_iff_eq_none]
  exact fun hsome => hwaits ⟨h, Handle.token_of_ofToken? hh, hsome⟩

/-! ### Entry points -/

namespace Plugin

variable {p : Plugin} {b : Bridge}

theorem envAdd_of_isBadRange {name value : Option Bytes} {nameLength valueLength : Int}
    (hbad : IsBadRange name nameLength ∨ IsBadRange value valueLength) (env : Nat) :
    p.envAdd env name nameLength value valueLength = (-1, p) := by
  unfold envAdd
  split
  · next hn hv =>
    -- both ranges were read, so neither is a bad one
    rcases hbad with hbad | hbad
    · rw [octetsAt_of_isBadRange hbad] at hn
      cases hn
    · rw [octetsAt_of_isBadRange hbad] at hv
      cases hv
  · rfl

theorem envAdd_of_not_waits (hb : p.bridge = some b) {env : Nat} (henv : ¬b.Waits env)
    (name : Option Bytes) (nameLength : Int) (value : Option Bytes) (valueLength : Int) :
    p.envAdd env name nameLength value valueLength = (-1, p) := by
  unfold envAdd
  split
  · next h n v hh _ _ =>
    have hnone : b.pending.get? h = none := Bridge.get?_of_not_waits hh henv
    refine withBridge_of_unchanged hb (-1) ?_
    rw [Bridge.envAdd, Pending.add_of_get?_eq_none b.pending h hnone]
    rfl
  · rfl

theorem envFree_of_not_waits (hb : p.bridge = some b) {env : Nat} (henv : ¬b.Waits env) :
    p.envFree env = (-1, p) := by
  unfold envFree
  split
  · rfl
  · next h hh =>
    have hnone : b.pending.get? h = none := Bridge.get?_of_not_waits hh henv
    refine withBridge_of_unchanged hb (-1) ?_
    rw [Bridge.envRelease, Pending.discard_of_get?_eq_none b.pending h hnone]
    rfl

/-- Without an environment nothing is served, which is no failure. -/
theorem request_of_not_waits (hb : p.bridge = some b) {env target : Nat} (henv : env ≠ 0)
    (htarget : target ≠ 0) (hwaits : ¬b.Waits env) : p.request env target = (0, p) := by
  have he : Handle.ofToken? env = some ⟨env, henv⟩ := dif_pos henv
  have hh : Handle.ofToken? target = some ⟨target, htarget⟩ := dif_pos htarget
  have hnone := Bridge.get?_of_not_waits he hwaits
  rw [request, he, hh]
  refine withBridge_of_unchanged hb (-1) ?_
  rw [LifetimeStep.dispatch_of_missing hnone]

theorem signalOf?_of_outside {signum : Int} (hsignum : signum < 0 ∨ 255 < signum) :
    signalOf? signum = none := by
  have hout : ¬(0 ≤ signum ∧ signum ≤ 255) := by omega
  rw [signalOf?, if_neg hout]

theorem signalHandler_of_outside {signum : Int} (hsignum : signum < 0 ∨ 255 < signum) (tag : Nat) :
    p.signalHandler signum tag = (-1, p) := by
  rw [signalHandler, signalOf?_of_outside hsignum]

theorem signalHandler_of_empty (hb : p.bridge = some b) {signum : Int}
    (hslot : b.host.signals.get? (UInt8.ofNat signum.toNat) = none) (tag : Nat) :
    p.signalHandler signum tag = (-1, p) := by
  by_cases hin : 0 ≤ signum ∧ signum ≤ 255
  · rw [signalHandler, signalOf?, if_pos hin]
    refine withBridge_of_unchanged hb (-1) ?_
    rw [Bridge.dispatchSignal, hslot]
    rfl
  · exact signalHandler_of_outside (by omega) tag

/-- A variable in order is stored with the environment that waits for it. -/
theorem envAdd_of_spans (hb : p.bridge = some b) {h : Handle} {vars : Environment}
    (hvars : b.pending.get? h = some vars) {name value : Option Bytes}
    {nameLength valueLength : Int} {n v : Bytes} (hname : Spans name nameLength n)
    (hvalue : Spans value valueLength v) :
    p.envAdd h.token name nameLength value valueLength =
      (0, { p with bridge := some { b with pending := (b.pending.add h n v).2 } }) := by
  have hstored : (b.pending.add h n v).1 = true := by
    rw [Pending.add_fst, hvars]
    rfl
  rw [envAdd, LifetimeStep.ofToken?_token, octetsAt_of_spans hname, octetsAt_of_spans hvalue]
  dsimp only
  rw [withBridge_of_bridge hb]
  simp [Bridge.envAdd, hstored, code]

end Plugin

namespace PluginStep

variable {p : Plugin} {b : Bridge}

/-! ### What is refused -/

/-- Whether a call has arguments that mean nothing to the bridge. -/
def IsInvalid (b : Bridge) : PluginStep → Prop
  | .envNew target => target = 0
  | .envAdd env name nameLength value valueLength =>
    env = 0 ∨ Plugin.IsBadRange name nameLength ∨ Plugin.IsBadRange value valueLength ∨ ¬b.Waits env
  | .envFree env => env = 0 ∨ ¬b.Waits env
  | .request env target => env = 0 ∨ target = 0
  | .signalHandler signum _ =>
    signum < 0 ∨ 255 < signum ∨ b.host.signals.get? (UInt8.ofNat signum.toNat) = none
  | _ => False

/-- What stands for the result of a call that is refused. -/
def fallback : PluginStep → Int
  | .envNew _ => 0
  | _ => -1

theorem run_of_isInvalid (hb : p.bridge = some b) {s : PluginStep} (hs : s.IsInvalid b) :
    s.run p = (.number s.fallback, p) := by
  have hzero : ¬b.Waits 0 := fun ⟨h, hh, _⟩ => h.token_ne_zero hh
  cases s with
  | envNew target =>
    cases hs
    rfl
  | envAdd env name nameLength value valueLength =>
    rw [run]
    have hadd : p.envAdd env name nameLength value valueLength = (-1, p) := by
      rcases hs with rfl | hname | hvalue | henv
      · exact Plugin.envAdd_of_not_waits hb hzero name nameLength value valueLength
      · exact Plugin.envAdd_of_isBadRange (.inl hname) env
      · exact Plugin.envAdd_of_isBadRange (.inr hvalue) env
      · exact Plugin.envAdd_of_not_waits hb henv name nameLength value valueLength
    rw [hadd]
    rfl
  | envFree env =>
    have hfree : p.envFree env = (-1, p) := by
      rcases hs with rfl | henv
      · exact Plugin.envFree_of_not_waits hb hzero
      · exact Plugin.envFree_of_not_waits hb henv
    rw [run, hfree]
    rfl
  | request env target =>
    have hrequest : p.request env target = (-1, p) := by
      unfold Plugin.request
      rcases hs with rfl | rfl
      · rfl
      · split
        · next hh => cases hh
        · rfl
    rw [run, hrequest]
    rfl
  | signalHandler signum tag =>
    have hsignal : p.signalHandler signum tag = (-1, p) := by
      rcases hs with hneg | hlarge | hslot
      · exact Plugin.signalHandler_of_outside (.inl hneg) tag
      · exact Plugin.signalHandler_of_outside (.inr hlarge) tag
      · exact Plugin.signalHandler_of_empty hb hslot tag
    rw [run, hsignal]
    rfl
  | _ => exact hs.elim

end PluginStep

namespace ServerStep

/-- A step that leaves the plugin as it is leaves the server as it is. -/
theorem run_plugin_of_unchanged {s : PluginStep} {t : Server} {a : Answer}
    (hs : s.run t.plugin = (a, t.plugin)) : (ServerStep.plugin s).run t = (a, t) := by
  rw [run, onPlugin, hs]

/-- Calls whose arguments mean nothing are answered by their fallback and leave the server as it was,
and so does a request whose environment does not wait. A variable in order is stored with its
environment. The tag of a signal does not matter. -/
theorem invalid_calls_absorbed {t : Server} {b : Bridge} (hb : t.plugin.bridge = some b) :
    (∀ s : PluginStep, s.IsInvalid b →
      (ServerStep.plugin s).run t = (.number s.fallback, t)) ∧
    (∀ env target, env ≠ 0 → target ≠ 0 → ¬b.Waits env →
      (ServerStep.plugin (.request env target)).run t = (.number 0, t)) ∧
    (∀ h vars name nameLength n value valueLength v, b.pending.get? h = some vars →
      Plugin.Spans name nameLength n → Plugin.Spans value valueLength v →
      ∃ pending, (ServerStep.plugin (.envAdd h.token name nameLength value valueLength)).run t =
          (.number 0,
            { t with plugin := { t.plugin with bridge := some { b with pending := pending } } }) ∧
        ∀ j, pending.get? j =
          if j = h then some (vars.insert (Utf8.toStringLossy n) (Utf8.toStringLossy v))
          else b.pending.get? j) ∧
    ∀ signum tag tag', (ServerStep.plugin (.signalHandler signum tag)).run t =
      (ServerStep.plugin (.signalHandler signum tag')).run t := by
  refine ⟨?_, ?_, ?_, fun _ _ _ => rfl⟩
  · intro s hs
    exact run_plugin_of_unchanged (PluginStep.run_of_isInvalid hb hs)
  · intro env target henv htarget hwaits
    have hrequest := Plugin.request_of_not_waits hb henv htarget hwaits
    refine run_plugin_of_unchanged ?_
    rw [PluginStep.run, hrequest]
    rfl
  · intro h vars name nameLength n value valueLength v hvars hname hvalue
    refine ⟨(b.pending.add h n v).2, ?_, fun j => ?_⟩
    · rw [run, onPlugin, PluginStep.run, Plugin.envAdd_of_spans hb hvars hname hvalue]
      rfl
    · rw [Pending.get?_add]
      by_cases hj : j = h
      · rw [if_pos hj, if_pos hj, hj, hvars]
        rfl
      · rw [if_neg hj, if_neg hj]

/-- A name of four octets at no address, a request whose environment does not wait, and a name of one
octet with an empty value. -/
theorem absorbed_of_missing_name :
    let one : Handle := ⟨1, by decide⟩
    let bridge : Bridge :=
      { app := Application.empty, settings := {}, defaultContentType := []
        pending := Pending.empty.create one, host := { core := {} } }
    let t : Server := { plugin := { bridge := some bridge } }
    (ServerStep.plugin (.envAdd 1 none 4 (some [86]) 1)).run t = (.number (-1), t) ∧
      (ServerStep.plugin (.request 2 1)).run t = (.number 0, t) ∧
      ∃ pending, (ServerStep.plugin (.envAdd 1 (some [75, 61]) 1 none 0)).run t =
          (.number 0, { plugin := { bridge := some { bridge with pending := pending } } }) ∧
        (pending.get? one).map Environment.toList = some [("K", "")] := by
  intro one bridge t
  obtain ⟨hinvalid, hrequest, hstored, -⟩ := invalid_calls_absorbed (t := t) (b := bridge) rfl
  have hname : Plugin.Spans (some [75, 61]) 1 [75] := .inr ⟨by decide, rfl, [61], rfl⟩
  have hvalue : Plugin.Spans none 0 [] := .inl ⟨rfl, rfl⟩
  refine ⟨?_, ?_, ?_⟩
  · exact hinvalid (.envAdd 1 none 4 (some [86]) 1) (.inr (.inl (.inr ⟨rfl, by decide⟩)))
  · have hwaits : ¬bridge.Waits 2 := by
      rintro ⟨h, hh, hsome⟩
      have hne : h ≠ one := fun heq => absurd (heq ▸ hh) (by decide)
      have hnone : bridge.pending.get? h = none := by
        rw [Pending.get?_create, if_neg hne]
        rfl
      rw [hnone] at hsome
      cases hsome
    exact hrequest 2 1 (by decide) (by decide) hwaits
  · obtain ⟨pending, hrun, hpending⟩ :=
      hstored one Environment.empty (some [75, 61]) 1 [75] none 0 [] rfl hname hvalue
    refine ⟨pending, hrun, ?_⟩
    rw [hpending, if_pos rfl]
    decide +kernel

end ServerStep

end Gateway
