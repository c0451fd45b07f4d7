import Gateway.Proofs.Signal.Registration

/-!
# Dispatches that serve nothing

A dispatch whose environment does not wait, or describes no request, is over before the core or the
application comes into play. It takes the environment away and changes nothing else, and nobody can
tell later on that it took place, unless by the environment itself: the same steps answer the same
and leave the same host with the dispatch before them and without it, as long as they start the
environment anew before they use it (`dispatch_serving_nothing`).

For this the two runs are compared. Their bridges are the same but for what waits under some handles
(`Bridge.AgreeOn`). A step that does not use these environments cannot tell the bridges apart, and
one that starts an environment makes the bridges agree on it.
-/

namespace Gateway

namespace Bridge

variable {α : Type} {S S' : Set Handle} {b d : Bridge} {env : Handle}

/-! ### Nothing to serve -/

/-- Whether a dispatch with the environment of a handle has no request to serve: none waits, or the
one that waits describes no request. -/
def NothingToServe (b : Bridge) (env : Handle) : Prop :=
  b.pending.get? env = none ∨
    ∃ vars defect, b.pending.get? env = some vars ∧
      Request.ofEnvironment vars = .error (.malformed defect)

theorem taken_of_missing (hvars : b.pending.get? env = none) : b.taken env = b := by
  have hsame : (b.pending.take env).2 = b.pending := by
    rw [Pending.take, Table.erase_of_get?_eq_none hvars]
  rw [taken, hsame]

/-- Such a dispatch takes the environment away, and that is all. -/
theorem dispatch_of_nothing (hb : b.NothingToServe env) (h : Handle) :
    b.dispatch env h = (none, b.taken env) := by
  rcases hb with hmissing | ⟨vars, defect, hvars, hdefect⟩
  · rw [LifetimeStep.dispatch_of_missing hmissing, taken_of_missing hmissing]
  · rw [LifetimeStep.dispatch_of_waiting hvars, hdefect]
    rfl

/-! ### Bridges that agree on environments -/

/-- Whether two bridges are the same but for what waits under handles outside of `S`. -/
def AgreeOn (S : Set Handle) (b d : Bridge) : Prop :=
  ∃ p : Pending, d = { b with pending := p } ∧ ∀ j ∈ S, p.get? j = b.pending.get? j

theorem AgreeOn.mono (hbd : AgreeOn S b d) (hS : S' ⊆ S) : AgreeOn S' b d := by
  obtain ⟨p, hd, hp⟩ := hbd
  exact ⟨p, hd, fun j hj => hp j (hS hj)⟩

theorem AgreeOn.core_eq (hbd : AgreeOn S b d) : d.core = b.core := by
  obtain ⟨p, rfl, -⟩ := hbd
  rfl

/-- Bridges agree beside an environment that was taken from one of them. -/
theorem agreeOn_taken (b : Bridge) (env : Handle) : AgreeOn {env}ᶜ b (b.taken env) :=
  ⟨(b.pending.take env).2, rfl, fun j hj => (b.pending.get?_take env j).trans (if_neg hj)⟩

/-- What is done with the environments that wait is done alike, if it depends on no others than those
on which the bridges agree. -/
theorem AgreeOn.pending (hbd : AgreeOn S b d) {f : Pending → α × Pending}
    (hf : ∀ {p q : Pending}, (∀ j ∈ S, p.get? j = q.get? j) →
      (f p).1 = (f q).1 ∧ ∀ j ∈ S', (f p).2.get? j = (f q).2.get? j) :
    (f b.pending).1 = (f d.pending).1 ∧
      AgreeOn S' { b with pending := (f b.pending).2 } { d with pending := (f d.pending).2 } := by
  obtain ⟨p, rfl, hp⟩ := hbd
  obtain ⟨hresult, hafter⟩ := hf hp
  exact ⟨hresult.symm, (f p).2, rfl, hafter⟩

theorem AgreeOn.envNew (hbd : AgreeOn S b d) (h : Handle) :
    AgreeOn (insert h S) (b.envNew h) (d.envNew h) := by
  refine (hbd.pending (f := fun p => ((), p.create h)) fun {p q} hpq => ⟨rfl, fun j hj => ?_⟩).2
  rw [Pending.get?_create, Pending.get?_create]
  rcases hj with rfl | hj
  · rw [if_pos rfl, if_pos rfl]
  · rw [hpq j hj]

theorem AgreeOn.envAdd (hbd : AgreeOn S b d) {h : Handle} (hh : h ∈ S) (name value : Bytes) :
    (b.envAdd h name value).1 = (d.envAdd h name value).1 ∧
      AgreeOn S (b.envAdd h name value).2 (d.envAdd h name value).2 := by
  refine hbd.pending (f := fun p => p.add h name value) fun {p q} hpq => ⟨?_, fun j hj => ?_⟩
  · rw [Pending.add_fst, Pending.add_fst, hpq h hh]
  · rw [Pending.get?_add, Pending.get?_add, hpq j hj]

theorem AgreeOn.envRelease (hbd : AgreeOn S b d) {h : Handle} (hh : h ∈ S) :
    (b.envRelease h).1 = (d.envRelease h).1 ∧ AgreeOn S (b.envRelease h).2 (d.envRelease h).2 := by
  refine hbd.pending (f := fun p => p.discard h) fun {p q} hpq => ⟨?_, fun j hj => ?_⟩
  · rw [Pending.discard_fst, Pending.discard_fst, hpq h hh]
  · rw [Pending.get?_discard, Pending.get?_discard, hpq j hj]

/-- The same environment is handed out, so the same request is served or none. -/
theorem AgreeOn.dispatch (hbd : AgreeOn S b d) (henv : env ∈ S) (h : Handle) :
    (b.dispatch env h).1 = (d.dispatch env h).1 ∧
      AgreeOn S (b.dispatch env h).2 (d.dispatch env h).2 := by
  obtain ⟨p, rfl, hp⟩ := hbd
  cases hvars : b.pending.get? env with
  | none =>
    have hvars' : ({ b with pending := p } : Bridge).pending.get? env = none :=
      (hp env henv).trans hvars
    rw [LifetimeStep.dispatch_of_missing hvars, LifetimeStep.dispatch_of_missing hvars']
    exact ⟨rfl, p, rfl, hp⟩
  | some vars =>
    have hvars' : ({ b with pending := p } : Bridge).pending.get? env = some vars :=
      (hp env henv).trans hvars
    have htaken : ∀ j ∈ S, (p.take env).2.get? j = (b.pending.take env).2.get? j := by
      intro j hj
      rw [Pending.get?_take, Pending.get?_take, hp j hj]
    rw [LifetimeStep.dispatch_of_waiting hvars, LifetimeStep.dispatch_of_waiting hvars']
    cases Request.ofEnvironment vars with
    | error defect => exact ⟨rfl, (p.take env).2, rfl, htaken⟩
    | ok r => exact ⟨rfl, (p.take env).2, rfl, htaken⟩

/-- As many environments wait where all of them are the same. -/
theorem AgreeOn.size_eq (hbd : AgreeOn S b d) (hS : ∀ j, j ∈ S) :
    b.pending.size = d.pending.size := by
  obtain ⟨p, rfl, hp⟩ := hbd
  have hget : ∀ j, p.get? j = b.pending.get? j := fun j => hp j (hS j)
  rw [Pending.size_eq_ncard, Pending.size_eq_ncard]
  simp only [hget]

end Bridge

/-! ### Steps -/

namespace BridgeStep

open Bridge (AgreeOn)

variable {S : Set Handle} {b d : Bridge} {steps : List BridgeStep}

/-- Whether what a step does or answers may depend on what waits under a handle. -/
def Uses (env : Handle) : BridgeStep → Prop
  | .envAdd h _ _ | .envRelease h | .dispatch h _ => h = env
  | .pending => True
  | _ => False

theorem agreeOn_foldl_envAdd (vars : List (Bytes × Bytes)) {h : Handle} (hh : h ∈ S)
    (hbd : AgreeOn S b d) :
    AgreeOn S (vars.foldl (fun b v => (b.envAdd h v.1 v.2).2) b)
      (vars.foldl (fun b v => (b.envAdd h v.1 v.2).2) d) := by
  induction vars generalizing b d with
  | nil => exact hbd
  | cons v vars ih => exact ih (hbd.envAdd hh v.1 v.2).2

/-- A request is opened alike, and the environment that it is given is its own. -/
theorem agreeOn_opened (hbd : AgreeOn S b d) (vars : List (Bytes × Bytes)) (chunks : List Bytes) :
    AgreeOn (insert b.core.nextHandle S) (opened vars chunks b) (opened vars chunks d) := by
  obtain ⟨p, rfl, hp⟩ := hbd
  have hcore : ∀ c, AgreeOn S (b.withCore c) (({ b with pending := p } : Bridge).withCore c) :=
    fun c => ⟨p, rfl, hp⟩
  exact agreeOn_foldl_envAdd vars (Set.mem_insert _ S) ((hcore _).envNew b.core.nextHandle)

theorem serve_eq (vars : List (Bytes × Bytes)) (chunks : List Bytes) (b : Bridge) :
    serve vars chunks b =
      let h := b.core.nextHandle
      let r := (opened vars chunks b).dispatch h h
      (.served h r.1 (r.2.core.exchange h), r.2) := rfl

theorem agreeOn_serve (hbd : AgreeOn S b d) (vars : List (Bytes × Bytes)) (chunks : List Bytes) :
    (serve vars chunks b).1 = (serve vars chunks d).1 ∧
      AgreeOn S (serve vars chunks b).2 (serve vars chunks d).2 := by
  have hnext : d.core.nextHandle = b.core.nextHandle := by rw [hbd.core_eq]
  obtain ⟨hpanic, hserved⟩ := (agreeOn_opened hbd vars chunks).dispatch
    (Set.mem_insert b.core.nextHandle S) b.core.nextHandle
  rw [serve_eq, serve_eq, hnext]
  refine ⟨?_, hserved.mono (Set.subset_insert _ S)⟩
  dsimp only
  rw [hpanic, hserved.core_eq]

/-- A step that uses no environments but those on which two bridges agree answers alike and leaves
them so. -/
theorem agreeOn_run {s : BridgeStep} (hbd : AgreeOn S b d) (hs : ∀ env, s.Uses env → env ∈ S) :
    (s.run b).1 = (s.run d).1 ∧ AgreeOn S (s.run b).2 (s.run d).2 := by
  cases s with
  | envNew h => exact ⟨rfl, (hbd.envNew h).mono (Set.subset_insert h S)⟩
  | envAdd h name value =>
    obtain ⟨hstored, hadded⟩ := hbd.envAdd (hs h rfl) name value
    exact ⟨congrArg Answer.flag hstored, hadded⟩
  | envRelease h =>
    obtain ⟨hdropped, hreleased⟩ := hbd.envRelease (hs h rfl)
    exact ⟨congrArg Answer.flag hdropped, hreleased⟩
  | dispatch env h =>
    obtain ⟨hpanic, hserved⟩ := hbd.dispatch (hs env rfl) h
    exact ⟨congrArg Answer.ofEnding hpanic, hserved⟩
  | request vars chunks => exact agreeOn_serve hbd vars chunks
  | pending =>
    have hsize := hbd.size_eq fun j => hs j trivial
    exact ⟨congrArg (fun n : Nat => Answer.number n) hsize, hbd⟩
  | dispatchSignal n =>
    obtain ⟨p, rfl, hp⟩ := hbd
    cases hslot : b.host.signals.get? n with
    | none =>
      have hslot' : ({ b with pending := p } : Bridge).host.signals.get? n = none := hslot
      rw [run_dispatchSignal_of_none hslot, run_dispatchSignal_of_none hslot']
      exact ⟨rfl, p, rfl, hp⟩
    | some callback =>
      have hslot' : ({ b with pending := p } : Bridge).host.signals.get? n = some callback := hslot
      rw [run_dispatchSignal_of_some hslot, run_dispatchSignal_of_some hslot']
      exact ⟨rfl, p, rfl, hp⟩
  | _ =>
    obtain ⟨p, rfl, hp⟩ := hbd
    exact ⟨rfl, p, rfl, hp⟩

/-! ### Runs -/

/-- The answers of steps performed one after the other. -/
def answers : List BridgeStep → Bridge → List Answer
  | [], _ => []
  | s :: steps, b => (s.run b).1 :: answers steps (s.run b).2

/-- Whether the environment under a handle is started anew before any step uses it. -/
def StartsAnew (env : Handle) (steps : List BridgeStep) : Prop :=
  ∀ before s after, steps = before ++ s :: after → s.Uses env → .envNew env ∈ before

/-- After the environment was started anything may be done with it. -/
theorem startsAnew_cons (env : Handle) (steps : List BridgeStep) :
    StartsAnew env (.envNew env :: steps) := by
  intro before s after hsplit huses
  cases before with
  | nil =>
    obtain ⟨rfl, -⟩ := List.cons.inj hsplit
    exact huses.elim
  | cons first before =>
    obtain ⟨rfl, -⟩ := List.cons.inj hsplit
    exact List.mem_cons_self

/-- Steps that use no other environments than those on which two bridges agree, or those that were
started before, cannot tell the bridges apart. -/
theorem agreeOn_runAll (hbd : AgreeOn S b d) (hsteps : ∀ env ∉ S, StartsAnew env steps) :
    answers steps b = answers steps d ∧
      AgreeOn (S ∪ {env | .envNew env ∈ steps}) (runAll steps b) (runAll steps d) := by
  induction steps generalizing S b d with
  | nil => exact ⟨rfl, hbd.mono fun j hj => hj.resolve_right List.not_mem_nil⟩
  | cons s steps ih =>
    -- nothing was started before the first step
    have hfirst : ∀ env, s.Uses env → env ∈ S := fun env huses =>
      by_contra fun henv => List.not_mem_nil (hsteps env henv [] s steps rfl huses)
    obtain ⟨hanswer, hstep⟩ := agreeOn_run hbd hfirst
    have hafter : AgreeOn (S ∪ {env | s = .envNew env}) (s.run b).2 (s.run d).2 := by
      by_cases hs : ∃ h, s = .envNew h
      · obtain ⟨h, rfl⟩ := hs
        refine (hbd.envNew h).mono ?_
        rintro j (hj | hj)
        · exact .inr hj
        · exact .inl (envNew.inj hj).symm
      · exact hstep.mono fun j hj => hj.resolve_right fun hj => hs ⟨j, hj⟩
    have hrest : ∀ env ∉ S ∪ {env | s = .envNew env}, StartsAnew env steps := by
      rintro env henv before s' after rfl huses
      rw [Set.mem_union, not_or] at henv
      have hmem := hsteps env henv.1 (s :: before) s' after rfl huses
      exact (List.mem_cons.mp hmem).resolve_left fun hs => henv.2 hs.symm
    obtain ⟨hanswers, hend⟩ := ih hafter hrest
    refine ⟨?_, hend.mono ?_⟩
    · rw [answers, answers, hanswer, hanswers]
    · rintro j (hj | hj)
      · exact .inl (.inl hj)
      · exact (List.mem_cons.mp hj).imp (fun hj => .inr hj.symm) id

/-- A dispatch whose environment does not wait, or describes no request, serves nothing, whatever the
application would have done, whatever the core holds and whatever body was queued: it gives no panic,
takes the environment away if there was one, and leaves the host, and with it the core, the signals
and the modifier, as they were. Afterwards the same steps answer the same, leave the same host and the
same environments as without this dispatch, as long as they start the environment anew before they
use it. -/
theorem dispatch_serving_nothing {b : Bridge} {env : Handle} (hb : b.NothingToServe env)
    (h : Handle) :
    ∃ p : Pending,
      (∀ app : Application,
        ({ b with app := app } : Bridge).dispatch env h =
          (none, { b with app := app, pending := p })) ∧
      (∀ j, p.get? j = if j = env then none else b.pending.get? j) ∧
      (b.pending.get? env = none → p = b.pending) ∧
      ∀ steps, StartsAnew env steps →
        let d := runAll steps (b.dispatch env h).2
        answers steps (b.dispatch env h).2 = answers steps b ∧
          d.host = (runAll steps b).host ∧
          ∀ j, (j ≠ env ∨ .envNew env ∈ steps) →
            d.pending.get? j = (runAll steps b).pending.get? j := by
  have hdispatch := Bridge.dispatch_of_nothing hb h
  refine ⟨(b.pending.take env).2, fun app => ?_, b.pending.get?_take env, ?_, ?_⟩
  · have happ : ({ b with app := app } : Bridge).NothingToServe env := hb
    exact Bridge.dispatch_of_nothing happ h
  · intro hmissing
    exact congrArg Bridge.pending (Bridge.taken_of_missing hmissing)
  · intro steps hsteps
    have hothers : ∀ e ∉ ({env}ᶜ : Set Handle), StartsAnew e steps := by
      intro e he
      rw [Set.notMem_compl_iff, Set.mem_singleton_iff] at he
      rwa [he]
    obtain ⟨hanswers, p, hend, hp⟩ := agreeOn_runAll (Bridge.agreeOn_taken b env) hothers
    rw [hdispatch]
    refine ⟨hanswers.symm, ?_, fun j hj => ?_⟩
    · rw [hend]
    · rw [hend]
      by_cases henv : j = env
      · exact hp j (.inr (henv ▸ hj.resolve_left fun hne => hne henv))
      · exact hp j (.inl henv)

/-- A request without a method is dropped with its body still queued. Its handle is used again, and the
body is sent back. -/
theorem wire_after_dropped_request :
    let h : Handle := ⟨4096, by decide⟩
    let echo : Application :=
      { serve := fun _ => .call .drain fun got => .call (.writeBody got.2) fun _ => .done () }
    let failing : Application := { serve := fun _ => .panic .other }
    let raw (name value : String) : Bytes × Bytes := (Utf8.ofString name, Utf8.ofString value)
    let path := raw "PATH_INFO" "/hello"
    let b : Bridge :=
      { app := echo, settings := {}, defaultContentType := [116]
        pending := ((Pending.empty.create h).add h path.1 path.2).2
        host := { core := (Core.openRequest {}).2.pushBody h [97] } }
    let method := raw "REQUEST_METHOD" "PUT"
    let steps : List BridgeStep := [.envNew h, .envAdd h method.1 method.2, .dispatch h h]
    b.NothingToServe h ∧ ({ b with app := failing } : Bridge).dispatch h h =
        (none, { (b.dispatch h h).2 with app := failing }) ∧
      ((runAll steps (b.dispatch h h).2).core.exchange h).wire =
        HeaderBlock.render .http11 Status.ok
          (HeaderMap.empty.insert HeaderName.contentType [116]) ++ [97] := by
  intro h echo failing raw path b method steps
  have hnothing : b.NothingToServe h :=
    .inr ⟨Environment.ofRawList [path], .noMethod, by rfl, by rfl⟩
  obtain ⟨p, happ, -, -, hlater⟩ := dispatch_serving_nothing hnothing h
  refine ⟨hnothing, ?_, ?_⟩
  · have hecho : (b.dispatch h h).2 = { b with pending := p } := congrArg Prod.snd (happ echo)
    rw [happ failing, hecho]
  · obtain ⟨-, hhost, -⟩ := hlater steps (startsAnew_cons h _)
    rw [Bridge.core, hhost]
    decide +kernel

end BridgeStep

end Gateway
