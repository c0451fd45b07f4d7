import Gateway.Proofs.Environment.Step

/-!
# The life of an environment

Which environments wait after a run, and what they hold, is told by the history of the run alone. An
environment waits under a handle if some step started one and nothing has started or ended one there
since (`OpenSince`); it holds what was added in between. A dispatch takes it away, whatever comes of
the request, and so no environment is handed out twice (`lifetime_of_environments`).

The induction is over runs that grow at the end: one more step starts the environment of a handle,
ends it, or goes on with it.
-/

namespace Gateway.LifetimeStep

/-! ### Histories -/

/-- Steps whose last `new h` comes after `before`; the steps `after` it neither start nor end an
environment under `h`. -/
structure OpenSince (steps : List LifetimeStep) (h : Handle) (before after : List LifetimeStep) :
    Prop where
  split : steps = before ++ .new h :: after
  /-- It has been left there since. -/
  untouched : ∀ s ∈ after, s ≠ .new h ∧ s.ends h = false

/-- Whether an environment waits under a handle after steps. -/
def Waiting (steps : List LifetimeStep) (h : Handle) : Prop :=
  ∃ before after, OpenSince steps h before after

/-- Whether a step dispatches the request `r` with the environment of `e`. -/
def Dispatches (s : LifetimeStep) (e r : Handle) : Prop :=
  s = .dispatch e r ∨ s = .request e r

variable {steps before after : List LifetimeStep} {h : Handle}

/-- An environment goes on waiting over a step that neither starts nor ends it. -/
theorem OpenSince.concat (hopen : OpenSince steps h before after) {s : LifetimeStep}
    (hs : s ≠ .new h ∧ s.ends h = false) : OpenSince (steps ++ [s]) h before (after ++ [s]) := by
  obtain ⟨rfl, huntouched⟩ := hopen
  refine ⟨by simp, ?_⟩
  intro s' hs'
  rcases List.mem_append.mp hs' with hs' | hs'
  · exact huntouched s' hs'
  · rw [List.mem_singleton.mp hs']
    exact hs

theorem foldl_follow_untouched (hafter : ∀ s ∈ after, s ≠ .new h ∧ s.ends h = false)
    (l : List (Bytes × Bytes)) :
    after.foldl (follow h) (some (Environment.ofRawList l)) =
      some (Environment.ofRawList (l ++ after.filterMap (addition? h))) := by
  -- `l` is what was added so far
  induction after generalizing l with
  | nil => rw [List.filterMap_nil, List.append_nil, List.foldl_nil]
  | cons s after ih =>
    obtain ⟨hnew, hends⟩ := hafter s List.mem_cons_self
    have ih := ih fun s' hs' => hafter s' (List.mem_cons_of_mem _ hs')
    rw [List.foldl_cons, List.filterMap_cons, follow, if_neg hnew, hends]
    cases s.addition? h with
    | none => exact ih l
    | some p =>
      have hstep := ih (l ++ [p])
      rw [Environment.ofRawList_concat, List.append_assoc] at hstep
      exact hstep

/-- What follows of the steps of a history in which an environment waits. -/
theorem OpenSince.foldl_follow (hopen : OpenSince steps h before after) :
    steps.foldl (follow h) none =
      some (Environment.ofRawList (after.filterMap (addition? h))) := by
  obtain ⟨rfl, huntouched⟩ := hopen
  rw [List.foldl_append, List.foldl_cons]
  have hnew : follow h (before.foldl (follow h) none) (.new h) =
      some (Environment.ofRawList []) := if_pos rfl
  rw [hnew]
  exact foldl_follow_untouched huntouched []

/-- An environment that follows of steps waits in their history. -/
theorem waiting_of_foldl_follow {vars : Environment} (hvars : steps.foldl (follow h) none = some vars) :
    Waiting steps h := by
  induction steps using List.reverseRecOn generalizing vars with
  | nil => cases hvars
  | append_singleton steps s ih =>
    rw [List.foldl_append, List.foldl_cons, List.foldl_nil, follow] at hvars
    by_cases hnew : s = .new h
    · -- the last step starts it
      exact ⟨steps, [], by rw [hnew], fun s hs => absurd hs List.not_mem_nil⟩
    · rw [if_neg hnew] at hvars
      cases hends : s.ends h with
      | true =>
        rw [hends] at hvars
        cases hvars
      | false =>
        -- it was there before, and the last step goes on with it
        rw [hends] at hvars
        obtain ⟨vars', hvars'⟩ : ∃ vars', steps.foldl (follow h) none = some vars' := by
          cases hadd : s.addition? h with
          | none =>
            rw [hadd] at hvars
            exact ⟨vars, hvars⟩
          | some p =>
            rw [hadd] at hvars
            obtain ⟨vars', hvars', -⟩ := Option.map_eq_some_iff.mp hvars
            exact ⟨vars', hvars'⟩
        obtain ⟨before, after, hopen⟩ := ih hvars'
        exact ⟨before, after ++ [s], hopen.concat ⟨hnew, hends⟩⟩

/-- After steps there is an environment under a handle exactly when one waits in their history. -/
theorem isSome_foldl_follow (steps : List LifetimeStep) (h : Handle) :
    (steps.foldl (follow h) none).isSome ↔ Waiting steps h := by
  constructor
  · intro hsome
    obtain ⟨vars, hvars⟩ := Option.isSome_iff_exists.mp hsome
    exact waiting_of_foldl_follow hvars
  · rintro ⟨before, after, hopen⟩
    rw [hopen.foldl_follow]
    rfl

/-- An environment that a step has ended is not the one that waits later on. -/
theorem OpenSince.before_ne {earlier later before' after' : List LifetimeStep} {s : LifetimeStep}
    {h' : Handle} (hopen : OpenSince earlier h before after) (hs : s.ends h = true)
    (hopen' : OpenSince (earlier ++ s :: later) h' before' after') : before ≠ before' := by
  -- with the same start, `s` would come after the start of the environment that waits
  rintro rfl
  have hsplit := hopen'.split
  rw [hopen.split, List.append_assoc, List.append_cancel_left_eq, List.cons_append,
    List.cons.injEq] at hsplit
  obtain ⟨hh, hafter⟩ := hsplit
  injection hh with hh
  have hmem : s ∈ after' := by
    rw [← hafter]
    exact List.mem_append_right _ List.mem_cons_self
  have huntouched := (hopen'.untouched s hmem).2
  rw [← hh, hs] at huntouched
  cases huntouched

/-! ### Runs -/

/-- The environment that a dispatch hands out holds what was added since it was started. -/
theorem OpenSince.dispatch (hopen : OpenSince steps h before after) {b : Bridge}
    (hb : b.pending.get? h = steps.foldl (follow h) none) (r : Handle) :
    ∃ vars, (∀ n, vars.get? n = Environment.lastValue? (after.filterMap (addition? h)) n) ∧
      (b.dispatch h r =
        match Request.ofEnvironment vars with
        | .error u => (u.panic?, { b with pending := (b.pending.take h).2 })
        | .ok req => ({ b with pending := (b.pending.take h).2 } : Bridge).answer r req) ∧
      ∀ req, Request.ofEnvironment vars = .ok req → req.environment = vars := by
  rw [hopen.foldl_follow] at hb
  refine ⟨_, ?_, dispatch_of_waiting hb r, ?_⟩
  · intro n
    exact Environment.get?_ofRawList _ n
  · intro req hreq
    exact environment_of_ofEnvironment hreq

/-- The life of environments, over every run of a server whose bridge starts without any. After the
steps of the run an environment waits under a handle exactly when its latest start comes after its
latest end, and there are as many as there are such handles. Adding and dropping succeed for these
handles and no others. A dispatch takes the environment of its handle away and no other, through the
plugin or not, even if its handler panics. If there is none, no request is served; otherwise the
request that the handler gets, if one can be read, has an environment which holds exactly what was
added since the latest start, the last value of each name. And an environment that some dispatch took
away was started by another step than those which wait. -/
theorem lifetime_of_environments {t : Server} {b : Bridge} (hb : t.plugin.bridge = some b)
    (hfresh : b.pending = Pending.empty) (steps : List LifetimeStep) :
    ∃ b', (runAll steps t).plugin.bridge = some b' ∧
      (∀ h, (b'.pending.get? h).isSome ↔ Waiting steps h) ∧
      (runAll steps t).pending? = some {h | Waiting steps h}.ncard ∧
      (∀ h name value, ∃ stored, ((add h name value).run (runAll steps t)).1 = .flag stored ∧
        (stored = true ↔ Waiting steps h)) ∧
      (∀ h, ∃ dropped, ((release h).run (runAll steps t)).1 = .flag dropped ∧
        (dropped = true ↔ Waiting steps h)) ∧
      (∀ s e r, Dispatches s e r →
        (s.run (runAll steps t)).2.plugin.bridge = some (b'.dispatch e r).2 ∧
        (b'.dispatch e r).2.pending.get? e = none ∧
        ∀ h, h ≠ e → (b'.dispatch e r).2.pending.get? h = b'.pending.get? h) ∧
      (∀ e r, ¬ Waiting steps e → b'.dispatch e r = (none, b')) ∧
      (∀ e r before after, OpenSince steps e before after →
        ∃ vars, (∀ n, vars.get? n = Environment.lastValue? (after.filterMap (addition? e)) n) ∧
          (b'.dispatch e r =
            match Request.ofEnvironment vars with
            | .error u => (u.panic?, { b' with pending := (b'.pending.take e).2 })
            | .ok req => ({ b' with pending := (b'.pending.take e).2 } : Bridge).answer r req) ∧
          ∀ req, Request.ofEnvironment vars = .ok req → req.environment = vars) ∧
      ∀ earlier s later e r, steps = earlier ++ s :: later → Dispatches s e r →
        ∀ before after h before' after', OpenSince earlier e before after →
          OpenSince steps h before' after' → before ≠ before' := by
  have hrun := bridge_runAll steps hb
  -- what each handle has is what `follow` makes of the steps
  have hget : ∀ h, (steps.foldl (fun b s => s.onBridge b) b).pending.get? h =
      steps.foldl (follow h) none := by
    intro h
    rw [get?_foldl_onBridge, hfresh]
    rfl
  generalize steps.foldl (fun b s => s.onBridge b) b = b' at hrun hget
  have hwaiting : ∀ h, (b'.pending.get? h).isSome ↔ Waiting steps h := by
    intro h
    rw [hget]
    exact isSome_foldl_follow steps h
  refine ⟨b', hrun, hwaiting, ?_, ?_, ?_, ?_, ?_, ?_, ?_⟩
  · have hset : {h | Waiting steps h} = {h | (b'.pending.get? h).isSome} :=
      Set.ext fun h => (hwaiting h).symm
    rw [Server.pending?, hrun, Option.map_some, hset, Pending.size_eq_ncard]
  · intro h name value
    refine ⟨(b'.pending.get? h).isSome, ?_, hwaiting h⟩
    rw [run, toServerStep, ServerStep.run, hrun, ← Pending.add_fst b'.pending h name value]
    rfl
  · intro h
    refine ⟨(b'.pending.get? h).isSome, ?_, hwaiting h⟩
    rw [run, toServerStep, ServerStep.run, hrun, ← Pending.discard_fst b'.pending h]
    rfl
  · intro s e r hs
    refine ⟨?_, ?_, ?_⟩
    · rcases hs with rfl | rfl
      · exact bridge_run (.dispatch e r) hrun
      · exact bridge_run (.request e r) hrun
    · rw [get?_dispatch, if_pos rfl]
    · intro h hne
      rw [get?_dispatch, if_neg hne]
  · intro e r hnot
    have hnone : b'.pending.get? e = none := by
      rw [← Option.not_isSome_iff_eq_none, hwaiting]
      exact hnot
    exact dispatch_of_missing hnone r
  · intro e r before after hopen
    exact hopen.dispatch (hget e) r
  · rintro earlier s later e r rfl hs before after h before' after' hopen hopen'
    have hends : s.ends e = true := by
      rcases hs with rfl | rfl <;> exact decide_eq_true rfl
    exact hopen.before_ne hends hopen'

/-- An environment that was started twice waits, and one that was dispatched does not. -/
theorem lifetime_of_restarted :
    let one : Handle := ⟨1, by decide⟩
    let two : Handle := ⟨2, by decide⟩
    let bridge : Bridge :=
      { app := Application.empty, settings := {}, defaultContentType := [], host := { core := {} } }
    let steps : List LifetimeStep :=
      [.new one, .add one [65] [66], .new two, .request two one, .new one, .add one [67] [68]]
    ∃ b', (runAll steps { plugin := { bridge := some bridge } }).plugin.bridge = some b' ∧
      (b'.pending.get? one).isSome ∧ b'.dispatch two one = (none, b') := by
  intro one two bridge steps
  obtain ⟨b', hrun, hwaiting, -, -, -, -, hmissing, -, -⟩ :=
    lifetime_of_environments (t := { plugin := { bridge := some bridge } }) rfl rfl steps
  refine ⟨b', hrun, ?_, hmissing two one ?_⟩
  · rw [hwaiting, ← isSome_foldl_follow]
    decide +kernel
  · rw [← isSome_foldl_follow]
    decide +kernel

end Gateway.LifetimeStep
