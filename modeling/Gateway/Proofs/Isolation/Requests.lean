import Gateway.Proofs.Bridge
import Gateway.Proofs.Isolation.Turn

/-!
# Requests that do not interfere

Requests that are served side by side, their steps interleaved in any way, by an application that
uses nothing but the writer and the request it is given. What a request gets to see, and what is
held of it in the end, is as if its own steps had been the only ones (`runAll_filter`).

The proof runs both at once, all steps on one bridge and those of one request on another. The two
bridges hold the same of this request throughout (`Bridge.Alike`): every step is about one request
(`Bridge.Local`), so one of this request does the same on both bridges, and one of another request
leaves the first bridge as it was, seen from this one.
-/

namespace Gateway

open Gateway.Core (Frame Unplanned)

/-- Whether an application answers requests by what is about each of them only. -/
def Application.IsPrivate (app : Application) : Prop :=
  ∀ r, Program.AsksOnly TurnCall.IsPrivate (app.serve r)

namespace Bridge

/-! ### What is done with a bridge for one request -/

/-- Two bridges that serve the same application and hold the same of a request. -/
structure Alike (h : Handle) (b d : Bridge) : Prop where
  app_eq : b.app = d.app
  contentType_eq : b.defaultContentType = d.defaultContentType
  core : Core.Alike h b.core d.core
  pending_eq : b.pending.get? h = d.pending.get? h

/-- Whether what is done with a bridge is about one request only, as long as its application keeps
to requests. -/
structure Local {α : Type} (h : Handle) (act : Bridge → α × Bridge) : Prop where
  app_eq : ∀ b, (act b).2.app = b.app
  contentType_eq : ∀ b, (act b).2.defaultContentType = b.defaultContentType
  frame : ∀ {b}, b.core.Unplanned → b.app.IsPrivate → Frame h b.core (act b).2.core
  /-- The environments of other requests are the same. -/
  others : ∀ b {j}, j ≠ h → (act b).2.pending.get? j = b.pending.get? j
  same : ∀ {b d}, Alike h b d → b.app.IsPrivate → (act b).1 = (act d).1 ∧
    (act b).2.core.exchanges.get? h = (act d).2.core.exchanges.get? h ∧
    (act b).2.pending.get? h = (act d).2.pending.get? h

variable {α : Type} {h j : Handle} {b d : Bridge} {act : Bridge → α × Bridge}

theorem Alike.refl (h : Handle) (hb : b.core.Unplanned) : Alike h b b :=
  ⟨rfl, rfl, ⟨hb, hb, rfl⟩, rfl⟩

theorem Local.alike (hact : Local h act) (hbd : Alike h b d) (happ : b.app.IsPrivate) :
    (act b).1 = (act d).1 ∧ Alike h (act b).2 (act d).2 := by
  obtain ⟨hresult, hcore, hpending⟩ := hact.same hbd happ
  have hb := hact.frame hbd.core.unplanned_left happ
  have hd := hact.frame hbd.core.unplanned_right (hbd.app_eq ▸ happ)
  refine ⟨hresult, ?_, ?_, ⟨?_, ?_, hcore⟩, hpending⟩
  · rw [hact.app_eq, hact.app_eq, hbd.app_eq]
  · rw [hact.contentType_eq, hact.contentType_eq, hbd.contentType_eq]
  · exact hbd.core.unplanned_left.frame hb
  · exact hbd.core.unplanned_right.frame hd

/-- What is done for another request does not show. -/
theorem Local.alike_other (hact : Local h act) (hj : j ≠ h) (hbd : Alike j b d)
    (happ : b.app.IsPrivate) : Alike j (act b).2 d where
  app_eq := (hact.app_eq b).trans hbd.app_eq
  contentType_eq := (hact.contentType_eq b).trans hbd.contentType_eq
  core := (hact.frame hbd.core.unplanned_left happ).alike hj hbd.core
  pending_eq := (hact.others b hj).trans hbd.pending_eq

/-! ### Environments and cores -/

/-- What is done with the environment of one request is about this request. -/
theorem local_pending {f : Pending → α × Pending}
    (hothers : ∀ p {j}, j ≠ h → (f p).2.get? j = p.get? j)
    (hsame : ∀ {p q}, p.get? h = q.get? h →
      (f p).1 = (f q).1 ∧ (f p).2.get? h = (f q).2.get? h) :
    Local h fun b => ((f b.pending).1, { b with pending := (f b.pending).2 }) where
  app_eq _ := rfl
  contentType_eq _ := rfl
  frame {b} _ _ := Frame.refl h b.core
  others b _ hj := hothers b.pending hj
  same hbd _ := ⟨(hsame hbd.pending_eq).1, hbd.core.get?_eq, (hsame hbd.pending_eq).2⟩

theorem local_envNew (h : Handle) : Local h fun b => (Answer.number h.token, b.envNew h) := by
  refine local_pending (f := fun p => (Answer.number h.token, p.create h)) ?_ ?_
  · intro p j hj
    exact (p.get?_create h j).trans (if_neg hj)
  · intro p q _
    refine ⟨rfl, ?_⟩
    rw [Pending.get?_create, Pending.get?_create, if_pos rfl, if_pos rfl]

theorem local_envAdd (h : Handle) (name value : Bytes) :
    Local h fun b => b.envAdd h name value := by
  refine local_pending (f := fun p => p.add h name value) ?_ ?_
  · intro p j hj
    exact (p.get?_add h j name value).trans (if_neg hj)
  · intro p q hpq
    rw [Pending.add_fst, Pending.add_fst, Pending.get?_add, Pending.get?_add, hpq]
    exact ⟨rfl, rfl⟩

theorem local_envRelease (h : Handle) : Local h fun b => b.envRelease h := by
  refine local_pending (f := fun p => p.discard h) ?_ ?_
  · intro p j hj
    exact (p.get?_discard h j).trans (if_neg hj)
  · intro p q hpq
    rw [Pending.discard_fst, Pending.discard_fst, Pending.get?_discard, Pending.get?_discard, hpq]
    exact ⟨rfl, rfl⟩

theorem local_withCore {f : Core → α × Core} (hf : Core.Local h f) :
    Local h fun b => ((f b.core).1, b.withCore (f b.core).2) where
  app_eq _ := rfl
  contentType_eq _ := rfl
  frame hb _ := hf.frame hb
  others _ _ _ := rfl
  same hbd _ := ⟨(hf.same hbd.core).1, (hf.same hbd.core).2, hbd.pending_eq⟩

theorem local_steer (h : Handle) (f : Exchange → Exchange) :
    Local h fun b => (Answer.nothing, b.withCore (b.core.steer h f)) :=
  local_withCore ((Core.local_steer h f).map fun _ => Answer.nothing)

theorem Local.map {β : Type} (hact : Local h act) (f : α → β) :
    Local h fun b => (f (act b).1, (act b).2) where
  app_eq := hact.app_eq
  contentType_eq := hact.contentType_eq
  frame := hact.frame
  others := hact.others
  same hbd happ := by
    obtain ⟨hresult, hheld⟩ := hact.same hbd happ
    exact ⟨congrArg f hresult, hheld⟩

/-! ### Dispatching -/

theorem Alike.turn (hbd : Alike h b d) (r : Request) :
    Turn.Alike h (b.turn h r) (d.turn h r) where
  writer_eq := by rw [Bridge.turn, Bridge.turn, hbd.contentType_eq]
  handle_eq := rfl
  body_left := rfl
  body_right := rfl
  core := hbd.core

theorem local_answer (h : Handle) (r : Request) : Local h fun b => b.answer h r where
  app_eq _ := rfl
  contentType_eq _ := rfl
  frame hb happ := ((Alike.refl h hb).turn r).frame_run (happ r)
  others _ _ _ := rfl
  same {b d} hbd happ := by
    obtain ⟨houtcome, hturn⟩ := (hbd.turn r).run (happ r)
    rw [answer, answer, ← hbd.app_eq]
    exact ⟨congrArg Outcome.panic? houtcome, hturn.core.get?_eq, hbd.pending_eq⟩

theorem Alike.taken (hbd : Alike h b d) : Alike h (b.taken h) (d.taken h) where
  app_eq := hbd.app_eq
  contentType_eq := hbd.contentType_eq
  core := hbd.core
  pending_eq := by
    rw [Bridge.taken, Bridge.taken, Pending.get?_take, Pending.get?_take, if_pos rfl, if_pos rfl]

/-- Dispatching a request with its own environment is about this request. -/
theorem local_dispatch (h : Handle) : Local h fun b => b.dispatch h h where
  app_eq b := app_dispatch b h h
  contentType_eq b := defaultContentType_dispatch b h h
  frame {b} hb happ :=
    dispatch_snd (P := fun d => Frame h b.core d.core) (Frame.refl h b.core) (Frame.refl h b.core)
      fun r => (local_answer h r).frame (b := b.taken h) hb happ
  others b _ hj := (LifetimeStep.get?_dispatch b h h _).trans (if_neg hj)
  same {b d} hbd happ := by
    -- the same environment waits for the request, so the same request is read from it
    cases hvars : b.pending.get? h with
    | none =>
      have hvars' : d.pending.get? h = none := hbd.pending_eq.symm.trans hvars
      rw [LifetimeStep.dispatch_of_missing hvars, LifetimeStep.dispatch_of_missing hvars']
      exact ⟨rfl, hbd.core.get?_eq, hbd.pending_eq⟩
    | some vars =>
      have hvars' : d.pending.get? h = some vars := hbd.pending_eq.symm.trans hvars
      rw [LifetimeStep.dispatch_of_waiting hvars, LifetimeStep.dispatch_of_waiting hvars']
      cases Request.ofEnvironment vars with
      | error e => exact ⟨rfl, hbd.core.get?_eq, hbd.taken.pending_eq⟩
      | ok r => exact (local_answer h r).same hbd.taken happ

end Bridge

/-! ### Steps -/

/-- A step that names one request. -/
inductive RequestStep where
  | envNew (h : Handle)
  | envAdd (h : Handle) (name value : Bytes)
  | envRelease (h : Handle)
  | pushBody (h : Handle) (chunk : Bytes)
  /-- Lets every read of the request fail. -/
  | failReads (h : Handle)
  /-- Lets every write of the request fail. -/
  | failWrites (h : Handle)
  /-- Dispatches the request with the environment that waits for it. -/
  | dispatch (h : Handle)

namespace RequestStep

/-- The request that a step names. -/
def handle : RequestStep → Handle
  | .envNew h | .envAdd h _ _ | .envRelease h | .pushBody h _ | .failReads h | .failWrites h
  | .dispatch h => h

def toBridgeStep : RequestStep → BridgeStep
  | .envNew h => .envNew h
  | .envAdd h name value => .envAdd h name value
  | .envRelease h => .envRelease h
  | .pushBody h chunk => .core (.pushBody h chunk)
  | .failReads h => .core (.failReads h)
  | .failWrites h => .core (.failWrites h)
  | .dispatch h => .dispatch h h

def run (s : RequestStep) (b : Bridge) : Answer × Bridge :=
  s.toBridgeStep.run b

/-- Runs steps one after the other: each with its answer, and the bridge after them. -/
def runAll : List RequestStep → Bridge → List (RequestStep × Answer) × Bridge
  | [], b => ([], b)
  | s :: steps, b => ((s, (s.run b).1) :: (runAll steps (s.run b).2).1, (runAll steps (s.run b).2).2)

variable {h : Handle} {b d : Bridge}

/-- Every step is about the request that it names. -/
theorem local_run (s : RequestStep) : Bridge.Local s.handle s.run := by
  cases s with
  | envNew h => exact Bridge.local_envNew h
  | envAdd h name value => exact (Bridge.local_envAdd h name value).map Answer.flag
  | envRelease h => exact (Bridge.local_envRelease h).map Answer.flag
  | pushBody h chunk => exact Bridge.local_steer h fun x => { x with input := x.input ++ [chunk] }
  | failReads h => exact Bridge.local_steer h fun x => { x with failReads := true }
  | failWrites h => exact Bridge.local_steer h fun x => { x with failWrites := true }
  | dispatch h => exact (Bridge.local_dispatch h).map Answer.ofEnding

/-! ### Runs -/

theorem runAll_alike (steps : List RequestStep) (hbd : Bridge.Alike h b d)
    (happ : b.app.IsPrivate) :
    ((runAll steps b).1.filter fun e => e.1.handle = h) =
        (runAll (steps.filter fun s => s.handle = h) d).1 ∧
      Bridge.Alike h (runAll steps b).2 (runAll (steps.filter fun s => s.handle = h) d).2 := by
  induction steps generalizing b d with
  | nil => exact ⟨rfl, hbd⟩
  | cons s steps ih =>
    have happ' : (s.run b).2.app.IsPrivate := by rwa [(local_run s).app_eq]
    by_cases hs : s.handle = h
    · subst hs
      obtain ⟨hanswer, hstep⟩ := (local_run s).alike hbd happ
      obtain ⟨hlog, hend⟩ := ih hstep happ'
      rw [runAll, List.filter_cons_of_pos (by simp), List.filter_cons_of_pos (by simp), runAll,
        hanswer, hlog]
      exact ⟨rfl, hend⟩
    · obtain ⟨hlog, hend⟩ := ih ((local_run s).alike_other (Ne.symm hs) hbd happ) happ'
      rw [runAll, List.filter_cons_of_neg (by simpa using hs),
        List.filter_cons_of_neg (by simpa using hs)]
      exact ⟨hlog, hend⟩

/-- Requests do not interfere: what the steps of one request answer, and what is held of the request
and waits for it in the end, is the same without the steps of all other requests. -/
theorem runAll_filter (hb : b.core.Unplanned) (happ : b.app.IsPrivate) (steps : List RequestStep)
    (h : Handle) :
    ((runAll steps b).1.filter fun e => e.1.handle = h) =
        (runAll (steps.filter fun s => s.handle = h) b).1 ∧
      (runAll steps b).2.core.exchanges.get? h =
        (runAll (steps.filter fun s => s.handle = h) b).2.core.exchanges.get? h ∧
      (runAll steps b).2.pending.get? h =
        (runAll (steps.filter fun s => s.handle = h) b).2.pending.get? h := by
  obtain ⟨hlog, hend⟩ := runAll_alike steps (Bridge.Alike.refl h hb) happ
  exact ⟨hlog, hend.core.get?_eq, hend.pending_eq⟩

/-- Two requests that are sent back what they bring, dispatched in the other order. -/
theorem wire_of_two_requests :
    let one : Handle := ⟨4096, by decide⟩
    let two : Handle := ⟨4112, by decide⟩
    let app : Application :=
      { serve := fun _ => .call .drain fun got => .call (.writeBody got.2) fun _ => .done () }
    let b : Bridge :=
      { app := app, settings := {}, defaultContentType := [116]
        host := { core := (Core.openRequest (Core.openRequest {}).2).2 } }
    let put (h : Handle) := envAdd h (Utf8.ofString "REQUEST_METHOD") (Utf8.ofString "PUT")
    let steps : List RequestStep :=
      [.envNew one, .envNew two, put one, put two, .pushBody one [97], .pushBody two [98],
        .failWrites two, .dispatch two, .dispatch one]
    app.IsPrivate ∧
      ((runAll steps b).2.core.exchanges.get? one).map Exchange.wire =
        some (HeaderBlock.render .http11 Status.ok
          (HeaderMap.empty.insert HeaderName.contentType [116]) ++ [97]) ∧
      (runAll steps b).2.pending.get? one = none := by
  intro one two app b put steps
  have happ : app.IsPrivate := fun _ => ⟨trivial, fun _ => ⟨trivial, fun _ => trivial⟩⟩
  obtain ⟨-, hexchange, hpending⟩ := runAll_filter (b := b) (fun _ => rfl) happ steps one
  refine ⟨happ, ?_, ?_⟩
  · rw [hexchange]
    decide +kernel
  · rw [hpending]
    decide +kernel

end RequestStep

end Gateway
