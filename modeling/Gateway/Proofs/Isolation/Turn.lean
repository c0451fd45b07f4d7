import Gateway.Proofs.Core.Local
import Gateway.Proofs.Program
import Gateway.Proofs.Response.Sink
import Gateway.Turn

/-!
# Turns that stay with their request

A handler that uses nothing but its writer and the body of its request cannot tell two turns apart
whose cores hold the same of the request (`Turn.Alike`), and leaves them so. What the cores hold of
other requests does not matter to it, and is not touched.
-/

namespace Gateway

open Gateway.Core (Local Frame Unplanned)

namespace Core

variable {α β σ τ : Type} {h : Handle}

/-- The new state of what a call goes through counts as part of its result. -/
def through (act : Core → α × σ × Core) (c : Core) : (α × σ) × Core :=
  (((act c).1, (act c).2.1), (act c).2.2)

/-- One call and then another that depends on its result and goes on with the new state. -/
theorem Local.throughBind {act : Core → α × σ × Core} (hact : Local h (through act))
    (next : α → σ → Core → β × τ × Core)
    (hnext : ∀ c, Local h (through (next (act c).1 (act c).2.1))) :
    Local h (through fun c => next (act c).1 (act c).2.1 (act c).2.2) :=
  hact.bind (fun r => through (next r.1 r.2)) hnext

end Core

/-! ### Sinks -/

namespace Sink

theorem local_announce (h : Handle) (n : Nat) : Local h fun c => ((), announce h n c) := by
  induction n with
  | zero => exact Core.local_pure h ()
  | succ n ih => exact ih.after (Core.local_update h _)

variable (k : Sink)

theorem local_commit (s : Status) : Local k.handle (Core.through (k.commit s)) := by
  have hblock := ((Core.local_writeHeaderBlock k.handle
    (HeaderBlock.render k.version s (withContentType k.defaultContentType k.headers))).after
      (local_announce k.handle (withContentType k.defaultContentType k.headers).size)).after
        (Core.local_update k.handle fun x => { x with status := some s.code })
  -- the code of the block decides between the two results, and nothing more is done with the core
  refine (hblock.map fun code =>
    if code < 0 then (.error (.writeFailed code), k.afterCommit s true)
    else (.ok (), k.afterCommit s false)).congr fun c _ => ?_
  rw [Core.through, commit]
  dsimp only [Core.setStatus]
  split <;> simp [afterCommit]

theorem local_writeHeader (s : Status) : Local k.handle (Core.through (k.writeHeader s)) := by
  by_cases hf : k.failed = true
  · refine (Core.local_pure k.handle (.error .responseAborted, k)).congr fun c _ => ?_
    rw [Core.through, writeHeader_of_failed hf]
  rw [Bool.not_eq_true] at hf
  by_cases hs : k.status.isSome = true
  · refine (Core.local_pure k.handle (.ok (), k)).congr fun c _ => ?_
    rw [Core.through, writeHeader_of_committed hs hf]
  · refine (local_commit k s).congr fun c _ => ?_
    rw [Core.through, writeHeader_of_open (by simpa using hs) hf, Core.through]

theorem local_send (b : Bytes) : Local k.handle (Core.through (k.send b)) := by
  by_cases hf : k.failed = true
  · refine (Core.local_pure k.handle (.error .responseAborted, k)).congr fun c _ => ?_
    simp [Core.through, send, hf]
  by_cases hb : b = []
  · refine (Core.local_pure k.handle (.ok 0, k)).congr fun c _ => ?_
    simp [Core.through, send, hf, hb]
  refine ((Core.local_writeBodyChunk k.handle b).map fun code =>
    if code < 0 then (.error (.writeFailed code), { k with failed := true })
    else (.ok b.length, k)).congr fun c _ => ?_
  by_cases hcode : (c.writeBodyChunk k.handle b).1 < 0
  · simp [Core.through, send, hf, hb, hcode]
  · simp [Core.through, send, hf, hb, hcode]

@[simp]
theorem handle_writeHeader (s : Status) (c : Core) :
    (k.writeHeader s c).2.1.handle = k.handle := by
  rw [writeHeader]
  split
  · rfl
  · split
    · rfl
    · rw [commit]
      dsimp only
      split <;> rfl

@[simp]
theorem handle_send (b : Bytes) (c : Core) : (k.send b c).2.1.handle = k.handle := by
  rw [send]
  split
  · rfl
  · split
    · rfl
    · dsimp only
      split <;> rfl

/-- How writing goes on once there is a head: octets are sent unless it was refused. -/
def sendNext (b : Bytes) : Except Fault Unit → Sink → Core → Except Fault Nat × Sink × Core
  | .error e, k, c => (.error e, k, c)
  | .ok (), k, c => k.send b c

theorem writeBody_of_uncommitted (hs : ¬k.status.isSome = true) (b : Bytes) (c : Core) :
    k.writeBody b c =
      let r := k.writeHeader Status.ok c
      sendNext b r.1 r.2.1 r.2.2 := by
  rw [writeBody, if_neg hs]
  rcases k.writeHeader Status.ok c with ⟨_ | _, k', c'⟩
  · rfl
  · rfl

@[simp]
theorem handle_writeBody (b : Bytes) (c : Core) : (k.writeBody b c).2.1.handle = k.handle := by
  by_cases hs : k.status.isSome = true
  · rw [writeBody_of_committed hs, handle_send]
  · rw [writeBody_of_uncommitted k hs]
    dsimp only
    rcases (k.writeHeader Status.ok c).1 with e | _
    · exact handle_writeHeader k Status.ok c
    · exact (handle_send _ b _).trans (handle_writeHeader k Status.ok c)

theorem local_writeBody (b : Bytes) : Local k.handle (Core.through (k.writeBody b)) := by
  by_cases hs : k.status.isSome = true
  · refine (local_send k b).congr fun c _ => ?_
    rw [Core.through, writeBody_of_committed hs, Core.through]
  · refine ((local_writeHeader k Status.ok).throughBind (sendNext b) fun c => ?_).congr fun c _ => ?_
    · rcases (k.writeHeader Status.ok c).1 with e | _
      · exact Core.local_pure k.handle (Except.error e, _)
      · rw [← handle_writeHeader k Status.ok c]
        exact local_send _ b
    · rw [Core.through, writeBody_of_uncommitted k hs, Core.through]

end Sink

/-! ### Bodies -/

namespace Body

variable (h : Handle)

theorem local_read (n : Nat) : Local h (Core.through (read n (.queued h))) := by
  by_cases hn : n = 0
  · refine (Core.local_pure h (.ok [], .queued h)).congr fun c _ => ?_
    simp [Core.through, read, hn]
  · refine ((Core.local_readChunk h n).map fun got => match got with
      | .error _ => (.error .bodyEnded, .queued h)
      | .ok bytes => (.ok bytes, .queued h)).congr fun c _ => ?_
    rw [Core.through, read, if_neg hn]
    rcases c.readChunk h n with ⟨_ | _, c'⟩
    · rfl
    · rfl

/-- A queue stays the queue of its request. -/
theorem queued_read (n : Nat) (c : Core) : (read n (.queued h) c).2.1 = .queued h := by
  rw [read]
  split
  · rfl
  · rcases c.readChunk h n with ⟨_ | _, c'⟩
    · rfl
    · rfl

/-- How reading goes on after a read. -/
def drainNext (size : Nat → Nat) (fuel i : Nat) :
    Except StreamError Bytes → Body → Core → (Option StreamError × Bytes) × Body × Core
  | .error e, b, c => ((some e, []), b, c)
  | .ok got, b, c =>
    if got.isEmpty then ((none, []), b, c)
    else
      let r := drainFrom size fuel i b c
      ((r.1.1, got ++ r.1.2), r.2.1, r.2.2)

theorem drainFrom_succ (size : Nat → Nat) (fuel i : Nat) (b : Body) (c : Core) :
    drainFrom size (fuel + 1) i b c =
      let r := b.read (size i) c
      drainNext size fuel (i + 1) r.1 r.2.1 r.2.2 := by
  rw [drainFrom]
  rcases b.read (size i) c with ⟨_ | _, b', c'⟩
  · rfl
  · rfl

theorem queued_drainFrom (size : Nat → Nat) (fuel i : Nat) (c : Core) :
    (drainFrom size fuel i (.queued h) c).2.1 = .queued h := by
  induction fuel generalizing i c with
  | zero => rfl
  | succ fuel ih =>
    rw [drainFrom_succ]
    dsimp only
    rw [queued_read]
    rcases (read (size i) (.queued h) c).1 with e | got
    · rfl
    · rw [drainNext]
      split
      · rfl
      · exact ih (i + 1) _

theorem local_drainFrom (size : Nat → Nat) (fuel i : Nat) :
    Local h (Core.through (drainFrom size fuel i (.queued h))) := by
  induction fuel generalizing i with
  | zero => exact Core.local_pure h ((none, []), Body.queued h)
  | succ fuel ih =>
    refine ((local_read h (size i)).throughBind (drainNext size fuel (i + 1)) fun c => ?_).congr
      fun c _ => ?_
    · rw [queued_read]
      rcases (read (size i) (.queued h) c).1 with e | got
      · exact Core.local_pure h ((some e, []), Body.queued h)
      · by_cases hgot : got.isEmpty = true
        · refine (Core.local_pure h ((none, []), Body.queued h)).congr fun c _ => ?_
          rw [Core.through, drainNext, if_pos hgot]
        · refine ((ih (i + 1)).map fun r => ((r.1.1, got ++ r.1.2), r.2)).congr fun c _ => ?_
          rw [Core.through, drainNext, if_neg hgot, Core.through]
    · rw [Core.through, drainFrom_succ, Core.through]

/-- How often to read is seen from the queue, so it is the same wherever the queue is. -/
theorem local_drain : Local h (Core.through (Body.queued h).drain) where
  frame {c} hc := (local_drainFrom h (fun _ => probe) ((queued h).remaining c + 1) 0).frame hc
  same {c d} hcd := by
    have hfuel : (queued h).remaining c = (queued h).remaining d := by
      rw [remaining, remaining, Core.exchange, Core.exchange, hcd.get?_eq]
    have hsame := (local_drainFrom h (fun _ => probe) ((queued h).remaining c + 1) 0).same hcd
    rw [Core.through, Core.through, drain, drain, drainWith, drainWith, ← hfuel]
    exact hsame

theorem queued_drain (c : Core) : ((queued h).drain c).2.1 = .queued h :=
  queued_drainFrom h _ _ 0 c

end Body

/-! ### Turns -/

/-- Whether what a handler asks for is about its request only. Services are not; a note is taken by
whoever runs the handler, and no handler sees it. -/
def TurnCall.IsPrivate : TurnCall → Prop
  | .host (.note _) => True
  | .host _ => False
  | _ => True

namespace Turn

/-- Two turns of a request whose cores hold the same of it. -/
structure Alike (h : Handle) (t u : Turn Sink) : Prop where
  writer_eq : t.writer = u.writer
  handle_eq : t.writer.handle = h
  body_left : t.body = .queued h
  body_right : u.body = .queued h
  core : Core.Alike h t.host.core u.host.core

variable {h : Handle} {t u : Turn Sink}

/-- Writing to either turn gives the same and changes the same. -/
theorem Alike.wrote {α : Type} (htu : Alike h t u) {act : Core → α × Sink × Core}
    (hact : Local h (Core.through act)) (hhandle : ∀ c, (act c).2.1.handle = h) :
    (t.wrote (act t.host.core)).1 = (u.wrote (act u.host.core)).1 ∧
      Alike h (t.wrote (act t.host.core)).2 (u.wrote (act u.host.core)).2 := by
  obtain ⟨hresult, hcore⟩ := hact.alike htu.core
  obtain ⟨hanswer, hwriter⟩ := Prod.ext_iff.mp hresult
  exact ⟨hanswer, hwriter, hhandle t.host.core, htu.body_left, htu.body_right, hcore⟩

/-- Reading from either turn gives the same and changes the same. -/
theorem Alike.took {α : Type} (htu : Alike h t u) {act : Core → α × Body × Core}
    (hact : Local h (Core.through act)) (hbody : ∀ c, (act c).2.1 = .queued h) :
    (t.took (act t.host.core)).1 = (u.took (act u.host.core)).1 ∧
      Alike h (t.took (act t.host.core)).2 (u.took (act u.host.core)).2 := by
  obtain ⟨hresult, hcore⟩ := hact.alike htu.core
  exact ⟨(Prod.ext_iff.mp hresult).1, htu.writer_eq, htu.handle_eq, hbody t.host.core,
    hbody u.host.core, hcore⟩

/-- Nothing that a handler asks for about its request tells two such turns apart. -/
theorem Alike.act (htu : Alike h t u) (c : TurnCall) (hc : c.IsPrivate) :
    (t.act c).1 = (u.act c).1 ∧ Alike h (t.act c).2 (u.act c).2 := by
  have hall := htu
  obtain ⟨k, b, host⟩ := t
  obtain ⟨k', b', host'⟩ := u
  obtain ⟨hwriter, hhandle, hleft, hright, hcore⟩ := htu
  dsimp only at hwriter hhandle hleft hright hcore
  subst hwriter hleft hright hhandle
  cases c with
  | headers => exact ⟨rfl, hall⟩
  | setHeaders headers => exact ⟨rfl, rfl, rfl, rfl, rfl, hcore⟩
  | writeHeader s => exact hall.wrote (Sink.local_writeHeader k s) (Sink.handle_writeHeader k s)
  | writeBody b => exact hall.wrote (Sink.local_writeBody k b) (Sink.handle_writeBody k b)
  | isCommitted => exact ⟨rfl, hall⟩
  | read n => exact hall.took (Body.local_read _ n) (Body.queued_read _ n)
  | drain => exact hall.took (Body.local_drain _) (Body.queued_drain _)
  | host c =>
    cases c with
    | note n => exact ⟨rfl, rfl, rfl, rfl, rfl, hcore⟩
    | service s => exact hc.elim
    | isInstalled => exact hc.elim

/-- What a handler asks for changes nothing in the core but its request. -/
theorem Alike.frame_act (ht : Alike h t t) (c : TurnCall) (hc : c.IsPrivate) :
    Frame h t.host.core (t.act c).2.host.core := by
  obtain ⟨k, b, host⟩ := t
  obtain ⟨-, hhandle, hbody, -, hcore⟩ := ht
  dsimp only at hhandle hbody hcore
  subst hbody hhandle
  have hplan := hcore.unplanned_left
  cases c with
  | writeHeader s => exact (Sink.local_writeHeader k s).frame hplan
  | writeBody b => exact (Sink.local_writeBody k b).frame hplan
  | read n => exact (Body.local_read _ n).frame hplan
  | drain => exact (Body.local_drain _).frame hplan
  | headers => exact Frame.refl _ _
  | setHeaders headers => exact Frame.refl _ _
  | isCommitted => exact Frame.refl _ _
  | host c =>
    cases c with
    | note n => exact Frame.refl _ _
    | service s => exact hc.elim
    | isInstalled => exact hc.elim

/-! ### Runs of handlers -/

variable {α : Type} {p : TurnProgram α}

/-- Code that asks for nothing but what is about its request ends the same way in either turn. -/
theorem Alike.run (htu : Alike h t u) (hp : Program.AsksOnly TurnCall.IsPrivate p) :
    (p.run t).1 = (p.run u).1 ∧ Alike h (p.run t).2 (p.run u).2 :=
  Program.run_related (fun c hc _ _ hrelated => hrelated.act c hc) hp htu

/-- Such code changes nothing in the core but its request. -/
theorem Alike.frame_run (ht : Alike h t t) (hp : Program.AsksOnly TurnCall.IsPrivate p) :
    Frame h t.host.core (p.run t).2.host.core := by
  -- the turn stays one of this request, and what it changed so far adds up
  have hkept := Program.run_preserves
    (Q := fun u : Turn Sink => Alike h u u ∧ Frame h t.host.core u.host.core)
    (fun c hc _ hu => ⟨(hu.1.act c hc).2, hu.2.trans (hu.1.frame_act c hc)⟩) hp
    (s := t) ⟨ht, Frame.refl h _⟩
  exact hkept.2

end Turn

end Gateway
