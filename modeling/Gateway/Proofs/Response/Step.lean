import Gateway.Proofs.Response.Sink
import Gateway.Proofs.Turn
import Gateway.Session.HandlerStep

/-!
# Steps on a response that goes to the core

A response is put together by its handler and may lose its connection at any time. Each step is
performed on a turn by the code that a handler has for it. `At` says where a response stands: what
its sink is, and what the core holds of its request. A lemma for each kind of step says where it
stands afterwards, and what was answered.
-/

namespace Gateway

open Gateway.Core (Frame)
open Sink (committed extended)

namespace Answer

/-- Whether an answer is no failure. -/
def succeeded : Answer → Bool
  | .failure _ => false
  | _ => true

end Answer

/-- What happens to a response. -/
inductive ResponseStep where
  | edit (f : HeaderMap → HeaderMap)
  | commit (s : Status)
  | write (b : Bytes)
  /-- Octets of the body are written in the manner of a stream. -/
  | stream (b : Bytes)
  /-- Everything is to be written by now. -/
  | flush
  /-- From now on the core refuses every write of the request. -/
  | disconnect

namespace ResponseStep

/-! ### Performing steps -/

def run (s : ResponseStep) (t : Turn Sink) : Answer × Turn Sink :=
  match s with
  | .edit f =>
    TurnStep.perform (do
      TurnProgram.modifyHeaders f
      return .nothing) t
  | .commit s =>
    TurnStep.perform (do
      return .ofFault (fun _ => .nothing) (← TurnProgram.writeHeader s)) t
  | .write b => TurnStep.run (.writer (.writeBody b)) t
  | .stream b => TurnStep.run (.writer (.writeStream b)) t
  | .flush => TurnStep.run (.writer .flush) t
  | .disconnect => TurnStep.run (.core (.failWrites t.writer.handle)) t

/-- Performs steps one after the other: each with its answer, and the turn at the end. -/
def runAll : List ResponseStep → Turn Sink → List (ResponseStep × Answer) × Turn Sink
  | [], t => ([], t)
  | s :: steps, t =>
    ((s, (s.run t).1) :: (runAll steps (s.run t).2).1, (runAll steps (s.run t).2).2)

/-! ### What steps amount to -/

/-- What a step does to the headers that will be committed. -/
def edits : ResponseStep → HeaderMap → HeaderMap
  | .edit f => f
  | _ => id

/-- The status that a step commits where nothing is committed yet. -/
def commits? : ResponseStep → Option Status
  | .commit s => some s
  | .write _ | .stream _ => some Status.ok
  | _ => none

/-- The octets that a step offers to the body. -/
def offered : ResponseStep → Bytes
  | .write b | .stream b => b
  | _ => []

/-- Whether a step cuts the connection. -/
def cuts : ResponseStep → Bool
  | .disconnect => true
  | _ => false

/-! ### The code of the steps -/

theorem run_commit (s : Status) (t : Turn Sink) :
    ((commit s).run t).1.succeeded = (t.writer.writeHeader s t.host.core).1.isOk ∧
      ((commit s).run t).2 = (t.wrote (t.writer.writeHeader s t.host.core)).2 := by
  refine ⟨?_, rfl⟩
  show (Answer.ofFault (fun _ => .nothing) (t.writer.writeHeader s t.host.core).1).succeeded = _
  cases (t.writer.writeHeader s t.host.core).1 <;> rfl

theorem run_write (b : Bytes) (t : Turn Sink) :
    ((write b).run t).1.succeeded = (t.writer.writeBody b t.host.core).1.isOk ∧
      ((write b).run t).2 = (t.wrote (t.writer.writeBody b t.host.core)).2 := by
  refine ⟨?_, rfl⟩
  show (Answer.ofFault (fun n => .number n) (t.writer.writeBody b t.host.core).1).succeeded = _
  cases (t.writer.writeBody b t.host.core).1 <;> rfl

theorem run_stream (b : Bytes) (t : Turn Sink) :
    ((stream b).run t).1.succeeded = (t.writer.writeBody b t.host.core).1.isOk ∧
      ((stream b).run t).2 = (t.wrote (t.writer.writeBody b t.host.core)).2 := by
  have hsink : ResponseWriter.writeBody b t.writer t.host.core = t.writer.writeBody b t.host.core :=
    rfl
  have hrun : (stream b).run t = TurnStep.perform (WriterStep.writeStream b).program t := rfl
  rw [hrun, TurnStep.perform, WriterStep.program, TurnProgram.run_bind,
    TurnProgram.run_writeStream, hsink]
  cases (t.writer.writeBody b t.host.core).1 <;> exact ⟨rfl, rfl⟩

/-! ### Where a response stands -/

/-- The response of a turn goes through the sink `k` to the exchange `x`. -/
structure At (t : Turn Sink) (k : Sink) (x : Exchange) : Prop where
  writer_eq : t.writer = k
  unplanned : t.host.core.Unplanned
  /-- The core knows the request. -/
  get?_eq : t.host.core.exchanges.get? k.handle = some x

variable {t : Turn Sink} {k : Sink} {x : Exchange}

theorem At.exchange_eq (ht : At t k x) : t.host.core.exchange k.handle = x :=
  Core.exchange_of_get? ht.get?_eq

theorem At.disconnect (ht : At t k x) :
    At (ResponseStep.disconnect.run t).2 k { x with failWrites := true } := by
  obtain ⟨rfl, hp, hx⟩ := ht
  refine ⟨rfl, ?_, Core.get?_steer_self hx _⟩
  exact hp.frame (Core.frame_steer t.host.core t.writer.handle fun x => { x with failWrites := true })

theorem At.edit (ht : At t k x) (f : HeaderMap → HeaderMap) :
    At ((ResponseStep.edit f).run t).2 { k with headers := f k.headers } x := by
  obtain ⟨rfl, hp, hx⟩ := ht
  exact ⟨rfl, hp, hx⟩

theorem At.flush (ht : At t k x) : At (ResponseStep.flush.run t).2 k x := ht

/-! ### Steps before anything is committed -/

/-- A step that does not commit leaves the response open, with the headers and the connection that
the step makes of them. -/
theorem At.quiet (ht : At t k x) (s : ResponseStep) (hs : s.commits? = none) :
    At (s.run t).2 { k with headers := s.edits k.headers }
      { x with failWrites := x.failWrites || s.cuts } := by
  cases s with
  | edit f => simpa [edits, cuts] using ht.edit f
  | commit s => cases hs
  | write b => cases hs
  | stream b => cases hs
  | flush => simpa [edits, cuts] using ht.flush
  | disconnect => simpa [edits, cuts] using ht.disconnect

/-- The head is on the wire unless writes are refused, and then what else is offered. -/
theorem At.write_open (ht : At t k x) (hopen : k.status = none) (hf : k.failed = false) (b : Bytes) :
    (t.writer.writeBody b t.host.core).1.isOk = !x.failWrites ∧
    At (t.wrote (t.writer.writeBody b t.host.core)).2 (k.afterCommit Status.ok x.failWrites)
      (let y := committed x k.version Status.ok
        (Sink.withContentType k.defaultContentType k.headers)
      if x.failWrites then y else extended y b) := by
  obtain ⟨rfl, hp, hx⟩ := ht
  obtain ⟨d, hwrite, hdx, hd⟩ := Sink.writeBody_of_open hp hx hopen hf b
  rw [hwrite]
  refine ⟨?_, rfl, hp.frame hd, hdx⟩
  cases x.failWrites <;> rfl

/-- The first step that commits succeeds unless writes are refused. It puts the head on the wire, and
then what it offers. -/
theorem At.commits (ht : At t k x) (hopen : k.status = none) (hf : k.failed = false)
    (s : ResponseStep) {status : Status} (hs : s.commits? = some status) :
    (s.run t).1.succeeded = !x.failWrites ∧
    At (s.run t).2 (k.afterCommit status x.failWrites)
      (let y := committed x k.version status (Sink.withContentType k.defaultContentType k.headers)
      if x.failWrites then y else extended y s.offered) := by
  cases s with
  | edit f => cases hs
  | flush => cases hs
  | disconnect => cases hs
  | commit status =>
    cases hs
    obtain ⟨rfl, hp, hx⟩ := ht
    obtain ⟨hanswer, hturn⟩ := run_commit status t
    obtain ⟨d, hcommit, hdx, hd⟩ := Sink.commit_of_get? hp hx status
    rw [hanswer, hturn, Sink.writeHeader_of_open hopen hf, hcommit]
    refine ⟨?_, rfl, hp.frame hd, ?_⟩
    · cases x.failWrites <;> rfl
    · show d.exchanges.get? t.writer.handle = _
      simpa [offered, extended] using hdx
  | write b =>
    cases hs
    obtain ⟨hanswer, hturn⟩ := run_write b t
    rw [hanswer, hturn]
    exact ht.write_open hopen hf b
  | stream b =>
    cases hs
    obtain ⟨hanswer, hturn⟩ := run_stream b t
    rw [hanswer, hturn]
    exact ht.write_open hopen hf b

/-! ### Steps after the head is out -/

theorem At.write_live (ht : At t k x) (hs : k.status.isSome) (hf : k.failed = false)
    (hw : x.failWrites = false) (b : Bytes) :
    (t.writer.writeBody b t.host.core).1.isOk = true ∧
    At (t.wrote (t.writer.writeBody b t.host.core)).2 k (extended x b) := by
  obtain ⟨rfl, hp, hx⟩ := ht
  obtain ⟨d, hsend, hdx, hd⟩ := Sink.send_of_get? hp hx hf hw b
  rw [Sink.writeBody_of_committed hs, hsend]
  exact ⟨rfl, rfl, hp.frame hd, hdx⟩

/-- A response that is committed and has not failed. -/
def Live (k : Sink) : Prop :=
  k.status.isSome ∧ k.failed = false

/-- While writes are taken, every step succeeds, and what it offers is the next on the wire. -/
theorem At.live (ht : At t k x) (hl : Live k) (hw : x.failWrites = false) (s : ResponseStep) :
    (s.run t).1.succeeded = true ∧
    ∃ k' x', At (s.run t).2 k' x' ∧ Live k' ∧ k'.handle = k.handle ∧
      x'.wire = x.wire ++ s.offered ∧ x'.headerWrites = x.headerWrites ∧
      x'.failWrites = s.cuts := by
  have hnone : x.wire = x.wire ++ [] := (List.append_nil x.wire).symm
  cases s with
  | edit f => exact ⟨rfl, _, x, ht.edit f, hl, rfl, hnone, rfl, hw⟩
  | flush => exact ⟨rfl, k, x, ht.flush, hl, rfl, hnone, rfl, hw⟩
  | disconnect => exact ⟨rfl, k, _, ht.disconnect, hl, rfl, hnone, rfl, rfl⟩
  | commit status =>
    obtain ⟨hanswer, hturn⟩ := run_commit status t
    obtain ⟨rfl, hp, hx⟩ := ht
    rw [hanswer, hturn, Sink.writeHeader_of_committed hl.1 hl.2]
    exact ⟨rfl, t.writer, x, ⟨rfl, hp, hx⟩, hl, rfl, hnone, rfl, hw⟩
  | write b =>
    obtain ⟨hanswer, hturn⟩ := run_write b t
    obtain ⟨hok, hat⟩ := ht.write_live hl.1 hl.2 hw b
    rw [hanswer, hturn]
    exact ⟨hok, k, extended x b, hat, hl, rfl, Sink.wire_extended x b,
      Sink.headerWrites_extended x b, (Sink.failWrites_extended x b).trans hw⟩
  | stream b =>
    obtain ⟨hanswer, hturn⟩ := run_stream b t
    obtain ⟨hok, hat⟩ := ht.write_live hl.1 hl.2 hw b
    rw [hanswer, hturn]
    exact ⟨hok, k, extended x b, hat, hl, rfl, Sink.wire_extended x b,
      Sink.headerWrites_extended x b, (Sink.failWrites_extended x b).trans hw⟩

/-! ### Steps after the connection is lost -/

/-- A response that is committed and whose writes are refused, whether or not it has noticed. -/
def Lost (k : Sink) (x : Exchange) : Prop :=
  k.status.isSome ∧ (k.failed = true ∨ x.failWrites = true)

theorem At.write_lost (ht : At t k x) (hl : Lost k x) (b : Bytes) :
    (b = [] ∨ (t.writer.writeBody b t.host.core).1.isOk = false) ∧
    ∃ k', At (t.wrote (t.writer.writeBody b t.host.core)).2 k' x ∧ Lost k' x ∧
      k'.handle = k.handle := by
  obtain ⟨rfl, hp, hx⟩ := ht
  obtain ⟨hs, hl'⟩ := hl
  cases hf : t.writer.failed with
  | true =>
    rw [Sink.writeBody_of_failed hs hf]
    exact ⟨Or.inr rfl, t.writer, ⟨rfl, hp, hx⟩, ⟨hs, Or.inl hf⟩, rfl⟩
  | false =>
    have hw : x.failWrites = true := by
      rcases hl' with h | h
      · rw [hf] at h
        cases h
      · exact h
    rw [Sink.writeBody_of_committed hs, Sink.send_of_refused hp hx hf hw]
    by_cases hb : b = []
    · rw [if_pos hb]
      exact ⟨Or.inl hb, t.writer, ⟨rfl, hp, hx⟩, ⟨hs, Or.inr hw⟩, rfl⟩
    · rw [if_neg hb]
      exact ⟨Or.inr rfl, { t.writer with failed := true }, ⟨rfl, hp, hx⟩, ⟨hs, Or.inl rfl⟩, rfl⟩

/-- A lost response stays lost, and nothing changes on its wire. -/
theorem At.lost (ht : At t k x) (hl : Lost k x) (s : ResponseStep) :
    (s.offered = [] ∨ (s.run t).1.succeeded = false) ∧
    ∃ k' x', At (s.run t).2 k' x' ∧ Lost k' x' ∧ k'.handle = k.handle ∧ x'.wire = x.wire ∧
      x'.headerWrites = x.headerWrites := by
  cases s with
  | edit f => exact ⟨Or.inl rfl, _, x, ht.edit f, hl, rfl, rfl, rfl⟩
  | flush => exact ⟨Or.inl rfl, k, x, ht.flush, hl, rfl, rfl, rfl⟩
  | disconnect => exact ⟨Or.inl rfl, k, _, ht.disconnect, ⟨hl.1, Or.inr rfl⟩, rfl, rfl, rfl⟩
  | commit status =>
    refine ⟨Or.inl rfl, k, x, ?_, hl, rfl, rfl, rfl⟩
    rw [(run_commit status t).2]
    obtain ⟨rfl, hp, hx⟩ := ht
    cases hf : t.writer.failed with
    | true =>
      rw [Sink.writeHeader_of_failed hf]
      exact ⟨rfl, hp, hx⟩
    | false =>
      rw [Sink.writeHeader_of_committed hl.1 hf]
      exact ⟨rfl, hp, hx⟩
  | write b =>
    obtain ⟨hanswer, hturn⟩ := run_write b t
    obtain ⟨hrefused, k', hat, hl', hk⟩ := ht.write_lost hl b
    rw [hanswer, hturn]
    exact ⟨hrefused, k', x, hat, hl', hk, rfl, rfl⟩
  | stream b =>
    obtain ⟨hanswer, hturn⟩ := run_stream b t
    obtain ⟨hrefused, k', hat, hl', hk⟩ := ht.write_lost hl b
    rw [hanswer, hturn]
    exact ⟨hrefused, k', x, hat, hl', hk, rfl, rfl⟩

end ResponseStep

end Gateway
