import Gateway.Proofs.Response.Step

/-!
# Responses that fail

The core may refuse a write whenever it likes, with whatever code it likes: the block of the head,
the octets that commit the head, or octets long after it. `refusal?` says which code a step runs
into, from the state of the core alone. A response goes on until its first refusal, reports that
one with its code, and is over: it stays failed, every later write reports that the response was
aborted, and what the core holds of it no longer changes (`failure_is_final`).

Once a write was refused no step reaches the core any more (`run_of_failed`), and until then a step
succeeds exactly when nothing refuses it (`run_of_unfailed`). A run is one stretch of each.
-/

namespace Gateway

/-! ### The code of the next write -/

namespace Core

variable {c d : Core} {h : Handle} {p q : Primitive} {f : Exchange → Exchange}

/-- The code with which the core answers the next write of a request, whatever is written: the one
that is planned, or else 0 for a known request whose writes do not fail. -/
def writeCode (c : Core) (p : Primitive) (h : Handle) : Int :=
  match c.planned p with
  | code :: _ => code
  | [] => if (c.exchanges.get? h).map Exchange.failWrites = some false then 0 else -1

theorem writeCode_congr (hp : d.planned p = c.planned p)
    (hx : (d.exchanges.get? h).map Exchange.failWrites =
      (c.exchanges.get? h).map Exchange.failWrites) :
    d.writeCode p h = c.writeCode p h := by
  rw [writeCode, hp, hx, writeCode]

theorem asPlanned_write_fst (p : Primitive) (h : Handle) (f : Exchange → Exchange) (c : Core) :
    (asPlanned p (write h f) c).1 = c.writeCode p h := by
  rw [asPlanned, writeCode]
  cases c.planned p with
  | cons code codes =>
    dsimp only
    split <;> rfl
  | nil =>
    dsimp only [write]
    cases c.exchanges.get? h with
    | none => rfl
    | some x => cases hx : x.failWrites <;> simp [hx]

/-- A change of an exchange that does not concern its connection. -/
theorem map_failWrites_update (c : Core) (h : Handle)
    (hf : ∀ x, (f x).failWrites = x.failWrites) :
    ((c.update h f).exchanges.get? h).map Exchange.failWrites =
      (c.exchanges.get? h).map Exchange.failWrites := by
  rw [get?_update, if_pos rfl, Option.map_map]
  exact congrArg (fun g => (c.exchanges.get? h).map g) (funext hf)

theorem map_failWrites_write (c : Core) (h : Handle)
    (hf : ∀ x, (f x).failWrites = x.failWrites) :
    ((write h f c).2.exchanges.get? h).map Exchange.failWrites =
      (c.exchanges.get? h).map Exchange.failWrites := by
  rw [write]
  split
  · rfl
  · split
    · rfl
    · exact map_failWrites_update c h hf

theorem planned_write (h : Handle) (f : Exchange → Exchange) (c : Core) :
    (write h f c).2.planned = c.planned := by
  rw [write]
  split
  · rfl
  · split <;> rfl

/-- A write of one kind does not change the code of the next write of another kind. -/
theorem writeCode_asPlanned_write (hq : q ≠ p) (hf : ∀ x, (f x).failWrites = x.failWrites)
    (c : Core) : (asPlanned p (write h f) c).2.writeCode q h = c.writeCode q h := by
  rw [asPlanned]
  cases c.planned p with
  | nil => exact writeCode_congr (congrFun (planned_write h f c) q) (map_failWrites_write c h hf)
  | cons code codes =>
    have hplan : (c.plan p codes).planned q = c.planned q := if_neg hq
    dsimp only
    split
    · exact writeCode_congr hplan rfl
    · refine writeCode_congr ?_ (map_failWrites_write (c.plan p codes) h hf)
      exact (congrFun (planned_write h f (c.plan p codes)) q).trans hplan

end Core

/-! ### What the core holds of a response -/

/-- Two exchanges that hold the same response. -/
structure Exchange.SameResponse (x y : Exchange) : Prop where
  wire_eq : y.wire = x.wire
  status_eq : y.status = x.status
  headerCount_eq : y.headerCount = x.headerCount
  headerWrites_eq : y.headerWrites = x.headerWrites
  bodyWrites_eq : y.bodyWrites = x.bodyWrites

namespace Exchange.SameResponse

theorem refl (x : Exchange) : SameResponse x x := ⟨rfl, rfl, rfl, rfl, rfl⟩

theorem trans {x y z : Exchange} (hxy : SameResponse x y) (hyz : SameResponse y z) :
    SameResponse x z where
  wire_eq := hyz.wire_eq.trans hxy.wire_eq
  status_eq := hyz.status_eq.trans hxy.status_eq
  headerCount_eq := hyz.headerCount_eq.trans hxy.headerCount_eq
  headerWrites_eq := hyz.headerWrites_eq.trans hxy.headerWrites_eq
  bodyWrites_eq := hyz.bodyWrites_eq.trans hxy.bodyWrites_eq

end Exchange.SameResponse

/-- Cutting the connection of a request is nothing to the response that it has. -/
theorem Core.sameResponse_setFailWrites (c : Core) (h : Handle) :
    (c.exchange h).SameResponse ((c.setFailWrites h).exchange h) := by
  have hexchange : (c.setFailWrites h).exchange h = { c.exchange h with failWrites := true } := by
    show ((c.exchanges.insert h { c.exchange h with failWrites := true }).get? h).getD {} = _
    rw [Table.get?_insert, if_pos rfl]
    rfl
  rw [hexchange]
  exact ⟨rfl, rfl, rfl, rfl, rfl⟩

/-! ### Refusals -/

namespace Sink

variable {k : Sink} {c : Core}

/-- The codes of the writes that a sink has to make: of a header block if it is to commit and has
not yet, and of a chunk if there are octets. A later write is not made when an earlier one is
refused. -/
def codes (k : Sink) (c : Core) (commits : Bool) (b : Bytes) : List Int :=
  (if commits && k.status.isNone then [c.writeCode .writeHeaderBlock k.handle] else []) ++
    (if b = [] then [] else [c.writeCode .writeBodyChunk k.handle])

/-- The first refusal among codes. -/
def firstRefusal? (codes : List Int) : Option Int :=
  codes.find? fun code => code < 0

/-- What an operation of a sink comes to: it succeeds, or it runs into a refusal, reports it and
leaves the sink failed. -/
structure Ends {α : Type} (k : Sink) (refusal? : Option Int) (r : Except Fault α × Sink × Core) :
    Prop where
  handle_eq : r.2.1.handle = k.handle
  of_none : refusal? = none → r.1.isOk = true ∧ r.2.1.failed = false
  of_some : ∀ code, refusal? = some code →
    r.1 = .error (.writeFailed code) ∧ r.2.1.failed = true ∧ r.2.1.status.isSome

theorem planned_announce (h : Handle) (n : Nat) (c : Core) :
    (announce h n c).planned = c.planned :=
  (frame_announce h n c).planned_eq

theorem map_failWrites_announce (h : Handle) (n : Nat) (c : Core) :
    ((announce h n c).exchanges.get? h).map Exchange.failWrites =
      (c.exchanges.get? h).map Exchange.failWrites := by
  induction n generalizing c with
  | zero => rfl
  | succ n ih =>
    refine (ih (c.countHeader h)).trans ?_
    exact Core.map_failWrites_update c h fun _ => rfl

/-- What is announced before a header block does not change the codes of the writes to come. -/
theorem writeCode_announce (c : Core) (p : Primitive) (h : Handle) (code n : Nat) :
    (announce h n (c.setStatus h code)).writeCode p h = c.writeCode p h := by
  refine Core.writeCode_congr ?_ ?_
  · rw [planned_announce]
    rfl
  · rw [map_failWrites_announce]
    exact Core.map_failWrites_update c h fun _ => rfl

/-- A commit makes one write, whose code it reports if it is a refusal. -/
theorem commit_eq (s : Status) (k : Sink) (c : Core) :
    let code := c.writeCode .writeHeaderBlock k.handle
    ∃ d, k.commit s c =
        (if code < 0 then .error (.writeFailed code) else .ok (),
          k.afterCommit s (decide (code < 0)), d) ∧
      d.writeCode .writeBodyChunk k.handle = c.writeCode .writeBodyChunk k.handle := by
  intro code
  let headers := withContentType k.defaultContentType k.headers
  let announced := announce k.handle headers.size (c.setStatus k.handle s.code)
  let block := HeaderBlock.render k.version s headers
  let d := (announced.writeHeaderBlock k.handle block).2
  have hcode : (announced.writeHeaderBlock k.handle block).1 = code := by
    rw [Core.writeHeaderBlock, Core.asPlanned_write_fst]
    exact writeCode_announce c .writeHeaderBlock k.handle s.code headers.size
  have hwrite : announced.writeHeaderBlock k.handle block = (code, d) := Prod.ext hcode rfl
  refine ⟨d, ?_, ?_⟩
  · unfold commit
    dsimp only [announced, block, headers] at hwrite ⊢
    rw [hwrite]
    by_cases hneg : code < 0 <;> simp [hneg, afterCommit]
  · have hkeep : ∀ x : Exchange, (x.writeHeader block).failWrites = x.failWrites := fun _ => rfl
    refine (Core.writeCode_asPlanned_write (by decide) hkeep announced).trans ?_
    exact writeCode_announce c .writeBodyChunk k.handle s.code headers.size

theorem firstRefusal?_cons_of_neg {code : Int} (hneg : code < 0) (rest : List Int) :
    firstRefusal? (code :: rest) = some code := by
  simp [firstRefusal?, hneg]

theorem firstRefusal?_cons_of_not_neg {code : Int} (hneg : ¬code < 0) (rest : List Int) :
    firstRefusal? (code :: rest) = firstRefusal? rest := by
  simp [firstRefusal?, hneg]

/-- A single write decides what an operation comes to. -/
theorem ends_of_write {α : Type} {j : Sink} {d : Core} {code : Int} (a : α)
    (hhandle : j.handle = k.handle) (hs : j.status.isSome)
    (hfailed : j.failed = decide (code < 0)) :
    Ends k (firstRefusal? [code])
      (if code < 0 then .error (.writeFailed code) else .ok a, j, d) := by
  by_cases hneg : code < 0
  · rw [firstRefusal?_cons_of_neg hneg, if_pos hneg]
    refine ⟨hhandle, nofun, fun _ hcode => ?_⟩
    rw [← Option.some.inj hcode]
    exact ⟨rfl, by simpa [hneg] using hfailed, hs⟩
  · rw [firstRefusal?_cons_of_not_neg hneg, if_neg hneg]
    exact ⟨hhandle, fun _ => ⟨rfl, by simpa [hneg] using hfailed⟩, nofun⟩

/-- Where nothing is to be written, nothing is refused. -/
theorem ends_of_nothing {α : Type} (a : α) (hf : k.failed = false) (c : Core) :
    Ends k (firstRefusal? []) (.ok a, k, c) :=
  ⟨rfl, fun _ => ⟨rfl, hf⟩, nofun⟩

theorem codes_of_committed (hs : k.status.isSome) (c : Core) (b : Bytes) :
    k.codes c true b = if b = [] then [] else [c.writeCode .writeBodyChunk k.handle] := by
  rw [codes, Option.isNone_eq_false_iff.mpr hs]
  rfl

theorem codes_of_open (hs : k.status = none) (c : Core) (b : Bytes) :
    k.codes c true b = c.writeCode .writeHeaderBlock k.handle ::
      if b = [] then [] else [c.writeCode .writeBodyChunk k.handle] := by
  rw [codes, hs]
  rfl

theorem ends_writeHeader (hf : k.failed = false) (s : Status) (c : Core) :
    Ends k (firstRefusal? (k.codes c true [])) (k.writeHeader s c) := by
  cases hs : k.status with
  | some status =>
    have hcommitted : k.status.isSome := by rw [hs]; rfl
    rw [writeHeader_of_committed hcommitted hf, codes_of_committed hcommitted]
    exact ends_of_nothing () hf c
  | none =>
    obtain ⟨d, hcommit, -⟩ := commit_eq s k c
    rw [writeHeader_of_open hs hf, hcommit, codes_of_open hs]
    exact ends_of_write () rfl rfl (by rw [afterCommit, hf]; rfl)

theorem ends_send (hs : k.status.isSome) (hf : k.failed = false) (b : Bytes) (c : Core) :
    Ends k (firstRefusal? (k.codes c true b)) (k.send b c) := by
  rw [codes_of_committed hs, send, hf, if_neg Bool.false_ne_true]
  by_cases hb : b = []
  · rw [if_pos hb, hb]
    exact ends_of_nothing 0 hf c
  · have hcode : (c.writeBodyChunk k.handle b).1 = c.writeCode .writeBodyChunk k.handle :=
      Core.asPlanned_write_fst _ _ _ _
    have hwrite : c.writeBodyChunk k.handle b =
        (c.writeCode .writeBodyChunk k.handle, (c.writeBodyChunk k.handle b).2) :=
      Prod.ext hcode rfl
    rw [if_neg hb, if_neg (by simpa using hb), hwrite]
    have hends := ends_of_write (k := k)
      (j := { k with failed := decide (c.writeCode .writeBodyChunk k.handle < 0) })
      (d := (c.writeBodyChunk k.handle b).2) b.length rfl hs rfl
    by_cases hneg : c.writeCode .writeBodyChunk k.handle < 0
    · simpa [hneg] using hends
    · -- a sink that has not failed is left as it is
      have hkept : { k with failed := false } = k := by rw [← hf]
      simpa [hneg, hkept] using hends

/-- Octets that commit the head run into the refusal of the block first, and then into their own. -/
theorem ends_writeBody (hf : k.failed = false) (b : Bytes) (c : Core) :
    Ends k (firstRefusal? (k.codes c true b)) (k.writeBody b c) := by
  cases hs : k.status with
  | some status =>
    have hcommitted : k.status.isSome := by rw [hs]; rfl
    rw [writeBody_of_committed hcommitted]
    exact ends_send hcommitted hf b c
  | none =>
    obtain ⟨d, hcommit, hbody⟩ := commit_eq Status.ok k c
    rw [writeBody, hs, writeHeader_of_open hs hf, hcommit, codes_of_open hs]
    by_cases hneg : c.writeCode .writeHeaderBlock k.handle < 0
    · rw [if_pos hneg, firstRefusal?_cons_of_neg hneg,
        ← firstRefusal?_cons_of_neg hneg []]
      have hends := ends_of_write (k := k)
        (j := k.afterCommit Status.ok (decide (c.writeCode .writeHeaderBlock k.handle < 0)))
        (d := d) b.length rfl rfl (by rw [afterCommit, hf]; rfl)
      rwa [if_pos hneg] at hends
    · -- the block is out, and the octets are sent as on any sink that has sent one
      rw [if_neg hneg, firstRefusal?_cons_of_not_neg hneg, decide_eq_false hneg, ← hbody]
      have hfailed : (k.afterCommit Status.ok false).failed = false := by
        rw [afterCommit, hf]
        rfl
      obtain ⟨hhandle, hnone, hsome⟩ :=
        ends_send (k := k.afterCommit Status.ok false) rfl hfailed b d
      rw [codes_of_committed rfl] at hnone hsome
      exact ⟨hhandle, hnone, hsome⟩

end Sink

/-! ### Steps -/

namespace ResponseStep

variable {t : Turn Sink} {s : ResponseStep}

/-- Whether a step writes, a status or octets. -/
def writes (s : ResponseStep) : Bool :=
  s.commits?.isSome

/-- The first refusal that a step runs into where the response has not failed, if there is one. -/
def refusal? (s : ResponseStep) (t : Turn Sink) : Option Int :=
  Sink.firstRefusal? (t.writer.codes t.host.core s.writes s.offered)

theorem neg_of_refusal? {code : Int} (hcode : s.refusal? t = some code) : code < 0 := by
  simpa using List.find?_some hcode

/-- How a step reports a fault. A stream knows the fault as a broken pipe. -/
def report (f : Fault) : ResponseStep → Answer
  | .stream _ => .failure (.stream ⟨.brokenPipe, f.message⟩)
  | _ => .failure (.fault f)

/-- A step that writes is performed by an operation of the sink: it reports the fault of the
operation, and leaves what that leaves. -/
structure Through {α : Type} (s : ResponseStep) (t : Turn Sink) (r : Except Fault α × Sink × Core) :
    Prop where
  writes_eq : s.writes = true
  turn_eq : (s.run t).2 = (t.wrote r).2
  succeeded_eq : (s.run t).1.succeeded = r.1.isOk
  answer_of_error : ∀ f, r.1 = .error f → f.streamKind = .brokenPipe → (s.run t).1 = s.report f

theorem through_commit (status : Status) (t : Turn Sink) :
    (commit status).Through t (t.writer.writeHeader status t.host.core) := by
  obtain ⟨hanswer, hturn⟩ := run_commit status t
  refine ⟨rfl, hturn, hanswer, fun f hf _ => ?_⟩
  show Answer.ofFault (fun _ => .nothing) (t.writer.writeHeader status t.host.core).1 = _
  rw [hf]
  rfl

theorem through_write (b : Bytes) (t : Turn Sink) :
    (write b).Through t (t.writer.writeBody b t.host.core) := by
  obtain ⟨hanswer, hturn⟩ := run_write b t
  refine ⟨rfl, hturn, hanswer, fun f hf _ => ?_⟩
  show Answer.ofFault (fun n => .number n) (t.writer.writeBody b t.host.core).1 = _
  rw [hf]
  rfl

theorem through_stream (b : Bytes) (t : Turn Sink) :
    (stream b).Through t (t.writer.writeBody b t.host.core) := by
  obtain ⟨hanswer, hturn⟩ := run_stream b t
  refine ⟨rfl, hturn, hanswer, fun f hf hkind => ?_⟩
  have hrun : (stream b).run t = TurnStep.perform (WriterStep.writeStream b).program t := rfl
  have hsink : ResponseWriter.writeBody b t.writer t.host.core = t.writer.writeBody b t.host.core :=
    rfl
  rw [hrun, TurnStep.perform, WriterStep.program, TurnProgram.run_bind,
    TurnProgram.run_writeStream, hsink, hf]
  show Answer.failure (.stream ⟨f.streamKind, f.message⟩) = _
  rw [hkind]
  rfl

/-- A step on a response that has not failed comes to what the refusals say. -/
structure Ends (s : ResponseStep) (t : Turn Sink) : Prop where
  handle_eq : (s.run t).2.writer.handle = t.writer.handle
  of_none : s.refusal? t = none →
    (s.run t).1.succeeded = true ∧ (s.run t).2.writer.failed = false
  of_some : ∀ code, s.refusal? t = some code →
    (s.run t).1 = s.report (.writeFailed code) ∧ (s.run t).2.writer.failed = true ∧
      (s.run t).2.writer.status.isSome

theorem Ends.of_through {α : Type} {r : Except Fault α × Sink × Core} (hr : s.Through t r)
    (hends : Sink.Ends t.writer (s.refusal? t) r) : s.Ends t := by
  refine ⟨?_, fun h => ?_, fun code h => ?_⟩
  · rw [hr.turn_eq]
    exact hends.handle_eq
  · rw [hr.succeeded_eq, hr.turn_eq]
    exact hends.of_none h
  · obtain ⟨herror, hfailed, hs⟩ := hends.of_some code h
    rw [hr.answer_of_error _ herror rfl, hr.turn_eq]
    exact ⟨rfl, hfailed, hs⟩

theorem run_of_unfailed (hf : t.writer.failed = false) (s : ResponseStep) : s.Ends t := by
  cases s with
  | edit f => exact ⟨rfl, fun _ => ⟨rfl, hf⟩, nofun⟩
  | flush => exact ⟨rfl, fun _ => ⟨rfl, hf⟩, nofun⟩
  | disconnect => exact ⟨rfl, fun _ => ⟨rfl, hf⟩, nofun⟩
  | commit status =>
    exact .of_through (through_commit status t) (Sink.ends_writeHeader hf status t.host.core)
  | write b => exact .of_through (through_write b t) (Sink.ends_writeBody hf b t.host.core)
  | stream b => exact .of_through (through_stream b t) (Sink.ends_writeBody hf b t.host.core)

end ResponseStep

/-! ### Failed responses -/

/-- A turn whose response, to the request of `h`, has failed. -/
structure Turn.Failed (h : Handle) (t : Turn Sink) : Prop where
  handle_eq : t.writer.handle = h
  failed_eq : t.writer.failed = true
  /-- Only a committed response fails. -/
  committed : t.writer.status.isSome

/-- What a step comes to once a response has failed: whatever it writes is reported as aborted, and
what the core holds of the response stays. -/
structure ResponseStep.Aborts (h : Handle) (s : ResponseStep) (t : Turn Sink) : Prop where
  failed : (s.run t).2.Failed h
  answer_eq : s.writes = true → (s.run t).1 = s.report .responseAborted
  succeeded : s.writes = false → (s.run t).1.succeeded = true
  same : (t.host.core.exchange h).SameResponse ((s.run t).2.host.core.exchange h)

theorem ResponseStep.Aborts.of_through {h : Handle} {t : Turn Sink} {s : ResponseStep} {α : Type}
    {r : Except Fault α × Sink × Core} (ht : t.Failed h) (hr : s.Through t r)
    (haborted : r = (.error .responseAborted, t.writer, t.host.core)) : s.Aborts h t := by
  have hturn : (s.run t).2 = t := by
    rw [hr.turn_eq, haborted]
    rfl
  have hsame := Exchange.SameResponse.refl (t.host.core.exchange h)
  refine ⟨by rwa [hturn], fun _ => hr.answer_of_error _ (by rw [haborted]) rfl, fun hquiet => ?_,
    by rwa [hturn]⟩
  exact absurd (hquiet.symm.trans hr.writes_eq) Bool.false_ne_true

theorem ResponseStep.run_of_failed {h : Handle} {t : Turn Sink} (ht : t.Failed h)
    (s : ResponseStep) : s.Aborts h t := by
  have hsame := Exchange.SameResponse.refl (t.host.core.exchange h)
  have hbody := Sink.writeBody_of_failed (c := t.host.core) ht.committed ht.failed_eq
  cases s with
  | edit f => exact ⟨⟨ht.handle_eq, ht.failed_eq, ht.committed⟩, nofun, fun _ => rfl, hsame⟩
  | flush => exact ⟨ht, nofun, fun _ => rfl, hsame⟩
  | disconnect =>
    refine ⟨⟨ht.handle_eq, ht.failed_eq, ht.committed⟩, nofun, fun _ => rfl, ?_⟩
    show (t.host.core.exchange h).SameResponse
      ((t.host.core.setFailWrites t.writer.handle).exchange h)
    rw [ht.handle_eq]
    exact t.host.core.sameResponse_setFailWrites h
  | commit status =>
    exact .of_through ht (through_commit status t) (Sink.writeHeader_of_failed ht.failed_eq status)
  | write b => exact .of_through ht (through_write b t) (hbody b)
  | stream b => exact .of_through ht (through_stream b t) (hbody b)

/-! ### Runs -/

/-- What happens while the request of `h` is answered. -/
inductive ResponseEvent (h : Handle) where
  | step (s : ResponseStep)
  /-- The core changes, though not in what it holds of the response. -/
  | aside (f : Core → Core) (same : ∀ c : Core, (c.exchange h).SameResponse ((f c).exchange h))

namespace ResponseEvent

variable {h : Handle} {t : Turn Sink}

def run (e : ResponseEvent h) (t : Turn Sink) : Answer × Turn Sink :=
  match e with
  | .step s => s.run t
  | .aside f _ => (.nothing, { t with host := { t.host with core := f t.host.core } })

/-- Lets things happen one after the other: each with its answer, and the turn at the end. -/
def runAll : List (ResponseEvent h) → Turn Sink → List (ResponseEvent h × Answer) × Turn Sink
  | [], t => ([], t)
  | e :: events, t =>
    ((e, (e.run t).1) :: (runAll events (e.run t).2).1, (runAll events (e.run t).2).2)

def writes : ResponseEvent h → Bool
  | .step s => s.writes
  | .aside _ _ => false

def report (f : Fault) : ResponseEvent h → Answer
  | .step s => s.report f
  | .aside _ _ => .nothing

/-- The failures among the answers of a run, in order. -/
def failures (log : List (ResponseEvent h × Answer)) : List (ResponseEvent h × Answer) :=
  log.filter fun e => !e.2.succeeded

/-- What the answer to an event has to be once the response has failed: whatever writes is reported
as aborted, and nothing else fails. -/
def Aborted (x : ResponseEvent h × Answer) : Prop :=
  (x.1.writes = true → x.2 = x.1.report .responseAborted) ∧
    (x.1.writes = false → x.2.succeeded = true)

/-- A failed response stays as it is. -/
theorem runAll_failed (ht : t.Failed h) (events : List (ResponseEvent h)) :
    (runAll events t).2.Failed h ∧ (∀ x ∈ (runAll events t).1, Aborted x) ∧
    (t.host.core.exchange h).SameResponse ((runAll events t).2.host.core.exchange h) := by
  induction events generalizing t with
  | nil => exact ⟨ht, fun x hx => absurd hx List.not_mem_nil, Exchange.SameResponse.refl _⟩
  | cons e events ih =>
    have hstep : (e.run t).2.Failed h ∧ Aborted (e, (e.run t).1) ∧
        (t.host.core.exchange h).SameResponse ((e.run t).2.host.core.exchange h) := by
      cases e with
      | aside f same =>
        exact ⟨⟨ht.handle_eq, ht.failed_eq, ht.committed⟩, ⟨nofun, fun _ => rfl⟩,
          same t.host.core⟩
      | step s =>
        obtain ⟨hfailed, hwrites, hquiet, hsame⟩ := s.run_of_failed ht
        exact ⟨hfailed, ⟨hwrites, hquiet⟩, hsame⟩
    obtain ⟨hfailed, hanswer, hsame⟩ := hstep
    obtain ⟨hfailed', hlog, hsame'⟩ := ih hfailed
    exact ⟨hfailed', List.forall_mem_cons.mpr ⟨hanswer, hlog⟩, hsame.trans hsame'⟩

/-- Until a write is refused, nothing fails. If one is by the end, it is the first failure, and all
others are reports of an aborted response. -/
theorem runAll_unfailed (hhandle : t.writer.handle = h) (hf : t.writer.failed = false)
    (events : List (ResponseEvent h)) :
    ((runAll events t).2.writer.failed = false →
      failures (runAll events t).1 = [] ∧ (runAll events t).2.writer.handle = h) ∧
    ((runAll events t).2.writer.failed = true →
      (runAll events t).2.Failed h ∧
      ∃ e code rest, code < 0 ∧
        failures (runAll events t).1 = (e, e.report (.writeFailed code)) :: rest ∧
        ∀ x ∈ rest, x.2 = x.1.report .responseAborted) := by
  induction events generalizing t with
  | nil => exact ⟨fun _ => ⟨rfl, hhandle⟩, fun h => absurd (h.symm.trans hf) (by decide)⟩
  | cons e events ih =>
    have hlog : failures (runAll (e :: events) t).1 =
        (if (e.run t).1.succeeded then [] else [(e, (e.run t).1)]) ++
          failures (runAll events (e.run t).2).1 := by
      rw [runAll, failures, List.filter_cons]
      cases (e.run t).1.succeeded <;> rfl
    -- the event succeeds and the run goes on, or it is the first one that is refused
    have hstep : ((e.run t).1.succeeded = true ∧ (e.run t).2.writer.handle = h ∧
          (e.run t).2.writer.failed = false) ∨
        ∃ code, code < 0 ∧ (e.run t).1 = e.report (.writeFailed code) ∧
          (e.run t).1.succeeded = false ∧ (e.run t).2.Failed h := by
      cases e with
      | aside f same => exact Or.inl ⟨rfl, hhandle, hf⟩
      | step s =>
        obtain ⟨hkept, hnone, hsome⟩ := ResponseStep.run_of_unfailed hf s
        cases hcode : s.refusal? t with
        | none => exact Or.inl ⟨(hnone hcode).1, hkept.trans hhandle, (hnone hcode).2⟩
        | some code =>
          obtain ⟨hanswer, hfailed, hcommitted⟩ := hsome code hcode
          refine Or.inr ⟨code, ResponseStep.neg_of_refusal? hcode, hanswer, ?_,
            hkept.trans hhandle, hfailed, hcommitted⟩
          show (s.run t).1.succeeded = false
          rw [hanswer]
          cases s <;> rfl
    rcases hstep with ⟨hok, hkept, hgoes⟩ | ⟨code, hneg, hanswer, hbad, hfailed⟩
    · rw [hlog, hok]
      exact ih hkept hgoes
    · obtain ⟨hend, hrest, -⟩ := runAll_failed hfailed events
      refine ⟨fun h => absurd (hend.failed_eq.symm.trans h) (by decide), fun _ => ⟨hend, ?_⟩⟩
      refine ⟨e, code, failures (runAll events (e.run t).2).1, hneg, ?_, fun x hx => ?_⟩
      · rw [hlog, hbad, ← hanswer]
        rfl
      · obtain ⟨hmem, hfails⟩ := List.mem_filter.mp hx
        obtain ⟨haborted, hquiet⟩ := hrest x hmem
        cases hwrites : x.1.writes with
        | true => exact haborted hwrites
        | false =>
          rw [hquiet hwrites] at hfails
          cases hfails

/-- The next writes of one kind are to be answered with these codes. -/
def plan (p : Primitive) (codes : List Int) : ResponseEvent h :=
  .aside (fun c => c.plan p codes) fun c => Exchange.SameResponse.refl (c.exchange h)

/-- A failed response is frozen. Whatever happened to a new response so far, one that has failed was
committed. While it has not failed no call has failed, and the next one fails exactly if the core
refuses a write that it makes: it reports the code of the first refusal, and the response has
failed. After that the first failure of the run is this report of a negative code, and all others
report an aborted response. Whatever comes next, the response stays failed, every write is reported
as aborted and nothing else fails, and the core holds the same response of the request. -/
theorem failure_is_final (h : Handle) (version : Version) (contentType : HeaderValue) (body : Body)
    (host : Host) (events : List (ResponseEvent h)) :
    let start : Turn Sink :=
      { writer := { handle := h, version := version, defaultContentType := contentType }
        body := body, host := host }
    let log := (runAll events start).1
    let t := (runAll events start).2
    (t.writer.failed = true → t.writer.status.isSome) ∧
    (t.writer.failed = false →
      failures log = [] ∧
      ∀ s : ResponseStep,
        (s.refusal? t = none → (s.run t).1.succeeded = true ∧ (s.run t).2.writer.failed = false) ∧
        ∀ code, s.refusal? t = some code →
          (s.run t).1 = s.report (.writeFailed code) ∧ (s.run t).2.writer.failed = true) ∧
    (t.writer.failed = true →
      (∃ e code rest, code < 0 ∧ failures log = (e, e.report (.writeFailed code)) :: rest ∧
        ∀ x ∈ rest, x.2 = x.1.report .responseAborted) ∧
      ∀ more : List (ResponseEvent h),
        (runAll more t).2.writer.failed = true ∧ (∀ x ∈ (runAll more t).1, Aborted x) ∧
        (t.host.core.exchange h).SameResponse ((runAll more t).2.host.core.exchange h)) := by
  intro start log t
  obtain ⟨hgoes, hends⟩ := runAll_unfailed (t := start) rfl rfl events
  refine ⟨fun hfailed => (hends hfailed).1.committed, fun hf => ⟨(hgoes hf).1, fun s => ?_⟩,
    fun hfailed => ⟨(hends hfailed).2, fun more => ?_⟩⟩
  · obtain ⟨-, hnone, hsome⟩ := ResponseStep.run_of_unfailed (t := t) hf s
    exact ⟨hnone, fun code hcode => ⟨(hsome code hcode).1, (hsome code hcode).2.1⟩⟩
  · obtain ⟨hend, hlog, hsame⟩ := runAll_failed (hends hfailed).1 more
    exact ⟨hend.failed_eq, hlog, hsame⟩

/-- The head goes out and the octets after it are refused with a code of their own. -/
example :
    let h : Handle := ⟨4096, by decide⟩
    let start : Turn Sink :=
      { writer := { handle := h, version := .http11, defaultContentType := [116] }
        body := .stored [], host := { core := (Core.openRequest {}).2 } }
    (runAll (h := h) [plan .writeBodyChunk [-7], .step (.write [97]), .step (.commit Status.ok),
        .step (.stream [])] start).1.map Prod.snd =
      [.nothing, .failure (.fault (.writeFailed (-7))), .failure (.fault .responseAborted),
        .failure (.stream ⟨.brokenPipe, Fault.responseAborted.message⟩)] := by
  rfl

end ResponseEvent

end Gateway
