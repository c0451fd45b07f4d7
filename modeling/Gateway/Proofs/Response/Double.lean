import Gateway.Proofs.Header.Map
import Gateway.Proofs.Response.Wire
import Gateway.Response.Recorded
import Mathlib.Data.List.Induction

/-!
# The recorded response as a double

A recorded response stands in for a sink whose writes are not refused: whatever steps are performed
on both, they answer the same and come to the same status, and what the sink has put on the wire can
be told from the recorded response (`recorded_doubles_sink`).

They differ in one place. A commit completes the headers of the sink with a content type, and leaves
those of the recorded response as they are. From then on the headers agree beside the content type
only, so it takes a step that looks at the content type to tell them apart.
-/

namespace Gateway

open Gateway.Core (Frame)
open Sink (committed extended)
open ResponseStep (At Completes completes_withContentType)

theorem HeaderMap.agreeBeside_withContentType (contentType : HeaderValue) (h : HeaderMap) :
    AgreeBeside HeaderName.contentType (Sink.withContentType contentType h) h := by
  intro m hm
  rw [Sink.withContentType]
  split
  · rw [get?_insert, if_neg hm]
  · rfl

/-! ### Steps on either writer -/

namespace WriterStep

variable {ω : Type} [ResponseWriter ω]

def run (s : WriterStep) (t : Turn ω) : Answer × Turn ω :=
  TurnStep.run (.writer s) t

/-- The turn after steps, one after the other. -/
def after (steps : List WriterStep) (t : Turn ω) : Turn ω :=
  steps.foldl (fun t s => (s.run t).2) t

/-- Whether a step looks at the values of a header or changes them. -/
def Concerns (n : HeaderName) : WriterStep → Prop
  | .insert name _ | .append name _ | .remove name | .get name => HeaderName.ofBytes? name = some n
  | .headers => True
  | _ => False

/-- A look at the first value of a header, and an edit of the headers. -/
def edit (n : HeaderName) (report : Option HeaderValue → Answer) (f : HeaderMap → HeaderMap) :
    TurnProgram Answer := do
  let h ← TurnProgram.headers
  TurnProgram.modifyHeaders f
  return report (h.get? n)

/-- The turn after its headers were edited. -/
def edited (f : HeaderMap → HeaderMap) (t : Turn ω) : Turn ω :=
  { t with writer := ResponseWriter.setHeaders (f (ResponseWriter.headers t.writer)) t.writer }

/-- The turn with the headers of the page for a path that leads nowhere. -/
def headed (t : Turn ω) : Turn ω :=
  edited (fun h => h.insert HeaderName.contentTypeOptions (Utf8.ofString "nosniff"))
    (edited (fun h => h.insert HeaderName.contentType TurnProgram.plainText) t)

/-! ### Steps that write, where nothing is refused -/

section

variable {t : Turn ω} {b : Bytes} {n : Nat}

theorem run_writeHeader_of_ok {code : Int} {s : Status} (hc : Status.ofCode? code = some s)
    (hs : (t.act (.writeHeader s)).1 = .ok ()) :
    (writeHeader code).run t = (.nothing, (t.act (.writeHeader s)).2) := by
  have hanswer : (ResponseWriter.writeHeader s t.writer t.host.core).1 = .ok () := hs
  rw [run, TurnStep.run, TurnStep.perform, program, hc]
  dsimp only
  rw [TurnProgram.run_bind, TurnProgram.run_writeHeader, hanswer]
  rfl

theorem run_writeBody_of_ok (hn : (t.act (.writeBody b)).1 = .ok n) :
    (writeBody b).run t = (.number n, (t.act (.writeBody b)).2) := by
  have hanswer : (ResponseWriter.writeBody b t.writer t.host.core).1 = .ok n := hn
  rw [run, TurnStep.run, TurnStep.perform, program, TurnProgram.run_bind, TurnProgram.run_writeBody,
    hanswer]
  rfl

theorem run_writeStream_of_ok (hn : (t.act (.writeBody b)).1 = .ok n) :
    (writeStream b).run t = (.number n, (t.act (.writeBody b)).2) := by
  have hanswer : (ResponseWriter.writeBody b t.writer t.host.core).1 = .ok n := hn
  rw [run, TurnStep.run, TurnStep.perform, program, TurnProgram.run_bind,
    TurnProgram.run_writeStream, hanswer]
  rfl

theorem run_writeAll_of_ok (hb : b ≠ []) (hn : (t.act (.writeBody b)).1 = .ok n) :
    (writeAll b).run t = (.nothing, (t.act (.writeBody b)).2) := by
  have hanswer : (ResponseWriter.writeBody b t.writer t.host.core).1 = .ok n := hn
  rw [run, TurnStep.run, TurnStep.perform, program, TurnProgram.run_bind, TurnProgram.writeAll,
    if_neg (by simpa using hb), TurnProgram.run_bind, TurnProgram.run_writeStream, hanswer]
  rfl

theorem run_notFound_of_ok (hs : ((headed t).act (.writeHeader Status.notFound)).1 = .ok ()) :
    notFound.run t = (.nothing, (((headed t).act (.writeHeader Status.notFound)).2.act
      (.writeBody TurnProgram.notFoundPage)).2) := by
  have hanswer : (ResponseWriter.writeHeader Status.notFound (headed t).writer
      (headed t).host.core).1 = .ok () := hs
  rw [run, TurnStep.run, TurnStep.perform, program, TurnProgram.run_bind, TurnProgram.notFound,
    TurnProgram.run_bind, TurnProgram.run_setHeader]
  dsimp only
  rw [TurnProgram.run_bind, TurnProgram.run_setHeader]
  dsimp only
  rw [TurnProgram.run_bind, TurnProgram.run_writeHeader]
  dsimp only [headed, edited] at hanswer ⊢
  rw [hanswer]
  dsimp only
  rw [TurnProgram.run_bind, TurnProgram.run_writeBody]
  rfl

end

/-- The name of a header that can be set. -/
theorem ofBytes?_of_header {name value : Bytes} {p : HeaderName × HeaderValue}
    (hp : header name value = .ok p) : HeaderName.ofBytes? name = some p.1 := by
  rw [header] at hp
  cases hn : HeaderName.ofBytes? name with
  | none => simp [hn] at hp
  | some n =>
    cases hv : HeaderValue.ofBytes? value with
    | none => simp [hn, hv] at hp
    | some v =>
      simp only [hn, hv, Except.ok.injEq] at hp
      rw [← hp]

end WriterStep

/-! ### Where both responses stand -/

/-- What a sink has put on the wire before the body: nothing, or the block of the status and of the
headers, completed, that were committed. -/
def headBlock (k : Sink) (head : Option (Status × HeaderMap)) : Bytes :=
  match head with
  | none => []
  | some (s, h) => HeaderBlock.render k.version s (Sink.withContentType k.defaultContentType h)

/-- A sink and a recorded response to which the same was done. The sink was `k` at first; `head` is
the status that was committed, if one was, with the recorded headers of that time. -/
structure Doubled (k : Sink) (head : Option (Status × HeaderMap)) (t : Turn Sink)
    (u : Turn Recorded) : Prop where
  writer_eq : t.writer =
    { k with headers := t.writer.headers, status := head.map Prod.fst, failed := false }
  unplanned : t.host.core.Unplanned
  wire_eq : ∃ x, t.host.core.exchanges.get? k.handle = some x ∧ x.failWrites = false ∧
    x.wire = headBlock k head ++ u.writer.body
  status_eq : u.writer.status = head.map Prod.fst
  agree : t.writer.headers.AgreeBeside HeaderName.contentType u.writer.headers
  /-- Before a commit there is no difference at all. -/
  waiting : head = none → t.writer.headers = u.writer.headers ∧ u.writer.body = []

namespace Doubled

variable {k : Sink} {head : Option (Status × HeaderMap)} {t : Turn Sink} {u : Turn Recorded}

/-- The same edit of both keeps the difference where it is. -/
theorem edited (ht : Doubled k head t u) {f : HeaderMap → HeaderMap}
    (hf : HeaderMap.IsPointwise f) :
    Doubled k head (WriterStep.edited f t) (WriterStep.edited f u) where
  writer_eq := by
    show ({ t.writer with headers := f t.writer.headers } : Sink) = _
    rw [ht.writer_eq]
    rfl
  unplanned := ht.unplanned
  wire_eq := ht.wire_eq
  status_eq := ht.status_eq
  agree m hm := hf (ht.agree m hm)
  waiting hnone := ⟨congrArg f (ht.waiting hnone).1, (ht.waiting hnone).2⟩

section

variable (ht : Doubled k head t u)
include ht

theorem handle_eq : t.writer.handle = k.handle := by
  rw [ht.writer_eq]

theorem version_eq : t.writer.version = k.version := by
  rw [ht.writer_eq]

theorem contentType_eq : t.writer.defaultContentType = k.defaultContentType := by
  rw [ht.writer_eq]

theorem sinkStatus_eq : t.writer.status = head.map Prod.fst := by
  rw [ht.writer_eq]

theorem failed_eq : t.writer.failed = false := by
  rw [ht.writer_eq]

end

/-- Once the block is out, with octets after it or none, the headers of the sink are completed, and
those of the recorded response are not. -/
theorem commit (ht : Doubled k none t u) {α : Type} (a : α) (s : Status) (b : Bytes) {d : Core}
    {x : Exchange} (hx : t.host.core.exchanges.get? t.writer.handle = some x)
    (hframe : Frame t.writer.handle t.host.core d)
    (hd : d.exchanges.get? t.writer.handle =
      some (extended (committed x t.writer.version s
        (Sink.withContentType t.writer.defaultContentType t.writer.headers)) b)) :
    Doubled k (some (s, u.writer.headers)) (t.wrote (a, t.writer.afterCommit s false, d)).2
      { u with writer := { u.writer with status := some s, body := u.writer.body ++ b } } := by
  obtain ⟨hheaders, hbody⟩ := ht.waiting rfl
  obtain ⟨y, hy, haccepts, hwire⟩ := ht.wire_eq
  rw [ht.handle_eq] at hx hd
  obtain rfl : x = y := Option.some.inj (hx.symm.trans hy)
  refine ⟨?_, ht.unplanned.frame hframe, ⟨_, hd, ?_, ?_⟩, rfl, ?_, fun h => absurd h (by simp)⟩
  · show t.writer.afterCommit s false = _
    rw [ht.writer_eq]
    rfl
  · rw [Sink.failWrites_extended, Sink.failWrites_committed, haccepts]
  · rw [Sink.wire_extended, Sink.wire_committed haccepts, hwire, hbody, ht.version_eq,
      ht.contentType_eq, hheaders]
    rfl
  · show (Sink.withContentType t.writer.defaultContentType t.writer.headers).AgreeBeside _ _
    rw [hheaders]
    exact HeaderMap.agreeBeside_withContentType _ _

/-- A status is accepted by both, and is the committed one if it is the first. -/
theorem writeHeader (ht : Doubled k head t u) (s : Status) :
    (t.act (.writeHeader s)).1 = .ok () ∧
      Doubled k (some (head.getD (s, u.writer.headers))) (t.act (.writeHeader s)).2
        (u.act (.writeHeader s)).2 := by
  show (t.writer.writeHeader s t.host.core).1 = .ok () ∧
    Doubled k _ (t.wrote (t.writer.writeHeader s t.host.core)).2
      { u with writer := u.writer.writeHeader s }
  cases head with
  | none =>
    obtain ⟨x, hx, haccepts, -⟩ := ht.wire_eq
    rw [← ht.handle_eq] at hx
    obtain ⟨d, hcommit, hdx, hframe⟩ := Sink.commit_of_get? ht.unplanned hx s
    rw [Sink.writeHeader_of_open ht.sinkStatus_eq ht.failed_eq, hcommit, haccepts,
      Recorded.writeHeader, ht.status_eq]
    have hout := ht.commit (Except.ok () : Except Fault Unit) s [] hx hframe hdx
    rw [List.append_nil] at hout
    exact ⟨rfl, hout⟩
  | some p =>
    have hsome : t.writer.status.isSome := by rw [ht.sinkStatus_eq]; rfl
    rw [Sink.writeHeader_of_committed hsome ht.failed_eq, Recorded.writeHeader, ht.status_eq]
    exact ⟨rfl, ht.writer_eq, ht.unplanned, ht.wire_eq, rfl, ht.agree, ht.waiting⟩

/-- Octets are accepted by both, and commit status 200 if nothing is committed yet. -/
theorem writeBody (ht : Doubled k head t u) (b : Bytes) :
    (t.act (.writeBody b)).1 = .ok b.length ∧
      Doubled k (some (head.getD (Status.ok, u.writer.headers))) (t.act (.writeBody b)).2
        (u.act (.writeBody b)).2 := by
  show (t.writer.writeBody b t.host.core).1 = .ok b.length ∧
    Doubled k _ (t.wrote (t.writer.writeBody b t.host.core)).2
      { u with writer := u.writer.writeBody b }
  obtain ⟨x, hx, haccepts, hwire⟩ := ht.wire_eq
  rw [← ht.handle_eq] at hx
  rw [Recorded.writeBody, Recorded.writeHeader, ht.status_eq]
  cases head with
  | none =>
    obtain ⟨d, hwrite, hdx, hframe⟩ :=
      Sink.writeBody_of_open ht.unplanned hx ht.sinkStatus_eq ht.failed_eq b
    dsimp only at hdx
    rw [haccepts, if_neg Bool.false_ne_true] at hdx
    rw [hwrite, haccepts]
    exact ⟨rfl, ht.commit _ Status.ok b hx hframe hdx⟩
  | some p =>
    have hsome : t.writer.status.isSome := by rw [ht.sinkStatus_eq]; rfl
    obtain ⟨d, hsend, hdx, hframe⟩ := Sink.send_of_get? ht.unplanned hx ht.failed_eq haccepts b
    rw [ht.handle_eq] at hdx
    rw [Sink.writeBody_of_committed hsome, hsend]
    refine ⟨rfl, ht.writer_eq, ht.unplanned.frame hframe, ⟨_, hdx, ?_, ?_⟩, rfl, ht.agree, ?_⟩
    · rw [Sink.failWrites_extended, haccepts]
    · rw [Sink.wire_extended, hwire, List.append_assoc]
      rfl
    · exact fun h => absurd h (Option.some_ne_none _)

/-! ### Steps on both -/

/-- What a step may do to the head: nothing, or it commits one where there is none, with the headers
that the recorded response then has. -/
def Heads (head head' : Option (Status × HeaderMap)) (u' : Turn Recorded) : Prop :=
  head' = head ∨ head = none ∧ ∃ s, head' = some (s, u'.writer.headers)

theorem heads_commit (s : Status) (u' : Turn Recorded) :
    Heads head (some (head.getD (s, u'.writer.headers))) u' := by
  cases head with
  | none => exact Or.inr ⟨rfl, s, rfl⟩
  | some p => exact Or.inl rfl

/-- What a step comes to on both: the same answer, unless the content type that it looks at was
completed on one side, and both stand together afterwards. -/
structure Agrees (k : Sink) (head : Option (Status × HeaderMap)) (s : WriterStep) (t : Turn Sink)
    (u : Turn Recorded) : Prop where
  answer_eq : (head = none ∨ ¬s.Concerns HeaderName.contentType) → (s.run t).1 = (s.run u).1
  doubled : ∃ head', Doubled k head' (s.run t).2 (s.run u).2 ∧ Heads head head' (s.run u).2

variable {s : WriterStep}

/-- A step that only reports does the same on both. -/
theorem agrees_of_pure (ht : Doubled k head t u) (a : Answer) (hs : s.program = pure a) :
    Agrees k head s t u := by
  have hrun : ∀ {ω : Type} [ResponseWriter ω] (t : Turn ω), s.run t = (a, t) := by
    intro ω _ t
    rw [WriterStep.run, TurnStep.run, hs]
    rfl
  refine ⟨fun _ => ?_, head, ?_, Or.inl rfl⟩
  · rw [hrun, hrun]
  · rw [hrun, hrun]
    exact ht

/-- An edit of a header does the same on both. -/
theorem agrees_of_edit (ht : Doubled k head t u) (n : HeaderName)
    (report : Option HeaderValue → Answer) {f : HeaderMap → HeaderMap}
    (hf : HeaderMap.IsPointwise f) (hs : s.program = WriterStep.edit n report f)
    (hn : s.Concerns n) : Agrees k head s t u := by
  have hrun : ∀ {ω : Type} [ResponseWriter ω] (t : Turn ω),
      s.run t = TurnStep.perform (WriterStep.edit n report f) t := by
    intro ω _ t
    rw [WriterStep.run, TurnStep.run, hs]
  refine ⟨fun hsame => ?_, head, ?_, Or.inl rfl⟩
  · rw [hrun, hrun]
    show report (t.writer.headers.get? n) = report (u.writer.headers.get? n)
    rcases hsame with hnone | hother
    · rw [(ht.waiting hnone).1]
    · have hne : n ≠ HeaderName.contentType := by
        rintro rfl
        exact hother hn
      rw [ht.agree n hne]
  · rw [hrun, hrun]
    exact ht.edited hf

/-- A step that commits, or finds a commit, does the same on both. -/
theorem agrees_of_commit {a : Answer} {t' : Turn Sink} {u' : Turn Recorded}
    (ht : s.run t = (a, t')) (hu : s.run u = (a, u')) (status : Status)
    (hafter : Doubled k (some (head.getD (status, u'.writer.headers))) t' u') :
    Agrees k head s t u := by
  refine ⟨fun _ => ?_, some (head.getD (status, u'.writer.headers)), ?_, ?_⟩
  · rw [ht, hu]
  · rwa [ht, hu]
  · rw [hu]
    exact heads_commit status u'

/-- Every step does the same on both. -/
theorem agrees (ht : Doubled k head t u) (s : WriterStep) : Agrees k head s t u := by
  cases s with
  | insert name value =>
    cases hp : WriterStep.header name value with
    | error f => exact ht.agrees_of_pure (.failure f) (by rw [WriterStep.program, hp])
    | ok p =>
      exact ht.agrees_of_edit p.1 (.ofOption .bytes) (HeaderMap.isPointwise_insert p.1 p.2)
        (by rw [WriterStep.program, hp]; rfl) (WriterStep.ofBytes?_of_header hp)
  | append name value =>
    cases hp : WriterStep.header name value with
    | error f => exact ht.agrees_of_pure (.failure f) (by rw [WriterStep.program, hp])
    | ok p =>
      have hprogram : (WriterStep.append name value).program =
          WriterStep.edit p.1 (fun v => .flag v.isSome) fun h => h.append p.1 p.2 := by
        rw [WriterStep.program, hp]
        simp only [HeaderMap.contains_eq_isSome]
        rfl
      exact ht.agrees_of_edit p.1 _ (HeaderMap.isPointwise_append p.1 p.2) hprogram
        (WriterStep.ofBytes?_of_header hp)
  | remove name =>
    cases hn : HeaderName.ofBytes? name with
    | none => exact ht.agrees_of_pure .nothing (by rw [WriterStep.program, hn])
    | some n =>
      exact ht.agrees_of_edit n (.ofOption .bytes) (HeaderMap.isPointwise_remove n)
        (by rw [WriterStep.program, hn]; rfl) hn
  | get name =>
    refine ⟨fun hsame => ?_, head, ht, Or.inl rfl⟩
    show Answer.ofOption .bytes ((HeaderName.ofBytes? name).bind t.writer.headers.get?) =
      Answer.ofOption .bytes ((HeaderName.ofBytes? name).bind u.writer.headers.get?)
    rcases hsame with hnone | hother
    · rw [(ht.waiting hnone).1]
    · cases hn : HeaderName.ofBytes? name with
      | none => rfl
      | some n =>
        have hne : n ≠ HeaderName.contentType := by
          rintro rfl
          exact hother hn
        rw [Option.bind_some, Option.bind_some, ht.agree n hne]
  | headers =>
    refine ⟨fun hsame => ?_, head, ht, Or.inl rfl⟩
    show Answer.headers t.writer.headers.toList = Answer.headers u.writer.headers.toList
    rcases hsame with hnone | hother
    · rw [(ht.waiting hnone).1]
    · exact absurd trivial hother
  | writeHeader code =>
    cases hc : Status.ofCode? code with
    | none => exact ht.agrees_of_pure (.failure .badStatus) (by rw [WriterStep.program, hc])
    | some status =>
      obtain ⟨hanswer, hafter⟩ := ht.writeHeader status
      exact agrees_of_commit (WriterStep.run_writeHeader_of_ok hc hanswer)
        (WriterStep.run_writeHeader_of_ok hc rfl) status hafter
  | writeBody b =>
    obtain ⟨hanswer, hafter⟩ := ht.writeBody b
    exact agrees_of_commit (WriterStep.run_writeBody_of_ok hanswer)
      (WriterStep.run_writeBody_of_ok rfl) Status.ok hafter
  | writeStream b =>
    obtain ⟨hanswer, hafter⟩ := ht.writeBody b
    exact agrees_of_commit (WriterStep.run_writeStream_of_ok hanswer)
      (WriterStep.run_writeStream_of_ok rfl) Status.ok hafter
  | writeAll b =>
    by_cases hb : b = []
    · exact ht.agrees_of_pure .nothing (by rw [hb]; rfl)
    · obtain ⟨hanswer, hafter⟩ := ht.writeBody b
      exact agrees_of_commit (WriterStep.run_writeAll_of_ok hb hanswer)
        (WriterStep.run_writeAll_of_ok hb rfl) Status.ok hafter
  | flush => exact ht.agrees_of_pure .nothing rfl
  | isCommitted =>
    refine ⟨fun _ => ?_, head, ht, Or.inl rfl⟩
    show Answer.flag t.writer.status.isSome = Answer.flag u.writer.status.isSome
    rw [ht.sinkStatus_eq, ht.status_eq]
  | notFound =>
    have hheaded := (ht.edited (HeaderMap.isPointwise_insert HeaderName.contentType
      TurnProgram.plainText)).edited (HeaderMap.isPointwise_insert HeaderName.contentTypeOptions
        (Utf8.ofString "nosniff"))
    obtain ⟨hanswer, hcommitted⟩ := hheaded.writeHeader Status.notFound
    obtain ⟨-, hafter⟩ := hcommitted.writeBody TurnProgram.notFoundPage
    exact agrees_of_commit (WriterStep.run_notFound_of_ok hanswer)
      (WriterStep.run_notFound_of_ok rfl) Status.notFound hafter

end Doubled

/-! ### Runs on both -/

namespace WriterStep

theorem after_concat {ω : Type} [ResponseWriter ω] (steps : List WriterStep) (s : WriterStep)
    (t : Turn ω) : after (steps ++ [s]) t = (s.run (after steps t)).2 := by
  rw [after, List.foldl_append]
  rfl

/-- The head that steps have committed by the end, with the step that committed it. -/
def CommittedBy (steps : List WriterStep) (u : Turn Recorded) (status : Status)
    (headers : HeaderMap) : Prop :=
  ∃ before s later, steps = before ++ s :: later ∧
    (after before u).writer.status = none ∧
    (after (before ++ [s]) u).writer.status = some status ∧
    (after (before ++ [s]) u).writer.headers = headers

variable {k : Sink} {t : Turn Sink} {u : Turn Recorded}

/-- Both stay together in a run, and what is committed by then is what one of the steps committed. -/
theorem doubled_after (ht : Doubled k none t u) (steps : List WriterStep) :
    ∃ head, Doubled k head (after steps t) (after steps u) ∧
      ∀ p, head = some p → CommittedBy steps u p.1 p.2 := by
  induction steps using List.reverseRecOn with
  | nil => exact ⟨none, ht, fun p hp => absurd hp.symm (Option.some_ne_none p)⟩
  | append_singleton steps s ih =>
    obtain ⟨head, hsteps, hcommitted⟩ := ih
    obtain ⟨head', hs, hheads⟩ := (hsteps.agrees s).doubled
    refine ⟨head', ?_, ?_⟩
    · rwa [after_concat, after_concat]
    · rintro ⟨status, headers⟩ rfl
      rcases hheads with heq | ⟨rfl, status', heq⟩
      · obtain ⟨before, r, later, rfl, hrest⟩ := hcommitted _ heq.symm
        refine ⟨before, r, later ++ [s], ?_, hrest⟩
        rw [List.append_assoc]
        rfl
      · -- the last step is the one that commits
        refine ⟨steps, s, [], rfl, hsteps.status_eq, ?_, ?_⟩
        · rw [after_concat, hs.status_eq]
          rfl
        · rw [after_concat]
          exact (Prod.mk.inj (Option.some.inj heq)).2.symm

/-- A recorded response is a faithful double of a sink. Let any steps be performed on a new sink, over
a request that the core knows, with nothing on its wire and no write refused, and on a new recorded
response. A next step answers the same on both, unless a status is committed and the step looks at
the content type. Both have the same status, if any. The wire is empty without one; otherwise it is
the block of the status, with the headers that the recorded response had when it was committed, a
content type completed, and then the recorded body. -/
theorem recorded_doubles_sink (t : Turn Sink) (u : Turn Recorded) (h : Handle) (version : Version)
    (contentType : HeaderValue) (x : Exchange)
    (ht : At t { handle := h, version := version, defaultContentType := contentType } x)
    (hu : u.writer = {}) (hwire : x.wire = []) (haccepts : x.failWrites = false)
    (steps : List WriterStep) :
    let sunk := after steps t
    let kept := after steps u
    (∀ s : WriterStep,
      (kept.writer.status = none ∨ ¬s.Concerns HeaderName.contentType) →
        (s.run sunk).1 = (s.run kept).1) ∧
    sunk.writer.status = kept.writer.status ∧
    (kept.writer.status = none → (sunk.host.core.exchange h).wire = []) ∧
    ∀ status, kept.writer.status = some status →
      ∃ committed headers, CommittedBy steps u status committed ∧
        Completes contentType committed headers ∧
        (sunk.host.core.exchange h).wire =
          HeaderBlock.render version status headers ++ kept.writer.body := by
  intro sunk kept
  have hstart : Doubled { handle := h, version := version, defaultContentType := contentType } none
      t u := by
    refine ⟨?_, ht.unplanned, ⟨x, ht.get?_eq, haccepts, ?_⟩, ?_, fun n _ => ?_, fun _ => ⟨?_, ?_⟩⟩
    · rw [ht.writer_eq]
      rfl
    · rw [hwire, hu]
      rfl
    · rw [hu]
      rfl
    · rw [ht.writer_eq, hu]
    · rw [ht.writer_eq, hu]
    · rw [hu]
  obtain ⟨head, hend, hcommitted⟩ := doubled_after hstart steps
  obtain ⟨y, hy, -, hwireEnd⟩ := hend.wire_eq
  have hexchange : sunk.host.core.exchange h = y := Core.exchange_of_get? hy
  refine ⟨fun s hs => ?_, hend.sinkStatus_eq.trans hend.status_eq.symm, fun hnone => ?_,
    fun status hstatus => ?_⟩
  · refine (hend.agrees s).answer_eq (hs.imp_left fun hnone => ?_)
    exact Option.map_eq_none_iff.mp (hend.status_eq.symm.trans hnone)
  · obtain rfl : head = none := Option.map_eq_none_iff.mp (hend.status_eq.symm.trans hnone)
    rw [hexchange, hwireEnd, (hend.waiting rfl).2]
    rfl
  · obtain ⟨⟨_, committed⟩, rfl, rfl⟩ := Option.map_eq_some_iff.mp (hend.status_eq.symm.trans hstatus)
    refine ⟨committed, _, hcommitted _ rfl, completes_withContentType contentType committed, ?_⟩
    rw [hexchange, hwireEnd]
    rfl

/-- A response whose content type is emptied before the commit and named after it. -/
theorem wire_of_late_content_type :
    let h : Handle := ⟨4096, by decide⟩
    let t : Turn Sink :=
      { writer := { handle := h, version := .http10, defaultContentType := [116] }
        body := .stored [], host := { core := (Core.openRequest {}).2 } }
    let u : Turn Recorded := { writer := {}, body := .stored [], host := {} }
    let name : Bytes := Utf8.ofString "Content-Type"
    let steps : List WriterStep := [.insert name [], .writeHeader 404, .insert name [120], .writeBody [97]]
    At t { handle := h, version := .http10, defaultContentType := [116] } {} ∧
      (isCommitted.run (after steps t)).1 = .flag true ∧
      ∃ committed headers, CommittedBy steps u Status.notFound committed ∧
        Completes [116] committed headers ∧
        ((after steps t).host.core.exchange h).wire =
          HeaderBlock.render .http10 Status.notFound headers ++ [97] := by
  intro h t u name steps
  have ht : At t { handle := h, version := .http10, defaultContentType := [116] } {} :=
    ⟨rfl, fun _ => rfl, by decide⟩
  obtain ⟨hanswers, -, -, hcommitted⟩ :=
    recorded_doubles_sink t u h .http10 [116] {} ht rfl rfl rfl steps
  have hstatus : (after steps u).writer.status = some Status.notFound := by decide +kernel
  have hbody : (after steps u).writer.body = [97] := by decide +kernel
  refine ⟨ht, ?_, ?_⟩
  · rw [hanswers isCommitted (Or.inr id)]
    show Answer.flag (after steps u).writer.status.isSome = Answer.flag true
    rw [hstatus]
    rfl
  · obtain ⟨committed, headers, hby, hcompletes, hwire⟩ := hcommitted _ hstatus
    exact ⟨committed, headers, hby, hcompletes, hbody ▸ hwire⟩

end WriterStep

end Gateway
