import Gateway.Turn

/-!
# What the code of a turn does

One equation for each thing that a handler can do, so that the run of a handler can be read off its
code: a question is answered at once, and what comes after it goes on from there.
-/

namespace Gateway.TurnProgram

variable {α β ω : Type} [ResponseWriter ω] (t : Turn ω)

@[simp]
theorem run_pure (a : α) : (pure a : TurnProgram α).run t = (.done a, t) := rfl

@[simp]
theorem run_panic (p : Panic) : run (.panic p : TurnProgram α) t = (.panicked p, t) := rfl

/-- The run of one piece of code and then another is one run after the other, unless the first one
panics. -/
@[simp]
theorem run_bind (p : TurnProgram α) (f : α → TurnProgram β) :
    (p >>= f).run t =
      match p.run t with
      | (.done a, t) => (f a).run t
      | (.panicked m, t) => (.panicked m, t) := by
  -- the two sides match on the outcome with different matchers, so `rfl` needs the cases
  refine (Program.run_bind (I := TurnInterface) Turn.act p f t).trans ?_
  unfold TurnProgram.run
  generalize Program.run (I := TurnInterface) Turn.act p t = r
  obtain ⟨_ | _, _⟩ := r <;> rfl

@[simp]
theorem run_ask (c : TurnCall) : (ask c).run t = (.done (t.act c).1, (t.act c).2) := rfl

@[simp]
theorem run_headers : headers.run t = (.done (ResponseWriter.headers t.writer), t) := rfl

@[simp]
theorem run_modifyHeaders (f : HeaderMap → HeaderMap) :
    (modifyHeaders f).run t =
      (.done (), { t with
        writer := ResponseWriter.setHeaders (f (ResponseWriter.headers t.writer)) t.writer }) := rfl

@[simp]
theorem run_setHeader (n : HeaderName) (v : HeaderValue) :
    (setHeader n v).run t =
      (.done (), { t with
        writer :=
          ResponseWriter.setHeaders ((ResponseWriter.headers t.writer).insert n v) t.writer }) := rfl

@[simp]
theorem run_writeHeader (s : Status) :
    (writeHeader s).run t =
      (.done (ResponseWriter.writeHeader s t.writer t.host.core).1,
        (t.wrote (ResponseWriter.writeHeader s t.writer t.host.core)).2) := rfl

@[simp]
theorem run_writeBody (b : Bytes) :
    (writeBody b).run t =
      (.done (ResponseWriter.writeBody b t.writer t.host.core).1,
        (t.wrote (ResponseWriter.writeBody b t.writer t.host.core)).2) := rfl

/-- A stream reports what the writer reports, in its own words. -/
@[simp]
theorem run_writeStream (b : Bytes) :
    (writeStream b).run t =
      (.done (match (ResponseWriter.writeBody b t.writer t.host.core).1 with
        | .error e => .error e.toStreamError
        | .ok n => .ok n),
        (t.wrote (ResponseWriter.writeBody b t.writer t.host.core)).2) := by
  unfold writeStream
  rw [run_bind, run_writeBody]
  cases (ResponseWriter.writeBody b t.writer t.host.core).1 <;> rfl

/-- The whole body is there, or the error that cut it short. -/
@[simp]
theorem run_readAll :
    readAll.run t =
      (.done (match (t.body.drain t.host.core).1.1 with
        | none => .ok (t.body.drain t.host.core).1.2
        | some e => .error e),
        (t.took (t.body.drain t.host.core)).2) := by
  unfold readAll
  rw [run_bind, run_ask]
  show TurnProgram.run (match (t.body.drain t.host.core).1.1 with
    | none => pure (Except.ok (t.body.drain t.host.core).1.2)
    | some e => pure (Except.error e)) (t.took (t.body.drain t.host.core)).2 = _
  cases (t.body.drain t.host.core).1.1 <;> rfl

@[simp]
theorem run_service (s : Service) :
    (service s).run t = (.done (t.host.serve s).1, { t with host := (t.host.serve s).2 }) := rfl

@[simp]
theorem run_isInstalled : isInstalled.run t = (.done t.host.installed, t) := rfl

end Gateway.TurnProgram
