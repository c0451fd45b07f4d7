import Gateway.Bridge
import Gateway.Proofs.Response.Accepts
import Gateway.Response.Recorded

/-!
# One header block for each response

Where the core refuses no write of a request, everything that a handler may ask for leaves the wire
in one of two shapes: as it was, or with one header block and octets after it (`Sink.Underway`). A
status or octets turn the first shape into the second one, and nothing turns it back. So a handler
that comes to write, whatever it is answered, sends one block and no other, with the first of the
`statuses` that it gives (`Bridge.block_of_answer`), and reads and services may go as they like.
-/

namespace Gateway

open Gateway.Core (Accepts SameResponses)

/-! ### The statuses of a run -/

namespace TurnCall

/-- Whether what a handler asks for sends something. -/
def Writes : TurnCall → Prop
  | .writeHeader _ | .writeBody _ => True
  | _ => False

/-- The status that is given to a writer: one that is named, or 200 for octets that come before
any. -/
def status? {ω : Type} [ResponseWriter ω] (t : Turn ω) : TurnCall → Option Status
  | .writeHeader s => some s
  | .writeBody _ => if ResponseWriter.isCommitted t.writer then none else some Status.ok
  | _ => none

theorem status?_of_silent {ω : Type} [ResponseWriter ω] {c : TurnCall} (hc : ¬c.Writes)
    (t : Turn ω) : status? t c = none := by
  cases c with
  | writeHeader s | writeBody b => exact (hc trivial).elim
  | _ => rfl

end TurnCall

namespace TurnProgram

variable {α β ω : Type} [ResponseWriter ω] {t u : Turn ω}

/-- The statuses that a run gives to its writer, whether or not the writer heeds them. -/
def statuses (p : TurnProgram α) (t : Turn ω) : List Status :=
  (Program.trace (I := TurnInterface) Turn.act p t).filterMap fun e => TurnCall.status? e.2 e.1

theorem statuses_call (c : TurnCall) (next : c.Answer → TurnProgram α) (t : Turn ω) :
    statuses (.call c next) t =
      (TurnCall.status? t c).toList ++ statuses (next (t.act c).1) (t.act c).2 := by
  cases hc : TurnCall.status? t c with
  | none => exact List.filterMap_cons_none hc
  | some s => exact List.filterMap_cons_some hc

theorem statuses_bind {p : TurnProgram α} {a : α} (hrun : p.run t = (.done a, u))
    (f : α → TurnProgram β) : (p >>= f).statuses t = p.statuses t ++ (f a).statuses u := by
  have htrace := Program.trace_bind (I := TurnInterface) Turn.act p f t
  rw [show Program.run (I := TurnInterface) Turn.act p t = (.done a, u) from hrun] at htrace
  exact (congrArg (List.filterMap fun e => TurnCall.status? e.2 e.1) htrace).trans
    List.filterMap_append

/-- Code that does not write gives no status. -/
theorem statuses_of_silent {p : TurnProgram α}
    (hp : Program.AsksOnly (fun c => ¬TurnCall.Writes c) p) (t : Turn ω) : p.statuses t = [] := by
  induction p generalizing t with
  | done a => rfl
  | panic m => rfl
  | call c next ih =>
    have hcall := statuses_call c next t
    rw [TurnCall.status?_of_silent hp.1] at hcall
    exact hcall.trans (ih _ (hp.2 _) _)

end TurnProgram

/-- A writer that commits a response when it heeds a status, and not when it is given headers. -/
class CommittingWriter (ω : Type) [ResponseWriter ω] : Prop where
  isCommitted_setHeaders : ∀ (h : HeaderMap) (w : ω),
    ResponseWriter.isCommitted (ResponseWriter.setHeaders h w) = ResponseWriter.isCommitted w
  isCommitted_writeHeader : ∀ {s : Status} {w : ω} {c : Core},
    (ResponseWriter.writeHeader s w c).1 = .ok () →
      ResponseWriter.isCommitted (ResponseWriter.writeHeader s w c).2.1 = true

instance : CommittingWriter Recorded where
  isCommitted_setHeaders _ _ := rfl
  isCommitted_writeHeader _ := rfl

instance : CommittingWriter Sink where
  isCommitted_setHeaders _ _ := rfl
  isCommitted_writeHeader {s k c} hok := by
    show (k.writeHeader s c).2.1.status.isSome = true
    by_cases hf : k.failed = true
    · have hfailed : (k.writeHeader s c).1 = .ok () := hok
      rw [Sink.writeHeader_of_failed hf] at hfailed
      cases hfailed
    rw [Bool.not_eq_true] at hf
    by_cases hs : k.status.isSome = true
    · rw [Sink.writeHeader_of_committed hs hf]
      exact hs
    · rw [Option.not_isSome_iff_eq_none] at hs
      obtain ⟨d, hcommit, -⟩ := Sink.commit_eq s k c
      rw [Sink.writeHeader_of_open hs hf, hcommit]
      rfl

/-! ### One block -/

/-- What has been sent of a response, `y` being held of its request and `x` before it: nothing
without a status, and otherwise one header block and octets after it. -/
def Exchange.Continues (version : Version) (x : Exchange) : Option Status → Exchange → Prop
  | none, y => y.wire = x.wire ∧ y.headerWrites = x.headerWrites
  | some s, y => ∃ headers body, y.wire = x.wire ++ HeaderBlock.render version s headers ++ body ∧
      y.headerWrites = x.headerWrites + 1

theorem Exchange.Continues.sameResponse {version : Version} {x y z : Exchange} {s : Option Status}
    (hy : Continues version x s y) (hyz : y.SameResponse z) : Continues version x s z := by
  cases s with
  | none => exact ⟨hyz.wire_eq.trans hy.1, hyz.headerWrites_eq.trans hy.2⟩
  | some s =>
    obtain ⟨headers, body, hwire, hblocks⟩ := hy
    exact ⟨headers, body, hyz.wire_eq.trans hwire, hyz.headerWrites_eq.trans hblocks⟩

namespace Sink

/-- A response that continues what the core held of its request before, `x`, while no write is
refused. -/
structure Underway (h : Handle) (version : Version) (x : Exchange) (k : Sink) (c : Core) :
    Prop where
  handle_eq : k.handle = h
  version_eq : k.version = version
  unfailed : k.failed = false
  continues : ∃ y, c.Accepts h y ∧ x.Continues version k.status y

namespace Underway

variable {h : Handle} {version : Version} {x : Exchange} {k : Sink} {c d : Core}

/-- What does not concern writing does not concern the response. -/
theorem sameResponses (hk : Underway h version x k c) (hcd : SameResponses c d) :
    Underway h version x k d := by
  obtain ⟨hhandle, hversion, hfailed, y, hy, hcontinues⟩ := hk
  obtain ⟨z, hz, hyz⟩ := hy.sameResponses hcd
  exact ⟨hhandle, hversion, hfailed, z, hz, hcontinues.sameResponse hyz⟩

/-- A status is the first one and goes out with the headers, or is ignored. -/
theorem writeHeader (hk : Underway h version x k c) (s : Status) :
    ∃ k' d, k.writeHeader s c = (.ok (), k', d) ∧ Underway h version x k' d ∧
      k'.status = k.status.or (some s) := by
  have hall := hk
  obtain ⟨rfl, rfl, hfailed, y, hy, hcontinues⟩ := hk
  cases hs : k.status with
  | some s' =>
    have hcommitted : k.status.isSome = true := by rw [hs]; rfl
    exact ⟨k, c, writeHeader_of_committed hcommitted hfailed s, hall, hs⟩
  | none =>
    rw [hs] at hcontinues
    obtain ⟨hwire, hblocks⟩ := hcontinues
    obtain ⟨d, hcommit, hd⟩ := commit_of_accepts hy s
    refine ⟨k.afterCommit s false, d, (writeHeader_of_open hs hfailed s).trans hcommit,
      ⟨rfl, rfl, by simp [afterCommit, hfailed], _, hd, ?_⟩, rfl⟩
    refine ⟨withContentType k.defaultContentType k.headers, [], ?_, ?_⟩
    · rw [wire_committed hy.connected, hwire, List.append_nil]
    · simp [committed, hy.connected, Exchange.writeHeader, hblocks]

/-- After a status, octets follow those before them. -/
theorem send (hk : Underway h version x k c) (hs : k.status.isSome = true) (b : Bytes) :
    ∃ d, k.send b c = (.ok b.length, k, d) ∧ Underway h version x k d := by
  obtain ⟨rfl, rfl, hfailed, y, hy, hcontinues⟩ := hk
  obtain ⟨s, hs⟩ := Option.isSome_iff_exists.mp hs
  rw [hs] at hcontinues
  obtain ⟨headers, body, hwire, hblocks⟩ := hcontinues
  obtain ⟨d, hsend, hd⟩ := send_of_accepts hy hfailed b
  refine ⟨d, hsend, rfl, rfl, hfailed, _, hd, ?_⟩
  rw [hs]
  refine ⟨headers, body ++ b, ?_, ?_⟩
  · rw [wire_extended, hwire, List.append_assoc _ body]
  · rw [headerWrites_extended, hblocks]

/-- Octets come after a status: the one that there is, or 200. -/
theorem writeBody (hk : Underway h version x k c) (b : Bytes) :
    ∃ k' d, k.writeBody b c = (.ok b.length, k', d) ∧ Underway h version x k' d ∧
      k'.status = k.status.or (some Status.ok) := by
  by_cases hs : k.status.isSome = true
  · obtain ⟨d, hsend, hd⟩ := hk.send hs b
    exact ⟨k, d, (writeBody_of_committed hs b).trans hsend, hd, (Option.or_of_isSome hs).symm⟩
  · obtain ⟨k', d, hheader, hd, hs'⟩ := hk.writeHeader Status.ok
    have hcommitted : k'.status.isSome = true := by
      rw [hs', Option.isSome_or]
      exact Bool.or_true _
    obtain ⟨e, hsend, he⟩ := hd.send hcommitted b
    refine ⟨k', e, ?_, he, hs'⟩
    rw [writeBody_of_uncommitted k hs, hheader]
    exact hsend

end Underway

end Sink

namespace Turn

variable {h : Handle} {version : Version} {x : Exchange} {t : Turn Sink}

/-- Whatever a handler asks for, the response is underway after it, with the status that it had or
else the one that is given. -/
theorem underway_act (ht : t.writer.Underway h version x t.host.core) (c : TurnCall) :
    (t.act c).2.writer.Underway h version x (t.act c).2.host.core ∧
      (t.act c).2.writer.status = t.writer.status.or (c.status? t) := by
  have haside : ∀ {d : Core}, SameResponses t.host.core d →
      t.writer.Underway h version x d ∧ t.writer.status = t.writer.status.or none :=
    fun hd => ⟨ht.sameResponses hd, Option.or_none.symm⟩
  cases c with
  | headers | isCommitted => exact haside (.refl _)
  | setHeaders headers =>
    exact ⟨⟨ht.handle_eq, ht.version_eq, ht.unfailed, ht.continues⟩, Option.or_none.symm⟩
  | writeHeader s =>
    obtain ⟨k, d, hwrite, hd, hs⟩ := ht.writeHeader s
    have hact : t.act (.writeHeader s) = t.wrote (.ok (), k, d) := congrArg t.wrote hwrite
    rw [hact]
    exact ⟨hd, hs⟩
  | writeBody b =>
    obtain ⟨k, d, hwrite, hd, hs⟩ := ht.writeBody b
    have hact : t.act (.writeBody b) = t.wrote (.ok b.length, k, d) := congrArg t.wrote hwrite
    rw [hact]
    refine ⟨hd, hs.trans ?_⟩
    show _ = t.writer.status.or (if t.writer.status.isSome then none else some Status.ok)
    cases t.writer.status <;> rfl
  | read n => exact haside (Body.sameResponses_read n t.body t.host.core)
  | drain => exact haside (Body.sameResponses_drainFrom _ _ 0 t.body t.host.core)
  | host c =>
    cases c with
    | service s => exact haside (t.host.sameResponses_serve s)
    | isInstalled | note n => exact haside (.refl _)

/-- A run commits the first status that it gives. -/
theorem underway_run {α : Type} (p : TurnProgram α)
    (ht : t.writer.Underway h version x t.host.core) :
    (p.run t).2.writer.Underway h version x (p.run t).2.host.core ∧
      (p.run t).2.writer.status = t.writer.status.or (p.statuses t).head? := by
  induction p generalizing t with
  | done a | panic m => exact ⟨ht, Option.or_none.symm⟩
  | call c next ih =>
    obtain ⟨hkept, hstatus⟩ := underway_act ht c
    obtain ⟨hend, hfirst⟩ := ih (t.act c).1 hkept
    have hcall := congrArg List.head? (TurnProgram.statuses_call c next t)
    rw [hstatus, Option.or_assoc] at hfirst
    refine ⟨hend, hfirst.trans (congrArg t.writer.status.or ?_)⟩
    rw [hcall]
    cases TurnCall.status? t c <;> rfl

/-- A handler that comes to write something has committed a status in the end. -/
theorem isSome_status_run {α : Type} {p : TurnProgram α}
    (hp : Program.Reaches TurnCall.Writes p) (ht : t.writer.Underway h version x t.host.core) :
    (p.run t).2.writer.status.isSome = true := by
  have hact : ∀ (c : TurnCall) {t : Turn Sink}, t.writer.Underway h version x t.host.core →
      c.Writes ∨ t.writer.status.isSome = true → (t.act c).2.writer.status.isSome = true := by
    intro c t ht hs
    rw [(underway_act ht c).2]
    cases hstatus : t.writer.status with
    | some s => rfl
    | none =>
      rw [hstatus] at hs
      cases c with
      | writeHeader s => rfl
      | writeBody b =>
        show (if t.writer.status.isSome then none else some Status.ok).isSome = true
        rw [hstatus]
        rfl
      | _ => exact hs.elim False.elim fun h => absurd h Bool.false_ne_true
  -- the first write commits the response, and it stays committed
  have hend := Program.run_of_reaches
    (Q := fun t : Turn Sink => t.writer.Underway h version x t.host.core)
    (R := fun t : Turn Sink =>
      t.writer.Underway h version x t.host.core ∧ t.writer.status.isSome = true)
    (fun c _ ht => (underway_act ht c).1)
    (fun c hc _ ht => ⟨(underway_act ht c).1, hact c ht (.inl hc)⟩)
    (fun c _ ht => ⟨(underway_act ht.1 c).1, hact c ht.1 (.inr ht.2)⟩) hp ht
  exact hend.2

end Turn

/-- An application that comes to write something in answer to a request sends one header block, with
the first status that it gives, and octets after it. -/
theorem Bridge.block_of_answer {b : Bridge} {h : Handle} {x : Exchange} (hx : b.core.Accepts h x)
    {r : Request} (hp : Program.Reaches TurnCall.Writes (b.app.serve r)) :
    ∃ y status headers body, (b.answer h r).2.core.Accepts h y ∧
      y.wire = x.wire ++ HeaderBlock.render r.version status headers ++ body ∧
      y.headerWrites = x.headerWrites + 1 ∧
      ((b.app.serve r).statuses (b.turn h r)).head? = some status := by
  have hstart : (b.turn h r).writer.Underway h r.version x (b.turn h r).host.core :=
    ⟨rfl, rfl, rfl, x, hx, rfl, rfl⟩
  obtain ⟨⟨-, -, -, y, hy, hcontinues⟩, hfirst⟩ := Turn.underway_run (b.app.serve r) hstart
  obtain ⟨status, hstatus⟩ := Option.isSome_iff_exists.mp (Turn.isSome_status_run hp hstart)
  rw [hstatus] at hcontinues hfirst
  obtain ⟨headers, body, hwire, hblocks⟩ := hcontinues
  exact ⟨y, status, headers, body, hy, hwire, hblocks, hfirst.symm⟩

end Gateway
