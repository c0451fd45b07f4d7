import Gateway.Demo
import Gateway.Proofs.Response.Reliable
import Gateway.Proofs.Turn

/-!
# Replies of the demonstration

Code that sends a reply and does nothing else (`Sends`), on whatever writer that does not fail.
-/

namespace Gateway.Demo

open TurnProgram

/-- What a request is answered with. -/
structure Reply where
  status : Status
  /-- The headers that are set, in this order. -/
  fields : List (HeaderName × HeaderValue)
  body : Bytes

namespace Reply

/-- The headers of a reply over those that stand. -/
def headers (r : Reply) (h : HeaderMap) : HeaderMap :=
  r.fields.foldl (fun h f => h.insert f.1 f.2) h

/-- A text; an empty one is no body. -/
def text (s : Status) (text : String) : Reply :=
  ⟨s, [(HeaderName.contentType, plainText)], Utf8.ofString text⟩

/-- Octets that are anything. -/
def octets (v : Bytes) : Reply :=
  ⟨Status.ok, [(HeaderName.contentType, Utf8.ofString "application/octet-stream")], v⟩

/-- The methods of a cached value. -/
def refusal : Reply :=
  ⟨Status.methodNotAllowed,
    [(HeaderName.allow, Utf8.ofString "GET, PUT, POST, DELETE"), (HeaderName.contentType, plainText)],
    Utf8.ofString "method not allowed\n"⟩

/-- The page for a path that leads nowhere. Its media type is not to be guessed. -/
def nowhere : Reply :=
  ⟨Status.notFound,
    [(HeaderName.contentType, plainText), (HeaderName.contentTypeOptions, Utf8.ofString "nosniff")],
    notFoundPage⟩

end Reply

/-- The turn after something was sent. -/
def afterSending {ω : Type} (t : Turn ω) (w : ω) (es : Table Handle Exchange) : Turn ω :=
  { t with writer := w, host := { t.host with core := { t.host.core with exchanges := es } } }

/-- Whether code sends a reply and does nothing else. -/
def Sends (p : TurnProgram Unit) (reply : Reply) : Prop :=
  ∀ {ω : Type} [ResponseWriter ω] (R : Reliable ω) (t : Turn ω) (h : HeaderMap),
    t.host.core.Unplanned → R.IsOpen t.writer t.host.core.exchanges h →
    ∃ w es, p.run t = (.done (), afterSending t w es) ∧
      R.HasSent w es reply.status (reply.headers h) reply.body

/-- Code sends one status and one body at most. -/
theorem Sends.unique {p : TurnProgram Unit} {a b : Reply} (ha : Sends p a) (hb : Sends p b) :
    a.status = b.status ∧ a.body = b.body := by
  -- what is sent shows in a recorded response
  let t : Turn Recorded := { writer := {}, body := .stored [], host := {} }
  have hc : t.host.core.Unplanned := fun _ => rfl
  obtain ⟨w, es, hrun, hsent⟩ := ha Reliable.recorded t HeaderMap.empty hc rfl
  obtain ⟨w', es', hrun', hsent'⟩ := hb Reliable.recorded t HeaderMap.empty hc rfl
  have hwriter : w = w' := congrArg (fun r => r.2.writer) (hrun.symm.trans hrun')
  have heq := hsent.symm.trans (hwriter.trans hsent')
  injection heq with _ hstatus hbody
  exact ⟨Option.some.inj hstatus, hbody⟩

theorem sends_respond (s : Status) (text : String) : Sends (respond s text) (Reply.text s text) := by
  intro ω _ R t h hc hopen
  have hnamed : (h.insert HeaderName.contentType plainText).NamesContentType :=
    HeaderMap.namesContentType_insert h (by decide)
  have hset := R.isOpen_setHeaders hopen (h.insert HeaderName.contentType plainText)
  obtain ⟨w, es, hheader, hsent⟩ := R.writeHeader hc hset hnamed s
  rw [respond, run_bind, run_setHeader]
  dsimp only
  rw [R.headers_eq hopen, run_bind, run_writeHeader]
  dsimp only
  rw [hheader]
  -- an empty text ends with the head
  by_cases htext : text.isEmpty = true
  · rw [String.isEmpty_iff] at htext
    subst htext
    exact ⟨w, es, rfl, hsent⟩
  · obtain ⟨w', es', hbody, hsent'⟩ :=
      R.writeMore (c := { t.host.core with exchanges := es }) hc hsent (Utf8.ofString text)
    refine ⟨w', es', ?_, hsent'⟩
    dsimp only [Turn.wrote]
    rw [if_neg htext, run_bind, run_writeBody]
    dsimp only
    rw [hbody]
    rfl

theorem sends_sendValue (v : Bytes) : Sends (sendValue v) (Reply.octets v) := by
  intro ω _ R t h hc hopen
  have hnamed : (h.insert HeaderName.contentType
      (Utf8.ofString "application/octet-stream")).NamesContentType :=
    HeaderMap.namesContentType_insert h (by decide)
  have hset := R.isOpen_setHeaders hopen
    (h.insert HeaderName.contentType (Utf8.ofString "application/octet-stream"))
  obtain ⟨w, es, hbody, hsent⟩ := R.writeBody hc hset hnamed v
  refine ⟨w, es, ?_, hsent⟩
  rw [sendValue, run_bind, run_setHeader]
  dsimp only
  rw [R.headers_eq hopen, run_bind, run_writeBody]
  dsimp only
  rw [hbody]
  rfl

/-- The refusal names the methods and is a text otherwise. -/
theorem sends_cacheRefuse : Sends cacheRefuse Reply.refusal := by
  intro ω _ R t h hc hopen
  have hset := R.isOpen_setHeaders hopen
    (h.insert HeaderName.allow (Utf8.ofString "GET, PUT, POST, DELETE"))
  obtain ⟨w, es, hrun, hsent⟩ := sends_respond Status.methodNotAllowed "method not allowed\n" R
    { t with
      writer := ResponseWriter.setHeaders
        (h.insert HeaderName.allow (Utf8.ofString "GET, PUT, POST, DELETE")) t.writer }
    _ hc hset
  refine ⟨w, es, ?_, hsent⟩
  rw [cacheRefuse, run_bind, run_setHeader]
  dsimp only
  rw [R.headers_eq hopen, hrun]
  rfl

theorem sends_notFound : Sends notFound Reply.nowhere := by
  intro ω _ R t h hc hopen
  have hnamed : (Reply.nowhere.headers h).NamesContentType := by
    refine ⟨plainText, ?_, by decide⟩
    show ((h.insert HeaderName.contentType plainText).insert HeaderName.contentTypeOptions _).get?
      HeaderName.contentType = some plainText
    rw [HeaderMap.get?_insert, if_neg (by decide), HeaderMap.get?_insert, if_pos rfl]
  have htyped := R.isOpen_setHeaders hopen (h.insert HeaderName.contentType plainText)
  have hset := R.isOpen_setHeaders htyped (Reply.nowhere.headers h)
  obtain ⟨w, es, hheader, hsent⟩ := R.writeHeader hc hset hnamed Status.notFound
  obtain ⟨w', es', hbody, hsent'⟩ :=
    R.writeMore (c := { t.host.core with exchanges := es }) hc hsent notFoundPage
  refine ⟨w', es', ?_, hsent'⟩
  rw [notFound, run_bind, run_setHeader]
  dsimp only
  rw [R.headers_eq hopen, run_bind, run_setHeader]
  dsimp only
  rw [R.headers_eq htyped, run_bind, run_writeHeader]
  dsimp only
  have hheader' : ResponseWriter.writeHeader Status.notFound
      (ResponseWriter.setHeaders ((h.insert HeaderName.contentType plainText).insert
        HeaderName.contentTypeOptions (Utf8.ofString "nosniff"))
        (ResponseWriter.setHeaders (h.insert HeaderName.contentType plainText) t.writer))
      t.host.core = (.ok (), w, { t.host.core with exchanges := es }) := hheader
  rw [hheader']
  dsimp only [Turn.wrote]
  rw [run_bind, run_writeBody]
  dsimp only
  rw [hbody]
  rfl

end Gateway.Demo
