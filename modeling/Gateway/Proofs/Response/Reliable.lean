import Gateway.Proofs.Body
import Gateway.Proofs.Header.Map
import Gateway.Proofs.Response.Sink
import Gateway.Response.Recorded

/-!
# Writers that do not fail

What a handler may rely on when it writes to a writer that refuses nothing: the first status commits
the headers as they stand, octets follow one another, and the core keeps everything but exchanges.
The laws are stated once, for a response with a content type, and hold of both writers: of every
recorded response (`Reliable.recorded`), and of the sink of a known request whose writes are not
refused (`Reliable.sink`).
-/

namespace Gateway

open Gateway.Core (Unplanned SameWires)

namespace HeaderMap

/-- Whether headers name a content type that is not empty. -/
def NamesContentType (h : HeaderMap) : Prop :=
  ∃ v, h.get? HeaderName.contentType = some v ∧ v ≠ []

theorem namesContentType_insert (h : HeaderMap) {v : HeaderValue} (hv : v ≠ []) :
    (h.insert HeaderName.contentType v).NamesContentType := by
  refine ⟨v, ?_, hv⟩
  rw [get?_insert, if_pos rfl]

end HeaderMap

/-- What holds of a writer that does not fail. Where it stands may show in the exchanges. -/
structure Reliable (ω : Type) [ResponseWriter ω] where
  /-- Nothing is committed, and these headers stand. -/
  IsOpen : ω → Table Handle Exchange → HeaderMap → Prop
  /-- This status, these headers and this body have been sent. -/
  HasSent : ω → Table Handle Exchange → Status → HeaderMap → Bytes → Prop
  headers_eq : ∀ {w es h}, IsOpen w es h → ResponseWriter.headers w = h
  isOpen_setHeaders : ∀ {w es h}, IsOpen w es h → ∀ h', IsOpen (ResponseWriter.setHeaders h' w) es h'
  /-- Reading a body does not concern the writer. -/
  isOpen_of_sameWires : ∀ {w es es' h}, IsOpen w es h → SameWires es es' → IsOpen w es' h
  /-- A status is sent with the headers. -/
  writeHeader : ∀ {w h} {c : Core}, c.Unplanned → IsOpen w c.exchanges h → h.NamesContentType →
    ∀ s, ∃ w' es, ResponseWriter.writeHeader s w c = (.ok (), w', { c with exchanges := es }) ∧
      HasSent w' es s h []
  /-- Octets are sent after status 200 and the headers. -/
  writeBody : ∀ {w h} {c : Core}, c.Unplanned → IsOpen w c.exchanges h → h.NamesContentType →
    ∀ b, ∃ w' es, ResponseWriter.writeBody b w c = (.ok b.length, w', { c with exchanges := es }) ∧
      HasSent w' es Status.ok h b
  /-- More octets are sent after those before them. -/
  writeMore : ∀ {w s h b} {c : Core}, c.Unplanned → HasSent w c.exchanges s h b →
    ∀ more, ∃ w' es,
      ResponseWriter.writeBody more w c = (.ok more.length, w', { c with exchanges := es }) ∧
      HasSent w' es s h (b ++ more)

namespace Reliable

/-! ### Responses in memory -/

/-- A recorded response never fails. -/
def recorded : Reliable Recorded where
  IsOpen r _ h := r = { headers := h }
  HasSent r _ s h b := r = { headers := h, status := some s, body := b }
  headers_eq := by
    rintro w es h rfl
    rfl
  isOpen_setHeaders := by
    rintro w es h rfl h'
    rfl
  isOpen_of_sameWires hopen _ := hopen
  writeHeader := by
    rintro w h c hc rfl hnamed s
    exact ⟨_, c.exchanges, rfl, rfl⟩
  writeBody := by
    rintro w h c hc rfl hnamed b
    exact ⟨_, c.exchanges, rfl, rfl⟩
  writeMore := by
    rintro w s h b c hc rfl more
    exact ⟨_, c.exchanges, rfl, rfl⟩

/-! ### Responses that go to the core -/

theorem withContentType_of_named {h : HeaderMap} (hnamed : h.NamesContentType)
    (contentType : HeaderValue) : Sink.withContentType contentType h = h := by
  obtain ⟨v, hv, hne⟩ := hnamed
  rw [Sink.withContentType, hv]
  exact if_neg hne

/-- What the core holds of a request whose writes are not refused. -/
def OnWire (es : Table Handle Exchange) (handle : Handle) (wire : Bytes) : Prop :=
  ∃ x, es.get? handle = some x ∧ x.wire = wire ∧ x.failWrites = false

theorem OnWire.sameWires {es es' : Table Handle Exchange} {handle : Handle} {wire : Bytes}
    (hwire : OnWire es handle wire) (hes : SameWires es es') : OnWire es' handle wire := by
  obtain ⟨x, hx, rfl, hw⟩ := hwire
  have hsame := hes handle
  rw [hx, Option.map_some, Option.map_eq_some_iff] at hsame
  obtain ⟨y, hy, heq⟩ := hsame
  rw [Prod.mk.injEq] at heq
  exact ⟨y, hy, heq.1, heq.2.trans hw⟩

variable (handle : Handle) (version : Version) (contentType : HeaderValue) (wire : Bytes)

/-- A sink of a request with `wire` already written. -/
structure SinkOpen (k : Sink) (es : Table Handle Exchange) (h : HeaderMap) : Prop where
  sink_eq : k =
    { handle := handle, version := version, defaultContentType := contentType, headers := h }
  onWire : OnWire es handle wire

/-- A sink of a request on whose wire a response came after `wire`. -/
structure SinkSent (k : Sink) (es : Table Handle Exchange) (s : Status) (h : HeaderMap) (b : Bytes) :
    Prop where
  sink_eq : k =
    { handle := handle, version := version, defaultContentType := contentType, headers := h
      status := some s }
  onWire : OnWire es handle (wire ++ HeaderBlock.render version s h ++ b)

variable {handle version contentType wire} {k : Sink} {c : Core} {h : HeaderMap}

theorem SinkOpen.writeHeader (hc : c.Unplanned)
    (hopen : SinkOpen handle version contentType wire k c.exchanges h) (hnamed : h.NamesContentType)
    (s : Status) :
    ∃ k' es, k.writeHeader s c = (.ok (), k', { c with exchanges := es }) ∧
      SinkSent handle version contentType wire k' es s h [] := by
  obtain ⟨rfl, x, hx, rfl, hw⟩ := hopen
  obtain ⟨d, hcommit, hdx, hframe⟩ := Sink.commit_of_get?
    (k := { handle := handle, version := version, defaultContentType := contentType, headers := h })
    hc hx s
  -- the headers name a content type, so the sink's own does not come in
  rw [Sink.writeHeader_of_open rfl rfl, hcommit, hframe.beside, hw]
  refine ⟨_, d.exchanges, rfl, ?_, _, hdx, ?_, ?_⟩
  · simp [Sink.afterCommit, withContentType_of_named hnamed]
  · simp [Sink.committed, hw, Exchange.writeHeader, withContentType_of_named hnamed]
  · simp [Sink.committed, hw, Exchange.writeHeader]

theorem SinkSent.writeMore {s : Status} {b : Bytes} (hc : c.Unplanned)
    (hsent : SinkSent handle version contentType wire k c.exchanges s h b) (more : Bytes) :
    ∃ k' es, k.writeBody more c = (.ok more.length, k', { c with exchanges := es }) ∧
      SinkSent handle version contentType wire k' es s h (b ++ more) := by
  obtain ⟨rfl, x, hx, hwire, hw⟩ := hsent
  obtain ⟨d, hsend, hdx, hframe⟩ := Sink.send_of_get?
    (k := { handle := handle, version := version, defaultContentType := contentType, headers := h
            status := some s })
    hc hx rfl hw more
  rw [Sink.writeBody_of_committed rfl, hsend, hframe.beside]
  refine ⟨_, d.exchanges, rfl, rfl, _, hdx, ?_, ?_⟩
  · rw [Sink.wire_extended, hwire, List.append_assoc _ b]
  · rw [Sink.failWrites_extended, hw]

/-- The first octets are sent after the head, as if status 200 had been sent before them. -/
theorem SinkOpen.writeBody (hc : c.Unplanned)
    (hopen : SinkOpen handle version contentType wire k c.exchanges h) (hnamed : h.NamesContentType)
    (b : Bytes) :
    ∃ k' es, k.writeBody b c = (.ok b.length, k', { c with exchanges := es }) ∧
      SinkSent handle version contentType wire k' es Status.ok h b := by
  -- the head goes out first, and then the octets as on any sink that has sent one
  obtain ⟨k', es, hheader, hsent⟩ := hopen.writeHeader hc hnamed Status.ok
  obtain ⟨k'', es', hbody, hsent'⟩ := SinkSent.writeMore (c := { c with exchanges := es }) hc hsent b
  have hopenStatus : k.status = none := by rw [hopen.sink_eq]
  have hcommitted : k'.status.isSome := by
    rw [hsent.sink_eq]
    rfl
  refine ⟨k'', es', ?_, hsent'⟩
  rw [Sink.writeBody_of_committed hcommitted] at hbody
  rw [Sink.writeBody, hopenStatus, hheader]
  exact hbody

/-- The sink of a known request whose writes are not refused does not fail. -/
def sink (handle : Handle) (version : Version) (contentType : HeaderValue) (wire : Bytes) :
    Reliable Sink where
  IsOpen := SinkOpen handle version contentType wire
  HasSent := SinkSent handle version contentType wire
  headers_eq hopen := by rw [hopen.sink_eq]; rfl
  isOpen_setHeaders hopen h' := ⟨by rw [hopen.sink_eq]; rfl, hopen.onWire⟩
  isOpen_of_sameWires hopen hes := ⟨hopen.sink_eq, hopen.onWire.sameWires hes⟩
  writeHeader hc hopen hnamed s := hopen.writeHeader hc hnamed s
  writeBody hc hopen hnamed b := hopen.writeBody hc hnamed b
  writeMore hc hsent more := hsent.writeMore hc more

end Reliable

end Gateway
