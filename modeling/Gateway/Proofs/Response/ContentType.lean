import Gateway.Proofs.Header.Block
import Gateway.Proofs.Header.Map
import Gateway.Proofs.Response.Wire

/-!
# The content type of a response

Every header block that a response puts on the wire has a content type, whatever its handler did to
the headers. The default stands in for a first value that is missing or of length 0, as it stood when
the head was committed; values are sanitized only after that, so a first value of blanks is kept and
goes out as nothing. That is the only way in which a block comes to name none
(`content_type_unless_blank`, `blank_content_type_kept`).
-/

namespace Gateway

namespace HeaderBlock

/-- The content types that can be read in a header block, in order. -/
def contentTypes? (block : Bytes) : Option (List HeaderValue) :=
  (read? block).map fun reading =>
    (reading.headers.filter fun e => e.1 = HeaderName.contentType).map Prod.snd

/-- The content types of a block are those of the headers, sanitized. -/
theorem contentTypes?_render (version : Version) (status : Status) (headers : HeaderMap) :
    contentTypes? (render version status headers) =
      some ((headers.values HeaderName.contentType).map HeaderValue.sanitize) := by
  rw [contentTypes?, read?_render, Option.map_some, List.filter_map,
    ← HeaderMap.map_snd_filter_toList, List.map_map, List.map_map]
  rfl

end HeaderBlock

namespace Sink

/-- The headers that are committed have a content type: the default alone where it was missing or
empty at first, and otherwise what they had. -/
theorem exists_contentType (contentType : HeaderValue) (h : HeaderMap) :
    ∃ first more, (withContentType contentType h).values HeaderName.contentType = first :: more ∧
      (h.get? HeaderName.contentType = none ∨ h.get? HeaderName.contentType = some [] →
        first = contentType ∧ more = []) ∧
      ∀ v, h.get? HeaderName.contentType = some v → v ≠ [] → first = v := by
  have hdefault := HeaderMap.values_insert_self h HeaderName.contentType contentType
  rcases h.values_eq_nil_or_cons HeaderName.contentType with ⟨hget, -⟩ | ⟨v, more, hget, hvalues⟩
  · rw [withContentType, hget, Option.getD_none, if_pos rfl]
    refine ⟨contentType, [], hdefault, fun _ => ⟨rfl, rfl⟩, ?_⟩
    intro v hv
    cases hv
  · rw [withContentType, hget, Option.getD_some]
    by_cases hv : v = []
    · rw [if_pos hv]
      refine ⟨contentType, [], hdefault, fun _ => ⟨rfl, rfl⟩, ?_⟩
      rintro w ⟨⟩ hne
      exact absurd hv hne
    · rw [if_neg hv]
      refine ⟨v, more, hvalues, ?_, ?_⟩
      · rintro (h | h)
        · cases h
        · exact absurd (Option.some.inj h) hv
      · rintro w ⟨⟩ -
        rfl

end Sink

namespace HeaderValue

/-- A legal value that is not made of spaces and tabs does not go out as nothing. -/
theorem sanitize_ne_nil {v : Bytes} (hlegal : isLegal v = true) (hv : ∃ b ∈ v, b ≠ 32 ∧ b ≠ 9) :
    sanitize v ≠ [] := by
  intro hnil
  obtain ⟨b, hb, hspace, htab⟩ := hv
  have hblank : isBlank b = true := sanitize_eq_nil_iff.mp hnil b hb
  have hbyte : isLegalByte b = true := List.all_eq_true.mp hlegal b hb
  rcases (isBlank_iff_of_isLegalByte hbyte).mp hblank with h | h
  · exact hspace h
  · exact htab h

end HeaderValue

namespace ResponseStep

variable {t : Turn Sink} {k : Sink} {x : Exchange}

/-- Once a head is committed and not refused, the wire holds one header block and what was accepted
of the body, and the block has a content type. Its first one is the default where the headers of the
head had none or an empty one, and otherwise the first one of these headers. So it is not empty
unless these headers begin with a content type made of blanks. -/
theorem content_type_unless_blank (ht : At t k x) (hopen : k.status = none) (hf : k.failed = false)
    (hlegal : HeaderValue.isLegal k.defaultContentType = true)
    (hdefault : ∃ b ∈ k.defaultContentType, b ≠ 32 ∧ b ≠ 9) (steps : List ResponseStep) {a : Head}
    (ha : head? k.headers x.failWrites steps = some a) (hsent : a.lost = false) :
    ∃ block first more,
      ((runAll steps t).2.host.core.exchange k.handle).wire =
        x.wire ++ block ++ accepted (runAll steps t).1 ∧
      HeaderBlock.contentTypes? block = some (first :: more) ∧
      (a.headers.get? HeaderName.contentType = none ∨
          a.headers.get? HeaderName.contentType = some [] →
        first = HeaderValue.sanitize k.defaultContentType ∧ more = []) ∧
      (∀ v, a.headers.get? HeaderName.contentType = some v → v ≠ [] →
        first = HeaderValue.sanitize v) ∧
      (first = [] ↔ ∃ v, a.headers.get? HeaderName.contentType = some v ∧ v ≠ [] ∧
        ∀ b ∈ v, b = 32 ∨ b = 9 ∨ b = 10 ∨ b = 12 ∨ b = 13) := by
  have hblank : ∀ v : HeaderValue, HeaderValue.sanitize v = [] ↔
      ∀ b ∈ v, b = 32 ∨ b = 9 ∨ b = 10 ∨ b = 12 ∨ b = 13 := by
    intro v
    rw [HeaderValue.sanitize_eq_nil_iff]
    simp only [HeaderValue.isBlank, Bool.or_eq_true, decide_eq_true_eq, or_assoc]
  obtain ⟨k', x', hat, hk, -, hwire, -, -⟩ := runAll_open ht hopen hf steps
  have hexchange : (runAll steps t).2.host.core.exchange k.handle = x' := by
    rw [← hk]
    exact hat.exchange_eq
  rw [ha, sent, hsent] at hwire
  obtain ⟨first, more, hvalues, hmissing, hnamed⟩ :=
    Sink.exists_contentType k.defaultContentType a.headers
  refine ⟨HeaderBlock.render k.version a.status
    (Sink.withContentType k.defaultContentType a.headers), HeaderValue.sanitize first,
    more.map HeaderValue.sanitize, ?_, ?_, fun h => ?_, fun v hv hne => ?_, ?_⟩
  · rw [hexchange, hwire]
    exact (List.append_assoc _ _ _).symm
  · rw [HeaderBlock.contentTypes?_render, hvalues, List.map_cons]
  · obtain ⟨rfl, rfl⟩ := hmissing h
    exact ⟨rfl, rfl⟩
  · rw [hnamed v hv hne]
  · by_cases hgiven : ∃ v, a.headers.get? HeaderName.contentType = some v ∧ v ≠ []
    · obtain ⟨v, hv, hne⟩ := hgiven
      rw [hnamed v hv hne, hblank]
      constructor
      · exact fun h => ⟨v, hv, hne, h⟩
      · rintro ⟨w, hw, -, h⟩
        rwa [Option.some.inj (hv.symm.trans hw)]
    · -- the default has gone out, and it is not made of blanks
      have hnone : a.headers.get? HeaderName.contentType = none ∨
          a.headers.get? HeaderName.contentType = some [] := by
        cases hv : a.headers.get? HeaderName.contentType with
        | none => exact .inl rfl
        | some v => exact .inr (congrArg some (by_contra fun hne => hgiven ⟨v, hv, hne⟩))
      rw [(hmissing hnone).1]
      refine iff_of_false (HeaderValue.sanitize_ne_nil hlegal hdefault) ?_
      rintro ⟨v, hv, hne, -⟩
      exact hgiven ⟨v, hv, hne⟩

/-- An empty content type with another one after it: the default goes out in the place of both. -/
theorem content_type_of_empty_first :
    let html := Utf8.ofString "text/html; charset=utf-8"
    let k : Sink := { handle := ⟨4096, by decide⟩, version := .http11, defaultContentType := html }
    let t : Turn Sink :=
      { writer := k, body := .stored [], host := { core := (Core.openRequest {}).2 } }
    let steps : List ResponseStep :=
      [.edit fun m => m.append HeaderName.contentType [],
        .edit fun m => m.append HeaderName.contentType [97], .write [120]]
    At t k {} ∧ HeaderValue.isLegal html = true ∧ (∃ b ∈ html, b ≠ 32 ∧ b ≠ 9) ∧
      ∃ block, ((runAll steps t).2.host.core.exchange k.handle).wire = block ++ [120] ∧
        HeaderBlock.contentTypes? block = some [html] := by
  intro html k t steps
  have ht : At t k {} := ⟨rfl, fun _ => rfl, by decide⟩
  have hlegal : HeaderValue.isLegal html = true := by decide +kernel
  have hdefault : ∃ b ∈ html, b ≠ 32 ∧ b ≠ 9 := ⟨116, by decide +kernel, by decide⟩
  obtain ⟨block, first, more, hwire, htypes, hmissing, -, -⟩ :=
    content_type_unless_blank ht rfl rfl hlegal hdefault steps rfl rfl
  have haccepted : accepted (runAll steps t).1 = [120] := by decide +kernel
  obtain ⟨rfl, rfl⟩ := hmissing (.inr (by rfl))
  rw [haccepted] at hwire
  refine ⟨ht, hlegal, hdefault, block, hwire, htypes.trans ?_⟩
  have hsanitized : HeaderValue.sanitize html = html := by decide +kernel
  rw [hsanitized]

/-- A content type made of a tab is legal and not empty. It is kept, the default is not added, and
the block that goes out names no content type. -/
theorem blank_content_type_kept :
    let html := Utf8.ofString "text/html; charset=utf-8"
    let k : Sink := { handle := ⟨4096, by decide⟩, version := .http11, defaultContentType := html }
    let t : Turn Sink :=
      { writer := k, body := .stored [], host := { core := (Core.openRequest {}).2 } }
    let steps : List ResponseStep :=
      [.edit fun m => m.insert HeaderName.contentType [9], .write [120]]
    let block := Utf8.ofString "HTTP/1.1 200 OK\r\nContent-Type: \r\n\r\n"
    At t k {} ∧ HeaderValue.isLegal html = true ∧ (∃ b ∈ html, b ≠ 32 ∧ b ≠ 9) ∧
      HeaderValue.isLegal [9] = true ∧
      ((runAll steps t).1.map fun e => e.2.succeeded) = [true, true] ∧
      ((runAll steps t).2.host.core.exchange k.handle).wire = block ++ [120] ∧
      HeaderBlock.contentTypes? block = some [[]] := by
  intro html k t steps block
  exact ⟨⟨rfl, fun _ => rfl, by decide⟩, by decide +kernel, ⟨116, by decide +kernel, by decide⟩,
    by decide, by decide +kernel, by decide +kernel, by decide +kernel⟩

end ResponseStep

end Gateway
