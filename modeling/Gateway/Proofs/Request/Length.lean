import Gateway.Proofs.Request.Defects
import Gateway.Proofs.Request.Headers

/-!
# The length of the body

A request is refused when its length is no number, but only one variable is asked for it. Any
variable that spells `content-length` after the mark stands for the same header
(`gives_contentLength_iff`), and what it holds goes through as it is. So the length that a handler
sees is a number exactly when no such variable says otherwise (`numeric_length_iff`).
-/

namespace Gateway

/-! ### Lengths as values -/

/-- A length is written in plain octets. -/
theorem IsLength.legal {text : String} (h : IsLength text) :
    ∀ b ∈ Utf8.ofString text, b = 9 ∨ 32 ≤ b ∧ b ≠ 127 := by
  obtain ⟨ds, htext, -, hdigits, -⟩ := h
  have hdigit : ∀ c : Char, c.isDigit = true → 32 ≤ c.toNat ∧ c.toNat < 127 := by
    intro c hc
    obtain ⟨hlow, hhigh⟩ := Char.isDigit_iff_toNat.mp hc
    exact ⟨Nat.le_trans (by decide) hlow, Nat.lt_of_le_of_lt hhigh (by decide)⟩
  have hplain : ∀ c ∈ text.toList, 32 ≤ c.toNat ∧ c.toNat < 127 := by
    intro c hc
    rcases htext with htext | htext
    · exact hdigit c (hdigits c (htext ▸ hc))
    · rcases List.mem_cons.mp (htext ▸ hc) with rfl | hc
      · decide
      · exact hdigit c (hdigits c hc)
  exact HeaderValue.legal_of_codes hplain

/-- The value of a header is a length. -/
def HeaderValue.IsLength (v : HeaderValue) : Prop :=
  ∃ text, v = Utf8.ofString text ∧ Gateway.IsLength text

theorem HeaderValue.isLength_ofString_iff {text : String} :
    HeaderValue.IsLength (Utf8.ofString text) ↔ Gateway.IsLength text := by
  constructor
  · rintro ⟨other, hother, h⟩
    rwa [Utf8.ofString_injective hother]
  · intro h
    exact ⟨text, rfl, h⟩

/-! ### Variables that give a length -/

namespace Environment

/-- What stands after the mark of a variable spells the length: in whatever case, and with
underscores or hyphens. -/
def SpellsLength (rest : String) : Prop :=
  "content-length".toList =
    (rest.toList.map Char.toLower).map fun c => if c = '_' then '-' else c

theorem gives_contentLength_iff {key text : String} :
    Gives key text HeaderName.contentLength ↔
      (key = "CONTENT_LENGTH" ∨ ∃ rest, key = "HTTP_" ++ rest ∧ SpellsLength rest) ∧ text ≠ "" ∧
        ∀ b ∈ Utf8.ofString text, b = 9 ∨ 32 ≤ b ∧ b ≠ 127 := by
  have hstands : StandsFor key HeaderName.contentLength ↔
      key = "CONTENT_LENGTH" ∨ ∃ rest, key = "HTTP_" ++ rest ∧ SpellsLength rest := by
    rw [StandsFor]
    have hother : HeaderName.contentLength.text ≠ "content-type" := by decide
    have hlength : HeaderName.contentLength.text = "content-length" := rfl
    simp only [hother, and_false, false_or]
    simp only [hlength, and_true, SpellsLength]
  rw [Gives, hstands]
  simp only [or_true, and_true, ne_eq]
  exact and_congr_right fun _ => and_comm

/-- A variable with the mark gives the length `text`. -/
def MarkedLength (e : Environment) (text : String) : Prop :=
  ∃ rest, e.get? ("HTTP_" ++ rest) = some text ∧ SpellsLength rest ∧ text ≠ "" ∧
    ∀ b ∈ Utf8.ofString text, b = 9 ∨ 32 ≤ b ∧ b ≠ 127

theorem exists_gives_contentLength_iff {e : Environment} {text : String} :
    (∃ key, e.get? key = some text ∧ Gives key text HeaderName.contentLength) ↔
      e.get? "CONTENT_LENGTH" = some text ∧ text ≠ "" ∧
          (∀ b ∈ Utf8.ofString text, b = 9 ∨ 32 ≤ b ∧ b ≠ 127) ∨
        e.MarkedLength text := by
  simp only [gives_contentLength_iff, MarkedLength]
  constructor
  · rintro ⟨key, hget, rfl | ⟨rest, rfl, hspells⟩, hsays⟩
    · exact .inl ⟨hget, hsays⟩
    · exact .inr ⟨rest, hget, hspells, hsays⟩
  · rintro (⟨hget, hsays⟩ | ⟨rest, hget, hspells, hsays⟩)
    · exact ⟨"CONTENT_LENGTH", hget, .inl rfl, hsays⟩
    · exact ⟨"HTTP_" ++ rest, hget, .inr ⟨rest, rfl, hspells⟩, hsays⟩

end Environment

/-! ### Lengths that a handler sees -/

namespace Request

open Environment

/-- A length is a number when its own variable gives it. Another variable that spells the same
header gives it whatever that variable holds, so that all lengths of a request are numbers exactly
when all such variables hold numbers. -/
theorem numeric_length_iff {e : Environment} {r : Request}
    (he : e.NamedOnce HeaderName.contentLength) (hr : ofEnvironment e = .ok r) :
    (∀ text, e.get? "CONTENT_LENGTH" = some text → text ≠ "" →
      r.headers.values HeaderName.contentLength = [Utf8.ofString text] ∧ IsLength text) ∧
    (∀ text, e.MarkedLength text →
      r.headers.values HeaderName.contentLength = [Utf8.ofString text]) ∧
    ((∀ v ∈ r.headers.values HeaderName.contentLength, HeaderValue.IsLength v) ↔
      ∀ text, e.MarkedLength text → IsLength text) := by
  obtain ⟨-, -, -, hheaders, -, -⟩ := ofEnvironment_eq_ok_iff.mp hr
  obtain ⟨hmap, hchecked, -⟩ := headers_eq_ok_iff.mp hheaders
  have hown : ∀ text, e.get? "CONTENT_LENGTH" = some text → text ≠ "" → IsLength text :=
    fun text hget hne => isSome_parse?_iff.mp (hchecked text hget hne)
  have hgiven : ∀ text, (∃ key, e.get? key = some text ∧ Gives key text HeaderName.contentLength) →
      r.headers.values HeaderName.contentLength = [Utf8.ofString text] := by
    rintro text ⟨key, hget, hgives⟩
    rw [hmap]
    exact values_headerMap_of_gives he.givenOnce hget hgives
  have hmarked : ∀ text, e.MarkedLength text →
      r.headers.values HeaderName.contentLength = [Utf8.ofString text] :=
    fun text h => hgiven text (exists_gives_contentLength_iff.mpr (.inr h))
  refine ⟨fun text hget hne => ⟨hgiven text ?_, hown text hget hne⟩, hmarked, ?_, ?_⟩
  · exact exists_gives_contentLength_iff.mpr (.inl ⟨hget, hne, (hown text hget hne).legal⟩)
  · intro hvalues text h
    rw [hmarked text h] at hvalues
    exact HeaderValue.isLength_ofString_iff.mp (hvalues _ List.mem_cons_self)
  · intro hnumbers v hv
    by_cases hsome : ∃ text key, e.get? key = some text ∧ Gives key text HeaderName.contentLength
    · obtain ⟨text, h⟩ := hsome
      rw [hgiven text h, List.mem_singleton] at hv
      rw [hv, HeaderValue.isLength_ofString_iff]
      -- its own variable has been looked at, and the others hold numbers
      rcases exists_gives_contentLength_iff.mp h with ⟨hget, hne, -⟩ | h
      · exact hown text hget hne
      · exact hnumbers text h
    · have hnone : ∀ key text, e.get? key = some text →
          ¬Gives key text HeaderName.contentLength :=
        fun key text hget hgives => hsome ⟨text, key, hget, hgives⟩
      rw [hmap, values_headerMap_of_none hnone] at hv
      cases hv

/-- A number with a sign comes through as it was written. -/
theorem signed_length :
    let e := Environment.ofList [("CONTENT_LENGTH", "+12"), ("REQUEST_METHOD", "GET")]
    e.NamedOnce HeaderName.contentLength ∧ ∃ r, ofEnvironment e = .ok r ∧
      r.headers.values HeaderName.contentLength = [Utf8.ofString "+12"] ∧ IsLength "+12" := by
  intro e
  have he : ∀ n, e.NamedOnce n := namedOnce_of_nodup (by decide +kernel)
  obtain ⟨r, hr⟩ := exists_of_isOk (e := e) (by decide +kernel)
  exact ⟨he _, r, hr, (numeric_length_iff (he _) hr).1 "+12" (by decide +kernel) (by decide)⟩

/-- A word in place of a number comes through where the length is spelled after the mark. -/
theorem word_for_length :
    let e := Environment.ofList [("REQUEST_METHOD", "GET"), ("HTTP_CONTENT_LENGTH", "ten")]
    (∀ n, e.NamedOnce n) ∧ ∃ r, ofEnvironment e = .ok r ∧
      ∃ v ∈ r.headers.values HeaderName.contentLength, ¬HeaderValue.IsLength v := by
  intro e
  have he : ∀ n, e.NamedOnce n := namedOnce_of_nodup (by decide +kernel)
  have hvalues : (ofEnvironment e).map (fun r => r.headers.values HeaderName.contentLength) =
      .ok [Utf8.ofString "ten"] := by
    decide +kernel
  have hword : ¬IsLength "ten" := by
    rw [← isSome_parse?_iff]
    decide
  cases hr : ofEnvironment e with
  | error d => rw [hr] at hvalues; cases hvalues
  | ok r =>
    rw [hr] at hvalues
    refine ⟨he, r, rfl, Utf8.ofString "ten", ?_, fun h => hword ?_⟩
    · have hten : r.headers.values HeaderName.contentLength = [Utf8.ofString "ten"] :=
        Except.ok.inj hvalues
      rw [hten]
      exact List.mem_cons_self
    · exact HeaderValue.isLength_ofString_iff.mp h

end Request

end Gateway
