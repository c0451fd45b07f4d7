import Gateway.Proofs.Request.Room

/-!
# The headers of a request

The headers of a request are exactly those that its variables give, and what gives none is nothing to
them (`headers_exact`).
-/

namespace Gateway

namespace Request

open Environment

/-- The headers of a request are those that its variables give, each with the variable's value as
its only one. A variable that gives none, say by an illegal name or value, is nothing to them: one
more such variable leaves the headers as they are and, unless it is read by name, all else too. -/
theorem headers_exact {e : Environment} {r : Request} (he : ∀ n, e.NamedOnce n)
    (hr : ofEnvironment e = .ok r) :
    (∀ n, r.headers.contains n = true ↔ ∃ key v, e.get? key = some v ∧ Gives key v n) ∧
      (∀ n key v, e.get? key = some v → Gives key v n →
        r.headers.values n = [Utf8.ofString v]) ∧
      (∀ (key v : String) (e' : Environment), (∀ n, ¬Gives key v n) →
        (e' == e.insert key v) = true →
          (key ∉ requestVariables → ∃ r', ofEnvironment e' = .ok r' ∧ r'.method = r.method ∧
            r'.uri = r.uri ∧ r'.version = r.version ∧ r'.remote = r.remote) ∧
          ∀ r', ofEnvironment e' = .ok r' → ∀ n, e.get? key = none ∨ ¬StandsFor key n →
            r'.headers.values n = r.headers.values n) ∧
      r.environment = e := by
  obtain ⟨-, -, -, hheaders, -, henvironment⟩ := ofEnvironment_eq_ok_iff.mp hr
  obtain ⟨hmap, -, hroom⟩ := headers_eq_ok_iff.mp hheaders
  have hgiven : ∀ n key v, e.get? key = some v → Gives key v n →
      r.headers.values n = [Utf8.ofString v] := by
    intro n key v hget hgives
    rw [hmap]
    exact values_headerMap_of_gives (he n).givenOnce hget hgives
  refine ⟨fun n => ?_, hgiven, fun key v e' hnone hsame => ⟨fun hkey => ?_, ?_⟩, henvironment⟩
  · rw [HeaderMap.contains_iff_values_ne_nil]
    constructor
    · intro hvalues
      by_contra hnot
      simp only [not_exists, not_and] at hnot
      rw [hmap, values_headerMap_of_none hnot] at hvalues
      exact hvalues rfl
    · rintro ⟨key, v, hget, hgives⟩
      rw [hgiven n key v hget hgives]
      exact List.cons_ne_nil _ _
  · have hagree : ∀ name ∈ requestVariables, e.get? name = e'.get? name := by
      intro name hname
      have hne : name ≠ key := fun h => hkey (h ▸ hname)
      rw [beq_iff.mp hsame name, get?_insert, if_neg hne]
    have hgiven : ∀ n name w, e'.get? name = some w → Gives name w n → e.get? name = some w := by
      intro n name w hget hgives
      rw [beq_iff.mp hsame name, get?_insert] at hget
      split at hget
      · next hname =>
        obtain rfl := Option.some.inj hget
        exact absurd (hname ▸ hgives) (hnone n)
      · exact hget
    have hroom' : e'.HasRoom := hroom.mono (fun n => (he n).givenOnce) hgiven
    rw [ofEnvironment_congr hagree (iff_of_true hroom' hroom), hr]
    exact ⟨_, rfl, rfl, rfl, rfl, rfl⟩
  · intro r' hr' n hn
    obtain ⟨-, -, -, hheaders', -, -⟩ := ofEnvironment_eq_ok_iff.mp hr'
    rw [hmap, (headers_eq_ok_iff.mp hheaders').1]
    refine (values_headerMap_congr (he n).givenOnce fun name w hgives => ?_).symm
    rw [beq_iff.mp hsame name, get?_insert]
    by_cases hname : name = key
    · subst hname
      rw [if_pos rfl]
      rcases hn with hfresh | hother
      · rw [hfresh]
        refine iff_of_false (Option.some_ne_none w).symm fun hw => hnone n ?_
        rwa [Option.some.inj hw]
      · exact absurd hgives.1 hother
    · rw [if_neg hname]

/-- An identifier comes through, an empty media type does not, and a line end in some other variable
is nothing to them. -/
theorem headers_beside_line_end :
    let id : HeaderName := ⟨"x-id", by decide, by decide, by decide⟩
    let e := Environment.ofList
      [("HTTP_X_ID", "é 1"), ("CONTENT_TYPE", ""), ("REQUEST_METHOD", "GET"), ("HTTP_A/B", "1")]
    (∀ n, e.NamedOnce n) ∧ ∃ r r', ofEnvironment e = .ok r ∧
      ofEnvironment (e.insert "HTTP_BAD" "\n") = .ok r' ∧
      r'.headers.values id = [Utf8.ofString "é 1"] ∧
      r.headers.contains HeaderName.contentType = false := by
  intro id e
  have he : ∀ n, e.NamedOnce n := namedOnce_of_nodup (by decide +kernel)
  have hok : (ofEnvironment e).isOk = true := by decide +kernel
  obtain ⟨r, hr⟩ : ∃ r, ofEnvironment e = .ok r := by
    cases h : ofEnvironment e with
    | error d => rw [h] at hok; cases hok
    | ok r => exact ⟨r, rfl⟩
  have hgives : Gives "HTTP_X_ID" "é 1" id :=
    ⟨.inr (.inr ⟨"X_ID", by decide, by decide⟩), by decide +kernel, by decide⟩
  have hbad : ∀ n, ¬Gives "HTTP_BAD" "\n" n := fun n h => absurd (h.2.1 10 (by decide)) (by decide)
  obtain ⟨hcontains, hvalues, hdropped, -⟩ := headers_exact he hr
  obtain ⟨hbuilt, hkept⟩ := hdropped "HTTP_BAD" "\n" (e.insert "HTTP_BAD" "\n") hbad
    (beq_iff.mpr fun _ => rfl)
  obtain ⟨r', hr', -⟩ := hbuilt (by decide)
  refine ⟨he, r, r', hr, hr', ?_, ?_⟩
  · rw [hkept r' hr' id (.inl (by decide +kernel))]
    exact hvalues id "HTTP_X_ID" "é 1" (by decide +kernel) hgives
  · rw [Bool.eq_false_iff, ne_eq, hcontains]
    rintro ⟨key, v, hget, htype⟩
    have hempty : e.get? "CONTENT_TYPE" = some "" := by decide +kernel
    obtain rfl : key = "CONTENT_TYPE" :=
      he HeaderName.contentType key _ (by rw [hget]; rfl) (by rw [hempty]; rfl) htype.1
        (.inl ⟨rfl, rfl⟩)
    obtain rfl : v = "" := Option.some.inj (hget.symm.trans hempty)
    exact htype.2.2 ⟨rfl, .inl rfl⟩

end Request

end Gateway
