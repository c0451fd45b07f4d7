import Gateway.Proofs.Request.Headers
import Gateway.Proofs.Request.Uri

/-!
# The host of a request

One variable names the host, and it is read twice: as the authority of the URI, by the rules of
authorities, and as a header, by the rules of values. The first are the stricter ones
(`Authority.KeepsRules.legal`), so a host that the URI has taken is never passed over as a header
(`host_eq_authority`).
-/

namespace Gateway

/-- The host that a request is for. -/
def HeaderName.host : HeaderName := ⟨"host", by decide, by decide, by decide⟩

/-- A text that keeps the rules of an authority is a legal value of a header. -/
theorem Authority.KeepsRules.legal {text : String} (h : KeepsRules text) :
    ∀ b ∈ Utf8.ofString text, b = 9 ∨ 32 ≤ b ∧ b ≠ 127 := by
  refine HeaderValue.legal_of_codes fun c hc => ?_
  obtain ⟨hlow, hhigh⟩ := codes_of_allowed (h.follows.allowed hc)
  exact ⟨Nat.le_of_lt hlow, hhigh⟩

namespace Environment

/-- The host gives the header of this name when its value is legal, also when it is empty. -/
theorem gives_host_iff {v : String} :
    Gives "HTTP_HOST" v HeaderName.host ↔ ∀ b ∈ Utf8.ofString v, b = 9 ∨ 32 ≤ b ∧ b ≠ 127 := by
  have hstands : StandsFor "HTTP_HOST" HeaderName.host :=
    .inr (.inr ⟨"HOST", rfl, by decide⟩)
  have htype : HeaderName.host ≠ HeaderName.contentType := by decide
  have hlength : HeaderName.host ≠ HeaderName.contentLength := by decide
  simp only [Gives, hstands, htype, hlength, or_self, and_false, not_false_eq_true, and_true,
    true_and]

end Environment

namespace Request

open Environment

/-- The host that a request is for, its authority and its only host header are one text, with user
information and port, and it keeps the rules of an authority. An empty host is a header and no
authority, and without the variable there is neither, unless another one stands for the header. -/
theorem host_eq_authority {e : Environment} {r : Request} (he : e.NamedOnce HeaderName.host)
    (hr : ofEnvironment e = .ok r) :
    (∀ v, e.get? "HTTP_HOST" = some v → v ≠ "" →
      ∃ a, r.uri.authority = some a ∧ a.text = v ∧ Authority.KeepsRules v ∧
        r.headers.values HeaderName.host = [Utf8.ofString v]) ∧
    (e.get? "HTTP_HOST" = some "" →
      r.uri.authority = none ∧ r.headers.values HeaderName.host = [[]]) ∧
    (e.get? "HTTP_HOST" = none →
      r.uri.authority = none ∧
        ((∀ key, (e.get? key).isSome → ¬StandsFor key HeaderName.host) →
          r.headers.values HeaderName.host = [])) := by
  obtain ⟨-, -, huri, hheaders, -, -⟩ := ofEnvironment_eq_ok_iff.mp hr
  obtain ⟨-, -, hauthority⟩ := Uri.ofParts_eq_ok (ofParts_of_uri huri)
  obtain ⟨hmap, -⟩ := headers_eq_ok_iff.mp hheaders
  rw [site, Option.map_map] at hauthority
  have hnone : e.getNonEmpty? "HTTP_HOST" = none → r.uri.authority = none := by
    intro h
    rw [h] at hauthority
    exact Option.map_eq_none_iff.mp hauthority
  refine ⟨fun v hget hne => ?_, fun hget => ⟨hnone ?_, ?_⟩, fun hget => ⟨hnone ?_, fun hother => ?_⟩⟩
  · rw [getNonEmpty?_eq_some_iff.mpr ⟨hget, hne⟩] at hauthority
    obtain ⟨a, ha, rfl⟩ : ∃ a, r.uri.authority = some a ∧ a.text = v :=
      Option.map_eq_some_iff.mp hauthority
    have hrules := a.keepsRules_text hne
    refine ⟨a, ha, rfl, hrules, ?_⟩
    rw [hmap]
    exact values_headerMap_of_gives he.givenOnce hget (gives_host_iff.mpr hrules.legal)
  · exact getNonEmpty?_eq_none_iff.mpr (.inr hget)
  · rw [hmap]
    refine values_headerMap_of_gives he.givenOnce hget (gives_host_iff.mpr fun b hb => ?_)
    exact absurd hb List.not_mem_nil
  · exact getNonEmpty?_eq_none_iff.mpr (.inl hget)
  · rw [hmap]
    refine values_headerMap_of_none fun key v hkey hgives => hother key ?_ hgives.1
    rw [hkey]
    rfl

/-- User information with an escape, a bracketed address and a port: what is no name of a host alone
is kept in both places. -/
theorem host_with_user_and_port :
    let e := Environment.ofList
      [("REQUEST_METHOD", "GET"), ("HTTP_HOST", "u%41:p@[::1]:80"), ("HTTP_HOST_", "x")]
    e.NamedOnce HeaderName.host ∧ ∃ r a, ofEnvironment e = .ok r ∧ r.uri.authority = some a ∧
      a.text = "u%41:p@[::1]:80" ∧
      r.headers.values HeaderName.host = [Utf8.ofString "u%41:p@[::1]:80"] := by
  intro e
  have he : ∀ n, e.NamedOnce n := namedOnce_of_nodup (by decide +kernel)
  obtain ⟨r, hr⟩ := exists_of_isOk (e := e) (by decide +kernel)
  obtain ⟨a, ha, htext, -, hvalues⟩ :=
    (host_eq_authority (he _) hr).1 "u%41:p@[::1]:80" (by decide +kernel) (by decide)
  exact ⟨he _, r, a, hr, ha, htext, hvalues⟩

end Request

end Gateway
