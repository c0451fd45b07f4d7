import Gateway.Request.FromEnvironment

/-!
# The parts of a request

A request is read part by part: method, protocol, URI, headers. `ofEnvironment_eq_ok_iff`,
`ofEnvironment_eq_malformed_iff` and `ofEnvironment_eq_overflow` say what becomes of the parts, so that
nobody has to follow the reading itself. All but the headers is read from the values of a few
variables (`requestVariables`), so variables that agree on these, and that both have room for their
headers, describe nearly the same request (`ofEnvironment_congr`).
-/

namespace Gateway

namespace Environment

variable {e e' : Environment} {key v : String}

/-! ### Values that are not empty -/

theorem getNonEmpty?_eq_some_iff : e.getNonEmpty? key = some v ↔ e.get? key = some v ∧ v ≠ "" := by
  rw [getNonEmpty?, Option.filter_eq_some_iff, Bool.not_eq_true', ← Bool.not_eq_true,
    String.isEmpty_iff]

theorem getNonEmpty?_eq_none_iff :
    e.getNonEmpty? key = none ↔ e.get? key = none ∨ e.get? key = some "" := by
  rw [getNonEmpty?, Option.filter_eq_none_iff]
  cases e.get? key with
  | none => simp
  | some v => simp

theorem getNonEmpty?_eq_ite :
    e.getNonEmpty? key = if e.getD key = "" then none else some (e.getD key) := by
  rw [getNonEmpty?, getD]
  cases e.get? key with
  | none => rfl
  | some v => simp [Option.filter_some]

theorem getNonEmpty?_congr (h : e.get? key = e'.get? key) :
    e.getNonEmpty? key = e'.getNonEmpty? key := by
  rw [getNonEmpty?, getNonEmpty?, h]

/-! ### Variables that are read by name -/

/-- The variables that decide whether there is a request, and what it is but for its headers. -/
def requestVariables : List String :=
  ["REQUEST_METHOD", "SERVER_PROTOCOL", "REQUEST_URI", "SCRIPT_NAME", "PATH_INFO", "QUERY_STRING",
    "HTTP_HOST", "HTTPS", "UWSGI_SCHEME", "CONTENT_LENGTH", "REMOTE_ADDR", "REMOTE_PORT"]

section Congr

variable (h : ∀ key ∈ requestVariables, e.get? key = e'.get? key)
include h

theorem method_congr : e.method = e'.method := by
  rw [method, method, getNonEmpty?_congr (h "REQUEST_METHOD" (by decide))]

theorem version_congr : e.version = e'.version := by
  rw [version, version, getNonEmpty?_congr (h "SERVER_PROTOCOL" (by decide))]

theorem target_congr : e.target = e'.target := by
  rw [target, target, getD, getD, getD, getD, h "SCRIPT_NAME" (by decide),
    h "PATH_INFO" (by decide), getNonEmpty?_congr (h "REQUEST_URI" (by decide)),
    getNonEmpty?_congr (h "QUERY_STRING" (by decide))]

theorem uri_congr : e.uri = e'.uri := by
  have hsecure : e.isSecure = e'.isSecure := by
    rw [isSecure, isSecure, h "HTTPS" (by decide), h "UWSGI_SCHEME" (by decide)]
  have hsite : e.site = e'.site := by
    rw [site, site, getNonEmpty?_congr (h "HTTP_HOST" (by decide)), hsecure]
  rw [uri, uri, hsite, target_congr h]

theorem remote_congr : e.remote = e'.remote := by
  rw [remote, remote, getNonEmpty?_congr (h "REMOTE_ADDR" (by decide)),
    getNonEmpty?_congr (h "REMOTE_PORT" (by decide))]

end Congr

/-! ### The headers -/

/-- The length of the body is a number, or is not given. -/
def HasLength (e : Environment) : Prop :=
  ∀ text, e.get? "CONTENT_LENGTH" = some text → text ≠ "" →
    (Numeral.parse? Numeral.bound64 text.toList).isSome

/-- A header map has room for the headers that the variables give. -/
def HasRoom (e : Environment) : Prop :=
  HeaderMap.overflows e.givenHeaders = false

instance (e : Environment) : Decidable e.HasRoom :=
  inferInstanceAs (Decidable (_ = false))

theorem fittedHeaders_of_hasRoom (h : e.HasRoom) : e.fittedHeaders = .ok e.headerMap := by
  rw [fittedHeaders, h]
  rfl

theorem fittedHeaders_of_not_hasRoom (h : ¬e.HasRoom) : e.fittedHeaders = .error .overflow :=
  if_pos (Bool.of_not_eq_false h)

/-- Headers are read in one of three ways: the length is none, there is no room, or they are those
that the variables stand for. -/
theorem headers_cases (e : Environment) :
    (∃ text, e.get? "CONTENT_LENGTH" = some text ∧ text ≠ "" ∧
      Numeral.parse? Numeral.bound64 text.toList = none ∧
      e.headers = .error (.malformed (.badLength text))) ∨
    e.HasLength ∧ ¬e.HasRoom ∧ e.headers = .error .overflow ∨
    e.HasLength ∧ e.HasRoom ∧ e.headers = .ok e.headerMap := by
  have hfitted : e.HasLength → e.headers = e.fittedHeaders →
      e.HasLength ∧ ¬e.HasRoom ∧ e.headers = .error .overflow ∨
        e.HasLength ∧ e.HasRoom ∧ e.headers = .ok e.headerMap := by
    intro hlength hheaders
    by_cases hroom : e.HasRoom
    · exact .inr ⟨hlength, hroom, hheaders.trans (fittedHeaders_of_hasRoom hroom)⟩
    · exact .inl ⟨hlength, hroom, hheaders.trans (fittedHeaders_of_not_hasRoom hroom)⟩
  rw [headers] at hfitted ⊢
  cases hlength : e.getNonEmpty? "CONTENT_LENGTH" with
  | none =>
    rw [hlength] at hfitted
    refine .inr (hfitted (fun text htext hne => ?_) rfl)
    rw [getNonEmpty?_eq_some_iff.mpr ⟨htext, hne⟩] at hlength
    cases hlength
  | some text =>
    obtain ⟨hget, hne⟩ := getNonEmpty?_eq_some_iff.mp hlength
    rw [hlength] at hfitted
    dsimp only at hfitted ⊢
    cases hparse : Numeral.parse? Numeral.bound64 text.toList with
    | none => exact .inl ⟨text, hget, hne, hparse, rfl⟩
    | some n =>
      rw [hparse] at hfitted
      refine .inr (hfitted (fun other hother _ => ?_) rfl)
      obtain rfl : text = other := Option.some.inj (hget.symm.trans hother)
      rw [hparse]
      rfl

theorem not_hasLength {text : String} (hget : e.get? "CONTENT_LENGTH" = some text) (hne : text ≠ "")
    (hparse : Numeral.parse? Numeral.bound64 text.toList = none) : ¬e.HasLength := by
  intro h
  have hnumber := h text hget hne
  rw [hparse] at hnumber
  cases hnumber

/-- Headers fail by the length and for want of room only, and otherwise are those that the variables
stand for. -/
theorem headers_eq_ok_iff {headers : HeaderMap} :
    e.headers = .ok headers ↔ headers = e.headerMap ∧ e.HasLength ∧ e.HasRoom := by
  rcases e.headers_cases with ⟨text, hget, hne, hparse, h⟩ | ⟨-, hroom, h⟩ | ⟨hlength, hroom, h⟩
  · rw [h]
    exact ⟨nofun, fun h => absurd h.2.1 (not_hasLength hget hne hparse)⟩
  · rw [h]
    exact ⟨nofun, fun h => absurd h.2.2 hroom⟩
  · rw [h, Except.ok.injEq, eq_comm]
    exact ⟨fun h => ⟨h, hlength, hroom⟩, And.left⟩

theorem headers_congr (h : ∀ key ∈ requestVariables, e.get? key = e'.get? key)
    (hroom : e'.HasRoom ↔ e.HasRoom) : e'.headers = e.headers.map fun _ => e'.headerMap := by
  have hfitted : e'.fittedHeaders = e.fittedHeaders.map fun _ => e'.headerMap := by
    by_cases h : e.HasRoom
    · rw [fittedHeaders_of_hasRoom h, fittedHeaders_of_hasRoom (hroom.mpr h)]
      rfl
    · rw [fittedHeaders_of_not_hasRoom h, fittedHeaders_of_not_hasRoom (mt hroom.mp h)]
      rfl
  rw [headers, headers, getNonEmpty?_congr (h "CONTENT_LENGTH" (by decide)), hfitted]
  cases e'.getNonEmpty? "CONTENT_LENGTH" with
  | none => rfl
  | some text =>
    dsimp only
    cases Numeral.parse? Numeral.bound64 text.toList <;> rfl

end Environment

/-! ### The whole -/

namespace Request

open Environment

variable {e : Environment} {r : Request} {d : RequestDefect}

/-- A request is read when all its parts are. -/
theorem ofEnvironment_eq_ok_iff :
    ofEnvironment e = .ok r ↔ e.method = .ok r.method ∧ e.version = .ok r.version ∧
      e.uri = .ok r.uri ∧ e.headers = .ok r.headers ∧ r.remote = e.remote ∧ r.environment = e := by
  rw [ofEnvironment]
  constructor
  · intro hr
    cases hmethod : e.method with
    | error d => simp [hmethod] at hr
    | ok m =>
      cases hversion : e.version with
      | error d => simp [hmethod, hversion] at hr
      | ok v =>
        cases huri : e.uri with
        | error d => simp [hmethod, hversion, huri] at hr
        | ok u =>
          cases hheaders : e.headers with
          | error u => simp [hmethod, hversion, huri, hheaders] at hr
          | ok headers =>
            simp only [hmethod, hversion, huri, hheaders, Except.ok.injEq] at hr
            subst hr
            exact ⟨rfl, rfl, rfl, rfl, rfl, rfl⟩
  · rintro ⟨hmethod, hversion, huri, hheaders, hremote, henvironment⟩
    rw [hmethod, hversion, huri, hheaders, ← hremote]
    dsimp only
    conv => lhs; rw [← henvironment]

theorem exists_of_isOk (h : (ofEnvironment e).isOk = true) : ∃ r, ofEnvironment e = .ok r := by
  cases hr : ofEnvironment e with
  | error d => rw [hr] at h; cases h
  | ok r => exact ⟨r, rfl⟩

/-- Variables that agree where they are read by name, and that have room for their headers or not,
fail alike, or describe requests that differ at most in their headers and in the variables
themselves. -/
theorem ofEnvironment_congr {e' : Environment}
    (h : ∀ key ∈ requestVariables, e.get? key = e'.get? key) (hroom : e'.HasRoom ↔ e.HasRoom) :
    ofEnvironment e' = (ofEnvironment e).map fun r =>
      { r with headers := e'.headerMap, environment := e' } := by
  rw [ofEnvironment, ofEnvironment, method_congr h, version_congr h, uri_congr h, remote_congr h,
    headers_congr h hroom]
  cases e'.method with
  | error d => rfl
  | ok m =>
    cases e'.version with
    | error d => rfl
    | ok v =>
      cases e'.uri with
      | error d => rfl
      | ok u => cases e.headers <;> rfl

end Request

end Gateway
