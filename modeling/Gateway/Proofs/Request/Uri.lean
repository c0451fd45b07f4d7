import Gateway.Proofs.Request.Parts
import Gateway.Proofs.Uri.Authority
import Gateway.Proofs.Uri.Target

/-!
# The URI of a request

The text of path and query is put together from variables, and then cut again at its own question
marks and number signs, wherever they came from (`Target.Cut`). So `uri_assembled` tells every part
of the URI from the variables, and where the variables are free of these marks, what was put
together comes apart again as it was (`cut_wanted`).
-/

namespace Gateway

/-! ### The parts of a URI -/

theorem Uri.ofParts_eq_ok {site : Option (String × String)} {target : String} {u : Uri}
    (h : ofParts site target = .ok u) :
    Target.parse target.toList = .ok u.target ∧ u.scheme = site.map Prod.fst ∧
      u.authority.map Authority.text = site.map Prod.snd := by
  cases site with
  | none =>
    rw [ofParts] at h
    cases hparse : Target.parse target.toList with
    | error d => rw [hparse] at h; cases h
    | ok t =>
      rw [hparse] at h
      cases h
      exact ⟨rfl, rfl, rfl⟩
  | some x =>
    obtain ⟨scheme, host⟩ := x
    rw [ofParts] at h
    cases hauthority : Authority.parse host.toList with
    | error d => rw [hauthority] at h; cases h
    | ok a =>
      cases hparse : Target.parse target.toList with
      | error d => rw [hauthority, hparse] at h; cases h
      | ok t =>
        rw [hauthority, hparse] at h
        cases h
        exact ⟨rfl, rfl, congrArg some (Authority.text_of_parse hauthority)⟩

/-- The path as it is read: a slash stands for an empty one before a query or behind a host. -/
theorem Uri.path_eq_ite (u : Uri) :
    u.path = if u.target.path = "" ∧ (u.query.isSome ∨ u.scheme.isSome) then "/"
      else u.target.path := by
  rw [path, query]
  by_cases hempty : u.target.path = ""
  · simp [hempty]
  · simp [hempty]

namespace Environment

variable {e : Environment}

/-- Mount point and path, a slash when both are empty. -/
def plainPath (e : Environment) : String :=
  if e.getD "SCRIPT_NAME" ++ e.getD "PATH_INFO" = "" then "/"
  else e.getD "SCRIPT_NAME" ++ e.getD "PATH_INFO"

/-- The query string, if it is not empty. -/
def plainQuery (e : Environment) : Option String :=
  if e.getD "QUERY_STRING" = "" then none else some (e.getD "QUERY_STRING")

/-- The text of path and query: the raw one if it is not empty, and otherwise one that is put
together. -/
def wanted (e : Environment) : String :=
  if e.getD "REQUEST_URI" = "" then e.plainPath ++ e.plainQuery.elim "" ("?" ++ ·)
  else e.getD "REQUEST_URI"

/-- The connection was encrypted, as one of two variables says. -/
def Encrypted (e : Environment) : Prop :=
  (e.getD "HTTPS").toLower = "on" ∨ e.getD "HTTPS" = "1" ∨
    (e.getD "UWSGI_SCHEME").toLower = "https"

instance : Decidable e.Encrypted :=
  inferInstanceAs (Decidable (_ ∨ _ ∨ _))

theorem target_eq_wanted : e.target = e.wanted := by
  rw [target, wanted, plainPath, plainQuery, getNonEmpty?_eq_ite, getNonEmpty?_eq_ite]
  by_cases hraw : e.getD "REQUEST_URI" = ""
  · rw [if_pos hraw, if_pos hraw]
    simp only [String.isEmpty_iff]
    by_cases hquery : e.getD "QUERY_STRING" = ""
    · rw [if_pos hquery]
      rfl
    · rw [if_neg hquery]
      rfl
  · rw [if_neg hraw, if_neg hraw]

theorem isSecure_iff : e.isSecure = true ↔ e.Encrypted := by
  have hsame : ∀ v s : String, s.toList.map Char.toLower = s.toList →
      (sameIgnoringCase v s = true ↔ v.toLower = s) := by
    intro v s hs
    rw [sameIgnoringCase, decide_eq_true_eq, hs, ← String.toList_map, String.toList_inj]
    rfl
  have hsecure : e.isSecure = true ↔
      (sameIgnoringCase (e.getD "HTTPS") "on" = true ∨ e.getD "HTTPS" = "1") ∨
        sameIgnoringCase (e.getD "UWSGI_SCHEME") "https" = true := by
    -- an empty text is none of these
    rw [isSecure, getD, getD]
    cases e.get? "HTTPS" <;> cases e.get? "UWSGI_SCHEME" <;> simp [sameIgnoringCase]
  rw [hsecure, hsame _ "on" (by decide), hsame _ "https" (by decide), or_assoc]
  exact Iff.rfl

theorem site_eq_ite :
    e.site = if e.getD "HTTP_HOST" = "" then none
      else some (if e.Encrypted then "https" else "http", e.getD "HTTP_HOST") := by
  rw [site, getNonEmpty?_eq_ite]
  simp only [isSecure_iff]
  by_cases hhost : e.getD "HTTP_HOST" = ""
  · rw [if_pos hhost, if_pos hhost, Option.map_none]
  · rw [if_neg hhost, if_neg hhost, Option.map_some]

theorem ofParts_of_uri {u : Uri} (h : e.uri = .ok u) : Uri.ofParts e.site e.target = .ok u := by
  rw [uri] at h
  cases hparts : Uri.ofParts e.site e.target with
  | error d => rw [hparts] at h; cases h
  | ok u' =>
    rw [hparts] at h
    cases h
    rfl

/-! ### Variables without marks -/

theorem plainPath_ne_empty : e.plainPath ≠ "" := by
  rw [plainPath]
  split
  · decide
  · assumption

theorem isPlainPath_plainPath (hname : Target.IsPlainPath (e.getD "SCRIPT_NAME"))
    (hinfo : Target.IsPlainPath (e.getD "PATH_INFO")) : Target.IsPlainPath e.plainPath := by
  rw [plainPath]
  split
  · decide
  · intro c hc
    rw [String.toList_append, List.mem_append] at hc
    exact hc.elim (hname c) (hinfo c)

/-- What was put together comes apart again. -/
theorem cut_wanted (hraw : e.getD "REQUEST_URI" = "")
    (hname : Target.IsPlainPath (e.getD "SCRIPT_NAME"))
    (hinfo : Target.IsPlainPath (e.getD "PATH_INFO"))
    (hquery : '#' ∉ (e.getD "QUERY_STRING").toList) :
    Target.Cut e.wanted e.plainPath e.plainQuery := by
  have hpath := isPlainPath_plainPath hname hinfo
  have hfragment : Target.IsFragment "" := .inl rfl
  rw [wanted, if_pos hraw, plainQuery]
  split
  · exact .bare hpath hfragment
  · have hcut := Target.Cut.asked hpath hquery hfragment
    rw [String.append_empty, String.append_assoc] at hcut
    exact hcut

end Environment

/-! ### The whole -/

namespace Request

open Environment Target

/-- Path and query are what the text of both says when it is cut, where a slash stands for an empty
path before a query or behind a host. The host is kept as it is, and comes with a scheme. Where no
mark stands in the variables, path and query are these variables. -/
theorem uri_assembled {e : Environment} {r : Request} (hr : ofEnvironment e = .ok r) :
    (∃ stem, Cut e.wanted stem r.uri.query ∧
      r.path = if stem = "" ∧ (r.uri.query.isSome ∨ r.uri.scheme.isSome) then "/" else stem) ∧
    (r.uri.authority.map Authority.text =
      if e.getD "HTTP_HOST" = "" then none else some (e.getD "HTTP_HOST")) ∧
    (r.uri.scheme =
      if e.getD "HTTP_HOST" = "" then none
      else if e.Encrypted then some "https" else some "http") ∧
    (e.getD "REQUEST_URI" = "" → IsPlainPath (e.getD "SCRIPT_NAME") →
      IsPlainPath (e.getD "PATH_INFO") → '#' ∉ (e.getD "QUERY_STRING").toList →
        r.path = e.plainPath ∧ r.uri.query = e.plainQuery) := by
  obtain ⟨-, -, huri, -, -, -⟩ := ofEnvironment_eq_ok_iff.mp hr
  obtain ⟨htarget, hscheme, hauthority⟩ := Uri.ofParts_eq_ok (ofParts_of_uri huri)
  have hcut : Cut e.wanted r.uri.target.path r.uri.query := target_eq_wanted ▸ cut_of_parse htarget
  have hpath := r.uri.path_eq_ite
  rw [site_eq_ite] at hscheme hauthority
  refine ⟨⟨_, hcut, hpath⟩, ?_, ?_, ?_⟩
  · rw [hauthority]
    split <;> rfl
  · rw [hscheme]
    split
    · rfl
    · rw [Option.map_some]
      split <;> rfl
  · intro hraw hname hinfo hquery
    obtain ⟨hstem, hrest⟩ := hcut.unique (cut_wanted hraw hname hinfo hquery)
    refine ⟨?_, hrest⟩
    rw [hstem, if_neg fun h => plainPath_ne_empty h.1] at hpath
    exact hpath

/-- What was meant for a mount point becomes a query, and what was meant for a query is lost. -/
theorem query_in_mount_point :
    let e := Environment.ofList
      [("REQUEST_METHOD", "GET"), ("SCRIPT_NAME", "/a?b"), ("PATH_INFO", "/c"),
        ("QUERY_STRING", "x#y"), ("HTTP_HOST", "u@h:1"), ("HTTPS", "ON")]
    ∃ r, ofEnvironment e = .ok r ∧ r.path = "/a" ∧ r.uri.query = some "b/c?x" ∧
      r.uri.authority.map Authority.text = some "u@h:1" ∧ r.uri.scheme = some "https" := by
  intro e
  obtain ⟨r, hr⟩ := exists_of_isOk (e := e) (by decide +kernel)
  obtain ⟨⟨stem, hcut, hpath⟩, hauthority, hscheme, -⟩ := uri_assembled hr
  have hwanted : e.wanted = "/a" ++ "?" ++ "b/c?x" ++ "#y" := by decide +kernel
  have hhere : Cut e.wanted "/a" (some "b/c?x") :=
    hwanted ▸ .asked (by decide) (by decide) (.inr ⟨"y", rfl⟩)
  obtain ⟨rfl, hquery⟩ := hcut.unique hhere
  refine ⟨r, hr, hpath, hquery, ?_, ?_⟩
  · rw [hauthority]
    decide +kernel
  · rw [hscheme]
    decide +kernel

end Request

end Gateway
