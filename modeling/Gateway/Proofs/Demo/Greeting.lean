import Gateway.Proofs.Demo.Routes
import Gateway.Proofs.Form
import Gateway.Proofs.Request.Uri
import Gateway.Proofs.Uri.Query

/-!
# The greeting

A form goes into a URI as it is, since its characters are allowed in a query and none of them ends
one. So the parameters of a request are the pairs that were written, the first one where a name
occurs twice, and the greeting is for the one who was named (`greeting_of_form`).
-/

namespace Gateway

open Target (Cut)

/-! ### Parameters -/

/-- The characters of a form may stand in a query. -/
theorem Form.Encodes.isQueryChar {pairs : List (String × String)} {text : String}
    (h : Encodes pairs text) : ∀ c ∈ text.toList, Target.isQueryChar c = true := by
  intro c hc
  rcases h.mem_cases c hc with rfl | rfl | hwritten
  · decide
  · decide
  · exact hwritten.isAscii.induction (P := fun c => IsWritten c → Target.isQueryChar c = true)
      (by decide +kernel) hwritten

/-- A parameter is the first pair with its name. -/
theorem Request.parameter_of_encodes {pairs : List (String × String)} {query : String}
    (hquery : Form.Encodes pairs query) {r : Request} (hr : r.uri.query = some query)
    (name : String) : r.parameter name = (pairs.find? fun p => p.1 = name).map Prod.snd := by
  rw [parameter, hr, Option.bind_some, hquery.means.lookup_eq]

namespace Demo

/-! ### Greetings -/

/-- Who is greeted by which parameter. -/
theorem greeted_eq (r : Request) :
    greeted r = ((r.parameter "name").filter fun name => name ≠ "").getD "World" := by
  rw [greeted]
  cases r.parameter "name" with
  | none => rfl
  | some name =>
    by_cases hname : name = ""
    · simp [hname, Option.filter_some]
    · simp [hname, Option.filter_some]

theorem greeted_eq_world_iff (r : Request) :
    greeted r = "World" ↔
      r.parameter "name" = none ∨ r.parameter "name" = some "" ∨ r.parameter "name" = some "World" := by
  rw [greeted_eq]
  cases r.parameter "name" with
  | none => simp
  | some name =>
    by_cases hname : name = ""
    · simp [hname, Option.filter_some]
    · simp [hname, Option.filter_some]

theorem sends_greeting {r : Request} (hr : r.path = "/hello") :
    Sends (application.serve r) (Reply.text Status.ok ("Hello, " ++ greeted r ++ "!\n")) := by
  rw [serve_eq, if_pos hr]
  exact sends_respond _ _

/-- Two greetings of the same text are for the same one. -/
theorem greeting_injective {s t : String} (h : "Hello, " ++ s ++ "!\n" = "Hello, " ++ t ++ "!\n") :
    s = t := by
  rw [String.append_left_inj, String.append_right_inj] at h
  exact h

/-- However pairs are written as a form, the form is the query of a URI, and the parameters that are
read from it are these pairs, the first one of each name. The greeting is for the name that was
written, and for the world exactly if there is none. -/
theorem greeting_of_form {pairs : List (String × String)} {query : String}
    (hquery : Form.Encodes pairs query) :
    (∀ text front u, Cut text front (some query) →
      (Uri.parse text.toList = .ok u ∨ ∃ site, Uri.ofParts site text = .ok u) →
        u.query = some query) ∧
    (∀ path : String, path.toList.head? = some '/' →
      (∀ c ∈ path.toList, Target.isPathChar c = true) →
      Utf8.octets (path ++ "?" ++ query).toList ≤ Target.maxLength →
        ∃ u, Uri.parse (path ++ "?" ++ query).toList = .ok u ∧
          Uri.ofParts none (path ++ "?" ++ query) = .ok u ∧ u.path = path ∧ u.query = some query) ∧
    (∀ r : Request, r.uri.query = some query → ∀ name,
      r.parameter name = (pairs.find? fun p => p.1 = name).map Prod.snd) ∧
    (∀ r : Request, r.path = "/hello" →
      (∀ v, r.parameter "name" = some v → v ≠ "" →
        Sends (application.serve r) (Reply.text Status.ok ("Hello, " ++ v ++ "!\n"))) ∧
      (Sends (application.serve r) (Reply.text Status.ok "Hello, World!\n") ↔
        r.parameter "name" = none ∨ r.parameter "name" = some "" ∨
          r.parameter "name" = some "World")) := by
  have hasked : ∀ text front u, Cut text front (some query) →
      (Uri.parse text.toList = .ok u ∨ ∃ site, Uri.ofParts site text = .ok u) →
        u.query = some query := by
    intro text front u hcut hu
    have hread : ∃ path, Cut text path u.query := by
      rcases hu with hparse | ⟨site, hparts⟩
      · exact Uri.cut_of_parse hparse
      · exact ⟨_, Target.cut_of_parse (Uri.ofParts_eq_ok hparts).1⟩
    obtain ⟨path, hread⟩ := hread
    exact (hread.unique hcut).2
  refine ⟨hasked, fun path hslash hpath hlength => ?_,
    fun r hr name => Request.parameter_of_encodes hquery hr name, fun r hr => ⟨?_, ?_⟩⟩
  · obtain ⟨t, ht, hparse, hstem, htquery⟩ :=
      Uri.exists_parse_of_query hslash hpath hquery.isQueryChar hlength
    have hparts : Uri.ofParts none (path ++ "?" ++ query) = .ok ⟨none, none, t⟩ := by
      rw [Uri.ofParts, ht]
    refine ⟨_, hparse, hparts, ?_, htquery⟩
    have hne : path ≠ "" := by
      rintro rfl
      cases hslash
    rw [Uri.path_eq_ite, if_neg fun h => hne (hstem ▸ h.1)]
    exact hstem
  · intro v hv hne
    have hgreeted : greeted r = v := by
      rw [greeted_eq, hv]
      simp [Option.filter_some, hne]
    rw [← hgreeted]
    exact @sends_greeting r hr
  · rw [← greeted_eq_world_iff]
    constructor
    · intro hworld
      have hbody := ((@sends_greeting r hr).unique hworld).2
      exact greeting_injective (Utf8.ofString_injective hbody)
    · intro hworld
      have hsends := @sends_greeting r hr
      rwa [hworld] at hsends

/-- A name that is written in three ways, among empty pieces and before another name. -/
theorem greeting_of_escaped_name :
    let query := "&name=%C3%a9+%2B&&name=x&"
    Form.Encodes [("name", "é +"), ("name", "x")] query ∧
      ∃ u, Uri.parse ("/hello" ++ "?" ++ query).toList = .ok u ∧ ∀ r : Request, r.uri = u →
        r.parameter "name" = some "é +" ∧
          Sends (application.serve r) (Reply.text Status.ok ("Hello, " ++ "é +" ++ "!\n")) := by
  intro query
  have hname : Form.TextForm (Utf8.ofString "name") _ := Form.textForm_of_all (by decide)
  have hother : Form.TextForm (Utf8.ofString "x") _ := Form.textForm_of_all (by decide)
  have hescaped : Form.TextForm [0xC3, 0xA9, 0x20, 0x2B] "%C3%a9+%2B".toList :=
    .cons (.escaped (by decide) (by decide)) (.cons (.escaped (by decide) (by decide))
      (.cons .space (.cons (.escaped (by decide) (by decide)) .nil)))
  have hquery : Form.Encodes [("name", "é +"), ("name", "x")] query :=
    ⟨_, .skip (.pair hname hescaped (.skip (.pair hname hother (.skip .nil)))),
      by decide⟩
  obtain ⟨-, hplaced, hparameter, hgreeting⟩ := greeting_of_form hquery
  obtain ⟨u, hparse, -, hpath, hasked⟩ :=
    hplaced "/hello" (by decide) (List.all_eq_true.mp (by decide)) (by decide)
  refine ⟨hquery, u, hparse, fun r hr => ?_⟩
  subst hr
  have hfirst : r.parameter "name" = some "é +" := hparameter r hasked "name"
  exact ⟨hfirst, (hgreeting r hpath).1 "é +" hfirst (by decide)⟩

end Demo

end Gateway
