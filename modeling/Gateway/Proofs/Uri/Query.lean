import Gateway.Proofs.Uri.Authority
import Gateway.Proofs.Uri.Target
import Gateway.Uri.Basic

/-!
# The query of a URI

Scheme and authority hold none of the marks at which path and query are cut, so the query of a whole
URI stands where its text is cut, whatever comes before it (`cut_of_parse`). A path and a query made
of allowed characters are a URI unless they are too long (`exists_parse_of_query`).
-/

namespace Gateway

open Target (Cut IsFragment IsPlainPath)

/-- An authority holds none of the marks at which a text is cut. -/
theorem Authority.isPlainPath_text (a : Authority) : IsPlainPath a.text := by
  intro c hc
  obtain ⟨hfollows, -, -⟩ := defect?_eq_none_iff.mp a.sound
  have hend := isEnd_of_allowed (hfollows.allowed hc)
  constructor
  all_goals
    rintro rfl
    cases hend

/-- What stands before a text and holds no marks becomes part of its path. -/
theorem Target.Cut.after_plain {front text path : String} {query : Option String}
    (h : Cut text path query) (hfront : IsPlainPath front) :
    Cut (front ++ text) (front ++ path) query := by
  have hplain : ∀ {path}, IsPlainPath path → IsPlainPath (front ++ path) := by
    intro path hpath c hc
    rw [String.toList_append, List.mem_append] at hc
    exact hc.elim (hfront c) (hpath c)
  cases h with
  | bare hpath hfragment =>
    rw [← String.append_assoc]
    exact .bare (hplain hpath) hfragment
  | asked hpath hquery hfragment =>
    rw [← String.append_assoc, ← String.append_assoc, ← String.append_assoc]
    exact .asked (hplain hpath) hquery hfragment

namespace Uri

variable {text : String} {u : Uri}

/-! ### Texts with a scheme -/

theorem ne_marks_of_isSchemeChar {c : Char} (hc : isSchemeChar c = true) : c ≠ '?' ∧ c ≠ '#' := by
  constructor
  all_goals
    rintro rfl
    revert hc
    decide

/-- What is cut off as a scheme holds no marks. -/
theorem splitScheme_eq_ok {cs rest : List Char} {scheme : Option String}
    (h : splitScheme cs = .ok (scheme, rest)) :
    ∃ front : String, cs = front.toList ++ rest ∧ IsPlainPath front := by
  have hnothing : ∃ front : String, cs = front.toList ++ cs ∧ IsPlainPath front :=
    ⟨"", rfl, by decide⟩
  rw [splitScheme] at h
  split at h
  · next after hafter =>
    have hcs : cs = (String.ofList (cs.takeWhile isSchemeChar) ++ "://").toList ++ after := by
      rw [String.toList_append, String.toList_ofList, List.append_assoc]
      exact (List.takeWhile_append_dropWhile.symm.trans (congrArg _ hafter))
    have hend : IsPlainPath "://" := by decide
    have hplain : IsPlainPath (String.ofList (cs.takeWhile isSchemeChar) ++ "://") := by
      intro c hc
      rw [String.toList_append, String.toList_ofList, List.mem_append] at hc
      rcases hc with hc | hc
      · exact ne_marks_of_isSchemeChar (List.mem_takeWhile_imp hc)
      · exact hend c hc
    dsimp only at h
    split at h
    · cases h
      exact ⟨_, hcs, hplain⟩
    split at h
    · cases h
      exact hnothing
    split at h
    · cases h
    · cases h
      exact ⟨_, hcs, hplain⟩
  · cases h
    exact hnothing

/-- A text with a scheme or an authority is a scheme, an authority, and a target or nothing. -/
theorem parseAbsolute_eq_ok {cs : List Char} (h : parseAbsolute cs = .ok u) :
    ∃ scheme rest a after t, splitScheme cs = .ok (scheme, rest) ∧
      Authority.split rest = .ok (a, after) ∧ u = ⟨scheme, some a, t⟩ ∧
      (after = [] ∧ t = Target.empty ∨ Target.parse after = .ok t) := by
  rw [parseAbsolute] at h
  cases hscheme : splitScheme cs with
  | error d => rw [hscheme] at h; cases h
  | ok x =>
    obtain ⟨scheme, rest⟩ := x
    rw [hscheme] at h
    dsimp only at h
    split at h
    · cases h
    cases hsplit : Authority.split rest with
    | error d => rw [hsplit] at h; cases h
    | ok y =>
      obtain ⟨a, after⟩ := y
      rw [hsplit] at h
      dsimp only at h
      refine ⟨scheme, rest, a, after, u.target, rfl, hsplit, ?_⟩
      cases scheme with
      | none =>
        dsimp only at h
        split at h
        · next hempty =>
          cases h
          exact ⟨rfl, .inl ⟨List.isEmpty_iff.mp hempty, rfl⟩⟩
        · cases h
      | some s =>
        dsimp only at h
        split at h
        · cases h
        cases hparse : Target.parse after with
        | error d => rw [hparse] at h; cases h
        | ok t =>
          rw [hparse] at h
          cases h
          exact ⟨rfl, .inr rfl⟩

theorem cut_of_parseAbsolute (h : parseAbsolute text.toList = .ok u) :
    ∃ path, Cut text path u.query := by
  obtain ⟨scheme, rest, a, after, t, hscheme, hsplit, rfl, htarget⟩ := parseAbsolute_eq_ok h
  obtain ⟨front, htext, hfront⟩ := splitScheme_eq_ok hscheme
  -- scheme and authority stand before what is cut
  have hwhole : text = front ++ (a.text ++ String.ofList after) := by
    rw [← String.toList_inj, htext, String.toList_append, String.toList_append,
      String.toList_ofList, Authority.split_eq_ok hsplit]
  have hcut : ∃ path, Cut (String.ofList after) path t.query := by
    rcases htarget with ⟨rfl, rfl⟩ | hparse
    · have hnothing : Cut "" "" none := @Cut.bare "" "" (by decide) (.inl rfl)
      exact ⟨"", hnothing⟩
    · exact ⟨_, Target.cut_of_parse (String.toList_ofList ▸ hparse)⟩
  obtain ⟨path, hcut⟩ := hcut
  rw [hwhole]
  exact ⟨_, (hcut.after_plain a.isPlainPath_text).after_plain hfront⟩

/-! ### Any text -/

/-- The query of a URI is what stands between its first question mark and its first number sign. -/
theorem cut_of_parse (h : parse text.toList = .ok u) : ∃ path, Cut text path u.query := by
  unfold parse at h
  split at h
  · cases h
  split at h
  · cases h
  · next hstar =>
    cases h
    exact ⟨_, Target.cut_of_parse (t := Target.asterisk) (by rw [hstar]; rfl)⟩
  · cases hparse : Target.parse text.toList with
    | error d => rw [hparse] at h; cases h
    | ok t =>
      rw [hparse] at h
      cases h
      exact ⟨_, Target.cut_of_parse hparse⟩
  · cases hparse : Authority.parse text.toList with
    | error d => rw [hparse] at h; cases h
    | ok a =>
      rw [hparse] at h
      cases h
      obtain rfl := Authority.text_of_parse hparse
      have hcut : Cut (a.text ++ "") a.text none := .bare a.isPlainPath_text (.inl rfl)
      rw [String.append_empty] at hcut
      exact ⟨_, hcut⟩
  · exact cut_of_parseAbsolute h

/-- A text of allowed characters that begins with a slash is a target, if it is not too long. -/
theorem exists_parse_of_allowed {cs : List Char}
    (hlength : Utf8.octets ('/' :: cs) ≤ Target.maxLength)
    (hpath : ∀ c ∈ Target.pathPart (Target.withoutFragment ('/' :: cs)),
      Target.isPathChar c = true)
    (hquery : ∀ c ∈ (Target.queryPart (Target.withoutFragment ('/' :: cs))).getD [],
      Target.isQueryChar c = true) :
    ∃ t, Target.parse ('/' :: cs) = .ok t ∧ parse ('/' :: cs) = .ok ⟨none, none, t⟩ := by
  have hstar : '/' :: cs ≠ ['*'] := fun h => absurd (List.cons.inj h).1 (by decide)
  have hbegin : Target.mayBegin ('/' :: cs) = true := rfl
  have hall : ((Target.pathPart (Target.withoutFragment ('/' :: cs))).all Target.isPathChar &&
      ((Target.queryPart (Target.withoutFragment ('/' :: cs))).getD []).all
        Target.isQueryChar) = true := by
    rw [Bool.and_eq_true, List.all_eq_true, List.all_eq_true]
    exact ⟨hpath, hquery⟩
  obtain ⟨t, ht⟩ : ∃ t, Target.parse ('/' :: cs) = .ok t := by
    rw [Target.parse, dif_neg (Nat.not_lt.mpr hlength), if_neg hstar, hbegin]
    exact ⟨_, if_pos hall⟩
  refine ⟨t, ht, ?_⟩
  unfold parse
  rw [if_neg (Nat.not_lt.mpr hlength)]
  simp only [ht]

/-- A path and a query of allowed characters are a URI, if they are not too long. -/
theorem exists_parse_of_query {path query : String} (hslash : path.toList.head? = some '/')
    (hpath : ∀ c ∈ path.toList, Target.isPathChar c = true)
    (hquery : ∀ c ∈ query.toList, Target.isQueryChar c = true)
    (hlength : Utf8.octets (path ++ "?" ++ query).toList ≤ Target.maxLength) :
    ∃ t, Target.parse (path ++ "?" ++ query).toList = .ok t ∧
      parse (path ++ "?" ++ query).toList = .ok ⟨none, none, t⟩ ∧ t.path = path ∧
      t.query = some query := by
  -- no allowed character is a mark, so the text is cut where it was put together
  have hplain : IsPlainPath path := by
    intro c hc
    have hallowed := hpath c hc
    constructor
    all_goals
      rintro rfl
      revert hallowed
      decide
  have hsign : '#' ∉ query.toList := by
    intro hc
    have hallowed := hquery _ hc
    revert hallowed
    decide
  have hcut := Cut.asked hplain hsign (.inl rfl : IsFragment "")
  rw [String.append_empty] at hcut
  obtain ⟨hstem, hasked⟩ := hcut.eq_parts
  obtain ⟨cs, hcs⟩ : ∃ cs, (path ++ "?" ++ query).toList = '/' :: cs := by
    obtain ⟨rest, hrest⟩ := List.head?_eq_some_iff.mp hslash
    exact ⟨_, by rw [String.toList_append, String.toList_append, hrest]; rfl⟩
  rw [← hstem] at hpath
  have hasked' : ∀ c ∈ (Target.queryPart (Target.withoutFragment
      (path ++ "?" ++ query).toList)).getD [], Target.isQueryChar c = true := by
    rw [hasked]
    exact hquery
  rw [hcs] at hlength hpath hasked'
  obtain ⟨t, ht, hparse⟩ := exists_parse_of_allowed hlength hpath hasked'
  rw [← hcs] at ht hparse
  exact ⟨t, ht, hparse, (Target.cut_of_parse ht).unique hcut⟩

end Uri

end Gateway
