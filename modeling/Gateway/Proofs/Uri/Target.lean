import Gateway.Uri.Target
import Mathlib.Data.List.TakeWhile

/-!
# Path and query

A text of path and query is cut at its first question mark and its first number sign: `Cut` says
where, by what the parts may hold. There is one way to cut a text (`Cut.unique`), and it is read at
the cut (`cut_of_parse`).
-/

namespace Gateway

namespace Target

/-! ### Where a text is cut -/

/-- A fragment is empty, or begins with a number sign. -/
def IsFragment (s : String) : Prop :=
  s = "" ∨ ∃ rest, s = "#" ++ rest

/-- A path has none of the marks at which a text is cut. -/
def IsPlainPath (s : String) : Prop :=
  ∀ c ∈ s.toList, c ≠ '?' ∧ c ≠ '#'

instance (s : String) : Decidable (IsPlainPath s) :=
  List.decidableBAll (fun c => c ≠ '?' ∧ c ≠ '#') s.toList

/-- A text is a path, a query after a question mark if there is one before any number sign, and a
fragment. -/
inductive Cut : String → String → Option String → Prop where
  | bare {path fragment : String} (hpath : IsPlainPath path) (hfragment : IsFragment fragment) :
    Cut (path ++ fragment) path none
  | asked {path query fragment : String} (hpath : IsPlainPath path) (hquery : '#' ∉ query.toList)
    (hfragment : IsFragment fragment) :
    Cut (path ++ "?" ++ query ++ fragment) path (some query)

/-! ### The parts of a text -/

section Parts

variable {c : Char} {cs ds : List Char}

theorem decide_ne_of_notMem (hcs : c ∉ cs) : ∀ d ∈ cs, decide (d ≠ c) = true :=
  fun _ hd => decide_eq_true (ne_of_mem_of_not_mem hd hcs)

theorem takeWhile_ne_of_notMem (hcs : c ∉ cs) : cs.takeWhile (· ≠ c) = cs :=
  List.takeWhile_eq_self_iff.mpr (decide_ne_of_notMem hcs)

theorem takeWhile_ne_append (hcs : c ∉ cs) : (cs ++ c :: ds).takeWhile (· ≠ c) = cs := by
  rw [List.takeWhile_append_of_pos (decide_ne_of_notMem hcs),
    List.takeWhile_cons_of_neg (by simp), List.append_nil]

theorem notMem_takeWhile_ne : c ∉ cs.takeWhile (· ≠ c) := by
  intro h
  have hne := List.mem_takeWhile_imp h
  exact of_decide_eq_true hne rfl

/-- What is left at a mark is nothing, or begins with the mark. -/
theorem dropWhile_ne_cases (c : Char) (cs : List Char) :
    cs.dropWhile (· ≠ c) = [] ∨ ∃ rest, cs.dropWhile (· ≠ c) = c :: rest := by
  induction cs with
  | nil => exact .inl rfl
  | cons d cs ih =>
    by_cases hd : d = c
    · exact .inr ⟨cs, by rw [List.dropWhile_cons_of_neg (by simpa using hd), hd]⟩
    · rwa [List.dropWhile_cons_of_pos (by simpa using hd)]

theorem withoutFragment_append {fragment : String} (hcs : '#' ∉ cs)
    (hfragment : IsFragment fragment) : withoutFragment (cs ++ fragment.toList) = cs := by
  rcases hfragment with rfl | ⟨rest, rfl⟩
  · rw [String.toList_empty, List.append_nil]
    exact takeWhile_ne_of_notMem hcs
  · rw [String.toList_append]
    exact takeWhile_ne_append hcs

theorem queryPart_of_notMem (hcs : '?' ∉ cs) : queryPart cs = none := by
  rw [queryPart, List.dropWhile_eq_nil_iff.mpr (decide_ne_of_notMem hcs)]

theorem queryPart_append (hcs : '?' ∉ cs) : queryPart (cs ++ '?' :: ds) = some ds := by
  rw [queryPart, List.dropWhile_append_of_pos (decide_ne_of_notMem hcs),
    List.dropWhile_cons_of_neg (by simp)]

/-- Without a question mark the path is all there is, and otherwise the query is what follows. -/
theorem parts_cases (cs : List Char) :
    queryPart cs = none ∧ pathPart cs = cs ∨
      ∃ q, queryPart cs = some q ∧ cs = pathPart cs ++ '?' :: q := by
  have hwhole : pathPart cs ++ cs.dropWhile (· ≠ '?') = cs := List.takeWhile_append_dropWhile
  rw [queryPart]
  rcases dropWhile_ne_cases '?' cs with hrest | ⟨q, hrest⟩
  · rw [hrest, List.append_nil] at hwhole
    rw [hrest]
    exact .inl ⟨rfl, hwhole⟩
  · rw [hrest] at hwhole
    rw [hrest]
    exact .inr ⟨q, rfl, hwhole.symm⟩

end Parts

variable {text path path' : String} {query query' : Option String}

theorem Cut.eq_parts (h : Cut text path query) :
    pathPart (withoutFragment text.toList) = path.toList ∧
      queryPart (withoutFragment text.toList) = query.map String.toList := by
  cases h with
  | bare hpath hfragment =>
    have hmark : '?' ∉ path.toList := fun h => (hpath _ h).1 rfl
    have hsign : '#' ∉ path.toList := fun h => (hpath _ h).2 rfl
    rw [String.toList_append, withoutFragment_append hsign hfragment]
    exact ⟨takeWhile_ne_of_notMem hmark, queryPart_of_notMem hmark⟩
  | @asked _ query _ hpath hquery hfragment =>
    have hmark : '?' ∉ path.toList := fun h => (hpath _ h).1 rfl
    have hsign : '#' ∉ path.toList ++ '?' :: query.toList := by
      simp only [List.mem_append, List.mem_cons, not_or]
      exact ⟨fun h => (hpath _ h).2 rfl, by decide, hquery⟩
    have htext : (path ++ "?" ++ query).toList = path.toList ++ '?' :: query.toList := by
      simp [String.toList_append]
    rw [String.toList_append, htext, withoutFragment_append hsign hfragment]
    exact ⟨takeWhile_ne_append hmark, queryPart_append hmark⟩

/-- There is one way to cut a text. -/
theorem Cut.unique (h : Cut text path query) (h' : Cut text path' query') :
    path = path' ∧ query = query' := by
  obtain ⟨hpath, hquery⟩ := h.eq_parts
  obtain ⟨hpath', hquery'⟩ := h'.eq_parts
  constructor
  · exact String.toList_inj.mp (hpath.symm.trans hpath')
  · exact Option.map_injective (fun _ _ => String.toList_inj.mp) (hquery.symm.trans hquery')

theorem cut_parts (cs : List Char) :
    Cut (String.ofList cs) (String.ofList (pathPart (withoutFragment cs)))
      ((queryPart (withoutFragment cs)).map String.ofList) := by
  have hsign : '#' ∉ withoutFragment cs := notMem_takeWhile_ne
  have hcs : String.ofList cs =
      String.ofList (withoutFragment cs) ++ String.ofList (cs.dropWhile (· ≠ '#')) := by
    rw [← String.ofList_append, withoutFragment, List.takeWhile_append_dropWhile]
  have hfragment : IsFragment (String.ofList (cs.dropWhile (· ≠ '#'))) := by
    rcases dropWhile_ne_cases '#' cs with hrest | ⟨rest, hrest⟩
    · exact .inl (congrArg String.ofList hrest)
    · rw [hrest]
      exact .inr ⟨String.ofList rest, @String.ofList_append ['#'] rest⟩
  have hpath : IsPlainPath (String.ofList (pathPart (withoutFragment cs))) := by
    intro c hc
    rw [String.toList_ofList] at hc
    have hkept : c ∈ withoutFragment cs := (List.takeWhile_sublist _).subset hc
    exact ⟨ne_of_mem_of_not_mem hc notMem_takeWhile_ne, ne_of_mem_of_not_mem hkept hsign⟩
  rw [hcs]
  rcases parts_cases (withoutFragment cs) with ⟨hquery, hwhole⟩ | ⟨q, hquery, hwhole⟩
  · rw [hwhole] at hpath
    rw [hquery, hwhole]
    exact .bare hpath hfragment
  · have htext : String.ofList (withoutFragment cs) =
        String.ofList (pathPart (withoutFragment cs)) ++ "?" ++ String.ofList q := by
      conv => lhs; rw [hwhole, List.append_cons, String.ofList_append, String.ofList_append]
    -- the query may hold question marks of its own, but the fragment is cut off already
    have hq : '#' ∉ (String.ofList q).toList := by
      rw [String.toList_ofList]
      intro h
      rw [hwhole] at hsign
      exact hsign (List.mem_append_right _ (List.mem_cons_of_mem _ h))
    rw [hquery, htext]
    exact .asked hpath hq hfragment

/-- Path and query are read at the cut. -/
theorem cut_of_parse {t : Target} (h : parse text.toList = .ok t) : Cut text t.path t.query := by
  have hparts := cut_parts text.toList
  rw [String.ofList_toList] at hparts
  rw [parse] at h
  split at h
  · cases h
  split at h
  · next hstar =>
    -- the asterisk is no exception here
    cases h
    rw [hstar] at hparts
    exact hparts
  split at h
  · cases h
  dsimp only at h
  split at h
  · cases h
    exact hparts
  · cases h

end Target

end Gateway
