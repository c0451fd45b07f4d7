import Gateway.Proofs.Header.Map
import Mathlib.Data.Finset.Card

/-!
# The room in a header map

A header map has room for `maxNames` names. `names` are the names of some headers, each counted once,
and they are as many as the map has that the headers make. So a map is found full by headers that are
inserted one after the other exactly when it `overflows` (`foldlM_insert?`). Headers whose names
differ overflow a map exactly when they are too many (`overflows_of_nodup`), and others may overflow
it only if they are too many as well.
-/

namespace Gateway.HeaderMap

variable {l l' : List (HeaderName × HeaderValue)}

/-- The names of some headers. -/
def names (l : List (HeaderName × HeaderValue)) : Finset HeaderName :=
  (l.map Prod.fst).toFinset

/-! ### Counting names -/

/-- In a sorted list equal texts stand together, so the text changes as often as there are texts. -/
theorem changes_eq_card {texts : List String} (htexts : texts.Pairwise fun a b => a ≤ b) :
    changes texts = texts.toFinset.card := by
  fun_induction changes texts with
  | case1 => rfl
  | case2 a => rfl
  | case3 a l ih =>
    have hsame : (a :: a :: l).toFinset = (a :: l).toFinset := by simp
    rw [ih htexts.of_cons, hsame]
  | case4 a b l hab ih =>
    obtain ⟨hfirst, hrest⟩ := List.pairwise_cons.mp htexts
    have hnew : a ∉ (b :: l).toFinset := by
      rw [List.mem_toFinset]
      intro ha
      rcases List.mem_cons.mp ha with h | h
      · exact hab h
      · have hba : b ≤ a := (List.pairwise_cons.mp hrest).1 a h
        exact hab (String.le_antisymm (hfirst b List.mem_cons_self) hba)
    rw [ih hrest, List.toFinset_cons (a := a), Finset.card_insert_of_notMem hnew]

theorem nameCount_eq_card (l : List (HeaderName × HeaderValue)) :
    nameCount l = (names l).card := by
  have hsorted : ((l.map fun x => x.1.text).mergeSort fun a b => !decide (b < a)).Pairwise
      fun a b => a ≤ b := by
    refine (List.pairwise_mergeSort ?_ ?_ _).imp fun {a b} h => ?_
    · intro a b c hab hbc
      simp only [Bool.not_eq_true', decide_eq_false_iff_not, String.not_lt] at hab hbc ⊢
      exact String.le_trans hab hbc
    · intro a b
      simp only [Bool.or_eq_true, Bool.not_eq_true', decide_eq_false_iff_not, String.not_lt]
      exact String.le_total a b
    · simp only [Bool.not_eq_true', decide_eq_false_iff_not, String.not_lt] at h
      exact h
  have htexts : (l.map fun x => x.1.text).toFinset = (names l).image HeaderName.text := by
    ext text
    simp [names]
  have hinjective : Function.Injective HeaderName.text := fun _ _ => HeaderName.eq_of_text_eq
  rw [nameCount, changes_eq_card hsorted, List.toFinset_eq_of_perm _ _ (List.mergeSort_perm _ _),
    htexts, Finset.card_image_of_injective _ hinjective]

theorem card_names_le (l : List (HeaderName × HeaderValue)) : (names l).card ≤ l.length :=
  (List.toFinset_card_le _).trans_eq (List.length_map Prod.fst)

theorem card_names_of_nodup (hl : (l.map Prod.fst).Nodup) : (names l).card = l.length :=
  (List.toFinset_card_of_nodup hl).trans (List.length_map Prod.fst)

theorem names_mono (h : l ⊆ l') : names l ⊆ names l' := by
  intro n hn
  rw [names, List.mem_toFinset] at hn ⊢
  exact List.map_subset Prod.fst h hn

/-- A map has the names of the headers that were inserted. -/
theorem size_ofList (l : List (HeaderName × HeaderValue)) :
    (ofList l).table.size = (names l).card := by
  have hnames : (ofList l).table.keys.toFinset = names l := by
    ext n
    rw [List.mem_toFinset, ← Table.contains_iff, ← HeaderMap.contains, contains_iff_values_ne_nil,
      values_ofList, names, List.mem_toFinset, List.mem_map]
    cases hlast : (l.filter fun x => x.1 = n).getLast? with
    | none =>
      rw [List.getLast?_eq_none_iff, List.filter_eq_nil_iff] at hlast
      refine iff_of_false (fun h => h rfl) ?_
      rintro ⟨x, hx, hn⟩
      exact hlast x hx (decide_eq_true hn)
    | some x =>
      obtain ⟨hx, hn⟩ := List.mem_filter.mp (List.mem_of_getLast? hlast)
      exact iff_of_true (List.cons_ne_nil _ _) ⟨x, hx, of_decide_eq_true hn⟩
  have hnodup : (ofList l).table.keys.Nodup := (ofList l).table.nodup_keys
  rw [Table.size_eq_length_keys, ← List.toFinset_card_of_nodup hnodup, hnames]

/-! ### Overflow -/

theorem overflows_iff :
    overflows l = true ↔ maxNames < l.length ∧ maxNames ≤ (names l.dropLast).card := by
  rw [overflows, Bool.and_eq_true, decide_eq_true_eq, decide_eq_true_eq, nameCount_eq_card]

theorem overflows_concat (l : List (HeaderName × HeaderValue)) (x : HeaderName × HeaderValue) :
    overflows (l ++ [x]) = true ↔ maxNames ≤ (ofList l).table.size := by
  have hle := card_names_le l
  rw [overflows_iff, List.dropLast_concat, List.length_append, List.length_singleton, size_ofList]
  omega

/-- Headers overflow a map exactly when, inserted one after the other, they find it full. -/
theorem foldlM_insert? (l : List (HeaderName × HeaderValue)) :
    l.foldlM (fun h x => h.insert? x.1 x.2) empty =
      if overflows l then none else some (ofList l) := by
  induction l using List.reverseRecOn with
  | nil => rfl
  | append_singleton l x ih =>
    have hlast : ofList (l ++ [x]) = (ofList l).insert x.1 x.2 := by
      rw [ofList, List.foldl_append]
      rfl
    have hstep : ∀ h : HeaderMap, [x].foldlM (fun h x => h.insert? x.1 x.2) h =
        h.insert? x.1 x.2 := fun h => bind_pure (h.insert? x.1 x.2)
    rw [List.foldlM_append, ih, hlast]
    by_cases hfull : maxNames ≤ (ofList l).table.size
    · rw [if_pos ((overflows_concat l x).mpr hfull)]
      split
      · rfl
      · exact (hstep _).trans (if_neg (Nat.not_lt.mpr hfull))
    · have hearlier : ¬overflows l = true := by
        intro h
        have hsub : names l.dropLast ⊆ names l := names_mono (List.dropLast_subset l)
        have hcard := Finset.card_le_card hsub
        rw [size_ofList] at hfull
        exact hfull ((overflows_iff.mp h).2.trans hcard)
      rw [if_neg hearlier, if_neg fun h => hfull ((overflows_concat l x).mp h)]
      exact (hstep _).trans (if_pos (Nat.lt_of_not_le hfull))

/-- One name more than a map has room for is too many, in whatever order they come. -/
theorem overflows_of_lt_card (h : maxNames < (names l).card) : overflows l = true := by
  cases l using List.reverseRecOn with
  | nil => exact absurd h (Nat.not_lt_zero _)
  | append_singleton l x =>
    have hlast : (names (l ++ [x])).card ≤ (names l).card + 1 := by
      rw [names, List.map_append, List.toFinset_append]
      exact (Finset.card_union_le _ _).trans (Nat.add_le_add_left (List.toFinset_card_le _) _)
    rw [overflows_concat, size_ofList]
    omega

/-- Headers with different names overflow a map when they are too many. -/
theorem overflows_of_nodup (hl : (l.map Prod.fst).Nodup) :
    overflows l = true ↔ maxNames < l.length := by
  have hcard := card_names_of_nodup hl
  exact ⟨fun h => (overflows_iff.mp h).1, fun h => overflows_of_lt_card (hcard ▸ h)⟩

/-- Some of the headers that do not overflow a map do not overflow it either, each name coming once. -/
theorem overflows_mono (hl : (l.map Prod.fst).Nodup) (hsub : l ⊆ l') (h : overflows l = true) :
    overflows l' = true := by
  have hcard := card_names_of_nodup hl
  have hlength := (overflows_of_nodup hl).mp h
  exact overflows_of_lt_card ((hcard ▸ hlength).trans_le (Finset.card_le_card (names_mono hsub)))

end Gateway.HeaderMap
