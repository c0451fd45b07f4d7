import Gateway.Header.Map
import Gateway.Table.Lemmas

/-!
# The values of headers

What each change of headers does to the first value of every name. The first value is all that a
handler gets to see of a name, so two sets of headers that agree on it for a name cannot be told
apart by that name, and edits keep it so. Of values that are inserted one after the other only the
last one of each name is left (`values_ofList`).
-/

namespace Gateway

namespace HeaderMap

theorem contains_eq_isSome (h : HeaderMap) (n : HeaderName) : h.contains n = (h.get? n).isSome := by
  rw [contains, Table.contains_eq_isSome, get?, Option.isSome_map]

theorem get?_insert (h : HeaderMap) (n m : HeaderName) (v : HeaderValue) :
    (h.insert n v).get? m = if m = n then some v else h.get? m := by
  show ((h.table.insert n ⟨v, []⟩).get? m).map HeaderValues.first = _
  rw [Table.get?_insert]
  by_cases hm : m = n
  · rw [if_pos hm, if_pos hm]
    rfl
  · rw [if_neg hm, if_neg hm]
    rfl

/-- A value that is added counts only where there is none. -/
theorem get?_append (h : HeaderMap) (n m : HeaderName) (v : HeaderValue) :
    (h.append n v).get? m = if m = n then some ((h.get? m).getD v) else h.get? m := by
  rw [append, contains_eq_isSome]
  cases hn : h.get? n with
  | none =>
    show (h.insert n v).get? m = _
    rw [get?_insert]
    by_cases hm : m = n
    · rw [if_pos hm, if_pos hm, hm, hn]
      rfl
    · rw [if_neg hm, if_neg hm]
  | some first =>
    show ((h.table.modify n fun vs => ⟨vs.first, vs.more ++ [v]⟩).get? m).map HeaderValues.first = _
    rw [Table.get?_modify]
    by_cases hm : m = n
    · rw [if_pos hm, if_pos hm, hm, hn, Option.map_map]
      exact hn
    · rw [if_neg hm, if_neg hm]
      rfl

theorem get?_remove (h : HeaderMap) (n m : HeaderName) :
    (h.remove n).get? m = if m = n then none else h.get? m := by
  show ((h.table.swapErase n).get? m).map HeaderValues.first = _
  rw [Table.get?_swapErase]
  by_cases hm : m = n
  · rw [if_pos hm, if_pos hm]
    rfl
  · rw [if_neg hm, if_neg hm]
    rfl

/-- A name with one value, as it stands in the table. -/
def entryOf (x : HeaderName × HeaderValue) : HeaderName × HeaderValues :=
  (x.1, ⟨x.2, []⟩)

theorem table_foldl_insert (l : List (HeaderName × HeaderValue)) (h : HeaderMap) :
    (l.foldl (fun h x => h.insert x.1 x.2) h).table =
      (l.map entryOf).foldl (fun t e => t.insert e.1 e.2) h.table := by
  induction l generalizing h with
  | nil => rfl
  | cons x l ih => exact ih (h.insert x.1 x.2)

/-- Headers with different names are kept as they come. -/
theorem toList_ofList {l : List (HeaderName × HeaderValue)} (hl : (l.map Prod.fst).Nodup) :
    (ofList l).toList = l := by
  have hnodup : ((Table.empty.entries ++ l.map entryOf).map Prod.fst).Nodup := by
    show ((l.map entryOf).map Prod.fst).Nodup
    rw [List.map_map]
    exact hl
  have hentries : (ofList l).table.entries = l.map entryOf := by
    rw [ofList, table_foldl_insert]
    exact Table.entries_foldl_insert (l.map entryOf) hnodup
  rw [toList, hentries, List.flatMap_map]
  exact List.flatMap_singleton' l

/-! ### All values of a name -/

/-- All values of a name, in order. -/
def values (h : HeaderMap) (n : HeaderName) : List HeaderValue :=
  ((h.table.get? n).map HeaderValues.toList).getD []

theorem contains_iff_values_ne_nil (h : HeaderMap) (n : HeaderName) :
    h.contains n = true ↔ h.values n ≠ [] := by
  rw [contains, Table.contains_eq_isSome, values]
  cases h.table.get? n with
  | none => simp
  | some vs => simp [HeaderValues.toList]

/-- An inserted value is the only one of its name. -/
theorem values_insert_self (h : HeaderMap) (n : HeaderName) (v : HeaderValue) :
    (h.insert n v).values n = [v] := by
  show (((h.table.insert n ⟨v, []⟩).get? n).map HeaderValues.toList).getD [] = [v]
  rw [Table.get?_insert, if_pos rfl]
  rfl

theorem values_eq_nil_or_cons (h : HeaderMap) (n : HeaderName) :
    h.get? n = none ∧ h.values n = [] ∨
      ∃ first more, h.get? n = some first ∧ h.values n = first :: more := by
  rw [get?, values]
  cases h.table.get? n with
  | none => exact .inl ⟨rfl, rfl⟩
  | some vs => exact .inr ⟨vs.first, vs.more, rfl, rfl⟩

/-- All values of a name stand in the list of all headers, in order. -/
theorem map_snd_filter_toList (h : HeaderMap) (n : HeaderName) :
    (h.toList.filter fun x => x.1 = n).map Prod.snd = h.values n := by
  have hentry : ∀ e : HeaderName × HeaderValues,
      ((e.2.toList.map fun v => (e.1, v)).filter fun x => x.1 = n).map Prod.snd =
        if e.1 = n then e.2.toList else [] := by
    intro e
    rw [List.filter_map]
    by_cases he : e.1 = n
    · simp [he, Function.comp_def]
    · simp [he, Function.comp_def]
  rw [toList, List.filter_flatMap, List.map_flatMap]
  simp only [hentry, values]
  obtain ⟨⟨es, hnodup⟩⟩ := h
  induction es with
  | nil => rfl
  | cons e es ih =>
    rw [List.map_cons, List.nodup_cons] at hnodup
    rw [List.flatMap_cons, ih hnodup.2]
    by_cases he : e.1 = n
    · -- no other entry has this name
      have hrest : es.find? (fun e => e.1 = n) = none :=
        Option.map_eq_none_iff.mp ((Table.get?_eq_none_iff ⟨es, hnodup.2⟩ n).mpr (he ▸ hnodup.1))
      simp [he, hrest, Table.get?]
    · simp [he, Table.get?]

/-- Of the values that are inserted under a name the last one is kept, and only that one. -/
theorem values_ofList (l : List (HeaderName × HeaderValue)) (n : HeaderName) :
    (ofList l).values n =
      match (l.filter fun x => x.1 = n).getLast? with
      | none => []
      | some x => [x.2] := by
  have hname : (fun e : HeaderName × HeaderValues => decide (e.1 = n)) ∘ entryOf =
      fun x => decide (x.1 = n) := rfl
  rw [values, ofList, table_foldl_insert, Table.get?_foldl_insert, List.filter_map,
    List.getLast?_map, hname]
  cases (l.filter fun x => x.1 = n).getLast? <;> rfl

/-! ### Agreement -/

/-- Headers whose first values differ at most under the name `n`. -/
def AgreeBeside (n : HeaderName) (h h' : HeaderMap) : Prop :=
  ∀ m, m ≠ n → h.get? m = h'.get? m

/-- Whether an edit changes each name by what stands under it. -/
def IsPointwise (f : HeaderMap → HeaderMap) : Prop :=
  ∀ {h h' : HeaderMap} {m : HeaderName}, h.get? m = h'.get? m → (f h).get? m = (f h').get? m

theorem isPointwise_insert (n : HeaderName) (v : HeaderValue) :
    IsPointwise fun h => h.insert n v := by
  intro h h' m hm
  rw [get?_insert, get?_insert, hm]

theorem isPointwise_append (n : HeaderName) (v : HeaderValue) :
    IsPointwise fun h => h.append n v := by
  intro h h' m hm
  rw [get?_append, get?_append, hm]

theorem isPointwise_remove (n : HeaderName) : IsPointwise fun h => h.remove n := by
  intro h h' m hm
  rw [get?_remove, get?_remove, hm]

end HeaderMap

end Gateway
