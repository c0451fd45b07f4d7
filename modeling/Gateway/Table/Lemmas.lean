import Gateway.Table.Basic

/-!
# What the operations of a table do to its values

A table is seen through `get?`. `get?_eq_some_iff` ties it to the list of entries, and one equation
for each operation says what becomes of the value of every key (`get?_insert`, `get?_modify`,
`get?_erase`, `get?_swapErase`).
-/

namespace Gateway.Table

variable {κ ν : Type}

theorem size_eq_length_keys (t : Table κ ν) : t.size = t.keys.length :=
  (List.length_map Prod.fst).symm

variable [DecidableEq κ]

/-! ### Values and entries -/

/-- A key has the value that its entry holds: there is one entry for it at most. -/
theorem get?_eq_some_iff (t : Table κ ν) (k : κ) (v : ν) :
    t.get? k = some v ↔ (k, v) ∈ t.entries := by
  obtain ⟨es, h⟩ := t
  simp only [get?]
  induction es with
  | nil => simp
  | cons e es ih =>
    rw [List.map_cons, List.nodup_cons] at h
    by_cases he : e.1 = k
    · have hk : (k, v) ∉ es := fun hm => h.1 (he ▸ List.mem_map_of_mem (f := Prod.fst) hm)
      obtain ⟨a, b⟩ := e
      simp only at he
      subst he
      simp [hk, eq_comm]
    · have hne : (k, v) ≠ e := fun hm => he (hm ▸ rfl)
      simp [he, hne, ih h.2]

theorem get?_eq_none_iff (t : Table κ ν) (k : κ) : t.get? k = none ↔ k ∉ t.keys := by
  simp only [get?, keys, Option.map_eq_none_iff, List.find?_eq_none, List.mem_map,
    decide_eq_true_eq, not_exists, not_and]

theorem contains_eq_isSome (t : Table κ ν) (k : κ) : t.contains k = (t.get? k).isSome := by
  rw [Bool.eq_iff_iff]
  simp [contains, get?, List.find?_isSome]

theorem contains_iff {t : Table κ ν} {k : κ} : t.contains k = true ↔ k ∈ t.keys := by
  rw [contains_eq_isSome, Option.isSome_iff_ne_none, ne_eq, get?_eq_none_iff, Classical.not_not]

/-- Tables with the same entries, in whatever order, give every key the same value. -/
theorem get?_eq_of_perm {t u : Table κ ν} (h : t.entries.Perm u.entries) (k : κ) :
    t.get? k = u.get? k := by
  ext v
  rw [get?_eq_some_iff, get?_eq_some_iff, h.mem_iff]

/-- Tables are compared by the values that they give. -/
theorem sameValues_iff [DecidableEq ν] (t u : Table κ ν) :
    t.sameValues u = true ↔ ∀ k, t.get? k = u.get? k := by
  have hkept : ∀ t u : Table κ ν, (t.entries.all fun e => u.get? e.1 = some e.2) = true ↔
      ∀ k v, t.get? k = some v → u.get? k = some v := by
    intro t u
    simp only [List.all_eq_true, decide_eq_true_eq, Prod.forall, get?_eq_some_iff]
  rw [sameValues, Bool.and_eq_true, hkept, hkept]
  constructor
  · rintro ⟨htu, hut⟩ k
    ext v
    exact ⟨htu k v, hut k v⟩
  · intro h
    exact ⟨fun k v => (h k ▸ id), fun k v => (h k ▸ id)⟩

/-- Nothing is filtered out for a key that is not there. -/
theorem filter_ne_eq_self {es : List (κ × ν)} {k : κ} (h : k ∉ es.map Prod.fst) :
    (es.filter fun e => !decide (e.1 = k)) = es := by
  refine List.filter_eq_self.mpr fun e he => ?_
  have : e.1 ≠ k := fun hk => h (hk ▸ List.mem_map_of_mem he)
  simpa using this

/-! ### Operations -/

@[simp]
theorem get?_empty (k : κ) : (empty : Table κ ν).get? k = none := rfl

theorem get?_map {μ : Type} (f : κ → ν → μ) (t : Table κ ν) (k : κ) :
    (t.map f).get? k = (t.get? k).map (f k) := by
  ext w
  rw [get?_eq_some_iff, Option.map_eq_some_iff]
  simp only [map, List.mem_map, Prod.mk.injEq, Prod.exists]
  constructor
  · rintro ⟨a, b, hm, rfl, rfl⟩
    exact ⟨b, (get?_eq_some_iff t a b).mpr hm, rfl⟩
  · rintro ⟨b, hb, rfl⟩
    exact ⟨k, b, (get?_eq_some_iff t k b).mp hb, rfl, rfl⟩

theorem get?_modify (t : Table κ ν) (k : κ) (f : ν → ν) (j : κ) :
    (t.modify k f).get? j = if j = k then (t.get? j).map f else t.get? j := by
  rw [modify, get?_map]
  by_cases h : j = k <;> simp [h]

theorem find?_upsert (k : κ) (v : ν) (es : List (κ × ν)) (j : κ) :
    (upsert k v es).find? (fun e => e.1 = j) =
      if j = k then some (k, v) else es.find? fun e => e.1 = j := by
  induction es with
  | nil => by_cases hj : j = k <;> simp [upsert, hj, Ne.symm]
  | cons e es ih =>
    rw [upsert]
    by_cases he : e.1 = k
    · by_cases hj : j = k
      · simp [he, hj]
      · have hne : k ≠ j := Ne.symm hj
        simp [he, hj, hne]
    · rw [if_neg he, List.find?_cons, ih, List.find?_cons]
      by_cases hj : j = k
      · subst hj
        simp [he]
      · rw [if_neg hj, if_neg hj]

/-- The inserted key has the new value, and every other key keeps its own. -/
theorem get?_insert (t : Table κ ν) (k : κ) (v : ν) (j : κ) :
    (t.insert k v).get? j = if j = k then some v else t.get? j := by
  rw [get?, insert, find?_upsert, get?]
  by_cases hj : j = k
  · rw [if_pos hj, if_pos hj]
    rfl
  · rw [if_neg hj, if_neg hj]

/-- The erased key has no value, and every other key keeps its own. -/
theorem get?_erase (t : Table κ ν) (k j : κ) :
    (t.erase k).get? j = if j = k then none else t.get? j := by
  ext v
  rw [get?_eq_some_iff]
  by_cases h : j = k
  · simp [erase, h]
  · simp [erase, h, get?_eq_some_iff]

/-- Filling the gap with the last entry leaves the entries that closing it leaves. -/
theorem swapErase_perm (t : Table κ ν) (k : κ) :
    (t.swapErase k).entries.Perm (t.erase k).entries := by
  obtain ⟨es, h⟩ := t
  simp only [swapErase, erase]
  refine ((lastFirst_perm _).append_left _).trans (List.Perm.of_eq ?_)
  induction es with
  | nil => rfl
  | cons e es ih =>
    rw [List.map_cons, List.nodup_cons] at h
    by_cases he : e.1 = k
    · simp [he, filter_ne_eq_self (he ▸ h.1)]
    · simpa [he] using ih h.2

/-- Moving entries about does not show in the values. -/
theorem get?_swapErase (t : Table κ ν) (k j : κ) :
    (t.swapErase k).get? j = if j = k then none else t.get? j := by
  rw [get?_eq_of_perm (swapErase_perm t k), get?_erase]

/-- A new key comes last with its value. -/
theorem upsert_of_notMem {k : κ} {es : List (κ × ν)} (hk : k ∉ es.map Prod.fst) (v : ν) :
    upsert k v es = es ++ [(k, v)] := by
  induction es with
  | nil => rfl
  | cons e es ih =>
    rw [List.map_cons, List.mem_cons, not_or] at hk
    rw [upsert, if_neg (Ne.symm hk.1), ih hk.2, List.cons_append]

/-- A key that is there has its value replaced, and the other entries stay. -/
theorem upsert_of_mem {k : κ} {es : List (κ × ν)} (hes : (es.map Prod.fst).Nodup)
    (hk : k ∈ es.map Prod.fst) (v : ν) :
    upsert k v es = es.map fun e => if e.1 = k then (e.1, v) else e := by
  induction es with
  | nil => exact absurd hk List.not_mem_nil
  | cons e es ih =>
    rw [List.map_cons, List.nodup_cons] at hes
    rw [upsert, List.map_cons]
    by_cases he : e.1 = k
    · have hrest : ∀ e' ∈ es, (if e'.1 = k then (e'.1, v) else e') = e' := by
        intro e' he'
        refine if_neg fun hk' => hes.1 ?_
        rw [he, ← hk']
        exact List.mem_map_of_mem he'
      rw [if_pos he, if_pos he, he, List.map_congr_left hrest, List.map_id']
    · have hmem : k ∈ es.map Prod.fst := (List.mem_cons.mp hk).resolve_left (Ne.symm he)
      rw [if_neg he, if_neg he, ih hes.2 hmem]

/-! ### Changes that change nothing -/

/-- A change of a key's value shows only in the value that is there. -/
theorem modify_congr {t : Table κ ν} {k : κ} {f g : ν → ν}
    (h : ∀ v, t.get? k = some v → f v = g v) : t.modify k f = t.modify k g := by
  have hsame : ∀ e ∈ t.entries, (e.1, if e.1 = k then f e.2 else e.2) =
      (e.1, if e.1 = k then g e.2 else e.2) := by
    rintro ⟨k', v⟩ he
    by_cases hk : k' = k
    · subst hk
      rw [if_pos rfl, if_pos rfl, h v ((get?_eq_some_iff t k' v).mpr he)]
    · rw [if_neg hk, if_neg hk]
  simp only [modify, map, mk.injEq]
  exact List.map_congr_left hsame

theorem modify_id (t : Table κ ν) (k : κ) : t.modify k (fun v => v) = t := by
  simp only [modify, map, ite_self]
  obtain ⟨es, hes⟩ := t
  exact (mk.injEq ..).mpr es.map_id'

theorem modify_modify (t : Table κ ν) (k : κ) (f g : ν → ν) :
    (t.modify k f).modify k g = t.modify k fun v => g (f v) := by
  simp only [modify, map, List.map_map, mk.injEq]
  refine List.map_congr_left fun e _ => ?_
  by_cases hk : e.1 = k <;> simp [hk]

/-! ### Keys that are not there -/

theorem modify_of_get?_eq_none {t : Table κ ν} {k : κ} (hk : t.get? k = none) (f : ν → ν) :
    t.modify k f = t := by
  have hnone : ∀ v, t.get? k = some v → f v = v := by
    intro v hv
    rw [hk] at hv
    cases hv
  rw [modify_congr hnone, modify_id]

theorem erase_of_get?_eq_none {t : Table κ ν} {k : κ} (hk : t.get? k = none) : t.erase k = t := by
  have hkeys : k ∉ t.entries.map Prod.fst := (get?_eq_none_iff t k).mp hk
  obtain ⟨es, hes⟩ := t
  simp only [erase, ne_eq, decide_not, mk.injEq]
  exact filter_ne_eq_self hkeys

/-! ### Filling a table -/

/-- A key that is there keeps its place, and a new one comes last. -/
theorem keys_insert (t : Table κ ν) (k : κ) (v : ν) :
    (t.insert k v).keys = if k ∈ t.keys then t.keys else t.keys ++ [k] :=
  keys_upsert k v t.entries

theorem entries_insert_of_get?_eq_none {t : Table κ ν} {k : κ} (hk : t.get? k = none) (v : ν) :
    (t.insert k v).entries = t.entries ++ [(k, v)] :=
  upsert_of_notMem ((get?_eq_none_iff t k).mp hk) v

theorem entries_insert_of_contains {t : Table κ ν} {k : κ} (hk : t.contains k = true) (v : ν) :
    (t.insert k v).entries = t.entries.map fun e => if e.1 = k then (e.1, v) else e :=
  upsert_of_mem t.nodup_keys (contains_iff.mp hk) v

/-- Pairs whose keys are new and different are appended as they are. -/
theorem entries_foldl_insert (l : List (κ × ν)) {t : Table κ ν}
    (hl : ((t.entries ++ l).map Prod.fst).Nodup) :
    (l.foldl (fun t e => t.insert e.1 e.2) t).entries = t.entries ++ l := by
  induction l generalizing t with
  | nil => exact (List.append_nil t.entries).symm
  | cons e l ih =>
    have hnew : t.get? e.1 = none := by
      rw [get?_eq_none_iff]
      intro hmem
      rw [List.map_append, List.nodup_append] at hl
      exact hl.2.2 e.1 hmem e.1 (by simp) rfl
    have hentries : (t.insert e.1 e.2).entries ++ l = t.entries ++ e :: l := by
      rw [entries_insert_of_get?_eq_none hnew, List.append_assoc]
      rfl
    have hnodup : (((t.insert e.1 e.2).entries ++ l).map Prod.fst).Nodup := by
      rw [hentries]
      exact hl
    rw [List.foldl_cons, ih hnodup, hentries]

/-- Of the pairs with one key the last one counts. -/
theorem get?_foldl_insert (l : List (κ × ν)) (t : Table κ ν) (k : κ) :
    (l.foldl (fun t e => t.insert e.1 e.2) t).get? k =
      (((l.filter fun e => e.1 = k).getLast?).map Prod.snd).or (t.get? k) := by
  induction l generalizing t with
  | nil => rfl
  | cons e l ih =>
    rw [List.foldl_cons, ih, get?_insert]
    by_cases he : e.1 = k
    · rw [if_pos he.symm, List.filter_cons_of_pos (by simpa using he), List.getLast?_cons]
      cases (l.filter fun e => e.1 = k).getLast? <;> rfl
    · rw [if_neg (Ne.symm he), List.filter_cons_of_neg (by simpa using he)]

end Gateway.Table
