import Gateway.Environment.Pending
import Gateway.Table.Lemmas
import Mathlib.Data.Set.Card

/-!
# Environments that wait

What each operation does to the environments that wait, seen through `get?`, and what an environment
holds that octets were added to: for each name, the value that came last.
-/

namespace Gateway

theorem Table.size_eq_ncard {κ ν : Type} [DecidableEq κ] (t : Table κ ν) :
    t.size = {k | (t.get? k).isSome}.ncard := by
  have hkeys : {k | (t.get? k).isSome} = (t.keys.toFinset : Set κ) := by
    ext k
    have hmem : (t.get? k).isSome ↔ k ∈ t.keys := by
      rw [← not_iff_not, ← get?_eq_none_iff, Bool.not_eq_true, Option.isSome_eq_false_iff,
        Option.isNone_iff_eq_none]
    rw [Set.mem_ofPred_eq, hmem, Finset.mem_coe, List.mem_toFinset]
  have hnodup : t.keys.Nodup := t.nodup_keys
  rw [hkeys, Set.ncard_coe_finset, List.toFinset_card_of_nodup hnodup, keys, List.length_map, size]

namespace Environment

/-! ### Variables -/

theorem get?_insert (e : Environment) (name value n : String) :
    (e.insert name value).get? n = if n = name then some value else e.get? n :=
  Table.get?_insert e.vars name value n

theorem beq_iff {d e : Environment} : (d == e) = true ↔ ∀ name, d.get? name = e.get? name :=
  Table.sameValues_iff d.vars e.vars

/-- One more pair of octets is one more variable, or an old one with a new value. -/
theorem ofRawList_concat (l : List (Bytes × Bytes)) (p : Bytes × Bytes) :
    ofRawList (l ++ [p]) = (ofRawList l).insertRaw p.1 p.2 := by
  rw [ofRawList, List.foldl_append]
  rfl

/-- The value that comes last under a name, names and values read as text. -/
def lastValue? (l : List (Bytes × Bytes)) (n : String) : Option String :=
  ((l.filter fun p => Utf8.toStringLossy p.1 = n).getLast?).map fun p => Utf8.toStringLossy p.2

/-- Octets are added as the text that they are read as. -/
theorem ofRawList_eq_ofList (l : List (Bytes × Bytes)) :
    ofRawList l = ofList (l.map fun p => (Utf8.toStringLossy p.1, Utf8.toStringLossy p.2)) := by
  rw [ofList, List.foldl_map]
  rfl

theorem vars_foldl_insert (l : List (String × String)) (e : Environment) :
    (l.foldl (fun e p => e.insert p.1 p.2) e).vars =
      l.foldl (fun t p => t.insert p.1 p.2) e.vars := by
  induction l generalizing e with
  | nil => rfl
  | cons p l ih => exact ih (e.insert p.1 p.2)

/-- Among several values of a variable the last one counts. -/
theorem get?_ofRawList (l : List (Bytes × Bytes)) (n : String) :
    (ofRawList l).get? n = lastValue? l n := by
  rw [get?, ofRawList_eq_ofList, ofList, vars_foldl_insert, Table.get?_foldl_insert,
    List.filter_map, List.getLast?_map, Option.map_map]
  exact Option.or_none

/-- Variables with different names are kept as they come. -/
theorem toList_ofList {l : List (String × String)} (hl : (l.map Prod.fst).Nodup) :
    (ofList l).toList = l := by
  rw [toList, ofList, vars_foldl_insert]
  exact Table.entries_foldl_insert l hl

end Environment

namespace Pending

/-! ### Operations -/

variable (p : Pending) (h j : Handle)

theorem get?_create :
    (p.create h).get? j = if j = h then some Environment.empty else p.get? j :=
  Table.get?_insert p.table h Environment.empty j

theorem get?_add (name value : Bytes) :
    (p.add h name value).2.get? j =
      if j = h then (p.get? j).map fun e => e.insertRaw name value else p.get? j :=
  Table.get?_modify p.table h (fun e => e.insertRaw name value) j

theorem add_fst (name value : Bytes) : (p.add h name value).1 = (p.get? h).isSome :=
  Table.contains_eq_isSome p.table h

theorem get?_discard : (p.discard h).2.get? j = if j = h then none else p.get? j :=
  Table.get?_erase p.table h j

theorem discard_fst : (p.discard h).1 = (p.get? h).isSome :=
  Table.contains_eq_isSome p.table h

theorem get?_take : (p.take h).2.get? j = if j = h then none else p.get? j :=
  Table.get?_erase p.table h j

/-- Where no environment waits there is nothing to add to. -/
theorem add_of_get?_eq_none (hp : p.get? h = none) (name value : Bytes) :
    p.add h name value = (false, p) := by
  have hfst : (p.add h name value).1 = false := by rw [add_fst, hp]; rfl
  have hsnd : (p.add h name value).2 = p := by
    rw [add, Table.modify_of_get?_eq_none hp]
  exact Prod.ext hfst hsnd

theorem discard_of_get?_eq_none (hp : p.get? h = none) : p.discard h = (false, p) := by
  have hfst : (p.discard h).1 = false := by rw [discard_fst, hp]; rfl
  have hsnd : (p.discard h).2 = p := by
    rw [discard, Table.erase_of_get?_eq_none hp]
  exact Prod.ext hfst hsnd

theorem size_eq_ncard : p.size = {h | (p.get? h).isSome}.ncard :=
  p.table.size_eq_ncard

end Pending

end Gateway
