/-!
# Sets of character codes

A property that the characters of all scripts share or lack is given by a table: the codes that have
it, as closed ranges. A range is looked up from the lowest one on, and the search ends at the first
range above the code; nothing is missed by that, since the ranges ascend (`contains_iff`).
-/

namespace Gateway

namespace CodeSet

/-- Whether every range ends before the next one, and not just before it. -/
def areApart : List (Nat × Nat) → Bool
  | [] => true
  | [r] => r.1 ≤ r.2
  | r :: s :: rs => r.1 ≤ r.2 && r.2 + 1 < s.1 && areApart (s :: rs)

/-- Whether a code lies in one of some ascending ranges. -/
def inRanges : List (Nat × Nat) → Nat → Bool
  | [], _ => false
  | r :: rs, n => r.1 ≤ n && (n ≤ r.2 || inRanges rs n)

theorem lt_of_mem_tail {r : Nat × Nat} {rs : List (Nat × Nat)} (h : areApart (r :: rs) = true) :
    ∀ s ∈ rs, r.2 < s.1 := by
  induction rs generalizing r with
  | nil => simp
  | cons t rs ih =>
    simp only [areApart, Bool.and_eq_true, decide_eq_true_eq] at h
    obtain ⟨⟨hr, ht⟩, hrs⟩ := h
    have hle : t.1 ≤ t.2 := by
      cases rs <;> simp_all [areApart]
    intro s hs
    rcases List.mem_cons.1 hs with rfl | hs
    · omega
    · have := ih hrs s hs
      omega

theorem apart_tail {r : Nat × Nat} {rs : List (Nat × Nat)} (h : areApart (r :: rs) = true) :
    areApart rs = true := by
  cases rs with
  | nil => rfl
  | cons s rs =>
    simp only [areApart, Bool.and_eq_true] at h
    exact h.2

/-- A search that ends early finds what a search of all ranges finds. -/
theorem inRanges_iff {rs : List (Nat × Nat)} (h : areApart rs = true) (n : Nat) :
    inRanges rs n = true ↔ ∃ r ∈ rs, r.1 ≤ n ∧ n ≤ r.2 := by
  induction rs with
  | nil => simp [inRanges]
  | cons r rs ih =>
    have hlt := lt_of_mem_tail h
    have hle : r.1 ≤ r.2 := by
      cases rs <;> simp_all [areApart]
    simp only [inRanges, Bool.and_eq_true, Bool.or_eq_true, decide_eq_true_eq,
      ih (apart_tail h), List.mem_cons, exists_eq_or_imp]
    constructor
    · rintro ⟨hr, hn | hs⟩
      · exact Or.inl ⟨hr, hn⟩
      · exact Or.inr hs
    · rintro (⟨hr, hn⟩ | ⟨s, hs, hsn, hns⟩)
      · exact ⟨hr, Or.inl hn⟩
      · have := hlt s hs
        exact ⟨by omega, Or.inr ⟨s, hs, hsn, hns⟩⟩

end CodeSet

/-- A set of character codes. -/
structure CodeSet where
  /-- Closed ranges, ascending and apart. -/
  ranges : List (Nat × Nat)
  /-- That they are so, which a search that ends early rests on. -/
  apart : CodeSet.areApart ranges = true

namespace CodeSet

def contains (s : CodeSet) (c : Char) : Bool :=
  inRanges s.ranges c.toNat

def size (s : CodeSet) : Nat :=
  s.ranges.foldr (fun r n => r.2 + 1 - r.1 + n) 0

/-- A character is in a set if its code lies in one of the ranges. -/
theorem contains_iff (s : CodeSet) (c : Char) :
    s.contains c = true ↔ ∃ r ∈ s.ranges, r.1 ≤ c.toNat ∧ c.toNat ≤ r.2 :=
  inRanges_iff s.apart c.toNat

end CodeSet

end Gateway
