import Gateway.Proofs.Text.Utf8
import Gateway.Text.Numeral

/-!
# Numerals

A text is a numeral when it is made of digits, after a plus sign at most, and has the value that its
digits have in base ten (`parse?_eq_some_iff`, and `spells_iff` for numbers of 64 bits). The decimal form of a number is one such text.
-/

namespace Gateway.Numeral

/-! ### Reading digits -/

theorem isDigit_eq (c : Char) : isDigit c = c.isDigit := by
  rw [isDigit, Char.isDigit, Bool.eq_iff_iff, Bool.and_eq_true, Bool.and_eq_true,
    decide_eq_true_eq, decide_eq_true_eq, decide_eq_true_eq, decide_eq_true_eq, ge_iff_le,
    UInt32.le_iff_toNat_le, UInt32.le_iff_toNat_le]
  rfl

theorem value_eq (ds : List Char) : value ds = Nat.ofDigitChars 10 ds 0 := by
  have hstep : (fun (n : Nat) (d : Char) => n * 10 + (d.toNat - 0x30)) =
      fun n d => 10 * n + (d.toNat - '0'.toNat) := by
    funext n d
    rw [Nat.mul_comm]
    rfl
  rw [value, hstep]
  rfl

theorem eq_unsigned_or (cs : List Char) : cs = unsigned cs ∨ cs = '+' :: unsigned cs := by
  unfold unsigned
  split
  · exact .inr rfl
  · exact .inl rfl

/-- A plus sign is no digit. -/
theorem unsigned_of_isDigit {ds : List Char} (hds : ∀ c ∈ ds, c.isDigit = true) :
    unsigned ds = ds := by
  unfold unsigned
  split
  · exact absurd (hds '+' List.mem_cons_self) (by decide)
  · rfl

theorem parse?_eq_some_iff {bound n : Nat} {cs : List Char} :
    parse? bound cs = some n ↔ ∃ ds, (cs = ds ∨ cs = '+' :: ds) ∧ ds ≠ [] ∧
      (∀ c ∈ ds, c.isDigit = true) ∧ Nat.ofDigitChars 10 ds 0 = n ∧ n < bound := by
  have hread : parse? bound cs = some n ↔ unsigned cs ≠ [] ∧
      (∀ c ∈ unsigned cs, c.isDigit = true) ∧ Nat.ofDigitChars 10 (unsigned cs) 0 = n ∧
        n < bound := by
    simp only [parse?, List.isEmpty_iff, List.all_eq_true, isDigit_eq, value_eq]
    by_cases hnil : unsigned cs = []
    · simp [hnil]
    · by_cases hdigits : ∀ c ∈ unsigned cs, c.isDigit = true
      · rw [if_neg hnil, if_pos hdigits, Option.ite_none_right_eq_some, Option.some.injEq]
        constructor
        · rintro ⟨hbound, rfl⟩
          exact ⟨hnil, hdigits, rfl, hbound⟩
        · rintro ⟨-, -, rfl, hbound⟩
          exact ⟨hbound, rfl⟩
      · rw [if_neg hnil, if_neg hdigits]
        exact ⟨nofun, fun h => absurd h.2.1 hdigits⟩
  rw [hread]
  constructor
  · intro h
    exact ⟨unsigned cs, eq_unsigned_or cs, h⟩
  · rintro ⟨ds, rfl | rfl, hne, hdigits, hvalue⟩
    · rw [unsigned_of_isDigit hdigits]
      exact ⟨hne, hdigits, hvalue⟩
    · exact ⟨hne, hdigits, hvalue⟩

/-- A text spells a number of 64 bits in digits, after a plus sign at most. -/
def Spells (text : String) (n : Nat) : Prop :=
  n < UInt64.size ∧ ∃ ds, (text.toList = ds ∨ text.toList = '+' :: ds) ∧ ds ≠ [] ∧
    (∀ c ∈ ds, c.isDigit = true) ∧ Nat.ofDigitChars 10 ds 0 = n

theorem spells_iff {text : String} {n : Nat} : Spells text n ↔ parse? bound64 text.toList = some n := by
  rw [parse?_eq_some_iff]
  constructor
  · rintro ⟨hbound, ds, htext, hne, hdigits, hvalue⟩
    exact ⟨ds, htext, hne, hdigits, hvalue, hbound⟩
  · rintro ⟨ds, htext, hne, hdigits, hvalue, hbound⟩
    exact ⟨hbound, ds, htext, hne, hdigits, hvalue⟩

/-! ### Decimal forms -/

theorem isDigit_of_mem_decimal {n : Nat} {c : Char} (hc : c ∈ decimal n) : isDigit c = true :=
  (isDigit_eq c).trans (Nat.isDigit_of_mem_toDigits (by decide) (by decide) hc)

theorem ofDigitChars_decimal (n : Nat) : Nat.ofDigitChars 10 (decimal n) 0 = n :=
  Nat.ofDigitChars_toDigits (by decide) (by decide)

/-- A decimal number below a bound is read as what it was made from. -/
theorem parse?_decimal {bound n : Nat} (hn : n < bound) : parse? bound (decimal n) = some n := by
  have hdigits : ∀ c ∈ decimal n, c.isDigit = true := fun c hc =>
    (isDigit_eq c).symm.trans (isDigit_of_mem_decimal hc)
  exact parse?_eq_some_iff.mpr
    ⟨decimal n, .inl rfl, Nat.toDigits_ne_nil, hdigits, ofDigitChars_decimal n, hn⟩

theorem isAscii_of_mem_decimal {n : Nat} {c : Char} (hc : c ∈ decimal n) : Utf8.IsAscii c := by
  have h := isDigit_of_mem_decimal hc
  rw [isDigit, Bool.and_eq_true, decide_eq_true_eq, decide_eq_true_eq] at h
  exact Nat.lt_of_le_of_lt h.2 (by decide)

end Gateway.Numeral
