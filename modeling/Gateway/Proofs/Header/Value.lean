import Gateway.Proofs.Text.Lines
import Gateway.Proofs.Text.Utf8
import Mathlib.Data.List.DropRight

/-!
# Header values on the wire

A value is cut into blanks, what `trim` leaves of it, and blanks (`exists_eq_append_trim`), and in no
other way if the middle is to have no blanks at its ends (`trim_append`). Sanitizing a value puts a
space in the place of each line break in that middle and changes nothing else, so what goes on the
wire is a normal form: on one line, without blanks around it, and left alone when it is sanitized
again (`sanitize_normal_form`).
-/

namespace Gateway

namespace HeaderValue

open Lines (IsLine)

variable {v : Bytes}

/-! ### Legal values -/

/-- The octets of a legal value. -/
theorem isLegal_iff : isLegal v = true ↔ ∀ b ∈ v, b = 9 ∨ 32 ≤ b ∧ b ≠ 127 := by
  rw [isLegal, List.all_eq_true]
  refine forall₂_congr fun b _ => ?_
  simp [isLegalByte]

/-- A text of printable ASCII characters is a legal value. -/
theorem legal_of_codes {text : String} (h : ∀ c ∈ text.toList, 32 ≤ c.toNat ∧ c.toNat < 127) :
    ∀ b ∈ Utf8.ofString text, b = 9 ∨ 32 ≤ b ∧ b ≠ 127 := by
  intro b hb
  obtain ⟨hlow, hhigh⟩ := Utf8.codes_of_mem_encode h hb
  refine .inr ⟨UInt8.le_iff_toNat_le.mpr hlow, ?_⟩
  rintro rfl
  exact absurd hhigh (by decide)

/-- A legal value stays on one line. -/
theorem isLine_of_legal (hv : ∀ b ∈ v, b = 9 ∨ 32 ≤ b ∧ b ≠ 127) : IsLine v := by
  intro b hb
  constructor <;> rintro rfl <;> exact absurd (hv _ hb) (by decide)

/-! ### Blanks -/

/-- Space, tab, carriage return, line feed and form feed. -/
def blanks : List UInt8 := [32, 9, 13, 10, 12]

theorem isBlank_iff_mem {b : UInt8} : isBlank b = true ↔ b ∈ blanks := by
  simp only [isBlank, blanks, Bool.or_eq_true, decide_eq_true_eq, List.mem_cons, List.not_mem_nil,
    or_false]
  grind

/-- A legal octet is a blank when it is a space or a tab. -/
theorem isBlank_iff_of_isLegalByte {b : UInt8} (hb : isLegalByte b = true) :
    isBlank b = true ↔ b = 32 ∨ b = 9 := by
  -- the other blanks are control octets
  have hcontrol : b ≠ 10 ∧ b ≠ 12 ∧ b ≠ 13 := by
    refine ⟨?_, ?_, ?_⟩ <;> rintro rfl <;> cases hb
  simp [isBlank, hcontrol.1, hcontrol.2.1, hcontrol.2.2]

/-- Carriage return and line feed are blanks, and so is the space that they become. -/
theorem isBlank_flattenByte (b : UInt8) : isBlank (flattenByte b) = isBlank b := by
  rw [flattenByte]
  split
  · next hline =>
    rw [Bool.or_eq_true, decide_eq_true_eq, decide_eq_true_eq] at hline
    rcases hline with rfl | rfl <;> rfl
  · rfl

/-! ### Trimming -/

/-- A value neither begins nor ends with a blank. -/
structure IsTrimmed (v : Bytes) : Prop where
  first : ∀ b ∈ v.head?, isBlank b = false
  last : ∀ b ∈ v.getLast?, isBlank b = false

/-- Trimming takes blanks away at both ends, and nothing else. -/
theorem exists_eq_append_trim (v : Bytes) : ∃ before after, v = before ++ trim v ++ after ∧
    (∀ b ∈ before, isBlank b = true) ∧ ∀ b ∈ after, isBlank b = true := by
  refine ⟨v.takeWhile isBlank, (v.dropWhile isBlank).rtakeWhile isBlank, ?_,
    fun b hb => List.mem_takeWhile_imp hb, fun b hb => List.mem_rtakeWhile_imp hb⟩
  have hback : trim v ++ (v.dropWhile isBlank).rtakeWhile isBlank = v.dropWhile isBlank :=
    List.rdropWhile_append_rtakeWhile
  rw [List.append_assoc, hback, List.takeWhile_append_dropWhile]

theorem isTrimmed_trim (v : Bytes) : IsTrimmed (trim v) := by
  have hprefix : trim v <+: v.dropWhile isBlank := List.rdropWhile_prefix _ _
  constructor
  · -- what is left begins as it did before the end was trimmed
    intro b hb
    obtain ⟨after, hafter⟩ := hprefix
    have hfirst : (v.dropWhile isBlank).head? = some b := by
      rw [← hafter, List.head?_append, Option.mem_def.mp hb, Option.some_or]
    have hnot := List.head?_dropWhile_not isBlank v
    rw [hfirst] at hnot
    simpa using hnot
  · intro b hb
    obtain ⟨hne, rfl⟩ := List.mem_getLast?_eq_getLast hb
    exact Bool.eq_false_iff.mpr (List.rdropWhile_last_not isBlank _ hne)

/-- Nothing is left of a value when it is made of blanks. -/
theorem trim_eq_nil_iff : trim v = [] ↔ ∀ b ∈ v, isBlank b = true := by
  constructor
  · intro hnil
    obtain ⟨before, after, hv, hbefore, hafter⟩ := exists_eq_append_trim v
    rw [hnil, List.append_nil] at hv
    rw [hv]
    exact fun b hb => (List.mem_append.mp hb).elim (hbefore b) (hafter b)
  · intro h
    exact List.rdropWhile_eq_nil_iff.mpr fun b hb => h b ((List.dropWhile_sublist isBlank).subset hb)

/-- Only one middle part of a value has no blanks at its ends when the rest is blank. -/
theorem trim_append {before middle after : Bytes} (hbefore : ∀ b ∈ before, isBlank b = true)
    (hafter : ∀ b ∈ after, isBlank b = true) (hmiddle : IsTrimmed middle) :
    trim (before ++ middle ++ after) = middle := by
  cases middle with
  | nil =>
    rw [List.append_nil, trim_eq_nil_iff]
    exact fun b hb => (List.mem_append.mp hb).elim (hbefore b) (hafter b)
  | cons c middle =>
    have hc : isBlank c = false := hmiddle.first c rfl
    have hfront : (before ++ c :: middle ++ after).dropWhile isBlank = c :: middle ++ after := by
      rw [List.append_assoc, List.dropWhile_append_of_pos hbefore, List.cons_append,
        List.dropWhile_cons, hc, if_neg Bool.false_ne_true]
    have hback : (c :: middle).reverse.dropWhile isBlank = (c :: middle).reverse := by
      have hlast : (c :: middle).rdropWhile isBlank = c :: middle := by
        rw [List.rdropWhile_eq_self_iff]
        exact fun hne => Bool.eq_false_iff.mp (hmiddle.last _ (List.getLast?_eq_some_getLast hne))
      exact List.reverse_eq_iff.mp hlast
    rw [trim, hfront, List.reverse_append,
      List.dropWhile_append_of_pos fun b hb => hafter b (List.mem_reverse.mp hb), hback,
      List.reverse_reverse]

/-! ### Sanitizing -/

/-- Line breaks become spaces in what is left between the blanks. -/
theorem sanitize_eq_map_trim (v : Bytes) : sanitize v = (trim v).map flattenByte := by
  have hblank : isBlank ∘ flattenByte = isBlank := funext isBlank_flattenByte
  rw [sanitize, trim, List.dropWhile_map, hblank, ← List.map_reverse, List.dropWhile_map, hblank,
    ← List.map_reverse]
  rfl

/-- A sanitized value stays on one line, whatever octets the value has. -/
theorem isLine_sanitize (v : Bytes) : IsLine (sanitize v) := by
  intro b hb
  rw [sanitize_eq_map_trim] at hb
  obtain ⟨c, -, rfl⟩ := List.mem_map.mp hb
  rw [flattenByte]
  split
  · exact ⟨by decide, by decide⟩
  · rename_i hc
    rw [Bool.or_eq_true, not_or, decide_eq_true_eq, decide_eq_true_eq] at hc
    exact hc

theorem isTrimmed_sanitize (v : Bytes) : IsTrimmed (sanitize v) := by
  obtain ⟨hfirst, hlast⟩ := isTrimmed_trim v
  rw [sanitize_eq_map_trim]
  constructor
  · intro b hb
    rw [List.head?_map] at hb
    obtain ⟨c, hc, rfl⟩ := Option.map_eq_some_iff.mp hb
    rw [isBlank_flattenByte, hfirst c hc]
  · intro b hb
    rw [List.getLast?_map] at hb
    obtain ⟨c, hc, rfl⟩ := Option.map_eq_some_iff.mp hb
    rw [isBlank_flattenByte, hlast c hc]

/-- A value on one line is only trimmed. -/
theorem sanitize_of_isLine (hv : IsLine v) : sanitize v = trim v := by
  have hsame : ∀ b ∈ v, flattenByte b = id b := by
    intro b hb
    rw [flattenByte, if_neg]
    · rfl
    · simp [hv b hb]
  rw [sanitize, List.map_congr_left hsame, List.map_id]

/-- A value goes out as nothing when it is made of blanks. -/
theorem sanitize_eq_nil_iff : sanitize v = [] ↔ ∀ b ∈ v, isBlank b = true := by
  rw [sanitize_eq_map_trim, List.map_eq_nil_iff, trim_eq_nil_iff]

/-- A value on one line without blanks at its ends goes out as it is. -/
theorem sanitize_eq_self (hv : IsLine v) (htrimmed : IsTrimmed v) : sanitize v = v := by
  have hnone : ∀ b ∈ ([] : Bytes), isBlank b = true := fun _ => nofun
  have htrim := trim_append hnone hnone htrimmed
  rw [List.nil_append, List.append_nil] at htrim
  rw [sanitize_of_isLine hv, htrim]

/-- What goes on the wire of a value has no line breaks and no blanks at its ends. It is what stands
between blanks in the value, with a space for each line break in it, and so it is empty when the
value is made of blanks. Sanitizing it again changes nothing, and neither does sanitizing a legal
value without space or tab at its ends. -/
theorem sanitize_normal_form (v : Bytes) :
    (∀ b ∈ sanitize v, b ≠ 13 ∧ b ≠ 10) ∧
    (∀ b ∈ blanks, (sanitize v).head? ≠ some b ∧ (sanitize v).getLast? ≠ some b) ∧
    (∃ before middle after, v = before ++ middle ++ after ∧ (∀ b ∈ before, b ∈ blanks) ∧
      (∀ b ∈ after, b ∈ blanks) ∧
      sanitize v = middle.map fun b => if b = 13 ∨ b = 10 then 32 else b) ∧
    (sanitize v = [] ↔ ∀ b ∈ v, b ∈ blanks) ∧
    sanitize (sanitize v) = sanitize v ∧
    ((∀ b ∈ v, b = 9 ∨ 32 ≤ b ∧ b ≠ 127) →
      (∀ b, b = 32 ∨ b = 9 → v.head? ≠ some b ∧ v.getLast? ≠ some b) → sanitize v = v) := by
  simp only [← isBlank_iff_mem]
  have htrimmed := isTrimmed_sanitize v
  refine ⟨isLine_sanitize v, fun b hb => ⟨fun hfirst => ?_, fun hlast => ?_⟩, ?_,
    sanitize_eq_nil_iff, sanitize_eq_self (isLine_sanitize v) htrimmed, fun hlegal hends => ?_⟩
  · rw [htrimmed.first b hfirst] at hb
    cases hb
  · rw [htrimmed.last b hlast] at hb
    cases hb
  · obtain ⟨before, after, hv, hbefore, hafter⟩ := exists_eq_append_trim v
    refine ⟨before, trim v, after, hv, hbefore, hafter, ?_⟩
    rw [sanitize_eq_map_trim]
    refine List.map_congr_left fun b _ => ?_
    simp [flattenByte]
  · -- the blanks of a legal value are its spaces and tabs
    have hgap : ∀ b ∈ v, isBlank b = true → b = 32 ∨ b = 9 := fun b hb =>
      (isBlank_iff_of_isLegalByte (List.all_eq_true.mp (isLegal_iff.mpr hlegal) b hb)).mp
    refine sanitize_eq_self (isLine_of_legal hlegal) ⟨fun b hb => ?_, fun b hb => ?_⟩
    · rw [Bool.eq_false_iff]
      exact fun hblank => (hends b (hgap b (List.mem_of_mem_head? hb) hblank)).1 hb
    · rw [Bool.eq_false_iff]
      exact fun hblank => (hends b (hgap b (List.mem_of_mem_getLast? hb) hblank)).2 hb

/-- Octets beyond ASCII, and blanks inside, go out as they are. -/
theorem accented_value_kept :
    let v : Bytes := [99, 97, 102, 233, 9, 32, 58, 255]
    (∀ b ∈ v, b = 9 ∨ 32 ≤ b ∧ b ≠ 127) ∧
      (∀ b, b = 32 ∨ b = 9 → v.head? ≠ some b ∧ v.getLast? ≠ some b) ∧ sanitize v = v := by
  intro v
  have hlegal : ∀ b ∈ v, b = 9 ∨ 32 ≤ b ∧ b ≠ 127 := isLegal_iff.mp rfl
  have hends : ∀ b, b = 32 ∨ b = 9 → v.head? ≠ some b ∧ v.getLast? ≠ some b := by
    rintro b (rfl | rfl) <;> decide
  exact ⟨hlegal, hends, (sanitize_normal_form v).2.2.2.2.2 hlegal hends⟩

end HeaderValue

end Gateway
