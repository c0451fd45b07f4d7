import Gateway.Proofs.Form.Reading

/-!
# Reading forms back

`Encodes` says how pairs of texts may be written as a form: in any of the ways in which each of their
octets can be written, and with any number of empty pieces between the pairs. However they are
written, the form means these pairs in their order (`Encodes.means`), and so they are read back
(`decode_of_encodes`). A separator inside of a name or a value is always escaped, so that the pieces
come apart before anything is decoded.
-/

namespace Gateway.Form

/-! ### Written forms -/

/-- A character that may stand for itself. -/
def IsLiteral (c : Char) : Prop :=
  c.isAlphanum = true ∨ c = '-' ∨ c = '.' ∨ c = '_' ∨ c = '*'

instance (c : Char) : Decidable (IsLiteral c) :=
  inferInstanceAs (Decidable (_ ∨ _))

/-- The ways to write an octet. -/
inductive OctetForm : UInt8 → List Char → Prop where
  | escaped {b : UInt8} {high low : Char} (hhigh : IsHexDigit (b.toNat / 16) high)
      (hlow : IsHexDigit (b.toNat % 16) low) : OctetForm b ['%', high, low]
  | space : OctetForm 0x20 ['+']
  | literal {c : Char} (hc : IsLiteral c) : OctetForm (UInt8.ofNat c.toNat) [c]

/-- The ways to write octets one after the other. -/
inductive TextForm : Bytes → List Char → Prop where
  | nil : TextForm [] []
  | cons {b : UInt8} {bs : Bytes} {cs ds : List Char} (hb : OctetForm b cs) (hbs : TextForm bs ds) :
      TextForm (b :: bs) (cs ++ ds)

/-- The ways to write pairs as pieces. -/
inductive PieceForms : List (String × String) → List (List Char) → Prop where
  | nil : PieceForms [] []
  /-- An empty piece stands for nothing. -/
  | skip {pairs : List (String × String)} {pieces : List (List Char)}
      (hpairs : PieceForms pairs pieces) : PieceForms pairs ([] :: pieces)
  | pair {name value : String} {ns vs : List Char} {pairs : List (String × String)}
      {pieces : List (List Char)} (hname : TextForm (Utf8.ofString name) ns)
      (hvalue : TextForm (Utf8.ofString value) vs) (hpairs : PieceForms pairs pieces) :
      PieceForms ((name, value) :: pairs) ((ns ++ '=' :: vs) :: pieces)

/-- A text is a form encoding of pairs. -/
def Encodes (pairs : List (String × String)) (text : String) : Prop :=
  ∃ pieces, PieceForms pairs pieces ∧ text.toList = ['&'].intercalate pieces

/-! ### Characters of a form -/

/-- A character that may stand in a written name or value. -/
def IsWritten (c : Char) : Prop :=
  IsLiteral c ∨ c = '%' ∨ c = '+'

instance (c : Char) : Decidable (IsWritten c) :=
  inferInstanceAs (Decidable (_ ∨ _))

variable {b : UInt8} {bs : Bytes} {c : Char} {cs : List Char} {n : Nat}

theorem IsWritten.isAscii (hc : IsWritten c) : Utf8.IsAscii c := by
  rcases hc with (hc | rfl | rfl | rfl | rfl) | rfl | rfl
  · exact Utf8.isAscii_of_isAlphanum hc
  all_goals
    show Char.toNat _ < 128
    decide

theorem IsHexDigit.isLiteral (hn : n < 16) (hc : IsHexDigit n c) : IsLiteral c := by
  have hall : ∀ n < 16, IsLiteral (Nat.digitChar n) ∧ IsLiteral (Nat.digitChar n).toUpper := by
    decide
  rcases hc with rfl | rfl
  · exact (hall n hn).1
  · exact (hall n hn).2

theorem OctetForm.isWritten (hb : OctetForm b cs) : ∀ c ∈ cs, IsWritten c := by
  have hlt : b.toNat < 256 := b.toNat_lt
  cases hb with
  | escaped hhigh hlow =>
    intro c hc
    simp only [List.mem_cons, List.not_mem_nil, or_false] at hc
    rcases hc with rfl | rfl | rfl
    · exact .inr (.inl rfl)
    · exact .inl (hhigh.isLiteral (by omega))
    · exact .inl (hlow.isLiteral (by omega))
  | space => simp [IsWritten]
  | literal hc => simpa using .inl hc

theorem TextForm.isWritten (hbs : TextForm bs cs) : ∀ c ∈ cs, IsWritten c := by
  induction hbs with
  | nil => exact nofun
  | cons hb _ ih => exact List.forall_mem_append.mpr ⟨hb.isWritten, ih⟩

/-- A text of literals is a way to write itself. -/
theorem textForm_of_literals (hcs : ∀ c ∈ cs, IsLiteral c) : TextForm (Utf8.encode cs) cs := by
  rw [Utf8.encode_of_isAscii fun c hc => (IsWritten.isAscii (.inl (hcs c hc)))]
  induction cs with
  | nil => exact .nil
  | cons c cs ih =>
    obtain ⟨hc, hrest⟩ := List.forall_mem_cons.mp hcs
    exact .cons (.literal hc) (ih hrest)

theorem textForm_of_all {s : String} (hs : s.toList.all (fun c => decide (IsLiteral c)) = true) :
    TextForm (Utf8.ofString s) s.toList :=
  textForm_of_literals fun c hc => of_decide_eq_true (List.all_eq_true.mp hs c hc)

/-! ### What is written -/

/-- A literal is neither a percent sign nor a plus sign. -/
theorem IsLiteral.octet_ne (hc : IsLiteral c) : octet c ≠ 0x2B ∧ octet c ≠ 0x25 :=
  (IsWritten.isAscii (.inl hc)).induction
    (P := fun c => IsLiteral c → octet c ≠ 0x2B ∧ octet c ≠ 0x25) (by decide +kernel) hc

/-- However an octet is written, it is meant. -/
theorem OctetForm.octetsMean (hb : OctetForm b cs) {rest meant : Bytes} (h : OctetsMean rest meant) :
    OctetsMean (cs.map octet ++ rest) (b :: meant) := by
  cases hb with
  | @escaped _ high low hhigh hlow => exact .escape ⟨high, low, hhigh, hlow, rfl, rfl⟩ h
  | space => exact .plus h
  | literal hc => exact .other hc.octet_ne.1 hc.octet_ne.2 h

theorem TextForm.octetsMean (hbs : TextForm bs cs) : OctetsMean (cs.map octet) bs := by
  induction hbs with
  | nil => exact .nil
  | cons hb _ ih =>
    rw [List.map_append]
    exact hb.octetsMean ih

/-- The separators are not written in a name or a value. -/
theorem IsWritten.ne_separator (hc : IsWritten c) : octet c ≠ 0x26 ∧ octet c ≠ 0x3D :=
  hc.isAscii.induction (P := fun c => IsWritten c → octet c ≠ 0x26 ∧ octet c ≠ 0x3D)
    (by decide +kernel) hc

variable {pairs : List (String × String)} {pieces : List (List Char)}

/-- A written name and a written value are the two sides of a piece. -/
theorem pieceMeans_of_forms {name value : String} {ns vs : List Char}
    (hname : TextForm (Utf8.ofString name) ns) (hvalue : TextForm (Utf8.ofString value) vs) :
    PieceMeans ((ns ++ '=' :: vs).map octet) (name, value) := by
  have hsign : 0x3D ∉ ns.map octet := by
    rw [List.mem_map]
    rintro ⟨c, hc, hsign⟩
    exact (hname.isWritten c hc).ne_separator.2 hsign
  have hpiece := PieceMeans.pair hsign hname.octetsMean hvalue.octetsMean
  rw [Utf8.toStringLossy_ofString, Utf8.toStringLossy_ofString] at hpiece
  rw [List.map_append, List.map_cons]
  exact hpiece

/-- Beside the separator of name and value, pieces hold nothing but what is written. -/
theorem PieceForms.isWritten (hpairs : PieceForms pairs pieces) :
    ∀ piece ∈ pieces, ∀ c ∈ piece, c = '=' ∨ IsWritten c := by
  induction hpairs with
  | nil => exact nofun
  | skip _ ih => exact List.forall_mem_cons.mpr ⟨nofun, ih⟩
  | pair hname hvalue _ ih =>
    refine List.forall_mem_cons.mpr ⟨?_, ih⟩
    intro c hc
    rcases List.mem_append.mp hc with hc | hc
    · exact .inr (hname.isWritten c hc)
    · rcases List.mem_cons.mp hc with rfl | hc
      · exact .inl rfl
      · exact .inr (hvalue.isWritten c hc)

theorem PieceForms.piecesMean (hpairs : PieceForms pairs pieces) :
    PiecesMean (pieces.map fun piece => piece.map octet) pairs := by
  induction hpairs with
  | nil => exact .nil
  | skip _ ih => exact .skip ih
  | pair hname hvalue _ ih => exact .cons (by simp) (pieceMeans_of_forms hname hvalue) ih

theorem map_octet_intercalate (pieces : List (List Char)) :
    (['&'].intercalate pieces).map octet =
      [0x26].intercalate (pieces.map fun piece => piece.map octet) := by
  induction pieces with
  | nil => rfl
  | cons piece rest ih =>
    cases rest with
    | nil => simp
    | cons next rest =>
      rw [List.intercalate_cons_cons, List.map_append, List.map_append, ih]
      exact List.intercalate_cons_cons.symm

/-- What holds of the separator and in every piece holds in all of them together. -/
theorem forall_mem_intercalate {P : Char → Prop} (hseparator : P '&')
    (hpieces : ∀ piece ∈ pieces, ∀ c ∈ piece, P c) : ∀ c ∈ ['&'].intercalate pieces, P c := by
  induction pieces with
  | nil => exact nofun
  | cons piece rest ih =>
    obtain ⟨hpiece, hrest⟩ := List.forall_mem_cons.mp hpieces
    cases rest with
    | nil => rwa [List.intercalate_singleton]
    | cons next rest =>
      rw [List.intercalate_cons_cons]
      refine List.forall_mem_append.mpr ⟨List.forall_mem_append.mpr ⟨hpiece, ?_⟩, ih hrest⟩
      rwa [List.forall_mem_singleton]

/-- The characters of a form. -/
theorem Encodes.mem_cases {text : String} (h : Encodes pairs text) :
    ∀ c ∈ text.toList, c = '&' ∨ c = '=' ∨ IsWritten c := by
  obtain ⟨pieces, hpairs, htext⟩ := h
  rw [htext]
  exact forall_mem_intercalate (.inl rfl) fun piece hpiece c hc =>
    .inr (hpairs.isWritten piece hpiece c hc)

/-- A form means the pairs that were written, in their order. -/
theorem Encodes.means {text : String} (h : Encodes pairs text) : Means text pairs := by
  have hascii : ∀ c ∈ text.toList, Utf8.IsAscii c := by
    intro c hc
    rcases h.mem_cases c hc with rfl | rfl | hwritten
    · show Char.toNat _ < 128
      decide
    · show Char.toNat _ < 128
      decide
    · exact hwritten.isAscii
  obtain ⟨pieces, hpairs, htext⟩ := h
  refine ⟨pieces.map fun piece => piece.map octet, ?_, ?_, hpairs.piecesMean⟩
  · intro piece hpiece hsign
    obtain ⟨cs, hcs, rfl⟩ := List.mem_map.mp hpiece
    obtain ⟨c, hc, hand⟩ := List.mem_map.mp hsign
    rcases hpairs.isWritten cs hcs c hc with rfl | hwritten
    · exact absurd hand (by decide)
    · exact hwritten.ne_separator.1 hand
  · rw [Utf8.ofString, Utf8.encode_of_isAscii hascii, htext]
    exact map_octet_intercalate pieces

/-- The pairs that were written are read back. -/
theorem decode_of_encodes {text : String} (h : Encodes pairs text) :
    decode (Utf8.ofString text) = pairs :=
  h.means.decode_eq

end Gateway.Form
