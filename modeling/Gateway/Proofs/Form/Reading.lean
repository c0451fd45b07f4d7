import Gateway.Form
import Gateway.Proofs.Text.Utf8
import Mathlib.Data.List.TakeWhile

/-!
# What a form means

`Means` relates any text to the pairs that it stands for as a form. It is put together from what its
octets and its pieces mean, and mentions no reader. Every text means the pairs that are read from it
and no others (`means_iff`): on each level there is something that is meant, and it is what is read.
-/

namespace Gateway.Form

/-! ### Digits -/

/-- The octet of an ASCII character. -/
def octet (c : Char) : UInt8 := UInt8.ofNat c.toNat

/-- A hexadecimal digit with the value `n`, in either case. -/
def IsHexDigit (n : Nat) (c : Char) : Prop :=
  c = Nat.digitChar n ∨ c = (Nat.digitChar n).toUpper

instance (n : Nat) (c : Char) : Decidable (IsHexDigit n c) :=
  inferInstanceAs (Decidable (_ ∨ _))

/-- Two octets are the digits of an octet. -/
def AreDigits (b high low : UInt8) : Prop :=
  ∃ c d, IsHexDigit (b.toNat / 16) c ∧ IsHexDigit (b.toNat % 16) d ∧ high = octet c ∧ low = octet d

variable {b x y high low : UInt8} {bs cs : Bytes}

theorem hexValue?_eq_some_iff : hexValue? (plusToSpace b) = some x ↔
    x.toNat < 16 ∧ ∃ c, IsHexDigit x.toNat c ∧ b = octet c := by
  have hdigits : ∀ n < 16,
      hexValue? (plusToSpace (octet (Nat.digitChar n))) = some (UInt8.ofNat n) ∧
        hexValue? (plusToSpace (octet (Nat.digitChar n).toUpper)) = some (UInt8.ofNat n) := by
    decide
  -- an octet that is read as a digit is one, octet by octet
  have hothers : ∀ n < 256, ∀ x ∈ hexValue? (plusToSpace (UInt8.ofNat n)), x.toNat < 16 ∧
      (UInt8.ofNat n = octet (Nat.digitChar x.toNat) ∨
        UInt8.ofNat n = octet (Nat.digitChar x.toNat).toUpper) := by
    decide +kernel
  constructor
  · intro h
    have hb : b = UInt8.ofNat b.toNat := UInt8.ofNat_toNat.symm
    rw [hb] at h
    obtain ⟨hlt, hdigit | hdigit⟩ := hothers b.toNat b.toNat_lt x h
    · exact ⟨hlt, _, .inl rfl, hb.trans hdigit⟩
    · exact ⟨hlt, _, .inr rfl, hb.trans hdigit⟩
  · rintro ⟨hlt, c, rfl | rfl, rfl⟩
    · rw [(hdigits x.toNat hlt).1, UInt8.ofNat_toNat]
    · rw [(hdigits x.toNat hlt).2, UInt8.ofNat_toNat]

/-- Two octets are digits of the octet that their values make. -/
theorem areDigits_iff : AreDigits b high low ↔ ∃ x y, hexValue? (plusToSpace high) = some x ∧
    hexValue? (plusToSpace low) = some y ∧ x * 16 + y = b := by
  have hlt : b.toNat < 256 := b.toNat_lt
  constructor
  · rintro ⟨c, d, hc, hd, rfl, rfl⟩
    have hhigh : (UInt8.ofNat (b.toNat / 16)).toNat = b.toNat / 16 :=
      UInt8.toNat_ofNat_of_lt (Nat.lt_of_le_of_lt (Nat.div_le_self _ _) hlt)
    have hlow : (UInt8.ofNat (b.toNat % 16)).toNat = b.toNat % 16 :=
      UInt8.toNat_ofNat_of_lt (Nat.lt_of_le_of_lt (Nat.mod_le _ _) hlt)
    refine ⟨UInt8.ofNat (b.toNat / 16), UInt8.ofNat (b.toNat % 16),
      hexValue?_eq_some_iff.mpr ⟨by omega, c, hhigh.symm ▸ hc, rfl⟩,
      hexValue?_eq_some_iff.mpr ⟨by omega, d, hlow.symm ▸ hd, rfl⟩, ?_⟩
    refine UInt8.toNat_inj.mp ?_
    rw [UInt8.toNat_add, UInt8.toNat_mul, hhigh, hlow]
    show (b.toNat / 16 * 16 % 256 + b.toNat % 16) % 256 = b.toNat
    omega
  · rintro ⟨x, y, hx, hy, rfl⟩
    obtain ⟨hxlt, c, hc, rfl⟩ := hexValue?_eq_some_iff.mp hx
    obtain ⟨hylt, d, hd, rfl⟩ := hexValue?_eq_some_iff.mp hy
    have hvalue : (x * 16 + y).toNat = x.toNat * 16 + y.toNat := by
      rw [UInt8.toNat_add, UInt8.toNat_mul]
      show (x.toNat * 16 % 256 + y.toNat) % 256 = _
      omega
    refine ⟨c, d, ?_, ?_, rfl, rfl⟩
    · rwa [hvalue, show (x.toNat * 16 + y.toNat) / 16 = x.toNat by omega]
    · rwa [hvalue, show (x.toNat * 16 + y.toNat) % 16 = y.toNat by omega]

/-! ### Octets -/

/-- What octets mean one after the other: a plus sign is a space, a percent sign before two digits is
the octet with these digits, and any other octet is itself. -/
inductive OctetsMean : Bytes → Bytes → Prop where
  | nil : OctetsMean [] []
  | plus {bs cs : Bytes} (h : OctetsMean bs cs) : OctetsMean (0x2B :: bs) (0x20 :: cs)
  | escape {b high low : UInt8} {bs cs : Bytes} (hdigits : AreDigits b high low)
      (h : OctetsMean bs cs) : OctetsMean (0x25 :: high :: low :: bs) (b :: cs)
  | percent {bs cs : Bytes}
      (hbare : ∀ b high low rest, bs = high :: low :: rest → ¬AreDigits b high low)
      (h : OctetsMean bs cs) : OctetsMean (0x25 :: bs) (0x25 :: cs)
  | other {b : UInt8} {bs cs : Bytes} (hplus : b ≠ 0x2B) (hpercent : b ≠ 0x25)
      (h : OctetsMean bs cs) : OctetsMean (b :: bs) (b :: cs)

theorem percentDecode_cons_of_ne (hb : b ≠ 0x25) (bs : Bytes) :
    percentDecode (b :: bs) = b :: percentDecode bs := by
  match bs with
  | [] | [_] => rfl
  | _ :: _ :: _ => rw [percentDecode, if_neg hb]

theorem percentDecode_of_bare
    (hbare : ∀ b high low rest, bs = high :: low :: rest → ¬AreDigits b high low) :
    percentDecode (0x25 :: bs.map plusToSpace) = 0x25 :: percentDecode (bs.map plusToSpace) := by
  match bs with
  | [] | [_] => rfl
  | high :: low :: rest =>
    rw [List.map_cons, List.map_cons, percentDecode, if_pos rfl]
    cases hx : hexValue? (plusToSpace high) with
    | none => rfl
    | some x =>
      cases hy : hexValue? (plusToSpace low) with
      | none => rfl
      | some y =>
        have hdigits : AreDigits (x * 16 + y) high low := areDigits_iff.mpr ⟨x, y, hx, hy, rfl⟩
        exact absurd hdigits (hbare _ high low rest rfl)

theorem OctetsMean.percentDecode_eq (h : OctetsMean bs cs) :
    percentDecode (bs.map plusToSpace) = cs := by
  induction h with
  | nil => rfl
  | plus _ ih => exact (percentDecode_cons_of_ne (by decide) _).trans (congrArg _ ih)
  | @escape b high low bs cs hdigits _ ih =>
    obtain ⟨x, y, hx, hy, hvalue⟩ := areDigits_iff.mp hdigits
    show percentDecode (0x25 :: plusToSpace high :: plusToSpace low :: bs.map plusToSpace) = _
    rw [percentDecode, if_pos rfl, hx, hy, ih]
    exact congrArg (· :: cs) hvalue
  | percent hbare _ ih => exact (percentDecode_of_bare hbare).trans (congrArg _ ih)
  | @other b bs cs hplus hpercent _ ih =>
    have hsame : plusToSpace b = b := if_neg hplus
    rw [List.map_cons, hsame, percentDecode_cons_of_ne hpercent, ih]

/-- All octets mean something. -/
theorem exists_octetsMean (bs : Bytes) : ∃ cs, OctetsMean bs cs := by
  -- by recursion on the length: an escape takes three octets at once
  match bs with
  | [] => exact ⟨[], .nil⟩
  | b :: bs =>
    by_cases hplus : b = 0x2B
    · subst hplus
      obtain ⟨cs, h⟩ := exists_octetsMean bs
      exact ⟨_, .plus h⟩
    by_cases hpercent : b = 0x25
    · subst hpercent
      by_cases hdigits : ∃ b high low rest, bs = high :: low :: rest ∧ AreDigits b high low
      · obtain ⟨b, high, low, rest, rfl, hdigits⟩ := hdigits
        obtain ⟨cs, h⟩ := exists_octetsMean rest
        exact ⟨_, .escape hdigits h⟩
      · obtain ⟨cs, h⟩ := exists_octetsMean bs
        exact ⟨_, .percent (fun b high low rest hbs hb => hdigits ⟨b, high, low, rest, hbs, hb⟩) h⟩
    · obtain ⟨cs, h⟩ := exists_octetsMean bs
      exact ⟨_, .other hplus hpercent h⟩
termination_by bs.length

/-! ### Pieces -/

/-- What a piece means: a name and a value, around its first equals sign. A piece without such a sign
is a name, and the value is empty. -/
inductive PieceMeans : Bytes → String × String → Prop where
  | pair {ns vs name value : Bytes} (hsign : 0x3D ∉ ns) (hname : OctetsMean ns name)
      (hvalue : OctetsMean vs value) :
      PieceMeans (ns ++ 0x3D :: vs) (Utf8.toStringLossy name, Utf8.toStringLossy value)
  | flag {ns name : Bytes} (hsign : 0x3D ∉ ns) (hname : OctetsMean ns name) :
      PieceMeans ns (Utf8.toStringLossy name, "")

/-- What pieces mean: each of them a pair, unless it is empty. -/
inductive PiecesMean : List Bytes → List (String × String) → Prop where
  | nil : PiecesMean [] []
  | skip {pieces : List Bytes} {pairs : List (String × String)} (h : PiecesMean pieces pairs) :
      PiecesMean ([] :: pieces) pairs
  | cons {piece : Bytes} {pieces : List Bytes} {pair : String × String}
      {pairs : List (String × String)} (hne : piece ≠ []) (hpiece : PieceMeans piece pair)
      (h : PiecesMean pieces pairs) : PiecesMean (piece :: pieces) (pair :: pairs)

variable {piece : Bytes} {pieces : List Bytes} {pair : String × String}
  {pairs : List (String × String)}

theorem OctetsMean.decodeText_eq (h : OctetsMean bs cs) : decodeText bs = Utf8.toStringLossy cs :=
  congrArg Utf8.toStringLossy h.percentDecode_eq

theorem PieceMeans.decodePiece_eq (h : PieceMeans piece pair) : decodePiece piece = pair := by
  have hbefore : ∀ {ns : Bytes}, 0x3D ∉ ns → ∀ b ∈ ns, decide (b ≠ 0x3D) = true :=
    fun hsign b hb => decide_eq_true fun heq => hsign (heq ▸ hb)
  cases h with
  | pair hsign hname hvalue =>
    rw [decodePiece, List.takeWhile_append_of_pos (hbefore hsign),
      List.dropWhile_append_of_pos (hbefore hsign), List.takeWhile_cons_of_neg (by decide),
      List.dropWhile_cons_of_neg (by decide), List.append_nil, List.drop_one, List.tail_cons,
      hname.decodeText_eq, hvalue.decodeText_eq]
  | flag hsign hname =>
    rw [decodePiece, List.takeWhile_eq_self_iff.mpr (hbefore hsign),
      List.dropWhile_eq_nil_iff.mpr (hbefore hsign), hname.decodeText_eq]
    rfl

theorem exists_pieceMeans (piece : Bytes) : ∃ pair, PieceMeans piece pair := by
  by_cases hsign : 0x3D ∈ piece
  · obtain ⟨ns, vs, rfl, hfirst⟩ := List.eq_append_cons_of_mem hsign
    obtain ⟨name, hname⟩ := exists_octetsMean ns
    obtain ⟨value, hvalue⟩ := exists_octetsMean vs
    exact ⟨_, .pair hfirst hname hvalue⟩
  · obtain ⟨name, hname⟩ := exists_octetsMean piece
    exact ⟨_, .flag hsign hname⟩

theorem PiecesMean.map_decodePiece_eq (h : PiecesMean pieces pairs) :
    (pieces.filter fun piece => !piece.isEmpty).map decodePiece = pairs := by
  induction h with
  | nil => rfl
  | skip _ ih => exact ih
  | cons hne hpiece _ ih =>
    rw [List.filter_cons_of_pos (by simpa using hne), List.map_cons, hpiece.decodePiece_eq, ih]

theorem exists_piecesMean (pieces : List Bytes) : ∃ pairs, PiecesMean pieces pairs := by
  induction pieces with
  | nil => exact ⟨[], .nil⟩
  | cons piece pieces ih =>
    obtain ⟨pairs, h⟩ := ih
    cases piece with
    | nil => exact ⟨pairs, .skip h⟩
    | cons b bs =>
      obtain ⟨pair, hpiece⟩ := exists_pieceMeans (b :: bs)
      exact ⟨_, .cons (List.cons_ne_nil b bs) hpiece h⟩

/-! ### Texts -/

/-- The pairs that a text means: those that the pieces between its ampersands mean. -/
def Means (text : String) (pairs : List (String × String)) : Prop :=
  ∃ pieces, (∀ piece ∈ pieces, 0x26 ∉ piece) ∧
    Utf8.ofString text = [0x26].intercalate pieces ∧ PiecesMean pieces pairs

/-- Ampersands stand between pieces, not in them. -/
theorem notMem_of_mem_splitOn (hpiece : piece ∈ bs.splitOn 0x26) : 0x26 ∉ piece := by
  induction bs generalizing piece with
  | nil => simp_all [List.splitOn_eq_splitOnP]
  | cons b bs ih =>
    rw [List.splitOn_cons_eq_if_modifyHead] at hpiece
    cases hrest : bs.splitOn 0x26 with
    | nil => exact absurd hrest (List.splitOn_ne_nil _ _)
    | cons first rest =>
      rw [hrest] at hpiece ih
      split at hpiece
      · rcases List.mem_cons.mp hpiece with rfl | hpiece
        · exact List.not_mem_nil
        · exact ih hpiece
      · next hb =>
        rcases List.mem_cons.mp hpiece with rfl | hpiece
        · rw [List.mem_cons, not_or]
          exact ⟨fun h => hb (beq_iff_eq.mpr h.symm), ih List.mem_cons_self⟩
        · exact ih (List.mem_cons_of_mem _ hpiece)

variable {text : String}

/-- What a text means is read from it. -/
theorem Means.decode_eq (h : Means text pairs) : decode (Utf8.ofString text) = pairs := by
  obtain ⟨pieces, hpieces, htext, hpairs⟩ := h
  rw [decode, htext]
  cases pieces with
  | nil =>
    -- no piece at all is read as one empty piece
    cases hpairs
    rfl
  | cons piece rest =>
    have hsplit : ([0x26].intercalate (piece :: rest)).splitOnP (fun b => decide (b = 0x26)) =
        piece :: rest := List.splitOn_intercalate 0x26 hpieces (List.cons_ne_nil _ _)
    rw [hsplit, hpairs.map_decodePiece_eq]

/-- Every text means the pairs that are read from it, and no others. -/
theorem means_iff : Means text pairs ↔ decode (Utf8.ofString text) = pairs := by
  refine ⟨Means.decode_eq, ?_⟩
  rintro rfl
  -- it means something, which by the other direction is what is read
  obtain ⟨pairs, hpairs⟩ := exists_piecesMean ((Utf8.ofString text).splitOn 0x26)
  have hmeans : Means text pairs :=
    ⟨_, fun piece hpiece => notMem_of_mem_splitOn hpiece, (List.intercalate_splitOn 0x26).symm, hpairs⟩
  rwa [hmeans.decode_eq]

/-- A parameter is the first pair with its name. -/
theorem Means.lookup_eq (h : Means text pairs) (name : String) :
    lookup text name = (pairs.find? fun p => p.1 = name).map Prod.snd := by
  rw [lookup, h.decode_eq]

end Gateway.Form
