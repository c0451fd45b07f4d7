import Gateway.Text.Utf8

/-!
# UTF-8

Different texts have different octets, and a text has as many of them as `octets` says. An ASCII
character is one octet on the wire. A text is read back from its octets as it was
(`decode?_encode`), since the reader follows a character octet by octet through bounds that every
character keeps (`scanOnto_utf8EncodeChar`).
-/

namespace Gateway.Utf8

/-! ### Octets of texts -/

theorem length_encode (cs : List Char) : (encode cs).length = octets cs := by
  induction cs with
  | nil => rfl
  | cons c cs ih =>
    have hstep : encode (c :: cs) = String.utf8EncodeChar c ++ encode cs := List.flatMap_cons
    rw [hstep, List.length_append, ih, String.length_utf8EncodeChar]
    rfl

theorem octets_append (cs ds : List Char) : octets (cs ++ ds) = octets cs + octets ds := by
  induction cs with
  | nil => exact (Nat.zero_add _).symm
  | cons c cs ih =>
    show c.utf8Size + octets (cs ++ ds) = c.utf8Size + octets cs + octets ds
    rw [ih, Nat.add_assoc]

theorem ofString_injective {s t : String} (h : ofString s = ofString t) : s = t := by
  -- a string is its octets
  have hbytes : ∀ u : String, u.toByteArray = (ofString u).toByteArray := by
    intro u
    conv => lhs; rw [← String.ofList_toList (s := u), String.toByteArray_ofList]
    rfl
  rw [← String.toByteArray_inj, hbytes s, hbytes t, h]

/-! ### ASCII characters -/

/-- Whether a character is an ASCII character. -/
def IsAscii (c : Char) : Prop :=
  c.toNat < 128

/-- What holds of the characters with the first 128 codes holds of every ASCII character. -/
theorem IsAscii.induction {P : Char → Prop} (hP : ∀ n < 128, P (Char.ofNat n)) {c : Char}
    (hc : IsAscii c) : P c := by
  have h := hP c.toNat hc
  rwa [Char.ofNat_toNat] at h

/-- Letters and digits are ASCII characters. -/
theorem isAscii_of_isAlphanum {c : Char} (hc : c.isAlphanum = true) : IsAscii c := by
  change (decide (c.val ≥ 'A'.val ∧ c.val ≤ 'Z'.val) || (c.val ≥ 'a'.val && c.val ≤ 'z'.val) ||
    (c.val ≥ '0'.val && c.val ≤ '9'.val)) = true at hc
  simp only [Bool.or_eq_true, Bool.and_eq_true, decide_eq_true_eq, UInt32.le_iff_toNat_le] at hc
  rcases hc with (⟨-, hle⟩ | ⟨-, hle⟩) | ⟨-, hle⟩
  · exact Nat.lt_of_le_of_lt hle (by decide)
  · exact Nat.lt_of_le_of_lt hle (by decide)
  · exact Nat.lt_of_le_of_lt hle (by decide)

/-- A capital is an ASCII character. -/
theorem toLower_of_not_isAscii {c : Char} (hc : ¬IsAscii c) : c.toLower = c := by
  refine dif_neg ?_
  rintro ⟨-, hle⟩
  exact hc (Nat.lt_of_le_of_lt (UInt32.le_iff_toNat_le.mp hle) (by decide))

/-- A small letter is an ASCII character. -/
theorem toUpper_of_not_isAscii {c : Char} (hc : ¬IsAscii c) : c.toUpper = c := by
  refine dif_neg ?_
  rintro ⟨-, hle⟩
  exact hc (Nat.lt_of_le_of_lt (UInt32.le_iff_toNat_le.mp hle) (by decide))

theorem toLower_toLower (c : Char) : c.toLower.toLower = c.toLower := by
  by_cases hc : IsAscii c
  · exact hc.induction (P := fun c => c.toLower.toLower = c.toLower) (by decide)
  · rw [toLower_of_not_isAscii hc, toLower_of_not_isAscii hc]

theorem toLower_toUpper (c : Char) : c.toUpper.toLower = c.toLower := by
  by_cases hc : IsAscii c
  · exact hc.induction (P := fun c => c.toUpper.toLower = c.toLower) (by decide)
  · rw [toUpper_of_not_isAscii hc]

theorem toUpper_toLower (c : Char) : c.toLower.toUpper = c.toUpper := by
  by_cases hc : IsAscii c
  · exact hc.induction (P := fun c => c.toLower.toUpper = c.toUpper) (by decide)
  · rw [toLower_of_not_isAscii hc]

theorem isAlpha_toLower (c : Char) : c.toLower.isAlpha = c.isAlpha := by
  by_cases hc : IsAscii c
  · exact hc.induction (P := fun c => c.toLower.isAlpha = c.isAlpha) (by decide)
  · rw [toLower_of_not_isAscii hc]

/-- Only a capital has a small letter. -/
theorem toLower_of_not_isUpper {c : Char} (hupper : c.isUpper = false) : c.toLower = c := by
  by_cases hc : IsAscii c
  · exact hc.induction (P := fun c => c.isUpper = false → c.toLower = c) (by decide) hupper
  · exact toLower_of_not_isAscii hc

/-- Only a small letter has a capital. -/
theorem toUpper_of_not_isLower {c : Char} (hlower : c.isLower = false) : c.toUpper = c := by
  by_cases hc : IsAscii c
  · exact hc.induction (P := fun c => c.isLower = false → c.toUpper = c) (by decide) hlower
  · exact toUpper_of_not_isAscii hc

theorem utf8EncodeChar_of_isAscii {c : Char} (hc : IsAscii c) :
    String.utf8EncodeChar c = [UInt8.ofNat c.toNat] := by
  have hsize : c.utf8Size = 1 := by
    rw [Char.utf8Size_eq_one_iff, UInt32.le_iff_toNat_le]
    exact Nat.le_of_lt_succ hc
  rw [String.utf8EncodeChar_eq_singleton hsize]
  rfl

theorem toNat_ofNat_of_isAscii {c : Char} (hc : IsAscii c) :
    (UInt8.ofNat c.toNat).toNat = c.toNat :=
  UInt8.toNat_ofNat_of_lt (Nat.lt_trans hc (by decide))

/-! ### ASCII texts -/

variable {cs : List Char}

/-- An ASCII text is as many octets as it has characters. -/
theorem encode_of_isAscii (hcs : ∀ c ∈ cs, IsAscii c) :
    encode cs = cs.map fun c => UInt8.ofNat c.toNat := by
  induction cs with
  | nil => rfl
  | cons c cs ih =>
    have hc : IsAscii c := hcs c List.mem_cons_self
    have ih := ih fun d hd => hcs d (List.mem_cons_of_mem _ hd)
    rw [encode, List.flatMap_cons, utf8EncodeChar_of_isAscii hc]
    exact congrArg (UInt8.ofNat c.toNat :: ·) ih

/-- The octets of an ASCII text are the codes of its characters. -/
theorem mem_encode_of_isAscii (hcs : ∀ c ∈ cs, IsAscii c) {b : UInt8} :
    b ∈ encode cs ↔ ∃ c ∈ cs, c.toNat = b.toNat := by
  rw [encode_of_isAscii hcs, List.mem_map]
  constructor
  · rintro ⟨c, hc, rfl⟩
    exact ⟨c, hc, (toNat_ofNat_of_isAscii (hcs c hc)).symm⟩
  · rintro ⟨c, hc, hb⟩
    exact ⟨c, hc, UInt8.toNat_inj.mp ((toNat_ofNat_of_isAscii (hcs c hc)).trans hb)⟩

/-- The octets of printable ASCII characters are printable. -/
theorem codes_of_mem_encode (hcs : ∀ c ∈ cs, 32 ≤ c.toNat ∧ c.toNat < 127) {b : UInt8}
    (hb : b ∈ encode cs) : 32 ≤ b.toNat ∧ b.toNat < 127 := by
  obtain ⟨c, hc, hcode⟩ :=
    (mem_encode_of_isAscii fun c hc => Nat.lt_succ_of_lt (hcs c hc).2).mp hb
  exact hcode ▸ hcs c hc

/-- Between characters, the octet of an ASCII character is that character. -/
theorem scanOnto_ascii {c : Char} (hc : IsAscii c) (bs : Bytes) :
    scanOnto [] .start (UInt8.ofNat c.toNat :: bs) = some c :: scanOnto [] .start bs := by
  have hlt : UInt8.ofNat c.toNat < 0x80 := by
    rw [UInt8.lt_iff_toNat_lt, toNat_ofNat_of_isAscii hc]
    exact hc
  have hstep : step .start (UInt8.ofNat c.toNat) = ([some c], .start) := by
    rw [step, first, if_pos hlt, toNat_ofNat_of_isAscii hc, Char.ofNat_toNat]
  rw [scanOnto_cons, hstep]
  rfl

/-! ### Reading a text back -/

/-- What the first octet of a longer character says: how many octets follow, its own bits, and the
bounds of the octet after it. -/
theorem first_of_two : ∀ k < 32, 2 ≤ k →
    first (UInt8.ofNat (k + 192)) = ([], .inside 0 0x80 0xBF k) := by
  decide

theorem first_of_three : ∀ k < 16, first (UInt8.ofNat (k + 224)) =
    ([], .inside 1 (if k = 0 then 0xA0 else 0x80) (if k = 13 then 0x9F else 0xBF) k) := by
  decide

theorem first_of_four : ∀ k < 5, first (UInt8.ofNat (k + 240)) =
    ([], .inside 2 (if k = 0 then 0x90 else 0x80) (if k = 4 then 0x8F else 0xBF) k) := by
  decide

section Inside

variable {low high : UInt8} {more value m : Nat}

/-- An octet within its bounds brings six more bits. -/
theorem step_inside (hlow : low.toNat ≤ m + 128) (hhigh : m + 128 ≤ high.toNat) :
    step (.inside more low high value) (UInt8.ofNat (m + 128)) =
      match more with
      | 0 => ([some (Char.ofNat (value * 64 + m))], .start)
      | more + 1 => ([], .inside more 0x80 0xBF (value * 64 + m)) := by
  have hm : (UInt8.ofNat (m + 128)).toNat = m + 128 :=
    UInt8.toNat_ofNat_of_lt (Nat.lt_of_le_of_lt hhigh high.toNat_lt)
  have hin : low ≤ UInt8.ofNat (m + 128) ∧ UInt8.ofNat (m + 128) ≤ high := by
    rw [UInt8.le_iff_toNat_le, UInt8.le_iff_toNat_le, hm]
    exact ⟨hlow, hhigh⟩
  cases more with
  | zero => simp only [step, if_pos hin, hm, Nat.add_sub_cancel]
  | succ more => simp only [step, if_pos hin, hm, Nat.add_sub_cancel]

theorem scanOnto_middle (hlow : low.toNat ≤ m + 128) (hhigh : m + 128 ≤ high.toNat) (bs : Bytes) :
    scanOnto [] (.inside (more + 1) low high value) (UInt8.ofNat (m + 128) :: bs) =
      scanOnto [] (.inside more 0x80 0xBF (value * 64 + m)) bs := by
  rw [scanOnto_cons, step_inside hlow hhigh]
  rfl

theorem scanOnto_last (hm : m < 64) {c : Char} (hc : value * 64 + m = c.toNat) (bs : Bytes) :
    scanOnto [] (.inside 0 0x80 0xBF value) (UInt8.ofNat (m + 128) :: bs) =
      some c :: scanOnto [] .start bs := by
  have hlow : (0x80 : UInt8).toNat ≤ m + 128 := Nat.le_add_left 128 m
  have hhigh : m + 128 ≤ (0xBF : UInt8).toNat := Nat.add_le_add_right (Nat.le_of_lt_succ hm) 128
  rw [scanOnto_cons, step_inside hlow hhigh, hc, Char.ofNat_toNat]
  rfl

end Inside

/-- Between characters, the octets of a character are that character. -/
theorem scanOnto_utf8EncodeChar (c : Char) (bs : Bytes) :
    scanOnto [] .start (String.utf8EncodeChar c ++ bs) = some c :: scanOnto [] .start bs := by
  have hvalid : c.toNat < 0xD800 ∨ 0xDFFF < c.toNat ∧ c.toNat < 0x110000 := c.valid
  have hencode : String.utf8EncodeChar c =
    if c.toNat ≤ 127 then [UInt8.ofNat c.toNat]
    else if c.toNat ≤ 2047 then
      [UInt8.ofNat (c.toNat / 64 % 32 + 192), UInt8.ofNat (c.toNat % 64 + 128)]
    else if c.toNat ≤ 65535 then
      [UInt8.ofNat (c.toNat / 4096 % 16 + 224), UInt8.ofNat (c.toNat / 64 % 64 + 128),
        UInt8.ofNat (c.toNat % 64 + 128)]
    else
      [UInt8.ofNat (c.toNat / 262144 % 8 + 240), UInt8.ofNat (c.toNat / 4096 % 64 + 128),
        UInt8.ofNat (c.toNat / 64 % 64 + 128), UInt8.ofNat (c.toNat % 64 + 128)] := rfl
  rw [hencode]
  split
  · next hone => exact scanOnto_ascii (Nat.lt_succ_of_le hone) bs
  split
  · next hone htwo =>
    have hfirst := first_of_two (c.toNat / 64 % 32) (by omega) (by omega)
    rw [List.cons_append, scanOnto_cons, step, hfirst]
    exact scanOnto_last (by omega) (by omega) bs
  split
  · next hone htwo hthree =>
    have hfirst := first_of_three (c.toNat / 4096 % 16) (by omega)
    -- the bounds of the second octet leave out overlong forms and surrogates
    have hlow : (if c.toNat / 4096 % 16 = 0 then (0xA0 : UInt8) else 0x80).toNat ≤
        c.toNat / 64 % 64 + 128 := by
      split
      · show 160 ≤ _
        omega
      · exact Nat.le_add_left 128 _
    have hhigh : c.toNat / 64 % 64 + 128 ≤
        (if c.toNat / 4096 % 16 = 13 then (0x9F : UInt8) else 0xBF).toNat := by
      split
      · show _ ≤ 159
        omega
      · show _ ≤ 191
        omega
    rw [List.cons_append, scanOnto_cons, step, hfirst]
    dsimp only
    rw [List.cons_append, scanOnto_middle hlow hhigh]
    exact scanOnto_last (by omega) (by omega) bs
  · next hone htwo hthree =>
    have hfirst := first_of_four (c.toNat / 262144 % 8) (by omega)
    -- here they leave out overlong forms and what is no character any more
    have hlow : (if c.toNat / 262144 % 8 = 0 then (0x90 : UInt8) else 0x80).toNat ≤
        c.toNat / 4096 % 64 + 128 := by
      split
      · show 144 ≤ _
        omega
      · exact Nat.le_add_left 128 _
    have hhigh : c.toNat / 4096 % 64 + 128 ≤
        (if c.toNat / 262144 % 8 = 4 then (0x8F : UInt8) else 0xBF).toNat := by
      split
      · show _ ≤ 143
        omega
      · show _ ≤ 191
        omega
    have hlow' : (0x80 : UInt8).toNat ≤ c.toNat / 64 % 64 + 128 := Nat.le_add_left 128 _
    have hhigh' : c.toNat / 64 % 64 + 128 ≤ (0xBF : UInt8).toNat := by
      show _ ≤ 191
      omega
    rw [List.cons_append, scanOnto_cons, step, hfirst]
    dsimp only
    rw [List.cons_append, scanOnto_middle hlow hhigh, List.cons_append, scanOnto_middle hlow' hhigh']
    exact scanOnto_last (by omega) (by omega) bs

theorem scan_encode (cs : List Char) : scan (encode cs) = cs.map some := by
  induction cs with
  | nil => rfl
  | cons c cs ih =>
    have hstep : encode (c :: cs) = String.utf8EncodeChar c ++ encode cs := List.flatMap_cons
    rw [hstep, scan, scanOnto_utf8EncodeChar]
    exact congrArg (some c :: ·) ih

theorem decode?_encode (cs : List Char) : decode? (encode cs) = some cs := by
  have hall : (cs.map some).all Option.isSome = true := by
    rw [List.all_map]
    exact List.all_eq_true.mpr fun c _ => rfl
  have hchars : (cs.map some).filterMap id = cs := by
    rw [List.filterMap_map]
    exact List.filterMap_some
  rw [decode?, scan_encode, if_pos hall, hchars]

theorem toString?_ofString (s : String) : toString? (ofString s) = some s := by
  rw [toString?, ofString, decode?_encode, Option.map_some, String.ofList_toList]

theorem toStringLossy_ofString (s : String) : toStringLossy (ofString s) = s := by
  have hchars : (s.toList.map some).map (fun c => c.getD replacement) = s.toList := by
    simp [Function.comp_def]
  rw [toStringLossy, lossy, ofString, scan_encode, hchars, String.ofList_toList]

end Gateway.Utf8
