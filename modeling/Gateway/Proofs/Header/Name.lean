import Gateway.Header.Name
import Gateway.Proofs.Text.Utf8

/-!
# Header names on the wire

The spelling of a name on the wire differs from the name in its capitals only, and so the name is
read back from it (`ofBytes?_wireText`). It is made of token characters, which are ASCII and none of
which ends a line or a name.
-/

namespace Gateway

namespace Token

/-- Token characters are ASCII. -/
theorem isAscii_of_isTokenChar {c : Char} (hc : isTokenChar c = true) : Utf8.IsAscii c := by
  rw [isTokenChar, isTokenCode] at hc
  simp only [Bool.or_eq_true, beq_iff_eq, Bool.and_eq_true, decide_eq_true_eq] at hc
  show c.toNat < 128
  omega

/-- Token characters are no blanks, no colons and no control characters. -/
theorem codes_of_isTokenChar {c : Char} (hc : isTokenChar c = true) : 32 < c.toNat ∧ c.toNat ≠ 58 := by
  rw [isTokenChar, isTokenCode] at hc
  simp only [Bool.or_eq_true, beq_iff_eq, Bool.and_eq_true, decide_eq_true_eq] at hc
  omega

end Token

namespace HeaderName

open Token (isTokenChar)
open Utf8 (IsAscii)

/-! ### Capitals -/

/-- The place of a character decides about its case only. -/
theorem toLower_recase (before c : Char) : (recase before c).toLower = c.toLower := by
  rw [recase]
  split
  · exact Utf8.toLower_toUpper c
  · exact Utf8.toLower_toLower c

theorem isTokenChar_recase (before : Char) {c : Char} (hc : isTokenChar c = true) :
    isTokenChar (recase before c) = true := by
  have hcases : isTokenChar c = true → isTokenChar c.toUpper = true ∧ isTokenChar c.toLower = true :=
    (Token.isAscii_of_isTokenChar hc).induction
      (P := fun c => isTokenChar c = true → isTokenChar c.toUpper = true ∧
        isTokenChar c.toLower = true) (by decide)
  rw [recase]
  split
  · exact (hcases hc).1
  · exact (hcases hc).2

/-- What `canonical` does, after whichever character: only the case changes. -/
theorem map_toLower_zipWith_recase (before : Char) (cs : List Char) :
    (List.zipWith recase (before :: cs) cs).map Char.toLower = cs.map Char.toLower := by
  -- the character before is another one at each step
  induction cs generalizing before with
  | nil => rfl
  | cons c cs ih =>
    rw [List.zipWith_cons_cons, List.map_cons, List.map_cons, toLower_recase before c, ih c]

/-- What `canonical` makes, after whichever character: token characters stay token characters. -/
theorem isTokenChar_zipWith_recase (before : Char) {cs : List Char}
    (hcs : ∀ c ∈ cs, isTokenChar c = true) :
    ∀ c ∈ List.zipWith recase (before :: cs) cs, isTokenChar c = true := by
  induction cs generalizing before with
  | nil => exact fun c hc => nomatch hc
  | cons d cs ih =>
    intro c hc
    rw [List.zipWith_cons_cons] at hc
    rcases List.mem_cons.mp hc with rfl | hc
    · exact isTokenChar_recase before (hcs d List.mem_cons_self)
    · exact ih d (fun e he => hcs e (List.mem_cons_of_mem _ he)) c hc

/-! ### Names -/

variable (n : HeaderName)

theorem isTokenChar_of_mem : ∀ c ∈ n.text.toList, isTokenChar c = true := by
  have h : (!n.text.toList.isEmpty && n.text.toList.all isTokenChar) = true := n.isToken
  rw [Bool.and_eq_true] at h
  exact List.all_eq_true.mp h.2

/-- The spelling on the wire is made of token characters, as the name is. -/
theorem isTokenChar_of_mem_wireText : ∀ c ∈ n.wireText, isTokenChar c = true :=
  isTokenChar_zipWith_recase '-' n.isTokenChar_of_mem

theorem isAscii_of_mem_wireText : ∀ c ∈ n.wireText, IsAscii c :=
  fun c hc => Token.isAscii_of_isTokenChar (n.isTokenChar_of_mem_wireText c hc)

/-- The spelling on the wire differs from the name in its capitals. -/
theorem map_toLower_wireText : n.wireText.map Char.toLower = n.text.toList :=
  (map_toLower_zipWith_recase '-' n.text.toList).trans n.toLower_eq

/-- A name is read from every text that differs from it in its capitals only. -/
theorem ofChars?_of_map_toLower {cs : List Char} (hcs : cs.map Char.toLower = n.text.toList) :
    ofChars? cs = some n := by
  have hvalid : Token.isToken n.text.toList = true ∧
      n.text.toList.map Char.toLower = n.text.toList ∧ n.text.toList.length ≤ maxLength :=
    ⟨n.isToken, n.toLower_eq, n.length_le⟩
  rw [ofChars?]
  simp only [hcs, dif_pos hvalid, String.ofList_toList]

/-- A name is read back from the wire. -/
theorem ofBytes?_wireText : ofBytes? (Utf8.encode n.wireText) = some n := by
  rw [ofBytes?, Utf8.decode?_encode, Option.bind_some]
  exact ofChars?_of_map_toLower n n.map_toLower_wireText

/-- The octets of a name on the wire are neither blanks nor colons nor control octets. -/
theorem codes_of_mem_encode_wireText {b : UInt8} (hb : b ∈ Utf8.encode n.wireText) :
    32 < b.toNat ∧ b.toNat ≠ 58 := by
  obtain ⟨c, hc, hcb⟩ := (Utf8.mem_encode_of_isAscii n.isAscii_of_mem_wireText).mp hb
  rw [← hcb]
  exact Token.codes_of_isTokenChar (n.isTokenChar_of_mem_wireText c hc)

end HeaderName

end Gateway
