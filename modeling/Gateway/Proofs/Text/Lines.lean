import Gateway.Header.Block
import Mathlib.Data.List.Infix

/-!
# Lines on the wire

Octets that are made of lines, each followed by its end (`joined`). Where the lines themselves hold
neither a carriage return nor a line feed, every such octet belongs to the end of one of them
(`joined_eq_append`). Everything else follows: line ends are not to be found anywhere else, there
are as many as there are lines, and `lines` gives the lines back.
-/

namespace Gateway.Lines

open HeaderBlock (lineEnd)

/-- A sequence of octets that stays on one line. -/
def IsLine (l : Bytes) : Prop :=
  ∀ b ∈ l, b ≠ 13 ∧ b ≠ 10

def joined (ls : List Bytes) : Bytes :=
  ls.flatMap fun l => l ++ lineEnd

/-- How often octets stand somewhere in others. -/
def occurrences (part bs : Bytes) : Nat :=
  bs.tails.countP fun t => part.isPrefixOf t

/-- What stands before and after the first place where `mark` stands. -/
def cut? (mark : Bytes) : Bytes → Option (Bytes × Bytes)
  | [] => none
  | b :: bs =>
    if mark.isPrefixOf (b :: bs) then some ([], (b :: bs).drop mark.length)
    else (cut? mark bs).map fun p => (b :: p.1, p.2)

/-- One more octet on the first line. -/
def extendFirst (b : UInt8) : List Bytes → List Bytes
  | [] => [[b]]
  | l :: ls => (b :: l) :: ls

/-- What stands between the line ends. -/
def lines : Bytes → List Bytes
  | [] => [[]]
  | [b] => [[b]]
  | b :: c :: bs => if b = 13 ∧ c = 10 then [] :: lines bs else extendFirst b (lines (c :: bs))

/-! ### Where line ends are -/

theorem joined_cons (l : Bytes) (ls : List Bytes) :
    joined (l :: ls) = l ++ 13 :: 10 :: joined ls := by
  show l ++ lineEnd ++ joined ls = _
  rw [List.append_assoc]
  rfl

/-- A carriage return or a line feed among lines is the one at the end of a line `l`. -/
theorem joined_eq_append {ls : List Bytes} (hls : ∀ l ∈ ls, IsLine l) {a b : Bytes} {x : UInt8}
    (hx : x = 13 ∨ x = 10) (h : joined ls = a ++ x :: b) :
    ∃ before l after, ls = before ++ l :: after ∧
      (x = 13 ∧ a = joined before ++ l ∧ b = 10 :: joined after ∨
        x = 10 ∧ a = joined before ++ l ++ [13] ∧ b = joined after) := by
  -- by induction on the lines: the octet is in the end of the first one, or further on
  induction ls generalizing a with
  | nil => simp [joined] at h
  | cons l ls ih =>
    have hl : IsLine l := hls l List.mem_cons_self
    have hxl : x ∉ l := by
      intro hmem
      rcases hx with rfl | rfl
      · exact (hl _ hmem).1 rfl
      · exact (hl _ hmem).2 rfl
    rw [joined_cons] at h
    rcases List.append_eq_append_iff.mp h with ⟨c, rfl, hc⟩ | ⟨c, rfl, hc⟩
    · -- `c` stands between the line and the octet
      match c, hc with
      | [], hc =>
        injection hc with hx' hb
        exact ⟨[], l, ls, rfl, Or.inl ⟨hx'.symm, by simp [joined], hb.symm⟩⟩
      | [y], hc =>
        injection hc with hy hc
        injection hc with hx' hb
        subst hy
        exact ⟨[], l, ls, rfl, Or.inr ⟨hx'.symm, by simp [joined], hb.symm⟩⟩
      | y :: z :: c, hc =>
        injection hc with hy hc
        injection hc with hz hc
        subst hy hz
        obtain ⟨before, l', after, rfl, hcase⟩ :=
          ih (fun l' hl' => hls l' (List.mem_cons_of_mem _ hl')) hc
        refine ⟨l :: before, l', after, rfl, ?_⟩
        rcases hcase with ⟨hx', rfl, hb⟩ | ⟨hx', rfl, hb⟩
        · exact Or.inl ⟨hx', by simp [joined_cons], hb⟩
        · exact Or.inr ⟨hx', by simp [joined_cons], hb⟩
    · -- the octet would be in the line
      match c, hc with
      | [], hc =>
        injection hc with hx' hb
        exact ⟨[], a, ls, by simp, Or.inl ⟨hx', by simp [joined], hb⟩⟩
      | y :: c, hc =>
        injection hc with hy hc
        subst hy
        exact absurd (by simp) hxl

theorem lineFeed_after {ls : List Bytes} (hls : ∀ l ∈ ls, IsLine l) {a b : Bytes}
    (h : joined ls = a ++ 13 :: b) : ∃ b', b = 10 :: b' := by
  obtain ⟨before, l, after, -, ⟨-, -, hb⟩ | ⟨hx, -, -⟩⟩ := joined_eq_append hls (Or.inl rfl) h
  · exact ⟨_, hb⟩
  · cases hx

theorem carriageReturn_before {ls : List Bytes} (hls : ∀ l ∈ ls, IsLine l) {a b : Bytes}
    (h : joined ls = a ++ 10 :: b) : ∃ a', a = a' ++ [13] := by
  obtain ⟨before, l, after, -, ⟨hx, -, -⟩ | ⟨-, ha, -⟩⟩ := joined_eq_append hls (Or.inr rfl) h
  · cases hx
  · exact ⟨_, ha⟩

/-- Two line ends in a row mean that there is an empty line. -/
theorem empty_line_of_two_ends {ls : List Bytes} (hls : ∀ l ∈ ls, IsLine l) {a b : Bytes}
    (h : joined ls = a ++ (lineEnd ++ lineEnd) ++ b) :
    ∃ before l after, ls = before ++ l :: [] :: after ∧ b = joined after := by
  rw [List.append_assoc] at h
  obtain ⟨before, l, after, rfl, ⟨-, -, hb⟩ | ⟨hx, -, -⟩⟩ := joined_eq_append hls (Or.inl rfl) h
  · injection hb with _ hb
    cases after with
    | nil => cases hb
    | cons l' after =>
      rw [joined_cons] at hb
      cases l' with
      | nil =>
        injection hb with _ hb
        injection hb with _ hb
        exact ⟨before, l, after, rfl, hb⟩
      | cons c l' =>
        injection hb with hc _
        exact absurd hc.symm (hls (c :: l') (by simp) c List.mem_cons_self).1
  · cases hx

/-! ### How many line ends there are -/

theorem occurrences_cons (part : Bytes) (b : UInt8) (bs : Bytes) :
    occurrences part (b :: bs) =
      occurrences part bs + if part.isPrefixOf (b :: bs) then 1 else 0 := by
  rw [occurrences, List.tails_cons, List.countP_cons]
  rfl

theorem occurrences_line {l : Bytes} (hl : IsLine l) (bs : Bytes) :
    occurrences lineEnd (l ++ 13 :: 10 :: bs) = occurrences lineEnd bs + 1 := by
  induction l with
  | nil =>
    rw [List.nil_append, occurrences_cons, occurrences_cons]
    rfl
  | cons b l ih =>
    have hb : ((13 : UInt8) == b) = false :=
      beq_eq_false_iff_ne.mpr (Ne.symm (hl b List.mem_cons_self).1)
    rw [List.cons_append, occurrences_cons, ih fun c hc => hl c (List.mem_cons_of_mem _ hc)]
    simp [lineEnd, List.isPrefixOf, hb]

/-- There are as many line ends as lines. -/
theorem occurrences_joined {ls : List Bytes} (hls : ∀ l ∈ ls, IsLine l) :
    occurrences lineEnd (joined ls) = ls.length := by
  induction ls with
  | nil => rfl
  | cons l ls ih =>
    rw [joined_cons, occurrences_line (hls l List.mem_cons_self),
      ih fun l' hl' => hls l' (List.mem_cons_of_mem _ hl'), List.length_cons]

/-! ### Reading lines back -/

/-- What stands before the first octet of a mark is what is cut off, if that octet is not in it. -/
theorem cut?_append {x : UInt8} (mark : Bytes) {l : Bytes} (hl : x ∉ l) (rest : Bytes) :
    cut? (x :: mark) (l ++ (x :: mark) ++ rest) = some (l, rest) := by
  induction l with
  | nil => simp [cut?, List.isPrefixOf]
  | cons b l ih =>
    have hb : (x == b) = false :=
      beq_eq_false_iff_ne.mpr fun h => hl (h ▸ List.mem_cons_self)
    rw [List.cons_append, List.cons_append, cut?, ih fun h => hl (List.mem_cons_of_mem _ h)]
    simp [List.isPrefixOf, hb]

/-- The first of some lines is the one before the first line end. -/
theorem lines_line {l : Bytes} (hl : IsLine l) (bs : Bytes) :
    lines (l ++ 13 :: 10 :: bs) = l :: lines bs := by
  induction l with
  | nil => simp [lines]
  | cons b l ih =>
    have hb : b ≠ 13 := (hl b List.mem_cons_self).1
    have ih := ih fun c hc => hl c (List.mem_cons_of_mem _ hc)
    -- `lines` looks at two octets at a time, so the next one has to be there
    cases l with
    | nil =>
      rw [List.nil_append] at ih
      rw [List.cons_append, List.nil_append, lines, if_neg fun h => hb h.1, ih]
      rfl
    | cons c l =>
      rw [List.cons_append] at ih
      rw [List.cons_append, List.cons_append, lines, if_neg fun h => hb h.1, ih]
      rfl

/-- Lines are read back as they were; nothing follows the last line end. -/
theorem lines_joined {ls : List Bytes} (hls : ∀ l ∈ ls, IsLine l) :
    lines (joined ls) = ls ++ [[]] := by
  induction ls with
  | nil => rfl
  | cons l ls ih =>
    rw [joined_cons, lines_line (hls l List.mem_cons_self),
      ih fun l' hl' => hls l' (List.mem_cons_of_mem _ hl'), List.cons_append]

end Gateway.Lines
