import Gateway.Proofs.Text.Utf8
import Gateway.Uri.Authority
import Mathlib.Data.List.Induction
import Mathlib.Data.List.Infix
import Mathlib.Data.List.TakeWhile

/-!
# The rules of an authority

`KeepsRules` says which texts are authorities: of each character by what stands before it
(`MayFollow`), and of the end by the whole. These are the rules by which an authority is read
(`exists_parse_iff`), since all that the reader knows is what the rules ask of the characters behind
it (`stateAfter`). A text that keeps them is made of a few visible ASCII characters.
-/

namespace Gateway.Authority

/-! ### Rules -/

/-- The marks that may stand in an authority beside letters and digits. -/
def marks : List Char := "!$&'()*+,-.:;=@[]_~%".toList

/-- What stands behind the last at sign or closing bracket. -/
def sinceReset (cs : List Char) : List Char :=
  (cs.reverse.takeWhile fun c => c ≠ '@' && c ≠ ']').reverse

/-- When a character may stand behind others. -/
@[mk_iff]
structure MayFollow (before : List Char) (c : Char) : Prop where
  allowed : c.isAlphanum = true ∨ c ∈ marks
  /-- At most eight colons stand between two resets. -/
  colon : c = ':' → (sinceReset before).count ':' < 8
  /-- A bracketed address begins once, and behind no percent sign. -/
  opening : c = '[' → '[' ∉ before ∧ '%' ∉ sinceReset before
  /-- It ends once, and not before it begins. -/
  closing : c = ']' → '[' ∈ before ∧ ']' ∉ before

/-- Every character may stand behind those before it. -/
def Follows (cs : List Char) : Prop :=
  ∀ before c, before ++ [c] <+: cs → MayFollow before c

/-- The rules of an authority. -/
structure KeepsRules (text : String) : Prop where
  ne_empty : text ≠ ""
  follows : Follows text.toList
  /-- A bracketed address ends if it begins. -/
  paired : '[' ∈ text.toList → ']' ∈ text.toList
  /-- A host has one port at most. -/
  port : (sinceReset text.toList).count ':' ≤ 1
  /-- Only what comes before the host may be escaped. -/
  percent : '%' ∉ sinceReset text.toList
  /-- There is something behind an at sign. -/
  last : text.toList.getLast? ≠ some '@'

variable {cs : List Char} {c : Char}

theorem sinceReset_concat (cs : List Char) (c : Char) :
    sinceReset (cs ++ [c]) = if c = '@' ∨ c = ']' then [] else sinceReset cs ++ [c] := by
  rw [sinceReset, List.reverse_append, List.reverse_singleton, List.singleton_append,
    List.takeWhile_cons]
  by_cases hc : c = '@' ∨ c = ']'
  · have hstop : (c ≠ '@' && c ≠ ']') = false := by
      rcases hc with rfl | rfl <;> rfl
    rw [if_pos hc, hstop]
    rfl
  · have hgo : (c ≠ '@' && c ≠ ']') = true := by
      simpa using hc
    rw [if_neg hc, hgo, if_pos rfl, List.reverse_cons]
    rfl

theorem follows_nil : Follows [] := by
  intro before c h
  exact absurd (List.prefix_nil.mp h) (List.append_ne_nil_of_right_ne_nil before (List.cons_ne_nil c []))

/-- One more character is looked at with all those before it. -/
theorem follows_concat_iff : Follows (cs ++ [c]) ↔ Follows cs ∧ MayFollow cs c := by
  constructor
  · intro h
    exact ⟨fun before d hd => h before d (hd.trans (List.prefix_append cs [c])),
      h cs c List.prefix_rfl⟩
  · rintro ⟨hcs, hc⟩ before d hd
    rcases List.prefix_concat_iff.mp hd with heq | hbefore
    · obtain ⟨rfl, hlast⟩ := List.append_inj' heq rfl
      obtain rfl : d = c := List.singleton_inj.mp hlast
      exact hc
    · exact hcs before d hbefore

/-! ### The reader -/

theorem isAscii_of_allowed (hc : c.isAlphanum = true ∨ c ∈ marks) : Utf8.IsAscii c := by
  rcases hc with h | h
  · exact Utf8.isAscii_of_isAlphanum h
  · have hmarks : (marks.all fun c => c.toNat < 128) = true := by decide
    have hlt : c.toNat < 128 := of_decide_eq_true (List.all_eq_true.mp hmarks c h)
    exact hlt

theorem isPlain_iff (c : Char) :
    isPlain c = true ↔
      (c.isAlphanum = true ∨ c ∈ marks) ∧ c ≠ ':' ∧ c ≠ '[' ∧ c ≠ ']' ∧ c ≠ '@' ∧ c ≠ '%' := by
  by_cases hc : Utf8.IsAscii c
  · exact hc.induction (P := fun c => isPlain c = true ↔
      (c.isAlphanum = true ∨ c ∈ marks) ∧ c ≠ ':' ∧ c ≠ '[' ∧ c ≠ ']' ∧ c ≠ '@' ∧ c ≠ '%')
      (by decide +kernel)
  · -- outside ASCII there is neither
    refine iff_of_false (fun h => hc ?_) fun h => hc (isAscii_of_allowed h.1)
    simp only [isPlain, Bool.or_eq_true, Bool.and_eq_true, decide_eq_true_eq, beq_iff_eq] at h
    show c.toNat < 128
    omega

/-- What the reader knows of the characters behind it. -/
def stateAfter (cs : List Char) : Scan :=
  { colons := (sinceReset cs).count ':'
    opened := '[' ∈ cs
    closed := ']' ∈ cs
    percent := '%' ∈ sinceReset cs }

theorem ite_error_eq_ok_iff {α ε : Type} {p : Prop} [Decidable p] {e : ε} {a b : α} :
    (if p then .error e else .ok a : Except ε α) = .ok b ↔ ¬p ∧ b = a := by
  by_cases hp : p
  · rw [if_pos hp]
    exact ⟨nofun, fun h => absurd hp h.1⟩
  · rw [if_neg hp, Except.ok.injEq, eq_comm]
    exact (and_iff_right hp).symm

/-- The characters that need attention are marks. -/
theorem mem_marks_of_attended :
    ∀ c ∈ [':', '[', ']', '@', '%'], c ∈ marks := by
  have hall : ([':', '[', ']', '@', '%'].all fun c => marks.contains c) = true := by decide
  intro c hc
  exact List.contains_iff_mem.mp (List.all_eq_true.mp hall c hc)

/-- The reader takes a character when the rules allow it. -/
theorem step_stateAfter (cs : List Char) (c : Char) (s : Scan) :
    (stateAfter cs).step c = .ok s ↔ MayFollow cs c ∧ s = stateAfter (cs ++ [c]) := by
  rw [Scan.step, mayFollow_iff]
  by_cases hcolon : c = ':'
  · subst hcolon
    rw [if_pos rfl, ite_error_eq_ok_iff]
    simp [stateAfter, sinceReset_concat, Scan.maxColons, mem_marks_of_attended]
  by_cases hopen : c = '['
  · subst hopen
    rw [if_neg hcolon, if_pos rfl, ite_error_eq_ok_iff]
    simp [stateAfter, sinceReset_concat, mem_marks_of_attended, and_comm]
  by_cases hclose : c = ']'
  · subst hclose
    rw [if_neg hcolon, if_neg hopen, if_pos rfl, ite_error_eq_ok_iff]
    simp [stateAfter, sinceReset_concat, mem_marks_of_attended]
  rw [if_neg hcolon, if_neg hopen, if_neg hclose]
  by_cases hat : c = '@'
  · subst hat
    rw [if_pos rfl, Except.ok.injEq, eq_comm]
    simp [stateAfter, sinceReset_concat, mem_marks_of_attended]
  by_cases hpercent : c = '%'
  · subst hpercent
    rw [if_neg hat, if_pos rfl, Except.ok.injEq, eq_comm]
    simp [stateAfter, sinceReset_concat, mem_marks_of_attended]
  · -- a character that needs no attention is not counted and resets nothing
    have hplain : isPlain c = true ↔ c.isAlphanum = true ∨ c ∈ marks := by
      rw [isPlain_iff]
      exact and_iff_left ⟨hcolon, hopen, hclose, hat, hpercent⟩
    have hstate : stateAfter (cs ++ [c]) = stateAfter cs := by
      have hopen' := Ne.symm hopen
      have hclose' := Ne.symm hclose
      have hpercent' := Ne.symm hpercent
      simp [stateAfter, sinceReset_concat, hat, hclose, hcolon, hopen', hclose', hpercent']
    rw [if_neg hat, if_neg hpercent, hstate, ← hplain]
    by_cases hc : isPlain c = true
    · rw [if_pos hc, Except.ok.injEq, eq_comm]
      simp [hc, hcolon, hopen, hclose]
    · rw [if_neg hc]
      exact ⟨nofun, fun h => absurd h.1.1 hc⟩

/-- A text is read through when its characters follow one another. -/
theorem foldlM_step_eq_ok_iff (cs : List Char) (s : Scan) :
    cs.foldlM Scan.step {} = .ok s ↔ Follows cs ∧ s = stateAfter cs := by
  induction cs using List.reverseRecOn generalizing s with
  | nil =>
    show (Except.ok {} : Except UriDefect Scan) = .ok s ↔ Follows [] ∧ s = {}
    rw [and_iff_right follows_nil, Except.ok.injEq, eq_comm]
  | append_singleton cs c ih =>
    rw [List.foldlM_append, follows_concat_iff, and_assoc, ← step_stateAfter]
    cases hread : cs.foldlM Scan.step {} with
    | error e =>
      refine ⟨nofun, fun h => ?_⟩
      have hok := (ih (stateAfter cs)).mpr ⟨h.1, rfl⟩
      rw [hread] at hok
      cases hok
    | ok t =>
      obtain ⟨hcs, rfl⟩ := (ih t).mp hread
      rw [and_iff_right hcs]
      show List.foldlM Scan.step (stateAfter cs) [c] = _ ↔ _
      rw [List.foldlM_cons]
      cases (stateAfter cs).step c <;> exact Iff.rfl

theorem defect?_eq_none_iff :
    defect? cs = none ↔ Follows cs ∧ (stateAfter cs).mayEnd = true ∧ cs.getLast? ≠ some '@' := by
  rw [defect?]
  cases hread : cs.foldlM Scan.step {} with
  | error e =>
    refine ⟨nofun, fun h => ?_⟩
    have hok := (foldlM_step_eq_ok_iff cs (stateAfter cs)).mpr ⟨h.1, rfl⟩
    rw [hread] at hok
    cases hok
  | ok s =>
    obtain ⟨hcs, rfl⟩ := (foldlM_step_eq_ok_iff cs s).mp hread
    simp [hcs]

/-- A bracketed address that ends has begun. -/
theorem Follows.mem_opening (h : Follows cs) (hclose : ']' ∈ cs) : '[' ∈ cs := by
  obtain ⟨before, rest, rfl⟩ := List.append_of_mem hclose
  have hprefix : before ++ [']'] <+: before ++ ']' :: rest := ⟨rest, List.append_cons .. |>.symm⟩
  exact List.mem_append_left _ ((h before ']' hprefix).closing rfl).1

theorem mayEnd_stateAfter_iff (h : Follows cs) :
    (stateAfter cs).mayEnd = true ↔
      ('[' ∈ cs → ']' ∈ cs) ∧ (sinceReset cs).count ':' ≤ 1 ∧ '%' ∉ sinceReset cs := by
  have hpaired : ('[' ∈ cs ↔ ']' ∈ cs) ↔ ('[' ∈ cs → ']' ∈ cs) :=
    ⟨fun h => h.mp, fun hpair => ⟨hpair, h.mem_opening⟩⟩
  have hsame : (stateAfter cs).opened = (stateAfter cs).closed ↔ ('[' ∈ cs ↔ ']' ∈ cs) :=
    decide_eq_decide
  have hpercent : (stateAfter cs).percent = false ↔ '%' ∉ sinceReset cs := decide_eq_false_iff_not
  rw [Scan.mayEnd, Bool.and_eq_true, Bool.and_eq_true, beq_iff_eq, decide_eq_true_eq,
    Bool.not_eq_true', hsame, hpaired, hpercent, and_assoc]
  exact Iff.rfl

/-! ### Authorities as texts -/

theorem split_eq_ok {cs rest : List Char} {a : Authority}
    (h : split cs = .ok (a, rest)) : a.text.toList ++ rest = cs := by
  rw [split] at h
  split at h
  · cases h
  · cases h
    rw [String.toList_ofList, List.takeWhile_append_dropWhile]

/-- An authority is kept as it was written. -/
theorem text_of_parse {text : String} {a : Authority} (h : parse text.toList = .ok a) :
    a.text = text := by
  rw [parse] at h
  split at h
  · cases h
  split at h
  · cases h
  · next _ hsplit =>
    cases h
    have hwhole := split_eq_ok hsplit
    rw [List.append_nil] at hwhole
    exact String.toList_inj.mp hwhole
  · cases h

/-- A text is read as a whole when nothing in it ends an authority. -/
theorem parse_of_defect? {text : String} (hne : text ≠ "")
    (hend : ∀ c ∈ text.toList, isEnd c = false) (h : defect? text.toList = none) :
    parse text.toList = .ok ⟨text, h⟩ := by
  have hgo : ∀ c ∈ text.toList, (!isEnd c) = true := fun c hc => by rw [hend c hc]; rfl
  have hpart : (text.toList.takeWhile fun c => !isEnd c) = text.toList :=
    List.takeWhile_eq_self_iff.mpr hgo
  have hrest : (text.toList.dropWhile fun c => !isEnd c) = [] :=
    List.dropWhile_eq_nil_iff.mpr hgo
  have hsplit : split text.toList = .ok (⟨text, h⟩, []) := by
    rw [split]
    split
    · next e he =>
      rw [hpart, h] at he
      cases he
    · simp only [hpart, hrest, String.ofList_toList]
  have hnonempty : text.toList.isEmpty = false := by simpa using hne
  rw [parse, hnonempty, hsplit]
  rfl

/-- An authority ends at none of the characters that it may hold. -/
theorem isEnd_of_allowed (hc : c.isAlphanum = true ∨ c ∈ marks) : isEnd c = false := by
  rw [isEnd, Bool.or_eq_false_iff, Bool.or_eq_false_iff, decide_eq_false_iff_not,
    decide_eq_false_iff_not, decide_eq_false_iff_not]
  refine ⟨⟨?_, ?_⟩, ?_⟩
  all_goals
    rintro rfl
    revert hc
    decide

theorem Follows.allowed (h : Follows cs) (hc : c ∈ cs) : c.isAlphanum = true ∨ c ∈ marks := by
  obtain ⟨before, rest, rfl⟩ := List.append_of_mem hc
  exact (h before c ⟨rest, by rw [List.append_assoc]; rfl⟩).allowed

/-- An authority keeps the rules, unless it is empty. -/
theorem keepsRules_text (a : Authority) (hne : a.text ≠ "") : KeepsRules a.text := by
  obtain ⟨hfollows, hend, hlast⟩ := defect?_eq_none_iff.mp a.sound
  obtain ⟨hpaired, hport, hpercent⟩ := (mayEnd_stateAfter_iff hfollows).mp hend
  exact ⟨hne, hfollows, hpaired, hport, hpercent, hlast⟩

/-- A text is an authority exactly when it keeps the rules. -/
theorem exists_parse_iff {text : String} :
    (∃ a, parse text.toList = .ok a) ↔ KeepsRules text := by
  constructor
  · rintro ⟨a, ha⟩
    obtain rfl := text_of_parse ha
    refine a.keepsRules_text fun hempty => ?_
    rw [hempty] at ha
    cases ha
  · intro h
    have hend := (mayEnd_stateAfter_iff h.follows).mpr ⟨h.paired, h.port, h.percent⟩
    have hsound := defect?_eq_none_iff.mpr ⟨h.follows, hend, h.last⟩
    exact ⟨_, parse_of_defect? h.ne_empty (fun c hc => isEnd_of_allowed (h.follows.allowed hc)) hsound⟩

/-- An authority is made of visible characters. -/
theorem codes_of_allowed (hc : c.isAlphanum = true ∨ c ∈ marks) : 32 < c.toNat ∧ c.toNat < 127 :=
  (isAscii_of_allowed hc).induction
    (P := fun c => (c.isAlphanum = true ∨ c ∈ marks) → 32 < c.toNat ∧ c.toNat < 127)
    (by decide +kernel) hc

end Gateway.Authority
