import Gateway.Proofs.Header.Name
import Mathlib.Data.List.Chain
import Mathlib.Data.List.Forall2

/-!
# The case of header names

`canonical` is the one text with the letters of a name in which every ASCII letter has the case that
the character before it asks for (`canonical_eq_iff`): a capital at the start and after a hyphen, a
small letter elsewhere. So it is settled by the letters alone, it is settled once for all, and
different names are spelled differently (`canonical_normal_form`).
-/

namespace Gateway.HeaderName

open Utf8 (IsAscii)

/-! ### One character -/

/-- A letter has the case that the character before it asks for. -/
def CasedAfter (before c : Char) : Prop :=
  c.isAlpha = true → (c.isUpper = true ↔ before = '-') ∧ (c.isLower = true ↔ before ≠ '-')

variable {before before' c d : Char}

theorem casedAfter_recase (before c : Char) : CasedAfter before (recase before c) := by
  have hcases : (c.toUpper.isAlpha = true → c.toUpper.isUpper = true ∧ c.toUpper.isLower = false) ∧
      (c.toLower.isAlpha = true → c.toLower.isUpper = false ∧ c.toLower.isLower = true) := by
    by_cases hc : IsAscii c
    · exact hc.induction (P := fun c =>
        (c.toUpper.isAlpha = true → c.toUpper.isUpper = true ∧ c.toUpper.isLower = false) ∧
          (c.toLower.isAlpha = true → c.toLower.isUpper = false ∧ c.toLower.isLower = true))
        (by decide)
    · -- letters are ASCII
      have hletter : ¬c.isAlpha = true := fun halpha =>
        hc (Utf8.isAscii_of_isAlphanum ((Bool.or_eq_true _ _).mpr (.inl halpha)))
      rw [Utf8.toUpper_of_not_isAscii hc, Utf8.toLower_of_not_isAscii hc]
      exact ⟨fun halpha => absurd halpha hletter, fun halpha => absurd halpha hletter⟩
  intro halpha
  rw [recase] at halpha ⊢
  split
  · next hbefore =>
    rw [if_pos hbefore] at halpha
    obtain ⟨hupper, hlower⟩ := hcases.1 halpha
    simp [hbefore, hupper, hlower]
  · next hbefore =>
    rw [if_neg hbefore] at halpha
    obtain ⟨hupper, hlower⟩ := hcases.2 halpha
    simp [hbefore, hupper, hlower]

/-- A character with the right case is what `recase` makes of it, in whatever case it comes. -/
theorem recase_eq_iff : recase before c = d ↔ d.toLower = c.toLower ∧ CasedAfter before d := by
  constructor
  · rintro rfl
    exact ⟨toLower_recase before c, casedAfter_recase before c⟩
  · rintro ⟨hlower, hcased⟩
    rw [recase]
    split
    · next hbefore =>
      have hd : d.isLower = false := by
        by_contra hsmall
        rw [Bool.not_eq_false] at hsmall
        have halpha : d.isAlpha = true := (Bool.or_eq_true _ _).mpr (.inr hsmall)
        exact (hcased halpha).2.mp hsmall hbefore
      calc c.toUpper = d.toLower.toUpper := by rw [hlower, Utf8.toUpper_toLower]
        _ = d.toUpper := Utf8.toUpper_toLower d
        _ = d := Utf8.toUpper_of_not_isLower hd
    · next hbefore =>
      have hd : d.isUpper = false := by
        by_contra hcapital
        rw [Bool.not_eq_false] at hcapital
        have halpha : d.isAlpha = true := (Bool.or_eq_true _ _).mpr (.inl hcapital)
        exact hbefore ((hcased halpha).1.mp hcapital)
      calc c.toLower = d.toLower := hlower.symm
        _ = d := Utf8.toLower_of_not_isUpper hd

/-- A hyphen has no case. -/
theorem eq_hyphen_iff_of_toLower_eq (h : d.toLower = c.toLower) : d = '-' ↔ c = '-' := by
  have hhyphen : ∀ e : Char, e.toLower = '-' ↔ e = '-' := by
    intro e
    by_cases he : IsAscii e
    · exact he.induction (P := fun e => e.toLower = '-' ↔ e = '-') (by decide)
    · rw [Utf8.toLower_of_not_isAscii he]
  rw [← hhyphen d, ← hhyphen c, h]

/-! ### Texts -/

/-- The text that `recase` makes after a character, which may be another one as long as both are
hyphens or neither is. -/
theorem zipWith_recase_eq_iff {cs ds : List Char} (h : before = '-' ↔ before' = '-') :
    List.zipWith recase (before :: cs) cs = ds ↔
      ds.map Char.toLower = cs.map Char.toLower ∧ List.IsChain CasedAfter (before' :: ds) := by
  -- by induction on the text: the characters that come before grow apart in their case only
  induction cs generalizing before before' ds with
  | nil =>
    cases ds with
    | nil => simp
    | cons d ds => simp
  | cons c cs ih =>
    cases ds with
    | nil => simp
    | cons d ds =>
      have hfirst : recase before c = d ↔ d.toLower = c.toLower ∧ CasedAfter before' d := by
        rw [recase_eq_iff, CasedAfter, CasedAfter, h, ne_eq, h]
      rw [List.zipWith_cons_cons, List.cons.injEq, List.map_cons, List.map_cons, List.cons.injEq,
        List.isChain_cons_cons, hfirst]
      constructor
      · rintro ⟨⟨hlower, hcased⟩, hrest⟩
        obtain ⟨hlowers, hchain⟩ := (ih (eq_hyphen_iff_of_toLower_eq hlower).symm).mp hrest
        exact ⟨⟨hlower, hlowers⟩, hcased, hchain⟩
      · rintro ⟨⟨hlower, hlowers⟩, hcased, hchain⟩
        exact ⟨⟨hlower, hcased⟩,
          (ih (eq_hyphen_iff_of_toLower_eq hlower).symm).mpr ⟨hlowers, hchain⟩⟩

/-- One text has the letters of another one in the right case, and `canonical` makes that text. -/
theorem canonical_eq_iff {cs ds : List Char} : canonical cs = ds ↔
    ds.map Char.toLower = cs.map Char.toLower ∧ List.IsChain CasedAfter ('-' :: ds) :=
  zipWith_recase_eq_iff Iff.rfl

theorem map_toLower_canonical (cs : List Char) :
    (canonical cs).map Char.toLower = cs.map Char.toLower :=
  map_toLower_zipWith_recase '-' cs

theorem isChain_canonical (cs : List Char) : List.IsChain CasedAfter ('-' :: canonical cs) :=
  (canonical_eq_iff.mp rfl).2

/-- The letters of a text settle what `canonical` makes of it. -/
theorem canonical_congr {cs ds : List Char} (h : ds.map Char.toLower = cs.map Char.toLower) :
    canonical ds = canonical cs :=
  canonical_eq_iff.mpr ⟨(map_toLower_canonical cs).trans h.symm, isChain_canonical cs⟩

/-! ### Where capitals stand -/

/-- A word begins after this much of a text: at the start, and after every hyphen. -/
def WordBegins (before : List Char) : Prop :=
  before = [] ∨ before.getLast? = some '-'

theorem cased_of_isChain {before after ds : List Char} (hds : List.IsChain CasedAfter ('-' :: ds))
    (h : ds = before ++ c :: after) (hc : c.isAlpha = true) :
    (c.isUpper = true ↔ WordBegins before) ∧ (c.isLower = true ↔ ¬WordBegins before) := by
  -- the start counts as following a hyphen
  obtain ⟨last, hlast, hword⟩ : ∃ last, ('-' :: before).getLast? = some last ∧
      (last = '-' ↔ WordBegins before) := by
    cases before with
    | nil => exact ⟨'-', rfl, by simp [WordBegins]⟩
    | cons b before =>
      refine ⟨(b :: before).getLast (List.cons_ne_nil _ _), ?_, ?_⟩
      · rw [List.getLast?_cons_cons, List.getLast?_eq_some_getLast]
      · simp [WordBegins, List.getLast?_eq_some_getLast]
  rw [h, ← List.cons_append, List.isChain_append] at hds
  rw [← hword]
  exact hds.2.2 last hlast c rfl hc

/-- Texts with the same letters differ in the case of ASCII letters only. -/
theorem forall₂_of_map_toLower {cs ds : List Char}
    (h : ds.map Char.toLower = cs.map Char.toLower) :
    List.Forall₂ (fun c d => d = c ∨ c.isAlpha = true ∧ d.toLower = c.toLower) cs ds := by
  rw [← List.forall₂_eq_eq_eq, List.forall₂_map_left_iff, List.forall₂_map_right_iff] at h
  refine h.flip.imp fun c d (hcd : d.toLower = c.toLower) => ?_
  by_cases hc : c.isAlpha = true
  · exact .inr ⟨hc, hcd⟩
  · -- what is no letter has no case
    have hfixed : ∀ e : Char, ¬e.isAlpha = true → e.toLower = e := by
      intro e he
      refine Utf8.toLower_of_not_isUpper (Bool.eq_false_iff.mpr fun hupper => he ?_)
      exact (Bool.or_eq_true _ _).mpr (.inl hupper)
    have hd : ¬d.isAlpha = true := by
      rwa [← Utf8.isAlpha_toLower, hcd, Utf8.isAlpha_toLower]
    rw [hfixed d hd, hfixed c hc] at hcd
    exact .inl hcd

/-- The spelling on the wire of a text is the same text except for the case of ASCII letters: they
are capitals at the start and after a hyphen, and small letters elsewhere. The case that the letters
had before is nothing to it, and spelling a text again changes nothing. A name is read back from its
spelling in small letters, so that different names are spelled differently. -/
theorem canonical_normal_form :
    (∀ cs : List Char,
      List.Forall₂ (fun c d => d = c ∨ c.isAlpha = true ∧ d.toLower = c.toLower) cs
        (canonical cs) ∧
      (∀ before c after, canonical cs = before ++ c :: after → c.isAlpha = true →
        (c.isUpper = true ↔ WordBegins before) ∧ (c.isLower = true ↔ ¬WordBegins before)) ∧
      canonical (cs.map Char.toLower) = canonical cs ∧
      canonical (canonical cs) = canonical cs) ∧
    ∀ n : HeaderName, (canonical n.text.toList).map Char.toLower = n.text.toList ∧
      ∀ m : HeaderName, canonical m.text.toList = canonical n.text.toList → m = n := by
  have hread : ∀ n : HeaderName, (canonical n.text.toList).map Char.toLower = n.text.toList :=
    fun n => n.map_toLower_wireText
  refine ⟨fun cs => ⟨forall₂_of_map_toLower (map_toLower_canonical cs), ?_, ?_, ?_⟩,
    fun n => ⟨hread n, fun m hm => ?_⟩⟩
  · exact fun before c after h hc => cased_of_isChain (isChain_canonical cs) h hc
  · refine canonical_congr ?_
    rw [List.map_map]
    exact List.map_congr_left fun c _ => Utf8.toLower_toLower c
  · exact canonical_congr (map_toLower_canonical cs)
  · -- both names are what is read in the one spelling
    have hsame : m.text.toList = n.text.toList := by rw [← hread m, hm, hread n]
    exact eq_of_text_eq (String.toList_inj.mp hsame)

example : canonical "x-éTAG--2B-Ça".toList = "X-étag--2b-Ça".toList := by decide

end Gateway.HeaderName
