import Gateway.Proofs.Environment.Pending
import Gateway.Proofs.Header.Map
import Gateway.Proofs.Header.Value
import Gateway.Proofs.Request.Parts
import Gateway.Proofs.Text.Utf8
import Mathlib.Data.List.Basic

/-!
# Variables that give headers

`StandsFor` says which header a variable stands for, and `Gives` which one it gives a request: an
illegal value is no header, and an empty media type or length says nothing. Where one variable at
most gives a header, as when no two stand for the same, the header map of the variables has that
header exactly when the variable gives it, with its value as the only one
(`values_headerMap_of_gives`, `values_headerMap_of_none`).
-/

namespace Gateway

namespace Environment

variable {e e' : Environment} {key v : String} {n : HeaderName}

/-! ### Variables and the headers they stand for -/

/-- The variable `key` stands for the header `n`: the media type and the length of the body have
variables of their own, and any other header is spelled after a mark, in whatever case and with
underscores for hyphens. -/
def StandsFor (key : String) (n : HeaderName) : Prop :=
  key = "CONTENT_TYPE" ∧ n.text = "content-type" ∨
  key = "CONTENT_LENGTH" ∧ n.text = "content-length" ∨
  ∃ rest : String, key = "HTTP_" ++ rest ∧
    n.text.toList = (rest.toList.map Char.toLower).map fun c => if c = '_' then '-' else c

theorem map_headerChar (cs : List Char) :
    cs.map headerChar = (cs.map Char.toLower).map fun c => if c = '_' then '-' else c := by
  rw [List.map_map]
  rfl

/-- A name in lower case is read as itself, and from nothing else in lower case. -/
theorem ofChars?_eq_some_iff_of_lower {cs : List Char} (hcs : cs.map Char.toLower = cs) :
    HeaderName.ofChars? cs = some n ↔ n.text.toList = cs := by
  have htext : ∀ {s : String}, s.toList = cs → s = String.ofList cs := by
    rintro s rfl
    exact String.ofList_toList.symm
  rw [HeaderName.ofChars?]
  simp only [hcs, true_and]
  constructor
  · intro hn
    split at hn
    · rw [← Option.some.inj hn, String.toList_ofList]
    · cases hn
  · intro hn
    have hname : Token.isToken cs = true ∧ cs.length ≤ HeaderName.maxLength := by
      rw [← hn]
      exact ⟨n.isToken, n.length_le⟩
    rw [dif_pos hname]
    exact congrArg some (HeaderName.eq_of_text_eq (htext hn).symm)

theorem toLower_headerChar (c : Char) : (headerChar c).toLower = headerChar c := by
  rw [headerChar]
  split
  · rfl
  · exact Utf8.toLower_toLower c

/-- What is read after a mark is in lower case. -/
theorem map_toLower_headerChar (cs : List Char) :
    (cs.map headerChar).map Char.toLower = cs.map headerChar := by
  rw [List.map_map]
  exact List.map_congr_left fun c _ => toLower_headerChar c

/-- A name that is spelled after the mark. -/
theorem isPrefixOf?_headerMark {rest : List Char} :
    List.isPrefixOf? headerMark key.toList = some rest ↔ key = "HTTP_" ++ String.ofList rest := by
  have hmark : ("HTTP_" ++ String.ofList rest).toList = headerMark ++ rest := by
    rw [String.toList_append]
    exact congrArg (headerMark ++ ·) String.toList_ofList
  rw [List.isPrefixOf?_eq_some_iff_append_eq, ← hmark, String.toList_inj, eq_comm]

/-- What comes after the mark tells marked variables apart. -/
theorem marked_inj {rest other : String} : "HTTP_" ++ rest = "HTTP_" ++ other ↔ rest = other := by
  rw [← String.toList_inj, String.toList_append, String.toList_append, List.append_cancel_left_eq,
    String.toList_inj]

/-- The two variables with names of their own are not marked. -/
theorem ne_marked {s rest : String} (hs : s.toList.head? = some 'C') : s ≠ "HTTP_" ++ rest := by
  rintro rfl
  rw [String.toList_append] at hs
  cases hs

theorem headerNameFor?_eq_some_iff : headerNameFor? key = some n ↔ StandsFor key n := by
  have htext : ∀ {m : HeaderName}, some m = some n ↔ n.text = m.text := fun {m} =>
    ⟨fun h => Option.some.inj h ▸ rfl, fun h => congrArg some (HeaderName.eq_of_text_eq h.symm)⟩
  rw [headerNameFor?, StandsFor]
  by_cases htype : key = "CONTENT_TYPE"
  · subst htype
    have hmarked : ∀ rest, "CONTENT_TYPE" ≠ "HTTP_" ++ rest := fun _ => ne_marked rfl
    rw [if_pos rfl, htext]
    simp [hmarked, HeaderName.contentType]
  · by_cases hlength : key = "CONTENT_LENGTH"
    · subst hlength
      have hmarked : ∀ rest, "CONTENT_LENGTH" ≠ "HTTP_" ++ rest := fun _ => ne_marked rfl
      rw [if_neg htype, if_pos rfl, htext]
      simp [hmarked, HeaderName.contentLength]
    · rw [if_neg htype, if_neg hlength]
      simp only [htype, hlength, false_and, false_or]
      cases hrest : List.isPrefixOf? headerMark key.toList with
      | none =>
        refine ⟨nofun, fun ⟨rest, hkey, _⟩ => ?_⟩
        rw [← String.ofList_toList (s := rest), ← isPrefixOf?_headerMark, hrest] at hkey
        cases hkey
      | some rest =>
        obtain rfl := isPrefixOf?_headerMark.mp hrest
        have hchars : (if rest.isEmpty then none else HeaderName.ofChars? (rest.map headerChar)) =
            some n ↔ n.text.toList = rest.map headerChar := by
          cases rest with
          | nil =>
            refine ⟨nofun, fun hnil => ?_⟩
            have htoken := n.isToken
            rw [hnil] at htoken
            cases htoken
          | cons c rest => exact ofChars?_eq_some_iff_of_lower (map_toLower_headerChar (c :: rest))
        dsimp only
        rw [hchars, map_headerChar]
        constructor
        · intro h
          exact ⟨String.ofList rest, rfl, by rwa [String.toList_ofList]⟩
        · rintro ⟨other, hother, h⟩
          rwa [← marked_inj.mp hother, String.toList_ofList] at h

/-- A variable with the mark stands for the header that it spells, if that is one. -/
theorem headerNameFor?_marked_iff {rest : String} :
    headerNameFor? ("HTTP_" ++ rest) = some n ↔ n.text.toList = rest.toList.map headerChar := by
  have htype : "HTTP_" ++ rest ≠ "CONTENT_TYPE" := (ne_marked rfl).symm
  have hlength : "HTTP_" ++ rest ≠ "CONTENT_LENGTH" := (ne_marked rfl).symm
  rw [headerNameFor?_eq_some_iff, StandsFor, map_headerChar]
  simp only [htype, hlength, marked_inj, false_and, false_or, exists_eq_left']

/-! ### Variables and the headers they give -/

/-- The variable `key` with the value `v` gives a request the header `n`: the value has no control
octets except tab, and if it is a media type or a length it is not empty. -/
def Gives (key v : String) (n : HeaderName) : Prop :=
  StandsFor key n ∧ (∀ b ∈ Utf8.ofString v, b = 9 ∨ 32 ≤ b ∧ b ≠ 127) ∧
    ¬(v = "" ∧ (n = HeaderName.contentType ∨ n = HeaderName.contentLength))

theorem headerOf?_eq_some_iff {x : HeaderName × HeaderValue} :
    headerOf? (key, v) = some x ↔ Gives key v x.1 ∧ x.2 = Utf8.ofString v := by
  obtain ⟨n, w⟩ := x
  rw [headerOf?, Gives, ← headerNameFor?_eq_some_iff, ← HeaderValue.isLegal_iff]
  dsimp only
  cases hname : headerNameFor? key with
  | none => simp
  | some m =>
    dsimp only
    by_cases hempty : v = "" ∧ (m = HeaderName.contentType ∨ m = HeaderName.contentLength)
    · have hskip : (v.isEmpty && (m = HeaderName.contentType || m = HeaderName.contentLength)) =
          true := by
        simpa using hempty
      rw [if_pos hskip]
      refine ⟨nofun, ?_⟩
      rintro ⟨⟨hm, -, hsays⟩, -⟩
      exact absurd (Option.some.inj hm ▸ hempty) hsays
    · have hsays : ¬(v.isEmpty && (m = HeaderName.contentType || m = HeaderName.contentLength)) =
          true := by
        simpa using hempty
      rw [if_neg hsays, HeaderValue.ofBytes?]
      cases HeaderValue.isLegal (Utf8.ofString v) with
      | false => simp
      | true =>
        simp only [↓reduceIte, Option.map_some, Option.some.injEq, Prod.mk.injEq, true_and]
        constructor
        · rintro ⟨rfl, rfl⟩
          exact ⟨⟨rfl, hempty⟩, rfl⟩
        · rintro ⟨⟨rfl, -⟩, rfl⟩
          exact ⟨rfl, rfl⟩

/-! ### The headers that all variables give -/

/-- At most one variable stands for the header `n`. -/
def NamedOnce (e : Environment) (n : HeaderName) : Prop :=
  ∀ j k, (e.get? j).isSome → (e.get? k).isSome → StandsFor j n → StandsFor k n → j = k

theorem mem_givenHeaders_iff {x : HeaderName × HeaderValue} :
    x ∈ e.givenHeaders ↔
      ∃ key v, e.get? key = some v ∧ Gives key v x.1 ∧ x.2 = Utf8.ofString v := by
  rw [givenHeaders, List.mem_filterMap]
  constructor
  · rintro ⟨⟨key, v⟩, hmem, hx⟩
    exact ⟨key, v, (Table.get?_eq_some_iff e.vars key v).mpr hmem, headerOf?_eq_some_iff.mp hx⟩
  · rintro ⟨key, v, hget, hx⟩
    exact ⟨(key, v), (Table.get?_eq_some_iff e.vars key v).mp hget, headerOf?_eq_some_iff.mpr hx⟩

/-- At most one variable gives the header `n`. -/
def GivenOnce (e : Environment) (n : HeaderName) : Prop :=
  ∀ j k v w, e.get? j = some v → e.get? k = some w → Gives j v n → Gives k w n → j = k

theorem NamedOnce.givenOnce (hn : e.NamedOnce n) : e.GivenOnce n := by
  intro j k v w hj hk hjn hkn
  exact hn j k (by rw [hj]; rfl) (by rw [hk]; rfl) hjn.1 hkn.1

/-- The only variable that gives a header decides its only value. -/
theorem values_headerMap_of_gives (hn : e.GivenOnce n) (hget : e.get? key = some v)
    (hgives : Gives key v n) : e.headerMap.values n = [Utf8.ofString v] := by
  rw [headerMap, HeaderMap.values_ofList]
  have hmem : (n, Utf8.ofString v) ∈ (e.givenHeaders).filter fun x => x.1 = n :=
    List.mem_filter.mpr ⟨mem_givenHeaders_iff.mpr ⟨key, v, hget, hgives, rfl⟩, by simp⟩
  cases hlast : ((e.givenHeaders).filter fun x => x.1 = n).getLast? with
  | none =>
    rw [List.getLast?_eq_none_iff.mp hlast] at hmem
    cases hmem
  | some x =>
    -- whichever pair came last under this name, it comes from the same variable
    obtain ⟨hx, hname⟩ := List.mem_filter.mp (List.mem_of_getLast? hlast)
    obtain ⟨other, w, hother, hw, hvalue⟩ := mem_givenHeaders_iff.mp hx
    rw [of_decide_eq_true hname] at hw
    obtain rfl : key = other := hn key other v w hget hother hgives hw
    obtain rfl : v = w := Option.some.inj (hget.symm.trans hother)
    exact congrArg (fun w => [w]) hvalue

/-- A header that no variable gives is missing. -/
theorem values_headerMap_of_none (hnone : ∀ key v, e.get? key = some v → ¬Gives key v n) :
    e.headerMap.values n = [] := by
  rw [headerMap, HeaderMap.values_ofList]
  have hnil : ((e.givenHeaders).filter fun x => x.1 = n) = [] := by
    rw [List.filter_eq_nil_iff]
    intro x hx hname
    obtain ⟨key, v, hget, hgives, -⟩ := mem_givenHeaders_iff.mp hx
    exact hnone key v hget (of_decide_eq_true hname ▸ hgives)
  rw [hnil]
  rfl

/-- A header has the same values where the same variables give it with the same values. -/
theorem values_headerMap_congr (hn : e.GivenOnce n)
    (h : ∀ key v, Gives key v n → (e.get? key = some v ↔ e'.get? key = some v)) :
    e.headerMap.values n = e'.headerMap.values n := by
  have hn' : e'.GivenOnce n := by
    intro j k v w hj hk hjn hkn
    exact hn j k v w ((h j v hjn).mpr hj) ((h k w hkn).mpr hk) hjn hkn
  by_cases hgiven : ∃ key v, e.get? key = some v ∧ Gives key v n
  · obtain ⟨key, v, hget, hgives⟩ := hgiven
    rw [values_headerMap_of_gives hn hget hgives,
      values_headerMap_of_gives hn' ((h key v hgives).mp hget) hgives]
  · simp only [not_exists, not_and] at hgiven
    rw [values_headerMap_of_none hgiven, values_headerMap_of_none]
    intro key v hget hgives
    exact hgiven key v ((h key v hgives).mpr hget) hgives

/-- The names of variables spell different headers when none is spelled twice. -/
theorem namedOnce_of_nodup (h : (e.toList.filterMap fun p => headerNameFor? p.1).Nodup)
    (n : HeaderName) : e.NamedOnce n := by
  intro j k hj hk hjn hkn
  obtain ⟨v, hv⟩ := Option.isSome_iff_exists.mp hj
  obtain ⟨w, hw⟩ := Option.isSome_iff_exists.mp hk
  have hjmem : (j, v) ∈ e.toList := (Table.get?_eq_some_iff e.vars j v).mp hv
  have hkmem : (k, w) ∈ e.toList := (Table.get?_eq_some_iff e.vars k w).mp hw
  by_contra hne
  have hother : (j, v) ≠ (k, w) := fun h => hne (congrArg Prod.fst h)
  have hsymm : Std.Symm fun p q : String × String => ∀ m, headerNameFor? p.1 = some m →
      ∀ m', headerNameFor? q.1 = some m' → m ≠ m' :=
    ⟨fun p q hpq m hm m' hm' => (hpq m' hm' m hm).symm⟩
  have hdiffer := (List.pairwise_filterMap.mp h).forall hjmem hkmem hother
  exact hdiffer n (headerNameFor?_eq_some_iff.mpr hjn) n (headerNameFor?_eq_some_iff.mpr hkn) rfl

end Environment

end Gateway
