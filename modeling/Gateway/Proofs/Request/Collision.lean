import Gateway.Proofs.Header.Variable

/-!
# Variables that stand for the same header

A variable that stands for a header spells its name: `normalText` is what it spells, and two
variables stand for the same header exactly when they spell the same (`name_eq_iff`). Of the
variables that are written in capitals, digits and underscores after the mark, each is found again
from its header (`eq_markedName`), so that no two of them stand for the same one. What is left are
the media type and the length of the body, which have a variable of their own beside
(`shared_header_iff`).
-/

namespace Gateway

namespace HeaderName

/-- The texts in lower case that are names. -/
theorem exists_text_eq_iff {cs : List Char} (hcs : cs.map Char.toLower = cs) :
    (∃ n : HeaderName, n.text.toList = cs) ↔ Token.isToken cs = true ∧ cs.length ≤ maxLength := by
  constructor
  · rintro ⟨n, rfl⟩
    exact ⟨n.isToken, n.length_le⟩
  · rintro ⟨htoken, hlength⟩
    have htext : (String.ofList cs).toList = cs := String.toList_ofList
    exact ⟨⟨String.ofList cs, by rwa [htext], by rwa [htext], by rwa [htext]⟩, htext⟩

end HeaderName

namespace Environment

open HeaderName (variableChar)
open Token (isTokenChar)

variable {key key' rest : String} {n n' : HeaderName} {c : Char}

/-! ### What a variable spells -/

/-- What a variable spells: the media type or the length of the body, or else what comes after the
mark, in small letters and with hyphens for underscores. -/
def normalText (key : String) : List Char :=
  if key = "CONTENT_TYPE" then "content-type".toList
  else if key = "CONTENT_LENGTH" then "content-length".toList
  else ((key.toList.drop "HTTP_".length).map Char.toLower).map fun c => if c = '_' then '-' else c

theorem normalText_of_name (h : headerNameFor? key = some n) : normalText key = n.text.toList := by
  rw [normalText]
  rcases headerNameFor?_eq_some_iff.mp h with ⟨rfl, hn⟩ | ⟨rfl, hn⟩ | ⟨rest, rfl, hn⟩
  · rw [if_pos rfl, hn]
  · rw [if_neg (by decide), if_pos rfl, hn]
  · have hdrop : ("HTTP_" ++ rest).toList.drop "HTTP_".length = rest.toList := by
      rw [String.toList_append]
      rfl
    rw [if_neg (ne_marked rfl).symm, if_neg (ne_marked rfl).symm, hdrop, hn]

/-- Two variables stand for the same header when they spell the same. -/
theorem name_eq_iff (h : headerNameFor? key = some n) (h' : headerNameFor? key' = some n') :
    n = n' ↔ normalText key = normalText key' := by
  rw [normalText_of_name h, normalText_of_name h', String.toList_inj]
  exact ⟨congrArg HeaderName.text, HeaderName.eq_of_text_eq⟩

/-! ### Variables in capitals -/

/-- Capitals, digits and the underscore. -/
def isCapitalChar (c : Char) : Bool :=
  c.isUpper || c.isDigit || c = '_'

/-- What comes after the mark is made of capitals, digits and underscores, one at least. -/
def IsCapitalText (rest : String) : Prop :=
  rest ≠ "" ∧ ∀ c ∈ rest.toList, isCapitalChar c = true

theorem isAscii_of_isCapitalChar (hc : isCapitalChar c = true) : Utf8.IsAscii c := by
  have halphanum : (c.isUpper || c.isLower || c.isDigit) = true → Utf8.IsAscii c :=
    Utf8.isAscii_of_isAlphanum
  rw [isCapitalChar, Bool.or_eq_true, Bool.or_eq_true, decide_eq_true_eq] at hc
  rcases hc with (hc | hc) | rfl
  · exact halphanum (by simp [hc])
  · exact halphanum (by simp [hc])
  · show '_'.toNat < 128
    decide

/-- Such a character stands for a character of names, from which it is found again. -/
theorem headerChar_of_isCapitalChar (hc : isCapitalChar c = true) :
    isTokenChar (headerChar c) = true ∧ variableChar (headerChar c) = c := by
  -- a finite check: there are 128 ASCII characters
  have hcases : isCapitalChar c = true →
      isTokenChar (headerChar c) = true ∧ variableChar (headerChar c) = c :=
    (isAscii_of_isCapitalChar hc).induction
      (P := fun c => isCapitalChar c = true →
        isTokenChar (headerChar c) = true ∧ variableChar (headerChar c) = c) (by decide)
  exact hcases hc

/-- A variable in capitals stands for a header unless the name of that is too long. -/
theorem isSome_name_iff (hrest : IsCapitalText rest) :
    (headerNameFor? ("HTTP_" ++ rest)).isSome = true ↔ (Utf8.ofString rest).length ≤ 65535 := by
  have htoken : Token.isToken (rest.toList.map headerChar) = true := by
    have hne : rest.toList ≠ [] := fun hnil => hrest.1 (String.toList_inj.mp hnil)
    rw [Token.isToken, Bool.and_eq_true, List.all_eq_true, List.forall_mem_map]
    exact ⟨by simpa using hne, fun c hc => (headerChar_of_isCapitalChar (hrest.2 c hc)).1⟩
  -- each of the characters is one octet
  have hoctets : (Utf8.ofString rest).length = (rest.toList.map headerChar).length := by
    rw [Utf8.ofString, Utf8.encode_of_isAscii fun c hc => isAscii_of_isCapitalChar (hrest.2 c hc),
      List.length_map, List.length_map]
  simp only [Option.isSome_iff_exists, headerNameFor?_marked_iff]
  rw [HeaderName.exists_text_eq_iff (map_toLower_headerChar rest.toList), hoctets]
  exact and_iff_right htoken

/-- The media type and the length of the body have variables of their own; the other variables that
count here are in capitals after the mark. -/
def IsServerKey (key : String) : Prop :=
  key = "CONTENT_TYPE" ∨ key = "CONTENT_LENGTH" ∨ ∃ rest, IsCapitalText rest ∧ key = "HTTP_" ++ rest

/-- A variable in capitals is found again from its header. -/
theorem eq_markedName (hrest : IsCapitalText rest) (h : headerNameFor? ("HTTP_" ++ rest) = some n) :
    "HTTP_" ++ rest = n.markedName := by
  have hback : n.text.toList.map variableChar = rest.toList := by
    have hsame : ∀ c ∈ rest.toList, (variableChar ∘ headerChar) c = id c :=
      fun c hc => (headerChar_of_isCapitalChar (hrest.2 c hc)).2
    rw [headerNameFor?_marked_iff.mp h, List.map_map, List.map_congr_left hsame, List.map_id]
  rw [HeaderName.markedName, hback, String.ofList_toList]

/-- Which variables there are for a header. -/
theorem key_cases (hkey : IsServerKey key) (h : headerNameFor? key = some n) :
    key = n.markedName ∨ key = "CONTENT_TYPE" ∧ n = HeaderName.contentType ∨
      key = "CONTENT_LENGTH" ∧ n = HeaderName.contentLength := by
  rcases hkey with rfl | rfl | ⟨rest, hrest, rfl⟩
  · exact .inr (.inl ⟨rfl, (Option.some.inj h).symm⟩)
  · exact .inr (.inr ⟨rfl, (Option.some.inj h).symm⟩)
  · exact .inl (eq_markedName hrest h)

/-- Two variables of the media type, or of the length of the body. -/
def Aliases (key key' : String) : Prop :=
  key = "CONTENT_TYPE" ∧ key' = "HTTP_CONTENT_TYPE" ∨
    key = "CONTENT_LENGTH" ∧ key' = "HTTP_CONTENT_LENGTH"

theorem Aliases.names (h : Aliases key key') :
    ∃ n, headerNameFor? key = some n ∧ headerNameFor? key' = some n := by
  rcases h with ⟨rfl, rfl⟩ | ⟨rfl, rfl⟩
  · exact ⟨HeaderName.contentType, rfl, by decide⟩
  · exact ⟨HeaderName.contentLength, rfl, by decide⟩

/-- Only the media type and the length of the body have two variables. -/
theorem shared_header_iff (hkey : IsServerKey key) (hkey' : IsServerKey key') (hne : key ≠ key') :
    (∃ n, headerNameFor? key = some n ∧ headerNameFor? key' = some n) ↔
      Aliases key key' ∨ Aliases key' key := by
  constructor
  · rintro ⟨n, h, h'⟩
    rcases key_cases hkey h with rfl | ⟨rfl, rfl⟩ | ⟨rfl, rfl⟩
    · rcases key_cases hkey' h' with rfl | ⟨rfl, rfl⟩ | ⟨rfl, rfl⟩
      · exact absurd rfl hne
      · exact .inr (.inl ⟨rfl, by decide⟩)
      · exact .inr (.inr ⟨rfl, by decide⟩)
    · rcases key_cases hkey' h' with rfl | ⟨rfl, -⟩ | ⟨-, hn⟩
      · exact .inl (.inl ⟨rfl, by decide⟩)
      · exact absurd rfl hne
      · exact absurd hn (by decide)
    · rcases key_cases hkey' h' with rfl | ⟨-, hn⟩ | ⟨rfl, -⟩
      · exact .inl (.inr ⟨rfl, by decide⟩)
      · exact absurd hn (by decide)
      · exact absurd rfl hne
  · rintro (h | h)
    · exact h.names
    · obtain ⟨n, hn, hn'⟩ := h.names
      exact ⟨n, hn', hn⟩

/-- Two variables stand for the same header exactly when they spell the same. Those in capitals
stand for a header each, as long as its name may be, and no two of them for the same one; beside them
there is one more variable for the media type and one for the length of the body, and nothing else
is shared. Every name without underscores is spelled in capitals after the mark. -/
theorem collisions_of_variables :
    (∀ key₁ key₂ n₁ n₂, headerNameFor? key₁ = some n₁ → headerNameFor? key₂ = some n₂ →
      (n₁ = n₂ ↔ normalText key₁ = normalText key₂)) ∧
    (∀ rest, IsCapitalText rest →
      ((headerNameFor? ("HTTP_" ++ rest)).isSome = true ↔ (Utf8.ofString rest).length ≤ 65535)) ∧
    (∀ rest₁ rest₂ n, IsCapitalText rest₁ → IsCapitalText rest₂ →
      headerNameFor? ("HTTP_" ++ rest₁) = some n → headerNameFor? ("HTTP_" ++ rest₂) = some n →
      "HTTP_" ++ rest₁ = "HTTP_" ++ rest₂) ∧
    (∀ key₁ key₂, IsServerKey key₁ → IsServerKey key₂ → key₁ ≠ key₂ →
      ((∃ n, headerNameFor? key₁ = some n ∧ headerNameFor? key₂ = some n) ↔
        Aliases key₁ key₂ ∨ Aliases key₂ key₁)) ∧
    ∀ n : HeaderName, '_' ∉ n.text.toList → headerNameFor? n.markedName = some n := by
  refine ⟨fun _ _ _ _ h₁ h₂ => name_eq_iff h₁ h₂, fun _ h => isSome_name_iff h, ?_,
    fun _ _ h₁ h₂ hne => shared_header_iff h₁ h₂ hne,
    fun _ hn => HeaderName.headerNameFor?_markedName hn⟩
  intro rest₁ rest₂ n hrest₁ hrest₂ h₁ h₂
  rw [eq_markedName hrest₁ h₁, eq_markedName hrest₂ h₂]

/-- Neither case nor hyphens for underscores keep two variables apart. -/
theorem same_header_of_other_spelling :
    let n : HeaderName := ⟨"x-trace-id", by decide, by decide, by decide⟩
    headerNameFor? "HTTP_X_trace_ID" = some n ∧ headerNameFor? "HTTP_x-TRACE_id" = some n ∧
      normalText "HTTP_X_trace_ID" = normalText "HTTP_x-TRACE_id" := by
  intro n
  have h₁ : headerNameFor? "HTTP_X_trace_ID" = some n := by decide
  have h₂ : headerNameFor? "HTTP_x-TRACE_id" = some n := by decide
  exact ⟨h₁, h₂, (collisions_of_variables.1 _ _ n n h₁ h₂).mp rfl⟩

end Environment

end Gateway
