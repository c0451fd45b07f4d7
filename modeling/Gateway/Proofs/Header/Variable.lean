import Gateway.Proofs.Header.Name
import Gateway.Proofs.Request.Headers

/-!
# Headers and their variables

The server hands a header over as a variable that spells its name in capitals, with underscores for
hyphens, after a mark; only the media type has a variable of its own. A name without underscores is
found again from its variable (`headerNameFor?_variableName`), so different names have different
variables.
-/

namespace Gateway

namespace HeaderName

open Token (isTokenChar)

/-- A character of a header's name as it stands in a variable. -/
def variableChar (c : Char) : Char :=
  if c = '-' then '_' else c.toUpper

/-- The variable in which the server hands a header over. -/
def variableName (n : HeaderName) : String :=
  if n = contentType then "CONTENT_TYPE"
  else "HTTP_" ++ String.ofList (n.text.toList.map variableChar)

/-- Small letters, hyphens and whatever else stands in a name, underscores apart, are found again. -/
theorem headerChar_variableChar {c : Char} (hc : isTokenChar c = true) (hlower : c.toLower = c)
    (hplain : c ≠ '_') : Environment.headerChar (variableChar c) = c := by
  -- a finite check: token characters are ASCII
  have hcases : isTokenChar c = true → c.toLower = c → c ≠ '_' →
      Environment.headerChar (variableChar c) = c :=
    (Token.isAscii_of_isTokenChar hc).induction
      (P := fun c => isTokenChar c = true → c.toLower = c → c ≠ '_' →
        Environment.headerChar (variableChar c) = c) (by decide)
  exact hcases hc hlower hplain

variable {n : HeaderName}

theorem map_headerChar_variableChar (hn : '_' ∉ n.text.toList) :
    (n.text.toList.map variableChar).map Environment.headerChar = n.text.toList := by
  have hsame : ∀ c ∈ n.text.toList, (Environment.headerChar ∘ variableChar) c = id c := by
    intro c hc
    have hlower : c.toLower = c := List.map_inj_left.mp (n.toLower_eq.trans (List.map_id' _).symm) c hc
    have hplain : c ≠ '_' := fun h => hn (h ▸ hc)
    exact headerChar_variableChar (n.isTokenChar_of_mem c hc) hlower hplain
  rw [List.map_map, List.map_congr_left hsame, List.map_id]

/-- The variable that spells a header after the mark: in capitals, with underscores for hyphens. -/
def markedName (n : HeaderName) : String :=
  "HTTP_" ++ String.ofList (n.text.toList.map variableChar)

/-- Every name without underscores has a variable with the mark. -/
theorem headerNameFor?_markedName (hn : '_' ∉ n.text.toList) :
    Environment.headerNameFor? n.markedName = some n := by
  rw [markedName, Environment.headerNameFor?_marked_iff, String.toList_ofList,
    map_headerChar_variableChar hn]

/-- A variable leads back to the header that it was made for. -/
theorem headerNameFor?_variableName (hn : '_' ∉ n.text.toList) :
    Environment.headerNameFor? n.variableName = some n := by
  by_cases htype : n = contentType
  · subst htype
    rfl
  · have hname : n.variableName = n.markedName := if_neg htype
    rw [hname]
    exact headerNameFor?_markedName hn

end HeaderName

end Gateway
