import Gateway.Http.Token
import Gateway.Text.Utf8

/-!
# Header names

A header name is a token of at most 65535 characters. Names are compared without regard to case, so
they are kept in lower case. `canonical` gives the spelling that goes on the wire: a capital at the
start and after every hyphen.
-/

namespace Gateway

/-- The greatest length of a header name. -/
def HeaderName.maxLength : Nat := 65535

/-- The name of a header, in lower case. -/
structure HeaderName where
  text : String
  isToken : Token.isToken text.toList = true
  toLower_eq : text.toList.map Char.toLower = text.toList
  length_le : text.toList.length ≤ HeaderName.maxLength

namespace HeaderName

theorem eq_of_text_eq {m n : HeaderName} (h : m.text = n.text) : m = n := by
  cases m
  cases n
  cases h
  rfl

instance : DecidableEq HeaderName := fun m n =>
  if h : m.text = n.text then isTrue (eq_of_text_eq h)
  else isFalse fun hmn => h (congrArg text hmn)

/-- The name that a text spells, in whatever case. -/
def ofChars? (cs : List Char) : Option HeaderName :=
  let lower := cs.map Char.toLower
  if h : Token.isToken lower = true ∧ lower.map Char.toLower = lower ∧ lower.length ≤ maxLength then
    some ⟨String.ofList lower, by simpa using h.1, by simpa using h.2.1, by simpa using h.2.2⟩
  else
    none

/-- The name that a sequence of octets spells, in whatever case. -/
def ofBytes? (bs : Bytes) : Option HeaderName :=
  (Utf8.decode? bs).bind ofChars?

/-- The media type of a body. -/
def contentType : HeaderName := ⟨"content-type", by decide, by decide, by decide⟩

/-- The length of a body. -/
def contentLength : HeaderName := ⟨"content-length", by decide, by decide, by decide⟩

/-- Whether the media type may be guessed. -/
def contentTypeOptions : HeaderName := ⟨"x-content-type-options", by decide, by decide, by decide⟩

/-- The methods that a resource knows. -/
def allow : HeaderName := ⟨"allow", by decide, by decide, by decide⟩

/-- The case of a character that stands after another one. -/
def recase (before c : Char) : Char :=
  if before = '-' then c.toUpper else c.toLower

/-- A capital at the start and after every hyphen, and small letters elsewhere: the start counts as
following a hyphen. Only ASCII letters have a case here. -/
def canonical (cs : List Char) : List Char :=
  List.zipWith recase ('-' :: cs) cs

/-- The spelling of a name on the wire. -/
def wireText (n : HeaderName) : List Char :=
  canonical n.text.toList

end HeaderName

end Gateway
