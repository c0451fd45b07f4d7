/-!
# Defects of a URI

Why a text is no URI, or no part of one.
-/

namespace Gateway

/-- A reason to refuse a URI. -/
inductive UriDefect where
  | invalidCharacter
  /-- Brackets, colons, percent signs or the user information of the authority are misplaced. -/
  | invalidAuthority
  /-- Neither a path nor a complete authority. -/
  | invalidFormat
  | noLeadingSlash
  /-- More than 65534 octets. -/
  | tooLong
  /-- A scheme of more than 64 characters. -/
  | schemeTooLong
  /-- Nothing where an authority is needed. -/
  | missing
  deriving DecidableEq

namespace UriDefect

def message : UriDefect → String
  | invalidCharacter => "invalid uri character"
  | invalidAuthority => "invalid authority"
  | invalidFormat => "invalid format"
  | noLeadingSlash => "path does not start with slash"
  | tooLong => "uri too long"
  | schemeTooLong => "scheme too long"
  | missing => "empty string"

end UriDefect

end Gateway
