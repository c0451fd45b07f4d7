import Gateway.Text.Numeral
import Gateway.Uri.Defect

/-!
# Authorities

The part of a URI that names a host: optional user information before an `@`, a host name or a
bracketed address, and an optional port. `defect?` reads an authority once from left to right and
says what is wrong with it; an authority is a text without defect. It is ASCII throughout.
-/

namespace Gateway

namespace Authority

/-- The characters that end an authority inside a URI. -/
def isEnd (c : Char) : Bool :=
  c = '/' || c = '?' || c = '#'

/-- The characters that need no attention: letters, digits and marks other than colon, brackets,
at sign and percent sign. -/
def isPlain (c : Char) : Bool :=
  let n := c.toNat
  (0x61 ≤ n && n ≤ 0x7A) || (0x41 ≤ n && n ≤ 0x5A) || (0x30 ≤ n && n ≤ 0x39) ||
    n == 0x21 || n == 0x24 || (0x26 ≤ n && n ≤ 0x2E) || n == 0x3B || n == 0x3D || n == 0x5F ||
    n == 0x7E

/-- What has to be remembered of the characters read. -/
structure Scan where
  /-- Colons since the user information or the bracketed address ended. -/
  colons : Nat := 0
  /-- A bracketed address has begun. -/
  opened : Bool := false
  /-- A bracketed address has ended. -/
  closed : Bool := false
  /-- A percent sign stands outside user information and brackets. -/
  percent : Bool := false
  deriving DecidableEq

namespace Scan

/-- The most colons between two resets. -/
def maxColons : Nat := 8

/-- Reads one character. An at sign or a closing bracket forgives the colons and percent signs
before it. -/
def step (s : Scan) (c : Char) : Except UriDefect Scan :=
  if c = ':' then
    if maxColons ≤ s.colons then .error .invalidAuthority else .ok { s with colons := s.colons + 1 }
  else if c = '[' then
    if s.percent || s.opened then .error .invalidAuthority else .ok { s with opened := true }
  else if c = ']' then
    if !s.opened || s.closed then .error .invalidAuthority
    else .ok { s with closed := true, colons := 0, percent := false }
  else if c = '@' then .ok { s with colons := 0, percent := false }
  else if c = '%' then .ok { s with percent := true }
  else if isPlain c then .ok s
  else .error .invalidCharacter

/-- Whether an authority may end here: brackets in pairs, one colon at most, no percent sign. -/
def mayEnd (s : Scan) : Bool :=
  s.opened == s.closed && s.colons ≤ 1 && !s.percent

end Scan

/-- What is wrong with a text as an authority, if something is. -/
def defect? (cs : List Char) : Option UriDefect :=
  match cs.foldlM Scan.step {} with
  | .error e => some e
  | .ok s =>
    if s.mayEnd && cs.getLast? ≠ some '@' then none else some .invalidAuthority

end Authority

/-- The authority of a URI. -/
structure Authority where
  text : String
  sound : Authority.defect? text.toList = none
  deriving DecidableEq

namespace Authority

/-- Reads the authority that a text begins with; what follows it is left. -/
def split (cs : List Char) : Except UriDefect (Authority × List Char) :=
  let part := cs.takeWhile fun c => !isEnd c
  match h : defect? part with
  | some e => .error e
  | none => .ok (⟨String.ofList part, by simpa using h⟩, cs.dropWhile fun c => !isEnd c)

/-- Reads a text that is an authority as a whole. -/
def parse (cs : List Char) : Except UriDefect Authority :=
  if cs.isEmpty then .error .missing
  else
    match split cs with
    | .error e => .error e
    | .ok (a, []) => .ok a
    | .ok (_, _ :: _) => .error .invalidCharacter

/-- What follows the last place where a character stands; the whole text when it stands nowhere. -/
def afterLast (c : Char) (cs : List Char) : List Char :=
  (cs.reverse.takeWhile (· ≠ c)).reverse

/-- The host: what follows the user information, either a bracketed address with its brackets or
everything before the port. -/
def host (a : Authority) : String :=
  match afterLast '@' a.text.toList with
  | '[' :: cs => String.ofList ('[' :: cs.takeWhile (· ≠ ']') ++ [']'])
  | cs => String.ofList (cs.takeWhile (· ≠ ':'))

/-- The port: the number after the last colon, when it is a number of 16 bits. -/
def port? (a : Authority) : Option Nat :=
  if a.text.toList.contains ':' then
    Numeral.parse? Numeral.bound16 (afterLast ':' a.text.toList)
  else
    none

end Authority

end Gateway
