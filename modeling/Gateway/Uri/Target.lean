import Gateway.Text.Utf8
import Gateway.Uri.Defect

/-!
# Path and query

The part of a URI that says what is wanted: a path, and a query after the first question mark. A
fragment, from the first number sign on, is dropped unread. Outside ASCII every character may stand
in both parts.
-/

namespace Gateway

/-- The greatest length of a URI, in octets. -/
def Target.maxLength : Nat := 65534

/-- The path and query of a URI, as stored: the path may be empty. -/
structure Target where
  /-- What stands before the query. -/
  path : String
  /-- What stands after the first question mark. -/
  query : Option String
  /-- A path is not too long. -/
  length_le : Utf8.octets path.toList ≤ Target.maxLength
  deriving DecidableEq

namespace Target

def isPathChar (c : Char) : Bool :=
  let n := c.toNat
  n == 0x21 || n == 0x22 || (0x24 ≤ n && n ≤ 0x3B) || n == 0x3D || (0x40 ≤ n && n ≤ 0x5F) ||
    (0x61 ≤ n && n ≤ 0x7E) || 0x80 ≤ n

def isQueryChar (c : Char) : Bool :=
  let n := c.toNat
  n == 0x21 || (0x24 ≤ n && n ≤ 0x3B) || n == 0x3D || (0x3F ≤ n && n ≤ 0x7E) || 0x80 ≤ n

/-- The text without its fragment. -/
def withoutFragment (cs : List Char) : List Char :=
  cs.takeWhile (· ≠ '#')

/-- The part before the first question mark. -/
def pathPart (cs : List Char) : List Char :=
  cs.takeWhile (· ≠ '?')

/-- The part after the first question mark, if there is one. -/
def queryPart (cs : List Char) : Option (List Char) :=
  match cs.dropWhile (· ≠ '?') with
  | [] => none
  | _ :: q => some q

/-- Whether a text may begin a path and query: it is empty, or begins with a slash, a query or a
fragment. -/
def mayBegin (cs : List Char) : Bool :=
  match cs with
  | [] => true
  | c :: _ => c = '/' || c = '?' || c = '#'

theorem octets_pathPart_le {cs : List Char} (hcs : ¬ maxLength < Utf8.octets cs) :
    Utf8.octets (String.ofList (pathPart (withoutFragment cs))).toList ≤ maxLength := by
  have hpath := Utf8.octets_takeWhile_le (fun c => c ≠ '?') (withoutFragment cs)
  have hkept := Utf8.octets_takeWhile_le (fun c => c ≠ '#') cs
  rw [String.toList_ofList]
  exact Nat.le_trans (Nat.le_trans hpath hkept) (Nat.le_of_not_lt hcs)

/-- The path that is a single asterisk. -/
def asterisk : Target := ⟨"*", none, by decide⟩

/-- Reads a path and query. A single asterisk is a path of its own. -/
def parse (cs : List Char) : Except UriDefect Target :=
  if hcs : maxLength < Utf8.octets cs then .error .tooLong
  else if cs = ['*'] then .ok asterisk
  else if !mayBegin cs then .error .noLeadingSlash
  else
    let path := pathPart (withoutFragment cs)
    let query := queryPart (withoutFragment cs)
    if path.all isPathChar && (query.getD []).all isQueryChar then
      .ok ⟨String.ofList path, query.map String.ofList, octets_pathPart_le hcs⟩
    else
      .error .invalidCharacter

/-- No path and no query. -/
def empty : Target := ⟨"", none, by decide⟩

def isEmpty (t : Target) : Bool :=
  t.path.isEmpty && t.query.isNone

end Target

end Gateway
