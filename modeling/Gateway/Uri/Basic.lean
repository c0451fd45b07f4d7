import Gateway.Uri.Authority
import Gateway.Uri.Target

/-!
# URIs

A URI has an optional scheme, an optional authority, and a path and query. `ofParts` puts one
together from the parts of a request; `parse` reads one from a single text.
-/

namespace Gateway

/-- A URI. -/
structure Uri where
  scheme : Option String
  authority : Option Authority
  /-- Path and query as stored. -/
  target : Target
  deriving DecidableEq

namespace Uri

/-- The path. An empty one reads as the root when there is a query or a scheme. -/
def path (u : Uri) : String :=
  if !u.target.path.isEmpty then u.target.path
  else if u.target.query.isSome || u.scheme.isSome then "/"
  else ""

/-- The query, without its question mark. -/
def query (u : Uri) : Option String := u.target.query

/-- The URI as a text. -/
def text (u : Uri) : String :=
  (match u.scheme with
    | none => ""
    | some s => s ++ "://") ++
  (match u.authority with
    | none => ""
    | some a => a.text) ++
  u.path ++
  (match u.query with
    | none => ""
    | some q => "?" ++ q)

/-- Puts a URI together: scheme and host where there is a host, then path and query. A defect of
the authority comes first. -/
def ofParts (site : Option (String × String)) (target : String) : Except UriDefect Uri :=
  match site with
  | none =>
    match Target.parse target.toList with
    | .error e => .error e
    | .ok t => .ok ⟨none, none, t⟩
  | some (scheme, host) =>
    match Authority.parse host.toList with
    | .error e => .error e
    | .ok a =>
      match Target.parse target.toList with
      | .error e => .error e
      | .ok t => .ok ⟨some scheme, some a, t⟩

/-! ### Reading a URI from one text -/

/-- The greatest length of a scheme. -/
def maxScheme : Nat := 64

def isSchemeChar (c : Char) : Bool :=
  let n := c.toNat
  (0x61 ≤ n && n ≤ 0x7A) || (0x41 ≤ n && n ≤ 0x5A) || (0x30 ≤ n && n ≤ 0x39) ||
    n == 0x2B || n == 0x2D || n == 0x2E || n == 0x7E

/-- What separates a scheme from the authority. -/
def schemeEnd : List Char := ['/', '/']

/-- Cuts the scheme off a text, if it has one: the characters before `://`. The two usual schemes
read in any case and are kept in lower case. -/
def splitScheme (cs : List Char) : Except UriDefect (Option String × List Char) :=
  let name := cs.takeWhile isSchemeChar
  match cs.dropWhile isSchemeChar with
  | ':' :: '/' :: '/' :: rest =>
    let lower := String.ofList (name.map Char.toLower)
    if lower = "http" || lower = "https" then .ok (some lower, rest)
    else if name.isEmpty && rest.isEmpty then .ok (none, cs)
    else if maxScheme < name.length then .error .schemeTooLong
    else .ok (some (String.ofList name), rest)
  | _ => .ok (none, cs)

/-- Reads a URI that begins with a scheme or an authority. Without a scheme the authority has to be
the whole text. -/
def parseAbsolute (cs : List Char) : Except UriDefect Uri :=
  match splitScheme cs with
  | .error e => .error e
  | .ok (scheme, rest) =>
    if rest.isEmpty then .error .missing
    else
      match Authority.split rest with
      | .error e => .error e
      | .ok (a, after) =>
        match scheme with
        | none => if after.isEmpty then .ok ⟨none, some a, Target.empty⟩ else .error .invalidFormat
        | some s =>
          if a.text.isEmpty then .error .invalidFormat
          else
            match Target.parse after with
            | .error e => .error e
            | .ok t => .ok ⟨some s, some a, t⟩

/-- Reads a URI. -/
def parse (cs : List Char) : Except UriDefect Uri :=
  if Target.maxLength < Utf8.octets cs then .error .tooLong
  else
    match cs with
    | [] => .error .missing
    | ['*'] => .ok ⟨none, none, Target.asterisk⟩
    | '/' :: _ =>
      match Target.parse cs with
      | .error e => .error e
      | .ok t => .ok ⟨none, none, t⟩
    | [_] =>
      match Authority.parse cs with
      | .error e => .error e
      | .ok a => .ok ⟨none, some a, Target.empty⟩
    | _ => parseAbsolute cs

end Uri

end Gateway
