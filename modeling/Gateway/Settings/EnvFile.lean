import Gateway.Settings.Variables
import Gateway.Text.Alphanumeric
import Gateway.Text.Blank

/-!
# Environment files

A file of variables, one `NAME=value` to a line, which adds to the variables of a process. A value
may be quoted and may then hold blanks and line breaks; a number sign after a blank begins a comment;
a dollar sign before a name stands for that variable's value. A variable that is set already is
kept. Loading stops in silence at the first line that cannot be read, and keeps what came before it.

The text is cut into lines first (`lines`), an open quote joining a line to the next, and then every
line is read on its own (`readLine`).
-/

namespace Gateway.EnvFile

/-! ### Lines -/

/-- Where a reader stands in a line. -/
inductive Place where
  | outside
  /-- Outside of quotes, just after a blank. -/
  | blank
  | escape
  /-- Between double quotes. -/
  | weak
  /-- Between double quotes, after a backslash. -/
  | weakEscape
  /-- Between single quotes. -/
  | strong
  /-- Between single quotes, after a backslash. -/
  | strongEscape
  deriving DecidableEq

namespace Place

/-- Where a backslash or a quote leads outside of quotes. -/
def opened (c : Char) : Place :=
  if c = '\\' then escape
  else if c = '"' then weak
  else if c = '\'' then strong
  else outside

/-- Where a character leads. -/
def next : Place → Char → Place
  | outside, c => if isBlank c && c ≠ '\n' && c ≠ '\r' then blank else opened c
  | blank, c => opened c
  | escape, _ => outside
  | weak, c => if c = '\\' then weakEscape else if c = '"' then outside else weak
  | weakEscape, _ => weak
  | strong, c => if c = '\\' then strongEscape else if c = '\'' then outside else strong
  | strongEscape, _ => strong

end Place

/-- Reads a line: what stands before a comment, and where the line ends, unless in a comment. -/
def scan : Place → List Char → List Char × Option Place
  | p, [] => ([], some p)
  | p, c :: cs =>
    if p = .blank ∧ c = '#' then ([], none)
    else
      let (kept, ending) := scan (p.next c) cs
      (c :: kept, ending)

/-- A line without its end. -/
def withoutEnd (cs : List Char) : List Char :=
  match cs.reverse with
  | '\n' :: '\r' :: rest => rest.reverse
  | '\n' :: rest => rest.reverse
  | _ => cs

/-- Whether a line holds nothing but a comment. -/
def isComment (cs : List Char) : Bool :=
  (Blank.trimStart cs).head? = some '#'

/-- Joins the lines of a file where a quote is open at the end of one; `held` are the lines that a
joined line consists of so far, the latest first. A comment ends the joined line and is cut off. A
line that is no text, and a quote that is open at the end of the file, cannot be read: `none`, and
nothing after it. -/
def join : (held : List (List Char)) → Place → List (Option (List Char)) → List (Option (List Char))
  | _, p, [] => if p = .outside then [] else [none]
  | _, _, none :: _ => [none]
  | held, p, some line :: rest =>
    if held.isEmpty && isComment line then some [] :: join [] .outside rest
    else
      match scan p line with
      | (kept, none) => some (kept :: held).reverse.flatten :: join [] .outside rest
      | (_, some .outside) =>
        some (withoutEnd (line :: held).reverse.flatten) :: join [] .outside rest
      | (_, some q) => join (line :: held) q rest

/-- Puts an octet before the lines that follow it: it is a line of its own if it is a line feed. -/
def cutBefore (b : UInt8) (lines : List Bytes) : List Bytes :=
  if b = 10 then [b] :: lines
  else
    match lines with
    | [] => [[b]]
    | line :: rest => (b :: line) :: rest

/-- Cuts octets after every line feed. -/
def cut (bs : Bytes) : List Bytes :=
  bs.foldr cutBefore []

/-- The mark that a file of text may begin with. -/
def byteOrderMark : Bytes := [0xEF, 0xBB, 0xBF]

/-- A file without the mark at its beginning. -/
def withoutMark (bs : Bytes) : Bytes :=
  (List.isPrefixOf? byteOrderMark bs).getD bs

/-- The lines of a file. -/
def lines (file : Bytes) : List (Option (List Char)) :=
  join [] .outside ((cut (withoutMark file)).map Utf8.decode?)

/-! ### Values -/

/-- How the name of a variable is being read. -/
inductive Naming where
  /-- Not at all. -/
  | off
  /-- After a dollar sign. -/
  | bare
  /-- Between braces. -/
  | braced
  deriving DecidableEq

/-- A value that is being read. -/
structure Reading where
  /-- Between single quotes. -/
  strong : Bool := false
  /-- Between double quotes. -/
  weak : Bool := false
  /-- After a backslash. -/
  escaped : Bool := false
  /-- The value is over; only blanks or a comment may follow. -/
  ended : Bool := false
  comment : Bool := false
  /-- Whether a name is being read. -/
  naming : Naming := .off
  /-- The name so far, the latest character first. -/
  name : List Char := []
  /-- The value so far, the latest character first. -/
  out : List Char := []

namespace Reading

def push (r : Reading) (c : Char) : Reading := { r with out := c :: r.out }

def pushName (r : Reading) (c : Char) : Reading := { r with name := c :: r.name }

/-- Puts the value of the variable in the place of its name. -/
def substitute (v : Variables) (r : Reading) : Reading :=
  { r with naming := .off, name := [],
           out := (v.expansion r.name.reverse).reverse ++ r.out }

/-- Reads a character after a backslash. -/
def stepEscaped (r : Reading) (c : Char) : Option Reading :=
  let r := { r with escaped := false }
  if c = '\\' || c = '\'' || c = '"' || c = '$' || c = ' ' then some (r.push c)
  else if c = 'n' then some (r.push '\n')
  else none

/-- Reads a character of a name, or the one after it. After a dollar sign a name consists of letters
and digits; between braces of anything. -/
def stepName (v : Variables) (r : Reading) (c : Char) : Reading :=
  if isAlphanumeric c then r.pushName c
  else if r.naming = .braced then
    if c = '\x7d' then r.substitute v else r.pushName c
  else if c = '\x7b' && r.name.isEmpty then { r with naming := .braced }
  else
    let r := r.substitute v
    if c = '$' then { r with naming := .bare } else r.push c

/-- Reads a character outside of single quotes and names. -/
def stepOpen (r : Reading) (c : Char) : Reading :=
  if c = '$' then { r with naming := .bare }
  else if r.weak then
    if c = '"' then { r with weak := false }
    else if c = '\\' then { r with escaped := true }
    else r.push c
  else if c = '\'' then { r with strong := true }
  else if c = '"' then { r with weak := true }
  else if c = '\\' then { r with escaped := true }
  else if c = ' ' || c = '\t' then { r with ended := true }
  else r.push c

/-- Reads a character of a value. -/
def step (v : Variables) (r : Reading) (c : Char) : Option Reading :=
  if r.comment then some r
  else if r.ended then
    if c = ' ' || c = '\t' then some r
    else if c = '#' then some { r with comment := true }
    else none
  else if r.escaped then r.stepEscaped c
  else if r.strong then some (if c = '\'' then { r with strong := false } else r.push c)
  else if r.naming ≠ .off then some (r.stepName v c)
  else some (r.stepOpen c)

/-- The value, if every quote and brace is closed. -/
def finish (v : Variables) (r : Reading) : Option String :=
  if r.naming = .braced || r.strong || r.weak then none
  else some (String.ofList (r.substitute v).out.reverse)

end Reading

/-- Reads a value. -/
def readValue (v : Variables) (cs : List Char) : Option String :=
  (cs.foldlM (Reading.step v) {}).bind (Reading.finish v)

/-! ### Names and values -/

/-- The characters that a name begins with. -/
def isFirstChar (c : Char) : Bool := c.isAlpha || c = '_'

/-- The characters of a name. -/
def isNameChar (c : Char) : Bool := c.isAlphanum || c = '_' || c = '.'

/-- Cuts a name off, and the blanks after it. -/
def splitName (cs : List Char) : Option (List Char × List Char) :=
  match cs with
  | [] => none
  | c :: _ =>
    if isFirstChar c then
      some (cs.takeWhile isNameChar, Blank.trimStart (cs.dropWhile isNameChar))
    else none

/-- The word that may stand before a name. -/
def exportWord : List Char := "export".toList

/-- Cuts off the name, a word `export` before it, and the equals sign. `export` itself is a name when
the equals sign follows. -/
def splitAssignment (cs : List Char) : Option (List Char × List Char) :=
  match splitName cs with
  | none => none
  | some (name, '=' :: rest) => some (name, rest)
  | some (name, rest) =>
    if name = exportWord then
      match splitName rest with
      | some (name, '=' :: rest) => some (name, rest)
      | _ => none
    else none

/-- Reads a line: `none` when it cannot be read, and otherwise the variable that it sets, if it sets
one. -/
def readLine (v : Variables) (line : List Char) : Option (Option (String × String)) :=
  let cs := Blank.trimStart (Blank.trimEnd line)
  if cs.isEmpty || isComment cs then some none
  else
    match splitAssignment cs with
    | none => none
    | some (name, rest) =>
      let value := Blank.trimStart rest
      if value.isEmpty || isComment value then some (some (String.ofList name, ""))
      else (readValue v value).map fun x => some (String.ofList name, x)

/-- Adds the variables of lines, up to the first one that cannot be read. -/
def loadLines : Variables → List (Option (List Char)) → Variables
  | v, [] => v
  | v, none :: _ => v
  | v, some line :: rest =>
    match readLine v line with
    | none => v
    | some none => loadLines v rest
    | some (some (name, value)) => loadLines (v.setMissing name value) rest

/-- Adds the variables of a file. -/
def load (v : Variables) (file : Bytes) : Variables :=
  loadLines v (lines file)

end Gateway.EnvFile
