import Gateway.Table.Basic
import Gateway.Text.Utf8

/-!
# Environments

The variables that describe one request: its method, path, protocol, and a variable for each of its
headers. The server hands them over one by one as octets; the last value of a name counts.
-/

namespace Gateway

/-- The variables of a request. -/
structure Environment where
  vars : Table String String

namespace Environment

def empty : Environment := ⟨Table.empty⟩

instance : Inhabited Environment := ⟨empty⟩

/-- The value of a variable. -/
def get? (e : Environment) (name : String) : Option String :=
  e.vars.get? name

/-- The value of a variable; an empty one counts as missing. -/
def getNonEmpty? (e : Environment) (name : String) : Option String :=
  (e.get? name).filter fun v => !v.isEmpty

/-- The value of a variable; a missing one counts as empty. -/
def getD (e : Environment) (name : String) : String :=
  (e.get? name).getD ""

def size (e : Environment) : Nat := e.vars.size

def insert (e : Environment) (name value : String) : Environment :=
  ⟨e.vars.insert name value⟩

/-- Sets a variable from octets, both parts read as text with invalid parts replaced. -/
def insertRaw (e : Environment) (name value : Bytes) : Environment :=
  e.insert (Utf8.toStringLossy name) (Utf8.toStringLossy value)

/-- The variables that a list of pairs sets in order. -/
def ofList (l : List (String × String)) : Environment :=
  l.foldl (fun e p => e.insert p.1 p.2) empty

/-- The variables that a list of pairs of octets sets in order. -/
def ofRawList (l : List (Bytes × Bytes)) : Environment :=
  l.foldl (fun e p => e.insertRaw p.1 p.2) empty

/-- The variables in the order in which their names came. -/
def toList (e : Environment) : List (String × String) := e.vars.entries

/-- The variables in the order of their names. -/
def toSortedList (e : Environment) : List (String × String) :=
  e.toList.mergeSort fun a b => !decide (b.1 < a.1)

/-- Two environments are equal when they give the same variables the same values. -/
instance : BEq Environment := ⟨fun d e => d.vars.sameValues e.vars⟩

end Environment

end Gateway
