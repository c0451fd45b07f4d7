import Gateway.Table.Basic
import Gateway.Text.Utf8

/-!
# Variables of a process

The variables that a process was started with: names, and values that need not be text.
-/

namespace Gateway

/-- The variables of a process. -/
structure Variables where
  table : Table String Bytes

namespace Variables

/-- The variables that a list of pairs sets in order. -/
def ofList (l : List (String × Bytes)) : Variables := ⟨Table.ofList l⟩

def get? (v : Variables) (name : String) : Option Bytes := v.table.get? name

/-- The value of a variable, if it has one and that is text. -/
def text? (v : Variables) (name : String) : Option String :=
  (v.get? name).bind Utf8.toString?

/-- The value that stands for a name in a text, if there is one. A variable is looked for by what its
name and its value, joined by an equals sign, begin with: so a name with an equals sign in it may run
into the value, and what stands for it is the rest of the value after the next equals sign. -/
def named? (v : Variables) (name : List Char) : Option Bytes :=
  match name.dropWhile (· ≠ '=') with
  | [] => v.get? (String.ofList name)
  | _ :: start =>
    (v.get? (String.ofList (name.takeWhile (· ≠ '=')))).bind fun value =>
      List.isPrefixOf? (Utf8.encode start ++ [0x3D]) value

/-- What a name in a text is replaced with: nothing where it has no value, or one that is no text. -/
def expansion (v : Variables) (name : List Char) : List Char :=
  ((v.named? name).bind Utf8.decode?).getD []

/-- Sets a variable that has no value yet, or one that is no text. -/
def setMissing (v : Variables) (name : String) (value : String) : Variables :=
  if (v.text? name).isSome then v else ⟨v.table.insert name (Utf8.ofString value)⟩

end Variables

end Gateway
