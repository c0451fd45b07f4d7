/-!
# Numerals

Decimal numbers as they come in variables and parameters: an optional plus sign, then one digit or
more, with a value below a bound. Nothing else is a number, so there is no sign of another kind, no
blank and no separator.
-/

namespace Gateway.Numeral

/-- The number of values of an unsigned word of 64 bits. -/
def bound64 : Nat := 0x10000000000000000

/-- The number of values of an unsigned word of 16 bits. -/
def bound16 : Nat := 0x10000

/-- The decimal digits `0` to `9`. -/
def isDigit (c : Char) : Bool :=
  0x30 ≤ c.toNat && c.toNat ≤ 0x39

/-- The value of a sequence of digits. -/
def value (ds : List Char) : Nat :=
  ds.foldl (fun n d => n * 10 + (d.toNat - 0x30)) 0

/-- The text without a leading plus sign. -/
def unsigned (cs : List Char) : List Char :=
  match cs with
  | '+' :: ds => ds
  | ds => ds

/-- The number that a text spells, if it is one below `bound`. -/
def parse? (bound : Nat) (cs : List Char) : Option Nat :=
  let ds := unsigned cs
  if ds.isEmpty then none
  else if ds.all isDigit then
    if value ds < bound then some (value ds) else none
  else none

/-- A natural number in decimal. -/
def decimal (n : Nat) : List Char :=
  Nat.toDigits 10 n

/-- An integer in decimal, with a minus sign when it is negative. -/
def signed (i : Int) : String :=
  match i with
  | .ofNat n => String.ofList (decimal n)
  | .negSucc n => String.ofList ('-' :: decimal (n + 1))

/-- A natural number in lower-case hexadecimal. -/
def hex (n : Nat) : List Char :=
  Nat.toDigits 16 n

end Gateway.Numeral
