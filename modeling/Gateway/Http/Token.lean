/-!
# Tokens

The characters that request methods and header names are made of: letters, digits and the marks
`! # $ % & ' * + - . ^ _` and grave accent, bar and tilde. All of them are ASCII.
-/

namespace Gateway.Token

/-- Whether the character with this code may stand in a token. -/
def isTokenCode (n : Nat) : Bool :=
  n == 0x21 || (0x23 ≤ n && n ≤ 0x27) || n == 0x2A || n == 0x2B || n == 0x2D || n == 0x2E ||
    (0x30 ≤ n && n ≤ 0x39) || (0x41 ≤ n && n ≤ 0x5A) || (0x5E ≤ n && n ≤ 0x7A) || n == 0x7C ||
    n == 0x7E

/-- Whether a character may stand in a token. -/
def isTokenChar (c : Char) : Bool :=
  isTokenCode c.toNat

/-- A token is not empty. -/
def isToken (cs : List Char) : Bool :=
  !cs.isEmpty && cs.all isTokenChar

end Gateway.Token
