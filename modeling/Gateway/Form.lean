import Gateway.Text.Utf8

/-!
# Form encoding

Pairs of names and values in one text, as in the query of a URI: pairs are separated by `&`, a name
from its value by the first `=`, a space is written `+`, and any octet may be written as `%` and two
hexadecimal digits. `decode` reads such a text. It refuses nothing: empty pieces are skipped, a
piece without `=` has an empty value, a percent sign without two digits stands for itself, and
octets that are no UTF-8 are replaced.
-/

namespace Gateway.Form

/-- The value of a hexadecimal digit in either case. -/
def hexValue? (b : UInt8) : Option UInt8 :=
  if 0x30 ≤ b && b ≤ 0x39 then some (b - 0x30)
  else if 0x41 ≤ b && b ≤ 0x46 then some (b - 0x37)
  else if 0x61 ≤ b && b ≤ 0x66 then some (b - 0x57)
  else none

/-- Puts an octet in the place of each percent sign with two digits. -/
def percentDecode : Bytes → Bytes
  | b :: h :: l :: rest =>
    if b = 0x25 then
      match hexValue? h, hexValue? l with
      | some x, some y => (x * 16 + y) :: percentDecode rest
      | _, _ => b :: percentDecode (h :: l :: rest)
    else b :: percentDecode (h :: l :: rest)
  | bs => bs

/-- A plus sign reads as a space. -/
def plusToSpace (b : UInt8) : UInt8 :=
  if b = 0x2B then 0x20 else b

def decodeText (bs : Bytes) : String :=
  Utf8.toStringLossy (percentDecode (bs.map plusToSpace))

/-- The name and the value of one piece. -/
def decodePiece (piece : Bytes) : String × String :=
  let name := piece.takeWhile (· ≠ 0x3D)
  let value := (piece.dropWhile (· ≠ 0x3D)).drop 1
  (decodeText name, decodeText value)

/-- The pairs of a text, in order. -/
def decode (bs : Bytes) : List (String × String) :=
  ((bs.splitOnP (· = 0x26)).filter fun piece => !piece.isEmpty).map decodePiece

/-- The value of the first pair with a given name. -/
def lookup (query : String) (name : String) : Option String :=
  ((decode (Utf8.ofString query)).find? fun e => e.1 = name).map Prod.snd

end Gateway.Form
