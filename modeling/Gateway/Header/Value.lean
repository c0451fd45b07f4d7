import Gateway.Text.Utf8

/-!
# Header values

A header value is a sequence of octets. A legal one has no control octets except tab. What goes on
the wire is `sanitize v`, which is harmless for every sequence of octets: line breaks have become
spaces and blanks around the value are gone, so a value can never begin a new line.
-/

namespace Gateway

/-- The value of a header. -/
abbrev HeaderValue := Bytes

namespace HeaderValue

/-- Whether an octet may stand in a legal value: tab, or no control octet. -/
def isLegalByte (b : UInt8) : Bool :=
  b = 9 || (32 ≤ b && b ≠ 127)

/-- Whether every octet may stand in a value. -/
def isLegal (v : Bytes) : Bool :=
  v.all isLegalByte

/-- The value that a sequence of octets is, if it is legal. -/
def ofBytes? (v : Bytes) : Option HeaderValue :=
  if isLegal v then some v else none

/-- The blanks that are cut off around a value: space, tab, line feed, form feed and carriage
return. -/
def isBlank (b : UInt8) : Bool :=
  b = 32 || b = 9 || b = 10 || b = 12 || b = 13

/-- Carriage return and line feed become a space. -/
def flattenByte (b : UInt8) : UInt8 :=
  if b = 13 || b = 10 then 32 else b

/-- A value without the blanks around it. -/
def trim (v : Bytes) : Bytes :=
  (((v.dropWhile isBlank).reverse).dropWhile isBlank).reverse

/-- A value on one line, without blanks around it. -/
def sanitize (v : Bytes) : Bytes :=
  trim (v.map flattenByte)

end HeaderValue

end Gateway
