import Gateway.Text.Extender
import Gateway.Text.Ignorable
import Gateway.Text.Unprintable

/-!
# Quoted text

How a text is shown inside a message: between double quotes, with a backslash before a quote or a
backslash, tab, carriage return, line feed and NUL by letter, and by its number in hexadecimal every
character that leaves no mark of its own on paper, can go unseen, or is drawn about the one before
it. Everything else stands for itself, so a shown text never contains a line break, and each of its
characters can be told apart.
-/

namespace Gateway.Quoted

/-- Whether a character stands for itself, unless it has a letter of its own. -/
def isPlain (c : Char) : Bool :=
  !isExtender c && !isIgnorable c && !isUnprintable c

/-- How one character is shown. -/
def escape (c : Char) : List Char :=
  if c = '"' then ['\\', '"']
  else if c = '\\' then ['\\', '\\']
  else if c = '\t' then ['\\', 't']
  else if c = '\r' then ['\\', 'r']
  else if c = '\n' then ['\\', 'n']
  else if c = '\x00' then ['\\', '0']
  else if isPlain c then [c]
  else ['\\', 'u', '\x7b'] ++ Nat.toDigits 16 c.toNat ++ ['\x7d']

def quote (s : String) : String :=
  String.ofList ('"' :: s.toList.flatMap escape ++ ['"'])

/-- A list of quoted texts, between brackets and separated by commas. -/
def quoteList (ss : List String) : String :=
  "[" ++ ", ".intercalate (ss.map quote) ++ "]"

end Gateway.Quoted
