/-!
# UTF-8

Octet sequences and the text they carry. `encode` writes every character as its octets; `scan`
reads octets back as characters and, where they are no UTF-8, as *maximal invalid parts*: the
longest beginning of a character that the octets allow, or one octet that begins no character.
Two readings come from it. `decode?` refuses a sequence with an invalid part, and `lossy` puts the
replacement character U+FFFD in the place of each.
-/

namespace Gateway

/-- Octets as they cross the wire: header values, bodies, cache keys. -/
abbrev Bytes := List UInt8

namespace Utf8

/-- The octets of a text. -/
def encode (cs : List Char) : Bytes :=
  cs.flatMap String.utf8EncodeChar

def ofString (s : String) : Bytes :=
  encode s.toList

/-- The number of octets of a text. -/
def octets (cs : List Char) : Nat :=
  cs.foldr (fun c n => c.utf8Size + n) 0

theorem octets_takeWhile_le (p : Char → Bool) (cs : List Char) :
    octets (cs.takeWhile p) ≤ octets cs := by
  induction cs with
  | nil => exact Nat.le_refl 0
  | cons c cs ih =>
    rw [List.takeWhile_cons]
    split
    · exact Nat.add_le_add_left ih c.utf8Size
    · exact Nat.zero_le _

/-! ### Reading one octet at a time -/

/-- Where a reader stands between two octets. -/
inductive State where
  /-- Between characters. -/
  | start
  /-- Inside a character: the next octet has to lie in `low`..`high`, `more` octets follow it, and
  `value` holds the bits read so far. -/
  | inside (more : Nat) (low high : UInt8) (value : Nat)
  deriving DecidableEq

/-- An octet that comes between characters: what it completes (a character, or an invalid part
`none`) and where it leaves the reader. The bounds shut out overlong forms, surrogates and values
above U+10FFFF at the second octet. -/
def first (b : UInt8) : List (Option Char) × State :=
  if b < 0x80 then ([some (Char.ofNat b.toNat)], .start)
  else if b < 0xC2 then ([none], .start)
  else if b < 0xE0 then ([], .inside 0 0x80 0xBF (b.toNat - 0xC0))
  else if b = 0xE0 then ([], .inside 1 0xA0 0xBF 0)
  else if b = 0xED then ([], .inside 1 0x80 0x9F 0xD)
  else if b < 0xF0 then ([], .inside 1 0x80 0xBF (b.toNat - 0xE0))
  else if b = 0xF0 then ([], .inside 2 0x90 0xBF 0)
  else if b < 0xF4 then ([], .inside 2 0x80 0xBF (b.toNat - 0xF0))
  else if b = 0xF4 then ([], .inside 2 0x80 0x8F 4)
  else ([none], .start)

/-- One octet. An octet that cannot go on with the character begun makes that beginning an invalid
part, and is then read as one between characters. -/
def step : State → UInt8 → List (Option Char) × State
  | .start, b => first b
  | .inside more low high value, b =>
    if low ≤ b ∧ b ≤ high then
      let value := value * 64 + (b.toNat - 0x80)
      match more with
      | 0 => ([some (Char.ofNat value)], .start)
      | more + 1 => ([], .inside more 0x80 0xBF value)
    else
      (none :: (first b).1, (first b).2)

/-- At the end of the octets a character begun is an invalid part. -/
def finish : State → List (Option Char)
  | .start => []
  | .inside _ _ _ _ => [none]

/-- Reads on from a state; `done` holds what was read before, the latest first. -/
def scanOnto (done : List (Option Char)) : State → Bytes → List (Option Char)
  | q, [] => ((finish q).reverse ++ done).reverse
  | q, b :: bs => scanOnto ((step q b).1.reverse ++ done) (step q b).2 bs

/-- The characters of an octet sequence in order, with `none` for each maximal invalid part. -/
def scan (bs : Bytes) : List (Option Char) :=
  scanOnto [] .start bs

/-- The character written for an invalid part. -/
def replacement : Char := '\uFFFD'

/-- The text of an octet sequence, invalid parts replaced. -/
def lossy (bs : Bytes) : List Char :=
  (scan bs).map fun c => c.getD replacement

/-- The text of an octet sequence that is UTF-8 throughout. -/
def decode? (bs : Bytes) : Option (List Char) :=
  let cs := scan bs
  if cs.all Option.isSome then some (cs.filterMap id) else none

def toStringLossy (bs : Bytes) : String :=
  String.ofList (lossy bs)

def toString? (bs : Bytes) : Option String :=
  (decode? bs).map String.ofList

/-! ### The reader in steps -/

theorem scanOnto_eq (done : List (Option Char)) (q : State) (bs : Bytes) :
    scanOnto done q bs = done.reverse ++ scanOnto [] q bs := by
  induction bs generalizing done q with
  | nil => simp [scanOnto]
  | cons b bs ih =>
    rw [scanOnto, ih, scanOnto, ih ((step q b).1.reverse ++ [])]
    simp

/-- Reading from a state gives what the next octet completes, then the reading of the rest. -/
theorem scanOnto_cons (q : State) (b : UInt8) (bs : Bytes) :
    scanOnto [] q (b :: bs) = (step q b).1 ++ scanOnto [] (step q b).2 bs := by
  rw [scanOnto, scanOnto_eq]
  simp

end Utf8

end Gateway
