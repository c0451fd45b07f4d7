import Gateway.Header.Name
import Gateway.Header.Value
import Gateway.Table.Basic

/-!
# Header maps

The headers of a message. A name has one value or more, in the order in which they were added, and
the names keep the order in which they first came; only `remove` disturbs it, by moving the last
name into the gap. The values here are arbitrary octets: which ones are legal is for the caller to
check.

A map has room for `maxNames` names. `insert` and `append` are for maps with room; on a full map
there is a panic in their place, which `insert?` and `overflows` tell in advance.
-/

namespace Gateway

/-- The values of one header name: there is at least one. -/
structure HeaderValues where
  /-- The value that came first. -/
  first : HeaderValue
  /-- The values added after it. -/
  more : List HeaderValue := []
  deriving DecidableEq

namespace HeaderValues

/-- The values in order. -/
def toList (vs : HeaderValues) : List HeaderValue :=
  vs.first :: vs.more

end HeaderValues

/-- Header names and their values. -/
structure HeaderMap where
  table : Table HeaderName HeaderValues

namespace HeaderMap

def empty : HeaderMap := ⟨Table.empty⟩

instance : Inhabited HeaderMap := ⟨empty⟩

/-- The first value of a name. -/
def get? (h : HeaderMap) (n : HeaderName) : Option HeaderValue :=
  (h.table.get? n).map HeaderValues.first

def contains (h : HeaderMap) (n : HeaderName) : Bool :=
  h.table.contains n

/-- Makes `v` the only value of a name, in a map that has room. -/
def insert (h : HeaderMap) (n : HeaderName) (v : HeaderValue) : HeaderMap :=
  ⟨h.table.insert n ⟨v, []⟩⟩

/-- Adds a value after those that a name has, in a map that has room. -/
def append (h : HeaderMap) (n : HeaderName) (v : HeaderValue) : HeaderMap :=
  if h.contains n then
    ⟨h.table.modify n fun vs => ⟨vs.first, vs.more ++ [v]⟩⟩
  else
    h.insert n v

/-- The map that headers make, inserted one after the other: the last value of a name counts. -/
def ofList (l : List (HeaderName × HeaderValue)) : HeaderMap :=
  l.foldl (fun h x => h.insert x.1 x.2) empty

/-- Takes a name away with all its values; the last name moves into its place. -/
def remove (h : HeaderMap) (n : HeaderName) : HeaderMap :=
  ⟨h.table.swapErase n⟩

/-- Every value with its name, in order. -/
def toList (h : HeaderMap) : List (HeaderName × HeaderValue) :=
  h.table.entries.flatMap fun e => e.2.toList.map fun v => (e.1, v)

/-- How many values there are. -/
def size (h : HeaderMap) : Nat :=
  h.toList.length

/-- Every value with its name, the names in the order of their characters. -/
def toSortedList (h : HeaderMap) : List (HeaderName × HeaderValue) :=
  h.toList.mergeSort fun a b => !decide (b.1.text < a.1.text)

/-! ### Room -/

/-- The most names that a map holds. -/
def maxNames : Nat := 24576

/-- What a full map says when it is asked to take something, and panics. -/
def overflowMessage : String := "size overflows MAX_SIZE: MaxSizeReached"

/-- Makes `v` the only value of a name. A full map takes nothing, not even another value for a name
that it has. -/
def insert? (h : HeaderMap) (n : HeaderName) (v : HeaderValue) : Option HeaderMap :=
  if h.table.size < maxNames then some (h.insert n v) else none

/-- How often the text changes along a list, its first text included. -/
def changes : List String → Nat
  | [] => 0
  | [_] => 1
  | a :: b :: l => if a = b then changes (b :: l) else changes (b :: l) + 1

/-- How many names there are among headers. They are counted in the order of their characters, where
equal names stand together. -/
def nameCount (l : List (HeaderName × HeaderValue)) : Nat :=
  changes ((l.map fun x => x.1.text).mergeSort fun a b => !decide (b < a))

/-- Whether headers that are inserted one after the other find the map full: it is full before the
last of them comes. As long as there are no more headers than a map has room for, their names need
not be counted. -/
def overflows (l : List (HeaderName × HeaderValue)) : Bool :=
  maxNames < l.length && maxNames ≤ nameCount l.dropLast

end HeaderMap

end Gateway
