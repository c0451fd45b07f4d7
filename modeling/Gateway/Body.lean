import Gateway.Core.Calls
import Gateway.Error

/-!
# Bodies of requests

A handler reads the body of its request once, from front to back. The octets come from the core, a
chunk at most for each read, or from memory. A read that asks for nothing never reaches the core, and
a read that gives nothing is the end, so an empty chunk in the queue ends the body once.
-/

namespace Gateway

/-- Where the octets of a body come from. -/
inductive Body where
  /-- The queue of a request in the core. -/
  | queued (h : Handle)
  /-- Memory: the octets still to be read. -/
  | stored (rest : Bytes)

namespace Body

/-- Reads at most `n` octets. -/
def read (n : Nat) (b : Body) (c : Core) : Except StreamError Bytes × Body × Core :=
  match b with
  | .queued h =>
    if n = 0 then (.ok [], b, c)
    else
      match c.readChunk h n with
      | (.error _, c) => (.error .bodyEnded, b, c)
      | (.ok bytes, c) => (.ok bytes, b, c)
  | .stored rest => (.ok (rest.take n), .stored (rest.drop n), c)

/-- The octets that a body can still give: each read that is not the last takes one at least. -/
def remaining (b : Body) (c : Core) : Nat :=
  match b with
  | .queued h => (c.exchange h).queued
  | .stored rest => rest.length

/-- Reads on until a read gives nothing or fails; the `i`-th read asks for `size i` octets. Gives
what was read, and the error if there was one. -/
def drainFrom (size : Nat → Nat) :
    (fuel i : Nat) → Body → Core → (Option StreamError × Bytes) × Body × Core
  | 0, _, b, c => ((none, []), b, c)
  | fuel + 1, i, b, c =>
    match b.read (size i) c with
    | (.error e, b, c) => ((some e, []), b, c)
    | (.ok got, b, c) =>
      if got.isEmpty then ((none, []), b, c)
      else
        match drainFrom size fuel (i + 1) b c with
        | ((e, more), b, c) => ((e, got ++ more), b, c)

/-- Reads the whole body with reads of given sizes. There are at most as many reads as octets, and
one more that finds the end. -/
def drainWith (size : Nat → Nat) (b : Body) (c : Core) :
    (Option StreamError × Bytes) × Body × Core :=
  drainFrom size (b.remaining c + 1) 0 b c

/-- How many octets a read asks for when the whole body is wanted. -/
def probe : Nat := 32

/-- Reads the whole body: what was read, and the error that cut it short if there was one. -/
def drain (b : Body) (c : Core) : (Option StreamError × Bytes) × Body × Core :=
  drainWith (fun _ => probe) b c

end Body

end Gateway
