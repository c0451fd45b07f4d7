import Gateway.Text.Utf8

/-!
# Exchanges

The two ends of one request inside the core: the chunks of its body that wait to be read, and what
has been written in answer.
-/

namespace Gateway

/-- What the core holds of one request. -/
structure Exchange where
  /-- Chunks of the body still to be read, the next one first. -/
  input : List Bytes := []
  failReads : Bool := false
  failWrites : Bool := false
  /-- Everything written, header block and body. -/
  wire : Bytes := []
  status : Option Nat := none
  /-- How many headers were announced. -/
  headerCount : Nat := 0
  /-- How many header blocks were written. -/
  headerWrites : Nat := 0
  bodyWrites : Nat := 0
  deriving DecidableEq, Inhabited

namespace Exchange

/-- The octets of the body still to be read. -/
def queued (x : Exchange) : Nat :=
  x.input.foldr (fun chunk n => chunk.length + n) 0

/-- Takes at most `n` octets from the first chunk; what is left of it stays in front. An empty
chunk gives nothing and is gone. -/
def read (x : Exchange) (n : Nat) : Bytes × Exchange :=
  match x.input with
  | [] => ([], x)
  | chunk :: rest =>
    let left := chunk.drop n
    (chunk.take n, { x with input := if left.isEmpty then rest else left :: rest })

def writeHeader (x : Exchange) (block : Bytes) : Exchange :=
  { x with wire := x.wire ++ block, headerWrites := x.headerWrites + 1 }

def writeBody (x : Exchange) (chunk : Bytes) : Exchange :=
  { x with wire := x.wire ++ chunk, bodyWrites := x.bodyWrites + 1 }

end Exchange

end Gateway
