import Gateway.Core.Calls
import Gateway.Report.Answer

/-!
# Steps on a core

What can be done with a core from outside a bridge, and what each step reports.
-/

namespace Gateway

/-- A step on a core. -/
inductive CoreStep where
  | openRequest
  | pushBody (h : Handle) (chunk : Bytes)
  /-- Lets every read of a request fail. -/
  | failReads (h : Handle)
  /-- Lets every write of a request fail. -/
  | failWrites (h : Handle)
  /-- Looks at what is held of a request. -/
  | exchange (h : Handle)
  /-- Looks at the wire of a request as text. -/
  | wireText (h : Handle)
  | showHandle (h : Handle)
  | readChunk (h : Handle) (n : Nat)
  | writeHeaderBlock (h : Handle) (block : Bytes)
  | writeBodyChunk (h : Handle) (chunk : Bytes)
  | setStatus (h : Handle) (code : Nat)
  | countHeader (h : Handle)
  | enableCache (on : Bool)
  | cacheSize
  | cacheGet (key : Bytes)
  | cacheExists (key : Bytes)
  | cacheDelete (key : Bytes)
  | cacheSet (key value : Bytes) (expires flags : Nat)
  /-- Changes the answer to questions about the modifier. -/
  | setModifier (n : Int)
  | failRegistrations (on : Bool)
  | failTimers (on : Bool)
  | setIdentity (worker helper logSize : Int)
  /-- Plans the codes of a primitive. -/
  | plan (p : Primitive) (codes : List Int)
  /-- Names no request and does nothing. -/
  | unaddressed

namespace CoreStep

/-- What stands in a buffer before it is read into. -/
def filler : UInt8 := 46

/-- A buffer of `n` octets after a read. -/
def buffer (n : Nat) (got : Bytes) : Bytes :=
  got ++ List.replicate (n - got.length) filler

def coded (r : Int × Core) : Answer × Core := (.number r.1, r.2)

def silent (c : Core) : Answer × Core := (.nothing, c)

def run (s : CoreStep) (c : Core) : Answer × Core :=
  match s with
  | .openRequest => (.number c.openRequest.1.token, c.openRequest.2)
  | .pushBody h chunk => silent (c.pushBody h chunk)
  | .failReads h => silent (c.setFailReads h)
  | .failWrites h => silent (c.setFailWrites h)
  | .exchange h => (.exchange (c.exchange h), c)
  | .wireText h => (.text (Utf8.toStringLossy (c.exchange h).wire), c)
  | .showHandle h => (.text h.shown, c)
  | .readChunk h n =>
    match c.readChunk h n with
    | (.error code, c) => (.chunk code (buffer n []), c)
    | (.ok got, c) => (.chunk got.length (buffer n got), c)
  | .writeHeaderBlock h block => coded (c.writeHeaderBlock h block)
  | .writeBodyChunk h chunk => coded (c.writeBodyChunk h chunk)
  | .setStatus h code => silent (c.setStatus h code)
  | .countHeader h => silent (c.countHeader h)
  | .enableCache on => silent { c with cacheEnabled := on }
  | .cacheSize => (.number c.cacheSize, c)
  | .cacheGet key =>
    match c.cacheGet key with
    | (v, c) => (.visited v.isSome v.toList, c)
  | .cacheExists key =>
    match c.cacheExists key with
    | (b, c) => (.flag b, c)
  | .cacheDelete key => coded (c.cacheDelete key)
  | .cacheSet key value expires flags => coded (c.cacheSet key value expires flags)
  | .setModifier n => silent { c with modifier := n }
  | .failRegistrations on => silent { c with failRegistrations := on }
  | .failTimers on => silent { c with failTimers := on }
  | .setIdentity worker helper logSize =>
    silent { c with workerId := worker, helperProcessId := helper, logSize := logSize }
  | .plan p codes => silent (c.plan p codes)
  | .unaddressed => (.nullHandle, c)

end CoreStep

end Gateway
