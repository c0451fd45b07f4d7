import Gateway.Core.Calls
import Gateway.Header.Block
import Gateway.Response.Writer

/-!
# Sinks

A sink writes the response of one request to the core. The header block goes out exactly once,
before any octet of the body, with a content type in it whatever the handler did. When the core
refuses a write, the response has failed: that call reports the core's code, and nothing is sent or
announced after it.
-/

namespace Gateway

/-- The response of a request in the core. -/
structure Sink where
  handle : Handle
  version : Version
  /-- The content type of a response that names none. -/
  defaultContentType : HeaderValue
  headers : HeaderMap := HeaderMap.empty
  /-- The status, once committed. -/
  status : Option Status := none
  /-- A write was refused. -/
  failed : Bool := false

namespace Sink

/-- The headers with a content type: the default one where the first value is missing or empty. -/
def withContentType (contentType : HeaderValue) (h : HeaderMap) : HeaderMap :=
  if (h.get? HeaderName.contentType).getD [] = [] then h.insert HeaderName.contentType contentType
  else h

def announce (h : Handle) : Nat → Core → Core
  | 0, c => c
  | n + 1, c => announce h n (c.countHeader h)

/-- Commits a status and the headers as they stand. -/
def commit (s : Status) (k : Sink) (c : Core) : Except Fault Unit × Sink × Core :=
  let headers := withContentType k.defaultContentType k.headers
  let k := { k with status := some s, headers := headers }
  let c := announce k.handle headers.size (c.setStatus k.handle s.code)
  match c.writeHeaderBlock k.handle (HeaderBlock.render k.version s headers) with
  | (code, c) =>
    if code < 0 then (.error (.writeFailed code), { k with failed := true }, c) else (.ok (), k, c)

/-- Commits a status, unless one is committed already. -/
def writeHeader (s : Status) (k : Sink) (c : Core) : Except Fault Unit × Sink × Core :=
  if k.failed then (.error .responseAborted, k, c)
  else if k.status.isSome then (.ok (), k, c)
  else k.commit s c

/-- Sends octets of a body whose head is out. -/
def send (b : Bytes) (k : Sink) (c : Core) : Except Fault Nat × Sink × Core :=
  if k.failed then (.error .responseAborted, k, c)
  else if b.isEmpty then (.ok 0, k, c)
  else
    match c.writeBodyChunk k.handle b with
    | (code, c) =>
      if code < 0 then (.error (.writeFailed code), { k with failed := true }, c)
      else (.ok b.length, k, c)

/-- Sends octets of the body, the head before them if it is not out yet. -/
def writeBody (b : Bytes) (k : Sink) (c : Core) : Except Fault Nat × Sink × Core :=
  if k.status.isSome then k.send b c
  else
    match k.writeHeader Status.ok c with
    | (.error e, k, c) => (.error e, k, c)
    | (.ok (), k, c) => k.send b c

instance : ResponseWriter Sink where
  headers k := k.headers
  setHeaders h k := { k with headers := h }
  writeHeader := writeHeader
  writeBody := writeBody
  isCommitted k := k.status.isSome

end Sink

end Gateway
