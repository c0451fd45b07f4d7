import Gateway.Core.Basic
import Gateway.Error
import Gateway.Header.Map
import Gateway.Http.Status

/-!
# Response writers

What a handler writes its response through. The headers can be changed until the response is
committed, by the first status or by the first octets of a body, which commit it with status 200.
`Sink` writes to the core, `Recorded` to memory.
-/

namespace Gateway

/-- The operations of a response writer. Writing may go to the core. -/
class ResponseWriter (ω : Type) where
  headers : ω → HeaderMap
  setHeaders : HeaderMap → ω → ω
  /-- Commits status and headers. A later call is ignored. -/
  writeHeader : Status → ω → Core → Except Fault Unit × ω × Core
  /-- Writes octets of the body: how many were written. -/
  writeBody : Bytes → ω → Core → Except Fault Nat × ω × Core
  isCommitted : ω → Bool

end Gateway
