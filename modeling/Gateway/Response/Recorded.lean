import Gateway.Response.Writer

/-!
# Recorded responses

A response that is kept in memory, for looking at what a handler answers without a server. Writing
to it never fails.
-/

namespace Gateway

/-- A response in memory. -/
structure Recorded where
  headers : HeaderMap := HeaderMap.empty
  /-- The status, once committed. -/
  status : Option Status := none
  body : Bytes := []

namespace Recorded

/-- Commits a status; the first one counts. -/
def writeHeader (s : Status) (r : Recorded) : Recorded :=
  { r with status := some (r.status.getD s) }

/-- Adds to the body, with status 200 if there is none. -/
def writeBody (b : Bytes) (r : Recorded) : Recorded :=
  let r := r.writeHeader Status.ok
  { r with body := r.body ++ b }

instance : ResponseWriter Recorded where
  headers r := r.headers
  setHeaders h r := { r with headers := h }
  writeHeader s r c := (.ok (), r.writeHeader s, c)
  writeBody b r c := (.ok b.length, r.writeBody b, c)
  isCommitted r := r.status.isSome

end Recorded

end Gateway
