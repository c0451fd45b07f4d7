import Gateway.Text.Numeral

/-!
# Faults

What can go wrong between a handler and the server, and how it looks to code that sees only a
stream of octets.
-/

namespace Gateway

/-- A fault of the gateway. -/
inductive Fault where
  /-- The server refused to write, with this code. -/
  | writeFailed (code : Int)
  /-- Something is written to a response that has failed before. -/
  | responseAborted
  /-- The variables of a request describe no request. -/
  | malformedRequest (reason : String)
  | alreadyInstalled
  deriving DecidableEq

/-- The kinds of errors that a stream of octets has. -/
inductive StreamErrorKind where
  | brokenPipe
  | invalidData
  | alreadyExists
  | unexpectedEnd
  deriving DecidableEq

/-- An error of a stream of octets. -/
structure StreamError where
  kind : StreamErrorKind
  message : String
  deriving DecidableEq

namespace StreamError

/-- The body of a request could not be read to its end. -/
def bodyEnded : StreamError := ⟨.unexpectedEnd, "request body ended unexpectedly"⟩

end StreamError

namespace Fault

def message : Fault → String
  | writeFailed code => "native write failed with status " ++ Numeral.signed code
  | responseAborted => "response aborted after an earlier write failure"
  | malformedRequest reason => "malformed request: " ++ reason
  | alreadyInstalled => "a bridge is already installed in this process"

/-- The kind of stream error that a fault becomes. -/
def streamKind : Fault → StreamErrorKind
  | writeFailed _ | responseAborted => .brokenPipe
  | malformedRequest _ => .invalidData
  | alreadyInstalled => .alreadyExists

/-- A fault as a stream of octets reports it: the wording stays. -/
def toStreamError (f : Fault) : StreamError :=
  ⟨f.streamKind, f.message⟩

end Fault

end Gateway
