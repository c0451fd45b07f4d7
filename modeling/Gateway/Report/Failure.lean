import Gateway.Error
import Gateway.Text.Quoted
import Gateway.Uri.Defect

/-!
# Failures

Every way in which a step can fail, with its wording.
-/

namespace Gateway

/-- What a panic carries. -/
inductive Panic where
  | text (message : String)
  /-- Something that is no text. -/
  | other
  deriving DecidableEq

namespace Panic

def message : Panic → String
  | text m => m
  | other => "non-string panic payload"

end Panic

/-- Why a step failed. -/
inductive Failure where
  | fault (f : Fault)
  | stream (e : StreamError)
  | badHeaderName
  | badHeaderValue
  | badStatus
  | badMethod
  | badUri (d : UriDefect)
  | panicked (p : Panic)
  /-- A default content type that is no legal header value. -/
  | badContentType (text : String)
  deriving DecidableEq

namespace Failure

def headerValueMessage : String := "failed to parse header value"

def message : Failure → String
  | fault f => f.message
  | stream e => e.message
  | badHeaderName => "invalid HTTP header name"
  | badHeaderValue => headerValueMessage
  | badStatus => "invalid status code"
  | badMethod => "invalid HTTP method"
  | badUri d => d.message
  | panicked p => p.message
  | badContentType text => "Invalid default content type " ++ Quoted.quote text

/-- What lies behind a failure, where something does. -/
def cause : Failure → Option String
  | badContentType _ => some headerValueMessage
  | _ => none

end Failure

end Gateway
