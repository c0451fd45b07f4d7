import Gateway.Environment.Basic
import Gateway.Form
import Gateway.Header.Map
import Gateway.Http.Method
import Gateway.Http.Version
import Gateway.Uri.Basic

/-!
# Requests

A request as a handler sees it. Its body is no part of it: a handler reads the body through the
turn in which it answers.
-/

namespace Gateway

/-- A request. -/
structure Request where
  method : Method
  uri : Uri
  /-- The protocol in which it came. -/
  version : Version := .http11
  headers : HeaderMap := HeaderMap.empty
  /-- Who sent it, where that is known. -/
  remote : Option String := none
  /-- The variables that it came from. -/
  environment : Environment := Environment.empty

namespace Request

/-- The path that decides which handler answers. -/
def path (r : Request) : String := r.uri.path

/-- The first value of a parameter of the query. -/
def parameter (r : Request) (name : String) : Option String :=
  r.uri.query.bind fun q => Form.lookup q name

end Request

end Gateway
