import Gateway.Http.Token

/-!
# Request methods

A method is any token; its letters keep their case.
-/

namespace Gateway

/-- A request method. -/
structure Method where
  token : String
  isToken : Token.isToken token.toList = true
  deriving DecidableEq

namespace Method

def ofString? (s : String) : Option Method :=
  if h : Token.isToken s.toList = true then some ⟨s, h⟩ else none

def get : Method := ⟨"GET", by decide⟩

def put : Method := ⟨"PUT", by decide⟩

def post : Method := ⟨"POST", by decide⟩

def delete : Method := ⟨"DELETE", by decide⟩

end Method

end Gateway
