import Gateway.Text.Numeral

/-!
# Handles

A handle stands for a request that the server is working on. It is a number that nobody looks
behind; zero stands for no request.
-/

namespace Gateway

/-- The token of a request in flight. -/
structure Handle where
  token : Nat
  /-- Zero stands for no request. -/
  token_ne_zero : token ≠ 0
  deriving DecidableEq

namespace Handle

/-- The handle that a number stands for. -/
def ofToken? (token : Nat) : Option Handle :=
  if h : token ≠ 0 then some ⟨token, h⟩ else none

/-- A handle as it is shown in messages. -/
def shown (h : Handle) : String :=
  "RequestHandle(0x" ++ String.ofList (Numeral.hex h.token) ++ ")"

end Handle

end Gateway
