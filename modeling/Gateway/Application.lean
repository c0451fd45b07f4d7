import Gateway.Router

/-!
# Applications

What an application consists of: code for the stages of the server's life, a handler for requests,
and what its callbacks do.
-/

namespace Gateway

/-- An application. -/
structure Application where
  /-- Runs once, before the server is set up. -/
  banner : HostProgram Unit := .done ()
  /-- Runs in each worker after it was started. -/
  postFork : HostProgram Unit := .done ()
  /-- Runs once the server is set up. -/
  postInit : HostProgram Unit := .done ()
  /-- Answers a request. Nothing is sent if it writes nothing. -/
  serve : Handler
  /-- What a callback does when its signal arrives. -/
  callback : Callback → UInt8 → HostProgram Unit := Callback.code

namespace Application

/-- The application that only routes. -/
def ofRouter (r : Router Handler) : Application :=
  { serve := r.serve }

/-- The application without routes. -/
def empty : Application := ofRouter Router.empty

end Application

end Gateway
