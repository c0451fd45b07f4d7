import Gateway.Table.Basic
import Gateway.Text.Quoted
import Gateway.Turn

/-!
# Routers

A router has a handler for each of its patterns and chooses among them by the path of a request. A
pattern that ends in a slash matches every path that begins with it, any other pattern only the path
that equals it. The longest matching pattern wins, whatever the order of registration.
-/

namespace Gateway

/-- Handlers under their patterns, in the order in which the patterns were registered. -/
structure Router (η : Type) where
  routes : Table String η

namespace Router

variable {η : Type}

def empty : Router η := ⟨Table.empty⟩

/-- Registers a handler. A pattern that has one keeps its place and gets the new one. -/
def handle (r : Router η) (pattern : String) (handler : η) : Router η :=
  ⟨r.routes.insert pattern handler⟩

/-- The router that a list of registrations fills in order. -/
def ofList (l : List (String × η)) : Router η :=
  l.foldl (fun r e => r.handle e.1 e.2) empty

/-- Whether a pattern matches a path. -/
def covers (pattern path : List Char) : Bool :=
  if pattern.getLast? = some '/' then pattern.isPrefixOf path else path = pattern

/-- The longer of two patterns, the second one when they are equally long. -/
def longer (best : Option (String × η)) (e : String × η) : Option (String × η) :=
  match best with
  | none => some e
  | some b => if b.1.toList.length ≤ e.1.toList.length then some e else some b

/-- The route for a path: the longest pattern that matches, with its handler. -/
def route? (r : Router η) (path : String) : Option (String × η) :=
  (r.routes.entries.filter fun e => covers e.1.toList path.toList).foldl longer none

def pattern? (r : Router η) (path : String) : Option String :=
  (r.route? path).map Prod.fst

def handler? (r : Router η) (path : String) : Option η :=
  (r.route? path).map Prod.snd

def shown (r : Router η) : String :=
  Quoted.quoteList r.routes.keys

/-- Answers a request by the handler for its path, or with the page for a path that leads
nowhere. -/
def serve (r : Router Handler) : Handler := fun request =>
  match r.handler? request.path with
  | none => TurnProgram.notFound
  | some handler => handler request

end Router

end Gateway
