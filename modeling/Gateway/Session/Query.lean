import Gateway.Demo
import Gateway.Header.Block
import Gateway.Request.FromEnvironment
import Gateway.Session.HandlerStep
import Gateway.Signal.Tag

/-!
# Single questions

Questions that need no state: how a name or a value is written, what a header block looks like, what
a URI's query says, which request an environment describes, and what the demonstration answers.
-/

namespace Gateway

namespace Query

/-- The header map that a list of names and values makes, each value added to its name. -/
def headersOf (l : List (Bytes × Bytes)) : Except Failure HeaderMap :=
  l.foldlM (fun h e => (WriterStep.header e.1 e.2).map fun x => h.append x.1 x.2) HeaderMap.empty

/-- The header block of a status and headers. The status is checked first. -/
def headerBlock (version : Version) (code : Int) (headers : List (Bytes × Bytes)) : Answer :=
  match Status.ofCode? code with
  | none => .failure .badStatus
  | some s =>
    match headersOf headers with
    | .error f => .failure f
    | .ok h => .bytes (HeaderBlock.render version s h)

/-- The first value of a parameter in a URI. -/
def parameter (uri name : String) : Answer :=
  match Uri.parse uri.toList with
  | .error d => .failure (.badUri d)
  | .ok u => .ofOption .text (u.query.bind fun q => Form.lookup q name)

/-- The request that a list of variables describes. -/
def request (vars : List (Bytes × Bytes)) : Answer :=
  match Request.ofEnvironment (Environment.ofRawList vars) with
  | .error u => .failure u.toFailure
  | .ok r => .request r

/-- A request from its parts. Headers are checked first, then the method, then the URI. -/
def requestOf (method uri : String) (headers : List (Bytes × Bytes)) : Except Failure Request :=
  match headersOf headers with
  | .error f => .error f
  | .ok h =>
    match Method.ofString? method with
    | none => .error .badMethod
    | some m =>
      match Uri.parse uri.toList with
      | .error d => .error (.badUri d)
      | .ok u => .ok { method := m, uri := u, headers := h }

/-- Lets a handler answer a request on a recorded response, with a body from memory and without an
installed bridge. -/
def recorded (handler : Handler) (r : Request) (body : Bytes) : Recorded :=
  ((handler r).run ({ writer := {}, body := .stored body, host := {} } : Turn Recorded)).2.writer

/-- What the demonstration answers, as a whole or with its cache alone: the pattern under which the
path is served, and the response. -/
def demo (method uri : String) (headers : List (Bytes × Bytes)) (body : Bytes) (cacheOnly : Bool) :
    Except Failure (Option String × Recorded) :=
  match requestOf method uri headers with
  | .error f => .error f
  | .ok r =>
    let handler := if cacheOnly then Demo.cache false else Demo.application.serve
    .ok (Demo.router.pattern? r.path, recorded handler r body)

end Query

/-! ### Steps on a router -/

/-- A step on a router. -/
inductive RouterStep where
  | handle (pattern id : String)
  | route (path : String)
  | serve (uri : String)

namespace RouterStep

def writes (id : String) : Handler := fun _ => do
  let _ ← TurnProgram.writeBody (Utf8.ofString id)

def run (s : RouterStep) (r : Router Handler) : Answer × Router Handler :=
  match s with
  | .handle pattern id =>
    let r := r.handle pattern (writes id)
    (.text r.shown, r)
  | .route path => (.ofOption .text (r.pattern? path), r)
  | .serve uri =>
    match Query.requestOf Method.get.token uri [] with
    | .error f => (.failure f, r)
    | .ok request => (.recorded (Query.recorded r.serve request []), r)

end RouterStep

end Gateway
