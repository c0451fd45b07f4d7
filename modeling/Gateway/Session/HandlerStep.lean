import Gateway.Demo
import Gateway.Session.CoreStep

/-!
# Steps of a handler

A handler given as a list of steps. Each step is a program that ends with its report. The same steps
can be performed one by one on a turn, between steps on its core.
-/

namespace Gateway

open TurnProgram

/-! ### Steps on a response -/

/-- A step on a response. -/
inductive WriterStep where
  /-- Makes a value the only one of a header. -/
  | insert (name value : Bytes)
  /-- Adds a value to a header. -/
  | append (name value : Bytes)
  | remove (name : Bytes)
  /-- Looks at the first value of a header. -/
  | get (name : Bytes)
  | headers
  | writeHeader (code : Int)
  | writeBody (b : Bytes)
  /-- Writes octets in the manner of a stream. -/
  | writeStream (b : Bytes)
  /-- Writes all octets in the manner of a stream. -/
  | writeAll (b : Bytes)
  /-- Waits until everything is written, which it always is. -/
  | flush
  | isCommitted
  /-- Answers that there is nothing under the path. -/
  | notFound

namespace WriterStep

/-- A header name and value from octets. The name is checked first. -/
def header (name value : Bytes) : Except Failure (HeaderName × HeaderValue) :=
  match HeaderName.ofBytes? name with
  | none => .error .badHeaderName
  | some n =>
    match HeaderValue.ofBytes? value with
    | none => .error .badHeaderValue
    | some v => .ok (n, v)

/-- The step as code of a handler. -/
def program : WriterStep → TurnProgram Answer
  | .insert name value =>
    match header name value with
    | .error f => return .failure f
    | .ok (n, v) => do
      let h ← TurnProgram.headers
      setHeader n v
      return .ofOption .bytes (h.get? n)
  | .append name value =>
    match header name value with
    | .error f => return .failure f
    | .ok (n, v) => do
      let h ← TurnProgram.headers
      modifyHeaders fun h => h.append n v
      return .flag (h.contains n)
  | .remove name =>
    match HeaderName.ofBytes? name with
    | none => return .nothing
    | some n => do
      let h ← TurnProgram.headers
      modifyHeaders fun h => h.remove n
      return .ofOption .bytes (h.get? n)
  | .get name => do
    let h ← TurnProgram.headers
    return .ofOption .bytes ((HeaderName.ofBytes? name).bind h.get?)
  | .headers => do
    let h ← TurnProgram.headers
    return .headers h.toList
  | .writeHeader code =>
    match Status.ofCode? code with
    | none => return .failure .badStatus
    | some s => do
      return .ofFault (fun _ => .nothing) (← TurnProgram.writeHeader s)
  | .writeBody b => do
    return .ofFault (fun n => .number n) (← TurnProgram.writeBody b)
  | .writeStream b => do
    return .ofStream (fun n => .number n) (← TurnProgram.writeStream b)
  | .writeAll b => do
    return .ofStream (fun _ => .nothing) (← TurnProgram.writeAll b)
  | .flush => return .nothing
  | .isCommitted => do
    return .flag (← TurnProgram.ask .isCommitted)
  | .notFound => do
    TurnProgram.notFound
    return .nothing

end WriterStep

/-! ### Steps on a body -/

/-- A step on the body of a request. -/
inductive BodyStep where
  | read (n : Nat)
  /-- Reads to the end into a buffer that keeps what came before an error. -/
  | readToEnd
  | readAll
  | showBody

namespace BodyStep

/-- The step as code of a handler. -/
def program : BodyStep → TurnProgram Answer
  | .read n => do
    return .ofStream .bytes (← TurnProgram.ask (.read n))
  | .readToEnd => do
    let (error, got) ← TurnProgram.ask .drain
    match error with
    | none => return .drained (.ok got.length) got
    | some e => return .drained (.error e) got
  | .readAll => do
    return .ofStream .bytes (← TurnProgram.readAll)
  | .showBody => return .text "RequestBody \x7b .. \x7d"

end BodyStep

/-! ### Handlers of steps -/

/-- A step of a handler. -/
inductive HandlerStep where
  | writer (s : WriterStep)
  | body (s : BodyStep)
  | request
  /-- Sends the body back. -/
  | echo
  | service (s : Service)
  | panic (p : Panic)
  /-- Lets the demonstration's cache answer; nothing comes after it. -/
  | cache

namespace HandlerStep

/-- Reads the body and writes it back. -/
def echoProgram : TurnProgram Answer := do
  match ← TurnProgram.readAll with
  | .error e => return .failure (.stream e)
  | .ok b => return .ofFault (fun n => .number n) (← TurnProgram.writeBody b)

/-- The code of a handler of steps. The report of each step goes to the journal. -/
def handler : List HandlerStep → Handler
  | [], _ => return ()
  | .writer s :: rest, r => do note (.result (← s.program)); handler rest r
  | .body s :: rest, r => do note (.result (← s.program)); handler rest r
  | .request :: rest, r => do note (.result (.request r)); handler rest r
  | .echo :: rest, r => do note (.result (← echoProgram)); handler rest r
  | .service s :: rest, r => do note (.result (s.report (← TurnProgram.service s))); handler rest r
  | .panic p :: _, _ => .panic p
  | .cache :: _, r => Demo.cache true r

/-- The application that answers by steps, and notes in the journal that its hooks ran. -/
def application (routes : List (String × List HandlerStep)) : Application :=
  { banner := HostProgram.note .banner
    postFork := HostProgram.note .postFork
    postInit := HostProgram.note .postInit
    serve := (Router.ofList (routes.map fun e => (e.1, handler e.2))).serve }

end HandlerStep

/-! ### Steps on a turn -/

/-- A step on a turn. -/
inductive TurnStep where
  | writer (s : WriterStep)
  | body (s : BodyStep)
  /-- A step on the core below. -/
  | core (s : CoreStep)

namespace TurnStep

/-- Runs the code of a step. -/
def perform {ω : Type} [ResponseWriter ω] (p : TurnProgram Answer) (t : Turn ω) : Answer × Turn ω :=
  match p.run t with
  | (.done a, t) => (a, t)
  | (.panicked m, t) => (.failure (.panicked m), t)

def run {ω : Type} [ResponseWriter ω] (s : TurnStep) (t : Turn ω) : Answer × Turn ω :=
  match s with
  | .writer s => perform s.program t
  | .body s => perform s.program t
  | .core s =>
    match s.run t.host.core with
    | (a, c) => (a, { t with host := { t.host with core := c } })

end TurnStep

end Gateway
