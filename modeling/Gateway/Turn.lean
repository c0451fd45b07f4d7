import Gateway.Body
import Gateway.Service

/-!
# Turns

A turn is one request being answered: a writer for the response, the body of the request, and the
host with its services. Handlers are programs over the turn's interface. What they do beyond that
interface is put together from it here: single headers, writing in the manner of a stream, and the
plain page for a path that leads nowhere.
-/

namespace Gateway

/-- What a handler may ask for. -/
inductive TurnCall where
  | headers
  | setHeaders (h : HeaderMap)
  | writeHeader (s : Status)
  | writeBody (b : Bytes)
  | isCommitted
  | read (n : Nat)
  | drain
  | host (c : HostCall)

namespace TurnCall

abbrev Answer : TurnCall → Type
  | .headers => HeaderMap
  | .setHeaders _ => Unit
  | .writeHeader _ => Except Fault Unit
  | .writeBody _ => Except Fault Nat
  | .isCommitted => Bool
  | .read _ => Except StreamError Bytes
  | .drain => Option StreamError × Bytes
  | .host c => c.Answer

end TurnCall

/-- The interface of handlers. -/
def TurnInterface : Interface := ⟨TurnCall, TurnCall.Answer⟩

/-- The code of a handler. -/
abbrev TurnProgram (α : Type) := Program TurnInterface α

/-- A request being answered through a writer. -/
structure Turn (ω : Type) where
  writer : ω
  body : Body
  host : Host

namespace Turn

variable {ω : Type} [ResponseWriter ω]

/-- The turn after something was done with its writer. -/
def wrote {α : Type} (t : Turn ω) (r : α × ω × Core) : α × Turn ω :=
  (r.1, { t with writer := r.2.1, host := { t.host with core := r.2.2 } })

/-- The turn after something was done with its body. -/
def took {α : Type} (t : Turn ω) (r : α × Body × Core) : α × Turn ω :=
  (r.1, { t with body := r.2.1, host := { t.host with core := r.2.2 } })

/-- Answers what a handler asks for. -/
def act : (c : TurnCall) → Turn ω → c.Answer × Turn ω
  | .headers, t => (ResponseWriter.headers t.writer, t)
  | .setHeaders h, t => ((), { t with writer := ResponseWriter.setHeaders h t.writer })
  | .writeHeader s, t => t.wrote (ResponseWriter.writeHeader s t.writer t.host.core)
  | .writeBody b, t => t.wrote (ResponseWriter.writeBody b t.writer t.host.core)
  | .isCommitted, t => (ResponseWriter.isCommitted t.writer, t)
  | .read n, t => t.took (t.body.read n t.host.core)
  | .drain, t => t.took (t.body.drain t.host.core)
  | .host c, t => ((Host.act c t.host).1, { t with host := (Host.act c t.host).2 })

end Turn

namespace TurnProgram

def run {α ω : Type} [ResponseWriter ω] (p : TurnProgram α) (t : Turn ω) : Outcome α × Turn ω :=
  Program.run (I := TurnInterface) Turn.act p t

def ask (c : TurnCall) : TurnProgram c.Answer :=
  Program.ask (I := TurnInterface) c

def headers : TurnProgram HeaderMap := ask .headers

def modifyHeaders (f : HeaderMap → HeaderMap) : TurnProgram Unit := do
  let h ← headers
  ask (.setHeaders (f h))

def setHeader (n : HeaderName) (v : HeaderValue) : TurnProgram Unit :=
  modifyHeaders fun h => h.insert n v

def writeHeader (s : Status) : TurnProgram (Except Fault Unit) := ask (.writeHeader s)

def writeBody (b : Bytes) : TurnProgram (Except Fault Nat) := ask (.writeBody b)

/-- Reads the body of the request to its end: all of it, or the error that cut it short. -/
def readAll : TurnProgram (Except StreamError Bytes) := do
  let (error, got) ← ask .drain
  match error with
  | none => return .ok got
  | some e => return .error e

/-- Writes octets in the manner of a stream. -/
def writeStream (b : Bytes) : TurnProgram (Except StreamError Nat) := do
  match ← writeBody b with
  | .error e => return .error e.toStreamError
  | .ok n => return .ok n

/-- Writes all octets in the manner of a stream: none at all are not even written. -/
def writeAll (b : Bytes) : TurnProgram (Except StreamError Unit) := do
  if b.isEmpty then
    return .ok ()
  else
    match ← writeStream b with
    | .error e => return .error e
    | .ok _ => return .ok ()

/-- The media type of plain text. -/
def plainText : HeaderValue := Utf8.ofString "text/plain; charset=utf-8"

/-- The page for a path that leads nowhere. -/
def notFoundPage : Bytes := Utf8.ofString "404 page not found\n"

/-- Answers that there is nothing under the path. -/
def notFound : TurnProgram Unit := do
  setHeader HeaderName.contentType plainText
  setHeader HeaderName.contentTypeOptions (Utf8.ofString "nosniff")
  match ← writeHeader Status.notFound with
  | .error _ => return ()
  | .ok () =>
    let _ ← writeBody notFoundPage
    return ()

def service (s : Service) : TurnProgram s.Answer := ask (.host (.service s))

def isInstalled : TurnProgram Bool := ask (.host .isInstalled)

def note (n : Note) : TurnProgram Unit := ask (.host (.note n))

end TurnProgram

/-- What answers requests. -/
abbrev Handler := Request → TurnProgram Unit

end Gateway
