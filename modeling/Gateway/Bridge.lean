import Gateway.Application
import Gateway.Environment.Pending
import Gateway.Request.FromEnvironment
import Gateway.Response.Sink
import Gateway.Settings.Basic

/-!
# Bridges

A bridge joins an application to a core. The core hands over the environment of a request variable
by variable and then has the request dispatched; the bridge reads a request from the environment
and lets the application answer it through a sink. An environment is released before anything else
happens in a dispatch, so neither a malformed request nor a panic can leave one behind.
-/

namespace Gateway

/-- An application, its core, and what is kept between two calls. -/
structure Bridge where
  app : Application
  settings : Settings
  /-- The content type of responses that name none. -/
  defaultContentType : HeaderValue
  /-- Environments that wait for their requests. -/
  pending : Pending := Pending.empty
  host : Host

namespace Bridge

/-- A bridge between an application and a core, unless the default content type is no legal header
value. -/
def new (app : Application) (settings : Settings) (core : Core) : Except Failure Bridge :=
  match HeaderValue.ofBytes? (Utf8.ofString settings.defaultContentType) with
  | none => .error (.badContentType settings.defaultContentType)
  | some contentType =>
    .ok { app, settings, defaultContentType := contentType
          host := { core, plugin := settings.pluginName } }

def core (b : Bridge) : Core := b.host.core

def withCore (b : Bridge) (c : Core) : Bridge :=
  { b with host := { b.host with core := c } }

def ran {α : Type} (b : Bridge) (r : Outcome α × Host) : Option Panic × Bridge :=
  (r.1.panic?, { b with host := r.2 })

/-! ### Environments -/

def envNew (b : Bridge) (h : Handle) : Bridge :=
  { b with pending := b.pending.create h }

/-- Adds a variable to an environment: whether it was stored. -/
def envAdd (b : Bridge) (env : Handle) (name value : Bytes) : Bool × Bridge :=
  match b.pending.add env name value with
  | (stored, p) => (stored, { b with pending := p })

/-- Drops an environment whose request will not be dispatched: whether there was one. -/
def envRelease (b : Bridge) (env : Handle) : Bool × Bridge :=
  match b.pending.discard env with
  | (dropped, p) => (dropped, { b with pending := p })

/-! ### Requests -/

/-- The turn in which a request is answered. -/
def turn (b : Bridge) (h : Handle) (r : Request) : Turn Sink :=
  { writer := { handle := h, version := r.version, defaultContentType := b.defaultContentType }
    body := .queued h
    host := b.host }

/-- Serves a request that has been read: the panic of its handler, if there was one. -/
def answer (b : Bridge) (h : Handle) (r : Request) : Option Panic × Bridge :=
  match (b.app.serve r).run (b.turn h r) with
  | (o, t) => (o.panic?, { b with host := t.host })

/-- Serves the request `h` with the environment that waits under `env`. Without an environment, and
without a request in it, nothing is served; reading the request may panic, too. -/
def dispatch (b : Bridge) (env h : Handle) : Option Panic × Bridge :=
  match b.pending.take env with
  | (none, _) => (none, b)
  | (some vars, p) =>
    let b := { b with pending := p }
    match Request.ofEnvironment vars with
    | .error u => (u.panic?, b)
    | .ok r => b.answer h r

/-! ### Signals -/

/-- Runs the callback of a signal: whether there is one, and its panic if there was one. -/
def dispatchSignal (b : Bridge) (signum : UInt8) : (Bool × Option Panic) × Bridge :=
  match b.host.signals.get? signum with
  | none => ((false, none), b)
  | some callback =>
    match b.ran ((b.app.callback callback signum).run b.host) with
    | (p, b) => ((true, p), b)

/-! ### The life of the server -/

def banner (b : Bridge) : Option Panic × Bridge := b.ran (b.app.banner.run b.host)

def postFork (b : Bridge) : Option Panic × Bridge := b.ran (b.app.postFork.run b.host)

def postInit (b : Bridge) : Option Panic × Bridge := b.ran (b.app.postInit.run b.host)

/-- The name of the thread that runs a core's event loop. -/
def threadName (id : Int) : String := "uwsgi-core-" ++ Numeral.signed id

/-- Runs a core's event loop on a thread of its own: the thread's name. -/
def runCore (b : Bridge) (id : Int) : String × Bridge :=
  (threadName id, b.withCore (b.core.record (.coreLoop id)))

end Bridge

end Gateway
