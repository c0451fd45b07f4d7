import Gateway.Bridge
import Gateway.Signal.Tag

/-!
# The plugin

The plugin lives in a process of the server. It serves at most one bridge, which stays once it is
installed. The entry points at the end are what the server calls. They take plain numbers and octets,
check them, and turn everything that goes wrong, a panic included, into a code; without a bridge they
do nothing.
-/

namespace Gateway

/-- The state of the plugin. -/
structure Plugin where
  /-- The bridge that serves the process, once one is installed. -/
  bridge : Option Bridge := none
  /-- Whether a log was set up. -/
  tracing : Bool := false

namespace Plugin

/-- Installs a bridge between an application and a core. A bad setting is reported before a bridge
that is there already; in either case the plugin stays as it is. -/
def install (p : Plugin) (app : Application) (settings : Settings) (core : Core) :
    Except Failure Unit × Plugin :=
  match Bridge.new app settings core with
  | .error e => (.error e, p)
  | .ok b =>
    match p.bridge with
    | some _ => (.error (.fault .alreadyInstalled), p)
    | none => (.ok (), { p with bridge := some { b with host := { b.host with installed := true } } })

/-- Sets up the log, unless there is one: whether it was set up. -/
def initTracing (p : Plugin) : Bool × Plugin :=
  (!p.tracing, { p with tracing := true })

/-! ### Entry points -/

/-- Runs `f` on the bridge; `fallback` stands for a missing bridge and for a panic. -/
def withBridge {α : Type} (fallback : α) (f : Bridge → (α × Option Panic) × Bridge) (p : Plugin) :
    α × Plugin :=
  match p.bridge with
  | none => (fallback, p)
  | some b =>
    match f b with
    | ((x, none), b) => (x, { p with bridge := some b })
    | ((_, some _), b) => (fallback, { p with bridge := some b })

/-- The octets at an address: a missing address is no octets, unless none are asked for. -/
def octetsAt (address : Option Bytes) (length : Int) : Option Bytes :=
  if length < 0 then none
  else if length = 0 then some []
  else address.map fun bs => bs.take length.toNat

/-- A worker was started. -/
def postFork (p : Plugin) : Plugin :=
  (p.withBridge () fun b => (((), b.postFork.1), b.postFork.2)).2

/-- The server was set up. -/
def postInit (p : Plugin) : Plugin :=
  (p.withBridge () fun b => (((), b.postInit.1), b.postInit.2)).2

/-- Starts the environment of a request: the reference to it, or 0. -/
def envNew (p : Plugin) (request : Nat) : Nat × Plugin :=
  match Handle.ofToken? request with
  | none => (0, p)
  | some h => p.withBridge 0 fun b => ((h.token, none), b.envNew h)

/-- The code for something that was done or not. -/
def code (done : Bool) : Int := if done then 0 else -1

/-- Adds a variable to an environment: 0 when it was stored. -/
def envAdd (p : Plugin) (env : Nat) (name : Option Bytes) (nameLength : Int)
    (value : Option Bytes) (valueLength : Int) : Int × Plugin :=
  match Handle.ofToken? env, octetsAt name nameLength, octetsAt value valueLength with
  | some h, some n, some v =>
    p.withBridge (-1) fun b =>
      match b.envAdd h n v with
      | (stored, b) => ((code stored, none), b)
  | _, _, _ => (-1, p)

/-- Drops an environment: 0 when there was one. -/
def envFree (p : Plugin) (env : Nat) : Int × Plugin :=
  match Handle.ofToken? env with
  | none => (-1, p)
  | some h =>
    p.withBridge (-1) fun b =>
      match b.envRelease h with
      | (dropped, b) => ((code dropped, none), b)

/-- Serves a request with an environment: 0, whether or not anything was served. -/
def request (p : Plugin) (env request : Nat) : Int × Plugin :=
  match Handle.ofToken? env, Handle.ofToken? request with
  | some e, some h =>
    p.withBridge (-1) fun b =>
      match b.dispatch e h with
      | (panic, b) => ((0, panic), b)
  | _, _ => (-1, p)

/-- The signal of a given number. -/
def signalOf? (n : Int) : Option UInt8 :=
  if 0 ≤ n ∧ n ≤ 255 then some (UInt8.ofNat n.toNat) else none

/-- Runs the callback of a signal: 0 when there is one. The tag that comes with the signal is only
looked at for the log. -/
def signalHandler (p : Plugin) (signum : Int) (_tag : Nat) : Int × Plugin :=
  match signalOf? signum with
  | none => (-1, p)
  | some n =>
    p.withBridge (-1) fun b =>
      match b.dispatchSignal n with
      | ((ran, panic), b) => ((code ran, panic), b)

/-- Runs a core's event loop. -/
def runCore (p : Plugin) (id : Int) : Plugin :=
  (p.withBridge () fun b => (((), none), (b.runCore id).2)).2

end Plugin

end Gateway
