import Gateway.Core.Calls
import Gateway.Program
import Gateway.Report.Answer
import Gateway.Signal.Table

/-!
# Services

What an application can ask the server for beside its requests: signals, timers, user locks, the
shared cache, and the identity of the process. Failures come back as `false` or `none`. Every cache
call takes the cache's lock, makes one call and gives the lock back; a call that is refused, because
the cache is off or the key too long, does not come as far as the lock.
-/

namespace Gateway

/-- What runs when a signal arrives. -/
inductive Callback where
  /-- Leaves a note under a name. -/
  | named (id : String)
  /-- Does nothing that shows. -/
  | quiet
  deriving DecidableEq

/-- What running code leaves in the journal. -/
inductive Note where
  /-- What a step of a handler reported. -/
  | result (a : Answer)
  | callback (id : String) (signum : UInt8)
  | banner
  | postFork
  | postInit

/-- What application code can reach of the bridge it runs under. -/
structure Host where
  core : Core := {}
  signals : SignalTable Callback := SignalTable.empty
  /-- The modifier that marks this plugin's signals, once it is known. -/
  modifier : Option UInt8 := none
  plugin : String := ""
  /-- Whether this bridge serves the process. -/
  installed : Bool := false
  /-- What running code noted, the earliest first. -/
  journal : List Note := []

instance : Inhabited Host := ⟨{}⟩

/-- A service. -/
inductive Service where
  | signal (signum : UInt8)
  | lock (slot : Int)
  | unlock (slot : Int)
  /-- Raises a signal after some seconds, once or again and again. -/
  | addTimer (signum : UInt8) (seconds : Int) (recurring : Bool)
  /-- Whether the server knows a receiver for a signal. -/
  | isSignalRegistered (signum : UInt8)
  | registerSignal (signum : UInt8) (owner : String) (callback : Callback)
  /-- A copy of a cached value. -/
  | cacheGet (key : String)
  | cacheExists (key : String)
  | cacheDelete (key : String)
  /-- Stores a value for some seconds, or for good. -/
  | cacheSet (key : String) (value : Bytes) (ttl flags : Nat)
  | workerId
  | helperProcessId
  | logSize
  deriving DecidableEq

namespace Service

abbrev Answer : Service → Type
  | .signal _ | .lock _ | .unlock _ => Unit
  | .addTimer .. | .isSignalRegistered _ | .registerSignal .. => Bool
  | .cacheExists _ | .cacheDelete _ | .cacheSet .. => Bool
  | .cacheGet _ => Option Bytes
  | .workerId | .helperProcessId | .logSize => Int

/-- Stores a value whether or not there is one. -/
def replaceFlags : Nat := 0

/-- Stores a value only in the place of another one. -/
def updateFlags : Nat := 2

/-- Whether the answer to a question about the modifier is one. -/
def modifierOf? (answer : Int) : Option UInt8 :=
  if 0 ≤ answer ∧ answer ≤ 255 then some (UInt8.ofNat answer.toNat) else none

end Service

namespace Host

/-! ### The cache -/

def maxKey : Nat := 65535

/-- The octets of a key, unless the cache is off or the key too long. -/
def cacheKey? (h : Host) (key : String) : Option Bytes :=
  if h.core.cacheEnabled then
    if maxKey < (Utf8.ofString key).length then none else some (Utf8.ofString key)
  else none

/-- Calls the core's cache under a lock. -/
def locked {α : Type} (lock : Event) (act : Core → α × Core) (c : Core) : α × Core :=
  match act (c.record lock) with
  | (x, c) => (x, c.record .unlock)

/-- Looks a value up. -/
def cacheGet (h : Host) (key : String) : Option Bytes × Host :=
  match h.cacheKey? key with
  | none => (none, h)
  | some k =>
    match locked .readLock (Core.cacheGet k) h.core with
    | (v, c) => (v, { h with core := c })

def cacheExists (h : Host) (key : String) : Bool × Host :=
  match h.cacheKey? key with
  | none => (false, h)
  | some k =>
    match locked .readLock (Core.cacheExists k) h.core with
    | (b, c) => (b, { h with core := c })

def cacheDelete (h : Host) (key : String) : Bool × Host :=
  match h.cacheKey? key with
  | none => (false, h)
  | some k =>
    match locked .writeLock (Core.cacheDelete k) h.core with
    | (code, c) => (decide (0 ≤ code), { h with core := c })

/-- Stores a value: whether it was stored. -/
def cacheSet (h : Host) (key : String) (value : Bytes) (ttl flags : Nat) : Bool × Host :=
  match h.cacheKey? key with
  | none => (false, h)
  | some k =>
    match locked .writeLock (Core.cacheSet k value ttl flags) h.core with
    | (code, c) => (decide (0 ≤ code), { h with core := c })

/-! ### Signals -/

/-- The modifier of the plugin. It is asked for until the answer is one, and kept from then on. -/
def resolveModifier (h : Host) : Option UInt8 × Host :=
  match h.modifier with
  | some m => (some m, h)
  | none =>
    match h.core.lookUpModifier h.plugin with
    | (answer, c) =>
      (Service.modifierOf? answer, { h with core := c, modifier := Service.modifierOf? answer })

def registerSignal (h : Host) (signum : UInt8) (owner : String) (callback : Callback) :
    Bool × Host :=
  match h.resolveModifier with
  | (none, h) => (false, h)
  | (some m, h) =>
    match h.core.registerSignal signum owner m with
    | (code, c) =>
      if code = 0 then
        (true, { h with core := c, signals := h.signals.set signum callback })
      else (false, { h with core := c })

/-- Sets a timer: whether it was set. -/
def addTimer (h : Host) (signum : UInt8) (seconds : Int) (recurring : Bool) : Bool × Host :=
  match (if recurring then Core.addRecurringTimer signum seconds h.core
    else Core.addTimer signum seconds h.core) with
  | (code, c) => (decide (code = 0), { h with core := c })

/-! ### All services -/

/-- Records a call that has no result. -/
def tell (h : Host) (e : Event) : Unit × Host :=
  ((), { h with core := h.core.record e })

/-- Performs a service. -/
def serve (h : Host) : (s : Service) → s.Answer × Host
  | .signal n => h.tell (.signal n)
  | .lock slot => h.tell (.userLock slot)
  | .unlock slot => h.tell (.userUnlock slot)
  | .addTimer n seconds recurring => h.addTimer n seconds recurring
  | .isSignalRegistered n => (h.core.registered.contains n, h)
  | .registerSignal n owner callback => h.registerSignal n owner callback
  | .cacheGet key => h.cacheGet key
  | .cacheExists key => h.cacheExists key
  | .cacheDelete key => h.cacheDelete key
  | .cacheSet key value ttl flags => h.cacheSet key value ttl flags
  | .workerId => (h.core.workerId, h)
  | .helperProcessId => (h.core.helperProcessId, h)
  | .logSize => (h.core.logSize, h)

def note (h : Host) (n : Note) : Host :=
  { h with journal := h.journal ++ [n] }

end Host

/-- What the answer to a service reports. -/
def Service.report : (s : Service) → s.Answer → Gateway.Answer
  | .signal _, _ | .lock _, _ | .unlock _, _ => .nothing
  | .addTimer .., b | .isSignalRegistered _, b | .registerSignal .., b => .flag b
  | .cacheExists _, b | .cacheDelete _, b | .cacheSet .., b => .flag b
  | .cacheGet _, v => Gateway.Answer.ofOption .bytes v
  | .workerId, n | .helperProcessId, n => .number n
  | .logSize, n => .large n

/-! ### Code that runs outside of requests -/

/-- What code outside of requests may ask for. -/
inductive HostCall where
  | service (s : Service)
  | isInstalled
  | note (n : Note)

namespace HostCall

abbrev Answer : HostCall → Type
  | .service s => s.Answer
  | .isInstalled => Bool
  | .note _ => Unit

end HostCall

/-- The interface of code outside of requests. -/
def HostInterface : Interface := ⟨HostCall, HostCall.Answer⟩

/-- Code outside of requests: hooks of the application and callbacks of signals. -/
abbrev HostProgram (α : Type) := Program HostInterface α

/-- Answers what code asks for. -/
def Host.act : (c : HostCall) → Host → c.Answer × Host
  | .service s, h => h.serve s
  | .isInstalled, h => (h.installed, h)
  | .note n, h => ((), h.note n)

namespace HostProgram

def service (s : Service) : HostProgram s.Answer :=
  Program.ask (I := HostInterface) (HostCall.service s)

def isInstalled : HostProgram Bool :=
  Program.ask (I := HostInterface) HostCall.isInstalled

def note (n : Note) : HostProgram Unit :=
  Program.ask (I := HostInterface) (HostCall.note n)

def run {α : Type} (p : HostProgram α) (h : Host) : Outcome α × Host :=
  Program.run (I := HostInterface) Host.act p h

end HostProgram

namespace Callback

/-- The name of a callback that gives up. -/
def panicking : String := "panic"

def code (callback : Callback) (signum : UInt8) : HostProgram Unit :=
  match callback with
  | .named id =>
    if id = panicking then .panic (.text "callback exploded") else HostProgram.note (.callback id signum)
  | .quiet => .done ()

end Callback

end Gateway
