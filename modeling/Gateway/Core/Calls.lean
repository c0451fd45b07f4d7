import Gateway.Core.Basic

/-!
# The calls of the bridge

Every call that the bridge makes in the core. Codes keep the core's convention: a negative one is a
failure. Where a code was planned, a negative one comes back at once and the call does not take
place, and any other one takes the place of the call's own result.
-/

namespace Gateway.Core

/-- The result of a call that may have been planned. -/
def asPlanned (p : Primitive) (act : Core → Int × Core) (c : Core) : Int × Core :=
  match c.planned p with
  | [] => act c
  | code :: codes =>
    let c := c.plan p codes
    if code < 0 then (code, c) else (code, (act c).2)

/-! ### Requests -/

/-- Lets `f` write to a known request whose writes do not fail. -/
def write (h : Handle) (f : Exchange → Exchange) (c : Core) : Int × Core :=
  match c.exchanges.get? h with
  | none => (-1, c)
  | some x => if x.failWrites then (-1, c) else (0, c.update h f)

def writeHeaderBlock (h : Handle) (block : Bytes) : Core → Int × Core :=
  asPlanned .writeHeaderBlock (write h fun x => x.writeHeader block)

def writeBodyChunk (h : Handle) (chunk : Bytes) : Core → Int × Core :=
  asPlanned .writeBodyChunk (write h fun x => x.writeBody chunk)

def setStatus (c : Core) (h : Handle) (code : Nat) : Core :=
  c.update h fun x => { x with status := some code }

def countHeader (c : Core) (h : Handle) : Core :=
  c.update h fun x => { x with headerCount := x.headerCount + 1 }

/-- Reads at most `n` octets of a request's body: a negative code, or what was read. -/
def readQueued (h : Handle) (n : Nat) (c : Core) : Except Int Bytes × Core :=
  match c.exchanges.get? h with
  | none => (.error (-1), c)
  | some x => if x.failReads then (.error (-1), c) else (.ok (x.read n).1, c.update h fun x => (x.read n).2)

/-- Reads at most `n` octets of a request's body, as planned: a code that is no failure means an
ordinary read. -/
def readChunk (h : Handle) (n : Nat) (c : Core) : Except Int Bytes × Core :=
  match c.planned .readChunk with
  | [] => readQueued h n c
  | code :: codes =>
    let c := c.plan .readChunk codes
    if code < 0 then (.error code, c) else readQueued h n c

/-! ### The cache -/

/-- The flag of a value that may only take the place of another one. -/
def onlyExisting (flags : Nat) : Bool := flags.testBit 1

def cacheGet (key : Bytes) (c : Core) : Option Bytes × Core :=
  (c.cache.get? key, c.record .cacheGet)

def cacheExists (key : Bytes) (c : Core) : Bool × Core :=
  (c.cache.contains key, c.record .cacheExists)

/-- Takes a value away: 0 if there was one. -/
def cacheDelete (key : Bytes) : Core → Int × Core :=
  asPlanned .cacheDelete fun c =>
    let c := c.record .cacheDelete
    if c.cache.contains key then (0, { c with cache := c.cache.erase key }) else (-1, c)

/-- Stores a value: 0 unless there has to be one already and there is none. -/
def cacheSet (key value : Bytes) (expires flags : Nat) : Core → Int × Core :=
  asPlanned .cacheSet fun c =>
    let c := c.record (.cacheSet flags expires)
    if onlyExisting flags && !c.cache.contains key then (-1, c)
    else (0, { c with cache := c.cache.insert key value })

/-! ### Signals and timers -/

/-- Sets a timer that fires once. -/
def addTimer (signum : UInt8) (seconds : Int) : Core → Int × Core :=
  asPlanned .addTimer fun c =>
    (if c.failTimers then -1 else 0, c.record (.timer signum seconds false))

/-- Sets a timer that fires again and again. -/
def addRecurringTimer (signum : UInt8) (seconds : Int) : Core → Int × Core :=
  asPlanned .addRecurringTimer fun c =>
    (if c.failTimers then -1 else 0, c.record (.timer signum seconds true))

/-- What the modifier of a plugin is answered to be. -/
def lookUpModifier (plugin : String) (c : Core) : Int × Core :=
  (c.modifier, c.record (.modifierLookup plugin))

def registerSignal (signum : UInt8) (receiver : String) (modifier : UInt8) : Core → Int × Core :=
  asPlanned .registerSignal fun c =>
    let c := c.record (.registerSignal signum receiver modifier)
    if c.failRegistrations then (-1, c)
    else (0, { c with registered := c.registered.insert signum receiver })

end Gateway.Core
