import Gateway.Core.Event
import Gateway.Core.Exchange
import Gateway.Core.Handle
import Gateway.Table.Basic

/-!
# The core

A server core that lives in memory. It keeps what would go over the wire of every request, a real
cache of keys and values, and a record of all other calls. Requests get the tokens 4096, 4112 and
so on in the order in which they are opened. This module holds the state and what a caller outside
the bridge does with it; `Core/Calls` holds the calls that the bridge makes.
-/

namespace Gateway

/-- The calls whose results can be planned in advance. -/
inductive Primitive where
  | writeHeaderBlock
  | writeBodyChunk
  | readChunk
  | cacheSet
  | cacheDelete
  | addTimer
  | addRecurringTimer
  | registerSignal
  deriving DecidableEq

/-- The state of a core. -/
structure Core where
  /-- How many requests were opened. -/
  opened : Nat := 0
  exchanges : Table Handle Exchange := Table.empty
  cache : Table Bytes Bytes := Table.empty
  cacheEnabled : Bool := true
  /-- The calls that were recorded, the earliest first. -/
  events : List Event := []
  /-- The receivers of registered signals. -/
  registered : Table UInt8 String := Table.empty
  /-- What a plugin's modifier is answered to be; it is one only from 0 to 255. -/
  modifier : Int := 18
  failRegistrations : Bool := false
  failTimers : Bool := false
  workerId : Int := 1
  helperProcessId : Int := 0
  logSize : Int := 0
  /-- The codes that the next calls of a primitive shall give. -/
  planned : Primitive → List Int := fun _ => []

namespace Core

instance : Inhabited Core := ⟨{}⟩

/-! ### Opening and steering requests -/

def nextHandle (c : Core) : Handle :=
  ⟨0x1000 + 0x10 * c.opened, by omega⟩

/-- Opens a request with nothing written and no body queued. -/
def openRequest (c : Core) : Handle × Core :=
  (c.nextHandle,
    { c with opened := c.opened + 1, exchanges := c.exchanges.insert c.nextHandle {} })

/-- What is held of a request; an unknown one reads as untouched. -/
def exchange (c : Core) (h : Handle) : Exchange :=
  (c.exchanges.get? h).getD {}

/-- Changes what is held of a request, known or not. -/
def steer (c : Core) (h : Handle) (f : Exchange → Exchange) : Core :=
  { c with exchanges := c.exchanges.insert h (f (c.exchange h)) }

/-- Changes what is held of a known request. -/
def update (c : Core) (h : Handle) (f : Exchange → Exchange) : Core :=
  { c with exchanges := c.exchanges.modify h f }

def pushBody (c : Core) (h : Handle) (chunk : Bytes) : Core :=
  c.steer h fun x => { x with input := x.input ++ [chunk] }

/-- From now on every read of a request fails. -/
def setFailReads (c : Core) (h : Handle) : Core :=
  c.steer h fun x => { x with failReads := true }

/-- From now on every write of a request fails. -/
def setFailWrites (c : Core) (h : Handle) : Core :=
  c.steer h fun x => { x with failWrites := true }

/-! ### Steering everything else -/

def cacheSize (c : Core) : Nat := c.cache.size

/-- Plans the codes of the next calls of a primitive. -/
def plan (c : Core) (p : Primitive) (codes : List Int) : Core :=
  { c with planned := fun q => if q = p then codes else c.planned q }

def record (c : Core) (e : Event) : Core :=
  { c with events := c.events ++ [e] }

end Core

end Gateway
