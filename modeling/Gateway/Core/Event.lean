/-!
# Events

What the core records of the calls that reach it, apart from the reading and writing of requests.
-/

namespace Gateway

/-- A call that reached the core. -/
inductive Event where
  | readLock
  | writeLock
  | unlock
  | cacheGet
  | cacheExists
  | cacheDelete
  | cacheSet (flags : Nat) (expires : Nat)
  | signal (signum : UInt8)
  | userLock (slot : Int)
  | userUnlock (slot : Int)
  | timer (signum : UInt8) (seconds : Int) (recurring : Bool)
  | modifierLookup (plugin : String)
  | registerSignal (signum : UInt8) (receiver : String) (modifier : UInt8)
  | coreLoop (id : Int)
  deriving DecidableEq

end Gateway
