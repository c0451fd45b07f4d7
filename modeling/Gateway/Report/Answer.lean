import Gateway.Core.Basic
import Gateway.Report.Failure
import Gateway.Request.Basic
import Gateway.Response.Recorded
import Gateway.Settings.Basic

/-!
# Answers

What a step reports.
-/

namespace Gateway

/-- The report of a step. -/
inductive Answer where
  /-- There is nothing to report, or nothing there. -/
  | nothing
  | flag (b : Bool)
  | number (n : Int)
  /-- A number that may be too large for a reader of numbers. -/
  | large (n : Int)
  | text (s : String)
  | bytes (b : Bytes)
  | failure (f : Failure)
  | pairs (l : List (String × String))
  | headers (l : List (HeaderName × HeaderValue))
  /-- The values that a look-up came across, and whether it found one. -/
  | visited (found : Bool) (values : List Bytes)
  /-- The code of a read and the buffer after it. -/
  | chunk (code : Int) (buffer : Bytes)
  /-- What reading to the end gave, and the octets read. -/
  | drained (result : Except StreamError Nat) (buffer : Bytes)
  | request (r : Request)
  | recorded (r : Recorded)
  | exchange (x : Exchange)
  /-- A request that was served: its handle, how its handler ended, what the core holds of it. -/
  | served (h : Handle) (ending : Option Panic) (x : Exchange)
  | settings (s : Settings)

namespace Answer

def ofOption {α : Type} (f : α → Answer) (x : Option α) : Answer :=
  match x with
  | none => nothing
  | some a => f a

def ofFault {α : Type} (f : α → Answer) (x : Except Fault α) : Answer :=
  match x with
  | .error e => failure (.fault e)
  | .ok a => f a

def ofStream {α : Type} (f : α → Answer) (x : Except StreamError α) : Answer :=
  match x with
  | .error e => failure (.stream e)
  | .ok a => f a

/-- How a piece of code ended. -/
def ofEnding (x : Option Panic) : Answer :=
  match x with
  | none => nothing
  | some p => failure (.panicked p)

/-- No request has the token zero. -/
def nullHandle : Answer := text "null handle"

/-- There is nothing to talk to. -/
def noBridge : Answer := text "no bridge"

end Answer

end Gateway
