import Gateway.Environment.Pending
import Gateway.Text.Quoted
import Gateway.Report.Answer
import Gateway.Signal.Table
import Gateway.Table.Registry

/-!
# Steps on stores

Steps on environments, on the environments that wait, on a table of texts and on a signal table.
-/

namespace Gateway

/-! ### Environments -/

/-- A step on an environment. -/
inductive EnvironmentStep where
  | insert (name value : String)
  | insertRaw (name value : Bytes)
  | get (name : String)
  /-- Looks at a variable that is not empty. -/
  | getNonEmpty (name : String)
  | isEmpty
  /-- Compares with the environment of some pairs. -/
  | equals (l : List (String × String))
  | list
  | shown

namespace EnvironmentStep

def display (e : Environment) : String :=
  "Environment \x7b vars: \x7b" ++
    ", ".intercalate (e.toSortedList.map fun v => Quoted.quote v.1 ++ ": " ++ Quoted.quote v.2) ++
    "\x7d \x7d"

def run (s : EnvironmentStep) (e : Environment) : Answer × Environment :=
  match s with
  | .insert name value => (.ofOption .text (e.get? name), e.insert name value)
  | .insertRaw name value => (.nothing, e.insertRaw name value)
  | .get name => (.ofOption .text (e.get? name), e)
  | .getNonEmpty name => (.ofOption .text (e.getNonEmpty? name), e)
  | .isEmpty => (.flag e.vars.isEmpty, e)
  | .equals l => (.flag (e == Environment.ofList l), e)
  | .list => (.pairs e.toSortedList, e)
  | .shown => (.text (display e), e)

end EnvironmentStep

/-! ### Environments that wait -/

/-- A step on the environments that wait. -/
inductive PendingStep where
  | create (h : Handle)
  | add (h : Handle) (name value : Bytes)
  | take (h : Handle)
  | discard (h : Handle)
  | shown
  /-- Names no request and does nothing. -/
  | unaddressed

namespace PendingStep

def run (s : PendingStep) (p : Pending) : Answer × Pending :=
  match s with
  | .create h => (.number h.token, p.create h)
  | .add h name value =>
    match p.add h name value with
    | (stored, p) => (.flag stored, p)
  | .take h =>
    match p.take h with
    | (e, p) => (.ofOption (fun e => .pairs e.toSortedList) e, p)
  | .discard h =>
    match p.discard h with
    | (dropped, p) => (.flag dropped, p)
  | .shown => (.text p.shown, p)
  | .unaddressed => (.nullHandle, p)

end PendingStep

/-! ### Tables of texts -/

/-- A step on a table of texts. -/
inductive RegistryStep where
  /-- Gives a key a value. -/
  | retain (key value : String)
  | value (key : String)
  | extend (key suffix : String)
  | release (key : String)
  | contains (key : String)
  | shown

namespace RegistryStep

/-- What the answer to a call reports. -/
def report : (c : RegistryCall String String Answer) → c.Answer → Answer
  | .retain .., v | .release _, v => .ofOption .text v
  | .visit .., a | .change .., a => .ofOption id a
  | .contains _, b => .flag b

/-- Makes a call. -/
def make (c : RegistryCall String String Answer) (t : Table String String) :
    Answer × Table String String :=
  match c.act t with
  | (a, t) => (report c a, t)

def run (s : RegistryStep) (t : Table String String) : Answer × Table String String :=
  match s with
  | .retain key v => make (.retain key v) t
  | .value key => make (.visit key .text) t
  | .extend key suffix =>
    make (.change key fun v => (.number (v ++ suffix).utf8ByteSize, v ++ suffix)) t
  | .release key => make (.release key) t
  | .contains key => make (.contains key) t
  | .shown =>
    (.text ("HandleRegistry \x7b entries: " ++ String.ofList (Numeral.decimal t.size) ++ " \x7d"), t)

end RegistryStep

/-! ### Signal tables -/

/-- A signal table of names, and a callback that is held apart from it. -/
structure SignalDesk where
  table : SignalTable String := SignalTable.empty
  held : Option String := none

/-- A step on a signal table. -/
inductive SignalStep where
  | set (signum : UInt8) (id : String)
  | call (signum argument : UInt8)
  | isSet (signum : UInt8)
  /-- Holds on to what a slot holds. -/
  | hold (signum : UInt8)
  /-- Calls what is held. -/
  | callHeld (argument : UInt8)
  | shown

namespace SignalStep

def display (t : SignalTable String) : String :=
  "SignalTable \x7b set: [" ++
    ", ".intercalate (t.toList.map fun n => String.ofList (Numeral.decimal n.toNat)) ++ "] \x7d"

/-- Calls a callback where there is one: whether there was one, and the calls that took place. -/
def ring (callback : Option String) (argument : UInt8) : Answer × List (String × UInt8) :=
  (.flag callback.isSome, callback.toList.map fun id => (id, argument))

def run (s : SignalStep) (d : SignalDesk) : (Answer × List (String × UInt8)) × SignalDesk :=
  match s with
  | .set n id => ((.nothing, []), { d with table := d.table.set n id })
  | .call n argument => (ring (d.table.get? n) argument, d)
  | .isSet n => ((.flag (d.table.isSet n), []), d)
  | .hold n =>
    ((.ofOption (fun _ => .text "SignalCallback") (d.table.get? n), []),
      { d with held := d.table.get? n })
  | .callHeld argument => (ring d.held argument, d)
  | .shown => ((.text (display d.table), []), d)

end SignalStep

end Gateway
