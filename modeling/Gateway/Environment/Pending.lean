import Gateway.Core.Handle
import Gateway.Environment.Basic

/-!
# Pending environments

Environments that are being filled and wait for their request to be served, under the handle of that
request. Starting an environment drops an older one of the same handle; taking one away is the end of
it, so no environment is ever handed out twice.
-/

namespace Gateway

/-- The environments that wait, under their handles. -/
structure Pending where
  table : Table Handle Environment

namespace Pending

def empty : Pending := ⟨Table.empty⟩

instance : Inhabited Pending := ⟨empty⟩

def size (p : Pending) : Nat := p.table.size

def get? (p : Pending) (h : Handle) : Option Environment := p.table.get? h

def create (p : Pending) (h : Handle) : Pending :=
  ⟨p.table.insert h Environment.empty⟩

/-- Adds a variable to a waiting environment: whether there was one. -/
def add (p : Pending) (h : Handle) (name value : Bytes) : Bool × Pending :=
  (p.table.contains h, ⟨p.table.modify h fun e => e.insertRaw name value⟩)

/-- Hands a waiting environment out. -/
def take (p : Pending) (h : Handle) : Option Environment × Pending :=
  (p.table.get? h, ⟨p.table.erase h⟩)

/-- Drops a waiting environment: whether there was one. -/
def discard (p : Pending) (h : Handle) : Bool × Pending :=
  (p.table.contains h, ⟨p.table.erase h⟩)

def shown (p : Pending) : String :=
  "EnvironmentStore \x7b pending: HandleRegistry \x7b entries: " ++
    String.ofList (Numeral.decimal p.size) ++ " \x7d \x7d"

end Pending

end Gateway
