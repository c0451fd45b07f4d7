import Gateway.Program
import Gateway.Table.Basic

/-!
# Registries

A registry keeps values for code that knows them by their keys. It is a table that is used through five
calls. Each of them is about one key, and nothing comes between what it looks at and what it changes.
-/

namespace Gateway

/-- A call on a registry. What somebody who looks at a value makes of it is a `ρ`. -/
inductive RegistryCall (κ ν ρ : Type) where
  /-- Gives a key a value: the value that it replaces. -/
  | retain (key : κ) (value : ν)
  /-- Looks at a value. -/
  | visit (key : κ) (look : ν → ρ)
  /-- Looks at a value and leaves another one in its place. -/
  | change (key : κ) (edit : ν → ρ × ν)
  /-- Takes a key's value away: the value. -/
  | release (key : κ)
  | contains (key : κ)

namespace RegistryCall

variable {κ ν ρ : Type}

abbrev Answer : RegistryCall κ ν ρ → Type
  | .retain .. | .release _ => Option ν
  | .visit .. | .change .. => Option ρ
  | .contains _ => Bool

/-- The key that a call is about. -/
def key : RegistryCall κ ν ρ → κ
  | .retain k _ | .visit k _ | .change k _ | .release k | .contains k => k

/-- Makes a call. -/
def act [DecidableEq κ] : (c : RegistryCall κ ν ρ) → Table κ ν → c.Answer × Table κ ν
  | .retain k v, t => (t.get? k, t.insert k v)
  | .visit k look, t => ((t.get? k).map look, t)
  | .change k edit, t => ((t.get? k).map fun v => (edit v).1, t.modify k fun v => (edit v).2)
  | .release k, t => (t.get? k, t.erase k)
  | .contains k, t => (t.contains k, t)

end RegistryCall

/-- The interface of code that uses a registry. -/
abbrev RegistryInterface (κ ν ρ : Type) : Interface := ⟨RegistryCall κ ν ρ, RegistryCall.Answer⟩

end Gateway
