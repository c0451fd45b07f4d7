/-!
# Signal tables

One slot for each of the 256 signals, empty at first. A slot is filled by a registration and then
only ever filled anew.
-/

namespace Gateway

/-- What is registered for each signal. -/
structure SignalTable (γ : Type) where
  slot : UInt8 → Option γ

namespace SignalTable

variable {γ : Type}

def empty : SignalTable γ := ⟨fun _ => none⟩

def get? (t : SignalTable γ) (signum : UInt8) : Option γ := t.slot signum

def set (t : SignalTable γ) (signum : UInt8) (x : γ) : SignalTable γ :=
  ⟨fun n => if n = signum then some x else t.slot n⟩

def isSet (t : SignalTable γ) (signum : UInt8) : Bool := (t.slot signum).isSome

/-- The signals whose slots are filled, in ascending order. -/
def toList (t : SignalTable γ) : List UInt8 :=
  ((List.range 256).map UInt8.ofNat).filter t.isSet

/-- A filled slot holds what it was filled with, and the other slots keep what they hold. -/
theorem get?_set (t : SignalTable γ) (signum : UInt8) (x : γ) (n : UInt8) :
    (t.set signum x).get? n = if n = signum then some x else t.get? n := rfl

/-- The listed signals are those whose slots are filled. -/
theorem mem_toList (t : SignalTable γ) (n : UInt8) : n ∈ t.toList ↔ t.isSet n := by
  simp only [toList, List.mem_filter, List.mem_map, List.mem_range, and_iff_right_iff_imp]
  exact fun _ => ⟨n.toNat, n.toNat_lt, by simp⟩

end SignalTable

end Gateway
