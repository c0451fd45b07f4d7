/-!
# Signal tags

A signal number travels to the server and back as a tag that is never zero, because the server takes
a zero for an empty slot: the tag of a signal is its number plus one.
-/

namespace Gateway.SignalTag

/-- The tag of a signal. -/
def ofSignal (signum : UInt8) : Nat :=
  signum.toNat + 1

/-- The signal that a tag stands for. -/
def toSignal? (tag : Nat) : Option UInt8 :=
  if 1 ≤ tag ∧ tag ≤ 256 then some (UInt8.ofNat (tag - 1)) else none

end Gateway.SignalTag
