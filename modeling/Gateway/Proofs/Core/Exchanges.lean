import Gateway.Core.Calls
import Gateway.Table.Lemmas

/-!
# What calls do to exchanges

The calls that read and write a request touch the exchange of that request and nothing else in the
core (`Frame`). Where no codes are planned, a write to a known request either is refused and leaves
the core as it is, or changes the exchange in the one place that the call is about.
-/

namespace Gateway.Core

variable {c d e : Core} {h j : Handle} {x : Exchange}

/-! ### Frames -/

/-- `d` differs from `c` at most in the exchange of `h`. -/
structure Frame (h : Handle) (c d : Core) : Prop where
  /-- The other exchanges are the same. -/
  others : ∀ j, j ≠ h → d.exchanges.get? j = c.exchanges.get? j
  /-- Everything beside the exchanges is the same. -/
  beside : d = { c with exchanges := d.exchanges }

namespace Frame

theorem refl (h : Handle) (c : Core) : Frame h c c :=
  ⟨fun _ _ => rfl, rfl⟩

theorem trans (hcd : Frame h c d) (hde : Frame h d e) : Frame h c e := by
  refine ⟨fun j hj => (hde.others j hj).trans (hcd.others j hj), ?_⟩
  rw [hde.beside, hcd.beside]

theorem planned_eq (hcd : Frame h c d) : d.planned = c.planned := by
  rw [hcd.beside]

end Frame

/-! ### Exchanges -/

/-- Nothing is planned: every call gives a result of its own. -/
def Unplanned (c : Core) : Prop := ∀ p, c.planned p = []

theorem Unplanned.frame (hc : c.Unplanned) (hcd : Frame h c d) : d.Unplanned := by
  intro p
  rw [hcd.planned_eq]
  exact hc p

theorem exchange_of_get? (hx : c.exchanges.get? h = some x) : c.exchange h = x := by
  rw [exchange, hx]
  rfl

theorem get?_update (c : Core) (h : Handle) (f : Exchange → Exchange) (j : Handle) :
    (c.update h f).exchanges.get? j =
      if j = h then (c.exchanges.get? j).map f else c.exchanges.get? j :=
  Table.get?_modify c.exchanges h f j

theorem get?_update_self (hx : c.exchanges.get? h = some x) (f : Exchange → Exchange) :
    (c.update h f).exchanges.get? h = some (f x) := by
  rw [get?_update, if_pos rfl, hx]
  rfl

theorem frame_update (c : Core) (h : Handle) (f : Exchange → Exchange) :
    Frame h c (c.update h f) := by
  refine ⟨fun j hj => ?_, rfl⟩
  rw [get?_update, if_neg hj]

theorem get?_steer_self (hx : c.exchanges.get? h = some x) (f : Exchange → Exchange) :
    (c.steer h f).exchanges.get? h = some (f x) := by
  show (c.exchanges.insert h (f (c.exchange h))).get? h = some (f x)
  rw [Table.get?_insert, if_pos rfl, exchange_of_get? hx]

theorem frame_steer (c : Core) (h : Handle) (f : Exchange → Exchange) :
    Frame h c (c.steer h f) := by
  refine ⟨fun j hj => ?_, rfl⟩
  show (c.exchanges.insert h (f (c.exchange h))).get? j = c.exchanges.get? j
  rw [Table.get?_insert, if_neg hj]

/-! ### Wires -/

/-- Exchanges that differ at most in what does not concern their writers. -/
def SameWires (es es' : Table Handle Exchange) : Prop :=
  ∀ h, (es'.get? h).map (fun x => (x.wire, x.failWrites)) =
    (es.get? h).map fun x => (x.wire, x.failWrites)

theorem SameWires.refl (es : Table Handle Exchange) : SameWires es es := fun _ => rfl

/-- Changing an exchange beside its wire keeps all wires. -/
theorem sameWires_update (c : Core) (h : Handle) {f : Exchange → Exchange}
    (hf : ∀ x, (f x).wire = x.wire ∧ (f x).failWrites = x.failWrites) :
    SameWires c.exchanges (c.update h f).exchanges := by
  intro j
  rw [get?_update]
  by_cases hj : j = h
  · rw [if_pos hj, Option.map_map]
    refine congrArg (fun g => (c.exchanges.get? j).map g) (funext fun x => ?_)
    exact Prod.ext (hf x).1 (hf x).2
  · rw [if_neg hj]

/-! ### Writing -/

theorem asPlanned_of_unplanned (hc : c.Unplanned) (p : Primitive) (act : Core → Int × Core) :
    asPlanned p act c = act c := by
  rw [asPlanned, hc p]

/-- A known request is written to exactly when its writes do not fail. -/
theorem write_of_get? (hx : c.exchanges.get? h = some x) (f : Exchange → Exchange) :
    write h f c = if x.failWrites then (-1, c) else (0, c.update h f) := by
  rw [write, hx]

theorem writeHeaderBlock_of_get? (hc : c.Unplanned) (hx : c.exchanges.get? h = some x)
    (block : Bytes) :
    writeHeaderBlock h block c =
      if x.failWrites then (-1, c) else (0, c.update h fun x => x.writeHeader block) := by
  rw [writeHeaderBlock, asPlanned_of_unplanned hc, write_of_get? hx]

theorem writeBodyChunk_of_get? (hc : c.Unplanned) (hx : c.exchanges.get? h = some x)
    (chunk : Bytes) :
    writeBodyChunk h chunk c =
      if x.failWrites then (-1, c) else (0, c.update h fun x => x.writeBody chunk) := by
  rw [writeBodyChunk, asPlanned_of_unplanned hc, write_of_get? hx]

end Gateway.Core
