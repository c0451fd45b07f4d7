import Gateway.Proofs.Core.Exchanges

/-!
# Calls that are about one request

A call is about one request if it touches the exchange of this request and nothing else, and if two
cores that hold the same of the request cannot be told apart by it (`Local`). The calls that read and
write a request are of this kind, and whatever is put together from such calls is so again
(`Local.bind`).
-/

namespace Gateway.Core

variable {α β : Type} {h j : Handle} {c d : Core} {act act' : Core → α × Core}

/-- Two cores without plans that hold the same of a request. -/
structure Alike (h : Handle) (c d : Core) : Prop where
  unplanned_left : c.Unplanned
  unplanned_right : d.Unplanned
  get?_eq : c.exchanges.get? h = d.exchanges.get? h

/-- Whether what is done with a core is about one request only. -/
structure Local (h : Handle) (act : Core → α × Core) : Prop where
  frame : ∀ {c}, c.Unplanned → Frame h c (act c).2
  same : ∀ {c d}, Alike h c d →
    (act c).1 = (act d).1 ∧ (act c).2.exchanges.get? h = (act d).2.exchanges.get? h

/-- Cores that are alike to a request answer alike and stay so. -/
theorem Local.alike (hact : Local h act) (hcd : Alike h c d) :
    (act c).1 = (act d).1 ∧ Alike h (act c).2 (act d).2 := by
  obtain ⟨hresult, hget⟩ := hact.same hcd
  have hc := hcd.unplanned_left.frame (hact.frame hcd.unplanned_left)
  have hd := hcd.unplanned_right.frame (hact.frame hcd.unplanned_right)
  exact ⟨hresult, hc, hd, hget⟩

/-- A frame of one request leaves cores alike to every other request. -/
theorem Frame.alike {c' : Core} (hcc' : Frame h c c') (hj : j ≠ h) (hcd : Alike j c d) :
    Alike j c' d where
  unplanned_left := hcd.unplanned_left.frame hcc'
  unplanned_right := hcd.unplanned_right
  get?_eq := (hcc'.others j hj).trans hcd.get?_eq

/-! ### Putting calls together -/

theorem local_pure (h : Handle) (a : α) : Local h fun c => (a, c) where
  frame _ := Frame.refl h _
  same hcd := ⟨rfl, hcd.get?_eq⟩

/-- One call and then another that depends on its result. -/
theorem Local.bind (hact : Local h act) (next : α → Core → β × Core)
    (hnext : ∀ c, Local h (next (act c).1)) : Local h fun c => next (act c).1 (act c).2 where
  frame {c} hc := (hact.frame hc).trans ((hnext c).frame (hc.frame (hact.frame hc)))
  same {c d} hcd := by
    obtain ⟨hresult, halike⟩ := hact.alike hcd
    rw [← hresult]
    exact (hnext c).same halike

theorem Local.map (hact : Local h act) (f : α → β) : Local h fun c => (f (act c).1, (act c).2) :=
  hact.bind (fun a c => (f a, c)) fun _ => local_pure h _

/-- A call after a change that has no result. -/
theorem Local.after {change : Core → Core} (hact : Local h act)
    (hchange : Local h fun c => ((), change c)) : Local h fun c => act (change c) :=
  hchange.bind (fun _ => act) fun _ => hact

/-- What agrees with a call wherever nothing is planned. -/
theorem Local.congr (hact : Local h act) (heq : ∀ c, c.Unplanned → act' c = act c) :
    Local h act' where
  frame {c} hc := by
    rw [heq c hc]
    exact hact.frame hc
  same {c d} hcd := by
    rw [heq c hcd.unplanned_left, heq d hcd.unplanned_right]
    exact hact.same hcd

/-! ### Calls -/

theorem local_update (h : Handle) (f : Exchange → Exchange) : Local h fun c => ((), c.update h f) where
  frame {c} _ := frame_update c h f
  same hcd := by
    refine ⟨rfl, ?_⟩
    rw [get?_update, get?_update, hcd.get?_eq]

/-- Steering a request, known or not, is about this request. -/
theorem local_steer (h : Handle) (f : Exchange → Exchange) : Local h fun c => ((), c.steer h f) where
  frame {c} _ := frame_steer c h f
  same {c d} hcd := by
    refine ⟨rfl, ?_⟩
    show (c.exchanges.insert h (f (c.exchange h))).get? h =
      (d.exchanges.insert h (f (d.exchange h))).get? h
    rw [Table.get?_insert, Table.get?_insert, exchange, exchange, hcd.get?_eq]

theorem local_write (h : Handle) (f : Exchange → Exchange) : Local h (write h f) where
  frame {c} _ := by
    unfold write
    split
    · exact Frame.refl h c
    · split
      · exact Frame.refl h c
      · exact frame_update c h f
  same {c d} hcd := by
    have hget := hcd.get?_eq
    unfold write
    rw [← hget]
    cases hx : c.exchanges.get? h with
    | none => exact ⟨rfl, hget⟩
    | some x =>
      by_cases hw : x.failWrites = true
      · simp [hw, hget]
      · simp [hw, get?_update, hget]

theorem local_writeHeaderBlock (h : Handle) (block : Bytes) : Local h (writeHeaderBlock h block) :=
  (local_write h fun x => x.writeHeader block).congr
    fun _ hc => asPlanned_of_unplanned hc _ _

theorem local_writeBodyChunk (h : Handle) (chunk : Bytes) : Local h (writeBodyChunk h chunk) :=
  (local_write h fun x => x.writeBody chunk).congr
    fun _ hc => asPlanned_of_unplanned hc _ _

theorem local_readQueued (h : Handle) (n : Nat) : Local h (readQueued h n) where
  frame {c} _ := by
    unfold readQueued
    split
    · exact Frame.refl h c
    · split
      · exact Frame.refl h c
      · exact frame_update c h _
  same {c d} hcd := by
    have hget := hcd.get?_eq
    unfold readQueued
    rw [← hget]
    cases hx : c.exchanges.get? h with
    | none => exact ⟨rfl, hget⟩
    | some x =>
      by_cases hr : x.failReads = true
      · simp [hr, hget]
      · simp [hr, get?_update, hget]

theorem local_readChunk (h : Handle) (n : Nat) : Local h (readChunk h n) := by
  refine (local_readQueued h n).congr fun c hc => ?_
  rw [readChunk, hc .readChunk]

end Gateway.Core
