import Gateway.Proofs.Body.Drain

/-!
# Bodies and their content

A body that is read to its end gives its whole content, in order and once, however large the reads
are (`drainWith_of_content`). The content of a queue ends at its first empty chunk. The reads show
nowhere in the core but in the queue.
-/

namespace Gateway

/-- What can be read: the chunks up to the first empty one. -/
def Exchange.content (x : Exchange) : Bytes :=
  (x.input.takeWhile fun chunk => !chunk.isEmpty).flatten

namespace Body

open Gateway.Core (SameWires Unplanned)

/-- The content of a body, unless reading it fails. -/
def content? (b : Body) (es : Table Handle Exchange) : Option Bytes :=
  match b with
  | .stored rest => some rest
  | .queued h => ((es.get? h).filter fun x => !x.failReads).map Exchange.content

variable {size : Nat → Nat} {c : Core} {h : Handle}

/-- A queue has content unless its reads fail. -/
theorem content?_queued_eq_some_iff {v : Bytes} :
    (queued h).content? c.exchanges = some v ↔
      ¬c.ReadsFail h ∧ (untilEmpty (c.queue h)).flatten = v := by
  rw [content?, Option.map_eq_some_iff, Core.not_readsFail_iff]
  simp only [Option.filter_eq_some_iff, Bool.not_eq_true']
  constructor
  · rintro ⟨x, ⟨hx, hr⟩, rfl⟩
    exact ⟨⟨x, hx, hr⟩, congrArg (fun q => (untilEmpty q).flatten) (Core.queue_of_get? hx)⟩
  · rintro ⟨⟨x, hx, hr⟩, rfl⟩
    exact ⟨x, ⟨hx, hr⟩, congrArg (fun q => (untilEmpty q).flatten) (Core.queue_of_get? hx).symm⟩

theorem drainFrom_stored (hsize : ∀ i, 0 < size i) {rest : Bytes} {fuel : Nat}
    (hfuel : rest.length < fuel) (i : Nat) (c : Core) :
    drainFrom size fuel i (.stored rest) c = ((none, rest), .stored [], c) := by
  induction fuel generalizing i rest with
  | zero => exact absurd hfuel (Nat.not_lt_zero _)
  | succ fuel ih =>
    rw [drainFrom, read]
    dsimp only
    cases rest with
    | nil =>
      rw [List.take_nil, List.drop_nil]
      rfl
    | cons b rest =>
      obtain ⟨m, hm⟩ := Nat.exists_eq_succ_of_ne_zero (Nat.ne_of_gt (hsize i))
      have hshort : (rest.drop m).length < fuel := by
        rw [List.length_drop]
        rw [List.length_cons] at hfuel
        omega
      rw [hm, List.take_succ_cons, List.drop_succ_cons, ih hshort]
      simp

/-- A body with content gives all of it. -/
theorem drainWith_of_content (hsize : ∀ i, 0 < size i) (hc : c.Unplanned) {b : Body} {v : Bytes}
    (hv : b.content? c.exchanges = some v) :
    ∃ b' es, b.drainWith size c = ((none, v), b', { c with exchanges := es }) ∧
      SameWires c.exchanges es := by
  cases b with
  | stored rest =>
    cases hv
    refine ⟨.stored [], c.exchanges, ?_, SameWires.refl _⟩
    exact drainFrom_stored hsize (Nat.lt_succ_self _) 0 c
  | queued h =>
    obtain ⟨hreads, rfl⟩ := content?_queued_eq_some_iff.mp hv
    exact ⟨.queued h, _, (drains_queue hsize hreads 0).drainWith_eq hc,
      Core.sameWires_update c h fun _ => ⟨rfl, rfl⟩⟩

/-- A body without content is an error at once, and nothing is read. -/
theorem drainWith_of_unreadable (hsize : ∀ i, 0 < size i) (hc : c.Unplanned) {b : Body}
    (hv : b.content? c.exchanges = none) :
    b.drainWith size c = ((some .bodyEnded, []), b, c) := by
  cases b with
  | stored rest => cases hv
  | queued h =>
    have hfail : c.ReadsFail h := by
      refine Classical.byContradiction fun hreads => ?_
      have hsome := content?_queued_eq_some_iff.mpr ⟨hreads, rfl⟩
      rw [hv] at hsome
      cases hsome
    exact (drains_of_readsFail hsize hfail 0).drainWith_eq hc

end Body

end Gateway
