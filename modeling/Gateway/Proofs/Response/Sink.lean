import Gateway.Proofs.Core.Exchanges
import Gateway.Response.Sink

/-!
# What a sink does to its exchange

One lemma for each operation of a sink and each state that it may be in: nothing committed yet, the
head is out, or a write was refused. Together they are all that a sink does. An operation touches the
exchange of its own request only, and once a write was refused it touches nothing at all.
-/

namespace Gateway.Sink

open Gateway.Core (Frame Unplanned)

variable {k : Sink} {c : Core} {x : Exchange}

/-! ### Announcing headers -/

theorem get?_announce {h : Handle} (hx : c.exchanges.get? h = some x) (n : Nat) :
    (announce h n c).exchanges.get? h = some { x with headerCount := x.headerCount + n } := by
  induction n generalizing c x with
  | zero => exact hx
  | succ n ih =>
    have hy := Core.get?_update_self hx fun x => { x with headerCount := x.headerCount + 1 }
    rw [announce]
    refine (ih hy).trans ?_
    simp only [Nat.add_assoc, Nat.add_comm 1 n]

theorem frame_announce (h : Handle) (n : Nat) (c : Core) : Frame h c (announce h n c) := by
  induction n generalizing c with
  | zero => exact Frame.refl h c
  | succ n ih => exact (Core.frame_update c h _).trans (ih (c.countHeader h))

/-! ### Committing -/

/-- The exchange after a commit: status and headers are announced in any case, and the block goes on
the wire unless writes are refused. -/
def committed (x : Exchange) (version : Version) (s : Status) (headers : HeaderMap) : Exchange :=
  let y := { x with status := some s.code, headerCount := x.headerCount + headers.size }
  if x.failWrites then y else y.writeHeader (HeaderBlock.render version s headers)

theorem failWrites_committed (x : Exchange) (version : Version) (s : Status) (headers : HeaderMap) :
    (committed x version s headers).failWrites = x.failWrites := by
  unfold committed
  dsimp only
  split <;> rfl

theorem wire_committed {x : Exchange} (hw : x.failWrites = false) (version : Version) (s : Status)
    (headers : HeaderMap) :
    (committed x version s headers).wire = x.wire ++ HeaderBlock.render version s headers := by
  simp [committed, hw, Exchange.writeHeader]

/-- The sink after a commit. -/
def afterCommit (k : Sink) (s : Status) (refused : Bool) : Sink :=
  { k with
    status := some s
    headers := withContentType k.defaultContentType k.headers
    failed := k.failed || refused }

@[simp]
theorem handle_afterCommit (k : Sink) (s : Status) (refused : Bool) :
    (k.afterCommit s refused).handle = k.handle := rfl

/-- A commit reports whether the block was refused. -/
theorem commit_of_get? (hc : c.Unplanned) (hx : c.exchanges.get? k.handle = some x) (s : Status) :
    ∃ d, k.commit s c =
        (if x.failWrites then .error (.writeFailed (-1)) else .ok (),
          k.afterCommit s x.failWrites, d) ∧
      d.exchanges.get? k.handle =
        some (committed x k.version s (withContentType k.defaultContentType k.headers)) ∧
      Frame k.handle c d := by
  -- The status and the headers are announced first: that cannot be refused.
  have hdx := get?_announce (Core.get?_update_self hx fun x => { x with status := some s.code })
    (withContentType k.defaultContentType k.headers).size
  have hcd : Frame k.handle c _ :=
    (Core.frame_update c k.handle fun x => { x with status := some s.code }).trans
      (frame_announce k.handle (withContentType k.defaultContentType k.headers).size _)
  have hwrite := Core.writeHeaderBlock_of_get? (hc.frame hcd) hdx
    (HeaderBlock.render k.version s (withContentType k.defaultContentType k.headers))
  by_cases hfail : x.failWrites
  · refine ⟨_, ?_, ?_, hcd⟩
    · rw [commit]
      simp only [Core.setStatus, hwrite]
      simp [hfail, afterCommit]
    · simpa [committed, hfail] using hdx
  · refine ⟨_, ?_, ?_, hcd.trans (Core.frame_update _ k.handle fun x =>
      x.writeHeader
        (HeaderBlock.render k.version s (withContentType k.defaultContentType k.headers)))⟩
    · rw [commit]
      simp only [Core.setStatus, hwrite]
      simp [hfail, afterCommit]
    · rw [Core.get?_update_self hdx]
      simp [committed, hfail]

theorem writeHeader_of_open (hs : k.status = none) (hf : k.failed = false) (s : Status) :
    k.writeHeader s c = k.commit s c := by
  rw [writeHeader, hf, hs]
  rfl

/-- After a commit, a status is ignored. -/
theorem writeHeader_of_committed (hs : k.status.isSome) (hf : k.failed = false) (s : Status) :
    k.writeHeader s c = (.ok (), k, c) := by
  rw [writeHeader, hf, hs]
  rfl

theorem writeHeader_of_failed (hf : k.failed = true) (s : Status) :
    k.writeHeader s c = (.error .responseAborted, k, c) := by
  rw [writeHeader, hf]
  rfl

/-! ### Writing -/

/-- The exchange after octets were sent: none at all are not even written. -/
def extended (x : Exchange) (b : Bytes) : Exchange :=
  if b = [] then x else x.writeBody b

@[simp]
theorem wire_extended (x : Exchange) (b : Bytes) : (extended x b).wire = x.wire ++ b := by
  unfold extended
  split
  · next hb => simp [hb]
  · rfl

@[simp]
theorem failWrites_extended (x : Exchange) (b : Bytes) :
    (extended x b).failWrites = x.failWrites := by
  unfold extended
  split <;> rfl

@[simp]
theorem headerWrites_extended (x : Exchange) (b : Bytes) :
    (extended x b).headerWrites = x.headerWrites := by
  unfold extended
  split <;> rfl

/-- After a commit, octets are the next ones on the wire. -/
theorem send_of_get? (hc : c.Unplanned) (hx : c.exchanges.get? k.handle = some x)
    (hf : k.failed = false) (hw : x.failWrites = false) (b : Bytes) :
    ∃ d, k.send b c = (.ok b.length, k, d) ∧
      d.exchanges.get? k.handle = some (extended x b) ∧ Frame k.handle c d := by
  by_cases hb : b = []
  · refine ⟨c, ?_, ?_, Frame.refl k.handle c⟩
    · simp [send, hf, hb]
    · simpa [extended, hb] using hx
  · refine ⟨c.update k.handle fun x => x.writeBody b, ?_, ?_, Core.frame_update c k.handle _⟩
    · simp [send, hf, hb, Core.writeBodyChunk_of_get? hc hx, hw]
    · rw [Core.get?_update_self hx]
      simp [extended, hb]

/-- After a commit, no octets can be refused, and all others are if writes are refused. -/
theorem send_of_refused (hc : c.Unplanned) (hx : c.exchanges.get? k.handle = some x)
    (hf : k.failed = false) (hw : x.failWrites = true) (b : Bytes) :
    k.send b c =
      if b = [] then (.ok 0, k, c) else (.error (.writeFailed (-1)), { k with failed := true }, c) := by
  by_cases hb : b = []
  · simp [send, hf, hb]
  · simp [send, hf, hb, Core.writeBodyChunk_of_get? hc hx, hw]

theorem writeBody_of_committed (hs : k.status.isSome) (b : Bytes) :
    k.writeBody b c = k.send b c := by
  rw [writeBody, if_pos hs]

theorem writeBody_of_failed (hs : k.status.isSome) (hf : k.failed = true) (b : Bytes) :
    k.writeBody b c = (.error .responseAborted, k, c) := by
  rw [writeBody_of_committed hs, send, hf]
  rfl

/-- Before a commit, octets commit status 200 first: either the block and they are on the wire, or
the block was refused and they are not tried. -/
theorem writeBody_of_open (hc : c.Unplanned) (hx : c.exchanges.get? k.handle = some x)
    (hs : k.status = none) (hf : k.failed = false) (b : Bytes) :
    ∃ d, k.writeBody b c =
        (if x.failWrites then .error (.writeFailed (-1)) else .ok b.length,
          k.afterCommit Status.ok x.failWrites, d) ∧
      d.exchanges.get? k.handle =
        (let y := committed x k.version Status.ok (withContentType k.defaultContentType k.headers)
        some (if x.failWrites then y else extended y b)) ∧
      Frame k.handle c d := by
  obtain ⟨d, hcommit, hdx, hcd⟩ := commit_of_get? hc hx Status.ok
  rw [writeBody, hs, writeHeader_of_open hs hf, hcommit]
  by_cases hw : x.failWrites
  · exact ⟨d, by simp [hw], by simpa [hw] using hdx, hcd⟩
  · have hd : d.Unplanned := hc.frame hcd
    have hfw : (committed x k.version Status.ok
        (withContentType k.defaultContentType k.headers)).failWrites = false := by
      rw [failWrites_committed]
      simpa using hw
    have hfd : (k.afterCommit Status.ok x.failWrites).failed = false := by
      simp [afterCommit, hf, hw]
    obtain ⟨e, hsend, hex, hde⟩ :=
      send_of_get? (k := k.afterCommit Status.ok x.failWrites) hd hdx hfd hfw b
    refine ⟨e, ?_, ?_, hcd.trans hde⟩
    · simpa [hw] using hsend
    · simpa [hw] using hex

end Gateway.Sink
