import Gateway.Body
import Gateway.Proofs.Core.Exchanges

/-!
# Reads of a body

The chunks of a body wait in the queue of its request. `Reads` gives the rules of one read, and
these say all that a read does (`reads_iff`). So reads of any sizes lose, repeat and reorder nothing,
whatever is pushed between them: what was read and what is still queued is what was pushed
(`run_conserves`).
-/

namespace Gateway

namespace Core

variable {c : Core} {h : Handle} {x : Exchange} {q : List Bytes}

/-! ### Queues -/

/-- The chunks of a request's body that wait to be read. -/
def queue (c : Core) (h : Handle) : List Bytes := (c.exchange h).input

/-- The core with other chunks in the queue of a request. -/
def setQueue (c : Core) (h : Handle) (q : List Bytes) : Core :=
  c.update h fun x => { x with input := q }

/-- Every read of a request fails: the request is not known, or its reads were made to fail. -/
def ReadsFail (c : Core) (h : Handle) : Prop :=
  ∀ x, c.exchanges.get? h = some x → x.failReads = true

theorem not_readsFail_iff :
    ¬c.ReadsFail h ↔ ∃ x, c.exchanges.get? h = some x ∧ x.failReads = false := by
  simp only [ReadsFail, Classical.not_forall, Bool.not_eq_true, exists_prop]

theorem queue_of_get? (hx : c.exchanges.get? h = some x) : c.queue h = x.input := by
  rw [queue, exchange_of_get? hx]

/-- A change of a known request that shows only in its queue. -/
theorem update_eq_setQueue (hx : c.exchanges.get? h = some x) {f : Exchange → Exchange}
    (hf : f x = { x with input := q }) : c.update h f = c.setQueue h q := by
  have hsame : c.exchanges.modify h f = c.exchanges.modify h fun y => { y with input := q } := by
    refine Table.modify_congr fun y hy => ?_
    rw [← Option.some.inj (hx.symm.trans hy), hf]
  rw [update, hsame]
  rfl

theorem queue_setQueue (hreads : ¬c.ReadsFail h) (q : List Bytes) :
    (c.setQueue h q).queue h = q := by
  obtain ⟨x, hx, -⟩ := not_readsFail_iff.mp hreads
  exact queue_of_get? (get?_update_self hx _)

theorem setQueue_queue (c : Core) (h : Handle) : c.setQueue h (c.queue h) = c := by
  have hsame : c.exchanges.modify h (fun x => { x with input := c.queue h }) =
      c.exchanges.modify h fun x => x := by
    refine Table.modify_congr fun x hx => ?_
    rw [queue_of_get? hx]
  rw [setQueue, update, hsame, Table.modify_id]

theorem setQueue_setQueue (c : Core) (h : Handle) (q q' : List Bytes) :
    (c.setQueue h q).setQueue h q' = c.setQueue h q' := by
  rw [setQueue, setQueue, update, update, Table.modify_modify]
  rfl

theorem readsFail_setQueue_iff : (c.setQueue h q).ReadsFail h ↔ c.ReadsFail h := by
  rw [ReadsFail, ReadsFail, setQueue, get?_update, if_pos rfl]
  simp only [Option.map_eq_some_iff]
  constructor
  · intro hfail x hx
    exact hfail { x with input := q } ⟨x, hx, rfl⟩
  · rintro hfail _ ⟨x, hx, rfl⟩
    exact hfail x hx

theorem Unplanned.setQueue (hc : c.Unplanned) : (c.setQueue h q).Unplanned :=
  hc.frame (frame_update c h _)

end Core

namespace Body

variable {c d : Core} {h : Handle} {n : Nat} {r : Except StreamError Bytes}

/-! ### One read -/

/-- What a read of `n` octets gives, and the core after it. -/
inductive Reads (h : Handle) (c : Core) : Nat → Except StreamError Bytes → Core → Prop where
  /-- Whoever asks for nothing gets it. -/
  | nothing : Reads h c 0 (.ok []) c
  | failed {n : Nat} (hn : 0 < n) (hfail : c.ReadsFail h) : Reads h c n (.error .bodyEnded) c
  /-- Nothing is queued. -/
  | ended {n : Nat} (hn : 0 < n) (hreads : ¬c.ReadsFail h) (hqueue : c.queue h = []) :
      Reads h c n (.ok []) c
  /-- As much as possible is taken from the first chunk, and what is left of it stays in front. -/
  | taken {n : Nat} {got left : Bytes} {rest : List Bytes} (hn : 0 < n) (hreads : ¬c.ReadsFail h)
      (hqueue : c.queue h = (got ++ left) :: rest)
      (hlength : got.length = min (got ++ left).length n) :
      Reads h c n (.ok got) (c.setQueue h (if left = [] then rest else left :: rest))

theorem readChunk_of_readsFail (hc : c.Unplanned) (hfail : c.ReadsFail h) :
    c.readChunk h n = (.error (-1), c) := by
  rw [Core.readChunk, hc .readChunk]
  show Core.readQueued h n c = _
  rw [Core.readQueued]
  cases hx : c.exchanges.get? h with
  | none => rfl
  | some x =>
    show (if x.failReads then _ else _) = _
    rw [hfail x hx]
    rfl

theorem readChunk_of_get? (hc : c.Unplanned) {x : Exchange} (hx : c.exchanges.get? h = some x)
    (hr : x.failReads = false) :
    c.readChunk h n = (.ok (x.read n).1, c.update h fun y => (y.read n).2) := by
  rw [Core.readChunk, hc .readChunk]
  show Core.readQueued h n c = _
  rw [Core.readQueued, hx]
  show (if x.failReads then _ else _) = _
  rw [hr]
  rfl

/-- What the rules say is what is read. -/
theorem Reads.read_eq (hc : c.Unplanned) (hr : Reads h c n r d) :
    read n (.queued h) c = (r, .queued h, d) := by
  cases hr with
  | nothing => rfl
  | failed hn hfail =>
    rw [read]
    show (if n = 0 then _ else _) = _
    rw [if_neg (Nat.ne_of_gt hn), readChunk_of_readsFail hc hfail]
  | ended hn hreads hqueue =>
    obtain ⟨x, hx, hr⟩ := Core.not_readsFail_iff.mp hreads
    have hinput : x.input = [] := by rw [← Core.queue_of_get? hx, hqueue]
    have hread : x.read n = ([], { x with input := c.queue h }) := by
      rw [Exchange.read, hinput, Core.queue_of_get? hx]
    rw [read]
    show (if n = 0 then _ else _) = _
    rw [if_neg (Nat.ne_of_gt hn), readChunk_of_get? hc hx hr,
      Core.update_eq_setQueue hx (congrArg Prod.snd hread), hread, Core.setQueue_queue]
  | @taken _ got left rest hn hreads hqueue hlength =>
    obtain ⟨x, hx, hr⟩ := Core.not_readsFail_iff.mp hreads
    have hinput : x.input = (got ++ left) :: rest := by rw [← Core.queue_of_get? hx, hqueue]
    -- the chunk is cut where the rule cuts it: at the length asked for, or behind its end
    have hcut : (got ++ left).take n = got ∧ (got ++ left).drop n = left := by
      rw [List.length_append] at hlength
      rcases Nat.le_total n got.length with hle | hle
      · obtain rfl : n = got.length := by omega
        exact ⟨List.take_left, List.drop_left⟩
      · by_cases heq : n = got.length
        · subst heq
          exact ⟨List.take_left, List.drop_left⟩
        · have hleft : left = [] := List.eq_nil_of_length_eq_zero (by omega)
          subst hleft
          rw [List.append_nil]
          exact ⟨List.take_of_length_le hle, List.drop_of_length_le hle⟩
    have hread : x.read n = (got, { x with input := if left = [] then rest else left :: rest }) := by
      rw [Exchange.read, hinput]
      dsimp only
      rw [hcut.1, hcut.2]
      simp only [List.isEmpty_iff]
    rw [read]
    show (if n = 0 then _ else _) = _
    rw [if_neg (Nat.ne_of_gt hn), readChunk_of_get? hc hx hr,
      Core.update_eq_setQueue hx (congrArg Prod.snd hread), hread]

theorem reads_of_cons {chunk : Bytes} {rest : List Bytes} (hn : 0 < n) (hreads : ¬c.ReadsFail h)
    (hqueue : c.queue h = chunk :: rest) :
    Reads h c n (.ok (chunk.take n))
      (c.setQueue h (if chunk.drop n = [] then rest else chunk.drop n :: rest)) := by
  rw [← List.take_append_drop n chunk] at hqueue
  refine .taken hn hreads hqueue ?_
  rw [List.take_append_drop, List.length_take, Nat.min_comm]

/-- The rules cover every read. -/
theorem exists_reads (h : Handle) (c : Core) (n : Nat) : ∃ r d, Reads h c n r d := by
  rcases Nat.eq_zero_or_pos n with rfl | hn
  · exact ⟨_, _, .nothing⟩
  by_cases hfail : c.ReadsFail h
  · exact ⟨_, _, .failed hn hfail⟩
  cases hqueue : c.queue h with
  | nil => exact ⟨_, _, .ended hn hfail hqueue⟩
  | cons chunk rest => exact ⟨_, _, reads_of_cons hn hfail hqueue⟩

/-- A read does what the rules say and nothing else. -/
theorem reads_iff (hc : c.Unplanned) {b : Body} :
    read n (.queued h) c = (r, b, d) ↔ b = .queued h ∧ Reads h c n r d := by
  constructor
  · intro hread
    obtain ⟨r', d', hreads⟩ := exists_reads h c n
    have hsame := (hreads.read_eq hc).symm.trans hread
    cases hsame
    exact ⟨rfl, hreads⟩
  · rintro ⟨rfl, hreads⟩
    exact hreads.read_eq hc

theorem Reads.unplanned (hc : c.Unplanned) (hr : Reads h c n r d) : d.Unplanned := by
  cases hr with
  | nothing | failed | ended => exact hc
  | taken => exact hc.setQueue

/-- A read changes nothing about whether reads fail. -/
theorem Reads.readsFail_iff (hr : Reads h c n r d) : d.ReadsFail h ↔ c.ReadsFail h := by
  cases hr with
  | nothing | failed | ended => exact Iff.rfl
  | taken => exact Core.readsFail_setQueue_iff

/-- The octets that a read has given. -/
def gotten : Except StreamError Bytes → Bytes
  | .ok got => got
  | .error _ => []

/-- What a read gives stood at the front of the queue. -/
theorem Reads.conserves (hr : Reads h c n r d) :
    gotten r ++ (d.queue h).flatten = (c.queue h).flatten := by
  cases hr with
  | nothing | failed | ended => rfl
  | @taken _ got left rest hn hreads hqueue hlength =>
    rw [Core.queue_setQueue hreads, hqueue, List.flatten_cons, List.append_assoc]
    by_cases hleft : left = []
    · rw [if_pos hleft, hleft]
      rfl
    · rw [if_neg hleft]
      rfl

/-! ### Any accesses -/

/-- What happens to the body of a request. -/
inductive Access where
  | read (n : Nat)
  | push (chunk : Bytes)
  /-- From now on reads fail. -/
  | failReads

namespace Access

/-- The octets that an access gives, and the core after it. -/
def step (h : Handle) : Access → Core → Bytes × Core
  | read n, c => (gotten (Body.read n (.queued h) c).1, (Body.read n (.queued h) c).2.2)
  | push chunk, c => ([], c.pushBody h chunk)
  | failReads, c => ([], c.setFailReads h)

/-- The octets that accesses give one after the other, and the core after them. -/
def run (h : Handle) : List Access → Core → Bytes × Core
  | [], c => ([], c)
  | a :: as, c => ((a.step h c).1 ++ (run h as (a.step h c).2).1, (run h as (a.step h c).2).2)

/-- The octets that an access adds to the body. -/
def pushed : Access → Bytes
  | push chunk => chunk
  | _ => []

variable {a : Access} {as : List Access}

theorem unplanned_step (hc : c.Unplanned) (a : Access) : (a.step h c).2.Unplanned := by
  cases a with
  | read n =>
    obtain ⟨r, d, hreads⟩ := exists_reads h c n
    rw [step, hreads.read_eq hc]
    exact hreads.unplanned hc
  | push | failReads => exact hc

theorem queue_steer (c : Core) (h : Handle) (f : Exchange → Exchange) :
    (c.steer h f).queue h = (f (c.exchange h)).input := by
  rw [Core.queue_of_get?]
  show (c.exchanges.insert h (f (c.exchange h))).get? h = _
  rw [Table.get?_insert, if_pos rfl]

theorem step_conserves (hc : c.Unplanned) (a : Access) :
    (a.step h c).1 ++ ((a.step h c).2.queue h).flatten = (c.queue h).flatten ++ a.pushed := by
  cases a with
  | read n =>
    obtain ⟨r, d, hreads⟩ := exists_reads h c n
    rw [step, hreads.read_eq hc]
    exact hreads.conserves.trans (List.append_nil _).symm
  | push chunk =>
    show ((c.pushBody h chunk).queue h).flatten = _
    rw [Core.pushBody, queue_steer, List.flatten_append]
    exact congrArg (_ ++ ·) (List.append_nil chunk)
  | failReads =>
    show ((c.setFailReads h).queue h).flatten = _
    rw [Core.setFailReads, queue_steer]
    exact (List.append_nil _).symm

/-- A known request stays known, and its reads fail from when they are made to. -/
theorem readsFail_step_iff (hc : c.Unplanned) (hx : (c.exchanges.get? h).isSome) (a : Access) :
    ((a.step h c).2.exchanges.get? h).isSome ∧
      ((a.step h c).2.ReadsFail h ↔ c.ReadsFail h ∨ a = failReads) := by
  obtain ⟨x, hx⟩ := Option.isSome_iff_exists.mp hx
  cases a with
  | read n =>
    obtain ⟨r, d, hreads⟩ := exists_reads h c n
    rw [step, hreads.read_eq hc]
    refine ⟨?_, hreads.readsFail_iff.trans (by simp)⟩
    cases hreads with
    | nothing | failed | ended => rw [hx]; rfl
    | taken => rw [Core.setQueue, Core.get?_update_self hx]; rfl
  | push chunk =>
    have hget := Core.get?_steer_self hx fun x => { x with input := x.input ++ [chunk] }
    refine ⟨Option.isSome_iff_exists.mpr ⟨_, hget⟩, ?_⟩
    show (∀ y, (c.steer h _).exchanges.get? h = some y → _) ↔ (∀ y, _ → _) ∨ _
    simp [hget, hx]
  | failReads =>
    have hget := Core.get?_steer_self hx fun x => { x with failReads := true }
    refine ⟨Option.isSome_iff_exists.mpr ⟨_, hget⟩, iff_of_true ?_ (.inr rfl)⟩
    intro y hy
    rw [← Option.some.inj (hget.symm.trans hy)]

theorem unplanned_run (hc : c.Unplanned) (as : List Access) : (run h as c).2.Unplanned := by
  induction as generalizing c with
  | nil => exact hc
  | cons a as ih => exact ih (unplanned_step hc a)

theorem readsFail_run_iff (hc : c.Unplanned) (hx : (c.exchanges.get? h).isSome)
    (as : List Access) : (run h as c).2.ReadsFail h ↔ c.ReadsFail h ∨ failReads ∈ as := by
  induction as generalizing c with
  | nil => exact (or_iff_left List.not_mem_nil).symm
  | cons a as ih =>
    obtain ⟨hknown, hfail⟩ := readsFail_step_iff hc hx a
    rw [run, ih (unplanned_step hc a) hknown, hfail, List.mem_cons, or_assoc, eq_comm]

/-- What was read and what is queued in the end is what was queued in the beginning and what was
pushed. -/
theorem run_conserves (hc : c.Unplanned) (as : List Access) :
    (run h as c).1 ++ ((run h as c).2.queue h).flatten =
      (c.queue h).flatten ++ as.flatMap pushed := by
  induction as generalizing c with
  | nil => exact (List.append_nil _).symm
  | cons a as ih =>
    rw [run, List.append_assoc, ih (unplanned_step hc a), ← List.append_assoc, step_conserves hc,
      List.flatMap_cons, List.append_assoc]

end Access

end Body

end Gateway
