import Gateway.Proofs.Body.Reads

/-!
# Reading a body to its end

`Drains` reads on until a read gives nothing or fails, without a bound on the number of reads, and
`drainWith` does the same with one (`drains_iff`): a read that is not the last makes the queue
shorter. What is read is what stands before the first empty chunk, however large the reads are
(`drains_queue`).
-/

namespace Gateway.Body

open Gateway.Core (Unplanned)

variable {size : Nat → Nat} {i : Nat} {c d : Core} {h : Handle} {out : Option StreamError × Bytes}

/-! ### Queues that end -/

/-- The chunks before the first empty one. -/
def untilEmpty (q : List Bytes) : List Bytes := q.takeWhile fun chunk => !chunk.isEmpty

/-- The chunks behind the first empty one. -/
def afterEmpty (q : List Bytes) : List Bytes := (q.dropWhile fun chunk => !chunk.isEmpty).tail

theorem untilEmpty_cons {chunk : Bytes} (hne : chunk ≠ []) (rest : List Bytes) :
    untilEmpty (chunk :: rest) = chunk :: untilEmpty rest := by
  rw [untilEmpty, List.takeWhile_cons, List.isEmpty_eq_false_iff.mpr hne]
  rfl

theorem afterEmpty_cons {chunk : Bytes} (hne : chunk ≠ []) (rest : List Bytes) :
    afterEmpty (chunk :: rest) = afterEmpty rest := by
  rw [afterEmpty, List.dropWhile_cons, List.isEmpty_eq_false_iff.mpr hne]
  rfl

/-- What is left of a queue when at most `n` octets were taken from its first chunk. -/
def cut (n : Nat) (chunk : Bytes) (rest : List Bytes) : List Bytes :=
  if chunk.drop n = [] then rest else chunk.drop n :: rest

section Cut

variable {n : Nat} {chunk : Bytes} {rest : List Bytes}

/-- Taking the front off a chunk takes it off what can be read. -/
theorem flatten_untilEmpty_cut (hne : chunk ≠ []) :
    (untilEmpty (chunk :: rest)).flatten = chunk.take n ++ (untilEmpty (cut n chunk rest)).flatten := by
  have hsplit := List.take_append_drop n chunk
  rw [untilEmpty_cons hne, List.flatten_cons, cut]
  by_cases hleft : chunk.drop n = []
  · rw [hleft, List.append_nil] at hsplit
    rw [if_pos hleft, hsplit]
  · rw [if_neg hleft, untilEmpty_cons hleft, List.flatten_cons, ← List.append_assoc, hsplit]

theorem afterEmpty_cut (hne : chunk ≠ []) :
    afterEmpty (chunk :: rest) = afterEmpty (cut n chunk rest) := by
  rw [afterEmpty_cons hne, cut]
  by_cases hleft : chunk.drop n = []
  · rw [if_pos hleft]
  · rw [if_neg hleft, afterEmpty_cons hleft]

end Cut

theorem untilEmpty_of_nil_notMem {q : List Bytes} (hq : [] ∉ q) :
    untilEmpty q = q ∧ afterEmpty q = [] := by
  induction q with
  | nil => exact ⟨rfl, rfl⟩
  | cons chunk rest ih =>
    have hne : chunk ≠ [] := fun h => hq (h ▸ List.mem_cons_self)
    obtain ⟨huntil, hafter⟩ := ih fun h => hq (List.mem_cons_of_mem _ h)
    exact ⟨by rw [untilEmpty_cons hne, huntil], by rw [afterEmpty_cons hne, hafter]⟩

/-! ### Reading on -/

/-- Reads go on until one gives nothing or fails, where the `i`-th read asks for `size i` octets:
what they give together, the error if there was one, and the core in the end. -/
inductive Drains (h : Handle) (size : Nat → Nat) :
    Nat → Core → Option StreamError × Bytes → Core → Prop where
  | ended {i : Nat} {c d : Core} (hread : Reads h c (size i) (.ok []) d) :
      Drains h size i c (none, []) d
  | failed {i : Nat} {c d : Core} {e : StreamError} (hread : Reads h c (size i) (.error e) d) :
      Drains h size i c (some e, []) d
  | more {i : Nat} {c c' d : Core} {got more : Bytes} {e : Option StreamError}
      (hread : Reads h c (size i) (.ok got) c') (hgot : got ≠ [])
      (hrest : Drains h size (i + 1) c' (e, more) d) : Drains h size i c (e, got ++ more) d

theorem remaining_queued (h : Handle) (c : Core) :
    (queued h).remaining c = (c.queue h).flatten.length := by
  show (c.queue h).foldr (fun chunk n => chunk.length + n) 0 = _
  induction c.queue h with
  | nil => rfl
  | cons chunk rest ih => rw [List.foldr_cons, ih, List.flatten_cons, List.length_append]

/-- A bound on the number of reads is not reached when it exceeds the octets that are queued. -/
theorem Drains.drainFrom_eq (hc : c.Unplanned) (hd : Drains h size i c out d) {fuel : Nat}
    (hfuel : (queued h).remaining c < fuel) :
    drainFrom size fuel i (.queued h) c = (out, .queued h, d) := by
  induction hd generalizing fuel with
  | ended hread =>
    obtain ⟨fuel, rfl⟩ := Nat.exists_eq_succ_of_ne_zero (Nat.ne_zero_of_lt hfuel)
    rw [drainFrom, hread.read_eq hc]
    rfl
  | failed hread =>
    obtain ⟨fuel, rfl⟩ := Nat.exists_eq_succ_of_ne_zero (Nat.ne_zero_of_lt hfuel)
    rw [drainFrom, hread.read_eq hc]
  | @more i c c' d got more e hread hgot hrest ih =>
    obtain ⟨fuel, rfl⟩ := Nat.exists_eq_succ_of_ne_zero (Nat.ne_zero_of_lt hfuel)
    have hpos : 0 < got.length := List.length_pos_iff.mpr hgot
    have hshorter : (queued h).remaining c' < fuel := by
      have hlength := congrArg List.length hread.conserves
      rw [List.length_append, ← remaining_queued, ← remaining_queued] at hlength
      have hgotten : (gotten (.ok got)).length = got.length := rfl
      omega
    rw [drainFrom, hread.read_eq hc]
    dsimp only
    rw [List.isEmpty_eq_false_iff.mpr hgot, ih (hread.unplanned hc) hshorter]
    rfl

/-- What can be read is what stands before the first empty chunk, which is used up. -/
theorem drains_queue (hsize : ∀ i, 0 < size i) (hreads : ¬c.ReadsFail h) (i : Nat) :
    Drains h size i c (none, (untilEmpty (c.queue h)).flatten)
      (c.setQueue h (afterEmpty (c.queue h))) := by
  -- a read that gives something leaves fewer octets in the queue
  induction hlength : (c.queue h).flatten.length using Nat.strongRecOn generalizing c i with
  | ind len ih =>
    cases hqueue : c.queue h with
    | nil =>
      have hsame : c.setQueue h (afterEmpty []) = c := by
        rw [← Core.setQueue_queue c h, hqueue, Core.setQueue_setQueue]
        rfl
      rw [hsame]
      exact .ended (.ended (hsize i) hreads hqueue)
    | cons chunk rest =>
      have hread := reads_of_cons (hsize i) hreads hqueue
      by_cases hchunk : chunk = []
      · have hend : Reads h c (size i) (.ok []) (c.setQueue h rest) := by
          simpa [hchunk] using hread
        rw [hchunk]
        exact .ended hend
      · have hgot : chunk.take (size i) ≠ [] := by
          rw [ne_eq, List.take_eq_nil_iff, not_or]
          exact ⟨Nat.ne_of_gt (hsize i), hchunk⟩
        have hfewer : (cut (size i) chunk rest).flatten.length < len := by
          have hwhole := congrArg List.length hread.conserves
          have hpos := List.length_pos_iff.mpr hgot
          rw [List.length_append, Core.queue_setQueue hreads] at hwhole
          rw [cut, ← hlength, ← hwhole]
          exact Nat.lt_add_of_pos_left hpos
        have hrest := ih _ hfewer (mt Core.readsFail_setQueue_iff.mp hreads) (i + 1)
          (congrArg (fun q => q.flatten.length) (Core.queue_setQueue hreads _))
        rw [Core.queue_setQueue hreads, Core.setQueue_setQueue] at hrest
        rw [flatten_untilEmpty_cut hchunk, afterEmpty_cut hchunk]
        exact .more hread hgot hrest

/-- A body that cannot be read fails at once, and nothing changes. -/
theorem drains_of_readsFail (hsize : ∀ i, 0 < size i) (hfail : c.ReadsFail h) (i : Nat) :
    Drains h size i c (some .bodyEnded, []) c :=
  .failed (.failed (hsize i) hfail)

theorem Drains.drainWith_eq (hc : c.Unplanned) (hd : Drains h size 0 c out d) :
    (queued h).drainWith size c = (out, .queued h, d) :=
  hd.drainFrom_eq hc (Nat.lt_succ_self _)

/-- Reading to the end with a bound on the number of reads is reading on without one. -/
theorem drains_iff (hsize : ∀ i, 0 < size i) (hc : c.Unplanned) {b : Body} :
    (queued h).drainWith size c = (out, b, d) ↔ b = .queued h ∧ Drains h size 0 c out d := by
  constructor
  · intro hdrain
    obtain ⟨out', d', hdrains⟩ : ∃ out' d', Drains h size 0 c out' d' := by
      by_cases hfail : c.ReadsFail h
      · exact ⟨_, _, drains_of_readsFail hsize hfail 0⟩
      · exact ⟨_, _, drains_queue hsize hfail 0⟩
    have hsame := (hdrains.drainWith_eq hc).symm.trans hdrain
    cases hsame
    exact ⟨rfl, hdrains⟩
  · rintro ⟨rfl, hdrains⟩
    exact hdrains.drainWith_eq hc

/-! ### The whole -/

/-- Whatever was read and pushed before, what was read and what is still queued is what was pushed;
each read follows the rules; and reading to the end, with reads of any sizes, comes to an end and
gives the chunks before the first empty one together. What is behind that one stays. -/
theorem body_conserved {c : Core} (hc : c.Unplanned) (h : Handle) (as : List Access) :
    let d := (Access.run h as c).2
    ((Access.run h as c).1 ++ (d.queue h).flatten =
      (c.queue h).flatten ++ as.flatMap Access.pushed) ∧
    ((c.exchanges.get? h).isSome → (d.ReadsFail h ↔ c.ReadsFail h ∨ .failReads ∈ as)) ∧
    (∀ n r b e, read n (.queued h) d = (r, b, e) ↔ b = .queued h ∧ Reads h d n r e) ∧
    ∀ size : Nat → Nat, (∀ i, 0 < size i) →
      (∀ out b e, (queued h).drainWith size d = (out, b, e) ↔
        b = .queued h ∧ Drains h size 0 d out e) ∧
      (d.ReadsFail h → (queued h).drainWith size d = ((some .bodyEnded, []), .queued h, d)) ∧
      (¬d.ReadsFail h → (queued h).drainWith size d =
        ((none, (untilEmpty (d.queue h)).flatten), .queued h,
          d.setQueue h (afterEmpty (d.queue h)))) ∧
      (¬d.ReadsFail h → [] ∉ d.queue h → (queued h).drainWith size d =
        ((none, (d.queue h).flatten), .queued h, d.setQueue h [])) := by
  intro d
  have hd : d.Unplanned := Access.unplanned_run hc as
  refine ⟨Access.run_conserves hc as, fun hx => Access.readsFail_run_iff hc hx as,
    fun n r b e => reads_iff hd, fun size hsize => ⟨fun out b e => drains_iff hsize hd, ?_, ?_, ?_⟩⟩
  · intro hfail
    exact (drains_of_readsFail hsize hfail 0).drainWith_eq hd
  · intro hreads
    exact (drains_queue hsize hreads 0).drainWith_eq hd
  · intro hreads hnonempty
    have hdrains := drains_queue hsize hreads 0
    obtain ⟨huntil, hafter⟩ := untilEmpty_of_nil_notMem hnonempty
    rw [huntil, hafter] at hdrains
    exact hdrains.drainWith_eq hd

/-- A chunk that is read in two parts, and an empty chunk that ends the body before the next one. -/
theorem body_of_split_chunk :
    let h : Handle := (default : Core).openRequest.1
    let c : Core := (default : Core).openRequest.2
    let as : List Access := [.push [1, 2, 3], .read 0, .read 2, .push [], .push [4]]
    let d := (Access.run h as c).2
    c.Unplanned ∧ (Access.run h as c).1 ++ (d.queue h).flatten = [1, 2, 3, 4] ∧
      d.queue h = [[3], [], [4]] ∧
      (queued h).drainWith (fun _ => 5) d = ((none, [3]), .queued h, d.setQueue h [[4]]) := by
  intro h c as d
  have hc : c.Unplanned := fun _ => rfl
  obtain ⟨hconserved, hfail, -, hdrain⟩ := body_conserved hc h as
  have hqueue : d.queue h = [[3], [], [4]] := by decide
  have hreads : ¬d.ReadsFail h := by
    rw [hfail rfl, not_or]
    refine ⟨?_, by simp [as]⟩
    intro hall
    exact absurd (hall {} rfl) (by decide)
  refine ⟨hc, hconserved, hqueue, ?_⟩
  have hwhole := (hdrain (fun _ => 5) fun _ => by decide).2.2.1 hreads
  rwa [hqueue] at hwhole

end Gateway.Body
