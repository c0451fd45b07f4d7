import Gateway.Proofs.Response.Step

/-!
# What a response puts on the wire

Whatever happens to a response, its wire holds one header block at most, and after it exactly the
octets whose writes succeeded (`wire_runAll`). Status and headers of the block are those of the first
step that commits, found by `head?`; the content type is completed then, and nothing that is done to
status or headers afterwards shows.

The proof follows a response through its three states. While nothing is committed, steps only
prepare the head (`runAll_open`). Once the head is out, the wire grows by what is accepted
(`runAll_live`). Once writes are refused, nothing is accepted and the wire stays (`runAll_lost`).
-/

namespace Gateway.ResponseStep

/-! ### The head of a response -/

/-- What the first step that commits finds. -/
structure Head where
  status : Status
  headers : HeaderMap
  /-- Whether writes are refused by then. -/
  lost : Bool

/-- The head that steps commit, where `headers` stand at first and `lost` says whether writes are
refused at first. -/
def head? (headers : HeaderMap) (lost : Bool) : List ResponseStep → Option Head
  | [] => none
  | s :: steps =>
    match s.commits? with
    | some status => some ⟨status, headers, lost⟩
    | none => head? (s.edits headers) (lost || s.cuts) steps

/-- The octets of the body whose writes succeeded, in order. -/
def accepted (log : List (ResponseStep × Answer)) : Bytes :=
  log.flatMap fun e => if e.2.succeeded then e.1.offered else []

/-- `h'` is `h` with a content type: an old one that is not empty stays, a missing one is added at
the end, and an empty one is replaced in its place together with the values after it. -/
structure Completes (contentType : HeaderValue) (h h' : HeaderMap) : Prop where
  /-- A content type stays. -/
  named : ∀ v, h.get? HeaderName.contentType = some v → v ≠ [] → h' = h
  /-- A missing one is added. -/
  missing : h.get? HeaderName.contentType = none →
    h'.table.entries = h.table.entries ++ [(HeaderName.contentType, ⟨contentType, []⟩)]
  /-- An empty one is replaced. -/
  empty : h.get? HeaderName.contentType = some [] →
    h'.table.entries = h.table.entries.map fun e =>
      if e.1 = HeaderName.contentType then (e.1, ⟨contentType, []⟩) else e

theorem completes_withContentType (contentType : HeaderValue) (h : HeaderMap) :
    Completes contentType h (Sink.withContentType contentType h) := by
  -- a missing content type and an empty one have the same put in their place
  have hinsert : (h.get? HeaderName.contentType).getD [] = [] →
      Sink.withContentType contentType h = h.insert HeaderName.contentType contentType :=
    fun hv => if_pos hv
  constructor
  · intro v hv hne
    rw [Sink.withContentType, hv]
    exact if_neg hne
  · intro hv
    rw [hinsert (congrArg (Option.getD · []) hv)]
    exact Table.entries_insert_of_get?_eq_none (Option.map_eq_none_iff.mp hv) _
  · intro hv
    have hpresent : h.table.contains HeaderName.contentType = true := by
      obtain ⟨vs, hvs, -⟩ := Option.map_eq_some_iff.mp hv
      rw [Table.contains_eq_isSome, hvs]
      rfl
    rw [hinsert (congrArg (Option.getD · []) hv)]
    exact Table.entries_insert_of_contains hpresent _

/-! ### Runs of lost responses -/

variable {t : Turn Sink} {k : Sink} {x : Exchange}

theorem accepted_cons (s : ResponseStep) (a : Answer) (log : List (ResponseStep × Answer)) :
    accepted ((s, a) :: log) = (if a.succeeded then s.offered else []) ++ accepted log := rfl

/-- A response that is lost accepts nothing, and its wire stays. -/
theorem runAll_lost (ht : At t k x) (hl : Lost k x) (steps : List ResponseStep) :
    accepted (runAll steps t).1 = [] ∧
    ∃ k' x', At (runAll steps t).2 k' x' ∧ k'.handle = k.handle ∧
      k'.status.isSome ∧ x'.wire = x.wire ∧ x'.headerWrites = x.headerWrites := by
  induction steps generalizing t k x with
  | nil => exact ⟨rfl, k, x, ht, rfl, hl.1, rfl, rfl⟩
  | cons s steps ih =>
    obtain ⟨hrefused, k₁, x₁, hat, hl₁, hk₁, hwire₁, hcount₁⟩ := ht.lost hl s
    obtain ⟨hnone, k₂, x₂, hat₂, hk₂, hs₂, hwire₂, hcount₂⟩ := ih hat hl₁
    refine ⟨?_, k₂, x₂, hat₂, hk₂.trans hk₁, hs₂, hwire₂.trans hwire₁, hcount₂.trans hcount₁⟩
    rw [runAll, accepted_cons, hnone, List.append_nil]
    rcases hrefused with h | h
    · rw [h]
      exact ite_self []
    · rw [h]
      rfl

/-! ### Runs of live responses -/

/-- Once the head is out, the wire grows by what is accepted. -/
theorem runAll_live (ht : At t k x) (hl : Live k) (steps : List ResponseStep) :
    ∃ k' x', At (runAll steps t).2 k' x' ∧ k'.handle = k.handle ∧
      k'.status.isSome ∧ x'.wire = x.wire ++ accepted (runAll steps t).1 ∧
      x'.headerWrites = x.headerWrites := by
  induction steps generalizing t k x with
  | nil => exact ⟨k, x, ht, rfl, hl.1, (List.append_nil x.wire).symm, rfl⟩
  | cons s steps ih =>
    cases hw : x.failWrites with
    | true =>
      -- The connection is gone, even if the response has not noticed yet.
      obtain ⟨hnone, k', x', hat, hk, hs, hwire, hcount⟩ :=
        runAll_lost ht ⟨hl.1, Or.inr hw⟩ (s :: steps)
      refine ⟨k', x', hat, hk, hs, ?_, hcount⟩
      rw [hnone, List.append_nil, hwire]
    | false =>
      obtain ⟨hok, k₁, x₁, hat, hl₁, hk₁, hwire₁, hcount₁, -⟩ := ht.live hl hw s
      obtain ⟨k₂, x₂, hat₂, hk₂, hs₂, hwire₂, hcount₂⟩ := ih hat hl₁
      refine ⟨k₂, x₂, hat₂, hk₂.trans hk₁, hs₂, ?_, hcount₂.trans hcount₁⟩
      rw [runAll, accepted_cons, hok, hwire₂, hwire₁, List.append_assoc]
      rfl

/-! ### Runs of open responses -/

/-- What is on the wire after the head `a` was committed and the steps of `log` were answered. -/
def sent (version : Version) (contentType : HeaderValue) (a : Option Head)
    (log : List (ResponseStep × Answer)) : Bytes :=
  match a with
  | none => []
  | some a =>
    if a.lost then []
    else HeaderBlock.render version a.status (Sink.withContentType contentType a.headers) ++
      accepted log

theorem render_ne_nil (version : Version) (s : Status) (h : HeaderMap) :
    HeaderBlock.render version s h ≠ [] := by
  intro hnil
  have hend : HeaderBlock.lineEnd = [] := (List.append_eq_nil_iff.mp hnil).2
  cases hend

/-- Nothing is on the wire exactly when there is no head, or it was refused. -/
theorem sent_eq_nil_iff (version : Version) (contentType : HeaderValue) (a : Option Head)
    (log : List (ResponseStep × Answer)) :
    sent version contentType a log = [] ↔ ∀ b, a = some b → b.lost = true := by
  cases a with
  | none => exact ⟨fun _ b hb => (nomatch hb), fun _ => rfl⟩
  | some b =>
    cases hb : b.lost with
    | true =>
      simp only [sent, hb]
      exact ⟨fun _ c hc => Option.some.inj hc ▸ hb, fun _ => rfl⟩
    | false =>
      have hne : sent version contentType (some b) log ≠ [] := by
        simp only [sent, hb]
        intro hnil
        exact render_ne_nil _ _ _ (List.append_eq_nil_iff.mp hnil).1
      refine ⟨fun hnil => absurd hnil hne, fun h => ?_⟩
      rw [h b rfl] at hb
      cases hb

theorem offered_of_commits?_eq_none {s : ResponseStep} (hs : s.commits? = none) :
    s.offered = [] := by
  cases s with
  | write b => cases hs
  | stream b => cases hs
  | edit f => rfl
  | commit s => rfl
  | flush => rfl
  | disconnect => rfl

/-- The first step that commits, and all that comes after it. -/
theorem runAll_commits (ht : At t k x) (hopen : k.status = none) (hf : k.failed = false)
    (s : ResponseStep) {status : Status} (hs : s.commits? = some status)
    (steps : List ResponseStep) :
    ∃ k' x', At (runAll (s :: steps) t).2 k' x' ∧ k'.handle = k.handle ∧
      k'.status.isSome ∧
      x'.wire = x.wire ++ sent k.version k.defaultContentType
        (some ⟨status, k.headers, x.failWrites⟩) (runAll (s :: steps) t).1 ∧
      x'.headerWrites = x.headerWrites + (if x.failWrites then 0 else 1) ∧
      (x.failWrites = true → accepted (runAll (s :: steps) t).1 = []) := by
  obtain ⟨hanswer, hat⟩ := ht.commits hopen hf s hs
  rw [runAll]
  simp only [accepted_cons, sent]
  rw [hanswer]
  cases hw : x.failWrites with
  | true =>
    rw [hw] at hat
    have hlost : Lost (k.afterCommit status true)
        (Sink.committed x k.version status
          (Sink.withContentType k.defaultContentType k.headers)) :=
      ⟨rfl, Or.inl (by rw [Sink.afterCommit, hf]; rfl)⟩
    obtain ⟨hnone, k', x', hat', hk, hs', hwire, hcount⟩ := runAll_lost hat hlost steps
    refine ⟨k', x', hat', hk, hs', ?_, ?_, ?_⟩
    · rw [hwire, Sink.committed, hw]
      exact (List.append_nil x.wire).symm
    · rw [hcount, Sink.committed, hw]
      rfl
    · intro _
      rw [hnone]
      rfl
  | false =>
    rw [hw] at hat
    have hlive : Live (k.afterCommit status false) :=
      ⟨rfl, by rw [Sink.afterCommit, hf]; rfl⟩
    obtain ⟨k', x', hat', hk, hs', hwire, hcount⟩ := runAll_live hat hlive steps
    refine ⟨k', x', hat', hk, hs', ?_, ?_, ?_⟩
    · rw [hwire]
      simp only [Bool.false_eq_true, ↓reduceIte, Sink.wire_extended, Bool.not_false]
      rw [Sink.committed, hw]
      simp [Exchange.writeHeader, List.append_assoc]
    · rw [hcount]
      simp only [Bool.false_eq_true, ↓reduceIte, Sink.headerWrites_extended]
      rw [Sink.committed, hw]
      rfl
    · intro h
      cases h

/-- From an open response on, the wire grows by the head, unless there is none or it was refused, and
by what is accepted. -/
theorem runAll_open (ht : At t k x) (hopen : k.status = none) (hf : k.failed = false)
    (steps : List ResponseStep) :
    let log := (runAll steps t).1
    let a := head? k.headers x.failWrites steps
    let wire := sent k.version k.defaultContentType a log
    ∃ k' x', At (runAll steps t).2 k' x' ∧ k'.handle = k.handle ∧
      k'.status.isSome = a.isSome ∧ x'.wire = x.wire ++ wire ∧
      x'.headerWrites = x.headerWrites + (if wire = [] then 0 else 1) ∧
      (wire = [] → accepted log = []) := by
  induction steps generalizing t k x with
  | nil =>
    refine ⟨k, x, ht, rfl, by rw [hopen]; rfl, (List.append_nil x.wire).symm, rfl, fun _ => rfl⟩
  | cons s steps ih =>
    intro log a wire
    cases hs : s.commits? with
    | none =>
      -- The step only prepares the head.
      have hat := ht.quiet s hs
      obtain ⟨k', x', hat', hk, hs', hwire, hcount, hnil⟩ := ih hat hopen hf
      have ha : a = head? (s.edits k.headers) (x.failWrites || s.cuts) steps := by
        show head? k.headers x.failWrites (s :: steps) = _
        rw [head?, hs]
      have hlog : accepted log = accepted (runAll steps (s.run t).2).1 := by
        show accepted (runAll (s :: steps) t).1 = _
        rw [runAll, accepted_cons, offered_of_commits?_eq_none hs,
          ite_self]
        rfl
      have hsent : wire = sent k.version k.defaultContentType
          (head? (s.edits k.headers) (x.failWrites || s.cuts) steps)
          (runAll steps (s.run t).2).1 := by
        show sent k.version k.defaultContentType a log = _
        rw [ha]
        unfold sent
        rw [hlog]
      rw [hsent, ha, hlog]
      exact ⟨k', x', hat', hk, hs', hwire, hcount, hnil⟩
    | some status =>
      have ha : a = some ⟨status, k.headers, x.failWrites⟩ := by
        show head? k.headers x.failWrites (s :: steps) = _
        rw [head?, hs]
      have hiff : wire = [] ↔ x.failWrites = true := by
        show sent k.version k.defaultContentType a log = [] ↔ _
        rw [sent_eq_nil_iff, ha]
        exact ⟨fun h => h _ rfl, fun h b hb => Option.some.inj hb ▸ h⟩
      obtain ⟨k', x', hat', hk, hs', hwire, hcount, hnil⟩ :=
        runAll_commits ht hopen hf s hs steps
      refine ⟨k', x', hat', hk, by rw [ha, hs']; rfl, ?_, ?_, fun h => hnil (hiff.mp h)⟩
      · rw [hwire, ← ha]
      · rw [hcount]
        simp only [hiff]

/-- After a commit, changing the headers or writing a status touches nothing in the core. -/
theorem core_run_of_committed (ht : At t k x) (hs : k.status.isSome) (s : ResponseStep)
    (hstep : (∃ f, s = .edit f) ∨ (∃ status, s = .commit status)) :
    (s.run t).2.host.core = t.host.core := by
  rcases hstep with ⟨f, rfl⟩ | ⟨status, rfl⟩
  · rfl
  · rw [(run_commit status t).2]
    obtain ⟨rfl, -, -⟩ := ht
    cases hf : t.writer.failed with
    | true =>
      rw [Sink.writeHeader_of_failed hf]
      rfl
    | false =>
      rw [Sink.writeHeader_of_committed hs hf]
      rfl

/-! ### The wire -/

/-- **The shape of the wire.** A fresh sink over a request that the core knows, any steps: what they
add to the wire is nothing, as long as nothing is committed or when the block itself was refused;
otherwise it is the header block of the first status and of the headers that stood then, with a
content type, and after it the octets whose writes succeeded, in order. The block is written once.
After a commit, changing headers and writing a status touch nothing in the core. -/
theorem wire_runAll (t : Turn Sink) (h : Handle) (version : Version) (contentType : HeaderValue)
    (x : Exchange) (steps : List ResponseStep)
    (ht : At t { handle := h, version := version, defaultContentType := contentType } x) :
    let log := (runAll steps t).1
    let t' := (runAll steps t).2
    let a := head? HeaderMap.empty x.failWrites steps
    ∃ added : Bytes,
      (t'.host.core.exchange h).wire = x.wire ++ added ∧
      (added = [] ↔ ∀ b, a = some b → b.lost = true) ∧
      (added = [] → accepted log = []) ∧
      (∀ b, a = some b → b.lost = false → ∃ headers, Completes contentType b.headers headers ∧
        added = HeaderBlock.render version b.status headers ++ accepted log) ∧
      (t'.host.core.exchange h).headerWrites = x.headerWrites + (if added = [] then 0 else 1) ∧
      (a.isSome → ∀ s : ResponseStep, ((∃ f, s = .edit f) ∨ (∃ status, s = .commit status)) →
        (s.run t').2.host.core = t'.host.core) := by
  intro log t' a
  obtain ⟨k', x', hat, hk, hs, hwire, hcount, hnil⟩ := runAll_open ht rfl rfl steps
  have hx' : t'.host.core.exchange h = x' := by
    have hhandle : k'.handle = h := hk
    rw [← hhandle]
    exact hat.exchange_eq
  refine ⟨sent version contentType a log, ?_, sent_eq_nil_iff _ _ _ _, hnil, ?_, ?_, ?_⟩
  · rw [hx']
    exact hwire
  · intro b hb hlost
    refine ⟨_, completes_withContentType contentType b.headers, ?_⟩
    rw [hb, sent, hlost]
    rfl
  · rw [hx']
    exact hcount
  · intro hcommitted s hstep
    exact core_run_of_committed hat (hs.trans hcommitted) s hstep

/-- A handler that empties the content type, writes, names a status too late and then loses its
connection. -/
theorem wire_of_cut_response :
    let h : Handle := ⟨4096, by decide⟩
    let t : Turn Sink :=
      { writer := { handle := h, version := .http10, defaultContentType := [116] }
        body := .stored []
        host := { core := (Core.openRequest {}).2 } }
    let steps : List ResponseStep :=
      [.edit fun m => m.insert HeaderName.contentType [], .write [97], .commit Status.notFound,
        .disconnect, .stream [98]]
    At t { handle := h, version := .http10, defaultContentType := [116] } {} ∧
      ∃ headers : HeaderMap, headers.table.entries = [(HeaderName.contentType, ⟨[116], []⟩)] ∧
        ((runAll steps t).2.host.core.exchange h).wire =
          HeaderBlock.render .http10 Status.ok headers ++ [97] := by
  intro h t steps
  have ht : At t { handle := h, version := .http10, defaultContentType := [116] } {} :=
    ⟨rfl, fun _ => rfl, by decide⟩
  obtain ⟨added, hwire, -, -, hhead, -, -⟩ := wire_runAll t h .http10 [116] {} steps ht
  obtain ⟨headers, hcomplete, hadded⟩ := hhead _ rfl rfl
  have haccepted : accepted (runAll steps t).1 = [97] := by decide +kernel
  refine ⟨ht, headers, ?_, ?_⟩
  · rw [hcomplete.empty (by rfl)]
    rfl
  · rw [hwire, hadded, haccepted]
    exact List.nil_append _

end Gateway.ResponseStep
