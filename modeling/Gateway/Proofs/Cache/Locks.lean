import Gateway.Proofs.Service.Run

/-!
# The lock of the cache

What a run records of the cache is one block for each service of the cache that was carried out, in
order: the lock that the service needs, its call, the unlock (`blocks_of_run`). So the lock, followed
through all that is recorded (`CacheLock.after?`), is free before and after every service, whatever
code asked for the service and however that code ended. A service whose key the cache does not take
leaves no trace.
-/

namespace Gateway

/-! ### Following the lock -/

/-- How the lock of the cache is held. -/
inductive CacheLock where
  | reading
  | writing

namespace CacheLock

/-- How the lock is held after a call, if the call may be made: a lock is only taken while it is free
and only given back while it is held, and the cache is read and written under the lock for it. -/
def next? : Option CacheLock → Event → Option (Option CacheLock)
  | none, .readLock => some (some reading)
  | none, .writeLock => some (some writing)
  | some reading, .cacheGet | some reading, .cacheExists => some (some reading)
  | some writing, .cacheDelete | some writing, .cacheSet .. => some (some writing)
  | some _, .unlock => some none
  | held, e => if e.isCacheCall then none else some held

/-- How the lock is held after all of some calls, if each of them may be made. -/
def after? (held : Option CacheLock) : List Event → Option (Option CacheLock)
  | [] => some held
  | e :: calls => (next? held e).bind fun held => after? held calls

/-- Other calls do not touch the lock. -/
theorem next?_of_not_isCacheCall (held : Option CacheLock) {e : Event} (he : e.isCacheCall = false) :
    next? held e = some held := by
  cases e with
  | readLock | writeLock | unlock | cacheGet | cacheExists | cacheDelete | cacheSet => cases he
  | _ => rcases held with _ | _ | _ <;> rfl

theorem after?_filter (held : Option CacheLock) (calls : List Event) :
    after? held (calls.filter Event.isCacheCall) = after? held calls := by
  induction calls generalizing held with
  | nil => rfl
  | cons e calls ih =>
    by_cases he : e.isCacheCall = true
    · rw [List.filter_cons_of_pos he, after?, after?]
      exact congrArg (Option.bind (next? held e)) (funext ih)
    · rw [List.filter_cons_of_neg he, after?,
        next?_of_not_isCacheCall held (Bool.not_eq_true _ ▸ he)]
      exact ih held

theorem after?_append (held : Option CacheLock) (calls more : List Event) :
    after? held (calls ++ more) = (after? held calls).bind fun held => after? held more := by
  induction calls generalizing held with
  | nil => rfl
  | cons e calls ih =>
    rw [List.cons_append, after?, after?, Option.bind_assoc]
    exact congrArg (Option.bind (next? held e)) (funext ih)

end CacheLock

/-! ### Blocks -/

/-- The calls on the cache that a service made. -/
def Performed.block (e : Performed) : List Event :=
  e.host.cacheBlock e.service

/-- A block takes the lock and gives it back. -/
theorem CacheLock.after?_block (e : Performed) : after? none e.block = some none := by
  obtain ⟨s, h⟩ := e
  show after? none (h.cacheBlock s) = some none
  cases hs : s.cacheCall? with
  | none =>
    rw [Host.cacheBlock, hs]
    rfl
  | some locked =>
    obtain ⟨key, lock, call⟩ := locked
    rw [Host.cacheBlock_of_call hs]
    split
    · cases s <;> cases hs <;> rfl
    · rfl

theorem CacheLock.after?_blocks (log : List Performed) :
    after? none (log.flatMap Performed.block) = some none := by
  induction log with
  | nil => rfl
  | cons e log ih =>
    rw [List.flatMap_cons, after?_append, after?_block]
    exact ih

namespace Host

variable {h h' : Host} {start : List Event} {log : List Performed}

/-- Whether a host has recorded, after `start` and as far as the cache goes, the blocks of a log and
nothing else, with the lock free before and after. -/
def RecordsBlocks (start : List Event) (log : List Performed) (h : Host) : Prop :=
  ∃ calls, h.core.events = start ++ calls ∧
    calls.filter Event.isCacheCall = log.flatMap Performed.block ∧
    CacheLock.after? none calls = some none

theorem recordsBlocks_of_events {calls : List Event} (hevents : h.core.events = start ++ calls)
    (hblocks : calls.filter Event.isCacheCall = log.flatMap Performed.block) :
    h.RecordsBlocks start log := by
  refine ⟨calls, hevents, hblocks, ?_⟩
  rw [← CacheLock.after?_filter, hblocks, CacheLock.after?_blocks]

theorem RecordsBlocks.aside (hlog : h.RecordsBlocks start log) (hh' : Aside h h') :
    h'.RecordsBlocks start log := by
  obtain ⟨calls, hevents, hblocks, -⟩ := hlog
  obtain ⟨loops, hloops⟩ := hh'.events_eq
  have hquiet : (loops.map Event.coreLoop).filter Event.isCacheCall = [] := by
    rw [List.filter_eq_nil_iff]
    intro e he
    obtain ⟨id, -, rfl⟩ := List.mem_map.mp he
    exact Bool.false_ne_true
  have hevents' : h'.core.events = start ++ (calls ++ loops.map Event.coreLoop) := by
    rw [hloops, hevents, List.append_assoc]
  refine recordsBlocks_of_events hevents' ?_
  rw [List.filter_append, hblocks, hquiet, List.append_nil]

theorem RecordsBlocks.serve {e : Performed} (hlog : e.host.RecordsBlocks start log)
    (hc : e.host.core.Unplanned) : e.after.RecordsBlocks start (log ++ [e]) := by
  obtain ⟨calls, hevents, hblocks, -⟩ := hlog
  obtain ⟨more, hmore, hblock⟩ := events_serve hc e.service
  have hevents' : e.after.core.events = start ++ (calls ++ more) := by
    rw [Performed.after, hmore, hevents, List.append_assoc]
  refine recordsBlocks_of_events hevents' ?_
  rw [List.filter_append, hblocks, hblock, List.flatMap_append, List.flatMap_singleton]
  rfl

theorem recordsBlocks_nil (h : Host) : h.RecordsBlocks h.core.events [] :=
  recordsBlocks_of_events (List.append_nil _).symm rfl

theorem recordsBlocks_of_performs (hc : h.core.Unplanned) (hlog : Performs h log h') :
    h'.RecordsBlocks h.core.events log :=
  hlog.preserves (P := fun log h' => h'.RecordsBlocks h.core.events log) hc
    (fun haside hdone => hdone.aside haside) (fun hplan hdone => hdone.serve hplan)
    (recordsBlocks_nil h)

end Host

/-! ### Runs -/

namespace BridgeStep

variable {b : Bridge}

/-- What a run records of the cache is the blocks of its services, in order, at every service and at
the end. Each service adds its own block, and nothing changes at all where its key is refused. -/
theorem blocks_of_run (hc : b.core.Unplanned) {steps : List BridgeStep}
    (hsteps : ∀ s ∈ steps, s.IsPlain) :
    let log := performedAll steps b
    (runAll steps b).host.RecordsBlocks b.core.events log ∧
      ∀ before e after, log = before ++ e :: after →
        e.host.RecordsBlocks b.core.events before ∧
          e.after.RecordsBlocks e.host.core.events [e] ∧
          ∀ key lock call, e.service.cacheCall? = some (key, lock, call) → ¬e.host.Takes key →
            e.after = e.host := by
  intro log
  have hrun : Performs b.host log (runAll steps b).host := performs_runAll hsteps hc
  refine ⟨Host.recordsBlocks_of_performs hc hrun, ?_⟩
  intro before e after hlog
  rw [hlog] at hrun
  have hbefore := hrun.upTo
  have hplan : e.host.core.Unplanned := hbefore.unplanned hc
  refine ⟨Host.recordsBlocks_of_performs hc hbefore, ?_, ?_⟩
  · exact (Host.recordsBlocks_nil e.host).serve hplan
  · intro key lock call hcall hkey
    exact Host.serve_of_not_takes hcall hkey

/-- A handler that panics under a request, a value that may not be stored, and a call while the cache
is off. -/
theorem blocks_of_panicked_handler :
    let app : Application :=
      { serve := fun _ =>
          .call (.host (.service (.cacheGet "key"))) fun _ => .panic (.text "handler exploded") }
    let b : Bridge :=
      { app := app, settings := {}, defaultContentType := [], host := { core := {} } }
    let steps : List BridgeStep :=
      [.service (.cacheSet "key" [1] 60 Service.updateFlags), .core (.enableCache false),
        .service (.cacheGet "key"), .core (.enableCache true),
        .request [(Utf8.ofString "REQUEST_METHOD", Utf8.ofString "GET")] [], .service (.signal 3),
        .service (.cacheDelete "key")]
    (runAll steps b).core.events.filter Event.isCacheCall =
      [.writeLock, .cacheSet 2 60, .unlock, .readLock, .cacheGet, .unlock,
        .writeLock, .cacheDelete, .unlock] := by
  intro app b steps
  have hsteps : ∀ s ∈ steps, s.IsPlain := by
    simp [steps, IsPlain, CoreStep.IsPlain]
  obtain ⟨⟨calls, hevents, hblocks, -⟩, -⟩ := blocks_of_run (b := b) (fun _ => rfl) hsteps
  have hnone : b.core.events = [] := rfl
  rw [Bridge.core, hevents, hnone, List.nil_append, hblocks]
  decide +kernel

end BridgeStep

end Gateway
