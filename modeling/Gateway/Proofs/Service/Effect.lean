import Gateway.Proofs.Cache

/-!
# What a service changes

Where nothing is planned, a service leaves a host as it is up to the cache and the calls that the
core records (`serve_eq_withCache`). Only the registration of a signal does more: it fills a slot and
tells the core who receives the signal, both or neither (`registerSignal_cases`). The calls on the
cache that a service makes are those of `cacheBlock`: a call between a lock and an unlock where the
cache takes the key, and none otherwise.
-/

namespace Gateway

/-- Whether a call is one on the cache or on its lock. -/
def Event.isCacheCall : Event → Bool
  | .readLock | .writeLock | .unlock | .cacheGet | .cacheExists | .cacheDelete | .cacheSet .. => true
  | _ => false

/-- Whether a call is one that a registration makes: it asks for the modifier, or registers. -/
def Event.isRegistrationCall : Event → Bool
  | .modifierLookup _ | .registerSignal .. => true
  | _ => false

namespace Service

/-- The key that a service of the cache is about, the lock that the service needs and the call that
it makes. -/
def cacheCall? : Service → Option (String × Event × Event)
  | .cacheGet key => some (key, .readLock, .cacheGet)
  | .cacheExists key => some (key, .readLock, .cacheExists)
  | .cacheDelete key => some (key, .writeLock, .cacheDelete)
  | .cacheSet key _ ttl flags => some (key, .writeLock, .cacheSet flags ttl)
  | _ => none

theorem isSome_modifierOf? (answer : Int) :
    (modifierOf? answer).isSome = true ↔ 0 ≤ answer ∧ answer ≤ 255 := by
  unfold modifierOf?
  split
  · next h => exact iff_of_true rfl h
  · next h => exact iff_of_false Bool.false_ne_true h

end Service

namespace Host

variable {h : Host}

/-! ### The cache -/

/-- Whether a call with a key is carried out: the cache is on and the key at most 65535 octets
long. -/
def Takes (h : Host) (key : String) : Prop :=
  h.core.cacheEnabled = true ∧ (Utf8.ofString key).length ≤ 65535

instance (h : Host) (key : String) : Decidable (h.Takes key) :=
  inferInstanceAs (Decidable (_ ∧ _))

/-- The calls on the cache that a service makes. -/
def cacheBlock (h : Host) (s : Service) : List Event :=
  match s.cacheCall? with
  | none => []
  | some (key, lock, call) => if h.Takes key then [lock, call, .unlock] else []

theorem cacheBlock_of_call {s : Service} {key : String} {lock call : Event}
    (hs : s.cacheCall? = some (key, lock, call)) :
    h.cacheBlock s = if h.Takes key then [lock, call, .unlock] else [] := by
  rw [cacheBlock, hs]

/-- A service of the cache that takes its key records a call between a lock and an unlock. -/
theorem serve_of_takes (hc : h.core.Unplanned) {s : Service} {key : String} {lock call : Event}
    (hs : s.cacheCall? = some (key, lock, call)) (hkey : h.Takes key) :
    ∃ cache, (h.serve s).2 = h.withCache cache [lock, call, .unlock] := by
  obtain ⟨hon, hshort⟩ := hkey
  cases s with
  | cacheGet k =>
    cases hs
    exact ⟨_, congrArg Prod.snd (serve_cacheGet hon hshort)⟩
  | cacheExists k =>
    cases hs
    exact ⟨_, congrArg Prod.snd (serve_cacheExists hon hshort)⟩
  | cacheDelete k =>
    cases hs
    cases hvalue : h.core.cache.get? (Utf8.ofString key) with
    | none => exact ⟨_, congrArg Prod.snd (serve_cacheDelete_of_missing hc hon hshort hvalue)⟩
    | some value => exact ⟨_, congrArg Prod.snd (serve_cacheDelete_of_mapped hc hon hshort hvalue)⟩
  | cacheSet k value ttl flags =>
    cases hs
    by_cases hstored : Core.onlyExisting flags = false ∨
        (h.core.cache.get? (Utf8.ofString key)).isSome = true
    · exact ⟨_, congrArg Prod.snd (serve_cacheSet_of_stored hc hon hshort value ttl hstored)⟩
    · obtain ⟨hflags, hvalue⟩ := not_or.mp hstored
      rw [Bool.not_eq_false] at hflags
      rw [Option.not_isSome_iff_eq_none] at hvalue
      exact ⟨_, congrArg Prod.snd (serve_cacheSet_of_missing hc hon hshort value ttl hflags hvalue)⟩
  | _ => cases hs

/-- A service of the cache that does not take its key does nothing. -/
theorem serve_of_not_takes {s : Service} {key : String} {lock call : Event}
    (hs : s.cacheCall? = some (key, lock, call)) (hkey : ¬h.Takes key) : (h.serve s).2 = h := by
  obtain ⟨hget, hexists, hdelete, hset⟩ := serve_of_refused (cacheKey?_of_refused hkey)
  cases s with
  | cacheGet k =>
    cases hs
    exact congrArg Prod.snd hget
  | cacheExists k =>
    cases hs
    exact congrArg Prod.snd hexists
  | cacheDelete k =>
    cases hs
    exact congrArg Prod.snd hdelete
  | cacheSet k value ttl flags =>
    cases hs
    exact congrArg Prod.snd (hset value ttl flags)
  | _ => cases hs

/-! ### Signals -/

/-- The modifier that the host knows or, if it knows none, is answered. -/
def modifier? (h : Host) : Option UInt8 :=
  h.modifier.or (Service.modifierOf? h.core.modifier)

theorem isSome_modifier? (h : Host) :
    h.modifier?.isSome = true ↔
      h.modifier.isSome = true ∨ (0 ≤ h.core.modifier ∧ h.core.modifier ≤ 255) := by
  rw [modifier?, Option.isSome_or, Bool.or_eq_true, Service.isSome_modifierOf?]

/-- The host once it knows the modifier if it can, with more calls recorded. -/
def knowing (h : Host) (calls : List Event) : Host :=
  { h with modifier := h.modifier?, core := { h.core with events := h.core.events ++ calls } }

/-- The modifier is looked up only where it is not known. -/
theorem resolveModifier_eq (h : Host) :
    h.resolveModifier = (h.modifier?,
      h.knowing (if h.modifier.isSome then [] else [.modifierLookup h.plugin])) := by
  obtain ⟨core, signals, modifier, plugin, installed, journal⟩ := h
  cases modifier with
  | none => rfl
  | some m => simp [resolveModifier, modifier?, knowing]

/-- The calls that a registration makes: it asks for the modifier where it is not known, and registers
where it is known then. -/
def registrationCalls (h : Host) (signum : UInt8) (owner : String) : List Event :=
  (if h.modifier.isSome then [] else [.modifierLookup h.plugin]) ++
    h.modifier?.toList.map fun m => .registerSignal signum owner m

/-- None of them is a call on the cache, and there are no others. -/
theorem filter_registrationCalls (h : Host) (signum : UInt8) (owner : String) :
    (h.registrationCalls signum owner).filter Event.isCacheCall = [] ∧
      (h.registrationCalls signum owner).filter Event.isRegistrationCall =
        h.registrationCalls signum owner := by
  rw [registrationCalls]
  cases h.modifier.isSome <;> cases h.modifier? <;> exact ⟨rfl, rfl⟩

/-- A registration fills the slot and tells the core, if the modifier is known and the core does not
refuse; otherwise it does neither. -/
theorem registerSignal_cases (hc : h.core.Unplanned) (signum : UInt8) (owner : String)
    (callback : Callback) :
    (¬(h.modifier?.isSome = true ∧ h.core.failRegistrations = false) ∧
        h.registerSignal signum owner callback =
          (false, h.knowing (h.registrationCalls signum owner))) ∨
      ((h.modifier?.isSome = true ∧ h.core.failRegistrations = false) ∧
        h.registerSignal signum owner callback =
          (true, { h.knowing (h.registrationCalls signum owner) with
            core := { (h.knowing (h.registrationCalls signum owner)).core with
              registered := h.core.registered.insert signum owner }
            signals := h.signals.set signum callback })) := by
  have hresolve := h.resolveModifier_eq
  rw [registrationCalls]
  generalize (if h.modifier.isSome then [] else [Event.modifierLookup h.plugin]) = lookups at hresolve ⊢
  cases hm : h.modifier? with
  | none =>
    refine .inl ⟨fun hknown => Bool.false_ne_true hknown.1, ?_⟩
    rw [registerSignal, hresolve, hm]
    simp
  | some m =>
    have hc' : (h.knowing lookups).core.Unplanned := hc
    rw [registerSignal, hresolve, hm]
    dsimp only
    rw [Core.registerSignal, Core.asPlanned_of_unplanned hc']
    cases hf : h.core.failRegistrations with
    | true =>
      refine .inl ⟨fun hdone => Bool.false_ne_true hdone.2.symm, ?_⟩
      simp [knowing, Core.record, hf]
    | false =>
      refine .inr ⟨⟨rfl, rfl⟩, ?_⟩
      simp [knowing, Core.record, hf]

/-! ### All services -/

theorem withCache_nil (h : Host) : h.withCache h.core.cache [] = h := by
  rw [withCache, List.append_nil]

/-- Every other service changes at most the cache, and records its calls. -/
theorem serve_eq_withCache (hc : h.core.Unplanned) {s : Service}
    (hs : ∀ signum owner callback, s ≠ .registerSignal signum owner callback) :
    ∃ cache calls, (h.serve s).2 = h.withCache cache calls ∧
      calls.filter Event.isCacheCall = h.cacheBlock s ∧
      calls.filter Event.isRegistrationCall = [] := by
  cases hcall : s.cacheCall? with
  | some locked =>
    obtain ⟨key, lock, call⟩ := locked
    rw [cacheBlock_of_call hcall]
    by_cases hkey : h.Takes key
    · obtain ⟨cache, hserve⟩ := serve_of_takes hc hcall hkey
      refine ⟨cache, _, hserve, ?_⟩
      rw [if_pos hkey]
      cases s <;> cases hcall <;> exact ⟨rfl, rfl⟩
    · rw [if_neg hkey, serve_of_not_takes hcall hkey]
      exact ⟨h.core.cache, [], (withCache_nil h).symm, rfl, rfl⟩
  | none =>
    have hblock : h.cacheBlock s = [] := by rw [cacheBlock, hcall]
    rw [hblock]
    cases s with
    | signal n => exact ⟨_, [.signal n], rfl, rfl, rfl⟩
    | lock slot => exact ⟨_, [.userLock slot], rfl, rfl, rfl⟩
    | unlock slot => exact ⟨_, [.userUnlock slot], rfl, rfl, rfl⟩
    | addTimer n seconds recurring =>
      refine ⟨h.core.cache, [.timer n seconds recurring], ?_, rfl, rfl⟩
      show (h.addTimer n seconds recurring).2 = _
      cases recurring with
      | false => simp [addTimer, Core.addTimer, Core.asPlanned_of_unplanned hc, withCache, Core.record]
      | true =>
        simp [addTimer, Core.addRecurringTimer, Core.asPlanned_of_unplanned hc, withCache, Core.record]
    | isSignalRegistered n | workerId | helperProcessId | logSize =>
      exact ⟨_, [], (withCache_nil h).symm, rfl, rfl⟩
    | registerSignal n owner callback => exact (hs n owner callback rfl).elim
    | _ => cases hcall

/-- A service registers a signal, or changes at most the cache and records its calls. -/
theorem serve_cases (hc : h.core.Unplanned) (s : Service) :
    (∃ signum owner callback, s = .registerSignal signum owner callback) ∨
      (∀ signum owner callback, s ≠ .registerSignal signum owner callback) ∧
        ∃ cache calls, (h.serve s).2 = h.withCache cache calls ∧
          calls.filter Event.isCacheCall = h.cacheBlock s ∧
          calls.filter Event.isRegistrationCall = [] := by
  by_cases hs : ∃ signum owner callback, s = .registerSignal signum owner callback
  · exact .inl hs
  · have hother : ∀ signum owner callback, s ≠ .registerSignal signum owner callback :=
      fun signum owner callback heq => hs ⟨signum, owner, callback, heq⟩
    exact .inr ⟨hother, serve_eq_withCache hc hother⟩

/-- A service records its block, and other calls than those on the cache. -/
theorem events_serve (hc : h.core.Unplanned) (s : Service) :
    ∃ calls, (h.serve s).2.core.events = h.core.events ++ calls ∧
      calls.filter Event.isCacheCall = h.cacheBlock s := by
  rcases serve_cases hc s with
    ⟨signum, owner, callback, rfl⟩ | ⟨-, cache, calls, hserve, hcalls, -⟩
  · have hcalls := (filter_registrationCalls h signum owner).1
    rcases registerSignal_cases hc signum owner callback with ⟨-, hserve⟩ | ⟨-, hserve⟩
    all_goals
      refine ⟨h.registrationCalls signum owner, ?_, hcalls⟩
      rw [serve, hserve]
      rfl
  · refine ⟨calls, ?_, hcalls⟩
    rw [hserve]
    rfl

/-- No service plans anything. -/
theorem unplanned_serve (hc : h.core.Unplanned) (s : Service) : (h.serve s).2.core.Unplanned := by
  rcases serve_cases hc s with ⟨signum, owner, callback, rfl⟩ | ⟨-, cache, calls, hserve, -⟩
  · rcases registerSignal_cases hc signum owner callback with ⟨-, hserve⟩ | ⟨-, hserve⟩
    all_goals
      rw [serve, hserve]
      exact hc
  · rw [hserve]
    exact hc

end Host

end Gateway
