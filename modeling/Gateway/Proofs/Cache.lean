import Gateway.Proofs.Core.Exchanges
import Gateway.Proofs.Text.Utf8
import Gateway.Service
import Mathlib.Logic.Function.Basic

/-!
# The cache as a service

What the services of the cache do where nothing is planned. A key that the cache takes is looked up,
gets a value or loses it, and the call is recorded between a lock and an unlock; nothing else in the
host changes. A key that it does not take, because the cache is off or the key too long, changes
nothing at all.
-/

namespace Gateway

namespace Core

variable {c : Core} {key : Bytes}

/-- A core with other values in the cache and one more call recorded. -/
def recordCache (c : Core) (e : Event) (cache : Table Bytes Bytes) : Core :=
  { c.record e with cache := cache }

theorem onlyExisting_replaceFlags : onlyExisting Service.replaceFlags = false := rfl

/-- A value is stored where there is one already, or where there need not be one. -/
theorem cacheSet_of_stored (hc : c.Unplanned) (value : Bytes) (expires : Nat) {flags : Nat}
    (hstored : onlyExisting flags = false ∨ (c.cache.get? key).isSome = true) :
    cacheSet key value expires flags c =
      (0, c.recordCache (.cacheSet flags expires) (c.cache.insert key value)) := by
  have hgoes : ¬ (onlyExisting flags && !(c.record (.cacheSet flags expires)).cache.contains key) =
      true := by
    show ¬ (onlyExisting flags && !c.cache.contains key) = true
    rw [Table.contains_eq_isSome]
    rcases hstored with h | h <;> simp [h]
  rw [cacheSet, asPlanned_of_unplanned hc]
  exact if_neg hgoes

theorem cacheSet_of_missing (hc : c.Unplanned) (value : Bytes) (expires : Nat) {flags : Nat}
    (hflags : onlyExisting flags = true) (hvalue : c.cache.get? key = none) :
    cacheSet key value expires flags c =
      (-1, c.recordCache (.cacheSet flags expires) c.cache) := by
  have hstops : (onlyExisting flags && !(c.record (.cacheSet flags expires)).cache.contains key) =
      true := by
    show (onlyExisting flags && !c.cache.contains key) = true
    rw [Table.contains_eq_isSome, hvalue, hflags]
    rfl
  rw [cacheSet, asPlanned_of_unplanned hc]
  exact if_pos hstops

theorem cacheDelete_of_mapped (hc : c.Unplanned) {value : Bytes}
    (hvalue : c.cache.get? key = some value) :
    cacheDelete key c = (0, c.recordCache .cacheDelete (c.cache.erase key)) := by
  have hcontains : (c.record .cacheDelete).cache.contains key = true := by
    show c.cache.contains key = true
    rw [Table.contains_eq_isSome, hvalue]
    rfl
  rw [cacheDelete, asPlanned_of_unplanned hc]
  exact if_pos hcontains

theorem cacheDelete_of_missing (hc : c.Unplanned) (hvalue : c.cache.get? key = none) :
    cacheDelete key c = (-1, c.recordCache .cacheDelete c.cache) := by
  have hcontains : ¬ (c.record .cacheDelete).cache.contains key = true := by
    show ¬ c.cache.contains key = true
    rw [Table.contains_eq_isSome, hvalue]
    exact Bool.false_ne_true
  rw [cacheDelete, asPlanned_of_unplanned hc]
  exact if_neg hcontains

/-! ### Keys as texts -/

/-- A cache in which one key got another value holds the map with this value. -/
theorem get?_ofString_update {cache cache' : Table Bytes Bytes} {values : String → Option Bytes}
    (hvalues : ∀ key, cache.get? (Utf8.ofString key) = values key) {key : String}
    {value : Option Bytes}
    (hcache : ∀ b, cache'.get? b = if b = Utf8.ofString key then value else cache.get? b)
    (key' : String) :
    cache'.get? (Utf8.ofString key') = Function.update values key value key' := by
  rw [hcache]
  -- other keys have other octets
  by_cases hkey : key' = key
  · rw [hkey, if_pos rfl, Function.update_self]
  · have hne : Utf8.ofString key' ≠ Utf8.ofString key :=
      fun h => hkey (Utf8.ofString_injective h)
    rw [if_neg hne, hvalues, Function.update_of_ne hkey]

end Core

namespace Host

variable {h : Host} {key : String}

/-- The host with other values in the cache and more calls recorded. -/
def withCache (h : Host) (cache : Table Bytes Bytes) (calls : List Event) : Host :=
  { h with core := { h.core with cache := cache, events := h.core.events ++ calls } }

/-- A call under a lock stands between the lock and the unlock. -/
theorem locked_of_eq {α : Type} {lock e : Event} {act : Core → α × Core} {x : α}
    {cache : Table Bytes Bytes} {c : Core}
    (hact : act (c.record lock) = (x, (c.record lock).recordCache e cache)) :
    locked lock act c =
      (x, { c with cache := cache, events := c.events ++ [lock, e, .unlock] }) := by
  rw [locked, hact]
  simp [Core.recordCache, Core.record]

/-! ### Keys that the cache takes -/

theorem cacheKey?_of_short (hon : h.core.cacheEnabled = true)
    (hkey : (Utf8.ofString key).length ≤ maxKey) : h.cacheKey? key = some (Utf8.ofString key) := by
  rw [cacheKey?, if_pos hon, if_neg (Nat.not_lt.mpr hkey)]

theorem serve_cacheGet (hon : h.core.cacheEnabled = true)
    (hkey : (Utf8.ofString key).length ≤ maxKey) :
    h.serve (.cacheGet key) =
      (h.core.cache.get? (Utf8.ofString key),
        h.withCache h.core.cache [.readLock, .cacheGet, .unlock]) := by
  -- looking a value up leaves the cache as it is
  have hact : Core.cacheGet (Utf8.ofString key) (h.core.record .readLock) =
      (h.core.cache.get? (Utf8.ofString key),
        (h.core.record .readLock).recordCache .cacheGet h.core.cache) := rfl
  show h.cacheGet key = _
  rw [cacheGet, cacheKey?_of_short hon hkey]
  dsimp only
  rw [locked_of_eq hact]
  rfl

theorem serve_cacheExists (hon : h.core.cacheEnabled = true)
    (hkey : (Utf8.ofString key).length ≤ maxKey) :
    h.serve (.cacheExists key) =
      ((h.core.cache.get? (Utf8.ofString key)).isSome,
        h.withCache h.core.cache [.readLock, .cacheExists, .unlock]) := by
  have hact : Core.cacheExists (Utf8.ofString key) (h.core.record .readLock) =
      (h.core.cache.contains (Utf8.ofString key),
        (h.core.record .readLock).recordCache .cacheExists h.core.cache) := rfl
  show h.cacheExists key = _
  rw [cacheExists, cacheKey?_of_short hon hkey]
  dsimp only
  rw [locked_of_eq hact, Table.contains_eq_isSome]
  rfl

theorem serve_cacheSet_of_stored (hc : h.core.Unplanned) (hon : h.core.cacheEnabled = true)
    (hkey : (Utf8.ofString key).length ≤ maxKey) (value : Bytes) (ttl : Nat) {flags : Nat}
    (hstored : Core.onlyExisting flags = false ∨
      (h.core.cache.get? (Utf8.ofString key)).isSome = true) :
    h.serve (.cacheSet key value ttl flags) =
      (true, h.withCache (h.core.cache.insert (Utf8.ofString key) value)
        [.writeLock, .cacheSet flags ttl, .unlock]) := by
  have hrecord : (h.core.record .writeLock).Unplanned := hc
  show h.cacheSet key value ttl flags = _
  rw [cacheSet, cacheKey?_of_short hon hkey]
  dsimp only
  rw [locked_of_eq (Core.cacheSet_of_stored hrecord value ttl hstored)]
  rfl

theorem serve_cacheSet_of_missing (hc : h.core.Unplanned) (hon : h.core.cacheEnabled = true)
    (hkey : (Utf8.ofString key).length ≤ maxKey) (value : Bytes) (ttl : Nat) {flags : Nat}
    (hflags : Core.onlyExisting flags = true)
    (hvalue : h.core.cache.get? (Utf8.ofString key) = none) :
    h.serve (.cacheSet key value ttl flags) =
      (false, h.withCache h.core.cache [.writeLock, .cacheSet flags ttl, .unlock]) := by
  have hrecord : (h.core.record .writeLock).Unplanned := hc
  show h.cacheSet key value ttl flags = _
  rw [cacheSet, cacheKey?_of_short hon hkey]
  dsimp only
  rw [locked_of_eq (Core.cacheSet_of_missing hrecord value ttl hflags hvalue)]
  rfl

theorem serve_cacheDelete_of_mapped (hc : h.core.Unplanned) (hon : h.core.cacheEnabled = true)
    (hkey : (Utf8.ofString key).length ≤ maxKey) {value : Bytes}
    (hvalue : h.core.cache.get? (Utf8.ofString key) = some value) :
    h.serve (.cacheDelete key) =
      (true, h.withCache (h.core.cache.erase (Utf8.ofString key))
        [.writeLock, .cacheDelete, .unlock]) := by
  have hrecord : (h.core.record .writeLock).Unplanned := hc
  show h.cacheDelete key = _
  rw [cacheDelete, cacheKey?_of_short hon hkey]
  dsimp only
  rw [locked_of_eq (Core.cacheDelete_of_mapped hrecord hvalue)]
  rfl

theorem serve_cacheDelete_of_missing (hc : h.core.Unplanned) (hon : h.core.cacheEnabled = true)
    (hkey : (Utf8.ofString key).length ≤ maxKey)
    (hvalue : h.core.cache.get? (Utf8.ofString key) = none) :
    h.serve (.cacheDelete key) =
      (false, h.withCache h.core.cache [.writeLock, .cacheDelete, .unlock]) := by
  have hrecord : (h.core.record .writeLock).Unplanned := hc
  show h.cacheDelete key = _
  rw [cacheDelete, cacheKey?_of_short hon hkey]
  dsimp only
  rw [locked_of_eq (Core.cacheDelete_of_missing hrecord hvalue)]
  rfl

/-! ### Keys that it does not take -/

theorem cacheKey?_of_refused
    (hkey : ¬ (h.core.cacheEnabled = true ∧ (Utf8.ofString key).length ≤ maxKey)) :
    h.cacheKey? key = none := by
  rw [cacheKey?]
  by_cases hon : h.core.cacheEnabled = true
  · have hlong : maxKey < (Utf8.ofString key).length :=
      Nat.lt_of_not_le fun hshort => hkey ⟨hon, hshort⟩
    rw [if_pos hon, if_pos hlong]
  · rw [if_neg hon]

/-- No service of the cache does anything with a key that the cache does not take. -/
theorem serve_of_refused (hkey : h.cacheKey? key = none) :
    h.serve (.cacheGet key) = (none, h) ∧ h.serve (.cacheExists key) = (false, h) ∧
      h.serve (.cacheDelete key) = (false, h) ∧
      ∀ value ttl flags, h.serve (.cacheSet key value ttl flags) = (false, h) := by
  refine ⟨?_, ?_, ?_, fun value ttl flags => ?_⟩
  · show h.cacheGet key = _
    rw [cacheGet, hkey]
  · show h.cacheExists key = _
    rw [cacheExists, hkey]
  · show h.cacheDelete key = _
    rw [cacheDelete, hkey]
  · show h.cacheSet key value ttl flags = _
    rw [cacheSet, hkey]

end Host

end Gateway
