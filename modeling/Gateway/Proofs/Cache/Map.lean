import Gateway.Proofs.Cache
import Gateway.Proofs.Environment.Pending
import Gateway.Session.BridgeStep
import Mathlib.Data.Finmap
import Mathlib.Data.Nat.Bitwise

/-!
# The cache is a finite map

Whatever is asked of the cache, and however often it is switched off and on in between, it answers
like a finite map from keys to values, and as many values are held as the map has keys
(`cache_refines_finite_map`). The map knows nothing of octets, locks or codes: `refer` says in its
own terms what a step answers and changes, and which calls are recorded.
-/

namespace Gateway

/-! ### Steps -/

/-- A step on the cache. -/
inductive CacheStep where
  | set (key : String) (value : Bytes) (ttl : Nat)
  /-- Stores a value only in the place of another one. -/
  | update (key : String) (value : Bytes) (ttl : Nat)
  | setFlags (key : String) (value : Bytes) (ttl flags : Nat)
  | get (key : String)
  | contains (key : String)
  | delete (key : String)
  /-- Switches the cache on or off. -/
  | enable (on : Bool)

namespace CacheStep

def toBridgeStep : CacheStep → BridgeStep
  | .set key value ttl => .service (.cacheSet key value ttl Service.replaceFlags)
  | .update key value ttl => .service (.cacheSet key value ttl Service.updateFlags)
  | .setFlags key value ttl flags => .service (.cacheSet key value ttl flags)
  | .get key => .service (.cacheGet key)
  | .contains key => .service (.cacheExists key)
  | .delete key => .service (.cacheDelete key)
  | .enable on => .core (.enableCache on)

def run (s : CacheStep) (b : Bridge) : Answer × Bridge :=
  s.toBridgeStep.run b

/-- Performs steps one after the other: their answers, and the bridge at the end. -/
def runAll : List CacheStep → Bridge → List Answer × Bridge
  | [], b => ([], b)
  | s :: steps, b => ((s.run b).1 :: (runAll steps (s.run b).2).1, (runAll steps (s.run b).2).2)

/-! ### The map -/

/-- A finite map from keys to values. -/
abbrev ValueMap := Finmap fun _ : String => Bytes

/-- What the cache should hold. -/
structure Reference where
  values : ValueMap
  enabled : Bool
  /-- The calls that were recorded. -/
  calls : List Event

namespace Reference

/-- Whether a call with a key is carried out: the cache is on and the key at most 65535 octets
long. -/
def Takes (r : Reference) (key : String) : Prop :=
  r.enabled = true ∧ (Utf8.ofString key).length ≤ 65535

instance (r : Reference) (key : String) : Decidable (r.Takes key) :=
  inferInstanceAs (Decidable (_ ∧ _))

/-- Other values, after a call between a lock and an unlock. -/
def after (r : Reference) (lock call : Event) (values : ValueMap) : Reference :=
  { r with values := values, calls := r.calls ++ [lock, call, .unlock] }

def get (r : Reference) (key : String) : Answer × Reference :=
  if r.Takes key then
    (Answer.ofOption .bytes (r.values.lookup key), r.after .readLock .cacheGet r.values)
  else (.nothing, r)

def contains (r : Reference) (key : String) : Answer × Reference :=
  if r.Takes key then
    (.flag (decide (key ∈ r.values)), r.after .readLock .cacheExists r.values)
  else (.flag false, r)

def delete (r : Reference) (key : String) : Answer × Reference :=
  if r.Takes key then
    (.flag (decide (key ∈ r.values)),
      r.after .writeLock .cacheDelete (r.values.erase key))
  else (.flag false, r)

/-- Flags with the bit of weight 2 ask for a key that is there already. -/
def set (r : Reference) (key : String) (value : Bytes) (ttl flags : Nat) : Answer × Reference :=
  if r.Takes key then
    if flags &&& 2 = 0 ∨ key ∈ r.values then
      (.flag true, r.after .writeLock (.cacheSet flags ttl) (r.values.insert key value))
    else (.flag false, r.after .writeLock (.cacheSet flags ttl) r.values)
  else (.flag false, r)

end Reference

/-- What a step answers and makes of the map. -/
def refer : CacheStep → Reference → Answer × Reference
  | .set key value ttl, r => r.set key value ttl 0
  | .update key value ttl, r => r.set key value ttl 2
  | .setFlags key value ttl flags, r => r.set key value ttl flags
  | .get key, r => r.get key
  | .contains key, r => r.contains key
  | .delete key, r => r.delete key
  | .enable on, r => (.nothing, { r with enabled := on })

def referAll : List CacheStep → Reference → List Answer × Reference
  | [], r => ([], r)
  | s :: steps, r =>
    ((refer s r).1 :: (referAll steps (refer s r).2).1, (referAll steps (refer s r).2).2)

/-- A core whose cache holds what the map says. -/
structure Holds (c : Core) (r : Reference) : Prop where
  unplanned : c.Unplanned
  enabled_eq : c.cacheEnabled = r.enabled
  events_eq : c.events = r.calls
  get?_eq : ∀ key, c.cache.get? (Utf8.ofString key) = r.values.lookup key
  /-- Values are held under the octets of texts only. -/
  isText : ∀ b, (c.cache.get? b).isSome → ∃ key, Utf8.ofString key = b

variable {c : Core} {b : Bridge} {r : Reference} {key : String}

/-- As many values are held as the map has keys. -/
theorem Holds.cacheSize_eq (hc : Holds c r) : c.cacheSize = r.values.keys.card := by
  have hset : {b | (c.cache.get? b).isSome} = Utf8.ofString '' (r.values.keys : Set String) := by
    ext b
    simp only [Set.mem_ofPred_eq, Set.mem_image, Finset.mem_coe, Finmap.mem_keys]
    constructor
    · intro hb
      obtain ⟨key, rfl⟩ := hc.isText b hb
      rw [hc.get?_eq, Finmap.lookup_isSome] at hb
      exact ⟨key, hb, rfl⟩
    · rintro ⟨key, hkey, rfl⟩
      rw [hc.get?_eq, Finmap.lookup_isSome]
      exact hkey
  have hinjective : Function.Injective Utf8.ofString := fun _ _ => Utf8.ofString_injective
  rw [Core.cacheSize, Table.size_eq_ncard, hset, Set.ncard_image_of_injective _ hinjective,
    Set.ncard_coe_finset]

/-! ### One step -/

theorem lookup_insert (m : ValueMap) (key : String) (value : Bytes) :
    (fun k => (m.insert key value).lookup k) =
      Function.update (fun k => m.lookup k) key (some value) := by
  funext k
  by_cases hk : k = key
  · rw [hk, Finmap.lookup_insert, Function.update_self]
  · rw [Finmap.lookup_insert_of_ne _ hk, Function.update_of_ne hk]

theorem lookup_erase (m : ValueMap) (key : String) :
    (fun k => (m.erase key).lookup k) = Function.update (fun k => m.lookup k) key none := by
  funext k
  by_cases hk : k = key
  · rw [hk, Finmap.lookup_erase, Function.update_self]
  · rw [Finmap.lookup_erase_ne hk, Function.update_of_ne hk]

/-- The two are in step: the same answer was given, and the cache holds what the map says. -/
def Follows (x : Answer × Bridge) (y : Answer × Reference) : Prop :=
  x.1 = y.1 ∧ Holds x.2.core y.2

/-- A call that leaves the values of the cache as they are. -/
theorem Holds.recorded {h : Host} (hc : Holds h.core r) (lock call : Event) :
    Holds (h.withCache h.core.cache [lock, call, .unlock]).core (r.after lock call r.values) where
  unplanned := hc.unplanned
  enabled_eq := hc.enabled_eq
  events_eq := congrArg (· ++ [lock, call, .unlock]) hc.events_eq
  get?_eq := hc.get?_eq
  isText := hc.isText

/-- A call that gives one key another value, or takes its value away. -/
theorem Holds.changed {h : Host} (hc : Holds h.core r) (lock call : Event) {key : String}
    {value : Option Bytes} {cache : Table Bytes Bytes} {values : ValueMap}
    (hcache : ∀ b, cache.get? b = if b = Utf8.ofString key then value else h.core.cache.get? b)
    (hvalues : (fun k => values.lookup k) = Function.update (fun k => r.values.lookup k) key value) :
    Holds (h.withCache cache [lock, call, .unlock]).core (r.after lock call values) where
  unplanned := hc.unplanned
  enabled_eq := hc.enabled_eq
  events_eq := congrArg (· ++ [lock, call, .unlock]) hc.events_eq
  get?_eq k := (Core.get?_ofString_update hc.get?_eq hcache k).trans (congrFun hvalues k).symm
  isText b hb := by
    change (cache.get? b).isSome = true at hb
    rw [hcache] at hb
    by_cases hkey : b = Utf8.ofString key
    · exact ⟨key, hkey.symm⟩
    · rw [if_neg hkey] at hb
      exact hc.isText b hb

theorem Holds.takes_iff {h : Host} (hc : Holds h.core r) (key : String) :
    r.Takes key ↔ h.core.cacheEnabled = true ∧ (Utf8.ofString key).length ≤ Host.maxKey := by
  rw [hc.enabled_eq]
  rfl

theorem Holds.isSome_iff (hc : Holds c r) (key : String) :
    (c.cache.get? (Utf8.ofString key)).isSome = decide (key ∈ r.values) := by
  rw [hc.get?_eq, Bool.eq_iff_iff, Finmap.lookup_isSome, decide_eq_true_iff]

/-- The bit of weight 2 is the flag of a value that may only take the place of another one. -/
theorem onlyExisting_eq (flags : Nat) : Core.onlyExisting flags = !decide (flags &&& 2 = 0) := by
  have hbit : flags &&& 2 = (flags.testBit 1).toNat * 2 := Nat.and_two_pow flags 1
  rw [Core.onlyExisting, hbit]
  cases flags.testBit 1 <;> rfl

theorem Holds.get (hb : Holds b.host.core r) (key : String) :
    Follows (BridgeStep.run (.service (.cacheGet key)) b) (r.get key) := by
  show Follows (Answer.ofOption .bytes (b.host.serve (.cacheGet key)).1,
    { b with host := (b.host.serve (.cacheGet key)).2 }) _
  rw [Reference.get]
  by_cases htakes : r.Takes key
  · obtain ⟨hon, hkey⟩ := (hb.takes_iff key).mp htakes
    rw [if_pos htakes, Host.serve_cacheGet hon hkey]
    exact ⟨congrArg (Answer.ofOption .bytes) (hb.get?_eq key), hb.recorded _ _⟩
  · have hrefused := Host.cacheKey?_of_refused (mt (hb.takes_iff key).mpr htakes)
    rw [if_neg htakes, (Host.serve_of_refused hrefused).1]
    exact ⟨rfl, hb⟩

theorem Holds.contains (hb : Holds b.host.core r) (key : String) :
    Follows (BridgeStep.run (.service (.cacheExists key)) b) (r.contains key) := by
  show Follows (.flag (b.host.serve (.cacheExists key)).1,
    { b with host := (b.host.serve (.cacheExists key)).2 }) _
  rw [Reference.contains]
  by_cases htakes : r.Takes key
  · obtain ⟨hon, hkey⟩ := (hb.takes_iff key).mp htakes
    rw [if_pos htakes, Host.serve_cacheExists hon hkey]
    exact ⟨congrArg Answer.flag (hb.isSome_iff key), hb.recorded _ _⟩
  · have hrefused := Host.cacheKey?_of_refused (mt (hb.takes_iff key).mpr htakes)
    rw [if_neg htakes, (Host.serve_of_refused hrefused).2.1]
    exact ⟨rfl, hb⟩

theorem Holds.delete (hb : Holds b.host.core r) (key : String) :
    Follows (BridgeStep.run (.service (.cacheDelete key)) b) (r.delete key) := by
  show Follows (.flag (b.host.serve (.cacheDelete key)).1,
    { b with host := (b.host.serve (.cacheDelete key)).2 }) _
  rw [Reference.delete]
  by_cases htakes : r.Takes key
  · obtain ⟨hon, hkey⟩ := (hb.takes_iff key).mp htakes
    rw [if_pos htakes, ← hb.isSome_iff key]
    cases hvalue : b.host.core.cache.get? (Utf8.ofString key) with
    | some value =>
      rw [Host.serve_cacheDelete_of_mapped hb.unplanned hon hkey hvalue]
      exact ⟨rfl, hb.changed _ _ (Table.get?_erase _ _) (lookup_erase _ _)⟩
    | none =>
      -- there is nothing to take away from the map either
      have hsame : r.values.erase key = r.values := by
        refine Finmap.ext_lookup fun k => ?_
        by_cases hk : k = key
        · rw [hk, Finmap.lookup_erase, ← hb.get?_eq, hvalue]
        · rw [Finmap.lookup_erase_ne hk]
      rw [Host.serve_cacheDelete_of_missing hb.unplanned hon hkey hvalue, hsame]
      exact ⟨rfl, hb.recorded _ _⟩
  · have hrefused := Host.cacheKey?_of_refused (mt (hb.takes_iff key).mpr htakes)
    rw [if_neg htakes, (Host.serve_of_refused hrefused).2.2.1]
    exact ⟨rfl, hb⟩

theorem Holds.set (hb : Holds b.host.core r) (key : String) (value : Bytes) (ttl flags : Nat) :
    Follows (BridgeStep.run (.service (.cacheSet key value ttl flags)) b)
      (r.set key value ttl flags) := by
  show Follows (.flag (b.host.serve (.cacheSet key value ttl flags)).1,
    { b with host := (b.host.serve (.cacheSet key value ttl flags)).2 }) _
  rw [Reference.set]
  by_cases htakes : r.Takes key
  · obtain ⟨hon, hkey⟩ := (hb.takes_iff key).mp htakes
    rw [if_pos htakes]
    by_cases hstored : flags &&& 2 = 0 ∨ key ∈ r.values
    · have hstored' : Core.onlyExisting flags = false ∨
          (b.host.core.cache.get? (Utf8.ofString key)).isSome = true := by
        rw [onlyExisting_eq, hb.isSome_iff]
        simpa using hstored
      rw [if_pos hstored, Host.serve_cacheSet_of_stored hb.unplanned hon hkey value ttl hstored']
      exact ⟨rfl, hb.changed _ _ (Table.get?_insert _ _ _) (lookup_insert _ _ _)⟩
    · obtain ⟨hflags, hmissing⟩ := not_or.mp hstored
      have hflags' : Core.onlyExisting flags = true := by
        rw [onlyExisting_eq]
        simpa using hflags
      have hvalue : b.host.core.cache.get? (Utf8.ofString key) = none :=
        (hb.get?_eq key).trans (Finmap.lookup_eq_none.mpr hmissing)
      rw [if_neg hstored,
        Host.serve_cacheSet_of_missing hb.unplanned hon hkey value ttl hflags' hvalue]
      exact ⟨rfl, hb.recorded _ _⟩
  · have hrefused := Host.cacheKey?_of_refused (mt (hb.takes_iff key).mpr htakes)
    rw [if_neg htakes, (Host.serve_of_refused hrefused).2.2.2]
    exact ⟨rfl, hb⟩

/-- Every step answers what the map answers, and the cache holds what the map says afterwards. -/
theorem Holds.run (hb : Holds b.core r) (s : CacheStep) : Follows (s.run b) (refer s r) := by
  cases s with
  | set key value ttl => exact hb.set key value ttl 0
  | update key value ttl => exact hb.set key value ttl 2
  | setFlags key value ttl flags => exact hb.set key value ttl flags
  | get key => exact hb.get key
  | contains key => exact hb.contains key
  | delete key => exact hb.delete key
  | enable on => exact ⟨rfl, hb.unplanned, rfl, hb.events_eq, hb.get?_eq, hb.isText⟩

/-! ### Runs -/

/-- The cache is a finite map. Over every run, each step answers what the map answers, and the
cache holds what the map says at the end, as many values as the map has keys. -/
theorem cache_refines_finite_map (hb : Holds b.core r) (steps : List CacheStep) :
    (runAll steps b).1 = (referAll steps r).1 ∧
    Holds (runAll steps b).2.core (referAll steps r).2 ∧
    (runAll steps b).2.core.cacheSize = (referAll steps r).2.values.keys.card := by
  induction steps generalizing b r with
  | nil => exact ⟨rfl, hb, hb.cacheSize_eq⟩
  | cons s steps ih =>
    obtain ⟨hanswer, hholds⟩ := hb.run s
    obtain ⟨hanswers, hrest⟩ := ih hholds
    refine ⟨?_, hrest⟩
    rw [runAll, referAll, hanswer, hanswers]

/-- A value that outlives the cache being off, and an update that finds nothing to replace. -/
theorem cache_of_switched :
    let bridge : Bridge :=
      { app := Application.empty, settings := {}, defaultContentType := [], host := { core := {} } }
    let steps : List CacheStep :=
      [.set "a" [1] 0, .enable false, .get "a", .delete "a", .enable true, .update "b" [2] 0,
        .get "a"]
    (runAll steps bridge).1 =
      [.flag true, .nothing, .nothing, .flag false, .nothing, .flag false, .bytes [1]] ∧
    (runAll steps bridge).2.core.cacheSize = 1 := by
  intro bridge steps
  have hnew : Holds bridge.core ⟨∅, true, []⟩ :=
    ⟨fun _ => rfl, rfl, rfl, fun _ => rfl, fun b hb => absurd hb Bool.false_ne_true⟩
  obtain ⟨hanswers, -, hsize⟩ := cache_refines_finite_map hnew steps
  rw [hanswers, hsize]
  exact ⟨rfl, rfl⟩

end CacheStep

end Gateway
