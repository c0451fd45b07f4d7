import Gateway.Proofs.Demo.Reply
import Gateway.Router
import Gateway.Table.Lemmas
import Mathlib.Data.List.Infix

/-!
# The route of a path

`Qualifies` says which patterns match a path. All of them are beginnings of the path, so no two are
equally long, and the longest one is the same whatever comes first: `route?` finds it together with
the handler that was registered for it last (`route?_eq_some_iff`, `route?_eq_none_iff`). How a
router was filled shows only in the last handler of each pattern (`longest_pattern_wins`).

Patterns are compared by their characters; that is the order of their octets too, since of two
beginnings of one path the shorter one is a beginning of the longer one (`Qualifies.eq_or_shorter`).
-/

namespace Gateway.Router

variable {η : Type} {p q path : String} {h : η}

/-! ### Patterns that match -/

/-- The pattern matches the path: it is the path, or it ends in a slash and the path goes on from
it. -/
def Qualifies (pattern path : String) : Prop :=
  pattern = path ∨ (∃ stem, pattern = stem ++ "/") ∧ ∃ rest, path = pattern ++ rest

theorem getLast?_eq_slash_iff : p.toList.getLast? = some '/' ↔ ∃ stem, p = stem ++ "/" := by
  rw [List.getLast?_eq_some_iff]
  constructor
  · rintro ⟨cs, hcs⟩
    refine ⟨String.ofList cs, String.toList_inj.mp ?_⟩
    rw [String.toList_append, String.toList_ofList]
    exact hcs
  · rintro ⟨stem, rfl⟩
    exact ⟨stem.toList, String.toList_append⟩

theorem prefix_iff : p.toList <+: path.toList ↔ ∃ rest, path = p ++ rest := by
  constructor
  · rintro ⟨cs, hcs⟩
    refine ⟨String.ofList cs, String.toList_inj.mp ?_⟩
    rw [String.toList_append, String.toList_ofList]
    exact hcs.symm
  · rintro ⟨rest, rfl⟩
    exact ⟨rest.toList, String.toList_append.symm⟩

theorem covers_iff : covers p.toList path.toList = true ↔ Qualifies p path := by
  rw [covers, Qualifies, ← getLast?_eq_slash_iff, ← prefix_iff]
  split
  · next hslash =>
    rw [List.isPrefixOf_iff_prefix]
    constructor
    · exact fun hprefix => .inr ⟨hslash, hprefix⟩
    · rintro (rfl | ⟨-, hprefix⟩)
      · exact List.prefix_rfl
      · exact hprefix
  · next hslash =>
    rw [decide_eq_true_eq, String.toList_inj]
    constructor
    · exact fun heq => .inl heq.symm
    · rintro (heq | ⟨hother, -⟩)
      · exact heq.symm
      · exact absurd hother hslash

/-- Whatever matches a path is a beginning of it. -/
theorem Qualifies.isPrefix (hp : Qualifies p path) : p.toList <+: path.toList := by
  rcases hp with rfl | ⟨-, hrest⟩
  · exact List.prefix_rfl
  · exact prefix_iff.mpr hrest

/-- Of two patterns that match a path, one that has not more characters than the other is the other
one or has fewer octets. -/
theorem Qualifies.eq_or_shorter (hp : Qualifies p path) (hq : Qualifies q path)
    (hle : q.toList.length ≤ p.toList.length) : q = p ∨ q.utf8ByteSize < p.utf8ByteSize := by
  obtain ⟨rest, rfl⟩ :=
    prefix_iff.mp (List.prefix_of_prefix_length_le hq.isPrefix hp.isPrefix hle)
  by_cases hrest : rest = ""
  · subst hrest
    exact .inl String.append_empty.symm
  · have hpos : rest.utf8ByteSize ≠ 0 := fun h => hrest (String.utf8ByteSize_eq_zero_iff.mp h)
    rw [String.utf8ByteSize_append]
    exact .inr (by omega)

/-- No two patterns of the same size match a path. -/
theorem Qualifies.eq_of_size_eq (hp : Qualifies p path) (hq : Qualifies q path)
    (hsize : q.utf8ByteSize = p.utf8ByteSize) : q = p := by
  rcases Nat.le_total q.toList.length p.toList.length with hle | hle
  · rcases hp.eq_or_shorter hq hle with heq | hlt
    · exact heq
    · exact absurd hsize (Nat.ne_of_lt hlt)
  · rcases hq.eq_or_shorter hp hle with heq | hlt
    · exact heq.symm
    · exact absurd hsize.symm (Nat.ne_of_lt hlt)

/-! ### The longest one -/

/-- Among entries, and one that is there before them, there is a longest one. -/
theorem foldl_longer_some (es : List (String × η)) (b : String × η) :
    ∃ c ∈ b :: es, es.foldl longer (some b) = some c ∧
      ∀ e ∈ b :: es, e.1.toList.length ≤ c.1.toList.length := by
  induction es generalizing b with
  | nil =>
    refine ⟨b, List.mem_singleton_self b, rfl, fun e he => ?_⟩
    rw [List.mem_singleton.mp he]
  | cons e es ih =>
    rw [List.foldl_cons, longer]
    split
    · next hle =>
      obtain ⟨c, hc, hfold, hmax⟩ := ih e
      refine ⟨c, List.mem_cons_of_mem b hc, hfold, ?_⟩
      intro d hd
      rcases List.mem_cons.mp hd with rfl | hd
      · exact hle.trans (hmax e List.mem_cons_self)
      · exact hmax d hd
    · next hlt =>
      obtain ⟨c, hc, hfold, hmax⟩ := ih b
      refine ⟨c, ?_, hfold, ?_⟩
      · rcases List.mem_cons.mp hc with rfl | hc
        · exact List.mem_cons_self
        · exact List.mem_cons_of_mem b (List.mem_cons_of_mem e hc)
      · intro d hd
        rcases List.mem_cons.mp hd with rfl | hd
        · exact hmax d List.mem_cons_self
        · rcases List.mem_cons.mp hd with rfl | hd
          · exact (Nat.le_of_not_le hlt).trans (hmax b List.mem_cons_self)
          · exact hmax d (List.mem_cons_of_mem b hd)

/-- Either there is no route and no pattern matches, or the route is one of the patterns that match
and none of them is longer. -/
theorem route?_cases (r : Router η) (path : String) :
    (r.route? path = none ∧ ∀ e ∈ r.routes.entries, ¬Qualifies e.1 path) ∨
    ∃ c ∈ r.routes.entries, r.route? path = some c ∧ Qualifies c.1 path ∧
      ∀ e ∈ r.routes.entries, Qualifies e.1 path → e.1.toList.length ≤ c.1.toList.length := by
  have hmem : ∀ e, e ∈ (r.routes.entries.filter fun e => covers e.1.toList path.toList) ↔
      e ∈ r.routes.entries ∧ Qualifies e.1 path := by
    intro e
    rw [List.mem_filter, covers_iff]
  rw [route?]
  cases hes : r.routes.entries.filter fun e => covers e.1.toList path.toList with
  | nil =>
    refine .inl ⟨rfl, fun e he hq => ?_⟩
    have hnil := (hmem e).mpr ⟨he, hq⟩
    rw [hes] at hnil
    cases hnil
  | cons b es =>
    obtain ⟨c, hc, hfold, hmax⟩ := foldl_longer_some es b
    rw [← hes] at hc hmax
    obtain ⟨hentry, hqualifies⟩ := (hmem c).mp hc
    exact .inr ⟨c, hentry, hfold, hqualifies, fun e he hq => hmax e ((hmem e).mpr ⟨he, hq⟩)⟩

theorem mem_keys_iff {r : Router η} : p ∈ r.routes.keys ↔ ∃ h, (p, h) ∈ r.routes.entries := by
  rw [Table.keys, List.mem_map]
  constructor
  · rintro ⟨⟨p, h⟩, he, rfl⟩
    exact ⟨h, he⟩
  · rintro ⟨h, he⟩
    exact ⟨(p, h), he, rfl⟩

theorem route?_eq_none_iff {r : Router η} :
    r.route? path = none ↔ ∀ q ∈ r.routes.keys, ¬Qualifies q path := by
  simp only [mem_keys_iff]
  rcases r.route?_cases path with ⟨hnone, hno⟩ | ⟨c, hc, hsome, hcq, -⟩
  · refine iff_of_true hnone ?_
    rintro q ⟨h, he⟩
    exact hno (q, h) he
  · rw [hsome]
    exact iff_of_false (Option.some_ne_none c) fun hno => hno c.1 ⟨c.2, hc⟩ hcq

/-- The route of a path: a pattern that matches it, larger than any other one, with its handler. -/
theorem route?_eq_some_iff {r : Router η} :
    r.route? path = some (p, h) ↔ r.routes.get? p = some h ∧ Qualifies p path ∧
      ∀ q ∈ r.routes.keys, Qualifies q path → q = p ∨ q.utf8ByteSize < p.utf8ByteSize := by
  rw [Table.get?_eq_some_iff]
  simp only [mem_keys_iff]
  rcases r.route?_cases path with ⟨hnone, hno⟩ | ⟨⟨p', h'⟩, hc, hsome, hcq, hmax⟩
  · rw [hnone]
    exact iff_of_false (Option.some_ne_none _).symm fun ⟨he, hq, _⟩ => hno (p, h) he hq
  · have hlongest : ∀ q, (∃ h, (q, h) ∈ r.routes.entries) → Qualifies q path →
        q = p' ∨ q.utf8ByteSize < p'.utf8ByteSize := by
      rintro q ⟨h, he⟩ hq
      exact hcq.eq_or_shorter hq (hmax (q, h) he hq)
    rw [hsome]
    constructor
    · rintro ⟨⟩
      exact ⟨hc, hcq, hlongest⟩
    · rintro ⟨he, hq, hother⟩
      -- each of the two is at least as large as the other one
      obtain rfl : p = p' := by
        rcases hlongest p ⟨h, he⟩ hq with heq | hlt
        · exact heq
        · rcases hother p' ⟨h', hc⟩ hcq with heq | hlt'
          · exact heq.symm
          · exact absurd hlt (Nat.lt_asymm hlt')
      have hhandler : some h = some h' := by
        rw [← (Table.get?_eq_some_iff r.routes p h).mpr he,
          (Table.get?_eq_some_iff r.routes p h').mpr hc]
      rw [Option.some.inj hhandler]

/-! ### Registrations -/

/-- The handler that was registered last for a pattern. -/
def lastHandler? (l : List (String × η)) (pattern : String) : Option η :=
  ((l.filter fun e => e.1 = pattern).getLast?).map Prod.snd

theorem routes_foldl_handle (l : List (String × η)) (r : Router η) :
    (l.foldl (fun r e => r.handle e.1 e.2) r).routes =
      l.foldl (fun t e => t.insert e.1 e.2) r.routes := by
  induction l generalizing r with
  | nil => rfl
  | cons e l ih => exact ih (r.handle e.1 e.2)

theorem get?_ofList (l : List (String × η)) (pattern : String) :
    (ofList l).routes.get? pattern = lastHandler? l pattern := by
  rw [ofList, routes_foldl_handle, Table.get?_foldl_insert]
  exact Option.or_none

/-- One more registration, at the end. -/
theorem ofList_concat (l : List (String × η)) (e : String × η) :
    ofList (l ++ [e]) = (ofList l).handle e.1 e.2 := by
  rw [ofList, List.foldl_append]
  rfl

/-- The patterns stand in the order in which they first came, each of them once. -/
theorem keys_ofList (l : List (String × η)) :
    (ofList l).routes.keys = (l.map Prod.fst).eraseDups := by
  induction l using List.reverseRecOn with
  | nil => rfl
  | append_singleton l e ih =>
    have hkeys : (ofList (l ++ [e])).routes.keys = ((ofList l).routes.insert e.1 e.2).keys := by
      rw [ofList_concat]
      rfl
    rw [hkeys, Table.keys_insert, ih, List.map_append, List.eraseDups_append]
    by_cases hold : e.1 ∈ l.map Prod.fst
    · rw [if_pos (List.mem_eraseDups.mpr hold)]
      simp [List.removeAll, hold]
    · rw [if_neg fun hmem => hold (List.mem_eraseDups.mp hmem)]
      simp [List.removeAll, hold, List.eraseDups_cons]

/-- Routers whose patterns have the same last handlers find the same routes. -/
theorem route?_congr {l l' : List (String × η)}
    (hlast : ∀ pattern, lastHandler? l pattern = lastHandler? l' pattern) (path : String) :
    (ofList l).route? path = (ofList l').route? path := by
  have hget : ∀ pattern, (ofList l).routes.get? pattern = (ofList l').routes.get? pattern := by
    intro pattern
    rw [get?_ofList, get?_ofList, hlast]
  have hkeys : ∀ pattern, pattern ∈ (ofList l).routes.keys ↔ pattern ∈ (ofList l').routes.keys := by
    intro pattern
    rw [← not_iff_not, ← Table.get?_eq_none_iff, ← Table.get?_eq_none_iff, hget]
  ext ⟨p, h⟩
  rw [route?_eq_some_iff, route?_eq_some_iff, hget]
  simp only [hkeys]

/-- Whatever is registered, in whatever order: a router keeps every pattern once, in the order in
which it first came, with its last handler. A path is routed to the longest pattern that matches it,
no two of one size match it, and where none matches it is answered with the page for that. Two
routers whose patterns have the same last handlers serve alike. -/
theorem longest_pattern_wins (l : List (String × Handler)) :
    ((ofList l).routes.keys = (l.map Prod.fst).eraseDups ∧ (ofList l).routes.keys.Nodup ∧
      ∀ p h, (p, h) ∈ (ofList l).routes.entries ↔ lastHandler? l p = some h) ∧
    (∀ path p h, (ofList l).route? path = some (p, h) ↔ lastHandler? l p = some h ∧
      Qualifies p path ∧
      ∀ q ∈ l.map Prod.fst, Qualifies q path → q = p ∨ q.utf8ByteSize < p.utf8ByteSize) ∧
    (∀ path p q, Qualifies p path → Qualifies q path → q.utf8ByteSize = p.utf8ByteSize → q = p) ∧
    (∀ path, (ofList l).route? path = none ↔ ∀ q ∈ l.map Prod.fst, ¬Qualifies q path) ∧
    (∀ request : Request, (∀ q ∈ l.map Prod.fst, ¬Qualifies q request.path) →
      Demo.Sends ((ofList l).serve request)
        { status := Status.notFound
          fields := [(HeaderName.contentType, Utf8.ofString "text/plain; charset=utf-8"),
            (HeaderName.contentTypeOptions, Utf8.ofString "nosniff")]
          body := Utf8.ofString "404 page not found\n" }) ∧
    (∀ (request : Request) p h, (ofList l).route? request.path = some (p, h) →
      (ofList l).serve request = h request) ∧
    ∀ l' : List (String × Handler), (∀ p, lastHandler? l p = lastHandler? l' p) →
      (∀ path, (ofList l).route? path = (ofList l').route? path) ∧
      ∀ request, (ofList l).serve request = (ofList l').serve request := by
  have hkeys : ∀ q, q ∈ (ofList l).routes.keys ↔ q ∈ l.map Prod.fst := by
    intro q
    rw [keys_ofList, List.mem_eraseDups]
  have hnone : ∀ path, (ofList l).route? path = none ↔ ∀ q ∈ l.map Prod.fst, ¬Qualifies q path := by
    intro path
    rw [route?_eq_none_iff]
    simp only [hkeys]
  refine ⟨⟨keys_ofList l, (ofList l).routes.nodup_keys, fun p h => ?_⟩, fun path p h => ?_,
    fun path p q hp hq hsize => hp.eq_of_size_eq hq hsize, hnone, fun request hno => ?_,
    fun request p h hroute => ?_, fun l' hlast => ⟨route?_congr hlast, fun request => ?_⟩⟩
  · rw [← Table.get?_eq_some_iff, get?_ofList]
  · rw [route?_eq_some_iff, get?_ofList]
    simp only [hkeys]
  · rw [serve, handler?, (hnone request.path).mpr hno]
    exact Demo.sends_notFound
  · rw [serve, handler?, hroute]
    rfl
  · rw [serve, serve, handler?, handler?, route?_congr hlast]

/-- The empty pattern matches the empty path only, and a pattern without a slash at its end only
itself. -/
example :
    let r := ofList [("", 0), ("/", 1), ("a", 2), ("/", 3), ("/s/", 4)]
    ["", "/", "a", "/s", "/s/é", "b"].map r.route? =
      [some ("", 0), some ("/", 3), some ("a", 2), some ("/", 3), some ("/s/", 4), none] := by
  decide +kernel

end Gateway.Router
