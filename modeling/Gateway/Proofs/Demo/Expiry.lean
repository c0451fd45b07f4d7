import Gateway.Demo
import Gateway.Proofs.Form
import Gateway.Proofs.Text.Numeral
import Mathlib.Logic.ExistsUnique

/-!
# For how long a value is kept

`Expires` says which number of seconds a query asks for, by what the query means as a form and by what
spells a number. Every query asks for exactly one (`existsUnique_expires`), and for this one a value
is kept (`expires_iff`).
-/

namespace Gateway.Demo

open Form (Means)
open Numeral (Spells)

/-- The seconds that a query asks for: the number that its first `ttl` parameter spells, or 0 where
this is no number, where there is no such parameter, and where there is no query. -/
inductive Expires : Option String → Nat → Prop where
  | number {query value : String} {before after : List (String × String)} {n : Nat}
      (hmeans : Means query (before ++ ("ttl", value) :: after)) (hfirst : ∀ p ∈ before, p.1 ≠ "ttl")
      (hvalue : Spells value n) : Expires (some query) n
  | noNumber {query value : String} {before after : List (String × String)}
      (hmeans : Means query (before ++ ("ttl", value) :: after)) (hfirst : ∀ p ∈ before, p.1 ≠ "ttl")
      (hvalue : ∀ n, ¬Spells value n) : Expires (some query) 0
  | noParameter {query : String} {pairs : List (String × String)} (hmeans : Means query pairs)
      (hnone : ∀ p ∈ pairs, p.1 ≠ "ttl") : Expires (some query) 0
  | noQuery : Expires none 0

/-- The first pair of a name is found behind pairs of other names. -/
theorem find?_append_cons {before after : List (String × String)} {name value : String}
    (hfirst : ∀ p ∈ before, p.1 ≠ name) :
    (before ++ (name, value) :: after).find? (fun p => decide (p.1 = name)) = some (name, value) := by
  refine List.find?_eq_some_iff_append.mpr ⟨decide_eq_true rfl, before, after, rfl, fun p hp => ?_⟩
  rw [Bool.not_eq_true', decide_eq_false_iff_not]
  exact hfirst p hp

variable {r : Request} {n : Nat}

theorem timeToLive_eq {query : String} (hquery : r.uri.query = some query) : timeToLive r =
    ((Form.lookup query "ttl").bind fun t => Numeral.parse? Numeral.bound64 t.toList).getD 0 := by
  rw [timeToLive, Request.parameter, hquery, Option.bind_some]

/-- The query alone decides for how long a value is kept. -/
theorem expires_timeToLive (r : Request) : Expires r.uri.query (timeToLive r) := by
  cases hquery : r.uri.query with
  | none =>
    have hzero : timeToLive r = 0 := by
      rw [timeToLive, Request.parameter, hquery]
      rfl
    rw [hzero]
    exact .noQuery
  | some query =>
    have hmeans : Means query (Form.decode (Utf8.ofString query)) := Form.means_iff.mpr rfl
    rw [timeToLive_eq hquery, hmeans.lookup_eq]
    cases hfind : (Form.decode (Utf8.ofString query)).find? fun p => decide (p.1 = "ttl") with
    | none =>
      rw [List.find?_eq_none] at hfind
      exact .noParameter hmeans fun p hp hname => hfind p hp (decide_eq_true hname)
    | some p =>
      obtain ⟨hname, before, after, hpairs, hbefore⟩ := List.find?_eq_some_iff_append.mp hfind
      obtain ⟨name, value⟩ := p
      obtain rfl : name = "ttl" := of_decide_eq_true hname
      have hfirst : ∀ p ∈ before, p.1 ≠ "ttl" := fun p hp => by simpa using hbefore p hp
      -- the value decides between a number and 0
      rw [hpairs] at hmeans
      show Expires _ ((Numeral.parse? Numeral.bound64 value.toList).getD 0)
      cases hparse : Numeral.parse? Numeral.bound64 value.toList with
      | none =>
        refine .noNumber hmeans hfirst fun n hn => ?_
        rw [Numeral.spells_iff, hparse] at hn
        cases hn
      | some n => exact .number hmeans hfirst (Numeral.spells_iff.mpr hparse)

/-- A value is kept for as long as the query asks for. -/
theorem expires_iff : Expires r.uri.query n ↔ timeToLive r = n := by
  refine ⟨fun h => ?_, fun h => h ▸ expires_timeToLive r⟩
  generalize hquery : r.uri.query = query at h
  cases h with
  | number hmeans hfirst hvalue =>
    rw [timeToLive_eq hquery, hmeans.lookup_eq, find?_append_cons hfirst, Option.map_some,
      Option.bind_some, Numeral.spells_iff.mp hvalue]
    rfl
  | @noNumber _ value before after hmeans hfirst hvalue =>
    have hparse : Numeral.parse? Numeral.bound64 value.toList = none :=
      Option.eq_none_iff_forall_ne_some.mpr fun n hn => hvalue n (Numeral.spells_iff.mpr hn)
    rw [timeToLive_eq hquery, hmeans.lookup_eq, find?_append_cons hfirst, Option.map_some,
      Option.bind_some, hparse]
    rfl
  | @noParameter _ pairs hmeans hnone =>
    have hfind : ∀ p ∈ pairs, ¬decide (p.1 = "ttl") = true := fun p hp => by simpa using hnone p hp
    rw [timeToLive_eq hquery, hmeans.lookup_eq, List.find?_eq_none.mpr hfind]
    rfl
  | noQuery =>
    rw [timeToLive, Request.parameter, hquery]
    rfl

theorem existsUnique_expires (r : Request) : ∃! n, Expires r.uri.query n :=
  ⟨timeToLive r, expires_timeToLive r, fun _ h => (expires_iff.mp h).symm⟩

/-- Of two parameters the first one counts, although its name and its value are escaped. -/
theorem expires_first_of_two : Expires (some "x=1&t%74l=%35&ttl=7") 5 := by
  have hliteral : ∀ s : String, s.toList.all (fun c => decide (Form.IsLiteral c)) = true →
      Form.TextForm (Utf8.ofString s) s.toList := fun _ => Form.textForm_of_all
  have hname : Form.TextForm (Utf8.ofString "ttl") "t%74l".toList :=
    .cons (.literal (c := 't') (by decide)) (.cons (.escaped (by decide) (by decide))
      (.cons (.literal (c := 'l') (by decide)) .nil))
  have hvalue : Form.TextForm (Utf8.ofString "5") "%35".toList :=
    .cons (.escaped (by decide) (by decide)) .nil
  have hquery : Form.Encodes [("x", "1"), ("ttl", "5"), ("ttl", "7")] "x=1&t%74l=%35&ttl=7" :=
    ⟨_, .pair (hliteral "x" (by decide)) (hliteral "1" (by decide)) (.pair hname hvalue
      (.pair (hliteral "ttl" (by decide)) (hliteral "7" (by decide)) .nil)), by decide⟩
  have hmeans : Means _ ([("x", "1")] ++ ("ttl", "5") :: [("ttl", "7")]) := hquery.means
  have hspells : Spells "5" 5 :=
    ⟨by decide, ['5'], .inl rfl, by decide, List.forall_mem_singleton.mpr rfl, rfl⟩
  exact .number hmeans (by decide) hspells

end Gateway.Demo
