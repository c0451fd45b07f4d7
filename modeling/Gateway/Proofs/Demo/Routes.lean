import Gateway.Demo
import Gateway.Proofs.Router

/-!
# The routes of the demonstration

Two layers say that a path leads nowhere: the router, for a path without a slash at its start, and
the start page, for a path that is not the root. `serve_eq` is the table that comes of both: what a
handler answers hangs on the path alone, and every path that is not in the table gets one and the
same page.
-/

namespace Gateway

/-! ### Patterns -/

namespace Router

variable {p path : String}

/-- A pattern that ends in a slash matches the paths that begin with it. -/
theorem qualifies_iff_of_slash (hp : p.toList.getLast? = some '/') :
    Qualifies p path ↔ ∃ rest, path = p ++ rest := by
  rw [Qualifies, ← getLast?_eq_slash_iff, and_iff_right hp, or_iff_right_iff_imp]
  rintro rfl
  exact ⟨"", String.append_empty.symm⟩

/-- Any other pattern matches itself only. -/
theorem qualifies_iff_of_no_slash (hp : p.toList.getLast? ≠ some '/') :
    Qualifies p path ↔ path = p := by
  rw [Qualifies, ← getLast?_eq_slash_iff, or_iff_left fun h => hp h.1, eq_comm]

end Router

namespace Demo

open Router (Qualifies)

/-- The path of a cached value, or of one without a key. -/
def UnderCache (path : String) : Prop :=
  ∃ key, path = "/cache/" ++ key

instance (path : String) : Decidable (UnderCache path) :=
  decidable_of_iff ("/cache/".toList <+: path.toList) Router.prefix_iff

/-- Which patterns match a path. -/
theorem forall_qualifies_iff {path : String} {P : String → Prop} :
    (∀ q ∈ router.routes.keys, Qualifies q path → P q) ↔
      ((∃ rest, path = "/" ++ rest) → P "/") ∧ (path = "/hello" → P "/hello") ∧
        (path = "/echo" → P "/echo") ∧ (UnderCache path → P "/cache/") := by
  have hkeys : router.routes.keys = ["/", "/hello", "/echo", "/cache/"] := rfl
  have hroot : Qualifies "/" path ↔ _ := Router.qualifies_iff_of_slash rfl
  have hgreet : Qualifies "/hello" path ↔ _ := Router.qualifies_iff_of_no_slash (by decide)
  have hecho : Qualifies "/echo" path ↔ _ := Router.qualifies_iff_of_no_slash (by decide)
  have hcache : Qualifies "/cache/" path ↔ _ := Router.qualifies_iff_of_slash rfl
  rw [hkeys, List.forall_mem_cons, List.forall_mem_cons, List.forall_mem_cons,
    List.forall_mem_singleton, hroot, hgreet, hecho, hcache]
  exact Iff.rfl

variable {r : Request} {p : String} {h : Handler}

/-- A pattern that matches is the route, unless a longer one matches too. -/
theorem serve_of_qualifies (hget : router.routes.get? p = some h) (hp : Qualifies p r.path)
    (hother : ∀ q ∈ router.routes.keys, Qualifies q r.path →
      q = p ∨ q.utf8ByteSize < p.utf8ByteSize) : application.serve r = h r := by
  have hroute : router.route? r.path = some (p, h) :=
    Router.route?_eq_some_iff.mpr ⟨hget, hp, hother⟩
  show router.serve r = h r
  rw [Router.serve, Router.handler?, hroute]
  rfl

theorem serve_of_none (hnone : ∀ q ∈ router.routes.keys, ¬Qualifies q r.path) :
    application.serve r = TurnProgram.notFound := by
  show router.serve r = TurnProgram.notFound
  rw [Router.serve, Router.handler?, Router.route?_eq_none_iff.mpr hnone]
  rfl

/-- The table of routes. -/
theorem serve_eq (r : Request) :
    application.serve r =
      if r.path = "/hello" then greet r
      else if r.path = "/echo" then echo r
      else if UnderCache r.path then installedCache r
      else if r.path = "/" then respond Status.ok (bannerLine ++ "\n")
      else TurnProgram.notFound := by
  have hroot : "/".utf8ByteSize < "/hello".utf8ByteSize ∧ "/".utf8ByteSize < "/echo".utf8ByteSize ∧
      "/".utf8ByteSize < "/cache/".utf8ByteSize := by decide
  split
  · next hpath =>
    refine serve_of_qualifies (p := "/hello") rfl (.inl hpath.symm) (forall_qualifies_iff.mpr ?_)
    rw [hpath]
    exact ⟨fun _ => .inr hroot.1, fun _ => .inl rfl, fun h => absurd h (by decide),
      fun h => absurd h (by decide)⟩
  split
  · next hpath =>
    refine serve_of_qualifies (p := "/echo") rfl (.inl hpath.symm) (forall_qualifies_iff.mpr ?_)
    rw [hpath]
    exact ⟨fun _ => .inr hroot.2.1, fun h => absurd h (by decide), fun _ => .inl rfl,
      fun h => absurd h (by decide)⟩
  split
  · next hhello hecho hcache =>
    refine serve_of_qualifies (p := "/cache/") rfl ((Router.qualifies_iff_of_slash rfl).mpr hcache)
      (forall_qualifies_iff.mpr ?_)
    exact ⟨fun _ => .inr hroot.2.2, fun h => absurd h hhello, fun h => absurd h hecho,
      fun _ => .inl rfl⟩
  next hhello hecho hcache =>
  by_cases hslash : ∃ rest, r.path = "/" ++ rest
  · -- what comes to the start page is the root, or leads nowhere
    refine serve_of_qualifies (p := "/") (h := index) rfl
      ((Router.qualifies_iff_of_slash rfl).mpr hslash) (forall_qualifies_iff.mpr ?_)
    exact ⟨fun _ => .inl rfl, fun h => absurd h hhello, fun h => absurd h hecho,
      fun h => absurd h hcache⟩
  · have hroot : r.path ≠ "/" := fun h => hslash ⟨"", h⟩
    rw [if_neg hroot]
    exact serve_of_none (forall_qualifies_iff.mpr ⟨hslash, hhello, hecho, hcache⟩)

end Demo

end Gateway
