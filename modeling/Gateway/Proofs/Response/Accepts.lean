import Gateway.Proofs.Isolation.Turn
import Gateway.Proofs.Response.Failure
import Gateway.Proofs.Service.Effect

/-!
# Requests whose writes are not refused

The core accepts what is written to a request that it knows if neither the connection is cut nor a
refusal is planned (`Core.Accepts`). A sink then writes what it is given, and the core goes on
accepting. Reads of bodies and services change nothing about that, nor about the response that is
held of any request, whatever is planned for them (`Core.SameResponses`).
-/

namespace Gateway

/-! ### What the core holds of responses -/

/-- Whether a call writes. -/
def Primitive.writes : Primitive → Bool
  | .writeHeaderBlock | .writeBodyChunk => true
  | _ => false

namespace Core

/-- A change that does not concern writing: the same responses are held, and the writes to come are
answered as they were to be. -/
structure SameResponses (c d : Core) : Prop where
  planned_eq : ∀ p : Primitive, p.writes = true → d.planned p = c.planned p
  exchange : ∀ {h x}, c.exchanges.get? h = some x →
    ∃ y, d.exchanges.get? h = some y ∧ x.SameResponse y ∧ y.failWrites = x.failWrites

namespace SameResponses

variable {c d e : Core}

theorem of_exchanges (hes : d.exchanges = c.exchanges) (hplan : d.planned = c.planned) :
    SameResponses c d where
  planned_eq _ _ := by rw [hplan]
  exchange {_ x} hx := ⟨x, by rw [hes, hx], Exchange.SameResponse.refl x, rfl⟩

theorem refl (c : Core) : SameResponses c c :=
  of_exchanges rfl rfl

theorem trans (hcd : SameResponses c d) (hde : SameResponses d e) : SameResponses c e where
  planned_eq p hp := (hde.planned_eq p hp).trans (hcd.planned_eq p hp)
  exchange hx := by
    obtain ⟨y, hy, hxy, hwrites⟩ := hcd.exchange hx
    obtain ⟨z, hz, hyz, hwrites'⟩ := hde.exchange hy
    exact ⟨z, hz, hxy.trans hyz, hwrites'.trans hwrites⟩

theorem update (c : Core) (h : Handle) {f : Exchange → Exchange}
    (hf : ∀ x, x.SameResponse (f x) ∧ (f x).failWrites = x.failWrites) :
    SameResponses c (c.update h f) where
  planned_eq _ _ := rfl
  exchange {j x} hx := by
    rw [get?_update, hx]
    split
    · exact ⟨f x, rfl, hf x⟩
    · exact ⟨x, rfl, Exchange.SameResponse.refl x, rfl⟩

theorem plan (c : Core) {p : Primitive} (hp : p.writes = false) (codes : List Int) :
    SameResponses c (c.plan p codes) where
  planned_eq q hq := by
    refine if_neg ?_
    rintro rfl
    exact Bool.false_ne_true (hp.symm.trans hq)
  exchange {_ x} hx := ⟨x, hx, Exchange.SameResponse.refl x, rfl⟩

/-- A plan for a call that does not write does not make it one. -/
theorem asPlanned {p : Primitive} (hp : p.writes = false) {act : Core → Int × Core}
    (hact : ∀ c, SameResponses c (act c).2) (c : Core) :
    SameResponses c (Core.asPlanned p act c).2 := by
  rw [Core.asPlanned]
  split
  · exact hact c
  · next code codes _ =>
    have hplan := plan c hp codes
    dsimp only
    split
    · exact hplan
    · exact hplan.trans (hact _)

end SameResponses

/-! ### Writes that are not refused -/

/-- The core refuses no write of a request of which it holds `x`: neither is the connection cut, nor
is a refusal planned. -/
structure Accepts (c : Core) (h : Handle) (x : Exchange) : Prop where
  get?_eq : c.exchanges.get? h = some x
  connected : x.failWrites = false
  planned : ∀ p : Primitive, p.writes = true → ∀ code ∈ c.planned p, 0 ≤ code

namespace Accepts

variable {c d : Core} {h : Handle} {x : Exchange}

theorem sameResponses (hx : c.Accepts h x) (hcd : SameResponses c d) :
    ∃ y, d.Accepts h y ∧ x.SameResponse y := by
  obtain ⟨y, hy, hxy, hwrites⟩ := hcd.exchange hx.get?_eq
  refine ⟨y, ⟨hy, hwrites.trans hx.connected, fun p hp => ?_⟩, hxy⟩
  rw [hcd.planned_eq p hp]
  exact hx.planned p hp

theorem update (hx : c.Accepts h x) {f : Exchange → Exchange} (hf : (f x).failWrites = false) :
    (c.update h f).Accepts h (f x) :=
  ⟨get?_update_self hx.get?_eq f, hf, hx.planned⟩

theorem asPlanned_write (hx : c.Accepts h x) {p : Primitive} (hp : p.writes = true)
    {f : Exchange → Exchange} (hf : (f x).failWrites = false) :
    ∃ code d, asPlanned p (write h f) c = (code, d) ∧ 0 ≤ code ∧ d.Accepts h (f x) := by
  rw [asPlanned]
  cases hcodes : c.planned p with
  | nil =>
    refine ⟨0, c.update h f, ?_, Int.le_refl 0, hx.update hf⟩
    dsimp only
    rw [write_of_get? hx.get?_eq, hx.connected]
    rfl
  | cons code codes =>
    have hplanned := hx.planned p hp
    rw [hcodes, List.forall_mem_cons] at hplanned
    have hrest : (c.plan p codes).Accepts h x := by
      refine ⟨hx.get?_eq, hx.connected, fun q hq => ?_⟩
      show ∀ code ∈ (if q = p then codes else c.planned q), 0 ≤ code
      split
      · exact hplanned.2
      · exact hx.planned q hq
    refine ⟨code, (c.plan p codes).update h f, ?_, hplanned.1, hrest.update hf⟩
    dsimp only
    rw [if_neg (Int.not_lt.mpr hplanned.1), write_of_get? hrest.get?_eq, hx.connected]
    rfl

end Accepts

end Core

open Gateway.Core (Accepts SameResponses)

/-! ### What does not concern writing -/

namespace Body

theorem sameResponses_readChunk (h : Handle) (n : Nat) (c : Core) :
    SameResponses c (c.readChunk h n).2 := by
  have hqueued : ∀ c : Core, SameResponses c (c.readQueued h n).2 := by
    intro c
    have hread : ∀ x : Exchange, x.SameResponse (x.read n).2 ∧
        (x.read n).2.failWrites = x.failWrites := by
      intro x
      rw [Exchange.read]
      split <;> exact ⟨⟨rfl, rfl, rfl, rfl, rfl⟩, rfl⟩
    rw [Core.readQueued]
    split
    · exact SameResponses.refl c
    · split
      · exact SameResponses.refl c
      · exact SameResponses.update c h hread
  rw [Core.readChunk]
  split
  · exact hqueued c
  · next code codes _ =>
    have hplan := SameResponses.plan c (p := .readChunk) rfl codes
    dsimp only
    split
    · exact hplan
    · exact hplan.trans (hqueued _)

theorem sameResponses_read (n : Nat) (b : Body) (c : Core) :
    SameResponses c (b.read n c).2.2 := by
  cases b with
  | stored rest => exact SameResponses.refl c
  | queued h =>
    rw [read]
    split
    · exact SameResponses.refl c
    · have hchunk := sameResponses_readChunk h n c
      revert hchunk
      rcases c.readChunk h n with ⟨_ | _, d⟩
      · exact id
      · exact id

theorem sameResponses_drainFrom (size : Nat → Nat) (fuel i : Nat) (b : Body) (c : Core) :
    SameResponses c (drainFrom size fuel i b c).2.2 := by
  induction fuel generalizing i b c with
  | zero => exact SameResponses.refl c
  | succ fuel ih =>
    have hread := sameResponses_read (size i) b c
    rw [drainFrom_succ]
    dsimp only
    rcases (b.read (size i) c).1 with e | got
    · exact hread
    · rw [drainNext]
      split
      · exact hread
      · exact hread.trans (ih _ _ _)

end Body

namespace Core

variable (c : Core)

theorem sameResponses_record (e : Event) : SameResponses c (c.record e) :=
  .of_exchanges rfl rfl

theorem sameResponses_cacheGet (key : Bytes) : SameResponses c (c.cacheGet key).2 :=
  c.sameResponses_record .cacheGet

theorem sameResponses_cacheExists (key : Bytes) : SameResponses c (c.cacheExists key).2 :=
  c.sameResponses_record .cacheExists

theorem sameResponses_cacheDelete (key : Bytes) : SameResponses c (c.cacheDelete key).2 := by
  refine SameResponses.asPlanned rfl (fun c => ?_) c
  dsimp only
  split <;> exact .of_exchanges rfl rfl

theorem sameResponses_cacheSet (key value : Bytes) (expires flags : Nat) :
    SameResponses c (c.cacheSet key value expires flags).2 := by
  refine SameResponses.asPlanned rfl (fun c => ?_) c
  dsimp only
  split <;> exact .of_exchanges rfl rfl

theorem sameResponses_addTimer (signum : UInt8) (seconds : Int) :
    SameResponses c (c.addTimer signum seconds).2 :=
  .asPlanned rfl (fun c => c.sameResponses_record _) c

theorem sameResponses_addRecurringTimer (signum : UInt8) (seconds : Int) :
    SameResponses c (c.addRecurringTimer signum seconds).2 :=
  .asPlanned rfl (fun c => c.sameResponses_record _) c

theorem sameResponses_registerSignal (signum : UInt8) (receiver : String) (modifier : UInt8) :
    SameResponses c (c.registerSignal signum receiver modifier).2 := by
  refine SameResponses.asPlanned rfl (fun c => ?_) c
  dsimp only
  split <;> exact .of_exchanges rfl rfl

end Core

namespace Host

/-- A lock and an unlock do not write. -/
theorem sameResponses_locked {α : Type} (lock : Event) {act : Core → α × Core}
    (hact : ∀ c, SameResponses c (act c).2) (c : Core) :
    SameResponses c (locked lock act c).2 :=
  ((c.sameResponses_record lock).trans (hact _)).trans (Core.sameResponses_record _ .unlock)

variable (h : Host)

theorem sameResponses_registerSignal (signum : UInt8) (owner : String) (callback : Callback) :
    SameResponses h.core (h.registerSignal signum owner callback).2.core := by
  have hresolved : SameResponses h.core h.resolveModifier.2.core := by
    rw [resolveModifier_eq]
    exact .of_exchanges rfl rfl
  rw [registerSignal]
  revert hresolved
  rcases h.resolveModifier with ⟨_ | m, h'⟩
  · exact id
  · intro hresolved
    have hregister := hresolved.trans (h'.core.sameResponses_registerSignal signum owner m)
    dsimp only
    split
    · exact hregister
    · exact hregister

/-- No service writes. -/
theorem sameResponses_serve (s : Service) : SameResponses h.core (h.serve s).2.core := by
  cases s with
  | signal n | lock slot | unlock slot => exact h.core.sameResponses_record _
  | isSignalRegistered n | workerId | helperProcessId | logSize => exact .refl _
  | addTimer n seconds recurring =>
    cases recurring with
    | true => exact h.core.sameResponses_addRecurringTimer n seconds
    | false => exact h.core.sameResponses_addTimer n seconds
  | registerSignal n owner callback => exact h.sameResponses_registerSignal n owner callback
  | cacheGet key =>
    show SameResponses h.core (h.cacheGet key).2.core
    rw [cacheGet]
    split
    · exact .refl _
    · next k _ =>
      exact sameResponses_locked .readLock (fun c => c.sameResponses_cacheGet k) h.core
  | cacheExists key =>
    show SameResponses h.core (h.cacheExists key).2.core
    rw [cacheExists]
    split
    · exact .refl _
    · next k _ =>
      exact sameResponses_locked .readLock (fun c => c.sameResponses_cacheExists k) h.core
  | cacheDelete key =>
    show SameResponses h.core (h.cacheDelete key).2.core
    rw [cacheDelete]
    split
    · exact .refl _
    · next k _ =>
      exact sameResponses_locked .writeLock (fun c => c.sameResponses_cacheDelete k) h.core
  | cacheSet key value ttl flags =>
    show SameResponses h.core (h.cacheSet key value ttl flags).2.core
    rw [cacheSet]
    split
    · exact .refl _
    · next k _ =>
      exact sameResponses_locked .writeLock (fun c => c.sameResponses_cacheSet k value ttl flags)
        h.core

end Host

/-! ### Sinks that are not refused -/

namespace Sink

variable {k : Sink} {c : Core} {x : Exchange}

theorem commit_of_accepts (hx : c.Accepts k.handle x) (s : Status) :
    ∃ d, k.commit s c = (.ok (), k.afterCommit s false, d) ∧
      d.Accepts k.handle
        (committed x k.version s (withContentType k.defaultContentType k.headers)) := by
  let headers := withContentType k.defaultContentType k.headers
  have hstatus : (c.setStatus k.handle s.code).Accepts k.handle { x with status := some s.code } :=
    hx.update hx.connected
  have hannounced : (announce k.handle headers.size (c.setStatus k.handle s.code)).Accepts k.handle
      { x with status := some s.code, headerCount := x.headerCount + headers.size } := by
    refine ⟨get?_announce hstatus.get?_eq _, hx.connected, ?_⟩
    rw [planned_announce]
    exact hstatus.planned
  obtain ⟨code, d, hwrite, hcode, hd⟩ := hannounced.asPlanned_write (p := .writeHeaderBlock) rfl
    (f := fun x => x.writeHeader (HeaderBlock.render k.version s headers)) hx.connected
  refine ⟨d, ?_, ?_⟩
  · rw [commit]
    dsimp only
    rw [Core.writeHeaderBlock, hwrite]
    simp [Int.not_lt.mpr hcode, afterCommit]
  · have hcommitted : committed x k.version s headers = _ := if_neg (by simp [hx.connected])
    rwa [hcommitted]

theorem send_of_accepts (hx : c.Accepts k.handle x) (hf : k.failed = false) (b : Bytes) :
    ∃ d, k.send b c = (.ok b.length, k, d) ∧ d.Accepts k.handle (extended x b) := by
  by_cases hb : b = []
  · refine ⟨c, ?_, ?_⟩
    · simp [send, hf, hb]
    · rwa [extended, if_pos hb]
  · obtain ⟨code, d, hwrite, hcode, hd⟩ := hx.asPlanned_write (p := .writeBodyChunk) rfl
      (f := fun x => x.writeBody b) hx.connected
    refine ⟨d, ?_, ?_⟩
    · simp [send, hf, hb, Core.writeBodyChunk, hwrite, Int.not_lt.mpr hcode]
    · rwa [extended, if_neg hb]

end Sink

end Gateway
