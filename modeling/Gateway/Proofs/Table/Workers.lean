import Gateway.Proofs.Program
import Gateway.Table.Lemmas
import Gateway.Table.Registry
import Mathlib.Algebra.BigOperators.Group.Finset.Basic
import Mathlib.Data.Fintype.Basic
import Mathlib.Data.Set.Basic

/-!
# Workers that share a registry

Workers take turns, in any order, and in a turn a worker makes the next call of its program. A call
sees and changes nothing but the value under its own key (`RegistryCall.act_fst`,
`RegistryCall.get?_act`). So a worker whose keys nobody else uses is answered as if it were alone with
the registry, whatever the order of the turns is, and the registry holds what each of the workers
would have left in it alone (`Crew.workers_do_not_interfere`).

The invariant compares a crew with its workers on their own, each with a registry of its own: what is
shared and what a worker has to itself agree on the keys of this worker (`Crew.Apart`).
-/

namespace Gateway

variable {ι κ ν ρ α : Type} [DecidableEq κ]

/-! ### Calls -/

namespace RegistryCall

/-- What a call answers and what it leaves under its key, by the value that is there. -/
def onValue : (c : RegistryCall κ ν ρ) → Option ν → c.Answer × Option ν
  | .retain _ v, old => (old, some v)
  | .visit _ look, old => (old.map look, old)
  | .change _ edit, old => (old.map fun v => (edit v).1, old.map fun v => (edit v).2)
  | .release _, old => (old, none)
  | .contains _, old => (old.isSome, old)

theorem act_fst (c : RegistryCall κ ν ρ) (t : Table κ ν) :
    (c.act t).1 = (c.onValue (t.get? c.key)).1 := by
  cases c with
  | contains k => exact t.contains_eq_isSome k
  | _ => rfl

theorem get?_act (c : RegistryCall κ ν ρ) (t : Table κ ν) (j : κ) :
    (c.act t).2.get? j = if j = c.key then (c.onValue (t.get? j)).2 else t.get? j := by
  cases c with
  | retain k v => exact t.get?_insert k v j
  | change k edit => exact t.get?_modify k (fun v => (edit v).2) j
  | release k => exact t.get?_erase k j
  | visit k look => exact (ite_self _).symm
  | contains k => exact (ite_self _).symm

variable {S : Set κ} {t u : Table κ ν}

/-- Tables that agree on some keys answer a call on one of them alike, and still agree. -/
theorem act_congr {c : RegistryCall κ ν ρ} (hc : c.key ∈ S) (htu : ∀ k ∈ S, t.get? k = u.get? k) :
    (c.act t).1 = (c.act u).1 ∧ ∀ k ∈ S, (c.act t).2.get? k = (c.act u).2.get? k := by
  refine ⟨?_, fun k hk => ?_⟩
  · rw [act_fst, act_fst, htu c.key hc]
  · rw [get?_act, get?_act, htu k hk]

/-- Other keys keep their values. -/
theorem get?_act_of_ne (c : RegistryCall κ ν ρ) (t : Table κ ν) {j : κ} (hj : j ≠ c.key) :
    (c.act t).2.get? j = t.get? j := by
  rw [get?_act, if_neg hj]

end RegistryCall

/-! ### One worker -/

/-- A worker: what its program still has to do, and the calls that it made, each with its answer. -/
structure Worker (κ ν ρ α : Type) where
  program : Program (RegistryInterface κ ν ρ) α
  answered : List ((c : RegistryCall κ ν ρ) × c.Answer) := []

namespace Worker

variable {S : Set κ} {w : Worker κ ν ρ α} {t u : Table κ ν} {c : RegistryCall κ ν ρ}
  {next : c.Answer → Program (RegistryInterface κ ν ρ) α} {o : Outcome α}

/-- Makes the next call. A worker that has ended does nothing. -/
def turn (w : Worker κ ν ρ α) (t : Table κ ν) : Worker κ ν ρ α × Table κ ν :=
  match w.program with
  | .call c next =>
    match RegistryCall.act c t with
    | (a, t) => (⟨next a, w.answered ++ [⟨c, a⟩]⟩, t)
  | _ => (w, t)

/-- Makes some calls, with nobody else at work. -/
def turns (n : Nat) (w : Worker κ ν ρ α) (t : Table κ ν) : Worker κ ν ρ α × Table κ ν :=
  (fun r => r.1.turn r.2)^[n] (w, t)

/-- Whether a worker calls for nothing but some keys. -/
def Keeps (S : Set κ) (w : Worker κ ν ρ α) : Prop :=
  w.program.AsksOnly fun c : RegistryCall κ ν ρ => c.key ∈ S

theorem turn_of_call (hw : w.program = .call c next) (t : Table κ ν) :
    w.turn t = (⟨next (c.act t).1, w.answered ++ [⟨c, (c.act t).1⟩]⟩, (c.act t).2) := by
  rw [turn, hw]

theorem turn_of_ended (hw : w.program.outcome? = some o) (t : Table κ ν) : w.turn t = (w, t) := by
  rw [turn]
  split
  · next hprogram =>
    rw [hprogram] at hw
    cases hw
  · rfl

theorem Keeps.turn (hw : w.Keeps S) (t : Table κ ν) : (w.turn t).1.Keeps S := by
  rcases w.program.call_or_ended with ⟨c, next, hcall⟩ | ⟨o, hended⟩
  · rw [Keeps, hcall] at hw
    rw [turn_of_call hcall]
    exact hw.2 _
  · rwa [turn_of_ended hended]

/-- A worker cannot tell tables apart that agree on its keys. -/
theorem Keeps.turn_congr (hw : w.Keeps S) (htu : ∀ k ∈ S, t.get? k = u.get? k) :
    (w.turn t).1 = (w.turn u).1 ∧ ∀ k ∈ S, (w.turn t).2.get? k = (w.turn u).2.get? k := by
  rcases w.program.call_or_ended with ⟨c, next, hcall⟩ | ⟨o, hended⟩
  · rw [Keeps, hcall] at hw
    obtain ⟨hanswer, hafter⟩ := RegistryCall.act_congr hw.1 htu
    rw [turn_of_call hcall, turn_of_call hcall, hanswer]
    exact ⟨rfl, hafter⟩
  · rw [turn_of_ended hended, turn_of_ended hended]
    exact ⟨rfl, htu⟩

/-- It leaves all other keys alone. -/
theorem Keeps.get?_turn (hw : w.Keeps S) (t : Table κ ν) {k : κ} (hk : k ∉ S) :
    (w.turn t).2.get? k = t.get? k := by
  rcases w.program.call_or_ended with ⟨c, next, hcall⟩ | ⟨o, hended⟩
  · rw [Keeps, hcall] at hw
    rw [turn_of_call hcall]
    exact RegistryCall.get?_act_of_ne c t fun heq => hk (heq ▸ hw.1)
  · rw [turn_of_ended hended]

/-! ### One worker until it ends -/

theorem turns_zero (w : Worker κ ν ρ α) (t : Table κ ν) : turns 0 w t = (w, t) := rfl

theorem turns_succ (n : Nat) (w : Worker κ ν ρ α) (t : Table κ ν) :
    turns (n + 1) w t = turns n (w.turn t).1 (w.turn t).2 := rfl

theorem turns_of_ended (hw : w.program.outcome? = some o) (n : Nat) (t : Table κ ν) :
    turns n w t = (w, t) :=
  Function.iterate_fixed (turn_of_ended hw t) n

/-- A worker that ended has run its program. -/
theorem run_of_ended {n : Nat} (hended : (turns n w t).1.program.outcome? = some o) :
    w.program.run RegistryCall.act t = (o, (turns n w t).2) ∧
      (turns n w t).1.answered = w.answered ++ w.program.answered RegistryCall.act t := by
  induction n generalizing w t with
  | zero =>
    rw [turns_zero] at hended ⊢
    obtain ⟨hrun, hanswered⟩ := Program.run_of_ended hended RegistryCall.act t
    refine ⟨hrun, ?_⟩
    rw [hanswered, List.append_nil]
  | succ n ih =>
    rcases w.program.call_or_ended with ⟨c, next, hcall⟩ | ⟨o', hended'⟩
    · rw [turns_succ, turn_of_call hcall] at hended ⊢
      obtain ⟨hrun, hanswered⟩ := ih hended
      rw [hcall]
      refine ⟨hrun, ?_⟩
      rw [hanswered, List.append_assoc]
      rfl
    · rw [turns_succ, turn_of_ended hended'] at hended ⊢
      exact ih hended

/-- A worker with as many turns as its program makes calls has ended. -/
theorem ended_of_le {n : Nat} (hn : (w.program.answered RegistryCall.act t).length ≤ n) :
    (turns n w t).1.program.outcome?.isSome = true := by
  induction n generalizing w t with
  | zero =>
    rcases w.program.call_or_ended with ⟨c, next, hcall⟩ | ⟨o, hended⟩
    · rw [hcall] at hn
      exact absurd hn (Nat.not_succ_le_zero _)
    · rw [turns_zero, hended]
      rfl
  | succ n ih =>
    rcases w.program.call_or_ended with ⟨c, next, hcall⟩ | ⟨o, hended⟩
    · rw [turns_succ, turn_of_call hcall]
      rw [hcall] at hn
      exact ih (Nat.le_of_succ_le_succ hn)
    · rw [turns_of_ended hended, hended]
      rfl

end Worker

/-! ### Many workers -/

/-- Workers with a registry that they share. -/
structure Crew (ι κ ν ρ α : Type) where
  workers : ι → Worker κ ν ρ α
  registry : Table κ ν

namespace Crew

/-- Everybody at the beginning of a program, with nothing in the registry. -/
def start (programs : ι → Program (RegistryInterface κ ν ρ) α) : Crew ι κ ν ρ α :=
  { workers := fun i => { program := programs i }, registry := Table.empty }

variable {keys : ι → Set κ} {crew : Crew ι κ ν ρ α} {alone : ι → Worker κ ν ρ α × Table κ ν}

/-- Whether each worker of a crew stands where it stands on its own, and the registry of the crew
holds under its keys what it has there, and nothing else. -/
structure Apart (keys : ι → Set κ) (crew : Crew ι κ ν ρ α)
    (alone : ι → Worker κ ν ρ α × Table κ ν) : Prop where
  worker_eq : ∀ i, crew.workers i = (alone i).1
  keeps : ∀ i, (alone i).1.Keeps (keys i)
  inside : ∀ i, ∀ k ∈ keys i, crew.registry.get? k = (alone i).2.get? k
  outside : ∀ i, ∀ k ∉ keys i, (alone i).2.get? k = none
  unused : ∀ k, (∀ i, k ∉ keys i) → crew.registry.get? k = none

theorem apart_start {programs : ι → Program (RegistryInterface κ ν ρ) α}
    (hprograms : ∀ i, (programs i).AsksOnly fun c : RegistryCall κ ν ρ => c.key ∈ keys i) :
    (start programs).Apart keys fun i => ({ program := programs i }, Table.empty) where
  worker_eq _ := rfl
  keeps := hprograms
  inside _ _ _ := rfl
  outside _ _ _ := rfl
  unused _ _ := rfl

/-- The shared registry has the entries of the others, put together. -/
theorem Apart.mem_entries_iff (hcrew : crew.Apart keys alone) (e : κ × ν) :
    e ∈ crew.registry.entries ↔ ∃ i, e ∈ (alone i).2.entries := by
  obtain ⟨k, v⟩ := e
  simp only [← Table.get?_eq_some_iff]
  constructor
  · intro hshared
    by_cases hk : ∃ i, k ∈ keys i
    · obtain ⟨i, hi⟩ := hk
      exact ⟨i, (hcrew.inside i k hi).symm.trans hshared⟩
    · rw [hcrew.unused k fun i hi => hk ⟨i, hi⟩] at hshared
      cases hshared
  · rintro ⟨i, hown⟩
    by_cases hi : k ∈ keys i
    · exact (hcrew.inside i k hi).trans hown
    · rw [hcrew.outside i k hi] at hown
      cases hown

/-- No two of them have an entry in common. -/
theorem Apart.entries_perm [Fintype ι] (hcrew : crew.Apart keys alone)
    (hkeys : ∀ i j, i ≠ j → ∀ k ∈ keys i, k ∉ keys j) :
    crew.registry.entries.Perm (Finset.univ.toList.flatMap fun i => (alone i).2.entries) := by
  have hnodup : ∀ t : Table κ ν, t.entries.Nodup := fun t => t.nodup_keys.of_map
  have hinside : ∀ i, ∀ e ∈ (alone i).2.entries, e.1 ∈ keys i := by
    rintro i ⟨k, v⟩ he
    by_contra hk
    rw [← Table.get?_eq_some_iff, hcrew.outside i k hk] at he
    cases he
  refine (List.perm_ext_iff_of_nodup (hnodup _) ?_).mpr fun e => ?_
  · refine List.nodup_flatMap.mpr ⟨fun i _ => hnodup _, ?_⟩
    refine (Finset.nodup_toList _).imp fun {i j} hij => ?_
    intro e hi hj
    exact hkeys i j hij e.1 (hinside i e hi) (hinside j e hj)
  · rw [hcrew.mem_entries_iff, List.mem_flatMap]
    simp

/-! ### Turns -/

variable [DecidableEq ι]

/-- One worker takes a turn. -/
def turn (crew : Crew ι κ ν ρ α) (i : ι) : Crew ι κ ν ρ α :=
  match (crew.workers i).turn crew.registry with
  | (w, t) => { workers := Function.update crew.workers i w, registry := t }

/-- Workers take turns as scheduled. -/
def run (schedule : List ι) (crew : Crew ι κ ν ρ α) : Crew ι κ ν ρ α :=
  schedule.foldl turn crew

/-- A turn in the crew is a turn of the same worker on its own. -/
theorem Apart.turn (hcrew : crew.Apart keys alone)
    (hkeys : ∀ i j, i ≠ j → ∀ k ∈ keys i, k ∉ keys j) (i : ι) :
    (crew.turn i).Apart keys (Function.update alone i ((alone i).1.turn (alone i).2)) := by
  have hkeeps := hcrew.keeps i
  obtain ⟨hworker, hinside⟩ := hkeeps.turn_congr (hcrew.inside i)
  have hturn : crew.turn i =
      { workers := Function.update crew.workers i ((alone i).1.turn crew.registry).1
        registry := ((alone i).1.turn crew.registry).2 } := by
    rw [Crew.turn, hcrew.worker_eq i]
  rw [hturn]
  -- each clause is about the worker whose turn it is, or about another one, whose keys stay
  refine ⟨fun j => ?_, fun j => ?_, fun j k hk => ?_, fun j k hk => ?_, fun k hk => ?_⟩
  · dsimp only
    by_cases hj : j = i
    · subst hj
      rw [Function.update_self, Function.update_self, hworker]
    · rw [Function.update_of_ne hj, Function.update_of_ne hj]
      exact hcrew.worker_eq j
  · by_cases hj : j = i
    · subst hj
      rw [Function.update_self]
      exact hkeeps.turn _
    · rw [Function.update_of_ne hj]
      exact hcrew.keeps j
  · by_cases hj : j = i
    · subst hj
      rw [Function.update_self]
      exact hinside k hk
    · have hother : k ∉ keys i := hkeys j i hj k hk
      rw [Function.update_of_ne hj]
      exact (hkeeps.get?_turn crew.registry hother).trans (hcrew.inside j k hk)
  · by_cases hj : j = i
    · subst hj
      rw [Function.update_self, hkeeps.get?_turn _ hk]
      exact hcrew.outside j k hk
    · rw [Function.update_of_ne hj]
      exact hcrew.outside j k hk
  · exact (hkeeps.get?_turn crew.registry (hk i)).trans (hcrew.unused k hk)

/-- Whatever the order of the turns is, each worker stands where as many turns lead it on its own. -/
theorem Apart.run (hcrew : crew.Apart keys alone)
    (hkeys : ∀ i j, i ≠ j → ∀ k ∈ keys i, k ∉ keys j) (schedule : List ι) :
    (crew.run schedule).Apart keys fun i => (alone i).1.turns (schedule.count i) (alone i).2 := by
  induction schedule generalizing crew alone with
  | nil => exact hcrew
  | cons i schedule ih =>
    have hrest := ih (hcrew.turn hkeys i)
    -- only the worker whose turn it was has one turn fewer to go
    have hturns : (fun j => (alone j).1.turns ((i :: schedule).count j) (alone j).2) = fun j =>
        (Function.update alone i ((alone i).1.turn (alone i).2) j).1.turns (schedule.count j)
          (Function.update alone i ((alone i).1.turn (alone i).2) j).2 := by
      funext j
      by_cases hj : j = i
      · subst hj
        rw [List.count_cons_self, Function.update_self, Worker.turns_succ]
      · rw [List.count_cons_of_ne (Ne.symm hj), Function.update_of_ne hj]
    rw [hturns]
    exact hrest

/-- Workers whose keys are different do not interfere. Whatever the order of their turns is, each of
them stands where as many turns lead it alone on an empty registry, with the same answers to the
same calls. The registry holds the entries that they would have left alone, each exactly once, so its
size is the sum of theirs. A worker that has ended has run its program, and one with as many turns as
its program makes calls has ended. -/
theorem workers_do_not_interfere [Fintype ι] {keys : ι → Set κ}
    (hkeys : ∀ i j, i ≠ j → ∀ k ∈ keys i, k ∉ keys j)
    {programs : ι → Program (RegistryInterface κ ν ρ) α}
    (hprograms : ∀ i, (programs i).AsksOnly fun c : RegistryCall κ ν ρ => c.key ∈ keys i)
    (schedule : List ι) :
    let crew := (start programs).run schedule
    let alone (i : ι) := Worker.turns (schedule.count i) { program := programs i } Table.empty
    (∀ i, crew.workers i = (alone i).1) ∧
      crew.registry.entries.Perm (Finset.univ.toList.flatMap fun i => (alone i).2.entries) ∧
      crew.registry.size = ∑ i, (alone i).2.size ∧
      (∀ i o, (crew.workers i).program.outcome? = some o →
        (programs i).run RegistryCall.act Table.empty = (o, (alone i).2) ∧
          (crew.workers i).answered = (programs i).answered RegistryCall.act Table.empty) ∧
      ∀ i, ((programs i).answered RegistryCall.act Table.empty).length ≤ schedule.count i →
        (crew.workers i).program.outcome?.isSome = true := by
  intro crew alone
  have hcrew : crew.Apart keys alone := (apart_start hprograms).run hkeys schedule
  have hperm := hcrew.entries_perm hkeys
  refine ⟨hcrew.worker_eq, hperm, ?_, fun i o hended => ?_, fun i hturns => ?_⟩
  · rw [Table.size, hperm.length_eq, List.length_flatMap, ← Finset.sum_map_toList]
    rfl
  · rw [hcrew.worker_eq i] at hended ⊢
    exact Worker.run_of_ended hended
  · rw [hcrew.worker_eq i]
    exact Worker.ended_of_le hturns

/-- Two workers that keep two values each, change one of them and release the other one, with their
turns mixed. -/
theorem registry_of_two_workers :
    let program (i : Bool) : Program (RegistryInterface (Bool × Nat) Nat Nat) Nat :=
      .call (.retain (i, 0) 7) fun _ => .call (.retain (i, 1) 8) fun _ =>
        .call (.change (i, 1) fun v => (v, v + 1)) fun seen => .call (.release (i, 0)) fun last =>
          .done (seen.getD 0 + last.getD 0)
    let schedule : List Bool := [true, false, false, true, true, false, true, false]
    let crew := (start program).run schedule
    crew.registry.size = 2 ∧
      ∀ i, (crew.workers i).program.outcome? = some (.done 15) := by
  intro program schedule crew
  have hkeys : ∀ i j : Bool, i ≠ j →
      ∀ k ∈ {k : Bool × Nat | k.1 = i}, k ∉ {k : Bool × Nat | k.1 = j} :=
    fun i j hij k hi hj => hij (Eq.trans (Eq.symm hi) hj)
  have hprograms : ∀ i, (program i).AsksOnly fun c : RegistryCall (Bool × Nat) Nat Nat =>
      c.key ∈ {k : Bool × Nat | k.1 = i} :=
    fun i => ⟨rfl, fun _ => ⟨rfl, fun _ => ⟨rfl, fun _ => ⟨rfl, fun _ => trivial⟩⟩⟩⟩
  obtain ⟨-, -, hsize, hended, hturns⟩ := workers_do_not_interfere hkeys hprograms schedule
  refine ⟨?_, fun i => ?_⟩
  · rw [hsize]
    decide +kernel
  · have hfour : ((program i).answered RegistryCall.act Table.empty).length ≤
        [true, false, false, true, true, false, true, false].count i := by
      revert i
      decide +kernel
    obtain ⟨o, ho⟩ := Option.isSome_iff_exists.mp (hturns i hfour)
    obtain ⟨hrun, -⟩ := hended i o ho
    have hfifteen : ((program i).run RegistryCall.act Table.empty).1 = .done 15 := by
      cases i <;> rfl
    rw [hrun] at hfifteen
    rw [ho]
    exact congrArg some hfifteen

end Crew

end Gateway
