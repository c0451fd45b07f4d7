import Gateway.Program

/-!
# Runs of programs

What a program asks for is all that it does. So a relation between two states that every answer keeps
is kept by a whole run (`run_related`), and a run leaves the state that its questions leave one after
the other (`run_snd`), no matter whether it ends or panics. `trace` lists the questions of a run
together with the states in which they were asked. A program that comes to ask for something whatever
it is answered (`Reaches`) leaves the mark of this one question (`run_of_reaches`).
-/

namespace Gateway.Program

variable {I : Interface} {α σ τ : Type}

/-- Whether a program asks for nothing but what `P` allows, whatever it is answered. -/
def AsksOnly (P : I.Call → Prop) : Program I α → Prop
  | done _ => True
  | panic _ => True
  | call c next => P c ∧ ∀ x, (next x).AsksOnly P

/-! ### Two runs of one program -/

/-- If two states that are related answer alike whatever is allowed, and stay related, then a program
that asks for nothing else ends the same way from both. -/
theorem run_related {P : I.Call → Prop} {R : σ → τ → Prop}
    {act : (c : I.Call) → σ → I.Answer c × σ} {act' : (c : I.Call) → τ → I.Answer c × τ}
    (hact : ∀ c, P c → ∀ {s t}, R s t →
      (act c s).1 = (act' c t).1 ∧ R (act c s).2 (act' c t).2)
    {p : Program I α} (hp : p.AsksOnly P) {s : σ} {t : τ} (hst : R s t) :
    (p.run act s).1 = (p.run act' t).1 ∧ R (p.run act s).2 (p.run act' t).2 := by
  induction p generalizing s t with
  | done a => exact ⟨rfl, hst⟩
  | panic m => exact ⟨rfl, hst⟩
  | call c next ih =>
    obtain ⟨hc, hnext⟩ := hp
    obtain ⟨hanswer, hrelated⟩ := hact c hc hst
    -- the answers are the same, so both runs go on with the same program
    rw [run, run, ← hanswer]
    exact ih _ (hnext _) hrelated

/-- What every answer keeps is kept by a run. -/
theorem run_preserves {P : I.Call → Prop} {Q : σ → Prop}
    {act : (c : I.Call) → σ → I.Answer c × σ}
    (hact : ∀ c, P c → ∀ {s}, Q s → Q (act c s).2)
    {p : Program I α} (hp : p.AsksOnly P) {s : σ} (hs : Q s) : Q (p.run act s).2 := by
  induction p generalizing s with
  | done a => exact hs
  | panic m => exact hs
  | call c next ih => exact ih _ (hp.2 _) (hact c hp.1 hs)

/-! ### Programs that come to a question, and programs that return -/

/-- Whether a program comes to ask for something that `P` allows, whatever it is answered. -/
def Reaches (P : I.Call → Prop) : Program I α → Prop
  | done _ => False
  | panic _ => False
  | call c next => P c ∨ ∀ x, (next x).Reaches P

/-- Whether a program does not panic, whatever it is answered. -/
def Returns : Program I α → Prop
  | done _ => True
  | panic _ => False
  | call _ next => ∀ x, (next x).Returns

section

variable {P : I.Call → Prop} {p : Program I α} {f : α → Program I β}

theorem asksOnly_true (p : Program I α) : p.AsksOnly fun _ => True := by
  induction p with
  | done a => trivial
  | panic m => trivial
  | call c next ih => exact ⟨trivial, ih⟩

theorem Returns.bind (hp : p.Returns) (hf : ∀ a, (f a).Returns) : (p >>= f).Returns := by
  induction p with
  | done a => exact hf a
  | panic m => exact hp.elim
  | call c next ih => exact fun x => ih x (hp x)

/-- What comes after a program that does not panic is come to. -/
theorem Returns.reaches_bind (hp : p.Returns) (hf : ∀ a, (f a).Reaches P) :
    (p >>= f).Reaches P := by
  induction p with
  | done a => exact hf a
  | panic m => exact hp.elim
  | call c next ih => exact Or.inr fun x => ih x (hp x)

variable {act : (c : I.Call) → σ → I.Answer c × σ}

theorem run_of_returns (hp : p.Returns) (s : σ) : ∃ a t, p.run act s = (.done a, t) := by
  induction p generalizing s with
  | done a => exact ⟨a, s, rfl⟩
  | panic m => exact hp.elim
  | call c next ih => exact ih _ (hp _) _

/-- What every answer keeps, and one answer turns into something that every answer keeps, has turned
by the end of a run that comes to ask for this one. -/
theorem run_of_reaches {Q R : σ → Prop} (hQ : ∀ c {s}, Q s → Q (act c s).2)
    (hP : ∀ c, P c → ∀ {s}, Q s → R (act c s).2) (hR : ∀ c {s}, R s → R (act c s).2)
    (hp : p.Reaches P) {s : σ} (hs : Q s) : R (p.run act s).2 := by
  induction p generalizing s with
  | done a => exact hp.elim
  | panic m => exact hp.elim
  | call c next ih =>
    rcases hp with hc | hnext
    · exact run_preserves (Q := R) (fun c _ => hR c) (asksOnly_true (next (act c s).1)) (hP c hc hs)
    · exact ih _ (hnext _) (hQ c hs)

end

/-! ### What a run asked for -/

/-- What a program asks for in a run, in order. -/
def asked (act : (c : I.Call) → σ → I.Answer c × σ) : Program I α → σ → List I.Call
  | done _, _ => []
  | panic _, _ => []
  | call c next, s => c :: asked act (next (act c s).1) (act c s).2

/-- A run leaves the state that its questions leave, one after the other. -/
theorem run_snd (act : (c : I.Call) → σ → I.Answer c × σ) (p : Program I α) (s : σ) :
    (p.run act s).2 = (p.asked act s).foldl (fun s c => (act c s).2) s := by
  induction p generalizing s with
  | done a => rfl
  | panic m => rfl
  | call c next ih => exact ih (act c s).1 (act c s).2

/-- A program that returns where another one panics has asked for the same until then. -/
theorem asked_calm (act : (c : I.Call) → σ → I.Answer c × σ) (p : Program I Unit) (s : σ) :
    p.calm.asked act s = p.asked act s := by
  induction p generalizing s with
  | done a => rfl
  | panic m => rfl
  | call c next ih => exact congrArg (c :: ·) (ih (act c s).1 (act c s).2)

/-- What a program asks for in a run and what it is answered, in order. -/
def answered (act : (c : I.Call) → σ → I.Answer c × σ) :
    Program I α → σ → List ((c : I.Call) × I.Answer c)
  | done _, _ => []
  | panic _, _ => []
  | call c next, s => ⟨c, (act c s).1⟩ :: answered act (next (act c s).1) (act c s).2

/-- How a program ended that asks for nothing any more. -/
def outcome? : Program I α → Option (Outcome α)
  | done a => some (.done a)
  | panic m => some (.panicked m)
  | call _ _ => none

/-- A program asks for something, or has ended. -/
theorem call_or_ended (p : Program I α) :
    (∃ c next, p = call c next) ∨ ∃ o, p.outcome? = some o := by
  cases p with
  | done a => exact .inr ⟨_, rfl⟩
  | panic m => exact .inr ⟨_, rfl⟩
  | call c next => exact .inl ⟨c, next, rfl⟩

/-- A program that has ended asks for nothing. -/
theorem run_of_ended {p : Program I α} {o : Outcome α} (hp : p.outcome? = some o)
    (act : (c : I.Call) → σ → I.Answer c × σ) (s : σ) :
    p.run act s = (o, s) ∧ p.answered act s = [] := by
  cases p with
  | call c next => cases hp
  | done a =>
    cases hp
    exact ⟨rfl, rfl⟩
  | panic m =>
    cases hp
    exact ⟨rfl, rfl⟩

/-- What a program asks for in a run, in order, each question with the state that it meets. -/
def trace (act : (c : I.Call) → σ → I.Answer c × σ) : Program I α → σ → List (I.Call × σ)
  | done _, _ => []
  | panic _, _ => []
  | call c next, s => (c, s) :: trace act (next (act c s).1) (act c s).2

/-- The questions of one program and then another are those of one run after the other, unless the
first one panics. -/
theorem trace_bind (act : (c : I.Call) → σ → I.Answer c × σ) (p : Program I α)
    (f : α → Program I β) (s : σ) :
    (p >>= f).trace act s = p.trace act s ++
      match p.run act s with
      | (.done a, t) => (f a).trace act t
      | (.panicked _, _) => [] := by
  induction p generalizing s with
  | done a => rfl
  | panic m => rfl
  | call c next ih => exact congrArg ((c, s) :: ·) (ih (act c s).1 (act c s).2)

end Gateway.Program
