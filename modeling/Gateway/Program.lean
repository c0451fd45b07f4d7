import Gateway.Report.Failure

/-!
# Programs

Code of an application as data. A program asks for something, gets an answer and goes on with it,
until it is done or panics. What it may ask for is its interface; how a question is answered, and
what that changes, is up to whoever runs it. A program has no other way to touch anything, so what
holds of every answer holds of the whole run.
-/

namespace Gateway

/-- What a program may ask for. -/
structure Interface where
  Call : Type
  /-- What the answer to a question looks like. -/
  Answer : Call → Type

/-- A program over an interface that ends with an `α`. -/
inductive Program (I : Interface) (α : Type) where
  | done (a : α)
  | panic (p : Panic)
  /-- The program asks for something and goes on with the answer. -/
  | call (c : I.Call) (next : I.Answer c → Program I α)

/-- How a run ended. -/
inductive Outcome (α : Type) where
  | done (a : α)
  | panicked (p : Panic)

namespace Outcome

def panic? {α : Type} : Outcome α → Option Panic
  | done _ => none
  | panicked p => some p

end Outcome

namespace Program

variable {I : Interface} {α β : Type}

/-- One question, and its answer as the result. -/
def ask (c : I.Call) : Program I (I.Answer c) := call c done

/-- A program, and then another one that depends on its result. -/
def bind (p : Program I α) (f : α → Program I β) : Program I β :=
  match p with
  | done a => f a
  | panic m => panic m
  | call c next => call c fun x => (next x).bind f

instance : Monad (Program I) where
  pure := done
  bind := bind

/-- The same program with panics turned into an ordinary end. -/
def calm (p : Program I Unit) : Program I Unit :=
  match p with
  | done a => done a
  | panic _ => done ()
  | call c next => call c fun x => (next x).calm

/-- Runs a program; `act` answers its questions over a state. -/
def run {σ : Type} (act : (c : I.Call) → σ → I.Answer c × σ) : Program I α → σ → Outcome α × σ
  | done a, s => (.done a, s)
  | panic p, s => (.panicked p, s)
  | call c next, s => run act (next (act c s).1) (act c s).2

/-! ### Runs -/

/-- The run of one program and then another is one run after the other, unless the first one
panics. -/
theorem run_bind {σ : Type} (act : (c : I.Call) → σ → I.Answer c × σ) (p : Program I α)
    (f : α → Program I β) (s : σ) :
    (p.bind f).run act s =
      match p.run act s with
      | (.done a, t) => (f a).run act t
      | (.panicked m, t) => (.panicked m, t) := by
  induction p generalizing s with
  | done a => rfl
  | panic m => rfl
  | call c next ih => exact ih (act c s).1 (act c s).2

/-- A program that panics leaves everything as the calm one leaves it: only the ending differs. -/
theorem run_calm {σ : Type} (act : (c : I.Call) → σ → I.Answer c × σ) (p : Program I Unit) (s : σ) :
    p.calm.run act s = (.done (), (p.run act s).2) := by
  induction p generalizing s with
  | done a => rfl
  | panic m => rfl
  | call c next ih => exact ih (act c s).1 (act c s).2

end Program

end Gateway
