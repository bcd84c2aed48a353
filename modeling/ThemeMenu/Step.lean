import ThemeMenu.Log

/-!
# ThemeMenu.Step

Operations on something that has a state. An operation ends with an answer or with an error, and in
both cases it leaves a state behind: what it changed before it failed stays changed. That an
operation which fails changes nothing is therefore never given, but follows from the order in which
it checks and writes.

* `Step`: how an operation ended, the state it left, and the lines it reported.
* `Step.andThen`: going on from the state that is left, unless the step failed.
* `Routine`: an operation as a function of the state, a monad with `get`, `modify`, `fail` and
  `report`.
-/

namespace ThemeMenu

structure Step (σ ε α : Type) where
  result : Except ε α
  after : σ
  logs : List Log.Line

namespace Step

variable {σ τ ε α β : Type}

/-- A step that failed is the last one; the state that it left is kept. -/
def andThen (u : Step σ ε α) (f : α → σ → Step σ ε β) : Step σ ε β :=
  match u with
  | ⟨.ok a, s, logs⟩ =>
    let v := f a s
    ⟨v.result, v.after, logs ++ v.logs⟩
  | ⟨.error e, s, logs⟩ => ⟨.error e, s, logs⟩

/-- The same step with another answer. -/
def answering (u : Step σ ε α) (b : β) : Step σ ε β := ⟨u.result.map fun _ => b, u.after, u.logs⟩

/-- The same step, with its state seen through a function. -/
def map (φ : σ → τ) (u : Step σ ε α) : Step τ ε α := ⟨u.result, φ u.after, u.logs⟩

@[simp] theorem andThen_ok (a : α) (s : σ) (logs : List Log.Line) (f : α → σ → Step σ ε β) :
    (⟨.ok a, s, logs⟩ : Step σ ε α).andThen f
      = ⟨(f a s).result, (f a s).after, logs ++ (f a s).logs⟩ := rfl

@[simp] theorem andThen_error (e : ε) (s : σ) (logs : List Log.Line) (f : α → σ → Step σ ε β) :
    (⟨.error e, s, logs⟩ : Step σ ε α).andThen f = ⟨.error e, s, logs⟩ := rfl

theorem answering_eq_error_iff {u : Step σ ε α} {b : β} {e : ε} :
    (u.answering b).result = .error e ↔ u.result = .error e := by
  cases hr : u.result <;> simp [answering, hr, Except.map]

end Step

def Routine (σ ε α : Type) : Type := σ → Step σ ε α

namespace Routine

variable {σ ε α β : Type}

def run (s : σ) (r : Routine σ ε α) : Step σ ε α := r s

def get : Routine σ ε σ := fun s => ⟨.ok s, s, []⟩

def modify (f : σ → σ) : Routine σ ε Unit := fun s => ⟨.ok (), f s, []⟩

def fail (e : ε) : Routine σ ε α := fun s => ⟨.error e, s, []⟩

def report (lines : List Log.Line) : Routine σ ε Unit := fun s => ⟨.ok (), s, lines⟩

instance : Monad (Routine σ ε) where
  pure a := fun s => ⟨.ok a, s, []⟩
  bind r f := fun s => (r s).andThen f

section Run

variable {s : σ}

@[simp] theorem run_pure (a : α) : run s (pure a : Routine σ ε α) = ⟨.ok a, s, []⟩ := rfl

@[simp] theorem run_bind (r : Routine σ ε α) (f : α → Routine σ ε β) :
    run s (r >>= f) = (run s r).andThen fun a t => run t (f a) := rfl

@[simp] theorem run_get : run s (get : Routine σ ε σ) = ⟨.ok s, s, []⟩ := rfl

@[simp] theorem run_modify (f : σ → σ) : run s (modify f : Routine σ ε Unit) = ⟨.ok (), f s, []⟩ :=
  rfl

@[simp] theorem run_fail (e : ε) : run s (fail e : Routine σ ε α) = ⟨.error e, s, []⟩ := rfl

@[simp] theorem run_report (lines : List Log.Line) :
    run s (report lines : Routine σ ε Unit) = ⟨.ok (), s, lines⟩ := rfl

end Run

end Routine
end ThemeMenu
