import Mathlib

/-!
# Guarded runs of a partial step function

A system is a partial function `step : σ → α → Option σ`: `step s a = none`
when action `a` is not enabled in `s`.  `Reach step ok init s` says that `s`
is reached from `init` by enabled steps that each satisfy the guard `ok`
(`anyStep` when every enabled step is allowed).  A safety property is proved
by `Reach.invariant`: it holds initially and one guarded step keeps it.
`exec` runs a list of actions, so that a concrete run gives a concrete
reachable state (`Reach.of_exec`).
-/

namespace Transition

variable {σ α : Type}

/-- States reached from `init` by enabled steps that satisfy `ok`. -/
inductive Reach (step : σ → α → Option σ) (ok : σ → α → Prop) (init : σ) : σ → Prop
  | init : Reach step ok init init
  | step {s s' : σ} {a : α} : Reach step ok init s → ok s a → step s a = some s' →
      Reach step ok init s'

/-- The guard that allows every step. -/
def anyStep (_ : σ) (_ : α) : Prop := True

instance : ∀ (s : σ) (a : α), Decidable (anyStep s a) := fun _ _ => inferInstanceAs (Decidable True)

section
variable {step : σ → α → Option σ} {ok : σ → α → Prop} {init s s' : σ}

/-- What holds initially and is kept by every guarded step holds of every reached state. -/
theorem Reach.invariant {P : σ → Prop} (h0 : P init)
    (hstep : ∀ s a s', P s → ok s a → step s a = some s' → P s') (h : Reach step ok init s) :
    P s := by
  induction h with
  | init => exact h0
  | step _ hok hs ih => exact hstep _ _ _ ih hok hs

/-- Runs compose. -/
theorem Reach.trans (h : Reach step ok init s) (h' : Reach step ok s s') :
    Reach step ok init s' := by
  induction h' with
  | init => exact h
  | step _ hok hs ih => exact .step ih hok hs

/-- A run under a guard is a run under a weaker one. -/
theorem Reach.mono {ok' : σ → α → Prop} (hok : ∀ s a, ok s a → ok' s a)
    (h : Reach step ok init s) : Reach step ok' init s := by
  induction h with
  | init => exact .init
  | step _ ha hs ih => exact .step ih (hok _ _ ha) hs

/-- Perform the actions one after the other, refusing one that the guard forbids. -/
def exec (step : σ → α → Option σ) (ok : σ → α → Prop) [∀ s a, Decidable (ok s a)] :
    σ → List α → Option σ
  | s, [] => some s
  | s, a :: as =>
    if ok s a then
      match step s a with
      | some s' => exec step ok s' as
      | none => none
    else none

@[simp] theorem exec_nil [∀ s a, Decidable (ok s a)] : exec step ok s [] = some s := rfl

@[simp] theorem exec_anyStep_cons (a : α) (as : List α) :
    exec step anyStep s (a :: as) = (step s a).bind fun s' => exec step anyStep s' as := by
  have hok : anyStep s a := trivial
  rw [exec, if_pos hok]
  cases step s a <;> rfl

/-- The last of a list of actions. -/
theorem exec_anyStep_concat {l : List α} {a : α} :
    exec step anyStep s (l ++ [a]) = some s' ↔
      ∃ s₁, exec step anyStep s l = some s₁ ∧ step s₁ a = some s' := by
  induction l generalizing s with
  | nil =>
    rw [List.nil_append, exec_anyStep_cons]
    cases h : step s a <;> simp [h]
  | cons b l ih =>
    rw [List.cons_append, exec_anyStep_cons, exec_anyStep_cons]
    cases step s b with
    | none => simp
    | some s₁ => exact ih

theorem Reach.of_exec [∀ s a, Decidable (ok s a)] (l : List α) (h : exec step ok s l = some s') :
    Reach step ok s s' := by
  induction l generalizing s with
  | nil =>
    obtain rfl : s = s' := by simpa [exec] using h
    exact .init
  | cons a as ih =>
    rw [exec] at h
    split at h
    · next hok =>
      split at h
      · next s1 hs => exact (Reach.init.step hok hs).trans (ih h)
      · cases h
    · cases h

/-- The state a concrete run ends in. -/
theorem Reach.get_exec [∀ s a, Decidable (ok s a)] (l : List α)
    (h : (exec step ok s l).isSome = true) : Reach step ok s ((exec step ok s l).get h) :=
  .of_exec l (Option.some_get h).symm

end

end Transition
