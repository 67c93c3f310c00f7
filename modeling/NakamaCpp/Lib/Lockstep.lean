import Mathlib

/-!
# Machines that answer every input

A machine is a total function `step : σ → ι → σ × ω`: the next state and the output.  Two machines
that are given the same inputs answer alike when a relation between their states is kept, and
their outputs agree, at every input that is allowed (`outputs_of_simulation`), or allowed in the
state that it meets (`outputs_of_guarded`).
-/

namespace Lockstep

variable {σ τ ι ω ω' : Type}

/-- The outputs to a sequence of inputs, one after the other. -/
def outputs (step : σ → ι → σ × ω) : σ → List ι → List ω
  | _, [] => []
  | s, i :: is => (step s i).2 :: outputs step (step s i).1 is

/-- One input keeps the relation, and `f` makes the output of the first machine into that of
the second. -/
def Simulates (step : σ → ι → σ × ω) (step' : τ → ι → τ × ω') (R : σ → τ → Prop) (f : ω → ω')
    (ok : ι → Prop) : Prop :=
  ∀ s t i, R s t → ok i → R (step s i).1 (step' t i).1 ∧ (step' t i).2 = f (step s i).2

/-! ## Inputs that are allowed in some states -/

/-- The state after a sequence of inputs. -/
def final (step : σ → ι → σ × ω) : σ → List ι → σ
  | s, [] => s
  | s, i :: is => final step (step s i).1 is

/-- Every input is allowed in the state that it meets. -/
def Guarded (step : σ → ι → σ × ω) (ok : σ → ι → Prop) : σ → List ι → Prop
  | _, [] => True
  | s, i :: is => ok s i ∧ Guarded step ok (step s i).1 is

section
variable {step : σ → ι → σ × ω} {ok : σ → ι → Prop}

theorem Guarded.of_append {s : σ} {is js : List ι} (h : Guarded step ok s (is ++ js)) :
    Guarded step ok s is ∧ Guarded step ok (final step s is) js := by
  induction is generalizing s with
  | nil => exact ⟨trivial, h⟩
  | cons i is ih =>
    obtain ⟨hi, hrest⟩ := h
    obtain ⟨his, hjs⟩ := ih hrest
    exact ⟨⟨hi, his⟩, hjs⟩

theorem Guarded.of_forall {ok : ι → Prop} {is : List ι} (h : ∀ i ∈ is, ok i) (s : σ) :
    Guarded step (fun _ => ok) s is := by
  induction is generalizing s with
  | nil => exact trivial
  | cons i is ih =>
    exact ⟨h i List.mem_cons_self, ih (fun j hj => h j (List.mem_cons_of_mem _ hj)) _⟩

/-- Two machines that go along at every input that is allowed for the first. -/
theorem outputs_of_guarded {step' : τ → ι → τ × ω'} {R : σ → τ → Prop} {f : ω → ω'}
    (h : ∀ s t i, R s t → ok s i →
      R (step s i).1 (step' t i).1 ∧ (step' t i).2 = f (step s i).2)
    {is : List ι} {s : σ} {t : τ} (hok : Guarded step ok s is) (hR : R s t) :
    outputs step' t is = (outputs step s is).map f := by
  induction is generalizing s t with
  | nil => rfl
  | cons i is ih =>
    obtain ⟨hnext, hout⟩ := h s t i hR hok.1
    have hrest := ih hok.2 hnext
    show (step' t i).2 :: _ = f (step s i).2 :: _
    rw [hout, hrest]

/-- So they are related after the sequence. -/
theorem final_of_guarded {step' : τ → ι → τ × ω'} {R : σ → τ → Prop}
    (h : ∀ s t i, R s t → ok s i → R (step s i).1 (step' t i).1) {is : List ι} {s : σ} {t : τ}
    (hok : Guarded step ok s is) (hR : R s t) : R (final step s is) (final step' t is) := by
  induction is generalizing s t with
  | nil => exact hR
  | cons i is ih => exact ih hok.2 (h s t i hR hok.1)

/-- Two machines that go along at every input of the sequence. -/
theorem outputs_of_simulation {step' : τ → ι → τ × ω'} {R : σ → τ → Prop} {f : ω → ω'}
    {ok : ι → Prop} (h : Simulates step step' R f ok) {is : List ι} (hok : ∀ i ∈ is, ok i)
    {s : σ} {t : τ} (hR : R s t) : outputs step' t is = (outputs step s is).map f :=
  outputs_of_guarded h (Guarded.of_forall hok s) hR

end

end Lockstep
