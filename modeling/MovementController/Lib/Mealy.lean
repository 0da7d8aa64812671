import Mathlib.Init

/-!
# Machines with outputs

`step : σ → ι → σ × ω` takes an input and gives the next state and an output. Two machines with the
same inputs and outputs that a simulation relates cannot be told apart by what they put out.
-/

namespace Mealy

variable {σ τ ι ω : Type*}

/-- What the machine puts out, one output for each input. -/
def outputs (step : σ → ι → σ × ω) : σ → List ι → List ω
  | _, [] => []
  | s, i :: is => (step s i).2 :: outputs step (step s i).1 is

/-- `R` is kept by a step of both machines, and related states put out the same. -/
structure Simulation (step : σ → ι → σ × ω) (step' : τ → ι → τ × ω) (R : σ → τ → Prop) : Prop where
  next : ∀ {s t}, R s t → ∀ i, R (step s i).1 (step' t i).1
  output : ∀ {s t}, R s t → ∀ i, (step s i).2 = (step' t i).2

variable {step : σ → ι → σ × ω} {step' : τ → ι → τ × ω} {R : σ → τ → Prop}

theorem Simulation.outputs_eq (h : Simulation step step' R) {s : σ} {t : τ} (hR : R s t)
    (is : List ι) : outputs step s is = outputs step' t is := by
  induction is generalizing s t with
  | nil => rfl
  | cons i is ih => rw [outputs, outputs, h.output hR i, ih (h.next hR i)]

theorem outputs_forall {P : ω → Prop} (h : ∀ s i, P (step s i).2) (s : σ) (is : List ι) :
    ∀ o ∈ outputs step s is, P o := by
  induction is generalizing s with
  | nil => exact fun o ho => absurd ho List.not_mem_nil
  | cons i is ih =>
    intro o ho
    rcases List.mem_cons.1 ho with ho | ho
    · rw [ho]
      exact h s i
    · exact ih (step s i).1 o ho

end Mealy
