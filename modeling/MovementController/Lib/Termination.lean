import MovementController.Lib.Runs
import Mathlib.Data.Prod.Lex
import Mathlib.Order.WellFounded

/-!
# What comes about in every run

`Inevitable step C P s`: a step that meets `C` can be taken in every state that is reached from `s`
before `P` holds, and an infinite run in which such steps do not cease comes to `P`. The rule is a
measure in a well-founded order that the steps that meet `C` decrease and no other step increases.
-/

namespace Lts

variable {σ ι α : Type*} {step : σ → ι → Option σ} {C : σ → ι → Prop} {I P : σ → Prop} {s : σ}

/-- `f` and `l` are the states and the labels of an infinite run. -/
def Path (step : σ → ι → Option σ) (f : ℕ → σ) (l : ℕ → ι) : Prop :=
  ∀ n, step (f n) (l n) = some (f (n + 1))

structure Inevitable (step : σ → ι → Option σ) (C : σ → ι → Prop) (P : σ → Prop) (s : σ) : Prop where
  progress : ∀ {t}, Runs step (fun s _ => ¬P s) s t → ¬P t → ∃ l u, C t l ∧ step t l = some u
  arrives : ∀ f l, Path step f l → f 0 = s → (∀ n, ∃ m ≥ n, C (f m) (l m)) → ∃ n, P (f n)

theorem Inevitable.of_holds (h : P s) : Inevitable step C P s where
  progress hr hp := absurd (hr.invariant (I := P) h fun ht hp _ => absurd ht hp) hp
  arrives _ _ _ hf _ := ⟨0, hf ▸ h⟩

/-- Until `P` holds, a step keeps `I` and does not increase the measure, and decreases it if it
meets `C`. -/
structure Ranked [Preorder α] (step : σ → ι → Option σ) (C : σ → ι → Prop) (I P : σ → Prop)
    (μ : σ → α) : Prop where
  keeps : ∀ {t u l}, I t → step t l = some u → P u ∨ I u ∧ μ u ≤ μ t ∧ (C t l → μ u < μ t)
  progress : ∀ {t}, I t → ¬P t → ∃ l u, C t l ∧ step t l = some u

namespace Ranked

variable [Preorder α] {μ : σ → α}

theorem invariant (h : Ranked step C I P μ) (h0 : I s) {t : σ}
    (hr : Runs step (fun s _ => ¬P s) s t) : P t ∨ I t :=
  hr.invariant (I := fun t => P t ∨ I t) (.inr h0) fun ht hp hs =>
    (h.keeps (ht.resolve_left hp) hs).imp_right And.left

theorem path_invariant (h : Ranked step C I P μ) {f : ℕ → σ} {l : ℕ → ι} (hpath : Path step f l)
    (h0 : I (f 0)) (hp : ∀ n, ¬P (f n)) (n : ℕ) : I (f n) := by
  induction n with
  | zero => exact h0
  | succ n ih => exact ((h.keeps ih (hpath n)).resolve_left (hp _)).1

theorem path_antitone (h : Ranked step C I P μ) {f : ℕ → σ} {l : ℕ → ι} (hpath : Path step f l)
    (h0 : I (f 0)) (hp : ∀ n, ¬P (f n)) : Antitone fun n => μ (f n) :=
  antitone_nat_of_succ_le fun n =>
    ((h.keeps (h.path_invariant hpath h0 hp n) (hpath n)).resolve_left (hp _)).2.1

theorem inevitable [WellFoundedLT α] (h : Ranked step C I P μ) (h0 : I s) :
    Inevitable step C P s := by
  refine ⟨fun hr hp => h.progress ((h.invariant h0 hr).resolve_left hp) hp,
    fun f l hpath hf hC => ?_⟩
  by_contra hnot
  have hp : ∀ n, ¬P (f n) := fun n hn => hnot ⟨n, hn⟩
  have hI : I (f 0) := hf ▸ h0
  -- a value of the measure along the run that no later one is below
  obtain ⟨_, ⟨n, rfl⟩, hmin⟩ :=
    WellFounded.has_min (wellFounded_lt (α := α)) (Set.range fun n => μ (f n)) ⟨_, 0, rfl⟩
  obtain ⟨m, hnm, hm⟩ := hC n
  have hlt := ((h.keeps (h.path_invariant hpath hI hp m) (hpath m)).resolve_left (hp _)).2.2 hm
  exact hmin _ ⟨m + 1, rfl⟩ (hlt.trans_le (h.path_antitone hpath hI hp hnm))

end Ranked

end Lts
