import Mathlib.Data.List.Basic

/-!
# Messages on lanes

Messages in flight stand in the order in which they were sent. Each is on a lane, and a lane keeps the
order. When the effects of messages on different lanes commute, all orders of arrival have the same
effect in the end.
-/

namespace Lanes

variable {α σ κ : Type*} {lane : α → κ} {apply : σ → α → σ} {l : List α} {i : ℕ} {a : α}

/-- The message at place `i`, if there is one, is the first of its lane. -/
def First (lane : α → κ) (l : List α) (i : ℕ) : Prop :=
  ∀ a ∈ l[i]?, ∀ b ∈ l.take i, lane b ≠ lane a

instance [DecidableEq κ] (lane : α → κ) (l : List α) (i : ℕ) : Decidable (First lane l i) :=
  match h : l[i]? with
  | none => isTrue fun a ha => by rw [h] at ha; cases ha
  | some a => decidable_of_iff (∀ b ∈ l.take i, lane b ≠ lane a) (by simp [First, h])

/-- Messages on different lanes do not interfere. -/
def Independent (lane : α → κ) (apply : σ → α → σ) : Prop :=
  ∀ a b, lane a ≠ lane b → ∀ s, apply (apply s a) b = apply (apply s b) a

theorem First.zero (lane : α → κ) (l : List α) : First lane l 0 :=
  fun _ _ _ hb => absurd hb (by simp)

/-- The first message of a lane may as well come first of all. -/
theorem Independent.foldl_eraseIdx (h : Independent lane apply) (hfirst : First lane l i)
    (ha : l[i]? = some a) (s : σ) : (l.eraseIdx i).foldl apply (apply s a) = l.foldl apply s := by
  induction l generalizing i s with
  | nil => cases ha
  | cons b l ih =>
    cases i with
    | zero =>
      obtain rfl : b = a := Option.some.inj ha
      rfl
    | succ i =>
      rw [List.getElem?_cons_succ] at ha
      have hne : lane b ≠ lane a := hfirst a ha b (by simp)
      have hrest : First lane l i := fun a' ha' b' hb' =>
        hfirst a' ha' b' (by simp [hb'])
      rw [List.eraseIdx_cons_succ, List.foldl_cons, List.foldl_cons, h a b hne.symm, ih hrest ha]

end Lanes
