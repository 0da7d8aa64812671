import Mathlib.Logic.Relation

/-!
# Runs of a partial step function

`step : σ → ι → Option σ` is the state machine: `step s l = none` says that the label `l` is not
enabled in `s`. A run is a list of enabled steps, each of which also meets a condition `C` on the
state before it and its label, so that "in every run whose steps all meet `C`" is `Runs step C`.
-/

namespace Lts

variable {σ τ ι κ : Type*}

/-- `t` is reached from `s` by enabled steps that all meet `C`. -/
inductive Runs (step : σ → ι → Option σ) (C : σ → ι → Prop) (s : σ) : σ → Prop
  | refl : Runs step C s s
  | tail {t u : σ} {l : ι} (h : Runs step C s t) (hc : C t l) (hs : step t l = some u) :
      Runs step C s u

abbrev Reaches (step : σ → ι → Option σ) (s t : σ) : Prop := Runs step (fun _ _ => True) s t

/-- Executes the labels `ls` from `s`; `none` when one of them is not enabled or fails `C`. -/
def exec (step : σ → ι → Option σ) (C : σ → ι → Prop) [∀ s l, Decidable (C s l)] (s : σ) :
    List ι → Option σ
  | [] => some s
  | l :: ls => if C s l then (step s l).bind fun t => exec step C t ls else none

inductive Trace (step : σ → ι → Option σ) (C : σ → ι → Prop) : σ → List ι → σ → Prop
  | nil (s : σ) : Trace step C s [] s
  | cons {s t u : σ} {l : ι} {ls : List ι} (hc : C s l) (hs : step s l = some t)
      (h : Trace step C t ls u) : Trace step C s (l :: ls) u

variable {step : σ → ι → Option σ} {C D : σ → ι → Prop} {s t u : σ}

namespace Runs

theorem single {l : ι} (hc : C s l) (hs : step s l = some t) : Runs step C s t :=
  .tail .refl hc hs

theorem trans (h : Runs step C s t) (h' : Runs step C t u) : Runs step C s u := by
  induction h' with
  | refl => exact h
  | tail _ hc hs ih => exact ih.tail hc hs

/-- The run rule: what holds at the start and is kept by every step that meets `C` holds of every
state reached. -/
theorem invariant {I : σ → Prop} (h : Runs step C s t) (h0 : I s)
    (hstep : ∀ {t u l}, I t → C t l → step t l = some u → I u) : I t := by
  induction h with
  | refl => exact h0
  | tail _ hc hs ih => exact hstep ih hc hs

/-- Simulation: when every step is a step of another machine or leaves its state alone, a run is a
run of the other machine. -/
theorem map {step' : τ → κ → Option τ} {D : τ → κ → Prop} (f : σ → τ) (h : Runs step C s t)
    (hstep : ∀ {t u l}, C t l → step t l = some u →
      f u = f t ∨ ∃ k, D (f t) k ∧ step' (f t) k = some (f u)) :
    Runs step' D (f s) (f t) := by
  induction h with
  | refl => exact .refl
  | tail _ hc hs ih =>
    rcases hstep hc hs with heq | ⟨k, hd, hk⟩
    · rw [heq]; exact ih
    · exact ih.tail hd hk

theorem of_exec [∀ s l, Decidable (C s l)] (ls : List ι) (h : exec step C s ls = some t) :
    Runs step C s t := by
  induction ls generalizing s with
  | nil => rw [← Option.some.inj h]; exact .refl
  | cons l ls ih =>
    rw [exec] at h
    split at h
    · next hc =>
      obtain ⟨u, hu, h⟩ := Option.bind_eq_some_iff.1 h
      exact (single hc hu).trans (ih h)
    · cases h

end Runs

namespace Trace

theorem runs {ls : List ι} (h : Trace step C s ls t) : Runs step C s t := by
  induction h with
  | nil => exact .refl
  | cons hc hs _ ih => exact (Runs.single hc hs).trans ih

/-- A measure that every step of a run decreases bounds the length of the run. -/
theorem length_le {I : σ → Prop} {μ : σ → Nat} {ls : List ι} (h : Trace step C s ls t) (h0 : I s)
    (hstep : ∀ {t u l}, I t → C t l → step t l = some u → I u ∧ μ u < μ t) :
    ls.length + μ t ≤ μ s := by
  induction h with
  | nil => simp
  | cons hc hs _ ih =>
    obtain ⟨hI, hlt⟩ := hstep h0 hc hs
    have := ih hI
    simp only [List.length_cons]
    omega

theorem append {ls ms : List ι} (h : Trace step C s ls t) (h' : Trace step C t ms u) :
    Trace step C s (ls ++ ms) u := by
  induction h with
  | nil => exact h'
  | cons hc hs _ ih => exact .cons hc hs (ih h')

theorem of_append {ls ms : List ι} (h : Trace step C s (ls ++ ms) u) :
    ∃ t, Trace step C s ls t ∧ Trace step C t ms u := by
  induction ls generalizing s with
  | nil => exact ⟨s, .nil s, h⟩
  | cons l ls ih =>
    cases h with
    | cons hc hs h =>
      obtain ⟨t, hls, hms⟩ := ih h
      exact ⟨t, .cons hc hs hls, hms⟩

/-- Two traces with the same labels are one, as the machine is deterministic. -/
theorem and_iff {ls : List ι} : Trace step (fun s l => C s l ∧ D s l) s ls t ↔
    Trace step C s ls t ∧ Trace step D s ls t := by
  constructor
  · intro h
    induction h with
    | nil s => exact ⟨.nil s, .nil s⟩
    | cons hc hs _ ih => exact ⟨.cons hc.1 hs ih.1, .cons hc.2 hs ih.2⟩
  · rintro ⟨hC, hD⟩
    induction hC with
    | nil s => exact .nil s
    | cons hc hs _ ih =>
      cases hD with
      | cons hd hs' hD =>
        obtain rfl := Option.some.inj (hs.symm.trans hs')
        exact .cons ⟨hc, hd⟩ hs (ih hD)

/-- Strengthens the condition of a trace by what it says of every step. -/
theorem mono {ls : List ι} (h : Trace step C s ls t)
    (hstep : ∀ {t u l}, Runs step C s t → C t l → step t l = some u → D t l) :
    Trace step D s ls t := by
  induction h with
  | nil => exact .nil _
  | cons hc hs _ ih =>
    exact .cons (hstep .refl hc hs) hs (ih fun hr => hstep ((Runs.single hc hs).trans hr))

theorem of_exec [∀ s l, Decidable (C s l)] {ls : List ι} (h : exec step C s ls = some t) :
    Trace step C s ls t := by
  induction ls generalizing s with
  | nil =>
    rw [← Option.some.inj h]
    exact .nil s
  | cons l ls ih =>
    rw [exec] at h
    split at h
    · next hc =>
      obtain ⟨u, hu, h⟩ := Option.bind_eq_some_iff.1 h
      exact .cons hc hu (ih h)
    · cases h

/-- Either no step of a trace meets `D`, or there is a first one. -/
theorem first {ls : List ι} (h : Trace step C s ls t) (D : σ → ι → Prop) :
    Trace step (fun s l => C s l ∧ ¬D s l) s ls t ∨
      ∃ u v l, Runs step (fun s l => C s l ∧ ¬D s l) s u ∧ C u l ∧ D u l ∧ step u l = some v ∧
        Runs step C v t := by
  induction h with
  | nil s => exact .inl (.nil s)
  | @cons s u t l ls hc hs h ih =>
    by_cases hd : D s l
    · exact .inr ⟨s, u, l, .refl, hc, hd, hs, h.runs⟩
    rcases ih with hall | ⟨v, w, k, hr, hfirst⟩
    · exact .inl (.cons ⟨hc, hd⟩ hs hall)
    · exact .inr ⟨v, w, k, (Runs.single ⟨hc, hd⟩ hs).trans hr, hfirst⟩

end Trace

/-- `C` tells which steps keep `P`: `P` holds wherever steps that meet `C` lead, and the first step
that does not meet `C` leads out of `P`. -/
structure Exactly (step : σ → ι → Option σ) (C : σ → ι → Prop) (P : σ → Prop) (s : σ) : Prop where
  safe : ∀ {t}, Runs step C s t → P t
  sharp : ∀ {t u l}, Runs step C s t → step t l = some u → ¬C t l → ¬P u

/-- The rule for `Exactly`: an invariant that implies `P`. -/
theorem Exactly.of_invariant {I P : σ → Prop} (h0 : I s) (hP : ∀ {t}, I t → P t)
    (hkeeps : ∀ {t u l}, I t → C t l → step t l = some u → I u)
    (hbreaks : ∀ {t u l}, I t → ¬C t l → step t l = some u → ¬P u) : Exactly step C P s where
  safe h := hP (h.invariant h0 hkeeps)
  sharp h hs hc := hbreaks (h.invariant h0 hkeeps) hc hs

/-- The step leads to a state with `P`. -/
abbrev LeadsTo (step : σ → ι → Option σ) (P : σ → Prop) (s : σ) (l : ι) : Prop :=
  ∀ t, step s l = some t → P t

/-- A run stays within `P` if and only if all of its steps meet `C`. -/
theorem Exactly.trace_iff {P : σ → Prop} (h : Exactly step C P s) {ls : List ι} :
    Trace step (LeadsTo step P) s ls t ↔ Trace step C s ls t := by
  constructor
  · intro ht
    induction ht with
    | nil => exact .nil _
    | @cons s u _ l _ hp hs _ ih =>
      have hc : C s l := Classical.not_not.1 fun hc => h.sharp .refl hs hc (hp u hs)
      refine .cons hc hs (ih ⟨fun hr => h.safe ?_, fun hr => h.sharp ?_⟩)
      · exact (Runs.single hc hs).trans hr
      · exact (Runs.single hc hs).trans hr
  · intro ht
    refine ht.mono fun hr hc hs u hu => ?_
    exact h.safe (hr.tail hc hu)

/-- A run all of whose states have `P`. -/
def Stays (step : σ → ι → Option σ) (P : σ → Prop) (s : σ) (ls : List ι) (t : σ) : Prop :=
  P s ∧ Trace step (LeadsTo step P) s ls t

theorem Exactly.stays_iff {P : σ → Prop} (h : Exactly step C P s) {ls : List ι} :
    Stays step P s ls t ↔ Trace step C s ls t :=
  (and_iff_right (h.safe .refl)).trans h.trace_iff

end Lts
