import Mathlib.Data.List.Nodup
import Mathlib.Data.List.TakeWhile
import Mathlib.Logic.Function.Basic

/-!
# Entities and their owners

A program creates entities of several kinds, keeps the handle of the latest one of each kind in a
field and destroys an entity through its handle. When a field is overwritten, the entity in it lives
on and nobody can destroy it. `Owned` excludes that: the live entities are exactly those in the
fields.
-/

/-- `next` is the handle of the entity that is created next. -/
structure Entities (κ : Type*) where
  live : List (ℕ × κ) := []
  next : ℕ := 0
deriving DecidableEq, Repr

namespace Entities

variable {κ : Type*}

def create (e : Entities κ) (kind : κ) : Entities κ :=
  { live := e.live ++ [(e.next, kind)], next := e.next + 1 }

def createAll (e : Entities κ) (kinds : List κ) : Entities κ := kinds.foldl create e

def destroy (e : Entities κ) (handle : ℕ) : Entities κ :=
  { e with live := e.live.filter (·.1 ≠ handle) }

/-- `if handle is not None: destroy(handle)`. -/
def release (e : Entities κ) : Option ℕ → Entities κ
  | none => e
  | some handle => e.destroy handle

/-- Creations that go on until one raises, when none does. -/
theorem takeWhile_of_any {raises : κ → Bool} {kinds : List κ} (h : kinds.any raises = false) :
    kinds.takeWhile (!raises ·) = kinds := by
  rw [List.takeWhile_eq_self_iff]
  intro kind hkind
  rw [List.any_eq_false] at h
  simpa using h kind hkind

variable [DecidableEq κ]

def count (e : Entities κ) (kind : κ) : ℕ := e.live.countP (·.2 = kind)

/-- No two live entities have one handle. -/
structure Distinct (e : Entities κ) : Prop where
  nodup : (e.live.map Prod.fst).Nodup
  fresh : ∀ p ∈ e.live, p.1 < e.next

/-- `field kind` holds the only live entity of that kind, if there is one. -/
structure Owned (e : Entities κ) (field : κ → Option ℕ) : Prop where
  live : ∀ handle kind, (handle, kind) ∈ e.live ↔ field kind = some handle
  nodup : (e.live.map Prod.fst).Nodup
  fresh : ∀ p ∈ e.live, p.1 < e.next

variable {e : Entities κ} {field : κ → Option ℕ} {kind : κ}

theorem count_create (k : κ) :
    (e.create kind).count k = e.count k + if kind = k then 1 else 0 := by
  unfold count create
  rw [List.countP_append, List.countP_singleton]
  simp only [decide_eq_true_eq]

theorem count_createAll (kinds : List κ) (k : κ) :
    (e.createAll kinds).count k = e.count k + kinds.count k := by
  unfold createAll
  induction kinds generalizing e with
  | nil => rfl
  | cons kind kinds ih =>
    rw [List.foldl_cons, ih, count_create, List.count_cons]
    simp only [beq_iff_eq]
    omega

theorem count_destroy {handle : ℕ} (h : ∀ p ∈ e.live, p.1 = handle → p.2 ≠ kind) :
    (e.destroy handle).count kind = e.count kind := by
  unfold count destroy
  rw [List.countP_filter]
  refine List.countP_congr fun p hp => ?_
  rw [Bool.and_eq_true, decide_eq_true_iff, decide_eq_true_iff, and_iff_left_iff_imp]
  exact fun hkind hhandle => h p hp hhandle hkind

omit [DecidableEq κ] in
theorem live_subset_create (e : Entities κ) (kind : κ) : e.live ⊆ (e.create kind).live :=
  List.subset_append_left _ _

omit [DecidableEq κ] in
theorem live_subset_createAll (kinds : List κ) : e.live ⊆ (e.createAll kinds).live := by
  unfold createAll
  induction kinds generalizing e with
  | nil => exact List.Subset.refl _
  | cons kind kinds ih => exact List.Subset.trans (e.live_subset_create kind) ih

namespace Distinct

omit [DecidableEq κ] in
theorem empty : Distinct ({} : Entities κ) :=
  ⟨List.nodup_nil, fun _ h => (List.not_mem_nil h).elim⟩

omit [DecidableEq κ] in
theorem create (h : Distinct e) (kind : κ) : Distinct (e.create kind) := by
  refine ⟨?_, fun p hp => ?_⟩
  · unfold Entities.create
    rw [List.map_append, List.nodup_append]
    refine ⟨h.nodup, List.nodup_singleton _, fun a ha b hb => ?_⟩
    obtain ⟨p, hp, rfl⟩ := List.mem_map.1 ha
    rw [List.mem_singleton.1 hb]
    exact Nat.ne_of_lt (h.fresh p hp)
  · rcases List.mem_append.1 hp with hp | hp
    · exact Nat.lt_succ_of_lt (h.fresh p hp)
    · rw [List.mem_singleton.1 hp]
      exact Nat.lt_succ_self _

omit [DecidableEq κ] in
theorem createAll (h : Distinct e) (kinds : List κ) : Distinct (e.createAll kinds) := by
  unfold Entities.createAll
  induction kinds generalizing e with
  | nil => exact h
  | cons kind kinds ih => exact ih (h.create kind)

omit [DecidableEq κ] in
theorem destroy (h : Distinct e) (handle : ℕ) : Distinct (e.destroy handle) := by
  have hsub : (e.destroy handle).live.Sublist e.live := List.filter_sublist
  exact ⟨h.nodup.sublist (hsub.map _), fun p hp => h.fresh p (hsub.subset hp)⟩

omit [DecidableEq κ] in
theorem kind_eq (h : Distinct e) {p : ℕ × κ} {handle : ℕ} (hp : p ∈ e.live)
    (hmem : (handle, kind) ∈ e.live) (hhandle : p.1 = handle) : p.2 = kind :=
  congrArg Prod.snd (List.inj_on_of_nodup_map h.nodup hp hmem hhandle)

end Distinct

namespace Owned

omit [DecidableEq κ] in
theorem distinct (h : Owned e field) : Distinct e := ⟨h.nodup, h.fresh⟩

omit [DecidableEq κ] in
theorem empty : Owned ({} : Entities κ) fun _ => none :=
  ⟨fun _ _ => ⟨fun h => (List.not_mem_nil h).elim, fun h => (Option.some_ne_none _ h.symm).elim⟩,
    List.nodup_nil, fun _ h => (List.not_mem_nil h).elim⟩

omit [DecidableEq κ] in
theorem congr {field' : κ → Option ℕ} (h : Owned e field) (hfield : ∀ kind, field' kind = field kind) :
    Owned e field' := by
  rw [funext hfield]
  exact h

theorem create (h : Owned e field) (hnone : field kind = none) :
    Owned (e.create kind) (Function.update field kind (some e.next)) := by
  have hdistinct := h.distinct.create kind
  refine ⟨fun handle k => ?_, hdistinct.nodup, hdistinct.fresh⟩
  have hmem : (handle, k) ∈ (e.create kind).live ↔
      (handle, k) ∈ e.live ∨ handle = e.next ∧ k = kind := by
    simp [Entities.create]
  rw [hmem, h.live]
  by_cases hk : k = kind
  · subst hk
    rw [Function.update_self, hnone]
    constructor
    · rintro (h' | ⟨rfl, -⟩)
      · cases h'
      · rfl
    · intro h'
      exact .inr ⟨(Option.some.inj h').symm, rfl⟩
  · rw [Function.update_of_ne hk]
    exact ⟨fun h' => h'.resolve_right fun h'' => hk h''.2, .inl⟩

theorem release (h : Owned e field) (kind : κ) :
    Owned (e.release (field kind)) (Function.update field kind none) := by
  cases hf : field kind with
  | none =>
    rw [← hf, Function.update_eq_self, hf]
    exact h
  | some a =>
    have hdistinct := h.distinct.destroy a
    refine ⟨fun handle k => ?_, hdistinct.nodup, hdistinct.fresh⟩
    have hmem : (handle, k) ∈ (e.release (some a)).live ↔ (handle, k) ∈ e.live ∧ handle ≠ a := by
      simp [Entities.release, Entities.destroy]
    rw [hmem, h.live]
    by_cases hk : k = kind
    · subst hk
      rw [Function.update_self, hf, Option.some.injEq]
      exact ⟨fun h' => absurd h'.1.symm h'.2, fun h' => nomatch h'⟩
    · rw [Function.update_of_ne hk]
      refine ⟨fun h' => h'.1, fun h' => ⟨h', fun ha => hk ?_⟩⟩
      -- two live entities of one handle are one entity
      have hka : (handle, k) ∈ e.live := (h.live _ _).2 h'
      have hkind : (handle, kind) ∈ e.live := (h.live _ _).2 (by rw [hf, ha])
      exact congrArg Prod.snd (List.inj_on_of_nodup_map h.nodup hka hkind rfl)

theorem count_eq (h : Owned e field) (kind : κ) :
    e.count kind = if (field kind).isSome then 1 else 0 := by
  have hnodup : e.live.Nodup := h.nodup.of_map _
  cases hf : field kind with
  | none =>
    refine List.countP_eq_zero.2 fun p hp hk => ?_
    have hp' : (p.1, kind) ∈ e.live := by rw [← of_decide_eq_true hk]; exact hp
    rw [h.live, hf] at hp'
    cases hp'
  | some a =>
    have ha : (a, kind) ∈ e.live := (h.live a kind).2 hf
    have hcount : e.live.countP (·.2 = kind) = e.live.count (a, kind) := by
      refine List.countP_congr fun p hp => ?_
      rw [decide_eq_true_eq, beq_iff_eq]
      refine ⟨fun hk => ?_, fun hk => by rw [hk]⟩
      have hp' : (p.1, kind) ∈ e.live := by rw [← hk]; exact hp
      rw [h.live, hf, Option.some.injEq] at hp'
      exact Prod.ext hp'.symm hk
    unfold Entities.count
    rw [hcount, List.count_eq_one_of_mem hnodup ha]
    rfl

end Owned

end Entities
