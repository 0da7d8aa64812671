import Mathlib.Data.List.SplitBy

/-!
# Grouping a list from the left

`pushGroup r` extends a list of groups by one element: the element joins the last group when `r`
relates that group's last element to it, and opens a new group otherwise. Folding it over a list is
`List.splitBy`.
-/

namespace Grouping

variable {α : Type*} (r : α → α → Bool)

/-- Adds `a` to the last group of `groups` when `r` relates the last element of it to `a`, and as a
new group otherwise. -/
def pushGroup (groups : List (List α)) (a : α) : List (List α) :=
  match groups.getLast?, groups.getLast?.bind List.getLast? with
  | some last, some x => if r x a then groups.dropLast ++ [last ++ [a]] else groups ++ [[a]]
  | _, _ => groups ++ [[a]]

variable {r}

theorem pushGroup_concat (gs : List (List α)) (g : List α) (x a : α) :
    pushGroup r (gs ++ [g ++ [x]]) a =
      if r x a then gs ++ [g ++ [x] ++ [a]] else gs ++ [g ++ [x]] ++ [[a]] := by
  simp [pushGroup]

theorem splitBy_append_join {l : List α} {gs : List (List α)} {g : List α} {x a : α}
    (h : l.splitBy r = gs ++ [g ++ [x]]) (hr : r x a = true) :
    (l ++ [a]).splitBy r = gs ++ [g ++ [x] ++ [a]] := by
  obtain ⟨hl, hnil, hchain, hends⟩ := List.splitBy_eq_iff.1 h
  refine List.splitBy_eq_iff.2 ⟨by rw [hl]; simp, ?_, ?_, ?_⟩
  · simpa using hnil
  · intro m hm
    rcases List.mem_append.1 hm with hm | hm
    · exact hchain m (List.mem_append_left _ hm)
    · rw [List.mem_singleton.1 hm]
      refine List.isChain_append.2 ⟨hchain _ (by simp), by simp, ?_⟩
      simpa using hr
  · rw [List.isChain_append] at hends ⊢
    refine ⟨hends.1, by simp, fun b hb c hc => ?_⟩
    obtain rfl : c = g ++ [x] ++ [a] := by simpa using hc.symm
    obtain ⟨hb', hc', hbc⟩ := hends.2.2 b hb (g ++ [x]) (by simp)
    refine ⟨hb', by simp, ?_⟩
    rwa [List.head_append_of_ne_nil hc']

/-- Grouping from the left is `List.splitBy`. -/
theorem foldl_pushGroup (l : List α) : l.foldl (pushGroup r) [] = l.splitBy r := by
  induction l using List.reverseRecOn with
  | nil => simp
  | append_singleton l a ih =>
    rw [List.foldl_append, ih, List.foldl_cons, List.foldl_nil]
    rcases List.eq_nil_or_concat (l.splitBy r) with hs | ⟨gs, g, hs⟩
    · obtain rfl := List.splitBy_eq_nil.1 hs
      rfl
    · have hg : g ≠ [] := List.ne_nil_of_mem_splitBy (r := r) (l := l) (by simp [hs])
      obtain ⟨g, x, rfl⟩ := (List.eq_nil_or_concat g).resolve_left hg
      simp only [List.concat_eq_append] at hs
      rw [hs, pushGroup_concat]
      split
      · next hr => exact (splitBy_append_join hs hr).symm
      · next hr =>
        have hlast : l.getLast? = some x := by
          rw [(List.splitBy_eq_iff.1 hs).1]; simp
        rw [List.splitBy_append_cons [] (by simpa [hlast] using hr), hs]
        rfl

/-! ### The groups as the unique partition -/

/-- The positions `i` and `i + 1` of the concatenation of `groups` lie in one group. -/
def Together : List (List α) → ℕ → Prop
  | [], _ => False
  | g :: gs, i => if i < g.length then i + 1 < g.length else Together gs (i - g.length)

instance : ∀ (groups : List (List α)) (i : ℕ), Decidable (Together groups i)
  | [], _ => isFalse id
  | g :: gs, i =>
    have : Decidable (Together gs (i - g.length)) := instDecidableTogether gs (i - g.length)
    inferInstanceAs (Decidable (if i < g.length then i + 1 < g.length else Together gs (i - g.length)))

/-- `r` relates two consecutive elements of `groups.flatten` exactly when they lie in one group. -/
def Agrees (r : α → α → Bool) (groups : List (List α)) : Prop :=
  ∀ i a b, groups.flatten[i]? = some a → groups.flatten[i + 1]? = some b →
    (Together groups i ↔ r a b = true)

theorem together_cons_left {g : List α} {gs : List (List α)} {i : ℕ} (h : i < g.length) :
    Together (g :: gs) i ↔ i + 1 < g.length := by
  rw [Together, if_pos h]

theorem together_cons_right {g : List α} {gs : List (List α)} (i : ℕ) :
    Together (g :: gs) (g.length + i) ↔ Together gs i := by
  rw [Together, if_neg (by omega), Nat.add_sub_cancel_left]

theorem agrees_cons_iff {g : List α} {gs : List (List α)} (hg : g ≠ []) :
    Agrees r (g :: gs) ↔ g.IsChain (fun a b => r a b) ∧
      (∀ b ∈ gs.flatten.head?, r (g.getLast hg) b = false) ∧ Agrees r gs := by
  have hpos : 0 < g.length := List.length_pos_iff.2 hg
  constructor
  · intro h
    refine ⟨List.isChain_iff_getElem.2 fun i hi => ?_, fun b hb => ?_, fun i a b ha hb => ?_⟩
    · refine (h i _ _ ?_ ?_).1 ((together_cons_left (by omega)).2 hi)
      · rw [List.flatten_cons, List.getElem?_append_left (by omega), List.getElem?_eq_getElem]
      · rw [List.flatten_cons, List.getElem?_append_left hi, List.getElem?_eq_getElem]
    · have hlast := h (g.length - 1) (g.getLast hg) b ?_ ?_
      · rw [together_cons_left (by omega)] at hlast
        by_contra hr
        have := hlast.2 (by simpa using hr)
        omega
      · rw [List.flatten_cons, List.getElem?_append_left (by omega), List.getLast_eq_getElem,
          List.getElem?_eq_getElem]
      · rw [List.flatten_cons, List.getElem?_append_right (by omega), ← hb, List.head?_eq_getElem?]
        congr 1
        omega
    · refine (together_cons_right i).symm.trans (h (g.length + i) a b ?_ ?_)
      · rw [List.flatten_cons, List.getElem?_append_right (by omega), Nat.add_sub_cancel_left, ha]
      · rw [List.flatten_cons, List.getElem?_append_right (by omega), Nat.add_assoc,
          Nat.add_sub_cancel_left, hb]
  · rintro ⟨hchain, hlast, hgs⟩ i a b ha hb
    rw [List.flatten_cons] at ha hb
    rcases Nat.lt_trichotomy (i + 1) g.length with hi | hi | hi
    · rw [together_cons_left (by omega)]
      rw [List.getElem?_append_left (by omega), List.getElem?_eq_some_iff] at ha hb
      obtain ⟨_, rfl⟩ := ha
      obtain ⟨_, rfl⟩ := hb
      exact iff_of_true hi (List.isChain_iff_getElem.1 hchain i hi)
    · rw [together_cons_left (by omega)]
      have ha' : g.getLast hg = a := by
        rw [List.getElem?_append_left (by omega), List.getElem?_eq_some_iff] at ha
        obtain ⟨_, rfl⟩ := ha
        rw [List.getLast_eq_getElem]
        congr 1
        omega
      have hb' : b ∈ gs.flatten.head? := by
        rw [List.getElem?_append_right (by omega), hi, Nat.sub_self] at hb
        rw [List.head?_eq_getElem?, hb]
        rfl
      have hr := hlast b hb'
      rw [ha'] at hr
      exact iff_of_false (by omega) (by simp [hr])
    · obtain ⟨j, rfl⟩ : ∃ j, i = g.length + j := ⟨i - g.length, by omega⟩
      rw [together_cons_right]
      rw [List.getElem?_append_right (by omega)] at ha hb
      exact hgs j a b (by simpa using ha) (by simpa [Nat.add_assoc] using hb)

theorem agrees_iff {groups : List (List α)} (hnil : [] ∉ groups) :
    Agrees r groups ↔ (∀ g ∈ groups, g.IsChain fun a b => r a b) ∧
      groups.IsChain fun g g' => ∃ h h', r (g.getLast h) (g'.head h') = false := by
  induction groups with
  | nil => simp [Agrees]
  | cons g gs ih =>
    rw [List.mem_cons, not_or] at hnil
    have hg : g ≠ [] := Ne.symm hnil.1
    have hends : (∀ b ∈ gs.flatten.head?, r (g.getLast hg) b = false) ↔
        ∀ g' ∈ gs.head?, ∃ h h', r (g.getLast h) (g'.head h') = false := by
      rcases gs with _ | ⟨g', gs⟩
      · simp
      · have hg' : g' ≠ [] := fun h => hnil.2 (by simp [h])
        obtain ⟨b, g', rfl⟩ := List.exists_cons_of_ne_nil hg'
        simp [hg]
    rw [agrees_cons_iff hg, ih hnil.2, List.forall_mem_cons, List.isChain_cons, hends]
    tauto

/-- `List.splitBy` is the only way to cut `l` into non-empty groups in which the elements that `r`
relates to their successor are those that share a group with it. -/
theorem eq_splitBy_iff {l : List α} {groups : List (List α)} :
    groups = l.splitBy r ↔ [] ∉ groups ∧ groups.flatten = l ∧ Agrees r groups := by
  rw [eq_comm, List.splitBy_eq_iff]
  constructor
  · rintro ⟨hl, hnil, hchain⟩
    exact ⟨hnil, hl.symm, (agrees_iff hnil).2 hchain⟩
  · rintro ⟨hnil, hl, ha⟩
    exact ⟨hl.symm, hnil, (agrees_iff hnil).1 ha⟩

end Grouping
