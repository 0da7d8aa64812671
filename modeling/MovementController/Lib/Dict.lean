import Mathlib.Data.List.Chain
import Mathlib.Data.List.Nodup
import Mathlib.Data.List.Forall2
import Mathlib.Data.Option.Basic

/-!
# Insertion-ordered dictionaries and their change logs

`Dict κ ν` is a Python `dict` as the list of its items: assignment to a key that is there keeps the
place of the key, assignment to a new key appends it.

A log of assignments is `Genuine` over a dictionary when each of them replaces a value by one that
differs from it, in the sense of a relation `differs`.
-/

abbrev Dict (κ ν : Type*) := List (κ × ν)

namespace Dict

variable {κ ν : Type*} [DecidableEq κ]

def get : Dict κ ν → κ → Option ν
  | [], _ => none
  | (k', v) :: d, k => if k' = k then some v else get d k

def set : Dict κ ν → κ → ν → Dict κ ν
  | [], k, v => [(k, v)]
  | (k', v') :: d, k, v => if k' = k then (k, v) :: d else (k', v') :: set d k v

def keys (d : Dict κ ν) : List κ := d.map Prod.fst

def values (d : Dict κ ν) : List ν := d.map Prod.snd

/-- `del d[k]`. -/
def erase (d : Dict κ ν) (k : κ) : Dict κ ν := d.filter (·.1 ≠ k)

/-- A dict comprehension. -/
def ofList (l : List (κ × ν)) : Dict κ ν := l.foldl (fun d p => set d p.1 p.2) []

variable {d : Dict κ ν} {k k' : κ} {v : ν}

theorem mem_of_get (h : get d k = some v) : (k, v) ∈ d := by
  induction d with
  | nil => cases h
  | cons p d ih =>
    rw [get] at h
    by_cases hk : p.1 = k
    · rw [if_pos hk, Option.some.injEq] at h
      rw [← hk, ← h]
      exact List.mem_cons_self
    · rw [if_neg hk] at h
      exact List.mem_cons_of_mem p (ih h)

theorem get_eq_none : get d k = none ↔ k ∉ keys d := by
  induction d with
  | nil => simp [get, keys]
  | cons p d ih =>
    by_cases hk : p.1 = k
    · simp [get, keys, hk]
    · rw [get, if_neg hk, ih]
      have hk' : k ≠ p.1 := fun h => hk h.symm
      simp [keys, hk']

theorem get_of_mem (hn : (keys d).Nodup) (h : (k, v) ∈ d) : get d k = some v := by
  induction d with
  | nil => cases h
  | cons p d ih =>
    rw [keys, List.map_cons, List.nodup_cons] at hn
    rw [get]
    rcases List.mem_cons.1 h with h | h
    · rw [← h, if_pos rfl]
    · have hk : p.1 ≠ k := by
        intro hk
        rw [hk] at hn
        exact hn.1 (List.mem_map_of_mem h)
      rw [if_neg hk]
      exact ih hn.2 h

theorem get_eq_some (hn : (keys d).Nodup) : get d k = some v ↔ (k, v) ∈ d :=
  ⟨mem_of_get, get_of_mem hn⟩

@[simp] theorem get_set_self : get (set d k v) k = some v := by
  induction d with
  | nil => simp [set, get]
  | cons p d ih =>
    rw [set]
    by_cases hk : p.1 = k
    · rw [if_pos hk, get, if_pos rfl]
    · rw [if_neg hk, get, if_neg hk, ih]

theorem get_set_of_ne (hk : k' ≠ k) : get (set d k v) k' = get d k' := by
  induction d with
  | nil => simp [set, get, hk.symm]
  | cons p d ih =>
    rw [set]
    by_cases hp : p.1 = k
    · have hp' : p.1 ≠ k' := fun h => hk (h.symm.trans hp)
      rw [if_pos hp, get, get, if_neg hk.symm, if_neg hp']
    · rw [if_neg hp, get, get, ih]

@[simp] theorem get_erase_self : get (erase d k) k = none := by
  refine get_eq_none.2 fun hk => ?_
  obtain ⟨p, hp, rfl⟩ := List.mem_map.1 hk
  exact of_decide_eq_true (List.mem_filter.1 hp).2 rfl

theorem get_erase_of_ne (hk : k' ≠ k) : get (erase d k) k' = get d k' := by
  induction d with
  | nil => rfl
  | cons p d ih =>
    rw [erase, List.filter_cons, get]
    by_cases hp : p.1 = k
    · have hp' : p.1 ≠ k' := fun h => hk (h.symm.trans hp)
      rw [if_neg (by simpa using hp), if_neg hp']
      exact ih
    · rw [if_pos (by simpa using hp), get]
      exact congrArg _ ih

theorem set_of_notMem (h : k ∉ keys d) : set d k v = d ++ [(k, v)] := by
  induction d with
  | nil => rfl
  | cons p d ih =>
    rw [keys, List.map_cons, List.mem_cons, not_or] at h
    rw [set, if_neg fun hk => h.1 hk.symm, ih h.2, List.cons_append]

theorem keys_set_of_mem (h : k ∈ keys d) : keys (set d k v) = keys d := by
  induction d with
  | nil => cases h
  | cons p d ih =>
    rw [set]
    by_cases hp : p.1 = k
    · rw [if_pos hp, keys, keys, List.map_cons, List.map_cons, hp]
    · rw [keys, List.map_cons, List.mem_cons] at h
      have hk : k ∈ keys d := h.resolve_left fun h => hp h.symm
      rw [if_neg hp, keys, List.map_cons, ← keys, ih hk]
      rfl

/-- An assignment that keeps what `f` sees of the value. -/
theorem map_values_set {β : Type*} {f : ν → β} {v' : ν} (h : get d k = some v) (hf : f v' = f v) :
    (values (set d k v')).map f = (values d).map f := by
  induction d with
  | nil => cases h
  | cons p d ih =>
    rw [get] at h
    rw [set]
    by_cases hp : p.1 = k
    · rw [if_pos hp, Option.some.injEq] at h
      rw [if_pos hp, values, values, List.map_cons, List.map_cons, List.map_cons, List.map_cons, hf, h]
    · rw [if_neg hp] at h
      rw [if_neg hp, values, values, List.map_cons, List.map_cons, List.map_cons, List.map_cons]
      exact congrArg (f p.2 :: ·) (ih h)

theorem ofList_of_nodup {l : List (κ × ν)} (hn : (l.map Prod.fst).Nodup) : ofList l = l := by
  induction l using List.reverseRecOn with
  | nil => rfl
  | append_singleton l p ih =>
    rw [List.map_append, List.nodup_append] at hn
    have hl := ih hn.1
    have hp : p.1 ∉ keys l := fun h => hn.2.2 p.1 h p.1 (List.mem_singleton_self _) rfl
    rw [ofList, List.foldl_append, List.foldl_cons, List.foldl_nil, ← ofList, hl, set_of_notMem hp]

theorem ext_get {d' : Dict κ ν} (hkeys : keys d = keys d') (hn : (keys d).Nodup)
    (h : ∀ k, get d k = get d' k) : d = d' := by
  induction d generalizing d' with
  | nil =>
    cases d' with
    | nil => rfl
    | cons p' d' => cases hkeys
  | cons p d ih =>
    cases d' with
    | nil => cases hkeys
    | cons p' d' =>
      obtain ⟨hkey, htail⟩ := List.cons.inj hkeys
      rw [keys, List.map_cons, List.nodup_cons] at hn
      have hvalue : p.2 = p'.2 := by
        have hget := h p.1
        rw [get, get, if_pos rfl, if_pos hkey.symm] at hget
        exact Option.some.inj hget
      have hrest (k : κ) : get d k = get d' k := by
        by_cases hk : p.1 = k
        · have hd : k ∉ keys d := hk ▸ hn.1
          have hd' : k ∉ keys d' := by
            rw [keys, ← htail]
            exact hd
          rw [get_eq_none.2 hd, get_eq_none.2 hd']
        · have hget := h k
          rwa [get, get, if_neg hk, if_neg fun hk' => hk (hkey.trans hk')] at hget
      rw [ih htail hn.2 hrest, Prod.ext hkey hvalue]

/-! ### Dictionaries with related values -/

theorem get_rel {ν' : Type*} {R : ν → ν' → Prop} {d' : Dict κ ν'}
    (h : List.Forall₂ (fun p p' => p.1 = p'.1 ∧ R p.2 p'.2) d d') (k : κ) :
    Option.Rel R (get d k) (get d' k) := by
  induction h with
  | nil => exact .none
  | @cons p p' d d' hp _ ih =>
    rw [get, get, ← hp.1]
    by_cases hk : p.1 = k
    · rw [if_pos hk, if_pos hk]
      exact .some hp.2
    · rw [if_neg hk, if_neg hk]
      exact ih

/-- Dictionaries with the same keys have related values in order when they have them key by key. -/
theorem forall₂_values {ν' : Type*} {R : ν → ν' → Prop} {d' : Dict κ ν'} (hkeys : keys d = keys d')
    (hn : (keys d).Nodup) (h : ∀ k v v', get d k = some v → get d' k = some v' → R v v') :
    List.Forall₂ R (values d) (values d') := by
  have hlength : d.length = d'.length := by
    simpa [keys] using congrArg List.length hkeys
  refine List.forall₂_iff_get.2 ⟨by rw [values, values, List.length_map, List.length_map, hlength], ?_⟩
  intro i hi hi'
  rw [values, List.length_map] at hi
  rw [values, List.length_map] at hi'
  have hkey : d[i].1 = d'[i].1 := by
    have hget : (keys d)[i]? = (keys d')[i]? := by rw [hkeys]
    simpa [keys, hi, hi'] using hget
  have hmem : (d[i].1, d[i].2) ∈ d := List.getElem_mem hi
  have hmem' : (d'[i].1, d'[i].2) ∈ d' := List.getElem_mem hi'
  have hget : get d d[i].1 = some d[i].2 := get_of_mem hn hmem
  have hget' : get d' d[i].1 = some d'[i].2 := by
    rw [hkey]
    exact get_of_mem (hkeys ▸ hn) hmem'
  simpa [values] using h _ _ _ hget hget'

/-- The items whose value `f` accepts, with the new values. -/
def mapValues {ν' : Type*} (f : ν → Option ν') (d : Dict κ ν) : Dict κ ν' :=
  d.filterMap fun p => (f p.2).map fun v => (p.1, v)

omit [DecidableEq κ] in
theorem keys_mapValues_sublist {ν' : Type*} (f : ν → Option ν') (d : Dict κ ν) :
    (keys (mapValues f d)).Sublist (keys d) := by
  induction d with
  | nil => exact .slnil
  | cons p d ih =>
    rw [mapValues, List.filterMap_cons]
    cases f p.2 with
    | none => exact ih.cons p.1
    | some v => exact ih.cons_cons p.1

theorem get_mapValues {ν' : Type*} {f : ν → Option ν'} (hn : (keys d).Nodup) :
    get (mapValues f d) k = (get d k).bind f := by
  induction d with
  | nil => rfl
  | cons p d ih =>
    rw [keys, List.map_cons, List.nodup_cons] at hn
    rw [mapValues, List.filterMap_cons, ← mapValues, get]
    by_cases hk : p.1 = k
    · have hnone : get (mapValues f d) k = none := by
        refine get_eq_none.2 fun hmem => hn.1 ?_
        rw [hk]
        exact (keys_mapValues_sublist f d).subset hmem
      rw [if_pos hk, Option.bind_some]
      cases hf : f p.2 with
      | none => exact hnone
      | some v => rw [Option.map_some, get, if_pos hk]
    · rw [if_neg hk]
      cases f p.2 with
      | none => exact ih hn.2
      | some v =>
        rw [Option.map_some, get, if_neg hk]
        exact ih hn.2

/-! ### Change logs -/

/-- The assignments of the log, one after the other. -/
def replay (d : Dict κ ν) (log : List (κ × ν)) : Dict κ ν := log.foldl (fun d p => set d p.1 p.2) d

variable (differs : ν → ν → Prop)

/-- Every assignment of the log replaces a value by one that differs from it. -/
def Genuine (d : Dict κ ν) : List (κ × ν) → Prop
  | [] => True
  | p :: log => (∃ v, get d p.1 = some v ∧ differs v p.2) ∧ Genuine (set d p.1 p.2) log

variable {differs} {log : List (κ × ν)}

theorem replay_concat (d : Dict κ ν) (log : List (κ × ν)) (p : κ × ν) :
    replay d (log ++ [p]) = set (replay d log) p.1 p.2 := by
  rw [replay, List.foldl_append]
  rfl

/-- After a log a key has the value of its last assignment, if there is one. -/
theorem get_replay (d : Dict κ ν) (log : List (κ × ν)) (k : κ) :
    get (replay d log) k = (((log.filter (·.1 = k)).map Prod.snd).getLast?).or (get d k) := by
  induction log using List.reverseRecOn with
  | nil => rfl
  | append_singleton log p ih =>
    rw [replay_concat]
    by_cases hk : p.1 = k
    · rw [hk, get_set_self, List.filter_append, List.filter_cons_of_pos (by simpa using hk)]
      simp
    · rw [get_set_of_ne fun h => hk h.symm, ih, List.filter_append,
        List.filter_cons_of_neg (by simpa using hk), List.filter_nil, List.append_nil]

theorem Genuine.concat {p : κ × ν} (h : Genuine differs d log)
    (hp : ∃ v, get (replay d log) p.1 = some v ∧ differs v p.2) :
    Genuine differs d (log ++ [p]) := by
  induction log generalizing d with
  | nil => exact ⟨hp, trivial⟩
  | cons q log ih => exact ⟨h.1, ih h.2 hp⟩

/-- The values that one key takes: each differs from the one before, the first from the one at the
start. -/
theorem Genuine.isChain (h : Genuine differs d log) (hv : get d k = some v) :
    (v :: (log.filter (·.1 = k)).map Prod.snd).IsChain differs := by
  induction log generalizing d v with
  | nil => exact List.isChain_singleton v
  | cons p log ih =>
    obtain ⟨⟨old, hold, hdiff⟩, htail⟩ := h
    by_cases hk : p.1 = k
    · rw [hk] at hold htail
      have heq : old = v := Option.some.inj (hold.symm.trans hv)
      have hlog := ih htail get_set_self
      rw [List.filter_cons_of_pos (by simpa using hk), List.map_cons, List.isChain_cons_cons]
      exact ⟨heq ▸ hdiff, hlog⟩
    · rw [List.filter_cons_of_neg (by simpa using hk)]
      refine ih htail ?_
      rw [get_set_of_ne fun h => hk h.symm]
      exact hv

theorem Genuine.isChain_changes (h : Genuine differs d log) (k : κ) :
    ((log.filter (·.1 = k)).map Prod.snd).IsChain differs := by
  induction log generalizing d with
  | nil => exact List.isChain_nil
  | cons p log ih =>
    by_cases hk : p.1 = k
    · rw [List.filter_cons_of_pos (by simpa using hk), List.map_cons]
      have htail := h.2
      rw [hk] at htail
      exact htail.isChain get_set_self
    · rw [List.filter_cons_of_neg (by simpa using hk)]
      exact ih h.2

end Dict
