import MovementController.Acceptance

/-!
# Path identifiers

`_UUID4_RE` as a grammar: position by position, with the line feed that `$` lets through at the end.
Duplicates are looked for among the strings, the expression ignores the case of the digits.
-/

namespace MovementController

/-- What position `i` of a UUID4 text may hold. -/
def uuid4Class (i : ℕ) (c : Char) : Bool :=
  if i ∈ [8, 13, 18, 23] then c == '-'
  else if i = 14 then c == '4'
  else if i = 19 then isVariant c
  else isHex c

/-- The text holds 36 characters, each of which its position allows. -/
def Fills (text : List Char) : Prop :=
  text.length = 36 ∧ ∀ i c, text[i]? = some c → uuid4Class i c = true

/-- `s` is a UUID version 4 text, with nothing before or after. -/
def IsUuid4 (s : String) : Prop := Fills s.toList

/-- A UUID4 text and a line feed. -/
def IsUuid4Line (s : String) : Prop := ∃ t, IsUuid4 t ∧ s = t ++ "\n"

/-- Two UUID texts denote the same UUID when they agree up to the case of the digits. -/
def foldCase (s : String) : List Char := s.toList.map Char.toLower

theorem uuid4Classes_eq : uuid4Classes = (List.range 36).map uuid4Class := rfl

theorem all_zip_iff {α : Type*} {classes : List (α → Bool)} {l : List α} :
    (classes.zip l).all (fun p => p.1 p.2) = true ↔
      ∀ (i : ℕ) (f : α → Bool) (a : α), classes[i]? = some f → l[i]? = some a → f a = true := by
  rw [List.all_eq_true]
  constructor
  · intro hall i f a hf ha
    exact hall (f, a) (List.mem_of_getElem? (List.getElem?_zip_eq_some.2 ⟨hf, ha⟩))
  · intro hpos p hp
    obtain ⟨i, hi⟩ := List.mem_iff_getElem?.1 hp
    obtain ⟨hf, ha⟩ := List.getElem?_zip_eq_some.1 hi
    exact hpos i _ _ hf ha

theorem fills_iff {text : List Char} : Fills text ↔ text.length = uuid4Classes.length ∧
    (uuid4Classes.zip text).all (fun p => p.1 p.2) = true := by
  refine and_congr_right fun hlen => ?_
  rw [all_zip_iff]
  constructor
  · intro h i f c hf hc
    rw [uuid4Classes_eq, List.getElem?_map, Option.map_eq_some_iff] at hf
    obtain ⟨j, hj, rfl⟩ := hf
    obtain ⟨_, rfl⟩ := List.getElem?_eq_some_iff.1 hj
    rw [List.getElem_range]
    exact h i c hc
  · intro h i c hc
    have hi : i < 36 := hlen ▸ (List.getElem?_eq_some_iff.1 hc).1
    refine h i (uuid4Class i) c ?_ hc
    rw [uuid4Classes_eq, List.getElem?_map, List.getElem?_range hi]
    rfl

theorem uuid4Match_eq (s : String) : uuid4Match s = true ↔
    Fills (s.toList.take 36) ∧ (s.toList.drop 36 = [] ∨ s.toList.drop 36 = ['\n']) := by
  have hlen : uuid4Classes.length = 36 := rfl
  simp only [uuid4Match, List.splitAt_eq, Bool.and_eq_true, Bool.or_eq_true, beq_iff_eq, fills_iff,
    hlen]

/-- The expression accepts a UUID4 text, and one followed by a line feed. -/
theorem uuid4Match_iff {s : String} : uuid4Match s = true ↔ IsUuid4 s ∨ IsUuid4Line s := by
  rw [uuid4Match_eq]
  constructor
  · rintro ⟨hfills, htail | htail⟩
    · rw [List.take_of_length_le (List.drop_eq_nil_iff.1 htail)] at hfills
      exact .inl hfills
    · refine .inr ⟨String.ofList (s.toList.take 36), by rwa [IsUuid4, String.toList_ofList], ?_⟩
      rw [← String.toList_inj, String.toList_append, String.toList_ofList]
      conv_lhs => rw [← List.take_append_drop 36 s.toList, htail]
      rfl
  · rintro (h | ⟨t, ht, rfl⟩)
    · rw [List.take_of_length_le h.1.le, List.drop_eq_nil_iff.2 h.1.le]
      exact ⟨h, .inl rfl⟩
    · rw [String.toList_append, ← ht.1, List.take_left, List.drop_left]
      exact ⟨ht, .inr rfl⟩

theorem IsUuid4Line.length_eq {s : String} (h : IsUuid4Line s) : s.toList.length = 37 := by
  obtain ⟨t, ht, rfl⟩ := h
  rw [String.toList_append, List.length_append, ht.1]
  rfl

theorem IsUuid4.not_line {s : String} (h : IsUuid4 s) : ¬ IsUuid4Line s := by
  intro hline
  have hlen := hline.length_eq
  rw [h.1] at hlen
  cases hlen

/-! ### The identifiers of a goal -/

def ExecuteTrajectory.Goal.pathIds (msg : ExecuteTrajectory.Goal) : List String :=
  msg.paths.map (·.pathId)

/-- The goal is accepted exactly when its identifiers are UUID4 texts of different UUIDs. -/
def ExecuteTrajectory.Goal.Exact (msg : ExecuteTrajectory.Goal) : Prop :=
  (TrajectoryGoalDTO.fromRosMsg msg).isOk = true ↔
    (∀ id ∈ msg.pathIds, IsUuid4 id) ∧ (msg.pathIds.map foldCase).Nodup

/-- Different strings that all look like UUID4 texts, one of which ends in a line feed or two of
which are one UUID in different case. -/
structure Deceptive (ids : List String) : Prop where
  matched : ∀ id ∈ ids, IsUuid4 id ∨ IsUuid4Line id
  nodup : ids.Nodup
  deceives : (∃ id ∈ ids, IsUuid4Line id) ∨ ¬ (ids.map foldCase).Nodup

theorem fromRosMsg_isOk_iff {msg : ExecuteTrajectory.Goal} (hne : msg.paths ≠ [])
    (htyped : ∀ path ∈ msg.paths, path.Typed) : (TrajectoryGoalDTO.fromRosMsg msg).isOk = true ↔
      (∀ id ∈ msg.pathIds, IsUuid4 id ∨ IsUuid4Line id) ∧ msg.pathIds.Nodup := by
  have hok : (TrajectoryGoalDTO.fromRosMsg msg).isOk = true ↔
      ∃ goal, TrajectoryGoalDTO.fromRosMsg msg = .ok goal := by
    cases TrajectoryGoalDTO.fromRosMsg msg <;> simp [Except.isOk, Except.toBool]
  simp only [hok, TrajectoryGoalDTO.fromRosMsg_ok_iff, TrajectoryGoalDTO.exists_represents_iff,
    ExecuteTrajectory.Goal.pathIds, List.forall_mem_map, ← uuid4Match_iff]
  constructor
  · rintro ⟨-, hvalid, hnodup⟩
    exact ⟨fun path hp => (hvalid path hp).pathId, hnodup⟩
  · rintro ⟨hids, hnodup⟩
    exact ⟨hne, fun path hp => ⟨htyped path hp, hids path hp⟩, hnodup⟩

/-- With paths that are otherwise valid, the identifiers of a goal are judged rightly unless they are
deceptive. -/
theorem identifiers_exact_iff (msg : ExecuteTrajectory.Goal) (hne : msg.paths ≠ [])
    (htyped : ∀ path ∈ msg.paths, path.Typed) : msg.Exact ↔ ¬ Deceptive msg.pathIds := by
  rw [ExecuteTrajectory.Goal.Exact, fromRosMsg_isOk_iff hne htyped]
  constructor
  · rintro hexact ⟨hmatched, hnodup, hdeceives⟩
    obtain ⟨huuid, hfold⟩ := hexact.1 ⟨hmatched, hnodup⟩
    rcases hdeceives with ⟨id, hid, hline⟩ | hcase
    · exact (huuid id hid).not_line hline
    · exact hcase hfold
  · intro hsound
    constructor
    · rintro ⟨hmatched, hnodup⟩
      refine ⟨fun id hid => (hmatched id hid).resolve_right fun hline => ?_, ?_⟩
      · exact hsound ⟨hmatched, hnodup, .inl ⟨id, hid, hline⟩⟩
      · by_contra hcase
        exact hsound ⟨hmatched, hnodup, .inr hcase⟩
    · rintro ⟨huuid, hfold⟩
      exact ⟨fun id hid => .inl (huuid id hid), hfold.of_map foldCase⟩

/-- Two paths with these identifiers. -/
def twoPaths (first second : String) : ExecuteTrajectory.Goal :=
  ⟨(Gate.goalMessage first).paths ++ (Gate.goalMessage second).paths⟩

theorem typed_twoPaths (first second : String) : ∀ path ∈ (twoPaths first second).paths, path.Typed := by
  intro path hp
  rcases List.mem_cons.1 hp with rfl | hp
  · exact ⟨by simp, by simp⟩
  · rw [List.mem_singleton.1 hp]
    exact ⟨by simp, by simp⟩

/-- Different UUIDs, in both cases, and one of another version twice. -/
theorem identifiers_exact_iff_twoPaths :
    (twoPaths "aaaaaaaa-aaaa-4aaa-8aaa-aaaaaaaaaaaa" "BBBBBBBB-BBBB-4BBB-8BBB-BBBBBBBBBBBB").Exact ∧
    (twoPaths "aaaaaaaa-aaaa-1aaa-8aaa-aaaaaaaaaaaa" "AAAAAAAA-AAAA-1AAA-8AAA-AAAAAAAAAAAA").Exact := by
  constructor
  · refine (identifiers_exact_iff _ (by simp [twoPaths, Gate.goalMessage]) (typed_twoPaths _ _)).2 fun h => ?_
    rcases h.deceives with ⟨id, hid, hline⟩ | hcase
    · have hlen : id.toList.length = 36 := by
        rcases List.mem_cons.1 hid with rfl | hid
        · decide
        · rw [List.mem_singleton.1 hid]
          decide
      rw [hline.length_eq] at hlen
      cases hlen
    · exact absurd hcase (by decide)
  · refine (identifiers_exact_iff _ (by simp [twoPaths, Gate.goalMessage]) (typed_twoPaths _ _)).2 fun h => ?_
    have hmatched := h.matched _ List.mem_cons_self
    rw [← uuid4Match_iff] at hmatched
    exact absurd hmatched (by decide)

/-- A line feed at the end is accepted, and so is one UUID in two spellings. -/
theorem identifiers_inexact :
    ¬ (Gate.goalMessage "11111111-1111-4111-8111-111111111111\n").Exact ∧
    ¬ (⟨(Gate.goalMessage "aaaaaaaa-aaaa-4aaa-8aaa-aaaaaaaaaaaa").paths ++
      (Gate.goalMessage "AAAAAAAA-AAAA-4AAA-8AAA-AAAAAAAAAAAA").paths⟩ :
        ExecuteTrajectory.Goal).Exact := by
  constructor
  · intro h
    have hline := (h.1 (by decide)).1 _ (List.mem_singleton_self _)
    exact absurd hline.1 (by decide)
  · intro h
    exact absurd (h.1 (by decide)).2 (by decide)

end MovementController
