import MovementController.Goal
import MovementController.Lib.Grouping

/-!
# `TrajectoryGrouper`

The grouping loop, and its description as `List.splitBy`: two consecutive paths share a group when
the first asks for a blend and neither is PTP (`joins`).
-/

namespace MovementController

/-- A trajectory group: consecutive paths planned by one request. -/
abbrev Group := List TrajectoryPathDTO

def Group.pathIds (group : Group) : List String := group.map (·.pathId)

namespace TrajectoryGrouper

def effectiveBlendRadius (path : TrajectoryPathDTO) : ℚ :=
  if path.motionType = .PTP then 0 else path.blendRadius

/-- One iteration of the grouping loop. The first path finds no group; a later one looks at the
last path of the last group. -/
def addPath (groups : List Group) (path : TrajectoryPathDTO) : List Group :=
  match groups.getLast?, groups.getLast?.bind List.getLast? with
  | some last, some predecessor =>
    if path.motionType = .PTP then groups ++ [[path]]
    else if effectiveBlendRadius predecessor > 0 then groups.dropLast ++ [last ++ [path]]
    else groups ++ [[path]]
  | _, _ => groups ++ [[path]]

def group (paths : List TrajectoryPathDTO) : Except String (List Group) :=
  if paths = [] then .error "paths list must not be empty" else .ok (paths.foldl addPath [])

/-- Whether `path` is merged into the group its predecessor closes. -/
def joins (predecessor path : TrajectoryPathDTO) : Bool :=
  path.motionType ≠ .PTP && effectiveBlendRadius predecessor > 0

theorem joins_iff {a b : TrajectoryPathDTO} :
    joins a b = true ↔ a.motionType ≠ .PTP ∧ b.motionType ≠ .PTP ∧ 0 < a.blendRadius := by
  unfold joins effectiveBlendRadius
  by_cases ha : a.motionType = .PTP <;> by_cases hb : b.motionType = .PTP <;> simp [ha, hb]

theorem addPath_eq : addPath = Grouping.pushGroup joins := by
  funext groups path
  unfold addPath Grouping.pushGroup joins
  generalize groups.getLast?.bind List.getLast? = predecessor
  generalize groups.getLast? = last
  rcases last with _ | last <;> rcases predecessor with _ | predecessor <;> try rfl
  by_cases hp : path.motionType = .PTP <;> simp [hp]

theorem group_eq_splitBy {paths : List TrajectoryPathDTO} (h : paths ≠ []) :
    group paths = .ok (paths.splitBy joins) := by
  rw [group, if_neg h, addPath_eq, Grouping.foldl_pushGroup]

variable {paths : List TrajectoryPathDTO} {g : Group}

theorem ne_nil_of_mem (h : g ∈ paths.splitBy joins) : g ≠ [] := List.ne_nil_of_mem_splitBy h

theorem chain_of_mem (h : g ∈ paths.splitBy joins) : g.IsChain fun a b => joins a b :=
  List.isChain_of_mem_splitBy h

theorem eq_singleton_of_ptp {p : TrajectoryPathDTO} (hg : g ∈ paths.splitBy joins) (hp : p ∈ g)
    (hptp : p.motionType = .PTP) : g = [p] := by
  obtain ⟨l, r, rfl⟩ := List.append_of_mem hp
  have hc := chain_of_mem hg
  have hr : r = [] := by
    cases r with
    | nil => rfl
    | cons b r =>
      have hpb : joins p b := (List.isChain_append_cons_cons.1 hc).2.1
      exact absurd hptp (joins_iff.1 hpb).1
  have hl : l = [] := by
    rcases List.eq_nil_or_concat l with rfl | ⟨l, a, rfl⟩
    · rfl
    · rw [List.concat_eq_append, List.append_assoc] at hc
      have hap : joins a p := (List.isChain_append_cons_cons.1 hc).2.1
      exact absurd hptp (joins_iff.1 hap).2.1
  rw [hl, hr]; rfl

/-- `groups` cuts `paths` where a path or its successor is PTP or the path asks for no blend, and
nowhere else. -/
structure Partitions (groups : List Group) (paths : List TrajectoryPathDTO) : Prop where
  ne_nil : ∀ g ∈ groups, g ≠ []
  flatten : groups.flatten = paths
  together : ∀ i a b, paths[i]? = some a → paths[i + 1]? = some b →
    (Grouping.Together groups i ↔ a.motionType ≠ .PTP ∧ b.motionType ≠ .PTP ∧ 0 < a.blendRadius)

theorem partitions_iff {groups : List Group} :
    Partitions groups paths ↔ groups = paths.splitBy joins := by
  have hnil : (∀ g ∈ groups, g ≠ []) ↔ [] ∉ groups :=
    ⟨fun h hm => h [] hm rfl, fun h g hg he => h (he ▸ hg)⟩
  rw [Grouping.eq_splitBy_iff]
  constructor
  · rintro ⟨hne, rfl, ht⟩
    exact ⟨hnil.1 hne, rfl, fun i a b ha hb => (ht i a b ha hb).trans joins_iff.symm⟩
  · rintro ⟨hne, rfl, ht⟩
    exact ⟨hnil.2 hne, rfl, fun i a b ha hb => (ht i a b ha hb).trans joins_iff⟩

/-- The groups are the only partition of the paths; a PTP path has one to itself. -/
theorem group_unique (paths : List TrajectoryPathDTO) (h : paths ≠ []) :
    ∃ groups, group paths = .ok groups ∧ Partitions groups paths ∧
      (∀ g ∈ groups, ∀ p ∈ g, p.motionType = .PTP → g = [p]) ∧
      ∀ groups', Partitions groups' paths → groups' = groups := by
  refine ⟨paths.splitBy joins, group_eq_splitBy h, partitions_iff.2 rfl, ?_, ?_⟩
  · intro g hg p hp hptp
    exact eq_singleton_of_ptp hg hp hptp
  · intro groups' h'
    exact partitions_iff.1 h'

/-- A LIN path blended into its successor, and a PTP path. -/
def blendedThenPtp : List TrajectoryPathDTO :=
  [{ TrajectoryPathDTO.atOrigin "aaaaaaaa-aaaa-4aaa-8aaa-aaaaaaaaaaaa" .LIN (by decide) with
      blendRadius := 1, blendRadius_nonneg := zero_le_one },
    .atOrigin "bbbbbbbb-bbbb-4bbb-8bbb-bbbbbbbbbbbb" .CIRC (by decide),
    .atOrigin "cccccccc-cccc-4ccc-8ccc-cccccccccccc" .PTP (by decide)]

theorem group_unique_blendedThenPtp :
    ∃ groups, group blendedThenPtp = .ok groups ∧ Grouping.Together groups 0 ∧
      ¬ Grouping.Together groups 1 := by
  obtain ⟨groups, hg, hp, -⟩ := group_unique blendedThenPtp (by decide)
  refine ⟨groups, hg, (hp.together 0 _ _ rfl rfl).2 (by decide), fun h => ?_⟩
  exact absurd ((hp.together 1 _ _ rfl rfl).1 h) (by decide)

end TrajectoryGrouper

def TrajectoryGoalDTO.groups (goal : TrajectoryGoalDTO) : List Group :=
  goal.paths.foldl TrajectoryGrouper.addPath []

namespace TrajectoryGoalDTO

variable (goal : TrajectoryGoalDTO)

theorem group_paths : TrajectoryGrouper.group goal.paths = .ok goal.groups := by
  rw [TrajectoryGrouper.group, if_neg goal.paths_ne_nil, groups]

theorem groups_eq_splitBy : goal.groups = goal.paths.splitBy TrajectoryGrouper.joins := by
  have hgroup := TrajectoryGrouper.group_eq_splitBy goal.paths_ne_nil
  exact Except.ok.inj (goal.group_paths.symm.trans hgroup)

theorem flatten_groups : goal.groups.flatten = goal.paths := by
  rw [groups_eq_splitBy, List.flatten_splitBy]

theorem groups_ne_nil : goal.groups ≠ [] := by
  rw [groups_eq_splitBy]; exact List.splitBy_ne_nil.2 goal.paths_ne_nil

theorem ne_nil_of_mem_groups {g : Group} (h : g ∈ goal.groups) : g ≠ [] := by
  rw [groups_eq_splitBy] at h; exact TrajectoryGrouper.ne_nil_of_mem h

end TrajectoryGoalDTO

end MovementController
