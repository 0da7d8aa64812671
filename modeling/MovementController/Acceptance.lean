import MovementController.Gate
import MovementController.Limits

/-!
# What a goal message has to satisfy

`TrajectoryPathDTO.from_ros_msg`, `TrajectoryGoalDTO.from_ros_msg` and `validate_goal` raise early
and out of loops. What they accept together, said of the message, and what `_goal_callback` makes of
it.
-/

namespace MovementController
open ConstraintConfigDTO (Within)

/-! ### One path -/

/-- What `TrajectoryPathDTO.from_ros_msg` asks of a path message besides its `path_id`. -/
structure TrajectoryPath.Typed (msg : TrajectoryPath) : Prop where
  motionType : msg.motionType ∈ ["LIN", "PTP", "CIRC"]
  circType : msg.motionType = "CIRC" → msg.circType ∈ ["interim", "center"]

structure TrajectoryPath.Valid (msg : TrajectoryPath) : Prop extends msg.Typed where
  pathId : uuid4Match msg.pathId = true

/-- The DTO carries the fields of the message, a negative blend radius as 0 and a `circ_type` that
says nothing as `interim`, which only a path that is not CIRC may have. -/
structure TrajectoryPathDTO.Represents (dto : TrajectoryPathDTO) (msg : TrajectoryPath) : Prop where
  pathId : dto.pathId = msg.pathId
  motionType : dto.motionType.value = msg.motionType
  targetPose : dto.targetPose = msg.targetPose
  blendRadius : dto.blendRadius = if msg.blendRadius < 0 then 0 else msg.blendRadius
  cartesianSpeed : dto.cartesianSpeed = msg.cartesianSpeed
  cartesianAcceleration : dto.cartesianAcceleration = msg.cartesianAcceleration
  jointSpeed : dto.jointSpeed = msg.jointSpeed
  jointAcceleration : dto.jointAcceleration = msg.jointAcceleration
  toolFrame : dto.toolFrame = msg.toolFrame
  circType : dto.circType.value = msg.circType ∨
    dto.motionType ≠ .CIRC ∧ msg.circType ∉ ["interim", "center"] ∧ dto.circType = .INTERIM
  circPoint : dto.circPoint = msg.circPoint

theorem MotionTypeEnum.ofValue_eq_some {v : String} {t : MotionTypeEnum} :
    ofValue v = some t ↔ t.value = v := by
  constructor
  · intro h
    simpa using List.find?_some h
  · rintro rfl
    cases t <;> rfl

theorem MotionTypeEnum.exists_ofValue {v : String} :
    (∃ t, ofValue v = some t) ↔ v ∈ ["LIN", "PTP", "CIRC"] := by
  simp only [ofValue_eq_some]
  constructor
  · rintro ⟨t, rfl⟩
    cases t <;> simp [value]
  · intro h
    simp only [List.mem_cons, List.not_mem_nil, or_false] at h
    rcases h with rfl | rfl | rfl
    exacts [⟨.LIN, rfl⟩, ⟨.PTP, rfl⟩, ⟨.CIRC, rfl⟩]

theorem CircTypeEnum.ofValue_eq_some {v : String} {t : CircTypeEnum} :
    ofValue v = some t ↔ t.value = v := by
  constructor
  · intro h
    simpa using List.find?_some h
  · rintro rfl
    cases t <;> rfl

theorem CircTypeEnum.ofValue_eq_none {v : String} :
    ofValue v = none ↔ v ∉ ["interim", "center"] := by
  constructor
  · intro h hv
    simp only [List.mem_cons, List.not_mem_nil, or_false] at hv
    rcases hv with rfl | rfl <;> cases h
  · intro h
    rcases ho : ofValue v with _ | t
    · rfl
    · rw [← ofValue_eq_some.1 ho] at h
      cases t <;> simp [value] at h

namespace TrajectoryPathDTO

variable {msg : TrajectoryPath} {motionType : MotionTypeEnum} {circType : CircTypeEnum}

theorem resolveCircType_ok_iff : resolveCircType msg motionType = .ok circType ↔
    circType.value = msg.circType ∨
      motionType ≠ .CIRC ∧ msg.circType ∉ ["interim", "center"] ∧ circType = .INTERIM := by
  unfold resolveCircType
  have hempty : CircTypeEnum.ofValue "" = none := rfl
  by_cases hcirc : motionType = .CIRC
  · rw [if_pos hcirc]
    by_cases he : msg.circType = ""
    · have hv : circType.value ≠ "" := by cases circType <;> decide
      simp [he, hcirc, hv]
    · rw [if_neg he]
      rcases ho : CircTypeEnum.ofValue msg.circType with _ | t
      · have hv : ¬ circType.value = msg.circType := fun h => by
          rw [CircTypeEnum.ofValue_eq_some.2 h] at ho
          cases ho
        simp [hcirc, hv]
      · rw [← CircTypeEnum.ofValue_eq_some, ho]
        simp [hcirc]
  · have hdefault : (if msg.circType = "" then Except.ok CircTypeEnum.INTERIM
        else Except.ok ((CircTypeEnum.ofValue msg.circType).getD .INTERIM)) =
        (Except.ok ((CircTypeEnum.ofValue msg.circType).getD .INTERIM) :
          Except GoalError CircTypeEnum) := by
      split
      · next he => rw [he, hempty]; rfl
      · rfl
    rw [if_neg hcirc, hdefault, Except.ok.injEq, ← CircTypeEnum.ofValue_eq_none,
      ← CircTypeEnum.ofValue_eq_some]
    rcases ho : CircTypeEnum.ofValue msg.circType with _ | t
    · simp [hcirc, eq_comm]
    · simp

theorem fromRosMsg_ok_iff {dto : TrajectoryPathDTO} :
    fromRosMsg msg = .ok dto ↔ dto.Represents msg := by
  unfold fromRosMsg
  constructor
  · intro h
    split at h
    · cases h
    · next t ht =>
      split at h
      · cases h
      · next c hc =>
        split at h
        · cases h
        · split at h
          · cases h
            exact ⟨rfl, MotionTypeEnum.ofValue_eq_some.1 ht, rfl, rfl, rfl, rfl, rfl, rfl, rfl,
              resolveCircType_ok_iff.1 hc, rfl⟩
          · cases h
  · intro h
    have hid : uuid4Match msg.pathId = true := h.pathId ▸ dto.pathId_uuid4
    have hne : msg.pathId ≠ "" := fun he => absurd (he ▸ hid) (by decide)
    rw [MotionTypeEnum.ofValue_eq_some.2 h.motionType]
    simp only [resolveCircType_ok_iff.2 h.circType, hne, ↓reduceIte, hid, ↓reduceDIte]
    cases dto
    simp [normaliseBlendRadius, h.pathId.symm, h.targetPose.symm, h.blendRadius.symm,
      h.cartesianSpeed.symm, h.cartesianAcceleration.symm, h.jointSpeed.symm,
      h.jointAcceleration.symm, h.toolFrame.symm, h.circPoint.symm]

theorem Represents.valid {dto : TrajectoryPathDTO} (h : dto.Represents msg) : msg.Valid := by
  refine ⟨⟨?_, ?_⟩, h.pathId ▸ dto.pathId_uuid4⟩
  · exact MotionTypeEnum.exists_ofValue.1 ⟨_, MotionTypeEnum.ofValue_eq_some.2 h.motionType⟩
  · intro hcirc
    have ht : dto.motionType = .CIRC := by
      rw [← h.motionType] at hcirc
      cases hm : dto.motionType <;> simp [hm, MotionTypeEnum.value] at hcirc ⊢
    rcases h.circType with hc | ⟨hne, -⟩
    · rw [← hc]
      cases dto.circType <;> simp [CircTypeEnum.value]
    · exact absurd ht hne

theorem exists_represents (h : msg.Valid) : ∃ dto : TrajectoryPathDTO, dto.Represents msg := by
  obtain ⟨t, ht⟩ := MotionTypeEnum.exists_ofValue.2 h.motionType
  obtain ⟨c, hc⟩ : ∃ c, resolveCircType msg t = .ok c := by
    rcases ho : CircTypeEnum.ofValue msg.circType with _ | c
    · refine ⟨.INTERIM, resolveCircType_ok_iff.2 (.inr ⟨?_, CircTypeEnum.ofValue_eq_none.1 ho, rfl⟩)⟩
      rintro rfl
      have hcirc : msg.motionType = "CIRC" := (MotionTypeEnum.ofValue_eq_some.1 ht).symm
      exact CircTypeEnum.ofValue_eq_none.1 ho (h.circType hcirc)
    · exact ⟨c, resolveCircType_ok_iff.2 (.inl (CircTypeEnum.ofValue_eq_some.1 ho))⟩
  have hne : msg.pathId ≠ "" := fun he => absurd (he ▸ h.pathId) (by decide)
  obtain ⟨dto, hdto⟩ : ∃ dto, fromRosMsg msg = .ok dto := by
    simp only [fromRosMsg, ht, hc, hne, ↓reduceIte, h.pathId, ↓reduceDIte]
    exact ⟨_, rfl⟩
  exact ⟨dto, fromRosMsg_ok_iff.1 hdto⟩

end TrajectoryPathDTO

/-! ### The list of paths -/

/-- The DTO has one path for each path of the message, in order. -/
def TrajectoryGoalDTO.Represents (goal : TrajectoryGoalDTO) (msg : ExecuteTrajectory.Goal) : Prop :=
  List.Forall₂ (fun path dto => TrajectoryPathDTO.Represents dto path) msg.paths goal.paths

namespace TrajectoryGoalDTO

variable {msg : ExecuteTrajectory.Goal} {goal : TrajectoryGoalDTO}

theorem validatePaths_ok_iff {paths : List TrajectoryPathDTO} :
    validatePaths paths = .ok goal ↔ goal.paths = paths := by
  unfold validatePaths
  constructor
  · intro h
    split at h
    · cases h
    · split at h
      · cases h
      · cases h
        rfl
  · rintro rfl
    rw [dif_neg goal.paths_ne_nil]
    split
    · next pathId hd =>
      have hnone : duplicate [] goal.paths = none :=
        duplicate_eq_none.2 ⟨goal.pathIds_nodup, fun _ _ => List.not_mem_nil⟩
      rw [hd] at hnone
      cases hnone
    · rfl

theorem fromRosMsg_ok_iff : fromRosMsg msg = .ok goal ↔ goal.Represents msg := by
  have hpaths {paths : List TrajectoryPathDTO} :
      msg.paths.mapM TrajectoryPathDTO.fromRosMsg = .ok paths ↔
        List.Forall₂ (fun path dto => TrajectoryPathDTO.Represents dto path) msg.paths paths := by
    simp only [Fallible.mapM_ok_iff, TrajectoryPathDTO.fromRosMsg_ok_iff]
  unfold fromRosMsg
  constructor
  · intro h
    split at h
    · cases h
    · next paths hmsg =>
      rw [Represents, validatePaths_ok_iff.1 h]
      exact hpaths.1 hmsg
  · intro h
    rw [hpaths.2 h]
    exact validatePaths_ok_iff.2 rfl

theorem Represents.pathIds (h : goal.Represents msg) :
    msg.paths.map (·.pathId) = goal.paths.map (·.pathId) := by
  have hmap : List.Forall₂ Eq (msg.paths.map (·.pathId)) (goal.paths.map (·.pathId)) :=
    List.rel_map (fun _ _ hp => hp.pathId.symm) h
  rwa [List.forall₂_eq_eq_eq] at hmap

theorem Represents.valid (h : goal.Represents msg) : ∀ path ∈ msg.paths, path.Valid :=
  ((List.forall₂_and_left _ _).1 (h.imp fun _ _ hp => ⟨TrajectoryPathDTO.Represents.valid hp, hp⟩)).1

theorem exists_represents_iff : (∃ goal : TrajectoryGoalDTO, goal.Represents msg) ↔
    msg.paths ≠ [] ∧ (∀ path ∈ msg.paths, path.Valid) ∧ (msg.paths.map (·.pathId)).Nodup := by
  constructor
  · rintro ⟨goal, h⟩
    refine ⟨fun hnil => goal.paths_ne_nil ?_, h.valid, h.pathIds ▸ goal.pathIds_nodup⟩
    rw [Represents, hnil] at h
    exact List.forall₂_nil_left_iff.1 h
  · rintro ⟨hne, hvalid, hnodup⟩
    obtain ⟨paths, hpaths⟩ := Fallible.exists_forall₂ fun path hp =>
      TrajectoryPathDTO.exists_represents (hvalid path hp)
    have hids : List.Forall₂ Eq (msg.paths.map (·.pathId)) (paths.map (·.pathId)) :=
      List.rel_map (fun _ _ hp => hp.pathId.symm) hpaths
    rw [List.forall₂_eq_eq_eq] at hids
    refine ⟨⟨paths, fun hnil => hne ?_, hids ▸ hnodup⟩, hpaths⟩
    rw [hnil] at hpaths
    exact List.forall₂_nil_right_iff.1 hpaths

end TrajectoryGoalDTO

/-! ### `_goal_callback` -/

/-- Each value of the path's own channel that is positive respects its cap if that is positive. -/
def TrajectoryPath.Capped (path : TrajectoryPath) (cfg : ConstraintConfigDTO) : Prop :=
  if path.motionType = "PTP" then
    Within path.jointSpeed cfg.maxJointSpeed ∧
      Within path.jointAcceleration cfg.maxJointAcceleration
  else
    Within path.cartesianSpeed cfg.maxCartesianSpeed ∧
      Within path.cartesianAcceleration cfg.maxCartesianAcceleration

theorem TrajectoryPathDTO.Represents.capped_iff {path : TrajectoryPath} {dto : TrajectoryPathDTO}
    (h : dto.Represents path) (cfg : ConstraintConfigDTO) : path.Capped cfg ↔
      Within dto.requested.1 (cfg.caps dto.motionType).1 ∧
        Within dto.requested.2 (cfg.caps dto.motionType).2 := by
  unfold TrajectoryPath.Capped TrajectoryPathDTO.requested ConstraintConfigDTO.caps
  rw [← h.motionType, ← h.cartesianSpeed, ← h.cartesianAcceleration, ← h.jointSpeed,
    ← h.jointAcceleration]
  cases dto.motionType <;> simp [MotionTypeEnum.value]

/-- The rules a goal message is accepted by. -/
structure Acceptable (cfg : Option ConstraintConfigDTO) (msg : ExecuteTrajectory.Goal) : Prop where
  paths_ne_nil : msg.paths ≠ []
  valid : ∀ path ∈ msg.paths, path.Valid
  pathIds_nodup : (msg.paths.map (·.pathId)).Nodup
  capped : ∀ c ∈ cfg, ∀ path ∈ msg.paths, path.Capped c

namespace Gate

theorem validateGoal_of_represents {goal : TrajectoryGoalDTO} {msg : ExecuteTrajectory.Goal}
    (h : goal.Represents msg) (cfg : ConstraintConfigDTO) :
    cfg.validateGoal goal = .ok () ↔ ∀ path ∈ msg.paths, path.Capped cfg := by
  rw [cfg.validateGoal_ok_iff]
  unfold TrajectoryGoalDTO.Represents at h
  generalize msg.paths = paths at h ⊢
  generalize goal.paths = dtos at h ⊢
  induction h with
  | nil => simp
  | cons hp _ ih => rw [List.forall_mem_cons, List.forall_mem_cons, ih, hp.capped_iff]

theorem validate_ok_iff {w : State} {msg : ExecuteTrajectory.Goal} {goal : TrajectoryGoalDTO} :
    w.validate msg = .ok goal ↔
      goal.Represents msg ∧ ∀ c ∈ w.constraintConfig, ∀ path ∈ msg.paths, path.Capped c := by
  unfold State.validate
  rw [Fallible.bind_ok_iff]
  simp only [TrajectoryGoalDTO.fromRosMsg_ok_iff]
  cases w.constraintConfig with
  | none => simp [pure, Except.pure]
  | some cfg =>
    simp only [Option.mem_some_iff, forall_eq']
    constructor
    · rintro ⟨goal', hrep, h⟩
      obtain ⟨u, hcap, h⟩ := Fallible.bind_ok h
      obtain rfl : goal' = goal := Except.ok.inj h
      exact ⟨hrep, (validateGoal_of_represents hrep cfg).1 hcap⟩
    · rintro ⟨hrep, hcap⟩
      refine ⟨goal, hrep, ?_⟩
      rw [(validateGoal_of_represents hrep cfg).2 hcap]
      rfl

theorem exists_validate_iff {w : State} {msg : ExecuteTrajectory.Goal} :
    (∃ goal, w.validate msg = .ok goal) ↔ Acceptable w.constraintConfig msg := by
  simp only [validate_ok_iff, exists_and_right, TrajectoryGoalDTO.exists_represents_iff]
  constructor
  · rintro ⟨⟨hne, hvalid, hnodup⟩, hcap⟩
    exact ⟨hne, hvalid, hnodup, hcap⟩
  · intro h
    exact ⟨⟨h.paths_ne_nil, h.valid, h.pathIds_nodup⟩, h.capped⟩

/-- An idle node accepts exactly the goals that satisfy the rules and stores their fields; a rejected
goal leaves no trace, in an idle node or a busy one. -/
theorem goalCallback_spec (w : State) (msg : ExecuteTrajectory.Goal) :
    (w.isExecuting = false →
      ((w.goalCallback msg).2 = .ACCEPT ↔ Acceptable w.constraintConfig msg) ∧
      ((w.goalCallback msg).2 = .ACCEPT → ∃ goal : TrajectoryGoalDTO, goal.Represents msg ∧
        (w.goalCallback msg).1 = { w with trajectoryGoal := some goal, isExecuting := true }) ∧
      ((w.goalCallback msg).2 = .REJECT →
        (w.goalCallback msg).1 = { w with trajectoryGoal := none, isExecuting := false })) ∧
    (w.isExecuting = true → w.goalCallback msg = (w, .REJECT)) := by
  constructor
  · intro hidle
    rw [← exists_validate_iff]
    cases hv : w.validate msg with
    | ok goal =>
      rw [goalCallback_ok hidle hv]
      refine ⟨by simp, fun _ => ⟨goal, (validate_ok_iff.1 hv).1, rfl⟩, fun h => ?_⟩
      cases h
    | error e =>
      have hreject : w.goalCallback msg =
          ({ w with trajectoryGoal := none, isExecuting := false }, .REJECT) := by
        rw [State.goalCallback, hidle, hv]
        rfl
      rw [hreject]
      refine ⟨by simp, fun h => ?_, fun _ => rfl⟩
      cases h
  · intro hbusy
    rw [State.goalCallback, if_pos hbusy]

def cappedCell : ConstraintConfigDTO :=
  { ConstraintConfigDTO.unconstrained with
    maxCartesianSpeed := 2, maxCartesianAcceleration := 3, maxJointSpeed := 1 }

/-- A LIN and a CIRC path at their caps, and a PTP path. -/
def mixedMessage (jointSpeed : ℚ) : ExecuteTrajectory.Goal :=
  ⟨[{ pathId := "11111111-1111-4111-8111-111111111111", motionType := "LIN", blendRadius := -1,
      cartesianSpeed := 2, toolFrame := "tool0" },
    { pathId := "22222222-2222-4222-8222-222222222222", motionType := "CIRC", circType := "center",
      cartesianSpeed := 1, cartesianAcceleration := 3, jointSpeed := 5, toolFrame := "tool0" },
    { pathId := "33333333-3333-4333-8333-333333333333", motionType := "PTP", jointSpeed,
      cartesianSpeed := 5, toolFrame := "tool0" }]⟩

/-- Only the joint speed of the PTP path makes the difference. -/
theorem goalCallback_spec_mixedMessage :
    (∃ goal : TrajectoryGoalDTO, goal.Represents (mixedMessage 1) ∧
      ((init (some cappedCell)).goalCallback (mixedMessage 1)).1 =
        { init (some cappedCell) with trajectoryGoal := some goal, isExecuting := true }) ∧
    ¬Acceptable (some cappedCell) (mixedMessage 2) ∧
    ((init (some cappedCell)).goalCallback (mixedMessage 2)).1 =
      { init (some cappedCell) with trajectoryGoal := none, isExecuting := false } := by
  have hfast := (goalCallback_spec (init (some cappedCell)) (mixedMessage 2)).1 rfl
  refine ⟨((goalCallback_spec (init (some cappedCell)) (mixedMessage 1)).1 rfl).2.1 rfl,
    fun h => ?_, hfast.2.2 rfl⟩
  exact absurd (hfast.1.2 h) (by decide)

end Gate

end MovementController
