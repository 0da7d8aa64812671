import MovementController.Planners
import MovementController.Lib.Fallible
import Mathlib.Algebra.Order.Field.Basic
import Mathlib.Algebra.Order.Field.Rat

/-!
# Caps and scaling factors

`validate_goal` and `_calculate_scaling_factors` are separate code over the same data: the values a
path requests on the channel of its motion type, and the caps of that channel. What the first lets
through, and which of it the second turns into a legal factor.
-/

namespace MovementController

/-! ### The channel of a motion type -/

/-- Speed and acceleration on the channel a path is planned with: cartesian for LIN and CIRC, joint
for PTP. -/
def TrajectoryPathDTO.requested (path : TrajectoryPathDTO) : ℚ × ℚ :=
  if path.motionType = .PTP then (path.jointSpeed, path.jointAcceleration)
  else (path.cartesianSpeed, path.cartesianAcceleration)

namespace ConstraintConfigDTO

variable (cfg : ConstraintConfigDTO)

/-- The caps of speed and acceleration on the channel of a motion type. -/
def caps (motionType : MotionTypeEnum) : ℚ × ℚ :=
  if motionType = .PTP then (cfg.maxJointSpeed, cfg.maxJointAcceleration)
  else (cfg.maxCartesianSpeed, cfg.maxCartesianAcceleration)

/-- A cap is enforced only between a positive value and a positive cap. -/
def Within (value maximum : ℚ) : Prop := 0 < value → 0 < maximum → value ≤ maximum

/-! ### `validate_goal` -/

theorem checkMaximum_ok_iff {path : TrajectoryPathDTO} {motionTypes : List MotionTypeEnum}
    {field unit : String} {value maximum : ℚ} {u : Unit} :
    checkMaximum path motionTypes field unit value maximum = .ok u ↔
      (path.motionType ∈ motionTypes → Within value maximum) := by
  unfold checkMaximum Within
  split
  · next h =>
    obtain ⟨hm, hv, hmax, hlt⟩ := h
    simp only [reduceCtorEq, false_iff]
    intro hw
    exact absurd (hw hm hv hmax) (not_le.2 hlt)
  · next h =>
    simp only [true_iff]
    intro hm hv hmax
    by_contra hle
    exact h ⟨hm, hv, hmax, not_le.1 hle⟩

theorem validatePath_ok_iff {path : TrajectoryPathDTO} {u : Unit} :
    cfg.validatePath path = .ok u ↔ Within path.requested.1 (cfg.caps path.motionType).1 ∧
      Within path.requested.2 (cfg.caps path.motionType).2 := by
  have hchain : cfg.validatePath path = .ok u ↔
      (path.motionType ∈ [MotionTypeEnum.LIN, .CIRC] →
        Within path.cartesianSpeed cfg.maxCartesianSpeed) ∧
      (path.motionType ∈ [MotionTypeEnum.LIN, .CIRC] →
        Within path.cartesianAcceleration cfg.maxCartesianAcceleration) ∧
      (path.motionType ∈ [MotionTypeEnum.PTP] → Within path.jointSpeed cfg.maxJointSpeed) ∧
      (path.motionType ∈ [MotionTypeEnum.PTP] →
        Within path.jointAcceleration cfg.maxJointAcceleration) := by
    simp only [validatePath, Fallible.bind_ok_iff, checkMaximum_ok_iff, exists_const]
  rw [hchain]
  cases hm : path.motionType <;> simp [TrajectoryPathDTO.requested, caps, hm]

theorem validateGoal_ok_iff {goal : TrajectoryGoalDTO} {u : Unit} :
    cfg.validateGoal goal = .ok u ↔ ∀ path ∈ goal.paths,
      Within path.requested.1 (cfg.caps path.motionType).1 ∧
        Within path.requested.2 (cfg.caps path.motionType).2 := by
  simp only [validateGoal, Fallible.forM_ok_iff, validatePath_ok_iff]

/-- The error names the path, and a value of it over the cap. -/
def Names (path : TrajectoryPathDTO) (e : GoalError) : Prop :=
  ∃ field unit value maximum, e = .exceedsMaximum path.pathId field unit value maximum ∧
    0 < maximum ∧ maximum < value

theorem checkMaximum_raises (path : TrajectoryPathDTO) (motionTypes : List MotionTypeEnum)
    (field unit : String) (value maximum : ℚ) :
    Fallible.Raises (Names path) (checkMaximum path motionTypes field unit value maximum) := by
  unfold checkMaximum
  split
  · next h =>
    obtain ⟨-, -, hmax, hlt⟩ := h
    exact Fallible.raises_error.2 ⟨field, unit, value, maximum, rfl, hmax, hlt⟩
  · exact Fallible.raises_ok ()

theorem validatePath_raises (path : TrajectoryPathDTO) :
    Fallible.Raises (Names path) (cfg.validatePath path) := by
  have hcheck := checkMaximum_raises path
  refine Fallible.raises_bind.2 ⟨hcheck _ _ _ _ _, fun _ _ => ?_⟩
  refine Fallible.raises_bind.2 ⟨hcheck _ _ _ _ _, fun _ _ => ?_⟩
  exact Fallible.raises_bind.2 ⟨hcheck _ _ _ _ _, fun _ _ => hcheck _ _ _ _ _⟩

theorem validateGoal_raises (goal : TrajectoryGoalDTO) :
    Fallible.Raises (fun e => ∃ path ∈ goal.paths, Names path e) (cfg.validateGoal goal) :=
  Fallible.raises_forM fun path hpath e he => ⟨path, hpath, cfg.validatePath_raises path e he⟩

end ConstraintConfigDTO

/-! ### `_calculate_scaling_factors` -/

namespace BasePlannerService
open ConstraintConfigDTO (Within)

theorem calculateScalingFactors_eq {svc : BasePlannerService} {cfg : ConstraintConfigDTO}
    (h : svc.constraintConfig = some cfg) (path : TrajectoryPathDTO) :
    svc.calculateScalingFactors path =
      (scalingFactor path.requested.1 (cfg.caps path.motionType).1,
        scalingFactor path.requested.2 (cfg.caps path.motionType).2) := by
  unfold calculateScalingFactors
  rw [h]
  cases hm : path.motionType <;> simp [TrajectoryPathDTO.requested, ConstraintConfigDTO.caps, hm]

/-- What the factor for the value `requested` under the cap `maximum` has to be. -/
structure Legal (requested maximum factor : ℚ) : Prop where
  pos : 0 < factor
  le_one : factor ≤ 1
  ratio : 0 < requested → 0 < maximum → factor = requested / maximum ∧ factor * maximum = requested
  unspecified : requested = 0 ∨ maximum = 0 → factor = 1

theorem scalingFactor_of_uncapped (requested : ℚ) {maximum : ℚ} (h : maximum ≤ 0) :
    scalingFactor requested maximum = 1 := by
  rw [scalingFactor, if_neg (not_lt.2 h)]

theorem scalingFactor_of_within {requested maximum : ℚ} (hm : 0 < maximum) (h : requested ≤ maximum) :
    scalingFactor requested maximum = requested / maximum := by
  rw [scalingFactor, if_pos hm, min_eq_right ((div_le_one hm).2 h)]

/-- A value that passed the check gets a legal factor unless it is not positive and the cap is. -/
theorem scalingFactor_legal_iff {requested maximum : ℚ} (h : Within requested maximum) :
    Legal requested maximum (scalingFactor requested maximum) ↔ (0 < maximum → 0 < requested) := by
  constructor
  · intro hlegal hmax
    by_contra hreq
    have hle : requested ≤ 0 := not_lt.1 hreq
    have hpos := hlegal.pos
    rw [scalingFactor_of_within hmax (hle.trans hmax.le)] at hpos
    exact absurd ((div_pos_iff_of_pos_right hmax).1 hpos) hreq
  · intro hreq
    rcases le_or_gt maximum 0 with hmax | hmax
    · rw [scalingFactor_of_uncapped requested hmax]
      refine ⟨one_pos, le_refl 1, fun _ hpos => ?_, fun _ => rfl⟩
      exact absurd hpos (not_lt.2 hmax)
    · have hpos : 0 < requested := hreq hmax
      have hle : requested ≤ maximum := h hpos hmax
      rw [scalingFactor_of_within hmax hle]
      refine ⟨div_pos hpos hmax, (div_le_one hmax).2 hle, fun _ _ => ⟨rfl, ?_⟩, ?_⟩
      · exact div_mul_cancel₀ requested hmax.ne'
      · rintro (h0 | h0)
        · exact absurd h0 hpos.ne'
        · exact absurd h0 hmax.ne'

/-- In an accepted goal both factors of a path are legal exactly when the path gives a positive value
wherever the cap is positive. -/
theorem scaling_legal_iff (svc : BasePlannerService) (cfg : ConstraintConfigDTO)
    (goal : TrajectoryGoalDTO) (hcfg : svc.constraintConfig = some cfg)
    (hgoal : cfg.validateGoal goal = .ok ()) (path : TrajectoryPathDTO) (hpath : path ∈ goal.paths) :
    (Legal path.requested.1 (cfg.caps path.motionType).1 (svc.calculateScalingFactors path).1 ∧
      Legal path.requested.2 (cfg.caps path.motionType).2 (svc.calculateScalingFactors path).2) ↔
    (0 < (cfg.caps path.motionType).1 → 0 < path.requested.1) ∧
      (0 < (cfg.caps path.motionType).2 → 0 < path.requested.2) := by
  obtain ⟨hspeed, hacceleration⟩ := cfg.validateGoal_ok_iff.1 hgoal path hpath
  rw [calculateScalingFactors_eq hcfg, scalingFactor_legal_iff hspeed,
    scalingFactor_legal_iff hacceleration]

def capped : ConstraintConfigDTO := { ConstraintConfigDTO.unconstrained with maxCartesianSpeed := 1 }

def cappedService : BasePlannerService :=
  { groupName := "ur_manipulator", constraintConfig := some capped }

/-- A LIN path that leaves its speed and acceleration unspecified. -/
def unspecifiedPath : TrajectoryPathDTO :=
  .atOrigin "44444444-4444-4444-8444-444444444444" .LIN (by decide)

def slowPath : TrajectoryPathDTO := { unspecifiedPath with cartesianSpeed := 1 / 2 }

theorem scaling_legal_iff_slowPath :
    Legal (1 / 2) 1 (cappedService.calculateScalingFactors slowPath).1 ∧
      Legal 0 0 (cappedService.calculateScalingFactors slowPath).2 := by
  have h := scaling_legal_iff cappedService capped
    ⟨[slowPath], by decide, by decide⟩ rfl (by decide +kernel) slowPath (List.mem_singleton_self _)
  exact h.2 ⟨fun _ => one_half_pos, fun hcap => absurd hcap (by decide)⟩

theorem scaling_illegal : ¬ ∀ (svc : BasePlannerService) (cfg : ConstraintConfigDTO)
    (goal : TrajectoryGoalDTO), svc.constraintConfig = some cfg → cfg.validateGoal goal = .ok () →
    ∀ path ∈ goal.paths,
      Legal path.requested.1 (cfg.caps path.motionType).1 (svc.calculateScalingFactors path).1 ∧
        Legal path.requested.2 (cfg.caps path.motionType).2 (svc.calculateScalingFactors path).2 := by
  intro h
  have hlegal := h cappedService capped ⟨[unspecifiedPath], by decide, by decide⟩ rfl rfl unspecifiedPath
    (List.mem_singleton_self _)
  have hpos := hlegal.1.pos
  simp [calculateScalingFactors, cappedService, capped, unspecifiedPath, TrajectoryPathDTO.atOrigin,
    scalingFactor] at hpos

end BasePlannerService
end MovementController
