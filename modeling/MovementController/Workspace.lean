import MovementController.Planners
import Mathlib.Algebra.Order.Field.Rat
import Mathlib.Algebra.Order.Group.Abs
import Mathlib.Tactic.Linarith

/-!
# The workspace box

The position constraints of `_build_path_constraints` against the six bounds they are made from.
Whether the box is emitted is decided by the widths of the three ranges, what it admits by the
bounds.
-/

namespace MovementController

/-- The positions a box around a centre contains, for a box that is not rotated. -/
def SolidPrimitive.ContainsAt (box : SolidPrimitive) (center : Pose) (p : Point) : Prop :=
  ∃ dx dy dz, box = ⟨.box, [dx, dy, dz]⟩ ∧ center.orientation = {} ∧
    |p.x - center.position.x| ≤ dx / 2 ∧ |p.y - center.position.y| ≤ dy / 2 ∧
    |p.z - center.position.z| ≤ dz / 2

/-- A position constraint admits what lies in one of the primitives of its region. -/
def PositionConstraint.Admits (c : PositionConstraint) (p : Point) : Prop :=
  ∃ b ∈ c.constraintRegion.primitives.zip c.constraintRegion.primitivePoses, b.1.ContainsAt b.2 p

def Constraints.Admits (c : Constraints) (p : Point) : Prop :=
  ∀ constraint ∈ c.positionConstraints, constraint.Admits p

/-- The coordinate lies between the sentinels `-1e9` and `1e9`. -/
def InSentinels (v : ℚ) : Prop := -1000000000 ≤ v ∧ v ≤ 1000000000

namespace ConstraintConfigDTO

variable (cfg : ConstraintConfigDTO)

structure Bounds (p : Point) : Prop where
  x : cfg.xMin ≤ p.x ∧ p.x ≤ cfg.xMax
  y : cfg.yMin ≤ p.y ∧ p.y ≤ cfg.yMax
  z : cfg.zMin ≤ p.z ∧ p.z ≤ cfg.zMax

/-- Every bound is at its sentinel or beyond. -/
structure Unbounded : Prop where
  x : cfg.xMin ≤ -1000000000 ∧ 1000000000 ≤ cfg.xMax
  y : cfg.yMin ≤ -1000000000 ∧ 1000000000 ≤ cfg.yMax
  z : cfg.zMin ≤ -1000000000 ∧ 1000000000 ≤ cfg.zMax

theorem workspaceEnabled_iff : cfg.workspaceEnabled = true ↔
    cfg.xMax - cfg.xMin < 2000000000 ∨ cfg.yMax - cfg.yMin < 2000000000 ∨
      cfg.zMax - cfg.zMin < 2000000000 := by
  simp [workspaceEnabled, or_assoc]

/-- The bounds exclude nothing between the sentinels exactly when they are unbounded. -/
theorem unbounded_iff : cfg.Unbounded ↔
    ∀ p : Point, InSentinels p.x → InSentinels p.y → InSentinels p.z → cfg.Bounds p := by
  constructor
  · rintro ⟨hx, hy, hz⟩ p ⟨hx₁, hx₂⟩ ⟨hy₁, hy₂⟩ ⟨hz₁, hz₂⟩
    exact ⟨⟨by linarith, by linarith⟩, ⟨by linarith, by linarith⟩, ⟨by linarith, by linarith⟩⟩
  · intro h
    have hin : InSentinels (-1000000000) ∧ InSentinels 1000000000 := by
      unfold InSentinels; norm_num
    have hmin := h ⟨-1000000000, -1000000000, -1000000000⟩ hin.1 hin.1 hin.1
    have hmax := h ⟨1000000000, 1000000000, 1000000000⟩ hin.2 hin.2 hin.2
    exact ⟨⟨hmin.x.1, hmax.x.2⟩, ⟨hmin.y.1, hmax.y.2⟩, ⟨hmin.z.1, hmax.z.2⟩⟩

end ConstraintConfigDTO

namespace BasePlannerService

/-- A range given by its middle and its full length. -/
theorem abs_sub_middle_le (lo hi v : ℚ) : |v - (hi + lo) / 2| ≤ (hi - lo) / 2 ↔ lo ≤ v ∧ v ≤ hi := by
  rw [abs_le]
  constructor
  · rintro ⟨h₁, h₂⟩
    exact ⟨by linarith, by linarith⟩
  · rintro ⟨h₁, h₂⟩
    exact ⟨by linarith, by linarith⟩

theorem workspaceConstraint_admits_iff (cfg : ConstraintConfigDTO) (toolFrame : String) (p : Point) :
    (workspaceConstraint cfg toolFrame).Admits p ↔ cfg.Bounds p := by
  simp only [PositionConstraint.Admits, workspaceConstraint, List.zip_cons_cons, List.zip_nil_right,
    List.mem_singleton, exists_eq_left, SolidPrimitive.ContainsAt]
  constructor
  · rintro ⟨_, _, _, heq, -, hx, hy, hz⟩
    cases heq
    rw [abs_sub_middle_le] at hx hy hz
    exact ⟨hx, hy, hz⟩
  · rintro ⟨hx, hy, hz⟩
    refine ⟨_, _, _, rfl, trivial, ?_, ?_, ?_⟩ <;> rw [abs_sub_middle_le] <;> assumption

theorem buildPathConstraints_admits_iff {svc : BasePlannerService} {cfg : ConstraintConfigDTO}
    (h : svc.constraintConfig = some cfg) (toolFrame : String) (p : Point) :
    (svc.buildPathConstraints toolFrame).Admits p ↔ (cfg.workspaceEnabled = true → cfg.Bounds p) := by
  have hpos : (svc.buildPathConstraints toolFrame).positionConstraints =
      if cfg.workspaceEnabled then [workspaceConstraint cfg toolFrame] else [] := by
    simp only [buildPathConstraints, h]
    split <;> split <;> rfl
  rw [Constraints.Admits, hpos]
  cases cfg.workspaceEnabled <;> simp [workspaceConstraint_admits_iff]

/-- The emitted constraints are the configured box for all positions between the sentinels exactly
when some range is narrower than the sentinel range or no bound is inside it. -/
theorem workspace_box_iff (svc : BasePlannerService) (cfg : ConstraintConfigDTO)
    (h : svc.constraintConfig = some cfg) (toolFrame : String) :
    (∀ p : Point, InSentinels p.x → InSentinels p.y → InSentinels p.z →
      ((svc.buildPathConstraints toolFrame).Admits p ↔ cfg.Bounds p)) ↔
    (cfg.xMax - cfg.xMin < 2000000000 ∨ cfg.yMax - cfg.yMin < 2000000000 ∨
      cfg.zMax - cfg.zMin < 2000000000) ∨ cfg.Unbounded := by
  rw [← cfg.workspaceEnabled_iff]
  simp only [buildPathConstraints_admits_iff h]
  cases henabled : cfg.workspaceEnabled with
  | true => simp
  | false => simp [cfg.unbounded_iff]

/-- Every range is at least as wide as the sentinel range, but x starts at 0. -/
def offCentre : ConstraintConfigDTO :=
  { ConstraintConfigDTO.unconstrained with xMin := 0, xMax := 2000000000, x_ordered := by norm_num }

def floored : ConstraintConfigDTO :=
  { ConstraintConfigDTO.unconstrained with
    zMin := 0, z_ordered := by norm_num [ConstraintConfigDTO.unconstrained] }

theorem workspace_box_iff_floored :
    ¬ (buildPathConstraints { groupName := "ur_manipulator", constraintConfig := some floored }
      "tool0").Admits ⟨0, 0, -1⟩ := by
  have hin : InSentinels 0 ∧ InSentinels (-1) := by unfold InSentinels; norm_num
  have hbox := (workspace_box_iff { groupName := "ur_manipulator", constraintConfig := some floored }
    floored rfl "tool0").2 (.inl (.inr (.inr (by decide +kernel)))) ⟨0, 0, -1⟩ hin.1 hin.1 hin.2
  intro hadmits
  exact absurd (hbox.1 hadmits).z.1 (by decide)

theorem workspace_box_dropped : ¬ ∀ (svc : BasePlannerService) (cfg : ConstraintConfigDTO),
    svc.constraintConfig = some cfg → ∀ (toolFrame : String) (p : Point),
    InSentinels p.x → InSentinels p.y → InSentinels p.z →
      ((svc.buildPathConstraints toolFrame).Admits p ↔ cfg.Bounds p) := by
  intro h
  have hin : InSentinels (-1) ∧ InSentinels 0 := by unfold InSentinels; norm_num
  let svc : BasePlannerService := { groupName := "ur_manipulator", constraintConfig := some offCentre }
  have hbox := h svc offCentre rfl "tool0" ⟨-1, 0, 0⟩ hin.1 hin.2 hin.2
  have hadmits : (svc.buildPathConstraints "tool0").Admits ⟨-1, 0, 0⟩ := by
    refine (buildPathConstraints_admits_iff (show svc.constraintConfig = some offCentre from rfl) _ _).2 ?_
    intro henabled
    exact absurd henabled (by decide +kernel)
  exact absurd (hbox.1 hadmits).x.1 (by decide)

end BasePlannerService
end MovementController
