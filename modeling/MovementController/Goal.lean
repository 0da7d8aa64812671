import MovementController.Msg
import Mathlib.Algebra.Order.Ring.Rat
import Mathlib.Data.List.Nodup
import Mathlib.Tactic.NormNum

/-!
# Goals: the validated DTOs and their construction from ROS messages

`TrajectoryPathDTO`, `TrajectoryGoalDTO` and `ConstraintConfigDTO` carry what their pydantic
validators check as fields, so a value of these types is a validated one. `fromRosMsg` is the only
way the node builds the first two.
-/

namespace MovementController

/-! ### Enums -/

inductive MotionTypeEnum where
  | LIN
  | PTP
  | CIRC
deriving DecidableEq, Repr

inductive CircTypeEnum where
  | INTERIM
  | CENTER
deriving DecidableEq, Repr

inductive FeedbackStatusEnum where
  | EXECUTING
  | COMPLETED
deriving DecidableEq, Repr

namespace MotionTypeEnum

def value : MotionTypeEnum → String
  | LIN => "LIN"
  | PTP => "PTP"
  | CIRC => "CIRC"

/-- `MotionTypeEnum(v)`; `none` is the `ValueError`. -/
def ofValue (v : String) : Option MotionTypeEnum :=
  [LIN, PTP, CIRC].find? (·.value == v)

end MotionTypeEnum

namespace CircTypeEnum

def value : CircTypeEnum → String
  | INTERIM => "interim"
  | CENTER => "center"

/-- `CircTypeEnum(v)`; `none` is the `ValueError`. -/
def ofValue (v : String) : Option CircTypeEnum :=
  [INTERIM, CENTER].find? (·.value == v)

end CircTypeEnum

def FeedbackStatusEnum.value : FeedbackStatusEnum → String
  | EXECUTING => "executing"
  | COMPLETED => "completed"

/-! ### Path identifiers -/

/-- `[0-9a-f]` under `re.IGNORECASE`. -/
def isHex (c : Char) : Bool :=
  ('0' ≤ c && c ≤ '9') || ('a' ≤ c && c ≤ 'f') || ('A' ≤ c && c ≤ 'F')

/-- `[89ab]` under `re.IGNORECASE`. -/
def isVariant (c : Char) : Bool := c ∈ ['8', '9', 'a', 'b', 'A', 'B']

def uuid4Classes : List (Char → Bool) :=
  let hyphen := (· == '-')
  List.replicate 8 isHex ++ [hyphen] ++ List.replicate 4 isHex ++ [hyphen, (· == '4')] ++
    List.replicate 3 isHex ++ [hyphen, isVariant] ++ List.replicate 3 isHex ++ [hyphen] ++
    List.replicate 12 isHex

/-- `_UUID4_RE.match(v)`. `$` also matches before a line feed that ends the string. -/
def uuid4Match (v : String) : Bool :=
  let (text, tail) := v.toList.splitAt uuid4Classes.length
  text.length == uuid4Classes.length && (uuid4Classes.zip text).all (fun p => p.1 p.2) &&
    (tail == [] || tail == ['\n'])

/-! ### Errors -/

/-- Why a goal is rejected; the payload is what the error text names. -/
inductive GoalError where
  | invalidMotionType (motionType : String)
  | circTypeEmpty (pathId : String)
  | circTypeInvalid (pathId circType : String)
  | pathIdEmpty
  | pathIdNotUuid4 (pathId : String)
  | pathsEmpty
  | duplicatePathId (pathId : String)
  | exceedsMaximum (pathId field unit : String) (value maximum : ℚ)
deriving DecidableEq, Repr

/-- Python's `repr` of a string without quotes, backslashes and control characters. -/
def pyQuote (s : String) : String := "'" ++ s ++ "'"

/-- The text of the exception; `str` is how Python writes a float. -/
def GoalError.text (str : ℚ → String) : GoalError → String
  | invalidMotionType motionType => s!"Invalid motion_type: {pyQuote motionType}"
  | circTypeEmpty pathId =>
    s!"path {pyQuote pathId} has motion_type CIRC but circ_type is empty; " ++
      "must be \"interim\" or \"center\""
  | circTypeInvalid pathId circType =>
    s!"path {pyQuote pathId} has motion_type CIRC but invalid circ_type " ++
      s!"{pyQuote circType}; must be \"interim\" or \"center\""
  | pathIdEmpty => "path_id must be non-empty"
  | pathIdNotUuid4 pathId => s!"path_id must be a valid UUID4, got {pyQuote pathId}"
  | pathsEmpty => "paths must not be empty"
  | duplicatePathId pathId => s!"duplicate path_id: {pyQuote pathId}"
  | exceedsMaximum pathId field unit value maximum =>
    s!"Path {pyQuote pathId} {field} {str value} {unit} " ++
      s!"exceeds node maximum {str maximum} {unit} (constraints.max_{field})"

/-! ### `TrajectoryPathDTO` -/

structure TrajectoryPathDTO where
  pathId : String
  motionType : MotionTypeEnum
  targetPose : PoseStamped
  blendRadius : ℚ
  cartesianSpeed : ℚ
  cartesianAcceleration : ℚ
  jointSpeed : ℚ
  jointAcceleration : ℚ
  toolFrame : String
  circType : CircTypeEnum
  circPoint : Point
  pathId_uuid4 : uuid4Match pathId = true
  blendRadius_nonneg : 0 ≤ blendRadius
deriving DecidableEq, Repr

namespace TrajectoryPathDTO

def normaliseBlendRadius (v : ℚ) : ℚ := if v < 0 then 0 else v

theorem normaliseBlendRadius_nonneg (v : ℚ) : 0 ≤ normaliseBlendRadius v := by
  unfold normaliseBlendRadius; split
  · exact le_refl 0
  · next h => exact not_lt.1 h

/-- The `circ_type` of `from_ros_msg`: checked for CIRC paths, defaulted for the others. -/
def resolveCircType (msg : TrajectoryPath) (motionType : MotionTypeEnum) :
    Except GoalError CircTypeEnum :=
  if motionType = .CIRC then
    if msg.circType = "" then .error (.circTypeEmpty msg.pathId)
    else match CircTypeEnum.ofValue msg.circType with
      | some circType => .ok circType
      | none => .error (.circTypeInvalid msg.pathId msg.circType)
  else if msg.circType = "" then .ok .INTERIM
  else .ok ((CircTypeEnum.ofValue msg.circType).getD .INTERIM)

def fromRosMsg (msg : TrajectoryPath) : Except GoalError TrajectoryPathDTO :=
  match MotionTypeEnum.ofValue msg.motionType with
  | none => .error (.invalidMotionType msg.motionType)
  | some motionType =>
    match resolveCircType msg motionType with
    | .error e => .error e
    | .ok circType =>
      if msg.pathId = "" then .error .pathIdEmpty
      else if h : uuid4Match msg.pathId = true then
        .ok {
          pathId := msg.pathId
          motionType := motionType
          targetPose := msg.targetPose
          blendRadius := normaliseBlendRadius msg.blendRadius
          cartesianSpeed := msg.cartesianSpeed
          cartesianAcceleration := msg.cartesianAcceleration
          jointSpeed := msg.jointSpeed
          jointAcceleration := msg.jointAcceleration
          toolFrame := msg.toolFrame
          circType := circType
          circPoint := msg.circPoint
          pathId_uuid4 := h
          blendRadius_nonneg := normaliseBlendRadius_nonneg _ }
      else .error (.pathIdNotUuid4 msg.pathId)

def atOrigin (pathId : String) (motionType : MotionTypeEnum) (h : uuid4Match pathId = true) :
    TrajectoryPathDTO where
  pathId := pathId
  motionType := motionType
  targetPose := {}
  blendRadius := 0
  cartesianSpeed := 0
  cartesianAcceleration := 0
  jointSpeed := 0
  jointAcceleration := 0
  toolFrame := "tool0"
  circType := .INTERIM
  circPoint := {}
  pathId_uuid4 := h
  blendRadius_nonneg := le_refl 0

end TrajectoryPathDTO

/-! ### `TrajectoryGoalDTO` -/

structure TrajectoryGoalDTO where
  paths : List TrajectoryPathDTO
  paths_ne_nil : paths ≠ []
  pathIds_nodup : (paths.map (·.pathId)).Nodup
deriving DecidableEq, Repr

namespace TrajectoryGoalDTO

/-- The loop of `validate_paths`: the first `path_id` that is already in `seen`. -/
def duplicate (seen : List String) : List TrajectoryPathDTO → Option String
  | [] => none
  | path :: paths =>
    if path.pathId ∈ seen then some path.pathId else duplicate (path.pathId :: seen) paths

theorem duplicate_eq_none {seen : List String} {paths : List TrajectoryPathDTO} :
    duplicate seen paths = none ↔
      (paths.map (·.pathId)).Nodup ∧ ∀ p ∈ paths, p.pathId ∉ seen := by
  induction paths generalizing seen with
  | nil => simp [duplicate]
  | cons path paths ih =>
    rw [duplicate]
    split
    · next h => simp [h]
    · next h =>
      rw [ih, List.forall_mem_cons]
      simp only [List.map_cons, List.nodup_cons, List.mem_cons, not_or, List.mem_map]
      constructor
      · rintro ⟨hnd, hp⟩
        exact ⟨⟨fun ⟨p, hm, he⟩ => (hp p hm).1 he, hnd⟩, h, fun p hm => (hp p hm).2⟩
      · rintro ⟨⟨hne, hnd⟩, -, hp⟩
        exact ⟨hnd, fun p hm => ⟨fun he => hne ⟨p, hm, he⟩, hp p hm⟩⟩

def validatePaths (paths : List TrajectoryPathDTO) : Except GoalError TrajectoryGoalDTO :=
  if hne : paths = [] then .error .pathsEmpty
  else
    match hd : duplicate [] paths with
    | some pathId => .error (.duplicatePathId pathId)
    | none => .ok ⟨paths, hne, (duplicate_eq_none.1 hd).1⟩

def fromRosMsg (msg : ExecuteTrajectory.Goal) : Except GoalError TrajectoryGoalDTO :=
  match msg.paths.mapM TrajectoryPathDTO.fromRosMsg with
  | .error e => .error e
  | .ok paths => validatePaths paths

end TrajectoryGoalDTO

/-! ### `ConstraintConfigDTO` -/

/-- The double nearest to `2 * math.pi`. -/
def twoPi : ℚ := 884279719003555 / 140737488355328

structure ConstraintConfigDTO where
  xMin : ℚ := -1000000000
  xMax : ℚ := 1000000000
  yMin : ℚ := -1000000000
  yMax : ℚ := 1000000000
  zMin : ℚ := -1000000000
  zMax : ℚ := 1000000000
  orientationToleranceX : ℚ := twoPi
  orientationToleranceY : ℚ := twoPi
  orientationToleranceZ : ℚ := twoPi
  maxCartesianSpeed : ℚ := 0
  maxCartesianAcceleration : ℚ := 0
  maxJointSpeed : ℚ := 0
  maxJointAcceleration : ℚ := 0
  x_ordered : xMin ≤ xMax := by norm_num
  y_ordered : yMin ≤ yMax := by norm_num
  z_ordered : zMin ≤ zMax := by norm_num
deriving DecidableEq, Repr

namespace ConstraintConfigDTO

/-- The configuration of the default parameters. -/
def unconstrained : ConstraintConfigDTO := {}

def workspaceEnabled (cfg : ConstraintConfigDTO) : Bool :=
  !(cfg.xMax - cfg.xMin ≥ 2000000000 && cfg.yMax - cfg.yMin ≥ 2000000000 &&
    cfg.zMax - cfg.zMin ≥ 2000000000)

def orientationConstraintEnabled (cfg : ConstraintConfigDTO) : Bool :=
  cfg.orientationToleranceX < twoPi || cfg.orientationToleranceY < twoPi ||
    cfg.orientationToleranceZ < twoPi

/-- One of the four checks of `validate_goal`: a cap is enforced when the path's motion type uses
the channel and both the value and the cap are positive. -/
def checkMaximum (path : TrajectoryPathDTO) (motionTypes : List MotionTypeEnum)
    (field unit : String) (value maximum : ℚ) : Except GoalError Unit :=
  if path.motionType ∈ motionTypes ∧ value > 0 ∧ maximum > 0 ∧ value > maximum then
    .error (.exceedsMaximum path.pathId field unit value maximum)
  else .ok ()

def validatePath (cfg : ConstraintConfigDTO) (path : TrajectoryPathDTO) :
    Except GoalError Unit := do
  checkMaximum path [.LIN, .CIRC] "cartesian_speed" "m/s" path.cartesianSpeed cfg.maxCartesianSpeed
  checkMaximum path [.LIN, .CIRC] "cartesian_acceleration" "m/s²" path.cartesianAcceleration
    cfg.maxCartesianAcceleration
  checkMaximum path [.PTP] "joint_speed" "rad/s" path.jointSpeed cfg.maxJointSpeed
  checkMaximum path [.PTP] "joint_acceleration" "rad/s²" path.jointAcceleration
    cfg.maxJointAcceleration

def validateGoal (cfg : ConstraintConfigDTO) (goal : TrajectoryGoalDTO) : Except GoalError Unit :=
  goal.paths.forM cfg.validatePath

end ConstraintConfigDTO

end MovementController
