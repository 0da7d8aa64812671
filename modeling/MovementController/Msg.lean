import Mathlib.Data.Rat.Defs

/-!
# The ROS messages the movement controller reads and writes

Only the fields some modelled function reads or writes are kept; a `float64` is the rational it
stands for. The field defaults are those of the message definitions.
-/

namespace MovementController

/-! ### `std_msgs`, `geometry_msgs`, `shape_msgs` -/

structure Header where
  stamp : Int := 0
  frameId : String := ""
deriving DecidableEq, Repr

structure Point where
  x : ℚ := 0
  y : ℚ := 0
  z : ℚ := 0
deriving DecidableEq, Repr

structure Quaternion where
  x : ℚ := 0
  y : ℚ := 0
  z : ℚ := 0
  w : ℚ := 1
deriving DecidableEq, Repr

structure Pose where
  position : Point := {}
  orientation : Quaternion := {}
deriving DecidableEq, Repr

structure PoseStamped where
  header : Header := {}
  pose : Pose := {}
deriving DecidableEq, Repr

/-- The two values of `shape_msgs/SolidPrimitive.type` in use. -/
inductive PrimitiveType where
  | box
  | sphere
deriving DecidableEq, Repr

structure SolidPrimitive where
  type : PrimitiveType
  dimensions : List ℚ
deriving DecidableEq, Repr

/-! ### `moveit_msgs`: constraints -/

structure BoundingVolume where
  primitives : List SolidPrimitive := []
  primitivePoses : List Pose := []
deriving DecidableEq, Repr

structure PositionConstraint where
  header : Header := {}
  linkName : String := ""
  constraintRegion : BoundingVolume := {}
  weight : ℚ := 0
deriving DecidableEq, Repr

structure OrientationConstraint where
  header : Header := {}
  orientation : Quaternion := {}
  linkName : String := ""
  absoluteXAxisTolerance : ℚ := 0
  absoluteYAxisTolerance : ℚ := 0
  absoluteZAxisTolerance : ℚ := 0
  parameterization : Nat := 0
  weight : ℚ := 0
deriving DecidableEq, Repr

structure JointConstraint where
  jointName : String := ""
  position : ℚ := 0
deriving DecidableEq, Repr

structure Constraints where
  name : String := ""
  jointConstraints : List JointConstraint := []
  positionConstraints : List PositionConstraint := []
  orientationConstraints : List OrientationConstraint := []
deriving DecidableEq, Repr

/-! ### `moveit_msgs`: states, trajectories, planning requests and responses -/

structure JointState where
  name : List String := []
  position : List ℚ := []
  velocity : List ℚ := []
deriving DecidableEq, Repr

structure RobotState where
  jointState : JointState := {}
deriving DecidableEq, Repr

structure JointTrajectoryPoint where
  positions : List ℚ := []
deriving DecidableEq, Repr

structure JointTrajectory where
  jointNames : List String := []
  points : List JointTrajectoryPoint := []
deriving DecidableEq, Repr

structure RobotTrajectory where
  jointTrajectory : JointTrajectory := {}
deriving DecidableEq, Repr

structure MotionPlanRequest where
  groupName : String := ""
  pipelineId : String := ""
  plannerId : String := ""
  numPlanningAttempts : Int := 0
  allowedPlanningTime : ℚ := 0
  maxVelocityScalingFactor : ℚ := 0
  maxAccelerationScalingFactor : ℚ := 0
  startState : RobotState := {}
  goalConstraints : List Constraints := []
  pathConstraints : Constraints := {}
deriving DecidableEq, Repr

structure MotionSequenceItem where
  req : MotionPlanRequest := {}
  blendRadius : ℚ := 0
deriving DecidableEq, Repr

structure MotionSequenceRequest where
  items : List MotionSequenceItem := []
deriving DecidableEq, Repr

/-- `moveit_msgs/MotionSequenceResponse`, the answer of `plan_sequence_path`. -/
structure MotionSequenceResponse where
  errorCode : Int := 0
  plannedTrajectories : List RobotTrajectory := []
deriving DecidableEq, Repr

/-- `moveit_msgs/MotionPlanResponse`, the answer of `plan_kinematic_path`. -/
structure MotionPlanResponse where
  errorCode : Int := 0
  trajectory : RobotTrajectory := {}
deriving DecidableEq, Repr

namespace MoveItErrorCodes

def SUCCESS : Int := 1
def PLANNING_FAILED : Int := -1
def INVALID_MOTION_PLAN : Int := -2
def TIMED_OUT : Int := -6
def START_STATE_IN_COLLISION : Int := -10
def GOAL_IN_COLLISION : Int := -12
def NO_IK_SOLUTION : Int := -31

end MoveItErrorCodes

/-! ### Futures -/

/-- How a future of a service call completes: `future.result()` raises, gives `None` or gives a
response. -/
inductive Future (α : Type) where
  | raised (e : String)
  | none
  | value (a : α)
deriving DecidableEq, Repr

/-! ### The action interface of the node -/

structure TrajectoryPath where
  pathId : String := ""
  motionType : String := ""
  targetPose : PoseStamped := {}
  blendRadius : ℚ := 0
  cartesianSpeed : ℚ := 0
  cartesianAcceleration : ℚ := 0
  jointSpeed : ℚ := 0
  jointAcceleration : ℚ := 0
  toolFrame : String := ""
  circType : String := ""
  circPoint : Point := {}
deriving DecidableEq, Repr

namespace ExecuteTrajectory

structure Goal where
  paths : List TrajectoryPath
deriving DecidableEq, Repr

structure Result where
  success : Bool
  errorMessage : String
  trajectoryPathsCompleted : List String
deriving DecidableEq, Repr

structure Feedback where
  status : String
  trajectoryPathIds : List String
deriving DecidableEq, Repr

end ExecuteTrajectory

end MovementController
