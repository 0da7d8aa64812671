import MovementController.Grouper

/-!
# The planner services

`BasePlannerService`, `PilzPlannerService` and `OmplPlannerService`: the request builders, the
response handlers and `plan_group_async`.

A callback that can raise is a state transformer `σ → σ × Option String`, whose second component is
the exception that escapes; the state keeps what was done before it.
-/

namespace MovementController

structure PlanResultDTO where
  success : Bool := false
  errorMessage : String := ""
  motionPlan : Option MotionSequenceResponse := none
  pathIds : List String := []
  blended : Bool := false
deriving DecidableEq, Repr

def PlanResultDTO.failure (errorMessage : String) : PlanResultDTO := { errorMessage }

@[simp] theorem PlanResultDTO.failure_success (e : String) : (failure e).success = false := rfl

/-- The `on_result` argument of `plan_group_async`. -/
abbrev OnResult (σ : Type) := PlanResultDTO → σ → σ × Option String

/-- `on_result(dto)` inside a `try`: what it raises is caught and goes to `on_result` again, as a
failure. -/
def tryOnResult {σ : Type} (caught : String → PlanResultDTO) (onResult : OnResult σ)
    (dto : PlanResultDTO) (s : σ) : σ × Option String :=
  match onResult dto s with
  | (s, none) => (s, none)
  | (s, some e) => onResult (caught e) s

/-- Why building a planner request fails: `InvalidStartStateError` or any other exception. -/
inductive BuildError where
  | invalidStartState
  | raised (e : String)
deriving DecidableEq, Repr

/-- Faults of one `plan_group_async` call that do not come from its arguments: an exception while
the request is built, and one raised by `call_async`. -/
structure CallFaults where
  building : Option String := none
  calling : Option String := none
deriving DecidableEq, Repr

inductive PlannerMessage where
  | sequence (request : MotionSequenceRequest)
  | plan (request : MotionPlanRequest)
deriving DecidableEq, Repr

/-- A call with two continuations makes use of at most one of them, once, and reports failures only. -/
inductive Called (call : (σ : Type) → (PlannerMessage → σ → σ) → OnResult σ → σ → σ × Option String) :
    Prop
  | sent (message : PlannerMessage)
      (h : ∀ σ send onResult s, call σ send onResult s = (send message s, none))
  | refused (dto : PlanResultDTO) (hd : dto.success = false)
      (h : ∀ σ send onResult s, call σ send onResult s = onResult dto s)
  | raised (e : String) (h : ∀ σ send onResult s, call σ send onResult s = (s, some e))

/-! ### `BasePlannerService` -/

structure BasePlannerService where
  groupName : String
  constraintConfig : Option ConstraintConfigDTO := none
deriving DecidableEq, Repr

namespace BasePlannerService

def buildPoseGoalConstraints (linkName : String) (poseStamped : PoseStamped) : Constraints where
  name := s!"goal_constraints_{linkName}"
  positionConstraints := [{
    header := poseStamped.header
    linkName := linkName
    weight := 1
    constraintRegion := {
      primitives := [{ type := .sphere, dimensions := [1 / 10000] }]
      primitivePoses := [{ position := poseStamped.pose.position, orientation := { w := 1 } }] } }]
  orientationConstraints := [{
    header := poseStamped.header
    linkName := linkName
    orientation := poseStamped.pose.orientation
    absoluteXAxisTolerance := 1 / 1000
    absoluteYAxisTolerance := 1 / 1000
    absoluteZAxisTolerance := 1 / 1000
    weight := 1 }]

def workspaceConstraint (cfg : ConstraintConfigDTO) (toolFrame : String) : PositionConstraint where
  header := { frameId := "base_link" }
  linkName := toolFrame
  weight := 1
  constraintRegion := {
    primitives := [{
      type := .box
      dimensions := [cfg.xMax - cfg.xMin, cfg.yMax - cfg.yMin, cfg.zMax - cfg.zMin] }]
    primitivePoses := [{
      position := {
        x := (cfg.xMax + cfg.xMin) / 2
        y := (cfg.yMax + cfg.yMin) / 2
        z := (cfg.zMax + cfg.zMin) / 2 }
      orientation := { w := 1 } }] }

def orientationConstraint (cfg : ConstraintConfigDTO) (toolFrame : String) :
    OrientationConstraint where
  header := { frameId := "base_link" }
  linkName := toolFrame
  orientation := { w := 1 }
  absoluteXAxisTolerance := cfg.orientationToleranceX
  absoluteYAxisTolerance := cfg.orientationToleranceY
  absoluteZAxisTolerance := cfg.orientationToleranceZ
  parameterization := 0
  weight := 1

def buildPathConstraints (svc : BasePlannerService) (toolFrame : String) : Constraints :=
  let constraints : Constraints := { name := s!"path_constraints_{toolFrame}" }
  match svc.constraintConfig with
  | none => constraints
  | some cfg =>
    let constraints := if cfg.workspaceEnabled then
        { constraints with
          positionConstraints := constraints.positionConstraints ++ [workspaceConstraint cfg toolFrame] }
      else constraints
    if cfg.orientationConstraintEnabled then
      { constraints with
        orientationConstraints :=
          constraints.orientationConstraints ++ [orientationConstraint cfg toolFrame] }
    else constraints

/-- `_extract_end_state`. The motion plan of a successful result is never `None`, so the attribute
error is that of the DTO's type alone. -/
def extractEndState (motionPlan : Option MotionSequenceResponse) : Except String RobotState :=
  match motionPlan with
  | none => .error "'NoneType' object has no attribute 'planned_trajectories'"
  | some response =>
    match response.plannedTrajectories.getLast? with
    | none => .error "list index out of range"
    | some trajectory =>
      match trajectory.jointTrajectory.points.getLast? with
      | none => .error "list index out of range"
      | some point =>
        .ok { jointState := {
          name := trajectory.jointTrajectory.jointNames
          position := point.positions
          velocity := List.replicate trajectory.jointTrajectory.jointNames.length 0 } }

/-- `_start_state_invalid`: both constraint checks are still to be written in the source. -/
def startStateInvalid (_ : BasePlannerService) (_ : RobotState) : Bool := false

def scalingFactor (requested maximum : ℚ) : ℚ :=
  if maximum > 0 then min 1 (requested / maximum) else 1

def calculateScalingFactors (svc : BasePlannerService) (path : TrajectoryPathDTO) : ℚ × ℚ :=
  match svc.constraintConfig with
  | none => (1, 1)
  | some cfg =>
    if path.motionType ∈ [MotionTypeEnum.LIN, .CIRC] then
      (scalingFactor path.cartesianSpeed cfg.maxCartesianSpeed,
        scalingFactor path.cartesianAcceleration cfg.maxCartesianAcceleration)
    else
      (scalingFactor path.jointSpeed cfg.maxJointSpeed,
        scalingFactor path.jointAcceleration cfg.maxJointAcceleration)

end BasePlannerService

/-! ### `PilzPlannerService` -/

/-- `planSeqClient` says whether the `plan_sequence_path` client exists. -/
structure PilzPlannerService extends BasePlannerService where
  planSeqClient : Bool := false
deriving DecidableEq, Repr

namespace PilzPlannerService

variable (svc : PilzPlannerService)

/-- `_merge_circ_and_path_constraints`; the error is the `IndexError` of `position_constraints[0]`. -/
def mergeCircAndPathConstraints (circ path : Constraints) : Except String Constraints :=
  match circ.positionConstraints with
  | [] => .error "list index out of range"
  | arcPoint :: _ =>
    .ok {
      name := circ.name
      positionConstraints := arcPoint :: path.positionConstraints
      jointConstraints := path.jointConstraints
      orientationConstraints := path.orientationConstraints }

/-- The position constraint that carries the arc point of a CIRC path. -/
def arcPointConstraint (path : TrajectoryPathDTO) : PositionConstraint where
  header := path.targetPose.header
  linkName := path.toolFrame
  weight := 1 / 10
  constraintRegion := {
    primitives := []
    primitivePoses := [{ position := path.circPoint, orientation := { w := 1 } }] }

def buildCircConstraints (path : TrajectoryPathDTO) : Constraints where
  name := path.circType.value
  positionConstraints := [arcPointConstraint path]

def itemPathConstraints (path : TrajectoryPathDTO) : Except String Constraints :=
  let pathConstraints := svc.buildPathConstraints path.toolFrame
  if path.motionType = .CIRC then
    mergeCircAndPathConstraints (buildCircConstraints path) pathConstraints
  else .ok pathConstraints

/-- The loop body of `_generate_motion_sequence_request` for the path at index `i` of a group of
`n` paths. -/
def sequenceItem (n : Nat) (startState : RobotState) (path : TrajectoryPathDTO) (i : Nat) :
    Except BuildError MotionSequenceItem :=
  match svc.itemPathConstraints path with
  | .error e => .error (.raised e)
  | .ok pathConstraints =>
    let (velocity, acceleration) := svc.calculateScalingFactors path
    .ok {
      blendRadius := if i < n - 1 then path.blendRadius else 0
      req := {
        groupName := svc.groupName
        pipelineId := "pilz_industrial_motion_planner"
        plannerId := path.motionType.value
        allowedPlanningTime := 5
        numPlanningAttempts := 1
        maxVelocityScalingFactor := velocity
        maxAccelerationScalingFactor := acceleration
        goalConstraints := [BasePlannerService.buildPoseGoalConstraints path.toolFrame path.targetPose]
        startState := if i = 0 then startState else {}
        pathConstraints := pathConstraints } }

def generateMotionSequenceRequest (group : Group) (startState : RobotState) :
    Except BuildError MotionSequenceRequest :=
  if svc.startStateInvalid startState then .error .invalidStartState
  else
    match group.zipIdx.mapM fun p => svc.sequenceItem group.length startState p.1 p.2 with
    | .error e => .error e
    | .ok items => .ok { items }

def caught (e : String) : PlanResultDTO :=
  .failure s!"exception while processing planning sequence response - {e}"

def result (pathIds : List String) (response : Option MotionSequenceResponse) : PlanResultDTO :=
  match response with
  | none => .failure "planning sequence service call failed with error code None"
  | some response =>
    if response.errorCode ≠ MoveItErrorCodes.SUCCESS then
      .failure s!"planning sequence service call failed with error code {response.errorCode}"
    else {
      success := true
      motionPlan := some response
      pathIds := pathIds
      blended := pathIds.length > 1 }

theorem of_result_success {pathIds : List String}
    {response : MotionSequenceResponse} (h : (result pathIds (some response)).success = true) :
    response.errorCode = MoveItErrorCodes.SUCCESS ∧
      (result pathIds (some response)).pathIds = pathIds := by
  unfold result at h ⊢
  by_cases hcode : response.errorCode = MoveItErrorCodes.SUCCESS
  · simp [hcode]
  · simp [hcode] at h

/-- `plan_group_async`: `send` is `call_async` together with `add_done_callback`. -/
def planGroupAsync {σ : Type} (group : Group) (startState : RobotState) (faults : CallFaults)
    (send : PlannerMessage → σ → σ) (onResult : OnResult σ) (s : σ) : σ × Option String :=
  if !svc.planSeqClient then
    onResult (.failure "plan_sequence_path client not initialised; did you call on_activate()?") s
  else
    let built : Except BuildError MotionSequenceRequest := match faults.building with
      | some e => .error (.raised e)
      | none => svc.generateMotionSequenceRequest group startState
    match built with
    | .error .invalidStartState =>
      onResult
        (.failure "robot start state violates one of the constraints; aborting group planning") s
    | .error (.raised e) =>
      onResult (.failure s!"exception while building motion sequence request - {e}") s
    | .ok request =>
      match faults.calling with
      | some e => (s, some e)
      | none => (send (.sequence request) s, none)

theorem called (group : Group) (startState : RobotState) (faults : CallFaults) :
    Called fun _ send onResult s => svc.planGroupAsync group startState faults send onResult s := by
  simp only [planGroupAsync]
  cases svc.planSeqClient with
  | false => exact .refused _ rfl fun _ _ _ _ => rfl
  | true =>
    cases faults.building with
    | some e => exact .refused _ rfl fun _ _ _ _ => rfl
    | none =>
      cases svc.generateMotionSequenceRequest group startState with
      | error e =>
        cases e with
        | invalidStartState => exact .refused _ rfl fun _ _ _ _ => rfl
        | raised e => exact .refused _ rfl fun _ _ _ _ => rfl
      | ok request =>
        cases faults.calling with
        | none => exact .sent _ fun _ _ _ _ => rfl
        | some e => exact .raised e fun _ _ _ _ => rfl

end PilzPlannerService

/-! ### `OmplPlannerService` -/

/-- `planClient` says whether the `plan_kinematic_path` client exists. -/
structure OmplPlannerService extends BasePlannerService where
  planClient : Bool := false
  planningTime : ℚ := 10
  numPlanningAttempts : Int := 5
deriving DecidableEq, Repr

namespace OmplPlannerService

variable (svc : OmplPlannerService)

def buildMotionPlanRequest (path : TrajectoryPathDTO) (startState : RobotState) :
    MotionPlanRequest :=
  let (velocity, acceleration) := svc.calculateScalingFactors path
  { groupName := svc.groupName
    pipelineId := "ompl"
    plannerId := "RRTConnect"
    numPlanningAttempts := svc.numPlanningAttempts
    allowedPlanningTime := svc.planningTime
    startState := startState
    goalConstraints := [BasePlannerService.buildPoseGoalConstraints path.toolFrame path.targetPose]
    pathConstraints := svc.buildPathConstraints path.toolFrame
    maxVelocityScalingFactor := velocity
    maxAccelerationScalingFactor := acceleration }

def NO_PATH_ERROR_CODES : List Int :=
  [MoveItErrorCodes.PLANNING_FAILED, MoveItErrorCodes.INVALID_MOTION_PLAN,
    MoveItErrorCodes.TIMED_OUT]

def describeError (errorVal : Int) : String :=
  if errorVal ∈ NO_PATH_ERROR_CODES then
    "OMPL found no collision-free path within the planning budget " ++
      s!"(a collision object may block all paths); error code {errorVal}"
  else if errorVal = MoveItErrorCodes.START_STATE_IN_COLLISION then
    s!"OMPL planning failed: start state is in collision; error code {errorVal}"
  else if errorVal = MoveItErrorCodes.GOAL_IN_COLLISION then
    s!"OMPL planning failed: goal state is in collision; error code {errorVal}"
  else if errorVal = MoveItErrorCodes.NO_IK_SOLUTION then
    s!"OMPL planning failed: no IK solution for the goal pose; error code {errorVal}"
  else s!"OMPL planning failed with error code {errorVal}"

def wrapTrajectory (response : MotionPlanResponse) : MotionSequenceResponse where
  errorCode := MoveItErrorCodes.SUCCESS
  plannedTrajectories := [response.trajectory]

def caught (pathId e : String) : PlanResultDTO :=
  .failure s!"exception while processing ompl planning response for path {pathId} - {e}"

def result (pathId : String) (response : Option MotionPlanResponse) : PlanResultDTO :=
  match response with
  | none => .failure "ompl GetMotionPlan returned no response"
  | some response =>
    if response.errorCode ≠ MoveItErrorCodes.SUCCESS then
      .failure (describeError response.errorCode)
    else {
      success := true
      motionPlan := some (wrapTrajectory response)
      pathIds := [pathId]
      blended := false }

theorem of_result_success {pathId : String} {response : MotionPlanResponse}
    (h : (result pathId (some response)).success = true) :
    response.errorCode = MoveItErrorCodes.SUCCESS ∧
      (result pathId (some response)).pathIds = [pathId] := by
  unfold result at h ⊢
  by_cases hcode : response.errorCode = MoveItErrorCodes.SUCCESS
  · simp [hcode]
  · simp [hcode] at h

def notBuilt (pathId e : String) : PlanResultDTO :=
  .failure s!"exception while building ompl motion plan request for path {pathId} - {e}"

/-- `plan_group_async`: only the first path of the group is planned. The check of the start state is
inside the `try`, its `on_result` included. -/
def planGroupAsync {σ : Type} (group : Group) (startState : RobotState) (faults : CallFaults)
    (send : PlannerMessage → σ → σ) (onResult : OnResult σ) (s : σ) : σ × Option String :=
  match group with
  | [] => onResult (.failure "ompl plan_group_async called with an empty group") s
  | path :: _ =>
    if !svc.planClient then
      onResult (.failure "ompl planning client not initialised; did you call on_activate()?") s
    else if svc.startStateInvalid startState then
      tryOnResult (notBuilt path.pathId) onResult
        (.failure "invalid start state - violation of constraints") s
    else
      match faults.building with
      | some e => onResult (notBuilt path.pathId e) s
      | none =>
        match faults.calling with
        | some e => (s, some e)
        | none => (send (.plan (svc.buildMotionPlanRequest path startState)) s, none)

theorem called (group : Group) (startState : RobotState) (faults : CallFaults) :
    Called fun _ send onResult s => svc.planGroupAsync group startState faults send onResult s := by
  cases group with
  | nil => exact .refused _ rfl fun _ _ _ _ => rfl
  | cons path group =>
    simp only [planGroupAsync]
    cases svc.planClient with
    | false => exact .refused _ rfl fun _ _ _ _ => rfl
    | true =>
      cases faults.building with
      | some e => exact .refused _ rfl fun _ _ _ _ => rfl
      | none =>
        cases faults.calling with
        | none => exact .sent _ fun _ _ _ _ => rfl
        | some e => exact .raised e fun _ _ _ _ => rfl

end OmplPlannerService

/-! ### The response handlers -/

/-- The body of both `_on_plan_response`s. -/
def onPlanResponse {σ α : Type} (result : Option α → PlanResultDTO) (caught : String → PlanResultDTO)
    (future : Future α) (onResult : OnResult σ) (s : σ) : σ × Option String :=
  match future with
  | .raised e => onResult (caught e) s
  | .none => tryOnResult caught onResult (result none) s
  | .value response => tryOnResult caught onResult (result (some response)) s

def PilzPlannerService.onPlanResponse {σ : Type} (future : Future MotionSequenceResponse)
    (pathIds : List String) (onResult : OnResult σ) (s : σ) : σ × Option String :=
  MovementController.onPlanResponse (result pathIds) caught future onResult s

def OmplPlannerService.onPlanResponse {σ : Type} (future : Future MotionPlanResponse)
    (pathId : String) (onResult : OnResult σ) (s : σ) : σ × Option String :=
  MovementController.onPlanResponse (result pathId) (caught pathId) future onResult s

end MovementController
