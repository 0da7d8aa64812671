import MovementController.Planners

/-!
# `PlanningCoordinator`

The coordinator's three mutable fields and the callbacks that change them. A callback runs as one
`Turn`: the coordinator, and the planner calls it makes on the way.
-/

namespace MovementController

inductive QueueItem where
  | result (dto : PlanResultDTO)
  | stopIteration
deriving DecidableEq, Repr

structure PlanningSessionDTO where
  groups : List Group
  currentGroup : Group := []
deriving DecidableEq, Repr

def PlanningSessionDTO.getNextGroup (s : PlanningSessionDTO) : Option Group × PlanningSessionDTO :=
  match s.groups with
  | [] => (none, s)
  | group :: groups => (some group, { groups := groups, currentGroup := group })

inductive Planner where
  | pilz
  | ompl
deriving DecidableEq, Repr

/-- The arguments of one `plan_group_async` call and the service it is made on. -/
structure PlanRequest where
  planner : Planner
  group : Group
  startState : RobotState
deriving DecidableEq, Repr

/-- `cancelEvent` is `some true` once the event is set; `sceneClient` says whether the
`get_planning_scene` client exists. -/
structure PlanningCoordinator extends BasePlannerService where
  pilz : PilzPlannerService
  ompl : OmplPlannerService
  sceneClient : Bool := false
  planQueue : Option (List QueueItem) := none
  cancelEvent : Option Bool := none
  session : Option PlanningSessionDTO := none
deriving DecidableEq, Repr

/-- The state of a running callback: the coordinator, the `plan_group_async` calls made so far and
those of them that left a request outstanding. -/
structure Turn where
  coord : PlanningCoordinator
  dispatched : List PlanRequest := []
  issued : List (PlanRequest × PlannerMessage) := []
deriving DecidableEq, Repr

/-! ### The source functions -/

namespace PlanningCoordinator

def put (c : PlanningCoordinator) (item : QueueItem) : PlanningCoordinator :=
  { c with planQueue := c.planQueue.map (· ++ [item]) }

/-- `self._cancel_event is not None and self._cancel_event.is_set()`. -/
def cancelled (c : PlanningCoordinator) : Bool := c.cancelEvent == some true

def abort (c : PlanningCoordinator) (errMsg : String) : PlanningCoordinator :=
  (c.put (.result (.failure errMsg))).put .stopIteration

def selectService (group : Group) : Planner :=
  if group.head?.map (·.motionType) = some .PTP then .ompl else .pilz

/-- `self._session.get_next_group() if self._session is not None else None`. -/
def nextGroup (c : PlanningCoordinator) : Option Group × PlanningCoordinator :=
  match c.session with
  | none => (none, c)
  | some s => (s.getNextGroup.1, { c with session := some s.getNextGroup.2 })

def planGroupAsync {σ : Type} (c : PlanningCoordinator) (r : PlanRequest) (faults : CallFaults)
    (send : PlannerMessage → σ → σ) (onResult : OnResult σ) (s : σ) : σ × Option String :=
  match r.planner with
  | .pilz => c.pilz.planGroupAsync r.group r.startState faults send onResult s
  | .ompl => c.ompl.planGroupAsync r.group r.startState faults send onResult s

def cancelFailure : PlanResultDTO := .failure "planning cancelled by requester"

def cancel (c : PlanningCoordinator) : PlanningCoordinator :=
  { c with
    cancelEvent := c.cancelEvent.map fun _ => true
    planQueue := c.planQueue.map fun _ => [.result cancelFailure, .stopIteration] }

@[simp] theorem cancel_cancelEvent (c : PlanningCoordinator) :
    c.cancel.cancelEvent = c.cancelEvent.map fun _ => true := rfl

@[simp] theorem cancel_planQueue (c : PlanningCoordinator) :
    c.cancel.planQueue = c.planQueue.map fun _ => [.result cancelFailure, .stopIteration] := rfl

/-- The set-up of `plan_all`: a fresh event, queue and session. -/
def planAllSetup (c : PlanningCoordinator) (groups : List Group) : PlanningCoordinator :=
  { c with cancelEvent := some false, planQueue := some [], session := some { groups } }

/-- `__init__`. -/
def new (groupName : String) : PlanningCoordinator :=
  { groupName, pilz := { groupName }, ompl := { groupName } }

def setConstraints (c : PlanningCoordinator) (dto : ConstraintConfigDTO) : PlanningCoordinator :=
  { c with
    constraintConfig := some dto
    pilz := { c.pilz with constraintConfig := some dto }
    ompl := { c.ompl with constraintConfig := some dto } }

def setOmplTuning (c : PlanningCoordinator) (planningTime : ℚ) (numPlanningAttempts : Int) :
    PlanningCoordinator :=
  { c with ompl := { c.ompl with planningTime, numPlanningAttempts } }

def onActivate (c : PlanningCoordinator) : PlanningCoordinator :=
  { c with
    sceneClient := true
    pilz := { c.pilz with planSeqClient := true }
    ompl := { c.ompl with planClient := true }
    cancelEvent := none
    planQueue := none
    session := none }

/-- What `plan_all` (scene service unavailable) and `iterate_planned_trajectories` (sentinel
received) do to the session: all three fields become `None`. -/
def clearSession (c : PlanningCoordinator) : PlanningCoordinator :=
  { c with cancelEvent := none, planQueue := none, session := none }

end PlanningCoordinator

open PlanningCoordinator

namespace Turn

def abort (t : Turn) (errMsg : String) : Turn := { t with coord := t.coord.abort errMsg }

/-- `_on_group_planned` for an unsuccessful result. -/
def rejectGroup (t : Turn) (dto : PlanResultDTO) : Turn :=
  if t.coord.cancelled then t
  else { t with coord := (t.coord.put (.result dto)).put .stopIteration }

def send (r : PlanRequest) (message : PlannerMessage) (t : Turn) : Turn :=
  { t with issued := t.issued ++ [(r, message)] }

/-- `_schedule_next`. `plan_group_async` calls `on_result` before it returns only with unsuccessful
results (`Turn.scheduleNext_eq`), so `_on_group_planned` is `rejectGroup` there. -/
def scheduleNext (startState : RobotState) (call : PlanRequest → CallFaults) (t : Turn) :
    Turn × Option String :=
  if t.coord.cancelled then (t, none)
  else
    let (group, c) := t.coord.nextGroup
    match group.getD [] with
    | [] => ({ t with coord := c.put .stopIteration }, none)
    | p :: ps =>
      let r : PlanRequest := ⟨selectService (p :: ps), p :: ps, startState⟩
      c.planGroupAsync r (call r) (send r) (fun dto t => (t.rejectGroup dto, none))
        { t with coord := c, dispatched := t.dispatched ++ [r] }

/-- `_on_scene`. The response is the `robot_state` of the scene. -/
def onScene (future : Future (Option RobotState)) (call : PlanRequest → CallFaults) (t : Turn) :
    Turn :=
  if t.coord.cancelled then t
  else
    match future with
    | .raised e => t.abort s!"exception while retrieving planning scene - {e}"
    | .none | .value none =>
      t.abort "failed to retrieve planning scene or robot state; aborting planning"
    | .value (some robotState) =>
      match t.scheduleNext robotState call with
      | (t, none) => t
      | (t, some e) => t.abort s!"exception while retrieving planning scene - {e}"

def onGroupPlanned (call : PlanRequest → CallFaults) : OnResult Turn := fun dto t =>
  if t.coord.cancelled then (t, none)
  else
    let t := { t with coord := t.coord.put (.result dto) }
    if !dto.success then ({ t with coord := t.coord.put .stopIteration }, none)
    else
      match BasePlannerService.extractEndState dto.motionPlan with
      | .error e => (t.abort s!"failed to extract end state from planned group - {e}", none)
      | .ok endState => t.scheduleNext endState call

end Turn

inductive Ask where
  | scene
  | plan (r : PlanRequest) (message : PlannerMessage)
deriving DecidableEq, Repr

def Ask.request? : Ask → Option PlanRequest
  | .scene => none
  | .plan r _ => some r

inductive Answer where
  | scene (future : Future (Option RobotState))
  | pilz (future : Future MotionSequenceResponse)
  | ompl (future : Future MotionPlanResponse)
deriving DecidableEq, Repr

/-- The scene response carries a state, or the planner response the code `SUCCESS`. -/
def Answer.succeeded : Answer → Bool
  | .scene (.value (some _)) => true
  | .pilz (.value response) => response.errorCode == MoveItErrorCodes.SUCCESS
  | .ompl (.value response) => response.errorCode == MoveItErrorCodes.SUCCESS
  | _ => false

/-- Runs the done callback of a request; `none` when the answer is that of another service. -/
def Ask.respond (ask : Ask) (answer : Answer) (call : PlanRequest → CallFaults) (t : Turn) :
    Option (Turn × Option String) :=
  match ask, answer with
  | .scene, .scene future => some (t.onScene future call, none)
  | .plan ⟨.pilz, group, _⟩ _, .pilz future =>
    some (PilzPlannerService.onPlanResponse future group.pathIds (Turn.onGroupPlanned call) t)
  | .plan ⟨.ompl, path :: _, _⟩ _, .ompl future =>
    some (OmplPlannerService.onPlanResponse future path.pathId (Turn.onGroupPlanned call) t)
  | _, _ => none

end MovementController
