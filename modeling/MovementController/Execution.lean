import MovementController.Lookahead

/-!
# `MovementController._execute_callback`

The execution of accepted goals, one at a time, together with the coordinator's callbacks. The
thread of `_execute_callback` moves from one `Pc` to the next; planner responses and cancel requests
fall between any two of its steps.
-/

namespace MovementController
open PlanningCoordinator

def Planning.State.next? (w : Planning.State) : Option QueueItem :=
  match w.consumer with
  | .waiting => (w.coord.planQueue.getD []).head?
  | .stale q => q.head?
  | .idle | .polling => none

namespace Execution

/-- What comes of a sent MoveIt goal: an exception of the goal or result future, or a status and,
unless the result is `None`, its error code. -/
inductive MoveItAnswer where
  | raised (e : String)
  | result (status : Int) (errorCode : Option Int)
deriving DecidableEq, Repr

def MoveItAnswer.succeeded : MoveItAnswer := .result 4 (some MoveItErrorCodes.SUCCESS)

inductive Event where
  | feedback (fb : ExecuteTrajectory.Feedback)
  | sent (trajectory : RobotTrajectory)
  | answered (answer : MoveItAnswer)
deriving DecidableEq, Repr

inductive Pc where
  /-- The goal is accepted, `_execute_callback` has not begun. -/
  | accepted
  | ready
  /-- Between the two steps of `plan_all`. -/
  | requesting
  | iterating
  | planned (dto : PlanResultDTO)
  | approved (dto : PlanResultDTO)
  /-- In the inner loop, the trajectories `rest` still to send. -/
  | executing (dto : PlanResultDTO) (rest : List RobotTrajectory)
  /-- A trajectory was sent and is not answered. -/
  | waiting (dto : PlanResultDTO) (rest : List RobotTrajectory)
  | finishing
  /-- On the way to `_generate_failure_result`. -/
  | failing (errorMessage : String)
deriving DecidableEq, Repr

/-- One goal. `session` is the number of its `plan_all`, 0 before it; `clean` says that no response
was outstanding at its `plan_all`, if it came to that; `log` is its history. -/
structure Goal where
  goal : TrajectoryGoalDTO
  pc : Pc := .accepted
  cancelRequested : Bool := false
  session : Nat := 0
  clean : Bool := true
  completedIds : List String := []
  log : List Event := []
  result : Option ExecuteTrajectory.Result := none
deriving DecidableEq, Repr

/-- The steps of the thread. A `fault` is an exception raised by the call the step makes. -/
inductive Action where
  /-- The DTO is taken and grouped; `available` says whether planner and action server are. -/
  | start (available : Bool)
  | planAll
  | requestScene (service : Planning.SceneService)
  | iterate
  | poll
  | get
  | check
  /-- The "executing" feedback. -/
  | announce (fault : Option String)
  /-- `_call_with_cancellation`, up to the wait. -/
  | send (client : Bool) (fault : Option String)
  | answer (answer : MoveItAnswer)
  /-- The "completed" feedback. -/
  | complete (fault : Option String)
  | succeed (fault : Option String)
  | fail
deriving DecidableEq, Repr

/-- Python's `str` of a list of strings without quotes and backslashes. -/
def pyList (l : List String) : String :=
  "[" ++ ", ".intercalate (l.map fun s => "'" ++ s.replace "\n" "\\n" ++ "'") ++ "]"

def pyCode : Option Int → String
  | none => "None"
  | some code => s!"{code}"

def trajectories (dto : PlanResultDTO) : List RobotTrajectory :=
  (dto.motionPlan.map (·.plannedTrajectories)).getD []

namespace Goal

def goto (g : Goal) (pc : Pc) : Goal := { g with pc := pc }

/-- `except Exception as e`. -/
def raise (g : Goal) (e : String) : Goal := g.goto (.failing s!"Unknown exception raised - {e}")

/-- `except ExecutionFailedError as e`. -/
def raiseExecutionFailed (g : Goal) (e : String) : Goal :=
  g.goto (.failing s!"Execution failed - {e}")

def emit (g : Goal) (event : Event) : Goal := { g with log := g.log ++ [event] }

def feedback (status : FeedbackStatusEnum) (dto : PlanResultDTO) : Event :=
  .feedback ⟨status.value, dto.pathIds⟩

def onAnswer (p : Planning.State) (g : Goal) (dto : PlanResultDTO) (rest : List RobotTrajectory) :
    MoveItAnswer → Planning.State × Goal
  | .raised e => (p, g.raise e)
  | .result status errorCode =>
    if status ∈ [5, 6] then (p, g.raiseExecutionFailed "trajectory execution was cancelled")
    else if status ≠ 4 ∨ errorCode ≠ some MoveItErrorCodes.SUCCESS then
      ({ p with coord := p.coord.cancel }, g.raiseExecutionFailed <|
        s!"failed to execute trajectory for paths {pyList dto.pathIds}: " ++
          s!"error code {pyCode errorCode}")
    else (p, g.goto (.executing dto rest))

def act (p : Planning.State) (g : Goal) (a : Action) : Option (Planning.State × Goal) :=
  match g.pc, a with
  | .accepted, .start available =>
    some (p, g.goto (if available then .ready
      else .failing "planner service or move_group client not initialised"))
  | .ready, .planAll =>
    (Planning.step p (.planAll g.goal.groups)).map fun p' =>
      (p', { g with pc := .requesting, session := p'.sessionNo, clean := p.pending = [] })
  | .requesting, .requestScene service =>
    (Planning.step p (.requestScene service)).map fun p' =>
      (p', match p.coord.sceneClient, service with
        | true, .available => g.goto .iterating
        | true, .raises e => g.raise e
        | _, _ => g.goto (.failing "Planning failed or no paths to execute"))
  | .iterating, .iterate => (Planning.step p .iterate).map fun p' => (p', g)
  | .iterating, .poll =>
    (Planning.step p .poll).map fun p' =>
      (p', if p'.consumer = .waiting then g else g.goto (.planned Planning.noQueue))
  | .iterating, .get =>
    match p.next? with
    | none => none
    | some (.result dto) => (Planning.step p .get).map fun p' => (p', g.goto (.planned dto))
    | some .stopIteration => (Planning.step p .get).map fun p' => (p', g.goto .finishing)
  | .planned dto, .check =>
    some (p, g.goto (if g.cancelRequested then .failing "Goal was cancelled"
      else if !dto.success then .failing s!"Look-ahead planning failed - {dto.errorMessage}"
      else .approved dto))
  | .approved dto, .announce none =>
    some (p, (g.emit (feedback .EXECUTING dto)).goto (.executing dto (trajectories dto)))
  | .approved _, .announce (some e) => some (p, g.raise e)
  | .executing dto (trajectory :: rest), .send client fault =>
    some (p,
      if !client then g.raise "execute trajectory client should be intialized at this point"
      else if g.cancelRequested then g.raiseExecutionFailed "goal was cancelled by the client"
      else match fault with
        | some e => g.raise e
        | none => (g.emit (.sent trajectory)).goto (.waiting dto rest))
  | .waiting dto rest, .answer answer => some ((g.emit (.answered answer)).onAnswer p dto rest answer)
  | .executing dto [], .complete none =>
    some (p, { (g.emit (feedback .COMPLETED dto)).goto .iterating with
      completedIds := g.completedIds ++ dto.pathIds })
  | .executing _ [], .complete (some e) => some (p, g.raise e)
  | .finishing, .succeed none => some (p, { g with result := some ⟨true, "", g.completedIds⟩ })
  | .finishing, .succeed (some e) => some (p, g.raise e)
  | .failing errorMessage, .fail =>
    some ((Planning.step p .abandon).getD p,
      { g with result := some ⟨false, errorMessage, g.completedIds⟩ })
  | _, _ => none

inductive Act (p : Planning.State) (g : Goal) : Action → Planning.State → Goal → Prop
  | started (hpc : g.pc = .accepted) : Act p g (.start true) p (g.goto .ready)
  | halted (a : Action) (errorMessage : String) (hpc : g.pc ≠ .iterating) :
      Act p g a p (g.goto (.failing errorMessage))
  | planAll (hpc : g.pc = .ready) (p' : Planning.State)
      (hs : Planning.step p (.planAll g.goal.groups) = some p') : Act p g .planAll p'
        { g with pc := .requesting, session := p'.sessionNo, clean := p.pending = [] }
  | requested (hpc : g.pc = .requesting) (hc : p.coord.sceneClient = true) (p' : Planning.State)
      (hs : Planning.step p (.requestScene .available) = some p') :
      Act p g (.requestScene .available) p' (g.goto .iterating)
  | notRequested (hpc : g.pc = .requesting) (service : Planning.SceneService) (p' : Planning.State)
      (hs : Planning.step p (.requestScene service) = some p') (errorMessage : String) :
      Act p g (.requestScene service) p' (g.goto (.failing errorMessage))
  | iterate (hpc : g.pc = .iterating) (p' : Planning.State)
      (hs : Planning.step p .iterate = some p') : Act p g .iterate p' g
  | polled (hpc : g.pc = .iterating) (p' : Planning.State) (hs : Planning.step p .poll = some p')
      (hp : p'.consumer = .waiting) : Act p g .poll p' g
  | pollFailed (hpc : g.pc = .iterating) (p' : Planning.State)
      (hs : Planning.step p .poll = some p') (hp : p'.consumer ≠ .waiting) :
      Act p g .poll p' (g.goto (.planned Planning.noQueue))
  | gotResult (hpc : g.pc = .iterating) (dto : PlanResultDTO) (hn : p.next? = some (.result dto))
      (p' : Planning.State) (hs : Planning.step p .get = some p') :
      Act p g .get p' (g.goto (.planned dto))
  | gotSentinel (hpc : g.pc = .iterating) (hn : p.next? = some .stopIteration)
      (p' : Planning.State) (hs : Planning.step p .get = some p') :
      Act p g .get p' (g.goto .finishing)
  | approved (dto : PlanResultDTO) (hpc : g.pc = .planned dto) (hc : g.cancelRequested = false)
      (hd : dto.success = true) : Act p g .check p (g.goto (.approved dto))
  | announced (dto : PlanResultDTO) (hpc : g.pc = .approved dto) : Act p g (.announce none) p
      ((g.emit (feedback .EXECUTING dto)).goto (.executing dto (trajectories dto)))
  | sent (dto : PlanResultDTO) (trajectory : RobotTrajectory) (rest : List RobotTrajectory)
      (hpc : g.pc = .executing dto (trajectory :: rest)) (hc : g.cancelRequested = false) :
      Act p g (.send true none) p ((g.emit (.sent trajectory)).goto (.waiting dto rest))
  | answered (dto : PlanResultDTO) (rest : List RobotTrajectory) (hpc : g.pc = .waiting dto rest) :
      Act p g (.answer .succeeded) p
        ((g.emit (.answered .succeeded)).goto (.executing dto rest))
  /-- Any other answer ends the execution, not all of them after `cancel`. -/
  | answerFailed (dto : PlanResultDTO) (rest : List RobotTrajectory) (hpc : g.pc = .waiting dto rest)
      (answer : MoveItAnswer) (p' : Planning.State)
      (hp : p' = p ∨ p' = { p with coord := p.coord.cancel }) (errorMessage : String) :
      Act p g (.answer answer) p'
        ((g.emit (.answered answer)).goto (.failing errorMessage))
  | completed (dto : PlanResultDTO) (hpc : g.pc = .executing dto []) : Act p g (.complete none) p
      { (g.emit (feedback .COMPLETED dto)).goto .iterating with
        completedIds := g.completedIds ++ dto.pathIds }
  | succeeded (hpc : g.pc = .finishing) : Act p g (.succeed none) p
      { g with result := some ⟨true, "", g.completedIds⟩ }
  | failed (errorMessage : String) (hpc : g.pc = .failing errorMessage) : Act p g .fail
      ((Planning.step p .abandon).getD p)
      { g with result := some ⟨false, errorMessage, g.completedIds⟩ }

theorem Act.of_answer {p p' : Planning.State} {g g' : Goal} {dto : PlanResultDTO}
    {rest : List RobotTrajectory} {answer : MoveItAnswer} (hpc : g.pc = .waiting dto rest)
    (h : (g.emit (.answered answer)).onAnswer p dto rest answer = (p', g')) :
    Act p g (.answer answer) p' g' := by
  unfold onAnswer at h
  split at h
  · cases h; exact .answerFailed dto rest hpc _ _ (.inl rfl) _
  · split at h
    · cases h; exact .answerFailed dto rest hpc _ _ (.inl rfl) _
    · split at h
      · cases h; exact .answerFailed dto rest hpc _ _ (.inr rfl) _
      · next hs =>
        rw [not_or, not_not, not_not] at hs
        obtain ⟨rfl, rfl⟩ := hs
        cases h
        exact .answered dto rest hpc

theorem act_cases {p p' : Planning.State} {g g' : Goal} {a : Action}
    (h : g.act p a = some (p', g')) : Act p g a p' g' := by
  unfold act at h
  split at h
  · next available hpc =>
    cases h
    cases available with
    | true => exact .started hpc
    | false => exact .halted _ _ (by simp [hpc])
  · next hpc =>
    obtain ⟨_, hs, heq⟩ := Option.map_eq_some_iff.1 h
    cases heq
    exact .planAll hpc p' hs
  · next service hpc =>
    obtain ⟨_, hs, heq⟩ := Option.map_eq_some_iff.1 h
    cases heq
    split
    · next hc => exact .requested hpc hc p' hs
    · exact .notRequested hpc _ p' hs _
    · exact .notRequested hpc _ p' hs _
  · next hpc =>
    obtain ⟨_, hs, heq⟩ := Option.map_eq_some_iff.1 h
    cases heq
    exact .iterate hpc p' hs
  · next hpc =>
    obtain ⟨_, hs, heq⟩ := Option.map_eq_some_iff.1 h
    cases heq
    split
    · next hp => exact .polled hpc p' hs hp
    · next hp => exact .pollFailed hpc p' hs hp
  · next hpc =>
    split at h
    · cases h
    · next dto hn =>
      obtain ⟨_, hs, heq⟩ := Option.map_eq_some_iff.1 h
      cases heq
      exact .gotResult hpc dto hn p' hs
    · next hn =>
      obtain ⟨_, hs, heq⟩ := Option.map_eq_some_iff.1 h
      cases heq
      exact .gotSentinel hpc hn p' hs
  · next dto hpc =>
    cases h
    split
    · exact .halted _ _ (by simp [hpc])
    · next hc =>
      split
      · exact .halted _ _ (by simp [hpc])
      · next hd => exact .approved dto hpc (by simpa using hc) (by simpa using hd)
  · next dto hpc => cases h; exact .announced dto hpc
  · next hpc => cases h; exact .halted _ _ (by simp [hpc])
  · next dto trajectory rest client fault hpc =>
    cases h
    split
    · exact .halted _ _ (by simp [hpc])
    · next hclient =>
      split
      · exact .halted _ _ (by simp [hpc])
      · next hc =>
        obtain rfl : client = true := by simpa using hclient
        cases fault with
        | some e => exact .halted _ _ (by simp [hpc])
        | none => exact .sent dto trajectory rest hpc (by simpa using hc)
  · next dto rest answer hpc => exact .of_answer hpc (Option.some.inj h)
  · next dto hpc => cases h; exact .completed dto hpc
  · next hpc => cases h; exact .halted _ _ (by simp [hpc])
  · next hpc => cases h; exact .succeeded hpc
  · next hpc => cases h; exact .halted _ _ (by simp [hpc])
  · next errorMessage hpc => cases h; exact .failed errorMessage hpc
  · cases h

end Goal

/-- The node: the coordinator and its callbacks, the goal that was accepted and has not returned,
and the goals that have, in order. -/
structure State where
  plan : Planning.State
  current : Option Goal := none
  finished : List Goal := []
deriving DecidableEq, Repr

inductive Label where
  | accept (goal : TrajectoryGoalDTO)
  /-- `_cancel_callback`, with the handle becoming `is_cancel_requested`. -/
  | cancel
  | deliver (i : Nat) (answer : Answer) (call : PlanRequest → CallFaults)
  | thread (a : Action)

namespace State

def advance (w : State) (p : Planning.State) (g : Goal) : State :=
  if g.result.isSome then { plan := p, finished := w.finished ++ [g] }
  else { w with plan := p, current := some g }

theorem advance_cases (w : State) (p : Planning.State) (g : Goal) :
    (g.result = none ∧ w.advance p g = { w with plan := p, current := some g }) ∨
      (g.result.isSome = true ∧ w.advance p g = { plan := p, finished := w.finished ++ [g] }) := by
  unfold advance
  split
  · next hr => exact .inr ⟨hr, rfl⟩
  · next hr => exact .inl ⟨by simpa using hr, rfl⟩

@[simp] theorem advance_plan (w : State) (p : Planning.State) (g : Goal) :
    (w.advance p g).plan = p := by
  rcases w.advance_cases p g with ⟨-, h⟩ | ⟨-, h⟩ <;> rw [h]

end State

def step (w : State) : Label → Option State
  | .accept goal => if w.current = none then some { w with current := some { goal } } else none
  | .cancel =>
    w.current.map fun g =>
      { w with
        plan := { w.plan with coord := w.plan.coord.cancel }
        current := some { g with cancelRequested := true } }
  | .deliver i answer call =>
    (Planning.step w.plan (.deliver i answer call)).map fun p => { w with plan := p }
  | .thread a =>
    w.current.bind fun g => (g.act w.plan a).map fun (p, g) => w.advance p g

def init (c : PlanningCoordinator) : State := { plan := Planning.init c }

def firstGoal : TrajectoryGoalDTO := ⟨[Planning.firstPath], by decide, by decide⟩

inductive Step (w : State) : Label → State → Prop
  | accept (goal : TrajectoryGoalDTO) (hc : w.current = none) :
      Step w (.accept goal) { w with current := some { goal } }
  | cancel (g : Goal) (hg : w.current = some g) :
      Step w .cancel { w with
        plan := { w.plan with coord := w.plan.coord.cancel }
        current := some { g with cancelRequested := true } }
  | deliver (i : Nat) (answer : Answer) (call : PlanRequest → CallFaults) (p : Planning.State)
      (hs : Planning.step w.plan (.deliver i answer call) = some p) :
      Step w (.deliver i answer call) { w with plan := p }
  | thread (a : Action) (g : Goal) (hg : w.current = some g) (p : Planning.State) (g' : Goal)
      (ha : g.Act w.plan a p g') : Step w (.thread a) (w.advance p g')

theorem step_cases {w w' : State} {l : Label} (h : step w l = some w') : Step w l w' := by
  cases l with
  | accept goal =>
    simp only [step, Option.ite_none_right_eq_some, Option.some.injEq] at h
    obtain ⟨hc, rfl⟩ := h
    exact .accept goal hc
  | cancel =>
    obtain ⟨g, hg, rfl⟩ := Option.map_eq_some_iff.1 h
    exact .cancel g hg
  | deliver i answer call =>
    obtain ⟨p, hs, rfl⟩ := Option.map_eq_some_iff.1 h
    exact .deliver i answer call p hs
  | thread a =>
    obtain ⟨g, hg, h⟩ := Option.bind_eq_some_iff.1 h
    obtain ⟨⟨p, g'⟩, ha, rfl⟩ := Option.map_eq_some_iff.1 h
    exact .thread a g hg p g' (Goal.act_cases ha)

end Execution
end MovementController
