import MovementController.Truth
import MovementController.Sequential

/-!
# The execution of a goal is a sequential program

Planning runs ahead while trajectories execute, and the thread, the planner responses and the
consumer of the queue interleave in any way. What a client sees of it does not depend on that: it is
the log and the result of `execute`, which plans everything first and then executes one plan after
the other.
-/

namespace MovementController
open PlanningCoordinator

/-- The scene client is there from `on_activate` on. -/
theorem Planning.sceneClient_of_reaches {c : PlanningCoordinator} {w : State}
    (h : Lts.Reaches step (init c) w) : w.coord.sceneClient = c.sceneClient := by
  refine (h.invariant (I := fun w => Coherent w.coord ∧ w.coord.sceneClient = c.sceneClient)
    ⟨.inl (Coherent.closed_clearSession c), rfl⟩ fun {t u l} ht _ hs => ⟨step_coherent ht.1 hs, ?_⟩).2
  rw [← ht.2]
  cases step_cases ht.1 hs with
  | acted i answer call o ho q gs hc v hv t ht => cases ht <;> rfl
  | _ => rfl

namespace Execution

/-! ### The sequential program -/

/-- How everything around the node behaves while it executes one goal. The calls of the thread are
told apart by the number of events before them. -/
structure Surroundings where
  available : Bool
  sceneService : Planning.SceneService
  services : Planning.Services
  announce : Nat → Option String
  send : Nat → Bool × Option String
  answer : Nat → MoveItAnswer
  complete : Nat → Option String
  succeed : Option String

structure Ending where
  log : List Event
  result : ExecuteTrajectory.Result
deriving DecidableEq, Repr

/-- What the execution has to show for itself so far. -/
structure Standing where
  log : List Event := []
  completedIds : List String := []
deriving DecidableEq, Repr

namespace Standing

def emit (s : Standing) (event : Event) : Standing := { s with log := s.log ++ [event] }

def fail (s : Standing) (errorMessage : String) : Ending :=
  ⟨s.log, ⟨false, errorMessage, s.completedIds⟩⟩

def raise (s : Standing) (e : String) : Ending := s.fail s!"Unknown exception raised - {e}"

def raiseExecutionFailed (s : Standing) (e : String) : Ending := s.fail s!"Execution failed - {e}"

end Standing

namespace Surroundings

section Program
variable (env : Surroundings) (c : PlanningCoordinator)

def answered (dto : PlanResultDTO) (next : Standing → Ending) (s : Standing) : Ending :=
  let s' := s.emit (.answered (env.answer s.log.length))
  match env.answer s.log.length with
  | .raised e => s'.raise e
  | .result status errorCode =>
    if status ∈ [5, 6] then s'.raiseExecutionFailed "trajectory execution was cancelled"
    else if status ≠ 4 ∨ errorCode ≠ some MoveItErrorCodes.SUCCESS then
      s'.raiseExecutionFailed <|
        s!"failed to execute trajectory for paths {pyList dto.pathIds}: " ++
          s!"error code {pyCode errorCode}"
    else next s'

def sendAll (dto : PlanResultDTO) (next : Standing → Ending) : List RobotTrajectory → Standing → Ending
  | [], s => next s
  | trajectory :: rest, s =>
    match env.send s.log.length with
    | (false, _) => s.raise "execute trajectory client should be intialized at this point"
    | (true, some e) => s.raise e
    | (true, none) => env.answered dto (sendAll dto next rest) (s.emit (.sent trajectory))

def completed (dto : PlanResultDTO) (next : Standing → Ending) (s : Standing) : Ending :=
  match env.complete s.log.length with
  | some e => s.raise e
  | none => next { s.emit (.feedback (Execution.completed dto.pathIds)) with
      completedIds := s.completedIds ++ dto.pathIds }

def announced (dto : PlanResultDTO) (next : Standing → Ending) (s : Standing) : Ending :=
  match env.announce s.log.length with
  | some e => s.raise e
  | none => env.sendAll dto (env.completed dto next) dto.plannedTrajectories
      (s.emit (.feedback (Execution.executing dto.pathIds)))

def executed (dto : PlanResultDTO) (next : Standing → Ending) (s : Standing) : Ending :=
  if dto.success then env.announced dto next s
  else s.fail s!"Look-ahead planning failed - {dto.errorMessage}"

def succeeded (s : Standing) : Ending :=
  match env.succeed with
  | some e => s.raise e
  | none => ⟨s.log, ⟨true, "", s.completedIds⟩⟩

def executeAll : List PlanResultDTO → Standing → Ending
  | [] => env.succeeded
  | dto :: dtos => env.executed dto (executeAll dtos)

def requested (goal : TrajectoryGoalDTO) (s : Standing) : Ending :=
  match c.sceneClient, env.sceneService with
  | true, .available => env.executeAll (Planning.planSequentially c env.services goal.groups) s
  | true, .raises e => s.raise e
  | _, _ => s.fail "Planning failed or no paths to execute"

def started (goal : TrajectoryGoalDTO) (s : Standing) : Ending :=
  if env.available then env.requested c goal s
  else s.fail "planner service or move_group client not initialised"

/-- The sequential program. -/
def execute (goal : TrajectoryGoalDTO) : Ending := env.started c goal {}

end Program

/-! ### Its log only grows -/

/-- The part of the program that is still to run keeps what the log has. -/
def Extends (next : Standing → Ending) : Prop := ∀ s, s.log <+: (next s).log

namespace Extends

variable {env : Surroundings} {dto : PlanResultDTO} {next : Standing → Ending}

theorem fail (errorMessage : String) : Extends fun s => s.fail errorMessage := fun _ =>
  List.prefix_rfl

theorem after (h : Extends next) {s s' : Standing} (hs : s.log <+: s'.log) : s.log <+: (next s').log :=
  hs.trans (h s')

theorem answered (h : Extends next) : Extends (env.answered dto next) := by
  intro s
  have hemit : s.log <+: (s.emit (.answered (env.answer s.log.length))).log := List.prefix_append _ _
  unfold Surroundings.answered
  dsimp only
  split
  · exact (fail _).after hemit
  · split
    · exact (fail _).after hemit
    · split
      · exact (fail _).after hemit
      · exact h.after hemit

theorem sendAll (h : Extends next) (ts : List RobotTrajectory) :
    Extends (env.sendAll dto next ts) := by
  induction ts with
  | nil => exact h
  | cons trajectory rest ih =>
    intro s
    rw [Surroundings.sendAll]
    split
    · exact List.prefix_rfl
    · exact List.prefix_rfl
    · exact ih.answered.after (List.prefix_append _ _)

theorem completed (h : Extends next) : Extends (env.completed dto next) := by
  intro s
  unfold Surroundings.completed
  split
  · exact List.prefix_rfl
  · exact h.after (List.prefix_append _ _)

theorem announced (h : Extends next) : Extends (env.announced dto next) := by
  intro s
  unfold Surroundings.announced
  split
  · exact List.prefix_rfl
  · exact (h.completed.sendAll _).after (List.prefix_append _ _)

theorem executed (h : Extends next) : Extends (env.executed dto next) := by
  intro s
  unfold Surroundings.executed
  split
  · exact h.announced s
  · exact List.prefix_rfl

theorem succeeded (env : Surroundings) : Extends env.succeeded := by
  intro s
  unfold Surroundings.succeeded
  split <;> exact List.prefix_rfl

theorem executeAll (env : Surroundings) (dtos : List PlanResultDTO) :
    Extends (env.executeAll dtos) := by
  induction dtos with
  | nil => exact succeeded env
  | cons dto dtos ih => exact ih.executed

theorem requested (env : Surroundings) (c : PlanningCoordinator) (goal : TrajectoryGoalDTO) :
    Extends (env.requested c goal) := by
  intro s
  unfold Surroundings.requested
  split
  · exact executeAll env _ s
  · exact List.prefix_rfl
  · exact List.prefix_rfl

theorem started (env : Surroundings) (c : PlanningCoordinator) (goal : TrajectoryGoalDTO) :
    Extends (env.started c goal) := by
  intro s
  unfold Surroundings.started
  split
  · exact requested env c goal s
  · exact List.prefix_rfl

end Extends

/-! ### Runs in given surroundings -/

/-- The step of a thread that has `n` events in its goal's log. -/
def Meets (env : Surroundings) (n : Nat) : Action → Prop
  | .start available => available = env.available
  | .requestScene service => service = env.sceneService
  | .announce fault => fault = env.announce n
  | .send client fault => (client, fault) = env.send n
  | .answer answer => answer = env.answer n
  | .complete fault => fault = env.complete n
  | .succeed fault => fault = env.succeed
  | .planAll | .iterate | .poll | .get | .check | .fail => True

/-- The steps of one execution that is not cancelled. -/
def Conforms (env : Surroundings) (w : State) : Label → Prop
  | .accept _ | .cancel => False
  | .deliver i answer call => env.services.Serves w.plan (.deliver i answer call)
  | .thread a => ∀ g ∈ w.current, env.Meets g.log.length a

/-- The results that are still to be taken from the session. -/
def remaining (env : Surroundings) (c : PlanningCoordinator) (goal : TrajectoryGoalDTO)
    (p : Planning.State) : List PlanResultDTO :=
  (Planning.planSequentially c env.services goal.groups).drop (p.results p.sessionNo).length

/-- What is left of the program at a place of the thread. -/
def resume (env : Surroundings) (c : PlanningCoordinator) (goal : TrajectoryGoalDTO)
    (p : Planning.State) : Pc → Standing → Ending
  | .accepted => env.started c goal
  | .ready | .requesting => env.requested c goal
  | .iterating => env.executeAll (env.remaining c goal p)
  | .planned dto => env.executed dto (env.executeAll (env.remaining c goal p))
  | .approved dto => env.announced dto (env.executeAll (env.remaining c goal p))
  | .executing dto rest =>
    env.sendAll dto (env.completed dto (env.executeAll (env.remaining c goal p))) rest
  | .waiting dto rest =>
    env.answered dto (env.sendAll dto (env.completed dto (env.executeAll (env.remaining c goal p))) rest)
  | .finishing => env.succeeded
  | .failing errorMessage => fun s => s.fail errorMessage

/-- What the coordinator has to be like at a place of the thread. -/
def Context (env : Surroundings) (c : PlanningCoordinator) (goal : TrajectoryGoalDTO)
    (p : Planning.State) : Pc → Prop
  | .accepted | .ready =>
    Lts.Reaches Planning.step (Planning.init c) p ∧ p.pending = [] ∧ p.consumer = .idle
  | .requesting => ∃ p₀, Lts.Reaches Planning.step (Planning.init c) p₀ ∧ p₀.pending = [] ∧
      p₀.consumer = .idle ∧ Planning.step p₀ (.planAll goal.groups) = some p
  | .finishing | .failing _ => True
  | _ => Planning.Serving c env.services goal.groups p ∧ p.ended = false

end Surroundings

/-- Where the thread goes with the item it took. -/
def Pc.taken : QueueItem → Pc
  | .result dto => .planned dto
  | .stopIteration => .finishing

theorem Surroundings.Extends.resume (env : Surroundings) (c : PlanningCoordinator)
    (goal : TrajectoryGoalDTO) (p : Planning.State) (pc : Pc) :
    Surroundings.Extends (env.resume c goal p pc) := by
  have hall := executeAll env (env.remaining c goal p)
  cases pc with
  | accepted => exact started env c goal
  | ready | requesting => exact requested env c goal
  | iterating => exact hall
  | planned dto => exact hall.executed
  | approved dto => exact hall.announced
  | executing dto rest => exact hall.completed.sendAll rest
  | waiting dto rest => exact (hall.completed.sendAll rest).answered
  | finishing => exact succeeded env
  | failing errorMessage => exact fail errorMessage

def Goal.standing (g : Goal) : Standing := ⟨g.log, g.completedIds⟩

/-- What is left to run at `g` ends in `ending`. -/
structure Goal.Follows (env : Surroundings) (c : PlanningCoordinator) (ending : Ending)
    (p : Planning.State) (g : Goal) : Prop where
  running : g.cancelRequested = false ∧ g.result = none
  context : env.Context c g.goal p g.pc
  resume : env.resume c g.goal p g.pc g.standing = ending

namespace Surroundings

section
variable {env : Surroundings} {c : PlanningCoordinator} {goal : TrajectoryGoalDTO}
  {p p' : Planning.State} {groups : List Group}

theorem remaining_of_got {dto : PlanResultDTO}
    (h : Planning.Serving c env.services goal.groups p') (hn : p'.sessionNo = p.sessionNo)
    (hr : p'.results p.sessionNo = p.results p.sessionNo ++ [dto]) :
    env.remaining c goal p = dto :: env.remaining c goal p' := by
  obtain ⟨rest, hrest⟩ := h.phase.results_prefix
  rw [hn, hr] at hrest
  unfold remaining
  rw [hn, hr, ← hrest, List.drop_left, List.append_assoc, List.drop_left]
  rfl

theorem remaining_of_ended (h : Planning.Serving c env.services goal.groups p')
    (he : p'.ended = true) (hn : p'.sessionNo = p.sessionNo) (hy : p'.yielded = p.yielded) :
    env.remaining c goal p = [] := by
  have hr : p.results p.sessionNo = p'.results p'.sessionNo := by
    unfold Planning.State.results
    rw [hn, hy]
  rw [remaining, hr, h.phase.results_eq he, List.drop_length]

theorem remaining_congr (hn : p'.sessionNo = p.sessionNo)
    (hy : p'.yielded = p.yielded) : env.remaining c goal p' = env.remaining c goal p := by
  unfold remaining Planning.State.results
  rw [hn, hy]

theorem serving_step {l : Planning.Label} (h : Planning.Serving c env.services goal.groups p)
    (hl : env.services.Serves p l) (hs : Planning.step p l = some p') :
    Planning.Serving c env.services goal.groups p' :=
  (h.step (fun _ hg => goal.ne_nil_of_mem_groups hg) hl hs).1

end

end Surroundings

namespace Goal.Follows

variable {env : Surroundings} {c : PlanningCoordinator} {ending : Ending} {p p' : Planning.State}
  {g : Goal}

/-- A step of the thread that gives up. -/
theorem fail {k : Goal} {errorMessage : String} (hrun : k.cancelRequested = false ∧ k.result = none)
    (hpc : k.pc = .failing errorMessage) (he : k.standing.fail errorMessage = ending) :
    k.Follows env c ending p := by
  refine ⟨hrun, ?_, ?_⟩
  · rw [hpc]
    exact trivial
  · rw [hpc]
    exact he

theorem planAll (h : g.Follows env c ending p) (hpc : g.pc = .ready)
    (hs : Planning.step p (.planAll g.goal.groups) = some p') (session : Nat) (clean : Bool) :
    Goal.Follows env c ending p'
      { g with pc := .requesting, session := session, clean := clean } := by
  obtain ⟨hrun, hctx, hres⟩ := h
  rw [hpc] at hctx hres
  exact ⟨hrun, ⟨p, hctx.1, hctx.2.1, hctx.2.2, hs⟩, hres⟩

theorem requestScene (h : g.Follows env c ending p) (hpc : g.pc = .requesting)
    {service : Planning.SceneService} (hservice : service = env.sceneService) {g' : Goal}
    (ha : g.act p (.requestScene service) = some (p', g')) : g'.Follows env c ending p' := by
  obtain ⟨hrun, hctx, hres⟩ := h
  rw [hpc] at hctx hres
  obtain ⟨p₀, hreach, hpend, hidle, hplan⟩ := hctx
  have hclient : p.coord.sceneClient = c.sceneClient := Planning.sceneClient_of_reaches
    (hreach.tail trivial hplan)
  rw [Surroundings.resume, Surroundings.requested, ← hclient, ← hservice] at hres
  have hcoh := Planning.step_coherent (Planning.Ledger.of_reaches hreach).1 hplan
  simp only [Goal.act, hpc] at ha
  obtain ⟨_, hs, heq⟩ := Option.map_eq_some_iff.1 ha
  cases heq
  cases hc : p.coord.sceneClient with
  | false =>
    rw [hc] at hres
    exact fail hrun rfl hres
  | true =>
    rw [hc] at hres
    cases service with
    | unavailable => exact fail hrun rfl hres
    | raises e => exact fail hrun rfl hres
    | available =>
      obtain rfl : p = p₀.setup g.goal.groups := by
        cases Planning.step_cases (Planning.Ledger.of_reaches hreach).1 hplan; rfl
      cases Planning.step_cases hcoh hs with
      | sceneRequested =>
        have hserving := (Planning.Serving.start env.services hreach hpend hidle hplan hs rfl).1
        have hnil : (p₀.setup g.goal.groups).sceneRequested.results (p₀.sessionNo + 1) = [] :=
          (Planning.Ledger.of_reaches hreach).2.results_eq_nil (Nat.lt_succ_self _)
        refine ⟨hrun, ⟨hserving, rfl⟩, ?_⟩
        show env.executeAll (List.drop
          (List.length (Planning.State.results _ (p₀.sessionNo + 1))) _) g.standing = ending
        rw [hnil]
        exact hres
      | sceneUnavailable _ _ hunavailable => cases hunavailable hc

theorem iterate (h : g.Follows env c ending p) (hpc : g.pc = .iterating)
    (hs : Planning.step p .iterate = some p') : g.Follows env c ending p' := by
  obtain ⟨hrun, hctx, hres⟩ := h
  rw [hpc] at hctx hres
  have hserving := Surroundings.serving_step (l := .iterate) hctx.1 hctx.2 hs
  have hsame : p'.sessionNo = p.sessionNo ∧ p'.yielded = p.yielded ∧ p'.ended = p.ended := by
    cases Planning.step_cases hctx.1.coherent hs
    exact ⟨rfl, rfl, rfl⟩
  refine ⟨hrun, ?_, ?_⟩
  · rw [hpc]
    exact ⟨hserving, hsame.2.2.trans hctx.2⟩
  · rw [hpc, Surroundings.resume, Surroundings.remaining_congr hsame.1 hsame.2.1]
    exact hres

/-- The session is open, so the queue is there to be waited on. -/
theorem poll (h : g.Follows env c ending p) (hpc : g.pc = .iterating)
    (hs : Planning.step p .poll = some p') :
    p'.consumer = .waiting ∧ g.Follows env c ending p' := by
  obtain ⟨hrun, hctx, hres⟩ := h
  rw [hpc] at hctx hres
  have hserving := Surroundings.serving_step (l := .poll) hctx.1 trivial hs
  cases Planning.step_cases hctx.1.coherent hs with
  | polled =>
    refine ⟨rfl, hrun, ?_, ?_⟩
    · rw [hpc]
      exact ⟨hserving, hctx.2⟩
    · rw [hpc]
      exact hres
  | pollFailed hpoll hq =>
    have hidle := (hctx.1.phase.ended_of_closed fun q gs hw => by simp [hw.queue] at hq).1
    rw [hpoll] at hidle
    cases hidle

theorem get (h : g.Follows env c ending p) (hpc : g.pc = .iterating) {item : QueueItem}
    (hn : p.next? = some item) (hs : Planning.step p .get = some p') :
    (g.goto (.taken item)).Follows env c ending p' := by
  obtain ⟨hrun, hctx, hres⟩ := h
  rw [hpc] at hctx hres
  have hserving := Surroundings.serving_step (l := .get) hctx.1 trivial hs
  cases Planning.step_cases hctx.1.coherent hs with
  | gotResult dto q hw hq =>
    obtain rfl : .result dto = item := by simpa [Planning.State.next?, hw, hq] using hn
    refine ⟨hrun, ⟨hserving, hctx.2⟩, ?_⟩
    have hrem : env.remaining c g.goal p = dto :: env.remaining c g.goal _ :=
      Surroundings.remaining_of_got hserving rfl (by simp [Planning.State.results])
    rw [Surroundings.resume, hrem] at hres
    exact hres
  | gotSentinel q hw hq =>
    obtain rfl : .stopIteration = item := by simpa [Planning.State.next?, hw, hq] using hn
    refine ⟨hrun, trivial, ?_⟩
    have hrem : env.remaining c g.goal p = [] :=
      Surroundings.remaining_of_ended hserving rfl rfl rfl
    rw [Surroundings.resume, hrem] at hres
    exact hres
  | gotStaleResult dto q hw => exact absurd hw (hctx.1.phase.not_stale _)
  | gotStaleSentinel q hw => exact absurd hw (hctx.1.phase.not_stale _)

theorem answer (h : g.Follows env c ending p) {dto : PlanResultDTO} {rest : List RobotTrajectory}
    (hpc : g.pc = .waiting dto rest) {answer : MoveItAnswer} (hanswer : answer = env.answer g.log.length)
    {g' : Goal} (ha : (g.emit (.answered answer)).onAnswer p dto rest answer = (p', g')) :
    g'.Follows env c ending p' := by
  obtain ⟨hrun, hctx, hres⟩ := h
  rw [hpc] at hctx hres
  have hlog : env.answer g.standing.log.length = answer := hanswer.symm
  rw [Surroundings.resume, Surroundings.answered, hlog] at hres
  cases answer with
  | raised e =>
    cases ha
    exact fail hrun rfl hres
  | result status errorCode =>
    simp only [Goal.onAnswer] at ha
    dsimp only at hres
    split at ha
    · next hstatus =>
      rw [if_pos hstatus] at hres
      cases ha
      exact fail hrun rfl hres
    next hstatus =>
    rw [if_neg hstatus] at hres
    split at ha
    · next hcode =>
      rw [if_pos hcode] at hres
      cases ha
      exact fail hrun rfl hres
    · next hcode =>
      rw [if_neg hcode] at hres
      cases ha
      exact ⟨hrun, hctx, hres⟩

theorem start (h : g.Follows env c ending p) (hpc : g.pc = .accepted) {available : Bool}
    (ha : available = env.available) :
    Goal.Follows env c ending p (g.goto (if available then .ready
      else .failing "planner service or move_group client not initialised")) := by
  obtain ⟨hrun, hctx, hres⟩ := h
  rw [hpc] at hctx hres
  rw [Surroundings.resume, Surroundings.started, ← ha] at hres
  cases available with
  | true => exact ⟨hrun, hctx, hres⟩
  | false => exact fail hrun rfl hres

theorem check (h : g.Follows env c ending p) {dto : PlanResultDTO} (hpc : g.pc = .planned dto) :
    Goal.Follows env c ending p (g.goto (if g.cancelRequested then .failing "Goal was cancelled"
      else if !dto.success then .failing s!"Look-ahead planning failed - {dto.errorMessage}"
      else .approved dto)) := by
  obtain ⟨hrun, hctx, hres⟩ := h
  rw [hpc] at hctx hres
  rw [Surroundings.resume, Surroundings.executed] at hres
  rw [hrun.1]
  cases hdto : dto.success with
  | false =>
    rw [hdto] at hres
    exact fail hrun rfl hres
  | true =>
    rw [hdto] at hres
    exact ⟨hrun, hctx, hres⟩

theorem announce (h : g.Follows env c ending p) {dto : PlanResultDTO} (hpc : g.pc = .approved dto)
    {fault : Option String} (hfault : fault = env.announce g.log.length) {g' : Goal}
    (ha : g.act p (.announce fault) = some (p', g')) : g'.Follows env c ending p' := by
  obtain ⟨hrun, hctx, hres⟩ := h
  rw [hpc] at hctx hres
  have hlog : env.announce g.standing.log.length = fault := hfault.symm
  rw [Surroundings.resume, Surroundings.announced, hlog, ← trajectories_eq] at hres
  cases fault with
  | none =>
    simp only [Goal.act, hpc, Option.some.injEq, Prod.mk.injEq] at ha
    obtain ⟨rfl, rfl⟩ := ha
    exact ⟨hrun, hctx, hres⟩
  | some e =>
    simp only [Goal.act, hpc, Option.some.injEq, Prod.mk.injEq] at ha
    obtain ⟨rfl, rfl⟩ := ha
    exact fail hrun rfl hres

theorem send (h : g.Follows env c ending p) {dto : PlanResultDTO} {trajectory : RobotTrajectory}
    {rest : List RobotTrajectory} (hpc : g.pc = .executing dto (trajectory :: rest)) {client : Bool}
    {fault : Option String} (hfault : (client, fault) = env.send g.log.length) {g' : Goal}
    (ha : g.act p (.send client fault) = some (p', g')) : g'.Follows env c ending p' := by
  obtain ⟨hrun, hctx, hres⟩ := h
  rw [hpc] at hctx hres
  have hlog : env.send g.standing.log.length = (client, fault) := hfault.symm
  rw [Surroundings.resume, Surroundings.sendAll, hlog] at hres
  simp only [Goal.act, hpc, hrun.1, Option.some.injEq, Prod.mk.injEq] at ha
  obtain ⟨rfl, rfl⟩ := ha
  rcases client with _ | _
  · exact fail hrun rfl hres
  rcases fault with _ | e
  · exact ⟨hrun, hctx, hres⟩
  · exact fail hrun rfl hres

theorem complete (h : g.Follows env c ending p) {dto : PlanResultDTO}
    (hpc : g.pc = .executing dto []) {fault : Option String}
    (hfault : fault = env.complete g.log.length) {g' : Goal}
    (ha : g.act p (.complete fault) = some (p', g')) : g'.Follows env c ending p' := by
  obtain ⟨hrun, hctx, hres⟩ := h
  rw [hpc] at hctx hres
  have hlog : env.complete g.standing.log.length = fault := hfault.symm
  rw [Surroundings.resume, Surroundings.sendAll, Surroundings.completed, hlog] at hres
  cases fault with
  | none =>
    simp only [Goal.act, hpc, Option.some.injEq, Prod.mk.injEq] at ha
    obtain ⟨rfl, rfl⟩ := ha
    exact ⟨hrun, hctx, hres⟩
  | some e =>
    simp only [Goal.act, hpc, Option.some.injEq, Prod.mk.injEq] at ha
    obtain ⟨rfl, rfl⟩ := ha
    exact fail hrun rfl hres

/-- A step of the thread: the rest of the program is the same, or the goal returned what the program
ends in. -/
theorem act (h : g.Follows env c ending p) {a : Action} (hm : env.Meets g.log.length a) {g' : Goal}
    (ha : g.act p a = some (p', g')) :
    g'.Follows env c ending p' ∨ g'.log = ending.log ∧ g'.result = some ending.result := by
  have ha' := ha
  unfold Goal.act at ha
  split at ha
  · next hpc =>
    cases ha
    exact .inl (h.start hpc hm)
  · next hpc =>
    obtain ⟨_, hs, heq⟩ := Option.map_eq_some_iff.1 ha
    cases heq
    exact .inl (h.planAll hpc hs _ _)
  · next hpc => exact .inl (h.requestScene hpc hm ha')
  · next hpc =>
    obtain ⟨_, hs, heq⟩ := Option.map_eq_some_iff.1 ha
    cases heq
    exact .inl (h.iterate hpc hs)
  · next hpc =>
    obtain ⟨_, hs, heq⟩ := Option.map_eq_some_iff.1 ha
    cases heq
    obtain ⟨hwaiting, hfollows⟩ := h.poll hpc hs
    rw [if_pos hwaiting]
    exact .inl hfollows
  · next hpc =>
    split at ha
    · cases ha
    · next dto hn =>
      obtain ⟨_, hs, heq⟩ := Option.map_eq_some_iff.1 ha
      cases heq
      exact .inl (h.get hpc hn hs)
    · next hn =>
      obtain ⟨_, hs, heq⟩ := Option.map_eq_some_iff.1 ha
      cases heq
      exact .inl (h.get hpc hn hs)
  · next hpc =>
    cases ha
    exact .inl (h.check hpc)
  · next hpc => exact .inl (h.announce hpc hm ha')
  · next hpc => exact .inl (h.announce hpc hm ha')
  · next hpc => exact .inl (h.send hpc hm ha')
  · next hpc => exact .inl (h.answer hpc hm (Option.some.inj ha))
  · next hpc => exact .inl (h.complete hpc hm ha')
  · next hpc => exact .inl (h.complete hpc hm ha')
  · next hpc =>
    cases ha
    have hres := h.resume
    rw [hpc, Surroundings.resume, Surroundings.succeeded, ← (hm : none = env.succeed)] at hres
    rw [← hres]
    exact .inr ⟨rfl, rfl⟩
  · next e hpc =>
    cases ha
    have hres := h.resume
    rw [hpc, Surroundings.resume, Surroundings.succeeded, ← (hm : some e = env.succeed)] at hres
    exact .inl (fail h.running rfl hres)
  · next e hpc =>
    cases ha
    have hres := h.resume
    rw [hpc] at hres
    rw [← hres]
    exact .inr ⟨rfl, rfl⟩
  · cases ha

theorem deliver (h : g.Follows env c ending p) {i : Nat} {answer : Answer}
    {call : PlanRequest → CallFaults} (hl : env.services.Serves p (.deliver i answer call))
    (hs : Planning.step p (.deliver i answer call) = some p') : g.Follows env c ending p' := by
  obtain ⟨hrun, hctx, hres⟩ := h
  have hnone (hp : p.pending = []) : Planning.step p (.deliver i answer call) = none := by
    simp [Planning.step, hp]
  have loop (hserving : Planning.Serving c env.services g.goal.groups p) (he : p.ended = false)
      (hctx' : ∀ q, Planning.Serving c env.services g.goal.groups q ∧ q.ended = false →
        env.Context c g.goal q g.pc)
      (hres' : ∀ q, env.remaining c g.goal q = env.remaining c g.goal p →
        env.resume c g.goal q g.pc = env.resume c g.goal p g.pc) : g.Follows env c ending p' := by
    have hsame : p'.sessionNo = p.sessionNo ∧ p'.yielded = p.yielded ∧ p'.ended = p.ended := by
      cases Planning.step_cases hserving.coherent hs <;> exact ⟨rfl, rfl, rfl⟩
    refine ⟨hrun, hctx' _ ⟨Surroundings.serving_step hserving hl hs, hsame.2.2.trans he⟩, ?_⟩
    rw [hres' _ (Surroundings.remaining_congr hsame.1 hsame.2.1)]
    exact hres
  cases hpc : g.pc with
  | accepted | ready =>
    rw [hpc] at hctx
    rw [hnone hctx.2.1] at hs
    cases hs
  | requesting =>
    rw [hpc] at hctx
    obtain ⟨p₀, hreach, hpend, -, hplan⟩ := hctx
    have hp : p.pending = [] := by
      cases Planning.step_cases (Planning.Ledger.of_reaches hreach).1 hplan
      exact hpend
    rw [hnone hp] at hs
    cases hs
  | finishing | failing =>
    rw [hpc] at hres
    refine ⟨hrun, ?_, ?_⟩
    · rw [hpc]
      exact trivial
    · rw [hpc]
      exact hres
  | _ =>
    rw [hpc] at hctx loop
    exact loop hctx.1 hctx.2 (fun q hq => hq) fun q hq => by simp only [Surroundings.resume, hq]

end Goal.Follows

/-! ### Runs -/

/-- The goal that executes is on its way to the ending, or it has returned with it. -/
inductive Ends (env : Surroundings) (c : PlanningCoordinator) (ending : Ending) (before : List Goal)
    (w : State) : Prop
  | running (g : Goal) (hg : w.current = some g) (hf : w.finished = before)
      (h : g.Follows env c ending w.plan)
  | returned (g : Goal) (hg : w.current = none) (hf : w.finished = before ++ [g])
      (hlog : g.log = ending.log) (hr : g.result = some ending.result)

theorem Ends.step {env : Surroundings} {c : PlanningCoordinator} {ending : Ending}
    {before : List Goal} {w w' : State} {l : Label} (h : Ends env c ending before w)
    (hl : env.Conforms w l) (hs : step w l = some w') : Ends env c ending before w' := by
  cases l with
  | accept goal => exact hl.elim
  | cancel => exact hl.elim
  | deliver i answer call =>
    obtain ⟨p, hd, rfl⟩ := Option.map_eq_some_iff.1 hs
    cases h with
    | running g hg hf h => exact .running g hg hf (h.deliver hl hd)
    | returned g hg hf hlog hr => exact .returned g hg hf hlog hr
  | thread a =>
    obtain ⟨g, hg, hs⟩ := Option.bind_eq_some_iff.1 hs
    obtain ⟨⟨p, g'⟩, ha, rfl⟩ := Option.map_eq_some_iff.1 hs
    dsimp only
    cases h with
    | returned _ hnone => simp [hg] at hnone
    | running _ hg' hf h =>
      obtain rfl := Option.some.inj (hg.symm.trans hg')
      rcases h.act (hl g hg) ha with h | ⟨hlog, hr⟩
      · rw [State.advance, if_neg (by simp [h.running.2])]
        exact .running g' rfl hf h
      · rw [State.advance, if_pos (by simp [hr])]
        exact .returned g' rfl (by rw [hf]) hlog hr

/-- The execution of a goal refines the sequential program. Accepted with nothing outstanding and
not cancelled, whatever the interleaving of the thread with the responses: its log is always a
prefix of the program's, and when it returns its log and its result are the program's. -/
theorem execution_eq_sequential (c : PlanningCoordinator) (env : Surroundings)
    (goal : TrajectoryGoalDTO) (w₀ w₁ w : State) (h : Lts.Reaches step (init c) w₀)
    (hpend : w₀.plan.pending = []) (hs : step w₀ (.accept goal) = some w₁)
    (hrun : Lts.Runs step env.Conforms w₁ w) :
    (∃ g, w.current = some g ∧ w.finished = w₀.finished ∧ g.log <+: (env.execute c goal).log) ∨
      w.current = none ∧ ∃ g, w.finished = w₀.finished ++ [g] ∧
        g.log = (env.execute c goal).log ∧ g.result = some (env.execute c goal).result := by
  have hplan := reaches_plan h
  have hends : Ends env c (env.execute c goal) w₀.finished w := by
    refine hrun.invariant ?_ fun ht hl hs => ht.step hl hs
    simp only [step, Option.ite_none_right_eq_some, Option.some.injEq] at hs
    obtain ⟨hc, rfl⟩ := hs
    exact .running { goal } rfl rfl ⟨⟨rfl, rfl⟩,
      ⟨hplan, hpend, (Sound.of_reaches h).idle hc⟩, rfl⟩
  cases hends with
  | running g hg hf hfollows =>
    refine .inl ⟨g, hg, hf, ?_⟩
    rw [← hfollows.resume]
    exact Surroundings.Extends.resume env c g.goal w.plan g.pc g.standing
  | returned g hg hf hlog hr => exact .inr ⟨hg, g, hf, hlog, hr⟩

/-- Nothing fails. -/
def smooth : Surroundings where
  available := true
  sceneService := .available
  services := Planning.mixedServices
  announce _ := none
  send _ := (true, none)
  answer _ := .succeeded
  complete _ := none
  succeed := none

/-- Two groups: the second is planned while MoveIt executes the first. -/
theorem execution_eq_sequential_smooth :
    ∃ (w : State) (g : Goal), w.current = none ∧ w.finished = [g] ∧ g.log.length = 8 ∧
      g.log = (smooth.execute (onActivate (new "manipulator")) mixedGoal).log ∧
      g.result = some (smooth.execute (onActivate (new "manipulator")) mixedGoal).result := by
  have meets {a : Action} {w : State} {g : Goal} (hg : w.current = some g)
      (h : smooth.Meets g.log.length a) : smooth.Conforms w (.thread a) := by
    intro g' hg'
    obtain rfl := Option.some.inj (hg.symm.trans hg')
    exact h
  have hs : step (init (onActivate (new "manipulator"))) (.accept mixedGoal) = some _ := rfl
  have hrun : Lts.Trace step smooth.Conforms
      { plan := (init (onActivate (new "manipulator"))).plan, current := some { goal := mixedGoal } }
      (executeMixed.drop 1) _ :=
    .cons (meets rfl rfl) rfl <| .cons (meets rfl trivial) rfl <| .cons (meets rfl rfl) rfl <|
      .cons (meets rfl trivial) rfl <| .cons (meets rfl trivial) rfl <|
      .cons ⟨rfl, fun o ho => by cases ho; rfl⟩ rfl <|
      .cons ⟨rfl, fun o ho => by cases ho; rfl⟩ rfl <| .cons (meets rfl trivial) rfl <|
      .cons (meets rfl trivial) rfl <| .cons (meets rfl rfl) rfl <| .cons (meets rfl rfl) rfl <|
      .cons ⟨rfl, fun o ho => by cases ho; rfl⟩ rfl <| .cons (meets rfl rfl) rfl <|
      .cons (meets rfl rfl) rfl <| .cons (meets rfl trivial) rfl <| .cons (meets rfl trivial) rfl <|
      .cons (meets rfl trivial) rfl <| .cons (meets rfl rfl) rfl <| .cons (meets rfl rfl) rfl <|
      .cons (meets rfl rfl) rfl <| .cons (meets rfl rfl) rfl <| .cons (meets rfl trivial) rfl <|
      .cons (meets rfl trivial) rfl <| .cons (meets rfl rfl) rfl <| .nil _
  rcases execution_eq_sequential _ smooth mixedGoal _ _ _ .refl rfl hs hrun.runs with
    ⟨g, hg, -⟩ | ⟨hnone, g, hf, hlog, hr⟩
  · cases hg
  · exact ⟨_, g, hnone, hf, by rw [hlog]; rfl, hlog, hr⟩

end Execution
end MovementController
