import MovementController.Planning
import MovementController.Translation

/-!
# Look-ahead planning is sequential planning

The items a session yields are those of the plain recursion `planSequentially`: fetch the scene,
plan one group after the other, stop at the first failure. The services are given by `Services`;
the order in which responses and consumer steps interleave does not matter.
-/

namespace MovementController
open PlanningCoordinator
namespace Planning

/-! ### The reference -/

/-- How the services behave in one session: the scene response and, by the number of planner
requests made before it, how each request is sent and answered. -/
structure Services where
  scene : Future (Option RobotState)
  faults : Nat → PlanRequest → CallFaults
  pilz : Nat → PlanRequest → Future MotionSequenceResponse
  ompl : Nat → PlanRequest → Future MotionPlanResponse

namespace Services

/-- The answer to a request; `n` planner requests were made before it. -/
def answer (env : Services) (n : Nat) : Ask → Answer
  | .scene => .scene env.scene
  | .plan r _ => match r.planner with
    | .pilz => .pilz (env.pilz n r)
    | .ompl => .ompl (env.ompl n r)

def result (env : Services) (n : Nat) (r : PlanRequest) : PlanResultDTO :=
  match r.planner with
  | .pilz => (env.pilz n r).toResult (PilzPlannerService.result r.group.pathIds)
      PilzPlannerService.caught
  | .ompl => (env.ompl n r).toResult (OmplPlannerService.result (r.group.pathIds.headD ""))
      (OmplPlannerService.caught (r.group.pathIds.headD ""))

theorem toResult_answer (env : Services) (n : Nat) {r : PlanRequest} (hr : r.group ≠ [])
    (message : PlannerMessage) :
    r.toResult (env.answer n (.plan r message)) = some (env.result n r) := by
  rcases r with ⟨_ | _, _ | ⟨path, group⟩, startState⟩
  all_goals first | rfl | exact absurd rfl hr

end Services

/-- The joint state at the last point of the last trajectory, at rest. -/
def restingState (trajectories : List RobotTrajectory) : Option RobotState := do
  let trajectory ← trajectories.getLast?
  let point ← trajectory.jointTrajectory.points.getLast?
  pure { jointState := {
    name := trajectory.jointTrajectory.jointNames
    position := point.positions
    velocity := trajectory.jointTrajectory.jointNames.map fun _ => 0 } }

/-- The planner of a group: OMPL if it begins with a PTP path. -/
def plannerOf (g : Group) : Planner :=
  if g.head?.map (·.motionType) = some .PTP then .ompl else .pilz

/-- The text of the failure that an exception of the next `call_async` becomes on its way back through
the handler of the response to `r`. -/
def escaped (r : PlanRequest) (e : String) : String :=
  match r.planner with
  | .pilz => s!"exception while processing planning sequence response - {e}"
  | .ompl =>
    let pathId := r.group.pathIds.headD ""
    s!"exception while processing ompl planning response for path {pathId} - {e}"

section Reference
variable (c : PlanningCoordinator) (env : Services)

/-- The planner has its client, and neither building the request nor `call_async` raises. -/
def Sends (r : PlanRequest) (faults : CallFaults) : Prop :=
  (match r.planner with
    | .pilz => c.pilz.planSeqClient
    | .ompl => c.ompl.planClient) = true ∧ faults = {}

instance (r : PlanRequest) (faults : CallFaults) : Decidable (Sends c r faults) :=
  inferInstanceAs (Decidable (_ ∧ _))

/-- The trajectories of the answer to the request, if it goes out and is answered with `SUCCESS`. -/
def planned (n : Nat) (r : PlanRequest) : Option (List RobotTrajectory) :=
  if Sends c r (env.faults n r) then
    match r.planner, env.pilz n r, env.ompl n r with
    | .pilz, .value response, _ =>
      if response.errorCode = MoveItErrorCodes.SUCCESS then some response.plannedTrajectories
      else none
    | .ompl, _, .value response =>
      if response.errorCode = MoveItErrorCodes.SUCCESS then some [response.trajectory] else none
    | _, _, _ => none
  else none

/-- What is yielded for the trajectories; OMPL has planned the first path only. -/
def plan (r : PlanRequest) (trajectories : List RobotTrajectory) : PlanResultDTO where
  success := true
  motionPlan := some {
    errorCode := MoveItErrorCodes.SUCCESS
    plannedTrajectories := trajectories }
  pathIds := match r.planner with
    | .pilz => r.group.pathIds
    | .ompl => r.group.pathIds.take 1
  blended := match r.planner with
    | .pilz => decide (1 < r.group.length)
    | .ompl => false

/-- The text of the failure of a request that is refused or not answered with `SUCCESS`. -/
def failureText (caught : String → String) (n : Nat) (r : PlanRequest) : String :=
  match c.outcome (fun e => .failure (caught e)) r (env.faults n r) with
  | .error dto => dto.errorMessage
  | .ok _ => (env.result n r).errorMessage

/-- Plans the groups `gs` from `startState`, after `n` requests; `caught` gives the text of the failure
that an exception of the next `call_async` becomes. -/
def planFrom (caught : String → String) (n : Nat) (startState : RobotState) :
    List Group → List PlanResultDTO
  | [] => []
  | g :: gs =>
    let r : PlanRequest := ⟨plannerOf g, g, startState⟩
    match planned c env n r with
    | none => [.failure (failureText c env caught n r)]
    | some trajectories =>
      plan r trajectories ::
        match restingState trajectories with
        | none => [.failure "failed to extract end state from planned group - list index out of range"]
        | some endState => planFrom (escaped r) (n + 1) endState gs

/-- The reference recursion. -/
def planSequentially (groups : List Group) : List PlanResultDTO :=
  match env.scene with
  | .raised e => [.failure s!"exception while retrieving planning scene - {e}"]
  | .none | .value none =>
    [.failure "failed to retrieve planning scene or robot state; aborting planning"]
  | .value (some robotState) =>
    planFrom c env (fun e => s!"exception while retrieving planning scene - {e}") 0 robotState groups

/-- What is still to be yielded once a response came to the verdict `v`. -/
def Verdict.rest (v : Verdict) (caught : String → String) (n : Nat) (gs : List Group) :
    List PlanResultDTO :=
  v.results ++ match v.next with
    | none => []
    | some startState => planFrom c env caught n startState gs

end Reference

/-! ### The reference and the callbacks -/

/-- The text of the failure that an exception of the next `call_async` becomes. -/
def textOf : Ask → String → String
  | .scene, e => s!"exception while retrieving planning scene - {e}"
  | .plan r _, e => escaped r e

/-- The failures of a request are no more than their texts. -/
def Spoken (ask : Ask) : Prop := ask.caught = fun e => .failure (textOf ask e)

theorem spoken_scene : Spoken .scene := rfl

theorem spoken_plan {r : PlanRequest} (hr : r.group ≠ []) (message : PlannerMessage) :
    Spoken (.plan r message) := by
  obtain ⟨planner, group, startState⟩ := r
  obtain ⟨path, paths, rfl⟩ := List.exists_cons_of_ne_nil hr
  cases planner <;> rfl

theorem extractEndState_eq (response : MotionSequenceResponse) :
    BasePlannerService.extractEndState (some response) =
      match restingState response.plannedTrajectories with
      | none => .error "list index out of range"
      | some endState => .ok endState := by
  unfold BasePlannerService.extractEndState restingState
  cases hlast : response.plannedTrajectories.getLast? with
  | none => simp [hlast]
  | some trajectory =>
    cases hpoint : trajectory.jointTrajectory.points.getLast? with
    | none => simp [hlast, hpoint]
    | some point => simp [hlast, hpoint]

theorem plan_verdict (r : PlanRequest) (trajectories : List RobotTrajectory) :
    (plan r trajectories).verdict =
      match restingState trajectories with
      | none => ⟨[plan r trajectories,
          .failure "failed to extract end state from planned group - list index out of range"], none⟩
      | some endState => ⟨[plan r trajectories], some endState⟩ := by
  have hend := extractEndState_eq
    { errorCode := MoveItErrorCodes.SUCCESS, plannedTrajectories := trajectories }
  cases hrest : restingState trajectories with
  | none =>
    rw [hrest] at hend
    simp only [PlanResultDTO.verdict, plan, hend, Bool.not_true, Bool.false_eq_true, if_false]
    rfl
  | some endState =>
    rw [hrest] at hend
    simp only [PlanResultDTO.verdict, plan, hend, Bool.not_true, Bool.false_eq_true, if_false]

section Reference
variable (c : PlanningCoordinator) (env : Services)

/-- A request goes out exactly when it can be sent; otherwise a failure comes of it. -/
def SentOrFailed (caught : String → String) (r : PlanRequest) (faults : CallFaults) : Prop :=
  (Sends c r faults ∧ ∃ message, c.outcome (fun e => .failure (caught e)) r faults = .ok message) ∨
    (¬Sends c r faults ∧ ∃ e, c.outcome (fun e => .failure (caught e)) r faults = .error (.failure e))

theorem outcome_pilz (caught : String → String) (group : Group) (startState : RobotState)
    (faults : CallFaults) : SentOrFailed c caught ⟨.pilz, group, startState⟩ faults := by
  obtain ⟨building, calling⟩ := faults
  simp only [SentOrFailed, outcome, dispatch, planGroupAsync, PilzPlannerService.planGroupAsync,
    PilzPlannerService.generateMotionSequenceRequest_eq]
  cases hclient : c.pilz.planSeqClient with
  | false => exact .inr ⟨fun h => by simp [Sends, hclient] at h, _, rfl⟩
  | true =>
    cases building with
    | some e => exact .inr ⟨fun h => by simp [Sends] at h, _, rfl⟩
    | none =>
      cases calling with
      | some e => exact .inr ⟨fun h => by simp [Sends] at h, _, rfl⟩
      | none => exact .inl ⟨⟨hclient, rfl⟩, _, rfl⟩

theorem outcome_ompl (caught : String → String) (path : TrajectoryPathDTO) (paths : Group)
    (startState : RobotState) (faults : CallFaults) :
    SentOrFailed c caught ⟨.ompl, path :: paths, startState⟩ faults := by
  obtain ⟨building, calling⟩ := faults
  simp only [SentOrFailed, outcome, dispatch, planGroupAsync, OmplPlannerService.planGroupAsync]
  cases hclient : c.ompl.planClient with
  | false => exact .inr ⟨fun h => by simp [Sends, hclient] at h, _, rfl⟩
  | true =>
    cases building with
    | some e => exact .inr ⟨fun h => by simp [Sends] at h, _, rfl⟩
    | none =>
      cases calling with
      | some e => exact .inr ⟨fun h => by simp [Sends] at h, _, rfl⟩
      | none => exact .inl ⟨⟨hclient, rfl⟩, _, rfl⟩

theorem outcome_cases (caught : String → String) {r : PlanRequest} (hr : r.group ≠ [])
    (faults : CallFaults) : SentOrFailed c caught r faults := by
  obtain ⟨planner, group, startState⟩ := r
  obtain ⟨path, paths, rfl⟩ := List.exists_cons_of_ne_nil hr
  cases planner with
  | pilz => exact outcome_pilz c caught _ startState faults
  | ompl => exact outcome_ompl c caught path paths startState faults

/-- The result of a request that went out is the plan of its trajectories, or a failure. -/
theorem result_cases {n : Nat} {r : PlanRequest} (hr : r.group ≠ [])
    (hs : Sends c r (env.faults n r)) :
    (∃ trajectories, planned c env n r = some trajectories ∧
      env.result n r = plan r trajectories) ∨
    planned c env n r = none ∧ ∃ e, env.result n r = .failure e := by
  obtain ⟨planner, group, startState⟩ := r
  obtain ⟨path, paths, rfl⟩ := List.exists_cons_of_ne_nil hr
  unfold planned Services.result
  rw [if_pos hs]
  cases planner with
  | pilz =>
    dsimp only
    rcases env.pilz n _ with e | _ | response
    · exact .inr ⟨rfl, _, rfl⟩
    · exact .inr ⟨rfl, _, rfl⟩
    · by_cases hcode : response.errorCode = MoveItErrorCodes.SUCCESS
      · refine .inl ⟨response.plannedTrajectories, if_pos hcode, ?_⟩
        obtain ⟨code, trajectories⟩ := response
        obtain rfl : code = MoveItErrorCodes.SUCCESS := hcode
        simp [Future.toResult, PilzPlannerService.result, plan, Group.pathIds]
      · refine .inr ⟨if_neg hcode, ?_⟩
        simp only [Future.toResult, PilzPlannerService.result, ne_eq, hcode, not_false_eq_true,
          if_true]
        exact ⟨_, rfl⟩
  | ompl =>
    dsimp only
    rcases env.ompl n _ with e | _ | response
    · exact .inr ⟨rfl, _, rfl⟩
    · exact .inr ⟨rfl, _, rfl⟩
    · by_cases hcode : response.errorCode = MoveItErrorCodes.SUCCESS
      · refine .inl ⟨[response.trajectory], if_pos hcode, ?_⟩
        simp [Future.toResult, OmplPlannerService.result, OmplPlannerService.wrapTrajectory, plan,
          Group.pathIds, hcode]
      · refine .inr ⟨if_neg hcode, ?_⟩
        simp only [Future.toResult, OmplPlannerService.result, ne_eq, hcode, not_false_eq_true,
          if_true]
        exact ⟨_, rfl⟩

theorem planSequentially_eq (groups : List Group) :
    planSequentially c env groups =
      Verdict.rest c env (sceneVerdict env.scene) (textOf .scene) 0 groups := by
  unfold planSequentially sceneVerdict Verdict.rest
  rcases env.scene with e | _ | _ | robotState <;> rfl

theorem planFrom_cons (caught : String → String) (n : Nat) (startState : RobotState) {g : Group}
    (hg : g ≠ []) (gs : List Group) :
    planFrom c env caught n startState (g :: gs) =
      let r : PlanRequest := ⟨selectService g, g, startState⟩
      match c.outcome (fun e => .failure (caught e)) r (env.faults n r) with
      | .error dto => [dto]
      | .ok _ => Verdict.rest c env (env.result n r).verdict (escaped r) (n + 1) gs := by
  have hr : (⟨plannerOf g, g, startState⟩ : PlanRequest) = ⟨selectService g, g, startState⟩ := rfl
  rw [planFrom, hr]
  dsimp only
  set r : PlanRequest := ⟨selectService g, g, startState⟩ with hrdef
  rcases outcome_cases c caught (r := r) hg (env.faults n r) with ⟨hs, message, ho⟩ | ⟨hs, e, ho⟩
  · rw [ho]
    rcases result_cases c env hg hs with ⟨trajectories, hplanned, hres⟩ | ⟨hplanned, e, hres⟩
    · rw [hplanned, hres, plan_verdict]
      dsimp only
      cases restingState trajectories <;> rfl
    · have htext : failureText c env caught n r = e := by rw [failureText, ho, hres]; rfl
      rw [hplanned, hres, htext]
      rfl
  · have hplanned : planned c env n r = none := if_neg hs
    have htext : failureText c env caught n r = e := by rw [failureText, ho]; rfl
    rw [ho, hplanned, htext]

end Reference

/-! ### Runs against the services -/

/-- The steps of a session that is consumed to its end, its requests answered by `env`. -/
def Services.Serves (env : Services) (w : State) : Label → Prop
  | .deliver i answer call =>
    call = env.faults (w.requests w.sessionNo).length ∧
    ∀ o ∈ w.pending[i]?, answer = env.answer ((w.requests w.sessionNo).length - 1) o.ask
  | .iterate => w.ended = false
  | .poll | .get => True
  | .planAll _ | .requestScene _ | .cancel | .abandon => False

/-- The planner services of a coordinator, which no step changes. -/
def SameServices (c c' : PlanningCoordinator) : Prop := c'.pilz = c.pilz ∧ c'.ompl = c.ompl

theorem SameServices.outcome {c c' : PlanningCoordinator} (h : SameServices c c')
    (caught : String → PlanResultDTO) (r : PlanRequest) (faults : CallFaults) :
    c'.outcome caught r faults = c.outcome caught r faults := by
  simp only [PlanningCoordinator.outcome, dispatch, planGroupAsync, h.1, h.2]

/-- The three phases of a session: a request is outstanding, everything is planned, the sentinel was
taken. What was yielded, what is queued and what is still to come make up the reference. -/
inductive Phase (c : PlanningCoordinator) (env : Services) (groups : List Group) (w : State) : Prop
  | planning (ask : Ask) (v : Verdict) (ds : List PlanResultDTO) (gs : List Group)
      (hp : w.pending = [⟨w.sessionNo, ask⟩])
      (hv : ask.verdict (env.answer ((w.requests w.sessionNo).length - 1) ask) = some v)
      (hc : w.coord.Open (ds.map .result) gs)
      (href : planSequentially c env groups = w.results w.sessionNo ++ ds ++
        Verdict.rest c env v (textOf ask) (w.requests w.sessionNo).length gs)
      (hg : groups = (w.requests w.sessionNo).map (·.group) ++ gs) (he : w.ended = false)
      (hs : ∀ q, w.consumer ≠ .stale q) (hspoken : Spoken ask)
  | planned (ds : List PlanResultDTO) (gs : List Group) (hp : w.pending = [])
      (hc : w.coord.Open (ds.map .result ++ [.stopIteration]) gs)
      (href : planSequentially c env groups = w.results w.sessionNo ++ ds)
      (hg : (w.requests w.sessionNo).map (·.group) <+: groups) (he : w.ended = false)
      (hs : ∀ q, w.consumer ≠ .stale q)
  | ended (hp : w.pending = []) (hc : w.consumer = .idle)
      (href : planSequentially c env groups = w.results w.sessionNo)
      (hg : (w.requests w.sessionNo).map (·.group) <+: groups) (he : w.ended = true)

def Consumer.work : Consumer → Nat
  | .idle => 2
  | .polling => 1
  | .waiting | .stale _ => 0

/-- Bounds the steps a session still takes. -/
def State.work (w : State) : Nat :=
  10 * (w.pending.length * ((w.coord.session.map (·.groups.length)).getD 0 + 1)) +
    3 * (w.coord.planQueue.getD []).length + w.consumer.work

theorem work_eq {w : State} {q : List QueueItem} {gs : List Group} (h : w.coord.Open q gs) :
    w.work = 10 * (w.pending.length * (gs.length + 1)) + 3 * q.length + w.consumer.work := by
  obtain ⟨current, hs⟩ := h.session
  simp [State.work, hs, h.queue]

theorem verdict_results_length {ask : Ask} {answer : Answer} {v : Verdict}
    (h : ask.verdict answer = some v) :
    v.results.length ≤ 2 ∧ ∀ s, v.next = some s → v.results.length ≤ 1 := by
  cases Ask.judged h <;> simp

section Acted
variable {c : PlanningCoordinator} {env : Services} {groups : List Group} {w : State} {ask : Ask}
  {v : Verdict} {ds : List PlanResultDTO} {gs : List Group} {answer : Answer} {t : Turn}

/-- The response ends the planning: `ds'` and the sentinel are all that is still to be yielded. -/
theorem Phase.stop {q : List QueueItem} (hp : w.pending = [⟨w.sessionNo, ask⟩]) (he : w.ended = false)
    (hs : ∀ q, w.consumer ≠ .stale q) (hw : w.coord.Open q gs) (ds' : List PlanResultDTO)
    (gs' : List Group) (hc : t.coord.Open (ds'.map .result ++ [.stopIteration]) gs')
    (hi : t.issued = [])
    (href : planSequentially c env groups = w.results w.sessionNo ++ ds')
    (hg : ((w.requests w.sessionNo) ++ t.dispatched).map (·.group) <+: groups)
    (hlen : ds'.length ≤ q.length + 2) :
    Phase c env groups (w.settle 0 ⟨w.sessionNo, ask⟩ answer t) ∧
      (w.settle 0 ⟨w.sessionNo, ask⟩ answer t).work < w.work := by
  have hp' : (w.settle 0 ⟨w.sessionNo, ask⟩ answer t).pending = [] := by
    simp [State.settle, hp, hi]
  have hc' : (w.settle 0 ⟨w.sessionNo, ask⟩ answer t).coord.Open
      (ds'.map .result ++ [.stopIteration]) gs' := hc
  refine ⟨.planned ds' gs' hp' hc' href ?_ he hs, ?_⟩
  · show (State.requests _ w.sessionNo).map _ <+: _
    rwa [State.settle_requests]
  · rw [work_eq hc', work_eq hw, hp', hp]
    have hcons : (w.settle 0 ⟨w.sessionNo, ask⟩ answer t).consumer = w.consumer := rfl
    simp [hcons]
    omega

theorem Phase.acted (hne : ∀ g ∈ groups, g ≠ []) (hsvc : SameServices c w.coord)
    (hp : w.pending = [⟨w.sessionNo, ask⟩]) (hw : w.coord.Open (ds.map .result) gs)
    (href : planSequentially c env groups = w.results w.sessionNo ++ ds ++
      Verdict.rest c env v (textOf ask) (w.requests w.sessionNo).length gs)
    (hg : groups = (w.requests w.sessionNo).map (·.group) ++ gs) (he : w.ended = false)
    (hs : ∀ q, w.consumer ≠ .stale q) (hspoken : Spoken ask) (hv : ask.verdict answer = some v)
    (ht : v.Outcome ask.caught (env.faults (w.requests w.sessionNo).length) w.coord
      (ds.map .result) gs t) :
    Phase c env groups (w.settle 0 ⟨w.sessionNo, ask⟩ answer t) ∧
      (w.settle 0 ⟨w.sessionNo, ask⟩ answer t).work < w.work := by
  obtain ⟨current, hsess⟩ := hw.session
  have hlen := verdict_results_length hv
  cases ht with
  | stopped hn =>
    refine Phase.stop hp he hs hw (ds ++ v.results) gs ⟨hw.event, by simp, current, hsess⟩ rfl ?_ ?_ ?_
    · simp [href, Verdict.rest, hn]
    · exact ⟨gs, by simp [hg]⟩
    · simpa using hlen.1
  | finished startState s hn hgs =>
    obtain rfl : gs = [] := by
      cases gs with
      | nil => rfl
      | cons g gs => exact absurd hgs (hne g (by simp [hg]))
    refine Phase.stop hp he hs hw (ds ++ v.results) s.groups ⟨hw.event, by simp, s.currentGroup, rfl⟩
      rfl ?_ ?_ ?_
    · simp [href, Verdict.rest, hn, planFrom]
    · exact ⟨[], by simp [hg]⟩
    · simpa using hlen.1
  | failed r rest dto hn hgs hr hsel ho =>
    subst hgs
    have hr' : r = ⟨selectService r.group, r.group, r.startState⟩ := by rw [← hsel]
    refine Phase.stop hp he hs hw (ds ++ v.results ++ [dto]) rest ⟨hw.event, by simp, r.group, rfl⟩
      rfl ?_ ?_ ?_
    · rw [hsvc.outcome, hspoken] at ho
      simp [href, Verdict.rest, hn, planFrom_cons c env _ _ _ hr, ← hr', ho]
    · exact ⟨rest, by simp [hg]⟩
    · have := hlen.2 _ hn
      simp
      omega
  | issued r rest message hn hgs hr hsel ho =>
    subst hgs
    have hr' : r = ⟨selectService r.group, r.group, r.startState⟩ := by rw [← hsel]
    rw [hsvc.outcome, hspoken] at ho
    set t : Turn := ⟨{ w.coord with
      planQueue := some (ds.map .result ++ v.results.map .result), session := some ⟨rest, r.group⟩ },
      [r], [(r, message)]⟩ with ht
    set w' := w.settle 0 ⟨w.sessionNo, ask⟩ answer t with hw'
    have hreq : w'.requests w.sessionNo = w.requests w.sessionNo ++ [r] := State.settle_requests
    have hp' : w'.pending = [⟨w.sessionNo, .plan r message⟩] := by simp [hw', State.settle, hp, ht]
    have hc' : w'.coord.Open ((ds ++ v.results).map .result) rest :=
      ⟨hw.event, by simp [hw', State.settle, ht], r.group, rfl⟩
    constructor
    · refine .planning (.plan r message) (env.result (w.requests w.sessionNo).length r).verdict
        (ds ++ v.results) rest hp' ?_ hc' ?_ ?_ he hs (spoken_plan hr message)
      · show Ask.verdict _ (env.answer ((w'.requests w.sessionNo).length - 1) _) = _
        simp [hreq, Ask.verdict, env.toResult_answer _ hr]
      · show _ = w.results w.sessionNo ++ (ds ++ v.results) ++
          Verdict.rest c env (env.result _ r).verdict (escaped r) (w'.requests w.sessionNo).length rest
        rw [href, hreq]
        conv_lhs => rw [Verdict.rest, hn]
        simp [planFrom_cons c env _ _ _ hr, ← hr', ho]
      · show _ = (w'.requests w.sessionNo).map _ ++ _
        simp [hreq, hg]
    · have hres := hlen.2 _ hn
      have hcons : w'.consumer = w.consumer := rfl
      rw [work_eq hc', work_eq hw, hp', hp, hcons]
      simp
      omega

end Acted

namespace Phase

variable {c : PlanningCoordinator} {env : Services} {groups : List Group} {w w' : State} {l : Label}

theorem withConsumer (h : Phase c env groups w) (he : w.ended = false) (consumer : Consumer)
    (hc : ∀ q, consumer ≠ .stale q) : Phase c env groups { w with consumer := consumer } := by
  cases h with
  | planning ask v ds gs hp hv hw href hg he hs hspoken =>
    exact .planning ask v ds gs hp hv hw href hg he hc hspoken
  | planned ds gs hp hw href hg he hs => exact .planned ds gs hp hw href hg he hc
  | ended hp hc href hg he' => simp [he'] at he

theorem ended_of_closed (h : Phase c env groups w) (hq : ∀ q gs, ¬ w.coord.Open q gs) :
    w.consumer = .idle ∧ w.pending = [] := by
  cases h with
  | planning ask v ds gs hp hv hw => exact absurd hw (hq _ _)
  | planned ds gs hp hw => exact absurd hw (hq _ _)
  | ended hp hc => exact ⟨hc, hp⟩

theorem got (h : Phase c env groups w) {dto : PlanResultDTO} {q : List QueueItem}
    (hc : w.consumer = .waiting) (hq : w.coord.planQueue = some (.result dto :: q))
    (hw' : w' = { w with
      coord := { w.coord with planQueue := some q }
      consumer := .polling
      yielded := w.yielded ++ [(w.sessionNo, dto)] }) :
    Phase c env groups w' ∧ w'.work < w.work := by
  have hres : w'.results w'.sessionNo = w.results w.sessionNo ++ [dto] := by
    subst hw'; simp [State.results]
  have hreq : w'.requests w'.sessionNo = w.requests w.sessionNo := by subst hw'; rfl
  have hwork : w'.work < w.work := by
    subst hw'
    simp only [State.work, hq, hc, Consumer.work, Option.getD_some, List.length_cons]
    omega
  refine ⟨?_, hwork⟩
  cases h with
  | planning ask v ds gs hp hv hw href hg he hs hspoken =>
    have hqueue := hw.queue.symm.trans hq
    rw [← List.append_nil (ds.map _)] at hqueue
    obtain ⟨ds', rfl, rfl⟩ := map_result_append_eq_cons hqueue (by simp)
    subst hw'
    refine .planning ask v ds' gs hp hv ⟨hw.event, by simp, hw.session⟩ ?_ hg he (by simp) hspoken
    rw [hres, href]
    simp [State.requests]
  | planned ds gs hp hw href hg he hs =>
    obtain ⟨ds', rfl, rfl⟩ := map_result_append_eq_cons (hw.queue.symm.trans hq) (by simp)
    subst hw'
    refine .planned ds' gs hp ⟨hw.event, rfl, hw.session⟩ ?_ hg he (by simp)
    rw [hres, href]
    simp
  | ended hp hc' => simp [hc] at hc'

theorem gotSentinel (h : Phase c env groups w) {q : List QueueItem} (hc : w.consumer = .waiting)
    (hq : w.coord.planQueue = some (.stopIteration :: q))
    (hw' : w' = { w.close .idle with ended := true }) :
    Phase c env groups w' ∧ w'.work < w.work := by
  subst hw'
  cases h with
  | planning ask v ds gs hp hv hw =>
    have hds := hw.queue.symm.trans hq
    cases ds <;> simp at hds
  | planned ds gs hp hw href hg he hs =>
    obtain rfl : ds = [] := by
      have hds := hw.queue.symm.trans hq
      cases ds with
      | nil => rfl
      | cons dto ds => simp at hds
    refine ⟨.ended hp rfl (href.trans (List.append_nil _)) hg rfl, ?_⟩
    rw [work_eq hw, hp, hc]
    simp [State.work, State.close, clearSession, hp, Consumer.work]
  | ended hp hc' => simp [hc] at hc'

theorem not_stale (h : Phase c env groups w) (q : List QueueItem) : w.consumer ≠ .stale q := by
  cases h with
  | planning ask v ds gs hp hv hw href hg he hs => exact hs q
  | planned ds gs hp hw href hg he hs => exact hs q
  | ended hp hc => simp [hc]

theorem step (hne : ∀ g ∈ groups, g ≠ []) (hcoh : Coherent w.coord) (hsvc : SameServices c w.coord)
    (h : Phase c env groups w) (hl : env.Serves w l) (hs : step w l = some w') :
    Phase c env groups w' ∧ w'.work < w.work := by
  cases step_cases hcoh hs with
  | planAll | sceneRequested | sceneRaised | sceneUnavailable | cancel | abandon => exact hl.elim
  | iterate hc =>
    exact ⟨h.withConsumer hl _ nofun, by simp [State.work, hc, Consumer.work]⟩
  | polled hc hq =>
    refine ⟨h.withConsumer ?_ _ nofun, by simp [State.work, hc, Consumer.work]⟩
    cases h with
    | planning ask v ds gs hp hv hw href hg he => exact he
    | planned ds gs hp hw href hg he => exact he
    | ended hp hc' => simp [hc] at hc'
  | pollFailed hc hq =>
    have hidle := (h.ended_of_closed fun q gs hw => by simp [hw.queue] at hq).1
    simp [hc] at hidle
  | gotResult dto q hc hq => exact h.got hc hq rfl
  | gotSentinel q hc hq => exact h.gotSentinel hc hq rfl
  | gotStaleResult dto q hc => exact absurd hc (h.not_stale _)
  | gotStaleSentinel q hc => exact absurd hc (h.not_stale _)
  | ignored i answer call o ho hc =>
    have hnil := (h.ended_of_closed fun q gs hw => by
      rcases hc with hc | hc
      · exact hc.not_open hw
      · simp [hw.event] at hc).2
    simp [hnil] at ho
  | acted i answer call o ho q gs hc v hv t ht =>
    cases h with
    | planning ask v' ds gs' hp hv' hw href hg he hstale hspoken =>
      obtain ⟨rfl, rfl⟩ := eq_of_pending_singleton hp ho
      obtain ⟨rfl, hanswer⟩ := hl
      obtain rfl := hanswer _ ho
      obtain rfl : v = v' := Option.some.inj (hv.symm.trans hv')
      obtain ⟨rfl, rfl⟩ := hw.unique hc
      exact Phase.acted hne hsvc hp hw href hg he hstale hspoken hv ht
    | planned ds gs hp => simp [hp] at ho
    | ended hp => simp [hp] at ho

/-- Until the sentinel was taken, the session can go on. -/
theorem progress (h : Phase c env groups w) (he : w.ended = false) :
    ∃ l w', env.Serves w l ∧ Planning.step w l = some w' := by
  have hq : ∃ q gs, w.coord.Open q gs := by
    cases h with
    | planning ask v ds gs hp hv hw => exact ⟨_, _, hw⟩
    | planned ds gs hp hw => exact ⟨_, _, hw⟩
    | ended hp hc href hg he' => simp [he'] at he
  obtain ⟨q, gs, hw⟩ := hq
  have enabled {l : Label} (hl : env.Serves w l) (hs : (Planning.step w l).isSome = true) :
      ∃ w', env.Serves w l ∧ Planning.step w l = some w' :=
    (Option.isSome_iff_exists.1 hs).imp fun _ hs => ⟨hl, hs⟩
  rcases hc : w.consumer with _ | _ | _ | q'
  · exact ⟨.iterate, enabled he (by simp [Planning.step, hc])⟩
  · exact ⟨.poll, enabled trivial (by simp [Planning.step, hc, hw.queue])⟩
  · rcases q with _ | ⟨item | _, q⟩
    · -- the queue is empty: the response that fills it is outstanding
      cases h with
      | planning ask v ds gs' hp hv hw' =>
        have hserve : env.Serves w (.deliver 0 (env.answer ((w.requests w.sessionNo).length - 1) ask)
            (env.faults (w.requests w.sessionNo).length)) :=
          ⟨rfl, by simp [hp]⟩
        exact ⟨_, enabled hserve (by simp [Planning.step, hp, hw'.respond, hv])⟩
      | planned ds gs' hp hw' => simpa using hw.queue.symm.trans hw'.queue
      | ended hp hc' => simp [hc] at hc'
    · exact ⟨.get, enabled trivial (by simp [Planning.step, State.get, hc, hw.queue])⟩
    · exact ⟨.get, enabled trivial (by simp [Planning.step, State.get, hc, hw.queue])⟩
  · exact absurd hc (h.not_stale q')

theorem results_prefix (h : Phase c env groups w) :
    w.results w.sessionNo <+: planSequentially c env groups := by
  cases h with
  | planning ask v ds gs hp hv hw href => exact ⟨_, by rw [href, List.append_assoc]⟩
  | planned ds gs hp hw href => exact ⟨_, href.symm⟩
  | ended hp hc href => exact ⟨[], by rw [href, List.append_nil]⟩

theorem results_eq (h : Phase c env groups w) (he : w.ended = true) :
    w.results w.sessionNo = planSequentially c env groups := by
  cases h with
  | planning ask v ds gs hp hv hw href hg he' => simp [he'] at he
  | planned ds gs hp hw href hg he' => simp [he'] at he
  | ended hp hc href => exact href.symm

theorem requests_prefix (h : Phase c env groups w) :
    (w.requests w.sessionNo).map (·.group) <+: groups := by
  cases h with
  | planning ask v ds gs hp hv hw href hg => exact ⟨gs, hg.symm⟩
  | planned ds gs hp hw href hg => exact hg
  | ended hp hc href hg => exact hg

theorem start {c : PlanningCoordinator} (env : Services) (hl : Ledger w) (hpend : w.pending = [])
    (hidle : w.consumer = .idle) (groups : List Group) :
    Phase c env groups (w.setup groups).sceneRequested := by
  have hreq : (w.setup groups).sceneRequested.requests (w.sessionNo + 1) = [] :=
    hl.requests_eq_nil (Nat.lt_succ_self _)
  have hres : (w.setup groups).sceneRequested.results (w.sessionNo + 1) = [] :=
    hl.results_eq_nil (Nat.lt_succ_self _)
  have hp : (w.setup groups).sceneRequested.pending = [⟨w.sessionNo + 1, .scene⟩] := by
    simp [State.sceneRequested, State.setup, hpend]
  refine .planning .scene (sceneVerdict env.scene) [] groups hp rfl ⟨rfl, rfl, [], rfl⟩ ?_ ?_ rfl ?_
    spoken_scene
  · show _ = State.results _ (w.sessionNo + 1) ++ [] ++
      Verdict.rest _ _ _ _ (State.requests _ (w.sessionNo + 1)).length _
    rw [hres, hreq, planSequentially_eq]
    rfl
  · show _ = (State.requests _ (w.sessionNo + 1)).map _ ++ _
    rw [hreq]
    rfl
  · simp [State.sceneRequested, State.setup, hidle, Consumer.detach]

end Phase

theorem Step.sameServices {c : PlanningCoordinator} {w w' : State} {l : Label} (h : Step w l w')
    (hsvc : SameServices c w.coord) : SameServices c w'.coord := by
  cases h with
  | acted i answer call o ho q gs hc v hv t ht => cases ht <;> exact hsvc
  | _ => exact hsvc

structure Serving (c : PlanningCoordinator) (env : Services) (groups : List Group) (w : State) :
    Prop where
  coherent : Coherent w.coord
  services : SameServices c w.coord
  phase : Phase c env groups w

namespace Serving

variable {c : PlanningCoordinator} {env : Services} {groups : List Group} {w w₀ w₁ w₂ : State}

theorem step (hne : ∀ g ∈ groups, g ≠ []) {w' : State} {l : Label} (h : Serving c env groups w)
    (hl : env.Serves w l) (hs : step w l = some w') :
    Serving c env groups w' ∧ w'.work < w.work := by
  have hstep := step_cases h.coherent hs
  obtain ⟨hphase, hwork⟩ := h.phase.step hne h.coherent h.services hl hs
  exact ⟨⟨hstep.coherent h.coherent, hstep.sameServices h.services, hphase⟩, hwork⟩

theorem start (env : Services) (hreach : Lts.Reaches Planning.step (init c) w₀)
    (hpend : w₀.pending = []) (hidle : w₀.consumer = .idle)
    (hplan : Planning.step w₀ (.planAll groups) = some w₁) {service : SceneService}
    (hscene : Planning.step w₁ (.requestScene service) = some w₂) (hstarted : w₂.started = true) :
    Serving c env groups w₂ ∧ w₂.work = 10 * (groups.length + 1) + 2 := by
  obtain ⟨hcoh, hledger⟩ := Ledger.of_reaches hreach
  have hsvc : SameServices c w₀.coord :=
    (hreach.invariant (I := fun w => Coherent w.coord ∧ SameServices c w.coord)
      ⟨.inl (Coherent.closed_clearSession c), rfl, rfl⟩ fun hw _ hs =>
        ⟨step_coherent hw.1 hs, (step_cases hw.1 hs).sameServices hw.2⟩).2
  have hcoh₁ := step_coherent hcoh hplan
  obtain rfl : w₁ = w₀.setup groups := by cases step_cases hcoh hplan; rfl
  obtain rfl : w₂ = (w₀.setup groups).sceneRequested := by
    cases step_cases hcoh₁ hscene with
    | sceneRequested => rfl
    | sceneRaised => cases hstarted
    | sceneUnavailable => cases hstarted
  refine ⟨⟨hcoh₁, hsvc, .start env hledger hpend hidle groups⟩, ?_⟩
  simp [State.work, State.sceneRequested, State.setup, planAllSetup, hpend, hidle, Consumer.detach,
    Consumer.work]

end Serving

/-- From any reachable state with nothing outstanding, a session whose `plan_all` returned `True`
yields what the reference recursion yields, whatever the services answer and however the steps
interleave: always a prefix of it, all of it once the sentinel was taken, and that point is reached,
since until then there is a step to take and the number of steps is bounded. The groups are
dispatched in order, each at most once. -/
theorem lookahead_eq_sequential (c : PlanningCoordinator) (env : Services) (groups : List Group)
    (hne : ∀ g ∈ groups, g ≠ []) (w₀ w₁ w₂ w : State) (ls : List Label) (service : SceneService)
    (hreach : Lts.Reaches step (init c) w₀) (hpend : w₀.pending = []) (hidle : w₀.consumer = .idle)
    (hplan : step w₀ (.planAll groups) = some w₁) (hscene : step w₁ (.requestScene service) = some w₂)
    (hstarted : w₂.started = true) (hrun : Lts.Trace step env.Serves w₂ ls w) :
    w.results w.sessionNo <+: planSequentially c env groups ∧
    (w.ended = true → w.results w.sessionNo = planSequentially c env groups) ∧
    (w.ended = false → ∃ l w', env.Serves w l ∧ step w l = some w') ∧
    ls.length ≤ 10 * (groups.length + 1) + 2 ∧
    (w.requests w.sessionNo).map (·.group) <+: groups := by
  obtain ⟨hstart, hwork⟩ := Serving.start env hreach hpend hidle hplan hscene hstarted
  have hw : Serving c env groups w :=
    hrun.runs.invariant hstart fun hw hl hs => (hw.step hne hl hs).1
  have hlen : ls.length + w.work ≤ w₂.work :=
    hrun.length_le hstart fun hw hl hs => hw.step hne hl hs
  exact ⟨hw.phase.results_prefix, hw.phase.results_eq, hw.phase.progress, by omega,
    hw.phase.requests_prefix⟩

/-! ### A session with both planners -/

def mixedGroups : List Group := [[firstPath], [turnPath], [secondPath]]

/-- PILZ plans the first group, OMPL the second, and PILZ gives up on the third. -/
def mixedServices : Services where
  scene := .value (some {})
  faults _ _ := {}
  pilz n _ := .value (if n = 0 then onePoint else { errorCode := MoveItErrorCodes.PLANNING_FAILED })
  ompl _ _ := .value turned

/-- Two groups are planned before the consumer begins, and the third while it holds the first. -/
def mixedRun : List Label :=
  let response (n : Nat) (ask : Ask) : Label :=
    .deliver 0 (mixedServices.answer n ask) (mixedServices.faults n)
  let request (g : Group) (startState : RobotState) : Ask :=
    .plan ⟨plannerOf g, g, startState⟩ (.sequence {})
  [response 0 .scene, response 0 (request [firstPath] {}), response 1 (request [turnPath] {}),
    .iterate, .poll, .get, response 2 (request [secondPath] {}), .poll, .get, .poll, .get, .poll, .get]

theorem lookahead_eq_sequential_mixed :
    ∃ w : State, w.ended = true ∧ w.results w.sessionNo =
        planSequentially (onActivate (new "manipulator")) mixedServices mixedGroups ∧
      (w.results w.sessionNo).map (·.success) = [true, true, false] := by
  have hplan : step (init (onActivate (new "manipulator"))) (.planAll mixedGroups) = some _ := rfl
  have hscene : step _ (.requestScene .available) = some _ :=
    (rfl : step ((init (onActivate (new "manipulator"))).setup mixedGroups) _ = some _)
  have hrun : Lts.Trace step mixedServices.Serves
      ((init (onActivate (new "manipulator"))).setup mixedGroups).sceneRequested mixedRun _ :=
    .cons ⟨rfl, fun o ho => by cases ho; rfl⟩ rfl <| .cons ⟨rfl, fun o ho => by cases ho; rfl⟩ rfl <|
      .cons ⟨rfl, fun o ho => by cases ho; rfl⟩ rfl <| .cons rfl rfl <| .cons trivial rfl <|
      .cons trivial rfl <| .cons ⟨rfl, fun o ho => by cases ho; rfl⟩ rfl <| .cons trivial rfl <|
      .cons trivial rfl <| .cons trivial rfl <| .cons trivial rfl <| .cons trivial rfl <|
      .cons trivial rfl <| .nil _
  exact ⟨_, rfl, (lookahead_eq_sequential _ _ _ (by decide) _ _ _ _ _ _ .refl rfl rfl hplan hscene rfl
    hrun).2.1 rfl, rfl⟩

end Planning
end MovementController
