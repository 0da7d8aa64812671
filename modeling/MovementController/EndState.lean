import MovementController.Truth

/-!
# Plans without an end state

`_on_group_planned` puts a successful result on the queue before `_extract_end_state` has read it, and
the failure of the latter comes behind it. So what keeps such a plan from being executed is only that
no planner returns one.
-/

namespace MovementController
open BasePlannerService (extractEndState)

/-! ### Responses -/

/-- The last trajectory of the plan has a point. -/
def MotionSequenceResponse.hasEndState (response : MotionSequenceResponse) : Bool :=
  response.plannedTrajectories.getLast?.any fun t => !t.jointTrajectory.points.isEmpty

/-- A response with the code `SUCCESS` has an end state. -/
def Answer.hasEndState : Answer → Bool
  | .pilz (.value response) =>
    response.errorCode != MoveItErrorCodes.SUCCESS || response.hasEndState
  | .ompl (.value response) =>
    response.errorCode != MoveItErrorCodes.SUCCESS ||
      (OmplPlannerService.wrapTrajectory response).hasEndState
  | _ => true

/-- `_extract_end_state` succeeds on the plan. -/
def PlanResultDTO.Readable (dto : PlanResultDTO) : Prop :=
  ∃ endState, extractEndState dto.motionPlan = .ok endState

theorem extractEndState_ok_iff {response : MotionSequenceResponse} :
    (∃ endState, extractEndState (some response) = .ok endState) ↔ response.hasEndState = true := by
  unfold extractEndState MotionSequenceResponse.hasEndState
  cases hlast : response.plannedTrajectories.getLast? with
  | none => simp [hlast]
  | some trajectory =>
    cases hpoints : trajectory.jointTrajectory.points.getLast? with
    | none =>
      have hnil := List.getLast?_eq_none_iff.1 hpoints
      simp [hlast, hnil]
    | some point =>
      have hne : trajectory.jointTrajectory.points ≠ [] := by
        intro hnil
        simp [hnil] at hpoints
      simp [hlast, hpoints, hne]

/-- The result of a future that did not bring a response is no success. -/
theorem Future.toResult_readable {α : Type} {result : Option α → PlanResultDTO}
    {caught : String → PlanResultDTO} (future : Future α) (answer : Future α → Answer)
    (hcaught : ∀ e, (caught e).success = false ∧ (answer (.raised e)).hasEndState = true)
    (hnone : (result Option.none).success = false ∧ (answer .none).hasEndState = true)
    (hvalue : ∀ a, (answer (.value a)).hasEndState = true ↔
      ((result (some a)).success = true → (result (some a)).Readable)) :
    (answer future).hasEndState = true ↔
      ((future.toResult result caught).success = true → (future.toResult result caught).Readable) := by
  cases future with
  | raised e => simp [toResult, hcaught e]
  | none => simp [toResult, hnone]
  | value a => exact hvalue a

theorem PilzPlannerService.result_readable (pathIds : List String) (response : MotionSequenceResponse) :
    (Answer.pilz (.value response)).hasEndState = true ↔
      ((result pathIds (some response)).success = true → (result pathIds (some response)).Readable) := by
  unfold Answer.hasEndState result
  by_cases hcode : response.errorCode = MoveItErrorCodes.SUCCESS
  · simp [hcode, PlanResultDTO.Readable, extractEndState_ok_iff]
  · simp [hcode]

theorem OmplPlannerService.result_readable (pathId : String) (response : MotionPlanResponse) :
    (Answer.ompl (.value response)).hasEndState = true ↔
      ((result pathId (some response)).success = true → (result pathId (some response)).Readable) := by
  unfold Answer.hasEndState result
  by_cases hcode : response.errorCode = MoveItErrorCodes.SUCCESS
  · simp [hcode, PlanResultDTO.Readable, extractEndState_ok_iff]
  · simp [hcode]

/-- A response has an end state exactly when its result can be read, if it is a success. -/
theorem PlanRequest.toResult_readable {r : PlanRequest} {answer : Answer} {dto : PlanResultDTO}
    (h : r.toResult answer = some dto) :
    answer.hasEndState = true ↔ (dto.success = true → dto.Readable) := by
  obtain ⟨future, -, rfl, rfl⟩ | ⟨path, paths, future, -, -, rfl, rfl⟩ := toResult_some h
  · exact future.toResult_readable .pilz (fun _ => ⟨rfl, rfl⟩) ⟨rfl, rfl⟩
      (PilzPlannerService.result_readable _)
  · exact future.toResult_readable .ompl (fun _ => ⟨rfl, rfl⟩) ⟨rfl, rfl⟩
      (OmplPlannerService.result_readable _)

/-- An answer without an end state comes to its result and, behind it, a failure. -/
theorem Ask.verdict_of_no_endState {ask : Ask} {answer : Answer} {v : Verdict}
    (h : ask.verdict answer = some v) (ha : answer.hasEndState = false) :
    ∃ dto failure, v = ⟨[dto, failure], none⟩ ∧ dto.success = true ∧ ¬ dto.Readable ∧
      failure.success = false := by
  cases ask with
  | scene =>
    cases answer with
    | scene future => cases ha
    | pilz future => cases h
    | ompl future => cases h
  | plan r message =>
    obtain ⟨dto, hr, rfl⟩ := Option.map_eq_some_iff.1 h
    have hread := PlanRequest.toResult_readable hr
    rw [ha] at hread
    simp only [Bool.false_eq_true, false_iff, Classical.not_imp] at hread
    obtain ⟨hsuccess, hunread⟩ := hread
    cases he : extractEndState dto.motionPlan with
    | ok endState => exact absurd ⟨endState, he⟩ hunread
    | error e => exact ⟨dto, _, by simp [PlanResultDTO.verdict, hsuccess, he]; rfl, hsuccess, hunread, rfl⟩

/-! ### What is queued and yielded -/

namespace Planning

/-- A response that is handled in an open session has an end state. -/
def EndStates (p : State) : Label → Prop
  | .deliver _ answer _ => p.coord.cancelEvent = some false → answer.hasEndState = true
  | _ => True

instance : ∀ p l, Decidable (EndStates p l)
  | p, .deliver _ answer _ =>
    inferInstanceAs (Decidable (p.coord.cancelEvent = some false → answer.hasEndState = true))
  | _, .planAll _ | _, .requestScene _ | _, .cancel | _, .iterate | _, .poll | _, .get | _, .abandon =>
    isTrue trivial

def Legible (q : List QueueItem) : Prop :=
  ∀ dto, .result dto ∈ q → dto.success = true → dto.Readable

theorem Legible.tail {item : QueueItem} {q : List QueueItem} (h : Legible (item :: q)) : Legible q :=
  fun dto hdto => h dto (List.mem_cons_of_mem item hdto)

/-- Every successful result that is on its way to the consumer, or was taken by it, can be read. -/
structure State.Legible (p : State) : Prop where
  queue : Planning.Legible (p.coord.planQueue.getD [])
  stale : ∀ q, p.consumer = .stale q → Planning.Legible q
  yielded : ∀ y ∈ p.yielded, y.2.success = true → y.2.Readable

namespace State.Legible

variable {p p' : State} {l : Label}

theorem init (c : PlanningCoordinator) : (init c).Legible where
  queue := nofun
  stale := nofun
  yielded := nofun

theorem detach (h : p.Legible) (q : List QueueItem)
    (hq : p.consumer.detach p.coord.planQueue = .stale q) : Planning.Legible q := by
  cases hc : p.consumer with
  | waiting =>
    obtain rfl : p.coord.planQueue.getD [] = q := by simpa [hc, Consumer.detach] using hq
    exact h.queue
  | stale q' =>
    obtain rfl : q' = q := by simpa [hc, Consumer.detach] using hq
    exact h.stale q' hc
  | idle | polling => simp [hc, Consumer.detach] at hq

theorem append (h : p.Legible) {dto : PlanResultDTO} (hdto : dto.success = true → dto.Readable) :
    ∀ y ∈ p.yielded ++ [(p.sessionNo, dto)], y.2.success = true → y.2.Readable := by
  intro y hy
  rcases List.mem_append.1 hy with hy | hy
  · exact h.yielded y hy
  · rw [List.mem_singleton.1 hy]
    exact hdto

theorem settle (h : p.Legible) (i : Nat) (o : Outstanding) (answer : Answer) {t : Turn}
    (ht : Planning.Legible (t.coord.planQueue.getD [])) : (p.settle i o answer t).Legible :=
  ⟨ht, h.stale, h.yielded⟩

/-- The turn of a verdict queues nothing but its results and failures. -/
theorem acted (h : p.Legible) {o : Outstanding} {answer : Answer} (ha : answer.hasEndState = true)
    {call : PlanRequest → CallFaults} {q : List QueueItem} {gs : List Group} (hc : p.coord.Open q gs)
    {v : Verdict} (hv : o.ask.verdict answer = some v) {t : Turn}
    (ht : v.Outcome o.ask.caught call p.coord q gs t) :
    Planning.Legible (t.coord.planQueue.getD []) := by
  intro dto hdto hsuccess
  rcases ht.queued (fun e => by simp) hdto hsuccess with hq | hres
  · have hqueue := h.queue
    rw [hc.queue] at hqueue
    exact hqueue dto hq hsuccess
  · obtain ⟨r, message, -, hr⟩ := Ask.verdict_results hv hres hsuccess
    exact (PlanRequest.toResult_readable hr).1 ha hsuccess

theorem step (h : p.Legible) (hl : EndStates p l) (hs : Step p l p') : p'.Legible := by
  cases hs with
  | planAll groups => exact ⟨nofun, h.detach, h.yielded⟩
  | sceneRequested => exact ⟨h.queue, h.stale, h.yielded⟩
  | sceneRaised => exact ⟨h.queue, h.stale, h.yielded⟩
  | sceneUnavailable => exact ⟨nofun, h.detach, h.yielded⟩
  | cancel =>
    refine ⟨fun dto hdto hsuccess => ?_, h.stale, h.yielded⟩
    cases hq : p.coord.planQueue with
    | none => simp [hq] at hdto
    | some q =>
      obtain rfl : dto = PlanningCoordinator.cancelFailure := by simpa [hq] using hdto
      cases hsuccess
  | iterate | polled | abandon => exact ⟨h.queue, nofun, h.yielded⟩
  | pollFailed => exact ⟨h.queue, nofun, h.append nofun⟩
  | gotResult dto q hc hq =>
    have hqueue := h.queue
    rw [hq] at hqueue
    exact ⟨hqueue.tail, nofun, h.append (hqueue dto List.mem_cons_self)⟩
  | gotSentinel q hc hq => exact ⟨nofun, nofun, h.yielded⟩
  | gotStaleResult dto q hc =>
    exact ⟨h.queue, nofun, h.append (h.stale _ hc dto List.mem_cons_self)⟩
  | gotStaleSentinel q hc => exact ⟨nofun, nofun, h.yielded⟩
  | ignored i answer call o ho hc => exact h.settle i o answer h.queue
  | acted i answer call o ho q gs hc v hv t ht =>
    exact h.settle i o answer (h.acted (hl hc.event) hc hv ht)

end State.Legible

theorem Step.yielded_subset {w w' : State} {l : Label} (h : Step w l w') :
    w.yielded ⊆ w'.yielded := by
  cases h with
  | pollFailed | gotResult | gotStaleResult => exact List.subset_append_left _ _
  | _ => exact fun _ h => h

/-- A response without an end state, in an open session, has its plan queued like any other and the
failure behind it. -/
theorem Step.queue_of_no_endState {p p' : State} {l : Label} (h : Step p l p') (hl : ¬ EndStates p l) :
    ∃ q dto failure, p'.coord.planQueue = some (q ++ [.result dto, .result failure, .stopIteration]) ∧
      dto.success = true ∧ ¬ dto.Readable ∧ failure.success = false := by
  cases h with
  | acted i answer call o ho q gs hc v hv t ht =>
    have ha : answer.hasEndState = false := by
      by_contra ha
      exact hl fun _ => by simpa using ha
    obtain ⟨dto, failure, rfl, hsuccess, hread, hfailure⟩ := Ask.verdict_of_no_endState hv ha
    refine ⟨q, dto, failure, ?_, hsuccess, hread, hfailure⟩
    cases ht with
    | stopped => simp [State.settle]
    | finished startState s hn => cases hn
    | issued r rest message hn => cases hn
    | failed r rest dto' hn => cases hn
  | ignored i answer call o ho hc =>
    refine absurd (fun he => ?_) hl
    rcases hc with hc | hc
    · simp [hc.event] at he
    · simp [hc] at he
  | _ => exact absurd trivial hl

end Planning

/-! ### What is executed -/

namespace Execution

/-- The plan was taken from the queue in the `k`-th session, as a success. -/
structure Taken (p : Planning.State) (k : Nat) (dto : PlanResultDTO) : Prop where
  yielded : (k, dto) ∈ p.yielded
  success : dto.success = true

/-- What an execution of `dto` sends, and is answered. -/
def Event.Of (dto : PlanResultDTO) : Event → Prop
  | .sent t => t ∈ trajectories dto
  | .answered _ => True
  | .feedback _ => False

/-- The end of the log: that of a plan that is executed, or was not completed. -/
def Begun : Option PlanResultDTO → List Event → Prop
  | none, part => part = []
  | some dto, part => ∃ events, part = Goal.feedback .EXECUTING dto :: events ∧ ∀ e ∈ events, e.Of dto

/-- The feedback, the trajectories sent and the completed ids of `g` are those of the plans `plans`,
which were completed, and of `begun`; and `g` took all of them. -/
structure Executed (p : Planning.State) (g : Goal) (plans : List PlanResultDTO)
    (begun : Option PlanResultDTO) : Prop where
  taken : ∀ dto, dto ∈ plans ∨ dto ∈ begun → Taken p g.session dto
  ids : g.completedIds = plans.flatMap (·.pathIds)
  log : ∃ part, g.log = plans.flatMap reported ++ part ∧ Begun begun part
  result : ∀ r ∈ g.result, r.trajectoryPathsCompleted = g.completedIds

/-- The part of `Executed` that depends on the place of the thread. -/
def Goal.Tally (p : Planning.State) (g : Goal) : Pc → Prop
  | .accepted | .ready => Executed p g [] none
  | .requesting | .iterating | .finishing => ∃ plans, Executed p g plans none
  | .planned dto => (dto.success = true → Taken p g.session dto) ∧ ∃ plans, Executed p g plans none
  | .approved dto => Taken p g.session dto ∧ ∃ plans, Executed p g plans none
  | .executing dto rest => ∃ plans sent, Executed p g plans (some dto) ∧
      trajectories dto = sent ++ rest ∧
      g.log = plans.flatMap reported ++ (Goal.feedback .EXECUTING dto :: exchanged sent)
  | .waiting dto rest => ∃ plans sent t, Executed p g plans (some dto) ∧
      trajectories dto = sent ++ t :: rest ∧
      g.log = plans.flatMap reported ++ (Goal.feedback .EXECUTING dto :: exchanged sent ++ [.sent t])
  | .failing _ => ∃ plans begun, Executed p g plans begun

theorem yielded_of_get {p p' : Planning.State} (hc : Planning.Coherent p.coord) {dto : PlanResultDTO}
    (hn : p.next? = some (.result dto)) (hs : Planning.step p .get = some p') :
    (p.sessionNo, dto) ∈ p'.yielded := by
  cases Planning.step_cases hc hs with
  | gotResult dto' q hw hq =>
    obtain rfl : dto' = dto := by simpa [Planning.State.next?, hw, hq] using hn
    simp
  | gotSentinel q hw hq => simp [Planning.State.next?, hw, hq] at hn
  | gotStaleResult dto' q hw =>
    obtain rfl : dto' = dto := by simpa [Planning.State.next?, hw] using hn
    simp
  | gotStaleSentinel q hw => simp [Planning.State.next?, hw] at hn

namespace Executed

variable {p p' : Planning.State} {g g' : Goal} {plans : List PlanResultDTO}
  {begun : Option PlanResultDTO}

/-- The goal keeps its history, and the coordinator adds to its own. -/
theorem mono (h : Executed p g plans begun) (hy : p.yielded ⊆ p'.yielded)
    (hsession : g'.session = g.session) (hids : g'.completedIds = g.completedIds)
    (hlog : g'.log = g.log) (hresult : g'.result = g.result) : Executed p' g' plans begun where
  taken dto hdto :=
    let ⟨hyield, hsuccess⟩ := h.taken dto hdto
    ⟨hsession ▸ hy hyield, hsuccess⟩
  ids := hids.trans h.ids
  log := hlog ▸ h.log
  result := by
    rw [hresult, hids]
    exact h.result

theorem log_none (h : Executed p g plans none) : g.log = plans.flatMap reported := by
  obtain ⟨part, hlog, rfl⟩ := h.log
  rw [hlog, List.append_nil]

theorem announce {dto : PlanResultDTO} (h : Executed p g plans none) (ht : Taken p g.session dto) :
    Executed p (g.emit (Goal.feedback .EXECUTING dto)) plans (some dto) where
  taken d hd := by
    rcases hd with hd | hd
    · exact h.taken d (.inl hd)
    · rwa [← Option.some.inj hd]
  ids := h.ids
  log := ⟨[Goal.feedback .EXECUTING dto], by rw [Goal.emit, h.log_none], [], rfl, nofun⟩
  result := h.result

theorem emit {dto : PlanResultDTO} (h : Executed p g plans (some dto)) {e : Event} (he : e.Of dto) :
    Executed p (g.emit e) plans (some dto) where
  taken := h.taken
  ids := h.ids
  log := by
    obtain ⟨part, hlog, events, rfl, hevents⟩ := h.log
    refine ⟨_, by simp only [Goal.emit, hlog, List.append_assoc]; rfl, events ++ [e], rfl, fun e' he' => ?_⟩
    rcases List.mem_append.1 he' with he' | he'
    · exact hevents e' he'
    · rwa [List.mem_singleton.1 he']
  result := h.result

theorem complete {dto : PlanResultDTO} (h : Executed p g plans (some dto)) (hrun : g.result = none)
    (hlog : g.log = plans.flatMap reported ++
      (Goal.feedback .EXECUTING dto :: exchanged (trajectories dto))) (pc : Pc) :
    Executed p { (g.emit (Goal.feedback .COMPLETED dto)).goto pc with
      completedIds := g.completedIds ++ dto.pathIds } (plans ++ [dto]) none where
  taken d hd := by
    have hmem : d ∈ plans ∨ d ∈ some dto := by simpa [eq_comm] using hd
    exact h.taken d hmem
  ids := by simp [h.ids]
  log := ⟨[], by
    simp only [Goal.emit, Goal.goto, hlog, reported, List.flatMap_append, List.append_assoc,
      List.flatMap_singleton, List.cons_append, List.append_nil, trajectories_eq]
    rfl, rfl⟩
  result r hr := by
    rw [Option.mem_def] at hr
    cases hrun.symm.trans hr

end Executed

namespace Goal.Tally

variable {p p' : Planning.State} {g g' : Goal}

theorem told {pc : Pc} (h : g.Tally p pc) : ∃ plans begun, Executed p g plans begun := by
  cases pc with
  | accepted | ready => exact ⟨_, _, h⟩
  | requesting | iterating | finishing =>
    obtain ⟨plans, h⟩ := h
    exact ⟨plans, _, h⟩
  | planned dto | approved dto =>
    obtain ⟨-, plans, h⟩ := h
    exact ⟨plans, _, h⟩
  | executing dto rest =>
    obtain ⟨plans, sent, h, -⟩ := h
    exact ⟨plans, _, h⟩
  | waiting dto rest =>
    obtain ⟨plans, sent, t, h, -⟩ := h
    exact ⟨plans, _, h⟩
  | failing e => exact h

theorem mono {pc : Pc} (h : g.Tally p pc) (hy : p.yielded ⊆ p'.yielded)
    (hsession : g'.session = g.session) (hids : g'.completedIds = g.completedIds)
    (hlog : g'.log = g.log) (hresult : g'.result = g.result) : g'.Tally p' pc := by
  have htaken {dto : PlanResultDTO} (ht : Taken p g.session dto) : Taken p' g'.session dto :=
    ⟨hsession ▸ hy ht.yielded, ht.success⟩
  have hex {plans : List PlanResultDTO} {begun : Option PlanResultDTO}
      (h : Executed p g plans begun) : Executed p' g' plans begun :=
    h.mono hy hsession hids hlog hresult
  cases pc with
  | accepted | ready => exact hex h
  | requesting | iterating | finishing =>
    obtain ⟨plans, h⟩ := h
    exact ⟨plans, hex h⟩
  | planned dto =>
    obtain ⟨ht, plans, h⟩ := h
    exact ⟨fun hd => htaken (ht hd), plans, hex h⟩
  | approved dto =>
    obtain ⟨ht, plans, h⟩ := h
    exact ⟨htaken ht, plans, hex h⟩
  | executing dto rest =>
    obtain ⟨plans, sent, h, hts, hl⟩ := h
    exact ⟨plans, sent, hex h, hts, hlog.trans hl⟩
  | waiting dto rest =>
    obtain ⟨plans, sent, t, h, hts, hl⟩ := h
    exact ⟨plans, sent, t, hex h, hts, hlog.trans hl⟩
  | failing e =>
    obtain ⟨plans, begun, h⟩ := h
    exact ⟨plans, begun, hex h⟩

/-- A step of the thread that neither begins nor ends anything, to the place `pc`. -/
theorem goto {pc pc' : Pc} (h : g.Tally p pc) (heq : ∀ p g, Goal.Tally p g pc = Goal.Tally p g pc') :
    (g.goto pc').Tally p pc' := by
  rw [heq] at h
  exact h.mono (List.Subset.refl _) rfl rfl rfl rfl

theorem halt {pc : Pc} (h : g.Tally p pc) (hy : p.yielded ⊆ p'.yielded) (errorMessage : String) :
    (g.goto (.failing errorMessage)).Tally p' (.failing errorMessage) := by
  obtain ⟨plans, begun, h⟩ := h.told
  exact ⟨plans, begun, h.mono hy rfl rfl rfl rfl⟩

theorem act (hc : Planning.Coherent p.coord) (hp : g.Placed p) (h : g.Tally p g.pc) {a : Action}
    (ha : g.Act p a p' g') (hrun : g'.result = none) : g'.Tally p' g'.pc := by
  have hstep {l : Planning.Label} (hs : Planning.step p l = some p') : p.yielded ⊆ p'.yielded :=
    (Planning.step_cases hc hs).yielded_subset
  have hsame : p.yielded ⊆ p.yielded := List.Subset.refl _
  cases ha with
  | started hpc =>
    rw [hpc] at h
    exact h.goto fun _ _ => rfl
  | halted a e hpc => exact h.halt hsame e
  | planAll hpc q hs =>
    rw [hpc] at h
    exact ⟨[], fun dto hdto => by simp at hdto, h.ids, h.log, h.result⟩
  | requested hpc hclient q hs =>
    rw [hpc] at h
    have hiter : (g.goto .iterating).Tally p .iterating := h.goto fun _ _ => rfl
    exact hiter.mono (hstep hs) rfl rfl rfl rfl
  | notRequested hpc service q hs e => exact h.halt (hstep hs) e
  | iterate hpc q hs => exact h.mono (hstep hs) rfl rfl rfl rfl
  | polled hpc q hs hw => exact h.mono (hstep hs) rfl rfl rfl rfl
  | pollFailed hpc q hs hw =>
    rw [hpc] at h
    obtain ⟨plans, h⟩ := h
    exact ⟨nofun, plans, h.mono (hstep hs) rfl rfl rfl rfl⟩
  | gotResult hpc dto hn q hs =>
    have hyield := yielded_of_get hc hn hs
    rw [← hp.planning (by rw [hpc]; rfl)] at hyield
    rw [hpc] at h
    obtain ⟨plans, h⟩ := h
    exact ⟨fun hd => ⟨hyield, hd⟩, plans, h.mono (hstep hs) rfl rfl rfl rfl⟩
  | gotSentinel hpc hn q hs =>
    rw [hpc] at h
    obtain ⟨plans, h⟩ := h
    exact ⟨plans, h.mono (hstep hs) rfl rfl rfl rfl⟩
  | approved dto hpc hcan hd =>
    rw [hpc] at h
    obtain ⟨ht, plans, h⟩ := h
    exact ⟨ht hd, plans, h.mono hsame rfl rfl rfl rfl⟩
  | announced dto hpc =>
    rw [hpc] at h
    obtain ⟨ht, plans, h⟩ := h
    refine ⟨plans, [], (h.announce ht).mono hsame rfl rfl rfl rfl, rfl, ?_⟩
    simp [Goal.emit, Goal.goto, h.log_none, exchanged]
  | sent dto t rest hpc hcan =>
    rw [hpc] at h
    obtain ⟨plans, sent, h, hts, hl⟩ := h
    have ht : Event.Of dto (.sent t) := by simp [Event.Of, hts]
    refine ⟨plans, sent, t, (h.emit ht).mono hsame rfl rfl rfl rfl, hts, ?_⟩
    simp [Goal.emit, Goal.goto, hl]
  | answered dto rest hpc =>
    rw [hpc] at h
    obtain ⟨plans, sent, t, h, hts, hl⟩ := h
    refine ⟨plans, sent ++ [t], (h.emit (e := .answered .succeeded) trivial).mono hsame rfl rfl rfl rfl,
      by simp [hts], ?_⟩
    simp [Goal.emit, Goal.goto, hl, exchanged, MoveItAnswer.succeeded]
  | answerFailed dto rest hpc answer q hq e =>
    have hy : p.yielded ⊆ p'.yielded := by rcases hq with rfl | rfl <;> exact hsame
    rw [hpc] at h
    obtain ⟨plans, sent, t, h, hts, hl⟩ := h
    exact ⟨plans, some dto, (h.emit (e := .answered answer) trivial).mono hy rfl rfl rfl rfl⟩
  | completed dto hpc =>
    rw [hpc] at h
    obtain ⟨plans, sent, h, hts, hl⟩ := h
    rw [List.append_nil] at hts
    exact ⟨plans ++ [dto], h.complete hp.running (hts ▸ hl) .iterating⟩
  | succeeded hpc => cases hrun
  | failed e hpc => cases hrun

theorem returned (h : g.Tally p g.pc) {a : Action} (ha : g.Act p a p' g') (hrun : g.result = none)
    (hr : g'.result.isSome = true) : ∃ plans begun, Executed p' g' plans begun := by
  cases ha with
  | succeeded hpc =>
    obtain ⟨plans, begun, h⟩ := h.told
    refine ⟨plans, begun, h.taken, h.ids, h.log, ?_⟩
    rintro r ⟨⟩
    rfl
  | failed e hpc =>
    obtain ⟨plans, begun, h⟩ := h.told
    rw [Planning.getD_abandon]
    refine ⟨plans, begun, fun d hd => ⟨(h.taken d hd).yielded, (h.taken d hd).success⟩, h.ids, h.log, ?_⟩
    rintro r ⟨⟩
    rfl
  | _ => simp_all [Goal.goto, Goal.emit]

end Goal.Tally

/-! ### Runs -/

/-- A response that is handled in an open session has an end state. -/
def EndStates (w : State) : Label → Prop
  | .deliver i answer call => Planning.EndStates w.plan (.deliver i answer call)
  | _ => True

instance : ∀ w l, Decidable (EndStates w l)
  | w, .deliver i answer call =>
    inferInstanceAs (Decidable (Planning.EndStates w.plan (.deliver i answer call)))
  | _, .accept _ | _, .cancel | _, .thread _ => isTrue trivial

structure Tallied (w : State) : Prop where
  current : ∀ g ∈ w.current, g.Tally w.plan g.pc
  finished : ∀ g ∈ w.finished, ∃ plans begun, Executed w.plan g plans begun

theorem Step.yielded_subset {w w' : State} {l : Label} (hw : Sound w) (h : Step w l w') :
    w.plan.yielded ⊆ w'.plan.yielded := by
  rcases h.plan with hp | ⟨l, hl⟩
  · exact hp ▸ fun _ h => h
  · exact (Planning.step_cases hw.coherent hl).yielded_subset

theorem Tallied.step {w w' : State} {l : Label} (hw : Sound w) (h : Tallied w)
    (hs : Execution.step w l = some w') : Tallied w' := by
  have hstep := step_cases hs
  have hy := hstep.yielded_subset hw
  have hfinished : ∀ g ∈ w.finished, ∃ plans begun, Executed w'.plan g plans begun := fun g hg =>
    let ⟨plans, begun, he⟩ := h.finished g hg
    ⟨plans, begun, he.mono hy rfl rfl rfl rfl⟩
  cases hstep with
  | accept goal hc =>
    refine ⟨?_, hfinished⟩
    rintro _ ⟨⟩
    exact ⟨fun dto hdto => by simp at hdto, rfl, ⟨[], rfl, rfl⟩, nofun⟩
  | cancel g hg =>
    refine ⟨?_, hfinished⟩
    rintro _ ⟨⟩
    exact (h.current g hg).mono hy rfl rfl rfl rfl
  | deliver i answer call p hd =>
    exact ⟨fun g hg => (h.current g hg).mono hy rfl rfl rfl rfl, hfinished⟩
  | thread a g hg p g' ha =>
    rw [State.advance_plan] at hfinished
    rcases w.advance_cases p g' with ⟨hr, heq⟩ | ⟨hr, heq⟩ <;> rw [heq]
    · refine ⟨?_, hfinished⟩
      rintro _ ⟨⟩
      exact .act hw.coherent (hw.current g hg) (h.current g hg) ha hr
    · refine ⟨(fun _ hk => by cases hk), fun k hk => ?_⟩
      rcases List.mem_append.1 hk with hk | hk
      · exact hfinished k hk
      · obtain rfl := List.mem_singleton.1 hk
        exact (h.current g hg).returned ha (hw.current g hg).running hr

/-- A run whose responses have end states is one of the coordinator that has the same. -/
theorem legible_step {w w' : State} {l : Label} (hw : Sound w) (h : w.plan.Legible)
    (hl : EndStates w l) (hs : Execution.step w l = some w') : w'.plan.Legible := by
  have hplan {l : Planning.Label} {p : Planning.State} (hl : Planning.EndStates w.plan l)
      (hs : Planning.step w.plan l = some p) : p.Legible :=
    h.step hl (Planning.step_cases hw.coherent hs)
  cases step_cases hs with
  | accept goal hc => exact h
  | cancel g hg => exact hplan (l := .cancel) trivial rfl
  | deliver i answer call p hd => exact hplan (l := .deliver i answer call) hl hd
  | thread a g hg p g' ha =>
    rw [State.advance_plan]
    rcases ha.plan with rfl | ⟨l', hne, hs'⟩
    · exact h
    · refine hplan ?_ hs'
      cases l' with
      | deliver i answer call => exact absurd rfl (hne i answer call)
      | _ => trivial

/-- As long as every successful response that is handled in an open session has an end state, no plan is
executed that has none, not even in part. The first response without one has its plan queued, and the
failure behind it. -/
theorem executed_readable (c : PlanningCoordinator) (w : State)
    (h : Lts.Runs step EndStates (init c) w) :
    (∀ g, g ∈ w.current ∨ g ∈ w.finished → ∃ plans begun, Executed w.plan g plans begun ∧
      ∀ dto, dto ∈ plans ∨ dto ∈ begun → dto.Readable) ∧
    ∀ l w', step w l = some w' → ¬ EndStates w l → ∃ q dto failure,
      w'.plan.coord.planQueue = some (q ++ [.result dto, .result failure, .stopIteration]) ∧
      dto.success = true ∧ ¬ dto.Readable ∧ failure.success = false := by
  obtain ⟨hw, ht, hlegible⟩ :=
    h.invariant (I := fun w => Sound w ∧ Tallied w ∧ w.plan.Legible)
      ⟨.init c, ⟨by rintro _ ⟨⟩, by rintro _ ⟨⟩⟩, .init c⟩
      fun ⟨hw, ht, hlegible⟩ hl hs => ⟨hw.step hs, ht.step hw hs, legible_step hw hlegible hl hs⟩
  refine ⟨fun g hg => ?_, fun l w' hs hl => ?_⟩
  · obtain ⟨plans, begun, he⟩ : ∃ plans begun, Executed w.plan g plans begun := by
      rcases hg with hg | hg
      · exact (ht.current g hg).told
      · exact ht.finished g hg
    refine ⟨plans, begun, he, fun dto hdto => ?_⟩
    obtain ⟨hyield, hsuccess⟩ := he.taken dto hdto
    exact hlegible.yielded _ hyield hsuccess
  · cases step_cases hs with
    | deliver i answer call p hd => exact (Planning.step_cases hw.coherent hd).queue_of_no_endState hl
    | _ => exact absurd trivial hl

/-- Nothing of the plan was sent, no feedback names its paths, and they are not completed. -/
structure Unexecuted (g : Goal) (dto : PlanResultDTO) : Prop where
  sent : ∀ t ∈ trajectories dto, .sent t ∉ g.log
  feedback : ∀ fb, .feedback fb ∈ g.log → fb.trajectoryPathIds ≠ dto.pathIds
  completed : ∀ pathId ∈ dto.pathIds, pathId ∉ g.completedIds

/-- A response with the code `SUCCESS` whose only trajectory has no points. -/
def noPoints : MotionSequenceResponse where
  errorCode := MoveItErrorCodes.SUCCESS
  plannedTrajectories := [{}]

/-- The plan is executed to the end, and then the goal fails. -/
def executeNoPoints : List Label :=
  beginFirst ++ [.deliver 0 (.pilz (.value noPoints)) fun _ => {}, .thread .get, .thread .check,
    .thread (.announce none), .thread (.send true none), .thread (.answer .succeeded),
    .thread (.complete none), .thread .poll, .thread .get, .thread .check, .thread .fail]

theorem executed_readable_executeMixed :
    ∃ (w : State) (g : Goal) (plans : List PlanResultDTO), g ∈ w.finished ∧
      g.completedIds = [Planning.firstPath.pathId, Planning.turnPath.pathId] ∧
      ∃ begun, Executed w.plan g plans begun ∧ ∀ dto, dto ∈ plans ∨ dto ∈ begun → dto.Readable := by
  have h : Lts.Runs step EndStates (init (PlanningCoordinator.onActivate (.new "manipulator"))) _ :=
    .of_exec executeMixed rfl
  obtain ⟨plans, begun, hg⟩ := (executed_readable _ _ h).1 _ (.inr (List.mem_singleton_self _))
  exact ⟨_, _, plans, List.mem_singleton_self _, rfl, begun, hg⟩

theorem unreadable_executed :
    ¬ (∀ c w, Lts.Reaches step (init c) w → ∀ g, g ∈ w.current ∨ g ∈ w.finished → ∀ dto,
      Taken w.plan g.session dto → ¬ dto.Readable → Unexecuted g dto) := by
  intro h
  have hrun : Lts.Reaches step (init (PlanningCoordinator.onActivate (.new "manipulator"))) _ :=
    .of_exec executeNoPoints rfl
  let dto := PilzPlannerService.result [Planning.firstPath.pathId] (some noPoints)
  have hread : ¬ dto.Readable := by
    rintro ⟨endState, he⟩
    cases he
  have hun := h _ _ hrun _ (.inr (List.mem_singleton_self _)) dto ⟨List.mem_cons_self, rfl⟩ hread
  exact hun.sent {} List.mem_cons_self (List.mem_cons_of_mem _ List.mem_cons_self)

end Execution

end MovementController
