import MovementController.Coordinator

/-!
# What one callback does

The response handlers of the coordinator's requests, read as one equation per state of the session:
in an open session (`Open`) a response queues the results of its `verdict` and then either closes
the queue with a sentinel or dispatches the next group (`advance`); once the session is cancelled,
or closed by its sentinel, a response changes nothing.
-/

namespace MovementController
open PlanningCoordinator

/-! ### `plan_group_async` -/

/-- What becomes of one `plan_group_async` call. -/
inductive Dispatch where
  | outstanding (message : PlannerMessage)
  | refused (dto : PlanResultDTO)
  | raised (e : String)
deriving DecidableEq, Repr

/-- `plan_group_async` run on a state that records which of its two continuations it calls. -/
def PlanningCoordinator.dispatch (c : PlanningCoordinator) (r : PlanRequest) (faults : CallFaults) :
    Dispatch :=
  match c.planGroupAsync r faults (fun m _ => some (Dispatch.outstanding m))
      (fun dto _ => (some (Dispatch.refused dto), none)) none with
  | (some d, _) => d
  | (none, e) => .raised (e.getD "")

section PlanGroupAsync
variable {σ : Type} (c : PlanningCoordinator) (r : PlanRequest) (faults : CallFaults)

theorem PlanningCoordinator.called :
    Called fun _ send onResult s => c.planGroupAsync r faults send onResult s := by
  unfold planGroupAsync
  cases r.planner with
  | pilz => exact c.pilz.called r.group r.startState faults
  | ompl => exact c.ompl.called r.group r.startState faults

theorem planGroupAsync_eq (send : PlannerMessage → σ → σ) (onResult : OnResult σ) (s : σ) :
    c.planGroupAsync r faults send onResult s =
      match c.dispatch r faults with
      | .outstanding message => (send message s, none)
      | .refused dto => onResult dto s
      | .raised e => (s, some e) := by
  unfold dispatch
  rcases c.called r faults with ⟨message, h⟩ | ⟨dto, -, h⟩ | ⟨e, h⟩
  · rw [h, h]
  · rw [h, h]
  · rw [h, h]
    rfl

theorem dispatch_refused {dto : PlanResultDTO} (h : c.dispatch r faults = .refused dto) :
    dto.success = false := by
  unfold dispatch at h
  rcases c.called r faults with ⟨message, hc⟩ | ⟨dto', hd, hc⟩ | ⟨e, hc⟩
  · rw [hc] at h
    cases h
  · rw [hc] at h
    cases h
    exact hd
  · rw [hc] at h
    cases h

end PlanGroupAsync

namespace Turn

variable {t : Turn} {call : PlanRequest → CallFaults} {dto : PlanResultDTO}

theorem onGroupPlanned_of_failure (h : dto.success = false) :
    onGroupPlanned call dto t = (t.rejectGroup dto, none) := by
  unfold onGroupPlanned rejectGroup
  split <;> simp [h]

/-- `_schedule_next` as the source writes it, with `_on_group_planned` as the callback. -/
theorem scheduleNext_eq (startState : RobotState) (t : Turn) :
    t.scheduleNext startState call =
      if t.coord.cancelled then (t, none)
      else
        let (group, c) := t.coord.nextGroup
        match group.getD [] with
        | [] => ({ t with coord := c.put .stopIteration }, none)
        | p :: ps =>
          let r : PlanRequest := ⟨selectService (p :: ps), p :: ps, startState⟩
          c.planGroupAsync r (call r) (send r) (onGroupPlanned call)
            { t with coord := c, dispatched := t.dispatched ++ [r] } := by
  unfold scheduleNext
  split
  · rfl
  dsimp only
  generalize t.coord.nextGroup.1.getD [] = group
  rcases group with _ | ⟨p, ps⟩
  · rfl
  dsimp only
  rw [planGroupAsync_eq, planGroupAsync_eq]
  split
  · rfl
  · next h => rw [onGroupPlanned_of_failure (dispatch_refused _ _ _ h)]
  · rfl

end Turn

/-! ### Open sessions -/

/-- The session's event is not set, its queue holds `q` and its groups still to plan are `gs`. -/
structure PlanningCoordinator.Open (c : PlanningCoordinator) (q : List QueueItem)
    (gs : List Group) : Prop where
  event : c.cancelEvent = some false
  queue : c.planQueue = some q
  session : ∃ current, c.session = some ⟨gs, current⟩

/-- What `plan_group_async` for `r` comes to when the exceptions it raises are caught: a request,
or an unsuccessful result. -/
def PlanningCoordinator.outcome (c : PlanningCoordinator) (caught : String → PlanResultDTO)
    (r : PlanRequest) (faults : CallFaults) : Except PlanResultDTO PlannerMessage :=
  match c.dispatch r faults with
  | .outstanding message => .ok message
  | .refused dto => .error dto
  | .raised e => .error (caught e)

/-- `_schedule_next` inside the `try` of a response handler, whose `except` branch queues
`caught e` and a sentinel. -/
def Turn.advance (caught : String → PlanResultDTO) (startState : RobotState)
    (call : PlanRequest → CallFaults) (t : Turn) : Turn :=
  match t.scheduleNext startState call with
  | (t, none) => t
  | (t, some e) => t.rejectGroup (caught e)

namespace PlanningCoordinator

variable {c : PlanningCoordinator} {q : List QueueItem} {g : Group} {gs : List Group}
  {caught : String → PlanResultDTO} {startState : RobotState} {call : PlanRequest → CallFaults}

theorem outcome_error {r : PlanRequest} {faults : CallFaults} {dto : PlanResultDTO}
    (hc : ∀ e, (caught e).success = false) (h : c.outcome caught r faults = .error dto) :
    dto.success = false := by
  unfold outcome at h
  split at h
  · cases h
  · next hd => cases h; exact dispatch_refused _ _ _ hd
  · cases h; exact hc _

namespace Open

theorem not_cancelled (h : c.Open q gs) : c.cancelled = false := by simp [cancelled, h.event]

theorem advance_nil (h : c.Open q gs) (caught : String → PlanResultDTO) (startState : RobotState)
    (call : PlanRequest → CallFaults) (hg : gs.head?.getD [] = []) :
    ∃ s : PlanningSessionDTO, s.groups = gs.tail ∧
      Turn.advance caught startState call ⟨c, [], []⟩ =
        ⟨{ c with planQueue := some (q ++ [.stopIteration]), session := some s }, [], []⟩ := by
  obtain ⟨current, hs⟩ := h.session
  refine ⟨(PlanningSessionDTO.getNextGroup ⟨gs, current⟩).2, by cases gs <;> rfl, ?_⟩
  have hn : c.nextGroup = ((PlanningSessionDTO.getNextGroup ⟨gs, current⟩).1,
      { c with session := some (PlanningSessionDTO.getNextGroup ⟨gs, current⟩).2 }) := by
    simp [nextGroup, hs]
  have hg' : (PlanningSessionDTO.getNextGroup ⟨gs, current⟩).1.getD [] = [] := by
    cases gs with
    | nil => rfl
    | cons g gs => exact hg
  simp [Turn.advance, Turn.scheduleNext, h.not_cancelled, hn, hg', put, h.queue]

theorem advance_cons (h : c.Open q (g :: gs)) (hg : g ≠ []) :
    Turn.advance caught startState call ⟨c, [], []⟩ =
      let r : PlanRequest := ⟨selectService g, g, startState⟩
      match c.outcome caught r (call r) with
      | .ok message => ⟨{ c with session := some ⟨gs, g⟩ }, [r], [(r, message)]⟩
      | .error dto =>
        ⟨{ c with
            planQueue := some (q ++ [.result dto, .stopIteration]), session := some ⟨gs, g⟩ },
          [r], []⟩ := by
  obtain ⟨current, hs⟩ := h.session
  obtain ⟨p, ps, rfl⟩ := List.exists_cons_of_ne_nil hg
  have hn : c.nextGroup = (some (p :: ps), { c with session := some ⟨gs, p :: ps⟩ }) := by
    simp [nextGroup, hs, PlanningSessionDTO.getNextGroup]
  have hd (r : PlanRequest) (f : CallFaults) :
      dispatch { c with session := some ⟨gs, p :: ps⟩ } r f = c.dispatch r f := rfl
  simp only [Turn.advance, Turn.scheduleNext, h.not_cancelled, hn, Bool.false_eq_true, if_false,
    Option.getD_some, planGroupAsync_eq, hd, outcome]
  rcases c.dispatch _ _ with m | dto | e <;>
    simp [Turn.send, Turn.rejectGroup, cancelled, h.event, put, h.queue]

end Open
end PlanningCoordinator

/-! ### Responses -/

/-- The result an `_on_plan_response` first delivers for a future. -/
def Future.toResult {α : Type} (result : Option α → PlanResultDTO) (caught : String → PlanResultDTO) :
    Future α → PlanResultDTO
  | .raised e => caught e
  | .none => result Option.none
  | .value response => result (some response)

/-- A success comes from a response. -/
theorem Future.of_toResult_success {α : Type} {result : Option α → PlanResultDTO}
    {caught : String → PlanResultDTO} {future : Future α} (hnone : (result Option.none).success = false)
    (hcaught : ∀ e, (caught e).success = false)
    (h : (future.toResult result caught).success = true) :
    ∃ a, future = .value a ∧ future.toResult result caught = result (some a) := by
  rcases future with e | _ | a
  · rw [toResult, hcaught] at h
    cases h
  · rw [toResult, hnone] at h
    cases h
  · exact ⟨a, rfl, rfl⟩

def PlanRequest.toResult (r : PlanRequest) (answer : Answer) : Option PlanResultDTO :=
  match r.planner, r.group, answer with
  | .pilz, group, .pilz future =>
    some (future.toResult (PilzPlannerService.result group.pathIds) PilzPlannerService.caught)
  | .ompl, path :: _, .ompl future =>
    some (future.toResult (OmplPlannerService.result path.pathId)
      (OmplPlannerService.caught path.pathId))
  | _, _, _ => none

/-- The planner that a request went to is the one that answers it. -/
theorem PlanRequest.toResult_some {r : PlanRequest} {answer : Answer} {dto : PlanResultDTO}
    (h : r.toResult answer = some dto) :
    (∃ future, r.planner = .pilz ∧ answer = .pilz future ∧
      dto = future.toResult (PilzPlannerService.result r.group.pathIds) PilzPlannerService.caught) ∨
    ∃ path paths future, r.planner = .ompl ∧ r.group = path :: paths ∧ answer = .ompl future ∧
      dto = future.toResult (OmplPlannerService.result path.pathId)
        (OmplPlannerService.caught path.pathId) := by
  unfold toResult at h
  split at h
  · next hplanner => exact .inl ⟨_, hplanner, rfl, (Option.some.inj h).symm⟩
  · next hplanner hgroup => exact .inr ⟨_, _, _, hplanner, hgroup, rfl, (Option.some.inj h).symm⟩
  · cases h

def Ask.caught : Ask → String → PlanResultDTO
  | .scene, e => .failure s!"exception while retrieving planning scene - {e}"
  | .plan ⟨.ompl, path :: _, _⟩ _, e => OmplPlannerService.caught path.pathId e
  | .plan _ _, e => PilzPlannerService.caught e

/-- What a response comes to in an open session: the results it queues, and the state the next
group starts from; `none` ends the sequence. -/
structure Verdict where
  results : List PlanResultDTO
  next : Option RobotState
deriving DecidableEq, Repr

def PlanResultDTO.verdict (dto : PlanResultDTO) : Verdict :=
  if !dto.success then ⟨[dto], none⟩
  else
    match BasePlannerService.extractEndState dto.motionPlan with
    | .error e => ⟨[dto, .failure s!"failed to extract end state from planned group - {e}"], none⟩
    | .ok endState => ⟨[dto], some endState⟩

def sceneVerdict : Future (Option RobotState) → Verdict
  | .raised e => ⟨[Ask.scene.caught e], none⟩
  | .none | .value none =>
    ⟨[.failure "failed to retrieve planning scene or robot state; aborting planning"], none⟩
  | .value (some robotState) => ⟨[], some robotState⟩

def Ask.verdict : Ask → Answer → Option Verdict
  | .scene, .scene future => some (sceneVerdict future)
  | .scene, _ => none
  | .plan r _, answer => (r.toResult answer).map PlanResultDTO.verdict

theorem PlanRequest.of_toResult_success {r : PlanRequest} {answer : Answer} {dto : PlanResultDTO}
    (h : r.toResult answer = some dto) (hdto : dto.success = true) :
    answer.succeeded = true ∧
      ((r.planner = .ompl → ∃ path, r.group = [path]) → dto.pathIds = r.group.pathIds) := by
  obtain ⟨future, -, rfl, rfl⟩ | ⟨path, paths, future, hplanner, hgroup, rfl, rfl⟩ := toResult_some h
  · obtain ⟨response, rfl, heq⟩ := Future.of_toResult_success rfl (fun _ => rfl) hdto
    rw [heq] at hdto ⊢
    obtain ⟨hcode, hids⟩ := PilzPlannerService.of_result_success hdto
    exact ⟨beq_iff_eq.2 hcode, fun _ => hids⟩
  · obtain ⟨response, rfl, heq⟩ := Future.of_toResult_success rfl (fun _ => rfl) hdto
    rw [heq] at hdto ⊢
    obtain ⟨hcode, hids⟩ := OmplPlannerService.of_result_success hdto
    refine ⟨beq_iff_eq.2 hcode, fun hsingle => hids.trans ?_⟩
    obtain ⟨path', hpath⟩ := hsingle hplanner
    rw [hpath]
    rw [hgroup] at hpath
    rw [(List.cons.inj hpath).1]
    rfl

/-- The verdicts there are, by the request and the result that was delivered for it. -/
inductive Ask.Judged (answer : Answer) : Ask → Verdict → Prop
  | scene (robotState : RobotState) (ha : answer = .scene (.value (some robotState))) :
      Judged answer .scene ⟨[], some robotState⟩
  | noScene (dto : PlanResultDTO) (hd : dto.success = false) : Judged answer .scene ⟨[dto], none⟩
  | planned (r : PlanRequest) (message : PlannerMessage) (dto : PlanResultDTO) (endState : RobotState)
      (hr : r.toResult answer = some dto) (hd : dto.success = true)
      (he : BasePlannerService.extractEndState dto.motionPlan = .ok endState) :
      Judged answer (.plan r message) ⟨[dto], some endState⟩
  | noEndState (r : PlanRequest) (message : PlannerMessage) (dto dto' : PlanResultDTO)
      (hr : r.toResult answer = some dto) (hd : dto.success = true) (hd' : dto'.success = false) :
      Judged answer (.plan r message) ⟨[dto, dto'], none⟩
  | notPlanned (r : PlanRequest) (message : PlannerMessage) (dto : PlanResultDTO)
      (hr : r.toResult answer = some dto) (hd : dto.success = false) :
      Judged answer (.plan r message) ⟨[dto], none⟩

namespace Ask

variable {ask : Ask} {answer : Answer} {v : Verdict}

theorem judged (h : ask.verdict answer = some v) : Judged answer ask v := by
  cases ask with
  | scene =>
    cases answer with
    | scene future =>
      have hv : sceneVerdict future = v := Option.some.inj h
      rw [← hv]
      rcases future with e | _ | _ | robotState
      · exact .noScene _ rfl
      · exact .noScene _ rfl
      · exact .noScene _ rfl
      · exact .scene robotState rfl
    | pilz future => cases h
    | ompl future => cases h
  | plan r message =>
    obtain ⟨dto, hr, rfl⟩ := Option.map_eq_some_iff.1 h
    unfold PlanResultDTO.verdict
    cases hd : dto.success with
    | false => exact .notPlanned r message dto hr hd
    | true =>
      cases he : BasePlannerService.extractEndState dto.motionPlan with
      | error e => exact .noEndState r message dto _ hr hd rfl
      | ok endState => exact .planned r message dto endState hr hd he

theorem verdict_results (h : ask.verdict answer = some v) {dto : PlanResultDTO}
    (hm : dto ∈ v.results) (hdto : dto.success = true) :
    ∃ r message, ask = .plan r message ∧ r.toResult answer = some dto := by
  cases judged h with
  | scene => cases hm
  | noScene dto' hd =>
    rw [List.mem_singleton.1 hm, hd] at hdto
    cases hdto
  | planned r message dto' endState hr =>
    rw [List.mem_singleton.1 hm]
    exact ⟨r, message, rfl, hr⟩
  | noEndState r message dto₁ dto₂ hr hd hd' =>
    rcases List.mem_cons.1 hm with hm | hm
    · rw [hm]
      exact ⟨r, message, rfl, hr⟩
    · rw [List.mem_singleton.1 hm, hd'] at hdto
      cases hdto
  | notPlanned r message dto' hr =>
    rw [List.mem_singleton.1 hm]
    exact ⟨r, message, rfl, hr⟩

theorem verdict_next (h : ask.verdict answer = some v) {startState : RobotState}
    (hn : v.next = some startState) :
    (ask = .scene ∧ answer = .scene (.value (some startState))) ∨
    ∃ r message dto, ask = .plan r message ∧ r.toResult answer = some dto ∧ dto.success = true ∧
      BasePlannerService.extractEndState dto.motionPlan = .ok startState := by
  cases judged h with
  | scene robotState ha =>
    rw [← Option.some.inj hn]
    exact .inl ⟨rfl, ha⟩
  | planned r message dto endState hr hd he =>
    rw [← Option.some.inj hn]
    exact .inr ⟨r, message, dto, rfl, hr, hd, he⟩
  | noScene => cases hn
  | noEndState => cases hn
  | notPlanned => cases hn

theorem verdict_of_not_succeeded (h : ask.verdict answer = some v) (ha : answer.succeeded = false) :
    v.next = none ∧ ∀ dto ∈ v.results, dto.success = false := by
  constructor
  · rcases hn : v.next with _ | s
    · rfl
    · rcases verdict_next h hn with ⟨-, rfl⟩ | ⟨r, message, dto, -, hr, hdto, -⟩
      · simp [Answer.succeeded] at ha
      · simp [(r.of_toResult_success hr hdto).1] at ha
  · intro dto hm
    rw [← Bool.not_eq_true]
    intro hdto
    obtain ⟨r, message, -, hr⟩ := verdict_results h hm hdto
    simp [(r.of_toResult_success hr hdto).1] at ha

end Ask

def Verdict.turn (v : Verdict) (caught : String → PlanResultDTO) (call : PlanRequest → CallFaults)
    (c : PlanningCoordinator) (q : List QueueItem) : Turn :=
  match v.next with
  | none =>
    ⟨{ c with planQueue := some (q ++ v.results.map .result ++ [.stopIteration]) }, [], []⟩
  | some endState =>
    Turn.advance caught endState call
      ⟨{ c with planQueue := some (q ++ v.results.map .result) }, [], []⟩

@[simp] theorem Ask.caught_success (ask : Ask) (e : String) : (ask.caught e).success = false := by
  unfold Ask.caught
  split <;> rfl

namespace PlanningCoordinator
variable {c : PlanningCoordinator} {q : List QueueItem} {gs : List Group}
  {call : PlanRequest → CallFaults}

theorem Open.unique {q' : List QueueItem} {gs' : List Group} (h : c.Open q gs) (h' : c.Open q' gs') :
    q = q' ∧ gs = gs' := by
  obtain ⟨current, hs⟩ := h.session
  obtain ⟨current', hs'⟩ := h'.session
  refine ⟨Option.some.inj (h.queue.symm.trans h'.queue), ?_⟩
  have heq := Option.some.inj (hs.symm.trans hs')
  exact congrArg PlanningSessionDTO.groups heq

theorem Open.withQueue (h : c.Open q gs) (q' : List QueueItem) :
    Open { c with planQueue := some q' } q' gs :=
  ⟨h.event, rfl, h.session⟩

end PlanningCoordinator

namespace Turn

variable {t : Turn} {call : PlanRequest → CallFaults}

theorem rejectGroup_failure (h : t.coord.cancelled = false) (e : String) :
    t.rejectGroup (.failure e) = t.abort e := by
  simp [rejectGroup, h, Turn.abort, PlanningCoordinator.abort]

@[simp] theorem rejectGroup_cancelEvent (t : Turn) (dto : PlanResultDTO) :
    (t.rejectGroup dto).coord.cancelEvent = t.coord.cancelEvent := by
  unfold rejectGroup; split <;> rfl

@[simp] theorem scheduleNext_cancelEvent (startState : RobotState) (call : PlanRequest → CallFaults)
    (t : Turn) :
    (t.scheduleNext startState call).1.coord.cancelEvent = t.coord.cancelEvent := by
  have hn : t.coord.nextGroup.2.cancelEvent = t.coord.cancelEvent := by
    unfold nextGroup; split <;> rfl
  unfold scheduleNext
  split
  · rfl
  dsimp only
  split
  · exact hn
  · rw [planGroupAsync_eq]
    split <;> simp [send, hn]

theorem onGroupPlanned_caught {q : List QueueItem} {gs : List Group} {c : PlanningCoordinator}
    (h : c.Open q gs) (dto : PlanResultDTO) {caught : String → PlanResultDTO}
    (hcaught : ∀ e, (caught e).success = false) :
    tryOnResult caught (onGroupPlanned call) dto ⟨c, [], []⟩ =
      (dto.verdict.turn caught call c q, none) := by
  simp only [tryOnResult, onGroupPlanned_of_failure (hcaught _)]
  have hput : c.put (.result dto) = { c with planQueue := some (q ++ [.result dto]) } := by
    simp only [put, h.queue, Option.map_some]
  cases hs : dto.success with
  | false =>
    simp [onGroupPlanned, PlanResultDTO.verdict, Verdict.turn, h.not_cancelled, hs, put, h.queue]
  | true =>
    cases he : BasePlannerService.extractEndState dto.motionPlan with
    | error e =>
      simp [onGroupPlanned, PlanResultDTO.verdict, Verdict.turn, h.not_cancelled, hs, he,
        Turn.abort, PlanningCoordinator.abort, put, h.queue]
    | ok endState =>
      simp only [onGroupPlanned, PlanResultDTO.verdict, Verdict.turn, h.not_cancelled, hs, he, hput,
        Bool.false_eq_true, if_false, Bool.not_true, List.map_cons, List.map_nil, advance]
      split <;> simp_all

end Turn

namespace PlanningCoordinator.Open

variable {c : PlanningCoordinator} {q : List QueueItem} {gs : List Group}
  {call : PlanRequest → CallFaults}

theorem onScene (h : c.Open q gs) (future : Future (Option RobotState)) :
    Turn.onScene future call ⟨c, [], []⟩ =
      (sceneVerdict future).turn Ask.scene.caught call c q := by
  unfold Turn.onScene sceneVerdict
  rw [if_neg (by simp [h.not_cancelled])]
  split
  · simp [Verdict.turn, Turn.abort, PlanningCoordinator.abort, put, h.queue, Ask.caught]
  · simp [Verdict.turn, Turn.abort, PlanningCoordinator.abort, put, h.queue]
  · simp [Verdict.turn, Turn.abort, PlanningCoordinator.abort, put, h.queue]
  · next robotState =>
    have hq : { c with planQueue := some (q ++ []) } = c := by
      simp [← h.queue]
    simp only [Verdict.turn, List.map_nil, hq, Turn.advance, Ask.caught]
    have hev := Turn.scheduleNext_cancelEvent robotState call ⟨c, [], []⟩
    rcases hn : Turn.scheduleNext robotState call ⟨c, [], []⟩ with ⟨t, _ | e⟩
    · rfl
    · rw [hn] at hev
      exact (Turn.rejectGroup_failure (by rw [cancelled, hev, h.event]; rfl) _).symm

theorem onPlanResponse (h : c.Open q gs) {α : Type} (result : Option α → PlanResultDTO)
    {caught : String → PlanResultDTO} (hcaught : ∀ e, (caught e).success = false)
    (future : Future α) :
    MovementController.onPlanResponse result caught future (Turn.onGroupPlanned call) ⟨c, [], []⟩ =
      ((future.toResult result caught).verdict.turn caught call c q, none) := by
  rcases future with e | _ | a
  · simp [MovementController.onPlanResponse, Future.toResult, PlanResultDTO.verdict, Verdict.turn,
      Turn.onGroupPlanned_of_failure, Turn.rejectGroup, h.not_cancelled, hcaught, put, h.queue]
  · exact Turn.onGroupPlanned_caught h _ hcaught
  · exact Turn.onGroupPlanned_caught h _ hcaught

theorem respond (h : c.Open q gs) (ask : Ask) (answer : Answer) :
    ask.respond answer call ⟨c, [], []⟩ =
      (ask.verdict answer).map fun v => (v.turn ask.caught call c q, none) := by
  rcases ask with _ | ⟨⟨_ | _, _ | ⟨path, group⟩, startState⟩, message⟩ <;>
    rcases answer with f | f | f <;> try rfl
  · exact congrArg (fun t => some (t, none)) (h.onScene f)
  all_goals exact congrArg some (h.onPlanResponse _ (fun _ => rfl) f)

end PlanningCoordinator.Open

/-- The four ways the turn of a verdict can end, for an open session with queue `q` and groups `gs`
still to plan. -/
inductive Verdict.Outcome (v : Verdict) (caught : String → PlanResultDTO)
    (call : PlanRequest → CallFaults) (c : PlanningCoordinator) (q : List QueueItem)
    (gs : List Group) : Turn → Prop
  | stopped (hv : v.next = none) : Outcome v caught call c q gs
      ⟨{ c with planQueue := some (q ++ v.results.map .result ++ [.stopIteration]) }, [], []⟩
  | finished (startState : RobotState) (s : PlanningSessionDTO) (hv : v.next = some startState)
      (hgs : gs.head?.getD [] = []) (hs : s.groups = gs.tail) : Outcome v caught call c q gs
      ⟨{ c with
          planQueue := some (q ++ v.results.map .result ++ [.stopIteration]), session := some s },
        [], []⟩
  | issued (r : PlanRequest) (rest : List Group) (message : PlannerMessage)
      (hv : v.next = some r.startState) (hgs : gs = r.group :: rest) (hne : r.group ≠ [])
      (hr : r.planner = selectService r.group) (ho : c.outcome caught r (call r) = .ok message) :
      Outcome v caught call c q gs
      ⟨{ c with
          planQueue := some (q ++ v.results.map .result), session := some ⟨rest, r.group⟩ },
        [r], [(r, message)]⟩
  | failed (r : PlanRequest) (rest : List Group) (dto : PlanResultDTO)
      (hv : v.next = some r.startState) (hgs : gs = r.group :: rest) (hne : r.group ≠ [])
      (hr : r.planner = selectService r.group) (ho : c.outcome caught r (call r) = .error dto) :
      Outcome v caught call c q gs
      ⟨{ c with
          planQueue := some (q ++ v.results.map .result ++ [.result dto, .stopIteration]),
          session := some ⟨rest, r.group⟩ },
        [r], []⟩

theorem PlanningCoordinator.Open.turn_outcome {c : PlanningCoordinator} {q : List QueueItem}
    {gs : List Group} (h : c.Open q gs) (v : Verdict) (caught : String → PlanResultDTO)
    (call : PlanRequest → CallFaults) : v.Outcome caught call c q gs (v.turn caught call c q) := by
  unfold Verdict.turn
  rcases hv : v.next with _ | startState
  · exact .stopped hv
  have h' := h.withQueue (q ++ v.results.map .result)
  rcases gs with _ | ⟨_ | ⟨p, ps⟩, rest⟩
  · obtain ⟨s, hs, hadv⟩ := h'.advance_nil caught startState call rfl
    dsimp only
    rw [hadv]
    exact .finished startState s hv rfl hs
  · obtain ⟨s, hs, hadv⟩ := h'.advance_nil caught startState call rfl
    dsimp only
    rw [hadv]
    exact .finished startState s hv rfl hs
  · have hne : p :: ps ≠ [] := by simp
    dsimp only
    rw [h'.advance_cons hne]
    dsimp only
    split
    · next message ho => exact .issued ⟨_, p :: ps, startState⟩ rest message hv rfl hne rfl ho
    · next dto ho => exact .failed ⟨_, p :: ps, startState⟩ rest dto hv rfl hne rfl ho

namespace Verdict.Outcome

variable {v : Verdict} {caught : String → PlanResultDTO} {call : PlanRequest → CallFaults}
  {c : PlanningCoordinator} {q : List QueueItem} {gs : List Group} {t : Turn}

theorem queued (h : v.Outcome caught call c q gs t) (hc : ∀ e, (caught e).success = false)
    {dto : PlanResultDTO} (hm : .result dto ∈ t.coord.planQueue.getD []) (hdto : dto.success = true) :
    .result dto ∈ q ∨ dto ∈ v.results := by
  cases h with
  | failed r rest dto' hv hgs hne hr ho =>
    have hd : dto ≠ dto' := by
      rintro rfl
      simp [PlanningCoordinator.outcome_error hc ho] at hdto
    simpa [hd] using hm
  | _ => simpa using hm

theorem dispatches (h : v.Outcome caught call c q gs t) :
    (t.dispatched = [] ∧ t.issued = []) ∨
    ∃ r rest, v.next = some r.startState ∧ gs = r.group :: rest ∧ t.dispatched = [r] ∧
      (t.issued = [] ∨ ∃ message, t.issued = [(r, message)]) ∧
      t.coord.session = some ⟨rest, r.group⟩ := by
  cases h with
  | stopped => exact .inl ⟨rfl, rfl⟩
  | finished => exact .inl ⟨rfl, rfl⟩
  | issued r rest message hv hgs => exact .inr ⟨r, rest, hv, hgs, rfl, .inr ⟨message, rfl⟩, rfl⟩
  | failed r rest dto hv hgs => exact .inr ⟨r, rest, hv, hgs, rfl, .inl rfl, rfl⟩

end Verdict.Outcome

/-! ### Cancelled and closed sessions -/

/-- The session's sentinel was consumed, or there was no session yet. -/
structure PlanningCoordinator.Closed (c : PlanningCoordinator) : Prop where
  event : c.cancelEvent = none
  queue : c.planQueue = none
  session : c.session = none

theorem PlanningCoordinator.Closed.not_open {c : PlanningCoordinator} (h : c.Closed)
    {q : List QueueItem} {gs : List Group} : ¬ c.Open q gs := fun hq => by
  simpa [h.event] using hq.event

theorem PlanningCoordinator.Closed.put {c : PlanningCoordinator} (h : c.Closed) (item : QueueItem) :
    c.put item = c := by
  have hq : c.planQueue.map (· ++ [item]) = c.planQueue := by rw [h.queue]; rfl
  rw [PlanningCoordinator.put, hq]

theorem Turn.onGroupPlanned_cancelled {c : PlanningCoordinator} (h : c.cancelEvent = some true)
    (dto : PlanResultDTO) (call : PlanRequest → CallFaults) :
    onGroupPlanned call dto ⟨c, [], []⟩ = (⟨c, [], []⟩, none) := by
  simp [onGroupPlanned, cancelled, h]

theorem Turn.onGroupPlanned_closed {c : PlanningCoordinator} (h : c.Closed)
    (dto : PlanResultDTO) (call : PlanRequest → CallFaults) :
    onGroupPlanned call dto ⟨c, [], []⟩ = (⟨c, [], []⟩, none) := by
  unfold onGroupPlanned
  split
  · rfl
  simp only [h.put]
  split
  · rfl
  split
  · simp [Turn.abort, PlanningCoordinator.abort, h.put]
  · simp [scheduleNext, cancelled, h.event, nextGroup, h.session, h.put]

namespace Ask

variable {c : PlanningCoordinator} {call : PlanRequest → CallFaults}

theorem respond_of_ignored (hscene : ∀ f, Turn.onScene f call ⟨c, [], []⟩ = ⟨c, [], []⟩)
    (hplan : ∀ dto, Turn.onGroupPlanned call dto ⟨c, [], []⟩ = (⟨c, [], []⟩, none))
    (ask : Ask) (answer : Answer) :
    ask.respond answer call ⟨c, [], []⟩ = (ask.verdict answer).map fun _ => (⟨c, [], []⟩, none) := by
  rcases ask with _ | ⟨⟨_ | _, _ | ⟨path, group⟩, startState⟩, message⟩ <;>
    rcases answer with f | f | f <;> try rfl
  · exact congrArg (fun t => some (t, none)) (hscene f)
  all_goals
    rcases f with e | _ | a <;>
    simp [respond, PilzPlannerService.onPlanResponse, OmplPlannerService.onPlanResponse,
      MovementController.onPlanResponse, tryOnResult, hplan, verdict, PlanRequest.toResult]

theorem respond_cancelled (h : c.cancelEvent = some true) (ask : Ask) (answer : Answer) :
    ask.respond answer call ⟨c, [], []⟩ = (ask.verdict answer).map fun _ => (⟨c, [], []⟩, none) :=
  respond_of_ignored (fun f => by simp [Turn.onScene, cancelled, h])
    (fun dto => Turn.onGroupPlanned_cancelled h dto call) ask answer

theorem respond_closed (h : c.Closed) (ask : Ask) (answer : Answer) :
    ask.respond answer call ⟨c, [], []⟩ = (ask.verdict answer).map fun _ => (⟨c, [], []⟩, none) := by
  refine respond_of_ignored (fun f => ?_) (fun dto => Turn.onGroupPlanned_closed h dto call) ask answer
  rcases f with e | _ | _ | s <;>
    simp [Turn.onScene, cancelled, h.event, Turn.abort, PlanningCoordinator.abort, h.put,
      Turn.scheduleNext, nextGroup, h.session]

end Ask

end MovementController
