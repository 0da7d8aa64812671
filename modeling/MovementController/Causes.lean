import MovementController.EndState
import MovementController.Liveness

/-!
# A failed goal says why

`error_message` is the only account of a failure that a client gets. Each text has one cause, the
cause can be told from the text, and the history of the goal bears it out.
-/

namespace MovementController
open PlanningCoordinator

/-! ### Why planning failed -/

theorem PlanRequest.succeeded_of_toResult {r : PlanRequest} {answer : Answer} {dto : PlanResultDTO}
    (h : r.toResult answer = some dto) : dto.success = answer.succeeded := by
  obtain ⟨future, -, rfl, rfl⟩ | ⟨path, paths, future, -, -, rfl, rfl⟩ := toResult_some h
  · rcases future with e | _ | response
    · rfl
    · rfl
    · by_cases hcode : response.errorCode = MoveItErrorCodes.SUCCESS <;>
        simp [Future.toResult, PilzPlannerService.result, Answer.succeeded, hcode]
  · rcases future with e | _ | response
    · rfl
    · rfl
    · by_cases hcode : response.errorCode = MoveItErrorCodes.SUCCESS <;>
        simp [Future.toResult, OmplPlannerService.result, Answer.succeeded, hcode]

theorem Verdict.Outcome.sources {v : Verdict} {caught : String → PlanResultDTO}
    {call : PlanRequest → CallFaults} {c : PlanningCoordinator} {q : List QueueItem} {gs : List Group}
    {t : Turn} (h : v.Outcome caught call c q gs t) {dto : PlanResultDTO}
    (hm : .result dto ∈ t.coord.planQueue.getD []) : .result dto ∈ q ∨ dto ∈ v.results ∨
      ∃ r ∈ t.dispatched, c.outcome caught r (call r) = .error dto := by
  cases h with
  | failed r rest dto' hv hgs hne hr ho =>
    have hm : .result dto ∈ q ∨ dto ∈ v.results ∨ dto = dto' := by simpa [or_assoc] using hm
    rcases hm with hm | hm | rfl
    · exact .inl hm
    · exact .inr (.inl hm)
    · exact .inr (.inr ⟨r, List.mem_singleton_self r, ho⟩)
  | _ =>
    have hm : .result dto ∈ q ∨ dto ∈ v.results := by simpa using hm
    exact hm.imp_right .inl

namespace Planning

/-- What the history shows of an unsuccessful result. The responses may be those to requests of an
earlier session. -/
inductive State.Reason (p : State) : PlanResultDTO → Prop
  /-- The scene came without a robot state. -/
  | noState (k : Nat) (future : Future (Option RobotState))
      (hm : (⟨k, .scene⟩, .scene future) ∈ p.delivered) (hf : future = .none ∨ future = .value none) :
      Reason p (.failure "failed to retrieve planning scene or robot state; aborting planning")
  | sceneRaised (k : Nat) (e : String) (hm : (⟨k, .scene⟩, .scene (.raised e)) ∈ p.delivered) :
      Reason p (.failure s!"exception while retrieving planning scene - {e}")
  /-- The planner did not answer with `SUCCESS`. -/
  | notPlanned (k : Nat) (r : PlanRequest) (message : PlannerMessage) (answer : Answer)
      (dto : PlanResultDTO) (hm : (⟨k, .plan r message⟩, answer) ∈ p.delivered)
      (ha : answer.succeeded = false) (hr : r.toResult answer = some dto) : Reason p dto
  /-- The planner answered with `SUCCESS` and a plan that ends nowhere. -/
  | noEndState (k : Nat) (r : PlanRequest) (message : PlannerMessage) (answer : Answer) (e : String)
      (hm : (⟨k, .plan r message⟩, answer) ∈ p.delivered) (ha : answer.succeeded = true)
      (he : answer.hasEndState = false) :
      Reason p (.failure s!"failed to extract end state from planned group - {e}")
  /-- The request for a group did not go out. -/
  | notSent (k : Nat) (r : PlanRequest) (faults : CallFaults) (caught : String → PlanResultDTO)
      (dto : PlanResultDTO) (hr : (k, r) ∈ p.dispatched)
      (ho : p.coord.outcome caught r faults = .error dto) : Reason p dto

/-- The histories of `p` go on in `p'`, with the same planner services. -/
structure State.Grows (p p' : State) : Prop where
  delivered : p.delivered ⊆ p'.delivered
  dispatched : p.dispatched ⊆ p'.dispatched
  yielded : p.yielded ⊆ p'.yielded
  services : SameServices p.coord p'.coord

theorem State.Grows.refl (p : State) : p.Grows p :=
  ⟨List.Subset.refl _, List.Subset.refl _, List.Subset.refl _, rfl, rfl⟩

theorem Step.grows {p p' : State} {l : Label} (h : Step p l p') : p.Grows p' := by
  refine ⟨h.delivered_subset, ?_, h.yielded_subset, h.sameServices ⟨rfl, rfl⟩⟩
  cases h with
  | ignored | acted => exact List.subset_append_left _ _
  | _ => exact List.Subset.refl _

namespace State.Reason

variable {p p' : State} {dto : PlanResultDTO}

theorem mono (h : p.Reason dto) (hp : p.Grows p') : p'.Reason dto := by
  cases h with
  | noState k future hm hf => exact .noState k future (hp.delivered hm) hf
  | sceneRaised k e hm => exact .sceneRaised k e (hp.delivered hm)
  | notPlanned k r message answer dto hm ha hr =>
    exact .notPlanned k r message answer dto (hp.delivered hm) ha hr
  | noEndState k r message answer e hm ha he =>
    exact .noEndState k r message answer e (hp.delivered hm) ha he
  | notSent k r faults caught dto hr ho =>
    exact .notSent k r faults caught dto (hp.dispatched hr) ((hp.services.outcome caught r faults).trans ho)

theorem of_scene {k : Nat} {future : Future (Option RobotState)}
    (hm : (⟨k, .scene⟩, .scene future) ∈ p.delivered) (hd : dto ∈ (sceneVerdict future).results) :
    p.Reason dto := by
  rcases future with e | _ | _ | robotState
  · rw [List.mem_singleton.1 hd]
    exact .sceneRaised k e hm
  · rw [List.mem_singleton.1 hd]
    exact .noState k _ hm (.inl rfl)
  · rw [List.mem_singleton.1 hd]
    exact .noState k _ hm (.inr rfl)
  · cases hd

theorem of_plan {k : Nat} {r : PlanRequest} {message : PlannerMessage} {answer : Answer}
    {dto' : PlanResultDTO} (hm : (⟨k, .plan r message⟩, answer) ∈ p.delivered)
    (hr : r.toResult answer = some dto') (hd : dto ∈ dto'.verdict.results)
    (hf : dto.success = false) : p.Reason dto := by
  have hanswer := PlanRequest.succeeded_of_toResult hr
  cases hs : dto'.success with
  | false =>
    have hverdict : dto'.verdict.results = [dto'] := by simp [PlanResultDTO.verdict, hs]
    rw [hverdict] at hd
    rw [List.mem_singleton.1 hd]
    exact .notPlanned k r message answer dto' hm (hanswer.symm.trans hs) hr
  | true =>
    have hne : dto ≠ dto' := by
      rintro rfl
      rw [hs] at hf
      cases hf
    cases he : BasePlannerService.extractEndState dto'.motionPlan with
    | ok endState =>
      have hverdict : dto'.verdict.results = [dto'] := by simp [PlanResultDTO.verdict, hs, he]
      rw [hverdict] at hd
      exact absurd (List.mem_singleton.1 hd) hne
    | error e =>
      have hverdict : dto'.verdict.results =
          [dto', .failure s!"failed to extract end state from planned group - {e}"] := by
        simp [PlanResultDTO.verdict, hs, he]
      rw [hverdict] at hd
      have hlast := (List.mem_cons.1 hd).resolve_left hne
      rw [List.mem_singleton.1 hlast]
      refine .noEndState k r message answer e hm (hanswer.symm.trans hs) ?_
      rw [← Bool.not_eq_true, PlanRequest.toResult_readable hr]
      intro hread
      obtain ⟨endState, hok⟩ := hread hs
      rw [he] at hok
      cases hok

/-- What a response makes the coordinator queue has its reason in the response. -/
theorem of_verdict {k : Nat} {ask : Ask} {answer : Answer} {v : Verdict}
    (hm : (⟨k, ask⟩, answer) ∈ p.delivered) (hv : ask.verdict answer = some v)
    (hd : dto ∈ v.results) (hf : dto.success = false) : p.Reason dto := by
  cases ask with
  | scene =>
    cases answer with
    | scene future =>
      obtain rfl := Option.some.inj hv
      exact of_scene hm hd
    | pilz future => cases hv
    | ompl future => cases hv
  | plan r message =>
    obtain ⟨dto', hr, rfl⟩ := Option.map_eq_some_iff.1 hv
    exact of_plan hm hr hd hf

end State.Reason

/-- While the event is not set, what is queued has its reason. -/
def State.Reasoned (p : State) : Prop :=
  p.coord.cancelEvent ≠ some true → ∀ dto, .result dto ∈ p.coord.planQueue.getD [] →
    dto.success = false → p.Reason dto

theorem State.Reasoned.acted {p : State} (h : p.Reasoned) {i : Nat} {o : Outstanding} {answer : Answer}
    {call : PlanRequest → CallFaults} {q : List QueueItem} {gs : List Group} (hc : p.coord.Open q gs)
    {v : Verdict} (hv : o.ask.verdict answer = some v) {t : Turn}
    (ht : v.Outcome o.ask.caught call p.coord q gs t) (hg : p.Grows (p.settle i o answer t)) :
    (p.settle i o answer t).Reasoned := by
  intro _ dto hdto hf
  rcases ht.sources hdto with hq | hres | ⟨r, hr, ho⟩
  · refine (h (by simp [hc.event]) dto ?_ hf).mono hg
    rw [hc.queue]
    exact hq
  · exact .of_verdict (List.mem_append_right _ (List.mem_singleton_self _)) hv hres hf
  · refine .notSent p.sessionNo r (call r) o.ask.caught dto ?_ ((hg.services.outcome ..).trans ho)
    exact List.mem_append_right _ (List.mem_map_of_mem hr)

theorem State.Reasoned.step {p p' : State} (hc : Coherent p.coord) (h : p.Reasoned) {l : Label}
    (hs : Step p l p') : p'.Reasoned := by
  have hg := hs.grows
  cases hs with
  | planAll => exact fun _ dto hdto => absurd hdto List.not_mem_nil
  | sceneUnavailable | gotSentinel | gotStaleSentinel =>
    exact fun _ dto hdto => absurd hdto List.not_mem_nil
  | cancel =>
    intro he dto hdto
    rcases hc with hclosed | ⟨b, q, s, hevent, -⟩
    · simp [hclosed.queue] at hdto
    · simp [hevent] at he
  | gotResult dto q hc hq =>
    intro he dto' hdto hf
    refine (h he dto' ?_ hf).mono hg
    rw [hq]
    exact List.mem_cons_of_mem _ hdto
  | ignored => exact fun he dto hdto hf => (h he dto hdto hf).mono hg
  | acted i answer call o ho q gs hc v hv t ht => exact h.acted hc hv ht hg
  | _ => exact fun he dto hdto hf => (h he dto hdto hf).mono hg

/-- No step but `cancel` sets the event. -/
theorem Step.event {p p' : State} {l : Label} (h : Step p l p') (hl : l ≠ .cancel)
    (he : p'.coord.cancelEvent = some true) : p.coord.cancelEvent = some true := by
  cases h with
  | cancel => exact absurd rfl hl
  | planAll | sceneUnavailable | gotSentinel | gotStaleSentinel => cases he
  | acted i answer call o ho q gs hc v hv t ht => cases ht <;> exact he
  | _ => exact he

theorem Ledger.pos_of_starting {p : State} (h : Ledger p) (hs : p.starting = true) :
    0 < p.sessionNo := by
  refine Nat.pos_of_ne_zero fun hzero => ?_
  rw [(h.fresh hzero).1] at hs
  cases hs

end Planning

namespace Execution

/-- What makes `_execute_callback` give up. -/
inductive Cause where
  | unavailable
  | notPlanned
  | cancelled
  | planFailed (dto : PlanResultDTO)
  /-- The cancel request came in time to hold back the next trajectory. -/
  | notSent
  | stopped (status : Int) (errorCode : Option Int)
  | refused (pathIds : List String) (status : Int) (errorCode : Option Int)
  | raised (e : String)

namespace Cause

/-- The fixed part of the text. -/
def head : Cause → String
  | .unavailable => "planner service or move_group client not initialised"
  | .notPlanned => "Planning failed or no paths to execute"
  | .cancelled => "Goal was cancelled"
  | .planFailed _ => "Look-ahead planning failed - "
  | .notSent => "Execution failed - goal was cancelled by the client"
  | .stopped .. => "Execution failed - trajectory execution was cancelled"
  | .refused .. => "Execution failed - failed to execute trajectory for paths "
  | .raised _ => "Unknown exception raised - "

def tail : Cause → String
  | .planFailed dto => dto.errorMessage
  | .refused pathIds _ errorCode => pyList pathIds ++ ": " ++ ("error code " ++ pyCode errorCode)
  | .raised e => e
  | _ => ""

def text (cause : Cause) : String := cause.head ++ cause.tail

/-- What the history of the goal shows of the cause; `E` are the exceptions that were raised around
the node. The session tells whether `plan_all` was called. -/
def Evidence (E : String → Prop) (p : Planning.State) (g : Goal) : Cause → Prop
  | .unavailable => g.session = 0 ∧ g.log = [] ∧ g.completedIds = []
  | .notPlanned => 0 < g.session ∧ g.log = [] ∧ g.completedIds = []
  | .cancelled | .notSent => g.cancelRequested = true
  | .planFailed dto => (g.session, dto) ∈ p.yielded ∧ dto.success = false ∧ p.Reason dto
  | .stopped status errorCode =>
    g.log.getLast? = some (.answered (.result status errorCode)) ∧ status ∈ [5, 6]
  | .refused pathIds status errorCode => ∃ dto t log, Taken p g.session dto ∧ dto.pathIds = pathIds ∧
      t ∈ trajectories dto ∧ g.log = log ++ [.sent t, .answered (.result status errorCode)] ∧
      status ∉ [5, 6] ∧ MoveItAnswer.result status errorCode ≠ .succeeded
  | .raised e => E e ∨ e = "execute trajectory client should be intialized at this point"

theorem Evidence.mono {E : String → Prop} {p p' : Planning.State} {g g' : Goal} {cause : Cause}
    (h : cause.Evidence E p g) (hp : p.Grows p')
    (hc : g.cancelRequested = true → g'.cancelRequested = true)
    (hsame : g'.log = g.log ∧ g'.completedIds = g.completedIds ∧ g'.session = g.session) :
    cause.Evidence E p' g' := by
  obtain ⟨hlog, hids, hsession⟩ := hsame
  cases cause <;> simp only [Evidence, hlog, hids, hsession] at h ⊢
  case cancelled | notSent => exact hc h
  case planFailed dto => exact ⟨hp.yielded h.1, h.2.1, h.2.2.mono hp⟩
  case refused pathIds status errorCode =>
    obtain ⟨dto, t, log, ht, h⟩ := h
    exact ⟨dto, t, log, ⟨hp.yielded ht.yielded, ht.success⟩, h⟩
  all_goals exact h

/-! ### The texts of the source -/

theorem text_of_tail (cause : Cause) (h : cause.tail = "") : cause.text = cause.head := by
  rw [text, h, String.append_empty]

theorem text_notSent :
    "Execution failed - " ++ "goal was cancelled by the client" = notSent.text := by
  rw [text_of_tail _ rfl]
  decide

theorem text_stopped (status : Int) (errorCode : Option Int) :
    "Execution failed - " ++ "trajectory execution was cancelled" =
      (stopped status errorCode).text := by
  rw [text_of_tail _ rfl]
  show _ = "Execution failed - trajectory execution was cancelled"
  decide

theorem text_refused (pathIds : List String) (status : Int) (errorCode : Option Int) :
    "Execution failed - " ++ ("failed to execute trajectory for paths " ++ pyList pathIds ++ ": " ++
      ("error code " ++ pyCode errorCode)) = (refused pathIds status errorCode).text := by
  have hhead : "Execution failed - failed to execute trajectory for paths " =
      "Execution failed - " ++ "failed to execute trajectory for paths " := by decide
  show _ = "Execution failed - failed to execute trajectory for paths " ++
    (pyList pathIds ++ ": " ++ ("error code " ++ pyCode errorCode))
  rw [hhead]
  simp only [String.append_assoc]

end Cause

/-! ### The thread -/

/-- The exception of the call that the step makes. -/
def Action.fault? : Action → Option String
  | .requestScene (.raises e) | .announce (some e) | .send _ (some e) | .answer (.raised e)
  | .complete (some e) | .succeed (some e) => some e
  | _ => none

/-- The exceptions raised around the node are among `E`. -/
def Raising (E : String → Prop) (_ : State) : Label → Prop
  | .thread a => ∀ e ∈ a.fault?, E e
  | _ => True

def Pc.fresh : Pc → Bool
  | .accepted | .ready | .requesting => true
  | _ => false

/-- The event of a session is set only if its goal is cancelled. -/
def Goal.Heeds (p : Planning.State) (g : Goal) : Prop :=
  g.pc.planning = true → p.coord.cancelEvent = some true → g.cancelRequested = true

theorem Goal.Heeds.act {p p' : Planning.State} {g g' : Goal} {a : Action}
    (hc : Planning.Coherent p.coord) (h : g.Heeds p) (ha : g.Act p a p' g') : g'.Heeds p' := by
  have hstep {l : Planning.Label} (hs : Planning.step p l = some p') (hl : l ≠ .cancel)
      (hpc : g.pc = .requesting ∨ g.pc = .iterating) :
      p'.coord.cancelEvent = some true → g.cancelRequested = true :=
    fun he => h (by rcases hpc with hpc | hpc <;> rw [hpc] <;> rfl)
      ((Planning.step_cases hc hs).event hl he)
  cases ha with
  | started | halted | notRequested | answerFailed => rintro ⟨⟩
  | planAll hpc _ hs =>
    cases Planning.step_cases hc hs
    rintro - ⟨⟩
  | requested hpc _ _ hs => exact fun _ => hstep hs (by simp) (.inl hpc)
  | iterate hpc _ hs => exact fun _ => hstep hs (by simp) (.inr hpc)
  | polled hpc _ hs => exact fun _ => hstep hs (by simp) (.inr hpc)
  | pollFailed hpc _ hs => exact fun _ => hstep hs (by simp) (.inr hpc)
  | gotResult hpc _ _ _ hs => exact fun _ => hstep hs (by simp) (.inr hpc)
  | gotSentinel hpc _ _ hs => exact fun _ => hstep hs (by simp) (.inr hpc)
  | approved _ hpc | announced _ hpc | sent _ _ _ hpc | answered _ _ hpc | completed _ hpc =>
    exact fun _ => h (by rw [hpc]; rfl)
  | succeeded => exact h
  | failed _ hpc =>
    intro hplanning
    simp [hpc, Pc.planning] at hplanning

/-- The plan at hand was yielded in the session of the goal, and if it is a failure it has its reason,
or it is to end a cancelled goal. -/
structure Goal.Holds (p : Planning.State) (g : Goal) (dto : PlanResultDTO) : Prop where
  yielded : (g.session, dto) ∈ p.yielded
  reason : dto.success = false → p.Reason dto ∨ g.cancelRequested = true

structure Goal.Grounded (E : String → Prop) (p : Planning.State) (g : Goal) : Prop where
  fresh : g.pc.fresh = true → g.log = [] ∧ g.completedIds = []
  planned : ∀ dto, g.pc = .planned dto → g.Holds p dto
  failing : ∀ m, g.pc = .failing m → ∃ cause : Cause, m = cause.text ∧ cause.Evidence E p g

namespace Goal.Grounded

variable {E : String → Prop} {p p' : Planning.State} {g g' : Goal} {a : Action}

theorem mono (h : g.Grounded E p) (hp : p.Grows p') (hpc : g'.pc = g.pc)
    (hc : g.cancelRequested = true → g'.cancelRequested = true)
    (hsame : g'.log = g.log ∧ g'.completedIds = g.completedIds ∧ g'.session = g.session) :
    g'.Grounded E p' where
  fresh hf := by
    rw [hsame.1, hsame.2.1]
    exact h.fresh (hpc ▸ hf)
  planned dto hd :=
    let ⟨hyielded, hreason⟩ := h.planned dto (hpc ▸ hd)
    ⟨hsame.2.2 ▸ hp.yielded hyielded, fun hf => (hreason hf).imp (·.mono hp) hc⟩
  failing m hm :=
    let ⟨cause, htext, hev⟩ := h.failing m (hpc ▸ hm)
    ⟨cause, htext, hev.mono hp hc hsame⟩

theorem start (hpc : g.pc.fresh = true) (h : g.log = [] ∧ g.completedIds = []) : g.Grounded E p where
  fresh _ := h
  planned dto hd := by
    rw [hd] at hpc
    cases hpc
  failing m hm := by
    rw [hm] at hpc
    cases hpc

theorem fresh_of_act (h : g.Grounded E p) (ha : g.Act p a p' g') (hf : g'.pc.fresh = true) :
    g'.log = [] ∧ g'.completedIds = [] := by
  cases ha with
  | started hpc | planAll hpc => exact h.fresh (by rw [hpc]; rfl)
  | iterate hpc | polled hpc | succeeded hpc | failed _ hpc => simp [hpc, Pc.fresh] at hf
  | _ => cases hf

theorem holds_of_act (hc : Planning.Coherent p.coord) (hp : g.Placed p) (hr : p.Reasoned)
    (hheeds : g.Heeds p) (hqueue : g.pc = .iterating → p.coord.planQueue.isSome = true)
    (ha : g.Act p a p' g') {dto : PlanResultDTO} (hd : g'.pc = .planned dto) : g'.Holds p' dto := by
  cases ha with
  | pollFailed hpc _ hs hw =>
    -- there is a queue while the goal iterates
    cases Planning.step_cases hc hs with
    | polled => exact absurd rfl hw
    | pollFailed _ hnone =>
      rw [hnone] at hqueue
      cases hqueue hpc
  | gotResult hpc dto' hn _ hs =>
    cases hd
    refine ⟨?_, fun hf => ?_⟩
    · rw [goto, hp.planning (by rw [hpc]; rfl)]
      exact yielded_of_get hc hn hs
    · by_cases he : p.coord.cancelEvent = some true
      · exact .inr (hheeds (by rw [hpc]; rfl) he)
      · obtain ⟨-, q, hq⟩ := hp.queue_of_next hpc hn
        refine .inl ((hr he dto ?_ hf).mono (Planning.step_cases hc hs).grows)
        rw [hq]
        exact List.mem_cons_self
  | iterate hpc | polled hpc | succeeded hpc | failed _ hpc => simp [hpc] at hd
  | _ => cases hd

theorem cause_of_raise (e : String) (hE : E e) {m : String} (hm : (g.raise e).pc = .failing m) :
    ∃ cause : Cause, m = cause.text ∧ cause.Evidence E p (g.raise e) := by
  cases hm
  exact ⟨.raised e, rfl, .inl hE⟩

/-- The three ways an answer of MoveIt ends an execution. -/
theorem cause_of_answer {dto : PlanResultDTO} {rest : List RobotTrajectory}
    (hpc : g.pc = .waiting dto rest) (ht : g.Tally p g.pc) {answer : MoveItAnswer}
    (hE : ∀ e ∈ Action.fault? (.answer answer), E e)
    (ha : (g.emit (.answered answer)).onAnswer p dto rest answer = (p', g')) {m : String}
    (hm : g'.pc = .failing m) : ∃ cause : Cause, m = cause.text ∧ cause.Evidence E p' g' := by
  rw [hpc] at ht
  obtain ⟨plans, sent, t, hexec, hts, hlog⟩ := ht
  obtain ⟨log, hlog⟩ : ∃ log, g.log = log ++ [.sent t] :=
    ⟨_, hlog.trans (List.append_assoc _ _ _).symm⟩
  cases answer with
  | raised e =>
    cases ha
    exact cause_of_raise e (hE e rfl) hm
  | result status errorCode =>
    simp only [Goal.onAnswer] at ha
    split at ha
    · next hstatus =>
      cases ha
      cases hm
      exact ⟨.stopped status errorCode, Cause.text_stopped status errorCode,
        List.getLast?_concat .., hstatus⟩
    next hstatus =>
    split at ha
    · next hcode =>
      cases ha
      cases hm
      refine ⟨.refused dto.pathIds status errorCode, Cause.text_refused _ status _, ?_⟩
      have htaken := hexec.taken dto (.inr rfl)
      refine ⟨dto, t, log, ⟨htaken.yielded, htaken.success⟩, rfl, by simp [hts], ?_, hstatus,
        fun heq => ?_⟩
      · show g.log ++ [.answered _] = _
        rw [hlog, List.append_assoc]
        rfl
      · cases heq
        simp at hcode
    · cases ha
      cases hm

/-- Every text that a step leaves to `_generate_failure_result` has its cause. -/
theorem cause_of_act (hc : Planning.Coherent p.coord) (hl : Planning.Ledger p) (hp : g.Placed p)
    (ht : g.Tally p g.pc) (h : g.Grounded E p) (hE : ∀ e ∈ a.fault?, E e)
    (ha : g.act p a = some (p', g')) {m : String} (hm : g'.pc = .failing m) :
    ∃ cause : Cause, m = cause.text ∧ cause.Evidence E p' g' := by
  unfold Goal.act at ha
  split at ha
  · next available hpc =>
    cases ha
    cases available <;> cases hm
    exact ⟨.unavailable, (Cause.text_of_tail .unavailable rfl).symm, hp.before (.inl hpc),
      h.fresh (by rw [hpc]; rfl)⟩
  · obtain ⟨_, hs, heq⟩ := Option.map_eq_some_iff.1 ha
    cases heq
    cases hm
  · next service hpc =>
    obtain ⟨_, hs, heq⟩ := Option.map_eq_some_iff.1 ha
    cases heq
    split at hm
    · cases hm
    · next e _ => exact cause_of_raise e (hE e rfl) hm
    · cases hm
      refine ⟨.notPlanned, (Cause.text_of_tail .notPlanned rfl).symm, ?_, h.fresh (by rw [hpc]; rfl)⟩
      rw [goto, hp.planning (by rw [hpc]; rfl)]
      refine hl.pos_of_starting ?_
      cases Planning.step_cases hc hs <;> assumption
  · next hpc =>
    obtain ⟨_, hs, heq⟩ := Option.map_eq_some_iff.1 ha
    cases heq
    simp [hpc] at hm
  · next hpc =>
    obtain ⟨_, hs, heq⟩ := Option.map_eq_some_iff.1 ha
    cases heq
    split at hm
    · simp [hpc] at hm
    · cases hm
  · split at ha
    · cases ha
    all_goals
      obtain ⟨_, hs, heq⟩ := Option.map_eq_some_iff.1 ha
      cases heq
      cases hm
  · next dto hpc =>
    cases ha
    split at hm
    · next hcancel =>
      cases hm
      exact ⟨.cancelled, (Cause.text_of_tail .cancelled rfl).symm, hcancel⟩
    next hcancel =>
    split at hm
    · next hfail =>
      cases hm
      obtain ⟨hyielded, hreason⟩ := h.planned dto hpc
      have hf : dto.success = false := by simpa using hfail
      exact ⟨.planFailed dto, rfl, hyielded, hf, (hreason hf).resolve_right hcancel⟩
    · cases hm
  · cases ha
    cases hm
  · next e hpc =>
    cases ha
    exact cause_of_raise e (hE e rfl) hm
  · next client fault hpc =>
    cases ha
    split at hm
    · cases hm
      exact ⟨.raised _, rfl, .inr rfl⟩
    next hclient =>
    split at hm
    · next hcancel =>
      cases hm
      rw [if_neg hclient, if_pos hcancel]
      exact ⟨.notSent, Cause.text_notSent, hcancel⟩
    split at hm
    · next e => exact cause_of_raise e (hE e rfl) hm
    · cases hm
  · next hpc => exact cause_of_answer hpc ht hE (Option.some.inj ha) hm
  · cases ha
    cases hm
  · next e hpc =>
    cases ha
    exact cause_of_raise e (hE e rfl) hm
  · next hpc =>
    cases ha
    simp [hpc] at hm
  · next e hpc =>
    cases ha
    exact cause_of_raise e (hE e rfl) hm
  · cases ha
    rw [Planning.getD_abandon]
    obtain ⟨cause, htext, hev⟩ := h.failing m hm
    have hgrows : p.Grows { p with consumer := if p.consumer = .polling then .idle else p.consumer } :=
      ⟨List.Subset.refl _, List.Subset.refl _, List.Subset.refl _, rfl, rfl⟩
    exact ⟨cause, htext, hev.mono hgrows id ⟨rfl, rfl, rfl⟩⟩
  · cases ha

theorem act (hc : Planning.Coherent p.coord) (hl : Planning.Ledger p) (hp : g.Placed p)
    (ht : g.Tally p g.pc) (hr : p.Reasoned) (hheeds : g.Heeds p)
    (hqueue : g.pc = .iterating → p.coord.planQueue.isSome = true) (h : g.Grounded E p)
    (hE : ∀ e ∈ a.fault?, E e) (ha : g.act p a = some (p', g')) : g'.Grounded E p' where
  fresh hf := h.fresh_of_act (act_cases ha) hf
  planned _ hd := holds_of_act hc hp hr hheeds hqueue (act_cases ha) hd
  failing _ hm := h.cause_of_act hc hl hp ht hE ha hm

end Goal.Grounded

/-! ### Runs -/

/-- The result is a success without a message, or a failure whose message has a cause. -/
def Goal.Explained (E : String → Prop) (p : Planning.State) (g : Goal)
    (r : ExecuteTrajectory.Result) : Prop :=
  r.success = true ∧ r.errorMessage = "" ∨
    r.success = false ∧ ∃ cause : Cause, r.errorMessage = cause.text ∧ cause.Evidence E p g

theorem Goal.Explained.mono {E : String → Prop} {p p' : Planning.State} {g : Goal}
    {r : ExecuteTrajectory.Result} (h : g.Explained E p r) (hp : p.Grows p') : g.Explained E p' r := by
  refine h.imp_right fun ⟨hfail, cause, htext, hev⟩ => ⟨hfail, cause, htext, ?_⟩
  exact hev.mono hp id ⟨rfl, rfl, rfl⟩

theorem Goal.Grounded.returned {E : String → Prop} {p p' : Planning.State} {g g' : Goal}
    {a : Action} (hrun : g.result = none) (h : g'.Grounded E p') (ha : g.Act p a p' g')
    {r : ExecuteTrajectory.Result} (hr : g'.result = some r) : g'.Explained E p' r := by
  cases ha with
  | succeeded hpc =>
    cases hr
    exact .inl ⟨rfl, rfl⟩
  | failed m hpc =>
    cases hr
    exact .inr ⟨rfl, h.failing m hpc⟩
  | _ => simp [goto, emit, hrun] at hr

theorem Step.grows {w w' : State} {l : Label} (hw : Sound w) (h : Step w l w') :
    w.plan.Grows w'.plan := by
  rcases h.plan with hp | ⟨l, hl⟩
  · rw [hp]
    exact .refl _
  · exact (Planning.step_cases hw.coherent hl).grows

structure AllExplained (E : String → Prop) (w : State) : Prop where
  reasoned : w.plan.Reasoned
  heeds : ∀ g ∈ w.current, g.Heeds w.plan
  current : ∀ g ∈ w.current, g.Grounded E w.plan
  finished : ∀ g ∈ w.finished, ∀ r ∈ g.result, g.Explained E w.plan r

namespace AllExplained

variable {E : String → Prop} {c : PlanningCoordinator} {w w' : State} {l : Label}

theorem init (E : String → Prop) (c : PlanningCoordinator) : AllExplained E (init c) where
  reasoned := fun _ dto hdto => absurd hdto List.not_mem_nil
  heeds := by rintro _ ⟨⟩
  current := by rintro _ ⟨⟩
  finished := by rintro _ ⟨⟩

theorem thread (hreach : Lts.Reaches Execution.step (Execution.init c) w) (ht : Tallied w)
    (h : AllExplained E w) {a : Action} (hl : ∀ e ∈ a.fault?, E e) {g g' : Goal} {p : Planning.State}
    (hg : w.current = some g) (ha : g.act w.plan a = some (p, g')) (hreasoned : p.Reasoned)
    (hgrows : w.plan.Grows p) : AllExplained E (w.advance p g') := by
  have hw := Sound.of_reaches hreach
  have hplaced := hw.current g hg
  have hheeds := h.heeds g hg
  have hground := (h.current g hg).act hw.coherent hw.ledger hplaced (ht.current g hg) h.reasoned hheeds
    (queue_of_iterating hreach hg) hl ha
  have hfinished : ∀ g ∈ w.finished, ∀ r ∈ g.result, g.Explained E p r :=
    fun g hg r hr => (h.finished g hg r hr).mono hgrows
  rcases w.advance_cases p g' with ⟨-, heq⟩ | ⟨-, heq⟩ <;> rw [heq]
  · refine ⟨hreasoned, ?_, ?_, hfinished⟩
    · rintro _ ⟨⟩
      exact hheeds.act hw.coherent (Goal.act_cases ha)
    · rintro _ ⟨⟩
      exact hground
  · refine ⟨hreasoned, by rintro _ ⟨⟩, by rintro _ ⟨⟩, fun k hk r hr => ?_⟩
    rcases List.mem_append.1 hk with hk | hk
    · exact hfinished k hk r hr
    · obtain rfl := List.mem_singleton.1 hk
      exact hground.returned hplaced.running (Goal.act_cases ha) hr

theorem step (hreach : Lts.Reaches Execution.step (Execution.init c) w) (ht : Tallied w)
    (h : AllExplained E w) (hl : Raising E w l) (hs : Execution.step w l = some w') :
    AllExplained E w' := by
  have hw := Sound.of_reaches hreach
  have hgrows := (step_cases hs).grows hw
  have hreasoned : w'.plan.Reasoned := by
    rcases (step_cases hs).plan with hp | ⟨k, hk⟩
    · rw [hp]
      exact h.reasoned
    · exact h.reasoned.step hw.coherent (Planning.step_cases hw.coherent hk)
  have hfinished : ∀ g ∈ w.finished, ∀ r ∈ g.result, g.Explained E w'.plan r :=
    fun g hg r hr => (h.finished g hg r hr).mono hgrows
  cases l with
  | accept goal =>
    cases step_cases hs
    refine ⟨hreasoned, ?_, ?_, hfinished⟩
    · rintro _ ⟨⟩ ⟨⟩
    · rintro _ ⟨⟩
      exact .start rfl ⟨rfl, rfl⟩
  | cancel =>
    obtain ⟨g, hg, rfl⟩ := Option.map_eq_some_iff.1 hs
    refine ⟨hreasoned, ?_, ?_, hfinished⟩
    · rintro _ ⟨⟩
      exact fun _ _ => rfl
    · rintro _ ⟨⟩
      exact (h.current g hg).mono hgrows rfl (fun _ => rfl) ⟨rfl, rfl, rfl⟩
  | deliver i answer call =>
    obtain ⟨p, hd, rfl⟩ := Option.map_eq_some_iff.1 hs
    refine ⟨hreasoned, fun g hg hpc he => h.heeds g hg hpc ?_,
      fun g hg => (h.current g hg).mono hgrows rfl id ⟨rfl, rfl, rfl⟩, hfinished⟩
    exact (Planning.step_cases hw.coherent hd).event (by simp) he
  | thread a =>
    obtain ⟨g, hg, hs⟩ := Option.bind_eq_some_iff.1 hs
    obtain ⟨⟨p, g'⟩, ha, rfl⟩ := Option.map_eq_some_iff.1 hs
    rw [State.advance_plan] at hreasoned hgrows
    exact h.thread hreach ht hl hg ha hreasoned hgrows

end AllExplained

instance (E : String → Prop) [DecidablePred E] (w : State) : ∀ l, Decidable (Raising E w l)
  | .thread a => inferInstanceAs (Decidable (∀ e ∈ a.fault?, E e))
  | .accept _ | .cancel | .deliver .. => isTrue trivial

end Execution
end MovementController
