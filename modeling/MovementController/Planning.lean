import MovementController.Callbacks
import MovementController.Lib.Runs

/-!
# Runs of the coordinator

The coordinator in its environment: `plan_all` in its two steps, `cancel`, one consumer of
`iterate_planned_trajectories`, and the service responses, which arrive in any order and at any
time. Every step is one label of `Planning.step`; a callback is atomic.

The last four fields of `Planning.State` are a history that no step reads.
-/

namespace MovementController
open PlanningCoordinator
namespace Planning

/-- An outstanding request, with the number of the latest `plan_all` when it was issued. -/
structure Outstanding where
  session : Nat
  ask : Ask
deriving DecidableEq, Repr

/-- Where the consumer of `iterate_planned_trajectories` is: not iterating, at the head of the loop
(or suspended at its `yield`), inside `get()` of the coordinator's queue, or inside `get()` of a
queue, holding `q`, that is no longer the coordinator's. -/
inductive Consumer where
  | idle
  | polling
  | waiting
  | stale (q : List QueueItem)
deriving DecidableEq, Repr

/-- The state of the system. `sessionNo` counts the `plan_all` calls; `starting` holds between the
two steps of the latest one and `started` once it has returned `True`; `ended` records that a
sentinel was consumed since it began. -/
structure State where
  coord : PlanningCoordinator
  pending : List Outstanding := []
  sessionNo : Nat := 0
  starting : Bool := false
  started : Bool := false
  ended : Bool := false
  consumer : Consumer := .idle
  planned : List (List Group) := []
  dispatched : List (Nat × PlanRequest) := []
  delivered : List (Outstanding × Answer) := []
  yielded : List (Nat × PlanResultDTO) := []
deriving DecidableEq, Repr

inductive SceneService where
  | available
  | unavailable
  | raises (e : String)
deriving DecidableEq, Repr

inductive Label where
  /-- `plan_all`: the new event, queue and session. -/
  | planAll (groups : List Group)
  /-- `plan_all`: the service wait and `call_async`. -/
  | requestScene (service : SceneService)
  | cancel
  | iterate
  /-- The consumer asks for the next item: the head of the loop, up to `get()`. -/
  | poll
  | get
  | abandon
  /-- The `i`-th outstanding response arrives; `call` says how a `plan_group_async` call fares. -/
  | deliver (i : Nat) (answer : Answer) (call : PlanRequest → CallFaults)

def noQueue : PlanResultDTO :=
  .failure "plan queue not initialized; did you call plan_all()?"

/-- The consumer once `_plan_queue`, which held `q`, refers to another queue or to none. -/
def Consumer.detach (q : Option (List QueueItem)) : Consumer → Consumer
  | .waiting => .stale (q.getD [])
  | consumer => consumer

namespace State

def setup (w : State) (groups : List Group) : State :=
  { w with
    coord := w.coord.planAllSetup groups
    sessionNo := w.sessionNo + 1
    starting := true
    started := false
    ended := false
    consumer := w.consumer.detach w.coord.planQueue
    planned := w.planned ++ [groups] }

def sceneRequested (w : State) : State :=
  { w with pending := w.pending ++ [⟨w.sessionNo, .scene⟩], starting := false, started := true }

def settle (w : State) (i : Nat) (o : Outstanding) (answer : Answer) (t : Turn) : State :=
  { w with
    coord := t.coord
    pending := w.pending.eraseIdx i ++ t.issued.map fun (r, message) => ⟨w.sessionNo, .plan r message⟩
    dispatched := w.dispatched ++ t.dispatched.map fun r => (w.sessionNo, r)
    delivered := w.delivered ++ [(o, answer)] }

/-- Both `plan_all` (scene service unavailable) and the sentinel close the session. -/
def close (w : State) (consumer : Consumer) : State :=
  { w with coord := w.coord.clearSession, consumer := consumer }

/-- `get()` on the coordinator's queue and on a stale one; `none` while it blocks. -/
def get (w : State) : Option State :=
  match w.consumer with
  | .idle | .polling => none
  | .waiting =>
    match w.coord.planQueue with
    | none | some [] => none
    | some (.stopIteration :: _) => some { w.close .idle with ended := true }
    | some (.result dto :: q) =>
      some { w with
        coord := { w.coord with planQueue := some q }
        consumer := .polling
        yielded := w.yielded ++ [(w.sessionNo, dto)] }
  | .stale [] => none
  | .stale (.stopIteration :: _) => some { w.close .idle with ended := true }
  | .stale (.result dto :: _) =>
    some { w with consumer := .polling, yielded := w.yielded ++ [(w.sessionNo, dto)] }

end State

def step (w : State) : Label → Option State
  | .planAll groups =>
    if w.starting then none
    else some (w.setup groups)
  | .requestScene service =>
    if w.starting then
      match w.coord.sceneClient, service with
      | true, .available => some w.sceneRequested
      | true, .raises _ => some { w with starting := false }
      | _, _ => some { w.close (w.consumer.detach w.coord.planQueue) with starting := false }
    else none
  | .cancel => some { w with coord := w.coord.cancel }
  | .iterate => if w.consumer = .idle then some { w with consumer := .polling } else none
  | .poll =>
    if w.consumer = .polling then
      if w.coord.planQueue.isSome then some { w with consumer := .waiting }
      else some { w with consumer := .idle, yielded := w.yielded ++ [(w.sessionNo, noQueue)] }
    else none
  | .get => w.get
  | .abandon => if w.consumer = .polling then some { w with consumer := .idle } else none
  | .deliver i answer call =>
    match w.pending[i]? with
    | none => none
    | some o =>
      (o.ask.respond answer call ⟨w.coord, [], []⟩).map fun t => w.settle i o answer t.1

/-- The system after `on_activate`. -/
def init (c : PlanningCoordinator) : State := { coord := c.clearSession }

/-! ### Data for concrete runs -/

def firstPath : TrajectoryPathDTO :=
  .atOrigin "11111111-1111-4111-8111-111111111111" .LIN (by decide)

def secondPath : TrajectoryPathDTO :=
  .atOrigin "22222222-2222-4222-8222-222222222222" .LIN (by decide)

def turnPath : TrajectoryPathDTO :=
  .atOrigin "33333333-3333-4333-8333-333333333333" .PTP (by decide)

/-- The arm ends with its joint at `position`. -/
def endingAt (position : ℚ) : RobotTrajectory :=
  { jointTrajectory := { jointNames := ["joint"], points := [{ positions := [position] }] } }

def onePoint : MotionSequenceResponse where
  errorCode := MoveItErrorCodes.SUCCESS
  plannedTrajectories := [endingAt 1]

def turned : MotionPlanResponse where
  errorCode := MoveItErrorCodes.SUCCESS
  trajectory := endingAt 2

/-! ### The three session fields -/

/-- The event, the queue and the session exist together. -/
def Coherent (c : PlanningCoordinator) : Prop :=
  c.Closed ∨ ∃ b q s, c.cancelEvent = some b ∧ c.planQueue = some q ∧ c.session = some s

namespace Coherent

variable {c : PlanningCoordinator}

theorem closed_clearSession (c : PlanningCoordinator) : c.clearSession.Closed := ⟨rfl, rfl, rfl⟩

theorem cases (h : Coherent c) : c.Closed ∨ (c.cancelEvent = some true) ∨ ∃ q gs, c.Open q gs := by
  rcases h with h | ⟨_ | _, q, s, he, hq, hs⟩
  · exact .inl h
  · exact .inr (.inr ⟨q, s.groups, he, hq, s.currentGroup, hs⟩)
  · exact .inr (.inl he)

theorem cancel (h : Coherent c) : Coherent c.cancel := by
  rcases h with h | ⟨b, q, s, he, hq, hs⟩
  · exact .inl ⟨by simp [h.event], by simp [h.queue], h.session⟩
  · exact .inr ⟨true, [.result cancelFailure, .stopIteration], s, by simp [he], by simp [hq], hs⟩

end Coherent

theorem Outcome.coherent {v : Verdict} {caught : String → PlanResultDTO}
    {call : PlanRequest → CallFaults} {c : PlanningCoordinator} {q : List QueueItem}
    {gs : List Group} {t : Turn} (h : c.Open q gs) (ht : v.Outcome caught call c q gs t) :
    Coherent t.coord := by
  obtain ⟨current, hs⟩ := h.session
  cases ht
  · exact .inr ⟨_, _, _, h.event, rfl, hs⟩
  all_goals exact .inr ⟨_, _, _, h.event, rfl, rfl⟩

inductive Step (w : State) : Label → State → Prop
  | planAll (groups : List Group) (hs : w.starting = false) : Step w (.planAll groups) (w.setup groups)
  | sceneRequested (hs : w.starting = true) (hc : w.coord.sceneClient = true) :
      Step w (.requestScene .available) w.sceneRequested
  | sceneRaised (e : String) (hs : w.starting = true) (hc : w.coord.sceneClient = true) :
      Step w (.requestScene (.raises e)) { w with starting := false }
  | sceneUnavailable (service : SceneService) (hs : w.starting = true)
      (hc : w.coord.sceneClient = true → service = .unavailable) :
      Step w (.requestScene service)
        { w.close (w.consumer.detach w.coord.planQueue) with starting := false }
  | cancel : Step w .cancel { w with coord := w.coord.cancel }
  | iterate (hc : w.consumer = .idle) : Step w .iterate { w with consumer := .polling }
  | polled (hc : w.consumer = .polling) (hq : w.coord.planQueue.isSome = true) :
      Step w .poll { w with consumer := .waiting }
  | pollFailed (hc : w.consumer = .polling) (hq : w.coord.planQueue = none) :
      Step w .poll { w with consumer := .idle, yielded := w.yielded ++ [(w.sessionNo, noQueue)] }
  | gotResult (dto : PlanResultDTO) (q : List QueueItem) (hc : w.consumer = .waiting)
      (hq : w.coord.planQueue = some (.result dto :: q)) :
      Step w .get { w with
        coord := { w.coord with planQueue := some q }
        consumer := .polling
        yielded := w.yielded ++ [(w.sessionNo, dto)] }
  | gotSentinel (q : List QueueItem) (hc : w.consumer = .waiting)
      (hq : w.coord.planQueue = some (.stopIteration :: q)) :
      Step w .get { w.close .idle with ended := true }
  | gotStaleResult (dto : PlanResultDTO) (q : List QueueItem)
      (hc : w.consumer = .stale (.result dto :: q)) :
      Step w .get { w with consumer := .polling, yielded := w.yielded ++ [(w.sessionNo, dto)] }
  | gotStaleSentinel (q : List QueueItem) (hc : w.consumer = .stale (.stopIteration :: q)) :
      Step w .get { w.close .idle with ended := true }
  | abandon (hc : w.consumer = .polling) : Step w .abandon { w with consumer := .idle }
  /-- The session is closed or cancelled: the response is dropped. -/
  | ignored (i : Nat) (answer : Answer) (call : PlanRequest → CallFaults) (o : Outstanding)
      (ho : w.pending[i]? = some o) (hc : w.coord.Closed ∨ w.coord.cancelEvent = some true) :
      Step w (.deliver i answer call) (w.settle i o answer ⟨w.coord, [], []⟩)
  /-- The session is open: the verdict takes its turn. -/
  | acted (i : Nat) (answer : Answer) (call : PlanRequest → CallFaults) (o : Outstanding)
      (ho : w.pending[i]? = some o) (q : List QueueItem) (gs : List Group) (hc : w.coord.Open q gs)
      (v : Verdict) (hv : o.ask.verdict answer = some v) (t : Turn)
      (ht : v.Outcome o.ask.caught call w.coord q gs t) :
      Step w (.deliver i answer call) (w.settle i o answer t)

namespace Step

variable {w w' : State}

theorem of_requestScene {service : SceneService} (h : step w (.requestScene service) = some w') :
    Step w (.requestScene service) w' := by
  simp only [step] at h
  split at h
  · next hs =>
    split at h
    · next hc => cases h; exact .sceneRequested hs hc
    · next e hc => cases h; exact .sceneRaised e hs hc
    · next service _ _ havailable hraises =>
      cases h
      refine .sceneUnavailable _ hs fun hc => ?_
      cases service with
      | available => exact (havailable hc rfl).elim
      | unavailable => rfl
      | raises e => exact (hraises e hc rfl).elim
  · cases h

theorem of_poll (h : step w .poll = some w') : Step w .poll w' := by
  simp only [step] at h
  split at h
  · next hc =>
    split at h
    · next hq => cases h; exact .polled hc hq
    · next hq => cases h; exact .pollFailed hc (by simpa using hq)
  · cases h

theorem of_get (h : step w .get = some w') : Step w .get w' := by
  simp only [step, State.get] at h
  split at h
  · cases h
  · cases h
  · next hc =>
    split at h
    · cases h
    · cases h
    · next q hq => cases h; exact .gotSentinel q hc hq
    · next dto q hq => cases h; exact .gotResult dto q hc hq
  · cases h
  · next q hc => cases h; exact .gotStaleSentinel q hc
  · next dto q hc => cases h; exact .gotStaleResult dto q hc

theorem of_deliver {i : Nat} {answer : Answer} {call : PlanRequest → CallFaults}
    (hw : Coherent w.coord) (h : step w (.deliver i answer call) = some w') :
    Step w (.deliver i answer call) w' := by
  simp only [step] at h
  rcases ho : w.pending[i]? with _ | o
  · simp [ho] at h
  simp only [ho, Option.map_eq_some_iff] at h
  obtain ⟨t, ht, rfl⟩ := h
  rcases hw.cases with hc | hc | ⟨q, gs, hc⟩
  · rw [Ask.respond_closed hc, Option.map_eq_some_iff] at ht
    obtain ⟨v, -, rfl⟩ := ht
    exact .ignored i answer call o ho (.inl hc)
  · rw [Ask.respond_cancelled hc, Option.map_eq_some_iff] at ht
    obtain ⟨v, -, rfl⟩ := ht
    exact .ignored i answer call o ho (.inr hc)
  · rw [hc.respond, Option.map_eq_some_iff] at ht
    obtain ⟨v, hv, rfl⟩ := ht
    exact .acted i answer call o ho q gs hc v hv _ (hc.turn_outcome v _ call)

end Step

theorem step_cases {w w' : State} {l : Label} (hw : Coherent w.coord) (h : step w l = some w') :
    Step w l w' := by
  cases l with
  | planAll groups =>
    simp only [step, Option.ite_none_left_eq_some, Option.some.injEq] at h
    obtain ⟨hs, rfl⟩ := h
    exact .planAll groups (by simpa using hs)
  | requestScene service => exact .of_requestScene h
  | cancel => cases h; exact .cancel
  | iterate =>
    simp only [step, Option.ite_none_right_eq_some, Option.some.injEq] at h
    obtain ⟨hc, rfl⟩ := h
    exact .iterate hc
  | poll => exact .of_poll h
  | get => exact .of_get h
  | abandon =>
    simp only [step, Option.ite_none_right_eq_some, Option.some.injEq] at h
    obtain ⟨hc, rfl⟩ := h
    exact .abandon hc
  | deliver i answer call => exact .of_deliver hw h

/-- An abandoned generator is idle, and nothing else changes. -/
theorem getD_abandon (w : State) : (step w .abandon).getD w =
    { w with consumer := if w.consumer = .polling then .idle else w.consumer } := by
  rw [step]
  split
  · rfl
  · rfl

theorem Step.coherent {w w' : State} {l : Label} (hw : Coherent w.coord) (h : Step w l w') :
    Coherent w'.coord := by
  cases h with
  | planAll => exact .inr ⟨_, _, _, rfl, rfl, rfl⟩
  | sceneUnavailable => exact .inl (Coherent.closed_clearSession _)
  | gotSentinel => exact .inl (Coherent.closed_clearSession _)
  | gotStaleSentinel => exact .inl (Coherent.closed_clearSession _)
  | cancel => exact hw.cancel
  | gotResult dto q hc hq =>
    rcases hw with hw | ⟨b, _, s, he, -, hs⟩
    · exact absurd hq (by simp [hw.queue])
    · exact .inr ⟨b, q, s, he, rfl, hs⟩
  | acted i answer call o ho q gs hc v hv t ht => exact Outcome.coherent hc ht
  | _ => exact hw

theorem step_coherent {w w' : State} {l : Label} (hw : Coherent w.coord) (h : step w l = some w') :
    Coherent w'.coord :=
  (step_cases hw h).coherent hw

theorem eq_of_pending_singleton {w : State} {i : Nat} {o o' : Outstanding} (hp : w.pending = [o'])
    (ho : w.pending[i]? = some o) : i = 0 ∧ o = o' := by
  rw [hp] at ho
  cases i with
  | zero => exact ⟨rfl, (Option.some.inj ho).symm⟩
  | succ i => simp at ho

theorem map_result_append_eq_cons {ds : List PlanResultDTO} {tail q : List QueueItem}
    {dto : PlanResultDTO} (h : some (ds.map .result ++ tail) = some (.result dto :: q))
    (ht : tail.head? ≠ some (.result dto)) : ∃ ds', ds = dto :: ds' ∧ ds'.map .result ++ tail = q := by
  cases ds with
  | nil => rw [List.map_nil, List.nil_append, Option.some.injEq] at h; simp [h] at ht
  | cons dto' ds' =>
    simp only [List.map_cons, List.cons_append, Option.some.injEq, List.cons.injEq,
      QueueItem.result.injEq] at h
    exact ⟨ds', by rw [h.1], h.2⟩

theorem Step.delivered_subset {w w' : State} {l : Label} (h : Step w l w') :
    w.delivered ⊆ w'.delivered := by
  cases h with
  | ignored | acted => exact List.subset_append_left _ _
  | _ => exact fun _ h => h

/-! ### The requests and groups of one session -/

namespace State

def outstanding (w : State) (k : Nat) : List Ask :=
  (w.pending.filter (·.session == k)).map (·.ask)

def requests (w : State) (k : Nat) : List PlanRequest :=
  (w.dispatched.filter (·.1 == k)).map (·.2)

def results (w : State) (k : Nat) : List PlanResultDTO :=
  (w.yielded.filter (·.1 == k)).map (·.2)

/-- `dto` is the result of the request `r` of the `k`-th session. -/
def Answered (w : State) (k : Nat) (r : PlanRequest) (dto : PlanResultDTO) : Prop :=
  ∃ message answer, (⟨k, .plan r message⟩, answer) ∈ w.delivered ∧ r.toResult answer = some dto

/-- The groups of the `k`-th `plan_all`. -/
def groupsOf (w : State) : Nat → List Group
  | 0 => []
  | k + 1 => w.planned.getD k []

variable {w : State} {i : Nat} {o : Outstanding} {answer : Answer} {t : Turn} {k : Nat}

theorem mem_requests {r : PlanRequest} : r ∈ w.requests k ↔ (k, r) ∈ w.dispatched := by
  simp [requests]

theorem Answered.mono {w' : State} (hd : w.delivered ⊆ w'.delivered) {r : PlanRequest}
    {dto : PlanResultDTO} (h : w.Answered k r dto) : w'.Answered k r dto := by
  obtain ⟨message, answer, hm, hr⟩ := h
  exact ⟨message, answer, hd hm, hr⟩

theorem sceneRequested_outstanding :
    w.sceneRequested.outstanding w.sessionNo = w.outstanding w.sessionNo ++ [.scene] := by
  simp [outstanding, sceneRequested]

theorem settle_requests :
    (w.settle i o answer t).requests w.sessionNo = w.requests w.sessionNo ++ t.dispatched := by
  simp [requests, settle, List.filter_map, Function.comp_def]

theorem settle_requests_of_ne (hk : k ≠ w.sessionNo) :
    (w.settle i o answer t).requests k = w.requests k := by
  have hk' : (w.sessionNo == k) = false := by simpa using Ne.symm hk
  simp [requests, settle, List.filter_map, Function.comp_def, hk']

theorem settle_outstanding :
    (w.settle i o answer t).outstanding w.sessionNo =
      ((w.pending.eraseIdx i).filter (·.session == w.sessionNo)).map (·.ask) ++
        t.issued.map fun (r, message) => .plan r message := by
  simp [outstanding, settle, List.filter_map, Function.comp_def]

theorem settle_outstanding_of_ne (answer : Answer) (t : Turn) (ho : w.pending[i]? = some o)
    (hk : o.session ≠ w.sessionNo) :
    (w.settle i o answer t).outstanding w.sessionNo =
      w.outstanding w.sessionNo ++ t.issued.map fun (r, message) => .plan r message := by
  have hsplit := List.getElem?_eq_some_iff.1 ho
  obtain ⟨hi, ho⟩ := hsplit
  have herase : (w.pending.eraseIdx i).filter (·.session == w.sessionNo) =
      w.pending.filter (·.session == w.sessionNo) := by
    conv_rhs => rw [← List.take_append_drop i w.pending, List.drop_eq_getElem_cons hi, ho]
    simp [List.eraseIdx_eq_take_drop_succ, hk]
  rw [settle_outstanding, herase, outstanding]

theorem settle_outstanding_of_eq {ask : Ask} (answer : Answer) (t : Turn) (ho : w.pending[i]? = some o)
    (hk : o.session = w.sessionNo) (hw : w.outstanding w.sessionNo = [ask]) :
    o.ask = ask ∧ (w.settle i o answer t).outstanding w.sessionNo =
      t.issued.map fun (r, message) => .plan r message := by
  obtain ⟨hi, ho⟩ := List.getElem?_eq_some_iff.1 ho
  have hw' : ((w.pending.take i).filter (·.session == w.sessionNo)).map (·.ask) ++
      o.ask :: ((w.pending.drop (i + 1)).filter (·.session == w.sessionNo)).map (·.ask) = [ask] := by
    rw [← hw, outstanding]
    conv_rhs => rw [← List.take_append_drop i w.pending, List.drop_eq_getElem_cons hi, ho]
    simp [hk]
  obtain ⟨hl, hask, hr⟩ : (∀ a ∈ w.pending.take i, ¬ a.session = w.sessionNo) ∧ o.ask = ask ∧
      ∀ a ∈ w.pending.drop (i + 1), ¬ a.session = w.sessionNo := by
    simpa [List.append_eq_singleton_iff] using hw'
  have hnil : (w.pending.eraseIdx i).filter (·.session == w.sessionNo) = [] := by
    rw [List.eraseIdx_eq_take_drop_succ, List.filter_eq_nil_iff]
    simpa [or_imp, forall_and] using ⟨hl, hr⟩
  exact ⟨hask, by rw [settle_outstanding, hnil, List.map_nil, List.nil_append]⟩

end State

/-- The history names no session that has not begun. -/
structure Ledger (w : State) : Prop where
  fresh : w.sessionNo = 0 → w.starting = false ∧ w.pending = []
  planned : w.planned.length = w.sessionNo
  pending : ∀ o ∈ w.pending, o.session ≤ w.sessionNo
  dispatched : ∀ p ∈ w.dispatched, p.1 ≤ w.sessionNo
  yielded : ∀ p ∈ w.yielded, p.1 ≤ w.sessionNo

namespace Ledger

variable {w w' : State} {l : Label}

theorem init (c : PlanningCoordinator) : Ledger (init c) :=
  ⟨fun _ => ⟨rfl, rfl⟩, rfl, by simp [Planning.init], by simp [Planning.init], by simp [Planning.init]⟩

theorem settle (h : Ledger w) {i : Nat} {o : Outstanding} {answer : Answer} {t : Turn}
    (ho : w.pending[i]? = some o) : Ledger (w.settle i o answer t) := by
  refine ⟨fun hn => ?_, h.planned, fun o' ho' => ?_, fun p hp => ?_, h.yielded⟩
  · simp [(h.fresh hn).2] at ho
  · rcases List.mem_append.1 ho' with ho' | ho'
    · exact h.pending o' (List.mem_of_mem_eraseIdx ho')
    · obtain ⟨p, -, rfl⟩ := List.mem_map.1 ho'
      exact Nat.le_refl _
  · rcases List.mem_append.1 hp with hp | hp
    · exact h.dispatched p hp
    · obtain ⟨r, -, rfl⟩ := List.mem_map.1 hp
      exact Nat.le_refl _

theorem step (h : Ledger w) (hs : Step w l w') : Ledger w' := by
  have hyield (dto : PlanResultDTO) : ∀ p ∈ w.yielded ++ [(w.sessionNo, dto)], p.1 ≤ w.sessionNo := by
    intro p hp
    rcases List.mem_append.1 hp with hp | hp
    · exact h.yielded p hp
    · rw [List.mem_singleton.1 hp]
  cases hs with
  | planAll groups =>
    refine ⟨fun hn => ?_, ?_, fun o ho => ?_, fun p hp => ?_, fun p hp => ?_⟩
    · cases hn
    · simp [State.setup, h.planned]
    · exact (h.pending o ho).trans (Nat.le_succ _)
    · exact (h.dispatched p hp).trans (Nat.le_succ _)
    · exact (h.yielded p hp).trans (Nat.le_succ _)
  | sceneRequested hs =>
    refine ⟨fun hn => ?_, h.planned, fun o ho => ?_, h.dispatched, h.yielded⟩
    · have hnot := (h.fresh hn).1
      simp [hnot] at hs
    · rcases List.mem_append.1 ho with ho | ho
      · exact h.pending o ho
      · rw [List.mem_singleton.1 ho]
        exact Nat.le_refl _
  | pollFailed | gotResult dto | gotStaleResult dto =>
    exact ⟨h.fresh, h.planned, h.pending, h.dispatched, hyield _⟩
  | ignored i answer call o ho | acted i answer call o ho => exact h.settle ho
  | sceneRaised | sceneUnavailable =>
    exact ⟨fun hn => ⟨rfl, (h.fresh hn).2⟩, h.planned, h.pending, h.dispatched, h.yielded⟩
  | _ => exact ⟨h.fresh, h.planned, h.pending, h.dispatched, h.yielded⟩

theorem of_reaches {c : PlanningCoordinator} (h : Lts.Reaches Planning.step (Planning.init c) w) :
    Coherent w.coord ∧ Ledger w :=
  h.invariant (I := fun w => Coherent w.coord ∧ Ledger w)
    ⟨.inl (Coherent.closed_clearSession c), init c⟩ fun hw _ hs =>
    ⟨step_coherent hw.1 hs, hw.2.step (step_cases hw.1 hs)⟩

variable {k : Nat}

/-! The next session has no history. -/

theorem filter_eq_nil {α : Type} {l : List α} {f : α → Nat} {n : Nat} (h : ∀ a ∈ l, f a ≤ n)
    (hk : n < k) : l.filter (f · == k) = [] := by
  rw [List.filter_eq_nil_iff]
  intro a ha he
  have hle := h a ha
  have heq : f a = k := by simpa using he
  omega

theorem outstanding_eq_nil (h : Ledger w) (hk : w.sessionNo < k) : w.outstanding k = [] := by
  rw [State.outstanding, filter_eq_nil h.pending hk, List.map_nil]

theorem requests_eq_nil (h : Ledger w) (hk : w.sessionNo < k) : w.requests k = [] := by
  rw [State.requests, filter_eq_nil h.dispatched hk, List.map_nil]

theorem results_eq_nil (h : Ledger w) (hk : w.sessionNo < k) : w.results k = [] := by
  rw [State.results, filter_eq_nil h.yielded hk, List.map_nil]

end Ledger

end Planning
end MovementController
