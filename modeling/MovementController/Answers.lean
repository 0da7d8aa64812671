import MovementController.Planning

/-!
# How often a planner service answers

One `plan_group_async` call up to its end, with the response to the request it leaves outstanding,
and the number of times it has invoked `on_result` by then. `on_result` is any callback, and the
coordinator's `_on_group_planned`, which calls `plan_group_async` in turn, is one.
-/

namespace MovementController

/-! ### Counting invocations -/

/-- The state a callback works on, the invocations of `on_result` and whether a request is
outstanding. -/
structure Tally (σ : Type) where
  state : σ
  count : ℕ := 0
  outstanding : Bool := false

namespace Tally

variable {σ : Type}

def onResult (callback : OnResult σ) : OnResult (Tally σ) := fun dto t =>
  ({ t with state := (callback dto t.state).1, count := t.count + 1 }, (callback dto t.state).2)

def send (_ : PlannerMessage) (t : Tally σ) : Tally σ := { t with outstanding := true }

@[simp] theorem onResult_count (callback : OnResult σ) (dto : PlanResultDTO) (t : Tally σ) :
    (onResult callback dto t).1.count = t.count + 1 := rfl

@[simp] theorem onResult_raised (callback : OnResult σ) (dto : PlanResultDTO) (t : Tally σ) :
    (onResult callback dto t).2 = (callback dto t.state).2 := rfl

/-- A call made in the state `s`, and its response, if one is due, in the state `later`. -/
def ofCall (call : (PlannerMessage → Tally σ → Tally σ) → OnResult (Tally σ) → Tally σ →
      Tally σ × Option String)
    (respond : OnResult (Tally σ) → Tally σ → Tally σ × Option String)
    (callback : OnResult σ) (s later : σ) : Tally σ :=
  let t := (call send (onResult callback) { state := s }).1
  if t.outstanding then (respond (onResult callback) { t with state := later }).1 else t

end Tally

/-- `on_result` does not raise where `_on_plan_response` would catch it: inside the `try`, which the
exception of a future leaves before. -/
def Quiet {σ α : Type} (result : Option α → PlanResultDTO) (future : Future α) (callback : OnResult σ)
    (s : σ) : Prop :=
  match future with
  | .raised _ => True
  | .none => (callback (result none) s).2 = none
  | .value response => (callback (result (some response)) s).2 = none

theorem onPlanResponse_count {σ α : Type} (result : Option α → PlanResultDTO)
    (caught : String → PlanResultDTO) (future : Future α) (callback : OnResult σ) (t : Tally σ) :
    (onPlanResponse result caught future (Tally.onResult callback) t).1.count = t.count + 1 ↔
      Quiet result future callback t.state := by
  have htry (dto : PlanResultDTO) :
      (tryOnResult caught (Tally.onResult callback) dto t).1.count = t.count + 1 ↔
        (callback dto t.state).2 = none := by
    unfold tryOnResult
    split
    · next s h =>
      have hs : s = (Tally.onResult callback dto t).1 := by rw [h]
      have he : (callback dto t.state).2 = none := by rw [← Tally.onResult_raised, h]
      simp [hs, he]
    · next s e h =>
      have hs : s = (Tally.onResult callback dto t).1 := by rw [h]
      have he : (callback dto t.state).2 = some e := by rw [← Tally.onResult_raised, h]
      simp [hs, he]
  cases future with
  | raised e => simp [onPlanResponse, Quiet]
  | none => exact htry (result none)
  | value response => exact htry (result (some response))

/-- `call_async` with `add_done_callback`, which may raise. -/
def CallFaults.callAsync {σ : Type} (faults : CallFaults) (send : σ → σ) (s : σ) : σ × Option String :=
  match faults.calling with
  | some e => (s, some e)
  | none => (send s, none)

theorem CallFaults.callAsync_quiet {σ : Type} {faults : CallFaults} (h : faults.calling = none)
    (send : σ → σ) (s : σ) : faults.callAsync send s = (send s, none) := by
  rw [callAsync, h]

/-- The number of invocations of a call that either reaches `call_async`, which may raise, or gives
its result at once. -/
theorem Tally.ofCall_count_iff {σ : Type} {call : (PlannerMessage → Tally σ → Tally σ) →
      OnResult (Tally σ) → Tally σ → Tally σ × Option String}
    {respond : OnResult (Tally σ) → Tally σ → Tally σ × Option String} {callback : OnResult σ}
    {s later : σ} {calls : Prop} {faults : CallFaults} {quiet : Prop}
    (hcalls : calls → ∃ message, ∀ send onResult t,
      call send onResult t = faults.callAsync (send message) t)
    (hrefused : ¬ calls → ∃ dto, ∀ send onResult t, call send onResult t = onResult dto t)
    (hrespond : calls → ∀ t, t.state = later →
      ((respond (onResult callback) t).1.count = t.count + 1 ↔ quiet)) :
    (ofCall call respond callback s later).count = 1 ↔ (calls → faults.calling = none ∧ quiet) := by
  by_cases h : calls
  · obtain ⟨message, hcall⟩ := hcalls h
    simp only [ofCall, hcall, h, true_implies]
    cases hf : faults.calling with
    | some e => simp [CallFaults.callAsync, hf]
    | none => simpa [CallFaults.callAsync, hf, send] using
        hrespond h { state := later, outstanding := true } rfl
  · obtain ⟨dto, hcall⟩ := hrefused h
    simp [ofCall, hcall, h, onResult]

/-! ### The two services -/

namespace PilzPlannerService

variable {σ : Type} (svc : PilzPlannerService) (group : Group) (startState : RobotState)
  (faults : CallFaults)

/-- The client exists and the request can be built, so that `call_async` is reached. -/
def Calls : Prop :=
  svc.planSeqClient = true ∧ faults.building = none ∧
    (svc.generateMotionSequenceRequest group startState).isOk = true

def tally (callback : OnResult σ) (s later : σ) (future : Future MotionSequenceResponse) : Tally σ :=
  .ofCall (svc.planGroupAsync group startState faults) (onPlanResponse future group.pathIds) callback
    s later

variable {svc group startState faults}

theorem planGroupAsync_of_calls (σ : Type) (h : svc.Calls group startState faults) :
    ∃ message, ∀ (send : PlannerMessage → σ → σ) (onResult : OnResult σ) (s : σ),
      svc.planGroupAsync group startState faults send onResult s =
        faults.callAsync (send message) s := by
  obtain ⟨hclient, hbuild, hok⟩ := h
  cases hreq : svc.generateMotionSequenceRequest group startState with
  | error e =>
    rw [hreq] at hok
    cases hok
  | ok request =>
    refine ⟨.sequence request, fun send onResult s => ?_⟩
    simp only [planGroupAsync, hclient, hbuild, hreq]
    rfl

theorem planGroupAsync_of_not_calls (σ : Type) (h : ¬ svc.Calls group startState faults) :
    ∃ dto, ∀ (send : PlannerMessage → σ → σ) (onResult : OnResult σ) (s : σ),
      svc.planGroupAsync group startState faults send onResult s = onResult dto s := by
  simp only [planGroupAsync]
  cases hclient : svc.planSeqClient with
  | false => exact ⟨_, fun _ _ _ => rfl⟩
  | true =>
    cases hbuild : faults.building with
    | some e => exact ⟨_, fun _ _ _ => rfl⟩
    | none =>
      cases hreq : svc.generateMotionSequenceRequest group startState with
      | error e =>
        cases e with
        | invalidStartState => exact ⟨_, fun _ _ _ => rfl⟩
        | raised e => exact ⟨_, fun _ _ _ => rfl⟩
      | ok request => exact absurd ⟨hclient, hbuild, by rw [hreq]; rfl⟩ h

theorem tally_count_iff (callback : OnResult σ) (s later : σ) (future : Future MotionSequenceResponse) :
    (svc.tally group startState faults callback s later future).count = 1 ↔
      (svc.Calls group startState faults →
        faults.calling = none ∧ Quiet (result group.pathIds) future callback later) := by
  refine Tally.ofCall_count_iff (planGroupAsync_of_calls _) (planGroupAsync_of_not_calls _) ?_
  rintro - t rfl
  exact onPlanResponse_count (result group.pathIds) caught future callback t

end PilzPlannerService

namespace OmplPlannerService

variable {σ : Type} (svc : OmplPlannerService) (group : Group) (startState : RobotState)
  (faults : CallFaults)

/-- There is a path, the client exists and the request can be built, so that `call_async` is
reached. -/
def Calls : Prop := group ≠ [] ∧ svc.planClient = true ∧ faults.building = none

def headId : String := (group.head?.map (·.pathId)).getD ""

def tally (callback : OnResult σ) (s later : σ) (future : Future MotionPlanResponse) : Tally σ :=
  .ofCall (svc.planGroupAsync group startState faults) (onPlanResponse future (headId group)) callback
    s later

variable {svc group startState faults}

theorem planGroupAsync_of_calls (σ : Type) (h : svc.Calls group faults) :
    ∃ message, ∀ (send : PlannerMessage → σ → σ) (onResult : OnResult σ) (s : σ),
      svc.planGroupAsync group startState faults send onResult s =
        faults.callAsync (send message) s := by
  obtain ⟨hne, hclient, hbuild⟩ := h
  obtain ⟨path, rest, rfl⟩ := List.exists_cons_of_ne_nil hne
  refine ⟨.plan (svc.buildMotionPlanRequest path startState), fun send onResult s => ?_⟩
  simp only [planGroupAsync, hclient, hbuild]
  rfl

theorem planGroupAsync_of_not_calls (σ : Type) (h : ¬ svc.Calls group faults) :
    ∃ dto, ∀ (send : PlannerMessage → σ → σ) (onResult : OnResult σ) (s : σ),
      svc.planGroupAsync group startState faults send onResult s = onResult dto s := by
  cases group with
  | nil => exact ⟨_, fun _ _ _ => rfl⟩
  | cons path rest =>
    simp only [planGroupAsync]
    cases hclient : svc.planClient with
    | false => exact ⟨_, fun _ _ _ => rfl⟩
    | true =>
      cases hbuild : faults.building with
      | some e => exact ⟨_, fun _ _ _ => rfl⟩
      | none => exact absurd ⟨List.cons_ne_nil path rest, hclient, hbuild⟩ h

theorem tally_count_iff (callback : OnResult σ) (s later : σ) (future : Future MotionPlanResponse) :
    (svc.tally group startState faults callback s later future).count = 1 ↔
      (svc.Calls group faults →
        faults.calling = none ∧ Quiet (result (headId group)) future callback later) := by
  refine Tally.ofCall_count_iff (planGroupAsync_of_calls _) (planGroupAsync_of_not_calls _) ?_
  rintro - t rfl
  exact onPlanResponse_count (result (headId group)) (caught (headId group)) future callback t

end OmplPlannerService

/-! ### The coordinator's callback -/

theorem PlanningCoordinator.planGroupAsync_quiet {σ : Type} (c : PlanningCoordinator) (r : PlanRequest)
    {faults : CallFaults} (hf : faults.calling = none) (send : PlannerMessage → σ → σ)
    {onResult : OnResult σ} (hr : ∀ dto s, (onResult dto s).2 = none) (s : σ) :
    (c.planGroupAsync r faults send onResult s).2 = none := by
  unfold planGroupAsync
  cases r.planner with
  | pilz =>
    show (c.pilz.planGroupAsync r.group r.startState faults send onResult s).2 = none
    by_cases h : c.pilz.Calls r.group r.startState faults
    · obtain ⟨message, hcall⟩ := PilzPlannerService.planGroupAsync_of_calls σ h
      rw [hcall, CallFaults.callAsync_quiet hf]
    · obtain ⟨dto, hcall⟩ := PilzPlannerService.planGroupAsync_of_not_calls σ h
      rw [hcall, hr]
  | ompl =>
    show (c.ompl.planGroupAsync r.group r.startState faults send onResult s).2 = none
    by_cases h : c.ompl.Calls r.group faults
    · obtain ⟨message, hcall⟩ := OmplPlannerService.planGroupAsync_of_calls σ h
      rw [hcall, CallFaults.callAsync_quiet hf]
    · obtain ⟨dto, hcall⟩ := OmplPlannerService.planGroupAsync_of_not_calls σ h
      rw [hcall, hr]

namespace Turn

variable {call : PlanRequest → CallFaults}

theorem scheduleNext_quiet (hcall : ∀ r, (call r).calling = none) (startState : RobotState)
    (t : Turn) : (t.scheduleNext startState call).2 = none := by
  unfold scheduleNext
  split
  · rfl
  dsimp only
  split
  · rfl
  · exact PlanningCoordinator.planGroupAsync_quiet _ _ (hcall _) _ (fun _ _ => rfl) _

/-- `_on_group_planned` raises only what `call_async` raises for the next group. -/
theorem onGroupPlanned_quiet (hcall : ∀ r, (call r).calling = none) (dto : PlanResultDTO) (t : Turn) :
    (onGroupPlanned call dto t).2 = none := by
  unfold onGroupPlanned
  split
  · rfl
  dsimp only
  split
  · rfl
  · split
    · rfl
    · exact scheduleNext_quiet hcall _ _

end Turn

/-- Both services invoke `on_result` exactly once unless `call_async` raises, or `on_result` itself
does when it is given the outcome of a request. -/
theorem answers_once_iff (pilz : PilzPlannerService) (ompl : OmplPlannerService) (group : Group)
    (startState : RobotState) (faults : CallFaults) (σ : Type) (onResult : OnResult σ) (s later : σ) :
    (∀ future, (pilz.tally group startState faults onResult s later future).count = 1 ↔
      (pilz.Calls group startState faults → faults.calling = none ∧
        Quiet (PilzPlannerService.result group.pathIds) future onResult later)) ∧
    (∀ future, (ompl.tally group startState faults onResult s later future).count = 1 ↔
      (ompl.Calls group faults → faults.calling = none ∧
        Quiet (OmplPlannerService.result (OmplPlannerService.headId group)) future onResult later)) :=
  ⟨PilzPlannerService.tally_count_iff onResult s later, OmplPlannerService.tally_count_iff onResult s later⟩

/-- In a chain of groups in which no `call_async` raises, every call is answered once. -/
theorem answers_once_of_chain {pilz : PilzPlannerService} {ompl : OmplPlannerService} {group : Group}
    {startState : RobotState} {faults : CallFaults} {call : PlanRequest → CallFaults}
    (hf : faults.calling = none) (hcall : ∀ r, (call r).calling = none) (t later : Turn) :
    (∀ future,
      (pilz.tally group startState faults (Turn.onGroupPlanned call) t later future).count = 1) ∧
    (∀ future,
      (ompl.tally group startState faults (Turn.onGroupPlanned call) t later future).count = 1) := by
  have hquiet {α : Type} (result : Option α → PlanResultDTO) (future : Future α) :
      Quiet result future (Turn.onGroupPlanned call) later := by
    cases future with
    | raised e => trivial
    | none => exact Turn.onGroupPlanned_quiet hcall _ later
    | value response => exact Turn.onGroupPlanned_quiet hcall _ later
  exact ⟨fun future => (PilzPlannerService.tally_count_iff ..).2 fun _ => ⟨hf, hquiet _ future⟩,
    fun future => (OmplPlannerService.tally_count_iff ..).2 fun _ => ⟨hf, hquiet _ future⟩⟩

/-- Planning has begun, and the second of two groups is still to be planned. -/
def secondGroupLeft : Turn where
  coord := ((PlanningCoordinator.new "ur_manipulator").onActivate).planAllSetup [[Planning.secondPath]]

/-- The first group is planned, `call_async` raises for the second, and its exception makes the service
report the first one again, as a failure. -/
theorem answers_twice : ¬ ∀ (pilz : PilzPlannerService) (group : Group) (startState : RobotState)
    (faults : CallFaults) (onResult : OnResult Turn) (s later : Turn)
    (future : Future MotionSequenceResponse),
    (pilz.tally group startState faults onResult s later future).count = 1 := by
  intro h
  have htwice := h secondGroupLeft.coord.pilz [Planning.firstPath] {} {}
    (Turn.onGroupPlanned fun _ => { calling := some "client is invalid" }) secondGroupLeft
    secondGroupLeft (.value Planning.onePoint)
  exact absurd htwice (by decide)

example : (secondGroupLeft.coord.pilz.tally [Planning.firstPath] {} { calling := some "client is invalid" }
    (Turn.onGroupPlanned fun _ => {}) secondGroupLeft secondGroupLeft .none).count = 0 := by decide

end MovementController
