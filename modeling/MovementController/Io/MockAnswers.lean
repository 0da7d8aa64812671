import MovementController.Io.MockTimers
import Mathlib.Data.List.InsertIdx

/-!
# What `set_mock_behavior` answers

The runs of `MockRun` once more, with the requests that are being handled and the responses they get.
A request is validated, later checks the flag under the lock and then creates its timer; the handler
does not look at what `_schedule_mock_change` returns.
-/

namespace IoControllers

/-- The value that a request has for a signal of this type. -/
def SetMockBehavior.Request.value (request : SetMockBehavior.Request) (isDigital : Bool) : Value :=
  if isDigital then .bool request.digitalState else .float request.analogState

def SetMockBehavior.Response.message (pyFloat : ℚ → String) (response : SetMockBehavior.Response) :
    String :=
  response.rejection.elim "" (MockRejection.message pyFloat)

theorem append_ne {s : String} (h : s ≠ "") (t : String) : s ++ t ≠ "" :=
  fun hnil => h (String.append_eq_empty_iff.1 hnil).1

theorem MockRejection.message_ne (pyFloat : ℚ → String) (rejection : MockRejection) :
    rejection.message pyFloat ≠ "" := by
  cases rejection with
  | notSimulated =>
    show "node is not in simulated mode" ≠ ""
    decide
  | unknownName ioName => exact append_ne (append_ne (by decide) _) _
  | output ioName => exact append_ne (append_ne (by decide) _) _
  | negativeDelay delaySeconds => exact append_ne (append_ne (by decide) _) _

/-- A request, and the signal index that it is validated against. -/
structure MockCall where
  request : SetMockBehavior.Request
  signalIndex : Dict String SignalMeta
deriving DecidableEq, Repr

namespace MockCall

def isDigital (call : MockCall) : Bool :=
  ((Dict.get call.signalIndex call.request.ioName).map Prod.fst).getD false

def value (call : MockCall) : Value := call.request.value call.isDigital

/-- The timer applies the requested value to the requested input after the requested delay. -/
structure Scheduled (call : MockCall) (timer : MockTimer) : Prop where
  input : Dict.get call.signalIndex call.request.ioName = some (call.isDigital, .IN)
  ioName : timer.ioName = call.request.ioName
  value : timer.value = call.value
  delay : timer.delaySeconds = call.request.delaySeconds

/-- What the checks of the handler let through. -/
structure Valid (call : MockCall) : Prop where
  input : Dict.get call.signalIndex call.request.ioName = some (call.isDigital, .IN)
  delay : 0 ≤ call.request.delaySeconds

theorem of_validate {n : GpioController} {request : SetMockBehavior.Request} {v : Value}
    (h : n.validateMockBehavior request = .ok v) :
    Valid ⟨request, n.signalIndex⟩ ∧ v = value ⟨request, n.signalIndex⟩ := by
  unfold GpioController.validateMockBehavior at h
  split at h
  · cases h
  · split at h
    · cases h
    · next digital direction hget =>
      split at h
      · cases h
      · next hdirection =>
        split at h
        · cases h
        · next hdelay =>
          have hkind : isDigital ⟨request, n.signalIndex⟩ = digital := by
            unfold isDigital
            rw [hget]
            rfl
          refine ⟨⟨?_, not_lt.1 hdelay⟩, ?_⟩
          · rw [hkind, hget, not_not.1 hdirection]
          · unfold value
            rw [hkind]
            exact (Except.ok.inj h).symm

end MockCall

/-- A response, with the timers that the node created and listed on the way to it. -/
structure MockAnswer where
  call : MockCall
  response : SetMockBehavior.Response
  created : List MockTimer
  listed : List MockTimer

/-- The response says whether the change is scheduled. -/
structure MockAnswer.Truthful (a : MockAnswer) : Prop where
  success : a.response.success = true ↔
    ∃ timer, a.listed = [timer] ∧ a.created = [timer] ∧ a.call.Scheduled timer
  failure : a.response.success = false →
    a.listed = [] ∧ a.created = [] ∧ ∀ pyFloat, a.response.message pyFloat ≠ ""

/-- `calls` are those of the requests in `pending`, `held` is that of the request with the lock. -/
structure MockService extends MockRun where
  calls : List MockCall := []
  held : Option MockCall := none
  answers : List MockAnswer := []

/-! ### The steps of a request -/

namespace MockRun

variable {py : Pydantic} {s s' : MockRun} {l : Label}

theorem step_request {request : SetMockBehavior.Request} (hs : s.step py (.request request) = some s') :
    (∃ rejection, s.node.validateMockBehavior request = .error rejection ∧ s' = s) ∨
      ∃ value, s.node.validateMockBehavior request = .ok value ∧
        s' = { s with pending := s.pending ++ [(request, value)] } := by
  rw [step] at hs
  split at hs
  · next rejection hvalidate => exact .inl ⟨rejection, hvalidate, (Option.some.inj hs).symm⟩
  · next value hvalidate => exact .inr ⟨value, hvalidate, (Option.some.inj hs).symm⟩

theorem step_enter {i : ℕ} (hs : s.step py (.enter i) = some s') :
    s.mockLock = none ∧ ∃ held, s.pending[i]? = some held ∧
      s' = { s with
        pending := s.pending.eraseIdx i
        mockLock := if s.node.active then some held else none } := by
  rw [step] at hs
  obtain ⟨hlock, hs⟩ := Option.ite_none_left_eq_some.1 hs
  obtain ⟨held, hheld, rfl⟩ := Option.map_eq_some_iff.1 hs
  exact ⟨by simpa using hlock, held, hheld, rfl⟩

theorem step_schedule (hs : s.step py .schedule = some s') :
    ∃ request value, s.mockLock = some (request, value) ∧ s'.mockLock = none ∧
      s'.pending = s.pending ∧
      s'.node = s.node.appendMockTimer request.ioName value request.delaySeconds := by
  obtain ⟨⟨request, value⟩, hlock, rfl⟩ := Option.map_eq_some_iff.1 hs
  exact ⟨request, value, hlock, rfl, rfl, rfl⟩

/-- The other steps leave the requests alone. -/
theorem step_other (hs : s.step py l = some s') (hrequest : ∀ request, l ≠ .request request)
    (henter : ∀ i, l ≠ .enter i) (hschedule : l ≠ .schedule) :
    s'.pending = s.pending ∧ s'.mockLock = s.mockLock := by
  cases l with
  | request request => exact absurd rfl (hrequest request)
  | enter i => exact absurd rfl (henter i)
  | schedule => exact absurd rfl hschedule
  | configure input =>
    obtain ⟨-, hs⟩ := Option.ite_none_right_eq_some.1 hs
    rw [← Option.some.inj hs]
    exact ⟨rfl, rfl⟩
  | activate fault =>
    obtain ⟨-, hs⟩ := Option.ite_none_right_eq_some.1 hs
    split at hs
    · rw [← Option.some.inj hs]
      exact ⟨rfl, rfl⟩
    · rw [← Option.some.inj hs]
      exact ⟨rfl, rfl⟩
  | activateReturns =>
    obtain ⟨-, hs⟩ := Option.ite_none_right_eq_some.1 hs
    rw [← Option.some.inj hs]
    exact ⟨rfl, rfl⟩
  | close c =>
    obtain ⟨-, hs⟩ := Option.ite_none_right_eq_some.1 hs
    rw [← Option.some.inj hs]
    exact ⟨rfl, rfl⟩
  | take =>
    rw [step] at hs
    split at hs
    · obtain ⟨-, hs⟩ := Option.ite_none_left_eq_some.1 hs
      rw [← Option.some.inj hs]
      exact ⟨rfl, rfl⟩
    · cases hs
  | cancel =>
    rw [step] at hs
    split at hs
    · rw [← Option.some.inj hs]
      exact ⟨rfl, rfl⟩
    · cases hs
  | finish =>
    rw [step] at hs
    split at hs
    · rw [← Option.some.inj hs]
      exact ⟨rfl, rfl⟩
    · cases hs
  | fire timer =>
    obtain ⟨-, hs⟩ := Option.ite_none_right_eq_some.1 hs
    rw [← Option.some.inj hs]
    exact ⟨rfl, rfl⟩

end MockRun

/-! ### Runs with their answers -/

namespace MockService

inductive Label where
  | run (l : MockRun.Label)
  /-- `create_timer` raises, and so does the handler; the lock is released. -/
  | timerRaises

/-- The response to a call, when the run goes from `s` to `run` with it. -/
def answer (s : MockService) (run : MockRun) (call : MockCall) (response : SetMockBehavior.Response) :
    MockAnswer where
  call := call
  response := response
  created := run.node.armed.drop s.node.armed.length
  listed := run.node.mockTimers.drop s.node.mockTimers.length

def step (py : Pydantic) (s : MockService) : Label → Option MockService
  | .run l => (s.toMockRun.step py l).map fun run =>
    match l with
    | .request request =>
      let call := ⟨request, s.node.signalIndex⟩
      match s.node.validateMockBehavior request with
      | .error rejection =>
        let response := { success := false, rejection := some rejection }
        { s with toMockRun := run, answers := s.answers ++ [s.answer run call response] }
      | .ok _ => { s with toMockRun := run, calls := s.calls ++ [call] }
    | .enter i =>
      let calls := s.calls.eraseIdx i
      if s.node.active then { s with toMockRun := run, calls, held := s.calls[i]? }
      else
        -- what `_schedule_mock_change` returns is dropped
        let answers := s.calls[i]?.toList.map fun call => s.answer run call { success := true }
        { s with toMockRun := run, calls, answers := s.answers ++ answers }
    | .schedule =>
      let answers := s.held.toList.map fun call => s.answer run call { success := true }
      { s with toMockRun := run, held := none, answers := s.answers ++ answers }
    | _ => { s with toMockRun := run }
  | .timerRaises =>
    if s.mockLock.isSome then some { s with mockLock := none, held := none } else none

/-- A validated request, as `MockRun` keeps it. -/
def entry (call : MockCall) : SetMockBehavior.Request × Value := (call.request, call.value)

structure Inv (s : MockService) : Prop where
  pending : s.pending = s.calls.map entry
  mockLock : s.mockLock = s.held.map entry
  calls : ∀ call ∈ s.calls, call.Valid
  held : ∀ call, s.held = some call → call.Valid
  answers : ∀ a ∈ s.answers, a.Truthful

/-- `_schedule_mock_change` does not find the node inactive. -/
def Found (s : MockService) : Label → Prop
  | .run (.enter _) => s.node.active = true
  | _ => True

section

variable {py : Pydantic} {s s' : MockService} {l : Label} {run : MockRun} {call : MockCall}

theorem truthful_refusal (hnode : run.node = s.node) (rejection : MockRejection) :
    (s.answer run call { success := false, rejection := some rejection }).Truthful := by
  have hcreated : run.node.armed.drop s.node.armed.length = [] := by rw [hnode, List.drop_length]
  have hlisted : run.node.mockTimers.drop s.node.mockTimers.length = [] := by
    rw [hnode, List.drop_length]
  refine ⟨⟨fun h => ?_, ?_⟩, fun _ => ⟨hlisted, hcreated, (rejection.message_ne ·)⟩⟩
  · cases h
  · rintro ⟨timer, hone, -⟩
    change run.node.mockTimers.drop _ = _ at hone
    rw [hlisted] at hone
    cases hone

theorem truthful_schedule (h : call.Valid)
    (hnode : run.node = s.node.appendMockTimer call.request.ioName call.value call.request.delaySeconds) :
    (s.answer run call { success := true }).Truthful := by
  let timer : MockTimer := {
    id := s.node.nextTimer, ioName := call.request.ioName, value := call.value
    delaySeconds := max call.request.delaySeconds 0 }
  have hcreated : run.node.armed.drop s.node.armed.length = [timer] := by
    rw [hnode]
    exact List.drop_left
  have hlisted : run.node.mockTimers.drop s.node.mockTimers.length = [timer] := by
    rw [hnode]
    exact List.drop_left
  refine ⟨⟨fun _ => ⟨timer, hlisted, hcreated, h.input, rfl, rfl, max_eq_left h.delay⟩, fun _ => rfl⟩, ?_⟩
  intro hno
  cases hno

/-- A success without a timer. -/
theorem not_truthful_dropped (call : MockCall) (hnode : run.node = s.node) :
    ¬(s.answer run call { success := true }).Truthful := by
  intro h
  obtain ⟨timer, hlisted, -⟩ := h.success.1 rfl
  change run.node.mockTimers.drop s.node.mockTimers.length = [timer] at hlisted
  rw [hnode, List.drop_length] at hlisted
  cases hlisted

namespace Inv

theorem initial : Inv {} := by
  refine ⟨rfl, rfl, ?_, ?_, ?_⟩
  · exact fun _ h => absurd h List.not_mem_nil
  · exact nofun
  · exact fun _ h => absurd h List.not_mem_nil

theorem answer (h : ∀ a ∈ s.answers, a.Truthful) {a : MockAnswer} (ha : a.Truthful) :
    ∀ b ∈ s.answers ++ [a], b.Truthful := by
  intro b hb
  rcases List.mem_append.1 hb with hb | hb
  · exact h b hb
  · rw [List.mem_singleton.1 hb]
    exact ha

theorem other (h : Inv s) (hpending : run.pending = s.pending) (hlock : run.mockLock = s.mockLock) :
    Inv { s with toMockRun := run } :=
  ⟨hpending.trans h.pending, hlock.trans h.mockLock, h.calls, h.held, h.answers⟩

theorem request (h : Inv s) {request : SetMockBehavior.Request}
    (hs : s.step py (.run (.request request)) = some s') : Inv s' := by
  obtain ⟨run, hrun, rfl⟩ := Option.map_eq_some_iff.1 hs
  rcases MockRun.step_request hrun with ⟨rejection, hvalidate, rfl⟩ | ⟨value, hvalidate, rfl⟩
  · simp only [hvalidate]
    exact ⟨h.pending, h.mockLock, h.calls, h.held, answer h.answers (truthful_refusal rfl rejection)⟩
  · obtain ⟨hvalid, rfl⟩ := MockCall.of_validate hvalidate
    simp only [hvalidate]
    refine ⟨?_, h.mockLock, fun call hcall => ?_, h.held, h.answers⟩
    · show s.pending ++ _ = _
      rw [h.pending, List.map_append]
      rfl
    · rcases List.mem_append.1 hcall with hcall | hcall
      · exact h.calls call hcall
      · rw [List.mem_singleton.1 hcall]
        exact hvalid

/-- The request that takes the lock, and what is left of the others. -/
theorem enter (h : Inv s) {i : ℕ} (hs : s.step py (.run (.enter i)) = some s') :
    ∃ call ∈ s.calls, s.calls[i]? = some call ∧
      (s.node.active = true → Inv s') ∧
      (s.node.active = false → ∃ run : MockRun, run.node = s.node ∧
        s'.answers = s.answers ++ [s.answer run call { success := true }]) := by
  obtain ⟨run, hrun, rfl⟩ := Option.map_eq_some_iff.1 hs
  obtain ⟨-, held, hheld, rfl⟩ := MockRun.step_enter hrun
  rw [h.pending, List.getElem?_map] at hheld
  obtain ⟨call, hcall, rfl⟩ := Option.map_eq_some_iff.1 hheld
  have hmem : call ∈ s.calls := List.mem_of_getElem? hcall
  refine ⟨call, hmem, hcall, fun hactive => ?_, fun hactive => ?_⟩
  · simp only [hactive, if_true]
    refine ⟨?_, ?_, fun c hc => h.calls c ((List.eraseIdx_sublist ..).subset hc), fun c hc => ?_,
      h.answers⟩
    · show s.pending.eraseIdx i = _
      rw [h.pending, List.eraseIdx_map]
    · show some (entry call) = s.calls[i]?.map entry
      rw [hcall]
      rfl
    · change s.calls[i]? = some c at hc
      rw [hcall] at hc
      exact Option.some.inj hc ▸ h.calls call hmem
  · refine ⟨{ s.toMockRun with pending := s.pending.eraseIdx i, mockLock := none }, rfl, ?_⟩
    simp only [hactive, hcall]
    rfl

theorem schedule (h : Inv s) (hs : s.step py (.run .schedule) = some s') : Inv s' := by
  obtain ⟨run, hrun, rfl⟩ := Option.map_eq_some_iff.1 hs
  obtain ⟨request, value, hlock, hfree, hpending, hnode⟩ := MockRun.step_schedule hrun
  rw [h.mockLock] at hlock
  obtain ⟨call, hcall, heq⟩ := Option.map_eq_some_iff.1 hlock
  obtain ⟨rfl, rfl⟩ := Prod.mk.inj heq
  refine ⟨hpending.trans h.pending, hfree, h.calls, nofun, ?_⟩
  show ∀ a ∈ s.answers ++ s.held.toList.map _, _
  rw [hcall]
  exact answer h.answers (truthful_schedule (h.held call hcall) hnode)

theorem step (h : Inv s) (hfound : s.Found l) (hs : s.step py l = some s') : Inv s' := by
  cases l with
  | timerRaises =>
    obtain ⟨-, hs⟩ := Option.ite_none_right_eq_some.1 hs
    rw [← Option.some.inj hs]
    exact ⟨h.pending, rfl, h.calls, nofun, h.answers⟩
  | run l =>
    have hother (hl : ∀ request, l ≠ .request request) (henter : ∀ i, l ≠ .enter i)
        (hschedule : l ≠ .schedule) {run : MockRun} (hrun : s.toMockRun.step py l = some run) :
        Inv { s with toMockRun := run } := by
      obtain ⟨hpending, hlock⟩ := MockRun.step_other hrun hl henter hschedule
      exact h.other hpending hlock
    cases l with
    | request request => exact h.request hs
    | enter i =>
      obtain ⟨-, -, -, hkeeps, -⟩ := h.enter hs
      exact hkeeps hfound
    | schedule => exact h.schedule hs
    | _ =>
      obtain ⟨run, hrun, rfl⟩ := Option.map_eq_some_iff.1 hs
      exact hother nofun nofun nofun hrun

end Inv

/-- An answer is wrong exactly after a request that `_schedule_mock_change` turns away. -/
theorem exactly_truthful (py : Pydantic) :
    Lts.Exactly (step py) Found (fun s => ∀ a ∈ s.answers, a.Truthful) {} := by
  refine .of_invariant (I := Inv) .initial (fun h => h.answers) (fun h he hs => h.step he hs) ?_
  intro s s' l h hnot hs htruthful
  cases l with
  | timerRaises => exact hnot trivial
  | run l =>
    cases l with
    | enter i =>
      obtain ⟨call, -, -, -, hdropped⟩ := h.enter hs
      obtain ⟨run, hnode, hanswers⟩ := hdropped (Bool.eq_false_iff.2 hnot)
      refine not_truthful_dropped call hnode (htruthful _ ?_)
      rw [hanswers]
      exact List.mem_append_right _ (List.mem_singleton_self _)
    | _ => exact hnot trivial

theorem step_refused {request : SetMockBehavior.Request} {rejection : MockRejection}
    (hvalidate : s.node.validateMockBehavior request = .error rejection) :
    s.step py (.run (.request request)) = some { s with
      answers := s.answers ++ [s.answer s.toMockRun ⟨request, s.node.signalIndex⟩
        { success := false, rejection := some rejection }] } := by
  simp [step, MockRun.step, hvalidate]

theorem step_validated {request : SetMockBehavior.Request} {value : Value}
    (hvalidate : s.node.validateMockBehavior request = .ok value) :
    s.step py (.run (.request request)) = some { s with
      pending := s.pending ++ [(request, value)]
      calls := s.calls ++ [⟨request, s.node.signalIndex⟩] } := by
  simp [step, MockRun.step, hvalidate]

variable (py) in
/-- A validated request that finds the node inactive gets its answer. -/
theorem step_dropped {i : ℕ} {held : SetMockBehavior.Request × Value} (hlock : s.mockLock = none)
    (hactive : s.node.active = false) (hheld : s.pending[i]? = some held)
    (hcall : s.calls[i]? = some call) :
    ∃ s', s.step py (.run (.enter i)) = some s' ∧ s'.node = s.node ∧
      ∃ a, a.response = { success := true } ∧ s'.answers = s.answers ++ [a] := by
  let run : MockRun := { s.toMockRun with pending := s.pending.eraseIdx i }
  let a := s.answer run call { success := true }
  have hrun : s.toMockRun.step py (.enter i) = some run := by
    simp [MockRun.step, hheld, hlock, hactive, run]
  have henter : s.step py (.run (.enter i)) = some { s with
      toMockRun := run, calls := s.calls.eraseIdx i, answers := s.answers ++ [a] } := by
    simp [step, hrun, hactive, hcall, a]
  exact ⟨_, henter, rfl, a, rfl, rfl⟩

variable (py) in
/-- One that finds it active gets its timer first. -/
theorem reaches_scheduled {i : ℕ} {request : SetMockBehavior.Request} {value : Value}
    (hlock : s.mockLock = none) (hactive : s.node.active = true)
    (hheld : s.pending[i]? = some (request, value)) (hcall : s.calls[i]? = some call) :
    ∃ s', Lts.Reaches (step py) s s' ∧
      s'.node = s.node.appendMockTimer request.ioName value request.delaySeconds ∧
      ∃ a, a.response = { success := true } ∧ s'.answers = s.answers ++ [a] := by
  let run : MockRun := { s.toMockRun with
    pending := s.pending.eraseIdx i, mockLock := some (request, value) }
  let s₁ : MockService := { s with
    toMockRun := run, calls := s.calls.eraseIdx i, held := some call }
  have hrun : s.toMockRun.step py (.enter i) = some run := by
    simp [MockRun.step, hheld, hlock, hactive, run]
  have henter : s.step py (.run (.enter i)) = some s₁ := by
    simp [step, hrun, hactive, hcall, s₁]
  let run' : MockRun := { run with
    node := s.node.appendMockTimer request.ioName value request.delaySeconds
    mockLock := none
    log := s.log ++ [.scheduled s.node.nextTimer] }
  let a := s₁.answer run' call { success := true }
  have hschedule : s₁.step py (.run .schedule) =
      some { s₁ with toMockRun := run', held := none, answers := s₁.answers ++ [a] } := rfl
  exact ⟨_, (Lts.Runs.single trivial henter).tail trivial hschedule, rfl, a, rfl, rfl⟩

/-- A request that nothing interrupts does what the handler does in one piece. -/
theorem reaches_handled (h : Inv s) (hlock : s.mockLock = none) (request : SetMockBehavior.Request) :
    ∃ s', Lts.Reaches (step py) s s' ∧ s'.node = (s.node.onSetMockBehavior request).1 ∧
      ∃ a, a.response = (s.node.onSetMockBehavior request).2 ∧ s'.answers = s.answers ++ [a] := by
  cases hvalidate : s.node.validateMockBehavior request with
  | error rejection =>
    have hhandled : s.node.onSetMockBehavior request =
        (s.node, { success := false, rejection := some rejection }) := by
      rw [GpioController.onSetMockBehavior, hvalidate]
    rw [hhandled]
    exact ⟨_, .single trivial (step_refused hvalidate), rfl, _, rfl, rfl⟩
  | ok value =>
    let call : MockCall := ⟨request, s.node.signalIndex⟩
    let s₁ : MockService :=
      { s with pending := s.pending ++ [(request, value)], calls := s.calls ++ [call] }
    have hreach : Lts.Reaches (step py) s s₁ := .single trivial (step_validated hvalidate)
    have hheld : s₁.pending[s.calls.length]? = some (request, value) := by
      simp [s₁, h.pending]
    have hcall : s₁.calls[s.calls.length]? = some call := by
      simp [s₁]
    have hhandled : s.node.onSetMockBehavior request =
        ((s.node.scheduleMockChange request.ioName value request.delaySeconds).1,
          { success := true }) := by
      rw [GpioController.onSetMockBehavior, hvalidate]
    rw [hhandled, GpioController.scheduleMockChange_eq]
    cases hactive : s.node.active with
    | false =>
      obtain ⟨s', henter, hanswer⟩ := step_dropped py (s := s₁) hlock hactive hheld hcall
      exact ⟨s', hreach.tail trivial henter, hanswer⟩
    | true =>
      obtain ⟨s', hrest, hanswer⟩ := reaches_scheduled py (s := s₁) hlock hactive hheld hcall
      exact ⟨s', hreach.trans hrest, hanswer⟩

end

/-- Throughout a run, a response says success if and only if the change is scheduled, exactly if no
request of the run that passes the checks finds the node inactive under the lock. -/
theorem answers_truthful_iff (py : Pydantic) (ls : List Label) (s : MockService) :
    Lts.Stays (step py) (fun s => ∀ a ∈ s.answers, a.Truthful) {} ls s ↔
      Lts.Trace (step py) Found {} ls s :=
  (exactly_truthful py).stays_iff

/-- The node is configured and not active; the request is valid, and nothing comes of it. -/
theorem success_unscheduled : ∃ s, Lts.Reaches (step .strict) {} s ∧ s.state = .inactive ∧
    s.answers.map (·.response) = [{ success := true }] ∧ s.node.mockTimers = [] ∧
    s.node.armed = [] ∧ ¬∀ a ∈ s.answers, a.Truthful := by
  refine ⟨_, .of_exec [.run (.configure ⟨some sampleConfig, true, 0, false⟩),
    .run (.request ⟨"part_present", true, 0, 1⟩), .run (.enter 0)] rfl, rfl, rfl, rfl, rfl, ?_⟩
  intro h
  obtain ⟨timer, hlisted, -⟩ := (h _ (List.mem_singleton_self _)).success.1 rfl
  cases hlisted

end MockService

end IoControllers
