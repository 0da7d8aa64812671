import MovementController.Io.Lifecycle
import MovementController.Lib.OneShots

/-!
# No scripted change outlives its activation

The transitions of the node at the granularity of their critical sections: the flag, which is written
without the lock, the list that `_cancel_mock_timers` takes over, and each timer it cancels. Requests of
`set_mock_behavior` and timers that fire come in between; the flag may drop between the check of
`_schedule_mock_change` and the timer it creates. What matters of the node are its mock timers
(`OneShots`).
-/

namespace IoControllers

/-- The transitions that cancel the mock timers. -/
inductive Closing where
  | deactivate (fault : Bool)
  | cleanup
  | shutdown
deriving DecidableEq, Repr

namespace Closing

def enabled (state : LifecycleState) : Closing → Bool
  | deactivate _ => state = .active
  | cleanup => state = .inactive
  | shutdown => state ≠ .finalized

def transition : Closing → Transition
  | deactivate fault => .deactivate fault
  | cleanup => .cleanup
  | shutdown => .shutdown

def target : Closing → LifecycleState
  | deactivate _ => .inactive
  | cleanup => .unconfigured
  | shutdown => .finalized

/-- The callback as a whole. -/
def callback (n : GpioController) : Closing → GpioController × TransitionCallbackReturn
  | deactivate fault => n.onDeactivate fault
  | cleanup => n.onCleanup
  | shutdown => n.onShutdown

/-- The callback up to `_cancel_mock_timers`. -/
def start (n : GpioController) : Closing → GpioController
  | deactivate _ => n.clearActive.dropPublishTimer
  | cleanup | shutdown => n.clearActive

/-- The callback from `_cancel_mock_timers` on. -/
def finish (n : GpioController) : Closing → GpioController × TransitionCallbackReturn
  | deactivate fault => ({ n with enabled := false } : GpioController).deactivateDriver fault
  | cleanup | shutdown => (n.releaseAll, .SUCCESS)

theorem callback_eq (n : GpioController) (c : Closing) :
    c.callback n = c.finish (c.start n).cancelMockTimers := by
  cases c <;> rfl

/-- The three are transitions of the managed node. -/
theorem transition_eq {py : Pydantic} {m : Managed} {c : Closing} (h : c.enabled m.state = true) :
    m.transition py c.transition = some (m.settle c.target (c.callback m.node)) := by
  cases c with
  | deactivate fault => exact if_pos (of_decide_eq_true h)
  | cleanup => exact if_pos (of_decide_eq_true h)
  | shutdown => exact if_pos (of_decide_eq_true h)

end Closing

/-- Where the thread of the lifecycle transitions is. -/
inductive Phase where
  | idle
  /-- `on_activate` has raised the flag and has not returned. -/
  | activated
  | lowered (c : Closing)
  | cancelling (c : Closing) (timers : List MockTimer)
deriving DecidableEq, Repr

namespace Phase

/-- The list that a running `_cancel_mock_timers` has taken over, as far as it is not cancelled. -/
def taken : Phase → List MockTimer
  | cancelling _ timers => timers
  | _ => []

def closing : Phase → OneShots.Closing MockTimer
  | idle | activated => .no
  | lowered _ => .lowered
  | cancelling _ timers => .cancelling timers

@[simp] theorem taken_closing (phase : Phase) : phase.closing.taken = phase.taken := by
  cases phase <;> rfl

end Phase

/-- The part of `_schedule_mock_change` that follows the check. -/
def GpioController.appendMockTimer (n : GpioController) (ioName : String) (value : Value)
    (delaySeconds : ℚ) : GpioController :=
  let timer := { id := n.nextTimer, ioName, value, delaySeconds := max delaySeconds 0 }
  { n with
    armed := n.armed ++ [timer]
    mockTimers := n.mockTimers ++ [timer]
    nextTimer := n.nextTimer + 1 }

theorem GpioController.scheduleMockChange_eq (n : GpioController) (ioName : String) (value : Value)
    (delaySeconds : ℚ) : n.scheduleMockChange ioName value delaySeconds =
      if n.active then (n.appendMockTimer ioName value delaySeconds, true) else (n, false) := by
  unfold scheduleMockChange appendMockTimer
  cases n.active <;> rfl

/-- The node, the thread of its transitions, the requests that are validated and not yet scheduled, the
one that has passed the check of `_schedule_mock_change` and holds `_mock_lock`, and what happened so
far to mock timers. -/
structure MockRun extends Managed where
  phase : Phase := .idle
  pending : List (SetMockBehavior.Request × Value) := []
  mockLock : Option (SetMockBehavior.Request × Value) := none
  log : List OneShots.Event := []

namespace MockRun

inductive Label where
  | configure (input : GpioController.ConfigureInput)
  | activate (fault : Bool)
  | activateReturns
  | close (c : Closing)
  | take
  | cancel
  | finish
  | request (request : SetMockBehavior.Request)
  /-- `_schedule_mock_change` takes the lock and checks the flag. -/
  | enter (i : ℕ)
  | schedule
  | fire (timer : MockTimer)

def step (py : Pydantic) (s : MockRun) : Label → Option MockRun
  | .configure input =>
    if s.phase = .idle ∧ s.state = .unconfigured then
      some { s with toManaged := (s.settle .inactive (s.node.onConfigure py input)).1 }
    else none
  | .activate fault =>
    if s.phase = .idle ∧ s.state = .inactive then
      let (node, ret) := s.node.onActivate fault
      match ret with
      | .SUCCESS => some { s with node, phase := .activated, log := s.log ++ [.raised] }
      | .FAILURE => some { s with node }
    else none
  | .activateReturns =>
    if s.phase = .activated then some { s with phase := .idle, state := .active } else none
  | .close c =>
    if s.phase = .idle ∧ c.enabled s.state then
      some { s with node := c.start s.node, phase := .lowered c }
    else none
  | .take =>
    match s.phase with
    | .lowered c =>
      if s.mockLock.isSome then none
      else some { s with node := s.node.takeMockTimers, phase := .cancelling c s.node.mockTimers }
    | _ => none
  | .cancel =>
    match s.phase with
    | .cancelling c (timer :: timers) =>
      some { s with node := s.node.cancelTimer timer, phase := .cancelling c timers }
    | _ => none
  | .finish =>
    match s.phase with
    | .cancelling c [] =>
      some { s with
        toManaged := (s.settle c.target (c.finish s.node)).1
        phase := .idle
        log := s.log ++ [.closed] }
    | _ => none
  | .request request =>
    match s.node.validateMockBehavior request with
    | .error _ => some s
    | .ok value => some { s with pending := s.pending ++ [(request, value)] }
  | .enter i =>
    if s.mockLock.isSome then none
    else
      s.pending[i]?.map fun held =>
        { s with
          pending := s.pending.eraseIdx i
          mockLock := if s.node.active then some held else none }
  | .schedule =>
    s.mockLock.map fun (request, value) =>
      { s with
        node := s.node.appendMockTimer request.ioName value request.delaySeconds
        mockLock := none
        log := s.log ++ [.scheduled s.node.nextTimer] }
  | .fire timer =>
    if timer ∈ s.node.armed then
      some { s with node := s.node.fire timer, log := s.log ++ [.applied timer.id] }
    else none

/-! ### The mock timers -/

/-- What concerns the mock timers. -/
def oneShots (s : MockRun) : OneShots.State MockTimer where
  flag := s.node.active
  locked := s.mockLock.isSome
  listed := s.node.mockTimers
  closing := s.phase.closing
  armed := s.node.armed
  next := s.node.nextTimer
  log := s.log

end MockRun

/-- The mock timers of the two nodes are the same. -/
structure GpioController.SameTimers (n n' : GpioController) : Prop where
  active : n'.active = n.active
  mockTimers : n'.mockTimers = n.mockTimers
  armed : n'.armed = n.armed
  nextTimer : n'.nextTimer = n.nextTimer

namespace GpioController

theorem sameTimers_onConfigure (py : Pydantic) (n : GpioController) (input : ConfigureInput) :
    n.SameTimers (n.onConfigure py input).1 := by
  obtain ⟨config, driver, -, heq⟩ | ⟨config, driver, -, heq⟩ := n.onConfigure_cases py input
  · rw [heq]
    show n.SameTimers (setUp _ _ _ _)
    rw [setUp]
    dsimp only
    split <;> exact ⟨rfl, rfl, rfl, rfl⟩
  · rw [heq]
    exact ⟨rfl, rfl, rfl, rfl⟩

theorem sameTimers_deactivateDriver (n : GpioController) (fault : Bool) :
    n.SameTimers (n.deactivateDriver fault).1 := by
  unfold deactivateDriver
  split
  · exact ⟨rfl, rfl, rfl, rfl⟩
  · split <;> exact ⟨rfl, rfl, rfl, rfl⟩

theorem sameTimers_finish (n : GpioController) (c : Closing) : n.SameTimers (c.finish n).1 := by
  cases c with
  | deactivate fault =>
    have h := sameTimers_deactivateDriver { n with enabled := false } fault
    exact ⟨h.active, h.mockTimers, h.armed, h.nextTimer⟩
  | cleanup => exact ⟨rfl, rfl, rfl, rfl⟩
  | shutdown => exact ⟨rfl, rfl, rfl, rfl⟩

/-- An activation that succeeds raises the flag and leaves the timers alone. -/
theorem onActivate_timers (n : GpioController) (fault : Bool) :
    (n.onActivate fault).2 = .FAILURE ∧ n.SameTimers (n.onActivate fault).1 ∨
      (n.onActivate fault).2 = .SUCCESS ∧
        ({ n with active := true } : GpioController).SameTimers (n.onActivate fault).1 := by
  obtain ⟨-, hret⟩ | ⟨driver, -, -, hret⟩ := n.onActivate_cases fault
  · rw [hret]
    exact .inl ⟨rfl, rfl, rfl, rfl, rfl⟩
  · rw [hret]
    exact .inr ⟨rfl, rfl, rfl, rfl, rfl⟩

theorem sameTimers_fire (n : GpioController) (timer : MockTimer) :
    (n.cancelTimer timer).SameTimers (n.fire timer) := by
  rcases n.fire_cases timer with heq | ⟨driver, -, heq⟩
  · rw [heq]
    exact ⟨rfl, rfl, rfl, rfl⟩
  · rw [heq]
    exact ⟨rfl, rfl, rfl, rfl⟩

end GpioController

namespace MockRun

variable {py : Pydantic} {s s' : MockRun} {l : Label}

theorem oneShots_congr (h : s.node.SameTimers s'.node) (hphase : s'.phase.closing = s.phase.closing)
    (hlock : s'.mockLock.isSome = s.mockLock.isSome) (hlog : s'.log = s.log) :
    s'.oneShots = s.oneShots := by
  unfold oneShots
  rw [h.active, h.mockTimers, h.armed, h.nextTimer, hphase, hlock, hlog]

theorem closing_oneShots {phase : Phase} (h : s.phase = phase) : s.oneShots.closing = phase.closing := by
  show s.phase.closing = _
  rw [h]

/-- What `on_activate` does to the mock timers is to raise the flag, if it succeeds. -/
theorem oneShots_activate {fault : Bool} (hs : s.step py (.activate fault) = some s') :
    s'.oneShots = s.oneShots ∨ OneShots.step MockTimer.id s.oneShots .raise = some s'.oneShots := by
  rw [step] at hs
  obtain ⟨⟨hphase, -⟩, hs⟩ := Option.ite_none_right_eq_some.1 hs
  dsimp only at hs
  rcases s.node.onActivate_timers fault with ⟨hret, hsame⟩ | ⟨hret, hsame⟩
  · rw [hret] at hs
    rw [← Option.some.inj hs]
    exact .inl (oneShots_congr hsame rfl rfl rfl)
  · rw [hret] at hs
    rw [← Option.some.inj hs]
    right
    rw [OneShots.step, closing_oneShots hphase]
    unfold oneShots
    rw [hsame.active, hsame.mockTimers, hsame.armed, hsame.nextTimer, hphase]
    rfl

/-- A request that finds the flag down gives the lock back at once. -/
theorem oneShots_enter {i : ℕ} (hs : s.step py (.enter i) = some s') :
    s'.oneShots = s.oneShots ∨ OneShots.step MockTimer.id s.oneShots .enter = some s'.oneShots := by
  rw [step] at hs
  obtain ⟨hlock, hs⟩ := Option.ite_none_left_eq_some.1 hs
  obtain ⟨held, -, rfl⟩ := Option.map_eq_some_iff.1 hs
  have hfree : s.mockLock.isSome = false := by simpa using hlock
  cases hactive : s.node.active with
  | false =>
    refine .inl (oneShots_congr ⟨rfl, rfl, rfl, rfl⟩ rfl ?_ rfl)
    rw [hfree]
    rfl
  | true =>
    right
    have hready : s.oneShots.flag = true ∧ !s.oneShots.locked := by
      show s.node.active = true ∧ (!s.mockLock.isSome) = true
      simp [hactive, hfree]
    rw [OneShots.step, if_pos hready]
    unfold oneShots
    dsimp only
    rw [hactive]
    rfl

/-- Each step does one thing to the mock timers, or nothing. -/
theorem oneShots_step (hs : s.step py l = some s') : s'.oneShots = s.oneShots ∨
    ∃ k, True ∧ OneShots.step MockTimer.id s.oneShots k = some s'.oneShots := by
  cases l with
  | configure input =>
    obtain ⟨-, hs⟩ := Option.ite_none_right_eq_some.1 hs
    rw [← Option.some.inj hs]
    exact .inl (oneShots_congr (s.node.sameTimers_onConfigure py input) rfl rfl rfl)
  | activate fault => exact (oneShots_activate hs).imp_right fun h => ⟨.raise, trivial, h⟩
  | activateReturns =>
    obtain ⟨hphase, hs⟩ := Option.ite_none_right_eq_some.1 hs
    rw [← Option.some.inj hs]
    refine .inl (oneShots_congr ⟨rfl, rfl, rfl, rfl⟩ ?_ rfl rfl)
    rw [hphase]
    rfl
  | close c =>
    obtain ⟨⟨hphase, -⟩, hs⟩ := Option.ite_none_right_eq_some.1 hs
    rw [← Option.some.inj hs]
    refine .inr ⟨.lower, trivial, ?_⟩
    rw [OneShots.step, closing_oneShots hphase]
    cases c <;> rfl
  | take =>
    rw [step] at hs
    split at hs
    · next c hphase =>
      obtain ⟨hlock, hs⟩ := Option.ite_none_left_eq_some.1 hs
      rw [← Option.some.inj hs]
      refine .inr ⟨.take, trivial, ?_⟩
      rw [OneShots.step, closing_oneShots hphase]
      exact if_neg hlock
    · cases hs
  | cancel =>
    rw [step] at hs
    split at hs
    · next c timer timers hphase =>
      rw [← Option.some.inj hs]
      refine .inr ⟨.cancel, trivial, ?_⟩
      rw [OneShots.step, closing_oneShots hphase]
      rfl
    · cases hs
  | finish =>
    rw [step] at hs
    split at hs
    · next c hphase =>
      rw [← Option.some.inj hs]
      refine .inr ⟨.finish, trivial, ?_⟩
      have hsame := s.node.sameTimers_finish c
      rw [OneShots.step, closing_oneShots hphase]
      unfold oneShots
      dsimp only [Managed.settle]
      rw [hsame.active, hsame.mockTimers, hsame.armed, hsame.nextTimer]
      rfl
    · cases hs
  | request request =>
    rw [step] at hs
    split at hs
    · rw [← Option.some.inj hs]
      exact .inl rfl
    · rw [← Option.some.inj hs]
      exact .inl rfl
  | enter i => exact (oneShots_enter hs).imp_right fun h => ⟨.enter, trivial, h⟩
  | schedule =>
    obtain ⟨⟨request, value⟩, hlock, rfl⟩ := Option.map_eq_some_iff.1 hs
    refine .inr ⟨.schedule ⟨s.node.nextTimer, request.ioName, value, max request.delaySeconds 0⟩,
      trivial, ?_⟩
    have hheld : s.oneShots.locked = true := by
      show s.mockLock.isSome = true
      rw [hlock]
      rfl
    rw [OneShots.step, if_pos ⟨hheld, rfl⟩]
    rfl
  | fire timer =>
    obtain ⟨htimer, hs⟩ := Option.ite_none_right_eq_some.1 hs
    rw [← Option.some.inj hs]
    refine .inr ⟨.fire timer, trivial, ?_⟩
    have hsame := s.node.sameTimers_fire timer
    have harmed : timer ∈ s.oneShots.armed := htimer
    rw [OneShots.step, if_pos harmed]
    unfold oneShots
    dsimp only
    rw [hsame.active, hsame.mockTimers, hsame.armed, hsame.nextTimer]
    rfl

theorem oneShots_inv (h : Lts.Reaches (step py) {} s) : OneShots.Inv MockTimer.id s.oneShots :=
  .of_reaches (h.map oneShots fun _ hs => oneShots_step hs)

/-! ### A closing that nothing interrupts -/

theorem reaches_cancelled {c : Closing} {timers : List MockTimer}
    (hphase : s.phase = .cancelling c timers) :
    Lts.Reaches (step py) s
      { s with node := timers.foldl GpioController.cancelTimer s.node, phase := .cancelling c [] } := by
  induction timers generalizing s with
  | nil =>
    rw [← hphase]
    exact .refl
  | cons timer timers ih =>
    have hstep : s.step py .cancel =
        some { s with node := s.node.cancelTimer timer, phase := .cancelling c timers } := by
      rw [step, hphase]
    exact (Lts.Runs.single trivial hstep).trans (ih rfl)

/-- Step by step it does what the transition does as a whole. -/
theorem reaches_closed {c : Closing} (hphase : s.phase = .idle) (hc : c.enabled s.state = true)
    (hlock : s.mockLock = none) :
    Lts.Reaches (step py) s
      { s with
        toManaged := (s.settle c.target (c.callback s.node)).1
        log := s.log ++ [.closed] } := by
  let n := c.start s.node
  have hclose : s.step py (.close c) = some { s with node := n, phase := .lowered c } :=
    if_pos ⟨hphase, hc⟩
  have htake : step py { s with node := n, phase := .lowered c } .take =
      some { s with node := n.takeMockTimers, phase := .cancelling c n.mockTimers } := by
    show (if s.mockLock.isSome then none else _) = _
    rw [hlock]
    rfl
  have hcancel : Lts.Reaches (step py)
      { s with node := n.takeMockTimers, phase := .cancelling c n.mockTimers } _ :=
    reaches_cancelled rfl
  have hrun := ((Lts.Runs.single (C := fun _ _ => True) trivial hclose).tail trivial htake).trans hcancel
  refine hrun.tail (l := .finish) trivial ?_
  show some _ = some _
  rw [c.callback_eq, ← hphase]
  rfl

/-! ### No change outlives its activation -/

/-- Every timer that is not cancelled is listed or about to be cancelled, and none is left when a
transition has cancelled them; what was scheduled before is not applied after, and nothing twice. -/
theorem no_change_outlives (h : Lts.Reaches (step py) {} s) :
    (∀ t ∈ s.node.armed, t ∈ s.node.mockTimers ∨ t ∈ s.phase.taken) ∧
      (OneShots.Closed s.log → s.node.armed = []) ∧ OneShots.InTime s.log ∧
        ∀ i, s.log.count (.applied i) ≤ 1 := by
  have hinv := oneShots_inv h
  refine ⟨fun t ht => ?_, fun hclosed => (hinv.quiet hclosed).1, hinv.inTime, hinv.once⟩
  rw [← s.phase.taken_closing]
  exact hinv.covered t ht

/-- Of two changes one is applied; the other passes the check just before the flag drops. -/
theorem no_change_outlives_twice : ∃ s : MockRun,
    s.log = [.raised, .scheduled 0, .applied 0, .scheduled 1, .closed] ∧ s.node.armed = [] ∧
      (OneShots.InTime s.log ∧ ∀ i, s.log.count (.applied i) ≤ 1) := by
  have hrun : Lts.Reaches (step .strict) {} _ :=
    .of_exec [.configure ⟨some sampleConfig, true, 0, false⟩, .activate false, .activateReturns,
      .request ⟨"force", true, 1, 0⟩, .request ⟨"force", true, 2, 0⟩, .enter 0, .schedule,
      .fire ⟨0, "force", .float 1, 0⟩, .enter 0, .close (.deactivate false), .schedule, .take, .cancel,
      .cancel, .finish] rfl
  obtain ⟨-, hclosed, hlater⟩ := no_change_outlives hrun
  refine ⟨_, rfl, hclosed ?_, hlater⟩
  exact ⟨[.raised, .scheduled 0, .applied 0, .scheduled 1], [], rfl, List.not_mem_nil⟩

end MockRun

end IoControllers
