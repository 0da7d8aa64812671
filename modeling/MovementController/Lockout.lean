import MovementController.Execution
import MovementController.Gate

/-!
# `_is_executing`

`_goal_callback` takes the flag before it validates and gives it back when it rejects. Once a goal is
accepted, it is for `_execute_callback` to give it back, whichever way it ends. Goal requests, the steps
of all callbacks, cancel requests and planner responses come in any order, and there are no lifecycle
transitions.
-/

namespace MovementController
open TrajectoryGoalDTO (fromRosMsg)
namespace Lockout

/-- Where a `_goal_callback` is that has taken the flag. -/
inductive Checkpoint where
  | entered
  /-- `_trajectory_goal` is set, `validate_goal` comes next. -/
  | parsed (goal : TrajectoryGoalDTO)
  /-- In the `except` branch. -/
  | refused
  /-- `_trajectory_goal` is reset, the flag is not. -/
  | dropped
deriving DecidableEq, Repr

structure Validation where
  msg : ExecuteTrajectory.Goal
  pc : Checkpoint := .entered
deriving DecidableEq, Repr

/-- Where a goal is between its acceptance and the return of its `_execute_callback`. -/
inductive Progress where
  | accepted (cancelRequested : Bool)
  | running (g : Execution.Goal)
  /-- In `_generate_failure_result`, before `_goal_abort`. -/
  | aborting (result : ExecuteTrajectory.Result)
  /-- Before `_trajectory_goal` is reset. -/
  | clearing (result : ExecuteTrajectory.Result)
  /-- Before the flag is reset. -/
  | returning (result : ExecuteTrajectory.Result)
deriving DecidableEq, Repr

/-- `aborted` says that `goal_handle.abort()` went through. -/
structure Accepted where
  request : ExecuteTrajectory.Goal
  pc : Progress := .accepted false
  aborted : Bool := false
deriving DecidableEq, Repr

/-- What a goal request is answered; the rejections are told apart by their log message. -/
inductive Response where
  | ACCEPT
  /-- `Goal rejected: another goal is already executing` -/
  | busy
  /-- `Goal rejected: …` -/
  | invalid
deriving DecidableEq, Repr

/-- The fields of the node that the two callbacks share, and all of them that are running. `responses`
is the history of the answers. -/
structure State where
  constraintConfig : Option ConstraintConfigDTO
  plan : Planning.State
  isExecuting : Bool := false
  trajectoryGoal : Option TrajectoryGoalDTO := none
  validating : List Validation := []
  live : List Accepted := []
  responses : List (ExecuteTrajectory.Goal × Response) := []
deriving DecidableEq, Repr

inductive Label where
  /-- `_goal_callback`, up to the release of the lock. -/
  | request (msg : ExecuteTrajectory.Goal)
  /-- The next step of the `i`-th running `_goal_callback`. -/
  | validate (i : Nat)
  /-- `_execute_callback`, up to the grouping. -/
  | begin (i : Nat)
  | thread (i : Nat) (a : Execution.Action)
  /-- `_goal_abort`; `fault` is what `abort()` raises. -/
  | abort (i : Nat) (fault : Option String)
  | clear (i : Nat)
  /-- The flag is reset and `_execute_callback` returns. -/
  | ret (i : Nat)
  | cancel (i : Nat)
  | deliver (j : Nat) (answer : Answer) (call : PlanRequest → CallFaults)

/-- `validate_goal`, if there is a configuration. -/
def validateGoal (cfg : Option ConstraintConfigDTO) (goal : TrajectoryGoalDTO) :
    Except GoalError Unit :=
  match cfg with
  | none => .ok ()
  | some cfg => cfg.validateGoal goal

/-- The step of a thread leads on, or to one of the two endings. -/
def Progress.after (g : Execution.Goal) : Progress :=
  match g.result with
  | none => .running g
  | some result => if result.success then .returning result else .aborting result

namespace State

def respond (w : State) (msg : ExecuteTrajectory.Goal) (response : Response) : State :=
  { w with responses := w.responses ++ [(msg, response)] }

def request (w : State) (msg : ExecuteTrajectory.Goal) : State :=
  if w.isExecuting then w.respond msg .busy
  else { w with isExecuting := true, validating := w.validating ++ [{ msg }] }

def validate (w : State) (i : Nat) (v : Validation) : State :=
  match v.pc with
  | .entered =>
    match fromRosMsg v.msg with
    | .error _ => { w with validating := w.validating.set i { v with pc := .refused } }
    | .ok goal =>
      { w with
        trajectoryGoal := some goal
        validating := w.validating.set i { v with pc := .parsed goal } }
  | .parsed goal =>
    match validateGoal w.constraintConfig goal with
    | .error _ => { w with validating := w.validating.set i { v with pc := .refused } }
    | .ok () =>
      { w.respond v.msg .ACCEPT with
        validating := w.validating.eraseIdx i
        live := w.live ++ [{ request := v.msg }] }
  | .refused =>
    { w with
      trajectoryGoal := none
      validating := w.validating.set i { v with pc := .dropped } }
  | .dropped =>
    { w.respond v.msg .invalid with
      isExecuting := false
      validating := w.validating.eraseIdx i }

def goto (w : State) (i : Nat) (a : Accepted) (pc : Progress) : State :=
  { w with live := w.live.set i { a with pc } }

/-- An exception of `from_ros_msg` ends the callback, and nothing resets the flag. -/
def begin (w : State) (i : Nat) (a : Accepted) (cancelRequested : Bool) : State :=
  match w.trajectoryGoal.elim (fromRosMsg a.request) .ok with
  | .error _ => { w with live := w.live.eraseIdx i }
  | .ok goal => w.goto i a (.running { goal, cancelRequested })

def cancel (w : State) (i : Nat) (a : Accepted) : State :=
  let w := { w with plan := { w.plan with coord := w.plan.coord.cancel } }
  match a.pc with
  | .accepted _ => w.goto i a (.accepted true)
  | .running g => w.goto i a (.running { g with cancelRequested := true })
  | _ => w

end State

def step (w : State) : Label → Option State
  | .request msg => some (w.request msg)
  | .validate i => w.validating[i]?.map fun v => w.validate i v
  | .begin i =>
    w.live[i]?.bind fun a => match a.pc with
      | .accepted cancelRequested => some (w.begin i a cancelRequested)
      | _ => none
  | .thread i action =>
    w.live[i]?.bind fun a => match a.pc with
      | .running g =>
        (g.act w.plan action).map fun (p, g) => { w.goto i a (.after g) with plan := p }
      | _ => none
  | .abort i fault =>
    w.live[i]?.bind fun a => match a.pc with
      | .aborting result => some (w.goto i { a with aborted := fault.isNone } (.clearing result))
      | _ => none
  | .clear i =>
    w.live[i]?.bind fun a => match a.pc with
      | .clearing result => some { w.goto i a (.returning result) with trajectoryGoal := none }
      | _ => none
  | .ret i =>
    w.live[i]?.bind fun a => match a.pc with
      | .returning _ => some { w with isExecuting := false, live := w.live.eraseIdx i }
      | _ => none
  | .cancel i => w.live[i]?.map fun a => w.cancel i a
  | .deliver j answer call =>
    (Planning.step w.plan (.deliver j answer call)).map fun p => { w with plan := p }

def init (cfg : Option ConstraintConfigDTO) (c : PlanningCoordinator) : State :=
  { constraintConfig := cfg, plan := Planning.init c }

/-- The requests that are being validated and the goals that have not returned. -/
def State.inProgress (w : State) : Nat := w.validating.length + w.live.length

def Valid (cfg : Option ConstraintConfigDTO) (msg : ExecuteTrajectory.Goal) : Prop :=
  ∃ goal, fromRosMsg msg = .ok goal ∧ validateGoal cfg goal = .ok ()

/-- `msg` was accepted between `w` and `w'`. -/
def AcceptedSince (w w' : State) (msg : ExecuteTrajectory.Goal) : Prop :=
  ∃ responses, w'.responses = w.responses ++ responses ∧ (msg, .ACCEPT) ∈ responses

/-- It has been decided how `_execute_callback` ends, which then depends on nothing but `abort()` and
`succeed()`. -/
def Accepted.Ending (a : Accepted) : Prop :=
  match a.pc with
  | .accepted _ => False
  | .running g => g.pc = .finishing ∨ ∃ e, g.pc = .failing e
  | .aborting _ | .clearing _ | .returning _ => True

/-! ### Who holds the flag -/

def Validation.Sound (w : State) (v : Validation) : Prop :=
  match v.pc with
  | .entered => True
  | .parsed goal => fromRosMsg v.msg = .ok goal ∧ w.trajectoryGoal = some goal
  | .refused | .dropped => ¬ Valid w.constraintConfig v.msg

/-- Before it begins, `_execute_callback` will find the DTO of its goal. -/
def Accepted.Sound (w : State) (a : Accepted) : Prop :=
  match a.pc with
  | .accepted _ => w.trajectoryGoal.isSome = true
  | .running g => g.result = none
  | _ => True

/-- The same requests are valid as for a `_goal_callback` that runs in one piece. -/
theorem valid_iff {cfg : Option ConstraintConfigDTO} {msg : ExecuteTrajectory.Goal} :
    Valid cfg msg ↔ ∃ goal, Gate.State.validate { constraintConfig := cfg } msg = .ok goal := by
  unfold Valid Gate.State.validate
  simp only [Fallible.bind_ok_iff]
  constructor
  · rintro ⟨goal, hmsg, hcfg⟩
    refine ⟨goal, goal, hmsg, ?_⟩
    cases cfg with
    | none => rfl
    | some cfg => exact Fallible.bind_ok_iff.2 ⟨(), hcfg, rfl⟩
  · rintro ⟨_, goal, hmsg, hcfg⟩
    refine ⟨goal, hmsg, ?_⟩
    cases cfg with
    | none => rfl
    | some cfg =>
      obtain ⟨_, hok, _⟩ := Fallible.bind_ok_iff.1 hcfg
      exact hok

inductive Step (w : State) : Label → State → Prop
  | request (msg : ExecuteTrajectory.Goal) : Step w (.request msg) (w.request msg)
  | validate (i : Nat) (v : Validation) (hv : w.validating[i]? = some v) :
      Step w (.validate i) (w.validate i v)
  | begin (i : Nat) (a : Accepted) (cancelRequested : Bool) (ha : w.live[i]? = some a)
      (hpc : a.pc = .accepted cancelRequested) : Step w (.begin i) (w.begin i a cancelRequested)
  /-- A step or a cancel request that leaves the node's own fields alone. -/
  | move (l : Label) (i : Nat) (a a' : Accepted) (p : Planning.State) (ha : w.live[i]? = some a)
      (hs : a.Sound w → a'.Sound w) :
      Step w l { w with plan := p, live := w.live.set i a' }
  | clear (i : Nat) (a : Accepted) (result : ExecuteTrajectory.Result) (ha : w.live[i]? = some a)
      (hpc : a.pc = .clearing result) :
      Step w (.clear i) { w.goto i a (.returning result) with trajectoryGoal := none }
  | ret (i : Nat) (a : Accepted) (result : ExecuteTrajectory.Result) (ha : w.live[i]? = some a)
      (hpc : a.pc = .returning result) :
      Step w (.ret i) { w with isExecuting := false, live := w.live.eraseIdx i }
  | plan (l : Label) (p : Planning.State) : Step w l { w with plan := p }

theorem sound_after (w : State) (a : Accepted) (g : Execution.Goal) :
    Accepted.Sound w { a with pc := .after g } := by
  unfold Accepted.Sound Progress.after
  cases hr : g.result with
  | none => exact hr
  | some result => cases hsuccess : result.success <;> simp [hsuccess]

theorem step_cases {w w' : State} {l : Label} (h : step w l = some w') : Step w l w' := by
  cases l with
  | request msg =>
    obtain rfl := Option.some.inj h
    exact .request msg
  | validate i =>
    obtain ⟨v, hv, rfl⟩ := Option.map_eq_some_iff.1 h
    exact .validate i v hv
  | begin i =>
    obtain ⟨a, ha, h⟩ := Option.bind_eq_some_iff.1 h
    split at h
    · next c hpc =>
      obtain rfl := Option.some.inj h
      exact .begin i a c ha hpc
    · cases h
  | thread i action =>
    obtain ⟨a, ha, h⟩ := Option.bind_eq_some_iff.1 h
    split at h
    · obtain ⟨⟨p, g⟩, -, rfl⟩ := Option.map_eq_some_iff.1 h
      exact .move _ i a _ p ha fun _ => sound_after w a g
    · cases h
  | abort i fault =>
    obtain ⟨a, ha, h⟩ := Option.bind_eq_some_iff.1 h
    split at h
    · next result hpc =>
      obtain rfl := Option.some.inj h
      exact .move _ i a { a with aborted := fault.isNone, pc := .clearing result } w.plan ha
        fun _ => trivial
    · cases h
  | clear i =>
    obtain ⟨a, ha, h⟩ := Option.bind_eq_some_iff.1 h
    split at h
    · next result hpc =>
      obtain rfl := Option.some.inj h
      exact .clear i a result ha hpc
    · cases h
  | ret i =>
    obtain ⟨a, ha, h⟩ := Option.bind_eq_some_iff.1 h
    split at h
    · next result hpc =>
      obtain rfl := Option.some.inj h
      exact .ret i a result ha hpc
    · cases h
  | cancel i =>
    obtain ⟨a, ha, rfl⟩ := Option.map_eq_some_iff.1 h
    unfold State.cancel
    dsimp only
    split
    · next c hpc =>
      refine .move _ i a { a with pc := .accepted true } _ ha fun hs => ?_
      simpa [Accepted.Sound, hpc] using hs
    · next g hpc =>
      refine .move _ i a { a with pc := .running { g with cancelRequested := true } } _ ha fun hs => ?_
      simpa [Accepted.Sound, hpc] using hs
    · exact .plan _ _
  | deliver j answer call =>
    obtain ⟨p, -, rfl⟩ := Option.map_eq_some_iff.1 h
    exact .plan _ p

/-- The flag is taken by one request under validation or one goal, or it is free. -/
inductive Holder (w : State) : Prop
  | nobody (he : w.isExecuting = false) (hv : w.validating = []) (hl : w.live = [])
  | validation (v : Validation) (he : w.isExecuting = true) (hv : w.validating = [v])
      (hl : w.live = []) (hs : v.Sound w)
  | goal (a : Accepted) (he : w.isExecuting = true) (hv : w.validating = []) (hl : w.live = [a])
      (hs : a.Sound w)

theorem eq_of_singleton {α : Type*} {l : List α} {a b : α} {i : Nat} (hl : l = [a])
    (h : l[i]? = some b) : i = 0 ∧ b = a := by
  subst hl
  obtain ⟨hi, h⟩ := List.getElem?_eq_some_iff.1 h
  have hi0 : i = 0 := by simpa using hi
  subst hi0
  exact ⟨rfl, h.symm⟩

namespace Holder

variable {w : State} {i : Nat}

theorem of_validating (h : Holder w) {v : Validation} (hv : w.validating[i]? = some v) :
    i = 0 ∧ w.isExecuting = true ∧ w.validating = [v] ∧ w.live = [] ∧ v.Sound w := by
  cases h with
  | nobody _ hnil _ => simp [hnil] at hv
  | validation v' he hone hl hs =>
    obtain ⟨rfl, rfl⟩ := eq_of_singleton hone hv
    exact ⟨rfl, he, hone, hl, hs⟩
  | goal _ _ hnil _ _ => simp [hnil] at hv

theorem of_live (h : Holder w) {a : Accepted} (ha : w.live[i]? = some a) :
    i = 0 ∧ w.isExecuting = true ∧ w.validating = [] ∧ w.live = [a] ∧ a.Sound w := by
  cases h with
  | nobody _ _ hnil => simp [hnil] at ha
  | validation _ _ _ hnil _ => simp [hnil] at ha
  | goal a' he hv hone hs =>
    obtain ⟨rfl, rfl⟩ := eq_of_singleton hone ha
    exact ⟨rfl, he, hv, hone, hs⟩

theorem inProgress_le (h : Holder w) : w.inProgress ≤ 1 := by
  cases h with
  | nobody _ hv hl => simp [State.inProgress, hv, hl]
  | validation _ _ hv hl _ => simp [State.inProgress, hv, hl]
  | goal _ _ hv hl _ => simp [State.inProgress, hv, hl]

theorem isExecuting_iff (h : Holder w) : w.isExecuting = true ↔ w.inProgress = 1 := by
  cases h with
  | nobody he hv hl => simp [State.inProgress, he, hv, hl]
  | validation _ he hv hl _ => simp [State.inProgress, he, hv, hl]
  | goal _ he hv hl _ => simp [State.inProgress, he, hv, hl]

theorem eq_nil_of_inProgress (h : w.inProgress = 0) : w.validating = [] ∧ w.live = [] := by
  simp only [State.inProgress, Nat.add_eq_zero_iff, List.length_eq_zero_iff] at h
  exact h

theorem request (h : Holder w) (msg : ExecuteTrajectory.Goal) : Holder (w.request msg) := by
  unfold State.request
  cases h with
  | nobody he hv hl =>
    rw [if_neg (by simp [he])]
    exact .validation { msg } rfl (by simp [hv]) hl trivial
  | validation v he hv hl hs =>
    rw [if_pos he]
    exact .validation v he hv hl hs
  | goal a he hv hl hs =>
    rw [if_pos he]
    exact .goal a he hv hl hs

theorem validate (h : Holder w) {v : Validation} (hv : w.validating[i]? = some v) :
    Holder (w.validate i v) := by
  obtain ⟨rfl, he, hone, hl, hs⟩ := h.of_validating hv
  unfold State.validate
  split
  · split
    · next e hmsg =>
      refine .validation { v with pc := .refused } he (by simp [hone]) hl ?_
      rintro ⟨goal, hgoal, -⟩
      cases hmsg.symm.trans hgoal
    · next goal hmsg =>
      exact .validation { v with pc := .parsed goal } he (by simp [hone]) hl ⟨hmsg, rfl⟩
  · next goal hpc =>
    obtain ⟨hmsg, hgoal⟩ : fromRosMsg v.msg = .ok goal ∧ w.trajectoryGoal = some goal := by
      simpa [Validation.Sound, hpc] using hs
    split
    · next e hcfg =>
      refine .validation { v with pc := .refused } he (by simp [hone]) hl ?_
      rintro ⟨goal', hgoal', hok⟩
      cases hmsg.symm.trans hgoal'
      cases hcfg.symm.trans hok
    · exact .goal { request := v.msg } he (by simp [hone]) (by simp [hl])
        (by simp [Accepted.Sound, hgoal, State.respond])
  · next hpc =>
    refine .validation { v with pc := .dropped } he (by simp [hone]) hl ?_
    simpa [Validation.Sound, hpc] using hs
  · exact .nobody rfl (by simp [hone]) hl

/-- A step of the one goal that keeps it. -/
theorem keep (h : Holder w) {a a' : Accepted} {w' : State} (ha : w.live[i]? = some a)
    (he : w'.isExecuting = w.isExecuting) (hv : w'.validating = w.validating)
    (hl : w'.live = w.live.set i a') (hs : a'.Sound w') : Holder w' := by
  obtain ⟨rfl, he', hv', hl', -⟩ := h.of_live ha
  exact .goal a' (he.trans he') (hv.trans hv') (by simp [hl, hl']) hs

/-- Nothing that the flag depends on changes. -/
theorem congr (h : Holder w) {w' : State} (hc : w'.constraintConfig = w.constraintConfig)
    (he : w'.isExecuting = w.isExecuting) (ht : w'.trajectoryGoal = w.trajectoryGoal)
    (hv : w'.validating = w.validating) (hl : w'.live = w.live) : Holder w' := by
  cases h with
  | nobody he' hv' hl' => exact .nobody (he.trans he') (hv.trans hv') (hl.trans hl')
  | validation v he' hv' hl' hs =>
    refine .validation v (he.trans he') (hv.trans hv') (hl.trans hl') ?_
    unfold Validation.Sound at hs ⊢
    rwa [hc, ht]
  | goal a he' hv' hl' hs =>
    refine .goal a (he.trans he') (hv.trans hv') (hl.trans hl') ?_
    unfold Accepted.Sound at hs ⊢
    rwa [ht]

theorem trajectoryGoal (h : Holder w) {a : Accepted} {c : Bool} (ha : w.live[i]? = some a)
    (hpc : a.pc = .accepted c) : w.trajectoryGoal.isSome = true := by
  obtain ⟨-, -, -, -, hs⟩ := h.of_live ha
  simpa [Accepted.Sound, hpc] using hs

/-- The DTO of the goal is there, and `from_ros_msg` is not called again. -/
theorem begin_eq (h : Holder w) {a : Accepted} {cancelRequested : Bool} (ha : w.live[i]? = some a)
    (hpc : a.pc = .accepted cancelRequested) :
    ∃ goal, w.begin i a cancelRequested = w.goto i a (.running { goal, cancelRequested }) := by
  obtain ⟨goal, hgoal⟩ := Option.isSome_iff_exists.1 (h.trajectoryGoal ha hpc)
  refine ⟨goal, ?_⟩
  rw [State.begin, hgoal]
  rfl

theorem begin (h : Holder w) {a : Accepted} {cancelRequested : Bool} (ha : w.live[i]? = some a)
    (hpc : a.pc = .accepted cancelRequested) : Holder (w.begin i a cancelRequested) := by
  obtain ⟨goal, hgoal⟩ := h.begin_eq ha hpc
  rw [hgoal]
  exact h.keep ha rfl rfl rfl rfl

theorem step {w' : State} {l : Label} (h : Holder w) (hs : Lockout.step w l = some w') :
    Holder w' := by
  cases step_cases hs with
  | request msg => exact h.request msg
  | validate _ v hv => exact h.validate hv
  | begin _ a c ha hpc => exact h.begin ha hpc
  | move _ i a a' p ha hkeeps =>
    obtain ⟨-, -, -, -, hsound⟩ := h.of_live ha
    exact h.keep ha rfl rfl rfl (hkeeps hsound)
  | clear i a result ha hpc => exact h.keep ha rfl rfl rfl trivial
  | ret i a result ha hpc =>
    obtain ⟨rfl, -, hv, hl, -⟩ := h.of_live ha
    exact .nobody rfl hv (by simp [hl])
  | plan _ p => exact h.congr rfl rfl rfl rfl rfl

end Holder

/-! ### What requests are answered -/

/-- No step calls a request invalid that is not. -/
theorem responses_step {w w' : State} {l : Label} (h : Holder w) (hs : step w l = some w') :
    ∃ responses, w'.responses = w.responses ++ responses ∧
      ∀ msg, (msg, .invalid) ∈ responses → ¬ Valid w.constraintConfig msg := by
  have hnone : ∀ {v : State}, v.responses = w.responses →
      ∃ responses, v.responses = w.responses ++ responses ∧
        ∀ msg, (msg, .invalid) ∈ responses → ¬ Valid w.constraintConfig msg :=
    fun hr => ⟨[], by simp [hr], by simp⟩
  cases step_cases hs with
  | request msg =>
    unfold State.request
    split
    · exact ⟨[(msg, .busy)], rfl, by simp⟩
    · exact hnone rfl
  | validate _ v hv =>
    obtain ⟨-, -, -, -, hsound⟩ := h.of_validating hv
    unfold State.validate
    split
    · split
      · exact hnone rfl
      · exact hnone rfl
    · split
      · exact hnone rfl
      · exact ⟨[(v.msg, .ACCEPT)], rfl, by simp⟩
    · exact hnone rfl
    · next hpc =>
      have hinvalid : ¬ Valid w.constraintConfig v.msg := by simpa [Validation.Sound, hpc] using hsound
      refine ⟨[(v.msg, .invalid)], rfl, fun msg hmsg => ?_⟩
      obtain rfl : msg = v.msg := by simpa using hmsg
      exact hinvalid
  | begin _ a c ha hpc =>
    unfold State.begin
    split
    · exact hnone rfl
    · exact hnone rfl
  | _ => exact hnone rfl

theorem constraintConfig_step {w w' : State} {l : Label} (hs : step w l = some w') :
    w'.constraintConfig = w.constraintConfig := by
  cases step_cases hs with
  | request msg => unfold State.request; split <;> rfl
  | validate _ v hv => unfold State.validate; split <;> (try split) <;> rfl
  | begin _ a c ha hpc => unfold State.begin; split <;> rfl
  | _ => rfl

/-- Only `ret` lets go of a goal, and it resets the flag. -/
theorem exit_of_length_lt {w w' : State} {l : Label} (h : Holder w) (hs : step w l = some w')
    (hlt : w'.live.length < w.live.length) : ∃ i, l = .ret i := by
  cases step_cases hs with
  | ret i => exact ⟨i, rfl⟩
  | request msg =>
    unfold State.request at hlt
    split at hlt
    · exact absurd hlt (lt_irrefl _)
    · exact absurd hlt (lt_irrefl _)
  | validate i v hv =>
    obtain ⟨-, -, -, hl, -⟩ := h.of_validating hv
    simp [hl] at hlt
  | begin i a c ha hpc =>
    obtain ⟨goal, hgoal⟩ := h.begin_eq ha hpc
    simp [hgoal, State.goto] at hlt
  | move | clear => simp [State.goto] at hlt
  | plan => exact absurd hlt (lt_irrefl _)

/-- The validation of a valid request has not gone wrong, and takes one of two steps. -/
theorem Validation.Sound.cases {w : State} {v : Validation} (h : v.Sound w)
    (hvalid : Valid w.constraintConfig v.msg) :
    (∃ goal, v.pc = .entered ∧ validateGoal w.constraintConfig goal = .ok () ∧ ∀ i, w.validate i v =
      { w with
        trajectoryGoal := some goal
        validating := w.validating.set i { v with pc := .parsed goal } }) ∨
    ∀ i, w.validate i v = { w.respond v.msg .ACCEPT with
      validating := w.validating.eraseIdx i
      live := w.live ++ [{ request := v.msg }] } := by
  obtain ⟨goal, hmsg, hcfg⟩ := id hvalid
  unfold Validation.Sound at h
  cases hpc : v.pc with
  | entered => exact .inl ⟨goal, rfl, hcfg, fun i => by simp [State.validate, hpc, hmsg]⟩
  | parsed goal' =>
    rw [hpc] at h
    obtain rfl : goal = goal' := Except.ok.inj (hmsg.symm.trans h.1)
    exact .inr fun i => by simp [State.validate, hpc, hcfg]
  | refused | dropped =>
    rw [hpc] at h
    exact absurd hvalid h

/-- `msg` was accepted since `w`, or is being validated. -/
def Pending (w w' : State) (msg : ExecuteTrajectory.Goal) : Prop :=
  AcceptedSince w w' msg ∨
    (∃ responses, w'.responses = w.responses ++ responses) ∧ ∃ v, w'.validating = [v] ∧ v.msg = msg

namespace Pending

variable {w w' w'' : State} {msg : ExecuteTrajectory.Goal}

theorem of_request (he : w.isExecuting = false) (hv : w.validating = []) :
    Pending w (w.request msg) msg := by
  refine .inr ⟨⟨[], ?_⟩, { msg }, ?_, rfl⟩
  · simp [State.request, he]
  · simp [State.request, he, hv]

theorem step {l : Label} (hp : Pending w w' msg) (h : Holder w')
    (hvalid : Valid w'.constraintConfig msg) (hs : step w' l = some w'') : Pending w w'' msg := by
  obtain ⟨responses, hr, -⟩ := responses_step h hs
  rcases hp with ⟨responses', hr', hmem⟩ | ⟨⟨responses', hr'⟩, v, hv, rfl⟩
  · exact .inl ⟨responses' ++ responses, by rw [hr, hr', List.append_assoc],
      List.mem_append_left _ hmem⟩
  have hgrown : ∃ responses, w''.responses = w.responses ++ responses :=
    ⟨responses' ++ responses, by rw [hr, hr', List.append_assoc]⟩
  obtain ⟨-, he, -, hl, hsound⟩ := h.of_validating (show w'.validating[0]? = some v by simp [hv])
  cases step_cases hs with
  | request msg' => exact .inr ⟨hgrown, v, by simp [State.request, he, State.respond, hv], rfl⟩
  | validate i v' hv' =>
    obtain ⟨rfl, rfl⟩ := eq_of_singleton hv hv'
    rcases hsound.cases hvalid with ⟨goal, -, -, heq⟩ | heq
    · refine .inr ⟨hgrown, { v' with pc := .parsed goal }, ?_, rfl⟩
      simp [heq, hv]
    · refine .inl ⟨responses' ++ [(v'.msg, .ACCEPT)], ?_, by simp⟩
      simp [heq, State.respond, hr']
  | plan _ p => exact .inr ⟨hgrown, v, hv, rfl⟩
  | begin i a _ ha _ | move _ i a _ _ ha _ | clear i a _ ha _ | ret i a _ ha _ => simp [hl] at ha

theorem accepts_last {v : Validation} {responses : List (ExecuteTrajectory.Goal × Response)}
    (hr : w'.responses = w.responses ++ responses) (hv : w'.validating = [v])
    (heq : w'.validate 0 v = { w'.respond v.msg .ACCEPT with
      validating := w'.validating.eraseIdx 0
      live := w'.live ++ [{ request := v.msg }] }) :
    ∃ w'', Lockout.step w' (.validate 0) = some w'' ∧ AcceptedSince w w'' v.msg := by
  refine ⟨w'.validate 0 v, by simp [Lockout.step, hv], responses ++ [(v.msg, .ACCEPT)], ?_, by simp⟩
  simp [heq, State.respond, hr]

/-- A valid request is accepted after at most two more steps of its validation. -/
theorem accepts (hp : Pending w w' msg) (h : Holder w') (hvalid : Valid w'.constraintConfig msg) :
    ∃ n ≤ 2, ∃ w'', Lts.exec Lockout.step (fun _ _ => True) w' (List.replicate n (.validate 0)) =
      some w'' ∧ AcceptedSince w w'' msg := by
  rcases hp with hsince | ⟨⟨responses', hr'⟩, v, hv, rfl⟩
  · exact ⟨0, by omega, w', rfl, hsince⟩
  have hv0 : w'.validating[0]? = some v := by simp [hv]
  obtain ⟨-, -, -, -, hsound⟩ := h.of_validating hv0
  rcases hsound.cases hvalid with ⟨goal, -, -, heq⟩ | heq
  · -- It is parsed first, and what is left is the other case.
    have h₁ : Holder (w'.validate 0 v) := h.validate hv0
    have hv₁ : (w'.validate 0 v).validating = [{ v with pc := .parsed goal }] := by simp [heq, hv]
    have hr₁ : (w'.validate 0 v).responses = w.responses ++ responses' := by rw [heq, ← hr']
    have hc₁ : (w'.validate 0 v).constraintConfig = w'.constraintConfig := by rw [heq]
    obtain ⟨-, -, -, -, hsound₁⟩ :=
      h₁.of_validating (show (w'.validate 0 v).validating[0]? = some _ by rw [hv₁]; rfl)
    rcases hsound₁.cases (by rwa [hc₁]) with ⟨_, hpc, -⟩ | heq₁
    · cases hpc
    obtain ⟨w'', hs, hsince⟩ := accepts_last hr₁ hv₁ (heq₁ 0)
    refine ⟨2, le_refl 2, w'', ?_, hsince⟩
    have hfirst : Lockout.step w' (.validate 0) = some (w'.validate 0 v) := by simp [Lockout.step, hv]
    simp [List.replicate, Lts.exec, hfirst, hs]
  · obtain ⟨w'', hs, hsince⟩ := accepts_last hr' hv (heq 0)
    exact ⟨1, by omega, w'', by simp [Lts.exec, hs], hsince⟩

end Pending

/-! ### The endings -/

/-- The steps of `_execute_callback` from where its ending is decided, when `abort()` and `succeed()`
raise `abortFault` and `succeedFault`. -/
def Own (abortFault succeedFault : Option String) : Label → Prop
  | .thread _ (.succeed fault) => fault = succeedFault
  | .abort _ fault => fault = abortFault
  | .thread _ .fail | .clear _ | .ret _ => True
  | _ => False

/-- These steps lead to where nothing is in progress. -/
def Ends (abortFault succeedFault : Option String) (w : State) : Prop :=
  ∃ w', Lts.Runs step (fun _ => Own abortFault succeedFault) w w' ∧ w'.inProgress = 0

namespace Ends

variable {abortFault succeedFault : Option String} {w u : State} {a : Accepted}

theorem cons {l : Label} (hs : step w l = some u) (hl : Own abortFault succeedFault l)
    (h : Ends abortFault succeedFault u) : Ends abortFault succeedFault w := by
  obtain ⟨w', hrun, hw'⟩ := h
  exact ⟨w', .trans (.single hl hs) hrun, hw'⟩

theorem of_returning {result : ExecuteTrajectory.Result} (hv : w.validating = []) (hl : w.live = [a])
    (hpc : a.pc = .returning result) : Ends abortFault succeedFault w := by
  have hs : step w (.ret 0) = some { w with isExecuting := false, live := [] } := by
    simp [step, hl, hpc]
  exact cons hs trivial ⟨_, .refl, by simp [State.inProgress, hv]⟩

theorem of_clearing {result : ExecuteTrajectory.Result} (hv : w.validating = []) (hl : w.live = [a])
    (hpc : a.pc = .clearing result) : Ends abortFault succeedFault w := by
  have hs : step w (.clear 0) =
      some { w with trajectoryGoal := none, live := [{ a with pc := .returning result }] } := by
    simp [step, State.goto, hl, hpc]
  exact cons hs trivial (of_returning hv rfl rfl)

theorem of_aborting {result : ExecuteTrajectory.Result} (hv : w.validating = []) (hl : w.live = [a])
    (hpc : a.pc = .aborting result) : Ends abortFault succeedFault w := by
  have hs : step w (.abort 0 abortFault) =
      some { w with live := [{ a with aborted := abortFault.isNone, pc := .clearing result }] } := by
    simp [step, State.goto, hl, hpc]
  exact cons hs rfl (of_clearing hv rfl rfl)

theorem of_failing {g : Execution.Goal} {e : String} (hv : w.validating = []) (hl : w.live = [a])
    (hpc : a.pc = .running g) (hg : g.pc = .failing e) :
    Ends abortFault succeedFault w := by
  have hs : step w (.thread 0 .fail) = some { w with
      plan := (Planning.step w.plan .abandon).getD w.plan
      live := [{ a with pc := .aborting ⟨false, e, g.completedIds⟩ }] } := by
    simp [step, State.goto, hl, hpc, Execution.Goal.act, hg, Progress.after]
  exact cons hs trivial (of_aborting hv rfl rfl)

theorem of_finishing {g : Execution.Goal} (hv : w.validating = []) (hl : w.live = [a])
    (hpc : a.pc = .running g) (hg : g.pc = .finishing) (hr : g.result = none) :
    Ends abortFault succeedFault w := by
  cases succeedFault with
  | none =>
    have hs : step w (.thread 0 (.succeed none)) =
        some { w with live := [{ a with pc := .returning ⟨true, "", g.completedIds⟩ }] } := by
      simp [step, State.goto, hl, hpc, Execution.Goal.act, hg, Progress.after]
    exact cons hs rfl (of_returning hv rfl rfl)
  | some e =>
    have hs : step w (.thread 0 (.succeed (some e))) =
        some { w with live := [{ a with pc := .running (g.raise e) }] } := by
      simp [step, State.goto, hl, hpc, Execution.Goal.act, hg, Progress.after, Execution.Goal.raise,
        Execution.Goal.goto, hr]
    exact cons hs rfl (of_failing hv rfl rfl rfl)

theorem of_ending (h : Holder w) (ha : a ∈ w.live) (hending : a.Ending) :
    Ends abortFault succeedFault w := by
  obtain ⟨i, hi⟩ := List.mem_iff_getElem?.1 ha
  obtain ⟨-, -, hv, hl, hsound⟩ := h.of_live hi
  unfold Accepted.Ending at hending
  split at hending
  · exact hending.elim
  · next g hpc =>
    rcases hending with hg | ⟨e, hg⟩
    · exact of_finishing hv hl hpc hg (by simpa [Accepted.Sound, hpc] using hsound)
    · exact of_failing hv hl hpc hg
  · next hpc => exact of_aborting hv hl hpc
  · next hpc => exact of_clearing hv hl hpc
  · next hpc => exact of_returning hv hl hpc

end Ends

/-! ### Runs -/

/-- What the flag is in `w`, and what it does to the requests to come. -/
structure Available (cfg : Option ConstraintConfigDTO) (w : State) : Prop where
  single : w.inProgress ≤ 1
  held : w.isExecuting = true ↔ w.inProgress = 1
  busy : ∀ msg, step w (.request msg) = some (w.respond msg .busy) ↔ w.inProgress = 1
  /-- A rejection that is not for being busy is deserved. -/
  truthful : ∀ msg, (msg, .invalid) ∈ w.responses → ¬ Valid cfg msg
  /-- A goal ends with the reset of the flag and not otherwise. -/
  exit : ∀ l w', step w l = some w' → w'.live.length < w.live.length → ∃ i, l = .ret i
  released : ∀ i w', step w (.ret i) = some w' → w'.isExecuting = false ∧ w'.inProgress = 0
  ends : ∀ a ∈ w.live, a.Ending → ∀ abortFault succeedFault, Ends abortFault succeedFault w
  /-- The next valid request is accepted, whatever comes in between. -/
  next : w.inProgress = 0 → ∀ msg, Valid cfg msg → ∃ w₁, step w (.request msg) = some w₁ ∧
    ∀ w₂, Lts.Reaches step w₁ w₂ → ∃ n ≤ 2, ∃ w₃,
      Lts.exec step (fun _ _ => True) w₂ (List.replicate n (.validate 0)) = some w₃ ∧
      AcceptedSince w w₃ msg

structure Sound (cfg : Option ConstraintConfigDTO) (w : State) : Prop where
  config : w.constraintConfig = cfg
  holder : Holder w
  truthful : ∀ msg, (msg, .invalid) ∈ w.responses → ¬ Valid cfg msg

namespace Sound

variable {cfg : Option ConstraintConfigDTO} {w w' : State}

theorem init (cfg : Option ConstraintConfigDTO) (c : PlanningCoordinator) :
    Sound cfg (init cfg c) :=
  ⟨rfl, .nobody rfl rfl rfl, by simp [Lockout.init]⟩

theorem step {l : Label} (h : Sound cfg w) (hs : Lockout.step w l = some w') : Sound cfg w' where
  config := (constraintConfig_step hs).trans h.config
  holder := h.holder.step hs
  truthful msg hmsg := by
    obtain ⟨responses, hr, hinvalid⟩ := responses_step h.holder hs
    rw [hr, List.mem_append] at hmsg
    rcases hmsg with hmsg | hmsg
    · exact h.truthful msg hmsg
    · rw [← h.config]
      exact hinvalid msg hmsg

theorem busy_iff (h : Sound cfg w) (msg : ExecuteTrajectory.Goal) :
    Lockout.step w (.request msg) = some (w.respond msg .busy) ↔ w.inProgress = 1 := by
  rw [← h.holder.isExecuting_iff, Lockout.step, Option.some_inj, State.request]
  constructor
  · intro heq
    by_contra he
    rw [if_neg he] at heq
    have hresponses := congrArg State.responses heq
    simp [State.respond] at hresponses
  · intro he
    rw [if_pos he]

theorem released (h : Sound cfg w) {i : Nat} (hs : Lockout.step w (.ret i) = some w') :
    w'.isExecuting = false ∧ w'.inProgress = 0 := by
  have hholder := (h.step hs).holder
  have hfree : w'.isExecuting = false := by
    obtain ⟨a, -, hs⟩ := Option.bind_eq_some_iff.1 hs
    split at hs
    · rw [← Option.some.inj hs]
    · cases hs
  refine ⟨hfree, ?_⟩
  have hle := hholder.inProgress_le
  have hne : w'.inProgress ≠ 1 := fun h1 => by simp [hholder.isExecuting_iff.2 h1] at hfree
  omega

theorem next (h : Sound cfg w) (hfree : w.inProgress = 0) {msg : ExecuteTrajectory.Goal}
    (hvalid : Valid cfg msg) : ∃ w₁, Lockout.step w (.request msg) = some w₁ ∧
    ∀ w₂, Lts.Reaches Lockout.step w₁ w₂ → ∃ n ≤ 2, ∃ w₃,
      Lts.exec Lockout.step (fun _ _ => True) w₂ (List.replicate n (.validate 0)) = some w₃ ∧
      AcceptedSince w w₃ msg := by
  obtain ⟨hv, -⟩ := Holder.eq_nil_of_inProgress hfree
  have he : w.isExecuting = false := by
    by_contra he
    rw [Bool.not_eq_false, h.holder.isExecuting_iff] at he
    omega
  refine ⟨_, rfl, fun w₂ hrun => ?_⟩
  obtain ⟨hsound, hpending⟩ := hrun.invariant (I := fun v => Sound cfg v ∧ Pending w v msg)
    ⟨h.step (l := .request msg) rfl, .of_request he hv⟩ fun ⟨hsound, hpending⟩ _ hs =>
      ⟨hsound.step hs, hpending.step hsound.holder (by rwa [hsound.config]) hs⟩
  exact hpending.accepts hsound.holder (by rwa [hsound.config])

end Sound

/-- The node never locks itself out: the flag is set exactly while one request is validated or one goal
has not returned. -/
theorem never_locked_out (cfg : Option ConstraintConfigDTO) (c : PlanningCoordinator) (w : State)
    (h : Lts.Reaches step (init cfg c) w) : Available cfg w := by
  have hw : Sound cfg w := h.invariant (.init cfg c) fun ht _ hs => ht.step hs
  exact {
    single := hw.holder.inProgress_le
    held := hw.holder.isExecuting_iff
    busy := hw.busy_iff
    truthful := hw.truthful
    exit := fun _ _ hs hlt => exit_of_length_lt hw.holder hs hlt
    released := fun _ _ hs => hw.released hs
    ends := fun _ ha hending _ _ => .of_ending hw.holder ha hending
    next := fun hfree _ hvalid => hw.next hfree hvalid }

/-- The first goal fails, and `abort()` raises. Another request comes while it executes, and one that is
invalid after it. -/
def failedGoal : List Label :=
  [.request (Gate.goalMessage "55555555-5555-4555-8555-555555555555"), .validate 0, .validate 0,
    .begin 0, .request (Gate.goalMessage ""), .thread 0 (.start false), .thread 0 .fail,
    .abort 0 (some "invalid state"), .clear 0, .ret 0, .request (Gate.goalMessage ""), .validate 0,
    .validate 0, .validate 0]

theorem never_locked_out_failedGoal : ∃ w : State,
    w.responses.map (·.2) = [.ACCEPT, .busy, .invalid] ∧ Available none w := by
  have hrun : Lts.Reaches step (init none (.new "ur_manipulator")) _ := .of_exec failedGoal rfl
  exact ⟨_, rfl, never_locked_out _ _ _ hrun⟩

end Lockout
end MovementController
