import MovementController.Grouper
import MovementController.Lib.Fallible
import MovementController.Lib.Runs

/-!
# `_goal_callback` and the gate of the action server

`_is_executing` lets one goal in and `_trajectory_goal` carries its DTO from `_goal_callback` to
`_execute_callback`. Both are reset by every end of an execution and by `on_deactivate`, which does
not wait for a running one. A callback that blocks is one that has not finished yet.
-/

namespace MovementController
open TrajectoryGoalDTO (fromRosMsg)
namespace Gate

/-- A goal that was accepted and whose `_execute_callback` has not returned. `goal` is what it groups
and executes, once it has started; `stale` says that `on_deactivate` came after the acceptance. -/
structure Accepted where
  request : ExecuteTrajectory.Goal
  goal : Option TrajectoryGoalDTO := none
  stale : Bool := false
deriving DecidableEq, Repr

/-- The fields of the node that concern the gate, the goals it let in, and what was executed for
which request so far. -/
structure State where
  constraintConfig : Option ConstraintConfigDTO := none
  actionServer : Bool := false
  isExecuting : Bool := false
  trajectoryGoal : Option TrajectoryGoalDTO := none
  live : List Accepted := []
  executions : List (ExecuteTrajectory.Goal × TrajectoryGoalDTO) := []
deriving DecidableEq, Repr

inductive GoalResponse where
  | ACCEPT
  | REJECT
deriving DecidableEq, Repr

/-- How an `_execute_callback` ends: with a result, or with an exception from before its `try`. -/
inductive Ending where
  | succeeded
  | failed
  | raised
deriving DecidableEq, Repr

inductive Label where
  | request (msg : ExecuteTrajectory.Goal)
  | start (i : Nat)
  | finish (i : Nat) (ending : Ending)
  | cancel
  | onDeactivate
  | onActivate (success : Bool)
deriving DecidableEq, Repr

namespace State

/-- The validation in `_goal_callback`. -/
def validate (w : State) (msg : ExecuteTrajectory.Goal) : Except GoalError TrajectoryGoalDTO := do
  let goal ← fromRosMsg msg
  match w.constraintConfig with
  | none => pure goal
  | some cfg => cfg.validateGoal goal; pure goal

def goalCallback (w : State) (msg : ExecuteTrajectory.Goal) : State × GoalResponse :=
  if w.isExecuting then (w, .REJECT)
  else
    match w.validate msg with
    | .error _ => ({ w with trajectoryGoal := none, isExecuting := false }, .REJECT)
    | .ok goal => ({ w with trajectoryGoal := some goal, isExecuting := true }, .ACCEPT)

/-- `_execute_callback` up to the grouping; an exception of `from_ros_msg` ends it. -/
def executeCallback (w : State) (i : Nat) (g : Accepted) : State :=
  match w.trajectoryGoal.elim (fromRosMsg g.request) .ok with
  | .error _ => { w with live := w.live.eraseIdx i }
  | .ok goal =>
    { w with
      live := w.live.set i { g with goal := some goal }
      executions := w.executions ++ [(g.request, goal)] }

def finish (w : State) (i : Nat) : Ending → State
  | .succeeded => { w with live := w.live.eraseIdx i, isExecuting := false }
  | .failed => { w with live := w.live.eraseIdx i, isExecuting := false, trajectoryGoal := none }
  | .raised => { w with live := w.live.eraseIdx i }

def onDeactivate (w : State) : State :=
  { w with
    actionServer := false
    isExecuting := false
    trajectoryGoal := none
    live := w.live.map fun g => { g with stale := true } }

end State

def step (w : State) : Label → Option State
  | .request msg =>
    if w.actionServer then
      match w.goalCallback msg with
      | (w, .ACCEPT) => some { w with live := w.live ++ [{ request := msg }] }
      | (w, .REJECT) => some w
    else none
  | .start i =>
    w.live[i]?.bind fun g => if g.goal = none then some (w.executeCallback i g) else none
  | .finish i ending =>
    w.live[i]?.bind fun g => if g.goal = none then none else some (w.finish i ending)
  | .cancel => some w
  | .onDeactivate => if w.actionServer then some w.onDeactivate else none
  | .onActivate success => if w.actionServer then none else some { w with actionServer := success }

def init (constraintConfig : Option ConstraintConfigDTO) : State := { constraintConfig }

/-- A valid goal request that finds `_is_executing` unset finds every goal returned that was accepted
before the latest `on_deactivate`. -/
def Drained (w : State) : Label → Prop
  | .request msg =>
    w.isExecuting = false → (w.validate msg).isOk = true → ∀ g ∈ w.live, g.stale = false
  | _ => True

instance : ∀ w l, Decidable (Drained w l)
  | w, .request msg => inferInstanceAs (Decidable
      (w.isExecuting = false → (w.validate msg).isOk = true → ∀ g ∈ w.live, g.stale = false))
  | _, .start _ | _, .finish .. | _, .cancel | _, .onDeactivate | _, .onActivate _ => isTrue trivial

theorem fromRosMsg_of_validate {w : State} {msg : ExecuteTrajectory.Goal} {goal : TrajectoryGoalDTO}
    (h : w.validate msg = .ok goal) : fromRosMsg msg = .ok goal := by
  obtain ⟨goal', hmsg, h⟩ := Fallible.bind_ok h
  have heq : goal' = goal := by
    cases hc : w.constraintConfig with
    | none =>
      rw [hc] at h
      exact Except.ok.inj h
    | some cfg =>
      rw [hc] at h
      obtain ⟨u, -, h⟩ := Fallible.bind_ok h
      exact Except.ok.inj h
  rw [hmsg, heq]

theorem goalCallback_ok {w : State} {msg : ExecuteTrajectory.Goal} {goal : TrajectoryGoalDTO}
    (he : w.isExecuting = false) (h : w.validate msg = .ok goal) : w.goalCallback msg =
      ({ w with trajectoryGoal := some goal, isExecuting := true }, .ACCEPT) := by
  rw [State.goalCallback, he, h]
  rfl

theorem goalCallback_accept {w w' : State} {msg : ExecuteTrajectory.Goal}
    (h : w.goalCallback msg = (w', .ACCEPT)) :
    w.isExecuting = false ∧ ∃ goal, w.validate msg = .ok goal ∧
      w' = { w with trajectoryGoal := some goal, isExecuting := true } := by
  unfold State.goalCallback at h
  by_cases he : w.isExecuting = true
  · simp [he] at h
  rw [if_neg he] at h
  refine ⟨by simpa using he, ?_⟩
  split at h
  · cases h
  · next goal hgoal => exact ⟨goal, hgoal, (Prod.mk.inj h).1.symm⟩

theorem goalCallback_reject {w w' : State} {msg : ExecuteTrajectory.Goal}
    (h : w.goalCallback msg = (w', .REJECT)) :
    w' = w ∨ w.isExecuting = false ∧ w' = { w with trajectoryGoal := none } := by
  unfold State.goalCallback at h
  by_cases he : w.isExecuting = true
  · rw [if_pos he, Prod.mk.injEq] at h
    exact .inl h.1.symm
  rw [if_neg he] at h
  have he' : w.isExecuting = false := by simpa using he
  split at h
  · rw [Prod.mk.injEq] at h
    refine .inr ⟨he', ?_⟩
    rw [← h.1, ← he']
  · cases h

/-- One goal at a time, which the gate sees unless it is stale, and whose DTO it holds. -/
structure Exclusive (w : State) : Prop where
  single : w.live.length ≤ 1
  gated : w.isExecuting = false → ∀ g ∈ w.live, g.stale = true
  own : ∀ g ∈ w.live, g.goal = none → ∀ goal ∈ w.trajectoryGoal, fromRosMsg g.request = .ok goal
  executed : ∀ e ∈ w.executions, fromRosMsg e.1 = .ok e.2

namespace Exclusive

variable {w w' : State} {l : Label}

theorem eq_singleton (h : Exclusive w) {i : Nat} {g : Accepted} (hg : w.live[i]? = some g) :
    i = 0 ∧ w.live = [g] := by
  have hlen := h.single
  obtain ⟨hi, hg⟩ := List.getElem?_eq_some_iff.1 hg
  have hi0 : i = 0 := by omega
  subst hi0
  rcases hlive : w.live with _ | ⟨g', _ | ⟨g'', rest⟩⟩
  · simp [hlive] at hi
  · have hg' : g' = g := by simpa [hlive] using hg
    exact ⟨rfl, by rw [hg']⟩
  · simp [hlive] at hlen

theorem executeCallback (h : Exclusive w) {i : Nat} {g : Accepted} (hg : w.live[i]? = some g)
    (hnone : g.goal = none) : Exclusive (w.executeCallback i g) := by
  obtain ⟨rfl, hlive⟩ := h.eq_singleton hg
  have hmem : g ∈ w.live := by rw [hlive]; exact List.mem_singleton_self g
  unfold State.executeCallback
  split
  · constructor
    · simp [hlive]
    · intro he g' hg'
      simp [hlive] at hg'
    · intro g' hg'
      simp [hlive] at hg'
    · exact h.executed
  · next goal hgoal =>
    have hown : fromRosMsg g.request = .ok goal := by
      rcases ht : w.trajectoryGoal with _ | goal'
      · rw [ht] at hgoal
        exact hgoal
      · have heq : goal' = goal := by simpa [ht] using hgoal
        rw [← heq]
        exact h.own g hmem hnone goal' ht
    constructor
    · rw [List.length_set]
      exact h.single
    · intro he g' hg'
      have hstale := h.gated he g hmem
      have hg'' : g' = { g with goal := some goal } := by simpa [hlive] using hg'
      rw [hg'']
      exact hstale
    · intro g' hg' hnone'
      have hg'' : g' = { g with goal := some goal } := by simpa [hlive] using hg'
      rw [hg''] at hnone'
      cases hnone'
    · intro e he
      rcases List.mem_append.1 he with he | he
      · exact h.executed e he
      · rw [List.mem_singleton.1 he]
        exact hown

theorem finish (h : Exclusive w) {i : Nat} {g : Accepted} (hg : w.live[i]? = some g)
    (ending : Ending) : Exclusive (w.finish i ending) := by
  obtain ⟨rfl, hlive⟩ := h.eq_singleton hg
  have hnil : w.live.eraseIdx 0 = [] := by rw [hlive]; rfl
  cases ending <;> exact ⟨by simp [State.finish, hnil], by simp [State.finish, hnil],
    by simp [State.finish, hnil], h.executed⟩

theorem step (h : Exclusive w) (hl : Drained w l) (hs : Gate.step w l = some w') : Exclusive w' := by
  cases l with
  | request msg =>
    simp only [Gate.step, Option.ite_none_right_eq_some] at hs
    obtain ⟨-, hs⟩ := hs
    rcases hc : w.goalCallback msg with ⟨v, _ | _⟩
    · rw [hc] at hs
      obtain ⟨he, goal, hgoal, rfl⟩ := goalCallback_accept hc
      have hmsg := fromRosMsg_of_validate hgoal
      have hnil : w.live = [] := by
        refine List.eq_nil_iff_forall_not_mem.2 fun g hg => ?_
        have hstale := h.gated he g hg
        have hfresh := hl he (by rw [hgoal]; rfl) g hg
        rw [hstale] at hfresh
        cases hfresh
      cases hs
      constructor
      · simp [hnil]
      · intro he'
        cases he'
      · intro g hg _ goal' hgoal'
        have hg' : g = { request := msg } := by simpa [hnil] using hg
        rw [hg', hmsg, Option.some.inj hgoal']
      · exact h.executed
    · rw [hc] at hs
      cases hs
      rcases goalCallback_reject hc with rfl | ⟨he, rfl⟩
      · exact h
      · exact ⟨h.single, h.gated, (fun _ _ _ _ hgoal => by cases hgoal), h.executed⟩
  | start i =>
    obtain ⟨g, hg, hs⟩ := Option.bind_eq_some_iff.1 hs
    rw [Option.ite_none_right_eq_some] at hs
    obtain ⟨hnone, hs⟩ := hs
    cases hs
    exact h.executeCallback hg hnone
  | finish i ending =>
    obtain ⟨g, hg, hs⟩ := Option.bind_eq_some_iff.1 hs
    rw [Option.ite_none_left_eq_some] at hs
    obtain ⟨-, hs⟩ := hs
    cases hs
    exact h.finish hg ending
  | cancel =>
    cases hs
    exact h
  | onDeactivate =>
    simp only [Gate.step, Option.ite_none_right_eq_some] at hs
    obtain ⟨-, hs⟩ := hs
    cases hs
    constructor
    · simpa [State.onDeactivate] using h.single
    · intro _ g hg
      obtain ⟨g', -, rfl⟩ := List.mem_map.1 hg
      rfl
    · intro _ _ _ _ hgoal
      cases hgoal
    · exact h.executed
  | onActivate success =>
    simp only [Gate.step, Option.ite_none_left_eq_some] at hs
    obtain ⟨-, hs⟩ := hs
    cases hs
    exact ⟨h.single, h.gated, h.own, h.executed⟩

theorem init (cfg : Option ConstraintConfigDTO) : Exclusive (init cfg) := by
  constructor <;> simp [Gate.init]

end Exclusive

/-- A step that is not drained lets a second goal in. -/
theorem overlap_of_not_drained {w w' : State} {l : Label} (h : ¬ Drained w l)
    (hs : step w l = some w') : 2 ≤ w'.live.length := by
  cases l with
  | request msg =>
    rw [Drained, Classical.not_imp, Classical.not_imp] at h
    obtain ⟨he, hvalid, hlive⟩ := h
    have hpos : 0 < w.live.length := by
      refine List.length_pos_iff.2 fun hnil => hlive ?_
      rw [hnil]
      simp
    cases hgoal : w.validate msg with
    | error e =>
      rw [hgoal] at hvalid
      cases hvalid
    | ok goal =>
      simp only [step, Option.ite_none_right_eq_some, goalCallback_ok he hgoal] at hs
      rw [← Option.some.inj hs.2, List.length_append, List.length_singleton]
      omega
  | _ => exact absurd trivial h

/-- When valid goal requests wait for the goals from before a deactivation, at most one accepted goal
has not returned, and what is executed is always the goal of the own request. The first request that
does not wait lets a second goal in. -/
theorem one_goal_at_a_time (cfg : Option ConstraintConfigDTO) (w : State)
    (h : Lts.Runs step Drained (init cfg) w) :
    (w.live.length ≤ 1 ∧ ∀ e ∈ w.executions, fromRosMsg e.1 = .ok e.2) ∧
      ∀ l w', step w l = some w' → ¬ Drained w l → ¬ w'.live.length ≤ 1 := by
  have hw : Exclusive w := h.invariant (.init cfg) fun ht hl hs => ht.step hl hs
  refine ⟨⟨hw.single, hw.executed⟩, fun l w' hs hl => ?_⟩
  have hlen := overlap_of_not_drained hl hs
  omega

/-! ### A goal that outlives a deactivation -/

def goalMessage (pathId : String) : ExecuteTrajectory.Goal :=
  ⟨[{ pathId := pathId, motionType := "LIN", toolFrame := "tool0" }]⟩

/-- The first goal still executes when the second is accepted. -/
def overlap : List Label :=
  [.onActivate true, .request (goalMessage "11111111-1111-4111-8111-111111111111"), .start 0,
    .onDeactivate, .onActivate true, .request (goalMessage "22222222-2222-4222-8222-222222222222")]

/-- The first goal ends before the second starts, and a third one is accepted in between. -/
def mixUp : List Label :=
  overlap ++ [.finish 0 .failed, .request (goalMessage "33333333-3333-4333-8333-333333333333"),
    .start 0]

theorem one_goal_at_a_time_drained :
    ∃ w : State, w.executions.length = 2 ∧ w.live.length ≤ 1 ∧
      ∀ e ∈ w.executions, fromRosMsg e.1 = .ok e.2 := by
  have h : Lts.Runs step Drained (init none) _ :=
    .of_exec [.onActivate true, .request (goalMessage "11111111-1111-4111-8111-111111111111"),
      .start 0, .onDeactivate, .onActivate true, .finish 0 .failed,
      .request (goalMessage "22222222-2222-4222-8222-222222222222"), .start 0] rfl
  exact ⟨_, rfl, (one_goal_at_a_time _ _ h).1⟩

theorem two_goals_at_a_time :
    ¬ (∀ cfg w, Lts.Reaches step (init cfg) w → w.live.length ≤ 1) ∧
    ¬ (∀ cfg w, Lts.Reaches step (init cfg) w → ∀ e ∈ w.executions, fromRosMsg e.1 = .ok e.2) := by
  constructor
  · intro h
    have hrun : Lts.Reaches step (init none) _ := .of_exec overlap rfl
    have hlen := h _ _ hrun
    exact absurd hlen (by decide)
  · intro h
    have hrun : Lts.Reaches step (init none) _ := .of_exec mixUp rfl
    have hown := h _ _ hrun _ (List.mem_cons_of_mem _ List.mem_cons_self)
    exact absurd hown (by decide)

end Gate
end MovementController
