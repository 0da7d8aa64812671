import MovementController.Io.Feedback

/-!
# Deactivation and the monitor goals

A goal notices a deactivation when it polls the flag. Between a deactivation and the next activation
the flag is down, so a goal that polls it then is on its way out for good (`WoundDown`); a goal that
does not is still in its loop when the flag goes up again, unless an exception ended it (`Stray`).
-/

namespace IoControllers

/-- Before the loop or in it. -/
def MonitorPc.watching : MonitorPc → Bool
  | finish _ _ _ | leave _ | ended _ => false
  | _ => true

namespace MonitorGoal

/-- The goal ends, or has ended, with this message and outcome. -/
def Ends (goal : MonitorGoal) (message : String) (outcome : MonitorOutcome) : Prop :=
  match goal.pc with
  | .finish false m o => m = message ∧ o = outcome
  | .leave result | .ended result =>
    result = some (goal.result message outcome) ∧ goal.outcome = some outcome
  | _ => False

/-- The goal ends because of the deactivation, or because its client asked for it. -/
def WoundDown (goal : MonitorGoal) : Prop :=
  goal.Ends "deactivated" .aborted ∨ (goal.cancelRequested ∧ goal.Ends "cancelled" .canceled)

/-- An exception has ended the goal. -/
def Failed (goal : MonitorGoal) : Prop :=
  match goal.pc with
  | .finish true m _ => ∃ exc : String, m = s!"error: {exc}"
  | .leave result | .ended result => ∀ r ∈ result, ∃ exc : String, r.message = s!"error: {exc}"
  | _ => False

/-- The goal watches, or an exception has ended it. -/
def Stray (goal : MonitorGoal) : Prop := goal.pc.watching ∨ goal.Failed

theorem not_ends_of_watching {goal : MonitorGoal} (h : goal.pc.watching) (message : String)
    (outcome : MonitorOutcome) : ¬goal.Ends message outcome := by
  intro hends
  unfold Ends at hends
  split at hends
  · next hpc =>
    rw [hpc] at h
    cases h
  · next hpc =>
    rw [hpc] at h
    cases h
  · next hpc =>
    rw [hpc] at h
    cases h
  · exact hends

theorem error_ne {exc message : String} (h : message.toList.head? ≠ some 'e') :
    s!"error: {exc}" ≠ message := by
  have hhead : (s!"error: {exc}").toList.head? = some 'e' := by
    show ("error: " ++ exc).toList.head? = some 'e'
    rw [String.toList_append]
    rfl
  intro heq
  rw [heq] at hhead
  exact h hhead

theorem not_ends_of_failed {goal : MonitorGoal} (h : goal.Failed) {message : String}
    (hmessage : message.toList.head? ≠ some 'e') (outcome : MonitorOutcome) :
    ¬goal.Ends message outcome := by
  have hresult : ∀ result, (∀ r ∈ result, ∃ exc : String, r.message = s!"error: {exc}") →
      result ≠ some (goal.result message outcome) := by
    rintro result hall rfl
    obtain ⟨exc, hexc⟩ := hall _ rfl
    have hsame : (goal.result message outcome).message = message := by cases outcome <;> rfl
    exact error_ne hmessage (hexc.symm.trans hsame)
  intro hends
  unfold Ends at hends
  unfold Failed at h
  split at hends
  · next hpc =>
    rw [hpc] at h
    exact h
  · next result hpc =>
    rw [hpc] at h
    exact hresult result h hends.1
  · next result hpc =>
    rw [hpc] at h
    exact hresult result h hends.1
  · exact hends

theorem Stray.not_woundDown {goal : MonitorGoal} (h : goal.Stray) : ¬goal.WoundDown := by
  rintro (hends | ⟨-, hends⟩)
  · rcases h with h | h
    · exact not_ends_of_watching h _ _ hends
    · exact not_ends_of_failed h (by decide) _ hends
  · rcases h with h | h
    · exact not_ends_of_watching h _ _ hends
    · exact not_ends_of_failed h (by decide) _ hends

/-- A goal on its way out stays there. -/
theorem Ends.moved {n : GpioController} {made : ℕ} {goal goal' : MonitorGoal} {k : GoalStep}
    {message : String} {outcome : MonitorOutcome} (h : goal.Ends message outcome)
    (hk : ∀ exc, k ≠ .finish (some exc)) (hm : goal.Moved n made k goal') :
    goal'.Ends message outcome ∧ goal'.published = goal.published ∧
      (goal.cancelRequested → goal'.cancelRequested) := by
  have hout : goal.pc.watching = false := by
    by_contra hw
    exact not_ends_of_watching (Bool.eq_true_of_not_eq_false hw) _ _ h
  cases hm with
  | lookup hpc =>
    rw [hpc] at hout
    cases hout
  | readInitial fault hpc =>
    rw [hpc] at hout
    cases hout
  | publishInitial stamp fault hpc =>
    rw [hpc] at hout
    cases hout
  | checkActive hpc =>
    rw [hpc] at hout
    cases hout
  | checkCancel hpc =>
    rw [hpc] at hout
    cases hout
  | get hpc =>
    rw [hpc] at hout
    cases hout
  | publish fault hpc htaken =>
    rw [hpc] at hout
    cases hout
  | @finish handler m o fault hpc =>
    cases fault with
    | some exc => exact absurd rfl (hk exc)
    | none =>
      unfold Ends at h
      rw [hpc] at h
      cases handler with
      | true => exact h.elim
      | false =>
        obtain ⟨rfl, rfl⟩ := h
        exact ⟨⟨rfl, rfl⟩, rfl, id⟩
  | cancel hnone => exact ⟨h, rfl, fun _ => rfl⟩

/-- A goal that does not find a reason to end stays in its loop or fails. -/
theorem Stray.moved {n : GpioController} {made : ℕ} {goal goal' : MonitorGoal} {k : GoalStep}
    (h : goal.Stray) (hactive : k ≠ .checkActive) (hcancel : k = .checkCancel → ¬goal.cancelRequested)
    (hm : goal.Moved n made k goal') : goal'.Stray := by
  have hraise : ∀ exc, (goal.raise exc).Stray := fun exc => .inr ⟨exc, rfl⟩
  cases hm with
  | lookup hpc =>
    unfold MonitorGoal.lookup
    split
    · refine .inr fun r hr => ?_
      cases hr
    · exact .inl rfl
  | readInitial fault hpc =>
    unfold MonitorGoal.readInitial
    split
    · exact hraise _
    · split
      · exact hraise _
      · split <;> exact .inl rfl
  | publishInitial stamp fault hpc =>
    cases fault with
    | some exc => exact hraise exc
    | none => exact .inl rfl
  | checkActive hpc => exact absurd rfl hactive
  | checkCancel hpc =>
    unfold MonitorGoal.checkCancel
    rw [if_neg (hcancel rfl)]
    exact .inl rfl
  | get hpc => unfold MonitorGoal.get; split <;> exact .inl rfl
  | publish fault hpc htaken =>
    cases fault with
    | some exc => exact hraise exc
    | none => exact .inl rfl
  | @finish handler m o fault hpc =>
    have hfailed : goal.Failed := h.resolve_left fun hw => by
      rw [hpc] at hw
      cases hw
    unfold Failed at hfailed
    rw [hpc] at hfailed
    cases handler with
    | false => exact hfailed.elim
    | true =>
      cases fault with
      | some exc =>
        refine .inr fun r hr => ?_
        cases hr
      | none =>
        obtain ⟨exc, rfl⟩ := hfailed
        refine .inr fun r hr => ⟨exc, ?_⟩
        rw [← Option.some.inj hr]
        cases o <;> rfl
  | cancel hnone => exact h

end MonitorGoal

namespace Monitor

variable {py : Pydantic} {s s' : Monitor} {g : ℕ} {goal goal' : MonitorGoal} {l : Label}

/-- `_finish_monitor` does not raise for the goal. -/
def Orderly (g : ℕ) : Label → Prop
  | .goal i (.finish (some _)) => i ≠ g
  | _ => True

/-- The step is not an activation that succeeds. -/
def StaysDown (s : Monitor) : Label → Prop
  | .transition (.activate false) => s.node.driver = none
  | _ => True

/-- The goal evaluates `not self._active`, or `is_cancel_requested` after a request. -/
def Polls (s : Monitor) (g : ℕ) : Label → Prop
  | .goal i .checkActive => i = g
  | .goal i .checkCancel => i = g ∧ ∃ goal, s.goals g = some goal ∧ goal.cancelRequested
  | _ => False

end Monitor

/-! ### The flag -/

@[simp] theorem GpioController.active_setUp (n : GpioController) (config : IOControllerConfigDTO)
    (publishRateHz : ℚ) (driver : IODriver) :
    (n.setUp config publishRateHz driver).active = n.active := by
  rw [setUp]
  dsimp only
  split <;> rfl

@[simp] theorem GpioController.active_quiesce (n : GpioController) : n.quiesce.active = false := by
  rw [quiesce, cancelMockTimers_eq]
  rfl

@[simp] theorem GpioController.active_teardown (n : GpioController) : n.teardown.active = false := by
  rw [teardown, cancelMockTimers_eq]
  rfl

@[simp] theorem GpioController.active_unregisterWatcher (n : GpioController) (ioName : String)
    (g : ℕ) : (n.unregisterWatcher ioName g).active = n.active := by
  unfold unregisterWatcher
  split
  · rfl
  · split <;> rfl

/-- Only an activation raises the flag. -/
theorem Managed.Transits.active {py : Pydantic} {m m' : Managed} {t : Transition}
    {ret : TransitionCallbackReturn} (h : m.Transits py t m' ret) (hdown : m.node.active = false) :
    m'.node.active = false ∨ (t = .activate false ∧ m.node.driver ≠ none) := by
  cases h with
  | configure hstate hdriver => exact .inl (by simpa using hdown)
  | configureFails hstate hdriver => exact .inl hdown
  | activate hstate hdriver => exact .inr ⟨rfl, by rw [hdriver]; exact Option.some_ne_none _⟩
  | activateFails hstate hfault => exact .inl hdown
  | deactivate hstate hfault => exact .inl (by simp)
  | deactivateFails hstate hdriver => exact .inl (by simp)
  | cleanup hstate => exact .inl (by simp)
  | shutdown hstate => exact .inl (by simp)

namespace Monitor

variable {py : Pydantic} {s s' : Monitor} {g : ℕ} {goal goal' : MonitorGoal} {l : Label}

theorem active_step (hdown : s.node.active = false) (hl : StaysDown s l)
    (hs : step py s l = some s') : s'.node.active = false := by
  cases step_cases hs with
  | transition hm =>
    rcases (Managed.transition_cases hm).active hdown with h | ⟨rfl, hdriver⟩
    · exact h
    · exact absurd hl hdriver
  | accept hg hok => exact hdown
  | register hg hpc => exact hdown
  | unregister hg hpc => exact (GpioController.active_unregisterWatcher _ _ _).trans hdown
  | goal hg hm => exact hdown
  | change hr hc =>
    obtain ⟨driver, -, hc⟩ := Option.bind_eq_some_iff.1 hc
    dsimp only at hc
    split at hc
    · cases hc
    · rw [← Option.some.inj hc]
      exact hdown
  | stamp time hr => exact hdown
  | copyWatchers hr hnodup hset => exact hdown
  | put hr hg => exact hdown
  | done hr => exact hdown

theorem active_deactivate {fault : Bool} (hs : step py s (.transition (.deactivate fault)) = some s') :
    s'.node.active = false ∧ s'.goals = s.goals := by
  cases step_cases hs with
  | transition hm =>
    refine ⟨?_, rfl⟩
    cases Managed.transition_cases hm with
    | deactivate hstate hfault => simp
    | deactivateFails hstate hdriver => simp

/-! ### One goal -/

/-- The goal is on its way out because of the deactivation or its client. -/
def IsWoundDown (s : Monitor) (g : ℕ) (published : List MonitorIO.Feedback) : Prop :=
  ∃ goal, s.goals g = some goal ∧ goal.WoundDown ∧ goal.published = published

def IsStray (s : Monitor) (g : ℕ) : Prop := ∃ goal, s.goals g = some goal ∧ goal.Stray

theorem IsWoundDown.step {published : List MonitorIO.Feedback} (h : s.IsWoundDown g published)
    (hl : Orderly g l) (hs : Monitor.step py s l = some s') : s'.IsWoundDown g published := by
  obtain ⟨goal, hg, hdown, rfl⟩ := h
  obtain ⟨goal', hg', hbecomes⟩ := becomes hs hg
  refine ⟨goal', hg', ?_⟩
  have hkeeps : (∀ message outcome, goal.Ends message outcome → goal'.Ends message outcome ∧
      goal'.published = goal.published ∧ (goal.cancelRequested → goal'.cancelRequested)) →
      goal'.WoundDown ∧ goal'.published = goal.published := by
    intro hends
    rcases hdown with hdown | ⟨hcancel, hdown⟩
    · obtain ⟨hdown', hpublished, -⟩ := hends _ _ hdown
      exact ⟨.inl hdown', hpublished⟩
    · obtain ⟨hdown', hpublished, hcancel'⟩ := hends _ _ hdown
      exact ⟨.inr ⟨hcancel' hcancel, hdown'⟩, hpublished⟩
  refine hkeeps fun message outcome hends => ?_
  cases hbecomes with
  | keeps pending hl => exact ⟨hends, rfl, id⟩
  | register hpc =>
    have hw : goal.pc.watching := by rw [hpc]; rfl
    exact absurd hends (MonitorGoal.not_ends_of_watching hw _ _)
  | unregister hpc =>
    unfold MonitorGoal.Ends at hends
    rw [hpc] at hends
    obtain ⟨rfl, houtcome⟩ := hends
    exact ⟨⟨rfl, houtcome⟩, rfl, id⟩
  | moved hm =>
    refine hends.moved (fun exc hk => ?_) hm
    rw [hk] at hl
    exact hl rfl

theorem IsWoundDown.runs {C : Monitor → Label → Prop} {published : List MonitorIO.Feedback}
    (h : s.IsWoundDown g published) (hr : Lts.Runs (Monitor.step py) C s s')
    (hC : ∀ s l, C s l → Orderly g l) : s'.IsWoundDown g published :=
  hr.invariant (I := fun s => s.IsWoundDown g published) h fun h hc hs => h.step (hC _ _ hc) hs

theorem IsStray.step (h : s.IsStray g) (hl : ¬s.Polls g l) (hs : Monitor.step py s l = some s') :
    s'.IsStray g := by
  obtain ⟨goal, hg, hstray⟩ := h
  obtain ⟨goal', hg', hbecomes⟩ := becomes hs hg
  refine ⟨goal', hg', ?_⟩
  cases hbecomes with
  | keeps pending hl => exact hstray
  | register hpc =>
    refine .inl ?_
    unfold MonitorGoal.register
    dsimp only
    split <;> rfl
  | unregister hpc =>
    have hfailed : goal.Failed := hstray.resolve_left fun hw => by
      rw [hpc] at hw
      cases hw
    unfold MonitorGoal.Failed at hfailed
    rw [hpc] at hfailed
    exact .inr hfailed
  | moved hm =>
    refine hstray.moved (fun hk => ?_) (fun hk hcancel => ?_) hm
    · rw [hk] at hl
      exact hl rfl
    · rw [hk] at hl
      exact hl ⟨rfl, goal, hg, hcancel⟩

/-- A poll while the flag is down finds a reason to end. -/
theorem IsWoundDown.of_poll (hdown : s.node.active = false) (hg : s.goals g = some goal)
    (hl : s.Polls g l) (hs : Monitor.step py s l = some s') :
    s'.IsWoundDown g goal.published := by
  obtain ⟨goal', hg', hbecomes⟩ := becomes hs hg
  refine ⟨goal', hg', ?_⟩
  cases hbecomes with
  | keeps pending hother =>
    unfold Polls at hl
    split at hl
    · exact absurd hl (of_decide_eq_false hother)
    · exact absurd hl.1 (of_decide_eq_false hother)
    · exact hl.elim
  | register hpc => exact hl.elim
  | unregister hpc => exact hl.elim
  | moved hm =>
    cases hm with
    | checkActive hpc =>
      unfold MonitorGoal.checkActive
      rw [hdown]
      exact ⟨.inl ⟨rfl, rfl⟩, rfl⟩
    | checkCancel hpc =>
      obtain ⟨-, c, hc, hcancel⟩ := hl
      rw [hg] at hc
      obtain rfl := Option.some.inj hc
      unfold MonitorGoal.checkCancel
      rw [if_pos hcancel]
      exact ⟨.inr ⟨hcancel, rfl, rfl⟩, rfl⟩
    | _ => exact hl.elim

instance (g : ℕ) (l : Label) : Decidable (Orderly g l) := by
  unfold Orderly
  split <;> infer_instance

instance (s : Monitor) (l : Label) : Decidable (StaysDown s l) :=
  match l with
  | .transition (.activate false) => decidable_of_iff (s.node.driver.isNone) Option.isNone_iff_eq_none
  | .transition (.activate true) | .transition (.configure _) | .transition (.deactivate _)
  | .transition .cleanup | .transition .shutdown | .accept _ _ | .register _ | .unregister _
  | .goal _ _ | .change _ _ | .stamp _ | .copyWatchers _ | .put => isTrue trivial

/-- From a deactivation to an activation: a goal that was accepted before ends for it, and publishes
nothing afterwards, if and only if it polls in between. -/
theorem deactivation_ends_goals {s₀ s₁ s₂ s₃ : Monitor} {fault fault' : Bool} {mid : List Label}
    {g : ℕ} {goal : MonitorGoal} (hg : s₀.goals g = some goal) (hw : goal.pc.watching)
    (hd : step py s₀ (.transition (.deactivate fault)) = some s₁)
    (hmid : Lts.Trace (step py) (fun s l => StaysDown s l ∧ Orderly g l) s₁ mid s₂)
    (ha : step py s₂ (.transition (.activate fault')) = some s₃) :
    (∀ s₄, Lts.Runs (step py) (fun _ l => Orderly g l) s₃ s₄ →
      ∃ goal₃ goal₄, s₃.goals g = some goal₃ ∧ s₄.goals g = some goal₄ ∧
        goal₄.WoundDown ∧ goal₄.published = goal₃.published) ↔
    ¬Lts.Trace (step py) (fun s l => ¬s.Polls g l) s₁ mid s₂ := by
  obtain ⟨hdown, hgoals⟩ := active_deactivate hd
  have hstray : s₁.IsStray g := ⟨goal, by rw [hgoals, hg], .inl hw⟩
  constructor
  · intro hall hnone
    have hstray₂ : s₂.IsStray g :=
      hnone.runs.invariant (I := fun s => s.IsStray g) hstray fun h hl hs => h.step hl hs
    obtain ⟨goal₃, hg₃, hstray₃⟩ := hstray₂.step id ha
    obtain ⟨-, goal₄, -, hg₄, hwound, -⟩ := hall s₃ .refl
    rw [hg₃] at hg₄
    rw [← Option.some.inj hg₄] at hwound
    exact hstray₃.not_woundDown hwound
  · intro hpoll s₄ hrest
    rcases hmid.first fun s l => s.Polls g l with hnone | ⟨u, v, l, hbefore, -, hl, hs, hafter⟩
    · exact absurd (hnone.mono fun _ hc _ => hc.2) hpoll
    · have hdown_u : u.node.active = false :=
        hbefore.invariant hdown fun h hc hs => active_step h hc.1.1 hs
      obtain ⟨goal_u, hg_u, -⟩ : u.IsStray g :=
        hbefore.invariant (I := fun s => s.IsStray g) hstray fun h hc hs => h.step hc.2 hs
      have hv : v.IsWoundDown g goal_u.published := .of_poll hdown_u hg_u hl hs
      have h₂ : s₂.IsWoundDown g goal_u.published := hv.runs hafter fun _ _ hc => hc.2
      have h₃ : s₃.IsWoundDown g goal_u.published :=
        h₂.step (l := .transition (.activate fault')) trivial ha
      obtain ⟨goal₄, hg₄, hwound, hpublished₄⟩ : s₄.IsWoundDown g goal_u.published :=
        h₃.runs hrest fun _ _ hc => hc
      obtain ⟨goal₃, hg₃, -, hpublished₃⟩ := h₃
      exact ⟨goal₃, goal₄, hg₃, hg₄, hwound, hpublished₄.trans hpublished₃.symm⟩

/-- The node is active and a goal watches `gripper`. -/
def watched : Monitor :=
  (Lts.exec (step .strict) (fun _ _ => True) {} (goActive ++ startGoal 0 ⟨"gripper", false⟩)).getD {}

def deactivated : Monitor := (step .strict watched (.transition (.deactivate false))).getD {}

theorem deactivation_ends_goals_polled : ∃ s₃ : Monitor, ∀ s₄,
    Lts.Runs (step .strict) (fun _ l => Orderly 0 l) s₃ s₄ →
      ∃ goal₃ goal₄, s₃.goals 0 = some goal₃ ∧ s₄.goals 0 = some goal₄ ∧
        goal₄.WoundDown ∧ goal₄.published = goal₃.published := by
  have hd : step .strict watched (.transition (.deactivate false)) = some deactivated := rfl
  have hmid : Lts.Trace (step .strict) (fun s l => StaysDown s l ∧ Orderly 0 l) deactivated
      [.goal 0 .checkActive] _ := .of_exec rfl
  refine ⟨_, (deactivation_ends_goals rfl rfl hd hmid
    (rfl : step .strict _ (.transition (.activate false)) = some _)).2 fun hnone => ?_⟩
  cases hnone with
  | cons hc hs h => exact hc rfl

/-- The node is activated again before the goal polls, and the goal goes on. -/
theorem goal_survives : ∃ (s₃ s₄ : Monitor) (goal₃ goal₄ : MonitorGoal),
    Lts.Reaches (step .strict) {} watched ∧
      step .strict watched (.transition (.deactivate false)) = some deactivated ∧
      step .strict deactivated (.transition (.activate false)) = some s₃ ∧
      Lts.Reaches (step .strict) s₃ s₄ ∧ s₃.goals 0 = some goal₃ ∧ s₄.goals 0 = some goal₄ ∧
      goal₄.pc.watching ∧ goal₃.published = [] ∧ goal₄.published.length = 1 := by
  refine ⟨_, _, _, _, .of_exec (goActive ++ startGoal 0 ⟨"gripper", false⟩) rfl, rfl, rfl,
    .of_exec [.change "gripper" (.bool true), .stamp 1, .copyWatchers [0], .put, .put,
      .goal 0 .checkActive, .goal 0 .checkCancel, .goal 0 .get, .goal 0 (.publish none)] rfl,
    rfl, rfl, rfl, rfl, rfl⟩

end Monitor

end IoControllers
