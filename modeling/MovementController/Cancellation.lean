import MovementController.Truth

/-!
# An accepted cancel is final

From the cancel of a goal on nothing is sent for it, since the check stands right before the send.
The goal also fails: its session's event stays set, so that the sentinel the thread may still take
comes behind the cancellation failure; or the session began after the cancel, and then the first item
that it yields is met by the check. Only a goal whose sentinel was taken before the cancel may still
succeed.
-/

namespace MovementController
namespace Execution

/-! ### Following one goal through a run -/

/-- The goals, in the order of their acceptance. -/
def State.goals (w : State) : List Goal := w.finished ++ w.current.toList

/-- The `n`-th goal is the current one and meets `P`, or has returned and meets `Q`. -/
inductive Follows (n : Nat) (P : Planning.State → Goal → Prop) (Q : Goal → Prop) (w : State) : Prop
  | current (g : Goal) (hn : w.finished.length = n) (hg : w.current = some g) (hp : P w.plan g)
  | finished (g : Goal) (hg : w.finished[n]? = some g) (hq : Q g)

/-- What a run must keep of its current goal. -/
structure Keeps (P : Planning.State → Goal → Prop) (Q : Goal → Prop) : Prop where
  cancel : ∀ {p g}, P p g →
    P { p with coord := p.coord.cancel } { g with cancelRequested := true }
  deliver : ∀ {p p' g i answer call}, Planning.Coherent p.coord → P p g →
    Planning.step p (.deliver i answer call) = some p' → P p' g
  act : ∀ {w g a p g'}, Sound w → Faithful w → w.current = some g → P w.plan g →
    g.Act w.plan a p g' → (g'.result = none → P p g') ∧ (g'.result.isSome = true → Q g')

namespace Follows

variable {n : Nat} {P : Planning.State → Goal → Prop} {Q : Goal → Prop} {w w' : State} {l : Label}

theorem step (hk : Keeps P Q) (hw : Sound w) (hf : Faithful w) (h : Follows n P Q w)
    (hs : Execution.step w l = some w') : Follows n P Q w' := by
  cases h with
  | finished g hg hq =>
    refine .finished g ?_ hq
    cases step_cases hs with
    | accept | cancel | deliver => exact hg
    | thread a g' hg' p g'' ha =>
      rcases w.advance_cases p g'' with ⟨-, heq⟩ | ⟨-, heq⟩ <;> rw [heq]
      · exact hg
      · exact (List.getElem?_append_left (List.getElem?_eq_some_iff.1 hg).1).trans hg
  | current g hn hg hp =>
    cases step_cases hs with
    | accept goal hc => cases hc.symm.trans hg
    | cancel g' hg' =>
      obtain rfl := Option.some.inj (hg'.symm.trans hg)
      exact .current _ hn rfl (hk.cancel hp)
    | deliver i answer call p hd => exact .current g hn hg (hk.deliver hw.coherent hp hd)
    | thread a g' hg' p g'' ha =>
      obtain rfl := Option.some.inj (hg'.symm.trans hg)
      obtain ⟨hgoes, hends⟩ := hk.act hw hf hg hp ha
      rcases w.advance_cases p g'' with ⟨hr, heq⟩ | ⟨hr, heq⟩ <;> rw [heq]
      · exact .current g'' hn rfl (hgoes hr)
      · exact .finished g'' (by simp [← hn]) (hends hr)

theorem runs {c : PlanningCoordinator} (hk : Keeps P Q) (hw : Lts.Reaches Execution.step (init c) w)
    (h : Follows n P Q w) (hr : Lts.Reaches Execution.step w w') : Follows n P Q w' :=
  (hr.invariant (I := fun w => (Sound w ∧ Faithful w) ∧ Follows n P Q w)
    ⟨⟨.of_reaches hw, .of_reaches hw⟩, h⟩ fun ⟨⟨hw, hf⟩, h⟩ _ hs =>
      ⟨⟨hw.step hs, hf.step hw hs⟩, h.step hk hw hf hs⟩).2

theorem goal (hP : ∀ p g, P p g → Q g) (h : Follows n P Q w) : ∃ g, w.goals[n]? = some g ∧ Q g := by
  cases h with
  | current g hn hg hp => exact ⟨g, by simp [State.goals, hg, ← hn], hP _ g hp⟩
  | finished g hg hq =>
    exact ⟨g, (List.getElem?_append_left (List.getElem?_eq_some_iff.1 hg).1).trans hg, hq⟩

end Follows

/-! ### The cancelled goal -/

def Event.sent? : Event → Option RobotTrajectory
  | .sent trajectory => some trajectory
  | _ => none

def Goal.sends (g : Goal) : List RobotTrajectory := g.log.filterMap Event.sent?

/-- A cancelled goal that did not take the sentinel cannot take it any more: its event is set, or it
has been yielded nothing yet and the next item it takes ends it. -/
def Goal.Doomed (p : Planning.State) (g : Goal) : Prop :=
  match g.pc with
  | .accepted | .ready | .planned _ | .failing _ => True
  | .requesting | .iterating => p.coord.cancelEvent = some true ∨ p.results p.sessionNo = []
  | .approved _ | .executing .. | .waiting .. => p.coord.cancelEvent = some true
  | .finishing => False

/-- The goal `g`, which was `g₀` when it was cancelled. -/
structure Goal.Cancelled (g₀ : Goal) (p : Planning.State) (g : Goal) : Prop where
  goal_eq : g.goal = g₀.goal
  sends_eq : g.sends = g₀.sends
  requested : g.cancelRequested = true
  running : g.result = none
  doomed : g₀.pc ≠ .finishing → g.clean = true → g.Doomed p

structure Goal.Stopped (g₀ g : Goal) : Prop where
  goal_eq : g.goal = g₀.goal
  sends_eq : g.sends = g₀.sends
  failure : g₀.pc ≠ .finishing → g.clean = true → ∀ r ∈ g.result, r.success = false

namespace Goal

variable {p p' : Planning.State} {g g' : Goal} {a : Action}

theorem doomed_of_cancel (h : (g.pc = .accepted ∨ g.pc = .ready) ∨ g.clean = true → Honest p g)
    (hpc : g.pc ≠ .finishing) (hclean : g.clean = true) :
    Doomed { p with coord := p.coord.cancel } { g with cancelRequested := true } := by
  have hset (hl : Planning.Lookahead g.goal.groups p) : p.coord.cancel.cancelEvent = some true := by
    rcases hl.event with he | he <;> simp [he]
  have hhonest := h (.inr hclean)
  unfold Doomed
  cases hpc' : g.pc with
  | accepted | ready | planned | failing => trivial
  | requesting | iterating => exact .inl (hset (hhonest.account hpc').1)
  | approved dto =>
    obtain ⟨plans, hl, -⟩ := hhonest.account hpc'
    exact hset hl
  | executing dto rest =>
    obtain ⟨plans, sent, hl, -⟩ := hhonest.account hpc'
    exact hset hl
  | waiting dto rest =>
    obtain ⟨plans, sent, t, hl, -⟩ := hhonest.account hpc'
    exact hset hl
  | finishing => exact hpc hpc'

theorem Doomed.mono (h : g.Doomed p) (hpc : g'.pc = g.pc)
    (he : p.coord.cancelEvent = some true → p'.coord.cancelEvent = some true)
    (hy : p'.results p'.sessionNo = p.results p.sessionNo) : g'.Doomed p' := by
  rw [Doomed] at h ⊢
  rw [hpc]
  generalize g.pc = pc at h
  cases pc with
  | requesting | iterating => exact h.imp he hy.trans
  | approved | executing | waiting => exact he h
  | finishing => exact h
  | _ => trivial

theorem sends_of_act (hc : g.cancelRequested = true) (h : g.Act p a p' g') :
    g'.goal = g.goal ∧ g'.sends = g.sends ∧ g'.cancelRequested = true := by
  cases h with
  | sent dto t rest hpc hc' => simp [hc] at hc'
  | announced | answered | answerFailed | completed =>
    simp [sends, emit, goto, Event.sent?, hc, feedback]
  | _ => exact ⟨rfl, rfl, hc⟩

variable {w : State}

theorem Doomed.act (hw : Sound w) (hf : Faithful w) (hg : w.current = some g)
    (hc : g.cancelRequested = true) (h : g.clean = true → g.Doomed w.plan) (ha : g.Act w.plan a p g')
    (hclean : g'.clean = true) : g'.Doomed p := by
  cases ha with
  | started | halted | notRequested | pollFailed | gotResult | answerFailed => trivial
  | planAll hpc q hs =>
    cases Planning.step_cases hw.coherent hs with
    | planAll groups => exact .inr (hw.ledger.results_eq_nil (Nat.lt_succ_self _))
  | requested hpc hclient q hs =>
    have hd : w.plan.coord.cancelEvent = some true ∨ w.plan.results w.plan.sessionNo = [] := by
      simpa [Doomed, hpc] using h hclean
    cases Planning.step_cases hw.coherent hs with
    | sceneRequested => exact hd
    | sceneUnavailable _ _ hun => cases hun hclient
  | iterate hpc q hs =>
    cases Planning.step_cases hw.coherent hs with
    | iterate => exact (h hclean).mono rfl id rfl
  | polled hpc q hs hp =>
    cases Planning.step_cases hw.coherent hs with
    | polled => exact (h hclean).mono rfl id rfl
    | pollFailed => cases hp
  | gotSentinel hpc hn q hs =>
    have hd : w.plan.coord.cancelEvent = some true ∨ w.plan.results w.plan.sessionNo = [] := by
      simpa [Doomed, hpc] using h hclean
    obtain ⟨hl, -⟩ := (hf.current g hg (.inr hclean)).account hpc
    obtain ⟨-, rest, hq⟩ := (hw.current g hg).queue_of_next hpc hn
    obtain ⟨he, hplan⟩ := hl.gotSentinel hq
    rcases hd with hd | hd
    · simp [hd] at he
    · rw [hd, List.forall₂_nil_left_iff] at hplan
      exact absurd hplan g.goal.groups_ne_nil
  | approved dto hpc hc' => simp [hc] at hc'
  | announced dto hpc =>
    have hset : w.plan.coord.cancelEvent = some true := by simpa [Doomed, hpc] using h hclean
    exact hset
  | sent dto t rest hpc hc' => simp [hc] at hc'
  | answered dto rest hpc =>
    have hset : w.plan.coord.cancelEvent = some true := by simpa [Doomed, hpc] using h hclean
    exact hset
  | completed dto hpc => exact .inl (by simpa [Doomed, hpc] using h hclean)
  | succeeded hpc => simpa [Doomed, hpc] using h hclean
  | failed e hpc => simp [Doomed, hpc]

theorem keeps_cancelled (g₀ : Goal) : Keeps (Cancelled g₀) (Stopped g₀) where
  cancel {p g} h := by
    refine ⟨h.goal_eq, h.sends_eq, rfl, h.running, fun he hc =>
      (h.doomed he hc).mono rfl (fun hset => ?_) rfl⟩
    simp [hset]
  deliver {p p' g i answer call} hcoh h hs := by
    refine ⟨h.goal_eq, h.sends_eq, h.requested, h.running, fun he hc =>
      (h.doomed he hc).mono rfl ?_ ?_⟩
    · intro hset
      cases Planning.step_cases hcoh hs with
      | ignored => exact hset
      | acted i answer call o ho q gs hopen => simp [hopen.event] at hset
    · cases Planning.step_cases hcoh hs <;> rfl
  act {w g a p g'} hw hf hg h ha := by
    obtain ⟨hgoal, hsends, hreq⟩ := sends_of_act h.requested ha
    have hdoomed (he : g₀.pc ≠ .finishing) (hc : g'.clean = true) : g'.Doomed p :=
      .act hw hf hg h.requested (h.doomed he) ha hc
    have hrun := h.running
    refine ⟨fun hr => ⟨hgoal.trans h.goal_eq, hsends.trans h.sends_eq, hreq, hr, hdoomed⟩, fun _ =>
      ⟨hgoal.trans h.goal_eq, hsends.trans h.sends_eq, fun he hc r hr => ?_⟩⟩
    have hd := hdoomed he hc
    cases ha with
    | succeeded hpc => simp [Doomed, hpc] at hd
    | failed e hpc => cases hr; rfl
    | _ => simp_all [goto, emit]

end Goal

/-- After an accepted cancel nothing more is sent for the goal, and if its sentinel was not yet taken
then it does not succeed, whatever the planners and MoveIt answer afterwards. -/
theorem cancel_safe (c : PlanningCoordinator) (w w₁ w₂ : State) (g : Goal)
    (hreach : Lts.Reaches step (init c) w) (hg : w.current = some g)
    (hcancel : step w .cancel = some w₁) (hrun : Lts.Reaches step w₁ w₂) :
    ∃ g', w₂.goals[w.finished.length]? = some g' ∧ g'.goal = g.goal ∧ g'.sends = g.sends ∧
      (g.pc ≠ .finishing → g'.clean = true → ∀ r ∈ g'.result, r.success = false) := by
  have hstart : Follows w.finished.length g.Cancelled g.Stopped w₁ := by
    cases step_cases hcancel with
    | cancel g' hg' =>
      obtain rfl := Option.some.inj (hg'.symm.trans hg)
      refine .current _ rfl rfl ⟨rfl, rfl, rfl, ((Sound.of_reaches hreach).current _ hg).running, ?_⟩
      exact Goal.doomed_of_cancel ((Faithful.of_reaches hreach).current _ hg)
  obtain ⟨g', hget, hstop⟩ := (hstart.runs (Goal.keeps_cancelled g)
    (hreach.tail trivial hcancel) hrun).goal fun p k hk =>
      ⟨hk.goal_eq, hk.sends_eq, fun _ _ r hr => by simp [hk.running] at hr⟩
  exact ⟨g', hget, hstop.goal_eq, hstop.sends_eq, hstop.failure⟩

/-- The cancel falls between the send of the only trajectory and its successful answer. -/
theorem cancel_safe_executeFirst :
    ∃ (w : State) (g : Goal), w.goals[0]? = some g ∧ g.sends.length = 1 ∧
      ∀ r ∈ g.result, r.success = false := by
  have h : Lts.Reaches step (init (PlanningCoordinator.onActivate (.new "manipulator"))) _ :=
    .of_exec (beginFirst ++ [.deliver 0 (.pilz (.value Planning.onePoint)) fun _ => {}, .thread .get,
      .thread .check, .thread (.announce none), .thread (.send true none)]) rfl
  obtain ⟨g, hg, -, hsends, hr⟩ := cancel_safe _ _ _ _ _ h rfl rfl <|
    .of_exec [.thread (.answer .succeeded), .thread (.complete none), .thread .poll, .thread .get,
      .thread .check, .thread .fail] rfl
  exact ⟨_, g, hg, by rw [hsends]; rfl, hr nofun (by cases hg; rfl)⟩

end Execution
end MovementController
