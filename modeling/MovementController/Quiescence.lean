import MovementController.Truth

/-!
# When a failed goal plans no more

A goal that fails returns at once, and the look-ahead chain of its session goes on unless something
stops it: a set event, the closing of the session, or that nothing is left to answer or to plan. The
thread sees to that on some of its ways out (`cancel` after an error code of MoveIt) and not on
others (status 5 and 6, an exception, a cancel that came before `plan_all`).
-/

namespace MovementController

/-! ### Quiet sessions -/

namespace Planning

/-- No response makes the session dispatch: its event is not unset, nothing is outstanding, or no
group is left. -/
def State.Quiet (w : State) : Prop :=
  w.coord.cancelEvent ≠ some false ∨ w.pending = [] ∨ ∀ s ∈ w.coord.session, s.groups = []

instance (w : State) : Decidable w.Quiet :=
  inferInstanceAs (Decidable (_ ∨ _ ∨ ∀ s ∈ w.coord.session, s.groups = []))

variable {w w' : State}

theorem State.Quiet.cancel (h : w.Quiet) : State.Quiet { w with coord := w.coord.cancel } := by
  refine h.imp (fun he => ?_) id
  rcases hev : w.coord.cancelEvent with _ | b <;> simp [hev]

theorem State.Quiet.deliver (hc : Coherent w.coord) (h : w.Quiet) {i : Nat} {answer : Answer}
    {call : PlanRequest → CallFaults} (hs : step w (.deliver i answer call) = some w') :
    w'.Quiet ∧ w'.dispatched = w.dispatched := by
  cases step_cases hc hs with
  | ignored i answer call o ho =>
    refine ⟨h.imp id (Or.imp_left fun hp => ?_), by simp [State.settle]⟩
    simp [hp] at ho
  | acted i answer call o ho q gs hopen v hv t ht =>
    rcases h with he | hp | hgs
    · exact absurd hopen.event he
    · simp [hp] at ho
    · obtain ⟨current, hsession⟩ := hopen.session
      obtain rfl : gs = [] := hgs _ hsession
      cases ht with
      | stopped => exact ⟨.inr (.inr hgs), by simp [State.settle]⟩
      | finished startState s hn hnil hgroups =>
        refine ⟨.inr (.inr fun s' hs' => ?_), by simp [State.settle]⟩
        rw [← Option.some.inj hs']
        exact hgroups
      | issued r rest message hn hgs => cases hgs
      | failed r rest dto hn hgs => cases hgs

theorem requests_congr {k : Nat} (h : w'.dispatched = w.dispatched) : w'.requests k = w.requests k := by
  rw [State.requests, h, State.requests]

theorem Step.sessionNo_le {l : Label} (h : Step w l w') : w.sessionNo ≤ w'.sessionNo := by
  cases h with
  | planAll => exact Nat.le_succ _
  | _ => exact Nat.le_refl _

theorem requests_of_lt (hc : Coherent w.coord) {l : Label} (hs : step w l = some w') {k : Nat}
    (hk : k < w.sessionNo) : w'.requests k = w.requests k := by
  cases step_cases hc hs with
  | ignored => exact State.settle_requests_of_ne (Nat.ne_of_lt hk)
  | acted => exact State.settle_requests_of_ne (Nat.ne_of_lt hk)
  | _ => rfl

end Planning

namespace Execution

/-! ### Goals that failed -/

def Goal.Failed (g : Goal) : Prop := ∃ r ∈ g.result, r.success = false

/-- The session of `g` is over; or it is the latest one, quiet, and the current goal, if there is
one, has not come to its `plan_all`. -/
def Goal.Retired (w : State) (g : Goal) : Prop :=
  g.session < w.plan.sessionNo ∨
    g.session = w.plan.sessionNo ∧ w.plan.Quiet ∧ ∀ k ∈ w.current, k.pc.planning = false

/-- A goal that called `plan_all` returns a failure only when its session is quiet. -/
def FailsQuietly (w : State) : Label → Prop
  | .thread a => a = .fail → ∀ g ∈ w.current, g.session = 0 ∨ w.plan.Quiet
  | .accept _ | .cancel | .deliver .. => True

instance : ∀ w l, Decidable (FailsQuietly w l)
  | w, .thread a => inferInstanceAs (Decidable (a = .fail → ∀ g ∈ w.current, _ ∨ w.plan.Quiet))
  | _, .accept _ | _, .cancel | _, .deliver .. => isTrue trivial

theorem Goal.Act.idle {p p' : Planning.State} {g g' : Goal} {a : Action} (h : Act p g a p' g')
    (hpc : g.pc.planning = false) :
    p'.sessionNo = p.sessionNo + 1 ∧ p'.dispatched = p.dispatched ∨
      (p'.sessionNo = p.sessionNo ∧ p'.dispatched = p.dispatched ∧ (p.Quiet → p'.Quiet)) ∧
        g'.pc.planning = false := by
  cases h with
  | started | halted => exact .inr ⟨⟨rfl, rfl, id⟩, rfl⟩
  | planAll hpc' q hs =>
    simp only [Planning.step, Option.ite_none_left_eq_some, Option.some.injEq] at hs
    exact .inl (hs.2 ▸ ⟨rfl, rfl⟩)
  | failed e hpc' =>
    rw [Planning.getD_abandon]
    exact .inr ⟨⟨rfl, rfl, id⟩, hpc⟩
  | iterate hpc' | polled hpc' => simp [hpc', Pc.planning] at hpc
  | _ => simp_all [Pc.planning]

namespace Goal.Retired

variable {w w' : State} {l : Label} {g : Goal}

theorem step (hw : Sound w) (h : g.Retired w) (hs : Execution.step w l = some w') :
    g.Retired w' ∧ w'.plan.requests g.session = w.plan.requests g.session := by
  have hstep := step_cases hs
  rcases h with hlt | ⟨heq, hquiet, hcur⟩
  · rcases hstep.plan with hp | ⟨l', hl⟩
    · rw [hp]
      exact ⟨.inl (hp ▸ hlt), rfl⟩
    · exact ⟨.inl (hlt.trans_le (Planning.step_cases hw.coherent hl).sessionNo_le),
        Planning.requests_of_lt hw.coherent hl hlt⟩
  · cases hstep with
    | accept goal hc =>
      refine ⟨.inr ⟨heq, hquiet, ?_⟩, rfl⟩
      rintro _ ⟨⟩
      rfl
    | cancel k hk =>
      refine ⟨.inr ⟨heq, hquiet.cancel, ?_⟩, rfl⟩
      rintro _ ⟨⟩
      exact hcur k hk
    | deliver i answer call p hd =>
      obtain ⟨hquiet', hdis⟩ := hquiet.deliver hw.coherent hd
      have hno : p.sessionNo = w.plan.sessionNo := by cases Planning.step_cases hw.coherent hd <;> rfl
      exact ⟨.inr ⟨heq.trans hno.symm, hquiet', hcur⟩, Planning.requests_congr hdis⟩
    | thread a k hk p k' ha =>
      have hp : (w.advance p k').plan = p := w.advance_plan p k'
      rw [hp]
      rcases ha.idle (hcur k hk) with ⟨hno, hdis⟩ | ⟨⟨hno, hdis, hquiet'⟩, hpc⟩
      · exact ⟨.inl (by rw [hp]; omega), Planning.requests_congr hdis⟩
      · refine ⟨.inr ⟨by rw [hp, hno, heq], by rw [hp]; exact hquiet' hquiet, ?_⟩,
          Planning.requests_congr hdis⟩
        rcases w.advance_cases p k' with ⟨-, heq⟩ | ⟨-, heq⟩ <;> rw [heq]
        · rintro _ ⟨⟩
          exact hpc
        · rintro _ ⟨⟩

theorem of_fail (hw : Sound w) (hq : FailsQuietly w l) (hs : Execution.step w l = some w')
    (hg : g ∈ w'.finished) (hnew : g ∉ w.finished) (hfail : g.Failed) : g.Retired w' := by
  cases step_cases hs with
  | accept | cancel | deliver => exact absurd hg hnew
  | thread a k hk p k' ha =>
    have hplaced := hw.current k hk
    have hrun := hplaced.running
    rcases w.advance_cases p k' with ⟨-, heq⟩ | ⟨hr, heq⟩ <;> rw [heq] at hg ⊢
    · exact absurd hg hnew
    obtain rfl : g = k' := by simpa [hnew] using hg
    obtain ⟨r, hr', hf⟩ := hfail
    cases ha with
    | succeeded => cases hr'; cases hf
    | failed e hpc =>
      rw [Planning.getD_abandon]
      -- a goal without a session fails before the first `plan_all`, or in a later session
      have hquiet (hsession : k.session = w.plan.sessionNo) : w.plan.Quiet := by
        rcases hq rfl k hk with h0 | hquiet
        · exact .inr (.inl (hw.ledger.fresh (hsession.symm.trans h0)).2)
        · exact hquiet
      by_cases hsession : k.session = w.plan.sessionNo
      · refine .inr ⟨hsession, hquiet hsession, ?_⟩
        rintro _ ⟨⟩
      · have h0 : k.session = 0 := hplaced.session.resolve_right hsession
        have hlt : k.session < w.plan.sessionNo := by omega
        exact .inl hlt
    | _ => simp_all [goto, emit]

end Goal.Retired

/-- In a run in which every goal that fails after its `plan_all` fails with its session quiet, the
goals that have failed get no further planner request. -/
theorem failed_plans_no_more (c : PlanningCoordinator) (w w' : State)
    (h : Lts.Runs step FailsQuietly (init c) w) (h' : Lts.Reaches step w w') (g : Goal)
    (hg : g ∈ w.finished) (hfail : g.Failed) :
    w'.plan.requests g.session = w.plan.requests g.session := by
  have hretired : Sound w ∧ ∀ g ∈ w.finished, g.Failed → g.Retired w := by
    refine h.invariant (I := fun w => Sound w ∧ ∀ g ∈ w.finished, g.Failed → g.Retired w)
      ⟨.init c, by rintro _ ⟨⟩⟩ fun {t u l} ht hl hs => ⟨ht.1.step hs, fun g hg hfail => ?_⟩
    by_cases hold : g ∈ t.finished
    · exact (Goal.Retired.step ht.1 (ht.2 g hold hfail) hs).1
    · exact .of_fail ht.1 hl hs hg hold hfail
  exact (h'.invariant (I := fun u => Sound u ∧ g.Retired u ∧
      u.plan.requests g.session = w.plan.requests g.session)
    ⟨hretired.1, hretired.2 g hg hfail, rfl⟩ fun ⟨hu, hr, heq⟩ _ hs =>
      ⟨hu.step hs, (hr.step hu hs).1, (hr.step hu hs).2.trans heq⟩).2.2

def threeGroups : TrajectoryGoalDTO :=
  ⟨[Planning.firstPath, Planning.secondPath, { Planning.turnPath with motionType := .LIN }], by decide,
    by decide⟩

/-- The first group is planned and executing, the second is with its planner. -/
def executeFirstOfThree : List Label :=
  [.accept threeGroups, .thread (.start true), .thread .planAll, .thread (.requestScene .available),
    .thread .iterate, .thread .poll, .deliver 0 (.scene (.value (some {}))) fun _ => {},
    .deliver 0 (.pilz (.value Planning.onePoint)) fun _ => {}, .thread .get, .thread .check,
    .thread (.announce none), .thread (.send true none)]

/-- After an error code `cancel` has stopped the chain: the response for the second group is
dropped. -/
theorem failed_plans_no_more_errorCode : ∃ w w' : State, ∃ g ∈ w.finished, g.Failed ∧
    w'.plan.delivered.length = w.plan.delivered.length + 1 ∧
    w'.plan.requests g.session = w.plan.requests g.session := by
  have h : Lts.Runs step FailsQuietly (init (PlanningCoordinator.onActivate (.new "manipulator"))) _ :=
    .of_exec (executeFirstOfThree ++ [.thread (.answer (.result 4 (some (-4)))), .thread .fail]) rfl
  have hsame := failed_plans_no_more _ _ _ h
    (.of_exec [.deliver 0 (.pilz (.value Planning.onePoint)) fun _ => {}] rfl) _
    (List.mem_singleton_self _) ⟨_, rfl, rfl⟩
  exact ⟨_, _, _, List.mem_singleton_self _, ⟨_, rfl, rfl⟩, rfl, hsame⟩

/-- After status 5 the chain goes on: the response for the second group dispatches the third. -/
theorem failed_plans_more :
    ¬ ∀ c w w', Lts.Reaches step (init c) w → Lts.Reaches step w w' → ∀ g ∈ w.finished, g.Failed →
      w'.plan.requests g.session = w.plan.requests g.session := by
  intro h
  have hrun : Lts.Reaches step (init (PlanningCoordinator.onActivate (.new "manipulator"))) _ :=
    .of_exec (executeFirstOfThree ++ [.thread (.answer (.result 5 none)), .thread .fail]) rfl
  have heq := h _ _ _ hrun (.of_exec [.deliver 0 (.pilz (.value Planning.onePoint)) fun _ => {}] rfl) _
    (List.mem_singleton_self _) ⟨_, rfl, rfl⟩
  exact absurd (congrArg List.length heq) (by decide)

end Execution
end MovementController
