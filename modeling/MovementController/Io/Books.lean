import MovementController.Io.Monitor

/-!
# The books of a monitor goal

What a goal has published, counted and taken fits together wherever it is in its code (`Books`), and
what it does on its own changes neither its registration nor what it has got or will get.
-/

namespace IoControllers

namespace MonitorPc

/-- Before the loop. -/
def early : MonitorPc → Bool
  | accepted | lookedUp | registered | snapshotRead _ => true
  | _ => false

/-- In the loop, with nothing taken from the queue. -/
def untaken : MonitorPc → Bool
  | checkActive | checkCancel | get => true
  | _ => false

def result : MonitorPc → Option MonitorIO.Result
  | leave result | ended result => result
  | _ => none

end MonitorPc

namespace MonitorGoal

/-! ### The books of a goal -/

/-- What has been published is the initial feedback, if there is one, and a feedback for each change
that was sent, and all of it is counted. -/
structure Books (goal : MonitorGoal) : Prop where
  published : goal.published = goal.initial ++ goal.sent.map goal.feedback
  changeCount : goal.changeCount = goal.published.length
  initial : goal.initial.length ≤ if goal.request.emitInitial then 1 else 0
  result : ∀ result, goal.pc.result = some result → result.changeCount = goal.published.length
  early : goal.pc.early → goal.initial = [] ∧ goal.sent = [] ∧ goal.taken = none
  emits : goal.pc.early → goal.pc = .accepted ∨ goal.pc = .lookedUp ∨ goal.request.emitInitial
  untaken : goal.pc.untaken → goal.taken = none

/-- What the books of a goal are about, its place in the code apart. -/
def account (goal : MonitorGoal) :=
  (goal.request, goal.isDigital, goal.changeCount, goal.published, goal.initial, goal.sent,
    goal.taken)

namespace Books

variable {n : GpioController} {made : ℕ} {goal goal' : MonitorGoal} {l : GoalStep}

theorem of_request (request : MonitorIO.Goal) : Books { request } := by
  refine ⟨rfl, rfl, Nat.zero_le _, ?_, ?_, ?_, ?_⟩
  · intro result h
    cases h
  · exact fun _ => ⟨rfl, rfl, rfl⟩
  · exact fun _ => .inl rfl
  · intro h
    cases h

/-- The goal goes on to a place in or after the loop. -/
theorem move (h : goal.Books) (heq : goal'.account = goal.account) (hearly : goal'.pc.early = false)
    (huntaken : goal'.pc.untaken → goal.taken = none)
    (hresult : ∀ result, goal'.pc.result = some result →
      result.changeCount = goal.published.length) : goal'.Books := by
  simp only [account, Prod.mk.injEq] at heq
  obtain ⟨hrequest, hdigital, hcount, hpublished, hinitial, hsent, htaken⟩ := heq
  have hfeedback : goal'.feedback = goal.feedback := by
    funext event
    rw [feedback, feedback, hdigital]
  refine ⟨?_, ?_, ?_, ?_, ?_, ?_, ?_⟩
  · rw [hpublished, hinitial, hsent, hfeedback]
    exact h.published
  · rw [hcount, hpublished]
    exact h.changeCount
  · rw [hinitial, hrequest]
    exact h.initial
  · rw [hpublished]
    exact hresult
  · simp [hearly]
  · simp [hearly]
  · rw [htaken]
    exact huntaken

/-- To a place without a result. -/
theorem moveOn (h : goal.Books) (heq : goal'.account = goal.account)
    (hearly : goal'.pc.early = false) (huntaken : goal'.pc.untaken = false ∨ goal.taken = none)
    (hresult : goal'.pc.result = none) : goal'.Books := by
  refine h.move heq hearly (fun hpc => huntaken.resolve_left ?_) fun result hr => ?_
  · simp [hpc]
  · simp [hresult] at hr

theorem raise (h : goal.Books) (exc : String) : (goal.raise exc).Books :=
  h.moveOn rfl rfl (.inl rfl) rfl

theorem lookup (h : goal.Books) (hpc : goal.pc = .accepted) : (goal.lookup n).Books := by
  obtain ⟨hinitial, hsent, htaken⟩ := h.early (by rw [hpc]; rfl)
  unfold MonitorGoal.lookup
  split
  · exact h.moveOn rfl rfl (.inl rfl) rfl
  · refine ⟨?_, h.changeCount, h.initial, ?_, ?_, ?_, ?_⟩
    · -- nothing was sent while the type of the signal was unknown
      have hpublished := h.published
      rw [hsent] at hpublished ⊢
      exact hpublished
    · intro result h
      cases h
    · exact fun _ => ⟨hinitial, hsent, htaken⟩
    · exact fun _ => .inr (.inl rfl)
    · intro h
      cases h

theorem register (h : goal.Books) (hpc : goal.pc = .lookedUp) (since : ℕ) :
    (goal.register since).Books := by
  obtain ⟨hinitial, hsent, htaken⟩ := h.early (by rw [hpc]; rfl)
  refine ⟨h.published, h.changeCount, h.initial, ?_, ?_, ?_, ?_⟩
  · intro result h
    unfold MonitorGoal.register at h
    split at h <;> cases h
  · exact fun _ => ⟨hinitial, hsent, htaken⟩
  · intro h
    unfold MonitorGoal.register at h
    dsimp only at h
    split at h
    · next hemit => exact .inr (.inr hemit)
    · cases h
  · exact fun _ => htaken

theorem unregister (h : goal.Books) {result : Option MonitorIO.Result}
    (hpc : goal.pc = .leave result) (outcome : Option MonitorOutcome) :
    Books { goal with pc := .ended result, outcome } := by
  refine h.move rfl rfl ?_ ?_
  · intro h
    cases h
  · intro r hr
    exact h.result r (by rw [hpc]; exact hr)

theorem readInitial (h : goal.Books) (hpc : goal.pc = .registered) (fault : Option String) :
    (goal.readInitial n made fault).Books := by
  have hearly := h.early (by rw [hpc]; rfl)
  unfold MonitorGoal.readInitial
  split
  · exact h.raise _
  · split
    · exact h.raise _
    · split
      · exact h.moveOn rfl rfl (.inr hearly.2.2) rfl
      · refine ⟨h.published, h.changeCount, h.initial, ?_, fun _ => hearly, ?_, ?_⟩
        · intro result h
          cases h
        · intro _
          have hemits := h.emits (by rw [hpc]; rfl)
          rw [hpc] at hemits
          rcases hemits with h | h | h
          · cases h
          · cases h
          · exact .inr (.inr h)
        · intro h
          cases h

theorem publishInitial (h : goal.Books) {signal : Signal} (hpc : goal.pc = .snapshotRead signal)
    (stamp : Time) (fault : Option String) : (goal.publishInitial signal stamp fault).Books := by
  obtain ⟨hinitial, hsent, htaken⟩ := h.early (by rw [hpc]; rfl)
  have hemit : goal.request.emitInitial := by
    have hemits := h.emits (by rw [hpc]; rfl)
    rw [hpc] at hemits
    rcases hemits with h | h | h
    · cases h
    · cases h
    · exact h
  cases fault with
  | some exc => exact h.raise exc
  | none =>
    have hnil : goal.published = [] := by rw [h.published, hinitial, hsent]; rfl
    refine ⟨?_, ?_, ?_, ?_, ?_, ?_, fun _ => htaken⟩
    · simp [MonitorGoal.publishInitial, hnil, hsent]
    · simp [MonitorGoal.publishInitial, h.changeCount]
    · simp [MonitorGoal.publishInitial, hemit]
    · intro result h
      cases h
    · intro h
      cases h
    · intro h
      cases h

theorem publish (h : goal.Books) (event : ChangeEvent) (fault : Option String) :
    (goal.publish event fault).Books := by
  cases fault with
  | some exc => exact h.raise exc
  | none =>
    refine ⟨?_, ?_, h.initial, ?_, ?_, ?_, fun _ => rfl⟩
    · simp only [MonitorGoal.publish, List.map_append, List.map_cons, List.map_nil]
      rw [← List.append_assoc, h.published]
      rfl
    · simp [MonitorGoal.publish, h.changeCount]
    · intro result h
      cases h
    · intro h
      cases h
    · intro h
      cases h

theorem finish (h : goal.Books) (handler : Bool) (message : String) (outcome : MonitorOutcome)
    (fault : Option String) : (goal.finish handler message outcome fault).Books := by
  unfold MonitorGoal.finish
  split
  · refine h.move rfl rfl ?_ ?_
    · intro h
      cases h
    · intro result hr
      rw [← Option.some.inj hr, ← h.changeCount]
      cases outcome <;> rfl
  · split
    · exact h.moveOn rfl rfl (.inl rfl) rfl
    · exact h.raise _

theorem moved (h : goal.Books) (hm : goal.Moved n made l goal') : goal'.Books := by
  cases hm with
  | lookup hpc => exact h.lookup hpc
  | readInitial fault hpc => exact h.readInitial hpc fault
  | publishInitial stamp fault hpc => exact h.publishInitial hpc stamp fault
  | checkActive hpc =>
    have huntaken := h.untaken (by rw [hpc]; rfl)
    unfold MonitorGoal.checkActive
    split
    · exact h.moveOn rfl rfl (.inr huntaken) rfl
    · exact h.moveOn rfl rfl (.inr huntaken) rfl
  | checkCancel hpc =>
    have huntaken := h.untaken (by rw [hpc]; rfl)
    unfold MonitorGoal.checkCancel
    split
    · exact h.moveOn rfl rfl (.inr huntaken) rfl
    · exact h.moveOn rfl rfl (.inr huntaken) rfl
  | get hpc =>
    have huntaken := h.untaken (by rw [hpc]; rfl)
    unfold MonitorGoal.get
    split
    · exact h.moveOn rfl rfl (.inr huntaken) rfl
    · refine ⟨h.published, h.changeCount, h.initial, ?_, ?_, ?_, ?_⟩
      · intro result h
        cases h
      · intro h
        cases h
      · intro h
        cases h
      · intro h
        cases h
  | publish fault hpc htaken => exact h.publish _ fault
  | finish fault hpc => exact h.finish _ _ _ fault
  | cancel hnone => exact ⟨h.published, h.changeCount, h.initial, h.result, h.early, h.emits, h.untaken⟩

end Books

/-! ### The goal as a subscriber -/

/-- The changes that a registered goal has got and those in its queue; `live` says whether it is in
the watcher table. -/
def subscriber (goal : MonitorGoal) (live : Bool) : Option (Subscriber String ChangeEvent) :=
  goal.since.map fun since => {
    topic := goal.ioName, since, got := goal.sent ++ goal.taken.toList, queue := goal.pending, live }

/-- What a goal does on its own changes neither its registration nor what it has got or will get. -/
theorem Moved.frame {n : GpioController} {made : ℕ} {goal goal' : MonitorGoal} {l : GoalStep}
    (hb : goal.Books) (hm : goal.Moved n made l goal') :
    goal'.request = goal.request ∧ goal'.since = goal.since ∧
      goal'.sent ++ goal'.taken.toList ++ goal'.pending =
        goal.sent ++ goal.taken.toList ++ goal.pending := by
  cases hm with
  | lookup hpc => unfold MonitorGoal.lookup; split <;> exact ⟨rfl, rfl, rfl⟩
  | readInitial fault hpc =>
    unfold MonitorGoal.readInitial
    split
    · exact ⟨rfl, rfl, rfl⟩
    · split
      · exact ⟨rfl, rfl, rfl⟩
      · split <;> exact ⟨rfl, rfl, rfl⟩
  | publishInitial stamp fault hpc => cases fault <;> exact ⟨rfl, rfl, rfl⟩
  | checkActive hpc => unfold MonitorGoal.checkActive; split <;> exact ⟨rfl, rfl, rfl⟩
  | checkCancel hpc => unfold MonitorGoal.checkCancel; split <;> exact ⟨rfl, rfl, rfl⟩
  | get hpc =>
    have huntaken := hb.untaken (by rw [hpc]; rfl)
    unfold MonitorGoal.get
    split
    · exact ⟨rfl, rfl, rfl⟩
    · next event pending hpending =>
      refine ⟨rfl, rfl, ?_⟩
      simp [huntaken, hpending]
  | publish fault hpc htaken =>
    cases fault with
    | some exc => exact ⟨rfl, rfl, rfl⟩
    | none =>
      refine ⟨rfl, rfl, ?_⟩
      simp [MonitorGoal.publish, htaken]
  | finish fault hpc =>
    unfold MonitorGoal.finish
    split
    · exact ⟨rfl, rfl, rfl⟩
    · split <;> exact ⟨rfl, rfl, rfl⟩
  | cancel hnone => exact ⟨rfl, rfl, rfl⟩

theorem Moved.running {n : GpioController} {made : ℕ} {goal goal' : MonitorGoal} {l : GoalStep}
    (hm : goal.Moved n made l goal') : goal'.running = goal.running := by
  unfold MonitorGoal.running
  cases hm with
  | lookup hpc => rw [hpc]; unfold MonitorGoal.lookup; split <;> rfl
  | readInitial fault hpc =>
    rw [hpc]
    unfold MonitorGoal.readInitial
    split
    · rfl
    · split
      · rfl
      · split <;> rfl
  | publishInitial stamp fault hpc => rw [hpc]; cases fault <;> rfl
  | checkActive hpc => rw [hpc]; unfold MonitorGoal.checkActive; split <;> rfl
  | checkCancel hpc => rw [hpc]; unfold MonitorGoal.checkCancel; split <;> rfl
  | get hpc => rw [hpc]; unfold MonitorGoal.get; split <;> rfl
  | publish fault hpc htaken => rw [hpc]; cases fault <;> rfl
  | finish fault hpc =>
    rw [hpc]
    unfold MonitorGoal.finish
    split
    · rfl
    · split <;> rfl
  | cancel hnone => rfl

theorem Moved.fresh {n : GpioController} {made : ℕ} {goal goal' : MonitorGoal} {l : GoalStep}
    (hm : goal.Moved n made l goal') (h : goal'.pc = .accepted ∨ goal'.pc = .lookedUp) :
    goal.pc = .accepted ∨ goal.pc = .lookedUp := by
  cases hm with
  | lookup hpc => exact .inl hpc
  | readInitial fault hpc =>
    exfalso
    unfold MonitorGoal.readInitial at h
    split at h
    · rcases h with h | h <;> cases h
    · split at h
      · rcases h with h | h <;> cases h
      · split at h <;> rcases h with h | h <;> cases h
  | publishInitial stamp fault hpc => cases fault <;> rcases h with h | h <;> cases h
  | checkActive hpc =>
    unfold MonitorGoal.checkActive at h
    split at h <;> rcases h with h | h <;> cases h
  | checkCancel hpc =>
    unfold MonitorGoal.checkCancel at h
    split at h <;> rcases h with h | h <;> cases h
  | get hpc =>
    unfold MonitorGoal.get at h
    split at h <;> rcases h with h | h <;> cases h
  | publish fault hpc htaken => cases fault <;> rcases h with h | h <;> cases h
  | finish fault hpc =>
    unfold MonitorGoal.finish at h
    split at h
    · rcases h with h | h <;> cases h
    · split at h <;> rcases h with h | h <;> cases h
  | cancel hnone => exact h

/-- A goal that is not registered gets nothing. -/
structure Registration (goal : MonitorGoal) : Prop where
  since : goal.running → goal.since.isSome
  fresh : goal.pc = .accepted ∨ goal.pc = .lookedUp → goal.since = none
  unregistered : goal.since = none → goal.sent ++ goal.taken.toList ++ goal.pending = []

theorem Registration.moved {n : GpioController} {made : ℕ} {goal goal' : MonitorGoal} {l : GoalStep}
    (h : goal.Registration) (hb : goal.Books) (hm : goal.Moved n made l goal') : goal'.Registration := by
  obtain ⟨-, hsince, hstream⟩ := hm.frame hb
  refine ⟨?_, ?_, ?_⟩
  · rw [hm.running, hsince]
    exact h.since
  · rw [hsince]
    exact fun hpc => h.fresh (hm.fresh hpc)
  · rw [hsince, hstream]
    exact h.unregistered

end MonitorGoal

end IoControllers
