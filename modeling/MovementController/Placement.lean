import MovementController.Execution

/-!
# Where the thread and its consumer are

The consumer of `iterate_planned_trajectories` is the thread of the goal that executes, so where it
is follows from where the thread is; and the session of that goal is the coordinator's latest one
from its `plan_all` on. The coordinator of a run of the node makes a run of its own.
-/

namespace MovementController
namespace Execution

def Pc.consumers : Pc → List Planning.Consumer
  | .accepted | .ready | .requesting | .finishing => [.idle]
  | .iterating => [.idle, .polling, .waiting]
  | .planned _ | .approved _ | .executing .. | .waiting .. | .failing _ => [.idle, .polling]

/-- Whether `plan_all` was called and the execution is not failing. -/
def Pc.planning : Pc → Bool
  | .accepted | .ready | .failing _ => false
  | _ => true

/-- Whether the thread is past the two places before `plan_all`. -/
def Pc.begun : Pc → Bool
  | .accepted | .ready => false
  | _ => true

theorem Pc.not_before {pc : Pc} (h : pc.begun = true) : ¬(pc = .accepted ∨ pc = .ready) := by
  rintro (rfl | rfl)
  · cases h
  · cases h

/-- The session of a goal is the latest one from its `plan_all` on. -/
structure Goal.Placed (p : Planning.State) (g : Goal) : Prop where
  running : g.result = none
  consumer : p.consumer ∈ g.pc.consumers
  before : g.pc = .accepted ∨ g.pc = .ready → g.session = 0
  planning : g.pc.planning = true → g.session = p.sessionNo
  session : g.session = 0 ∨ g.session = p.sessionNo

theorem Goal.Placed.queue_of_next {p : Planning.State} {g : Goal} (h : g.Placed p)
    (hpc : g.pc = .iterating) {item : QueueItem} (hn : p.next? = some item) :
    p.consumer = .waiting ∧ ∃ q, p.coord.planQueue = some (item :: q) := by
  have hcons := h.consumer
  rw [hpc] at hcons
  unfold Planning.State.next? at hn
  split at hn
  · next hw =>
    refine ⟨hw, ?_⟩
    rcases hq : p.coord.planQueue with _ | _ | ⟨i, q⟩ <;> simp [hq] at hn
    exact ⟨q, by rw [hn]⟩
  · next hw => simp [Pc.consumers, hw] at hcons
  · cases hn
  · cases hn

/-- What a step of the thread from `p` leaves: the goal is placed in `q`, or it has returned. -/
structure Goal.Moved (p q : Planning.State) (g : Goal) : Prop where
  placed : g.result = none → g.Placed q
  idle : g.result.isSome = true → q.consumer = .idle
  sessionNo_le : p.sessionNo ≤ q.sessionNo
  session : g.session = 0 ∨ g.session = q.sessionNo

/-- A step within the session, past its beginning. -/
theorem Goal.Placed.moved {p q : Planning.State} {g k : Goal} (h : g.Placed p)
    (hk : k.result = g.result ∧ k.session = g.session) (hn : q.sessionNo = p.sessionNo)
    (hcons : q.consumer ∈ k.pc.consumers) (hbegun : k.pc.begun = true)
    (hplan : k.pc.planning = true → g.session = p.sessionNo) : k.Moved p q := by
  have hsession : k.session = 0 ∨ k.session = q.sessionNo := by
    rw [hk.2, hn]
    exact h.session
  refine ⟨fun hr => ⟨hr, hcons, fun hb => absurd hb (Pc.not_before hbegun), fun hp => ?_, hsession⟩,
    fun hr => ?_, hn ▸ Nat.le_refl _, hsession⟩
  · rw [hk.2, hn]
    exact hplan hp
  · rw [hk.1, h.running] at hr
    cases hr

/-- The invariant of the node that concerns the place of the thread only. -/
structure Sound (w : State) : Prop where
  coherent : Planning.Coherent w.plan.coord
  ledger : Planning.Ledger w.plan
  current : ∀ g ∈ w.current, g.Placed w.plan
  idle : w.current = none → w.plan.consumer = .idle
  finished : ∀ g ∈ w.finished, g.session ≤ w.plan.sessionNo ∧ g.result.isSome = true

namespace Goal.Act

variable {p p' : Planning.State} {g g' : Goal} {a : Action}

/-- A step of the thread delivers no response. -/
theorem plan (h : Act p g a p' g') : p' = p ∨
    ∃ l, (∀ i answer call, l ≠ .deliver i answer call) ∧ Planning.step p l = some p' := by
  cases h with
  | started | halted | approved | announced | sent | answered | completed | succeeded => exact .inl rfl
  | planAll hpc q hs => exact .inr ⟨_, by simp, hs⟩
  | requested hpc hc q hs => exact .inr ⟨_, by simp, hs⟩
  | notRequested hpc service q hs => exact .inr ⟨_, by simp, hs⟩
  | iterate hpc q hs => exact .inr ⟨_, by simp, hs⟩
  | polled hpc q hs => exact .inr ⟨_, by simp, hs⟩
  | pollFailed hpc q hs => exact .inr ⟨_, by simp, hs⟩
  | gotResult hpc dto hn q hs => exact .inr ⟨_, by simp, hs⟩
  | gotSentinel hpc hn q hs => exact .inr ⟨_, by simp, hs⟩
  | answerFailed dto rest hpc answer q hp =>
    rcases hp with rfl | rfl
    · exact .inl rfl
    · exact .inr ⟨.cancel, by simp, rfl⟩
  | failed errorMessage hpc =>
    rcases ha : Planning.step p .abandon with _ | q
    · exact .inl rfl
    · exact .inr ⟨_, by simp, ha⟩

theorem halting_consumer {pc : Pc} {consumer : Planning.Consumer} (h : consumer ∈ pc.consumers)
    (hpc : pc ≠ .iterating) (errorMessage : String) :
    consumer ∈ (Pc.failing errorMessage).consumers := by
  cases pc <;> simp_all [Pc.consumers]

theorem consumer_of_requestScene {service : Planning.SceneService}
    (hc : Planning.Coherent p.coord) (hs : Planning.step p (.requestScene service) = some p')
    (hidle : p.consumer = .idle) : p'.consumer = .idle := by
  cases Planning.step_cases hc hs with
  | sceneRequested => exact hidle
  | sceneRaised => exact hidle
  | sceneUnavailable => simp [Planning.State.close, hidle, Planning.Consumer.detach]

theorem consumer_of_iterate (hc : Planning.Coherent p.coord)
    (hs : Planning.step p .iterate = some p') : p'.consumer = .polling := by
  cases Planning.step_cases hc hs with
  | iterate => rfl

theorem consumer_of_poll (hc : Planning.Coherent p.coord) (hs : Planning.step p .poll = some p') :
    p'.consumer = .waiting ∨ p'.consumer = .idle := by
  cases Planning.step_cases hc hs with
  | polled => exact .inl rfl
  | pollFailed => exact .inr rfl

theorem consumer_of_get (hc : Planning.Coherent p.coord) (hs : Planning.step p .get = some p') :
    ((∃ dto, p.next? = some (.result dto)) ∧ p'.consumer = .polling) ∨
      (p.next? = some .stopIteration ∧ p'.consumer = .idle) := by
  cases Planning.step_cases hc hs with
  | gotResult dto q hw hq => exact .inl ⟨⟨dto, by simp [Planning.State.next?, hw, hq]⟩, rfl⟩
  | gotSentinel q hw hq => exact .inr ⟨by simp [Planning.State.next?, hw, hq], rfl⟩
  | gotStaleResult dto q hw => exact .inl ⟨⟨dto, by simp [Planning.State.next?, hw]⟩, rfl⟩
  | gotStaleSentinel q hw => exact .inr ⟨by simp [Planning.State.next?, hw], rfl⟩

theorem sessionNo_of_step {l : Planning.Label} (hc : Planning.Coherent p.coord)
    (hs : Planning.step p l = some p') (hl : ∀ groups, l ≠ .planAll groups) :
    p'.sessionNo = p.sessionNo := by
  cases Planning.step_cases hc hs with
  | planAll groups => exact absurd rfl (hl groups)
  | _ => rfl

theorem moved (hc : Planning.Coherent p.coord) (h : g.Placed p) (ha : Act p g a p' g') :
    g'.Moved p p' := by
  have hcons := h.consumer
  have hplan := h.planning
  cases ha with
  | started hpc =>
    rw [hpc] at hcons
    refine ⟨fun _ => ⟨h.running, hcons, fun _ => h.before (.inl hpc), fun hp => ?_, h.session⟩,
      fun hr => ?_, Nat.le_refl _, h.session⟩
    · cases hp
    · rw [goto, h.running] at hr
      cases hr
  | halted a errorMessage hpc =>
    refine h.moved ⟨rfl, rfl⟩ rfl (halting_consumer hcons hpc _) rfl fun hp => ?_
    cases hp
  | approved dto hpc =>
    rw [hpc] at hcons hplan
    exact h.moved ⟨rfl, rfl⟩ rfl hcons rfl fun _ => hplan rfl
  | announced dto hpc =>
    rw [hpc] at hcons hplan
    exact h.moved ⟨rfl, rfl⟩ rfl hcons rfl fun _ => hplan rfl
  | sent dto trajectory rest hpc =>
    rw [hpc] at hcons hplan
    exact h.moved ⟨rfl, rfl⟩ rfl hcons rfl fun _ => hplan rfl
  | answered dto rest hpc =>
    rw [hpc] at hcons hplan
    exact h.moved ⟨rfl, rfl⟩ rfl hcons rfl fun _ => hplan rfl
  | completed dto hpc =>
    rw [hpc] at hcons hplan
    have hcons' : p.consumer ∈ Pc.iterating.consumers :=
      List.mem_append_left [Planning.Consumer.waiting] hcons
    exact h.moved ⟨rfl, rfl⟩ rfl hcons' rfl fun _ => hplan rfl
  | planAll hpc q hs =>
    rw [hpc] at hcons
    have hidle : p.consumer = .idle := by simpa [Pc.consumers] using hcons
    cases Planning.step_cases hc hs with
    | planAll groups hs =>
      refine ⟨fun _ => ⟨h.running, ?_, fun hb => ?_, fun _ => rfl, .inr rfl⟩, fun hr => ?_,
        Nat.le_succ _, .inr rfl⟩
      · simp [Planning.State.setup, hidle, Planning.Consumer.detach, Pc.consumers]
      · exact absurd hb (Pc.not_before rfl)
      · rw [h.running] at hr
        cases hr
  | requested hpc hclient q hs =>
    rw [hpc] at hcons hplan
    have hn := sessionNo_of_step hc hs (by simp)
    have hidle := consumer_of_requestScene hc hs (by simpa [Pc.consumers] using hcons)
    exact h.moved ⟨rfl, rfl⟩ hn (by simp [hidle, goto, Pc.consumers]) rfl fun _ => hplan rfl
  | notRequested hpc service q hs =>
    rw [hpc] at hcons
    have hn := sessionNo_of_step hc hs (by simp)
    have hidle := consumer_of_requestScene hc hs (by simpa [Pc.consumers] using hcons)
    refine h.moved ⟨rfl, rfl⟩ hn (by simp [hidle, goto, Pc.consumers]) rfl fun hp => ?_
    cases hp
  | iterate hpc q hs =>
    have hn := sessionNo_of_step hc hs (by simp)
    have hpoll := consumer_of_iterate hc hs
    exact h.moved ⟨rfl, rfl⟩ hn (by simp [hpoll, hpc, Pc.consumers]) (by rw [hpc]; rfl) hplan
  | polled hpc q hs hp =>
    have hn := sessionNo_of_step hc hs (by simp)
    exact h.moved ⟨rfl, rfl⟩ hn (by simp [hp, hpc, Pc.consumers]) (by rw [hpc]; rfl) hplan
  | pollFailed hpc q hs hp =>
    rw [hpc] at hplan
    have hn := sessionNo_of_step hc hs (by simp)
    have hidle := (consumer_of_poll hc hs).resolve_left hp
    exact h.moved ⟨rfl, rfl⟩ hn (by simp [hidle, goto, Pc.consumers]) rfl fun _ => hplan rfl
  | gotResult hpc dto hnext q hs =>
    rw [hpc] at hplan
    have hn := sessionNo_of_step hc hs (by simp)
    have hpoll : p'.consumer = .polling := by
      rcases consumer_of_get hc hs with ⟨-, hpoll⟩ | ⟨hstop, -⟩
      · exact hpoll
      · simp [hnext] at hstop
    exact h.moved ⟨rfl, rfl⟩ hn (by simp [hpoll, goto, Pc.consumers]) rfl fun _ => hplan rfl
  | gotSentinel hpc hnext q hs =>
    rw [hpc] at hplan
    have hn := sessionNo_of_step hc hs (by simp)
    have hidle : p'.consumer = .idle := by
      rcases consumer_of_get hc hs with ⟨⟨dto, hres⟩, -⟩ | ⟨-, hidle⟩
      · simp [hnext] at hres
      · exact hidle
    exact h.moved ⟨rfl, rfl⟩ hn (by simp [hidle, goto, Pc.consumers]) rfl fun _ => hplan rfl
  | answerFailed dto rest hpc answer q hp errorMessage =>
    rw [hpc] at hcons
    have hsame : p'.sessionNo = p.sessionNo ∧ p'.consumer = p.consumer := by
      rcases hp with rfl | rfl
      · exact ⟨rfl, rfl⟩
      · exact ⟨rfl, rfl⟩
    refine h.moved ⟨rfl, rfl⟩ hsame.1 ?_ rfl fun hp => ?_
    · rw [hsame.2]
      exact hcons
    · cases hp
  | succeeded hpc =>
    rw [hpc] at hcons
    refine ⟨fun hr => ?_, fun _ => ?_, Nat.le_refl _, h.session⟩
    · cases hr
    · simpa [Pc.consumers] using hcons
  | failed errorMessage hpc =>
    rw [hpc] at hcons
    rw [Planning.getD_abandon]
    refine ⟨fun hr => ?_, fun _ => ?_, Nat.le_refl _, h.session⟩
    · cases hr
    · by_cases hpoll : p.consumer = .polling
      · exact if_pos hpoll
      · simpa [Pc.consumers, hpoll] using hcons

end Goal.Act

theorem Step.plan {w w' : State} {l : Label} (h : Step w l w') :
    w'.plan = w.plan ∨ ∃ l, Planning.step w.plan l = some w'.plan := by
  cases h with
  | accept => exact .inl rfl
  | cancel => exact .inr ⟨.cancel, rfl⟩
  | deliver i answer call p hs => exact .inr ⟨_, hs⟩
  | thread a g hg p g' ha =>
    rw [State.advance_plan]
    exact ha.plan.imp_right fun ⟨l, _, hs⟩ => ⟨l, hs⟩

/-- The coordinator of a run of the node makes a run of its own. -/
theorem reaches_plan {c : PlanningCoordinator} {w : State} (h : Lts.Reaches step (init c) w) :
    Lts.Reaches Planning.step (Planning.init c) w.plan := by
  refine h.map (·.plan) fun _ hs => ?_
  rcases (step_cases hs).plan with hp | ⟨l, hl⟩
  · exact .inl hp
  · exact .inr ⟨l, trivial, hl⟩

namespace Sound

variable {w w' : State} {l : Label}

theorem init (c : PlanningCoordinator) : Sound (init c) := by
  refine ⟨.inl (Planning.Coherent.closed_clearSession c), .init c, ?_, fun _ => rfl, ?_⟩ <;>
    rintro _ ⟨⟩

theorem step (h : Sound w) (hs : step w l = some w') : Sound w' := by
  have hstep := step_cases hs
  have hplan : Planning.Coherent w'.plan.coord ∧ Planning.Ledger w'.plan := by
    rcases hstep.plan with hp | ⟨l, hl⟩
    · exact hp ▸ ⟨h.coherent, h.ledger⟩
    · exact ⟨Planning.step_coherent h.coherent hl, h.ledger.step (Planning.step_cases h.coherent hl)⟩
  obtain ⟨hcoh, hled⟩ := hplan
  cases hstep with
  | accept goal hc =>
    refine ⟨hcoh, hled, ?_, (fun hn => by cases hn), h.finished⟩
    rintro _ ⟨⟩
    exact ⟨rfl, by simp [h.idle hc, Pc.consumers], fun _ => rfl, (fun hp => by cases hp), .inl rfl⟩
  | cancel g hg =>
    refine ⟨hcoh, hled, ?_, (fun hn => by cases hn), h.finished⟩
    rintro _ ⟨⟩
    have hplaced := h.current g hg
    exact ⟨hplaced.running, hplaced.consumer, hplaced.before, hplaced.planning, hplaced.session⟩
  | deliver i answer call p hd =>
    have hsame : p.consumer = w.plan.consumer ∧ p.sessionNo = w.plan.sessionNo := by
      cases Planning.step_cases h.coherent hd <;> exact ⟨rfl, rfl⟩
    refine ⟨hcoh, hled, fun g hg => ?_, fun hc => hsame.1.trans (h.idle hc), ?_⟩
    · have hplaced := h.current g hg
      exact ⟨hplaced.running, hsame.1 ▸ hplaced.consumer, hplaced.before, hsame.2 ▸ hplaced.planning,
        hsame.2 ▸ hplaced.session⟩
    · simpa [hsame.2] using h.finished
  | thread a g hg p g' ha =>
    obtain ⟨hrun, hend, hle, hsession⟩ := ha.moved h.coherent (h.current g hg)
    have hfinished : ∀ k ∈ w.finished, k.session ≤ p.sessionNo ∧ k.result.isSome = true :=
      fun k hk => ⟨(h.finished k hk).1.trans hle, (h.finished k hk).2⟩
    rw [State.advance_plan] at hcoh hled
    rcases w.advance_cases p g' with ⟨hr, heq⟩ | ⟨hr, heq⟩ <;> rw [heq]
    · refine ⟨hcoh, hled, ?_, (fun hn => by cases hn), hfinished⟩
      rintro _ ⟨⟩
      exact hrun hr
    · refine ⟨hcoh, hled, (fun _ hk => by cases hk), fun _ => hend hr, fun k hk => ?_⟩
      rcases List.mem_append.1 hk with hk | hk
      · exact hfinished k hk
      · obtain rfl := List.mem_singleton.1 hk
        refine ⟨?_, hr⟩
        rcases hsession with hs | hs <;> rw [hs]
        exact Nat.zero_le _

theorem of_reaches {c : PlanningCoordinator} (h : Lts.Reaches Execution.step (Execution.init c) w) :
    Sound w :=
  h.invariant (init c) fun hw _ hs => hw.step hs

end Sound

end Execution
end MovementController
