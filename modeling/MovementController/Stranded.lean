import MovementController.Separation

/-!
# The plan iterator is never stranded

While the consumer still has a sentinel to come, either it is already in the queue or a response
that will put it there is outstanding. Between the two steps of `plan_all` neither need hold yet, so
the invariant also covers `starting`.

That is about the coordinator's queue. A consumer inside `get()` waits on the queue it had when it
called, and the next `plan_all` takes that queue out of use; so the blocked consumer is served only if
`plan_all` comes when nobody iterates.
-/

namespace MovementController
open PlanningCoordinator
namespace Planning

/-- A request issued since the latest `plan_all` began is outstanding. -/
def State.Awaiting (w : State) : Prop := ∃ o ∈ w.pending, o.session = w.sessionNo

def State.Terminated (w : State) : Prop :=
  ∃ q, w.coord.planQueue = some q ∧ .stopIteration ∈ q

/-- What `plan_all` leaves behind until the sentinel is consumed. -/
structure State.Live (w : State) : Prop where
  event : w.coord.cancelEvent = some true ∨ w.coord.cancelEvent = some false
  queue : w.coord.planQueue.isSome = true
  /-- A set event has put its sentinel in the queue, and only a set event drops responses. -/
  cancelled : w.coord.cancelEvent = some true → w.Terminated
  progress : w.starting = true ∨ w.Terminated ∨ w.Awaiting

structure NotStranded (w : State) : Prop where
  coherent : Coherent w.coord
  starting : w.starting = true → w.started = false
  live : w.starting = true ∨ w.started = true → w.ended = false → w.Live

namespace State

variable {w : State}

theorem Terminated.mem_cons {item : QueueItem} {q : List QueueItem} (h : w.Terminated)
    (hq : w.coord.planQueue = some (item :: q)) (hi : item ≠ .stopIteration) :
    .stopIteration ∈ q := by
  obtain ⟨q', hq', hm⟩ := h
  obtain rfl : item :: q = q' := Option.some.inj (hq.symm.trans hq')
  exact (List.mem_cons.1 hm).resolve_left (Ne.symm hi)

theorem Live.awaiting (h : w.Live) (hs : w.starting = false) (hq : ¬ w.Terminated) :
    w.coord.cancelEvent = some false ∧ w.Awaiting := by
  refine ⟨h.event.resolve_left fun he => hq (h.cancelled he), ?_⟩
  rcases h.progress with hp | hp | hp
  · simp [hs] at hp
  · exact absurd hp hq
  · exact hp

end State

theorem Outcome.live {w : State} {v : Verdict} {caught : String → PlanResultDTO}
    {call : PlanRequest → CallFaults} {q : List QueueItem} {gs : List Group} {t : Turn} {i : Nat}
    {o : Outstanding} {answer : Answer} (h : w.coord.Open q gs)
    (ht : v.Outcome caught call w.coord q gs t) : (w.settle i o answer t).Live := by
  have hev : w.coord.cancelEvent = some false := h.event
  cases ht with
  | issued r rest message =>
    refine ⟨.inr hev, rfl, fun he => ?_, .inr (.inr ⟨⟨w.sessionNo, .plan r message⟩, ?_, rfl⟩)⟩
    · simp [State.settle, hev] at he
    · simp [State.settle]
  | _ => exact ⟨.inr hev, rfl, fun _ => ⟨_, rfl, by simp⟩, .inr (.inl ⟨_, rfl, by simp⟩)⟩

namespace NotStranded

variable {w w' : State} {l : Label}

theorem init (c : PlanningCoordinator) : NotStranded (init c) :=
  ⟨.inl (Coherent.closed_clearSession c), fun _ => rfl, fun h => by simp [Planning.init] at h⟩

/-- A step that leaves the coordinator and the requests alone. -/
theorem frame (h : NotStranded w) (hc : w'.coord = w.coord) (hp : w'.pending = w.pending)
    (hn : w'.sessionNo = w.sessionNo) (hs : w'.starting = w.starting) (hr : w'.started = w.started)
    (he : w'.ended = w.ended) : NotStranded w' := by
  refine ⟨hc ▸ h.coherent, by rw [hs, hr]; exact h.starting, fun hsr hend => ?_⟩
  obtain ⟨hev, hq, hcan, hprog⟩ := h.live (by rwa [← hs, ← hr]) (by rwa [← he])
  refine ⟨?_, ?_, ?_, ?_⟩ <;> simp only [State.Terminated, State.Awaiting, hc, hp, hn, hs]
  exacts [hev, hq, hcan, hprog]

theorem cancel (h : NotStranded w) : NotStranded { w with coord := w.coord.cancel } := by
  refine ⟨h.coherent.cancel, h.starting, fun hsr he => ?_⟩
  obtain ⟨hev, hq, -, -⟩ := h.live hsr he
  have hT : State.Terminated { w with coord := w.coord.cancel } := by
    obtain ⟨q, hq⟩ := Option.isSome_iff_exists.1 hq
    exact ⟨[.result cancelFailure, .stopIteration], by simp [hq], by simp⟩
  refine ⟨.inl ?_, ?_, fun _ => hT, .inr (.inl hT)⟩
  · rcases hev with hev | hev <;> simp [hev]
  · simpa using hq

theorem gotResult (h : NotStranded w) {dto : PlanResultDTO} {q : List QueueItem} (c : Consumer)
    (y : List (Nat × PlanResultDTO)) (hq : w.coord.planQueue = some (.result dto :: q)) :
    NotStranded
      { w with coord := { w.coord with planQueue := some q }, consumer := c, yielded := y } := by
  have hT (hT : w.Terminated) : State.Terminated
      { w with coord := { w.coord with planQueue := some q }, consumer := c, yielded := y } :=
    ⟨q, rfl, hT.mem_cons hq (by simp)⟩
  refine ⟨?_, h.starting, fun hsr he => ?_⟩
  · rcases h.coherent with hw | ⟨b, _, s, he, -, hs⟩
    · exact absurd hq (by simp [hw.queue])
    · exact .inr ⟨b, q, s, he, rfl, hs⟩
  obtain ⟨hev, -, hcan, hprog⟩ := h.live hsr he
  exact ⟨hev, rfl, fun hc => hT (hcan hc), hprog.imp_right (.imp_left hT)⟩

theorem ignored (h : NotStranded w) (i : Nat) (o : Outstanding) (answer : Answer)
    (hc : w.coord.Closed ∨ w.coord.cancelEvent = some true) :
    NotStranded (w.settle i o answer ⟨w.coord, [], []⟩) := by
  refine ⟨h.coherent, h.starting, fun hsr he => ?_⟩
  obtain ⟨hev, hq, hcan, -⟩ := h.live hsr he
  rcases hc with hc | hc
  · simp [hc.queue] at hq
  · exact ⟨hev, hq, hcan, .inr (.inl (hcan hc))⟩

theorem step (h : NotStranded w) (hstep : step w l = some w') : NotStranded w' := by
  cases step_cases h.coherent hstep with
  | planAll groups =>
    exact ⟨.inr ⟨_, _, _, rfl, rfl, rfl⟩, fun _ => rfl, fun _ _ =>
      ⟨.inr rfl, rfl, nofun, .inl rfl⟩⟩
  | sceneRequested hs =>
    refine ⟨h.coherent, nofun, fun _ he => ?_⟩
    obtain ⟨hev, hq, hcan, -⟩ := h.live (.inl hs) he
    have hmem : (⟨w.sessionNo, .scene⟩ : Outstanding) ∈ w.sceneRequested.pending :=
      List.mem_append_right _ List.mem_cons_self
    exact ⟨hev, hq, hcan, .inr (.inr ⟨_, hmem, rfl⟩)⟩
  | sceneRaised e hs =>
    exact ⟨h.coherent, nofun, fun hsr => by simp [h.starting hs] at hsr⟩
  | sceneUnavailable service hs hc =>
    exact ⟨.inl (Coherent.closed_clearSession _), nofun,
      fun hsr => by simp [State.close, h.starting hs] at hsr⟩
  | cancel => exact h.cancel
  | gotResult dto q hc hq => exact h.gotResult _ _ hq
  | gotSentinel =>
    exact ⟨.inl (Coherent.closed_clearSession _), h.starting, fun _ he => by simp at he⟩
  | gotStaleSentinel =>
    exact ⟨.inl (Coherent.closed_clearSession _), h.starting, fun _ he => by simp at he⟩
  | ignored i answer call o ho hc => exact h.ignored i o answer hc
  | acted i answer call o ho q gs hc v hv t ht =>
    exact ⟨Outcome.coherent hc ht, h.starting, fun _ _ => Outcome.live hc ht⟩
  | _ => exact h.frame rfl rfl rfl rfl rfl rfl

theorem of_reaches {c : PlanningCoordinator} {w : State}
    (h : Lts.Reaches Planning.step (Planning.init c) w) : NotStranded w :=
  h.invariant (init c) fun hw _ hs => hw.step hs

end NotStranded

/-! ### The blocked consumer -/

/-- The queue inside whose `get()` the consumer is. -/
def State.blockedOn (w : State) : Option (List QueueItem) :=
  match w.consumer with
  | .idle | .polling => none
  | .waiting => some (w.coord.planQueue.getD [])
  | .stale q => some q

/-- A consumer inside `get()` has an item to take, or it waits on the coordinator's queue for a response
to a request issued since the latest `plan_all` began, and the event that would drop it is unset. -/
def State.Expecting (w : State) : Prop :=
  ∀ q, w.blockedOn = some q →
    q ≠ [] ∨ w.consumer = .waiting ∧ w.coord.cancelEvent = some false ∧ w.Awaiting

/-- The consumer is on the coordinator's queue, unless the latest `plan_all` has come to nothing. -/
structure Attached (w : State) : Prop where
  waiting : w.consumer = .waiting → w.coord.planQueue.isSome = true
  ended : w.ended = true → w.coord.planQueue = none
  stale : ∀ q, w.consumer = .stale q → w.starting = false ∧ w.started = false

namespace Attached

variable {w w' : State} {l : Label}

theorem init (c : PlanningCoordinator) : Attached (init c) :=
  ⟨by rintro ⟨⟩, by rintro ⟨⟩, by rintro q ⟨⟩⟩

theorem settle (h : Attached w) {i : Nat} {o : Outstanding} {answer : Answer} {t : Turn}
    (hq : t.coord.planQueue.isSome = w.coord.planQueue.isSome) : Attached (w.settle i o answer t) := by
  refine ⟨fun hc => hq.trans (h.waiting hc), fun he => ?_, h.stale⟩
  rw [h.ended he] at hq
  exact Option.isNone_iff_eq_none.1 (Option.isSome_eq_false_iff.1 hq)

theorem step (hw : NotStranded w) (h : Attached w) (hl : Disciplined w l)
    (hs : step w l = some w') : Attached w' := by
  cases step_cases hw.coherent hs with
  | planAll groups =>
    have hidle : (w.setup groups).consumer = .idle := by
      simp [State.setup, show w.consumer = .idle from hl, Consumer.detach]
    exact ⟨fun _ => rfl, by rintro ⟨⟩, fun q hc => by simp [hidle] at hc⟩
  | sceneRequested hstart =>
    refine ⟨h.waiting, h.ended, fun q hc => ?_⟩
    have hnot := (h.stale q hc).1
    simp [hstart] at hnot
  | sceneRaised e hstart => exact ⟨h.waiting, h.ended, fun q hc => ⟨rfl, (h.stale q hc).2⟩⟩
  | sceneUnavailable service hstart =>
    refine ⟨fun hc => ?_, fun _ => rfl, fun q _ => ⟨rfl, hw.starting hstart⟩⟩
    rcases hcon : w.consumer with _ | _ | _ | q <;>
      simp [State.close, hcon, Consumer.detach] at hc
  | cancel =>
    refine ⟨fun hc => ?_, fun he => ?_, h.stale⟩
    · simpa using h.waiting hc
    · simp [h.ended he]
  | polled hc hq => exact ⟨fun _ => hq, h.ended, by rintro q ⟨⟩⟩
  | gotResult dto q hc hq =>
    refine ⟨by rintro ⟨⟩, fun he => ?_, by rintro q ⟨⟩⟩
    have hnone := h.ended he
    simp [hq] at hnone
  | gotSentinel | gotStaleSentinel =>
    exact ⟨by rintro ⟨⟩, fun _ => rfl, by rintro q ⟨⟩⟩
  | ignored => exact h.settle rfl
  | acted i answer call o ho q gs hc v hv t ht =>
    refine h.settle ?_
    rw [hc.queue]
    cases ht <;> rfl
  | iterate => exact ⟨by rintro ⟨⟩, h.ended, by rintro q ⟨⟩⟩
  | pollFailed => exact ⟨by rintro ⟨⟩, h.ended, by rintro q ⟨⟩⟩
  | gotStaleResult => exact ⟨by rintro ⟨⟩, h.ended, by rintro q ⟨⟩⟩
  | abandon => exact ⟨by rintro ⟨⟩, h.ended, by rintro q ⟨⟩⟩

theorem of_runs {c : PlanningCoordinator} (h : Lts.Runs Planning.step Disciplined (Planning.init c) w) :
    Attached w :=
  (h.invariant (I := fun w => NotStranded w ∧ Attached w) ⟨NotStranded.init c, init c⟩
    fun hw hl hs => ⟨hw.1.step hs, hw.2.step hw.1 hl hs⟩).2

end Attached

/-- In every reachable state in which the latest `plan_all` has returned `True` and no sentinel was
consumed since it began, a sentinel is in the plan queue, or the cancel event is unset and a request
issued since then is outstanding. If besides every `plan_all` of the run came when nobody iterated, a
consumer blocked in `get()` has an item to take or waits for the response to such a request. -/
theorem iterator_not_stranded (c : PlanningCoordinator) (w : State)
    (h : Lts.Reaches step (init c) w) (hs : w.started = true) :
    (w.ended = false → w.Terminated ∨ w.coord.cancelEvent = some false ∧ w.Awaiting) ∧
      (Lts.Runs step Disciplined (init c) w → w.Expecting) := by
  have hw := NotStranded.of_reaches h
  have hst : w.starting = false := by
    rw [← Bool.not_eq_true]
    exact fun hst => by simp [hw.starting hst] at hs
  have hserved (he : w.ended = false) :
      w.Terminated ∨ w.coord.cancelEvent = some false ∧ w.Awaiting := by
    by_cases hT : w.Terminated
    · exact .inl hT
    · exact .inr ((hw.live (.inr hs) he).awaiting hst hT)
  refine ⟨hserved, fun hrun q hq => ?_⟩
  have hatt := Attached.of_runs hrun
  rcases hc : w.consumer with _ | _ | _ | q'
  · simp [State.blockedOn, hc] at hq
  · simp [State.blockedOn, hc] at hq
  · have hsome := hatt.waiting hc
    have he : w.ended = false := by
      rw [← Bool.not_eq_true]
      exact fun he => by simp [hatt.ended he] at hsome
    obtain rfl : w.coord.planQueue.getD [] = q := by simpa [State.blockedOn, hc] using hq
    rcases hserved he with ⟨q, hq, hm⟩ | hawait
    · left
      rw [hq]
      exact List.ne_nil_of_mem hm
    · exact .inr ⟨rfl, hawait⟩
  · have hnot := (hatt.stale q' hc).2
    simp [hs] at hnot

/-- The consumer of the second session is blocked, and a request of the first one is outstanding too. -/
def blockedSecond : List Label :=
  planFirst firstPath ++ [.cancel, .get, .abandon, .planAll [[secondPath], [turnPath]],
    .requestScene .available, .iterate, .poll]

theorem iterator_not_stranded_blockedSecond :
    ∃ w, Lts.Runs step Disciplined (init (onActivate (new "manipulator"))) w ∧
      w.pending.map (·.session) = [1, 2] ∧ w.blockedOn = some [] ∧
      w.coord.cancelEvent = some false ∧ w.Awaiting := by
  have hrun : Lts.Runs step Disciplined (init (onActivate (new "manipulator"))) _ :=
    .of_exec blockedSecond rfl
  have hreach : Lts.Reaches step (init (onActivate (new "manipulator"))) _ :=
    .of_exec blockedSecond rfl
  have hserved := (iterator_not_stranded _ _ hreach rfl).2 hrun [] rfl
  exact ⟨_, hrun, rfl, rfl, (hserved.resolve_left (not_not.2 rfl)).2⟩

theorem stale_nil_step {w w' : State} {l : Label} (hcoh : Coherent w.coord)
    (hc : w.consumer = .stale []) (hs : step w l = some w') : w'.consumer = .stale [] := by
  cases step_cases hcoh hs <;> simp_all [State.setup, State.close, State.sceneRequested, State.settle,
    Consumer.detach]

/-- A second `plan_all` comes while the consumer is blocked: it never gets an item again. -/
theorem consumer_stranded :
    ∃ w, Lts.Reaches step (init (onActivate (new "manipulator"))) w ∧ w.started = true ∧
      w.ended = false ∧ ¬w.Expecting ∧ ∀ w', Lts.Reaches step w w' → w'.blockedOn = some [] := by
  have hreach : Lts.Reaches step (init (onActivate (new "manipulator"))) _ :=
    .of_exec [.planAll [[firstPath]], .requestScene .available, .iterate, .poll,
      .planAll [[secondPath]], .requestScene .available] rfl
  refine ⟨_, hreach, rfl, rfl, fun hserved => ?_, fun w' hw' => ?_⟩
  · rcases hserved [] rfl with hne | ⟨hwaiting, -⟩
    · exact hne rfl
    · cases hwaiting
  · have hcoh := (Ledger.of_reaches hreach).1
    have hstale : Coherent w'.coord ∧ w'.consumer = .stale [] :=
      hw'.invariant (I := fun w => Coherent w.coord ∧ w.consumer = .stale []) ⟨hcoh, rfl⟩
        fun hw _ hs => ⟨step_coherent hw.1 hs, stale_nil_step hw.1 hw.2 hs⟩
    simp [State.blockedOn, hstale.2]

end Planning
end MovementController
