import MovementController.Truth
import MovementController.Stranded
import MovementController.Sequential
import MovementController.Lib.Termination

/-!
# Every goal returns

The thread of a goal is blocked in one place only, the `get()` of an empty queue, and there a
response is outstanding that its service can still give. The steps of the thread and the responses
use something up: a response uses up a request or a group, a step of the thread an item of the queue,
a trajectory or a place in `_execute_callback`. Cancel requests, however many, give nothing back.
-/

namespace MovementController
open PlanningCoordinator

/-! ### Responses -/

theorem Ask.exists_verdict {ask : Ask} (h : ∀ r message, ask = .plan r message → r.group ≠ []) :
    ∃ answer v, ask.verdict answer = some v := by
  rcases ask with _ | ⟨⟨_ | _, group, startState⟩, message⟩
  · exact ⟨.scene .none, _, rfl⟩
  · exact ⟨.pilz .none, _, rfl⟩
  · obtain ⟨path, paths, rfl⟩ := List.exists_cons_of_ne_nil (h _ _ rfl)
    exact ⟨.ompl .none, _, rfl⟩

theorem Verdict.Outcome.issued_group {v : Verdict} {caught : String → PlanResultDTO}
    {call : PlanRequest → CallFaults} {c : PlanningCoordinator} {q : List QueueItem}
    {gs : List Group} {t : Turn} (h : v.Outcome caught call c q gs t) :
    ∀ e ∈ t.issued, e.1.group ≠ [] := by
  cases h with
  | issued r rest message hv hgs hne =>
    intro e he
    rw [List.mem_singleton.1 he]
    exact hne
  | _ => exact fun _ he => absurd he List.not_mem_nil

namespace Planning

/-- There is a group to answer for: the groups of all outstanding planner requests are nonempty. -/
def State.Answerable (w : State) : Prop :=
  ∀ o ∈ w.pending, ∀ r message, o.ask = .plan r message → r.group ≠ []

/-- Bounds the responses that can still arrive in this session. -/
def State.responses (w : State) : Nat :=
  w.pending.length * ((w.coord.session.map (·.groups.length)).getD 0 + 1)

namespace State.Answerable

variable {w w' : State} {l : Label}

theorem settle (h : w.Answerable) (i : Nat) (o : Outstanding) (answer : Answer) {t : Turn}
    (ht : ∀ e ∈ t.issued, e.1.group ≠ []) : (w.settle i o answer t).Answerable := by
  intro o' ho' r message hask
  rcases List.mem_append.1 ho' with ho' | ho'
  · exact h o' (List.mem_of_mem_eraseIdx ho') r message hask
  · obtain ⟨e, he, rfl⟩ := List.mem_map.1 ho'
    cases hask
    exact ht e he

theorem step (hc : Coherent w.coord) (h : w.Answerable) (hs : step w l = some w') :
    w'.Answerable := by
  cases step_cases hc hs with
  | sceneRequested =>
    intro o ho r message hask
    rcases List.mem_append.1 ho with ho | ho
    · exact h o ho r message hask
    · rw [List.mem_singleton.1 ho] at hask
      cases hask
  | ignored i answer call o => exact h.settle i o answer fun _ he => absurd he List.not_mem_nil
  | acted i answer call o ho q gs hopen v hv t ht => exact h.settle i o answer ht.issued_group
  | _ => exact h

theorem of_reaches {c : PlanningCoordinator} (h : Lts.Reaches Planning.step (init c) w) :
    w.Answerable :=
  (h.invariant (I := fun w => Coherent w.coord ∧ w.Answerable)
    ⟨.inl (Coherent.closed_clearSession c), fun _ ho => absurd ho List.not_mem_nil⟩ fun hw _ hs =>
      ⟨step_coherent hw.1 hs, hw.2.step hw.1 hs⟩).2

/-- Every outstanding response can arrive. -/
theorem exists_deliver (hc : Coherent w.coord) (h : w.Answerable) {o : Outstanding}
    (ho : o ∈ w.pending) : ∃ i answer call w', Planning.step w (.deliver i answer call) = some w' := by
  obtain ⟨i, hi, rfl⟩ := List.getElem_of_mem ho
  obtain ⟨answer, v, hv⟩ := Ask.exists_verdict (h _ ho)
  have hrespond : (w.pending[i].ask.respond answer (fun _ => {}) ⟨w.coord, [], []⟩).isSome = true := by
    rcases hc.cases with hc | hc | ⟨q, gs, hc⟩
    · rw [Ask.respond_closed hc, hv]
      rfl
    · rw [Ask.respond_cancelled hc, hv]
      rfl
    · rw [hc.respond, hv]
      rfl
  refine ⟨i, answer, fun _ => {}, Option.isSome_iff_exists.1 ?_⟩
  simpa [Planning.step, List.getElem?_eq_getElem hi] using hrespond

end State.Answerable

/-- A response uses up its request, or the group whose request takes its place. -/
theorem responses_of_deliver {w w' : State} (hc : Coherent w.coord) {i : Nat} {answer : Answer}
    {call : PlanRequest → CallFaults} (hs : step w (.deliver i answer call) = some w') :
    w'.responses < w.responses := by
  cases step_cases hc hs with
  | ignored i answer call o ho =>
    obtain ⟨hi, -⟩ := List.getElem?_eq_some_iff.1 ho
    have hlen : (w.settle i o answer ⟨w.coord, [], []⟩).pending.length = w.pending.length - 1 := by
      simp [State.settle, List.length_eraseIdx, hi]
    rw [State.responses, State.responses, hlen]
    exact Nat.mul_lt_mul_of_lt_of_le (by omega) (Nat.le_refl _) (Nat.succ_pos _)
  | acted i answer call o ho q gs hopen v hv t ht =>
    obtain ⟨hi, -⟩ := List.getElem?_eq_some_iff.1 ho
    obtain ⟨current, hsession⟩ := hopen.session
    have hold : w.responses = w.pending.length * (gs.length + 1) := by
      rw [State.responses, hsession]
      rfl
    have hlen : (w.settle i o answer t).pending.length = w.pending.length - 1 + t.issued.length := by
      simp [State.settle, List.length_eraseIdx, hi]
    have hpos : 0 < w.pending.length := by omega
    rw [hold, State.responses, hlen]
    cases ht with
    | stopped =>
      simp only [State.settle, hsession, Option.map_some, Option.getD_some, List.length_nil]
      exact Nat.mul_lt_mul_of_lt_of_le (by omega) (Nat.le_refl _) (Nat.succ_pos _)
    | finished startState s hn hgs hgroups =>
      simp only [State.settle, Option.map_some, Option.getD_some, List.length_nil, hgroups,
        List.length_tail]
      exact Nat.mul_lt_mul_of_lt_of_le (by omega) (by omega) (Nat.succ_pos _)
    | issued r rest message hn hgs =>
      simp only [State.settle, Option.map_some, Option.getD_some, List.length_cons, List.length_nil,
        hgs, Nat.zero_add, Nat.sub_add_cancel hpos]
      exact Nat.mul_lt_mul_of_le_of_lt (Nat.le_refl _) (Nat.lt_succ_self _) hpos
    | failed r rest dto hn hgs =>
      simp only [State.settle, Option.map_some, Option.getD_some, List.length_nil, hgs,
        List.length_cons]
      exact Nat.mul_lt_mul_of_lt_of_le (by omega) (by omega) (Nat.succ_pos _)

end Planning

namespace Execution

/-! ### The thread and the flags of the session -/

/-- Whether the session was opened, and its sentinel not taken. -/
def Pc.looping : Pc → Bool
  | .iterating | .planned _ | .approved _ | .executing .. | .waiting .. => true
  | _ => false

structure Goal.Underway (p : Planning.State) (g : Goal) : Prop where
  starting : p.starting = true ↔ g.pc = .requesting
  ended : g.pc = .requesting ∨ g.pc.looping = true → p.ended = false
  started : g.pc.looping = true → p.started = true

namespace Goal

variable {p p' : Planning.State} {g g' : Goal} {a : Action}

theorem act_of_requesting (hpc : g.pc = .requesting) (h : g.act p a = some (p', g')) :
    ∃ service, Planning.step p (.requestScene service) = some p' ∧
      (g'.pc = .iterating ∧ p.coord.sceneClient = true ∧ service = .available ∨
        ∃ e, g'.pc = .failing e) := by
  cases a with
  | requestScene service =>
    simp only [act, hpc] at h
    obtain ⟨_, hs, heq⟩ := Option.map_eq_some_iff.1 h
    cases heq
    refine ⟨service, hs, ?_⟩
    split
    · next hc => exact .inl ⟨rfl, hc, rfl⟩
    · exact .inr ⟨_, rfl⟩
    · exact .inr ⟨_, rfl⟩
  | _ => simp [act, hpc] at h

theorem act_of_failing {e : String} (hpc : g.pc = .failing e) (h : g.act p a = some (p', g')) :
    g'.result.isSome = true := by
  cases a with
  | fail =>
    simp only [act, hpc, Option.some.injEq, Prod.mk.injEq] at h
    rw [← h.2]
    rfl
  | _ => simp [act, hpc] at h

theorem Act.goal_eq (h : Act p g a p' g') : g'.goal = g.goal := by
  cases h <;> rfl

theorem Act.pc_of_returned (h : Act p g a p' g') (hrun : g.result = none)
    (hr : g'.result.isSome = true) : g'.pc ≠ .requesting := by
  cases h with
  | succeeded hpc | failed e hpc => simp [hpc]
  | _ => simp [goto, emit, hrun] at hr

theorem Act.cancelRequested_eq (h : Act p g a p' g') : g'.cancelRequested = g.cancelRequested := by
  cases h <;> rfl

end Goal

namespace Goal.Underway

variable {p p' : Planning.State} {g g' : Goal} {a : Action}

/-- Where the flags and the place in the loop stay as they are. -/
theorem frame (h : g.Underway p) (hs : p'.starting = p.starting) (hr : p'.started = p.started)
    (he : p'.ended = p.ended) (hreq : g'.pc = .requesting ↔ g.pc = .requesting)
    (hloop : g'.pc.looping = true → g.pc.looping = true) : g'.Underway p' where
  starting := by rw [hs, hreq, h.starting]
  ended hl := by rw [he]; exact h.ended (hl.imp hreq.1 hloop)
  started hl := by rw [hr]; exact h.started (hloop hl)

/-- A step on the coordinator of the session that does not begin or end it. -/
theorem of_step (hc : Planning.Coherent p.coord) (h : g.Underway p) {l : Planning.Label}
    (hs : Planning.step p l = some p') (hl : ∀ groups, l ≠ .planAll groups)
    (hl' : ∀ service, l ≠ .requestScene service) (hpc : g.pc ≠ .requesting)
    (hpc' : g'.pc ≠ .requesting) (hloop : g'.pc.looping = true → g.pc.looping = true)
    (hend : p'.ended = p.ended ∨ g'.pc.looping = false) : g'.Underway p' := by
  have hflags : p'.starting = p.starting ∧ p'.started = p.started := by
    cases Planning.step_cases hc hs with
    | planAll groups => exact absurd rfl (hl groups)
    | sceneRequested => exact absurd rfl (hl' _)
    | sceneRaised => exact absurd rfl (hl' _)
    | sceneUnavailable service => exact absurd rfl (hl' service)
    | _ => exact ⟨rfl, rfl⟩
  refine ⟨?_, fun hlive => ?_, fun hlive => hflags.2 ▸ h.started (hloop hlive)⟩
  · rw [hflags.1, h.starting]
    exact ⟨fun hr => absurd hr hpc, fun hr => absurd hr hpc'⟩
  · have hlive := hlive.resolve_left hpc'
    rw [hend.resolve_right (by simp [hlive])]
    exact h.ended (.inr (hloop hlive))

theorem requestScene (hc : Planning.Coherent p.coord) (h : g.Underway p) (hpc : g.pc = .requesting)
    {service : Planning.SceneService} (hs : Planning.step p (.requestScene service) = some p')
    (hpc' : g'.pc = .iterating ∧ p.coord.sceneClient = true ∧ service = .available ∨
      ∃ e, g'.pc = .failing e) : g'.Underway p' := by
  have hstarting : p'.starting = false := by
    cases Planning.step_cases hc hs <;> rfl
  rcases hpc' with ⟨hiter, hclient, rfl⟩ | ⟨e, hfail⟩
  · cases Planning.step_cases hc hs with
    | sceneRequested =>
      refine ⟨?_, fun _ => h.ended (.inl hpc), fun _ => rfl⟩
      rw [hstarting, hiter]
      exact ⟨by rintro ⟨⟩, by rintro ⟨⟩⟩
    | sceneUnavailable service hs hunavailable => cases hunavailable hclient
  · refine ⟨?_, fun hl => ?_, fun hl => ?_⟩
    · rw [hstarting, hfail]
      exact ⟨by rintro ⟨⟩, by rintro ⟨⟩⟩
    · rw [hfail] at hl
      rcases hl with hl | hl <;> cases hl
    · rw [hfail] at hl
      cases hl

theorem act (hc : Planning.Coherent p.coord) (h : g.Underway p)
    (ha : g.act p a = some (p', g')) : g'.Underway p' := by
  by_cases hreq : g.pc = .requesting
  · obtain ⟨service, hs, hpc'⟩ := act_of_requesting hreq ha
    exact h.requestScene hc hreq hs hpc'
  have frame {k : Goal} (hk : k.pc ≠ .requesting) (hloop : k.pc.looping = true → g.pc.looping = true) :
      k.Underway p :=
    h.frame rfl rfl rfl ⟨fun hr => absurd hr hk, fun hr => absurd hr hreq⟩ hloop
  cases act_cases ha with
  | started | halted => exact frame (by rintro ⟨⟩) (by rintro ⟨⟩)
  | planAll hpc q hs =>
    simp only [Planning.step, Option.ite_none_left_eq_some, Option.some.injEq] at hs
    rw [← hs.2]
    exact ⟨⟨fun _ => rfl, fun _ => rfl⟩, fun _ => rfl, by rintro ⟨⟩⟩
  | requested hpc | notRequested hpc => exact absurd hpc hreq
  | iterate hpc q hs =>
    refine h.of_step hc hs (by rintro _ ⟨⟩) (by rintro _ ⟨⟩) hreq hreq id (.inl ?_)
    cases Planning.step_cases hc hs; rfl
  | polled hpc q hs =>
    refine h.of_step hc hs (by rintro _ ⟨⟩) (by rintro _ ⟨⟩) hreq hreq id (.inl ?_)
    cases Planning.step_cases hc hs <;> rfl
  | pollFailed hpc q hs =>
    refine h.of_step hc hs (by rintro _ ⟨⟩) (by rintro _ ⟨⟩) hreq (by rintro ⟨⟩)
      (fun _ => by rw [hpc]; rfl) (.inl ?_)
    cases Planning.step_cases hc hs <;> rfl
  | gotResult hpc dto hn q hs =>
    refine h.of_step hc hs (by rintro _ ⟨⟩) (by rintro _ ⟨⟩) hreq (by rintro ⟨⟩)
      (fun _ => by rw [hpc]; rfl) (.inl ?_)
    cases Planning.step_cases hc hs with
    | gotSentinel q hw hq => simp [Planning.State.next?, hw, hq] at hn
    | gotStaleSentinel q hw => simp [Planning.State.next?, hw] at hn
    | _ => rfl
  | gotSentinel hpc hn q hs =>
    exact h.of_step hc hs (by rintro _ ⟨⟩) (by rintro _ ⟨⟩) hreq (by rintro ⟨⟩) (by rintro ⟨⟩)
      (.inr rfl)
  | approved dto hpc | announced dto hpc | sent dto trajectory rest hpc | answered dto rest hpc
  | completed dto hpc => exact frame (by rintro ⟨⟩) fun _ => by rw [hpc]; rfl
  | answerFailed dto rest hpc answer q hp e =>
    rcases hp with rfl | rfl
    · exact frame (by rintro ⟨⟩) (by rintro ⟨⟩)
    · exact (frame (k := (g.emit (.answered answer)).goto (.failing e)) (by rintro ⟨⟩)
        (by rintro ⟨⟩)).frame rfl rfl rfl Iff.rfl id
  | succeeded => exact frame hreq id
  | failed e hpc =>
    rw [Planning.getD_abandon]
    exact h.frame rfl rfl rfl Iff.rfl id

end Goal.Underway

structure Underway (w : State) : Prop where
  current : ∀ g ∈ w.current, g.Underway w.plan
  idle : w.current = none → w.plan.starting = false

theorem Underway.step {w w' : State} {l : Label} (hw : Sound w) (h : Underway w)
    (hs : step w l = some w') : Underway w' := by
  cases l with
  | accept goal =>
    simp only [Execution.step, Option.ite_none_right_eq_some, Option.some.injEq] at hs
    obtain ⟨hc, rfl⟩ := hs
    refine ⟨?_, by rintro ⟨⟩⟩
    rintro _ ⟨⟩
    refine ⟨?_, fun hl => ?_, by rintro ⟨⟩⟩
    · rw [h.idle hc]
      exact ⟨by rintro ⟨⟩, by rintro ⟨⟩⟩
    · rcases hl with hl | hl <;> cases hl
  | cancel =>
    obtain ⟨g, hg, rfl⟩ := Option.map_eq_some_iff.1 hs
    refine ⟨?_, by rintro ⟨⟩⟩
    rintro _ ⟨⟩
    exact (h.current g hg).frame rfl rfl rfl Iff.rfl id
  | deliver i answer call =>
    obtain ⟨p, hd, rfl⟩ := Option.map_eq_some_iff.1 hs
    have hsame : p.starting = w.plan.starting ∧ p.started = w.plan.started ∧
        p.ended = w.plan.ended := by
      cases Planning.step_cases hw.coherent hd <;> exact ⟨rfl, rfl, rfl⟩
    exact ⟨fun g hg => (h.current g hg).frame hsame.1 hsame.2.1 hsame.2.2 Iff.rfl id,
      fun hc => hsame.1.trans (h.idle hc)⟩
  | thread a =>
    obtain ⟨g, hg, hs⟩ := Option.bind_eq_some_iff.1 hs
    obtain ⟨⟨p, g'⟩, ha, rfl⟩ := Option.map_eq_some_iff.1 hs
    have hunder := (h.current g hg).act hw.coherent ha
    dsimp only
    rcases w.advance_cases p g' with ⟨hr, heq⟩ | ⟨hr, heq⟩ <;> rw [heq]
    · refine ⟨?_, by rintro ⟨⟩⟩
      rintro _ ⟨⟩
      exact hunder
    · refine ⟨by rintro _ ⟨⟩, fun _ => ?_⟩
      rw [← Bool.not_eq_true, hunder.starting]
      exact (Goal.act_cases ha).pc_of_returned (hw.current g hg).running hr

theorem Underway.of_reaches {c : PlanningCoordinator} {w : State}
    (h : Lts.Reaches Execution.step (init c) w) : Underway w :=
  (h.invariant (I := fun w => Sound w ∧ Underway w) ⟨.init c, by rintro _ ⟨⟩, fun _ => rfl⟩ fun hw _ hs =>
    ⟨hw.1.step hs, hw.2.step hw.1 hs⟩).2

/-! ### What is left to do -/

/-- A result still makes at most six steps of its own and two for each trajectory. -/
def weight : QueueItem → Nat
  | .result dto => 2 * (trajectories dto).length + 6
  | .stopIteration => 0

def Pc.phase : Pc → Nat
  | .accepted => 3
  | .ready => 2
  | .requesting => 1
  | _ => 0

/-- The steps the queue still holds. A goal whose cancel was requested takes one more item at
most, whatever its queue holds. -/
def Goal.queued (p : Planning.State) (g : Goal) : Nat :=
  if g.cancelRequested then 0 else ((p.coord.planQueue.getD []).map weight).sum

/-- Bounds the steps of the thread up to the next response. -/
def Goal.toDo (p : Planning.State) (g : Goal) : Nat :=
  match g.pc with
  | .accepted | .ready | .requesting => 0
  | .iterating => g.queued p + p.consumer.work + 3
  | .planned dto =>
    if g.cancelRequested then 2 else g.queued p + 2 * (trajectories dto).length + 8
  | .approved dto => g.queued p + 2 * (trajectories dto).length + 7
  | .executing _ rest => g.queued p + 2 * rest.length + 6
  | .waiting _ rest => g.queued p + 2 * rest.length + 7
  | .finishing => 2
  | .failing _ => 1

def Goal.rank (p : Planning.State) (g : Goal) : ℕ ×ₗ ℕ ×ₗ ℕ :=
  toLex (g.pc.phase, toLex (p.responses, g.toDo p))

def State.rank (w : State) : ℕ ×ₗ ℕ ×ₗ ℕ :=
  match w.current with
  | none => toLex (0, toLex (0, 0))
  | some g => g.rank w.plan

namespace Goal

variable {p p' : Planning.State} {g g' : Goal} {a : Action}

theorem rank_lt_of_phase (h : g'.pc.phase < g.pc.phase) : g'.rank p' < g.rank p :=
  Prod.Lex.toLex_lt_toLex.2 (.inl h)

theorem rank_lt_of_responses (hphase : g'.pc.phase = g.pc.phase) (h : p'.responses < p.responses) :
    g'.rank p' < g.rank p :=
  Prod.Lex.toLex_lt_toLex.2 (.inr ⟨hphase, Prod.Lex.toLex_lt_toLex.2 (.inl h)⟩)

theorem rank_lt_of_toDo (hphase : g'.pc.phase ≤ g.pc.phase) (hresp : p'.responses ≤ p.responses)
    (h : g'.toDo p' < g.toDo p) : g'.rank p' < g.rank p := by
  rcases Nat.lt_or_eq_of_le hphase with hlt | hphase
  · exact rank_lt_of_phase hlt
  rcases Nat.lt_or_eq_of_le hresp with hlt | hresp
  · exact rank_lt_of_responses hphase hlt
  · exact Prod.Lex.toLex_lt_toLex.2
      (.inr ⟨hphase, Prod.Lex.toLex_lt_toLex.2 (.inr ⟨hresp, h⟩)⟩)

theorem rank_le_of_toDo (hphase : g'.pc.phase = g.pc.phase) (hresp : p'.responses = p.responses)
    (h : g'.toDo p' ≤ g.toDo p) : g'.rank p' ≤ g.rank p := by
  refine Prod.Lex.toLex_le_toLex.2 (.inr ⟨hphase, ?_⟩)
  exact Prod.Lex.toLex_le_toLex.2 (.inr ⟨hresp, h⟩)

theorem toDo_cancel : { g with cancelRequested := true }.toDo { p with coord := p.coord.cancel } ≤
    g.toDo p := by
  have hqueued {p : Planning.State} {k : Goal} (hk : k.cancelRequested = true) : k.queued p = 0 :=
    if_pos hk
  cases hpc : g.pc with
  | planned dto =>
    simp only [toDo, hpc, if_true]
    split <;> omega
  | _ => simp [toDo, hpc, hqueued]

theorem one_lt_toDo (hphase : g.pc.phase = 0) (hpc : ∀ e, g.pc ≠ .failing e) : 1 < g.toDo p := by
  unfold toDo
  split
  · next hpc => simp [hpc, Pc.phase] at hphase
  · next hpc => simp [hpc, Pc.phase] at hphase
  · next hpc => simp [hpc, Pc.phase] at hphase
  · omega
  · split <;> omega
  · omega
  · omega
  · omega
  · omega
  · next e he => exact absurd he (hpc e)

/-- Giving up is a step forward from every place but that of a goal that has given up. -/
theorem rank_failing (hpc : ∀ e, g.pc ≠ .failing e) (hresp : p'.responses ≤ p.responses)
    (hfail : ∃ e, g'.pc = .failing e) : g'.rank p' < g.rank p := by
  obtain ⟨e, hfail⟩ := hfail
  have hphase : g'.pc.phase = 0 := by rw [hfail]; rfl
  have htoDo : g'.toDo p' = 1 := by simp [toDo, hfail]
  rcases Nat.eq_zero_or_pos g.pc.phase with hzero | hpos
  · exact rank_lt_of_toDo (by omega) hresp (htoDo ▸ one_lt_toDo hzero hpc)
  · exact rank_lt_of_phase (by omega)

/-- A step of the loop that keeps the requests and the queue of the session. -/
theorem rank_lt_of_queue (hphase : g'.pc.phase ≤ g.pc.phase)
    (hcoord : p'.coord = p.coord) (hpend : p'.pending = p.pending)
    (h : g'.toDo p' < g.toDo p) : g'.rank p' < g.rank p := by
  refine rank_lt_of_toDo hphase ?_ h
  rw [Planning.State.responses, hcoord, hpend]
  exact Nat.le_refl _

theorem rank_get (hc : Planning.Coherent p.coord) (hplaced : g.Placed p) (hpc : g.pc = .iterating)
    (hs : Planning.step p .get = some p') {item : QueueItem} (hn : p.next? = some item)
    (hpc' : (∃ dto, item = .result dto ∧ g'.pc = .planned dto) ∨
      item = .stopIteration ∧ g'.pc = .finishing)
    (hcancel : g'.cancelRequested = g.cancelRequested) : g'.rank p' < g.rank p := by
  obtain ⟨hwait, q, hq⟩ := hplaced.queue_of_next hpc hn
  rcases hpc' with ⟨dto, rfl, hpc'⟩ | ⟨rfl, hpc'⟩
  · cases Planning.step_cases hc hs with
    | gotSentinel q' hw hq' => simp [hq] at hq'
    | gotStaleResult dto' q' hw => simp [hwait] at hw
    | gotStaleSentinel q' hw => simp [hwait] at hw
    | gotResult dto' q' hw hq' =>
      obtain ⟨rfl, rfl⟩ : dto = dto' ∧ q = q' := by simpa [hq] using hq'
      refine rank_lt_of_toDo (by rw [hpc', hpc]; exact Nat.le_refl _) (Nat.le_refl _) ?_
      simp only [toDo, hpc, hpc', queued, hcancel, hq, Option.getD_some, List.map_cons, List.sum_cons,
        weight]
      split <;> omega
  · cases Planning.step_cases hc hs with
    | gotResult dto' q' hw hq' => simp [hq] at hq'
    | gotStaleResult dto' q' hw => simp [hwait] at hw
    | gotStaleSentinel q' hw => simp [hwait] at hw
    | gotSentinel q' hw hq' =>
      refine rank_lt_of_toDo (by rw [hpc', hpc]; exact Nat.le_refl _) ?_ ?_
      · exact Nat.mul_le_mul_left _ (by simp [Planning.State.close, clearSession])
      · simp only [toDo, hpc, hpc']
        omega

/-- Every step of the thread that does not return brings the return nearer. -/
theorem rank_act (hc : Planning.Coherent p.coord) (hplaced : g.Placed p)
    (hq : g.pc = .iterating → p.coord.planQueue.isSome = true) (h : g.act p a = some (p', g'))
    (hrun : g'.result = none) : g'.rank p' < g.rank p := by
  have hfailing : ∀ e, g.pc ≠ .failing e := fun e he => by
    have hret := act_of_failing he h
    rw [hrun] at hret
    cases hret
  cases act_cases h with
  | started hpc => exact rank_lt_of_phase (by rw [hpc]; exact Nat.lt_succ_self 2)
  | halted a e hpc => exact rank_failing hfailing (Nat.le_refl _) ⟨e, rfl⟩
  | planAll hpc q hs => exact rank_lt_of_phase (by rw [hpc]; exact Nat.lt_succ_self 1)
  | requested hpc hclient q hs => exact rank_lt_of_phase (by rw [hpc]; exact Nat.zero_lt_one)
  | notRequested hpc service q hs e => exact rank_lt_of_phase (by rw [hpc]; exact Nat.zero_lt_one)
  | iterate hpc q hs =>
    cases Planning.step_cases hc hs with
    | iterate hidle =>
      refine rank_lt_of_queue (Nat.le_refl _) rfl rfl ?_
      simp [toDo, hpc, queued, hidle, Planning.Consumer.work]
  | polled hpc q hs hw =>
    cases Planning.step_cases hc hs with
    | polled hpoll hq =>
      refine rank_lt_of_queue (Nat.le_refl _) rfl rfl ?_
      simp [toDo, hpc, queued, hpoll, Planning.Consumer.work]
    | pollFailed hpoll hq => simp at hw
  | pollFailed hpc q hs hw =>
    cases Planning.step_cases hc hs with
    | polled hpoll hq => exact absurd rfl hw
    | pollFailed hpoll hnone =>
      have hsome := hq hpc
      rw [hnone] at hsome
      cases hsome
  | gotResult hpc dto hn q hs => exact rank_get hc hplaced hpc hs hn (.inl ⟨dto, rfl, rfl⟩) rfl
  | gotSentinel hpc hn q hs => exact rank_get hc hplaced hpc hs hn (.inr ⟨rfl, rfl⟩) rfl
  | approved dto hpc hcancel =>
    refine rank_lt_of_queue (by rw [hpc]; exact Nat.le_refl _) rfl rfl ?_
    simp [toDo, hpc, goto, queued, hcancel]
  | announced dto hpc =>
    refine rank_lt_of_queue (by rw [hpc]; exact Nat.le_refl _) rfl rfl ?_
    simp [toDo, hpc, goto, emit, queued]
  | sent dto trajectory rest hpc =>
    refine rank_lt_of_queue (by rw [hpc]; exact Nat.le_refl _) rfl rfl ?_
    simp [toDo, hpc, goto, emit, queued]
    omega
  | answered dto rest hpc =>
    refine rank_lt_of_queue (by rw [hpc]; exact Nat.le_refl _) rfl rfl ?_
    simp [toDo, hpc, goto, emit, queued]
  | answerFailed dto rest hpc answer q hp e =>
    refine rank_failing hfailing ?_ ⟨e, rfl⟩
    rcases hp with rfl | rfl
    · exact Nat.le_refl _
    · exact Nat.le_refl _
  | completed dto hpc =>
    refine rank_lt_of_queue (by rw [hpc]; exact Nat.le_refl _) rfl rfl ?_
    have hwork : p.consumer.work ≤ 2 := by
      cases p.consumer <;> simp [Planning.Consumer.work]
    simp [toDo, hpc, goto, emit, queued]
    omega
  | succeeded hpc => cases hrun
  | failed e hpc => cases hrun

/-- The thread can take a step, unless it waits at an empty queue. -/
theorem exists_act (hplaced : g.Placed p) (hunder : g.Underway p) (hq : g.pc = .iterating →
    p.coord.planQueue.isSome = true) :
    (∃ a, (g.act p a).isSome = true) ∨ g.pc = .iterating ∧ p.coord.planQueue = some [] := by
  have hcons := hplaced.consumer
  cases hpc : g.pc with
  | accepted => exact .inl ⟨.start true, by simp [act, hpc]⟩
  | ready =>
    have hstart : p.starting = false := by
      rw [← Bool.not_eq_true, hunder.starting, hpc]
      rintro ⟨⟩
    exact .inl ⟨.planAll, by simp [act, hpc, Planning.step, hstart]⟩
  | requesting =>
    have hstart := hunder.starting.2 hpc
    refine .inl ⟨.requestScene .unavailable, ?_⟩
    simp only [act, hpc, Planning.step, hstart, if_true, Option.isSome_map]
    split <;> rfl
  | iterating =>
    obtain ⟨q, hq⟩ := Option.isSome_iff_exists.1 (hq hpc)
    rw [hpc] at hcons
    rcases hc : p.consumer with _ | _ | _ | q'
    · exact .inl ⟨.iterate, by simp [act, hpc, Planning.step, hc]⟩
    · exact .inl ⟨.poll, by simp [act, hpc, Planning.step, hc, hq]⟩
    · rcases q with _ | ⟨_ | _, q⟩
      · exact .inr ⟨rfl, hq⟩
      · exact .inl ⟨.get, by
          simp [act, hpc, Planning.State.next?, Planning.step, Planning.State.get, hc, hq]⟩
      · exact .inl ⟨.get, by
          simp [act, hpc, Planning.State.next?, Planning.step, Planning.State.get, hc, hq]⟩
    · simp [Pc.consumers, hc] at hcons
  | planned dto => exact .inl ⟨.check, by simp [act, hpc]⟩
  | approved dto => exact .inl ⟨.announce none, by simp [act, hpc]⟩
  | executing dto rest =>
    cases rest with
    | nil => exact .inl ⟨.complete none, by simp [act, hpc]⟩
    | cons trajectory rest => exact .inl ⟨.send true none, by simp [act, hpc]⟩
  | waiting dto rest => exact .inl ⟨.answer .succeeded, by simp [act, hpc]⟩
  | finishing => exact .inl ⟨.succeed none, by simp [act, hpc]⟩
  | failing e => exact .inl ⟨.fail, by simp [act, hpc]⟩

end Goal

/-! ### Runs of the node -/

section
variable {c : PlanningCoordinator} {w w' : State} {g : Goal} {l : Label}

/-- The session of a goal in the loop is open. -/
theorem live_of_looping (h : Lts.Reaches step (init c) w) (hg : w.current = some g)
    (hpc : g.pc.looping = true) : w.plan.starting = false ∧ w.plan.Live := by
  have hunder := (Underway.of_reaches h).current g hg
  have hstart : w.plan.starting = false := by
    rw [← Bool.not_eq_true, hunder.starting]
    intro hreq
    rw [hreq] at hpc
    cases hpc
  exact ⟨hstart, (Planning.NotStranded.of_reaches (reaches_plan h)).live
    (.inr (hunder.started hpc)) (hunder.ended (.inr hpc))⟩

theorem queue_of_iterating (h : Lts.Reaches step (init c) w) (hg : w.current = some g)
    (hpc : g.pc = .iterating) : w.plan.coord.planQueue.isSome = true :=
  (live_of_looping h hg (by rw [hpc]; rfl)).2.queue

theorem exists_step (h : Lts.Reaches step (init c) w) (hg : w.current = some g) :
    ∃ l w', l ≠ .cancel ∧ step w l = some w' := by
  have hsound := Sound.of_reaches h
  rcases Goal.exists_act (hsound.current g hg) ((Underway.of_reaches h).current g hg)
    (queue_of_iterating h hg) with ⟨a, ha⟩ | ⟨hpc, hq⟩
  · obtain ⟨⟨p, g'⟩, ha⟩ := Option.isSome_iff_exists.1 ha
    exact ⟨.thread a, w.advance p g', by rintro ⟨⟩, by simp [step, hg, ha]⟩
  · -- the sentinel is not in the queue, so the response that brings it nearer is outstanding
    obtain ⟨hstart, hlive⟩ := live_of_looping h hg (by rw [hpc]; rfl)
    have hnot : ¬w.plan.Terminated := by
      rintro ⟨q, hq', hmem⟩
      obtain rfl := Option.some.inj (hq.symm.trans hq')
      exact absurd hmem List.not_mem_nil
    obtain ⟨-, o, ho, -⟩ := hlive.awaiting hstart hnot
    obtain ⟨i, answer, call, p, hd⟩ :=
      (Planning.State.Answerable.of_reaches (reaches_plan h)).exists_deliver hsound.coherent ho
    exact ⟨.deliver i answer call, { w with plan := p }, by rintro ⟨⟩, by simp [step, hd]⟩

/-- A step while a goal is current: it stays and its rank falls, unless the step is a cancel
request, or it returns. -/
theorem step_rank (h : Lts.Reaches step (init c) w) (hg : w.current = some g)
    (hs : step w l = some w') :
    (w'.current = none ∧ ∃ k, k.goal = g.goal ∧ k.result.isSome = true ∧
      w'.finished = w.finished ++ [k]) ∨
    (∃ k, w'.current = some k ∧ k.goal = g.goal ∧ w'.finished = w.finished) ∧
      w'.rank ≤ w.rank ∧ (l ≠ .cancel → w'.rank < w.rank) := by
  have hsound := Sound.of_reaches h
  have hrank : w.rank = g.rank w.plan := by rw [State.rank, hg]
  rw [hrank]
  cases l with
  | accept goal => simp [step, hg] at hs
  | cancel =>
    obtain ⟨_, hg', rfl⟩ := Option.map_eq_some_iff.1 hs
    obtain rfl := Option.some.inj (hg.symm.trans hg')
    exact .inr ⟨⟨_, rfl, rfl, rfl⟩, Goal.rank_le_of_toDo rfl rfl Goal.toDo_cancel,
      fun hne => absurd rfl hne⟩
  | deliver i answer call =>
    obtain ⟨p, hd, rfl⟩ := Option.map_eq_some_iff.1 hs
    have hlt : State.rank { w with plan := p } < g.rank w.plan := by
      show State.rank { w with plan := p, current := w.current } < _
      rw [hg]
      exact Goal.rank_lt_of_responses rfl (Planning.responses_of_deliver hsound.coherent hd)
    exact .inr ⟨⟨g, hg, rfl, rfl⟩, hlt.le, fun _ => hlt⟩
  | thread a =>
    obtain ⟨_, hg', hs⟩ := Option.bind_eq_some_iff.1 hs
    obtain rfl := Option.some.inj (hg.symm.trans hg')
    obtain ⟨⟨p, g'⟩, ha, rfl⟩ := Option.map_eq_some_iff.1 hs
    have hgoal := (Goal.act_cases ha).goal_eq
    dsimp only
    rcases w.advance_cases p g' with ⟨hr, heq⟩ | ⟨hr, heq⟩
    · have hlt := Goal.rank_act hsound.coherent (hsound.current g hg) (queue_of_iterating h hg) ha hr
      rw [heq]
      exact .inr ⟨⟨g', rfl, hgoal, rfl⟩, hlt.le, fun _ => hlt⟩
    · rw [heq]
      exact .inl ⟨rfl, g', hgoal, hr, rfl⟩

/-- Every accepted goal returns. From any reachable state in which it is current, whatever the
services, MoveIt and the clients do: until it has returned some step other than a cancel request can
be taken, and an infinite run in which such steps do not cease comes to its return. -/
theorem goal_returns (c : PlanningCoordinator) (w : State) (h : Lts.Reaches step (init c) w)
    (g : Goal) (hg : w.current = some g) :
    Lts.Inevitable step (fun _ l => l ≠ .cancel)
      (fun w' => w'.current = none ∧ ∃ k, k.goal = g.goal ∧ k.result.isSome = true ∧
        w'.finished = w.finished ++ [k]) w := by
  have hranked : Lts.Ranked step (fun _ l => l ≠ .cancel)
      (fun w' => Lts.Reaches step (init c) w' ∧
        ∃ k, w'.current = some k ∧ k.goal = g.goal ∧ w'.finished = w.finished)
      (fun w' => w'.current = none ∧ ∃ k, k.goal = g.goal ∧ k.result.isSome = true ∧
        w'.finished = w.finished ++ [k]) State.rank := by
    refine ⟨fun {t u l} ⟨hr, k, hk, hgoal, hfin⟩ hs => ?_, fun {t} ⟨hr, k, hk, _⟩ _ => exists_step hr hk⟩
    rcases step_rank hr hk hs with ⟨hnone, k', hgoal', hres, hfin'⟩ | ⟨⟨k', hk', hgoal', hfin'⟩, hrank⟩
    · exact .inl ⟨hnone, k', hgoal'.trans hgoal, hres, hfin' ▸ hfin ▸ rfl⟩
    · exact .inr ⟨⟨hr.tail trivial hs, k', hk', hgoal'.trans hgoal, hfin'.trans hfin⟩, hrank⟩
  exact hranked.inevitable ⟨h, g, hg, rfl, rfl⟩

end

/-- With the only response outstanding and the queue empty, the response is the step there is. -/
theorem goal_returns_beginFirst : ∃ (w : State) (g : Goal), w.current = some g ∧
    w.plan.coord.planQueue = some [] ∧
    Lts.Inevitable step (fun _ l => l ≠ .cancel)
      (fun w' => w'.current = none ∧ ∃ k, k.goal = g.goal ∧ k.result.isSome = true ∧
        w'.finished = w.finished ++ [k]) w := by
  have h : Lts.Reaches step (init (PlanningCoordinator.onActivate (.new "manipulator"))) _ :=
    .of_exec beginFirst rfl
  exact ⟨_, _, rfl, rfl, goal_returns _ _ h _ rfl⟩

end Execution
end MovementController
