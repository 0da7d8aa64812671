import MovementController.Planning

/-!
# The look-ahead of one session

A session that begins with nothing outstanding holds, at every moment until its sentinel is taken,
the plans of its first groups in order: those already yielded, then those in the queue. Behind them
comes the next response, or the sentinel if every group is planned, or a failure and the sentinel;
`cancel` can only bring the last about.
-/

namespace MovementController
open PlanningCoordinator

/-! ### Plans of groups -/

theorem selectService_eq_ompl {g : Group} (h : selectService g = .ompl) :
    ∃ path rest, g = path :: rest ∧ path.motionType = .PTP := by
  unfold selectService at h
  split at h
  · next hg =>
    rcases g with _ | ⟨path, rest⟩
    · simp at hg
    · exact ⟨path, rest, rfl, by simpa using hg⟩
  · cases h

/-- What `TrajectoryGrouper.group` guarantees: no group is empty, and a group for OMPL is a single
path. -/
structure Plannable (groups : List Group) : Prop where
  ne_nil : ∀ g ∈ groups, g ≠ []
  single : ∀ g ∈ groups, selectService g = .ompl → ∃ path, g = [path]

theorem TrajectoryGoalDTO.plannable (goal : TrajectoryGoalDTO) : Plannable goal.groups := by
  refine ⟨fun g hg => goal.ne_nil_of_mem_groups hg, fun g hg hs => ?_⟩
  obtain ⟨path, rest, rfl, hptp⟩ := selectService_eq_ompl hs
  rw [goal.groups_eq_splitBy] at hg
  exact ⟨path, TrajectoryGrouper.eq_singleton_of_ptp hg List.mem_cons_self hptp⟩

namespace Planning

/-- `dto` is a plan of the group `g`, made in the `k`-th session. -/
def State.PlanOf (w : State) (k : Nat) (dto : PlanResultDTO) (g : Group) : Prop :=
  dto.success = true ∧ dto.pathIds = g.pathIds ∧ ∃ r : PlanRequest, r.group = g ∧ w.Answered k r dto

theorem PlanOf.mono {w w' : State} {k : Nat} {dto : PlanResultDTO} {g : Group}
    (hd : w.delivered ⊆ w'.delivered) (h : w.PlanOf k dto g) : w'.PlanOf k dto g :=
  let ⟨hs, hi, r, hr, ha⟩ := h
  ⟨hs, hi, r, hr, State.Answered.mono hd ha⟩

theorem forall₂_prefix {α β : Type} {R : α → β → Prop} {l₁ l₂ : List α} {l : List β}
    (h : List.Forall₂ R (l₁ ++ l₂) l) : ∃ l', l' <+: l ∧ List.Forall₂ R l₁ l' :=
  ⟨_, List.take_prefix _ _, (List.forall₂_take_append _ _ _ h.flip).flip⟩

/-- What a verdict adds to the plans: the plan of the group that was asked for if planning goes on,
and a failure at the end if it does not. -/
theorem verdict_plans {w : State} {k : Nat} {ask : Ask} {answer : Answer} {v : Verdict}
    (hd : (⟨k, ask⟩, answer) ∈ w.delivered) (hv : ask.verdict answer = some v)
    (hask : ∀ r message, ask = .plan r message → r.planner = .ompl → ∃ path, r.group = [path]) :
    (∀ s, v.next = some s → List.Forall₂ (w.PlanOf k) v.results (ask.request?.toList.map (·.group))) ∧
    (v.next = none → ∃ plans dto gs, v.results = plans ++ [dto] ∧ dto.success = false ∧
      List.Forall₂ (w.PlanOf k) plans gs ∧ gs <+: ask.request?.toList.map (·.group)) := by
  have hplan {r : PlanRequest} {message : PlannerMessage} {dto : PlanResultDTO}
      (ha : ask = .plan r message) (hr : r.toResult answer = some dto) (hd' : dto.success = true) :
      List.Forall₂ (w.PlanOf k) [dto] [r.group] := by
    have hids := (r.of_toResult_success hr hd').2 (hask r message ha)
    rw [ha] at hd
    exact .cons ⟨hd', hids, r, rfl, message, answer, hd, hr⟩ .nil
  cases Ask.judged hv with
  | scene robotState =>
    refine ⟨fun _ _ => .nil, fun hn => ?_⟩
    cases hn
  | noScene dto hd' =>
    refine ⟨fun _ hn => ?_, fun _ => ⟨[], dto, [], rfl, hd', .nil, List.nil_prefix⟩⟩
    cases hn
  | planned r message dto endState hr hd' =>
    refine ⟨fun _ _ => hplan rfl hr hd', fun hn => ?_⟩
    cases hn
  | noEndState r message dto dto' hr hd₁ hd₂ =>
    refine ⟨fun _ hn => ?_, fun _ => ?_⟩
    · cases hn
    · exact ⟨[dto], dto', [r.group], rfl, hd₂, hplan rfl hr hd₁, List.prefix_rfl⟩
  | notPlanned r message dto hr hd' =>
    refine ⟨fun _ hn => ?_, fun _ => ⟨[], dto, [], rfl, hd', .nil, List.nil_prefix⟩⟩
    cases hn

/-! ### The invariant -/

/-- The session with the given groups, begun with nothing outstanding; its sentinel is still to
come and no failure was yielded. -/
inductive Lookahead (groups : List Group) (w : State) : Prop
  | starting (hs : w.starting = true) (hp : w.pending = []) (hw : w.coord.Open [] groups)
      (hy : w.results w.sessionNo = [])
  | alive (ask : Ask) (qs : List PlanResultDTO) (planned gs : List Group) (hs : w.starting = false)
      (hp : w.pending = [⟨w.sessionNo, ask⟩])
      (hask : ∀ r message, ask = .plan r message → r.planner = selectService r.group)
      (hw : w.coord.Open (qs.map .result) gs)
      (hg : groups = planned ++ ask.request?.toList.map (·.group) ++ gs)
      (hplan : List.Forall₂ (w.PlanOf w.sessionNo) (w.results w.sessionNo ++ qs) planned)
  | complete (qs : List PlanResultDTO) (gs : List Group) (hs : w.starting = false)
      (hp : w.pending = []) (hw : w.coord.Open (qs.map .result ++ [.stopIteration]) gs)
      (hplan : List.Forall₂ (w.PlanOf w.sessionNo) (w.results w.sessionNo ++ qs) groups)
  | failed (dto : PlanResultDTO) (qs : List PlanResultDTO) (planned : List Group)
      (hd : dto.success = false)
      (hq : w.coord.planQueue = some (qs.map .result ++ [.result dto, .stopIteration]))
      (he : w.coord.cancelEvent = some true ∨
        w.coord.cancelEvent = some false ∧ w.pending = [] ∧ w.starting = false)
      (hg : planned <+: groups)
      (hplan : List.Forall₂ (w.PlanOf w.sessionNo) (w.results w.sessionNo ++ qs) planned)

namespace Lookahead

variable {groups : List Group} {w : State}

theorem setup (hl : Ledger w) (hp : w.pending = []) : Lookahead groups (w.setup groups) :=
  .starting rfl hp ⟨rfl, rfl, [], rfl⟩ (hl.results_eq_nil (Nat.lt_succ_self _))

theorem sceneRequested (h : Lookahead groups w) (hs : w.starting = true) :
    Lookahead groups w.sceneRequested := by
  cases h with
  | starting _ hp hw hy =>
    refine .alive .scene [] [] groups rfl (by simp [State.sceneRequested, hp]) nofun hw rfl ?_
    rw [List.append_nil]
    exact hy ▸ .nil
  | failed dto qs planned hd hq he hg hplan =>
    have he := he.resolve_right fun he => by simp [hs] at he
    exact .failed dto qs planned hd hq (.inl he) hg hplan
  | alive ask qs planned gs hs' => simp [hs] at hs'
  | complete qs gs hs' => simp [hs] at hs'

theorem event (h : Lookahead groups w) :
    w.coord.cancelEvent = some false ∨ w.coord.cancelEvent = some true := by
  cases h with
  | starting _ _ hw => exact .inl hw.event
  | alive _ _ _ _ _ _ _ hw => exact .inl hw.event
  | complete _ _ _ _ hw => exact .inl hw.event
  | failed dto qs planned hd hq he => exact he.elim .inr fun he => .inl he.1

theorem queue (h : Lookahead groups w) : w.coord.planQueue.isSome = true := by
  cases h with
  | starting _ _ hw => simp [hw.queue]
  | alive _ _ _ _ _ _ _ hw => simp [hw.queue]
  | complete _ _ _ _ hw => simp [hw.queue]
  | failed dto qs planned hd hq he => simp [hq]

theorem yielded (h : Lookahead groups w) :
    ∃ planned, planned <+: groups ∧
      List.Forall₂ (w.PlanOf w.sessionNo) (w.results w.sessionNo) planned := by
  have hleft {qs : List PlanResultDTO} {planned : List Group}
      (h : List.Forall₂ (w.PlanOf w.sessionNo) (w.results w.sessionNo ++ qs) planned)
      (hg : planned <+: groups) : ∃ planned, planned <+: groups ∧
        List.Forall₂ (w.PlanOf w.sessionNo) (w.results w.sessionNo) planned := by
    obtain ⟨planned', hpre, hplan⟩ := forall₂_prefix h
    exact ⟨planned', hpre.trans hg, hplan⟩
  cases h with
  | starting _ _ _ hy => exact ⟨[], List.nil_prefix, hy ▸ .nil⟩
  | alive ask qs planned gs hs hp hask hw hg hplan =>
    exact hleft hplan ⟨_, by rw [hg, List.append_assoc]⟩
  | complete qs gs hs hp hw hplan => exact hleft hplan List.prefix_rfl
  | failed dto qs planned hd hq he hg hplan => exact hleft hplan hg

theorem cancel (h : Lookahead groups w) : Lookahead groups { w with coord := w.coord.cancel } := by
  obtain ⟨planned, hg, hplan⟩ := h.yielded
  refine .failed cancelFailure [] planned rfl ?_ (.inl ?_) hg (by rw [List.append_nil]; exact hplan)
  · obtain ⟨q, hq⟩ := Option.isSome_iff_exists.1 h.queue
    simp [hq]
  · rcases h.event with he | he <;> simp [he]

theorem withConsumer (h : Lookahead groups w) (consumer : Consumer) :
    Lookahead groups { w with consumer := consumer } := by
  cases h with
  | starting hs hp hw hy => exact .starting hs hp hw hy
  | alive ask qs planned gs hs hp hask hw hg hplan =>
    exact .alive ask qs planned gs hs hp hask hw hg hplan
  | complete qs gs hs hp hw hplan => exact .complete qs gs hs hp hw hplan
  | failed dto qs planned hd hq he hg hplan => exact .failed dto qs planned hd hq he hg hplan

theorem ignored (h : Lookahead groups w) {i : Nat} {o : Outstanding} {answer : Answer}
    (hc : w.coord.Closed ∨ w.coord.cancelEvent = some true) :
    Lookahead groups (w.settle i o answer ⟨w.coord, [], []⟩) := by
  have he : w.coord.cancelEvent = some true := by
    refine hc.resolve_left fun hc => ?_
    rcases h.event with he | he <;> simp [hc.event] at he
  have hmono {dto : PlanResultDTO} {g : Group} (hp : w.PlanOf w.sessionNo dto g) :
      (w.settle i o answer ⟨w.coord, [], []⟩).PlanOf w.sessionNo dto g :=
    PlanOf.mono (List.subset_append_left _ _) hp
  cases h with
  | starting _ _ hw => simpa [he] using hw.event
  | alive _ _ _ _ _ _ _ hw => simpa [he] using hw.event
  | complete _ _ _ _ hw => simpa [he] using hw.event
  | failed dto qs planned hd hq _ hg hplan =>
    exact .failed dto qs planned hd hq (.inl he) hg (hplan.imp fun _ _ => hmono)

theorem acted (hgroups : Plannable groups) (h : Lookahead groups w) {i : Nat} {o : Outstanding}
    {answer : Answer} {call : PlanRequest → CallFaults} (ho : w.pending[i]? = some o)
    {q : List QueueItem} {gs : List Group} (hc : w.coord.Open q gs) {v : Verdict}
    (hv : o.ask.verdict answer = some v) {t : Turn} (ht : v.Outcome o.ask.caught call w.coord q gs t) :
    Lookahead groups (w.settle i o answer t) := by
  cases h with
  | starting _ hp => simp [hp] at ho
  | complete _ _ _ hp => simp [hp] at ho
  | failed dto qs planned hd hq he =>
    rcases he with he | ⟨-, hp, -⟩
    · simpa [he] using hc.event
    · simp [hp] at ho
  | alive ask qs planned gs' hs hp hask hw hg hplan =>
    obtain ⟨rfl, rfl⟩ := eq_of_pending_singleton hp ho
    obtain ⟨rfl, rfl⟩ := hw.unique hc
    set w' := w.settle 0 ⟨w.sessionNo, ask⟩ answer t with hw'
    have hpend : w'.pending = t.issued.map fun e => ⟨w.sessionNo, .plan e.1 e.2⟩ := by
      simp [hw', State.settle, hp]
    have hroute (r : PlanRequest) (message : PlannerMessage) (hr : ask = .plan r message)
        (ho : r.planner = .ompl) : ∃ path, r.group = [path] :=
      hgroups.single _ (by simp [hg, hr, Ask.request?]) (hask r message hr ▸ ho)
    obtain ⟨hgoes, hstops⟩ := verdict_plans (w := w') (k := w.sessionNo) (by simp [hw', State.settle])
      hv hroute
    have hold : List.Forall₂ (w'.PlanOf w.sessionNo) (w.results w.sessionNo ++ qs) planned :=
      hplan.imp fun _ _ => PlanOf.mono (List.subset_append_left _ _)
    have hnew {plans : List PlanResultDTO} {gs : List Group}
        (h : List.Forall₂ (w'.PlanOf w.sessionNo) plans gs) :
        List.Forall₂ (w'.PlanOf w'.sessionNo) (w'.results w'.sessionNo ++ (qs ++ plans))
          (planned ++ gs) := by
      rw [← List.append_assoc]
      exact List.rel_append hold h
    cases ht with
    | stopped hn =>
      obtain ⟨plans, dto, gs, hres, hd, hplans, hpre⟩ := hstops hn
      refine .failed dto (qs ++ plans) (planned ++ gs) hd ?_ (.inr ⟨hw.event, hpend, hs⟩) ?_
        (hnew hplans)
      · simp [hw', State.settle, hres]
      · rw [hg, List.append_assoc]
        exact (List.prefix_append_right_inj _).2 (hpre.trans (List.prefix_append _ _))
    | finished startState s hn hgs =>
      obtain rfl : gs' = [] := by
        cases gs' with
        | nil => rfl
        | cons g gs' => exact absurd hgs (hgroups.ne_nil g (by simp [hg]))
      rw [List.append_nil] at hg
      refine .complete (qs ++ v.results) s.groups hs hpend ⟨hw.event, ?_, s.currentGroup, rfl⟩
        (hg ▸ hnew (hgoes _ hn))
      simp [hw', State.settle]
    | issued r rest message hn hgs hne hr ho =>
      refine .alive (.plan r message) (qs ++ v.results) _ rest hs hpend ?_
        ⟨hw.event, by simp [hw', State.settle], r.group, rfl⟩ ?_ (hnew (hgoes _ hn))
      · rintro _ _ ⟨⟩
        exact hr
      · simp [hg, hgs, Ask.request?]
    | failed r rest dto hn hgs hne hr ho =>
      refine .failed dto (qs ++ v.results) _ (outcome_error (by simp) ho) ?_
        (.inr ⟨hw.event, hpend, hs⟩) ⟨gs', hg.symm⟩ (hnew (hgoes _ hn))
      simp [hw', State.settle]

theorem deliver (hgroups : Plannable groups) (hcoh : Coherent w.coord) (h : Lookahead groups w)
    {w' : State} {i : Nat} {answer : Answer} {call : PlanRequest → CallFaults}
    (hs : step w (.deliver i answer call) = some w') : Lookahead groups w' := by
  cases step_cases hcoh hs with
  | ignored i answer call o ho hc => exact h.ignored hc
  | acted i answer call o ho q gs hc v hv t ht => exact h.acted hgroups ho hc hv ht

theorem gotResult (h : Lookahead groups w) {dto : PlanResultDTO} {q : List QueueItem}
    (hq : w.coord.planQueue = some (.result dto :: q)) (hdto : dto.success = true)
    (consumer : Consumer) :
    Lookahead groups { w with
      coord := { w.coord with planQueue := some q }
      consumer := consumer
      yielded := w.yielded ++ [(w.sessionNo, dto)] } := by
  have hy (qs : List PlanResultDTO) : State.results { w with
      coord := { w.coord with planQueue := some q }
      consumer := consumer
      yielded := w.yielded ++ [(w.sessionNo, dto)] } w.sessionNo ++ qs =
        w.results w.sessionNo ++ dto :: qs := by
    simp [State.results]
  cases h with
  | starting _ _ hw => simpa using hw.queue.symm.trans hq
  | alive ask qs planned gs hs hp hask hw hg hplan =>
    have hqueue := hw.queue.symm.trans hq
    rw [← List.append_nil (qs.map _)] at hqueue
    obtain ⟨qs', rfl, rfl⟩ := map_result_append_eq_cons hqueue (by simp)
    exact .alive ask qs' planned gs hs hp hask ⟨hw.event, by simp, hw.session⟩ hg (hy qs' ▸ hplan)
  | complete qs gs hs hp hw hplan =>
    obtain ⟨qs', rfl, rfl⟩ := map_result_append_eq_cons (hw.queue.symm.trans hq) (by simp)
    exact .complete qs' gs hs hp ⟨hw.event, rfl, hw.session⟩ (hy qs' ▸ hplan)
  | failed d qs planned hd hq' he hg hplan =>
    have hne : d ≠ dto := by
      rintro rfl
      simp [hd] at hdto
    obtain ⟨qs', rfl, rfl⟩ := map_result_append_eq_cons (hq'.symm.trans hq) (by simp [hne])
    exact .failed d qs' planned hd rfl he hg (hy qs' ▸ hplan)

theorem gotSentinel (h : Lookahead groups w) {q : List QueueItem}
    (hq : w.coord.planQueue = some (.stopIteration :: q)) :
    w.coord.cancelEvent = some false ∧
      List.Forall₂ (w.PlanOf w.sessionNo) (w.results w.sessionNo) groups := by
  cases h with
  | starting _ _ hw => simpa using hw.queue.symm.trans hq
  | alive ask qs planned gs hs hp hask hw =>
    have hqs := hw.queue.symm.trans hq
    cases qs <;> simp at hqs
  | complete qs gs hs hp hw hplan =>
    have hqs := hw.queue.symm.trans hq
    cases qs with
    | nil => exact ⟨hw.event, by rwa [List.append_nil] at hplan⟩
    | cons dto qs => simp at hqs
  | failed dto qs planned hd hq' =>
    have hqs := hq'.symm.trans hq
    cases qs <;> simp at hqs

end Lookahead

end Planning
end MovementController
