import MovementController.Placement

/-!
# The result and the feedback tell the truth

A goal planned with nothing outstanding leaves a log made of the reports of its first groups, in
order, and at most one unfinished one: what was completed was planned for that group, sent to MoveIt
trajectory by trajectory and answered with success.
-/

namespace MovementController
open Planning (Lookahead)

/-- The trajectories of the motion plan, none if there is no plan. -/
def PlanResultDTO.plannedTrajectories (dto : PlanResultDTO) : List RobotTrajectory :=
  match dto.motionPlan with
  | some response => response.plannedTrajectories
  | none => []

namespace Execution

theorem trajectories_eq (dto : PlanResultDTO) : trajectories dto = dto.plannedTrajectories := by
  unfold trajectories PlanResultDTO.plannedTrajectories
  cases dto.motionPlan <;> rfl

/-! ### Reports -/

/-- The two feedback messages about a group. -/
def executing (ids : List String) : ExecuteTrajectory.Feedback := ⟨"executing", ids⟩

def completed (ids : List String) : ExecuteTrajectory.Feedback := ⟨"completed", ids⟩

/-- The exchange with MoveIt about the trajectories `ts`, each sent and answered with status 4 and
`SUCCESS`. -/
def exchanged (ts : List RobotTrajectory) : List Event :=
  ts.flatMap fun t => [.sent t, .answered (.result 4 (some MoveItErrorCodes.SUCCESS))]

/-- The log of a group that was planned as `dto` and completed. -/
def reported (dto : PlanResultDTO) : List Event :=
  .feedback (executing dto.pathIds) :: exchanged dto.plannedTrajectories ++
    [.feedback (completed dto.pathIds)]

/-- The log of a group that was not completed. -/
inductive Unfinished : List Event → Prop
  | none : Unfinished []
  | begun (dto : PlanResultDTO) (ts : List RobotTrajectory) (h : ts <+: dto.plannedTrajectories) :
      Unfinished (.feedback (executing dto.pathIds) :: exchanged ts)
  | sending (dto : PlanResultDTO) (ts : List RobotTrajectory) (t : RobotTrajectory)
      (h : ts ++ [t] <+: dto.plannedTrajectories) :
      Unfinished (.feedback (executing dto.pathIds) :: exchanged ts ++ [.sent t])
  | answered (dto : PlanResultDTO) (ts : List RobotTrajectory) (t : RobotTrajectory)
      (answer : MoveItAnswer) (h : ts ++ [t] <+: dto.plannedTrajectories) :
      Unfinished
        (.feedback (executing dto.pathIds) :: exchanged ts ++ [.sent t, .answered answer])

def Event.feedback? : Event → Option ExecuteTrajectory.Feedback
  | .feedback fb => some fb
  | _ => none

def feedbackPair (ids : List String) : List ExecuteTrajectory.Feedback :=
  [executing ids, completed ids]

theorem exchanged_append (ts us : List RobotTrajectory) :
    exchanged (ts ++ us) = exchanged ts ++ exchanged us := by
  simp [exchanged]

theorem feedback_exchanged (ts : List RobotTrajectory) :
    (exchanged ts).filterMap Event.feedback? = [] := by
  induction ts with
  | nil => rfl
  | cons t ts ih => rw [← List.singleton_append, exchanged_append, List.filterMap_append, ih]; rfl

theorem feedback_reported (dto : PlanResultDTO) :
    (reported dto).filterMap Event.feedback? = feedbackPair dto.pathIds := by
  simp [reported, feedback_exchanged, Event.feedback?, feedbackPair]

theorem Unfinished.feedback {part : List Event} (h : Unfinished part) :
    part.filterMap Event.feedback? = [] ∨
      ∃ ids, part.filterMap Event.feedback? = [executing ids] := by
  cases h with
  | none => exact .inl rfl
  | begun dto => exact .inr ⟨dto.pathIds, by simp [feedback_exchanged, Event.feedback?]⟩
  | sending dto => exact .inr ⟨dto.pathIds, by simp [feedback_exchanged, Event.feedback?]⟩
  | answered dto => exact .inr ⟨dto.pathIds, by simp [feedback_exchanged, Event.feedback?]⟩

/-- The result `r` and the log of `g` account for the plans `plans` of the groups `done`, and for
the unfinished part `part`. -/
structure Truthful (p : Planning.State) (g : Goal) (r : ExecuteTrajectory.Result)
    (plans : List PlanResultDTO) (done : List Group) (part : List Event) : Prop where
  groups : done <+: g.goal.groups
  planned : List.Forall₂ (p.PlanOf g.session) plans done
  completed : r.trajectoryPathsCompleted = done.flatMap Group.pathIds
  feedback : g.log.filterMap Event.feedback? =
    done.flatMap (fun group => feedbackPair group.pathIds) ++ part.filterMap Event.feedback?
  unmatched : part.filterMap Event.feedback? = [] ∨
    ∃ ids, part.filterMap Event.feedback? = [executing ids]
  executed : g.log = plans.flatMap reported ++ part
  success : r.success = true → r.trajectoryPathsCompleted = g.goal.paths.map (·.pathId)

/-! ### The invariant -/

structure Report (g : Goal) (plans : List PlanResultDTO) (part : List Event) : Prop where
  ids : g.completedIds = plans.flatMap (·.pathIds)
  log : g.log = plans.flatMap reported ++ part

/-- Where the execution of a goal stands, if its session began with nothing outstanding. -/
inductive Honest (p : Planning.State) (g : Goal) : Prop
  | before (hpc : g.pc = .accepted ∨ g.pc = .ready) (hr : Report g [] [])
  | looping (hpc : g.pc = .requesting ∨ g.pc = .iterating) (hl : Lookahead g.goal.groups p)
      (hr : Report g (p.results p.sessionNo) [])
  | holding (dto : PlanResultDTO) (plans : List PlanResultDTO)
      (hpc : g.pc = .planned dto ∨ g.pc = .approved dto) (hl : Lookahead g.goal.groups p)
      (hy : p.results p.sessionNo = plans ++ [dto]) (hr : Report g plans [])
  | rejected (dto : PlanResultDTO) (plans : List PlanResultDTO) (done : List Group)
      (hpc : g.pc = .planned dto) (hd : dto.success = false) (hr : Report g plans [])
      (hg : done <+: g.goal.groups) (hplan : List.Forall₂ (p.PlanOf g.session) plans done)
  | executing (dto : PlanResultDTO) (plans : List PlanResultDTO) (sent rest : List RobotTrajectory)
      (hpc : g.pc = .executing dto rest) (ht : dto.plannedTrajectories = sent ++ rest)
      (hl : Lookahead g.goal.groups p) (hy : p.results p.sessionNo = plans ++ [dto])
      (hr : Report g plans (.feedback (executing dto.pathIds) :: exchanged sent))
  | waiting (dto : PlanResultDTO) (plans : List PlanResultDTO) (sent : List RobotTrajectory)
      (t : RobotTrajectory) (rest : List RobotTrajectory) (hpc : g.pc = .waiting dto rest)
      (ht : dto.plannedTrajectories = sent ++ t :: rest) (hl : Lookahead g.goal.groups p)
      (hy : p.results p.sessionNo = plans ++ [dto])
      (hr : Report g plans (.feedback (executing dto.pathIds) :: exchanged sent ++ [.sent t]))
  | finishing (plans : List PlanResultDTO) (hpc : g.pc = .finishing) (hr : Report g plans [])
      (hplan : List.Forall₂ (p.PlanOf g.session) plans g.goal.groups)
  | failing (errorMessage : String) (plans : List PlanResultDTO) (done : List Group)
      (part : List Event) (hpc : g.pc = .failing errorMessage) (hr : Report g plans part)
      (hu : Unfinished part) (hg : done <+: g.goal.groups)
      (hplan : List.Forall₂ (p.PlanOf g.session) plans done)

/-- What an honest goal whose thread stands at the given place has to show. -/
def Goal.Account (p : Planning.State) (g : Goal) : Pc → Prop
  | .accepted | .ready => Report g [] []
  | .requesting | .iterating => Lookahead g.goal.groups p ∧ Report g (p.results p.sessionNo) []
  | .planned dto => dto.success = true → ∃ plans, Lookahead g.goal.groups p ∧
      p.results p.sessionNo = plans ++ [dto] ∧ Report g plans []
  | .approved dto => ∃ plans, Lookahead g.goal.groups p ∧
      p.results p.sessionNo = plans ++ [dto] ∧ Report g plans []
  | .executing dto rest => ∃ plans sent, Lookahead g.goal.groups p ∧
      p.results p.sessionNo = plans ++ [dto] ∧ dto.plannedTrajectories = sent ++ rest ∧
      Report g plans (.feedback (executing dto.pathIds) :: exchanged sent)
  | .waiting dto rest => ∃ plans sent t, Lookahead g.goal.groups p ∧
      p.results p.sessionNo = plans ++ [dto] ∧ dto.plannedTrajectories = sent ++ t :: rest ∧
      Report g plans (.feedback (executing dto.pathIds) :: exchanged sent ++ [.sent t])
  | .finishing => ∃ plans, Report g plans [] ∧
      List.Forall₂ (p.PlanOf g.session) plans g.goal.groups
  | .failing _ => ∃ plans done part, Report g plans part ∧ Unfinished part ∧
      done <+: g.goal.groups ∧ List.Forall₂ (p.PlanOf g.session) plans done

theorem Goal.Placed.planned {p : Planning.State} {g : Goal} (hp : g.Placed p)
    (hl : Lookahead g.goal.groups p) (hpc : g.pc.planning = true) {plans rest : List PlanResultDTO}
    (hy : p.results p.sessionNo = plans ++ rest) :
    ∃ done, done <+: g.goal.groups ∧ List.Forall₂ (p.PlanOf g.session) plans done := by
  obtain ⟨planned, hg, hplan⟩ := hl.yielded
  rw [hy, ← hp.planning hpc] at hplan
  obtain ⟨done, hdone, hplan⟩ := Planning.forall₂_prefix hplan
  exact ⟨done, hdone.trans hg, hplan⟩

namespace Honest

variable {p p' : Planning.State} {g g' : Goal}

theorem mono (h : Honest p g) (hg : g'.pc = g.pc ∧ g'.goal = g.goal ∧ g'.session = g.session)
    (hr : g'.completedIds = g.completedIds ∧ g'.log = g.log)
    (hl : Lookahead g.goal.groups p → Lookahead g.goal.groups p')
    (hy : p'.results p'.sessionNo = p.results p.sessionNo) (hd : p.delivered ⊆ p'.delivered) :
    Honest p' g' := by
  obtain ⟨hpc, hgoal, hsession⟩ := hg
  have hrep {plans : List PlanResultDTO} {part : List Event} (h : Report g plans part) :
      Report g' plans part :=
    ⟨hr.1.trans h.ids, hr.2.trans h.log⟩
  have hplans {plans : List PlanResultDTO} {done : List Group}
      (h : List.Forall₂ (p.PlanOf g.session) plans done) :
      List.Forall₂ (p'.PlanOf g'.session) plans done := by
    rw [hsession]
    exact h.imp fun _ _ => Planning.PlanOf.mono hd
  cases h with
  | before hpc' hr => exact .before (hpc ▸ hpc') (hrep hr)
  | looping hpc' hl' hr => exact .looping (hpc ▸ hpc') (hgoal ▸ hl hl') (hy ▸ hrep hr)
  | holding dto plans hpc' hl' hy' hr =>
    exact .holding dto plans (hpc ▸ hpc') (hgoal ▸ hl hl') (hy.trans hy') (hrep hr)
  | rejected dto plans done hpc' hd hr hg hplan =>
    exact .rejected dto plans done (hpc ▸ hpc') hd (hrep hr) (hgoal ▸ hg) (hplans hplan)
  | executing dto plans sent rest hpc' ht hl' hy' hr =>
    exact .executing dto plans sent rest (hpc ▸ hpc') ht (hgoal ▸ hl hl') (hy.trans hy') (hrep hr)
  | waiting dto plans sent t rest hpc' ht hl' hy' hr =>
    exact .waiting dto plans sent t rest (hpc ▸ hpc') ht (hgoal ▸ hl hl') (hy.trans hy') (hrep hr)
  | finishing plans hpc' hr hplan => exact .finishing plans (hpc ▸ hpc') (hrep hr) (hgoal ▸ hplans hplan)
  | failing e plans done part hpc' hr hu hg hplan =>
    exact .failing e plans done part (hpc ▸ hpc') (hrep hr) hu (hgoal ▸ hg) (hplans hplan)

/-- The cases of `Honest` by the place of the thread. -/
theorem account (h : Honest p g) {pc : Pc} (hpc : g.pc = pc) : g.Account p pc := by
  subst hpc
  cases h with
  | before hpc hr => rcases hpc with hpc | hpc <;> rw [hpc] <;> exact hr
  | looping hpc hl hr => rcases hpc with hpc | hpc <;> rw [hpc] <;> exact ⟨hl, hr⟩
  | holding dto plans hpc hl hy hr =>
    rcases hpc with hpc | hpc <;> rw [hpc]
    · exact fun _ => ⟨plans, hl, hy, hr⟩
    · exact ⟨plans, hl, hy, hr⟩
  | rejected dto plans done hpc hd =>
    rw [hpc]
    exact fun hs => absurd hs (by simp [hd])
  | executing dto plans sent rest hpc ht hl hy hr =>
    rw [hpc]
    exact ⟨plans, sent, hl, hy, ht, hr⟩
  | waiting dto plans sent t rest hpc ht hl hy hr =>
    rw [hpc]
    exact ⟨plans, sent, t, hl, hy, ht, hr⟩
  | finishing plans hpc hr hplan =>
    rw [hpc]
    exact ⟨plans, hr, hplan⟩
  | failing e plans done part hpc hr hu hg hplan =>
    rw [hpc]
    exact ⟨plans, done, part, hr, hu, hg, hplan⟩

theorem told (h : Honest p g) (hp : g.Placed p) : ∃ plans done part, Report g plans part ∧
    Unfinished part ∧ done <+: g.goal.groups ∧ List.Forall₂ (p.PlanOf g.session) plans done := by
  cases h with
  | before _ hr => exact ⟨[], [], [], hr, .none, List.nil_prefix, .nil⟩
  | looping hpc hl hr =>
    obtain ⟨done, hg, hplan⟩ := hp.planned hl (by rcases hpc with hpc | hpc <;> rw [hpc] <;> rfl)
      (List.append_nil _).symm
    exact ⟨_, done, [], hr, .none, hg, hplan⟩
  | holding dto plans hpc hl hy hr =>
    obtain ⟨done, hg, hplan⟩ := hp.planned hl (by rcases hpc with hpc | hpc <;> rw [hpc] <;> rfl) hy
    exact ⟨plans, done, [], hr, .none, hg, hplan⟩
  | rejected dto plans done hpc hd hr hg hplan => exact ⟨plans, done, [], hr, .none, hg, hplan⟩
  | executing dto plans sent rest hpc ht hl hy hr =>
    obtain ⟨done, hg, hplan⟩ := hp.planned hl (by rw [hpc]; rfl) hy
    exact ⟨plans, done, _, hr, .begun dto sent ⟨rest, ht.symm⟩, hg, hplan⟩
  | waiting dto plans sent t rest hpc ht hl hy hr =>
    obtain ⟨done, hg, hplan⟩ := hp.planned hl (by rw [hpc]; rfl) hy
    exact ⟨plans, done, _, hr, .sending dto sent t ⟨rest, by simp [ht]⟩, hg, hplan⟩
  | finishing plans hpc hr hplan => exact ⟨plans, _, [], hr, .none, List.prefix_rfl, hplan⟩
  | failing e plans done part hpc hr hu hg hplan => exact ⟨plans, done, part, hr, hu, hg, hplan⟩

theorem halt (h : Honest p g) (hp : g.Placed p) (hd : p.delivered ⊆ p'.delivered)
    (errorMessage : String) : Honest p' (g.goto (.failing errorMessage)) := by
  obtain ⟨plans, done, part, hr, hu, hg, hplan⟩ := h.told hp
  exact .failing errorMessage plans done part rfl ⟨hr.ids, hr.log⟩ hu hg
    (hplan.imp fun _ _ => Planning.PlanOf.mono hd)

theorem cancel (h : Honest p g) :
    Honest { p with coord := p.coord.cancel } { g with cancelRequested := true } :=
  h.mono ⟨rfl, rfl, rfl⟩ ⟨rfl, rfl⟩ (fun hl => hl.cancel) rfl (fun _ h => h)

theorem deliver (hc : Planning.Coherent p.coord) (h : Honest p g) {i : Nat} {answer : Answer}
    {call : PlanRequest → CallFaults} (hs : Planning.step p (.deliver i answer call) = some p') :
    Honest p' g := by
  have hsame : p'.results p'.sessionNo = p.results p.sessionNo ∧ p.delivered ⊆ p'.delivered := by
    cases Planning.step_cases hc hs <;> exact ⟨rfl, List.subset_append_left _ _⟩
  exact h.mono ⟨rfl, rfl, rfl⟩ ⟨rfl, rfl⟩ (fun hl => hl.deliver g.goal.plannable hc hs) hsame.1 hsame.2

theorem act (hc : Planning.Coherent p.coord) (hl : Planning.Ledger p) (hp : g.Placed p)
    (h : (g.pc = .accepted ∨ g.pc = .ready) ∨ g.clean = true → Honest p g) {a : Action}
    (ha : g.Act p a p' g') (hrun : g'.result = none)
    (hclean : (g'.pc = .accepted ∨ g'.pc = .ready) ∨ g'.clean = true) : Honest p' g' := by
  have hreached (hpc : g'.pc.begun = true) (hc : g'.clean = g.clean) : Honest p g :=
    h (.inr (hc ▸ hclean.resolve_left (Pc.not_before hpc)))
  cases ha with
  | started hpc =>
    have hr : Report g [] [] := (h (.inl (.inl hpc))).account hpc
    exact .before (.inr rfl) ⟨hr.ids, hr.log⟩
  | halted a e hpc => exact (hreached rfl rfl).halt hp (fun _ h => h) e
  | planAll hpc q hs =>
    have hpend : p.pending = [] := by simpa using hclean
    have hr : Report g [] [] := (h (.inl (.inr hpc))).account hpc
    cases Planning.step_cases hc hs with
    | planAll groups =>
      have hnil := hl.results_eq_nil (Nat.lt_succ_self p.sessionNo)
      refine .looping (.inl rfl) (.setup hl hpend) ⟨?_, ?_⟩
      · exact hr.ids.trans (congrArg (·.flatMap (·.pathIds)) hnil.symm)
      · exact hr.log.trans (congrArg (·.flatMap reported ++ []) hnil.symm)
  | requested hpc hclient q hs =>
    obtain ⟨hlook, hr⟩ := (hreached rfl rfl).account hpc
    cases Planning.step_cases hc hs with
    | sceneRequested hstart => exact .looping (.inr rfl) (hlook.sceneRequested hstart) ⟨hr.ids, hr.log⟩
    | sceneUnavailable _ _ hun => cases hun hclient
  | notRequested hpc service q hs e =>
    exact (hreached rfl rfl).halt hp (Planning.step_cases hc hs).delivered_subset e
  | iterate hpc q hs =>
    cases Planning.step_cases hc hs with
    | iterate =>
      exact (h hclean).mono ⟨rfl, rfl, rfl⟩ ⟨rfl, rfl⟩ (fun hl => hl.withConsumer _) rfl (fun _ h => h)
  | polled hpc q hs hw =>
    cases Planning.step_cases hc hs with
    | polled =>
      exact (h hclean).mono ⟨rfl, rfl, rfl⟩ ⟨rfl, rfl⟩ (fun hl => hl.withConsumer _) rfl (fun _ h => h)
    | pollFailed => cases hw
  | pollFailed hpc q hs hw =>
    obtain ⟨hlook, hr⟩ := (hreached rfl rfl).account hpc
    cases Planning.step_cases hc hs with
    | polled => exact absurd rfl hw
    | pollFailed _ hq => simpa [hq] using hlook.queue
  | gotResult hpc dto hn q hs =>
    obtain ⟨hw, rest, hq⟩ := hp.queue_of_next hpc hn
    obtain ⟨hlook, hr⟩ := (hreached rfl rfl).account hpc
    cases Planning.step_cases hc hs with
    | gotResult dto' q' hw' hq' =>
      obtain ⟨rfl, rfl⟩ : dto = dto' ∧ rest = q' := by simpa [hq] using hq'
      cases hd : dto.success with
      | true =>
        exact .holding dto (p.results p.sessionNo) (.inl rfl) (hlook.gotResult hq' hd _)
          (by simp [Planning.State.results]) ⟨hr.ids, hr.log⟩
      | false =>
        obtain ⟨done, hg, hplan⟩ := hlook.yielded
        refine .rejected dto _ done rfl hd ⟨hr.ids, hr.log⟩ hg ?_
        rw [← hp.planning (by rw [hpc]; rfl)] at hplan ⊢
        exact hplan
    | gotSentinel q' hw' hq' => simp [hq] at hq'
    | gotStaleResult dto q' hw' => simp [hw] at hw'
    | gotStaleSentinel q' hw' => simp [hw] at hw'
  | gotSentinel hpc hn q hs =>
    obtain ⟨hw, rest, hq⟩ := hp.queue_of_next hpc hn
    obtain ⟨hlook, hr⟩ := (hreached rfl rfl).account hpc
    cases Planning.step_cases hc hs with
    | gotResult dto q' hw' hq' => simp [hq] at hq'
    | gotSentinel q' hw' hq' =>
      refine .finishing _ rfl ⟨hr.ids, hr.log⟩ ?_
      have hplan := (hlook.gotSentinel hq).2
      rw [← hp.planning (by rw [hpc]; rfl)] at hplan ⊢
      exact hplan
    | gotStaleResult dto q' hw' => simp [hw] at hw'
    | gotStaleSentinel q' hw' => simp [hw] at hw'
  | approved dto hpc hcan hd =>
    obtain ⟨plans, hlook, hy, hr⟩ := (hreached rfl rfl).account hpc hd
    exact .holding dto plans (.inr rfl) hlook hy ⟨hr.ids, hr.log⟩
  | announced dto hpc =>
    obtain ⟨plans, hlook, hy, hr⟩ := (hreached rfl rfl).account hpc
    refine .executing dto plans [] _ rfl (trajectories_eq dto).symm hlook hy ⟨hr.ids, ?_⟩
    simp [Goal.emit, Goal.goto, hr.log, exchanged]
    rfl
  | sent dto t rest hpc hcan =>
    obtain ⟨plans, sent, hlook, hy, ht, hr⟩ := (hreached rfl rfl).account hpc
    refine .waiting dto plans sent t rest rfl ht hlook hy ⟨hr.ids, ?_⟩
    simp [Goal.emit, Goal.goto, hr.log]
  | answered dto rest hpc =>
    obtain ⟨plans, sent, t, hlook, hy, ht, hr⟩ := (hreached rfl rfl).account hpc
    refine .executing dto plans (sent ++ [t]) rest rfl (by simp [ht]) hlook hy ⟨hr.ids, ?_⟩
    simp [Goal.emit, Goal.goto, hr.log, exchanged, MoveItAnswer.succeeded]
  | answerFailed dto rest hpc answer q hq e =>
    have hd : p.delivered ⊆ p'.delivered := by rcases hq with rfl | rfl <;> exact fun _ h => h
    obtain ⟨plans, sent, t, hlook, hy, ht, hr⟩ := (hreached rfl rfl).account hpc
    obtain ⟨done, hg, hplan⟩ := hp.planned hlook (by rw [hpc]; rfl) hy
    refine .failing e plans done _ rfl ⟨hr.ids, ?_⟩
      (.answered dto sent t answer ⟨rest, by simp [ht]⟩) hg
      (hplan.imp fun _ _ => Planning.PlanOf.mono hd)
    simp [Goal.emit, Goal.goto, hr.log]
  | completed dto hpc =>
    obtain ⟨plans, sent, hlook, hy, ht, hr⟩ := (hreached rfl rfl).account hpc
    rw [List.append_nil] at ht
    refine .looping (.inr rfl) hlook (hy ▸ ⟨?_, ?_⟩)
    · simp [hr.ids]
    · simp [Goal.emit, Goal.goto, hr.log, reported, ht]
      rfl
  | succeeded hpc => cases hrun
  | failed e hpc => cases hrun

end Honest

/-! ### The result -/

theorem flatMap_eq_of_forall₂ {α β γ : Type} {R : α → β → Prop} {f : α → List γ} {g : β → List γ}
    {as : List α} {bs : List β} (h : List.Forall₂ R as bs) (hR : ∀ a b, R a b → f a = g b) :
    as.flatMap f = bs.flatMap g := by
  induction h with
  | nil => rfl
  | cons hab _ ih => rw [List.flatMap_cons, List.flatMap_cons, hR _ _ hab, ih]

variable {p p' : Planning.State} {g g' : Goal}

theorem Truthful.mono {r : ExecuteTrajectory.Result} {plans : List PlanResultDTO} {done : List Group}
    {part : List Event} (hd : p.delivered ⊆ p'.delivered) (h : Truthful p g r plans done part) :
    Truthful p' g r plans done part :=
  { h with planned := h.planned.imp fun _ _ => Planning.PlanOf.mono hd }

theorem Report.truthful {plans : List PlanResultDTO} {done : List Group} {part : List Event}
    (h : Report g plans part) (hu : Unfinished part) (hg : done <+: g.goal.groups)
    (hplan : List.Forall₂ (p.PlanOf g.session) plans done) (r : ExecuteTrajectory.Result)
    (hr : r.trajectoryPathsCompleted = g.completedIds)
    (hs : r.success = true → done = g.goal.groups) (result : Option ExecuteTrajectory.Result) :
    Truthful p { g with result := result } r plans done part := by
  have hids : g.completedIds = done.flatMap Group.pathIds :=
    h.ids.trans (flatMap_eq_of_forall₂ hplan fun _ _ hp => hp.2.1)
  refine ⟨hg, hplan, hr.trans hids, ?_, hu.feedback, h.log, fun hsuccess => ?_⟩
  · simp only [h.log, List.filterMap_append, List.filterMap_flatMap, feedback_reported]
    rw [flatMap_eq_of_forall₂ hplan fun _ _ hp => by rw [hp.2.1]]
  · rw [hr, hids, hs hsuccess, ← g.goal.flatten_groups, List.map_flatten, List.flatMap]
    rfl

theorem Honest.returned (h : g.clean = true → Honest p g) {a : Action} (ha : g.Act p a p' g')
    (hrun : g.result = none) (hclean : g'.clean = true) {r : ExecuteTrajectory.Result}
    (hr : g'.result = some r) : ∃ plans done part, Truthful p' g' r plans done part := by
  cases ha with
  | succeeded hpc =>
    obtain ⟨plans, hrep, hplan⟩ := (h hclean).account hpc
    cases hr
    exact ⟨plans, _, [], hrep.truthful .none List.prefix_rfl hplan _ rfl (fun _ => rfl) _⟩
  | failed e hpc =>
    obtain ⟨plans, done, part, hrep, hu, hg, hplan⟩ := (h hclean).account hpc
    cases hr
    rw [Planning.getD_abandon]
    refine ⟨plans, done, part, .mono (p := p) (fun _ hd => hd) ?_⟩
    exact hrep.truthful hu hg hplan _ rfl (fun hs => by cases hs) _
  | _ => simp_all [Goal.goto, Goal.emit]

/-- The invariant of the node: the current goal is honest, the finished ones were. -/
structure Faithful (w : State) : Prop where
  current : ∀ g ∈ w.current, (g.pc = .accepted ∨ g.pc = .ready) ∨ g.clean = true → Honest w.plan g
  finished : ∀ g ∈ w.finished, g.clean = true → ∀ r ∈ g.result,
    ∃ plans done part, Truthful w.plan g r plans done part

theorem Step.delivered_subset {w w' : State} {l : Label} (hw : Sound w) (h : Step w l w') :
    w.plan.delivered ⊆ w'.plan.delivered := by
  rcases h.plan with hp | ⟨l, hl⟩
  · exact hp ▸ fun _ h => h
  · exact (Planning.step_cases hw.coherent hl).delivered_subset

theorem Faithful.step {w w' : State} {l : Label} (hw : Sound w) (h : Faithful w)
    (hs : Execution.step w l = some w') : Faithful w' := by
  have hstep := step_cases hs
  have hfinished : ∀ g ∈ w.finished, g.clean = true → ∀ r ∈ g.result,
      ∃ plans done part, Truthful w'.plan g r plans done part := fun g hg hc r hr =>
    let ⟨plans, done, part, ht⟩ := h.finished g hg hc r hr
    ⟨plans, done, part, ht.mono (hstep.delivered_subset hw)⟩
  cases hstep with
  | accept goal hc =>
    refine ⟨?_, hfinished⟩
    rintro _ ⟨⟩ -
    exact .before (.inl rfl) ⟨rfl, rfl⟩
  | cancel g hg =>
    refine ⟨?_, hfinished⟩
    rintro _ ⟨⟩ hc
    exact (h.current g hg hc).cancel
  | deliver i answer call p hd =>
    exact ⟨fun g hg hc => (h.current g hg hc).deliver hw.coherent hd, hfinished⟩
  | thread a g hg p g' ha =>
    rw [State.advance_plan] at hfinished
    rcases w.advance_cases p g' with ⟨hr, heq⟩ | ⟨hr, heq⟩ <;> rw [heq]
    · refine ⟨?_, hfinished⟩
      rintro _ ⟨⟩ hc
      exact .act hw.coherent hw.ledger (hw.current g hg) (h.current g hg) ha hr hc
    · refine ⟨(fun _ hk => by cases hk), fun k hk => ?_⟩
      rcases List.mem_append.1 hk with hk | hk
      · exact hfinished k hk
      · obtain rfl := List.mem_singleton.1 hk
        intro hc r hr
        exact Honest.returned (fun hc => h.current g hg (.inr hc)) ha (hw.current g hg).running hc hr

theorem Faithful.of_reaches {c : PlanningCoordinator} {w : State}
    (h : Lts.Reaches Execution.step (init c) w) : Faithful w :=
  (h.invariant (I := fun w => Sound w ∧ Faithful w) ⟨.init c, by rintro _ ⟨⟩, by rintro _ ⟨⟩⟩
    fun hw _ hs => ⟨hw.1.step hs, hw.2.step hw.1 hs⟩).2

/-- Whatever the planners and MoveIt answer and whenever the goal is cancelled, the result of a goal
that was planned with nothing outstanding and its log tell the truth. -/
theorem result_truthful (c : PlanningCoordinator) (w : State) (h : Lts.Reaches step (init c) w)
    (g : Goal) (hg : g ∈ w.finished) (hclean : g.clean = true) (r : ExecuteTrajectory.Result)
    (hr : g.result = some r) : ∃ plans done part, Truthful w.plan g r plans done part :=
  (Faithful.of_reaches h).finished g hg hclean r hr

/-- A goal of one path, up to the request for its plan. -/
def beginFirst : List Label :=
  [.accept firstGoal, .thread (.start true), .thread .planAll, .thread (.requestScene .available),
    .thread .iterate, .thread .poll, .deliver 0 (.scene (.value (some {}))) fun _ => {}]

/-- A LIN path and a PTP path: two groups, one for each planner. -/
def mixedGoal : TrajectoryGoalDTO := ⟨[Planning.firstPath, Planning.turnPath], by decide, by decide⟩

/-- The thread from the next item of the queue to the goal it sends to MoveIt. -/
def takeAndSend : List Label :=
  [.thread .get, .thread .check, .thread (.announce none), .thread (.send true none)]

/-- The second group is planned while the first is executed. -/
def executeMixed : List Label :=
  [.accept mixedGoal, .thread (.start true), .thread .planAll, .thread (.requestScene .available),
    .thread .iterate, .thread .poll, .deliver 0 (.scene (.value (some {}))) fun _ => {},
    .deliver 0 (.pilz (.value Planning.onePoint)) fun _ => {}] ++ takeAndSend ++
  [.deliver 0 (.ompl (.value Planning.turned)) fun _ => {}, .thread (.answer .succeeded),
    .thread (.complete none), .thread .poll] ++ takeAndSend ++
  [.thread (.answer .succeeded), .thread (.complete none), .thread .poll, .thread .get,
    .thread (.succeed none)]

theorem result_truthful_executeMixed :
    ∃ (w : State) (g : Goal) (r : ExecuteTrajectory.Result), g ∈ w.finished ∧ r.success = true ∧
      r.trajectoryPathsCompleted = [Planning.firstPath.pathId, Planning.turnPath.pathId] ∧
      ∃ plans done part, Truthful w.plan g r plans done part := by
  have h : Lts.Reaches step (init (PlanningCoordinator.onActivate (.new "manipulator"))) _ :=
    .of_exec executeMixed rfl
  exact ⟨_, _, _, List.mem_singleton_self _, rfl, rfl,
    result_truthful _ _ h _ (List.mem_singleton_self _) rfl _ rfl⟩

end Execution
end MovementController
