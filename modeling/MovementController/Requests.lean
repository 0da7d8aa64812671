import MovementController.Cancellation
import MovementController.Limits
import MovementController.Separation
import MovementController.Translation
import MovementController.Sequential

/-!
# The requests that reach the planners

Whatever arrives, from this session or from an earlier one, the group that is dispatched next is the
next one of the current session, and its message is built by the services the node was configured
with. So the planner requests of a goal are for its first groups, in order and each once, and every
message on the wire is a faithful translation of the group it is for.
-/

namespace MovementController
open PlanningCoordinator BasePlannerService

/-! ### Messages -/

/-- The message of a request does not depend on what else could have gone wrong. -/
theorem PlanningCoordinator.dispatch_of_outstanding {c : PlanningCoordinator} {r : PlanRequest}
    {faults : CallFaults} {m : PlannerMessage} (h : c.dispatch r faults = .outstanding m) :
    c.dispatch r {} = .outstanding m := by
  rcases r with ⟨_ | _, group, startState⟩
  · simp only [dispatch, planGroupAsync, PilzPlannerService.planGroupAsync] at h ⊢
    cases hclient : c.pilz.planSeqClient with
    | false => simp [hclient] at h
    | true =>
      rcases faults with ⟨_ | b, e⟩
      · rw [PilzPlannerService.generateMotionSequenceRequest_eq] at h ⊢
        rcases e with _ | e
        · rwa [hclient] at h
        · simp [hclient] at h
      · simp [hclient] at h
  · simp only [dispatch, planGroupAsync, OmplPlannerService.planGroupAsync] at h ⊢
    rcases group with _ | ⟨path, paths⟩
    · simp at h
    · rcases faults with ⟨_ | b, _ | e⟩ <;> cases hclient : c.ompl.planClient <;>
        simp_all [startStateInvalid]

/-- The factor is the share of a cap that was asked for, 1 where more was or where there is no cap. -/
structure Scaled (requested maximum factor : ℚ) : Prop where
  capped : 0 < maximum → factor = min 1 (requested / maximum)
  uncapped : maximum ≤ 0 → factor = 1

/-- The item has the group name, the scaling factors and the planning budget of the configuration. -/
structure Tuned (groupName : String) (cfg : Option ConstraintConfigDTO) (planningTime : ℚ)
    (numPlanningAttempts : Int) (read : Planner × MotionSequenceItem) (path : TrajectoryPathDTO) :
    Prop where
  group : read.2.req.groupName = groupName
  unscaled : cfg = none →
    read.2.req.maxVelocityScalingFactor = 1 ∧ read.2.req.maxAccelerationScalingFactor = 1
  velocity : ∀ c ∈ cfg,
    Scaled path.requested.1 (c.caps path.motionType).1 read.2.req.maxVelocityScalingFactor
  acceleration : ∀ c ∈ cfg,
    Scaled path.requested.2 (c.caps path.motionType).2 read.2.req.maxAccelerationScalingFactor
  budget : (read.2.req.allowedPlanningTime, read.2.req.numPlanningAttempts) =
    if path.motionType = .PTP then (planningTime, numPlanningAttempts) else (5, 1)

theorem scaled_scalingFactor (requested maximum : ℚ) :
    Scaled requested maximum (scalingFactor requested maximum) :=
  ⟨fun hmax => if_pos hmax, fun hmax => scalingFactor_of_uncapped requested hmax⟩

/-- An item with the factors that the services calculate, and with the budget of its motion type. -/
theorem Tuned.of_calculate (svc : BasePlannerService) {cfg : Option ConstraintConfigDTO}
    {planningTime : ℚ} {numPlanningAttempts : Int} {planner : Planner} {item : MotionSequenceItem}
    {path : TrajectoryPathDTO} (hsvc : svc.constraintConfig = cfg)
    (hgroup : item.req.groupName = svc.groupName)
    (hscaling : (item.req.maxVelocityScalingFactor, item.req.maxAccelerationScalingFactor) =
      svc.calculateScalingFactors path)
    (hbudget : (item.req.allowedPlanningTime, item.req.numPlanningAttempts) =
      if path.motionType = .PTP then (planningTime, numPlanningAttempts) else (5, 1)) :
    Tuned svc.groupName cfg planningTime numPlanningAttempts (planner, item) path := by
  cases cfg with
  | none =>
    rw [calculateScalingFactors, hsvc] at hscaling
    obtain ⟨hvelocity, hacceleration⟩ := Prod.mk.inj hscaling
    exact ⟨hgroup, fun _ => ⟨hvelocity, hacceleration⟩, by simp, by simp, hbudget⟩
  | some c =>
    rw [calculateScalingFactors_eq hsvc] at hscaling
    obtain ⟨hvelocity, hacceleration⟩ := Prod.mk.inj hscaling
    refine ⟨hgroup, by simp, ?_, ?_, hbudget⟩
    · rintro _ ⟨⟩
      exact hvelocity ▸ scaled_scalingFactor _ _
    · rintro _ ⟨⟩
      exact hacceleration ▸ scaled_scalingFactor _ _

section Configured

variable (groupName : String) (cfg : Option ConstraintConfigDTO) (planningTime : ℚ)
  (numPlanningAttempts : Int)

theorem configured_services :
    let c := configured groupName cfg planningTime numPlanningAttempts
    (c.pilz.toBasePlannerService = { groupName, constraintConfig := cfg } ∧
      c.pilz.planSeqClient = true) ∧
    (c.ompl.toBasePlannerService = { groupName, constraintConfig := cfg } ∧
      c.ompl.planClient = true ∧
      (c.ompl.planningTime, c.ompl.numPlanningAttempts) = (planningTime, numPlanningAttempts)) := by
  cases cfg <;> exact ⟨⟨rfl, rfl⟩, rfl, rfl, rfl⟩

variable {goal : TrajectoryGoalDTO} {g : Group}

theorem tuned_of_dispatch (hg : g ∈ goal.groups) (startState : RobotState) {m : PlannerMessage}
    (h : (configured groupName cfg planningTime numPlanningAttempts).dispatch
      ⟨selectService g, g, startState⟩ {} = .outstanding m) :
    List.Forall₂ (Tuned groupName cfg planningTime numPlanningAttempts) m.read g := by
  have hconf := configured_services groupName cfg planningTime numPlanningAttempts
  obtain ⟨⟨hpilz, hseq⟩, hompl, hplan, hbudget⟩ := hconf
  set c := configured groupName cfg planningTime numPlanningAttempts
  rcases goal.selectService_cases hg with ⟨hsel, path, hptp, rfl⟩ | ⟨hsel, hnot⟩
  · have hm : m = .plan (c.ompl.buildMotionPlanRequest path startState) := by
      rw [hsel] at h
      simpa [dispatch, planGroupAsync, OmplPlannerService.planGroupAsync, hplan, startStateInvalid,
        eq_comm] using h
    rw [hm]
    refine .cons (.of_calculate { groupName, constraintConfig := cfg } rfl ?_ ?_ ?_) .nil
    · exact congrArg BasePlannerService.groupName hompl
    · exact congrArg (calculateScalingFactors · path) hompl
    · rw [if_pos hptp]
      exact hbudget
  · have hm : m = .sequence (c.pilz.requestOf g startState) := by
      rw [hsel] at h
      simpa [dispatch, planGroupAsync, PilzPlannerService.planGroupAsync, hseq,
        PilzPlannerService.generateMotionSequenceRequest_eq, eq_comm] using h
    rw [hm, PlannerMessage.read, PilzPlannerService.requestOf, List.map_map]
    have hfst : g = g.zipIdx.map Prod.fst := (List.zipIdx_map_fst 0 g).symm
    nth_rewrite 3 [hfst]
    rw [List.forall₂_map_left_iff, List.forall₂_map_right_iff, List.forall₂_same]
    intro p hp
    have hmem : p.1 ∈ g := by
      rw [hfst]
      exact List.mem_map_of_mem hp
    refine .of_calculate { groupName, constraintConfig := cfg } rfl ?_ ?_ ?_
    · exact congrArg BasePlannerService.groupName hpilz
    · exact congrArg (calculateScalingFactors · p.1) hpilz
    · rw [if_neg (hnot p.1 hmem)]
      rfl

end Configured

/-! ### The coordinator -/

namespace Planning

/-- The requests that were sent: those outstanding and those answered. -/
def State.sent (w : State) : List Outstanding := w.pending ++ w.delivered.map (·.1)

/-- No group to plan is empty. -/
def NoEmptyGroup (_ : State) : Label → Prop
  | .planAll groups => ∀ g ∈ groups, g ≠ []
  | _ => True

/-- The message was built for a request of the session it was sent in. -/
structure Built (c : PlanningCoordinator) (w : State) (o : Outstanding) (r : PlanRequest)
    (m : PlannerMessage) : Prop where
  dispatched : r ∈ w.requests o.session
  planner : r.planner = selectService r.group
  message : c.dispatch r {} = .outstanding m

theorem Built.mono {c : PlanningCoordinator} {w w' : State} {o : Outstanding} {r : PlanRequest}
    {m : PlannerMessage} (h : Built c w o r m) (hd : w.dispatched ⊆ w'.dispatched) :
    Built c w' o r m :=
  ⟨State.mem_requests.2 (hd (State.mem_requests.1 h.dispatched)), h.planner, h.message⟩

structure Ordered (c : PlanningCoordinator) (w : State) : Prop where
  services : SameServices c w.coord
  nonempty : ∀ s ∈ w.coord.session, ∀ g ∈ s.groups, g ≠ []
  /-- What the session still holds is what is left to dispatch. -/
  current : ∀ s ∈ w.coord.session,
    (w.requests w.sessionNo).map (·.group) ++ s.groups = w.groupsOf w.sessionNo
  prefixes : ∀ k, (w.requests k).map (·.group) <+: w.groupsOf k
  built : ∀ o ∈ w.sent, ∀ r m, o.ask = .plan r m → Built c w o r m

namespace Ordered

variable {c : PlanningCoordinator} {w w' : State} {l : Label}

theorem dispatch_congr (h : SameServices c w.coord) (r : PlanRequest) (faults : CallFaults) :
    w.coord.dispatch r faults = c.dispatch r faults := by
  simp only [dispatch, planGroupAsync, h.1, h.2]

/-- A step that dispatches nothing and leaves the session alone or closes it. -/
theorem frame (h : Ordered c w) (hsvc : SameServices c w'.coord)
    (hsession : ∀ s ∈ w'.coord.session, s ∈ w.coord.session) (hn : w'.sessionNo = w.sessionNo)
    (hd : w'.dispatched = w.dispatched) (hp : w'.planned = w.planned)
    (hsent : ∀ o ∈ w'.sent, o ∈ w.sent ∨ o.ask = .scene) : Ordered c w' := by
  have hreq (k : Nat) : w'.requests k = w.requests k := by rw [State.requests, hd, State.requests]
  have hgroups (k : Nat) : w'.groupsOf k = w.groupsOf k := by
    cases k with
    | zero => rfl
    | succ k => rw [State.groupsOf, hp, State.groupsOf]
  refine ⟨hsvc, fun s hs => h.nonempty s (hsession s hs), fun s hs => ?_, fun k => ?_,
    fun o ho r m hask => ?_⟩
  · rw [hn, hreq, hgroups]
    exact h.current s (hsession s hs)
  · rw [hreq, hgroups]
    exact h.prefixes k
  · rcases hsent o ho with ho | hscene
    · exact (h.built o ho r m hask).mono (by rw [hd]; exact List.Subset.refl _)
    · rw [hscene] at hask
      cases hask

theorem setup (h : Ordered c w) (hl : Ledger w) {groups : List Group} (hg : ∀ g ∈ groups, g ≠ []) :
    Ordered c (w.setup groups) := by
  have hnew : (w.setup groups).groupsOf (w.sessionNo + 1) = groups := by
    simp [State.groupsOf, State.setup, ← hl.planned]
  have hnil : (w.setup groups).requests (w.sessionNo + 1) = [] :=
    hl.requests_eq_nil (Nat.lt_succ_self _)
  refine ⟨h.services, ?_, ?_, fun k => ?_, fun o ho r m hask =>
    (h.built o ho r m hask).mono (List.Subset.refl _)⟩
  · rintro _ ⟨⟩
    exact hg
  · rintro _ ⟨⟩
    show ((w.setup groups).requests (w.sessionNo + 1)).map _ ++ groups = _
    rw [hnil]
    exact hnew.symm
  · rcases Nat.lt_or_ge w.sessionNo k with hk | hk
    · have hnil : (w.setup groups).requests k = [] := hl.requests_eq_nil hk
      rw [hnil]
      exact List.nil_prefix
    · have hgroups : (w.setup groups).groupsOf k = w.groupsOf k :=
        groupsOf_of_prefix (List.prefix_append _ _) (hl.planned ▸ hk)
      rw [hgroups]
      exact h.prefixes k

theorem sent_settle {i : Nat} {o o' : Outstanding} {answer : Answer} {t : Turn}
    (ho : w.pending[i]? = some o) (ho' : o' ∈ (w.settle i o answer t).sent) :
    o' ∈ w.sent ∨ ∃ e ∈ t.issued, o' = ⟨w.sessionNo, .plan e.1 e.2⟩ := by
  rcases List.mem_append.1 ho' with ho' | ho'
  · rcases List.mem_append.1 ho' with ho' | ho'
    · exact .inl (List.mem_append_left _ (List.mem_of_mem_eraseIdx ho'))
    · obtain ⟨e, he, rfl⟩ := List.mem_map.1 ho'
      exact .inr ⟨e, he, rfl⟩
  · rw [State.settle, List.map_append, List.mem_append] at ho'
    rcases ho' with ho' | ho'
    · exact .inl (List.mem_append_right _ ho')
    · rw [List.map_singleton, List.mem_singleton] at ho'
      exact .inl (List.mem_append_left _ (ho' ▸ List.mem_of_getElem? ho))

/-- A response dispatches nothing, or the next group of the session. -/
theorem settle (h : Ordered c w) {i : Nat} {o : Outstanding} {answer : Answer} {t : Turn}
    (ho : w.pending[i]? = some o) (hsvc : SameServices c t.coord)
    (hsession : ∀ s ∈ t.coord.session,
      (∃ s₀ ∈ w.coord.session, s₀.groups = t.dispatched.map (·.group) ++ s.groups))
    (hdispatched : t.dispatched.map (·.group) = [] ∨
      ∃ s₀ ∈ w.coord.session, t.dispatched.map (·.group) <+: s₀.groups)
    (hbuilt : ∀ e ∈ t.issued, e.1 ∈ t.dispatched ∧ e.1.planner = selectService e.1.group ∧
      c.dispatch e.1 {} = .outstanding e.2) : Ordered c (w.settle i o answer t) := by
  set w' := w.settle i o answer t with hw'
  have hreq : w'.requests w.sessionNo = w.requests w.sessionNo ++ t.dispatched := State.settle_requests
  refine ⟨hsvc, fun s hs g hg => ?_, fun s hs => ?_, fun k => ?_, fun o' ho' r m hask => ?_⟩
  · obtain ⟨s₀, hs₀, hgroups⟩ := hsession s hs
    exact h.nonempty s₀ hs₀ g (hgroups ▸ List.mem_append_right _ hg)
  · obtain ⟨s₀, hs₀, hgroups⟩ := hsession s hs
    show (w'.requests w.sessionNo).map _ ++ _ = w.groupsOf w.sessionNo
    rw [hreq, List.map_append, List.append_assoc, ← hgroups]
    exact h.current s₀ hs₀
  · show (w'.requests k).map _ <+: w.groupsOf k
    by_cases hk : k = w.sessionNo
    · subst hk
      rw [hreq, List.map_append]
      rcases hdispatched with hnil | ⟨s₀, hs₀, hprefix⟩
      · rw [hnil, List.append_nil]
        exact h.prefixes _
      · rw [← h.current s₀ hs₀]
        exact (List.prefix_append_right_inj _).2 hprefix
    · rw [hw', State.settle_requests_of_ne hk]
      exact h.prefixes k
  · rcases sent_settle ho ho' with ho' | ⟨e, he, rfl⟩
    · exact (h.built o' ho' r m hask).mono (List.subset_append_left _ _)
    · cases hask
      obtain ⟨hmem, hplanner, hmessage⟩ := hbuilt e he
      refine ⟨?_, hplanner, hmessage⟩
      rw [hreq]
      exact List.mem_append_right _ hmem

theorem acted (h : Ordered c w) {i : Nat} {answer : Answer} {call : PlanRequest → CallFaults}
    {o : Outstanding} (ho : w.pending[i]? = some o) {q : List QueueItem} {gs : List Group}
    (hc : w.coord.Open q gs) {v : Verdict} {t : Turn} {caught : String → PlanResultDTO}
    (ht : v.Outcome caught call w.coord q gs t) : Ordered c (w.settle i o answer t) := by
  obtain ⟨current, hs⟩ := hc.session
  cases ht with
  | stopped hv =>
    refine h.settle ho h.services ?_ (.inl rfl) (by simp)
    exact fun s hs => ⟨s, hs, rfl⟩
  | finished startState s hv hgs hs' =>
    obtain rfl : gs = [] := by
      cases gs with
      | nil => rfl
      | cons g gs => exact absurd hgs (h.nonempty _ hs g (by simp))
    refine h.settle ho h.services ?_ (.inl rfl) (by simp)
    rintro _ ⟨⟩
    exact ⟨_, hs, hs'.symm⟩
  | failed r rest dto hv hgs hne hr hout =>
    subst hgs
    refine h.settle ho h.services ?_ (.inr ⟨_, hs, rest, rfl⟩) (by simp)
    rintro _ ⟨⟩
    exact ⟨_, hs, rfl⟩
  | issued r rest message hv hgs hne hr hout =>
    subst hgs
    refine h.settle ho h.services ?_ (.inr ⟨_, hs, rest, rfl⟩) ?_
    · rintro _ ⟨⟩
      exact ⟨_, hs, rfl⟩
    · rintro _ hmem
      obtain rfl := List.mem_singleton.1 hmem
      have hd : w.coord.dispatch r (call r) = .outstanding message := by
        unfold outcome at hout
        split at hout
        · next m hd =>
          cases hout
          exact hd
        · cases hout
        · cases hout
      rw [dispatch_congr h.services] at hd
      exact ⟨List.mem_singleton.2 rfl, hr, dispatch_of_outstanding hd⟩

theorem step (hl : Ledger w) (h : Ordered c w) (hgroups : NoEmptyGroup w l) (hs : Step w l w') :
    Ordered c w' := by
  have hsvc := hs.sameServices h.services
  cases hs with
  | planAll groups => exact h.setup hl hgroups
  | acted i answer call o ho q gs hc v hv t ht => exact h.acted ho hc ht
  | ignored i answer call o ho hc =>
    exact h.settle ho h.services (fun s hs => ⟨s, hs, rfl⟩) (.inl rfl) (by simp)
  | sceneRequested =>
    refine h.frame hsvc (fun _ hs => hs) rfl rfl rfl fun o ho => ?_
    simp only [State.sent, State.sceneRequested, List.mem_append, List.mem_singleton] at ho ⊢
    rcases ho with (ho | rfl) | ho
    · exact .inl (.inl ho)
    · exact .inr rfl
    · exact .inl (.inr ho)
  | sceneUnavailable | gotSentinel | gotStaleSentinel =>
    exact h.frame hsvc (fun _ hs => by cases hs) rfl rfl rfl fun _ ho => .inl ho
  | _ => exact h.frame hsvc (fun _ hs => hs) rfl rfl rfl fun _ ho => .inl ho

theorem init (c : PlanningCoordinator) : Ordered c (Planning.init c) := by
  refine ⟨⟨rfl, rfl⟩, ?_, ?_, fun k => List.nil_prefix, ?_⟩
  · rintro _ ⟨⟩
  · rintro _ ⟨⟩
  · rintro _ ⟨⟩

end Ordered

end Planning

/-! ### The node -/

namespace Execution

/-- The sessions are those of the goals. -/
structure Booked (w : State) : Prop where
  groups : ∀ g ∈ w.goals, g.session ≠ 0 → w.plan.groupsOf g.session = g.goal.groups
  owner : ∀ k, k ≠ 0 → k ≤ w.plan.sessionNo → ∃ g ∈ w.goals, g.session = k

/-- Only `plan_all` begins a session, with the groups of the goal. -/
theorem Goal.Act.session {p p' : Planning.State} {g g' : Goal} {a : Action}
    (hc : Planning.Coherent p.coord) (h : Act p g a p' g') : g'.goal = g.goal ∧
      ((g'.session = g.session ∧ p'.planned = p.planned ∧ p'.sessionNo = p.sessionNo) ∨
        (g.pc = .ready ∧ p' = p.setup g.goal.groups ∧ g'.session = p'.sessionNo)) := by
  have hsame {l : Planning.Label} (hs : Planning.step p l = some p')
      (hl : ∀ groups, l ≠ .planAll groups) :
      p'.planned = p.planned ∧ p'.sessionNo = p.sessionNo := by
    cases Planning.step_cases hc hs with
    | planAll groups => exact absurd rfl (hl groups)
    | _ => exact ⟨rfl, rfl⟩
  cases h with
  | started | halted | approved | announced | sent | answered | completed | succeeded =>
    exact ⟨rfl, .inl ⟨rfl, rfl, rfl⟩⟩
  | planAll hpc q hs =>
    cases Planning.step_cases hc hs with
    | planAll => exact ⟨rfl, .inr ⟨hpc, rfl, rfl⟩⟩
  | requested hpc hclient q hs => exact ⟨rfl, .inl ⟨rfl, hsame hs (by simp)⟩⟩
  | notRequested hpc service q hs => exact ⟨rfl, .inl ⟨rfl, hsame hs (by simp)⟩⟩
  | iterate hpc q hs => exact ⟨rfl, .inl ⟨rfl, hsame hs (by simp)⟩⟩
  | polled hpc q hs => exact ⟨rfl, .inl ⟨rfl, hsame hs (by simp)⟩⟩
  | pollFailed hpc q hs => exact ⟨rfl, .inl ⟨rfl, hsame hs (by simp)⟩⟩
  | gotResult hpc dto hn q hs => exact ⟨rfl, .inl ⟨rfl, hsame hs (by simp)⟩⟩
  | gotSentinel hpc hn q hs => exact ⟨rfl, .inl ⟨rfl, hsame hs (by simp)⟩⟩
  | answerFailed dto rest hpc answer q hp =>
    rcases hp with rfl | rfl
    · exact ⟨rfl, .inl ⟨rfl, rfl, rfl⟩⟩
    · exact ⟨rfl, .inl ⟨rfl, rfl, rfl⟩⟩
  | failed errorMessage hpc =>
    rw [Planning.getD_abandon]
    exact ⟨rfl, .inl ⟨rfl, rfl, rfl⟩⟩

theorem State.mem_goals {w : State} {g : Goal} :
    g ∈ w.goals ↔ g ∈ w.finished ∨ w.current = some g := by
  simp [State.goals]

theorem State.mem_goals_advance {w : State} {p : Planning.State} {g k : Goal} :
    k ∈ (w.advance p g).goals ↔ k ∈ w.finished ∨ k = g := by
  rw [State.mem_goals]
  rcases w.advance_cases p g with ⟨-, heq⟩ | ⟨-, heq⟩ <;> simp [heq, eq_comm]

namespace Booked

variable {w w' : State} {l : Label}

theorem init (c : PlanningCoordinator) : Booked (init c) :=
  ⟨by simp [State.goals, Execution.init], fun k hk hle => absurd (Nat.le_zero.1 hle) hk⟩

/-- The step begins no session. -/
theorem frame (h : Booked w) (hp : w'.plan.planned = w.plan.planned)
    (hn : w'.plan.sessionNo = w.plan.sessionNo)
    (hold : ∀ g ∈ w.goals, g.session ≠ 0 → ∃ g' ∈ w'.goals, g'.session = g.session)
    (hnew : ∀ g' ∈ w'.goals, g'.session ≠ 0 →
      ∃ g ∈ w.goals, g.session = g'.session ∧ g.goal = g'.goal) : Booked w' := by
  have hgroups (k : Nat) : w'.plan.groupsOf k = w.plan.groupsOf k := by
    cases k with
    | zero => rfl
    | succ k => rw [Planning.State.groupsOf, hp, Planning.State.groupsOf]
  refine ⟨fun g' hg' hne => ?_, fun k hk hle => ?_⟩
  · obtain ⟨g, hg, hs, hgoal⟩ := hnew g' hg' hne
    rw [hgroups, ← hs, ← hgoal]
    exact h.groups g hg (hs ▸ hne)
  · obtain ⟨g, hg, rfl⟩ := h.owner k hk (hn ▸ hle)
    exact hold g hg hk

theorem begun (hw : Sound w) (h : Booked w) {g g' : Goal} (hg : w.current = some g)
    (hpc : g.pc = .ready) (hgoal : g'.goal = g.goal) (hs : g'.session = w.plan.sessionNo + 1) :
    Booked (w.advance (w.plan.setup g.goal.groups) g') := by
  have hzero : g.session = 0 := (hw.current g hg).before (.inr hpc)
  refine ⟨fun k hk hne => ?_, fun k hk hle => ?_⟩
  · rw [State.advance_plan]
    rcases State.mem_goals_advance.1 hk with hk | rfl
    · have hle := (hw.finished k hk).1
      have hgroups : (w.plan.setup g.goal.groups).groupsOf k.session = w.plan.groupsOf k.session :=
        Planning.groupsOf_of_prefix (List.prefix_append _ _) (hw.ledger.planned ▸ hle)
      rw [hgroups]
      exact h.groups k (State.mem_goals.2 (.inl hk)) hne
    · rw [hs, hgoal]
      simp [Planning.State.groupsOf, Planning.State.setup, ← hw.ledger.planned]
  · rw [State.advance_plan] at hle
    rcases Nat.lt_or_ge w.plan.sessionNo k with hlt | hle'
    · obtain rfl : k = w.plan.sessionNo + 1 := Nat.le_antisymm hle hlt
      exact ⟨g', State.mem_goals_advance.2 (.inr rfl), hs⟩
    · obtain ⟨g₀, hg₀, rfl⟩ := h.owner k hk hle'
      rcases State.mem_goals.1 hg₀ with hfin | hcur
      · exact ⟨g₀, State.mem_goals_advance.2 (.inl hfin), rfl⟩
      · obtain rfl : g = g₀ := Option.some.inj (hg.symm.trans hcur)
        exact absurd hzero hk

theorem step (hw : Sound w) (h : Booked w) (hs : step w l = some w') : Booked w' := by
  cases step_cases hs with
  | accept goal hc =>
    have hgoals : w.goals = w.finished := by simp [State.goals, hc]
    refine h.frame rfl rfl (fun g hg _ => ⟨g, ?_, rfl⟩) fun g' hg' hne => ⟨g', ?_, rfl, rfl⟩
    · exact State.mem_goals.2 (.inl (hgoals ▸ hg))
    · rcases State.mem_goals.1 hg' with hfin | hcur
      · exact hgoals.symm ▸ hfin
      · cases hcur
        exact absurd rfl hne
  | cancel g hg =>
    refine h.frame rfl rfl (fun g₀ hg₀ _ => ?_) fun g' hg' _ => ?_
    · rcases State.mem_goals.1 hg₀ with hfin | hcur
      · exact ⟨g₀, State.mem_goals.2 (.inl hfin), rfl⟩
      · obtain rfl : g = g₀ := Option.some.inj (hg.symm.trans hcur)
        exact ⟨_, State.mem_goals.2 (.inr rfl), rfl⟩
    · rcases State.mem_goals.1 hg' with hfin | hcur
      · exact ⟨g', State.mem_goals.2 (.inl hfin), rfl, rfl⟩
      · cases hcur
        exact ⟨g, State.mem_goals.2 (.inr hg), rfl, rfl⟩
  | deliver i answer call p hd =>
    have hsame : p.planned = w.plan.planned ∧ p.sessionNo = w.plan.sessionNo := by
      cases Planning.step_cases hw.coherent hd with
      | ignored | acted => exact ⟨rfl, rfl⟩
    exact h.frame hsame.1 hsame.2 (fun g hg _ => ⟨g, hg, rfl⟩) fun g hg _ => ⟨g, hg, rfl, rfl⟩
  | thread a g hg p g' ha =>
    obtain ⟨hgoal, ⟨hsession, hp, hn⟩ | ⟨hpc, rfl, hsession⟩⟩ := ha.session hw.coherent
    · refine h.frame (by rwa [State.advance_plan]) (by rwa [State.advance_plan])
        (fun g₀ hg₀ _ => ?_) fun k hk _ => ?_
      · rcases State.mem_goals.1 hg₀ with hfin | hcur
        · exact ⟨g₀, State.mem_goals_advance.2 (.inl hfin), rfl⟩
        · obtain rfl : g = g₀ := Option.some.inj (hg.symm.trans hcur)
          exact ⟨g', State.mem_goals_advance.2 (.inr rfl), hsession⟩
      · rcases State.mem_goals_advance.1 hk with hfin | rfl
        · exact ⟨k, State.mem_goals.2 (.inl hfin), rfl, rfl⟩
        · exact ⟨g, State.mem_goals.2 (.inr hg), hsession.symm, hgoal.symm⟩
    · exact h.begun hw hg hpc hgoal hsession

end Booked

/-- The steps of the node plan the groups of a goal, none of which is empty. -/
theorem ordered_step {c : PlanningCoordinator} {w w' : State} {l : Label} (hw : Sound w)
    (h : Planning.Ordered c w.plan) (hs : step w l = some w') : Planning.Ordered c w'.plan := by
  rcases (step_cases hs).plan with hp | ⟨pl, hpl⟩
  · rwa [hp]
  have hstep := Planning.step_cases hw.coherent hpl
  refine Planning.Ordered.step hw.ledger h ?_ hstep
  cases pl with
  | planAll groups =>
    show ∀ g ∈ groups, g ≠ []
    have hplan : w'.plan = w.plan.setup groups := by
      simp only [Planning.step, Option.ite_none_left_eq_some, Option.some.injEq] at hpl
      exact hpl.2.symm
    have hno : w'.plan.sessionNo = w.plan.sessionNo + 1 := by rw [hplan]; rfl
    cases step_cases hs with
    | accept | cancel => exact absurd hno (Nat.succ_ne_self _).symm
    | deliver i answer call p hd =>
      have hsame := Goal.Act.sessionNo_of_step hw.coherent hd (by simp)
      exact absurd (hsame.symm.trans hno) (Nat.succ_ne_self _).symm
    | thread a g hg p g' ha =>
      rw [State.advance_plan] at hplan hno
      rcases (ha.session hw.coherent).2 with ⟨-, -, hsame⟩ | ⟨-, hsetup, -⟩
      · exact absurd (hsame.symm.trans hno) (Nat.succ_ne_self _).symm
      · have hplanned : w.plan.planned ++ [groups] = w.plan.planned ++ [g.goal.groups] :=
          congrArg Planning.State.planned (hplan.symm.trans hsetup)
        obtain rfl : groups = g.goal.groups := by simpa using hplanned
        exact fun _ hmem => g.goal.ne_nil_of_mem_groups hmem
  | _ => trivial

section Configured

variable (groupName : String) (cfg : Option ConstraintConfigDTO) (planningTime : ℚ)
  (numPlanningAttempts : Int)

theorem ordered_of_runs {C : State → Label → Prop} {w : State}
    (h : Lts.Runs step C (init (configured groupName cfg planningTime numPlanningAttempts)) w) :
    Sound w ∧ Booked w ∧
      Planning.Ordered (configured groupName cfg planningTime numPlanningAttempts) w.plan :=
  h.invariant
    (I := fun w => Sound w ∧ Booked w ∧ Planning.Ordered
      (configured groupName cfg planningTime numPlanningAttempts) w.plan)
    ⟨.init _, .init _, .init _⟩ fun ⟨hw, hb, ho⟩ _ hs =>
      ⟨hw.step hs, hb.step hw hs, ordered_step hw ho hs⟩

/-- What was dispatched in the session of a goal are its first groups. -/
theorem Booked.requests_first {w : State} {c : PlanningCoordinator} (hb : Booked w)
    (ho : Planning.Ordered c w.plan) {g : Goal} (hg : g ∈ w.goals) :
    (w.plan.requests g.session).map (·.group) <+: g.goal.groups := by
  have hpre := ho.prefixes g.session
  by_cases hzero : g.session = 0
  · rw [hzero] at hpre ⊢
    exact hpre.trans List.nil_prefix
  · rwa [hb.groups g hg hzero] at hpre

/-- A message that was sent was built for a group of the goal of its session. -/
theorem Booked.request {w : State} {c : PlanningCoordinator} (hw : Sound w) (hb : Booked w)
    (ho : Planning.Ordered c w.plan) {o : Planning.Outstanding} (hmem : o ∈ w.plan.sent)
    {r : PlanRequest} {m : PlannerMessage} (hask : o.ask = .plan r m) :
    (∃ g ∈ w.goals, g.session = o.session ∧ r ∈ w.plan.requests g.session ∧
      r.group ∈ g.goal.groups) ∧
    r.planner = selectService r.group ∧
      c.dispatch ⟨selectService r.group, r.group, r.startState⟩ {} = .outstanding m := by
  obtain ⟨hdispatched, hplanner, hmessage⟩ := ho.built o hmem r m hask
  have hle : o.session ≤ w.plan.sessionNo :=
    hw.ledger.dispatched _ (Planning.State.mem_requests.1 hdispatched)
  have hne : o.session ≠ 0 := by
    intro hzero
    have hpre := (ho.prefixes o.session).subset (List.mem_map_of_mem hdispatched)
    rw [hzero] at hpre
    exact List.not_mem_nil hpre
  obtain ⟨g, hg, hsession⟩ := hb.owner o.session hne hle
  rw [← hsession] at hdispatched
  have hgroup : r.group ∈ g.goal.groups :=
    (hb.requests_first ho hg).subset (List.mem_map_of_mem hdispatched)
  refine ⟨⟨g, hg, hsession, hdispatched, hgroup⟩, hplanner, ?_⟩
  rw [← hplanner]
  exact hmessage

end Configured

/-- Whatever arrives late, the planner requests of a goal are for its first groups, in order and
each once, and every message on the wire was built for a group of the goal of its session: it
carries the paths of the group, tuned as the node was configured. -/
theorem requests_of_goals (groupName : String) (cfg : Option ConstraintConfigDTO) (planningTime : ℚ)
    (numPlanningAttempts : Int) (w : State)
    (h : Lts.Reaches step (init (configured groupName cfg planningTime numPlanningAttempts)) w) :
    (∀ g ∈ w.goals, (w.plan.requests g.session).map (·.group) <+: g.goal.groups) ∧
    ∀ o ∈ w.plan.sent, ∀ r m, o.ask = .plan r m →
      (∃ g ∈ w.goals, g.session = o.session ∧ r ∈ w.plan.requests g.session ∧
        r.group ∈ g.goal.groups) ∧
      r.planner = selectService r.group ∧
      List.Forall₂ (Carries cfg) m.read r.group ∧
      List.Forall₂ (Tuned groupName cfg planningTime numPlanningAttempts) m.read r.group ∧
      Shaped r m := by
  obtain ⟨hw, hbooked, hordered⟩ := ordered_of_runs groupName cfg planningTime numPlanningAttempts h
  refine ⟨fun g hg => hbooked.requests_first hordered hg, fun o ho r m hask => ?_⟩
  obtain ⟨⟨g, hg, hsession, hdispatched, hgroup⟩, hplanner, hmessage⟩ :=
    hbooked.request hw hordered ho hask
  have hr : r = ⟨selectService r.group, r.group, r.startState⟩ := by rw [← hplanner]
  obtain ⟨m', hm', hcarries, hshaped⟩ := dispatch_group groupName cfg planningTime
    numPlanningAttempts hgroup r.startState
  obtain rfl : m = m' := Dispatch.outstanding.inj (hmessage.symm.trans hm')
  refine ⟨⟨g, hg, hsession, hdispatched, hgroup⟩, hplanner, hcarries, ?_, hr ▸ hshaped⟩
  exact tuned_of_dispatch groupName cfg planningTime numPlanningAttempts hgroup r.startState hmessage

/-- A box, a tolerance about one axis, and caps for both channels. -/
def guardedCell : ConstraintConfigDTO :=
  { ConstraintConfigDTO.unconstrained with
    xMin := -1
    xMax := 1
    orientationToleranceZ := 1 / 10
    maxCartesianSpeed := 1 / 2
    maxJointSpeed := 1
    x_ordered := by norm_num }

/-- A LIN path that blends into a CIRC path, and a PTP path that asks for more than its cap. -/
def guardedPaths : List TrajectoryPathDTO :=
  [{ Planning.firstPath with
      blendRadius := 2, cartesianSpeed := 1 / 4, blendRadius_nonneg := zero_le_two },
    { Planning.secondPath with motionType := .CIRC, circPoint := ⟨1, 0, 0⟩, cartesianSpeed := 1 / 2 },
    { Planning.turnPath with jointSpeed := 2 }]

def guardedGoal : TrajectoryGoalDTO := ⟨guardedPaths, by decide, by decide⟩

/-- Both groups are asked for; the plan of the first has arrived. -/
def askBoth : List Label :=
  [.accept guardedGoal, .thread (.start true), .thread .planAll, .thread (.requestScene .available),
    .deliver 0 (.scene (.value (some {}))) (fun _ => {}),
    .deliver 0 (.pilz (.value Planning.onePoint)) fun _ => {}]

theorem requests_of_goals_askBoth : ∃ w : State, (w.plan.requests 1).map (·.group.length) = [2, 1] ∧
    w.plan.sent.length = 3 ∧ ∀ o ∈ w.plan.sent, ∀ r m, o.ask = .plan r m →
      List.Forall₂ (Carries (some guardedCell)) m.read r.group ∧
      List.Forall₂ (Tuned "manipulator" (some guardedCell) 5 1) m.read r.group ∧ Shaped r m := by
  have h : Lts.Reaches step (init (configured "manipulator" (some guardedCell) 5 1)) _ :=
    .of_exec askBoth rfl
  exact ⟨_, rfl, rfl, fun o ho r m hask =>
    ((requests_of_goals "manipulator" (some guardedCell) 5 1 _ h).2 o ho r m hask).2.2⟩

end Execution
end MovementController
