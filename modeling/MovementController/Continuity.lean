import MovementController.Cancellation
import MovementController.Quiescence
import MovementController.EndState
import MovementController.Separation

/-!
# The motion is continuous

A planner is asked for a motion from a start state, so a successful response is a motion from there.
What the coordinator adds is that a group starts where the group before it ends, and the thread that
it sends the trajectories of the groups in order. Together: what is sent for a goal planned with
nothing outstanding is one motion, from the scene state of its session on.
-/

namespace MovementController
open PlanningCoordinator BasePlannerService
open Execution (trajectories)

/-! ### Motions -/

/-- The state of the arm after the trajectory, which has to start where the arm is. The joints that
the trajectory does not name are left out of account, as in `_extract_end_state`. -/
def RobotState.follow (s : RobotState) (t : RobotTrajectory) : Option RobotState :=
  match t.jointTrajectory.points.head?, t.jointTrajectory.points.getLast? with
  | some first, some last =>
    if ∀ joint ∈ t.jointTrajectory.jointNames.zip first.positions,
        joint ∈ s.jointState.name.zip s.jointState.position then
      some { jointState := {
        name := t.jointTrajectory.jointNames
        position := last.positions
        velocity := List.replicate t.jointTrajectory.jointNames.length 0 } }
    else none
  | _, _ => none

/-- The trajectories `ts` make one motion from `s` to `s'`. -/
abbrev Motion (s : RobotState) (ts : List RobotTrajectory) (s' : RobotState) : Prop :=
  Lts.Trace RobotState.follow (fun _ _ => True) s ts s'

/-- The end state that is read off a plan is where its motion ends. -/
theorem Motion.extractEndState {dto : PlanResultDTO} {s s' e : RobotState}
    (h : Motion s (trajectories dto) s') (he : extractEndState dto.motionPlan = .ok e) : s' = e := by
  unfold BasePlannerService.extractEndState at he
  split at he
  · cases he
  · next response hplan =>
    have hts : trajectories dto = response.plannedTrajectories := by
      rw [trajectories, hplan]
      rfl
    rw [hts] at h
    split at he
    · cases he
    · next t hlast =>
      obtain ⟨ts, hconcat⟩ := List.getLast?_eq_some_iff.1 hlast
      rw [hconcat] at h
      obtain ⟨u, -, h⟩ := h.of_append
      cases h with
      | cons _ hfollow hnil =>
        cases hnil
        unfold RobotState.follow at hfollow
        split at he
        · cases he
        · next last hpoints =>
          rw [hpoints] at hfollow
          split at hfollow
          · next first last' hhead heq =>
            obtain rfl := Option.some.inj heq
            split at hfollow
            · exact (Option.some.inj hfollow).symm.trans (Except.ok.inj he)
            · cases hfollow
          · cases hfollow

namespace Planning

/-- A successful planner response is a motion from the start state of its request. -/
def Continues (w : State) : Label → Prop
  | .deliver i answer _ => ∀ o ∈ w.pending[i]?, ∀ r message dto, o.ask = .plan r message →
      r.toResult answer = some dto → dto.success = true →
        ∃ s, Motion r.startState (trajectories dto) s
  | _ => True

/-- The trajectories make one motion from the scene state of the `k`-th session to `s`. -/
def State.Along (w : State) (k : Nat) (ts : List RobotTrajectory) (s : RobotState) : Prop :=
  ∃ s₀, w.Fetched k s₀ ∧ Motion s₀ ts s

def State.Drives (w : State) (k : Nat) (ts : List RobotTrajectory) : Prop :=
  ts = [] ∨ ∃ s, w.Along k ts s

/-- The trajectories of the results of the current session, those of `qs` behind those taken. -/
def State.course (w : State) (qs : List PlanResultDTO) : List RobotTrajectory :=
  (w.results w.sessionNo ++ qs).flatMap trajectories

section
variable {w w' : State} {k : Nat} {ts us : List RobotTrajectory} {s s' : RobotState}

theorem State.Along.mono (hd : w.delivered ⊆ w'.delivered) (h : w.Along k ts s) : w'.Along k ts s :=
  let ⟨s₀, hf, hm⟩ := h
  ⟨s₀, hd hf, hm⟩

theorem State.Along.append (h : w.Along k ts s) (hm : Motion s us s') : w.Along k (ts ++ us) s' :=
  let ⟨s₀, hf, hm₀⟩ := h
  ⟨s₀, hf, hm₀.append hm⟩

theorem State.Along.drives (h : w.Along k ts s) : w.Drives k ts := .inr ⟨s, h⟩

theorem State.Drives.mono (hd : w.delivered ⊆ w'.delivered) (h : w.Drives k ts) : w'.Drives k ts :=
  h.imp_right fun ⟨s, hs⟩ => ⟨s, hs.mono hd⟩

theorem State.Drives.of_append (h : w.Drives k (ts ++ us)) : w.Drives k ts := by
  rcases h with h | ⟨s, s₀, hf, hm⟩
  · exact .inl (List.append_eq_nil_iff.1 h).1
  · obtain ⟨u, hm, -⟩ := hm.of_append
    exact .inr ⟨u, s₀, hf, hm⟩

end

/-! ### One session -/

/-- The session that began with nothing outstanding, while no failure was yielded: its results,
taken or queued, make one motion from the scene state to the start state of the outstanding
request. -/
inductive Course (w : State) : Prop
  | starting (gs : List Group) (hs : w.starting = true) (hp : w.pending = [])
      (hw : w.coord.Open [] gs) (hy : w.results w.sessionNo = [])
  | fetching (gs : List Group) (hs : w.starting = false) (hp : w.pending = [⟨w.sessionNo, .scene⟩])
      (hw : w.coord.Open [] gs) (hy : w.results w.sessionNo = [])
  | planning (r : PlanRequest) (message : PlannerMessage) (qs : List PlanResultDTO)
      (gs : List Group) (hs : w.starting = false)
      (hp : w.pending = [⟨w.sessionNo, .plan r message⟩]) (hw : w.coord.Open (qs.map .result) gs)
      (ht : w.Along w.sessionNo (w.course qs) r.startState)
  | closing (qs : List PlanResultDTO) (tail : List QueueItem)
      (hq : w.coord.planQueue = some (qs.map .result ++ tail))
      (htail : ∀ dto, .result dto ∈ tail → dto.success = false)
      (he : w.coord.cancelEvent = some true ∨
        w.coord.cancelEvent = some false ∧ w.pending = [] ∧ w.starting = false)
      (ht : w.Drives w.sessionNo (w.course qs))

namespace Course

variable {w w' : State}

theorem setup (hl : Ledger w) (hp : w.pending = []) (groups : List Group) :
    Course (w.setup groups) :=
  .starting groups rfl hp ⟨rfl, rfl, [], rfl⟩ (hl.results_eq_nil (Nat.lt_succ_self _))

theorem sceneRequested (h : Course w) (hs : w.starting = true) : Course w.sceneRequested := by
  cases h with
  | starting gs _ hp hw hy => exact .fetching gs rfl (by simp [State.sceneRequested, hp]) hw hy
  | fetching gs hs' => simp [hs] at hs'
  | planning r message qs gs hs' => simp [hs] at hs'
  | closing qs tail hq htail he ht =>
    have he := he.resolve_right fun he => by simp [hs] at he
    exact .closing qs tail hq htail (.inl he) ht

theorem event (h : Course w) :
    w.coord.cancelEvent = some false ∨ w.coord.cancelEvent = some true := by
  cases h with
  | starting gs hs hp hw => exact .inl hw.event
  | fetching gs hs hp hw => exact .inl hw.event
  | planning r message qs gs hs hp hw => exact .inl hw.event
  | closing qs tail hq htail he => exact he.elim .inr fun he => .inl he.1

theorem queue (h : Course w) : w.coord.planQueue.isSome = true := by
  cases h with
  | starting gs hs hp hw => simp [hw.queue]
  | fetching gs hs hp hw => simp [hw.queue]
  | planning r message qs gs hs hp hw => simp [hw.queue]
  | closing qs tail hq => simp [hq]

/-- What was yielded is a motion already. -/
theorem yielded (h : Course w) : w.Drives w.sessionNo (w.course []) := by
  have hleft {qs : List PlanResultDTO} (h : w.Drives w.sessionNo (w.course qs)) :
      w.Drives w.sessionNo (w.course []) := by
    rw [State.course, List.flatMap_append] at h
    rw [State.course, List.append_nil]
    exact h.of_append
  cases h with
  | starting gs hs hp hw hy => exact .inl (by simp [State.course, hy])
  | fetching gs hs hp hw hy => exact .inl (by simp [State.course, hy])
  | planning r message qs gs hs hp hw ht => exact hleft ht.drives
  | closing qs tail hq htail he ht => exact hleft ht

theorem cancel (h : Course w) : Course { w with coord := w.coord.cancel } := by
  refine .closing [] [.result cancelFailure, .stopIteration] ?_ ?_ (.inl ?_) h.yielded
  · obtain ⟨q, hq⟩ := Option.isSome_iff_exists.1 h.queue
    simp [hq]
  · intro dto hdto
    obtain rfl : dto = cancelFailure := by simpa using hdto
    rfl
  · rcases h.event with he | he <;> simp [he]

theorem withConsumer (h : Course w) (consumer : Consumer) :
    Course { w with consumer := consumer } := by
  cases h with
  | starting gs hs hp hw hy => exact .starting gs hs hp hw hy
  | fetching gs hs hp hw hy => exact .fetching gs hs hp hw hy
  | planning r message qs gs hs hp hw ht => exact .planning r message qs gs hs hp hw ht
  | closing qs tail hq htail he ht => exact .closing qs tail hq htail he ht

theorem ignored (h : Course w) {i : Nat} {o : Outstanding} {answer : Answer}
    (hc : w.coord.Closed ∨ w.coord.cancelEvent = some true) :
    Course (w.settle i o answer ⟨w.coord, [], []⟩) := by
  have he : w.coord.cancelEvent = some true := by
    refine hc.resolve_left fun hc => ?_
    rcases h.event with he | he <;> simp [hc.event] at he
  cases h with
  | starting gs hs hp hw => simpa [he] using hw.event
  | fetching gs hs hp hw => simpa [he] using hw.event
  | planning r message qs gs hs hp hw => simpa [he] using hw.event
  | closing qs tail hq htail _ ht =>
    exact .closing qs tail hq htail (.inl he) (ht.mono (List.subset_append_left _ _))

section Acted
variable {ask : Ask} {answer : Answer} {call : PlanRequest → CallFaults} {gs : List Group}
  {v : Verdict} {t : Turn}

/-- The outstanding response comes to a turn that goes on, if at all, from `startState`: `ds` are
the new successes, and `tail` what else the verdict queues. -/
theorem turned (qs ds tail : List PlanResultDTO) (hs : w.starting = false)
    (hp : w.pending = [⟨w.sessionNo, ask⟩]) (hw : w.coord.Open (qs.map .result) gs)
    (hv : v.results = ds ++ tail) (htail : ∀ dto ∈ tail, dto.success = false)
    (hnext : ∀ s, v.next = some s → tail = [] ∧
      (w.settle 0 ⟨w.sessionNo, ask⟩ answer t).Along w.sessionNo (w.course (qs ++ ds)) s)
    (hdrives : (w.settle 0 ⟨w.sessionNo, ask⟩ answer t).Drives w.sessionNo (w.course (qs ++ ds)))
    (ht : v.Outcome ask.caught call w.coord (qs.map .result) gs t) :
    Course (w.settle 0 ⟨w.sessionNo, ask⟩ answer t) := by
  have hpend : (w.settle 0 ⟨w.sessionNo, ask⟩ answer t).pending =
      t.issued.map fun e => ⟨w.sessionNo, .plan e.1 e.2⟩ := by
    simp [State.settle, hp]
  have stop (tail' : List QueueItem) (hi : t.issued = []) (he : t.coord.cancelEvent = some false)
      (hq : t.coord.planQueue = some ((qs ++ ds).map .result ++ tail'))
      (htail' : ∀ dto, .result dto ∈ tail' → dto.success = false) :
      Course (w.settle 0 ⟨w.sessionNo, ask⟩ answer t) := by
    rw [hi] at hpend
    exact .closing (qs ++ ds) tail' hq htail' (.inr ⟨he, hpend, hs⟩) hdrives
  cases ht with
  | stopped hn =>
    refine stop (tail.map .result ++ [.stopIteration]) rfl hw.event (by simp [hv]) fun dto hdto => ?_
    exact htail dto (by simpa using hdto)
  | finished startState s hn =>
    obtain ⟨rfl, -⟩ := hnext _ hn
    exact stop [.stopIteration] rfl hw.event (by simp [hv]) (by simp)
  | failed r rest dto hn hgs hne hr ho =>
    obtain ⟨rfl, -⟩ := hnext _ hn
    refine stop [.result dto, .stopIteration] rfl hw.event (by simp [hv]) fun dto' hdto => ?_
    obtain rfl : dto' = dto := by simpa using hdto
    exact outcome_error (by simp) ho
  | issued r rest message hn =>
    obtain ⟨rfl, halong⟩ := hnext _ hn
    exact .planning r message (qs ++ ds) rest hs hpend
      ⟨hw.event, by simp [State.settle, hv], r.group, rfl⟩ halong

theorem acted (h : Course w) {i : Nat} {o : Outstanding} (ho : w.pending[i]? = some o)
    (hcont : Continues w (.deliver i answer call)) {q : List QueueItem} (hc : w.coord.Open q gs)
    (hv : o.ask.verdict answer = some v) (ht : v.Outcome o.ask.caught call w.coord q gs t) :
    Course (w.settle i o answer t) := by
  cases h with
  | starting gs' hs hp => simp [hp] at ho
  | closing qs tail hq htail he =>
    rcases he with he | ⟨-, hp, -⟩
    · simpa [he] using hc.event
    · simp [hp] at ho
  | fetching gs' hs hp hw hy =>
    obtain ⟨rfl, rfl⟩ := eq_of_pending_singleton hp ho
    obtain ⟨rfl, rfl⟩ := hw.unique hc
    have hnil : w.course [] = [] := by simp [State.course, hy]
    cases Ask.judged hv with
    | scene robotState ha =>
      have halong : (w.settle 0 ⟨w.sessionNo, .scene⟩ answer t).Along w.sessionNo [] robotState :=
        ⟨robotState, by simp [State.Fetched, State.settle, ha], .nil _⟩
      refine turned [] [] [] hs hp hw rfl (by rintro _ ⟨⟩) ?_ (.inl hnil) ht
      rintro _ ⟨⟩
      exact ⟨rfl, hnil ▸ halong⟩
    | noScene dto hd =>
      refine turned [] [] [dto] hs hp hw rfl ?_ (fun _ hn => by cases hn) (.inl hnil) ht
      intro dto' hdto
      rw [List.mem_singleton.1 hdto]
      exact hd
  | planning r message qs gs' hs hp hw halong =>
    obtain ⟨rfl, rfl⟩ := eq_of_pending_singleton hp ho
    obtain ⟨rfl, rfl⟩ := hw.unique hc
    have hcourse (dto : PlanResultDTO) :
        w.course (qs ++ [dto]) = w.course qs ++ trajectories dto := by
      simp [State.course]
    have halong' : (w.settle 0 ⟨w.sessionNo, .plan r message⟩ answer t).Along w.sessionNo
        (w.course qs) r.startState := halong.mono (List.subset_append_left _ _)
    -- a success is the motion that its planner promised
    have hmotion {dto : PlanResultDTO} (hr : r.toResult answer = some dto)
        (hd : dto.success = true) : ∃ s, Motion r.startState (trajectories dto) s ∧
          (w.settle 0 ⟨w.sessionNo, .plan r message⟩ answer t).Along w.sessionNo
            (w.course (qs ++ [dto])) s := by
      obtain ⟨s, hs⟩ := hcont _ ho r message dto rfl hr hd
      exact ⟨s, hs, hcourse dto ▸ halong'.append hs⟩
    cases Ask.judged hv with
    | planned r message dto endState hr hd he =>
      obtain ⟨s, hs', hnew⟩ := hmotion hr hd
      obtain rfl := hs'.extractEndState he
      refine turned qs [dto] [] hs hp hw rfl (by rintro _ ⟨⟩) ?_ hnew.drives ht
      rintro _ ⟨⟩
      exact ⟨rfl, hnew⟩
    | noEndState r message dto dto' hr hd hd' =>
      obtain ⟨s, -, hnew⟩ := hmotion hr hd
      refine turned qs [dto] [dto'] hs hp hw rfl ?_ (fun _ hn => by cases hn) hnew.drives ht
      intro d hd
      rw [List.mem_singleton.1 hd]
      exact hd'
    | notPlanned r message dto hr hd =>
      refine turned qs [] [dto] hs hp hw rfl ?_ (fun _ hn => by cases hn) ?_ ht
      · intro d hd'
        rw [List.mem_singleton.1 hd']
        exact hd
      · rw [List.append_nil]
        exact halong'.drives

end Acted

theorem deliver (hcoh : Coherent w.coord) (h : Course w) {i : Nat} {answer : Answer}
    {call : PlanRequest → CallFaults} (hcont : Continues w (.deliver i answer call))
    (hs : step w (.deliver i answer call) = some w') : Course w' := by
  cases step_cases hcoh hs with
  | ignored i answer call o ho hc => exact h.ignored hc
  | acted i answer call o ho q gs hc v hv t ht => exact h.acted ho hcont hc hv ht

theorem gotResult (h : Course w) {dto : PlanResultDTO} {q : List QueueItem}
    (hq : w.coord.planQueue = some (.result dto :: q)) (hdto : dto.success = true)
    (consumer : Consumer) :
    Course { w with
      coord := { w.coord with planQueue := some q }
      consumer := consumer
      yielded := w.yielded ++ [(w.sessionNo, dto)] } := by
  set w' : State := { w with
      coord := { w.coord with planQueue := some q }
      consumer := consumer
      yielded := w.yielded ++ [(w.sessionNo, dto)] } with hw'
  have hcourse (qs : List PlanResultDTO) : w'.course qs = w.course (dto :: qs) := by
    simp [hw', State.course, State.results]
  cases h with
  | starting gs hs hp hw => simpa using hw.queue.symm.trans hq
  | fetching gs hs hp hw => simpa using hw.queue.symm.trans hq
  | planning r message qs gs hs hp hw ht =>
    have hqueue := hw.queue.symm.trans hq
    rw [← List.append_nil (qs.map _)] at hqueue
    obtain ⟨qs', rfl, rfl⟩ := map_result_append_eq_cons hqueue (by simp)
    exact .planning r message qs' gs hs hp ⟨hw.event, by simp [hw'], hw.session⟩ (hcourse qs' ▸ ht)
  | closing qs tail hq' htail he ht =>
    have hhead : tail.head? ≠ some (.result dto) := fun hhead => by
      have hfail := htail dto (List.mem_of_mem_head? hhead)
      rw [hdto] at hfail
      cases hfail
    obtain ⟨qs', rfl, rfl⟩ := map_result_append_eq_cons (hq'.symm.trans hq) hhead
    exact .closing qs' tail rfl htail he (hcourse qs' ▸ ht)

end Course

end Planning

namespace Execution

/-! ### What the thread has sent -/

theorem Goal.sends_of_log {g g' : Goal} {e : Event} (h : g'.log = g.log ++ [e]) :
    g'.sends = g.sends ++ e.sent?.toList := by
  rw [sends, h, List.filterMap_append]
  rfl

/-- What was sent for a goal whose thread stands at the given place, and what it still holds. -/
def Goal.Steered (p : Planning.State) (g : Goal) : Pc → Prop
  | .accepted | .ready => g.sends = []
  | .requesting | .iterating => Planning.Course p ∧ g.sends = p.course []
  | .planned dto => p.Drives g.session g.sends ∧ (dto.success = true →
      Planning.Course p ∧ g.sends ++ trajectories dto = p.course [])
  | .approved dto => Planning.Course p ∧ g.sends ++ trajectories dto = p.course []
  | .executing _ rest | .waiting _ rest => Planning.Course p ∧ g.sends ++ rest = p.course []
  | .finishing | .failing _ => p.Drives g.session g.sends

namespace Goal.Steered

variable {p p' : Planning.State} {g g' : Goal} {a : Action}

theorem drives (hp : g.Placed p) (h : g.Steered p g.pc) : p.Drives g.session g.sends := by
  have loop (rest : List RobotTrajectory) (hpc : g.pc.planning = true)
      (h : Planning.Course p ∧ g.sends ++ rest = p.course []) : p.Drives g.session g.sends := by
    have hyield := h.1.yielded
    rw [← h.2, ← hp.planning hpc] at hyield
    exact hyield.of_append
  cases hpc : g.pc <;> rw [hpc] at h
  case accepted | ready => exact .inl h
  case requesting | iterating =>
    exact loop [] (by rw [hpc]; rfl) ⟨h.1, by rw [List.append_nil, h.2]⟩
  case planned dto => exact h.1
  case approved dto => exact loop _ (by rw [hpc]; rfl) h
  case executing dto rest | waiting dto rest => exact loop _ (by rw [hpc]; rfl) h
  case finishing | failing => exact h

/-- A step that the session alone takes. -/
theorem mono (h : g.Steered p g.pc) (hpc : g'.pc = g.pc)
    (hsame : g'.sends = g.sends ∧ g'.session = g.session)
    (hd : p.delivered ⊆ p'.delivered) (hc : Planning.Course p → Planning.Course p')
    (hcourse : p'.course [] = p.course []) : g'.Steered p' g'.pc := by
  rw [hpc]
  cases hpc : g.pc <;> rw [hpc] at h <;> simp only [Steered, hsame, hcourse] at h ⊢
  case accepted | ready => exact h
  case finishing | failing => exact h.mono hd
  case planned dto => exact ⟨h.1.mono hd, fun hs => ⟨hc (h.2 hs).1, (h.2 hs).2⟩⟩
  all_goals exact ⟨hc h.1, h.2⟩

theorem course_requestScene (hc : Planning.Coherent p.coord) {service : Planning.SceneService}
    (hs : Planning.step p (.requestScene service) = some p') :
    p'.course [] = p.course [] ∧ p'.delivered = p.delivered := by
  cases Planning.step_cases hc hs <;> exact ⟨rfl, rfl⟩

theorem gotResult (hc : Planning.Coherent p.coord) (hplaced : g.Placed p) (hpc : g.pc = .iterating)
    (h : Planning.Course p ∧ g.sends = p.course []) {dto : PlanResultDTO}
    (hn : p.next? = some (.result dto)) (hs : Planning.step p .get = some p') :
    (g.goto (.planned dto)).Steered p' (.planned dto) := by
  obtain ⟨hwait, q, hq⟩ := hplaced.queue_of_next hpc hn
  have hdrives := h.1.yielded
  rw [← h.2, ← hplaced.planning (by rw [hpc]; rfl)] at hdrives
  cases Planning.step_cases hc hs with
  | gotSentinel q' hw hq' => simp [hq] at hq'
  | gotStaleResult dto' q' hw => simp [hwait] at hw
  | gotStaleSentinel q' hw => simp [hwait] at hw
  | gotResult dto' q' hw hq' =>
    obtain ⟨rfl, rfl⟩ : dto = dto' ∧ q = q' := by simpa [hq] using hq'
    refine ⟨hdrives, fun hdto => ⟨h.1.gotResult hq hdto _, ?_⟩⟩
    show g.sends ++ trajectories dto = _
    rw [h.2]
    simp [Planning.State.course, Planning.State.results]

/-- A step of the thread: the goal is steered still, or it has returned. -/
theorem act (hc : Planning.Coherent p.coord) (hl : Planning.Ledger p) (hplaced : g.Placed p)
    (hsteered : (g.pc = .accepted ∨ g.pc = .ready) ∨ g.clean = true → g.Steered p g.pc)
    (ha : Act p g a p' g') (h : (g'.pc = .accepted ∨ g'.pc = .ready) ∨ g'.clean = true) :
    (g'.result = none → g'.Steered p' g'.pc) ∧
      (g'.result.isSome = true → p'.Drives g'.session g'.sends) := by
  have still {k : Goal} {q : Planning.State} (hk : k.result = g.result) (h : k.Steered q k.pc) :
      (k.result = none → k.Steered q k.pc) ∧
        (k.result.isSome = true → q.Drives k.session k.sends) := by
    refine ⟨fun _ => h, fun hr => ?_⟩
    rw [hk, hplaced.running] at hr
    cases hr
  have hclean {pc : Pc} (hpc : g'.pc = pc) (hbegun : pc.begun = true) (heq : g'.clean = g.clean) :
      g.Steered p g.pc :=
    hsteered (.inr (heq ▸ h.resolve_left (Pc.not_before (hpc ▸ hbegun))))
  have halt {k : Goal} {q : Planning.State} {e : String} (hk : k.result = g.result)
      (hpc : k.pc = .failing e) (hsame : k.sends = g.sends ∧ k.session = g.session)
      (hd : q.delivered = p.delivered) (hg : g.Steered p g.pc) :=
    still hk (show k.Steered q k.pc by
      rw [hpc]
      show q.Drives k.session k.sends
      rw [hsame.1, hsame.2]
      exact (hg.drives hplaced).mono (by rw [hd]; exact List.Subset.refl _))
  cases ha with
  | started hpc =>
    have h := hsteered (.inl (.inl hpc))
    rw [hpc] at h
    exact still rfl h
  | halted a e hpc => exact halt rfl rfl ⟨rfl, rfl⟩ rfl (hclean rfl rfl rfl)
  | planAll hpc q hs =>
    have hsends := hsteered (.inl (.inr hpc))
    rw [hpc] at hsends
    have hpend := h.resolve_left (Pc.not_before rfl)
    simp only [Planning.step, Option.ite_none_left_eq_some, Option.some.injEq] at hs
    rw [← hs.2]
    refine still rfl ⟨.setup hl (by simpa using hpend) _, ?_⟩
    have hnil : (p.setup g.goal.groups).results (p.sessionNo + 1) = [] :=
      hl.results_eq_nil (Nat.lt_succ_self _)
    show g.sends = (Planning.State.results _ (p.sessionNo + 1) ++ []).flatMap trajectories
    rw [hnil]
    exact hsends
  | requested hpc hclient q hs =>
    have h := hclean rfl rfl rfl
    rw [hpc] at h
    cases Planning.step_cases hc hs with
    | sceneRequested hstart => exact still rfl ⟨h.1.sceneRequested hstart, h.2⟩
    | sceneUnavailable service hs hunavailable => cases hunavailable hclient
  | notRequested hpc service q hs e =>
    exact halt rfl rfl ⟨rfl, rfl⟩ (course_requestScene hc hs).2 (hclean rfl rfl rfl)
  | iterate hpc q hs =>
    have h := hclean hpc rfl rfl
    refine still rfl ?_
    cases Planning.step_cases hc hs with
    | iterate => exact h.mono rfl ⟨rfl, rfl⟩ (List.Subset.refl _) (·.withConsumer _) rfl
  | polled hpc q hs hp =>
    have h := hclean hpc rfl rfl
    refine still rfl ?_
    cases Planning.step_cases hc hs with
    | polled => exact h.mono rfl ⟨rfl, rfl⟩ (List.Subset.refl _) (·.withConsumer _) rfl
    | pollFailed => simp at hp
  | pollFailed hpc q hs hp =>
    have h := (hclean rfl rfl rfl).drives hplaced
    refine still rfl ⟨?_, by rintro ⟨⟩⟩
    cases Planning.step_cases hc hs with
    | polled => exact h
    | pollFailed => exact h
  | gotResult hpc dto hn q hs =>
    have h := hclean rfl rfl rfl
    rw [hpc] at h
    exact still rfl (gotResult hc hplaced hpc h hn hs)
  | gotSentinel hpc hn q hs =>
    have h := (hclean rfl rfl rfl).drives hplaced
    refine still rfl ?_
    have hd : p.delivered ⊆ p'.delivered := (Planning.step_cases hc hs).delivered_subset
    exact h.mono hd
  | approved dto hpc hcancel hdto =>
    have h := hclean rfl rfl rfl
    rw [hpc] at h
    exact still rfl (h.2 hdto)
  | announced dto hpc | sent dto trajectory rest hpc | answered dto rest hpc | completed dto hpc =>
    have h := hclean rfl rfl rfl
    rw [hpc] at h
    refine still rfl ⟨h.1, ?_⟩
    rw [sends_of_log (g := g) rfl]
    simpa [feedback, Event.sent?] using h.2
  | answerFailed dto rest hpc answer q hp e =>
    have hsends : ((g.emit (.answered answer)).goto (.failing e)).sends = g.sends := by
      rw [sends_of_log (g := g) rfl]
      exact List.append_nil _
    refine halt rfl rfl ⟨hsends, rfl⟩ ?_ (hclean rfl rfl rfl)
    rcases hp with rfl | rfl <;> rfl
  | succeeded hpc =>
    have h := (hclean hpc rfl rfl).drives hplaced
    exact ⟨by rintro ⟨⟩, fun _ => h⟩
  | failed e hpc =>
    have h := (hclean hpc rfl rfl).drives hplaced
    rw [Planning.getD_abandon]
    exact ⟨by rintro ⟨⟩, fun _ => h⟩

end Goal.Steered

/-! ### Runs -/

/-- The planner responses that arrive are motions from where they were asked to start. -/
def Continues (w : State) : Label → Prop
  | .deliver i answer call => Planning.Continues w.plan (.deliver i answer call)
  | .accept _ | .cancel | .thread _ => True

/-- Every goal planned with nothing outstanding was sent one motion. -/
structure Smooth (w : State) : Prop where
  current : ∀ g ∈ w.current, (g.pc = .accepted ∨ g.pc = .ready) ∨ g.clean = true →
    g.Steered w.plan g.pc
  finished : ∀ g ∈ w.finished, g.clean = true → w.plan.Drives g.session g.sends

theorem Smooth.step {w w' : State} {l : Label} (hw : Sound w) (h : Smooth w) (hl : Continues w l)
    (hs : step w l = some w') : Smooth w' := by
  have hd := (step_cases hs).delivered_subset hw
  have hfinished : ∀ g ∈ w.finished, g.clean = true → w'.plan.Drives g.session g.sends :=
    fun g hg hc => (h.finished g hg hc).mono hd
  cases step_cases hs with
  | accept goal hc =>
    refine ⟨?_, hfinished⟩
    rintro _ ⟨⟩ -
    rfl
  | cancel g hg =>
    refine ⟨?_, hfinished⟩
    rintro _ ⟨⟩ hclean
    exact (h.current g hg hclean).mono rfl ⟨rfl, rfl⟩ (List.Subset.refl _) (·.cancel) rfl
  | deliver i answer call p hdeliver =>
    refine ⟨fun g hg hclean => (h.current g hg hclean).mono rfl ⟨rfl, rfl⟩ hd
      (·.deliver hw.coherent hl hdeliver) ?_, hfinished⟩
    cases Planning.step_cases hw.coherent hdeliver <;> rfl
  | thread a g hg p g' ha =>
    have hact := fun hclean => Goal.Steered.act hw.coherent hw.ledger (hw.current g hg)
      (h.current g hg) ha hclean
    rw [State.advance_plan] at hfinished
    rcases w.advance_cases p g' with ⟨hr, heq⟩ | ⟨hr, heq⟩ <;> rw [heq]
    · refine ⟨?_, hfinished⟩
      rintro _ ⟨⟩ hclean
      exact (hact hclean).1 hr
    · refine ⟨by rintro _ ⟨⟩, fun k hk hclean => ?_⟩
      rcases List.mem_append.1 hk with hk | hk
      · exact hfinished k hk hclean
      · obtain rfl := List.mem_singleton.1 hk
        exact (hact (.inr hclean)).2 hr

/-- In a run in which every successful planner response is a motion from the start state of its
request, the trajectories sent for a goal planned with nothing outstanding make one motion: the first
starts at the scene state its session fetched, every other one where the one before it ends. -/
theorem motion_continuous (c : PlanningCoordinator) (w : State) (h : Lts.Runs step Continues (init c) w)
    (g : Goal) (hg : g ∈ w.goals) (hclean : g.clean = true) :
    g.sends = [] ∨ ∃ s₀ s, w.plan.Fetched g.session s₀ ∧ Motion s₀ g.sends s := by
  obtain ⟨hsound, hsmooth⟩ := h.invariant (I := fun w => Sound w ∧ Smooth w)
    ⟨.init c, by rintro _ ⟨⟩, by rintro _ ⟨⟩⟩ fun hw hl hs => ⟨hw.1.step hs, hw.2.step hw.1 hl hs⟩
  have hdrives : w.plan.Drives g.session g.sends := by
    rcases List.mem_append.1 hg with hg | hg
    · exact hsmooth.finished g hg hclean
    · have hg := Option.mem_toList.1 hg
      exact (hsmooth.current g hg (.inr hclean)).drives (hsound.current g hg)
  exact hdrives.imp_right fun ⟨s, s₀, hf, hm⟩ => ⟨s₀, s, hf, hm⟩

/-- A plan of one joint that goes from `a` to `b`. -/
def straight (a b : ℚ) : MotionSequenceResponse where
  errorCode := MoveItErrorCodes.SUCCESS
  plannedTrajectories :=
    [{ jointTrajectory := {
        jointNames := ["joint"], points := [{ positions := [a] }, { positions := [b] }] } }]

def straightScene : RobotState := { jointState := { name := ["joint"], position := [0] } }

/-- The second group is planned while the first executes. -/
def executeStraight : List Label :=
  [.accept threeGroups, .thread (.start true), .thread .planAll, .thread (.requestScene .available),
    .thread .iterate, .thread .poll, .deliver 0 (.scene (.value (some straightScene))) fun _ => {},
    .deliver 0 (.pilz (.value (straight 0 1))) fun _ => {}, .thread .get, .thread .check,
    .thread (.announce none), .thread (.send true none),
    .deliver 0 (.pilz (.value (straight 1 2))) fun _ => {}, .thread (.answer .succeeded),
    .thread (.complete none), .thread .poll, .thread .get, .thread .check, .thread (.announce none),
    .thread (.send true none)]

theorem motion_continuous_executeStraight : ∃ (w : State) (g : Goal), w.current = some g ∧
    g.sends.length = 2 ∧
      (g.sends = [] ∨ ∃ s₀ s, w.plan.Fetched g.session s₀ ∧ Motion s₀ g.sends s) := by
  have h : Lts.Trace step Continues (init (PlanningCoordinator.onActivate (.new "manipulator")))
      executeStraight _ :=
    .cons trivial rfl <| .cons trivial rfl <| .cons trivial rfl <| .cons trivial rfl <|
      .cons trivial rfl <| .cons trivial rfl <|
      .cons (fun o ho r message dto hask => by cases ho; cases hask) rfl <|
      .cons (fun o ho r message dto hask hres _ => by
        cases ho; cases hask; cases hres; exact ⟨_, .cons trivial rfl (.nil _)⟩) rfl <|
      .cons trivial rfl <| .cons trivial rfl <| .cons trivial rfl <| .cons trivial rfl <|
      .cons (fun o ho r message dto hask hres _ => by
        cases ho; cases hask; cases hres; exact ⟨_, .cons trivial rfl (.nil _)⟩) rfl <|
      .cons trivial rfl <| .cons trivial rfl <| .cons trivial rfl <| .cons trivial rfl <|
      .cons trivial rfl <| .cons trivial rfl <| .cons trivial rfl <| .nil _
  exact ⟨_, _, rfl, rfl, motion_continuous _ _ h.runs _ (List.mem_singleton_self _) rfl⟩

end Execution
end MovementController
