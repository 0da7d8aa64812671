import MovementController.Planning
import Mathlib.Data.List.Chain

/-!
# Planning sessions do not mix

The callbacks read the coordinator's current event, queue and session, not those of the session that
issued the request they answer. A late response is dropped only while the current event is set, so
sessions are kept apart in the runs in which no successful response to an earlier session's request
arrives while the current event is unset; without that condition they are not.
-/

namespace MovementController
open PlanningCoordinator
namespace Planning

/-! ### The property -/

namespace State

def Fetched (w : State) (k : Nat) (robotState : RobotState) : Prop :=
  (⟨k, .scene⟩, .scene (.value (some robotState))) ∈ w.delivered

/-- `r'` starts from the end state of the successful result of `r`. -/
def Follows (w : State) (k : Nat) (r r' : PlanRequest) : Prop :=
  ∃ dto, w.Answered k r dto ∧ dto.success = true ∧
    BasePlannerService.extractEndState dto.motionPlan = .ok r'.startState

/-- `dto` is the result of a request for a group of the `k`-th session, dispatched in it. -/
def Own (w : State) (k : Nat) (dto : PlanResultDTO) : Prop :=
  ∃ r ∈ w.requests k, r.group ∈ w.groupsOf k ∧ w.Answered k r dto

end State

/-- The `k`-th session plans its own groups in order, the first from its own scene state and each
later one from the end state of the one before. -/
structure Threaded (w : State) (k : Nat) : Prop where
  groups : (w.requests k).map (·.group) <+: w.groupsOf k
  first : ∀ r ∈ (w.requests k).head?, w.Fetched k r.startState
  linked : (w.requests k).IsChain (w.Follows k)

/-- Every session yields its own successes only, and its planning is threaded. -/
structure SessionsSeparate (w : State) : Prop where
  yielded : ∀ k dto, (k, dto) ∈ w.yielded → dto.success = true → w.Own k dto
  threaded : ∀ k, Threaded w k

/-- A new `plan_all` is issued only when nobody iterates. -/
def Disciplined (w : State) : Label → Prop
  | .planAll _ => w.consumer = .idle
  | _ => True

/-- No successful response to a request of an earlier session arrives while the event is unset. -/
def NoForeignSuccess (w : State) : Label → Prop
  | .deliver i answer _ =>
    w.coord.cancelEvent = some false → answer.succeeded = true →
      ∀ o ∈ w.pending[i]?, o.session = w.sessionNo
  | _ => True

instance (w : State) : (l : Label) → Decidable (Disciplined w l)
  | .planAll _ => inferInstanceAs (Decidable (w.consumer = .idle))
  | .requestScene _ | .cancel | .iterate | .poll | .get | .abandon | .deliver .. => .isTrue trivial

instance (w : State) : (l : Label) → Decidable (NoForeignSuccess w l)
  | .deliver i answer _ => inferInstanceAs (Decidable (w.coord.cancelEvent = some false →
      answer.succeeded = true → ∀ o ∈ w.pending[i]?, o.session = w.sessionNo))
  | .planAll _ | .requestScene _ | .cancel | .iterate | .poll | .get | .abandon => .isTrue trivial

/-! ### Growing histories -/

section Mono
variable {w w' : State} {k : Nat}

theorem groupsOf_of_prefix (hp : w.planned <+: w'.planned) (hk : k ≤ w.planned.length) :
    w'.groupsOf k = w.groupsOf k := by
  obtain ⟨l, hl⟩ := hp
  cases k with
  | zero => rfl
  | succ k => simp [State.groupsOf, ← hl, List.getElem?_append_left (Nat.lt_of_succ_le hk)]

theorem Follows.mono (hd : w.delivered ⊆ w'.delivered) {r r' : PlanRequest}
    (h : w.Follows k r r') : w'.Follows k r r' :=
  let ⟨dto, ha, hs⟩ := h
  ⟨dto, State.Answered.mono hd ha, hs⟩

theorem Own.mono (hd : w.delivered ⊆ w'.delivered) (hr : w.requests k ⊆ w'.requests k)
    (hg : w.groupsOf k ⊆ w'.groupsOf k) {dto : PlanResultDTO} (h : w.Own k dto) : w'.Own k dto :=
  let ⟨r, hm, hgr, ha⟩ := h
  ⟨r, hr hm, hg hgr, State.Answered.mono hd ha⟩

namespace Threaded

theorem congr (h : Threaded w k) (hd : w.delivered ⊆ w'.delivered)
    (hr : w'.requests k = w.requests k) (hg : w'.groupsOf k = w.groupsOf k) : Threaded w' k := by
  refine ⟨?_, ?_, ?_⟩ <;> simp only [hr, hg]
  · exact h.groups
  · exact fun r hr => hd (h.first r hr)
  · exact h.linked.imp fun _ _ => Follows.mono hd

theorem snoc (h : Threaded w k) (hd : w.delivered ⊆ w'.delivered) {r : PlanRequest}
    {gs : List Group} (hr : w'.requests k = w.requests k ++ [r])
    (hg : w'.groupsOf k = (w.requests k).map (·.group) ++ r.group :: gs)
    (hfirst : w.requests k = [] → w'.Fetched k r.startState)
    (hlast : ∀ r' ∈ (w.requests k).getLast?, w'.Follows k r' r) : Threaded w' k := by
  refine ⟨?_, ?_, ?_⟩ <;> rw [hr]
  · exact ⟨gs, by simp [hg]⟩
  · intro r' hr'
    cases hrs : w.requests k with
    | nil =>
      obtain rfl : r = r' := by simpa [hrs] using hr'
      exact hfirst hrs
    | cons r₀ rs =>
      obtain rfl : r₀ = r' := by simpa [hrs] using hr'
      exact hd (h.first r₀ (by simp [hrs]))
  · refine List.isChain_append.2 ⟨h.linked.imp fun _ _ => Follows.mono hd, by simp, ?_⟩
    intro r' hr' r'' hr''
    obtain rfl : r = r'' := by simpa using hr''
    exact hlast r' hr'

end Threaded

end Mono

/-! ### The invariant -/

/-- The planning chain of a session: nothing is outstanding, or one request `ask` is, which answers
for the last group dispatched, and the groups are those dispatched and those still to plan. -/
def Chain (groups : List Group) (asks : List Ask) (rs : List PlanRequest) (gs : List Group) : Prop :=
  asks = [] ∨ ∃ ask, asks = [ask] ∧ groups = rs.map (·.group) ++ gs ∧ rs.getLast? = ask.request?

/-- The items the consumer can still take. -/
def State.items (w : State) : List QueueItem :=
  w.coord.planQueue.getD [] ++ match w.consumer with
    | .stale q => q
    | _ => []

structure Separated (w : State) : Prop where
  coherent : Coherent w.coord
  ledger : Ledger w
  separate : SessionsSeparate w
  queued : ∀ dto, .result dto ∈ w.items → dto.success = true → w.Own w.sessionNo dto
  chain : ∀ q gs, w.coord.Open q gs →
    Chain (w.groupsOf w.sessionNo) (w.outstanding w.sessionNo) (w.requests w.sessionNo) gs
  fresh : w.starting = true → ∀ q gs, w.coord.Open q gs →
    w.outstanding w.sessionNo = [] ∧ w.requests w.sessionNo = [] ∧ gs = w.groupsOf w.sessionNo

namespace Separated

variable {w w' : State} {l : Label}

theorem init (c : PlanningCoordinator) : Separated (init c) where
  coherent := .inl (Coherent.closed_clearSession c)
  ledger := .init c
  separate := ⟨by simp [Planning.init], fun k => ⟨by simp [Planning.init, State.requests],
    by simp [Planning.init, State.requests], by simp [Planning.init, State.requests]⟩⟩
  queued := by simp [Planning.init, State.items, clearSession]
  chain := fun q gs h => by simpa [Planning.init, clearSession] using h.event
  fresh := by simp [Planning.init]

/-- A step that issues and answers no request, and yields nothing that was not to be taken. -/
theorem frame (h : Separated w) {c : PlanningCoordinator} {starting started ended : Bool}
    {consumer : Consumer} {yielded : List (Nat × PlanResultDTO)}
    (hw' : w' = { w with
      coord := c, starting := starting, started := started, ended := ended, consumer := consumer,
      yielded := yielded })
    (hc : Coherent c) (hl : Ledger w') (hopen : ∀ q gs, c.Open q gs → ∃ q', w.coord.Open q' gs)
    (hs : starting = true → w.starting = true)
    (hi : ∀ dto, .result dto ∈ w'.items → dto.success = true → .result dto ∈ w.items)
    (hy : ∀ k dto, (k, dto) ∈ yielded → dto.success = true →
      (k, dto) ∈ w.yielded ∨ k = w.sessionNo ∧ .result dto ∈ w.items) : Separated w' := by
  subst hw'
  refine ⟨hc, hl, ⟨fun k dto hm hd => ?_, fun k => ?_⟩, fun dto hm hd => ?_, fun q gs hq => ?_,
    fun hst q gs hq => ?_⟩
  · rcases hy k dto hm hd with hold | ⟨rfl, hnew⟩
    · exact h.separate.yielded k dto hold hd
    · exact h.queued dto hnew hd
  · exact (h.separate.threaded k).congr (fun _ h => h) rfl rfl
  · exact h.queued dto (hi dto hm hd) hd
  · obtain ⟨q', hq'⟩ := hopen q gs hq
    exact h.chain q' gs hq'
  · obtain ⟨q', hq'⟩ := hopen q gs hq
    exact h.fresh (hs hst) q' gs hq'

theorem setup (h : Separated w) (groups : List Group) (hl : Ledger (w.setup groups))
    (hc : w.consumer = .idle) :
    Separated (w.setup groups) := by
  have hold (k : Nat) (hk : k ≤ w.sessionNo) : (w.setup groups).groupsOf k = w.groupsOf k :=
    groupsOf_of_prefix (List.prefix_append _ _) (h.ledger.planned ▸ hk)
  have hnew : (w.setup groups).groupsOf (w.sessionNo + 1) = groups := by
    simp [State.groupsOf, State.setup, ← h.ledger.planned]
  have hle {k : Nat} {r : PlanRequest} (hr : r ∈ w.requests k) : k ≤ w.sessionNo :=
    h.ledger.dispatched _ (State.mem_requests.1 hr)
  have hout : (w.setup groups).outstanding (w.setup groups).sessionNo = [] :=
    h.ledger.outstanding_eq_nil (Nat.lt_succ_self _)
  have hreq : (w.setup groups).requests (w.setup groups).sessionNo = [] :=
    h.ledger.requests_eq_nil (Nat.lt_succ_self _)
  refine ⟨.inr ⟨_, _, _, rfl, rfl, rfl⟩, hl, ⟨fun k dto hm hd => ?_, fun k => ?_⟩, ?_,
    fun q gs _ => .inl hout, fun _ q gs hq => ⟨hout, hreq, ?_⟩⟩
  · obtain ⟨r, hr, hg, ha⟩ := h.separate.yielded k dto hm hd
    exact ⟨r, hr, by rwa [hold k (hle hr)], ha⟩
  · rcases hk : w.requests k with _ | ⟨r, rs⟩
    · have hk' : (w.setup groups).requests k = [] := hk
      exact ⟨by simp [hk'], by simp [hk'], by simp [hk']⟩
    · exact (h.separate.threaded k).congr (fun _ h => h) rfl
        (hold k (hle (by rw [hk]; exact List.mem_cons_self)))
  · simp [State.items, State.setup, planAllSetup, hc, Consumer.detach]
  · obtain ⟨current, hs⟩ := hq.session
    simp only [State.setup, planAllSetup, Option.some.injEq, PlanningSessionDTO.mk.injEq] at hs
    exact hs.1.symm.trans hnew.symm

theorem sceneRequested (h : Separated w) (hl : Ledger w.sceneRequested) (hs : w.starting = true) :
    Separated w.sceneRequested := by
  refine ⟨h.coherent, hl, ⟨h.separate.yielded, fun k =>
    (h.separate.threaded k).congr (fun _ h => h) rfl rfl⟩, h.queued, fun q gs hq => ?_, nofun⟩
  obtain ⟨ho, hr, rfl⟩ := h.fresh hs q gs hq
  have hout : w.sceneRequested.outstanding w.sessionNo = [.scene] := by
    rw [State.sceneRequested_outstanding, ho, List.nil_append]
  have hreq : w.sceneRequested.requests w.sessionNo = [] := hr
  show Chain (w.groupsOf w.sessionNo) (w.sceneRequested.outstanding w.sessionNo)
    (w.sceneRequested.requests w.sessionNo) (w.groupsOf w.sessionNo)
  exact .inr ⟨.scene, hout, by rw [hreq]; rfl, by rw [hreq]; rfl⟩

section Settle
variable {i : Nat} {o : Outstanding} {answer : Answer} {t : Turn}

theorem settle (h : Separated w) (ho : w.pending[i]? = some o) (hc : Coherent t.coord)
    (hthread : Threaded (w.settle i o answer t) w.sessionNo)
    (hqueued : ∀ dto, .result dto ∈ t.coord.planQueue.getD [] → dto.success = true →
      .result dto ∈ w.coord.planQueue.getD [] ∨ (w.settle i o answer t).Own w.sessionNo dto)
    (hchain : ∀ q gs, t.coord.Open q gs → Chain (w.groupsOf w.sessionNo)
      ((w.settle i o answer t).outstanding w.sessionNo)
      ((w.settle i o answer t).requests w.sessionNo) gs)
    (hfresh : w.starting = true → ∀ q gs, t.coord.Open q gs →
      (w.settle i o answer t).outstanding w.sessionNo = [] ∧
      (w.settle i o answer t).requests w.sessionNo = [] ∧ gs = w.groupsOf w.sessionNo) :
    Separated (w.settle i o answer t) := by
  have hd : w.delivered ⊆ (w.settle i o answer t).delivered := List.subset_append_left _ _
  have hown (k : Nat) (dto : PlanResultDTO) (hk : w.Own k dto) :
      (w.settle i o answer t).Own k dto :=
    Own.mono hd (fun r hr => State.mem_requests.2
      (List.mem_append_left _ (State.mem_requests.1 hr))) (fun _ h => h) hk
  refine ⟨hc, h.ledger.settle ho, ⟨fun k dto hm hs => ?_, fun k => ?_⟩, ?_, hchain, hfresh⟩
  · exact hown k dto (h.separate.yielded k dto hm hs)
  · rcases Decidable.em (k = w.sessionNo) with rfl | hk
    · exact hthread
    · exact (h.separate.threaded k).congr hd (State.settle_requests_of_ne hk) rfl
  · intro dto hm hs
    rcases List.mem_append.1 hm with hm | hm
    · rcases hqueued dto hm hs with hm | hm
      · exact hown _ dto (h.queued dto (List.mem_append_left _ hm) hs)
      · exact hm
    · exact hown _ dto (h.queued dto (List.mem_append_right _ hm) hs)

/-- The session is closed or cancelled. -/
theorem ignored (h : Separated w) (ho : w.pending[i]? = some o)
    (hc : w.coord.Closed ∨ w.coord.cancelEvent = some true) :
    Separated (w.settle i o answer ⟨w.coord, [], []⟩) := by
  have hopen (q : List QueueItem) (gs : List Group) : ¬ w.coord.Open q gs := by
    intro hq
    rcases hc with hc | hc
    · simpa [hc.event] using hq.event
    · simpa [hc] using hq.event
  refine h.settle ho h.coherent ?_ (fun dto hm _ => .inl hm) (fun q gs hq => absurd hq (hopen q gs))
    fun _ q gs hq => absurd hq (hopen q gs)
  exact (h.separate.threaded _).congr (List.subset_append_left _ _)
    (by rw [State.settle_requests, List.append_nil]) rfl

/-- A failed response to a request of an earlier session. -/
theorem actedForeign (h : Separated w) (ho : w.pending[i]? = some o)
    (hk : o.session ≠ w.sessionNo) {q : List QueueItem} {gs : List Group} (hc : w.coord.Open q gs)
    {v : Verdict} (hnext : v.next = none) (hres : ∀ dto ∈ v.results, dto.success = false)
    {call : PlanRequest → CallFaults} (ht : v.Outcome o.ask.caught call w.coord q gs t) :
    Separated (w.settle i o answer t) := by
  have hreq : (w.settle i o answer t).requests w.sessionNo = w.requests w.sessionNo ++ t.dispatched :=
    State.settle_requests
  have hout := State.settle_outstanding_of_ne answer t ho hk
  rcases ht.dispatches with ⟨hd, hi⟩ | ⟨r, rest, hn, -⟩
  swap
  · simp [hnext] at hn
  rw [hd, List.append_nil] at hreq
  rw [hi, List.map_nil, List.append_nil] at hout
  have hopen {q' : List QueueItem} {gs' : List Group} (hq : t.coord.Open q' gs') :
      w.coord.Open q gs' := by
    cases ht with
    | stopped => exact ⟨hc.event, hc.queue, hq.session⟩
    | _ => simp_all
  refine h.settle ho (Outcome.coherent hc ht) ?_ ?_ (fun q' gs' hq => ?_) fun hs q' gs' hq => ?_
  · exact (h.separate.threaded _).congr (List.subset_append_left _ _) hreq rfl
  · intro dto hm hs
    rcases ht.queued (by simp) hm hs with hm | hm
    · exact .inl (by rw [hc.queue]; exact hm)
    · simp [hres dto hm] at hs
  · rw [hreq, hout]
    exact h.chain q gs' (hopen hq)
  · rw [hreq, hout]
    exact h.fresh hs q gs' (hopen hq)

/-- A response to the outstanding request of the session. -/
theorem actedOwn (h : Separated w) (ho : w.pending[i]? = some o)
    (hk : o.session = w.sessionNo) {q : List QueueItem} {gs : List Group} (hc : w.coord.Open q gs)
    {v : Verdict} (hv : o.ask.verdict answer = some v)
    {call : PlanRequest → CallFaults} (ht : v.Outcome o.ask.caught call w.coord q gs t) :
    Separated (w.settle i o answer t) := by
  have hmem : o.ask ∈ w.outstanding w.sessionNo := by
    simp only [State.outstanding, List.mem_map, List.mem_filter]
    exact ⟨o, ⟨List.mem_of_getElem? ho, by simpa using hk⟩, rfl⟩
  obtain ⟨ask, hone, hg, hlast⟩ := (h.chain q gs hc).resolve_left (List.ne_nil_of_mem hmem)
  obtain ⟨rfl, hout⟩ := State.settle_outstanding_of_eq answer t ho hk hone
  have hreq : (w.settle i o answer t).requests w.sessionNo = w.requests w.sessionNo ++ t.dispatched :=
    State.settle_requests
  have hdel : (⟨w.sessionNo, o.ask⟩, answer) ∈ (w.settle i o answer t).delivered := by
    simp [State.settle, ← hk]
  -- the response continues the thread, whatever it is the response to
  have hnext {r : PlanRequest} (hn : v.next = some r.startState) :
      (w.requests w.sessionNo = [] → (w.settle i o answer t).Fetched w.sessionNo r.startState) ∧
      ∀ r' ∈ (w.requests w.sessionNo).getLast?, (w.settle i o answer t).Follows w.sessionNo r' r := by
    rcases Ask.verdict_next hv hn with ⟨ha, rfl⟩ | ⟨r₀, message, dto, ha, hr₀, hs, he⟩
    · rw [ha] at hlast hdel
      exact ⟨fun _ => hdel, fun r' hr' => by simp [hlast, Ask.request?] at hr'⟩
    · rw [ha] at hlast hdel
      refine ⟨fun hnil => by simp [hnil, Ask.request?] at hlast, fun r' hr' => ?_⟩
      obtain rfl : r₀ = r' := by simpa [hlast, Ask.request?] using hr'
      exact ⟨dto, ⟨message, answer, hdel, hr₀⟩, hs, he⟩
  have hthread : Threaded (w.settle i o answer t) w.sessionNo := by
    rcases ht.dispatches with ⟨hd, -⟩ | ⟨r, rest, hn, hgs, hd, -⟩
    · exact (h.separate.threaded _).congr (List.subset_append_left _ _)
        (by rw [hreq, hd, List.append_nil]) rfl
    · exact (h.separate.threaded _).snoc (List.subset_append_left _ _) (by rw [hreq, hd])
        (hgs ▸ hg) (hnext hn).1 (hnext hn).2
  refine h.settle ho (Outcome.coherent hc ht) hthread ?_ (fun q' gs' hq => ?_) fun hs => ?_
  · intro dto hm hs
    rcases ht.queued (by simp) hm hs with hm | hm
    · exact .inl (by rw [hc.queue]; exact hm)
    · obtain ⟨r₀, message, ha, hr₀⟩ := Ask.verdict_results hv hm hs
      rw [ha] at hlast hdel
      have hr : r₀ ∈ w.requests w.sessionNo := List.mem_of_getLast? hlast
      refine .inr ⟨r₀, by rw [hreq]; exact List.mem_append_left _ hr, ?_, message, answer, hdel, hr₀⟩
      show r₀.group ∈ w.groupsOf w.sessionNo
      rw [hg]
      exact List.mem_append_left _ (List.mem_map_of_mem hr)
  · rw [hreq, hout]
    rcases ht.dispatches with ⟨-, hi⟩ | ⟨r, rest, hn, hgs, hd, hi | ⟨message, hi⟩, hs⟩
    · exact .inl (by simp [hi])
    · exact .inl (by simp [hi])
    · obtain ⟨current, hs'⟩ := hq.session
      obtain rfl : rest = gs' := by rw [hs] at hs'; cases hs'; rfl
      exact .inr ⟨.plan r message, by simp [hi], by simp [hg, hgs, hd], by simp [hd, Ask.request?]⟩
  · exact fun q' gs' hq => absurd (h.fresh hs q gs hc).1 (List.ne_nil_of_mem hmem)

end Settle

theorem step (h : Separated w) (hdisc : Disciplined w l) (hown : NoForeignSuccess w l)
    (hstep : step w l = some w') : Separated w' := by
  have hs := step_cases h.coherent hstep
  have hcoh := hs.coherent h.coherent
  have hl := h.ledger.step hs
  have hyield {dto : PlanResultDTO} (hd : dto.success = true → .result dto ∈ w.items) (k : Nat)
      (dto' : PlanResultDTO) (hm : (k, dto') ∈ w.yielded ++ [(w.sessionNo, dto)])
      (hs : dto'.success = true) :
      (k, dto') ∈ w.yielded ∨ k = w.sessionNo ∧ .result dto' ∈ w.items := by
    rcases List.mem_append.1 hm with hm | hm
    · exact .inl hm
    · obtain ⟨rfl, rfl⟩ : k = w.sessionNo ∧ dto' = dto := by simpa using hm
      exact .inr ⟨rfl, hd hs⟩
  have hsame (k : Nat) (dto : PlanResultDTO) (hm : (k, dto) ∈ w.yielded) (_ : dto.success = true) :
      (k, dto) ∈ w.yielded ∨ k = w.sessionNo ∧ .result dto ∈ w.items :=
    .inl hm
  have hopen (q : List QueueItem) (gs : List Group) (hq : w.coord.Open q gs) :
      ∃ q', w.coord.Open q' gs :=
    ⟨q, hq⟩
  have hclosed (q : List QueueItem) (gs : List Group) (hq : w.coord.clearSession.Open q gs) :
      ∃ q', w.coord.Open q' gs :=
    absurd hq (Coherent.closed_clearSession _).not_open
  cases hs with
  | planAll groups => exact h.setup groups hl hdisc
  | sceneRequested hs => exact h.sceneRequested hl hs
  | ignored i answer call o ho hc => exact h.ignored ho hc
  | acted i answer call o ho q gs hc v hv t ht =>
    rcases Decidable.em (o.session = w.sessionNo) with hk | hk
    · exact h.actedOwn ho hk hc hv ht
    · have ha : answer.succeeded = false := by
        rw [← Bool.not_eq_true]
        exact fun ha => hk (hown hc.event ha o ho)
      obtain ⟨hnext, hres⟩ := Ask.verdict_of_not_succeeded hv ha
      exact h.actedForeign ho hk hc hnext hres ht
  | sceneUnavailable service hs hclient =>
    refine h.frame rfl hcoh hl hclosed ?_ ?_ hsame
    · intro hst
      cases hst
    · intro dto hm hs
      rcases hc : w.consumer with _ | _ | _ | q <;>
        simp_all [State.items, State.close, clearSession, Consumer.detach]
  | cancel =>
    refine h.frame rfl hcoh hl ?_ id ?_ hsame
    · intro q gs hq
      have hunset := hq.event
      simp at hunset
    · intro dto hm hs
      rcases List.mem_append.1 hm with hm | hm
      · have hdto : dto = cancelFailure := by
          rcases hq : w.coord.planQueue with _ | q <;> simp [hq] at hm
          exact hm
        simp [hdto, cancelFailure] at hs
      · exact List.mem_append_right _ hm
  | pollFailed hc hq =>
    refine h.frame rfl hcoh hl hopen id ?_ (hyield fun hs => ?_)
    · intro dto hm hs
      simpa [State.items, hc] using hm
    · simp [noQueue] at hs
  | gotResult dto q hc hq =>
    refine h.frame rfl hcoh hl ?_ id ?_ (hyield fun hs => ?_)
    · intro q' gs hq'
      exact ⟨_, hq'.event, hq, hq'.session⟩
    · intro dto' hm hs
      simp_all [State.items]
    · simp [State.items, hq]
  | gotStaleResult dto q hc =>
    refine h.frame rfl hcoh hl hopen id ?_ (hyield fun hs => ?_)
    · intro dto' hm hs
      simp_all [State.items]
    · simp [State.items, hc]
  | gotSentinel | gotStaleSentinel =>
    refine h.frame rfl hcoh hl hclosed id ?_ hsame
    intro dto hm hs
    simp [State.items, State.close, clearSession] at hm
  | sceneRaised =>
    refine h.frame rfl hcoh hl hopen ?_ (fun _ hm _ => hm) hsame
    intro hst
    cases hst
  | iterate hc | polled hc | abandon hc =>
    refine h.frame rfl hcoh hl hopen id ?_ hsame
    intro dto hm hs
    simpa [State.items, hc] using hm

end Separated

/-- In a disciplined run in which no successful response to an earlier session's request arrives
while the event is unset, every session yields its own results only and plans its own groups, each
from its own scene state or from the end state of its own group before. -/
theorem sessions_separate (c : PlanningCoordinator) (w : State)
    (h : Lts.Runs step (fun w l => Disciplined w l ∧ NoForeignSuccess w l) (init c) w) :
    SessionsSeparate w :=
  (h.invariant (Separated.init c) fun hw hl hs => hw.step hl.1 hl.2 hs).separate

/-! ### A late response under the next session -/

/-- A session that plans `path` up to its planner request. -/
def planFirst (path : TrajectoryPathDTO) : List Label :=
  [.planAll [[path]], .requestScene .available, .iterate, .poll,
    .deliver 0 (.scene (.value (some {}))) fun _ => {}]

/-- The first session is cancelled while its planner request is outstanding; the response arrives
once the second session has begun. -/
def lateResponse : List Label :=
  planFirst firstPath ++ [.cancel, .get, .abandon] ++
    [.planAll [[secondPath]], .requestScene .available, .iterate, .poll,
      .deliver 0 (.pilz (.value onePoint)) fun _ => {}, .get]

/-- The response to the request of the first session is late, and a failure: it reaches the second
session after that has yielded a plan of its own. -/
def lateFailure : List Label :=
  [.planAll [[firstPath], [turnPath]], .requestScene .available, .iterate, .poll,
    .deliver 0 (.scene (.value (some {}))) fun _ => {}, .cancel, .get, .abandon,
    .planAll [[secondPath], [turnPath]], .requestScene .available, .iterate, .poll,
    .deliver 1 (.scene (.value (some {}))) fun _ => {},
    .deliver 1 (.pilz (.value onePoint)) fun _ => {}, .get,
    .deliver 0 (.pilz (.value { errorCode := MoveItErrorCodes.PLANNING_FAILED })) fun _ => {},
    .poll, .get]

theorem sessions_separate_lateFailure :
    ∃ w, Lts.Runs step (fun w l => Disciplined w l ∧ NoForeignSuccess w l)
        (init (onActivate (new "manipulator"))) w ∧
      w.yielded.map (fun y => (y.1, y.2.success)) = [(1, false), (2, true), (2, false)] ∧
      SessionsSeparate w := by
  have h : Lts.Runs step (fun w l => Disciplined w l ∧ NoForeignSuccess w l)
      (init (onActivate (new "manipulator"))) _ := .of_exec lateFailure rfl
  exact ⟨_, h, rfl, sessions_separate _ _ h⟩

/-- Without the condition a session can yield the result of an earlier one. -/
theorem sessions_mix :
    ¬ ∀ c w, Lts.Runs step Disciplined (init c) w → SessionsSeparate w := by
  intro h
  have hrun : Lts.Runs step Disciplined (init (onActivate (new "manipulator"))) _ :=
    .of_exec lateResponse rfl
  have hsep := h _ _ hrun
  obtain ⟨r, -, -, message, answer, hm, -⟩ :=
    hsep.yielded 2 _ (List.mem_cons_of_mem _ List.mem_cons_self) rfl
  simp [State.settle, init, State.setup, State.sceneRequested] at hm

end Planning
end MovementController
