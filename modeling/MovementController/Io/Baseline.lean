import MovementController.Io.Feedback

/-!
# The initial feedback as a baseline

A goal registers before it reads the snapshot for its initial feedback. A change in between is in the
snapshot and in the queue as well, and is then fed back after the state that it led to. Without such a
change the feedback of a goal is the state it read and the changes made after that: what the goal gets
replays the cache from the read on (`Follows`), as long as it is in the watcher table.
-/

namespace IoControllers

/-- The state that a feedback carries, as a number. -/
def MonitorIO.Feedback.state (feedback : MonitorIO.Feedback) : ℚ :=
  match feedback.io with
  | .inl io => (Value.bool io.state).num
  | .inr io => io.state

theorem Signal.Typed.state_feedback {signal : Signal} (h : signal.Typed) (isDigital : Bool)
    (stamp : Time) : (makeMonitorFeedback signal isDigital stamp).state = signal.state.num := by
  unfold MonitorIO.Feedback.state makeMonitorFeedback Signal.toMsg
  cases htype : signal.type with
  | digital =>
    obtain ⟨b, hb⟩ := h htype
    dsimp only
    rw [hb]
    cases b <;> rfl
  | analog domain => rfl

/-! ### How a goal begins -/

/-- In the loop. -/
def MonitorPc.looping : MonitorPc → Bool
  | checkActive | checkCancel | get | publish => true
  | _ => false

namespace MonitorGoal

/-- The goal has read the snapshot and published the signal, if there was one. -/
def Opened (goal : MonitorGoal) : Prop :=
  ∃ read readAt stamp, goal.read = some (read, readAt) ∧
    goal.initial = read.toList.map fun signal => makeMonitorFeedback signal goal.isDigital stamp

structure Opening (goal : MonitorGoal) : Prop where
  unread : goal.since = none → goal.read = none
  snapshotRead : ∀ signal, goal.pc = .snapshotRead signal →
    ∃ readAt, goal.read = some (some signal, readAt)
  opened : goal.pc.looping ∨ goal.published ≠ [] → goal.request.emitInitial → goal.Opened

namespace Opening

variable {n : GpioController} {made : ℕ} {goal goal' : MonitorGoal} {l : GoalStep}

/-- What the opening of a goal is about, its place in the code apart. -/
def frame (goal : MonitorGoal) :=
  (goal.read, goal.since, goal.request, goal.isDigital, goal.initial)

theorem move (h : goal.Opening) (hframe : frame goal' = frame goal)
    (hopened : goal'.pc.looping ∨ goal'.published ≠ [] → goal.pc.looping ∨ goal.published ≠ [])
    (hpc : ∀ signal, goal'.pc ≠ .snapshotRead signal) : goal'.Opening := by
  simp only [frame, Prod.mk.injEq] at hframe
  obtain ⟨hread, hsince, hrequest, hdigital, hinitial⟩ := hframe
  refine ⟨?_, fun signal hs => absurd hs (hpc signal), ?_⟩
  · rw [hread, hsince]
    exact h.unread
  · unfold Opened
    rw [hread, hrequest, hdigital, hinitial]
    exact fun hor => h.opened (hopened hor)

theorem raise (h : goal.Opening) (exc : String) : (goal.raise exc).Opening := by
  refine h.move rfl (fun hor => .inr (hor.resolve_left fun h => nomatch h)) fun signal hs => ?_
  cases hs

theorem of_request (request : MonitorIO.Goal) : Opening { request } := by
  refine ⟨fun _ => rfl, fun signal hs => ?_, fun hor => ?_⟩
  · cases hs
  · rcases hor with hor | hor
    · cases hor
    · exact absurd rfl hor

theorem of_register (hb : goal.Books) (hpc : goal.pc = .lookedUp) (since : ℕ) :
    (goal.register since).Opening := by
  obtain ⟨hinitial, hsent, -⟩ := hb.early (by rw [hpc]; rfl)
  have hnil : goal.published = [] := by rw [hb.published, hinitial, hsent]; rfl
  refine ⟨?_, fun signal hs => ?_, fun hor hemit => ?_⟩
  · intro hsince
    cases hsince
  · unfold MonitorGoal.register at hs
    dsimp only at hs
    split at hs <;> cases hs
  · have hemit' : goal.request.emitInitial = true := hemit
    unfold MonitorGoal.register at hor
    dsimp only at hor
    rw [if_pos hemit', hnil] at hor
    rcases hor with hor | hor
    · cases hor
    · exact absurd rfl hor

theorem readInitial (h : goal.Opening) (hb : goal.Books) (hr : goal.Registration)
    (hpc : goal.pc = .registered) (fault : Option String) :
    (goal.readInitial n made fault).Opening := by
  obtain ⟨hinitial, hsent, -⟩ := hb.early (by rw [hpc]; rfl)
  have hnil : goal.published = [] := by rw [hb.published, hinitial, hsent]; rfl
  have hsince : goal.since ≠ none :=
    Option.isSome_iff_ne_none.1 (hr.since (by rw [running, hpc]; rfl))
  unfold MonitorGoal.readInitial
  split
  · exact h.raise _
  · split
    · exact h.raise _
    · split
      · refine ⟨fun hs => absurd hs hsince, fun signal hs => ?_, fun _ _ => ?_⟩
        · cases hs
        · exact ⟨none, made, 0, rfl, hinitial⟩
      · next signal hsignal =>
        refine ⟨fun hs => absurd hs hsince, fun s hs => ?_, fun hor => ?_⟩
        · cases hs
          exact ⟨made, rfl⟩
        · rcases hor with hor | hor
          · cases hor
          · exact absurd hnil hor

theorem publishInitial (h : goal.Opening) {signal : Signal} (hpc : goal.pc = .snapshotRead signal)
    (stamp : Time) (fault : Option String) : (goal.publishInitial signal stamp fault).Opening := by
  cases fault with
  | some exc => exact h.raise exc
  | none =>
    obtain ⟨readAt, hread⟩ := h.snapshotRead signal hpc
    refine ⟨h.unread, fun s hs => ?_, fun _ _ => ?_⟩
    · cases hs
    · exact ⟨some signal, readAt, stamp, hread, rfl⟩

theorem lookup (h : goal.Opening) (hb : goal.Books) (hpc : goal.pc = .accepted) :
    (goal.lookup n).Opening := by
  obtain ⟨hinitial, hsent, -⟩ := hb.early (by rw [hpc]; rfl)
  have hnil : goal.published = [] := by rw [hb.published, hinitial, hsent]; rfl
  unfold MonitorGoal.lookup
  split
  · refine h.move rfl (fun hor => .inr (hor.resolve_left fun h => nomatch h)) fun signal hs => ?_
    cases hs
  · refine ⟨h.unread, fun signal hs => ?_, fun hor => ?_⟩
    · cases hs
    · rcases hor with hor | hor
      · cases hor
      · exact absurd hnil hor

theorem unregister (h : goal.Opening) (result : Option MonitorIO.Result)
    (outcome : Option MonitorOutcome) : Opening { goal with pc := .ended result, outcome } := by
  refine h.move rfl (fun hor => .inr (hor.resolve_left fun h => nomatch h)) fun signal hs => ?_
  cases hs

theorem moved (h : goal.Opening) (hb : goal.Books) (hr : goal.Registration)
    (hm : goal.Moved n made l goal') : goal'.Opening := by
  cases hm with
  | lookup hpc => exact h.lookup hb hpc
  | readInitial fault hpc => exact h.readInitial hb hr hpc fault
  | publishInitial stamp fault hpc => exact h.publishInitial hpc stamp fault
  | checkActive hpc =>
    have hloop : goal.pc.looping := by rw [hpc]; rfl
    unfold MonitorGoal.checkActive
    split <;> refine h.move rfl (fun _ => .inl hloop) fun signal hs => ?_ <;> cases hs
  | checkCancel hpc =>
    have hloop : goal.pc.looping := by rw [hpc]; rfl
    unfold MonitorGoal.checkCancel
    split <;> refine h.move rfl (fun _ => .inl hloop) fun signal hs => ?_ <;> cases hs
  | get hpc =>
    have hloop : goal.pc.looping := by rw [hpc]; rfl
    unfold MonitorGoal.get
    split <;> refine h.move rfl (fun _ => .inl hloop) fun signal hs => ?_ <;> cases hs
  | publish fault hpc htaken =>
    have hloop : goal.pc.looping := by rw [hpc]; rfl
    cases fault with
    | some exc => exact h.raise exc
    | none =>
      refine h.move rfl (fun _ => .inl hloop) fun signal hs => ?_
      cases hs
  | finish fault hpc =>
    unfold MonitorGoal.finish
    split
    · refine h.move rfl (fun hor => .inr (hor.resolve_left fun h => nomatch h)) fun signal hs => ?_
      cases hs
    · split
      · refine h.move rfl (fun hor => .inr (hor.resolve_left fun h => nomatch h)) fun signal hs => ?_
        cases hs
      · exact h.raise _
  | cancel hnone => exact ⟨h.unread, h.snapshotRead, h.opened⟩

end Opening

/-- Only the snapshot read sets what was read. -/
theorem Moved.read {n : GpioController} {made : ℕ} {goal goal' : MonitorGoal} {l : GoalStep}
    (hm : goal.Moved n made l goal') : goal'.read = goal.read ∨
      ∃ driver fault, n.driver = some driver ∧ goal.running ∧ l = .readInitial fault ∧
        goal'.read = some (currentSignal driver goal.ioName goal.isDigital, made) := by
  cases hm with
  | lookup hpc => unfold MonitorGoal.lookup; split <;> exact .inl rfl
  | readInitial fault hpc =>
    have hrun : goal.running := by rw [MonitorGoal.running, hpc]; rfl
    unfold MonitorGoal.readInitial
    split
    · exact .inl rfl
    · split
      · exact .inl rfl
      · next driver hdriver =>
        split
        · next hnone => exact .inr ⟨driver, _, hdriver, hrun, rfl, by rw [hnone]⟩
        · next signal hsome => exact .inr ⟨driver, _, hdriver, hrun, rfl, by rw [hsome]⟩
  | publishInitial stamp fault hpc => cases fault <;> exact .inl rfl
  | checkActive hpc => unfold MonitorGoal.checkActive; split <;> exact .inl rfl
  | checkCancel hpc => unfold MonitorGoal.checkCancel; split <;> exact .inl rfl
  | get hpc => unfold MonitorGoal.get; split <;> exact .inl rfl
  | publish fault hpc htaken => cases fault <;> exact .inl rfl
  | finish fault hpc =>
    unfold MonitorGoal.finish
    split
    · exact .inl rfl
    · split <;> exact .inl rfl
  | cancel hnone => exact .inl rfl

end MonitorGoal

namespace Monitor

/-! ### What a goal gets after its read -/

/-- `cache` is the cache that the goal read. While the goal is in the watcher table, the changes made
since then lead from it to the cache of the driver; what the goal gets is among the first `n`. -/
structure Follows (s : Monitor) (g : ℕ) (goal : MonitorGoal) (read : Option Signal) (readAt since n : ℕ)
    (cache : Dict String Signal) : Prop where
  registered : goal.since = some since
  since_le : since ≤ readAt
  le : readAt ≤ n
  le_made : n ≤ s.made.length
  signal : ∀ signal ∈ read, Dict.get cache goal.ioName = some signal ∧ signal.Typed
  genuine : Dict.Genuine Signal.Differs cache ((s.made.take n).drop readAt)
  stream : s.stream g goal <+: Fanout.messages (s.routed.take n) goal.ioName since
  live : g ∈ s.node.watchersOf goal.ioName → n = s.made.length ∧
    ∃ driver, s.node.driver = some driver ∧
      Dict.replay cache (s.made.drop readAt) = driver.base.cache

variable {py : Pydantic} {s s' : Monitor} {g : ℕ} {goal goal' : MonitorGoal} {read : Option Signal}
  {readAt since n : ℕ} {cache : Dict String Signal}

theorem length_routed_le (s : Monitor) : s.routed.length ≤ s.made.length := by
  rw [made, List.length_append, List.length_map]
  exact Nat.le_add_right _ _

theorem currentSignal_eq {driver : IODriver} (hc : driver.base.Consistent) {ioName : String}
    {isDigital : Bool} {signal : Signal} (h : currentSignal driver ioName isDigital = some signal) :
    Dict.get driver.base.cache ioName = some signal := by
  unfold currentSignal at h
  have hname : signal.ioName = ioName := by simpa using List.find?_some h
  have hmem : signal ∈ driver.base.snapshot.digital ++ driver.base.snapshot.analog := by
    have hmem := List.mem_of_find?_eq_some h
    cases isDigital with
    | true => exact List.mem_append_left _ hmem
    | false => exact List.mem_append_right _ hmem
  rw [← hname]
  exact hc.mem_snapshot.1 hmem

namespace Follows

/-- A step that makes no change and sends nothing to the goal. -/
theorem frame (h : s.Follows g goal read readAt since n cache) (hsince : goal'.since = goal.since)
    (hrequest : goal'.request = goal.request) (hstream : s'.stream g goal' = s.stream g goal)
    (hmade : s'.made = s.made) (hrouted : s.routed <+: s'.routed)
    (hlive : g ∈ s'.node.watchersOf goal.ioName → g ∈ s.node.watchersOf goal.ioName ∧
      ∀ driver, s.node.driver = some driver →
        ∃ driver', s'.node.driver = some driver' ∧ driver'.base = driver.base) :
    s'.Follows g goal' read readAt since n cache := by
  have hname : goal'.ioName = goal.ioName := by rw [MonitorGoal.ioName, hrequest]
  refine ⟨hsince.trans h.registered, h.since_le, h.le, ?_, ?_, ?_, ?_, ?_⟩
  · rw [hmade]
    exact h.le_made
  · rw [hname]
    exact h.signal
  · rw [hmade]
    exact h.genuine
  · rw [hstream, hname]
    exact h.stream.trans (Fanout.messages_mono (hrouted.take n) _ _)
  · rw [hname, hmade]
    intro hmem
    obtain ⟨hmem, hdriver⟩ := hlive hmem
    obtain ⟨hn, driver, hd, hreplay⟩ := h.live hmem
    obtain ⟨driver', hd', hbase⟩ := hdriver driver hd
    exact ⟨hn, driver', hd', by rw [hreplay, hbase]⟩

/-- The snapshot read. -/
theorem of_read (hinv : s.Inv) (hinv' : s'.Inv) {driver : IODriver}
    (hdriver : s.node.driver = some driver) (hg : s'.goals g = some goal) (hrun : goal.running)
    (hnode : s'.node = s.node) (hmade : s'.made = s.made) {isDigital : Bool}
    (hread : read = currentSignal driver goal.ioName isDigital) :
    ∃ since, s'.Follows g goal read s.made.length since s.made.length driver.base.cache := by
  obtain ⟨since, hsince⟩ := Option.isSome_iff_exists.1 ((hinv'.registration g goal hg).since hrun)
  have hconnected := hinv.connected driver hdriver
  have hle : since ≤ s'.routed.length := by
    have hsub := subscriber_eq hg
    rw [MonitorGoal.subscriber, hsince, Option.map_some] at hsub
    exact hinv'.fanout.since g _ hsub
  have hlen := s'.length_routed_le
  rw [hmade] at hlen
  refine ⟨since, hsince, hle.trans hlen, Nat.le_refl _, ?_, fun signal hs => ?_, ?_, ?_, fun _ => ?_⟩
  · rw [hmade]
  · rw [hread] at hs
    have hget := currentSignal_eq hconnected.consistent hs
    exact ⟨hget, hconnected.typed _ _ hget⟩
  · rw [hmade, List.take_length, List.drop_length]
    exact trivial
  · rw [List.take_of_length_le hlen]
    exact hinv'.stream_prefix hg hsince
  · rw [hmade, hnode, List.drop_length]
    exact ⟨rfl, driver, hdriver, rfl⟩

/-- The driver makes a change. -/
theorem change (h : s.Follows g goal read readAt since n cache) {driver driver' : IODriver}
    (hdriver : s.node.driver = some driver) {ioName : String} {signal updated : Signal}
    (hget : Dict.get driver.base.cache ioName = some signal) (hdiff : signal.Differs updated)
    (hbase : driver'.base = driver.base.store ioName updated)
    (hmade : s'.made = s.made ++ [(ioName, updated)]) (hrouted : s'.routed = s.routed)
    (hstream : s'.stream g goal = s.stream g goal)
    (hwatchers : s'.node.watchersOf goal.ioName = s.node.watchersOf goal.ioName)
    (hdriver' : s'.node.driver = some driver') :
    ∃ n, s'.Follows g goal read readAt since n cache := by
  by_cases hmem : g ∈ s.node.watchersOf goal.ioName
  · obtain ⟨hn, d, hd, hreplay⟩ := h.live hmem
    rw [hdriver] at hd
    obtain rfl := Option.some.inj hd
    have hle : readAt ≤ s.made.length := hn ▸ h.le
    have hlen : s'.made.length = n + 1 := by rw [hmade, List.length_append, hn]; rfl
    have hdrop : s'.made.drop readAt = s.made.drop readAt ++ [(ioName, updated)] := by
      rw [hmade, List.drop_append_of_le_length hle]
    have hgenuine := h.genuine
    rw [hn, List.take_length] at hgenuine
    refine ⟨n + 1, h.registered, h.since_le, Nat.le_succ_of_le h.le, hlen.ge, h.signal, ?_, ?_,
      fun _ => ⟨hlen.symm, driver', hdriver', ?_⟩⟩
    · rw [← hlen, List.take_length, hdrop]
      refine hgenuine.concat ⟨signal, ?_, hdiff⟩
      rw [hreplay]
      exact hget
    · rw [hstream, hrouted]
      have hshort : s.routed.length ≤ n := hn ▸ s.length_routed_le
      have hstream := h.stream
      rw [List.take_of_length_le hshort] at hstream
      rw [List.take_of_length_le (Nat.le_succ_of_le hshort)]
      exact hstream
    · rw [hdrop, Dict.replay_concat, hreplay, hbase]
      rfl
  · refine ⟨n, h.registered, h.since_le, h.le, ?_, h.signal, ?_, ?_, fun hmem' => ?_⟩
    · rw [hmade, List.length_append]
      exact Nat.le_add_right_of_le h.le_made
    · rw [hmade, List.take_append_of_le_length h.le_made]
      exact h.genuine
    · rw [hstream, hrouted]
      exact h.stream
    · rw [hwatchers] at hmem'
      exact absurd hmem' hmem

/-- A change reads the watcher table. -/
theorem copyWatchers (h : s.Follows g goal read readAt since n cache) (hinv' : s'.Inv)
    (hg : s'.goals g = some goal) (hmade : s'.made = s.made) (hrouted : s.routed <+: s'.routed)
    (hnode : s'.node = s.node)
    (hstream : g ∉ s.node.watchersOf goal.ioName → s'.stream g goal = s.stream g goal) :
    s'.Follows g goal read readAt since n cache := by
  by_cases hmem : g ∈ s.node.watchersOf goal.ioName
  · obtain ⟨hn, -⟩ := h.live hmem
    have hshort : s'.routed.length ≤ n := by
      rw [hn, ← hmade]
      exact s'.length_routed_le
    refine ⟨h.registered, h.since_le, h.le, ?_, h.signal, ?_, ?_, ?_⟩
    · rw [hmade]
      exact h.le_made
    · rw [hmade]
      exact h.genuine
    · rw [List.take_of_length_le hshort]
      exact hinv'.stream_prefix hg h.registered
    · rw [hmade, hnode]
      exact h.live
  · refine h.frame rfl rfl (hstream hmem) hmade hrouted fun hmem' => ?_
    rw [hnode] at hmem'
    exact absurd hmem' hmem

end Follows

end Monitor

theorem Managed.Transits.base {py : Pydantic} {m m' : Managed} {t : Transition}
    {ret : TransitionCallbackReturn} (h : m.Transits py t m' ret) (ht : t.keepsTable)
    (hun : m.state = .unconfigured → m.node.driver = none) {driver : IODriver}
    (hdriver : m.node.driver = some driver) :
    ∃ driver', m'.node.driver = some driver' ∧ driver'.base = driver.base := by
  cases h with
  | configure hstate hok =>
    rw [hun hstate] at hdriver
    cases hdriver
  | configureFails hstate hold =>
    rw [hun hstate] at hdriver
    cases hdriver
  | activate hstate hold =>
    rw [hold] at hdriver
    rw [← Option.some.inj hdriver]
    exact ⟨_, rfl, IODriver.base_activate _⟩
  | activateFails hstate hfault =>
    exact ⟨_, congrArg (Option.map IODriver.activate) hdriver, IODriver.base_activate _⟩
  | deactivate hstate hfault =>
    exact ⟨_, congrArg (Option.map IODriver.deactivate) hdriver, IODriver.base_deactivate _⟩
  | deactivateFails hstate hold =>
    exact ⟨driver, (GpioController.driver_quiesce _).trans hdriver, rfl⟩
  | cleanup hstate => cases ht
  | shutdown hstate => cases ht

theorem Managed.Transits.unconfigured {py : Pydantic} {m m' : Managed} {t : Transition}
    {ret : TransitionCallbackReturn} (h : m.Transits py t m' ret)
    (hun : m.state = .unconfigured → m.node.driver = none) :
    m'.state = .unconfigured → m'.node.driver = none := by
  intro hstate'
  cases h with
  | configureFails hstate hdriver => exact hdriver.elim (fun h => h.trans (hun hstate)) id
  | cleanup hstate => rfl
  | _ => cases hstate'

namespace Monitor

variable {py : Pydantic} {s s' : Monitor} {g : ℕ} {goal goal' : MonitorGoal} {read : Option Signal}
  {readAt since n : ℕ} {cache : Dict String Signal}

/-- Every goal that has read the snapshot follows the driver from there on. -/
def AllFollow (s : Monitor) : Prop :=
  ∀ g goal read readAt, s.goals g = some goal → goal.read = some (read, readAt) →
    ∃ since n cache, s.Follows g goal read readAt since n cache

/-- `seq` is the place of a change in `routed`. -/
structure Replayed (s : Monitor) : Prop where
  opening : ∀ g goal, s.goals g = some goal → goal.Opening
  follows : s.AllFollow
  typed : ∀ p ∈ s.made, p.2.Typed
  seq : s.routed.map (·.2.seq) = List.range s.routed.length
  unconfigured : s.state = .unconfigured → s.node.driver = none

namespace Replayed

theorem initial : Replayed {} := by
  refine ⟨?_, ?_, ?_, rfl, fun _ => rfl⟩
  · intro g goal hg
    cases hg
  · intro g goal read readAt hg
    cases hg
  · intro p hp
    cases hp

theorem accept (h : s.Replayed) (request : MonitorIO.Goal) : (s.setGoal g { request }).Replayed := by
  refine ⟨forall_setGoal h.opening (.of_request request), ?_, h.typed, h.seq, h.unconfigured⟩
  intro i c read readAt hc hread
  rcases Fanout.update_some hc with ⟨rfl, rfl⟩ | ⟨-, hc⟩
  · cases hread
  · obtain ⟨since, n, cache, hf⟩ := h.follows i c read readAt hc hread
    exact ⟨since, n, cache, hf.frame rfl rfl rfl rfl (List.prefix_refl _)
      fun hmem => ⟨hmem, fun driver hd => ⟨driver, hd, rfl⟩⟩⟩

theorem register (h : s.Replayed) (hinv : s.Inv) (hg : s.goals g = some goal)
    (hpc : goal.pc = .lookedUp) : (s.register g goal).Replayed := by
  have hnone : goal.read = none :=
    (h.opening g goal hg).unread ((hinv.registration g goal hg).fresh (.inr hpc))
  refine ⟨forall_setGoal h.opening (.of_register (hinv.books g goal hg) hpc _), ?_, h.typed, h.seq,
    h.unconfigured⟩
  intro i c read readAt hc hread
  rcases Fanout.update_some hc with ⟨rfl, rfl⟩ | ⟨hi, hc⟩
  · rw [MonitorGoal.register, hnone] at hread
    cases hread
  · obtain ⟨since, n, cache, hf⟩ := h.follows i c read readAt hc hread
    refine ⟨since, n, cache, hf.frame rfl rfl rfl rfl (List.prefix_refl _) fun hmem => ⟨?_, ?_⟩⟩
    · exact (GpioController.mem_registerWatcher.1 hmem).resolve_left fun hw => hi hw.1
    · exact fun driver hd => ⟨driver, hd, rfl⟩

theorem unregister (h : s.Replayed) (hg : s.goals g = some goal)
    (result : Option MonitorIO.Result) : (s.unregister g goal result).Replayed := by
  have hdriver : ∀ driver, s.node.driver = some driver →
      ∃ driver', (s.node.unregisterWatcher goal.ioName g).driver = some driver' ∧
        driver'.base = driver.base :=
    fun driver hd => ⟨driver, (GpioController.driver_unregisterWatcher _ _ _).trans hd, rfl⟩
  refine ⟨forall_setGoal h.opening ((h.opening g goal hg).unregister _ _), ?_, h.typed, h.seq,
    fun hstate => (GpioController.driver_unregisterWatcher _ _ _).trans (h.unconfigured hstate)⟩
  intro i c read readAt hc hread
  rcases Fanout.update_some hc with ⟨rfl, rfl⟩ | ⟨-, hc⟩
  · obtain ⟨since, n, cache, hf⟩ := h.follows i goal read readAt hg hread
    exact ⟨since, n, cache, hf.frame rfl rfl rfl rfl (List.prefix_refl _)
      fun hmem => ⟨(GpioController.mem_unregisterWatcher.1 hmem).1, hdriver⟩⟩
  · obtain ⟨since, n, cache, hf⟩ := h.follows i c read readAt hc hread
    exact ⟨since, n, cache, hf.frame rfl rfl rfl rfl (List.prefix_refl _)
      fun hmem => ⟨(GpioController.mem_unregisterWatcher.1 hmem).1, hdriver⟩⟩

theorem moved (h : s.Replayed) (hinv : s.Inv) (hg : s.goals g = some goal) {l : GoalStep}
    (hm : goal.Moved s.node s.made.length l goal') : (s.setGoal g goal').Replayed := by
  have hbooks := hinv.books g goal hg
  have hreg := hinv.registration g goal hg
  obtain ⟨hrequest, hsince, hstream⟩ := hm.frame hbooks
  refine ⟨forall_setGoal h.opening ((h.opening g goal hg).moved hbooks hreg hm), ?_, h.typed, h.seq,
    h.unconfigured⟩
  have hkeeps : ∀ i, i ∈ s.node.watchersOf goal.ioName → i ∈ s.node.watchersOf goal.ioName ∧
      ∀ driver, s.node.driver = some driver →
        ∃ driver', s.node.driver = some driver' ∧ driver'.base = driver.base :=
    fun i hmem => ⟨hmem, fun driver hd => ⟨driver, hd, rfl⟩⟩
  intro i c read readAt hc hread
  have hgoal' := hc
  rcases Fanout.update_some hc with ⟨rfl, rfl⟩ | ⟨-, hc⟩
  · rcases hm.read with hsame | ⟨driver, -, hdriver, hrun, -, hnew⟩
    · rw [hsame] at hread
      obtain ⟨since, n, cache, hf⟩ := h.follows i goal read readAt hg hread
      refine ⟨since, n, cache, hf.frame hsince hrequest ?_ rfl (List.prefix_refl _) (hkeeps i)⟩
      exact congrArg (· ++ (s.onTheWay i).toList) hstream
    · rw [hnew] at hread
      obtain ⟨rfl, rfl⟩ := Prod.mk.inj (Option.some.inj hread)
      have hread' : currentSignal driver goal.ioName goal.isDigital =
          currentSignal driver c.ioName goal.isDigital := by
        rw [MonitorGoal.ioName, MonitorGoal.ioName, hrequest]
      obtain ⟨since, hf⟩ := Follows.of_read hinv (hinv.moved hg hm) hdriver hgoal'
        (hm.running.trans hrun) rfl rfl hread'
      exact ⟨since, _, _, hf⟩
  · obtain ⟨since, n, cache, hf⟩ := h.follows i c read readAt hc hread
    exact ⟨since, n, cache, hf.frame rfl rfl rfl rfl (List.prefix_refl _)
      fun hmem => ⟨hmem, fun driver hd => ⟨driver, hd, rfl⟩⟩⟩

/-- Steps of the change callback that make no change and send nothing. -/
theorem routing (h : s.Replayed) {routing : Routing}
    (hmade : { s with routing := routing : Monitor }.made = s.made)
    (hway : ∀ i, { s with routing := routing : Monitor }.onTheWay i = s.onTheWay i) :
    Replayed { s with routing := routing } := by
  refine ⟨h.opening, ?_, ?_, h.seq, h.unconfigured⟩
  · intro i c read readAt hc hread
    obtain ⟨since, n, cache, hf⟩ := h.follows i c read readAt hc hread
    refine ⟨since, n, cache, hf.frame rfl rfl ?_ hmade (List.prefix_refl _)
      fun hmem => ⟨hmem, fun driver hd => ⟨driver, hd, rfl⟩⟩⟩
    unfold Monitor.stream
    rw [hway]
  · rw [hmade]
    exact h.typed

theorem change (h : s.Replayed) (hinv : s.Inv) {ioName : String} {value : Value}
    (hr : s.routing = .idle) (hs : s.change ioName value = some s') : s'.Replayed := by
  obtain ⟨driver, signal, updated, hdriver, hget, -, htyped, hdiff, hbase, rfl⟩ :=
    change_cases hinv.connected hs
  have hmade : s.made = s.routed.map fun p => (p.1, p.2.signal) := by
    rw [made, hr]
    exact List.append_nil _
  refine ⟨h.opening, ?_, ?_, h.seq, fun hstate => ?_⟩
  · intro i c read readAt hc hread
    obtain ⟨since, n, cache, hf⟩ := h.follows i c read readAt hc hread
    have hway : s.onTheWay i = none := by rw [onTheWay, hr]
    have hstream : s.stream i c = c.sent ++ c.taken.toList ++ c.pending := by
      rw [Monitor.stream, hway]
      exact List.append_nil _
    have hnext : ∃ n, Follows { s with
        node := { s.node with driver := some (driver.update ioName value) }
        routing := .called ioName updated } i c read readAt since n cache :=
      hf.change hdriver hget hdiff hbase (by rw [hmade]; rfl) rfl
        ((List.append_nil _).trans hstream.symm) rfl rfl
    obtain ⟨n, hf⟩ := hnext
    exact ⟨since, n, cache, hf⟩
  · intro p hp
    rcases List.mem_append.1 hp with hp | hp
    · exact h.typed p (by rw [hmade]; exact hp)
    · rw [List.mem_singleton.1 hp]
      exact htyped
  · have hstate' : s.state = .unconfigured := hstate
    rw [h.unconfigured hstate'] at hdriver
    cases hdriver

theorem copyWatchers (h : s.Replayed) (hinv : s.Inv) {ioName : String} {signal : Signal}
    {stamp : Time} {entries : List ℕ} (hr : s.routing = .stamped ioName signal stamp)
    (hnodup : entries.Nodup) (hset : entries.toFinset = s.node.watchersOf ioName) :
    Replayed { s with
      routing := .enqueue ⟨signal, stamp, s.routed.length⟩ entries
      routed := s.routed ++ [(ioName, ⟨signal, stamp, s.routed.length⟩)] } := by
  have hinv' := hinv.copyWatchers hr hnodup hset
  have hmade : { s with
      routing := .enqueue ⟨signal, stamp, s.routed.length⟩ entries
      routed := s.routed ++ [(ioName, ⟨signal, stamp, s.routed.length⟩)] : Monitor }.made =
      s.made := by
    unfold made
    rw [hr, List.map_append, List.append_assoc]
    rfl
  refine ⟨h.opening, ?_, ?_, ?_, h.unconfigured⟩
  · intro i c read readAt hc hread
    obtain ⟨since, n, cache, hf⟩ := h.follows i c read readAt hc hread
    refine ⟨since, n, cache, hf.copyWatchers hinv' hc hmade (List.prefix_append _ _) rfl ?_⟩
    intro hmem
    -- the change goes to goals of its own signal only
    have hnot : i ∉ entries := by
      intro hi
      have hmem' : i ∈ s.node.watchersOf ioName := by
        rw [← hset]
        exact List.mem_toFinset.2 hi
      obtain ⟨goal, hg, -, hname⟩ := hinv.table.mem ioName i hmem'
      rw [hc] at hg
      obtain rfl := Option.some.inj hg
      rw [hname] at hmem
      exact hmem hmem'
    unfold Monitor.stream onTheWay
    rw [hr]
    dsimp only
    rw [if_neg hnot]
  · rw [hmade]
    exact h.typed
  · rw [List.map_append, h.seq, List.length_append, List.length_singleton, List.range_succ]
    rfl

theorem put (h : s.Replayed) (hinv : s.Inv) {event : ChangeEvent} {entries : List ℕ}
    (hr : s.routing = .enqueue event (g :: entries)) (hg : s.goals g = some goal) :
    Replayed ({ s with routing := .enqueue event entries }.setGoal g
      { goal with pending := goal.pending ++ [event] }) := by
  have hok := hinv.routing
  rw [hr] at hok
  have hnot : g ∉ entries := (List.nodup_cons.1 hok).1
  have hmade : ({ s with routing := .enqueue event entries }.setGoal g
      { goal with pending := goal.pending ++ [event] }).made = s.made := by
    unfold made
    rw [hr]
    rfl
  have hopen := h.opening g goal hg
  refine ⟨forall_setGoal h.opening ⟨hopen.unread, hopen.snapshotRead, hopen.opened⟩, ?_, ?_, h.seq,
    h.unconfigured⟩
  · intro i c read readAt hc hread
    rcases Fanout.update_some hc with ⟨rfl, rfl⟩ | ⟨hi, hc⟩
    · obtain ⟨since, n, cache, hf⟩ := h.follows i goal read readAt hg hread
      refine ⟨since, n, cache, hf.frame rfl rfl ?_ hmade (List.prefix_refl _)
        fun hmem => ⟨hmem, fun driver hd => ⟨driver, hd, rfl⟩⟩⟩
      -- the change on the way is now in the queue
      have hbefore : s.onTheWay i = some event := by
        rw [onTheWay, hr]
        exact if_pos List.mem_cons_self
      unfold Monitor.stream
      rw [hbefore]
      unfold onTheWay setGoal
      dsimp only
      rw [if_neg hnot]
      simp
    · obtain ⟨since, n, cache, hf⟩ := h.follows i c read readAt hc hread
      refine ⟨since, n, cache, hf.frame rfl rfl ?_ hmade (List.prefix_refl _)
        fun hmem => ⟨hmem, fun driver hd => ⟨driver, hd, rfl⟩⟩⟩
      unfold Monitor.stream onTheWay setGoal
      rw [hr]
      simp [hi]
  · rw [hmade]
    exact h.typed

theorem transition (h : s.Replayed) {t : Transition} {m : Managed} {ret : TransitionCallbackReturn}
    (hm : s.Transits py t m ret) : Replayed { s with toManaged := m } := by
  refine ⟨h.opening, ?_, h.typed, h.seq, hm.unconfigured h.unconfigured⟩
  intro i c read readAt hc hread
  obtain ⟨since, n, cache, hf⟩ := h.follows i c read readAt hc hread
  refine ⟨since, n, cache, hf.frame rfl rfl rfl rfl (List.prefix_refl _) fun hmem => ?_⟩
  unfold GpioController.watchersOf at hmem ⊢
  rcases hm.watchers with ⟨ht, hwatchers⟩ | ⟨-, hwatchers⟩
  · rw [hwatchers] at hmem
    exact ⟨hmem, fun driver hd => hm.base ht h.unconfigured hd⟩
  · rw [hwatchers] at hmem
    cases hmem

theorem step (h : s.Replayed) (hinv : s.Inv) {l : Label} (hs : Monitor.step py s l = some s') :
    s'.Replayed := by
  cases step_cases hs with
  | transition hm => exact h.transition (Managed.transition_cases hm)
  | accept hg hok => exact h.accept _
  | register hg hpc => exact h.register hinv hg hpc
  | unregister hg hpc => exact h.unregister hg _
  | goal hg hm => exact h.moved hinv hg hm
  | change hr hc => exact h.change hinv hr hc
  | stamp time hr =>
    refine h.routing ?_ fun i => ?_
    · unfold made
      rw [hr]
      rfl
    · rw [onTheWay, onTheWay, hr]
  | copyWatchers hr hnodup hset => exact h.copyWatchers hinv hr hnodup hset
  | put hr hg => exact h.put hinv hr hg
  | done hr =>
    refine h.routing ?_ fun i => ?_
    · unfold made
      rw [hr]
      rfl
    · rw [onTheWay, onTheWay, hr]
      rfl

theorem of_runs {C : Monitor → Label → Prop} (h : Lts.Runs (Monitor.step py) C {} s) :
    s.Inv ∧ s.Replayed :=
  h.invariant (I := fun s => s.Inv ∧ s.Replayed) ⟨.initial, .initial⟩
    fun hi _ hs => ⟨hi.1.step hs, hi.2.step hi.1 hs⟩

end Replayed

/-! ### The baseline -/

/-- A change of the watched signal was made before the goal read the snapshot, and reads the watcher
table after the goal registered. -/
def Overlap (s : Monitor) (goal : MonitorGoal) : Prop :=
  ∃ since read readAt, goal.since = some since ∧ goal.read = some (read, readAt) ∧
    Fanout.messages (s.made.take readAt) goal.ioName since ≠ []

/-- The feedback is the state that the goal read, followed by the changes made after that. -/
structure TrueBaseline (s : Monitor) (g : ℕ) (goal : MonitorGoal) : Prop where
  edges : (goal.published.map (·.state)).IsChain (· ≠ ·)
  order : (goal.sent.map (·.seq)).Pairwise (· < ·)
  after : ∀ read readAt, goal.read = some (read, readAt) → ∀ event ∈ goal.sent, readAt ≤ event.seq
  stream : goal.published ≠ [] → ∃ read readAt stamp, goal.read = some (read, readAt) ∧
    goal.published <+:
      read.toList.map (fun signal => makeMonitorFeedback signal goal.isDigital stamp) ++
        (Fanout.messages s.routed goal.ioName readAt).map goal.feedback
  complete : ∀ read readAt, goal.read = some (read, readAt) →
    g ∈ s.node.watchersOf goal.ioName →
      s.stream g goal = Fanout.messages s.routed goal.ioName readAt

theorem take_routed_prefix (s : Monitor) (k : ℕ) :
    (s.routed.take k).map (fun p => (p.1, p.2.signal)) <+: s.made.take k := by
  rw [made, List.take_append, List.map_take]
  exact List.prefix_append _ _

theorem seq_of_getElem? (h : s.Replayed) {i : ℕ} {p : String × ChangeEvent}
    (hi : s.routed[i]? = some p) : p.2.seq = i := by
  obtain ⟨hlt, -⟩ := List.getElem?_eq_some_iff.1 hi
  have hseq := congrArg (·[i]?) h.seq
  simp only [List.getElem?_map, hi, Option.map_some, List.getElem?_range hlt] at hseq
  exact Option.some.inj hseq

theorem seq_lt_of_mem_take (h : s.Replayed) {k : ℕ} {p : String × ChangeEvent}
    (hp : p ∈ s.routed.take k) : p.2.seq < k := by
  obtain ⟨i, hi⟩ := List.mem_iff_getElem?.1 hp
  rw [List.getElem?_take] at hi
  split at hi
  · next hik =>
    rw [seq_of_getElem? h hi]
    exact hik
  · cases hi

theorem le_seq_of_mem_drop (h : s.Replayed) {k : ℕ} {p : String × ChangeEvent}
    (hp : p ∈ s.routed.drop k) : k ≤ p.2.seq := by
  obtain ⟨i, hi⟩ := List.mem_iff_getElem?.1 hp
  rw [List.getElem?_drop] at hi
  rw [seq_of_getElem? h hi]
  exact Nat.le_add_right _ _

namespace Replayed

/-- Without an overlap, what is sent after the registration is sent after the read. -/
theorem messages_eq (hf : s.Follows g goal read readAt since n cache)
    (hread : goal.read = some (read, readAt)) (hno : ¬s.Overlap goal)
    {log : List (String × ChangeEvent)} (hlog : log <+: s.routed) :
    Fanout.messages log goal.ioName since = Fanout.messages log goal.ioName readAt := by
  refine Fanout.messages_skip hf.since_le ?_
  have hnone : Fanout.messages (s.made.take readAt) goal.ioName since = [] := by
    by_contra hne
    exact hno ⟨since, read, readAt, hf.registered, hread, hne⟩
  have hprefix : (log.take readAt).map (fun p => (p.1, p.2.signal)) <+: s.made.take readAt :=
    ((hlog.take readAt).map _).trans (s.take_routed_prefix readAt)
  have hmap := Fanout.messages_mono hprefix goal.ioName since
  rw [Fanout.messages_map (fun event : ChangeEvent => event.signal), hnone, List.prefix_nil,
    List.map_eq_nil_iff] at hmap
  exact hmap

/-- The signals that the goal read and sent are edges. -/
theorem isChain_signals (hf : s.Follows g goal read readAt since n cache)
    (hsent : goal.sent <+: Fanout.messages (s.routed.take n) goal.ioName readAt) :
    (read.toList ++ goal.sent.map (·.signal)).IsChain Signal.Differs := by
  obtain ⟨rest, hrest⟩ : goal.sent.map (·.signal) <+:
      Fanout.messages (s.made.take n) goal.ioName readAt := by
    have hmono := Fanout.messages_mono (s.take_routed_prefix n) goal.ioName readAt
    rw [Fanout.messages_map (fun event : ChangeEvent => event.signal)] at hmono
    exact (hsent.map _).trans hmono
  cases read with
  | none =>
    have hchain : (Fanout.messages (s.made.take n) goal.ioName readAt).IsChain Signal.Differs :=
      hf.genuine.isChain_changes goal.ioName
    rw [← hrest] at hchain
    exact hchain.left_of_append
  | some signal =>
    have hchain : (signal :: Fanout.messages (s.made.take n) goal.ioName readAt).IsChain
        Signal.Differs := hf.genuine.isChain (hf.signal signal rfl).1
    rw [← hrest, ← List.cons_append] at hchain
    exact hchain.left_of_append

/-- A goal that has not read its signal has published nothing. -/
theorem trueBaseline_of_unread (h : s.Replayed) (hinv : s.Inv) (hg : s.goals g = some goal)
    (hemit : goal.request.emitInitial) (hread : goal.read = none) : s.TrueBaseline g goal := by
  have hnil : goal.published = [] := by
    by_contra hne
    obtain ⟨read, readAt, stamp, hsome, -⟩ := (h.opening g goal hg).opened (.inr hne) hemit
    rw [hread] at hsome
    cases hsome
  have hsent : goal.sent = [] := by
    have happend := (hinv.books g goal hg).published
    rw [hnil] at happend
    exact List.map_eq_nil_iff.1 (List.append_eq_nil_iff.1 happend.symm).2
  refine ⟨?_, ?_, ?_, fun hne => absurd hnil hne, ?_⟩
  · rw [hnil]
    exact List.isChain_nil
  · rw [hsent]
    exact List.Pairwise.nil
  · intro read readAt hsome
    rw [hread] at hsome
    cases hsome
  · intro read readAt hsome
    rw [hread] at hsome
    cases hsome

theorem trueBaseline (h : s.Replayed) (hinv : s.Inv) (hg : s.goals g = some goal)
    (hemit : goal.request.emitInitial) (hno : ¬s.Overlap goal) : s.TrueBaseline g goal := by
  have hbooks := hinv.books g goal hg
  have hopening := h.opening g goal hg
  cases hread : goal.read with
  | none => exact h.trueBaseline_of_unread hinv hg hemit hread
  | some r =>
    obtain ⟨read, readAt⟩ := r
    have hone {read' : Option Signal} {readAt' : ℕ} (hread' : goal.read = some (read', readAt')) :
        read = read' ∧ readAt = readAt' :=
      Prod.mk.inj (Option.some.inj (hread.symm.trans hread'))
    obtain ⟨since, n, cache, hf⟩ := h.follows g goal read readAt hg hread
    have hstream := hf.stream
    rw [messages_eq hf hread hno (List.take_prefix n s.routed)] at hstream
    have hsent : goal.sent <+: Fanout.messages (s.routed.take n) goal.ioName readAt := by
      refine List.IsPrefix.trans ?_ hstream
      unfold Monitor.stream
      rw [List.append_assoc, List.append_assoc]
      exact List.prefix_append _ _
    have hsent' := hsent.trans (Fanout.messages_mono (List.take_prefix n s.routed) _ _)
    refine ⟨?_, ?_, ?_, ?_, ?_⟩
    · by_cases hnil : goal.published = []
      · rw [hnil]
        exact List.isChain_nil
      obtain ⟨read', readAt', stamp, hread', hinitial⟩ := hopening.opened (.inr hnil) hemit
      obtain ⟨rfl, rfl⟩ := hone hread'
      have htyped : ∀ event ∈ goal.sent, event.signal.Typed := fun event he => by
        have hmem := List.mem_of_mem_drop (Fanout.mem_messages (hsent'.subset he))
        exact h.typed _ (List.mem_append_left _ (List.mem_map_of_mem hmem))
      have hstates : goal.published.map (·.state) =
          (read.toList ++ goal.sent.map (·.signal)).map (·.state.num) := by
        rw [hbooks.published, hinitial, List.map_append, List.map_append, List.map_map, List.map_map,
          List.map_map]
        congr 1
        · refine List.map_congr_left fun signal hs => ?_
          exact (hf.signal signal (Option.mem_toList.1 hs)).2.state_feedback _ _
        · exact List.map_congr_left fun event he => (htyped event he).state_feedback _ _
      rw [hstates, List.isChain_map]
      exact isChain_signals hf hsent
    · have hsub := hsent'.sublist.trans (Fanout.messages_sublist _ _ _)
      have hseq := hsub.map (·.seq)
      rw [List.map_map] at hseq
      refine List.Pairwise.sublist hseq ?_
      have hrange := h.seq
      show (s.routed.map (·.2.seq)).Pairwise (· < ·)
      rw [hrange]
      exact List.pairwise_lt_range
    · intro read' readAt' hread' event he
      obtain ⟨rfl, rfl⟩ := hone hread'
      exact le_seq_of_mem_drop h (Fanout.mem_messages (hsent'.subset he))
    · intro hne
      obtain ⟨read', readAt', stamp, hread', hinitial⟩ := hopening.opened (.inr hne) hemit
      obtain ⟨rfl, rfl⟩ := hone hread'
      refine ⟨read, readAt, stamp, hread, ?_⟩
      rw [hbooks.published, hinitial]
      exact (List.prefix_append_right_inj _).2 (hsent'.map _)
    · intro read' readAt' hread' hmem
      obtain ⟨rfl, rfl⟩ := hone hread'
      rw [hinv.stream_eq hg hf.registered hmem]
      exact messages_eq hf hread hno (List.prefix_refl _)

/-- After an overlap the first change that is fed back was made before the read. -/
theorem not_after (h : s.Replayed) (hg : s.goals g = some goal) (hover : s.Overlap goal)
    (hsent : goal.sent ≠ []) : ¬s.TrueBaseline g goal := by
  intro hbase
  obtain ⟨since', read, readAt, hsince, hread, hne⟩ := hover
  obtain ⟨since, n, cache, hf⟩ := h.follows g goal read readAt hg hread
  rw [hf.registered] at hsince
  obtain rfl := Option.some.inj hsince
  obtain ⟨event, rest, hcons⟩ := List.exists_cons_of_ne_nil hsent
  have hhead : [event] <+: Fanout.messages s.routed goal.ioName since := by
    refine List.IsPrefix.trans ?_
      (hf.stream.trans (Fanout.messages_mono (List.take_prefix n s.routed) _ _))
    unfold Monitor.stream
    rw [hcons]
    exact List.prefix_append [event] _
  have hafter : readAt ≤ event.seq := hbase.after read readAt hread event (hcons ▸ List.mem_cons_self)
  have hlen : readAt ≤ s.routed.length := by
    have hmem := List.mem_of_mem_drop (Fanout.mem_messages (hhead.subset List.mem_cons_self))
    have hlt : event.seq < s.routed.length :=
      seq_lt_of_mem_take h (by rw [List.take_length]; exact hmem)
    omega
  -- the change that overlaps has read the watcher table by now
  have hmade : s.made.take readAt = (s.routed.take readAt).map fun p => (p.1, p.2.signal) := by
    rw [made, List.take_append_of_le_length (by rw [List.length_map]; exact hlen), List.map_take]
  rw [hmade, Fanout.messages_map (fun event : ChangeEvent => event.signal)] at hne
  have hne' : Fanout.messages (s.routed.take readAt) goal.ioName since ≠ [] :=
    fun hnil => hne (List.map_eq_nil_iff.2 hnil)
  obtain ⟨first, more, hfirst⟩ := List.exists_cons_of_ne_nil hne'
  have hprefix := Fanout.messages_mono (List.take_prefix readAt s.routed) goal.ioName since
  rw [hfirst] at hprefix
  obtain ⟨tail, htail⟩ := hprefix
  obtain ⟨tail', htail'⟩ := hhead
  have heq : event = first := by
    rw [← htail] at htail'
    exact (List.cons.inj htail').1
  have hmem : (goal.ioName, event) ∈ (s.routed.take readAt).drop since := by
    refine Fanout.mem_messages ?_
    rw [hfirst, heq]
    exact List.mem_cons_self
  have hlt : event.seq < readAt := seq_lt_of_mem_take h (List.mem_of_mem_drop hmem)
  omega

end Replayed

/-! ### Without an overlap -/

/-- When a goal reads the snapshot, no change of its signal has been made that reads, or will read, the
watcher table after the goal registered. -/
def Quiet (s : Monitor) : Label → Prop
  | .goal g (.readInitial _) =>
    ∀ goal ∈ s.goals g, Fanout.messages s.made goal.ioName (goal.since.getD 0) = []
  | _ => True

instance (s : Monitor) (l : Label) : Decidable (Quiet s l) := by
  unfold Quiet
  split <;> infer_instance

theorem made_step (hinv : s.Inv) {l : Label} (hs : step py s l = some s') : s.made <+: s'.made := by
  cases step_cases hs with
  | transition hm => exact List.prefix_refl _
  | accept hg hok => exact List.prefix_refl _
  | register hg hpc => exact List.prefix_refl _
  | unregister hg hpc => exact List.prefix_refl _
  | goal hg hm => exact List.prefix_refl _
  | change hr hc =>
    obtain ⟨driver, signal, updated, -, -, -, -, -, -, rfl⟩ := change_cases hinv.connected hc
    rw [made, hr]
    exact (List.prefix_append_right_inj _).2 List.nil_prefix
  | stamp time hr =>
    rw [made, hr]
    exact List.prefix_refl _
  | copyWatchers hr hnodup hset =>
    rw [made, hr, made, List.map_append]
    exact List.prefix_append _ _
  | put hr hg =>
    rw [made, hr]
    exact List.prefix_refl _
  | done hr =>
    rw [made, hr]
    exact List.prefix_refl _

/-- Where a goal that has read the snapshot comes from. -/
theorem goals_step (hinv : s.Inv) (hrep : s.Replayed) {l : Label} (hs : step py s l = some s')
    (hg' : s'.goals g = some goal') : goal'.read = none ∨
      ∃ goal, s.goals g = some goal ∧ goal'.request = goal.request ∧ goal'.since = goal.since ∧
        (goal'.read = goal.read ∨ ∃ fault read, l = .goal g (.readInitial fault) ∧
          goal'.read = some (read, s.made.length)) := by
  cases hg : s.goals g with
  | none =>
    obtain ⟨request, rfl⟩ := accepted_of_none hs hg hg'
    exact .inl rfl
  | some goal =>
    obtain ⟨c, hc, hbecomes⟩ := becomes hs hg
    rw [hg'] at hc
    obtain rfl := Option.some.inj hc
    cases hbecomes with
    | keeps pending hl => exact .inr ⟨goal, rfl, rfl, rfl, .inl rfl⟩
    | register hpc =>
      exact .inl ((hrep.opening _ _ hg).unread ((hinv.registration _ _ hg).fresh (.inr hpc)))
    | unregister hpc => exact .inr ⟨goal, rfl, rfl, rfl, .inl rfl⟩
    | moved hm =>
      obtain ⟨hrequest, hsince, -⟩ := hm.frame (hinv.books _ _ hg)
      rcases hm.read with hread | ⟨driver, fault, -, -, rfl, hread⟩
      · exact .inr ⟨goal, rfl, hrequest, hsince, .inl hread⟩
      · exact .inr ⟨goal, rfl, hrequest, hsince, .inr ⟨fault, _, rfl, hread⟩⟩

/-- A quiet step makes no overlap. -/
theorem not_overlap_step (hinv : s.Inv) (hrep : s.Replayed) {l : Label} (hq : Quiet s l)
    (hs : step py s l = some s') (h : ∀ g goal, s.goals g = some goal → ¬s.Overlap goal) :
    ∀ g goal, s'.goals g = some goal → ¬s'.Overlap goal := by
  intro g goal' hg' hover
  obtain ⟨since, read, readAt, hsince', hread', hne⟩ := hover
  obtain ⟨rest, hrest⟩ := made_step hinv hs
  rcases goals_step hinv hrep hs hg' with hnone | ⟨goal, hg, hrequest, hsince, hread⟩
  · rw [hnone] at hread'
    cases hread'
  rw [MonitorGoal.ioName, hrequest] at hne
  rw [hsince] at hsince'
  rcases hread with hread | ⟨fault, read', rfl, hread⟩
  · rw [hread] at hread'
    obtain ⟨since', n, cache, hf⟩ := hrep.follows g goal read readAt hg hread'
    refine h g goal hg ⟨since, read, readAt, hsince', hread', ?_⟩
    rw [← hrest, List.take_append_of_le_length (hf.le.trans hf.le_made)] at hne
    exact hne
  · rw [hread] at hread'
    obtain ⟨rfl, rfl⟩ := Prod.mk.inj (Option.some.inj hread')
    rw [← hrest, List.take_left] at hne
    have hquiet := hq goal hg
    rw [hsince'] at hquiet
    exact hne hquiet

/-- The initial feedback of a goal is a true baseline when no change overlaps its registration and its
read, and once a change has been fed back, only then. -/
theorem monitor_baseline {s : Monitor} :
    (Lts.Runs (step py) Quiet {} s → ∀ g goal, s.goals g = some goal → goal.request.emitInitial →
      s.TrueBaseline g goal) ∧
    (Lts.Reaches (step py) {} s → ∀ g goal, s.goals g = some goal → goal.request.emitInitial →
      goal.sent ≠ [] → (s.TrueBaseline g goal ↔ ¬s.Overlap goal)) := by
  refine ⟨fun h g goal hg hemit => ?_, fun h g goal hg hemit hsent => ?_⟩
  · have h0 : ∀ g goal, ({} : Monitor).goals g = some goal → ¬Overlap {} goal := by
      intro g goal hg
      cases hg
    have hall := h.invariant
      (I := fun s => (s.Inv ∧ s.Replayed) ∧ ∀ g goal, s.goals g = some goal → ¬s.Overlap goal)
      ⟨⟨.initial, .initial⟩, h0⟩ fun hi hq hs =>
        ⟨⟨hi.1.1.step hs, hi.1.2.step hi.1.1 hs⟩, not_overlap_step hi.1.1 hi.1.2 hq hs hi.2⟩
    exact hall.1.2.trueBaseline hall.1.1 hg hemit (hall.2 g goal hg)
  · obtain ⟨hinv, hrep⟩ := Replayed.of_runs h
    refine ⟨fun hbase hover => ?_, hrep.trueBaseline hinv hg hemit⟩
    exact hrep.not_after hg hover hsent hbase

/-- The signal changes and changes back, one change before the registration and one after the read. -/
def quietChanges : List Label :=
  goActive ++ [.change "part_present" (.bool true), .stamp 1, .copyWatchers [], .put] ++
    startGoal 0 ⟨"part_present", true⟩ ++
    [.goal 0 (.readInitial none), .change "part_present" (.bool false), .stamp 2,
      .copyWatchers [0], .put, .put, .goal 0 (.publishInitial 3 none), .goal 0 .checkActive,
      .goal 0 .checkCancel, .goal 0 .get, .goal 0 (.publish none)]

theorem monitor_baseline_quietChanges : ∃ (s : Monitor) (goal : MonitorGoal), s.goals 0 = some goal ∧
    s.TrueBaseline 0 goal ∧ ¬s.Overlap goal ∧ goal.published.map (·.state) = [1, 0] := by
  have h : Lts.Runs (step .strict) Quiet {} _ := .of_exec quietChanges rfl
  have hbase := monitor_baseline.1 h 0 _ rfl rfl
  have hreach : Lts.Reaches (step .strict) {} _ := .of_exec quietChanges rfl
  refine ⟨_, _, rfl, hbase, ?_, rfl⟩
  exact (monitor_baseline.2 hreach 0 _ rfl rfl (List.cons_ne_nil _ _)).1 hbase

/-- The signal changes between the registration and the read. -/
def overlappingChange : List Label :=
  goActive ++ startGoal 0 ⟨"part_present", true⟩ ++
    [.change "part_present" (.bool true), .stamp 1, .copyWatchers [0], .put, .put,
      .goal 0 (.readInitial none), .goal 0 (.publishInitial 2 none), .goal 0 .checkActive,
      .goal 0 .checkCancel, .goal 0 .get, .goal 0 (.publish none)]

/-- The change is fed back after the state that it led to. -/
theorem baseline_repeated : ∃ (s : Monitor) (goal : MonitorGoal),
    Lts.Reaches (step .strict) {} s ∧ s.goals 0 = some goal ∧ goal.request.emitInitial ∧
      goal.published.map (·.state) = [1, 1] ∧ ¬s.TrueBaseline 0 goal := by
  refine ⟨_, _, .of_exec overlappingChange rfl, rfl, rfl, rfl, fun h => ?_⟩
  have hedges : List.IsChain (· ≠ ·) [(1 : ℚ), 1] := h.edges
  exact (List.isChain_cons_cons.1 hedges).1 rfl

end Monitor

end IoControllers
