import MovementController.Io.WindDown
import MovementController.Lib.Termination

/-!
# Every thread of `monitor_io` gets through

The change callback comes back, what is in the queue of a goal is published, and a goal that is
cancelled or on its way out ends: each by the steps of its own thread, whatever all the others do in
between.
-/

namespace IoControllers

def MonitorIO.Result.outcome (result : MonitorIO.Result) : MonitorOutcome :=
  if result.success then .canceled else .aborted

namespace MonitorPc

/-- How far it is to the end of the round, where a feedback is published. -/
def untilPublish : MonitorPc → ℕ
  | accepted => 7
  | lookedUp => 6
  | registered => 5
  | snapshotRead _ => 4
  | checkActive => 3
  | checkCancel => 2
  | get => 1
  | _ => 0

/-- How far it is to the end of a goal that does not pass the next check of the cancel flag. -/
def untilEnd : MonitorPc → ℕ
  | accepted => 9
  | lookedUp => 8
  | registered | get => 7
  | snapshotRead _ | publish => 6
  | checkActive => 5
  | checkCancel => 4
  | finish false _ _ => 3
  | finish true _ _ => 2
  | leave _ => 1
  | ended _ => 0

def plain : MonitorPc → Bool
  | publish | leave _ | ended _ => false
  | _ => true

end MonitorPc

namespace MonitorGoal

/-- All that the goal has got. -/
def received (goal : MonitorGoal) : List ChangeEvent :=
  goal.sent ++ goal.taken.toList ++ goal.pending

/-- There is an event to publish, and the outcome is the one the result says. -/
structure Orderly (goal : MonitorGoal) : Prop where
  publish : goal.pc = .publish → goal.taken.isSome = true
  leave : ∀ result, goal.pc = .leave (some result) → goal.outcome = some result.outcome
  ended : ∀ result, goal.pc = .ended result →
    goal.outcome = some (result.elim .aborted MonitorIO.Result.outcome)

namespace Orderly

variable {goal goal' : MonitorGoal}

theorem elsewhere (hpc : goal.pc.plain = true) : goal.Orderly where
  publish h := by
    rw [h] at hpc
    cases hpc
  leave result h := by
    rw [h] at hpc
    cases hpc
  ended result h := by
    rw [h] at hpc
    cases hpc

theorem frame (h : goal.Orderly) (hpc : goal'.pc = goal.pc) (htaken : goal'.taken = goal.taken)
    (houtcome : goal'.outcome = goal.outcome) : goal'.Orderly where
  publish hp := htaken ▸ h.publish (hpc ▸ hp)
  leave result hl := houtcome ▸ h.leave result (hpc ▸ hl)
  ended result he := houtcome ▸ h.ended result (hpc ▸ he)

end Orderly

theorem outcome_result (goal : MonitorGoal) (message : String) (outcome : MonitorOutcome) :
    (goal.result message outcome).outcome = outcome := by
  cases outcome <;> rfl

end MonitorGoal

namespace Monitor

/-! ### Whose step it is -/

/-- The steps of the change callback. -/
def Label.callback : Label → Bool
  | stamp _ | copyWatchers _ | put => true
  | _ => false

/-- The steps of the thread of a goal. -/
def Label.thread (g : ℕ) : Label → Bool
  | register i | unregister i => i = g
  | goal i k => i = g ∧ k ≠ .cancel
  | _ => false

variable {py : Pydantic} {s s' : Monitor} {g : ℕ} {goal goal' : MonitorGoal} {l : Label}

/-- A step of the thread of the goal. -/
inductive Advances (s : Monitor) (goal : MonitorGoal) : MonitorGoal → Prop
  | register (hpc : goal.pc = .lookedUp) : Advances s goal (goal.register s.routed.length)
  | unregister {result : Option MonitorIO.Result} (hpc : goal.pc = .leave result) :
      Advances s goal { goal with
        pc := .ended result
        outcome := if result.isNone then some .aborted else goal.outcome }
  | moved {k : GoalStep} {goal' : MonitorGoal} (hk : k ≠ .cancel)
      (h : goal.Moved s.node s.made.length k goal') : Advances s goal goal'

/-- A step of the node, for one goal. -/
inductive Turn (s : Monitor) (g : ℕ) (goal : MonitorGoal) : Label → MonitorGoal → Prop
  | waits {l : Label} (events : List ChangeEvent) (hl : l.thread g = false) :
      Turn s g goal l { goal with pending := goal.pending ++ events }
  | cancel : Turn s g goal (.goal g .cancel) { goal with cancelRequested := true }
  | advances {l : Label} {goal' : MonitorGoal} (h : Advances s goal goal') : Turn s g goal l goal'

theorem Turn.same (hl : l.thread g = false) : Turn s g goal l goal := by
  have h : Turn s g goal l { goal with pending := goal.pending ++ [] } := .waits [] hl
  rwa [List.append_nil] at h

theorem turn (hs : step py s l = some s') (hg : s.goals g = some goal) :
    ∃ goal', s'.goals g = some goal' ∧ Turn s g goal l goal' := by
  have hother : ∀ {i : ℕ} {c : MonitorGoal}, g ≠ i →
      Function.update s.goals i (some c) g = some goal :=
    fun hi => (Function.update_of_ne hi _ _).trans hg
  have hsame : ∀ {c : MonitorGoal}, s.goals g = some c → c = goal := fun hc =>
    (Option.some.inj (hg.symm.trans hc)).symm
  cases step_cases hs with
  | transition hm => exact ⟨goal, hg, .same rfl⟩
  | @accept i request hi hok =>
    have hne : g ≠ i := by
      rintro rfl
      rw [hg] at hi
      cases hi
    exact ⟨goal, hother hne, .same rfl⟩
  | @register i c hi hpc =>
    rcases eq_or_ne g i with rfl | hne
    · obtain rfl := hsame hi
      exact ⟨_, Function.update_self _ _ _, .advances (.register hpc)⟩
    · exact ⟨goal, hother hne, .same (decide_eq_false hne.symm)⟩
  | @unregister i c result hi hpc =>
    rcases eq_or_ne g i with rfl | hne
    · obtain rfl := hsame hi
      exact ⟨_, Function.update_self _ _ _, .advances (.unregister hpc)⟩
    · exact ⟨goal, hother hne, .same (decide_eq_false hne.symm)⟩
  | @goal i c c' k hi hm =>
    rcases eq_or_ne g i with rfl | hne
    · obtain rfl := hsame hi
      refine ⟨_, Function.update_self _ _ _, ?_⟩
      by_cases hk : k = .cancel
      · subst hk
        cases hm
        exact .cancel
      · exact .advances (.moved hk hm)
    · exact ⟨goal, hother hne, .same (decide_eq_false fun h => hne h.1.symm)⟩
  | change hr hc => exact ⟨goal, (congrFun (goals_change hc) g).trans hg, .same rfl⟩
  | stamp time hr => exact ⟨goal, hg, .same rfl⟩
  | copyWatchers hr hnodup hset => exact ⟨goal, hg, .same rfl⟩
  | @put event i entries c hr hi =>
    rcases eq_or_ne g i with rfl | hne
    · obtain rfl := hsame hi
      exact ⟨_, Function.update_self _ _ _, .waits [event] rfl⟩
    · exact ⟨goal, hother hne, .same rfl⟩
  | done hr => exact ⟨goal, hg, .same rfl⟩

/-- A label of the thread is a step of it. -/
theorem Turn.advanced (h : Turn s g goal l goal') (hl : l.thread g = true) :
    Advances s goal goal' := by
  cases h with
  | waits events hl' =>
    rw [hl] at hl'
    cases hl'
  | cancel => simp [Label.thread] at hl
  | advances h => exact h

/-! ### Where the thread goes -/

/-- The places that follow each other in `_execute_monitor`. -/
inductive Next (cancelRequested : Bool) : MonitorPc → MonitorPc → Prop
  | unknown : Next cancelRequested .accepted (.ended none)
  | lookup : Next cancelRequested .accepted .lookedUp
  | registerEmitting : Next cancelRequested .lookedUp .registered
  | register : Next cancelRequested .lookedUp .checkActive
  | readNone : Next cancelRequested .registered .checkActive
  | readInitial (signal : Signal) : Next cancelRequested .registered (.snapshotRead signal)
  | publishInitial (signal : Signal) : Next cancelRequested (.snapshotRead signal) .checkActive
  | deactivated (message : String) (outcome : MonitorOutcome) :
      Next cancelRequested .checkActive (.finish false message outcome)
  | active : Next cancelRequested .checkActive .checkCancel
  | cancelled (message : String) (outcome : MonitorOutcome) :
      Next cancelRequested .checkCancel (.finish false message outcome)
  | notCancelled (hcancel : cancelRequested = false) : Next cancelRequested .checkCancel .get
  | timeout : Next cancelRequested .get .checkActive
  | got : Next cancelRequested .get .publish
  | published : Next cancelRequested .publish .checkActive
  | raised {pc : MonitorPc} (message : String) (outcome : MonitorOutcome)
      (hpc : 2 < pc.untilEnd) : Next cancelRequested pc (.finish true message outcome)
  | finished (handler : Bool) (message : String) (outcome : MonitorOutcome)
      (result : Option MonitorIO.Result) :
      Next cancelRequested (.finish handler message outcome) (.leave result)
  | left (result : Option MonitorIO.Result) : Next cancelRequested (.leave result) (.ended result)

theorem Next.untilEnd_lt {cancelRequested : Bool} {pc pc' : MonitorPc}
    (h : Next cancelRequested pc pc') (hend : cancelRequested = true ∨ pc.watching = false) :
    pc'.untilEnd < pc.untilEnd := by
  cases h with
  | notCancelled hcancel => simp [hcancel, MonitorPc.watching] at hend
  | raised message outcome hpc => exact hpc
  | finished handler message outcome result => cases handler <;> simp [MonitorPc.untilEnd]
  | _ => simp [MonitorPc.untilEnd]

theorem Next.not_watching {cancelRequested : Bool} {pc pc' : MonitorPc}
    (h : Next cancelRequested pc pc') (hpc : pc.watching = false) : pc'.watching = false := by
  cases h <;> first | rfl | cases hpc

/-- But for an empty queue and a feedback, it goes on to the end of the round. -/
theorem Next.untilPublish_lt {cancelRequested : Bool} {pc pc' : MonitorPc}
    (h : Next cancelRequested pc pc') (hpc' : pc'.watching = true) :
    pc'.untilPublish < pc.untilPublish ∨ pc' = .checkActive ∧ (pc = .get ∨ pc = .publish) := by
  cases h with
  | timeout => exact .inr ⟨rfl, .inl rfl⟩
  | published => exact .inr ⟨rfl, .inr rfl⟩
  | _ => simp [MonitorPc.watching, MonitorPc.untilPublish] at hpc' ⊢

namespace Advances

theorem next (h : Advances s goal goal') : Next goal.cancelRequested goal.pc goal'.pc := by
  cases h with
  | register hpc =>
    rw [hpc, MonitorGoal.register]
    dsimp only
    split
    · exact .registerEmitting
    · exact .register
  | unregister hpc =>
    rw [hpc]
    exact .left _
  | moved hk hm =>
    cases hm with
    | lookup hpc =>
      rw [hpc, MonitorGoal.lookup]
      split
      · exact .unknown
      · exact .lookup
    | readInitial fault hpc =>
      rw [hpc]
      unfold MonitorGoal.readInitial
      split
      · exact .raised _ _ (by decide)
      · split
        · exact .raised _ _ (by decide)
        · split
          · exact .readNone
          · exact .readInitial _
    | publishInitial stamp fault hpc =>
      rw [hpc]
      cases fault with
      | none => exact .publishInitial _
      | some exc => exact .raised _ _ (Nat.lt_add_left 3 (Nat.lt_add_one 2))
    | checkActive hpc =>
      rw [hpc, MonitorGoal.checkActive]
      split
      · exact .deactivated _ _
      · exact .active
    | checkCancel hpc =>
      rw [hpc, MonitorGoal.checkCancel]
      split
      · exact .cancelled _ _
      · next hcancel => exact .notCancelled (Bool.eq_false_of_not_eq_true hcancel)
    | get hpc =>
      rw [hpc, MonitorGoal.get]
      split
      · exact .timeout
      · exact .got
    | publish fault hpc htaken =>
      rw [hpc]
      cases fault with
      | none => exact .published
      | some exc => exact .raised _ _ (by decide)
    | @finish handler message outcome fault hpc =>
      rw [hpc]
      unfold MonitorGoal.finish
      split
      · exact .finished _ _ _ _
      · cases handler with
        | true => exact .finished _ _ _ _
        | false => exact .raised _ _ (Nat.lt_add_one 2)
    | cancel => exact absurd rfl hk

/-- What the thread leaves as it is. -/
theorem frame (hb : goal.Books) (h : Advances s goal goal') :
    goal'.cancelRequested = goal.cancelRequested ∧ goal'.received = goal.received ∧
      goal.sent <+: goal'.sent := by
  cases h with
  | register hpc => exact ⟨rfl, rfl, List.prefix_rfl⟩
  | unregister hpc => exact ⟨rfl, rfl, List.prefix_rfl⟩
  | moved hk hm =>
    have hsame : goal'.cancelRequested = goal.cancelRequested ∧ goal.sent <+: goal'.sent := by
      cases hm with
      | lookup hpc => unfold MonitorGoal.lookup; split <;> exact ⟨rfl, List.prefix_rfl⟩
      | readInitial fault hpc =>
        unfold MonitorGoal.readInitial
        split
        · exact ⟨rfl, List.prefix_rfl⟩
        · split
          · exact ⟨rfl, List.prefix_rfl⟩
          · split <;> exact ⟨rfl, List.prefix_rfl⟩
      | publishInitial stamp fault hpc => cases fault <;> exact ⟨rfl, List.prefix_rfl⟩
      | checkActive hpc => unfold MonitorGoal.checkActive; split <;> exact ⟨rfl, List.prefix_rfl⟩
      | checkCancel hpc => unfold MonitorGoal.checkCancel; split <;> exact ⟨rfl, List.prefix_rfl⟩
      | get hpc => unfold MonitorGoal.get; split <;> exact ⟨rfl, List.prefix_rfl⟩
      | publish fault hpc htaken =>
        cases fault with
        | none => exact ⟨rfl, List.prefix_append _ _⟩
        | some exc => exact ⟨rfl, List.prefix_rfl⟩
      | finish fault hpc =>
        unfold MonitorGoal.finish
        split
        · exact ⟨rfl, List.prefix_rfl⟩
        · split <;> exact ⟨rfl, List.prefix_rfl⟩
      | cancel => exact absurd rfl hk
    exact ⟨hsame.1, (hm.frame hb).2.2, hsame.2⟩

/-- A goal that gets nothing has nothing to send. -/
theorem sent_of_timeout (hb : goal.Books) (h : Advances s goal goal') (hpc : goal.pc = .get)
    (hpc' : goal'.pc = .checkActive) : goal.received = goal.sent := by
  have htaken := hb.untaken (by rw [hpc]; rfl)
  cases h with
  | register hpc'' => simp [hpc] at hpc''
  | unregister hpc'' => simp [hpc] at hpc''
  | moved hk hm =>
    cases hm with
    | get =>
      unfold MonitorGoal.get at hpc'
      split at hpc'
      · next hnil => simp [MonitorGoal.received, htaken, hnil]
      · cases hpc'
    | cancel => exact absurd rfl hk
    | _ => simp_all

theorem sent_of_published (h : Advances s goal goal') (hpc : goal.pc = .publish)
    (hpc' : goal'.pc = .checkActive) : goal'.sent.length = goal.sent.length + 1 := by
  cases h with
  | register hpc'' => simp [hpc] at hpc''
  | unregister hpc'' => simp [hpc] at hpc''
  | moved hk hm =>
    cases hm with
    | publish fault _ htaken =>
      cases fault with
      | some exc => cases hpc'
      | none => simp [MonitorGoal.publish]
    | cancel => exact absurd rfl hk
    | _ => simp_all

/-- A goal that has got more than it has sent comes nearer to sending it. -/
theorem drains (hb : goal.Books) (h : Advances s goal goal') {events : List ChangeEvent}
    (hgot : events <+: goal.received) (hmore : goal.sent.length < events.length)
    (hpc' : goal'.pc.watching = true) :
    4 * (events.length - goal'.sent.length) + goal'.pc.untilPublish <
      4 * (events.length - goal.sent.length) + goal.pc.untilPublish := by
  have hsent := (h.frame hb).2.2.length_le
  rcases h.next.untilPublish_lt hpc' with hlt | ⟨hcheck, hget | hpublish⟩
  · omega
  · have hall := hgot.length_le
    rw [h.sent_of_timeout hb hget hcheck] at hall
    omega
  · have hone := h.sent_of_published hpublish hcheck
    rw [hcheck, hpublish]
    simp only [MonitorPc.untilPublish]
    omega

theorem orderly (h : Advances s goal goal') (ho : goal.Orderly) : goal'.Orderly := by
  cases h with
  | register hpc =>
    refine .elsewhere ?_
    unfold MonitorGoal.register
    dsimp only
    split <;> rfl
  | @unregister result hpc =>
    refine ⟨by rintro ⟨⟩, by rintro _ ⟨⟩, ?_⟩
    rintro _ ⟨⟩
    cases result with
    | none => rfl
    | some result => exact ho.leave result hpc
  | moved hk hm =>
    cases hm with
    | lookup hpc =>
      unfold MonitorGoal.lookup
      split
      · refine ⟨by rintro ⟨⟩, by rintro _ ⟨⟩, ?_⟩
        rintro _ ⟨⟩
        rfl
      · exact .elsewhere rfl
    | readInitial fault hpc =>
      unfold MonitorGoal.readInitial
      split
      · exact .elsewhere rfl
      · split
        · exact .elsewhere rfl
        · split <;> exact .elsewhere rfl
    | publishInitial stamp fault hpc => cases fault <;> exact .elsewhere rfl
    | checkActive hpc => unfold MonitorGoal.checkActive; split <;> exact .elsewhere rfl
    | checkCancel hpc => unfold MonitorGoal.checkCancel; split <;> exact .elsewhere rfl
    | get hpc =>
      unfold MonitorGoal.get
      split
      · exact .elsewhere rfl
      · exact ⟨fun _ => rfl, by rintro _ ⟨⟩, by rintro _ ⟨⟩⟩
    | publish fault hpc htaken => cases fault <;> exact .elsewhere rfl
    | @finish handler message outcome fault hpc =>
      unfold MonitorGoal.finish
      split
      · refine ⟨by rintro ⟨⟩, ?_, by rintro _ ⟨⟩⟩
        rintro _ ⟨⟩
        rw [goal.outcome_result]
      · split
        · exact ⟨by rintro ⟨⟩, by rintro _ ⟨⟩, by rintro _ ⟨⟩⟩
        · exact .elsewhere rfl
    | cancel => exact absurd rfl hk

end Advances

theorem Turn.orderly (h : Turn s g goal l goal') (ho : goal.Orderly) : goal'.Orderly := by
  cases h with
  | waits events hl => exact ho.frame rfl rfl rfl
  | cancel => exact ho.frame rfl rfl rfl
  | advances h => exact h.orderly ho

/-! ### The node -/

structure Live (s : Monitor) : Prop where
  inv : s.Inv
  orderly : ∀ g goal, s.goals g = some goal → goal.Orderly

theorem Live.step (h : s.Live) (hs : Monitor.step py s l = some s') : s'.Live where
  inv := h.inv.step hs
  orderly g goal' hg' := by
    cases hg : s.goals g with
    | none =>
      obtain ⟨request, rfl⟩ := accepted_of_none hs hg hg'
      exact .elsewhere rfl
    | some goal =>
      obtain ⟨goal'', hg'', hturn⟩ := turn hs hg
      rw [hg'] at hg''
      rw [Option.some.inj hg'']
      exact hturn.orderly (h.orderly g goal hg)

theorem Live.of_runs {C : Monitor → Label → Prop} (h : Lts.Runs (Monitor.step py) C {} s) : s.Live :=
  h.invariant ⟨.initial, by rintro _ _ ⟨⟩⟩ fun hi _ hs => hi.step hs

/-- The thread of a goal is never blocked. -/
theorem exists_step (py : Pydantic) (ho : goal.Orderly) (hg : s.goals g = some goal)
    (hpc : ∀ result, goal.pc ≠ .ended result) :
    ∃ l s', l.thread g = true ∧ step py s l = some s' := by
  suffices h : ∃ l, Label.thread g l = true ∧ (step py s l).isSome = true by
    obtain ⟨l, hl, hs⟩ := h
    exact ⟨l, _, hl, (Option.some_get hs).symm⟩
  have own {k : GoalStep} (hk : k ≠ .cancel)
      (hstep : (goal.step s.node s.made.length k).isSome = true) :
      ∃ l, Label.thread g l = true ∧ (step py s l).isSome = true :=
    ⟨.goal g k, by simp [Label.thread, hk], by simpa [step, hg] using hstep⟩
  cases h : goal.pc with
  | accepted => exact own (k := .lookup) (by rintro ⟨⟩) (by simp [MonitorGoal.step, h])
  | lookedUp => exact ⟨.register g, by simp [Label.thread], by simp [step, hg, h]⟩
  | registered => exact own (k := .readInitial none) (by rintro ⟨⟩) (by simp [MonitorGoal.step, h])
  | snapshotRead signal =>
    exact own (k := .publishInitial 0 none) (by rintro ⟨⟩) (by simp [MonitorGoal.step, h])
  | checkActive => exact own (k := .checkActive) (by rintro ⟨⟩) (by simp [MonitorGoal.step, h])
  | checkCancel => exact own (k := .checkCancel) (by rintro ⟨⟩) (by simp [MonitorGoal.step, h])
  | get => exact own (k := .get) (by rintro ⟨⟩) (by simp [MonitorGoal.step, h])
  | publish =>
    have htaken := ho.publish h
    exact own (k := .publish none) (by rintro ⟨⟩) (by simpa [MonitorGoal.step, h] using htaken)
  | finish handler message outcome =>
    exact own (k := .finish none) (by rintro ⟨⟩) (by simp [MonitorGoal.step, h])
  | leave result => exact ⟨.unregister g, by simp [Label.thread], by simp [step, hg, h]⟩
  | ended result => exact absurd h (hpc result)

/-! ### The end of a goal -/

/-- The goal has ended: its client is told what the result says, all feedback is counted, and
nothing more will be put in its queue. -/
def Over (g : ℕ) (s : Monitor) : Prop :=
  ∃ goal result, s.goals g = some goal ∧ goal.pc = .ended result ∧
    goal.outcome = some (result.elim .aborted MonitorIO.Result.outcome) ∧
    (∀ r ∈ result, r.changeCount = goal.published.length) ∧
    ∀ ioName, g ∉ s.node.watchersOf ioName

theorem Live.over (h : s.Live) (hg : s.goals g = some goal) {result : Option MonitorIO.Result}
    (hpc : goal.pc = .ended result) : s.Over g := by
  refine ⟨goal, result, hg, hpc, (h.orderly g goal hg).ended result hpc, ?_, fun ioName hmem => ?_⟩
  · rintro r ⟨⟩
    exact (h.inv.books g goal hg).result r (by rw [hpc]; rfl)
  · obtain ⟨goal', hg', hrunning, -⟩ := h.inv.table.mem ioName g hmem
    rw [hg] at hg'
    rw [← Option.some.inj hg', MonitorGoal.running, hpc] at hrunning
    cases hrunning

structure Ending (g : ℕ) (s : Monitor) (goal : MonitorGoal) : Prop where
  live : s.Live
  present : s.goals g = some goal
  ending : goal.cancelRequested = true ∨ goal.pc.watching = false
  notOver : ∀ result, goal.pc ≠ .ended result

def endRank (g : ℕ) (s : Monitor) : ℕ := ((s.goals g).map (·.pc.untilEnd)).getD 0

theorem ending_ranked (py : Pydantic) (g : ℕ) :
    Lts.Ranked (step py) (fun _ l => l.thread g = true) (fun s => ∃ goal, Ending g s goal)
      (Over g) (endRank g) where
  progress := by
    rintro s ⟨goal, h⟩ -
    exact exists_step py (h.live.orderly g goal h.present) h.present h.notOver
  keeps := by
    rintro s s' l ⟨goal, h⟩ hs
    obtain ⟨goal', hg', hturn⟩ := turn hs h.present
    have hlive := h.live.step hs
    by_cases hover : ∃ result, goal'.pc = .ended result
    · obtain ⟨result, hpc⟩ := hover
      exact .inl (hlive.over hg' hpc)
    have hnot : ∀ result, goal'.pc ≠ .ended result := fun result hpc => hover ⟨result, hpc⟩
    have hrank : endRank g s = goal.pc.untilEnd := by rw [endRank, h.present]; rfl
    have hrank' : endRank g s' = goal'.pc.untilEnd := by rw [endRank, hg']; rfl
    rw [hrank, hrank']
    refine .inr ?_
    cases hturn with
    | waits events hl =>
      refine ⟨⟨_, hlive, hg', h.ending, hnot⟩, Nat.le_refl _, fun hl' => ?_⟩
      simp [hl] at hl'
    | cancel =>
      refine ⟨⟨_, hlive, hg', .inl rfl, hnot⟩, Nat.le_refl _, fun hl' => ?_⟩
      simp [Label.thread] at hl'
    | advances ha =>
      have hlt := ha.next.untilEnd_lt h.ending
      refine ⟨⟨_, hlive, hg', ?_, hnot⟩, hlt.le, fun _ => hlt⟩
      rw [(ha.frame (h.live.inv.books g goal h.present)).1]
      exact h.ending.imp_right ha.next.not_watching

/-! ### What is in the queue -/

/-- A feedback for each of the events is published, or the goal is on its way out. -/
def Drained (g : ℕ) (events : List ChangeEvent) (s : Monitor) : Prop :=
  ∃ goal, s.goals g = some goal ∧
    (goal.pc.watching = false ∨ ∀ event ∈ events, goal.feedback event ∈ goal.published)

structure Draining (g : ℕ) (events : List ChangeEvent) (s : Monitor) (goal : MonitorGoal) :
    Prop where
  live : s.Live
  present : s.goals g = some goal
  watching : goal.pc.watching = true
  got : events <+: goal.received
  more : goal.sent.length < events.length

def queueRank (g : ℕ) (events : List ChangeEvent) (s : Monitor) : ℕ :=
  ((s.goals g).map fun goal =>
    4 * (events.length - goal.sent.length) + goal.pc.untilPublish).getD 0

/-- The goal is drained, or it still has to send some of what it has got. -/
theorem Live.drained_or (h : s.Live) (hg : s.goals g = some goal) {events : List ChangeEvent}
    (hgot : events <+: goal.received) : s.Drained g events ∨ Draining g events s goal := by
  cases hpc : goal.pc.watching with
  | false => exact .inl ⟨goal, hg, .inl hpc⟩
  | true =>
    rcases Nat.lt_or_ge goal.sent.length events.length with hmore | hall
    · exact .inr ⟨h, hg, hpc, hgot, hmore⟩
    · have hsent : goal.sent <+: goal.received := by
        rw [MonitorGoal.received, List.append_assoc]
        exact List.prefix_append _ _
      have hevents := List.prefix_of_prefix_length_le hgot hsent hall
      refine .inl ⟨goal, hg, .inr fun event hevent => ?_⟩
      rw [(h.inv.books g goal hg).published]
      exact List.mem_append_right _ (List.mem_map_of_mem (hevents.subset hevent))

theorem queue_ranked (py : Pydantic) (g : ℕ) (events : List ChangeEvent) :
    Lts.Ranked (step py) (fun _ l => l.thread g = true) (fun s => ∃ goal, Draining g events s goal)
      (Drained g events) (queueRank g events) where
  progress := by
    rintro s ⟨goal, h⟩ -
    refine exists_step py (h.live.orderly g goal h.present) h.present fun result hpc => ?_
    have hwatching := h.watching
    rw [hpc] at hwatching
    cases hwatching
  keeps := by
    rintro s s' l ⟨goal, h⟩ hs
    obtain ⟨goal', hg', hturn⟩ := turn hs h.present
    have hbooks := h.live.inv.books g goal h.present
    have hgot : events <+: goal'.received := by
      cases hturn with
      | waits more hl =>
        refine h.got.trans ?_
        show goal.received <+: goal.sent ++ goal.taken.toList ++ (goal.pending ++ more)
        rw [← List.append_assoc]
        exact List.prefix_append _ _
      | cancel => exact h.got
      | advances ha =>
        rw [(ha.frame hbooks).2.1]
        exact h.got
    refine ((h.live.step hs).drained_or hg' hgot).imp_right fun h' => ⟨⟨_, h'⟩, ?_⟩
    have hrank : queueRank g events s =
        4 * (events.length - goal.sent.length) + goal.pc.untilPublish := by
      rw [queueRank, h.present]; rfl
    have hrank' : queueRank g events s' =
        4 * (events.length - goal'.sent.length) + goal'.pc.untilPublish := by
      rw [queueRank, hg']; rfl
    rw [hrank, hrank']
    cases hturn with
    | waits more hl =>
      refine ⟨Nat.le_refl _, fun hl' => ?_⟩
      simp [hl] at hl'
    | cancel =>
      refine ⟨Nat.le_refl _, fun hl' => ?_⟩
      simp [Label.thread] at hl'
    | advances ha =>
      have hlt := ha.drains hbooks h.got h.more h'.watching
      exact ⟨hlt.le, fun _ => hlt⟩

/-! ### The change callback -/

/-- The phase of the callback, and how many queues it still has to put the event in. -/
def callbackRank (s : Monitor) : ℕ ×ₗ ℕ :=
  match s.routing with
  | .idle => toLex (0, 0)
  | .called _ _ => toLex (2, 0)
  | .stamped _ _ _ => toLex (1, 0)
  | .enqueue _ entries => toLex (0, entries.length)

theorem callback_ranked (py : Pydantic) :
    Lts.Ranked (step py) (fun _ l => l.callback = true) (fun s => s.Live ∧ s.routing ≠ .idle)
      (fun s => s.routing = .idle) callbackRank where
  progress := by
    rintro s ⟨h, -⟩ hnot
    suffices h : ∃ l, Label.callback l = true ∧ (step py s l).isSome = true by
      obtain ⟨l, hl, hs⟩ := h
      exact ⟨l, _, hl, (Option.some_get hs).symm⟩
    cases hr : s.routing with
    | idle => exact absurd hr hnot
    | called ioName signal => exact ⟨.stamp 0, rfl, by simp [step, hr]⟩
    | stamped ioName signal stamp =>
      refine ⟨.copyWatchers (s.node.watchersOf ioName).toList, rfl, ?_⟩
      simp [step, hr, copyWatchers, Finset.nodup_toList]
    | enqueue event entries =>
      refine ⟨.put, rfl, ?_⟩
      cases entries with
      | nil => simp [step, hr, put]
      | cons g entries =>
        have hflight : (g, event) ∈ s.fanout.flight := by
          show (g, event) ∈ s.flight
          simp [flight, hr]
        obtain ⟨b, hb, -⟩ := h.inv.fanout.flight _ hflight
        obtain ⟨goal, hg, -⟩ := Option.bind_eq_some_iff.1 hb
        simp [step, hr, put, hg]
  keeps := by
    rintro s s' l ⟨h, hnot⟩ hs
    have hlive := h.step hs
    have still (hrouting : s'.routing = s.routing) (hl : l.callback = false) :
        s'.routing = .idle ∨ (s'.Live ∧ s'.routing ≠ .idle) ∧
          callbackRank s' ≤ callbackRank s ∧
            (l.callback = true → callbackRank s' < callbackRank s) := by
      refine .inr ⟨⟨hlive, hrouting ▸ hnot⟩, ?_, by simp [hl]⟩
      rw [callbackRank, callbackRank, hrouting]
    have moves (hne : s'.routing ≠ .idle) (hlt : callbackRank s' < callbackRank s) :
        s'.routing = .idle ∨ (s'.Live ∧ s'.routing ≠ .idle) ∧
          callbackRank s' ≤ callbackRank s ∧
            (l.callback = true → callbackRank s' < callbackRank s) :=
      .inr ⟨⟨hlive, hne⟩, hlt.le, fun _ => hlt⟩
    cases step_cases hs with
    | transition hm => exact still rfl rfl
    | accept hg hok => exact still rfl rfl
    | register hg hpc => exact still rfl rfl
    | unregister hg hpc => exact still rfl rfl
    | goal hg hm => exact still rfl rfl
    | change hr hc => exact absurd hr hnot
    | stamp time hr =>
      refine moves (by rintro ⟨⟩) ?_
      rw [callbackRank, callbackRank, hr]
      exact Prod.Lex.toLex_lt_toLex.2 (.inl (by decide))
    | copyWatchers hr hnodup hset =>
      refine moves (by rintro ⟨⟩) ?_
      rw [callbackRank, callbackRank, hr]
      exact Prod.Lex.toLex_lt_toLex.2 (.inl Nat.one_pos)
    | @put event g entries goal hr hg =>
      refine moves (by rintro ⟨⟩) ?_
      rw [callbackRank, callbackRank, hr]
      exact Prod.Lex.toLex_lt_toLex.2 (.inr ⟨rfl, by simp⟩)
    | done hr => exact .inl rfl

/-! ### Runs -/

/-- Whatever the other threads do: the change callback comes back, all that a goal has in its queue
is published unless the goal ends first, and a goal that is cancelled or on its way out ends. -/
theorem monitor_gets_through {C : Monitor → Label → Prop} {s : Monitor}
    (h : Lts.Runs (step py) C {} s) :
    Lts.Inevitable (step py) (fun _ l => l.callback = true) (fun t => t.routing = .idle) s ∧
      ∀ g goal, s.goals g = some goal →
        Lts.Inevitable (step py) (fun _ l => l.thread g = true) (Drained g goal.received) s ∧
          (goal.cancelRequested = true ∨ goal.pc.watching = false →
            Lts.Inevitable (step py) (fun _ l => l.thread g = true) (Over g) s) := by
  have hlive := Live.of_runs h
  refine ⟨?_, fun g goal hg => ⟨?_, fun hend => ?_⟩⟩
  · by_cases hr : s.routing = .idle
    · exact .of_holds hr
    · exact (callback_ranked py).inevitable ⟨hlive, hr⟩
  · rcases hlive.drained_or hg List.prefix_rfl with hdrained | hdraining
    · exact .of_holds hdrained
    · exact (queue_ranked py g _).inevitable ⟨goal, hdraining⟩
  · by_cases hover : ∃ result, goal.pc = .ended result
    · obtain ⟨result, hpc⟩ := hover
      exact .of_holds (hlive.over hg hpc)
    · exact (ending_ranked py g).inevitable
        ⟨goal, hlive, hg, hend, fun result hpc => hover ⟨result, hpc⟩⟩

/-- A change is on its way to two goals, and the client of the first one cancels it. -/
theorem monitor_gets_through_twoGoals : ∃ (s : Monitor) (goal : MonitorGoal),
    s.goals 0 = some goal ∧ goal.cancelRequested = true ∧ s.routing ≠ .idle ∧
      Lts.Inevitable (step .strict) (fun _ l => l.callback = true) (fun t => t.routing = .idle) s ∧
        Lts.Inevitable (step .strict) (fun _ l => l.thread 0 = true) (Over 0) s := by
  have h : Lts.Runs (step .strict) (fun _ _ => True) {} _ :=
    .of_exec (twoGoals ++ [.goal 0 .cancel]) rfl
  obtain ⟨hcallback, hgoals⟩ := monitor_gets_through h
  exact ⟨_, _, rfl, rfl, by rintro ⟨⟩, hcallback, (hgoals 0 _ rfl).2 (.inl rfl)⟩

end Monitor

end IoControllers
