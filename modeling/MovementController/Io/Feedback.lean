import MovementController.Io.Books
import MovementController.Io.Events

/-!
# `monitor_io` accounts for every change

That nothing is lost on the way to a goal comes from the fan-out: the goals are subscribers whose
topic is their signal, and each step of the node is a step of the fan-out (`Fanout.Inv`). The watcher
table is what the fan-out copies, so it has to hold exactly the live subscribers (`Table`).
-/

namespace IoControllers

/-! ### The driver of the node -/

theorem IODriver.update_cases {driver : IODriver} (hk : driver.base.Keyed) (ioName : String)
    (value : Value) : (driver.update ioName value).base = driver.base ∨
      ∃ signal updated, Dict.get driver.base.cache ioName = some signal ∧
        updated.ioName = ioName ∧ updated.Typed ∧ signal.Differs updated ∧
        (driver.update ioName value).base = driver.base.store ioName updated := by
  unfold update
  cases hget : Dict.get driver.base.cache ioName with
  | none => exact .inl rfl
  | some signal =>
    have hname := hk ioName signal hget
    have htyped : Signal.Typed { signal with
        state := if signal.type = .digital then .bool value.toBool else .float value.toFloat } :=
      fun htype => ⟨value.toBool, if_pos htype⟩
    dsimp only at htyped ⊢
    generalize (if signal.type = .digital then Value.bool value.toBool
      else .float value.toFloat) = value at htyped ⊢
    cases driver with
    | mock d =>
      dsimp only [base, MockIODriver.apply]
      split
      · exact .inl rfl
      · next hne =>
        exact .inr ⟨signal, { signal with state := value }, rfl, hname, htyped, hne, by rw [hname]⟩
    | ur d =>
      have hget' : Dict.get d.cache ioName = some signal := hget
      dsimp only [base, URIODriver.updateCache]
      rw [hget']
      dsimp only
      split
      · exact .inl rfl
      · next hne => exact .inr ⟨signal, { signal with state := value }, rfl, hname, htyped, hne, rfl⟩

/-- The cache of the driver is in order, and the driver calls back. -/
structure IODriver.Connected (driver : IODriver) : Prop where
  consistent : driver.base.Consistent
  typed : driver.base.Typed
  callback : driver.base.callback = true

namespace IODriver.Connected

variable {driver driver' : IODriver}

theorem of_base (h : driver.Connected) (hbase : driver'.base = driver.base) : driver'.Connected := by
  refine ⟨?_, ?_, ?_⟩ <;> rw [hbase]
  · exact h.consistent
  · exact h.typed
  · exact h.callback

theorem of_createDriver {py : Pydantic} {config : IOControllerConfigDTO} {simulated : Bool}
    (h : createDriver py config simulated = .ok driver) : driver.setChangeCallback.Connected := by
  obtain ⟨signals, hnodup, htyped, hbase⟩ := createDriver_ok h
  refine ⟨.of_signals hnodup ?_, .of_signals htyped ?_, ?_⟩
  · rw [base_setChangeCallback, hbase]
  · rw [base_setChangeCallback, hbase]
  · rw [base_setChangeCallback]

theorem store (h : driver.Connected) {ioName : String} {signal updated : Signal}
    (hget : Dict.get driver.base.cache ioName = some signal) (hname : updated.ioName = ioName)
    (htyped : updated.Typed) (hbase : driver'.base = driver.base.store ioName updated) :
    driver'.Connected := by
  refine ⟨?_, ?_, ?_⟩ <;> rw [hbase]
  · exact h.consistent.store hget hname
  · exact h.typed.store htyped
  · exact h.callback

end IODriver.Connected

theorem Managed.Transits.connected {py : Pydantic} {m m' : Managed} {t : Transition}
    {ret : TransitionCallbackReturn} (h : m.Transits py t m' ret)
    (hc : ∀ driver, m.node.driver = some driver → driver.Connected) :
    ∀ driver, m'.node.driver = some driver → driver.Connected := by
  intro driver hdriver
  cases h with
  | configure hstate hok =>
    rw [GpioController.driver_setUp] at hdriver
    rw [← Option.some.inj hdriver]
    exact .of_createDriver hok
  | configureFails hstate hold =>
    rcases hold with rfl | rfl
    · exact hc driver hdriver
    · cases hdriver
  | activate hstate hold =>
    rw [← Option.some.inj hdriver]
    exact (hc _ hold).of_base (IODriver.base_activate _)
  | activateFails hstate hfault =>
    obtain ⟨old, hold, rfl⟩ := Option.map_eq_some_iff.1 hdriver
    exact (hc _ hold).of_base (IODriver.base_activate _)
  | deactivate hstate hfault =>
    obtain ⟨old, hold, rfl⟩ := Option.map_eq_some_iff.1 hdriver
    exact (hc _ hold).of_base (IODriver.base_deactivate _)
  | deactivateFails hstate hold =>
    rw [GpioController.driver_quiesce] at hdriver
    exact hc driver hdriver
  | cleanup hstate => cases hdriver
  | shutdown hstate => cases hdriver

/-- The transition does not tear down. -/
def Transition.keepsTable : Transition → Prop
  | .cleanup | .shutdown => False
  | _ => True

theorem Managed.Transits.watchers {py : Pydantic} {m m' : Managed} {t : Transition}
    {ret : TransitionCallbackReturn} (h : m.Transits py t m' ret) :
    (t.keepsTable ∧ m'.node.watchers = m.node.watchers) ∨
      (¬t.keepsTable ∧ m'.node.watchers = []) := by
  cases h with
  | configure hstate hdriver => exact .inl ⟨trivial, by simp⟩
  | configureFails hstate hdriver => exact .inl ⟨trivial, rfl⟩
  | activate hstate hdriver => exact .inl ⟨trivial, rfl⟩
  | activateFails hstate hfault => exact .inl ⟨trivial, rfl⟩
  | deactivate hstate hfault => exact .inl ⟨trivial, by simp⟩
  | deactivateFails hstate hdriver => exact .inl ⟨trivial, by simp⟩
  | cleanup hstate => exact .inr ⟨id, rfl⟩
  | shutdown hstate => exact .inr ⟨id, rfl⟩

/-- A change is reported under the name of its signal, and to no goal twice. -/
def Routing.Ok : Routing → Prop
  | idle => True
  | called ioName signal | stamped ioName signal _ => signal.ioName = ioName
  | enqueue _ entries => entries.Nodup

namespace Monitor

theorem change_cases {s s' : Monitor} {ioName : String} {value : Value}
    (hc : ∀ driver, s.node.driver = some driver → driver.Connected)
    (h : s.change ioName value = some s') :
    ∃ driver signal updated, s.node.driver = some driver ∧
      Dict.get driver.base.cache ioName = some signal ∧ updated.ioName = ioName ∧ updated.Typed ∧
      signal.Differs updated ∧
      (driver.update ioName value).base = driver.base.store ioName updated ∧
      s' = { s with
        node := { s.node with driver := some (driver.update ioName value) }
        routing := .called ioName updated } := by
  obtain ⟨driver, hdriver, h⟩ := Option.bind_eq_some_iff.1 h
  have hconnected := hc driver hdriver
  dsimp only at h
  rcases driver.update_cases hconnected.consistent.keyed ioName value with
    hsame | ⟨signal, updated, hget, hname, htyped, hdiff, hbase⟩
  · rw [hsame, List.drop_length] at h
    cases h
  · have hfired : (driver.base.store ioName updated).fired =
        driver.base.fired ++ [⟨ioName, updated, Dict.set driver.base.cache ioName updated⟩] := by
      simp [Driver.store, hconnected.callback]
    rw [hbase, hfired, List.drop_left] at h
    exact ⟨driver, signal, updated, hdriver, hget, hname, htyped, hdiff, hbase,
      (Option.some.inj h).symm⟩

/-! ### The invariant -/

/-- The goal is registered and has not left yet. -/
def Watches (s : Monitor) (ioName : String) (g : ℕ) : Prop :=
  ∃ goal, s.goals g = some goal ∧ goal.running ∧ goal.ioName = ioName

/-- The deliveries that the change callback still has to make. -/
def flight (s : Monitor) : List (ℕ × ChangeEvent) :=
  match s.routing with
  | .enqueue event entries => entries.map fun g => (g, event)
  | _ => []

def subscriber (s : Monitor) (g : ℕ) : Option (Subscriber String ChangeEvent) :=
  (s.goals g).bind fun goal => goal.subscriber (g ∈ s.node.watchersOf goal.ioName)

def fanout (s : Monitor) : Fanout ℕ String ChangeEvent where
  sub := s.subscriber
  log := s.routed
  flight := s.flight

/-- The watcher table holds goals that are registered. -/
structure Table (s : Monitor) : Prop where
  mem : ∀ ioName g, g ∈ s.node.watchersOf ioName → s.Watches ioName g
  nonempty : ∀ ioName, Dict.get s.node.watchers ioName ≠ some ∅

structure Inv (s : Monitor) : Prop where
  fanout : s.fanout.Inv
  table : s.Table
  books : ∀ g goal, s.goals g = some goal → goal.Books
  registration : ∀ g goal, s.goals g = some goal → goal.Registration
  routed : ∀ p ∈ s.routed, p.2.signal.ioName = p.1
  routing : s.routing.Ok
  connected : ∀ driver, s.node.driver = some driver → driver.Connected

/-- Every goal that is registered is in the watcher table. -/
def Watching (s : Monitor) : Prop :=
  ∀ g goal, s.goals g = some goal → goal.running → g ∈ s.node.watchersOf goal.ioName

variable {py : Pydantic} {s s' : Monitor} {g : ℕ} {goal goal' : MonitorGoal}

/-- One goal is replaced, and the others stay in the watcher table. -/
theorem fanout_replace {n : GpioController}
    (hn : ∀ i, i ≠ g → ∀ name, i ∈ n.watchersOf name ↔ i ∈ s.node.watchersOf name)
    (goal : MonitorGoal) : ({ s with node := n }.setGoal g goal).fanout =
      { s.fanout with
        sub := Function.update s.subscriber g (goal.subscriber (g ∈ n.watchersOf goal.ioName)) } := by
  have hsub : ({ s with node := n }.setGoal g goal).subscriber =
      Function.update s.subscriber g (goal.subscriber (g ∈ n.watchersOf goal.ioName)) := by
    funext i
    unfold subscriber setGoal
    dsimp only
    by_cases hi : i = g
    · subst hi
      rw [Function.update_self, Function.update_self, Option.bind_some]
    · rw [Function.update_of_ne hi, Function.update_of_ne hi]
      simp only [hn i hi]
  unfold fanout
  rw [hsub]
  rfl

theorem fanout_setGoal (s : Monitor) (g : ℕ) (goal : MonitorGoal) : (s.setGoal g goal).fanout =
    { s.fanout with
      sub := Function.update s.subscriber g
        (goal.subscriber (g ∈ s.node.watchersOf goal.ioName)) } :=
  fanout_replace (n := s.node) (fun _ _ _ => Iff.rfl) goal

theorem watches_setGoal {ioName : String} {i : ℕ} : (s.setGoal g goal).Watches ioName i ↔
    if i = g then goal.running ∧ goal.ioName = ioName else s.Watches ioName i := by
  unfold Watches setGoal
  by_cases hi : i = g
  · subst hi
    rw [if_pos rfl]
    dsimp only
    rw [Function.update_self]
    constructor
    · rintro ⟨goal', hgoal, hw⟩
      rw [Option.some.inj hgoal]
      exact hw
    · exact fun hw => ⟨goal, rfl, hw⟩
  · rw [if_neg hi]
    dsimp only
    rw [Function.update_of_ne hi]

theorem forall_setGoal {P : MonitorGoal → Prop} (h : ∀ i goal, s.goals i = some goal → P goal)
    (hgoal : P goal) : ∀ i goal', (s.setGoal g goal).goals i = some goal' → P goal' := by
  intro i goal' hi
  rcases Fanout.update_some hi with ⟨-, rfl⟩ | ⟨-, hi⟩
  · exact hgoal
  · exact h i goal' hi

/-- A goal keeps its registration. -/
theorem Table.setGoal (h : s.Table) (hg : s.goals g = some goal)
    (hrequest : goal'.request = goal.request) (hrunning : goal'.running = goal.running) :
    (s.setGoal g goal').Table := by
  refine ⟨fun ioName i hi => ?_, h.nonempty⟩
  have hw := h.mem ioName i hi
  rw [watches_setGoal]
  split
  · next hig =>
    subst hig
    obtain ⟨goal'', hg', hw⟩ := hw
    rw [hg] at hg'
    rw [hrunning, MonitorGoal.ioName, hrequest, Option.some.inj hg']
    exact hw
  · exact hw

theorem subscriber_eq (hg : s.goals g = some goal) :
    s.subscriber g = goal.subscriber (g ∈ s.node.watchersOf goal.ioName) := by
  rw [subscriber, hg, Option.bind_some]

namespace Inv

theorem initial : Inv {} := by
  refine ⟨⟨?_, ?_, ?_, ?_⟩, ⟨fun ioName g hg => ?_, ?_⟩, ?_, ?_, ?_, ?_, ?_⟩
  · intro g b hb
    cases hb
  · intro g b hb
    cases hb
  · intro g b hb
    cases hb
  · intro p hp
    cases hp
  · cases hg
  · intro ioName h
    cases h
  · intro g goal hgoal
    cases hgoal
  · intro g goal hgoal
    cases hgoal
  · intro p hp
    cases hp
  · exact trivial
  · intro driver hdriver
    cases hdriver

theorem accept (h : s.Inv) (hg : s.goals g = none) (request : MonitorIO.Goal) :
    (s.setGoal g { request }).Inv := by
  have hsub : s.subscriber g = none := by rw [subscriber, hg, Option.bind_none]
  refine ⟨?_, ⟨fun ioName i hi => ?_, h.table.nonempty⟩, forall_setGoal h.books (.of_request request),
    forall_setGoal h.registration ⟨?_, fun _ => rfl, fun _ => rfl⟩, h.routed, h.routing,
    h.connected⟩
  · -- a goal that is not registered is no subscriber
    rw [fanout_setGoal]
    change Fanout.Inv { s.fanout with sub := Function.update s.subscriber g none }
    rw [← hsub, Function.update_eq_self]
    exact h.fanout
  · have hw := h.table.mem ioName i hi
    rw [watches_setGoal, if_neg]
    · exact hw
    · rintro rfl
      obtain ⟨goal, hgoal, -⟩ := hw
      rw [hg] at hgoal
      cases hgoal
  · intro hw
    cases hw

/-- A goal that keeps what it has got and will get may leave the table, but not enter it. -/
theorem fanout_keep (h : s.Inv) (hg : s.goals g = some goal) (hname : goal'.ioName = goal.ioName)
    (hsince : goal'.since = goal.since)
    (hstream : goal'.sent ++ goal'.taken.toList ++ goal'.pending =
      goal.sent ++ goal.taken.toList ++ goal.pending) {live : Bool}
    (hlive : live = true → g ∈ s.node.watchersOf goal.ioName) :
    Fanout.Inv { s.fanout with sub := Function.update s.subscriber g (goal'.subscriber live) } := by
  have hsub := subscriber_eq hg
  unfold MonitorGoal.subscriber at hsub ⊢
  rw [hsince, hname]
  cases hs : goal.since with
  | none =>
    rw [hs] at hsub
    rw [Option.map_none] at hsub ⊢
    rw [← hsub, Function.update_eq_self]
    exact h.fanout
  | some since =>
    rw [hs, Option.map_some] at hsub
    exact h.fanout.modify hsub rfl rfl hstream fun hl => decide_eq_true (hlive hl)

theorem moved (h : s.Inv) (hg : s.goals g = some goal) {l : GoalStep}
    (hm : goal.Moved s.node s.made.length l goal') : (s.setGoal g goal').Inv := by
  have hbooks := h.books g goal hg
  obtain ⟨hrequest, hsince, hstream⟩ := hm.frame hbooks
  refine ⟨?_, h.table.setGoal hg hrequest hm.running, forall_setGoal h.books (hbooks.moved hm),
    forall_setGoal h.registration ((h.registration g goal hg).moved hbooks hm), h.routed, h.routing,
    h.connected⟩
  · have hname : goal'.ioName = goal.ioName := by rw [MonitorGoal.ioName, hrequest, MonitorGoal.ioName]
    rw [fanout_setGoal, hname]
    exact h.fanout_keep hg hname hsince hstream of_decide_eq_true

theorem register (h : s.Inv) (hg : s.goals g = some goal) (hpc : goal.pc = .lookedUp) :
    (s.register g goal).Inv := by
  have hbooks := h.books g goal hg
  have hreg := h.registration g goal hg
  have hnone := hreg.fresh (.inr hpc)
  have hsub : s.subscriber g = none := by
    rw [subscriber_eq hg, MonitorGoal.subscriber, hnone]
    rfl
  have hmem : g ∈ (s.node.registerWatcher goal.ioName g).watchersOf goal.ioName :=
    GpioController.mem_registerWatcher.2 (.inl ⟨rfl, rfl⟩)
  refine ⟨?_, ⟨fun ioName i hi => ?_, GpioController.registerWatcher_nonempty h.table.nonempty⟩,
    forall_setGoal h.books (hbooks.register hpc _),
    forall_setGoal h.registration ⟨fun _ => rfl, ?_, fun h => nomatch h⟩, h.routed, h.routing,
    h.connected⟩
  · rw [Monitor.register, fanout_replace fun i hi name => ?_]
    · have hfanout := h.fanout.register hsub goal.ioName
      obtain ⟨hgot, hpending⟩ := List.append_eq_nil_iff.1 (hreg.unregistered hnone)
      change Fanout.Inv { s.fanout with sub := Function.update s.subscriber g (some
        ⟨goal.ioName, s.routed.length, goal.sent ++ goal.taken.toList, goal.pending,
          decide (g ∈ (s.node.registerWatcher goal.ioName g).watchersOf goal.ioName)⟩) }
      rw [hgot, hpending, decide_eq_true hmem]
      exact hfanout
    · rw [GpioController.mem_registerWatcher]
      exact ⟨fun h => h.resolve_left fun h => hi h.1, .inr⟩
  · rw [Monitor.register, watches_setGoal]
    rcases GpioController.mem_registerWatcher.1 hi with ⟨rfl, rfl⟩ | hi
    · rw [if_pos rfl]
      exact ⟨goal.running_register _, rfl⟩
    · have hw := h.table.mem ioName i hi
      split
      · next hig =>
        subst hig
        obtain ⟨goal', hgoal', -, hname⟩ := hw
        rw [hg] at hgoal'
        rw [← Option.some.inj hgoal'] at hname
        exact ⟨goal.running_register _, hname⟩
      · exact hw
  · intro hpc'
    unfold MonitorGoal.register at hpc'
    dsimp only at hpc'
    split at hpc' <;> rcases hpc' with hpc' | hpc' <;> cases hpc'

theorem unregister (h : s.Inv) (hg : s.goals g = some goal) {result : Option MonitorIO.Result}
    (hpc : goal.pc = .leave result) : (s.unregister g goal result).Inv := by
  have hbooks := h.books g goal hg
  have hmem : g ∉ (s.node.unregisterWatcher goal.ioName g).watchersOf goal.ioName :=
    fun hw => (GpioController.mem_unregisterWatcher.1 hw).2 ⟨rfl, rfl⟩
  refine ⟨?_, ⟨fun ioName i hi => ?_, GpioController.unregisterWatcher_nonempty h.table.nonempty⟩,
    forall_setGoal h.books (hbooks.unregister hpc _), forall_setGoal h.registration ⟨?_, ?_, ?_⟩,
    h.routed, h.routing, fun driver hdriver => h.connected driver ?_⟩
  · rw [Monitor.unregister, fanout_replace fun i hi name => ?_]
    · refine h.fanout_keep hg rfl rfl rfl fun hw => ?_
      exact absurd (of_decide_eq_true hw) hmem
    · rw [GpioController.mem_unregisterWatcher]
      exact ⟨And.left, fun hw => ⟨hw, fun hw' => hi hw'.1⟩⟩
  · obtain ⟨hi, hne⟩ := GpioController.mem_unregisterWatcher.1 hi
    have hw := h.table.mem ioName i hi
    rw [Monitor.unregister, watches_setGoal, if_neg]
    · exact hw
    · rintro rfl
      obtain ⟨goal', hgoal', -, hname⟩ := hw
      rw [hg] at hgoal'
      rw [← Option.some.inj hgoal'] at hname
      exact hne ⟨rfl, hname.symm⟩
  · intro hw
    cases hw
  · rintro (hpc' | hpc') <;> cases hpc'
  · exact (h.registration g goal hg).unregistered
  · exact (GpioController.driver_unregisterWatcher _ _ _).symm.trans hdriver

theorem change (h : s.Inv) {ioName : String} {value : Value} (hr : s.routing = .idle)
    (hs : s.change ioName value = some s') : s'.Inv := by
  obtain ⟨driver, signal, updated, hdriver, hget, hname, htyped, -, hbase, rfl⟩ :=
    change_cases h.connected hs
  refine ⟨?_, ⟨h.table.mem, h.table.nonempty⟩, h.books, h.registration, h.routed, hname, ?_⟩
  · have hflight : s.flight = [] := by rw [flight, hr]
    have hfanout := h.fanout
    unfold Monitor.fanout at hfanout ⊢
    rw [hflight] at hfanout
    exact hfanout
  · intro driver' hdriver'
    rw [← Option.some.inj hdriver']
    exact (h.connected driver hdriver).store hget hname htyped hbase

theorem stamp (h : s.Inv) {ioName : String} {signal : Signal} (hr : s.routing = .called ioName signal)
    (time : Time) : Inv { s with routing := .stamped ioName signal time } := by
  have hok := h.routing
  rw [hr] at hok
  refine ⟨?_, ⟨h.table.mem, h.table.nonempty⟩, h.books, h.registration, h.routed, hok, h.connected⟩
  have hflight : s.flight = [] := by rw [flight, hr]
  have hfanout := h.fanout
  unfold Monitor.fanout at hfanout ⊢
  rw [hflight] at hfanout
  exact hfanout

theorem copyWatchers (h : s.Inv) {ioName : String} {signal : Signal} {stamp : Time}
    {entries : List ℕ} (hr : s.routing = .stamped ioName signal stamp) (hnodup : entries.Nodup)
    (hset : entries.toFinset = s.node.watchersOf ioName) :
    Inv { s with
      routing := .enqueue ⟨signal, stamp, s.routed.length⟩ entries
      routed := s.routed ++ [(ioName, ⟨signal, stamp, s.routed.length⟩)] } := by
  refine ⟨?_, ⟨h.table.mem, h.table.nonempty⟩, h.books, h.registration, ?_, hnodup, h.connected⟩
  · have hflight : s.fanout.flight = [] := by
      change s.flight = []
      rw [flight, hr]
    refine h.fanout.send hflight hnodup (fun g => ?_) ⟨signal, stamp, s.routed.length⟩
    -- the copied entries are the live subscribers
    rw [← List.mem_toFinset, hset]
    constructor
    · intro hmem
      obtain ⟨goal, hg, hw, hname⟩ := h.table.mem ioName g hmem
      obtain ⟨since, hsince⟩ := Option.isSome_iff_exists.1 ((h.registration g goal hg).since hw)
      rw [← hname] at hmem
      have hsub := subscriber_eq hg
      rw [MonitorGoal.subscriber, hsince, Option.map_some] at hsub
      exact ⟨_, hsub, decide_eq_true hmem, hname⟩
    · rintro ⟨b, hb, hlive, htopic⟩
      obtain ⟨goal, -, hsub⟩ := Option.bind_eq_some_iff.1 hb
      obtain ⟨since, -, rfl⟩ := Option.map_eq_some_iff.1 hsub
      have hname : goal.ioName = ioName := htopic
      rw [← hname]
      exact of_decide_eq_true hlive
  · intro p hp
    rcases List.mem_append.1 hp with hp | hp
    · exact h.routed p hp
    · have hok := h.routing
      rw [hr] at hok
      rw [List.mem_singleton.1 hp]
      exact hok

theorem put (h : s.Inv) {event : ChangeEvent} {entries : List ℕ}
    (hr : s.routing = .enqueue event (g :: entries)) (hg : s.goals g = some goal) :
    Inv ({ s with routing := .enqueue event entries }.setGoal g
      { goal with pending := goal.pending ++ [event] }) := by
  have hbooks := h.books g goal hg
  have hreg := h.registration g goal hg
  have hflight : s.fanout.flight = (g, event) :: entries.map fun g => (g, event) := by
    change s.flight = _
    rw [flight, hr]
    rfl
  -- what is on the way goes to a registered goal
  obtain ⟨b, hb, -⟩ := h.fanout.flight (g, event) (by rw [hflight]; exact List.mem_cons_self)
  obtain ⟨since, hsince, rfl⟩ := Option.map_eq_some_iff.1 ((subscriber_eq hg).symm.trans hb)
  refine ⟨?_, Table.setGoal (s := { s with routing := .enqueue event entries })
      ⟨h.table.mem, h.table.nonempty⟩ hg rfl rfl,
    forall_setGoal h.books ⟨hbooks.published, hbooks.changeCount, hbooks.initial, hbooks.result,
      hbooks.early, hbooks.emits, hbooks.untaken⟩,
    forall_setGoal h.registration ⟨hreg.since, hreg.fresh, ?_⟩, h.routed, ?_, h.connected⟩
  · rw [fanout_setGoal]
    unfold MonitorGoal.subscriber
    rw [hsince]
    exact h.fanout.put hflight hb
  · intro hnone
    rw [hsince] at hnone
    cases hnone
  · have hok := h.routing
    rw [hr] at hok
    exact (List.nodup_cons.1 hok).2

theorem done (h : s.Inv) {event : ChangeEvent} (hr : s.routing = .enqueue event []) :
    Inv { s with routing := .idle } := by
  refine ⟨?_, ⟨h.table.mem, h.table.nonempty⟩, h.books, h.registration, h.routed, trivial,
    h.connected⟩
  have hflight : s.flight = [] := by
    rw [flight, hr]
    rfl
  have hfanout := h.fanout
  unfold Monitor.fanout at hfanout ⊢
  rw [hflight] at hfanout
  exact hfanout

/-- A transition that keeps the watcher table. -/
theorem transition_keeps (h : s.Inv) {m : Managed} (hwatchers : m.node.watchers = s.node.watchers)
    (hconnected : ∀ driver, m.node.driver = some driver → driver.Connected) :
    Inv { s with toManaged := m } := by
  have hof : m.node.watchersOf = s.node.watchersOf := by
    unfold GpioController.watchersOf
    rw [hwatchers]
  refine ⟨?_, ⟨?_, ?_⟩, h.books, h.registration, h.routed, h.routing, hconnected⟩
  · have hfanout := h.fanout
    unfold Monitor.fanout subscriber at hfanout ⊢
    rw [hof]
    exact hfanout
  · dsimp only
    rw [hof]
    exact h.table.mem
  · rw [hwatchers]
    exact h.table.nonempty

/-- A transition that empties the watcher table. -/
theorem transition_tearsDown (h : s.Inv) {m : Managed} (hwatchers : m.node.watchers = [])
    (hconnected : ∀ driver, m.node.driver = some driver → driver.Connected) :
    Inv { s with toManaged := m } := by
  have hof : ∀ ioName, m.node.watchersOf ioName = ∅ := by
    intro ioName
    rw [GpioController.watchersOf, hwatchers]
    rfl
  refine ⟨?_, ⟨fun ioName g hg => ?_, fun ioName => ?_⟩, h.books, h.registration, h.routed, h.routing,
    hconnected⟩
  · have hsub : subscriber { s with toManaged := m } =
        fun g => (s.subscriber g).map fun b => { b with live := false } := by
      funext g
      unfold subscriber
      dsimp only
      cases s.goals g with
      | none => rfl
      | some goal =>
        rw [Option.bind_some, Option.bind_some]
        simp only [hof]
        unfold MonitorGoal.subscriber
        rw [Option.map_map]
        rfl
    unfold Monitor.fanout
    rw [hsub]
    exact h.fanout.leave
  · dsimp only at hg
    rw [hof] at hg
    cases hg
  · rw [hwatchers]
    intro hempty
    cases hempty

theorem transition (h : s.Inv) {t : Transition} {m : Managed} {ret : TransitionCallbackReturn}
    (hm : s.Transits py t m ret) : Inv { s with toManaged := m } := by
  have hconnected := hm.connected h.connected
  rcases hm.watchers with ⟨-, hwatchers⟩ | ⟨-, hwatchers⟩
  · exact h.transition_keeps hwatchers hconnected
  · exact h.transition_tearsDown hwatchers hconnected

theorem step (h : s.Inv) {l : Label} (hs : Monitor.step py s l = some s') : s'.Inv := by
  cases step_cases hs with
  | transition hm => exact h.transition (Managed.transition_cases hm)
  | accept hg hok => exact h.accept hg _
  | register hg hpc => exact h.register hg hpc
  | unregister hg hpc => exact h.unregister hg hpc
  | goal hg hm => exact h.moved hg hm
  | change hr hc => exact h.change hr hc
  | stamp time hr => exact h.stamp hr time
  | copyWatchers hr hnodup hset => exact h.copyWatchers hr hnodup hset
  | put hr hg => exact h.put hr hg
  | done hr => exact h.done hr

theorem of_runs {C : Monitor → Label → Prop} (h : Lts.Runs (Monitor.step py) C {} s) : s.Inv :=
  h.invariant .initial fun hi _ hs => hi.step hs

end Inv

/-! ### Without a cleanup -/

/-- Neither a cleanup nor a shutdown, which empty the watcher table. -/
def KeepsTable (_ : Monitor) : Label → Prop
  | .transition t => t.keepsTable
  | _ => True

instance (s : Monitor) (l : Label) : Decidable (KeepsTable s l) :=
  match l with
  | .transition .cleanup | .transition .shutdown => isFalse id
  | .transition (.configure _) | .transition (.activate _) | .transition (.deactivate _)
  | .accept _ _ | .register _ | .unregister _ | .goal _ _ | .change _ _ | .stamp _
  | .copyWatchers _ | .put => isTrue trivial

namespace Watching

/-- A goal is replaced by one that watches no other signal and is registered no longer. -/
theorem setGoal (h : s.Watching) (hg : s.goals g = some goal) (hrequest : goal'.request = goal.request)
    (hrunning : goal'.running → goal.running) : (s.setGoal g goal').Watching := by
  intro i c hc hrun
  rcases Fanout.update_some hc with ⟨rfl, rfl⟩ | ⟨-, hc⟩
  · rw [MonitorGoal.ioName, hrequest]
    exact h i goal hg (hrunning hrun)
  · exact h i c hc hrun

theorem step (h : s.Watching) (hinv : s.Inv) {l : Label} (hl : KeepsTable s l)
    (hs : Monitor.step py s l = some s') : s'.Watching := by
  cases step_cases hs with
  | transition hm =>
    intro g goal hg hrun
    have hmem := h g goal hg hrun
    rcases (Managed.transition_cases hm).watchers with ⟨-, hwatchers⟩ | ⟨ht, -⟩
    · unfold GpioController.watchersOf at hmem ⊢
      rw [hwatchers]
      exact hmem
    · exact absurd hl ht
  | accept hg hok =>
    intro i c hc hrun
    rcases Fanout.update_some hc with ⟨-, rfl⟩ | ⟨-, hc⟩
    · cases hrun
    · exact h i c hc hrun
  | @register g goal hg hpc =>
    intro i c hc hrun
    refine GpioController.mem_registerWatcher.2 ?_
    rcases Fanout.update_some hc with ⟨rfl, rfl⟩ | ⟨-, hc⟩
    · exact .inl ⟨rfl, rfl⟩
    · exact .inr (h i c hc hrun)
  | unregister hg hpc =>
    intro i c hc hrun
    rcases Fanout.update_some hc with ⟨-, rfl⟩ | ⟨hi, hc⟩
    · cases hrun
    · exact GpioController.mem_unregisterWatcher.2 ⟨h i c hc hrun, fun hw => hi hw.1⟩
  | goal hg hm =>
    obtain ⟨hrequest, -⟩ := hm.frame (hinv.books _ _ hg)
    exact h.setGoal hg hrequest fun hrun => hm.running ▸ hrun
  | change hr hc =>
    obtain ⟨driver, signal, updated, -, -, -, -, -, -, rfl⟩ := change_cases hinv.connected hc
    exact h
  | stamp time hr => exact h
  | copyWatchers hr hnodup hset => exact h
  | put hr hg => exact h.setGoal hg rfl id
  | done hr => exact h

theorem of_runs (h : Lts.Runs (Monitor.step py) KeepsTable {} s) : s.Watching := by
  have h0 : Watching {} := by
    intro g goal hg
    cases hg
  have hboth := h.invariant (I := fun s => s.Inv ∧ s.Watching) ⟨.initial, h0⟩
    fun hi hl hs => ⟨hi.1.step hs, hi.2.step hi.1 hl hs⟩
  exact hboth.2

end Watching

/-- The changes of the signal of the goal that read the watcher table after it registered. -/
def changes (s : Monitor) (goal : MonitorGoal) : List ChangeEvent :=
  Fanout.messages s.routed goal.ioName (goal.since.getD 0)

/-- The change that is being routed to the goal. -/
def onTheWay (s : Monitor) (g : ℕ) : Option ChangeEvent :=
  match s.routing with
  | .enqueue event entries => if g ∈ entries then some event else none
  | _ => none

theorem Inv.inFlight_eq (h : s.Inv) (g : ℕ) : s.fanout.inFlight g = (s.onTheWay g).toList := by
  have hok := h.routing
  unfold Fanout.inFlight Monitor.fanout Monitor.flight onTheWay
  cases hr : s.routing with
  | enqueue event entries =>
    rw [hr] at hok
    refine (Fanout.inFlight_entries hok g event).trans ?_
    dsimp only
    split <;> rfl
  | _ => rfl

/-- What a goal has got, what is in its queue and what is on the way to it. -/
def stream (s : Monitor) (g : ℕ) (goal : MonitorGoal) : List ChangeEvent :=
  goal.sent ++ goal.taken.toList ++ goal.pending ++ (s.onTheWay g).toList

namespace Inv

variable {since : ℕ}

theorem stream_prefix (h : s.Inv) (hg : s.goals g = some goal) (hsince : goal.since = some since) :
    s.stream g goal <+: Fanout.messages s.routed goal.ioName since := by
  have hsub := subscriber_eq hg
  rw [MonitorGoal.subscriber, hsince, Option.map_some] at hsub
  have hsound := h.fanout.sound g _ hsub
  rw [h.inFlight_eq] at hsound
  exact hsound

/-- A goal in the watcher table misses nothing. -/
theorem stream_eq (h : s.Inv) (hg : s.goals g = some goal) (hsince : goal.since = some since)
    (hmem : g ∈ s.node.watchersOf goal.ioName) :
    s.stream g goal = Fanout.messages s.routed goal.ioName since := by
  have hsub := subscriber_eq hg
  rw [MonitorGoal.subscriber, hsince, Option.map_some] at hsub
  have hstream := h.fanout.stream g _ hsub (decide_eq_true hmem)
  rw [h.inFlight_eq] at hstream
  exact hstream

end Inv

/-- The feedback is about the change: the flag is that of the goal, the stamp that of the change, and
the populated one of the two messages has the name, the direction and the new state of the signal. -/
structure Reports (isDigital : Bool) (event : ChangeEvent) (feedback : MonitorIO.Feedback) : Prop where
  flag : feedback.isDigital = isDigital
  stamp : feedback.stamp = event.stamp
  digital : event.signal.type = .digital → feedback.io = .inl {
    ioName := event.signal.ioName
    direction := event.signal.direction
    state := event.signal.state.toBool }
  analog : ∀ domain, event.signal.type = .analog domain → feedback.io = .inr {
    ioName := event.signal.ioName
    direction := event.signal.direction
    state := event.signal.state.toFloat
    domain }

theorem reports_feedback (goal : MonitorGoal) (event : ChangeEvent) :
    Reports goal.isDigital event (goal.feedback event) := by
  refine ⟨rfl, rfl, fun htype => ?_, fun domain htype => ?_⟩
  · rw [MonitorGoal.feedback, makeMonitorFeedback, Signal.toMsg, htype]
  · rw [MonitorGoal.feedback, makeMonitorFeedback, Signal.toMsg, htype]

theorem reports_map (goal : MonitorGoal) (events : List ChangeEvent) :
    List.Forall₂ (Reports goal.isDigital) events (events.map goal.feedback) := by
  rw [List.forall₂_map_right_iff, List.forall₂_same]
  exact fun event _ => reports_feedback goal event

/-- `monitor_io` loses, duplicates and reorders nothing. -/
theorem monitor_accounts {s : Monitor} (h : Lts.Runs (step py) KeepsTable {} s) :
    (∀ g goal, s.goals g = some goal → goal.running →
      (∃ changes, goal.published = goal.initial ++ changes ∧
        List.Forall₂ (Reports goal.isDigital) goal.sent changes) ∧
      goal.initial.length ≤ (if goal.request.emitInitial then 1 else 0) ∧
      goal.sent ++ goal.taken.toList ++ goal.pending ++ (s.onTheWay g).toList = s.changes goal) ∧
    (∀ g goal, s.goals g = some goal →
      (∀ event ∈ goal.sent ++ goal.taken.toList ++ goal.pending,
        event.signal.ioName = goal.ioName) ∧
      goal.changeCount = goal.published.length ∧
      ∀ result, goal.pc.result = some result → result.changeCount = goal.published.length) ∧
    (∀ ioName g, g ∈ s.node.watchersOf ioName ↔
      ∃ goal, s.goals g = some goal ∧ goal.running ∧ goal.ioName = ioName) ∧
    ∀ ioName, Dict.get s.node.watchers ioName ≠ some ∅ := by
  have hinv := Inv.of_runs h
  have hwatching := Watching.of_runs h
  refine ⟨fun g goal hg hrun => ?_, fun g goal hg => ⟨?_, ?_, ?_⟩,
    fun ioName g => ⟨hinv.table.mem ioName g, ?_⟩, hinv.table.nonempty⟩
  · have hbooks := hinv.books g goal hg
    refine ⟨⟨_, hbooks.published, reports_map goal goal.sent⟩, hbooks.initial, ?_⟩
    obtain ⟨since, hsince⟩ :=
      Option.isSome_iff_exists.1 ((hinv.registration g goal hg).since hrun)
    rw [changes, hsince]
    exact hinv.stream_eq hg hsince (hwatching g goal hg hrun)
  · intro event hevent
    cases hsince : goal.since with
    | none =>
      -- without a registration nothing is put into the queue
      exact absurd hevent ((hinv.registration g goal hg).unregistered hsince ▸ List.not_mem_nil)
    | some since =>
      have hstream := (hinv.stream_prefix hg hsince).subset (List.mem_append_left _ hevent)
      exact hinv.routed _ (List.mem_of_mem_drop (Fanout.mem_messages hstream))
  · exact (hinv.books g goal hg).changeCount
  · exact (hinv.books g goal hg).result
  · rintro ⟨goal, hg, hrun, rfl⟩
    exact hwatching g goal hg hrun

/-- The node is simulated and active. -/
def goActive : List Label :=
  [.transition (.configure ⟨some sampleConfig, true, 0, false⟩), .transition (.activate false)]

/-- A goal is accepted and registers. -/
def startGoal (g : ℕ) (request : MonitorIO.Goal) : List Label :=
  [.accept g request, .goal g .lookup, .register g]

/-- Two goals watch one signal. It changes twice, and the second change has reached the first goal
only. -/
def twoGoals : List Label :=
  goActive ++ startGoal 0 ⟨"part_present", true⟩ ++ startGoal 1 ⟨"part_present", false⟩ ++
    [.goal 0 (.readInitial none), .goal 0 (.publishInitial 1 none),
      .change "part_present" (.bool true), .stamp 2, .copyWatchers [1, 0], .put, .put, .put,
      .goal 0 .checkActive, .goal 0 .checkCancel, .goal 0 .get, .goal 0 (.publish none),
      .change "part_present" (.bool false), .stamp 3, .copyWatchers [0, 1], .put]

theorem monitor_accounts_twoGoals : ∃ (s : Monitor) (goal : MonitorGoal),
    s.goals 1 = some goal ∧ goal.running ∧
    goal.sent ++ goal.taken.toList ++ goal.pending ++ (s.onTheWay 1).toList = s.changes goal ∧
    (s.onTheWay 1).isSome ∧ (s.changes goal).length = 2 := by
  have h : Lts.Runs (step .strict) KeepsTable {} _ := .of_exec twoGoals rfl
  obtain ⟨hstream, -⟩ := monitor_accounts h
  obtain ⟨-, -, hstream⟩ := hstream 1 _ rfl rfl
  exact ⟨_, _, rfl, rfl, hstream, rfl, rfl⟩

end Monitor

end IoControllers
