import MovementController.Io.MockBehavior
import MovementController.Io.WindDown

/-!
# The fields of `GpioController` follow its lifecycle

Runs of the managed node: its transitions, with the requests of `set_mock_behavior`, the timers that
fire and the changes of the driver's cache in between.
-/

namespace IoControllers

/-! ### The signal index -/

namespace Driver

/-- The signal index is made of the names, types and directions, so a new state does not change it. -/
theorem signalIndex_snapshot (d : Driver) : d.snapshot.signalIndex =
    Dict.ofList
      (((Dict.values d.cache).map fun s => (s.ioName, s.toMeta)).filter (·.2.1) ++
        ((Dict.values d.cache).map fun s => (s.ioName, s.toMeta)).filter (!·.2.1)) := by
  rw [List.filter_map, List.filter_map, ← List.map_append]
  unfold IOStatesSnapshot.signalIndex snapshot
  congr 3
  refine List.filter_congr fun s _ => ?_
  exact decide_not

theorem signalIndex_store {d : Driver} {ioName : String} {signal : Signal}
    (hget : Dict.get d.cache ioName = some signal) (value : Value) :
    (d.store ioName { signal with state := value }).snapshot.signalIndex =
      d.snapshot.signalIndex := by
  rw [signalIndex_snapshot, signalIndex_snapshot]
  have hvalues : (Dict.values (d.store ioName { signal with state := value }).cache).map
      (fun s => (s.ioName, s.toMeta)) = (Dict.values d.cache).map fun s => (s.ioName, s.toMeta) :=
    Dict.map_values_set hget rfl
  rw [hvalues]

end Driver

theorem MockIODriver.signalIndex_apply {d : MockIODriver} {signal : Signal}
    (hget : Dict.get d.cache signal.ioName = some signal) (value : Value) :
    (d.apply signal value).snapshot.signalIndex = d.snapshot.signalIndex := by
  unfold apply
  split
  · rfl
  · exact Driver.signalIndex_store hget value

theorem URIODriver.signalIndex_updateCache (d : URIODriver) (ioName : String) (value : Value) :
    (d.updateCache ioName value).snapshot.signalIndex = d.snapshot.signalIndex := by
  unfold updateCache
  split
  · rfl
  · next hget =>
    split
    · rfl
    · exact Driver.signalIndex_store hget value

theorem IODriver.signalIndex_update {driver : IODriver} (hk : driver.base.Keyed) (ioName : String)
    (value : Value) :
    (driver.update ioName value).snapshot.signalIndex = driver.snapshot.signalIndex := by
  unfold update
  cases hget : Dict.get driver.base.cache ioName with
  | none => rfl
  | some signal =>
    have hname : signal.ioName = ioName := hk ioName signal hget
    cases driver with
    | mock d => exact MockIODriver.signalIndex_apply (by rw [hname]; exact hget) _
    | ur d => exact d.signalIndex_updateCache ioName _

theorem IODriver.Connected.update {driver : IODriver} (h : driver.Connected) (ioName : String)
    (value : Value) : (driver.update ioName value).Connected := by
  rcases IODriver.update_cases h.consistent.keyed ioName value with
    hbase | ⟨signal, updated, hget, hname, htyped, -, hbase⟩
  · exact h.of_base hbase
  · exact h.store hget hname htyped hbase

/-! ### The entities of the node -/

namespace GpioController

def handle (n : GpioController) : EntityKind → Option ℕ
  | .ioStatePub => n.ioStatePub
  | .setIoSrv => n.setIoSrv
  | .setMockBehaviorSrv => n.setMockBehaviorSrv
  | .monitorActionServer => n.monitorActionServer
  | .publishTimer => n.publishTimer

/-- What exists is what the fields hold. -/
abbrev Owns (n : GpioController) : Prop := n.entities.Owned n.handle

variable {n : GpioController}

theorem owns_setUp (h : n.Owns) (hnone : ∀ kind, n.handle kind = none)
    (config : IOControllerConfigDTO) (rate : ℚ) (driver : IODriver) :
    (n.setUp config rate driver).Owns := by
  have hpub := Entities.Owned.create h (hnone .ioStatePub)
  have hsrv : ((n.entities.create .ioStatePub).create .setIoSrv).Owned _ :=
    hpub.create (hnone .setIoSrv)
  cases hsimulated : n.simulated with
  | false =>
    have hentities : (n.setUp config rate driver).entities =
        ((n.entities.create .ioStatePub).create .setIoSrv).create .monitorActionServer := by
      simp [setUp, hsimulated]
    have hserver : (((n.entities.create .ioStatePub).create .setIoSrv).create
        .monitorActionServer).Owned _ := hsrv.create (hnone .monitorActionServer)
    unfold Owns
    rw [hentities]
    refine hserver.congr fun kind => ?_
    cases kind <;> simp [handle, setUp, hsimulated, Entities.create]
  | true =>
    have hentities : (n.setUp config rate driver).entities =
        (((n.entities.create .ioStatePub).create .setIoSrv).create .setMockBehaviorSrv).create
          .monitorActionServer := by
      simp [setUp, hsimulated]
    have hmock : (((n.entities.create .ioStatePub).create .setIoSrv).create
        .setMockBehaviorSrv).Owned _ := hsrv.create (hnone .setMockBehaviorSrv)
    have hserver : ((((n.entities.create .ioStatePub).create .setIoSrv).create
        .setMockBehaviorSrv).create .monitorActionServer).Owned _ :=
      hmock.create (hnone .monitorActionServer)
    unfold Owns
    rw [hentities]
    refine hserver.congr fun kind => ?_
    cases kind <;> simp [handle, setUp, hsimulated, Entities.create]

theorem setUp_frame (n : GpioController) (config : IOControllerConfigDTO) (rate : ℚ)
    (driver : IODriver) : (n.setUp config rate driver).publishTimer = n.publishTimer ∧
      (n.setUp config rate driver).signalIndex = driver.snapshot.signalIndex ∧
      (n.setUp config rate driver).mockTimers = n.mockTimers ∧
      (n.setUp config rate driver).armed = n.armed := by
  rw [setUp]
  dsimp only
  split <;> exact ⟨rfl, rfl, rfl, rfl⟩

theorem quiesce_frame (n : GpioController) :
    n.quiesce.publishTimer = none ∧ n.quiesce.signalIndex = n.signalIndex := by
  rw [quiesce, cancelMockTimers_eq]
  exact ⟨rfl, rfl⟩

theorem owns_activate (h : n.Owns) (hnone : n.publishTimer = none) (driver : Option IODriver) :
    Owns { n with
      driver
      enabled := true
      publishTimer := some n.entities.next
      entities := n.entities.create .publishTimer
      active := true } := by
  have htimer : (n.entities.create .publishTimer).Owned _ := Entities.Owned.create h hnone
  refine htimer.congr fun kind => ?_
  cases kind <;> rfl

theorem owns_quiesce (h : n.Owns) : n.quiesce.Owns := by
  have htimer := Entities.Owned.release h .publishTimer
  unfold Owns quiesce
  rw [cancelMockTimers_eq]
  refine htimer.congr fun kind => ?_
  cases kind <;> rfl

theorem handle_teardown (n : GpioController) (kind : EntityKind) : n.teardown.handle kind = none := by
  unfold teardown
  rw [cancelMockTimers_eq]
  cases kind <;> rfl

theorem owns_teardown (h : n.Owns) : n.teardown.Owns := by
  have htimer := Entities.Owned.release h .publishTimer
  have hserver := htimer.release .monitorActionServer
  have hmock := hserver.release .setMockBehaviorSrv
  have hsrv := hmock.release .setIoSrv
  have hpub := hsrv.release .ioStatePub
  unfold Owns teardown
  rw [cancelMockTimers_eq]
  refine hpub.congr fun kind => ?_
  cases kind <;> rfl

/-! ### Mock timers -/

theorem armed_cancelMockTimers (h : n.armed ⊆ n.mockTimers) :
    (n.armed.filter fun t => t.id ∉ n.mockTimers.map (·.id)) = [] := by
  refine List.filter_eq_nil_iff.2 fun t ht hnot => ?_
  exact of_decide_eq_true hnot (List.mem_map_of_mem (h ht))

theorem mock_quiesce (h : n.armed ⊆ n.mockTimers) :
    n.quiesce.mockTimers = [] ∧ n.quiesce.armed = [] := by
  unfold quiesce
  rw [cancelMockTimers_eq]
  exact ⟨rfl, armed_cancelMockTimers h⟩

theorem mock_teardown (h : n.armed ⊆ n.mockTimers) :
    n.teardown.mockTimers = [] ∧ n.teardown.armed = [] := by
  unfold teardown
  rw [cancelMockTimers_eq]
  exact ⟨rfl, armed_cancelMockTimers h⟩

/-- A request schedules one timer while the node is active, and nothing otherwise. -/
theorem onSetMockBehavior_cases (n : GpioController) (request : SetMockBehavior.Request) :
    (n.onSetMockBehavior request).1 = n ∨
      n.active = true ∧ ∃ timer, (n.onSetMockBehavior request).1 =
        { n with
          armed := n.armed ++ [timer]
          mockTimers := n.mockTimers ++ [timer]
          nextTimer := n.nextTimer + 1 } := by
  unfold onSetMockBehavior
  split
  · exact .inl rfl
  · unfold scheduleMockChange
    split
    · exact .inl rfl
    · next hactive => exact .inr ⟨by simpa using hactive, _, rfl⟩

theorem applyMockChange_ok {d d' : MockIODriver} {ioName : String} {value : Value}
    (h : d.applyMockChange ioName value = .ok d') :
    IODriver.mock d' = (IODriver.mock d).update ioName value := by
  unfold MockIODriver.applyMockChange at h
  unfold IODriver.update
  dsimp only [IODriver.base]
  cases hget : Dict.get d.cache ioName with
  | none =>
    rw [hget] at h
    cases h
  | some signal =>
    rw [hget] at h
    dsimp only at h
    split at h
    · cases h
    · rw [← Except.ok.inj h]

/-- A timer that fires is cancelled, and changes at most the driver's cache. -/
theorem fire_cases (n : GpioController) (timer : MockTimer) :
    n.fire timer = n.cancelTimer timer ∨
      ∃ driver, n.driver = some driver ∧ n.fire timer =
        { n.cancelTimer timer with driver := some (driver.update timer.ioName timer.value) } := by
  unfold fire cancelTimer
  dsimp only
  split
  · exact .inl rfl
  · exact .inl rfl
  · next d hd =>
    split
    · exact .inl rfl
    · next d' hok => exact .inr ⟨.mock d, hd, by rw [applyMockChange_ok hok]⟩

end GpioController

/-! ### Runs -/

/-- What happens to the node: a transition, a request of `set_mock_behavior`, a timer that fires, or a
change in the driver. -/
inductive Managed.Event where
  | transition (t : Transition)
  | setMockBehavior (request : SetMockBehavior.Request)
  | fire (timer : MockTimer)
  | change (ioName : String) (value : Value)

namespace Managed

def step (py : Pydantic) (m : Managed) : Event → Option Managed
  | .transition t => (m.transition py t).map Prod.fst
  | .setMockBehavior request => some { m with node := (m.node.onSetMockBehavior request).1 }
  | .fire timer =>
    if timer ∈ m.node.armed then some { m with node := m.node.fire timer } else none
  | .change ioName value =>
    m.node.driver.map fun driver =>
      { m with node := { m.node with driver := some (driver.update ioName value) } }

/-- No `driver.deactivate` raises. -/
def Event.released : Event → Prop
  | .transition (.deactivate fault) => fault = false
  | _ => True

/-- The fields are as the lifecycle state says; the entities that exist are those in the fields. -/
structure Follows (m : Managed) : Prop where
  owned : m.node.Owns
  active : m.state = .active ↔ m.node.active = true ∧ m.node.publishTimer.isSome = true
  inactive : m.state = .inactive →
    (∃ driver, m.node.driver = some driver ∧ m.node.signalIndex = driver.snapshot.signalIndex) ∧
      m.node.publishTimer = none ∧ m.node.mockTimers = [] ∧ m.node.armed = []
  unconfigured : m.state = .unconfigured →
    m.node.driver = none ∧ ∀ kind, m.node.handle kind = none

/-- The node without the two fields that `on_configure` sets before it can fail: nothing reads them
until it has succeeded. -/
def use (m : Managed) : Managed :=
  { m with node := { m.node with config := none, simulated := false } }

/-- If the event is a transition that returns `FAILURE`, the node is as usable after it as before. -/
def KeepsUse (py : Pydantic) (m : Managed) (e : Event) : Prop :=
  ∀ t m', e = .transition t → m.transition py t = some (m', .FAILURE) → m'.use = m.use

/-- A UR driver without clients raises in `activate`, which has created them by then. -/
def HalfConnects (m : Managed) : Event → Prop
  | .transition (.activate true) => ∃ d, m.node.driver = some (.ur d) ∧ d.active = false
  | _ => False

/-- `Follows`, and what keeps it in the other states. -/
structure Inv (m : Managed) : Prop where
  owned : m.node.Owns
  active : m.node.active = true ↔ m.state = .active
  publishTimer : m.node.publishTimer.isSome = true ↔ m.state = .active
  configured : m.state = .inactive ∨ m.state = .active →
    ∃ driver, m.node.driver = some driver ∧ m.node.signalIndex = driver.snapshot.signalIndex
  released : m.state = .unconfigured ∨ m.state = .finalized →
    m.node.driver = none ∧ ∀ kind, m.node.handle kind = none
  connected : ∀ driver, m.node.driver = some driver → driver.Connected
  armed : m.node.armed ⊆ m.node.mockTimers
  mockTimers : m.state ≠ .active → m.node.mockTimers = []

namespace Inv

variable {py : Pydantic} {m m' : Managed} {t : Transition} {ret : TransitionCallbackReturn} {e : Event}

theorem initial : Inv {} := by
  refine ⟨Entities.Owned.empty.congr fun kind => by cases kind <;> rfl, ?_, ?_, ?_, ?_, ?_, ?_, ?_⟩
  · simp
  · simp
  · simp
  · exact fun _ => ⟨rfl, fun kind => by cases kind <;> rfl⟩
  · intro driver h
    cases h
  · exact List.Subset.refl _
  · exact fun _ => rfl

theorem follows (h : Inv m) : Follows m := by
  refine ⟨h.owned, ⟨fun hstate => ⟨h.active.2 hstate, h.publishTimer.2 hstate⟩, fun hup =>
    h.active.1 hup.1⟩, fun hstate => ?_, fun hstate => h.released (.inl hstate)⟩
  have hnot : m.state ≠ .active := by simp [hstate]
  have hmock := h.mockTimers hnot
  refine ⟨h.configured (.inl hstate), ?_, hmock, ?_⟩
  · rw [← Option.not_isSome_iff_eq_none, h.publishTimer]
    exact hnot
  · have harmed := h.armed
    rw [hmock] at harmed
    exact List.subset_nil.1 harmed

/-- A step that keeps the lifecycle state and the entities. -/
theorem frame (h : Inv m) {n : GpioController} (hentities : n.entities = m.node.entities)
    (hhandle : ∀ kind, n.handle kind = m.node.handle kind) (hactive : n.active = m.node.active)
    (hindex : n.signalIndex = m.node.signalIndex)
    (hdriver : n.driver = m.node.driver ∨ ∃ driver driver', m.node.driver = some driver ∧
      n.driver = some driver' ∧ driver'.snapshot.signalIndex = driver.snapshot.signalIndex ∧
      driver'.Connected)
    (harmed : n.armed ⊆ n.mockTimers) (hmock : m.state ≠ .active → n.mockTimers = []) :
    Inv ⟨m.state, n⟩ := by
  have hnone : m.node.driver = none → n.driver = none := by
    intro hnone
    rcases hdriver with heq | ⟨driver, driver', hd, -⟩
    · rw [heq, hnone]
    · rw [hnone] at hd
      cases hd
  refine ⟨?_, ?_, ?_, fun hstate => ?_, fun hstate => ?_, fun driver hd => ?_, harmed, hmock⟩
  · unfold GpioController.Owns
    rw [hentities, funext hhandle]
    exact h.owned
  · rw [hactive]
    exact h.active
  · show (n.handle .publishTimer).isSome = true ↔ _
    rw [hhandle]
    exact h.publishTimer
  · obtain ⟨driver, hd, hsame⟩ := h.configured hstate
    rcases hdriver with heq | ⟨old, driver', hold, hnew, hsnapshot, -⟩
    · exact ⟨driver, heq.trans hd, hindex.trans hsame⟩
    · rw [hd] at hold
      obtain rfl := Option.some.inj hold
      exact ⟨driver', hnew, by rw [hsnapshot, hindex, hsame]⟩
  · obtain ⟨hd, hhandles⟩ := h.released hstate
    exact ⟨hnone hd, fun kind => (hhandle kind).trans (hhandles kind)⟩
  · rcases hdriver with heq | ⟨old, driver', -, hnew, -, hconnected⟩
    · exact h.connected driver (heq ▸ hd)
    · rw [hnew] at hd
      exact Option.some.inj hd ▸ hconnected

/-- The change of a cached state. -/
theorem update (h : Inv m) {driver : IODriver} (hd : m.node.driver = some driver)
    (ioName : String) (value : Value) :
    (driver.update ioName value).snapshot.signalIndex = driver.snapshot.signalIndex ∧
      (driver.update ioName value).Connected := by
  have hconnected := h.connected driver hd
  exact ⟨IODriver.signalIndex_update hconnected.consistent.keyed ioName value,
    hconnected.update ioName value⟩

theorem event (h : Inv m) (hnot : ∀ t, e ≠ .transition t) (hs : m.step py e = some m') : Inv m' := by
  cases e with
  | transition t => exact absurd rfl (hnot t)
  | setMockBehavior request =>
    obtain rfl := Option.some.inj hs
    rcases m.node.onSetMockBehavior_cases request with heq | ⟨hactive, timer, heq⟩
    · rw [heq]
      exact h
    · rw [heq]
      refine h.frame rfl (fun kind => by cases kind <;> rfl) rfl rfl (.inl rfl) ?_ fun hstate => ?_
      · exact List.append_subset.2 ⟨List.subset_append_of_subset_left _ h.armed,
          List.subset_append_right _ _⟩
      · exact absurd (h.active.1 hactive) hstate
  | fire timer =>
    rw [step] at hs
    split at hs
    · obtain rfl := Option.some.inj hs
      have harmed : (m.node.cancelTimer timer).armed ⊆ m.node.mockTimers := by
        intro t ht
        exact h.armed (List.mem_of_mem_filter ht)
      rcases m.node.fire_cases timer with heq | ⟨driver, hd, heq⟩
      · rw [heq]
        exact h.frame rfl (fun kind => by cases kind <;> rfl) rfl rfl (.inl rfl) harmed h.mockTimers
      · rw [heq]
        exact h.frame rfl (fun kind => by cases kind <;> rfl) rfl rfl
          (.inr ⟨driver, _, hd, rfl, h.update hd timer.ioName timer.value⟩) harmed h.mockTimers
    · cases hs
  | change ioName value =>
    obtain ⟨driver, hd, rfl⟩ := Option.map_eq_some_iff.1 hs
    exact h.frame rfl (fun kind => by cases kind <;> rfl) rfl rfl
      (.inr ⟨driver, _, hd, rfl, h.update hd ioName value⟩) h.armed h.mockTimers

/-- The part of the invariant that every inactive state with a driver has. -/
theorem of_inactive {n : GpioController} {driver : IODriver} (howned : n.Owns)
    (hactive : n.active = false) (htimer : n.publishTimer = none) (hdriver : n.driver = some driver)
    (hindex : n.signalIndex = driver.snapshot.signalIndex) (hconnected : driver.Connected)
    (hmock : n.mockTimers = []) (harmed : n.armed = []) : Inv ⟨.inactive, n⟩ := by
  refine ⟨howned, ?_, ?_, fun _ => ⟨driver, hdriver, hindex⟩, ?_, fun d hd => ?_, ?_, fun _ => hmock⟩
  · simp [hactive]
  · simp [htimer]
  · simp
  · rw [hdriver] at hd
    exact Option.some.inj hd ▸ hconnected
  · rw [harmed]
    exact List.nil_subset _

/-- And every state in which everything has been released. -/
theorem of_released {n : GpioController} {state : LifecycleState} (howned : n.Owns)
    (hstate : state = .unconfigured ∨ state = .finalized) (hactive : n.active = false)
    (hdriver : n.driver = none) (hnone : ∀ kind, n.handle kind = none)
    (hmock : n.mockTimers = []) (harmed : n.armed = []) : Inv ⟨state, n⟩ := by
  have hnot : state ≠ .active ∧ state ≠ .inactive := by
    rcases hstate with rfl | rfl <;> simp
  refine ⟨howned, ?_, ?_, ?_, fun _ => ⟨hdriver, hnone⟩, fun d hd => ?_, ?_, fun _ => hmock⟩
  · simp [hactive, hnot]
  · show (n.handle .publishTimer).isSome = true ↔ _
    simp [hnone, hnot]
  · simp [hnot]
  · simp [hdriver] at hd
  · rw [harmed]
    exact List.nil_subset _

/-- Outside the active state nothing is up. -/
theorem down (h : Inv m) (hstate : m.state ≠ .active) : m.node.active = false ∧
    m.node.publishTimer = none ∧ m.node.mockTimers = [] ∧ m.node.armed = [] := by
  have hmock := h.mockTimers hstate
  have harmed := h.armed
  rw [hmock] at harmed
  refine ⟨?_, ?_, hmock, List.subset_nil.1 harmed⟩
  · rw [Bool.eq_false_iff]
    exact fun hup => hstate (h.active.1 hup)
  · rw [← Option.not_isSome_iff_eq_none, h.publishTimer]
    exact hstate

theorem transition (h : Inv m) (ht : t ≠ .deactivate true ∨ ret = .SUCCESS)
    (hm : m.Transits py t m' ret) : Inv m' := by
  have hconnected := hm.connected h.connected
  cases hm with
  | @configure input config driver hstate hdriver =>
    have hnot : m.state ≠ .active := by simp [hstate]
    obtain ⟨hdown, htimer, hmock, harmed⟩ := h.down hnot
    obtain ⟨-, hnone⟩ := h.released (.inl hstate)
    let start : GpioController := { m.node with simulated := input.simulated, config := some config }
    obtain ⟨htimer', hindex', hmock', harmed'⟩ :=
      start.setUp_frame config input.publishRateHz driver
    have hstart : start.Owns := h.owned.congr fun kind => by cases kind <;> rfl
    have howned := start.owns_setUp hstart (fun kind => by
      rw [← hnone kind]
      cases kind <;> rfl) config input.publishRateHz driver
    refine .of_inactive howned ?_ (htimer'.trans htimer) (start.driver_setUp config _ driver) ?_
      (hconnected _ (start.driver_setUp config _ driver)) (hmock'.trans hmock) (harmed'.trans harmed)
    · exact (start.active_setUp config _ driver).trans hdown
    · rw [hindex']
      cases driver <;> rfl
  | @configureFails input config driver hstate hdriver =>
    have hnot : m.state ≠ .active := by simp [hstate]
    obtain ⟨hdown, -, hmock, harmed⟩ := h.down hnot
    obtain ⟨hnone, hhandles⟩ := h.released (.inl hstate)
    have hdriver' : driver = none := by
      rcases hdriver with rfl | rfl
      · exact hnone
      · rfl
    exact .of_released (h.owned.congr fun kind => by cases kind <;> rfl) (.inl rfl) hdown hdriver'
      (fun kind => by rw [← hhandles kind]; cases kind <;> rfl) hmock harmed
  | @activate driver hstate hdriver =>
    have hnot : m.state ≠ .active := by simp [hstate]
    obtain ⟨-, htimer, hmock, harmed⟩ := h.down hnot
    obtain ⟨d, hd, hindex⟩ := h.configured (.inl hstate)
    rw [hdriver] at hd
    obtain rfl := Option.some.inj hd
    refine ⟨GpioController.owns_activate h.owned htimer _, ⟨fun _ => rfl, fun _ => rfl⟩,
      ⟨fun _ => rfl, fun _ => rfl⟩, fun _ => ⟨_, rfl, ?_⟩, ?_, hconnected, h.armed, ?_⟩
    · rw [hindex]
      cases driver <;> rfl
    · simp
    · simp
  | @activateFails fault hstate hfault =>
    have hnot : m.state ≠ .active := by simp [hstate]
    obtain ⟨hdown, htimer, hmock, harmed⟩ := h.down hnot
    obtain ⟨driver, hd, hindex⟩ := h.configured (.inl hstate)
    have hdriver : m.node.driver.map IODriver.activate = some driver.activate := by rw [hd]; rfl
    refine .of_inactive (h.owned.congr fun kind => by cases kind <;> rfl) hdown htimer hdriver ?_
      (hconnected _ hdriver) hmock harmed
    show m.node.signalIndex = _
    rw [hindex]
    cases driver <;> rfl
  | @deactivate fault hstate hfault =>
    obtain ⟨driver, hd, hindex⟩ := h.configured (.inr hstate)
    have hdriver : m.node.driver.map IODriver.deactivate = some driver.deactivate := by rw [hd]; rfl
    obtain ⟨htimer, hindex'⟩ := m.node.quiesce_frame
    obtain ⟨hmock, harmed⟩ := GpioController.mock_quiesce h.armed
    refine .of_inactive ((GpioController.owns_quiesce h.owned).congr fun kind => by
      cases kind <;> rfl) m.node.active_quiesce htimer hdriver ?_ (hconnected _ hdriver) hmock harmed
    show m.node.quiesce.signalIndex = _
    rw [hindex', hindex]
    cases driver <;> rfl
  | @deactivateFails driver hstate hdriver =>
    rcases ht with hne | hret
    · exact absurd rfl hne
    · cases hret
  | cleanup hstate =>
    obtain ⟨hmock, harmed⟩ := GpioController.mock_teardown h.armed
    exact .of_released (GpioController.owns_teardown h.owned) (.inl rfl) m.node.active_teardown rfl
      m.node.handle_teardown hmock harmed
  | shutdown hstate =>
    obtain ⟨hmock, harmed⟩ := GpioController.mock_teardown h.armed
    exact .of_released (GpioController.owns_teardown h.owned) (.inr rfl) m.node.active_teardown rfl
      m.node.handle_teardown hmock harmed

theorem step (h : Inv m) (he : e.released) (hs : m.step py e = some m') : Inv m' := by
  cases e with
  | transition t =>
    obtain ⟨⟨m₁, ret⟩, hm, rfl⟩ := Option.map_eq_some_iff.1 hs
    refine h.transition (.inl ?_) (transition_cases hm)
    rintro rfl
    cases he
  | setMockBehavior request => exact h.event (by simp) hs
  | fire timer => exact h.event (by simp) hs
  | change ioName value => exact h.event (by simp) hs

end Inv

/-- A `driver.deactivate` that raises leaves an active node without its flag and its timer. -/
theorem deactivateFails_cases {py : Pydantic} {m m' : Managed} {e : Event} (h : Inv m)
    (he : ¬e.released) (hs : m.step py e = some m') :
    e = .transition (.deactivate true) ∧ m.state = .active ∧ m' = ⟨.active, m.node.quiesce⟩ ∧
      m.transition py (.deactivate true) = some (m', .FAILURE) := by
  have heq : e = .transition (.deactivate true) := by
    cases e with
    | transition t =>
      cases t with
      | deactivate fault =>
        cases fault with
        | true => rfl
        | false => exact absurd rfl he
      | configure input => exact absurd trivial he
      | activate fault => exact absurd trivial he
      | cleanup => exact absurd trivial he
      | shutdown => exact absurd trivial he
    | setMockBehavior request => exact absurd trivial he
    | fire timer => exact absurd trivial he
    | change ioName value => exact absurd trivial he
  subst heq
  obtain ⟨⟨m₁, ret⟩, hm, rfl⟩ := Option.map_eq_some_iff.1 hs
  cases transition_cases hm with
  | deactivate hstate hfault =>
    rcases hfault with hfault | hnone
    · cases hfault
    · obtain ⟨driver, hd, -⟩ := h.configured (.inr hstate)
      rw [hnone] at hd
      cases hd
  | deactivateFails hstate hdriver => exact ⟨rfl, hstate, rfl, hm⟩

theorem activate_eq_iff {driver : IODriver} :
    driver.activate = driver ↔ ∀ d, driver = .ur d → d.active = true := by
  cases driver with
  | mock d => exact iff_of_true rfl (by rintro d ⟨⟩)
  | ur d =>
    constructor
    · rintro hsame _ ⟨⟩
      exact (congrArg URIODriver.active (IODriver.ur.inj hsame)).symm
    · intro hactive
      rcases d with ⟨base, device, readIndex, writeIndex, active⟩
      obtain rfl : active = true := hactive _ rfl
      rfl

/-- `activate` is all that a failed activation leaves of itself. -/
theorem use_activateFails {m : Managed} {driver : IODriver} (hdriver : m.node.driver = some driver) :
    use { m with node := { m.node with driver := m.node.driver.map IODriver.activate } } = m.use ↔
      ∀ d, m.node.driver = some (.ur d) → d.active = true := by
  have hactivate : use { m with node := { m.node with driver := m.node.driver.map IODriver.activate } } =
      m.use ↔ driver.activate = driver := by
    constructor
    · intro huse
      have hsame := congrArg (·.node.driver) huse
      rw [use, use, hdriver] at hsame
      exact Option.some.inj hsame
    · intro hsame
      have hmap : m.node.driver.map IODriver.activate = m.node.driver := by
        rw [hdriver, Option.map_some, hsame]
      unfold use
      rw [hmap]
  rw [hactivate, activate_eq_iff, hdriver]
  simp

theorem keepsUse_transition {py : Pydantic} {m : Managed} {t : Transition} :
    m.KeepsUse py (.transition t) ↔
      ∀ m', m.transition py t = some (m', .FAILURE) → m'.use = m.use := by
  constructor
  · exact fun hkeeps m' hm => hkeeps t m' rfl hm
  · rintro hkeeps _ m' ⟨⟩ hm
    exact hkeeps m' hm

/-- An activation whose driver raises. -/
theorem keepsUse_activate {py : Pydantic} {m : Managed} (h : Inv m) (hstate : m.state = .inactive) :
    m.KeepsUse py (.transition (.activate true)) ↔ ¬m.HalfConnects (.transition (.activate true)) := by
  obtain ⟨driver, hd, -⟩ := h.configured (.inl hstate)
  have hfails : m.transition py (.activate true) = some
      ({ m with node := { m.node with driver := m.node.driver.map IODriver.activate } },
        .FAILURE) := by
    rw [Managed.transition, if_pos hstate, GpioController.onActivate, hd]
    simp [settle]
  rw [keepsUse_transition, hfails]
  simp only [Option.some.injEq, Prod.mk.injEq, and_true, forall_eq', HalfConnects, not_exists,
    not_and, Bool.not_eq_false]
  exact use_activateFails hd

theorem keepsUse_iff {py : Pydantic} {m m' : Managed} {e : Event} (h : Inv m) (he : e.released)
    (hs : m.step py e = some m') : m.KeepsUse py e ↔ ¬m.HalfConnects e := by
  cases e with
  | setMockBehavior | fire | change =>
    refine iff_of_true ?_ not_false
    rintro t m' ⟨⟩
  | transition t =>
    cases t with
    | configure input =>
      refine iff_of_true (keepsUse_transition.2 fun m' hm => ?_) not_false
      cases transition_cases hm with
      | @configureFails _ config driver hstate hdriver =>
        obtain ⟨hnone, -⟩ := h.released (.inl hstate)
        have hsame : driver = m.node.driver := by
          rcases hdriver with rfl | rfl
          · rfl
          · exact hnone.symm
        unfold use
        rw [hsame, hstate]
    | activate fault =>
      cases fault with
      | false =>
        refine iff_of_true (keepsUse_transition.2 fun m' hm => ?_) not_false
        cases transition_cases hm with
        | activateFails hstate hfault =>
          obtain ⟨driver, hd, -⟩ := h.configured (.inl hstate)
          rcases hfault with hfault | hnone
          · cases hfault
          · cases hnone.symm.trans hd
      | true =>
        obtain ⟨⟨m₁, ret⟩, hm, -⟩ := Option.map_eq_some_iff.1 hs
        refine keepsUse_activate h ?_
        by_contra hnot
        rw [Managed.transition, if_neg hnot] at hm
        cases hm
    | deactivate fault =>
      refine iff_of_true (keepsUse_transition.2 fun m' hm => ?_) not_false
      cases transition_cases hm with
      | deactivateFails hstate hdriver => cases he
    | cleanup | shutdown =>
      refine iff_of_true (keepsUse_transition.2 fun m' hm => ?_) not_false
      cases transition_cases hm

theorem exactly_follows (py : Pydantic) :
    Lts.Exactly (step py) (fun _ e => e.released) Follows {} := by
  refine .of_invariant (I := Inv) .initial (fun h => h.follows) (fun h he hs => h.step he hs) ?_
  intro m m' e h he hs hfollows
  obtain ⟨-, -, rfl, -⟩ := deactivateFails_cases h he hs
  have hup := (hfollows.active.1 rfl).1
  change m.node.quiesce.active = true at hup
  rw [GpioController.active_quiesce] at hup
  cases hup

/-- The fields follow the lifecycle throughout a run if and only if no `driver.deactivate` of it raises;
and every transition of it that fails keeps the use of the node, too, if and only if moreover no
`driver.activate` raises while the node has a UR driver without clients. -/
theorem follows_lifecycle (py : Pydantic) (es : List Event) (m : Managed) :
    (Lts.Stays (step py) Follows {} es m ↔ Lts.Trace (step py) (fun _ e => e.released) {} es m) ∧
      (Lts.Stays (step py) Follows {} es m ∧ Lts.Trace (step py) (KeepsUse py) {} es m ↔
        Lts.Trace (step py) (fun m e => e.released ∧ ¬m.HalfConnects e) {} es m) := by
  have hstays : Lts.Stays (step py) Follows {} es m ↔
      Lts.Trace (step py) (fun _ e => e.released) {} es m := (exactly_follows py).stays_iff
  have hinv {C : Managed → Event → Prop} {m : Managed} (hC : ∀ {m e}, C m e → e.released)
      (hrun : Lts.Runs (step py) C {} m) : Inv m :=
    hrun.invariant .initial fun h he hs => h.step (hC he) hs
  refine ⟨hstays, ?_⟩
  rw [hstays, ← Lts.Trace.and_iff]
  constructor
  · intro htrace
    refine htrace.mono fun hrun he hs => ⟨he.1, ?_⟩
    exact (keepsUse_iff (hinv (fun he => he.1) hrun) he.1 hs).1 he.2
  · intro htrace
    refine htrace.mono fun hrun he hs => ⟨he.1, ?_⟩
    exact (keepsUse_iff (hinv (fun he => he.1) hrun) he.1 hs).2 he.2

/-- After such an activation the node is inactive, and its driver takes every write that it refused. -/
theorem activation_half_done {py : Pydantic} {m m' : Managed}
    (hm : m.transition py (.activate true) = some (m', .FAILURE))
    (hhalf : m.HalfConnects (.transition (.activate true))) :
    m'.state = .inactive ∧ ∃ d d', m.node.driver = some (.ur d) ∧ m'.node.driver = some (.ur d') ∧
      ∀ ioName target, Dict.get d.writeIndex ioName = some target →
        d.requireWrite ioName ≠ .ok target ∧ d'.requireWrite ioName = .ok target := by
  obtain ⟨d, hd, hclosed⟩ := hhalf
  cases transition_cases hm with
  | activateFails hstate hfault =>
    refine ⟨rfl, d, { d with active := true }, hd, by rw [hd]; rfl, fun ioName target htarget => ?_⟩
    refine ⟨?_, ?_⟩
    · simp [URIODriver.requireWrite, hclosed]
    · simp [URIODriver.requireWrite, htarget]

/-- The node is active for the lifecycle manager; it publishes nothing and takes no goals. -/
theorem deactivation_half_done : ∃ m : Managed, Lts.Reaches (step .strict) {} m ∧ m.state = .active ∧
    m.node.active = false ∧ m.node.publishTimer = none ∧ ¬m.Follows := by
  refine ⟨_, .of_exec [.transition (.configure ⟨some sampleConfig, true, 0, false⟩),
    .transition (.activate false), .transition (.deactivate true)] rfl, rfl, rfl, rfl, ?_⟩
  intro hfollows
  have hup := (hfollows.active.1 rfl).1
  cases hup

end Managed

end IoControllers
