import MovementController.Io.Events
import MovementController.Lib.Entities
import MovementController.Lib.Lifecycle
import Mathlib.Data.Finset.Dedup
import Mathlib.Data.Finset.Insert
import Mathlib.Data.Finset.Erase

/-!
# `GpioController`

The fields of the node and its lifecycle transitions. `entities`, `armed` and `enabled` are the ROS
side of the node: the entities that exist, the mock timers that are created and not cancelled, and
whether the managed publishers are enabled. What may raise in a transition is an argument of it.
-/

namespace IoControllers

structure IOControllerConfigDTO where
  deviceType : DeviceTypeEnum
  publishRateHz : ℚ
  device : List (Yaml × Yaml)
  publishRateHz_pos : 0 < publishRateHz

def sampleConfig : IOControllerConfigDTO where
  deviceType := .UR
  publishRateHz := 10
  device := sampleDevice
  publishRateHz_pos := by decide

/-! ### The driver of the node -/

inductive IODriver where
  | mock (d : MockIODriver)
  | ur (d : URIODriver)

namespace IODriver

def base : IODriver → Driver
  | mock d => d.toDriver
  | ur d => d.toDriver

def snapshot (d : IODriver) : IOStatesSnapshot := d.base.snapshot

/-- `set_change_callback(callback)`. -/
def setChangeCallback : IODriver → IODriver
  | mock d => .mock { d with callback := true }
  | ur d => .ur { d with callback := true }

/-- The UR driver has its clients before it waits for the services, so also when it raises. -/
def activate : IODriver → IODriver
  | mock d => .mock d
  | ur d => .ur { d with active := true }

def deactivate : IODriver → IODriver
  | mock d => .mock d
  | ur d => .ur { d with active := false }

@[simp] theorem base_setChangeCallback (d : IODriver) :
    d.setChangeCallback.base = { d.base with callback := true } := by
  cases d <;> rfl

@[simp] theorem base_activate (d : IODriver) : d.activate.base = d.base := by
  cases d <;> rfl

@[simp] theorem base_deactivate (d : IODriver) : d.deactivate.base = d.base := by
  cases d <;> rfl

end IODriver

/-- `create_driver` and `configure` of the driver. -/
def createDriver (py : Pydantic) (config : IOControllerConfigDTO) (simulated : Bool) :
    Except ConfigError IODriver :=
  if simulated then (MockIODriver.configure config.deviceType config.device).map .mock
  else
    match config.deviceType with
    | .UR => (URIODriver.configure py config.device).map .ur

theorem createDriver_ok {py : Pydantic} {config : IOControllerConfigDTO} {simulated : Bool}
    {driver : IODriver} (h : createDriver py config simulated = .ok driver) :
    ∃ signals : List Signal, (signals.map (·.ioName)).Nodup ∧ (∀ signal ∈ signals, signal.Typed) ∧
      driver.base = { cache := signals.map fun signal => (signal.ioName, signal) } := by
  unfold createDriver at h
  split at h
  · obtain ⟨d, hd, h⟩ := Fallible.map_ok h
    obtain ⟨signals, hs, hnodup, rfl⟩ := MockIODriver.configure_ok hd
    exact ⟨signals, hnodup, normalizeMapping_typed hs, by rw [← h]; rfl⟩
  · split at h
    obtain ⟨d, hd, h⟩ := Fallible.map_ok h
    obtain ⟨signals, -, hs, hnodup, hbase, -⟩ := URIODriver.configure_ok hd
    exact ⟨signals, hnodup, normalizeMapping_typed hs, by rw [← h]; exact hbase⟩

/-! ### The fields -/

/-- `(is_digital, direction)` of a mapped signal. -/
abbrev SignalMeta := Bool × IODirectionEnum

def Signal.toMeta (signal : Signal) : SignalMeta := (decide (signal.type = .digital), signal.direction)

/-- The dict comprehension of `on_configure`: the digital signals, then the analog ones. -/
def IOStatesSnapshot.signalIndex (snapshot : IOStatesSnapshot) : Dict String SignalMeta :=
  Dict.ofList ((snapshot.digital ++ snapshot.analog).map fun s => (s.ioName, s.toMeta))

/-- A one-shot timer of `_schedule_mock_change`, with what its `_fire` closes over. -/
structure MockTimer where
  id : ℕ
  ioName : String
  value : Value
  delaySeconds : ℚ
deriving DecidableEq, Repr

inductive EntityKind where
  | ioStatePub
  | setIoSrv
  | setMockBehaviorSrv
  | monitorActionServer
  | publishTimer
deriving DecidableEq, Repr

structure GpioController where
  config : Option IOControllerConfigDTO := none
  driver : Option IODriver := none
  simulated : Bool := false
  publishRateHz : ℚ := 10
  signalIndex : Dict String SignalMeta := []
  ioStatePub : Option ℕ := none
  setIoSrv : Option ℕ := none
  publishTimer : Option ℕ := none
  setMockBehaviorSrv : Option ℕ := none
  mockTimers : List MockTimer := []
  active : Bool := false
  monitorActionServer : Option ℕ := none
  watchers : Dict String (Finset ℕ) := []
  entities : Entities EntityKind := {}
  armed : List MockTimer := []
  nextTimer : ℕ := 0
  enabled : Bool := false

/-! ### Mock timers -/

namespace GpioController

/-- The critical section of `_schedule_mock_change`: check, create and append. -/
def scheduleMockChange (n : GpioController) (ioName : String) (value : Value) (delaySeconds : ℚ) :
    GpioController × Bool :=
  if !n.active then (n, false)
  else
    let timer := { id := n.nextTimer, ioName, value, delaySeconds := max delaySeconds 0 }
    ({ n with
        armed := n.armed ++ [timer]
        mockTimers := n.mockTimers ++ [timer]
        nextTimer := n.nextTimer + 1 }, true)

/-- `timer.cancel()`. -/
def cancelTimer (n : GpioController) (timer : MockTimer) : GpioController :=
  { n with armed := n.armed.filter (·.id ≠ timer.id) }

/-- `_fire`. The UR driver has no `apply_mock_change`; like every exception that is logged. -/
def fire (n : GpioController) (timer : MockTimer) : GpioController :=
  let n := n.cancelTimer timer
  match n.driver with
  | none => n
  | some (.ur _) => n
  | some (.mock d) =>
    match d.applyMockChange timer.ioName timer.value with
    | .error _ => n
    | .ok d => { n with driver := some (.mock d) }

/-- The critical section of `_cancel_mock_timers`; the list it takes over is `n.mockTimers`. -/
def takeMockTimers (n : GpioController) : GpioController := { n with mockTimers := [] }

def cancelMockTimers (n : GpioController) : GpioController :=
  n.mockTimers.foldl cancelTimer n.takeMockTimers

theorem foldl_cancelTimer (n : GpioController) (timers : List MockTimer) :
    timers.foldl cancelTimer n =
      { n with armed := n.armed.filter fun t => t.id ∉ timers.map (·.id) } := by
  induction timers generalizing n with
  | nil => simp
  | cons timer timers ih =>
    rw [List.foldl_cons, ih, cancelTimer, List.filter_filter]
    congr 2
    funext t
    by_cases ht : t.id = timer.id
    · simp [ht]
    · simp [ht]

theorem cancelMockTimers_eq (n : GpioController) : n.cancelMockTimers =
    { n with
      mockTimers := []
      armed := n.armed.filter fun t => t.id ∉ n.mockTimers.map (·.id) } :=
  foldl_cancelTimer n.takeMockTimers n.mockTimers

/-! ### Transitions -/

/-- What `on_configure` finds: the config file (`none` is the `ConfigError`), the parameters, and
whether an exception other than a rejected device block is raised by the driver. -/
structure ConfigureInput where
  loaded : Option IOControllerConfigDTO
  simulated : Bool
  publishRateHz : ℚ
  fault : Bool

/-- The part of `on_configure` that follows once the driver is configured. -/
def setUp (n : GpioController) (config : IOControllerConfigDTO) (publishRateHz : ℚ)
    (driver : IODriver) : GpioController :=
  let n := { n with
    driver := some driver.setChangeCallback
    publishRateHz := if publishRateHz > 0 then publishRateHz else config.publishRateHz
    signalIndex := driver.snapshot.signalIndex }
  let n := { n with
    ioStatePub := some n.entities.next
    entities := n.entities.create .ioStatePub
    -- the base class enables the publisher on activation
    enabled := false }
  let n := { n with setIoSrv := some n.entities.next, entities := n.entities.create .setIoSrv }
  let n := if n.simulated then
      { n with
        setMockBehaviorSrv := some n.entities.next
        entities := n.entities.create .setMockBehaviorSrv }
    else n
  { n with
    monitorActionServer := some n.entities.next
    entities := n.entities.create .monitorActionServer }

@[simp] theorem driver_setUp (n : GpioController) (config : IOControllerConfigDTO)
    (publishRateHz : ℚ) (driver : IODriver) :
    (n.setUp config publishRateHz driver).driver = some driver.setChangeCallback := by
  rw [setUp]
  dsimp only
  split <;> rfl

@[simp] theorem watchers_setUp (n : GpioController) (config : IOControllerConfigDTO)
    (publishRateHz : ℚ) (driver : IODriver) :
    (n.setUp config publishRateHz driver).watchers = n.watchers := by
  rw [setUp]
  dsimp only
  split <;> rfl

def onConfigure (py : Pydantic) (n : GpioController) (input : ConfigureInput) :
    GpioController × TransitionCallbackReturn :=
  let n := { n with simulated := input.simulated }
  match input.loaded with
  | none => (n, .FAILURE)
  | some config =>
    let n := { n with config := some config }
    match if input.fault then .error .raised else createDriver py config input.simulated with
    | .error _ => ({ n with driver := none }, .FAILURE)
    | .ok driver => (n.setUp config input.publishRateHz driver, .SUCCESS)

theorem onConfigure_cases (py : Pydantic) (n : GpioController) (input : ConfigureInput) :
    (∃ config driver, createDriver py config input.simulated = .ok driver ∧
      n.onConfigure py input =
        (({ n with simulated := input.simulated, config := some config } : GpioController).setUp config
          input.publishRateHz driver, .SUCCESS)) ∨
    ∃ config driver, (driver = n.driver ∨ driver = none) ∧
      n.onConfigure py input =
        ({ n with simulated := input.simulated, config, driver }, .FAILURE) := by
  unfold onConfigure
  cases input.loaded with
  | none => exact .inr ⟨n.config, n.driver, .inl rfl, rfl⟩
  | some config =>
    cases hfault : input.fault with
    | true => exact .inr ⟨some config, none, .inr rfl, rfl⟩
    | false =>
      cases hdriver : createDriver py config input.simulated with
      | error e => exact .inr ⟨some config, none, .inr rfl, by simp [hdriver]⟩
      | ok driver => exact .inl ⟨config, driver, hdriver, by simp [hdriver]⟩

/-- `fault`: `driver.activate` raises. -/
def onActivate (n : GpioController) (fault : Bool) : GpioController × TransitionCallbackReturn :=
  match n.driver with
  | none => (n, .FAILURE)
  | some driver =>
    let n := { n with driver := some driver.activate }
    if fault then (n, .FAILURE)
    else
      ({ n with
          enabled := true
          publishTimer := some n.entities.next
          entities := n.entities.create .publishTimer
          active := true }, .SUCCESS)

theorem onActivate_cases (n : GpioController) (fault : Bool) :
    ((fault = true ∨ n.driver = none) ∧
      n.onActivate fault = ({ n with driver := n.driver.map IODriver.activate }, .FAILURE)) ∨
    ∃ driver, fault = false ∧ n.driver = some driver ∧
      n.onActivate fault =
        ({ n with
            driver := some driver.activate
            enabled := true
            publishTimer := some n.entities.next
            entities := n.entities.create .publishTimer
            active := true }, .SUCCESS) := by
  unfold onActivate
  cases hdriver : n.driver with
  | none =>
    have hsame : { n with driver := none } = n := by rw [← hdriver]
    exact .inl ⟨.inr rfl, by rw [Option.map_none, hsame]⟩
  | some driver =>
    cases fault with
    | true => exact .inl ⟨.inl rfl, rfl⟩
    | false => exact .inr ⟨driver, rfl, rfl, rfl⟩

def clearActive (n : GpioController) : GpioController := { n with active := false }

def dropPublishTimer (n : GpioController) : GpioController :=
  { n with publishTimer := none, entities := n.entities.release n.publishTimer }

/-- `on_deactivate` up to the call of the driver. -/
def quiesce (n : GpioController) : GpioController :=
  { n.clearActive.dropPublishTimer.cancelMockTimers with enabled := false }

@[simp] theorem driver_quiesce (n : GpioController) : n.quiesce.driver = n.driver := by
  rw [quiesce, cancelMockTimers_eq]
  rfl

@[simp] theorem watchers_quiesce (n : GpioController) : n.quiesce.watchers = n.watchers := by
  rw [quiesce, cancelMockTimers_eq]
  rfl

/-- The call of the driver at the end of `on_deactivate`. -/
def deactivateDriver (n : GpioController) (fault : Bool) :
    GpioController × TransitionCallbackReturn :=
  match n.driver with
  | none => (n, .SUCCESS)
  | some driver =>
    if fault then (n, .FAILURE) else ({ n with driver := some driver.deactivate }, .SUCCESS)

/-- `fault`: `driver.deactivate` raises. -/
def onDeactivate (n : GpioController) (fault : Bool) : GpioController × TransitionCallbackReturn :=
  n.quiesce.deactivateDriver fault

theorem onDeactivate_cases (n : GpioController) (fault : Bool) :
    ((fault = false ∨ n.driver = none) ∧
      n.onDeactivate fault =
        ({ n.quiesce with driver := n.driver.map IODriver.deactivate }, .SUCCESS)) ∨
    ∃ driver, fault = true ∧ n.driver = some driver ∧
      n.onDeactivate fault = (n.quiesce, .FAILURE) := by
  unfold onDeactivate deactivateDriver
  rw [driver_quiesce]
  cases hdriver : n.driver with
  | none =>
    have hsame : { n.quiesce with driver := none } = n.quiesce := by
      rw [← hdriver, ← driver_quiesce]
    exact .inl ⟨.inr rfl, by rw [Option.map_none, hsame]⟩
  | some driver =>
    cases fault with
    | true => exact .inr ⟨driver, rfl, rfl, rfl⟩
    | false => exact .inl ⟨.inl rfl, rfl⟩

/-- The end of `_teardown`. -/
def releaseAll (n : GpioController) : GpioController :=
  let n := n.dropPublishTimer
  let n := { n with
    monitorActionServer := none
    entities := n.entities.release n.monitorActionServer
    watchers := [] }
  let n := { n with
    setMockBehaviorSrv := none
    entities := n.entities.release n.setMockBehaviorSrv }
  let n := { n with setIoSrv := none, entities := n.entities.release n.setIoSrv }
  let n := { n with ioStatePub := none, entities := n.entities.release n.ioStatePub }
  { n with signalIndex := [], driver := none, config := none }

def teardown (n : GpioController) : GpioController := n.clearActive.cancelMockTimers.releaseAll

def onCleanup (n : GpioController) : GpioController × TransitionCallbackReturn :=
  (n.teardown, .SUCCESS)

def onShutdown (n : GpioController) : GpioController × TransitionCallbackReturn :=
  (n.teardown, .SUCCESS)

end GpioController

/-! ### The managed node -/

inductive Transition where
  | configure (input : GpioController.ConfigureInput)
  | activate (fault : Bool)
  | deactivate (fault : Bool)
  | cleanup
  | shutdown

structure Managed where
  state : LifecycleState := .unconfigured
  node : GpioController := {}

namespace Managed

/-- A callback that returns `FAILURE` leaves the node in the state it came from. -/
def settle (m : Managed) (target : LifecycleState)
    (r : GpioController × TransitionCallbackReturn) : Managed × TransitionCallbackReturn :=
  ({ state := if r.2 = .SUCCESS then target else m.state, node := r.1 }, r.2)

/-- `none`: the state machine of the node does not have the transition. -/
def transition (py : Pydantic) (m : Managed) :
    Transition → Option (Managed × TransitionCallbackReturn)
  | .configure input =>
    if m.state = .unconfigured then some (m.settle .inactive (m.node.onConfigure py input)) else none
  | .activate fault =>
    if m.state = .inactive then some (m.settle .active (m.node.onActivate fault)) else none
  | .deactivate fault =>
    if m.state = .active then some (m.settle .inactive (m.node.onDeactivate fault)) else none
  | .cleanup =>
    if m.state = .inactive then some (m.settle .unconfigured m.node.onCleanup) else none
  | .shutdown =>
    if m.state ≠ .finalized then some (m.settle .finalized m.node.onShutdown) else none

/-- What a transition can do. -/
inductive Transits (py : Pydantic) (m : Managed) :
    Transition → Managed → TransitionCallbackReturn → Prop
  | configure {input : GpioController.ConfigureInput} {config : IOControllerConfigDTO}
      {driver : IODriver} (hstate : m.state = .unconfigured)
      (hdriver : createDriver py config input.simulated = .ok driver) :
      Transits py m (.configure input)
        ⟨.inactive, { m.node with simulated := input.simulated, config := some config }.setUp config
          input.publishRateHz driver⟩ .SUCCESS
  | configureFails {input : GpioController.ConfigureInput} {config : Option IOControllerConfigDTO}
      {driver : Option IODriver} (hstate : m.state = .unconfigured)
      (hdriver : driver = m.node.driver ∨ driver = none) :
      Transits py m (.configure input)
        ⟨.unconfigured, { m.node with simulated := input.simulated, config, driver }⟩ .FAILURE
  | activate {driver : IODriver} (hstate : m.state = .inactive)
      (hdriver : m.node.driver = some driver) :
      Transits py m (.activate false)
        ⟨.active, { m.node with
          driver := some driver.activate
          enabled := true
          publishTimer := some m.node.entities.next
          entities := m.node.entities.create .publishTimer
          active := true }⟩ .SUCCESS
  | activateFails {fault : Bool} (hstate : m.state = .inactive)
      (hfault : fault = true ∨ m.node.driver = none) :
      Transits py m (.activate fault)
        ⟨.inactive, { m.node with driver := m.node.driver.map IODriver.activate }⟩ .FAILURE
  | deactivate {fault : Bool} (hstate : m.state = .active)
      (hfault : fault = false ∨ m.node.driver = none) :
      Transits py m (.deactivate fault)
        ⟨.inactive, { m.node.quiesce with driver := m.node.driver.map IODriver.deactivate }⟩ .SUCCESS
  | deactivateFails {driver : IODriver} (hstate : m.state = .active)
      (hdriver : m.node.driver = some driver) :
      Transits py m (.deactivate true) ⟨.active, m.node.quiesce⟩ .FAILURE
  | cleanup (hstate : m.state = .inactive) :
      Transits py m .cleanup ⟨.unconfigured, m.node.teardown⟩ .SUCCESS
  | shutdown (hstate : m.state ≠ .finalized) :
      Transits py m .shutdown ⟨.finalized, m.node.teardown⟩ .SUCCESS

theorem transition_cases {py : Pydantic} {m m' : Managed} {t : Transition}
    {ret : TransitionCallbackReturn} (h : m.transition py t = some (m', ret)) :
    Transits py m t m' ret := by
  cases t with
  | configure input =>
    rw [transition] at h
    split at h
    · next hstate =>
      obtain ⟨config, driver, hdriver, hret⟩ | ⟨config, driver, hdriver, hret⟩ :=
        m.node.onConfigure_cases py input
      · rw [hret, settle, if_pos rfl] at h
        obtain ⟨rfl, rfl⟩ := Prod.mk.inj (Option.some.inj h)
        exact .configure hstate hdriver
      · rw [hret, settle, if_neg (fun h => nomatch h), hstate] at h
        obtain ⟨rfl, rfl⟩ := Prod.mk.inj (Option.some.inj h)
        exact .configureFails hstate hdriver
    · cases h
  | activate fault =>
    rw [transition] at h
    split at h
    · next hstate =>
      obtain ⟨hfault, hret⟩ | ⟨driver, rfl, hdriver, hret⟩ := m.node.onActivate_cases fault
      · rw [hret, settle, if_neg (fun h => nomatch h), hstate] at h
        obtain ⟨rfl, rfl⟩ := Prod.mk.inj (Option.some.inj h)
        exact .activateFails hstate hfault
      · rw [hret, settle, if_pos rfl] at h
        obtain ⟨rfl, rfl⟩ := Prod.mk.inj (Option.some.inj h)
        exact .activate hstate hdriver
    · cases h
  | deactivate fault =>
    rw [transition] at h
    split at h
    · next hstate =>
      obtain ⟨hfault, hret⟩ | ⟨driver, rfl, hdriver, hret⟩ := m.node.onDeactivate_cases fault
      · rw [hret, settle, if_pos rfl] at h
        obtain ⟨rfl, rfl⟩ := Prod.mk.inj (Option.some.inj h)
        exact .deactivate hstate hfault
      · rw [hret, settle, if_neg (fun h => nomatch h), hstate] at h
        obtain ⟨rfl, rfl⟩ := Prod.mk.inj (Option.some.inj h)
        exact .deactivateFails hstate hdriver
    · cases h
  | cleanup =>
    rw [transition] at h
    split at h
    · next hstate =>
      obtain ⟨rfl, rfl⟩ := Prod.mk.inj (Option.some.inj h)
      exact .cleanup hstate
    · cases h
  | shutdown =>
    rw [transition] at h
    split at h
    · next hstate =>
      obtain ⟨rfl, rfl⟩ := Prod.mk.inj (Option.some.inj h)
      exact .shutdown hstate
    · cases h

end Managed

end IoControllers
