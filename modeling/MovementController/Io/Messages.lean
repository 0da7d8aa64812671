import MovementController.Io.Remote

/-!
# The messages of `~/io_states`

A snapshot of the driver is published on every tick of the publish timer.
-/

namespace IoControllers

/-- `IOStates` without its header. -/
structure IOStates where
  digitalIo : List DigitalIO
  analogIo : List AnalogIO
deriving DecidableEq, Repr

/-- Every digital signal makes a `DigitalIO` and every other one an `AnalogIO`. -/
def IOStatesSnapshot.toMsg (snapshot : IOStatesSnapshot) : IOStates where
  digitalIo := snapshot.digital.filterMap fun signal => signal.toMsg.getLeft?
  analogIo := snapshot.analog.filterMap fun signal => signal.toMsg.getRight?

/-- `_publish_snapshot`: what goes out. A publisher that is not enabled drops the message. -/
def GpioController.publishSnapshot (n : GpioController) : Option IOStates :=
  match n.driver, n.ioStatePub with
  | some driver, some _ => if n.enabled then some driver.snapshot.toMsg else none
  | _, _ => none

theorem GpioController.publishSnapshot_some {n : GpioController} {msg : IOStates}
    (h : n.publishSnapshot = some msg) :
    ∃ driver, n.driver = some driver ∧ msg = driver.snapshot.toMsg := by
  unfold publishSnapshot at h
  split at h
  · next driver _ hdriver _ =>
    split_ifs at h
    exact ⟨driver, hdriver, (Option.some.inj h).symm⟩
  · cases h

/-! ### What a message says -/

/-- The message has an entry of this name whose state is `True`. -/
def IOStates.isOn (msg : IOStates) (ioName : String) : Bool :=
  msg.digitalIo.any fun io => io.ioName = ioName && io.state

/-- The state of a digital signal, `false` when nothing digital is mapped to the name. -/
def Robot.isOn (r : Robot) (places : Dict String Place) (ioName : String) : Bool :=
  match Dict.get places ioName with
  | some (.pin category pin) => category.isDigital && (r.value category pin).toBool
  | _ => false

theorem Driver.Consistent.isOn_toMsg {d : Driver} (h : d.Consistent) (ioName : String) :
    d.snapshot.toMsg.isOn ioName = true ↔
      ∃ signal, Dict.get d.cache ioName = some signal ∧ signal.type = .digital ∧
        signal.state.toBool = true := by
  simp only [IOStates.isOn, IOStatesSnapshot.toMsg, List.any_eq_true, List.mem_filterMap,
    Bool.and_eq_true, decide_eq_true_eq]
  constructor
  · rintro ⟨io, ⟨signal, hsignal, hio⟩, rfl, hstate⟩
    have hdigital : signal.type = .digital := by
      have hmem : signal ∈ (Dict.values d.cache).filter (·.type = .digital) := hsignal
      simpa using (List.mem_filter.1 hmem).2
    have hget := h.mem_snapshot.1 (List.mem_append_left _ hsignal)
    rw [Signal.toMsg, hdigital] at hio
    obtain rfl := Option.some.inj hio
    exact ⟨signal, hget, hdigital, hstate⟩
  · rintro ⟨signal, hget, hdigital, hstate⟩
    have hname := h.keyed _ _ hget
    have hmem : signal ∈ (Dict.values d.cache).filter (·.type = .digital) := by
      refine List.mem_filter.2 ⟨List.mem_map.2 ⟨_, Dict.mem_of_get hget, rfl⟩, ?_⟩
      simpa using hdigital
    refine ⟨⟨signal.ioName, signal.direction, signal.state.toBool⟩, ⟨signal, hmem, ?_⟩, hname, hstate⟩
    rw [Signal.toMsg, hdigital]
    rfl

/-- The message of a driver that shows the robot says what the pins say. -/
theorem Robot.Agrees.isOn_toMsg {places : Dict String Place} {d : URIODriver} {r : Robot}
    (h : r.Agrees places d.cache) (hw : Wired places d)
    (hkeys : Dict.keys d.cache = Dict.keys places) (ioName : String) :
    d.snapshot.toMsg.isOn ioName = r.isOn places ioName := by
  have hconsistent : d.Consistent := ⟨hw.keyed, by rw [hkeys]; exact hw.nodup⟩
  rw [Bool.eq_iff_iff, hconsistent.isOn_toMsg, isOn]
  cases hn : Dict.get places ioName with
  | none =>
    rw [hw.cached_none hn]
    simp
  | some place =>
    obtain ⟨signal, hget, hfits⟩ := hw.cached hn
    rw [hget]
    cases place with
    | toolVoltage => simp [hfits.2]
    | pin category pin =>
      have hvalue := h ioName category pin signal hn hget
      have htype := hfits.type
      cases hdigital : category.isDigital with
      | true =>
        rw [hdigital, decide_eq_true_eq] at htype
        simp [hvalue, htype, hdigital]
      | false =>
        rw [hdigital, decide_eq_false_iff_not] at htype
        simp [htype, hdigital]

/-! ### `set_io` and the pins -/

section SetIo

variable {δ : Type} {write : ℕ → SetEntry → δ → δ × Option DriverError}

/-- What every write keeps, the handler keeps. -/
theorem applyEntries_keeps (P : δ → Prop) (signalIndex : Dict String SignalMeta)
    (hwrite : ∀ i e s, P s → P (write i e s).1) (entries : List SetEntry) (i : ℕ) (st : SetIoState δ)
    (h : P st.driver) : P (applyEntries signalIndex write i entries st).driver := by
  induction entries generalizing i st with
  | nil => exact h
  | cons e entries ih =>
    refine ih (i + 1) _ ?_
    by_cases hmeta : Dict.get signalIndex e.ioName = some (e.isDigital, .OUT)
    · rw [applySetEntry_output hmeta]
      split
      · exact hwrite i e _ h
      · exact hwrite i e _ h
    · have hother : ∃ reason, applySetEntry signalIndex (write i) st e =
          recordFailure st e.ioName reason := applySetEntry_other hmeta st
      obtain ⟨reason, hother⟩ := hother
      rw [hother]
      exact h

end SetIo

/-- A request writes no pin of the cache: what is written comes back in a report. -/
theorem GpioController.samePins_onSetIo {places : Dict String Place} {n : GpioController} {d : URIODriver}
    (hd : n.driver = some (.ur d)) (hw : Wired places d) (request : SetIO.Request)
    (fault : ℕ → Option String) : ∃ d', (n.onSetIo request fault).1 = { n with driver := some (.ur d') } ∧
      SamePins places d d' := by
  unfold onSetIo
  rw [hd]
  have hwrite (i : ℕ) (e : SetEntry) (s : IODriver × List Call) :
      (∃ d', s.1 = .ur d' ∧ SamePins places d d') →
      ∃ d', (IODriver.write (fault i) i e s).1.1 = .ur d' ∧ SamePins places d d' := by
    obtain ⟨s, calls⟩ := s
    rintro ⟨d', rfl, hsame⟩
    cases e with
    | digital io => exact ⟨_, rfl, hsame.trans (hsame.wired.samePins_setDigital io.ioName io.state _)⟩
    | analog io => exact ⟨_, rfl, hsame.trans (hsame.wired.samePins_setAnalog io.ioName io.state _)⟩
  obtain ⟨d', hd', hsame⟩ := applyEntries_keeps
    (fun s : IODriver × List Call => ∃ d', s.1 = .ur d' ∧ SamePins places d d') n.signalIndex hwrite
    request.entries 0 { driver := (.ur d, []) } ⟨d, rfl, hw.samePins⟩
  refine ⟨d', ?_, hsame⟩
  dsimp only
  rw [hd']

/-! ### The node on the robot -/

/-- The driver stays, with its cache. An activation has to find its services, as it leaves its
subscription to the reports behind otherwise, and the next one makes a second. -/
def Transition.keepsDriver : Transition → Prop
  | .activate fault => fault = false
  | .deactivate _ => True
  | .configure _ | .cleanup | .shutdown => False

namespace Managed

variable {py : Pydantic} {m m' : Managed}

theorem driver_transition {t : Transition} {ret : TransitionCallbackReturn} {d : URIODriver}
    (hd : m.node.driver = some (.ur d)) (ht : t.keepsDriver)
    (hs : m.transition py t = some (m', ret)) :
    ∃ active, m'.node.driver = some (.ur { d with active }) := by
  cases transition_cases hs with
  | configure | configureFails | cleanup | shutdown => exact ht.elim
  | activate hstate hdriver =>
    obtain rfl := Option.some.inj (hd.symm.trans hdriver)
    exact ⟨true, rfl⟩
  | activateFails hstate hfault =>
    rcases hfault with hfault | hnone
    · exact absurd (ht.symm.trans hfault) Bool.false_ne_true
    · cases hd.symm.trans hnone
  | deactivate => exact ⟨false, by dsimp only; rw [hd]; rfl⟩
  | deactivateFails => exact ⟨d.active, by rw [GpioController.driver_quiesce, hd]⟩

/-- A configuration for the hardware leaves the node with the UR driver of its device block. -/
theorem driver_configure {cfg : GpioController.ConfigureInput} (hreal : cfg.simulated = false)
    (h : ({} : Managed).transition py (.configure cfg) = some (m, .SUCCESS)) :
    ∃ device init, URIODriver.configure py device = .ok init ∧
      m.node.driver = some (.ur { init with callback := true }) := by
  cases transition_cases h with
  | @configure _ config driver hstate hdriver =>
    rw [createDriver, hreal, if_neg Bool.false_ne_true] at hdriver
    split at hdriver
    obtain ⟨init, hinit, rfl⟩ := Fallible.map_ok hdriver
    exact ⟨config.device, init, hinit, GpioController.driver_setUp _ _ _ _⟩

end Managed

end IoControllers
