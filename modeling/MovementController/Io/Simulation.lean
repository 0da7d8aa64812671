import MovementController.Io.Events
import MovementController.Io.Updates
import MovementController.Lib.Mealy

/-!
# The mock simulates the UR driver

The UR driver is connected to an ideal robot, which executes every request at once and then reports
all its pins. The simulation relation says that both drivers have one cache and one list of events,
and that every mapped pin of the robot holds the cached state. A message then brings at most one
change: the one that the mock made at once.
-/

namespace IoControllers

/-! ### The robot -/

structure Robot where
  value : Category → Nat → Value
  toolVoltage : ℚ := 0

namespace Robot

def set (r : Robot) (category : Category) (pin : Nat) (value : Value) : Robot :=
  { r with
    value := fun c p => if c = category ∧ p = pin then category.coerce value else r.value c p }

def execute (r : Robot) : Request → Robot
  | .setIo .FUN_SET_DIGITAL_OUT pin state => r.set .digitalOutStates pin.toNat (.float state)
  | .setIo .FUN_SET_FLAG pin state => r.set .flagStates pin.toNat (.float state)
  | .setIo .FUN_SET_TOOL_VOLTAGE _ state => { r with toolVoltage := state }
  | .setAnalogOutput pin _ state => r.set .analogOutStates pin.toNat (.float state)

def message (r : Robot) (pins : Category → List Nat) : URIOStates :=
  fun category => (pins category).map fun pin => ⟨pin, r.value category pin⟩

/-- The mapped pins hold the defaults of their signals. -/
def AtDefaults (r : Robot) (mapping : URMappingDTO) (signals : List Signal) : Prop :=
  ∀ category, ∀ e ∈ mapping.pins category, ∀ signal ∈ signals, signal.ioName = e.1 →
    r.value category e.2 = signal.default

/-- The mapped pins hold the states of their signals. -/
def Agrees (r : Robot) (places : Dict String Place) (cache : Dict String Signal) : Prop :=
  ∀ ioName category pin signal, Dict.get places ioName = some (.pin category pin) →
    Dict.get cache ioName = some signal → r.value category pin = signal.state

end Robot

/-! ### Both drivers under one stimulus -/

inductive Stimulus where
  | setDigital (ioName : String) (state : Bool)
  | setAnalog (ioName : String) (state : ℚ)
  /-- Something outside changes an input pin. -/
  | inputChange (category : Category) (hin : category.direction = .IN) (pin : Nat) (value : Value)
  | setChangeCallback (registered : Bool)

structure Observation where
  snapshot : IOStatesSnapshot
  fired : List Fired
  rejected : Option ErrorClass
deriving DecidableEq, Repr

namespace MockIODriver

/-- An input change is scripted for the signal of the pin, if there is one. -/
def answer (mapping : URMappingDTO) (d : MockIODriver) : Stimulus → Except DriverError MockIODriver
  | .setDigital ioName state => d.setDigital ioName state
  | .setAnalog ioName state => d.setAnalog ioName state
  | .inputChange category _ pin value =>
    match (mapping.pins category).find? (·.2 = pin) with
    | some e => d.applyMockChange e.1 value
    | none => .ok d
  | .setChangeCallback registered => .ok { d with callback := registered }

def step (mapping : URMappingDTO) (d : MockIODriver) (stimulus : Stimulus) :
    MockIODriver × Observation :=
  match d.answer mapping stimulus with
  | .ok d' => (d', ⟨d'.snapshot, d'.fired, none⟩)
  | .error e => (d, ⟨d.snapshot, d.fired, some e.errorClass⟩)

end MockIODriver

structure Cell where
  driver : URIODriver
  robot : Robot

namespace Cell

def outcome (s : Cell) : Stimulus → Outcome
  | .setDigital ioName state => s.driver.setDigital ioName state none
  | .setAnalog ioName state => s.driver.setAnalog ioName state none
  | .inputChange .. => { driver := s.driver }
  | .setChangeCallback registered => { driver := { s.driver with callback := registered } }

def robotAfter (s : Cell) : Stimulus → Robot
  | .inputChange category _ pin value => s.robot.set category pin value
  | stimulus => (s.outcome stimulus).request.elim s.robot s.robot.execute

/-- The message of the robot comes after the call. -/
def step (pins : Category → List Nat) (s : Cell) (stimulus : Stimulus) : Cell × Observation :=
  let outcome := s.outcome stimulus
  let robot := s.robotAfter stimulus
  let driver := outcome.driver.onIoStates (robot.message pins)
  (⟨driver, robot⟩, ⟨driver.snapshot, driver.fired, outcome.error.map DriverError.errorClass⟩)

theorem robotAfter_setDigital (s : Cell) (ioName : String) (state : Bool) :
    s.robotAfter (.setDigital ioName state) =
      (s.outcome (.setDigital ioName state)).request.elim s.robot s.robot.execute := rfl

theorem robotAfter_setAnalog (s : Cell) (ioName : String) (state : ℚ) :
    s.robotAfter (.setAnalog ioName state) =
      (s.outcome (.setAnalog ioName state)).request.elim s.robot s.robot.execute := rfl

theorem step_fst (pins : Category → List Nat) (s : Cell) (stimulus : Stimulus) :
    (s.step pins stimulus).1 =
      ⟨(s.outcome stimulus).driver.onIoStates ((s.robotAfter stimulus).message pins),
        s.robotAfter stimulus⟩ := rfl

end Cell

/-! ### One cache update -/

theorem Value.toBool_bool (b : Bool) : (Value.bool b).toBool = b := by
  cases b <;> simp [toBool, num]

namespace Category

theorem coerce_coerce (category : Category) (value : Value) :
    category.coerce (category.coerce value) = category.coerce value := by
  unfold coerce
  split
  · rw [Value.toBool_bool]
  · rfl

theorem coerce_state {category : Category} (h : category.isDigital = true) (state : Bool) :
    category.coerce (.float (if state then STATE_ON else STATE_OFF)) = .bool state := by
  unfold coerce
  rw [if_pos h]
  cases state <;> simp [Value.toBool, Value.num, STATE_ON, STATE_OFF]

theorem coerce_eq_of_num_eq (category : Category) {v w : Value} (h : v.num = w.num) :
    category.coerce v = category.coerce w := by
  unfold coerce Value.toBool Value.toFloat
  rw [h]

end Category

namespace URIODriver

variable {d : URIODriver} {ioName : String} {signal : Signal} {value : Value}

/-! The two calls, by the write target of the name. -/

variable {error : DriverError} {kind : WriteKind} {pin : Int} {state : Bool} {q : ℚ}

theorem setDigital_error (h : d.requireWrite ioName = .error error) :
    d.setDigital ioName state none = { driver := d, error := some error } := by
  rw [setDigital, h]

theorem setDigital_digital (h : d.requireWrite ioName = .ok (kind, pin))
    (hk : kind = .digitalOut ∨ kind = .flag) : d.setDigital ioName state none =
      { driver := d
        request := some (.setIo
          (if kind = .digitalOut then .FUN_SET_DIGITAL_OUT else .FUN_SET_FLAG) pin
          (if state then STATE_ON else STATE_OFF)) } := by
  rw [setDigital, h]
  exact if_pos hk

theorem setDigital_other (h : d.requireWrite ioName = .ok (kind, pin))
    (hk : ¬(kind = .digitalOut ∨ kind = .flag)) : d.setDigital ioName state none =
      { driver := d
        error := some (.valueError s!"io_name {pyRepr ioName} is not a digital output") } := by
  rw [setDigital, h]
  exact if_neg hk

theorem setAnalog_error (h : d.requireWrite ioName = .error error) :
    d.setAnalog ioName q none = { driver := d, error := some error } := by
  rw [setAnalog, h]

theorem setAnalog_analogOut (h : d.requireWrite ioName = .ok (.analogOut, pin))
    (hget : Dict.get d.cache ioName = some signal) {domain : IODomainEnum}
    (ht : signal.type = .analog domain) : d.setAnalog ioName q none =
      { driver := d, request := some (.setAnalogOutput pin domain q) } := by
  simp [setAnalog, h, hget, ht, send]

theorem setAnalog_toolVoltage (h : d.requireWrite ioName = .ok (.toolVoltage, pin)) :
    d.setAnalog ioName q none =
      { driver := d.updateCache ioName (.float q)
        request := some (.setIo .FUN_SET_TOOL_VOLTAGE 0 q) } := by
  simp [setAnalog, h, send]

theorem setAnalog_other (h : d.requireWrite ioName = .ok (kind, pin))
    (hk : kind = .digitalOut ∨ kind = .flag) : d.setAnalog ioName q none =
      { driver := d
        error := some (.valueError s!"io_name {pyRepr ioName} is not an analog output") } := by
  rcases hk with rfl | rfl
  · rw [setAnalog, h]
  · rw [setAnalog, h]

end URIODriver

/-- The value is one that a signal at the place can hold. -/
def Place.Holds : Place → Value → Prop
  | pin category _, value => category.coerce value = value
  | toolVoltage, _ => True

theorem Place.Fits.update {place : Place} {signal : Signal} {value : Value} (h : place.Fits signal)
    (hv : place.Holds value) : place.Fits { signal with state := value } := by
  cases place with
  | pin category pin => exact ⟨h.direction, h.type, hv⟩
  | toolVoltage => exact h

namespace Wired

variable {places : Dict String Place} {d : URIODriver} {ioName : String} {place : Place}
  {signal : Signal} {value : Value}

theorem cached (h : Wired places d) (hp : Dict.get places ioName = some place) :
    ∃ signal, Dict.get d.cache ioName = some signal ∧ place.Fits signal := by
  have hrel := h.fits ioName
  rw [hp] at hrel
  cases hs : Dict.get d.cache ioName with
  | none =>
    rw [hs] at hrel
    cases hrel
  | some signal =>
    rw [hs] at hrel
    cases hrel with
    | some hfits => exact ⟨signal, rfl, hfits⟩

theorem cached_none (h : Wired places d) (hp : Dict.get places ioName = none) :
    Dict.get d.cache ioName = none := by
  have hrel := h.fits ioName
  rw [hp] at hrel
  cases hs : Dict.get d.cache ioName with
  | none => rfl
  | some signal =>
    rw [hs] at hrel
    cases hrel

/-- No two signals share a pin. -/
theorem inj (h : Wired places d) {n n' : String} {category : Category} {pin : Nat}
    (hn : Dict.get places n = some (.pin category pin))
    (hn' : Dict.get places n' = some (.pin category pin)) : n = n' :=
  Option.some.inj (((h.read category pin n).2 hn).symm.trans ((h.read category pin n').2 hn'))

theorem updateCache (h : Wired places d) (hp : Dict.get places ioName = some place)
    (hv : place.Holds value) : Wired places (d.updateCache ioName value) := by
  obtain ⟨signal, hget, hfits⟩ := h.cached hp
  obtain ⟨state, -, hstate, hself⟩ := URIODriver.get_updateCache_self hget value
  refine ⟨h.nodup, fun n s hs => ?_, fun n => ?_, ?_, ?_⟩
  · by_cases hn : n = ioName
    · rw [hn, hself] at hs
      rw [hn, ← Option.some.inj hs]
      exact h.keyed ioName signal hget
    · rw [URIODriver.get_updateCache_of_ne hn] at hs
      exact h.keyed n s hs
  · by_cases hn : n = ioName
    · rw [hn, hself, hp]
      rcases hstate with hstate | hstate
      · rw [hstate]
        exact .some hfits
      · rw [hstate]
        exact .some (hfits.update hv)
    · rw [URIODriver.get_updateCache_of_ne hn]
      exact h.fits n
  · rw [URIODriver.updateCache_writeIndex]
    exact h.write
  · rw [URIODriver.updateCache_readIndex]
    exact h.read

end Wired

/-! ### One message -/

namespace URIODriver

theorem mem_updates {d : URIODriver} {r : Robot} {pins : Category → List Nat} {e : String × Value} :
    e ∈ d.updates (r.message pins) ↔ ∃ category pin, pin ∈ pins category ∧
      Dict.get (d.readIndex category) pin = some e.1 ∧
      e.2 = category.coerce (r.value category pin) := by
  unfold updates categoryUpdates Robot.message
  rw [List.mem_flatMap]
  constructor
  · rintro ⟨category, -, he⟩
    obtain ⟨entry, hentry, hsome⟩ := List.mem_filterMap.1 he
    obtain ⟨pin, hpin, rfl⟩ := List.mem_map.1 hentry
    obtain ⟨n, hn, rfl⟩ := Option.map_eq_some_iff.1 hsome
    exact ⟨category, pin, hpin, hn, rfl⟩
  · rintro ⟨category, pin, hpin, hn, he⟩
    refine ⟨category, category.mem_all, List.mem_filterMap.2 ⟨_, List.mem_map_of_mem hpin, ?_⟩⟩
    rw [hn, Option.map_some, ← he]

/-- The cache already holds the value. -/
def Idle (d : URIODriver) (e : String × Value) : Prop :=
  ∃ signal, Dict.get d.cache e.1 = some signal ∧ signal.state.num = e.2.num

theorem foldl_update_idle {l : List (String × Value)} {d : URIODriver} (h : ∀ e ∈ l, d.Idle e) :
    l.foldl update d = d := by
  induction l with
  | nil => rfl
  | cons e l ih =>
    obtain ⟨signal, hget, hnum⟩ := h e List.mem_cons_self
    rw [List.foldl_cons, update, updateCache_of_num_eq hget hnum]
    exact ih fun e' he' => h e' (List.mem_cons_of_mem e he')

/-- Updates that are all idle but for those of one signal amount to one update of that signal. -/
theorem foldl_update_one {l : List (String × Value)} {d : URIODriver} {e : String × Value}
    (he : e ∈ l) (hget : (Dict.get d.cache e.1).isSome)
    (h : ∀ e' ∈ l, e' = e ∨ e'.1 ≠ e.1 ∧ d.Idle e') : l.foldl update d = d.update e := by
  induction l with
  | nil => cases he
  | cons e₁ l ih =>
    rw [List.foldl_cons]
    have htail (e' : String × Value) (he' : e' ∈ l) := h e' (List.mem_cons_of_mem e₁ he')
    rcases h e₁ List.mem_cons_self with heq | ⟨hne, signal, hs, hnum⟩
    · rw [heq]
      refine foldl_update_idle fun e' he' => ?_
      rcases htail e' he' with heq' | ⟨hne', hidle⟩
      · rw [heq']
        obtain ⟨signal, hsignal⟩ := Option.isSome_iff_exists.1 hget
        obtain ⟨state, hnum, -, hself⟩ := get_updateCache_self hsignal e.2
        exact ⟨_, hself, hnum⟩
      · unfold Idle update
        rw [get_updateCache_of_ne hne']
        exact hidle
    · have hmem : e ∈ l := by
        rcases List.mem_cons.1 he with he | he
        · exact absurd (congrArg Prod.fst he).symm hne
        · exact he
      rw [update, updateCache_of_num_eq hs hnum]
      exact ih hmem htail

end URIODriver

section Deliver

variable {places : Dict String Place} {d : URIODriver} {r : Robot}

theorem Robot.Agrees.idle (hr : r.Agrees places d.cache) (hw : Wired places d) {n : String}
    {category : Category} {pin : Nat} (hn : Dict.get places n = some (.pin category pin)) :
    d.Idle (n, category.coerce (r.value category pin)) := by
  obtain ⟨signal, hget, hfits⟩ := hw.cached hn
  refine ⟨signal, hget, ?_⟩
  rw [hr n category pin signal hn hget, hfits.state]

theorem deliver_idle (hw : Wired places d) (hr : r.Agrees places d.cache)
    (pins : Category → List Nat) : d.onIoStates (r.message pins) = d := by
  rw [URIODriver.onIoStates_eq]
  refine URIODriver.foldl_update_idle fun e he => ?_
  obtain ⟨category, pin, -, hn, hv⟩ := URIODriver.mem_updates.1 he
  have hidle := hr.idle hw ((hw.read category pin e.1).1 hn)
  rw [← hv] at hidle
  exact hidle

variable {n : String} {category : Category} {pin : Nat}

@[simp] theorem Robot.set_value_self (value : Value) :
    (r.set category pin value).value category pin = category.coerce value := by
  simp [Robot.set]

theorem Robot.set_value_of_ne {category' : Category} {pin' : Nat}
    (h : Place.pin category' pin' ≠ .pin category pin) (value : Value) :
    (r.set category pin value).value category' pin' = r.value category' pin' := by
  unfold Robot.set
  refine if_neg ?_
  rintro ⟨rfl, rfl⟩
  exact h rfl

theorem deliver_one (hw : Wired places d) (hr : r.Agrees places d.cache)
    {pins : Category → List Nat} (hn : Dict.get places n = some (.pin category pin))
    (hpin : pin ∈ pins category) (value : Value) :
    d.onIoStates ((r.set category pin value).message pins) =
      d.updateCache n (category.coerce value) := by
  obtain ⟨signal, hget, -⟩ := hw.cached hn
  rw [URIODriver.onIoStates_eq]
  refine URIODriver.foldl_update_one (e := (n, category.coerce value)) ?_ ?_ fun e he => ?_
  · refine URIODriver.mem_updates.2 ⟨category, pin, hpin, (hw.read category pin n).2 hn, ?_⟩
    rw [Robot.set_value_self, category.coerce_coerce]
  · rw [hget]
    rfl
  · obtain ⟨category', pin', -, hn', hv⟩ := URIODriver.mem_updates.1 he
    have hplace := (hw.read category' pin' e.1).1 hn'
    by_cases hsame : Place.pin category' pin' = .pin category pin
    · obtain ⟨rfl, rfl⟩ := Place.pin.inj hsame
      refine .inl (Prod.ext (hw.inj hplace hn) ?_)
      rw [hv, Robot.set_value_self, category'.coerce_coerce]
    · refine .inr ⟨fun heq => hsame ?_, ?_⟩
      · rw [heq] at hplace
        exact Option.some.inj (hplace.symm.trans hn)
      · have hidle := hr.idle hw hplace
        rw [← Robot.set_value_of_ne hsame value, ← hv] at hidle
        exact hidle

theorem Robot.Agrees.set (hr : r.Agrees places d.cache) (hw : Wired places d)
    (hn : Dict.get places n = some (.pin category pin)) (value : Value) :
    (r.set category pin value).Agrees places (d.updateCache n (category.coerce value)).cache := by
  intro n' category' pin' signal' hn' hget'
  by_cases hsame : Place.pin category' pin' = .pin category pin
  · obtain ⟨rfl, rfl⟩ := Place.pin.inj hsame
    obtain ⟨signal, hget, hfits⟩ := hw.cached hn
    obtain ⟨state, hnum, hstate, hself⟩ :=
      URIODriver.get_updateCache_self hget (category'.coerce value)
    rw [hw.inj hn' hn, hself] at hget'
    rw [Robot.set_value_self, ← Option.some.inj hget']
    rcases hstate with hstate | hstate
    · have heq := category'.coerce_eq_of_num_eq hnum
      rw [hstate, hfits.state, category'.coerce_coerce] at heq
      rw [hstate, heq]
    · exact hstate.symm
  · have hne : n' ≠ n := by
      rintro rfl
      exact hsame (Option.some.inj (hn'.symm.trans hn))
    rw [URIODriver.get_updateCache_of_ne hne] at hget'
    rw [Robot.set_value_of_ne hsame]
    exact hr n' category' pin' signal' hn' hget'

end Deliver

/-! ### One step -/

/-- One cache, one list of events, and a robot that holds the cached states. -/
structure Related (places : Dict String Place) (m : MockIODriver) (s : Cell) : Prop where
  wired : Wired places s.driver
  active : s.driver.active = true
  same : s.driver.toDriver = m.toDriver
  robot : s.robot.Agrees places s.driver.cache

/-- Both drivers accept the stimulus or reject it with the same error class. -/
inductive Answered (mapping : URMappingDTO) (pins : Category → List Nat) (m : MockIODriver) (s : Cell)
    (stimulus : Stimulus) : Prop
  | accepted (m' : MockIODriver) (hm : m.answer mapping stimulus = .ok m')
      (hs : (s.outcome stimulus).error = none)
      (h : Related mapping.places m' (s.step pins stimulus).1) : Answered mapping pins m s stimulus
  | rejected (e e' : DriverError) (hm : m.answer mapping stimulus = .error e)
      (hs : (s.outcome stimulus).error = some e') (heq : e.errorClass = e'.errorClass)
      (h : Related mapping.places m (s.step pins stimulus).1) : Answered mapping pins m s stimulus

namespace Related

variable {places : Dict String Place} {m : MockIODriver} {s : Cell} {n : String} {place : Place}
  {signal : Signal}

theorem cache_eq (h : Related places m s) : m.cache = s.driver.cache :=
  (congrArg Driver.cache h.same).symm

/-- The mock's `_apply` is the UR driver's `_update_cache`. -/
theorem apply (h : Related places m s) (hget : Dict.get s.driver.cache n = some signal)
    (value : Value) : (s.driver.updateCache n value).toDriver = (m.apply signal value).toDriver := by
  have hname := h.wired.keyed n signal hget
  unfold MockIODriver.apply
  by_cases hnum : signal.state.num = value.num
  · rw [URIODriver.updateCache_of_num_eq hget hnum, if_pos hnum]
    exact h.same
  · rw [URIODriver.updateCache_of_ne hget hnum, if_neg hnum, hname, ← h.same]

theorem idle (h : Related places m s) (pins : Category → List Nat) :
    Related places m ⟨s.driver.onIoStates (s.robot.message pins), s.robot⟩ := by
  rw [deliver_idle h.wired h.robot]
  exact h

theorem write (h : Related places m s) {category : Category} {pin : Nat}
    {pins : Category → List Nat} (hpin : pin ∈ pins category)
    (hn : Dict.get places n = some (.pin category pin))
    (hget : Dict.get s.driver.cache n = some signal) (value : Value) :
    Related places (m.apply signal (category.coerce value))
      ⟨s.driver.onIoStates ((s.robot.set category pin value).message pins),
        s.robot.set category pin value⟩ := by
  rw [deliver_one h.wired h.robot hn hpin]
  refine ⟨h.wired.updateCache hn (category.coerce_coerce value), ?_, h.apply hget _,
    h.robot.set h.wired hn value⟩
  rw [URIODriver.updateCache_active]
  exact h.active

/-- The tool voltage has no pin, so the driver writes it itself. -/
theorem writeToolVoltage (h : Related places m s) (hn : Dict.get places n = some .toolVoltage)
    (hget : Dict.get s.driver.cache n = some signal) (value : Value) (robot : Robot)
    (hrobot : robot.value = s.robot.value) :
    Related places (m.apply signal value) ⟨s.driver.updateCache n value, robot⟩ := by
  refine ⟨h.wired.updateCache hn trivial, ?_, h.apply hget _, fun n' category pin s' hn' hs' => ?_⟩
  · rw [URIODriver.updateCache_active]
    exact h.active
  · have hne : n' ≠ n := by
      rintro rfl
      cases hn'.symm.trans hn
    rw [URIODriver.get_updateCache_of_ne hne] at hs'
    rw [hrobot]
    exact h.robot n' category pin s' hn' hs'

theorem requireWrite (h : Related places m s) (n : String) : s.driver.requireWrite n =
    match Dict.get places n with
    | none => .error (.unknownName n)
    | some place => place.target.elim (.error (.inputName n)) .ok := by
  unfold URIODriver.requireWrite
  rw [h.active, h.wired.write n]
  cases hn : Dict.get places n with
  | none => simp [h.wired.cached_none hn]
  | some place =>
    obtain ⟨signal, hget, -⟩ := h.wired.cached hn
    cases ht : place.target with
    | none => simp [ht, hget]
    | some target => simp [ht]

theorem requireOutput_none (h : Related places m s) (hn : Dict.get places n = none) (digital : Bool) :
    m.requireOutput n digital = .error (.unknownName n) := by
  unfold MockIODriver.requireOutput
  rw [h.cache_eq, h.wired.cached_none hn]

theorem requireOutput_pin (h : Related places m s) {category : Category}
    (hget : Dict.get s.driver.cache n = some signal) (hfits : category.Fits signal) (digital : Bool) :
    m.requireOutput n digital =
      if category.direction ≠ .OUT then .error (.inputName n)
      else if category.isDigital ≠ digital then
        .error (.notSignal n (if digital then "digital" else "analog"))
      else .ok signal := by
  unfold MockIODriver.requireOutput
  rw [h.cache_eq, hget, ← hfits.direction, ← hfits.type]

variable {mapping : URMappingDTO} {pins : Category → List Nat} {stimulus : Stimulus}

theorem reject (h : Related mapping.places m s) {e e' : DriverError}
    (hm : m.answer mapping stimulus = .error e)
    (hs : s.outcome stimulus = { driver := s.driver, error := some e' })
    (hrobot : s.robotAfter stimulus = s.robot) (heq : e.errorClass = e'.errorClass) :
    Answered mapping pins m s stimulus := by
  refine .rejected e e' hm (congrArg Outcome.error hs) heq ?_
  rw [Cell.step_fst, hs, hrobot]
  exact h.idle pins

/-- Both drivers accept the stimulus, which changes one pin of the robot. -/
theorem accept (h : Related mapping.places m s)
    (hpins : ∀ category, ∀ e ∈ mapping.pins category, e.2 ∈ pins category)
    {category : Category} {pin : Nat} {value : Value}
    (hn : Dict.get mapping.places n = some (.pin category pin))
    (hget : Dict.get s.driver.cache n = some signal)
    (hm : m.answer mapping stimulus = .ok (m.apply signal (category.coerce value)))
    (hdriver : (s.outcome stimulus).driver = s.driver) (herror : (s.outcome stimulus).error = none)
    (hrobot : s.robotAfter stimulus = s.robot.set category pin value) :
    Answered mapping pins m s stimulus := by
  have hpin := hpins category _ (URMappingDTO.mem_places.1 (Dict.mem_of_get hn))
  refine .accepted _ hm herror ?_
  rw [Cell.step_fst, hdriver, hrobot]
  exact h.write hpin hn hget value

theorem requireOutput_toolVoltage (h : Related places m s)
    (hget : Dict.get s.driver.cache n = some signal) (hfits : Place.toolVoltage.Fits signal)
    (digital : Bool) :
    m.requireOutput n digital =
      if digital then .error (.notSignal n "digital") else .ok signal := by
  unfold MockIODriver.requireOutput
  rw [h.cache_eq, hget]
  cases digital <;> simp [hfits.1, hfits.2]

theorem setDigital (h : Related mapping.places m s)
    (hpins : ∀ category, ∀ e ∈ mapping.pins category, e.2 ∈ pins category) (n : String)
    (state : Bool) : Answered mapping pins m s (.setDigital n state) := by
  have hreject {e e' : DriverError} (hm : m.requireOutput n true = .error e)
      (hs : s.driver.setDigital n state none = { driver := s.driver, error := some e' })
      (heq : e.errorClass = e'.errorClass) : Answered mapping pins m s (.setDigital n state) := by
    refine h.reject (e := e) ?_ hs ?_ heq
    · rw [MockIODriver.answer, MockIODriver.setDigital, hm]
      rfl
    · rw [Cell.robotAfter_setDigital, Cell.outcome, hs]
      rfl
  have hwrite := h.requireWrite n
  cases hn : Dict.get mapping.places n with
  | none =>
    rw [hn] at hwrite
    exact hreject (h.requireOutput_none hn true) (URIODriver.setDigital_error hwrite) rfl
  | some place =>
    rw [hn] at hwrite
    obtain ⟨signal, hget, hfits⟩ := h.wired.cached hn
    cases place with
    | toolVoltage =>
      have hkind : ¬(WriteKind.toolVoltage = .digitalOut ∨ WriteKind.toolVoltage = .flag) := by decide
      exact hreject (h.requireOutput_toolVoltage hget hfits true)
        (URIODriver.setDigital_other hwrite hkind) rfl
    | pin category pin =>
      have haccept {request : Request} (hm : m.requireOutput n true = .ok signal)
          (hdigital : category.isDigital = true)
          (hs : s.driver.setDigital n state none = { driver := s.driver, request := some request })
          (hrequest : s.robot.execute request =
            s.robot.set category pin (.float (if state then STATE_ON else STATE_OFF))) :
          Answered mapping pins m s (.setDigital n state) := by
        refine h.accept hpins hn hget ?_ (congrArg Outcome.driver hs) (congrArg Outcome.error hs)
          ((?_ : _ = s.robot.execute request).trans hrequest)
        · rw [MockIODriver.answer, MockIODriver.setDigital, hm, Category.coerce_state hdigital]
          rfl
        · rw [Cell.robotAfter_setDigital, Cell.outcome, hs]
          rfl
      have hm := h.requireOutput_pin hget hfits true
      cases category with
      | digitalInStates => exact hreject hm (URIODriver.setDigital_error hwrite) rfl
      | digitalOutStates =>
        exact haccept hm rfl (URIODriver.setDigital_digital hwrite (.inl rfl)) rfl
      | flagStates => exact haccept hm rfl (URIODriver.setDigital_digital hwrite (.inr rfl)) rfl
      | analogInStates => exact hreject hm (URIODriver.setDigital_error hwrite) rfl
      | analogOutStates =>
        have hkind : ¬(WriteKind.analogOut = .digitalOut ∨ WriteKind.analogOut = .flag) := by decide
        exact hreject hm (URIODriver.setDigital_other hwrite hkind) rfl

theorem setAnalog (h : Related mapping.places m s)
    (hpins : ∀ category, ∀ e ∈ mapping.pins category, e.2 ∈ pins category) (n : String) (state : ℚ) :
    Answered mapping pins m s (.setAnalog n state) := by
  have hreject {e e' : DriverError} (hm : m.requireOutput n false = .error e)
      (hs : s.driver.setAnalog n state none = { driver := s.driver, error := some e' })
      (heq : e.errorClass = e'.errorClass) : Answered mapping pins m s (.setAnalog n state) := by
    refine h.reject (e := e) ?_ hs ?_ heq
    · rw [MockIODriver.answer, MockIODriver.setAnalog, hm]
      rfl
    · rw [Cell.robotAfter_setAnalog, Cell.outcome, hs]
      rfl
  have hanswer {signal : Signal} (hm : m.requireOutput n false = .ok signal) :
      m.answer mapping (.setAnalog n state) = .ok (m.apply signal (.float state)) := by
    rw [MockIODriver.answer, MockIODriver.setAnalog, hm]
    rfl
  have hwrite := h.requireWrite n
  cases hn : Dict.get mapping.places n with
  | none =>
    rw [hn] at hwrite
    exact hreject (h.requireOutput_none hn false) (URIODriver.setAnalog_error hwrite) rfl
  | some place =>
    rw [hn] at hwrite
    obtain ⟨signal, hget, hfits⟩ := h.wired.cached hn
    cases place with
    | toolVoltage =>
      -- no pin reads the tool voltage back, so the message brings nothing
      have hs := URIODriver.setAnalog_toolVoltage (q := state) hwrite
      have hm := hanswer (h.requireOutput_toolVoltage hget hfits false)
      refine .accepted _ hm (congrArg Outcome.error hs) ?_
      rw [Cell.step_fst, Cell.robotAfter_setAnalog, Cell.outcome, hs]
      exact (h.writeToolVoltage hn hget (.float state)
        (s.robot.execute (.setIo .FUN_SET_TOOL_VOLTAGE 0 state)) rfl).idle pins
    | pin category pin =>
      have hm := h.requireOutput_pin hget hfits false
      cases category with
      | digitalInStates => exact hreject hm (URIODriver.setAnalog_error hwrite) rfl
      | digitalOutStates => exact hreject hm (URIODriver.setAnalog_other hwrite (.inl rfl)) rfl
      | flagStates => exact hreject hm (URIODriver.setAnalog_other hwrite (.inr rfl)) rfl
      | analogInStates => exact hreject hm (URIODriver.setAnalog_error hwrite) rfl
      | analogOutStates =>
        have htype : signal.type ≠ .digital := of_decide_eq_false hfits.type
        cases ht : signal.type with
        | digital => exact absurd ht htype
        | analog domain =>
          have hs := URIODriver.setAnalog_analogOut (q := state) hwrite hget ht
          have hm' : m.answer mapping (.setAnalog n state) =
              .ok (m.apply signal (Category.analogOutStates.coerce (.float state))) := hanswer hm
          refine h.accept hpins hn hget hm' (congrArg Outcome.driver hs) (congrArg Outcome.error hs) ?_
          rw [Cell.robotAfter_setAnalog, Cell.outcome, hs]
          rfl

theorem inputChange (h : Related mapping.places m s)
    (hpins : ∀ category, ∀ e ∈ mapping.pins category, e.2 ∈ pins category) {category : Category}
    (hin : category.direction = .IN) (pin : Nat) (value : Value) :
    Answered mapping pins m s (.inputChange category hin pin value) := by
  cases he : (mapping.pins category).find? (·.2 = pin) with
  | none =>
    -- nothing is mapped to the pin
    have hm : m.answer mapping (.inputChange category hin pin value) = .ok m := by
      rw [MockIODriver.answer, he]
    have hr : (s.robot.set category pin value).Agrees mapping.places s.driver.cache := by
      intro n category' pin' signal hn hget
      have hne : Place.pin category' pin' ≠ .pin category pin := by
        intro heq
        rw [heq] at hn
        have hmem := URMappingDTO.mem_places.1 (Dict.mem_of_get hn)
        exact List.find?_eq_none.1 he _ hmem (decide_eq_true rfl)
      rw [Robot.set_value_of_ne hne]
      exact h.robot n category' pin' signal hn hget
    exact .accepted m hm rfl (Related.idle (s := ⟨s.driver, s.robot.set category pin value⟩)
      ⟨h.wired, h.active, h.same, hr⟩ pins)
  | some e =>
    have hmem := List.mem_of_find?_eq_some he
    have hpin : e.2 = pin := by simpa using List.find?_some he
    rw [← hpin] at he ⊢
    have hn := Dict.get_of_mem h.wired.nodup (URMappingDTO.mem_places.2 hmem)
    obtain ⟨signal, hget, hfits⟩ := h.wired.cached hn
    refine h.accept hpins hn hget ?_ rfl rfl rfl
    rw [MockIODriver.answer, he]
    have hdir : ¬signal.direction ≠ .IN := by
      rw [hfits.direction, hin]
      exact not_not.2 rfl
    have hcoerce : (if signal.type = .digital then .bool value.toBool else .float value.toFloat) =
        category.coerce value := by
      unfold Category.coerce
      rw [← hfits.type]
      simp
    change m.applyMockChange e.1 value = _
    unfold MockIODriver.applyMockChange
    simp only [h.cache_eq, hget, if_neg hdir, hcoerce]

theorem setChangeCallback (h : Related mapping.places m s) (registered : Bool) :
    Answered mapping pins m s (.setChangeCallback registered) := by
  refine .accepted { m with callback := registered } rfl rfl
    (Related.idle (s := ⟨{ s.driver with callback := registered }, s.robot⟩)
      ⟨⟨h.wired.nodup, h.wired.keyed, h.wired.fits, h.wired.write, h.wired.read⟩, h.active, ?_,
        h.robot⟩ pins)
  change { s.driver.toDriver with callback := registered } =
    { m.toDriver with callback := registered }
  rw [h.same]

theorem answered (h : Related mapping.places m s)
    (hpins : ∀ category, ∀ e ∈ mapping.pins category, e.2 ∈ pins category) (stimulus : Stimulus) :
    Answered mapping pins m s stimulus := by
  cases stimulus with
  | setDigital n state => exact h.setDigital hpins n state
  | setAnalog n state => exact h.setAnalog hpins n state
  | inputChange category hin pin value => exact h.inputChange hpins hin pin value
  | setChangeCallback registered => exact h.setChangeCallback registered

end Related

theorem simulation {mapping : URMappingDTO} {pins : Category → List Nat}
    (hpins : ∀ category, ∀ e ∈ mapping.pins category, e.2 ∈ pins category) :
    Mealy.Simulation (MockIODriver.step mapping) (Cell.step pins) (Related mapping.places) where
  next := by
    intro m s h stimulus
    unfold MockIODriver.step
    cases h.answered hpins stimulus with
    | accepted m' hm hs h' =>
      rw [hm]
      exact h'
    | rejected e e' hm hs heq h' =>
      rw [hm]
      exact h'
  output := by
    intro m s h stimulus
    unfold MockIODriver.step Cell.step
    cases h.answered hpins stimulus with
    | accepted m' hm hs h' =>
      have hsame : ((s.outcome stimulus).driver.onIoStates
        ((s.robotAfter stimulus).message pins)).toDriver = m'.toDriver := h'.same
      simp only [hm, hs, hsame, Option.map_none]
    | rejected e e' hm hs heq h' =>
      have hsame : ((s.outcome stimulus).driver.onIoStates
        ((s.robotAfter stimulus).message pins)).toDriver = m.toDriver := h'.same
      simp only [hm, hs, hsame, heq, Option.map_some]

/-! ### Whole runs -/

theorem Related.initial {py : Pydantic} (hstr : ∀ s, py.parseStr (.str s) = some s)
    {device : List (Yaml × Yaml)} {init : URIODriver} (h : URIODriver.configure py device = .ok init)
    {robot : Robot} (hrobot : robot.AtDefaults init.device.mapping (Dict.values init.cache))
    {mock : MockIODriver} (hmock : init.toDriver = mock.toDriver) (registered : Bool) :
    Related init.device.mapping.places { mock with callback := registered }
      ⟨{ init with callback := registered, active := true }, robot⟩ := by
  have hw := wired_configure hstr h
  refine ⟨⟨hw.nodup, hw.keyed, hw.fits, hw.write, hw.read⟩, rfl, ?_, ?_⟩
  · change { init.toDriver with callback := registered } =
      { mock.toDriver with callback := registered }
    rw [hmock]
  · intro n category pin signal hn hget
    have hmem : signal ∈ Dict.values init.cache :=
      List.mem_map.2 ⟨_, Dict.mem_of_get hget, rfl⟩
    have hname := hw.keyed n signal hget
    have hpin := URMappingDTO.mem_places.1 (Dict.mem_of_get hn)
    rw [hrobot category _ hpin signal hmem hname, seeded_configure hstr h signal hmem]

namespace MockIODriver

variable {m : MockIODriver} {e : DriverError}

theorem requireOutput_error {n : String} {digital : Bool} (h : m.requireOutput n digital = .error e) :
    e.errorClass = .KeyError ∨ e.errorClass = .ValueError := by
  unfold requireOutput at h
  split at h
  · rw [← Except.error.inj h]
    exact .inl rfl
  · split_ifs at h
    all_goals
      rw [← Except.error.inj h]
      exact .inr rfl

theorem applyMockChange_error {n : String} {value : Value} (h : m.applyMockChange n value = .error e) :
    e.errorClass = .KeyError ∨ e.errorClass = .ValueError := by
  unfold applyMockChange at h
  split at h
  · rw [← Except.error.inj h]
    exact .inl rfl
  · split_ifs at h
    all_goals
      rw [← Except.error.inj h]
      exact .inr rfl

theorem answer_error {mapping : URMappingDTO} {stimulus : Stimulus}
    (h : m.answer mapping stimulus = .error e) :
    e.errorClass = .KeyError ∨ e.errorClass = .ValueError := by
  cases stimulus with
  | setDigital n state =>
    exact requireOutput_error (Fallible.map_error h)
  | setAnalog n state =>
    exact requireOutput_error (Fallible.map_error h)
  | inputChange category hin pin value =>
    rw [answer] at h
    split at h
    · exact applyMockChange_error h
    · cases h
  | setChangeCallback registered => cases h

theorem step_rejected (mapping : URMappingDTO) (m : MockIODriver) (stimulus : Stimulus)
    (c : ErrorClass) (h : (m.step mapping stimulus).2.rejected = some c) :
    c = .KeyError ∨ c = .ValueError := by
  unfold step at h
  cases ha : m.answer mapping stimulus with
  | ok m' =>
    rw [ha] at h
    cases h
  | error e =>
    rw [ha] at h
    exact Option.some.inj h ▸ answer_error ha

end MockIODriver

/-- The mock cannot be told apart from the UR driver with an ideal robot. The change callback is one that
returns: it neither raises nor calls the driver back, as that of the node. -/
theorem mock_simulates_ur {py : Pydantic} (hstr : ∀ s, py.parseStr (.str s) = some s)
    {device : List (Yaml × Yaml)} {init : URIODriver}
    (hinit : URIODriver.configure py device = .ok init) {pins : Category → List Nat}
    (hpins : ∀ category, ∀ e ∈ init.device.mapping.pins category, e.2 ∈ pins category)
    {robot : Robot} (hrobot : robot.AtDefaults init.device.mapping (Dict.values init.cache))
    (registered : Bool) (stimuli : List Stimulus) :
    ∃ mock, MockIODriver.configure .UR device = .ok mock ∧ mock.snapshot = init.snapshot ∧
      let observations := Mealy.outputs (MockIODriver.step init.device.mapping)
        { mock with callback := registered } stimuli
      observations = Mealy.outputs (Cell.step pins)
        ⟨{ init with callback := registered, active := true }, robot⟩ stimuli ∧
      ∀ o ∈ observations, ∀ c, o.rejected = some c → c = .KeyError ∨ c = .ValueError := by
  obtain ⟨signals, -, hsignals, hn, hd, -⟩ := URIODriver.configure_ok hinit
  have hmock := MockIODriver.configure_of_nodup hsignals hn
  refine ⟨_, hmock, congrArg Driver.snapshot hd.symm, ?_, ?_⟩
  · exact (simulation hpins).outputs_eq (.initial hstr hinit hrobot hd registered) stimuli
  · exact Mealy.outputs_forall (fun m stimulus => m.step_rejected _ stimulus) _ stimuli

/-- Valid and invalid writes of every kind, and changes of a mapped and of an unmapped input. -/
def sampleStimuli : List Stimulus := [
  .setDigital "gripper" true, .setDigital "busy" true, .setAnalog "speed" 2, .setAnalog "tool" 24,
  .inputChange .digitalInStates rfl 0 (.bool true), .inputChange .analogInStates rfl 1 (.float 3),
  .setDigital "part_present" false, .setDigital "speed" true, .setAnalog "lamp" 1]

theorem mock_simulates_ur_sampleDevice :
    ∃ init, URIODriver.configure .strict sampleDevice = .ok init ∧
      ∃ mock, MockIODriver.configure .UR sampleDevice = .ok mock ∧ mock.snapshot = init.snapshot ∧
        let observations := Mealy.outputs (MockIODriver.step init.device.mapping)
          { mock with callback := true } sampleStimuli
        let robot : Robot :=
          { value := fun category _ => if category.isDigital then .bool false else .float 0 }
        observations = Mealy.outputs (Cell.step fun _ => [0, 1])
          ⟨{ init with callback := true, active := true }, robot⟩ sampleStimuli ∧
        ∀ o ∈ observations, ∀ c, o.rejected = some c → c = .KeyError ∨ c = .ValueError := by
  have hstr : ∀ s, Pydantic.strict.parseStr (.str s) = some s := fun _ => rfl
  refine ⟨_, rfl, mock_simulates_ur hstr rfl ?_ ?_ true sampleStimuli⟩
  · intro category
    cases category <;> decide
  · intro category
    cases category <;> decide

end IoControllers
