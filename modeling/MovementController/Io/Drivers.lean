import MovementController.Io.Config

/-!
# `MockIODriver` and `URIODriver`

Both drivers keep their signals in a cache and call the change callback when a state changes. The
mock writes its cache at once; the UR driver sends a request and waits for the state to come back in
an `io_states` message.
-/

namespace IoControllers

/-! ### What the drivers share -/

/-- A call of the change callback, and the cache at that moment. -/
structure Fired where
  ioName : String
  signal : Signal
  cache : Dict String Signal
deriving DecidableEq, Repr

/-- `callback` says whether one is registered; it enqueues and returns, and neither raises nor calls the
driver. `fired` are its calls so far. -/
structure Driver where
  cache : Dict String Signal := []
  callback : Bool := false
  fired : List Fired := []
deriving DecidableEq, Repr

structure IOStatesSnapshot where
  digital : List Signal
  analog : List Signal
deriving DecidableEq, Repr

namespace Driver

/-- The new value goes into the cache and to the callback. -/
def store (d : Driver) (ioName : String) (updated : Signal) : Driver :=
  let cache := Dict.set d.cache ioName updated
  { d with
    cache := cache
    fired := if d.callback then d.fired ++ [⟨ioName, updated, cache⟩] else d.fired }

def snapshot (d : Driver) : IOStatesSnapshot where
  digital := (Dict.values d.cache).filter (·.type = .digital)
  analog := (Dict.values d.cache).filter (·.type ≠ .digital)

/-- Every cached signal is there under its own name. -/
def Keyed (d : Driver) : Prop :=
  ∀ ioName signal, Dict.get d.cache ioName = some signal → signal.ioName = ioName

theorem Keyed.of_signals {d : Driver} {signals : List Signal}
    (h : d.cache = signals.map fun signal => (signal.ioName, signal)) : d.Keyed := by
  intro ioName signal hget
  rw [h] at hget
  obtain ⟨s, -, hs⟩ := List.mem_map.1 (Dict.mem_of_get hget)
  cases hs
  rfl

theorem Keyed.store {d : Driver} (h : d.Keyed) {ioName : String} {updated : Signal}
    (hname : updated.ioName = ioName) : (d.store ioName updated).Keyed := by
  intro n signal hget
  change Dict.get (Dict.set d.cache ioName updated) n = some signal at hget
  by_cases hn : n = ioName
  · rw [hn, Dict.get_set_self] at hget
    rw [← Option.some.inj hget, hname, hn]
  · rw [Dict.get_set_of_ne hn] at hget
    exact h n signal hget

/-- Every signal is in the cache once and under its name. -/
structure Consistent (d : Driver) : Prop where
  keyed : d.Keyed
  nodup : (Dict.keys d.cache).Nodup

/-- Every cached state is of the type of its signal. -/
def Typed (d : Driver) : Prop :=
  ∀ ioName signal, Dict.get d.cache ioName = some signal → signal.Typed

theorem Typed.of_signals {d : Driver} {signals : List Signal}
    (htyped : ∀ signal ∈ signals, signal.Typed)
    (h : d.cache = signals.map fun signal => (signal.ioName, signal)) : d.Typed := by
  intro ioName signal hget
  rw [h] at hget
  obtain ⟨s, hs, heq⟩ := List.mem_map.1 (Dict.mem_of_get hget)
  have hsignal : s = signal := congrArg Prod.snd heq
  exact htyped signal (hsignal ▸ hs)

theorem Typed.store {d : Driver} (h : d.Typed) {ioName : String} {updated : Signal}
    (htyped : updated.Typed) : (d.store ioName updated).Typed := by
  intro n signal hget
  change Dict.get (Dict.set d.cache ioName updated) n = some signal at hget
  by_cases hn : n = ioName
  · rw [hn, Dict.get_set_self] at hget
    rw [← Option.some.inj hget]
    exact htyped
  · rw [Dict.get_set_of_ne hn] at hget
    exact h n signal hget

end Driver

def IOStatesSnapshot.signal? (snapshot : IOStatesSnapshot) (ioName : String) : Option Signal :=
  (snapshot.digital ++ snapshot.analog).find? (·.ioName = ioName)

namespace Driver.Consistent

variable {d : Driver}

theorem of_signals {signals : List Signal} (hnodup : (signals.map (·.ioName)).Nodup)
    (h : d.cache = signals.map fun signal => (signal.ioName, signal)) : d.Consistent := by
  refine ⟨.of_signals h, ?_⟩
  rw [h, Dict.keys, List.map_map]
  exact hnodup

theorem store (h : d.Consistent) {ioName : String} {signal updated : Signal}
    (hget : Dict.get d.cache ioName = some signal) (hname : updated.ioName = ioName) :
    (d.store ioName updated).Consistent := by
  have hmem : ioName ∈ Dict.keys d.cache := List.mem_map_of_mem (Dict.mem_of_get hget)
  refine ⟨h.keyed.store hname, ?_⟩
  show (Dict.keys (Dict.set d.cache ioName updated)).Nodup
  rw [Dict.keys_set_of_mem hmem]
  exact h.nodup

theorem mem_snapshot (h : d.Consistent) {signal : Signal} :
    signal ∈ d.snapshot.digital ++ d.snapshot.analog ↔
      Dict.get d.cache signal.ioName = some signal := by
  have hvalues : signal ∈ d.snapshot.digital ++ d.snapshot.analog ↔ signal ∈ Dict.values d.cache := by
    simp only [snapshot, List.mem_append, List.mem_filter, decide_eq_true_eq]
    constructor
    · rintro (⟨hmem, -⟩ | ⟨hmem, -⟩) <;> exact hmem
    · intro hmem
      by_cases htype : signal.type = .digital
      · exact .inl ⟨hmem, htype⟩
      · exact .inr ⟨hmem, htype⟩
  rw [hvalues]
  constructor
  · intro hmem
    obtain ⟨p, hp, rfl⟩ := List.mem_map.1 hmem
    have hget := Dict.get_of_mem h.nodup hp
    rw [h.keyed _ _ hget]
    exact hget
  · exact fun hget => List.mem_map_of_mem (Dict.mem_of_get hget)

/-- A snapshot has the signals of the cache. -/
theorem signal?_snapshot (h : d.Consistent) (ioName : String) :
    d.snapshot.signal? ioName = Dict.get d.cache ioName := by
  cases hfind : d.snapshot.signal? ioName with
  | some signal =>
    have hname : signal.ioName = ioName := by simpa using List.find?_some hfind
    rw [← hname]
    exact (h.mem_snapshot.1 (List.mem_of_find?_eq_some hfind)).symm
  | none =>
    cases hget : Dict.get d.cache ioName with
    | none => rfl
    | some signal =>
      have hname := h.keyed _ _ hget
      have hmem := h.mem_snapshot.2 (by rw [hname]; exact hget)
      have hnot := List.find?_eq_none.1 hfind signal hmem
      simp [hname] at hnot

end Driver.Consistent

/-! ### Messages -/

structure DigitalIO where
  ioName : String
  direction : IODirectionEnum
  state : Bool
deriving DecidableEq, Repr

structure AnalogIO where
  ioName : String
  direction : IODirectionEnum
  state : ℚ
  domain : IODomainEnum
deriving DecidableEq, Repr

def Signal.toMsg (signal : Signal) : DigitalIO ⊕ AnalogIO :=
  match signal.type with
  | .digital =>
    .inl { ioName := signal.ioName, direction := signal.direction, state := signal.state.toBool }
  | .analog domain =>
    .inr {
      ioName := signal.ioName, direction := signal.direction, state := signal.state.toFloat, domain }

/-- What `set_digital`, `set_analog` and `apply_mock_change` raise. -/
inductive DriverError where
  | keyError (text : String)
  | valueError (text : String)
  | runtimeError (text : String)
  | assertionError
  /-- An exception of `call_async`. -/
  | other (text : String)
deriving DecidableEq, Repr

inductive ErrorClass where
  | KeyError
  | ValueError
  | RuntimeError
  | AssertionError
  | Other
deriving DecidableEq, Repr

def DriverError.errorClass : DriverError → ErrorClass
  | keyError _ => .KeyError
  | valueError _ => .ValueError
  | runtimeError _ => .RuntimeError
  | assertionError => .AssertionError
  | other _ => .Other

/-- Python's `repr` of a string without quotes, backslashes and control characters. -/
def pyRepr (s : String) : String := "'" ++ s ++ "'"

namespace DriverError

def unknownName (ioName : String) : DriverError := keyError s!"unknown io_name: {pyRepr ioName}"

def inputName (ioName : String) : DriverError :=
  valueError s!"io_name {pyRepr ioName} is an input; inputs are not writable"

def notSignal (ioName kind : String) : DriverError :=
  valueError s!"io_name {pyRepr ioName} is not a {kind} signal"

end DriverError

/-! ### `MockIODriver` -/

structure MockIODriver extends Driver
deriving DecidableEq, Repr

namespace MockIODriver

def configure (deviceType : DeviceTypeEnum) (device : List (Yaml × Yaml)) :
    Except ConfigError MockIODriver := do
  let signals ← normalizeMapping deviceType device
  checkUniqueIoNames signals
  pure { cache := Dict.ofList (signals.map fun signal => (signal.ioName, signal)) }

theorem configure_ok {deviceType : DeviceTypeEnum} {device : List (Yaml × Yaml)} {d : MockIODriver}
    (h : configure deviceType device = .ok d) :
    ∃ signals, normalizeMapping deviceType device = .ok signals ∧
      (signals.map (·.ioName)).Nodup ∧
      d = { cache := signals.map fun signal => (signal.ioName, signal) } := by
  obtain ⟨signals, hsignals, h⟩ := Fallible.bind_ok h
  obtain ⟨u, hunique, h⟩ := Fallible.bind_ok h
  have hn := checkUniqueIoNames_ok.1 hunique
  refine ⟨signals, hsignals, hn, ?_⟩
  rw [← Except.ok.inj h, Dict.ofList_of_nodup]
  rw [List.map_map]
  exact hn

theorem configure_of_nodup {deviceType : DeviceTypeEnum} {device : List (Yaml × Yaml)}
    {signals : List Signal} (hs : normalizeMapping deviceType device = .ok signals)
    (hn : (signals.map (·.ioName)).Nodup) : configure deviceType device =
      .ok { cache := signals.map fun signal => (signal.ioName, signal) } := by
  have hkeys : ((signals.map fun signal => (signal.ioName, signal)).map Prod.fst).Nodup := by
    rw [List.map_map]
    exact hn
  rw [configure, hs]
  change (checkUniqueIoNames signals >>= fun _ => _) = _
  rw [checkUniqueIoNames_ok.2 hn, Dict.ofList_of_nodup hkeys]
  rfl

/-- `_require_output`; `digital` says which of the two types is expected. -/
def requireOutput (d : MockIODriver) (ioName : String) (digital : Bool) :
    Except DriverError Signal :=
  match Dict.get d.cache ioName with
  | none => .error (.unknownName ioName)
  | some signal =>
    if signal.direction ≠ .OUT then .error (.inputName ioName)
    else if decide (signal.type = .digital) ≠ digital then
      .error (.notSignal ioName (if digital then "digital" else "analog"))
    else .ok signal

def apply (d : MockIODriver) (signal : Signal) (value : Value) : MockIODriver :=
  if signal.state.num = value.num then d
  else { toDriver := d.store signal.ioName { signal with state := value } }

def setDigital (d : MockIODriver) (ioName : String) (state : Bool) :
    Except DriverError MockIODriver :=
  (d.requireOutput ioName true).map fun signal => d.apply signal (.bool state)

def setAnalog (d : MockIODriver) (ioName : String) (state : ℚ) : Except DriverError MockIODriver :=
  (d.requireOutput ioName false).map fun signal => d.apply signal (.float state)

def applyMockChange (d : MockIODriver) (ioName : String) (value : Value) :
    Except DriverError MockIODriver :=
  match Dict.get d.cache ioName with
  | none => .error (.unknownName ioName)
  | some signal =>
    if signal.direction ≠ .IN then
      .error (.valueError s!"io_name {pyRepr ioName} is an output; only inputs are scriptable")
    else
      let coerced := if signal.type = .digital then .bool value.toBool else .float value.toFloat
      .ok (d.apply signal coerced)

end MockIODriver

/-! ### `URIODriver` -/

inductive WriteKind where
  | digitalOut
  | flag
  | analogOut
  | toolVoltage
deriving DecidableEq, Repr

inductive Category where
  | digitalInStates
  | digitalOutStates
  | flagStates
  | analogInStates
  | analogOutStates
deriving DecidableEq, Repr

namespace Category

def key : Category → String
  | digitalInStates => "digital_in_states"
  | digitalOutStates => "digital_out_states"
  | flagStates => "flag_states"
  | analogInStates => "analog_in_states"
  | analogOutStates => "analog_out_states"

/-- The third column of the loop in `configure`. -/
def kind : Category → Option WriteKind
  | digitalInStates | analogInStates => none
  | digitalOutStates => some .digitalOut
  | flagStates => some .flag
  | analogOutStates => some .analogOut

def digital : List Category := [digitalInStates, digitalOutStates, flagStates]

def analog : List Category := [analogInStates, analogOutStates]

end Category

/-- The entries of one category, as names and pins. -/
def URMappingDTO.pins (mapping : URMappingDTO) : Category → List (String × Nat)
  | .digitalInStates => mapping.digitalInStates.map fun e => (e.ioName, e.pin)
  | .digitalOutStates => mapping.digitalOutStates.map fun e => (e.ioName, e.pin)
  | .flagStates => mapping.flagStates.map fun e => (e.ioName, e.pin)
  | .analogInStates => mapping.analogInStates.map fun e => (e.ioName, e.pin)
  | .analogOutStates => mapping.analogOutStates.map fun e => (e.ioName, e.pin)

/-- The functions of `ur_msgs/SetIO`. -/
inductive SetIoFun where
  | FUN_SET_DIGITAL_OUT
  | FUN_SET_FLAG
  | FUN_SET_TOOL_VOLTAGE
deriving DecidableEq, Repr

inductive Request where
  | setIo (fn : SetIoFun) (pin : Int) (state : ℚ)
  | setAnalogOutput (pin : Int) (domain : IODomainEnum) (state : ℚ)
deriving DecidableEq, Repr

def STATE_ON : ℚ := 1
def STATE_OFF : ℚ := 0

/-- An entry of an `io_states` message. -/
structure PinState where
  pin : Nat
  state : Value
deriving DecidableEq, Repr

/-- `ur_msgs/IOStates`. -/
abbrev URIOStates := Category → List PinState

/-- `active` says whether the write clients exist. -/
structure URIODriver extends Driver where
  device : URDeviceConfigDTO
  readIndex : Category → Dict Nat String
  writeIndex : Dict String (WriteKind × Int)
  active : Bool := false

/-- What a call does: the driver after it, the request it sent and the exception it raised. -/
structure Outcome where
  driver : URIODriver
  request : Option Request := none
  error : Option DriverError := none

namespace URIODriver

def addPin (category : Category) (pinMap : Dict Nat String) (entry : String × Nat) :
    Except ConfigError (Dict Nat String) :=
  if (Dict.get pinMap entry.2).isSome then .error (.pinDuplicate entry.2 category.key)
  else .ok (Dict.set pinMap entry.2 entry.1)

/-- The items of the write index, in the order in which `configure` sets them. -/
def writeItems (mapping : URMappingDTO) : List (String × (WriteKind × Int)) :=
  (Category.digital ++ Category.analog).flatMap (fun category =>
    category.kind.toList.flatMap fun kind =>
      (mapping.pins category).map fun e => (e.1, (kind, (e.2 : Int)))) ++
    mapping.toolVoltage.map fun e => (e.ioName, (WriteKind.toolVoltage, -1))

def configure (py : Pydantic) (device : List (Yaml × Yaml)) : Except ConfigError URIODriver := do
  let dto ← (URDeviceConfigDTO.parse py device).elim (.error .validation) .ok
  let signals ← normalizeMapping .UR device
  checkUniqueIoNames signals
  let pinMap (category : Category) := (dto.mapping.pins category).foldlM (addPin category) []
  let digitalInStates ← pinMap .digitalInStates
  let digitalOutStates ← pinMap .digitalOutStates
  let flagStates ← pinMap .flagStates
  let analogInStates ← pinMap .analogInStates
  let analogOutStates ← pinMap .analogOutStates
  pure {
    cache := Dict.ofList (signals.map fun signal => (signal.ioName, signal))
    device := dto
    readIndex := fun
      | .digitalInStates => digitalInStates
      | .digitalOutStates => digitalOutStates
      | .flagStates => flagStates
      | .analogInStates => analogInStates
      | .analogOutStates => analogOutStates
    writeIndex := Dict.ofList (writeItems dto.mapping) }

theorem configure_ok {py : Pydantic} {device : List (Yaml × Yaml)} {d : URIODriver}
    (h : configure py device = .ok d) :
    ∃ signals, URDeviceConfigDTO.parse py device = some d.device ∧
      normalizeMapping .UR device = .ok signals ∧ (signals.map (·.ioName)).Nodup ∧
      d.toDriver = { cache := signals.map fun signal => (signal.ioName, signal) } ∧
      (∀ category, (d.device.mapping.pins category).foldlM (addPin category) [] =
        .ok (d.readIndex category)) ∧
      d.writeIndex = Dict.ofList (writeItems d.device.mapping) := by
  unfold configure at h
  obtain ⟨dto, hdto, h⟩ := Fallible.bind_ok h
  obtain ⟨signals, hsignals, h⟩ := Fallible.bind_ok h
  obtain ⟨u, hunique, h⟩ := Fallible.bind_ok h
  obtain ⟨digitalIn, hdi, h⟩ := Fallible.bind_ok h
  obtain ⟨digitalOut, hdo, h⟩ := Fallible.bind_ok h
  obtain ⟨flags, hfl, h⟩ := Fallible.bind_ok h
  obtain ⟨analogIn, hai, h⟩ := Fallible.bind_ok h
  obtain ⟨analogOut, hao, h⟩ := Fallible.bind_ok h
  have hn := checkUniqueIoNames_ok.1 hunique
  have hparse : URDeviceConfigDTO.parse py device = some dto := by
    cases hp : URDeviceConfigDTO.parse py device with
    | none =>
      rw [hp] at hdto
      cases hdto
    | some dto' =>
      rw [hp] at hdto
      rw [Except.ok.inj hdto]
  rw [← Except.ok.inj h]
  refine ⟨signals, hparse, hsignals, hn, ?_, fun category => ?_, rfl⟩
  · rw [Dict.ofList_of_nodup]
    rw [List.map_map]
    exact hn
  · cases category
    · exact hdi
    · exact hdo
    · exact hfl
    · exact hai
    · exact hao

variable (d : URIODriver)

def updateCache (ioName : String) (value : Value) : URIODriver :=
  match Dict.get d.cache ioName with
  | none => d
  | some signal =>
    if signal.state.num = value.num then d
    else { d with toDriver := d.store ioName { signal with state := value } }

def updateCategory (coerce : Value → Value) (category : Category) (entries : List PinState) :
    URIODriver :=
  entries.foldl (fun d entry =>
    match Dict.get (d.readIndex category) entry.pin with
    | some ioName => d.updateCache ioName (coerce entry.state)
    | none => d) d

def onIoStates (msg : URIOStates) : URIODriver :=
  let d := Category.digital.foldl
    (fun d category => d.updateCategory (.bool ·.toBool) category (msg category)) d
  Category.analog.foldl
    (fun d category => d.updateCategory (.float ·.toFloat) category (msg category)) d

def requireWrite (ioName : String) : Except DriverError (WriteKind × Int) :=
  if !d.active then .error (.runtimeError "UR driver is not activated; no service clients")
  else
    match Dict.get d.writeIndex ioName with
    | some target => .ok target
    | none =>
      if (Dict.get d.cache ioName).isSome then .error (.inputName ioName)
      else .error (.unknownName ioName)

/-- `_send`: the request goes out unless `call_async` raises. -/
def send (request : Request) (fault : Option String) : Outcome :=
  match fault with
  | some e => { driver := d, error := some (.other e) }
  | none => { driver := d, request := some request }

def setDigital (ioName : String) (state : Bool) (fault : Option String) : Outcome :=
  match d.requireWrite ioName with
  | .error e => { driver := d, error := some e }
  | .ok (kind, pin) =>
    if kind = .digitalOut ∨ kind = .flag then
      let fn := if kind = .digitalOut then .FUN_SET_DIGITAL_OUT else .FUN_SET_FLAG
      d.send (.setIo fn pin (if state then STATE_ON else STATE_OFF)) fault
    else
      { driver := d
        error := some (.valueError s!"io_name {pyRepr ioName} is not a digital output") }

def setAnalog (ioName : String) (state : ℚ) (fault : Option String) : Outcome :=
  match d.requireWrite ioName with
  | .error e => { driver := d, error := some e }
  | .ok (.analogOut, pin) =>
    match Dict.get d.cache ioName with
    | none => { driver := d, error := some (.keyError ioName) }
    | some signal =>
      match signal.type with
      | .digital => { driver := d, error := some .assertionError }
      | .analog domain => d.send (.setAnalogOutput pin domain state) fault
  | .ok (.toolVoltage, _) =>
    let sent := d.send (.setIo .FUN_SET_TOOL_VOLTAGE 0 state) fault
    -- command-only, so the cache is updated here unless `_send` raised
    if sent.error.isSome then sent
    else { sent with driver := sent.driver.updateCache ioName (.float state) }
  | .ok (.digitalOut, _) | .ok (.flag, _) =>
    { driver := d, error := some (.valueError s!"io_name {pyRepr ioName} is not an analog output") }

end URIODriver

end IoControllers
