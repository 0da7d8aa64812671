import MovementController.Io.Drivers

/-!
# Change events are the edges of the cache

Whatever a driver does is a sequence of genuine writes (`Driver.Writes`): assignments to a cached
signal of a state that differs, each reported to the callback. That alone makes the reported events
the edges of the cache.
-/

namespace IoControllers

/-- The states differ for Python. -/
def Signal.Differs (a b : Signal) : Prop := a.state.num ≠ b.state.num

namespace Driver

def events (d : Driver) : List (String × Signal) := d.fired.map fun f => (f.ioName, f.signal)

/-- The events so far account for the way from the cache `init` to the current one. -/
structure Edges (init : Dict String Signal) (d : Driver) : Prop where
  replay : Dict.replay init d.events = d.cache
  chain : ∀ ioName signal, Dict.get init ioName = some signal →
    (signal :: (d.events.filter (·.1 = ioName)).map Prod.snd).IsChain Signal.Differs
  cached : ∀ f ∈ d.fired, Dict.get f.cache f.ioName = some f.signal

/-- If no cached state changes on the way from `d` to `d'`, nothing is fired. A message that sets a
pin and sets it back changes a state twice. -/
def Quiet (d d' : Driver) : Prop :=
  (∀ f ∈ d'.fired.drop d.fired.length, ∀ ioName,
    (Dict.get f.cache ioName).map (·.state.num) = (Dict.get d.cache ioName).map (·.state.num)) →
      d'.fired = d.fired

inductive Writes (d : Driver) : Driver → Prop
  | refl : Writes d d
  | store {d' : Driver} (h : Writes d d') (ioName : String) (signal updated : Signal)
      (hget : Dict.get d'.cache ioName = some signal) (hdiff : signal.Differs updated) :
      Writes d (d'.store ioName updated)

theorem Writes.trans {d₁ d₂ d₃ : Driver} (h : Writes d₁ d₂) (h' : Writes d₂ d₃) : Writes d₁ d₃ := by
  induction h' with
  | refl => exact h
  | store _ ioName signal updated hget hdiff ih => exact ih.store ioName signal updated hget hdiff

/-- What the events of a driver with a callback amount to. -/
structure Traced (init : Dict String Signal) (d : Driver) : Prop where
  callback : d.callback = true
  genuine : Dict.Genuine Signal.Differs init d.events
  replay : Dict.replay init d.events = d.cache
  cached : ∀ f ∈ d.fired, Dict.get f.cache f.ioName = some f.signal

namespace Traced

variable {init : Dict String Signal} {d d' : Driver}

theorem store (h : Traced init d) {ioName : String} {signal updated : Signal}
    (hget : Dict.get d.cache ioName = some signal) (hdiff : signal.Differs updated) :
    Traced init (d.store ioName updated) := by
  have hevents : (d.store ioName updated).events = d.events ++ [(ioName, updated)] := by
    simp [events, Driver.store, h.callback]
  refine ⟨h.callback, ?_, ?_, fun f hf => ?_⟩
  · rw [hevents]
    refine h.genuine.concat ⟨signal, ?_, hdiff⟩
    rw [h.replay]
    exact hget
  · rw [hevents, Dict.replay_concat, h.replay]
    rfl
  · have hfired : (d.store ioName updated).fired =
        d.fired ++ [⟨ioName, updated, Dict.set d.cache ioName updated⟩] := by
      simp [Driver.store, h.callback]
    rw [hfired] at hf
    rcases List.mem_append.1 hf with hf | hf
    · exact h.cached f hf
    · rw [List.mem_singleton.1 hf]
      exact Dict.get_set_self

theorem writes (h : Traced init d) (hw : Writes d d') : Traced init d' := by
  induction hw with
  | refl => exact h
  | store _ ioName signal updated hget hdiff ih => exact ih.store hget hdiff

theorem edges (h : Traced init d) : Edges init d :=
  ⟨h.replay, fun _ _ hget => h.genuine.isChain hget, h.cached⟩

end Traced

namespace Writes

variable {d d' : Driver}

theorem callback_eq (h : Writes d d') : d'.callback = d.callback := by
  induction h with
  | refl => rfl
  | store _ _ _ _ _ _ ih => exact ih

theorem length_le (h : Writes d d') : d.fired.length ≤ d'.fired.length := by
  induction h with
  | refl => exact Nat.le_refl _
  | store _ _ _ _ _ _ ih =>
    refine ih.trans ?_
    unfold Driver.store
    split <;> simp

/-- The first write shows in the events, so a run without events has no writes. -/
theorem quiet (hc : d.callback = true) (h : Writes d d') : Quiet d d' := by
  intro hsame
  suffices hall : d'.fired = d.fired ∧ d'.cache = d.cache from hall.1
  induction h with
  | refl => exact ⟨rfl, rfl⟩
  | @store d' h ioName signal updated hget hdiff ih =>
    exfalso
    have hfired : (d'.store ioName updated).fired =
        d'.fired ++ [⟨ioName, updated, Dict.set d'.cache ioName updated⟩] := by
      simp [Driver.store, h.callback_eq.trans hc]
    rw [hfired, List.drop_append_of_le_length h.length_le] at hsame
    obtain ⟨-, hcache⟩ := ih fun f hf => hsame f (List.mem_append_left _ hf)
    have hnew := hsame _ (List.mem_append_right _ (List.mem_singleton_self _)) ioName
    rw [Dict.get_set_self, ← hcache, hget] at hnew
    exact hdiff (Option.some.inj hnew).symm

end Writes

end Driver

/-! ### The operations -/

open Driver

inductive MockIODriver.Op where
  | setDigital (ioName : String) (state : Bool)
  | setAnalog (ioName : String) (state : ℚ)
  | applyMockChange (ioName : String) (value : Value)
deriving DecidableEq, Repr

/-- An operation of the UR driver; `fault` is the exception of a `call_async`. -/
inductive URIODriver.Op where
  | activate
  | deactivate
  | ioStates (msg : URIOStates)
  | setDigital (ioName : String) (state : Bool) (fault : Option String)
  | setAnalog (ioName : String) (state : ℚ) (fault : Option String)

namespace MockIODriver

def call (d : MockIODriver) : Op → Except DriverError MockIODriver
  | .setDigital ioName state => d.setDigital ioName state
  | .setAnalog ioName state => d.setAnalog ioName state
  | .applyMockChange ioName value => d.applyMockChange ioName value

/-- A rejected call changes nothing. -/
def exec (d : MockIODriver) (op : Op) : MockIODriver := (d.call op).toOption.getD d

theorem keyed_configure {deviceType : DeviceTypeEnum} {device : List (Yaml × Yaml)}
    {d : MockIODriver} (h : configure deviceType device = .ok d) : d.Keyed := by
  obtain ⟨signals, -, -, hd⟩ := configure_ok h
  exact .of_signals (congrArg (·.cache) hd)

variable {d : MockIODriver}

theorem requireOutput_ok {ioName : String} {digital : Bool} {signal : Signal}
    (h : d.requireOutput ioName digital = .ok signal) :
    Dict.get d.cache ioName = some signal ∧ signal.direction = .OUT ∧
      decide (signal.type = .digital) = digital := by
  unfold requireOutput at h
  split at h
  · cases h
  · next signal' hget =>
    split_ifs at h with hdir htype
    · rw [← Except.ok.inj h]
      exact ⟨hget, not_not.1 hdir, not_not.1 htype⟩

theorem writes_apply (hk : d.Keyed) {ioName : String} {signal : Signal}
    (hget : Dict.get d.cache ioName = some signal) (value : Value) :
    Writes d.toDriver (d.apply signal value).toDriver := by
  have hname := hk ioName signal hget
  unfold apply
  split
  · exact .refl
  · next hne =>
    rw [hname]
    exact .store .refl ioName signal _ hget hne

theorem call_ok {d' : MockIODriver} {op : Op} (h : d.call op = .ok d') :
    ∃ ioName signal value, Dict.get d.cache ioName = some signal ∧ d' = d.apply signal value := by
  cases op with
  | setDigital ioName state =>
    rw [call, setDigital] at h
    cases hr : d.requireOutput ioName true with
    | error e => rw [hr] at h; cases h
    | ok signal =>
      rw [hr] at h
      exact ⟨ioName, signal, .bool state, (requireOutput_ok hr).1, (Except.ok.inj h).symm⟩
  | setAnalog ioName state =>
    rw [call, setAnalog] at h
    cases hr : d.requireOutput ioName false with
    | error e => rw [hr] at h; cases h
    | ok signal =>
      rw [hr] at h
      exact ⟨ioName, signal, .float state, (requireOutput_ok hr).1, (Except.ok.inj h).symm⟩
  | applyMockChange ioName value =>
    rw [call, applyMockChange] at h
    split at h
    · cases h
    · next signal hget =>
      split_ifs at h with hdir htype
      · exact ⟨ioName, signal, _, hget, (Except.ok.inj h).symm⟩
      · exact ⟨ioName, signal, _, hget, (Except.ok.inj h).symm⟩

theorem keyed_apply (hk : d.Keyed) {ioName : String} {signal : Signal}
    (hget : Dict.get d.cache ioName = some signal) (value : Value) :
    (d.apply signal value).Keyed := by
  have hname := hk ioName signal hget
  unfold apply
  split
  · exact hk
  · intro n s hs
    change Dict.get (Dict.set d.cache signal.ioName { signal with state := value }) n = some s at hs
    by_cases hn : n = signal.ioName
    · rw [hn, Dict.get_set_self] at hs
      rw [hn, ← Option.some.inj hs]
    · rw [Dict.get_set_of_ne hn] at hs
      exact hk n s hs

theorem exec_cases (d : MockIODriver) (op : Op) : d.exec op = d ∨
    ∃ ioName signal value, Dict.get d.cache ioName = some signal ∧
      d.exec op = d.apply signal value := by
  unfold exec
  cases h : d.call op with
  | error e => exact .inl rfl
  | ok d' => exact .inr (call_ok h)

theorem writes_exec (hk : d.Keyed) (op : Op) : Writes d.toDriver (d.exec op).toDriver := by
  rcases d.exec_cases op with h | ⟨ioName, signal, value, hget, h⟩
  · rw [h]
    exact .refl
  · rw [h]
    exact writes_apply hk hget value

theorem keyed_exec (hk : d.Keyed) (op : Op) : (d.exec op).Keyed := by
  rcases d.exec_cases op with h | ⟨ioName, signal, value, hget, h⟩
  · rw [h]
    exact hk
  · rw [h]
    exact keyed_apply hk hget value

theorem writes_run (hk : d.Keyed) (ops : List Op) :
    Writes d.toDriver (ops.foldl exec d).toDriver ∧ (ops.foldl exec d).Keyed := by
  induction ops generalizing d with
  | nil => exact ⟨.refl, hk⟩
  | cons op ops ih =>
    obtain ⟨hw, hk'⟩ := ih (keyed_exec hk op)
    exact ⟨(writes_exec hk op).trans hw, hk'⟩

end MockIODriver

namespace URIODriver

def exec (d : URIODriver) : Op → URIODriver
  | .activate => { d with active := true }
  | .deactivate => { d with active := false }
  | .ioStates msg => d.onIoStates msg
  | .setDigital ioName state fault => (d.setDigital ioName state fault).driver
  | .setAnalog ioName state fault => (d.setAnalog ioName state fault).driver

theorem writes_foldl {α : Type} {f : URIODriver → α → URIODriver}
    (hf : ∀ d a, Writes d.toDriver (f d a).toDriver) (l : List α) (d : URIODriver) :
    Writes d.toDriver (l.foldl f d).toDriver := by
  induction l generalizing d with
  | nil => exact .refl
  | cons a l ih => exact (hf d a).trans (ih (f d a))

theorem writes_updateCache (d : URIODriver) (ioName : String) (value : Value) :
    Writes d.toDriver (d.updateCache ioName value).toDriver := by
  unfold updateCache
  split
  · exact .refl
  · next signal hget =>
    split
    · exact .refl
    · next hne => exact .store .refl ioName signal _ hget hne

theorem writes_updateCategory (d : URIODriver) (coerce : Value → Value) (category : Category)
    (entries : List PinState) :
    Writes d.toDriver (d.updateCategory coerce category entries).toDriver := by
  refine writes_foldl (fun d entry => ?_) entries d
  split
  · exact writes_updateCache d _ _
  · exact .refl

theorem writes_onIoStates (d : URIODriver) (msg : URIOStates) :
    Writes d.toDriver (d.onIoStates msg).toDriver :=
  (writes_foldl (fun d category => writes_updateCategory d _ category _) Category.digital d).trans
    (writes_foldl (fun d category => writes_updateCategory d _ category _) Category.analog _)

theorem send_driver (d : URIODriver) (request : Request) (fault : Option String) :
    (d.send request fault).driver = d := by
  cases fault <;> rfl

theorem setDigital_driver (d : URIODriver) (ioName : String) (state : Bool)
    (fault : Option String) : (d.setDigital ioName state fault).driver = d := by
  unfold setDigital
  split
  · rfl
  · split
    · exact send_driver d _ fault
    · rfl

theorem writes_setAnalog (d : URIODriver) (ioName : String) (state : ℚ) (fault : Option String) :
    Writes d.toDriver (d.setAnalog ioName state fault).driver.toDriver := by
  unfold setAnalog
  split
  · exact .refl
  · split
    · exact .refl
    · split
      · exact .refl
      · rw [send_driver]
        exact .refl
  · cases fault with
    | some e => exact .refl
    | none => exact writes_updateCache d ioName _
  · exact .refl
  · exact .refl

theorem writes_exec (d : URIODriver) (op : Op) : Writes d.toDriver (d.exec op).toDriver := by
  cases op with
  | activate => exact .refl
  | deactivate => exact .refl
  | ioStates msg => exact writes_onIoStates d msg
  | setDigital ioName state fault =>
    rw [exec, setDigital_driver]
    exact .refl
  | setAnalog ioName state fault => exact writes_setAnalog d ioName state fault

end URIODriver

theorem Driver.Traced.initial (cache : Dict String Signal) :
    Traced cache { cache, callback := true } :=
  ⟨rfl, trivial, rfl, fun _ hf => absurd hf List.not_mem_nil⟩

/-- Whatever operations a driver goes through, its change events are the edges of its cache. -/
theorem events_are_edges (py : Pydantic) (deviceType : DeviceTypeEnum)
    (device : List (Yaml × Yaml)) :
    (∀ init, MockIODriver.configure deviceType device = .ok init → ∀ ops : List MockIODriver.Op,
      let d := ops.foldl MockIODriver.exec { init with callback := true }
      Edges init.cache d.toDriver ∧ ∀ op, Quiet d.toDriver (d.exec op).toDriver) ∧
    (∀ init, URIODriver.configure py device = .ok init → ∀ ops : List URIODriver.Op,
      let d := ops.foldl URIODriver.exec { init with callback := true }
      Edges init.cache d.toDriver ∧ ∀ op, Quiet d.toDriver (d.exec op).toDriver) := by
  constructor
  · intro init hinit ops d
    obtain ⟨signals, -, -, hd⟩ := MockIODriver.configure_ok hinit
    have hk : ({ init with callback := true } : MockIODriver).Keyed :=
      show init.Keyed from MockIODriver.keyed_configure hinit
    obtain ⟨hw, hkd⟩ := MockIODriver.writes_run hk ops
    have h0 : Traced init.cache ({ init with callback := true } : MockIODriver).toDriver := by
      rw [hd]
      exact .initial _
    have ht := h0.writes hw
    exact ⟨ht.edges, fun op => (MockIODriver.writes_exec hkd op).quiet ht.callback⟩
  · intro init hinit ops d
    obtain ⟨signals, -, -, -, hd, -⟩ := URIODriver.configure_ok hinit
    have hw := URIODriver.writes_foldl URIODriver.writes_exec ops { init with callback := true }
    have h0 : Traced init.cache ({ init with callback := true } : URIODriver).toDriver := by
      change Traced init.cache { init.toDriver with callback := true }
      rw [hd]
      exact .initial _
    have ht := h0.writes hw
    exact ⟨ht.edges, fun op => (URIODriver.writes_exec d op).quiet ht.callback⟩

/-- Coercions that accept a value of the field's own type only. -/
def Pydantic.strict : Pydantic where
  parseStr | .str s => some s | _ => none
  parseInt | .int n => some n | _ => none
  parseBool | .bool b => some b | _ => none
  parseFloat | .float q => some q | .int n => some n | _ => none
  parseDomain | .str s => IODomainEnum.ofValue s | _ => none

def sampleDevice : List (Yaml × Yaml) :=
  let entry (ioName : String) (pin : Int) : Yaml :=
    .dict [(.str "io_name", .str ioName), (.str "pin", .int pin)]
  [(.str "controller_namespace", .str "/io_and_status_controller"),
    (.str "mapping", .dict [
      (.str "digital_in_states", .list [entry "part_present" 0]),
      (.str "digital_out_states", .list [entry "gripper" 0]),
      (.str "flag_states", .list [entry "busy" 1]),
      (.str "analog_in_states", .list [entry "force" 0]),
      (.str "analog_out_states", .list [entry "speed" 0]),
      (.str "tool_voltage", .list [.dict [(.str "io_name", .str "tool")]])])]

/-- The message sets one pin twice and a pin that is not mapped. -/
theorem events_are_edges_sampleDevice :
    (∃ init, MockIODriver.configure .UR sampleDevice = .ok init ∧
      let d := [.setDigital "gripper" true, .setDigital "part_present" true,
        .applyMockChange "force" (.float 3)].foldl MockIODriver.exec { init with callback := true }
      Edges init.cache d.toDriver ∧ (∀ op, Quiet d.toDriver (d.exec op).toDriver) ∧
        d.fired.length = 2) ∧
    ∃ init, URIODriver.configure .strict sampleDevice = .ok init ∧
      let msg : URIOStates
        | .digitalInStates => [⟨0, .bool true⟩, ⟨7, .bool true⟩, ⟨0, .bool false⟩]
        | _ => []
      let d := [.activate, .ioStates msg, .setAnalog "tool" 12 none].foldl URIODriver.exec
        { init with callback := true }
      Edges init.cache d.toDriver ∧ (∀ op, Quiet d.toDriver (d.exec op).toDriver) ∧
        d.fired.length = 3 := by
  constructor
  · refine ⟨_, rfl, ?_⟩
    obtain ⟨he, hq⟩ := (events_are_edges .strict .UR sampleDevice).1 _ rfl [.setDigital "gripper" true,
      .setDigital "part_present" true, .applyMockChange "force" (.float 3)]
    exact ⟨he, hq, rfl⟩
  · refine ⟨_, rfl, ?_⟩
    intro msg
    obtain ⟨he, hq⟩ := (events_are_edges .strict .UR sampleDevice).2 _ rfl [.activate, .ioStates msg,
      .setAnalog "tool" 12 none]
    exact ⟨he, hq, rfl⟩

end IoControllers
