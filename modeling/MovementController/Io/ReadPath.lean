import MovementController.Io.Simulation
import MovementController.Io.Snapshots

/-!
# The read path of the UR driver

After a message every pin has the value of its last entry, and nothing else of the cache is touched:
`Wired` tells which signal an entry is for, and is kept by all operations of the driver.
-/

namespace IoControllers

/-! ### The wiring of a driver in use -/

namespace Wired

variable {places : Dict String Place} {d d' : URIODriver} {n : String}

theorem congr (h : Wired places d) (hcache : d'.cache = d.cache) (hread : d'.readIndex = d.readIndex)
    (hwrite : d'.writeIndex = d.writeIndex) : Wired places d' := by
  refine ⟨h.nodup, fun n signal hget => ?_, fun n => ?_, ?_, ?_⟩
  · rw [hcache] at hget
    exact h.keyed n signal hget
  · rw [hcache]
    exact h.fits n
  · rw [hwrite]
    exact h.write
  · rw [hread]
    exact h.read

theorem foldl_update (h : Wired places d) {us : List (String × Value)}
    (hus : ∀ u ∈ us, ∃ place, Dict.get places u.1 = some place ∧ place.Holds u.2) :
    Wired places (us.foldl URIODriver.update d) := by
  induction us generalizing d with
  | nil => exact h
  | cons u us ih =>
    obtain ⟨hu, hus⟩ := List.forall_mem_cons.1 hus
    obtain ⟨place, hplace, hholds⟩ := hu
    exact ih (h.updateCache hplace hholds) hus

/-- An update comes from an entry for the pin of its signal. -/
theorem mem_updates (h : Wired places d) {msg : URIOStates} {u : String × Value}
    (hu : u ∈ d.updates msg) : ∃ category pin, Dict.get places u.1 = some (.pin category pin) ∧
      ∃ e ∈ msg category, e.pin = pin ∧ u.2 = category.coerce e.state := by
  obtain ⟨category, -, hu⟩ := List.mem_flatMap.1 hu
  obtain ⟨e, he, hsome⟩ := List.mem_filterMap.1 hu
  obtain ⟨n, hn, rfl⟩ := Option.map_eq_some_iff.1 hsome
  exact ⟨category, e.pin, (h.read category e.pin n).1 hn, e, he, rfl, rfl⟩

theorem onIoStates (h : Wired places d) (msg : URIOStates) : Wired places (d.onIoStates msg) := by
  rw [URIODriver.onIoStates_eq]
  refine h.foldl_update fun u hu => ?_
  obtain ⟨category, pin, hplace, e, -, -, hvalue⟩ := h.mem_updates hu
  refine ⟨_, hplace, ?_⟩
  show category.coerce u.2 = u.2
  rw [hvalue, Category.coerce_coerce]

/-- What a name is written to tells where it is. -/
theorem place_of_requireWrite (h : Wired places d) {target : WriteKind × Int}
    (ht : d.requireWrite n = .ok target) :
    ∃ place, Dict.get places n = some place ∧ place.target = some target := by
  unfold URIODriver.requireWrite at ht
  split at ht
  · cases ht
  · split at ht
    · next target' hget =>
      obtain rfl := Except.ok.inj ht
      rw [h.write] at hget
      exact Option.bind_eq_some_iff.1 hget
    · split at ht <;> cases ht

theorem toolVoltage_of_target {place : Place} {pin : Int}
    (h : place.target = some (.toolVoltage, pin)) : place = .toolVoltage := by
  cases place with
  | toolVoltage => rfl
  | pin category p => cases category <;> cases h

theorem setAnalog (h : Wired places d) (n : String) (state : ℚ) (fault : Option String) :
    Wired places (d.setAnalog n state fault).driver := by
  unfold URIODriver.setAnalog
  split
  · exact h
  · split
    · exact h
    · split
      · exact h
      · rw [URIODriver.send_driver]
        exact h
  · next hrequire =>
    obtain ⟨place, hplace, htarget⟩ := h.place_of_requireWrite hrequire
    obtain rfl := toolVoltage_of_target htarget
    cases fault with
    | some exc => exact h
    | none => exact h.updateCache hplace trivial
  · exact h
  · exact h

theorem exec (h : Wired places d) (op : URIODriver.Op) : Wired places (d.exec op) := by
  cases op with
  | activate => exact h.congr rfl rfl rfl
  | deactivate => exact h.congr rfl rfl rfl
  | ioStates msg => exact h.onIoStates msg
  | setDigital n state fault =>
    rw [URIODriver.exec, URIODriver.setDigital_driver]
    exact h
  | setAnalog n state fault => exact h.setAnalog n state fault

theorem run (h : Wired places d) (ops : List URIODriver.Op) :
    Wired places (ops.foldl URIODriver.exec d) := by
  induction ops generalizing d with
  | nil => exact h
  | cons op ops ih => exact ih (h.exec op)

end Wired

/-! ### The last entry of a pin -/

theorem getLast?_cons_getD {α β : Type*} (f : α → β) (a : α) (l : List α) (b : β) :
    ((a :: l).getLast?.map f).getD b = (l.getLast?.map f).getD (f a) := by
  rw [List.getLast?_cons]
  cases l.getLast? with
  | none => rfl
  | some a' => rfl

/-- The state of the last entry for the pin. -/
def lastState (entries : List PinState) (pin : Nat) : Option Value :=
  (entries.filter (·.pin = pin)).getLast?.map (·.state)

namespace Category

/-- Between two values of one category there is no equality of numbers that are not the same. -/
theorem eq_of_num_eq {category : Category} {v w : Value} (hv : category.coerce v = v)
    (hw : category.coerce w = w) (h : v.num = w.num) : v = w := by
  rw [← hv, ← hw]
  exact category.coerce_eq_of_num_eq h

end Category

namespace URIODriver

variable {d : URIODriver} {n : String} {signal : Signal} {category : Category}

theorem get_update_self (hget : Dict.get d.cache n = some signal) {value : Value}
    (hstate : category.coerce signal.state = signal.state) (hvalue : category.coerce value = value) :
    Dict.get (d.updateCache n value).cache n = some { signal with state := value } := by
  obtain ⟨state, hnum, hor, hself⟩ := get_updateCache_self hget value
  rw [hself]
  rcases hor with rfl | rfl
  · rw [Category.eq_of_num_eq hstate hvalue hnum]
  · rfl

/-- The last update of a signal is the one that stays. -/
theorem get_foldl_update {us : List (String × Value)} (hget : Dict.get d.cache n = some signal)
    (hstate : category.coerce signal.state = signal.state)
    (hus : ∀ u ∈ us, u.1 = n → category.coerce u.2 = u.2) :
    Dict.get (us.foldl update d).cache n = some { signal with
      state := ((us.filter (·.1 = n)).getLast?.map Prod.snd).getD signal.state } := by
  induction us generalizing d signal with
  | nil => exact hget
  | cons u us ih =>
    obtain ⟨hu, hus⟩ := List.forall_mem_cons.1 hus
    rw [List.foldl_cons]
    by_cases hn : u.1 = n
    · have hself : Dict.get (d.update u).cache n = some { signal with state := u.2 } := by
        rw [update, hn]
        exact get_update_self hget hstate (hu hn)
      rw [ih hself (hu hn) hus, List.filter_cons_of_pos (by simpa using hn), getLast?_cons_getD]
    · have hother : Dict.get (d.update u).cache n = some signal := by
        rw [update, get_updateCache_of_ne fun h => hn h.symm]
        exact hget
      rw [ih hother hstate hus, List.filter_cons_of_neg (by simpa using hn)]

end URIODriver

namespace Wired

variable {places : Dict String Place} {d : URIODriver} {n : String} {category : Category} {pin : Nat}

/-- Of its own category, the entries for its pin update a signal. -/
theorem filter_categoryUpdates_self (h : Wired places d)
    (hn : Dict.get places n = some (.pin category pin)) (entries : List PinState) :
    (d.categoryUpdates category entries).filter (·.1 = n) =
      (entries.filter (·.pin = pin)).map fun e => (n, category.coerce e.state) := by
  have hread (p : Nat) : Dict.get (d.readIndex category) p = some n ↔ p = pin := by
    rw [h.read, hn, Option.some.injEq, Place.pin.injEq, and_iff_right rfl]
    exact eq_comm
  induction entries with
  | nil => rfl
  | cons e entries ih =>
    rw [URIODriver.categoryUpdates, List.filterMap_cons, ← URIODriver.categoryUpdates]
    cases hm : Dict.get (d.readIndex category) e.pin with
    | none =>
      have hpin : e.pin ≠ pin := by
        intro hpin
        rw [(hread e.pin).2 hpin] at hm
        cases hm
      rw [List.filter_cons_of_neg (by simpa using hpin)]
      exact ih
    | some m =>
      rw [Option.map_some]
      by_cases hmn : m = n
      · have hpin : e.pin = pin := (hread e.pin).1 (hmn ▸ hm)
        rw [List.filter_cons_of_pos (by simpa using hmn), List.filter_cons_of_pos (by simpa using hpin),
          List.map_cons, ih, hmn]
      · have hpin : e.pin ≠ pin := by
          intro hpin
          rw [(hread e.pin).2 hpin] at hm
          exact hmn (Option.some.inj hm).symm
        rw [List.filter_cons_of_neg (by simpa using hmn), List.filter_cons_of_neg (by simpa using hpin),
          ih]

/-- The entries of the other categories do not, whatever their pins. -/
theorem filter_categoryUpdates_other (h : Wired places d)
    (hn : ∀ p, Dict.get places n ≠ some (.pin category p)) (entries : List PinState) :
    (d.categoryUpdates category entries).filter (·.1 = n) = [] := by
  refine List.filter_eq_nil_iff.2 fun u hu hun => ?_
  obtain ⟨e, -, hsome⟩ := List.mem_filterMap.1 hu
  obtain ⟨m, hm, rfl⟩ := Option.map_eq_some_iff.1 hsome
  obtain rfl : m = n := of_decide_eq_true hun
  exact hn e.pin ((h.read category e.pin m).1 hm)

theorem filter_updates (h : Wired places d) (hn : Dict.get places n = some (.pin category pin))
    (msg : URIOStates) : (d.updates msg).filter (·.1 = n) =
      ((msg category).filter (·.pin = pin)).map fun e => (n, category.coerce e.state) := by
  have hself := h.filter_categoryUpdates_self hn (msg category)
  have hother (c : Category) (hc : c ≠ category) :
      (d.categoryUpdates c (msg c)).filter (·.1 = n) = [] := by
    refine h.filter_categoryUpdates_other (fun p hp => ?_) _
    rw [hn] at hp
    cases hp
    exact hc rfl
  rw [← hself, URIODriver.updates, List.filter_flatMap]
  cases category
  all_goals simp [Category.digital, Category.analog, hother]

theorem updates_notMem (h : Wired places d) (hn : ∀ category p, Dict.get places n ≠ some (.pin category p))
    (msg : URIOStates) : n ∉ (d.updates msg).map Prod.fst := by
  intro hmem
  obtain ⟨u, hu, rfl⟩ := List.mem_map.1 hmem
  obtain ⟨category, pin, hplace, -⟩ := h.mem_updates hu
  exact hn category pin hplace

/-- After a message a signal has the value of the last entry for its pin. -/
theorem get_onIoStates (h : Wired places d) (hn : Dict.get places n = some (.pin category pin))
    (msg : URIOStates) : ∃ signal, Dict.get d.cache n = some signal ∧
      Dict.get (d.onIoStates msg).cache n = some { signal with
        state := ((lastState (msg category) pin).map category.coerce).getD signal.state } := by
  obtain ⟨signal, hget, hfits⟩ := h.cached hn
  refine ⟨signal, hget, ?_⟩
  rw [URIODriver.onIoStates_eq, URIODriver.get_foldl_update hget hfits.state, h.filter_updates hn]
  · rw [List.getLast?_map, Option.map_map, lastState, Option.map_map]
    rfl
  · intro u hu hun
    obtain ⟨c, p, hplace, e, -, -, hvalue⟩ := h.mem_updates hu
    rw [hun, hn] at hplace
    cases hplace
    rw [hvalue, Category.coerce_coerce]

theorem get_onIoStates_other (h : Wired places d)
    (hn : ∀ category p, Dict.get places n ≠ some (.pin category p)) (msg : URIOStates) :
    Dict.get (d.onIoStates msg).cache n = Dict.get d.cache n := by
  rw [URIODriver.onIoStates_eq]
  exact URIODriver.get_foldl_update_of_notMem (h.updates_notMem hn msg)

/-- Every entry of the mapping is at its place. -/
theorem place_of_mem {mapping : URMappingDTO} (h : Wired mapping.places d) {e : String × Nat}
    (he : e ∈ mapping.pins category) : Dict.get mapping.places e.1 = some (.pin category e.2) :=
  Dict.get_of_mem h.nodup (URMappingDTO.mem_places.2 he)

theorem place_of_toolVoltage {mapping : URMappingDTO} (h : Wired mapping.places d)
    {e : URToolVoltageEntryDTO} (he : e ∈ mapping.toolVoltage) :
    Dict.get mapping.places e.ioName = some .toolVoltage :=
  Dict.get_of_mem h.nodup (List.mem_append_right _ (List.mem_map_of_mem he))

end Wired

/-! ### What is left alone -/

/-- All of a signal but its state. -/
def Signal.declared (signal : Signal) : String × SignalType × IODirectionEnum × Value :=
  (signal.ioName, signal.type, signal.direction, signal.default)

theorem Driver.Writes.keys_eq {d d' : Driver} (h : d.Writes d') :
    Dict.keys d'.cache = Dict.keys d.cache := by
  induction h with
  | refl => rfl
  | store _ ioName signal updated hget _ ih =>
    rw [← ih]
    exact Dict.keys_set_of_mem (List.mem_map_of_mem (Dict.mem_of_get hget))

theorem Driver.declared_snapshot (d : Driver) :
    d.snapshot.digital.map Signal.declared =
      ((Dict.values d.cache).map Signal.declared).filter (·.2.1 = .digital) ∧
    d.snapshot.analog.map Signal.declared =
      ((Dict.values d.cache).map Signal.declared).filter (·.2.1 ≠ .digital) := by
  rw [List.filter_map, List.filter_map]
  exact ⟨rfl, rfl⟩

namespace URIODriver

theorem declared_updateCache (d : URIODriver) (n : String) (value : Value) :
    (Dict.values (d.updateCache n value).cache).map Signal.declared =
      (Dict.values d.cache).map Signal.declared := by
  unfold updateCache
  split
  · rfl
  · next signal hget =>
    split
    · rfl
    · exact Dict.map_values_set hget rfl

theorem declared_onIoStates (d : URIODriver) (msg : URIOStates) :
    (Dict.values (d.onIoStates msg).cache).map Signal.declared =
      (Dict.values d.cache).map Signal.declared := by
  rw [onIoStates_eq]
  induction d.updates msg generalizing d with
  | nil => rfl
  | cons u us ih => exact (ih (d.update u)).trans (d.declared_updateCache u.1 u.2)

end URIODriver

/-! ### Messages -/

/-- `ur_msgs/Digital`. -/
structure UrDigital where
  pin : Nat
  state : Bool
deriving DecidableEq, Repr

/-- `ur_msgs/Analog`. The read path does not look at `domain`. -/
structure UrAnalog where
  pin : Nat
  domain : Nat
  state : ℚ
deriving DecidableEq, Repr

structure UrIOStatesMsg where
  digitalInStates : List UrDigital := []
  digitalOutStates : List UrDigital := []
  flagStates : List UrDigital := []
  analogInStates : List UrAnalog := []
  analogOutStates : List UrAnalog := []
deriving DecidableEq, Repr

def UrDigital.toPinState (e : UrDigital) : PinState := ⟨e.pin, .bool e.state⟩

def UrAnalog.toPinState (e : UrAnalog) : PinState := ⟨e.pin, .float e.state⟩

/-- `getattr(msg, category)`, of each entry what `_on_io_states` reads. -/
def UrIOStatesMsg.entries (msg : UrIOStatesMsg) : URIOStates
  | .digitalInStates => msg.digitalInStates.map UrDigital.toPinState
  | .digitalOutStates => msg.digitalOutStates.map UrDigital.toPinState
  | .flagStates => msg.flagStates.map UrDigital.toPinState
  | .analogInStates => msg.analogInStates.map UrAnalog.toPinState
  | .analogOutStates => msg.analogOutStates.map UrAnalog.toPinState

theorem UrIOStatesMsg.coerce_entries {msg : UrIOStatesMsg} {category : Category} {e : PinState}
    (he : e ∈ msg.entries category) : category.coerce e.state = e.state := by
  cases category
  all_goals
    obtain ⟨entry, -, rfl⟩ := List.mem_map.1 he
    simp [Category.coerce, Category.isDigital, UrDigital.toPinState, UrAnalog.toPinState,
      Value.toBool_bool, Value.toFloat, Value.num]

theorem UrIOStatesMsg.coerce_lastState (msg : UrIOStatesMsg) (category : Category) (pin : Nat) :
    (lastState (msg.entries category) pin).map category.coerce =
      lastState (msg.entries category) pin := by
  unfold lastState
  rw [Option.map_map]
  refine Option.map_congr fun e he => ?_
  exact coerce_entries (List.mem_filter.1 (List.mem_of_getLast? he)).1

/-- From the driver `d` to `d'`: every signal with a pin has the value that the message has for the pin
last, if it has one, and otherwise nothing changes. -/
structure ReadExactly (mapping : URMappingDTO) (msg : URIOStates) (d d' : URIODriver) : Prop where
  pins : ∀ category, ∀ e ∈ mapping.pins category, ∃ signal, Dict.get d.cache e.1 = some signal ∧
    Dict.get d'.cache e.1 =
      some { signal with state := (lastState (msg category) e.2).getD signal.state }
  toolVoltage : ∀ e ∈ mapping.toolVoltage, ∃ signal, Dict.get d.cache e.ioName = some signal ∧
    Dict.get d'.cache e.ioName = some signal
  digital : d'.snapshot.digital.map Signal.declared = d.snapshot.digital.map Signal.declared
  analog : d'.snapshot.analog.map Signal.declared = d.snapshot.analog.map Signal.declared
  again : (d'.onIoStates msg).cache = d'.cache

theorem Wired.again {places : Dict String Place} {d : URIODriver} (h : Wired places d)
    (hn : (Dict.keys d.cache).Nodup) (msg : URIOStates) :
    ((d.onIoStates msg).onIoStates msg).cache = (d.onIoStates msg).cache := by
  have hd' := h.onIoStates msg
  have hkeys := Driver.Writes.keys_eq (d.writes_onIoStates msg)
  have hkeys' := Driver.Writes.keys_eq ((d.onIoStates msg).writes_onIoStates msg)
  refine Dict.ext_get hkeys' (by rwa [hkeys', hkeys]) fun n => ?_
  by_cases hplace : ∃ category p, Dict.get places n = some (.pin category p)
  · obtain ⟨category, p, hplace⟩ := hplace
    obtain ⟨signal, -, hget⟩ := h.get_onIoStates hplace msg
    obtain ⟨signal', hget', hget''⟩ := hd'.get_onIoStates hplace msg
    obtain rfl := Option.some.inj (hget.symm.trans hget')
    rw [hget, hget'']
    cases lastState (msg category) p with
    | none => rfl
    | some value => rfl
  · push Not at hplace
    exact hd'.get_onIoStates_other hplace msg

/-- In every state of an accepted configuration a message is read exactly. -/
theorem reads_exactly {py : Pydantic} (hstr : ∀ s, py.parseStr (.str s) = some s)
    {device : List (Yaml × Yaml)} {init : URIODriver} (hinit : URIODriver.configure py device = .ok init)
    (callback : Bool) (ops : List URIODriver.Op) (msg : UrIOStatesMsg) :
    let d := ops.foldl URIODriver.exec { init with callback }
    ReadExactly init.device.mapping msg.entries d (d.onIoStates msg.entries) := by
  intro d
  have hstart : Wired init.device.mapping.places { init with callback } :=
    (wired_configure hstr hinit).congr rfl rfl rfl
  have hd : Wired init.device.mapping.places d := hstart.run ops
  have hnodup : (Dict.keys d.cache).Nodup := by
    obtain ⟨signals, -, -, hn, hbase, -⟩ := URIODriver.configure_ok hinit
    rw [(URIODriver.writes_foldl URIODriver.writes_exec ops _).keys_eq]
    exact (Driver.Consistent.of_signals hn (congrArg Driver.cache hbase)).nodup
  obtain ⟨hdigital, hanalog⟩ := Driver.declared_snapshot d.toDriver
  obtain ⟨hdigital', hanalog'⟩ := Driver.declared_snapshot (d.onIoStates msg.entries).toDriver
  refine ⟨fun category e he => ?_, fun e he => ?_, ?_, ?_, hd.again hnodup msg.entries⟩
  · have hread := hd.get_onIoStates (hd.place_of_mem he) msg.entries
    rwa [msg.coerce_lastState] at hread
  · have hplace := hd.place_of_toolVoltage he
    obtain ⟨signal, hget, -⟩ := hd.cached hplace
    refine ⟨signal, hget, ?_⟩
    rw [hd.get_onIoStates_other (fun c p hp => nomatch hplace.symm.trans hp), hget]
  · rw [hdigital', hdigital, URIODriver.declared_onIoStates]
  · rw [hanalog', hanalog, URIODriver.declared_onIoStates]

/-- A pin that comes twice, one that is not mapped, and the same pin in two categories. -/
theorem reads_exactly_sampleDevice : ∃ init, URIODriver.configure .strict sampleDevice = .ok init ∧
    let msg : UrIOStatesMsg := {
      digitalInStates := [⟨0, true⟩, ⟨7, true⟩, ⟨0, false⟩], analogInStates := [⟨0, 0, 3⟩] }
    let d := [.activate, .setAnalog "tool" 12 none].foldl URIODriver.exec { init with callback := true }
    ReadExactly init.device.mapping msg.entries d (d.onIoStates msg.entries) ∧
      (Dict.values (d.onIoStates msg.entries).cache).map (·.state) =
        [.bool false, .bool false, .bool false, .float 3, .float 0, .float 12] := by
  have hstr : ∀ s, Pydantic.strict.parseStr (.str s) = some s := fun _ => rfl
  have hinit : URIODriver.configure .strict sampleDevice = .ok _ := rfl
  refine ⟨_, hinit, ?_⟩
  intro msg d
  exact ⟨reads_exactly hstr hinit true [.activate, .setAnalog "tool" 12 none] msg, by decide⟩

end IoControllers
