import MovementController.Io.ReadPath
import MovementController.Io.BestEffort
import MovementController.Io.Lifecycle

/-!
# The tables of the UR driver agree

The cache, the read index and the write index come from two readings of the device block, and the node
builds its signal index from the cache. They agree in every state of the driver, so that a write that
passes the checks of the node fails only for its link to the robot.
-/

namespace IoControllers

/-- The names of all entries, category by category. -/
def URMappingDTO.ioNames (mapping : URMappingDTO) : List String :=
  (Category.digital ++ Category.analog).flatMap (fun category => (mapping.pins category).map Prod.fst) ++
    mapping.toolVoltage.map (·.ioName)

theorem URMappingDTO.keys_places (mapping : URMappingDTO) :
    Dict.keys mapping.places = mapping.ioNames := by
  unfold Dict.keys places ioNames
  rw [List.map_append, List.map_flatMap, List.map_map]
  simp only [List.map_map]
  rfl

/-- The kinds of the write targets of a signal of this type. -/
def SignalType.kinds : SignalType → List WriteKind
  | .digital => [.digitalOut, .flag]
  | .analog _ => [.analogOut, .toolVoltage]

/-- The cache and both indices are those of the mapping. -/
structure TablesAgree (mapping : URMappingDTO) (d : URIODriver) : Prop where
  ioNames : Dict.keys d.cache = mapping.ioNames
  nodup : mapping.ioNames.Nodup
  keyed : d.Keyed
  written : ∀ n, (Dict.get d.writeIndex n).isSome = true ↔
    ∃ signal, Dict.get d.cache n = some signal ∧ signal.direction = .OUT
  kind : ∀ n kind pin signal, Dict.get d.writeIndex n = some (kind, pin) →
    Dict.get d.cache n = some signal → kind ∈ signal.type.kinds
  read : ∀ category, ∀ e ∈ mapping.pins category, Dict.get (d.readIndex category) e.2 = some e.1
  reached : ∀ n signal, Dict.get d.cache n = some signal → n ∉ mapping.toolVoltage.map (·.ioName) →
    ∃ category pin, category.isDigital = decide (signal.type = .digital) ∧
      ∀ c p, Dict.get (d.readIndex c) p = some n ↔ c = category ∧ p = pin

namespace Place.Fits

variable {place : Place} {signal : Signal}

theorem direction_iff (h : place.Fits signal) : signal.direction = .OUT ↔ place.target.isSome = true := by
  cases place with
  | toolVoltage => exact iff_of_true h.1 rfl
  | pin category p =>
    rw [h.direction]
    cases category <;> simp [Category.direction, target, Category.kind]

theorem kind_mem (h : place.Fits signal) {target : WriteKind × Int} (ht : place.target = some target) :
    target.1 ∈ signal.type.kinds := by
  cases htype : signal.type with
  | digital =>
    cases place with
    | toolVoltage => exact absurd htype h.2
    | pin category p =>
      have hdigital := h.type
      rw [htype] at hdigital
      cases category with
      | digitalInStates => cases ht
      | digitalOutStates =>
        cases ht
        exact List.mem_cons_self
      | flagStates =>
        cases ht
        exact List.mem_cons_of_mem _ (List.mem_singleton_self _)
      | analogInStates => cases hdigital
      | analogOutStates => cases hdigital
  | analog domain =>
    cases place with
    | toolVoltage =>
      cases ht
      exact List.mem_cons_of_mem _ (List.mem_singleton_self _)
    | pin category p =>
      have hdigital := h.type
      rw [htype] at hdigital
      cases category with
      | digitalInStates => cases hdigital
      | digitalOutStates => cases hdigital
      | flagStates => cases hdigital
      | analogInStates => cases ht
      | analogOutStates =>
        cases ht
        exact List.mem_cons_self

end Place.Fits

namespace Wired

variable {d : URIODriver} {n : String}

theorem tablesAgree {mapping : URMappingDTO} (h : Wired mapping.places d)
    (hkeys : Dict.keys d.cache = Dict.keys mapping.places) : TablesAgree mapping d := by
  have hplace {n : String} {signal : Signal} (hget : Dict.get d.cache n = some signal) :
      ∃ place, Dict.get mapping.places n = some place ∧ place.Fits signal := by
    cases hp : Dict.get mapping.places n with
    | none =>
      rw [h.cached_none hp] at hget
      cases hget
    | some place =>
      obtain ⟨signal', hget', hfits⟩ := h.cached hp
      rw [hget] at hget'
      exact ⟨place, rfl, Option.some.inj hget' ▸ hfits⟩
  refine ⟨hkeys.trans mapping.keys_places, mapping.keys_places ▸ h.nodup, h.keyed, fun n => ?_,
    fun n kind pin signal hwrite hget => ?_, fun category e he => ?_, fun n signal hget htool => ?_⟩
  · rw [h.write]
    constructor
    · intro hsome
      cases hp : Dict.get mapping.places n with
      | none =>
        rw [hp] at hsome
        cases hsome
      | some place =>
        rw [hp] at hsome
        obtain ⟨signal, hget, hfits⟩ := h.cached hp
        exact ⟨signal, hget, hfits.direction_iff.2 hsome⟩
    · rintro ⟨signal, hget, hout⟩
      obtain ⟨place, hp, hfits⟩ := hplace hget
      rw [hp]
      exact hfits.direction_iff.1 hout
  · obtain ⟨place, hp, hfits⟩ := hplace hget
    rw [h.write, hp] at hwrite
    exact hfits.kind_mem hwrite
  · exact (h.read category e.2 e.1).2 (h.place_of_mem he)
  · obtain ⟨place, hp, hfits⟩ := hplace hget
    cases place with
    | toolVoltage => exact absurd (URMappingDTO.toolVoltage_of_mem (Dict.mem_of_get hp)) htool
    | pin category pin =>
      refine ⟨category, pin, hfits.type.symm, fun c p => ?_⟩
      rw [h.read, hp, Option.some.injEq, Place.pin.injEq]
      exact and_congr eq_comm eq_comm

end Wired

/-! ### The signal index -/

namespace Driver.Consistent

variable {d : Driver}

theorem nodup_snapshot (h : d.Consistent) :
    ((d.snapshot.digital ++ d.snapshot.analog).map (·.ioName)).Nodup := by
  have hperm : (d.snapshot.digital ++ d.snapshot.analog).Perm (Dict.values d.cache) := by
    have hsplit := List.filter_append_perm (fun s : Signal => decide (s.type = .digital))
      (Dict.values d.cache)
    simpa only [snapshot, decide_not] using hsplit
  have hnames : (Dict.values d.cache).map (·.ioName) = Dict.keys d.cache := by
    rw [Dict.values, Dict.keys, List.map_map]
    refine List.map_congr_left fun p hp => ?_
    exact h.keyed p.1 p.2 (Dict.get_of_mem h.nodup hp)
  rw [(hperm.map _).nodup_iff, hnames]
  exact h.nodup

/-- The signal index has the type and the direction of the cached signals. -/
theorem get_signalIndex (h : d.Consistent) {n : String} {entry : SignalMeta}
    (hget : Dict.get d.snapshot.signalIndex n = some entry) :
    ∃ signal, Dict.get d.cache n = some signal ∧ signal.toMeta = entry := by
  have hkeys : (((d.snapshot.digital ++ d.snapshot.analog).map fun s => (s.ioName, s.toMeta)).map
      Prod.fst).Nodup := by
    rw [List.map_map]
    exact h.nodup_snapshot
  rw [IOStatesSnapshot.signalIndex, Dict.ofList_of_nodup hkeys] at hget
  obtain ⟨signal, hsignal, heq⟩ := List.mem_map.1 (Dict.mem_of_get hget)
  cases heq
  exact ⟨signal, h.mem_snapshot.1 hsignal, rfl⟩

end Driver.Consistent

/-! ### Writes that the node lets through -/

/-- The exception is about the link to the robot, not about the name or its type. -/
def DriverError.OfLink (exc : DriverError) : Prop :=
  exc.errorClass ≠ .KeyError ∧ exc.errorClass ≠ .ValueError ∧ exc.errorClass ≠ .AssertionError

namespace URIODriver

theorem ofLink_send {d : URIODriver} {request : Request} {fault : Option String} {exc : DriverError}
    (h : (d.send request fault).error = some exc) : exc.OfLink := by
  cases fault with
  | none => cases h
  | some text =>
    cases h
    exact ⟨nofun, nofun, nofun⟩

end URIODriver

namespace Wired

variable {places : Dict String Place} {d : URIODriver} {n : String} {place : Place} {signal : Signal}
  {fault : Option String} {exc : DriverError}

theorem requireWrite (h : Wired places d) (hp : Dict.get places n = some place)
    {target : WriteKind × Int} (ht : place.target = some target) :
    d.requireWrite n = .ok target ∨ ∃ text, d.requireWrite n = .error (.runtimeError text) := by
  have hget : Dict.get d.writeIndex n = some target := by
    rw [h.write, hp]
    exact ht
  unfold URIODriver.requireWrite
  split
  · exact .inr ⟨_, rfl⟩
  · rw [hget]
    exact .inl rfl

theorem target_of_output (h : Wired places d) (hget : Dict.get d.cache n = some signal)
    (hout : signal.direction = .OUT) : ∃ place target, Dict.get places n = some place ∧
      place.Fits signal ∧ place.target = some target := by
  cases hp : Dict.get places n with
  | none =>
    rw [h.cached_none hp] at hget
    cases hget
  | some place =>
    obtain ⟨signal', hget', hfits⟩ := h.cached hp
    obtain rfl := Option.some.inj (hget.symm.trans hget')
    obtain ⟨target, ht⟩ := Option.isSome_iff_exists.1 (hfits.direction_iff.1 hout)
    exact ⟨place, target, rfl, hfits, ht⟩

theorem setDigital_ofLink (h : Wired places d) (hget : Dict.get d.cache n = some signal)
    (hout : signal.direction = .OUT) (htype : signal.type = .digital) {state : Bool}
    (hexc : (d.setDigital n state fault).error = some exc) : exc.OfLink := by
  obtain ⟨place, ⟨kind, pin⟩, hp, hfits, ht⟩ := h.target_of_output hget hout
  have hkind : kind ∈ signal.type.kinds := hfits.kind_mem ht
  have hdigital : kind = .digitalOut ∨ kind = .flag := by
    rw [htype] at hkind
    simpa [SignalType.kinds] using hkind
  unfold URIODriver.setDigital at hexc
  rcases h.requireWrite hp ht with hok | ⟨text, herror⟩
  · rw [hok] at hexc
    dsimp only at hexc
    rw [if_pos hdigital] at hexc
    exact URIODriver.ofLink_send hexc
  · rw [herror] at hexc
    cases hexc
    exact ⟨nofun, nofun, nofun⟩

theorem setAnalog_ofLink (h : Wired places d) (hget : Dict.get d.cache n = some signal)
    (hout : signal.direction = .OUT) {domain : IODomainEnum} (htype : signal.type = .analog domain)
    {state : ℚ} (hexc : (d.setAnalog n state fault).error = some exc) : exc.OfLink := by
  obtain ⟨place, ⟨kind, pin⟩, hp, hfits, ht⟩ := h.target_of_output hget hout
  have hkind : kind ∈ signal.type.kinds := hfits.kind_mem ht
  unfold URIODriver.setAnalog at hexc
  rcases h.requireWrite hp ht with hok | ⟨text, herror⟩
  · rw [hok] at hexc
    cases kind with
    | analogOut =>
      dsimp only at hexc
      rw [hget] at hexc
      dsimp only at hexc
      rw [htype] at hexc
      exact URIODriver.ofLink_send hexc
    | toolVoltage =>
      cases fault with
      | none => cases hexc
      | some text => exact URIODriver.ofLink_send hexc
    | digitalOut =>
      rw [htype] at hkind
      simp [SignalType.kinds] at hkind
    | flag =>
      rw [htype] at hkind
      simp [SignalType.kinds] at hkind
  · rw [herror] at hexc
    cases hexc
    exact ⟨nofun, nofun, nofun⟩

/-- A write that the node lets through fails for the link to the robot, or not at all. -/
theorem write_ofLink (h : Wired places d) (hget : Dict.get d.cache n = some signal) {e : SetEntry}
    (he : e.ioName = n) (hmeta : signal.toMeta = (e.isDigital, .OUT)) {i : ℕ} {calls : List Call}
    (hexc : (IODriver.write fault i e (.ur d, calls)).2 = some exc) : exc.OfLink := by
  obtain ⟨htype, hout⟩ := Prod.mk.inj hmeta
  subst he
  cases e with
  | digital io => exact h.setDigital_ofLink hget hout (of_decide_eq_true htype) hexc
  | analog io =>
    cases hanalog : signal.type with
    | digital =>
      rw [hanalog] at htype
      cases htype
    | analog domain => exact h.setAnalog_ofLink hget hout hanalog hexc

end Wired

/-- What is at a place has the type and the direction of the place. -/
theorem Place.Fits.toMeta_eq {place : Place} {signal signal' : Signal} (h : place.Fits signal)
    (h' : place.Fits signal') : signal'.toMeta = signal.toMeta := by
  unfold Signal.toMeta
  cases place with
  | toolVoltage => rw [h.1, h'.1, decide_eq_false h.2, decide_eq_false h'.2]
  | pin category pin => rw [h.direction, h'.direction, h.type, h'.type]

/-- The tables agree in every state of the driver, and what passes the checks of the node against the
index that `on_configure` builds raises nothing but an error of the link. -/
theorem tables_agree {py : Pydantic} (hstr : ∀ s, py.parseStr (.str s) = some s)
    {device : List (Yaml × Yaml)} {init : URIODriver} (hinit : URIODriver.configure py device = .ok init)
    (callback : Bool) (ops : List URIODriver.Op) :
    let d := ops.foldl URIODriver.exec { init with callback }
    TablesAgree init.device.mapping d ∧
      ∀ (n : GpioController) config rate e fault i calls exc,
        namesOutput (n.setUp config rate (.ur init)).signalIndex e = true →
          (IODriver.write fault i e (.ur d, calls)).2 = some exc → exc.OfLink := by
  intro d
  have hwired : Wired init.device.mapping.places init := wired_configure hstr hinit
  have hstart : Wired init.device.mapping.places { init with callback } := hwired.congr rfl rfl rfl
  have hd : Wired init.device.mapping.places d := hstart.run ops
  have hkeys : Dict.keys d.cache = Dict.keys init.device.mapping.places := by
    rw [(URIODriver.writes_foldl URIODriver.writes_exec ops _).keys_eq]
    have hinitial := keys_configure hstr hinit
    exact hinitial
  refine ⟨hd.tablesAgree hkeys, ?_⟩
  intro n config rate e fault i calls exc hnames hexc
  obtain ⟨signals, -, -, hnodup, hbase, -⟩ := URIODriver.configure_ok hinit
  have hconsistent : init.Consistent := .of_signals hnodup (congrArg Driver.cache hbase)
  rw [(n.setUp_frame config rate (.ur init)).2.1, namesOutput_iff] at hnames
  obtain ⟨signal, hget, hmeta⟩ := hconsistent.get_signalIndex hnames
  -- the signal that is cached now is at the same place as the one that the index was built from
  obtain ⟨place, target, hp, hfits, -⟩ := hwired.target_of_output hget (congrArg Prod.snd hmeta)
  obtain ⟨signal', hget', hfits'⟩ := hd.cached hp
  exact hd.write_ofLink hget' rfl ((hfits.toMeta_eq hfits').trans hmeta) hexc

/-- The tool voltage is written with the clients gone: a `RuntimeError`, which is one of the link. -/
theorem tables_agree_sampleDevice : ∃ init, URIODriver.configure .strict sampleDevice = .ok init ∧
    let d := [.activate, .setAnalog "tool" 12 none, .deactivate].foldl URIODriver.exec
      { init with callback := true }
    let n := ({} : GpioController).setUp sampleConfig 0 (.ur init)
    let e : SetEntry := .analog ⟨"tool", .OUT, 24, .VOLTAGE⟩
    TablesAgree init.device.mapping d ∧ namesOutput n.signalIndex e = true ∧
      ∃ exc, (IODriver.write none 0 e (.ur d, [])).2 = some exc ∧ exc.OfLink := by
  have hstr : ∀ s, Pydantic.strict.parseStr (.str s) = some s := fun _ => rfl
  have hinit : URIODriver.configure .strict sampleDevice = .ok _ := rfl
  refine ⟨_, hinit, ?_⟩
  intro d n e
  obtain ⟨htables, hwrites⟩ := tables_agree hstr hinit true
    [.activate, .setAnalog "tool" 12 none, .deactivate]
  exact ⟨htables, rfl, _, rfl, hwrites {} sampleConfig 0 e none 0 [] _ rfl rfl⟩

end IoControllers
