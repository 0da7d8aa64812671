import MovementController.Io.Drivers

/-!
# The wiring of the UR driver

`configure` reads the device block twice, and the tables that it builds have to fit together: the
cache comes from the normalized signals, the read index and the write index from the DTO. `Place` is
where a signal is on the robot; `Wired` says that one table of places explains all three.
-/

namespace IoControllers

namespace Category

def direction : Category → IODirectionEnum
  | digitalInStates | analogInStates => .IN
  | digitalOutStates | flagStates | analogOutStates => .OUT

def isDigital : Category → Bool
  | digitalInStates | digitalOutStates | flagStates => true
  | analogInStates | analogOutStates => false

theorem mem_all (category : Category) : category ∈ digital ++ analog := by
  cases category <;> decide

/-- A value as the category carries it. -/
def coerce (category : Category) (value : Value) : Value :=
  if category.isDigital then .bool value.toBool else .float value.toFloat

/-- A signal as the normalizer makes it for an entry of the category. -/
structure Fits (category : Category) (signal : Signal) : Prop where
  direction : signal.direction = category.direction
  type : decide (signal.type = .digital) = category.isDigital
  state : category.coerce signal.state = signal.state

end Category

/-- Where a signal is on the robot. -/
inductive Place where
  | pin (category : Category) (pin : Nat)
  | toolVoltage
deriving DecidableEq, Repr

namespace Place

def Fits : Place → Signal → Prop
  | pin category _, signal => category.Fits signal
  | toolVoltage, signal => signal.direction = .OUT ∧ signal.type ≠ .digital

/-- The item of the write index. -/
def target : Place → Option (WriteKind × Int)
  | pin category p => category.kind.map fun kind => (kind, (p : Int))
  | toolVoltage => some (.toolVoltage, -1)

end Place

/-- The places of all entries, in the order of the normalizer. -/
def URMappingDTO.places (mapping : URMappingDTO) : Dict String Place :=
  (Category.digital ++ Category.analog).flatMap (fun category =>
    (mapping.pins category).map fun e => (e.1, Place.pin category e.2)) ++
    mapping.toolVoltage.map fun e => (e.ioName, Place.toolVoltage)

/-- The signal that the normalizer makes of an entry. -/
structure Declares (e : String × Place) (signal : Signal) : Prop where
  ioName : signal.ioName = e.1
  fits : e.2.Fits signal
  state : signal.state = signal.default

/-! ### The two readings of the device block -/

section Readings

variable {py : Pydantic}

theorem URDeviceConfigDTO.parse_some {device : List (Yaml × Yaml)} {dto : URDeviceConfigDTO}
    (h : URDeviceConfigDTO.parse py device = some dto) :
    ∃ raw, lookup device "mapping" = some raw ∧ URMappingDTO.parse py raw = some dto.mapping := by
  unfold parse at h
  obtain ⟨controllerNamespace, -, h⟩ := Option.bind_eq_some_iff.1 h
  obtain ⟨serviceTimeoutSec, -, h⟩ := Option.bind_eq_some_iff.1 h
  obtain ⟨mapping, hmapping, h⟩ := Option.bind_eq_some_iff.1 h
  have heq : dto.mapping = mapping := by
    split at h
    · rw [← Option.some.inj h]
    · cases h
  unfold parseField at hmapping
  split at hmapping
  · next raw hraw => exact ⟨raw, hraw, by rw [heq, hmapping]⟩
  · cases hmapping

abbrev parseEntries {α : Type} (entry : List (Yaml × Yaml)) (category : String)
    (parse : Yaml → Option α) : Option (List α) :=
  parseField entry category (parseList parse) (some [])

theorem URMappingDTO.parse_some {raw : Yaml} {dto : URMappingDTO}
    (h : URMappingDTO.parse py raw = some dto) :
    ∃ entry, raw = .dict entry ∧
      parseEntries entry "digital_in_states" (URDigitalEntryDTO.parse py) = some dto.digitalInStates ∧
      parseEntries entry "digital_out_states" (URDigitalEntryDTO.parse py) = some dto.digitalOutStates ∧
      parseEntries entry "flag_states" (URDigitalEntryDTO.parse py) = some dto.flagStates ∧
      parseEntries entry "analog_in_states" (URAnalogEntryDTO.parse py) = some dto.analogInStates ∧
      parseEntries entry "analog_out_states" (URAnalogEntryDTO.parse py) = some dto.analogOutStates ∧
      parseEntries entry "tool_voltage" (URToolVoltageEntryDTO.parse py) = some dto.toolVoltage := by
  unfold parse at h
  split at h
  · next entry =>
    obtain ⟨digitalIn, hdi, h⟩ := Option.bind_eq_some_iff.1 h
    obtain ⟨digitalOut, hdo, h⟩ := Option.bind_eq_some_iff.1 h
    obtain ⟨flags, hfl, h⟩ := Option.bind_eq_some_iff.1 h
    obtain ⟨analogIn, hai, h⟩ := Option.bind_eq_some_iff.1 h
    obtain ⟨analogOut, hao, h⟩ := Option.bind_eq_some_iff.1 h
    obtain ⟨toolVoltage, htv, h⟩ := Option.bind_eq_some_iff.1 h
    rw [← Option.some.inj h]
    exact ⟨entry, rfl, hdi, hdo, hfl, hai, hao, htv⟩
  · cases h

theorem normalizeUrMapping_ok {device mapping : List (Yaml × Yaml)} {signals : List Signal}
    (hm : lookup device "mapping" = some (.dict mapping))
    (h : normalizeUrMapping device = .ok signals) :
    ∃ sigs : Category → List Signal, ∃ tool,
      (∀ category, normalizeCategory mapping category.key
        (if category.isDigital then normalizeDigital category.key category.direction
          else normalizeAnalog category.key category.direction) = .ok (sigs category)) ∧
      normalizeCategory mapping "tool_voltage" normalizeToolVoltage = .ok tool ∧
      signals = (Category.digital ++ Category.analog).flatMap sigs ++ tool := by
  unfold normalizeUrMapping at h
  rw [hm] at h
  obtain ⟨digitalIn, hdi, h⟩ := Fallible.bind_ok h
  obtain ⟨digitalOut, hdo, h⟩ := Fallible.bind_ok h
  obtain ⟨flags, hfl, h⟩ := Fallible.bind_ok h
  obtain ⟨analogIn, hai, h⟩ := Fallible.bind_ok h
  obtain ⟨analogOut, hao, h⟩ := Fallible.bind_ok h
  obtain ⟨tool, htv, h⟩ := Fallible.bind_ok h
  refine ⟨fun
    | .digitalInStates => digitalIn
    | .digitalOutStates => digitalOut
    | .flagStates => flags
    | .analogInStates => analogIn
    | .analogOutStates => analogOut, tool, fun category => ?_, htv, ?_⟩
  · cases category
    · exact hdi
    · exact hdo
    · exact hfl
    · exact hai
    · exact hao
  · rw [← Except.ok.inj h]
    simp [Category.digital, Category.analog]

theorem URDigitalEntryDTO.parse_some {raw : Yaml} {e : URDigitalEntryDTO}
    (h : URDigitalEntryDTO.parse py raw = some e) :
    ∃ entry, raw = .dict entry ∧ parseField entry "io_name" py.parseStr none = some e.ioName ∧
      parseField entry "default" py.parseBool (some false) = some e.default := by
  unfold parse at h
  split at h
  · next entry =>
    obtain ⟨ioName, hioName, h⟩ := Option.bind_eq_some_iff.1 h
    obtain ⟨pin, -, h⟩ := Option.bind_eq_some_iff.1 h
    obtain ⟨default, hdefault, h⟩ := Option.bind_eq_some_iff.1 h
    rw [← Option.some.inj h]
    exact ⟨entry, rfl, hioName, hdefault⟩
  · cases h

theorem URAnalogEntryDTO.parse_some {raw : Yaml} {e : URAnalogEntryDTO}
    (h : URAnalogEntryDTO.parse py raw = some e) :
    ∃ entry, raw = .dict entry ∧ parseField entry "io_name" py.parseStr none = some e.ioName ∧
      parseField entry "domain" py.parseDomain (some .VOLTAGE) = some e.domain ∧
      parseField entry "default" py.parseFloat (some 0) = some e.default := by
  unfold parse at h
  split at h
  · next entry =>
    obtain ⟨ioName, hioName, h⟩ := Option.bind_eq_some_iff.1 h
    obtain ⟨pin, -, h⟩ := Option.bind_eq_some_iff.1 h
    obtain ⟨domain, hdomain, h⟩ := Option.bind_eq_some_iff.1 h
    obtain ⟨default, hdefault, h⟩ := Option.bind_eq_some_iff.1 h
    rw [← Option.some.inj h]
    exact ⟨entry, rfl, hioName, hdomain, hdefault⟩
  · cases h

theorem URToolVoltageEntryDTO.parse_some {raw : Yaml} {e : URToolVoltageEntryDTO}
    (h : URToolVoltageEntryDTO.parse py raw = some e) :
    ∃ entry, raw = .dict entry ∧ parseField entry "io_name" py.parseStr none = some e.ioName ∧
      parseField entry "default" py.parseFloat (some 0) = some e.default := by
  unfold parse at h
  split at h
  · next entry =>
    obtain ⟨ioName, hioName, h⟩ := Option.bind_eq_some_iff.1 h
    obtain ⟨default, hdefault, h⟩ := Option.bind_eq_some_iff.1 h
    rw [← Option.some.inj h]
    exact ⟨entry, rfl, hioName, hdefault⟩
  · cases h

/-- The two readings go over the same entries. -/
theorem category_passes {α : Type} {mapping : List (Yaml × Yaml)} {category : String}
    {parse : Yaml → Option α} {normalize : Yaml → Except ConfigError Signal}
    {entries : List α} {signals : List Signal}
    (hp : parseEntries mapping category parse = some entries)
    (hn : normalizeCategory mapping category normalize = .ok signals) :
    ∃ raws, categoryEntries mapping category = .ok raws ∧
      List.Forall₂ (fun raw e => parse raw = some e) raws entries ∧
      List.Forall₂ (fun raw signal => normalize raw = .ok signal) raws signals := by
  obtain ⟨raws, hraws, hn⟩ := Fallible.bind_ok hn
  have hparse : raws.mapM parse = some entries := by
    unfold parseEntries parseField at hp
    unfold categoryEntries at hraws
    cases hl : lookup mapping category with
    | none =>
      rw [hl] at hp hraws
      rw [← Except.ok.inj hraws]
      exact hp
    | some raw =>
      rw [hl] at hp hraws
      cases raw with
      | list l =>
        rw [← Except.ok.inj hraws]
        exact hp
      | set l =>
        -- the normalizer gets past the entries of a set only if there are none
        cases l with
        | nil =>
          rw [← Except.ok.inj hraws]
          exact hp
        | cons raw l => cases hraws
      | _ => cases hp
  exact ⟨raws, hraws, Fallible.forall₂_of_mapM_some hparse, Fallible.forall₂_of_mapM_ok hn⟩

theorem category_agree {α : Type} {R : α → Signal → Prop} {mapping : List (Yaml × Yaml)}
    {category : String} {parse : Yaml → Option α} {normalize : Yaml → Except ConfigError Signal}
    (hR : ∀ raw e signal, parse raw = some e → normalize raw = .ok signal → R e signal)
    {entries : List α} {signals : List Signal}
    (hp : parseEntries mapping category parse = some entries)
    (hn : normalizeCategory mapping category normalize = .ok signals) :
    List.Forall₂ R entries signals := by
  obtain ⟨raws, -, hparse, hnormalize⟩ := category_passes hp hn
  exact Fallible.forall₂_of_passes hR hparse hnormalize

variable (hstr : ∀ s, py.parseStr (.str s) = some s)

include hstr

theorem ioName_agree {entry : List (Yaml × Yaml)} {category ioName ioName' : String}
    (hp : parseField entry "io_name" py.parseStr none = some ioName)
    (hn : requireIoName entry category = .ok ioName') : ioName' = ioName := by
  unfold requireIoName at hn
  split at hn
  · next s hs =>
    unfold parseField at hp
    rw [hs] at hp
    split_ifs at hn
    rw [← Except.ok.inj hn]
    exact Option.some.inj ((hstr s).symm.trans hp)
  · cases hn

theorem digital_agree {category : Category} (hc : category.isDigital = true) {raw : Yaml}
    {e : URDigitalEntryDTO} {signal : Signal} (hp : URDigitalEntryDTO.parse py raw = some e)
    (hn : normalizeDigital category.key category.direction raw = .ok signal) :
    Declares (e.ioName, .pin category e.pin) signal := by
  obtain ⟨entry, rfl, hioName, -⟩ := URDigitalEntryDTO.parse_some hp
  obtain ⟨_, ioName', ⟨⟩, hioName', rfl⟩ := normalizeDigital_ok hn
  refine ⟨ioName_agree hstr hioName hioName', ⟨rfl, ?_, ?_⟩, rfl⟩
  · simp [hc]
  · simp [Category.coerce, hc, Value.toBool, Value.num]

theorem analog_agree {category : Category} (hc : category.isDigital = false) {raw : Yaml}
    {e : URAnalogEntryDTO} {signal : Signal} (hp : URAnalogEntryDTO.parse py raw = some e)
    (hn : normalizeAnalog category.key category.direction raw = .ok signal) :
    Declares (e.ioName, .pin category e.pin) signal := by
  obtain ⟨entry, rfl, hioName, -⟩ := URAnalogEntryDTO.parse_some hp
  obtain ⟨_, ioName', default, domain, ⟨⟩, hioName', -, -, rfl⟩ := normalizeAnalog_ok hn
  refine ⟨ioName_agree hstr hioName hioName', ⟨rfl, ?_, ?_⟩, rfl⟩
  · simp [hc]
  · simp [Category.coerce, hc, Value.toFloat, Value.num]

theorem toolVoltage_agree {raw : Yaml} {e : URToolVoltageEntryDTO} {signal : Signal}
    (hp : URToolVoltageEntryDTO.parse py raw = some e) (hn : normalizeToolVoltage raw = .ok signal) :
    Declares (e.ioName, .toolVoltage) signal := by
  obtain ⟨entry, rfl, hioName, -⟩ := URToolVoltageEntryDTO.parse_some hp
  obtain ⟨_, ioName', default, ⟨⟩, hioName', -, rfl⟩ := normalizeToolVoltage_ok hn
  exact ⟨ioName_agree hstr hioName hioName', ⟨rfl, by simp⟩, rfl⟩

theorem places_agree {device : List (Yaml × Yaml)} {dto : URDeviceConfigDTO} {signals : List Signal}
    (hp : URDeviceConfigDTO.parse py device = some dto)
    (hn : normalizeMapping .UR device = .ok signals) :
    List.Forall₂ Declares dto.mapping.places signals := by
  obtain ⟨raw, hraw, hp⟩ := URDeviceConfigDTO.parse_some hp
  obtain ⟨mapping, hmapping, hdi, hdo, hfl, hai, hao, htv⟩ := URMappingDTO.parse_some hp
  rw [hmapping] at hraw
  obtain ⟨sigs, tool, hsigs, htool, rfl⟩ := normalizeUrMapping_ok hraw hn
  have hcategory (category : Category) : List.Forall₂ Declares
      ((dto.mapping.pins category).map fun e => (e.1, .pin category e.2)) (sigs category) := by
    have hs := hsigs category
    rw [List.forall₂_map_left_iff]
    cases category
    all_goals
      rw [URMappingDTO.pins, List.forall₂_map_left_iff]
    · exact category_agree (fun _ _ _ => digital_agree hstr rfl) hdi hs
    · exact category_agree (fun _ _ _ => digital_agree hstr rfl) hdo hs
    · exact category_agree (fun _ _ _ => digital_agree hstr rfl) hfl hs
    · exact category_agree (fun _ _ _ => analog_agree hstr rfl) hai hs
    · exact category_agree (fun _ _ _ => analog_agree hstr rfl) hao hs
  have hcategories (cs : List Category) : List.Forall₂ Declares
      (cs.flatMap fun c => (dto.mapping.pins c).map fun e => (e.1, .pin c e.2)) (cs.flatMap sigs) := by
    induction cs with
    | nil => exact .nil
    | cons c cs ih => exact List.rel_append (hcategory c) ih
  refine List.rel_append (hcategories _) ?_
  rw [List.forall₂_map_left_iff]
  exact category_agree (fun _ _ _ => toolVoltage_agree hstr) htv htool

end Readings

/-! ### The tables of the driver -/

theorem addPin_foldlM {category : Category} {pins : List (String × Nat)} {d d' : Dict Nat String}
    (h : pins.foldlM (URIODriver.addPin category) d = .ok d') (hn : (Dict.keys d).Nodup) :
    d' = d ++ pins.map Prod.swap ∧ (Dict.keys d').Nodup := by
  induction pins generalizing d with
  | nil =>
    rw [List.foldlM_nil] at h
    rw [← Except.ok.inj h, List.map_nil, List.append_nil]
    exact ⟨rfl, hn⟩
  | cons e pins ih =>
    rw [List.foldlM_cons] at h
    obtain ⟨d₁, hd₁, h⟩ := Fallible.bind_ok h
    unfold URIODriver.addPin at hd₁
    split_ifs at hd₁ with hpin
    have hnew : e.2 ∉ Dict.keys d := by
      rw [← Dict.get_eq_none]
      simpa using hpin
    have heq : d₁ = d ++ [e.swap] := by
      rw [← Except.ok.inj hd₁, Dict.set_of_notMem hnew]
      rfl
    rw [heq] at h
    have hn₁ : (Dict.keys (d ++ [e.swap])).Nodup := by
      rw [Dict.keys, List.map_append, List.map_singleton, ← List.concat_eq_append]
      exact hn.concat hnew
    obtain ⟨hd', hn'⟩ := ih h hn₁
    refine ⟨?_, hn'⟩
    rw [hd', List.append_assoc]
    rfl

theorem URMappingDTO.mem_places {mapping : URMappingDTO} {ioName : String} {category : Category}
    {pin : Nat} :
    (ioName, Place.pin category pin) ∈ mapping.places ↔ (ioName, pin) ∈ mapping.pins category := by
  unfold places
  rw [List.mem_append, List.mem_flatMap]
  constructor
  · rintro (⟨c, -, hmem⟩ | hmem)
    · obtain ⟨e, he, heq⟩ := List.mem_map.1 hmem
      cases heq
      exact he
    · obtain ⟨e, -, heq⟩ := List.mem_map.1 hmem
      cases heq
  · intro hmem
    exact .inl ⟨category, category.mem_all, List.mem_map.2 ⟨_, hmem, rfl⟩⟩

theorem URMappingDTO.toolVoltage_of_mem {mapping : URMappingDTO} {n : String}
    (h : (n, Place.toolVoltage) ∈ mapping.places) : n ∈ mapping.toolVoltage.map (·.ioName) := by
  rcases List.mem_append.1 h with h | h
  · obtain ⟨category, -, h⟩ := List.mem_flatMap.1 h
    obtain ⟨e, -, heq⟩ := List.mem_map.1 h
    cases heq
  · obtain ⟨e, he, heq⟩ := List.mem_map.1 h
    cases heq
    exact List.mem_map_of_mem he

theorem URMappingDTO.writeItems_eq (mapping : URMappingDTO) :
    URIODriver.writeItems mapping = Dict.mapValues Place.target mapping.places := by
  have hpins (category : Category) : (category.kind.toList.flatMap fun kind =>
      (mapping.pins category).map fun e => (e.1, (kind, (e.2 : Int)))) =
      Dict.mapValues Place.target ((mapping.pins category).map fun e => (e.1, .pin category e.2)) := by
    unfold Dict.mapValues
    rw [List.filterMap_map]
    cases hk : category.kind with
    | none => simp [Function.comp_def, Place.target, hk]
    | some kind => simp [Function.comp_def, Place.target, hk]
  have hcategories (cs : List Category) : (cs.flatMap fun category =>
      category.kind.toList.flatMap fun kind =>
        (mapping.pins category).map fun e => (e.1, (kind, (e.2 : Int)))) =
      Dict.mapValues Place.target
        (cs.flatMap fun c => (mapping.pins c).map fun e => (e.1, .pin c e.2)) := by
    induction cs with
    | nil => rfl
    | cons c cs ih =>
      rw [List.flatMap_cons, List.flatMap_cons, hpins, ih, Dict.mapValues, Dict.mapValues,
        Dict.mapValues, List.filterMap_append]
  unfold URIODriver.writeItems places
  rw [hcategories, Dict.mapValues, Dict.mapValues, List.filterMap_append, List.filterMap_map]
  simp [Function.comp_def, Place.target]

theorem keys_places {places : Dict String Place} {signals : List Signal}
    (h : List.Forall₂ Declares places signals) : Dict.keys places = signals.map (·.ioName) := by
  rw [Dict.keys, ← List.forall₂_eq_eq_eq, List.forall₂_map_left_iff, List.forall₂_map_right_iff]
  exact h.imp fun _ _ hdecl => hdecl.ioName.symm

/-- One table of places explains the cache and both indices. -/
structure Wired (places : Dict String Place) (d : URIODriver) : Prop where
  nodup : (Dict.keys places).Nodup
  keyed : d.Keyed
  fits : ∀ n, Option.Rel Place.Fits (Dict.get places n) (Dict.get d.cache n)
  write : ∀ n, Dict.get d.writeIndex n = (Dict.get places n).bind Place.target
  read : ∀ c pin n, Dict.get (d.readIndex c) pin = some n ↔ Dict.get places n = some (.pin c pin)

theorem wired_configure {py : Pydantic} (hstr : ∀ s, py.parseStr (.str s) = some s)
    {device : List (Yaml × Yaml)} {d : URIODriver} (h : URIODriver.configure py device = .ok d) :
    Wired d.device.mapping.places d := by
  obtain ⟨signals, hparse, hsignals, hn, hd, hread, hwrite⟩ := URIODriver.configure_ok h
  have hagree := places_agree hstr hparse hsignals
  have hcache : d.cache = signals.map fun s => (s.ioName, s) := congrArg Driver.cache hd
  have hrel : List.Forall₂ (fun p p' => p.1 = p'.1 ∧ Place.Fits p.2 p'.2) d.device.mapping.places
      d.cache := by
    rw [hcache, List.forall₂_map_right_iff]
    exact hagree.imp fun _ _ hdecl => ⟨hdecl.ioName.symm, hdecl.fits⟩
  have hkeys : (Dict.keys d.device.mapping.places).Nodup := by
    rw [keys_places hagree]
    exact hn
  refine ⟨hkeys, .of_signals hcache, fun n => Dict.get_rel hrel n, fun n => ?_, fun c pin n => ?_⟩
  · have hsub := Dict.keys_mapValues_sublist Place.target d.device.mapping.places
    rw [hwrite, URMappingDTO.writeItems_eq, Dict.ofList_of_nodup (hkeys.sublist hsub),
      Dict.get_mapValues hkeys]
  · obtain ⟨heq, hpins⟩ := addPin_foldlM (hread c) List.nodup_nil
    rw [Dict.get_eq_some hpins, Dict.get_eq_some hkeys, URMappingDTO.mem_places, heq, List.nil_append]
    constructor
    · intro hmem
      obtain ⟨e, he, hswap⟩ := List.mem_map.1 hmem
      rw [← Prod.swap_swap e, hswap] at he
      exact he
    · exact fun hmem => List.mem_map_of_mem hmem

/-- Every entry of the mapping has one signal. -/
theorem keys_configure {py : Pydantic} (hstr : ∀ s, py.parseStr (.str s) = some s)
    {device : List (Yaml × Yaml)} {d : URIODriver} (h : URIODriver.configure py device = .ok d) :
    Dict.keys d.cache = Dict.keys d.device.mapping.places := by
  obtain ⟨signals, hparse, hsignals, -, hd, -⟩ := URIODriver.configure_ok h
  rw [keys_places (places_agree hstr hparse hsignals), congrArg Driver.cache hd, Dict.keys, List.map_map]
  rfl

/-- The cache starts at the configured defaults. -/
theorem seeded_configure {py : Pydantic} (hstr : ∀ s, py.parseStr (.str s) = some s)
    {device : List (Yaml × Yaml)} {d : URIODriver} (h : URIODriver.configure py device = .ok d) :
    ∀ signal ∈ Dict.values d.cache, signal.state = signal.default := by
  obtain ⟨signals, hparse, hsignals, -, hd, -⟩ := URIODriver.configure_ok h
  intro signal hsignal
  have hagree := places_agree hstr hparse hsignals
  have hvalues : Dict.values d.cache = signals := by
    rw [congrArg Driver.cache hd, Dict.values, List.map_map]
    exact List.map_id signals
  rw [hvalues] at hsignal
  obtain ⟨i, hi, rfl⟩ := List.mem_iff_getElem.1 hsignal
  exact (hagree.get (hagree.length_eq ▸ hi) hi).state

end IoControllers
