import MovementController.Lib.Dict
import MovementController.Lib.Fallible
import MovementController.Lib.Numerals
import Mathlib.Data.List.Dedup

/-!
# The configuration of the I/O drivers

A `device` block comes from a YAML file and is read twice: pydantic parses it into
`URDeviceConfigDTO`, and `normalize_ur_mapping` turns the raw entries into signals.
-/

namespace IoControllers

/-! ### Enums and signals -/

inductive DeviceTypeEnum where
  | UR
deriving DecidableEq, Repr

inductive IODirectionEnum where
  | IN
  | OUT
deriving DecidableEq, Repr

inductive IODomainEnum where
  | VOLTAGE
  | CURRENT
deriving DecidableEq, Repr

/-- `IODomainEnum(value)`; `none` is the `ValueError`. -/
def IODomainEnum.ofValue : String → Option IODomainEnum
  | "voltage" => some .VOLTAGE
  | "current" => some .CURRENT
  | _ => none

/-- A Python `bool` or `float`. -/
inductive Value where
  | bool (b : Bool)
  | float (q : ℚ)
deriving DecidableEq, Repr

namespace Value

/-- The number a value is compared by: `True == 1.0`. -/
def num : Value → ℚ
  | bool b => if b then 1 else 0
  | float q => q

def toBool (v : Value) : Bool := v.num ≠ 0

def toFloat (v : Value) : ℚ := v.num

end Value

inductive SignalType where
  | digital
  | analog (domain : IODomainEnum)
deriving DecidableEq, Repr

/-- A `DigitalSignalDTO` or an `AnalogSignalDTO`. -/
structure Signal where
  type : SignalType
  ioName : String
  direction : IODirectionEnum
  default : Value
  state : Value
deriving DecidableEq, Repr

/-! ### YAML values -/

/-- What `yaml.safe_load` builds. A `pair` is an entry of `!!omap` and `!!pairs`; a `float` is finite,
and here as elsewhere the number that was written, not the double nearest to it. -/
inductive Yaml where
  | null
  | bool (b : Bool)
  | int (n : Int)
  | float (q : ℚ)
  | str (s : String)
  | bytes (l : List UInt8)
  | date (text : String)
  | list (l : List Yaml)
  | pair (k v : Yaml)
  | set (l : List Yaml)
  | dict (l : List (Yaml × Yaml))

/-- `.get(key)` of a dict. -/
def lookup : List (Yaml × Yaml) → String → Option Yaml
  | [], _ => none
  | (.str k, v) :: l, key => if k = key then some v else lookup l key
  | _ :: l, key => lookup l key

namespace Yaml

/-- `bool(value)`. -/
def toBool : Yaml → Bool
  | null => false
  | bool b => b
  | int n => n ≠ 0
  | float q => q ≠ 0
  | str s => s ≠ ""
  | bytes l => !l.isEmpty
  | date _ | pair _ _ => true
  | list l | set l => !l.isEmpty
  | dict l => !l.isEmpty

/-- The blanks at the ends of a text that `float` skips. -/
def isAsciiSpace (c : Char) : Bool := c.toNat < 127 && Numeral.isSpace c

/-- How `float` sees a character: white space and the decimal digits of all scripts are those of ASCII,
and nothing else outside ASCII is in a number. -/
def toAscii (c : Char) : Char :=
  if c.toNat < 127 then c
  else if Numeral.isSpace c then ' '
  else
    match Numeral.decimal c with
    | some digit => Char.ofNat ('0'.toNat + digit)
    | none => '?'

/-- `float(s)` of a text that denotes a finite number. -/
def floatOfStr (s : String) : Option ℚ := do
  let digits ← Numeral.ungroup none (Numeral.trim isAsciiSpace (s.toList.map toAscii))
  Numeral.value digits

/-- The text of bytes that are all ASCII. -/
def ascii (l : List UInt8) : String := String.ofList (l.map fun b => Char.ofNat b.toNat)

/-- `float(value)`; `none` is a `TypeError` or a `ValueError`. -/
def toFloat : Yaml → Option ℚ
  | bool b => some (if b then 1 else 0)
  | int n => some n
  | float q => some q
  | str s => floatOfStr s
  | bytes l => if l.all (· < 128) then floatOfStr (ascii l) else none
  | null | date _ | list _ | pair _ _ | set _ | dict _ => none

end Yaml

/-- Why `configure` fails; the payload is what the error text names. -/
inductive ConfigError where
  /-- The `ValidationError` of a DTO. -/
  | validation
  /-- `UR device block requires a 'mapping' dictionary` -/
  | mappingRequired
  /-- `mapping entry in … is missing a valid io_name: …` -/
  | ioNameMissing (category : String)
  /-- `invalid analog domain …; expected one of: …` -/
  | domainInvalid
  /-- `duplicate io_name(s) in config mapping: …` -/
  | ioNamesDuplicate (names : List String)
  /-- `duplicate pin … in UR category …` -/
  | pinDuplicate (pin : Nat) (category : String)
  /-- A `TypeError`, an `AttributeError` or the `ValueError` of `float`. -/
  | raised
deriving DecidableEq, Repr

/-! ### The DTOs of the UR device block -/

/-- The lax coercions of pydantic; `none` is a validation error. -/
structure Pydantic where
  parseStr : Yaml → Option String
  parseInt : Yaml → Option Int
  parseBool : Yaml → Option Bool
  parseFloat : Yaml → Option ℚ
  parseDomain : Yaml → Option IODomainEnum

structure URDigitalEntryDTO where
  ioName : String
  pin : Nat
  default : Bool
deriving DecidableEq, Repr

structure URAnalogEntryDTO where
  ioName : String
  pin : Nat
  domain : IODomainEnum
  default : ℚ
deriving DecidableEq, Repr

structure URToolVoltageEntryDTO where
  ioName : String
  default : ℚ
deriving DecidableEq, Repr

structure URMappingDTO where
  digitalInStates : List URDigitalEntryDTO
  digitalOutStates : List URDigitalEntryDTO
  flagStates : List URDigitalEntryDTO
  analogInStates : List URAnalogEntryDTO
  analogOutStates : List URAnalogEntryDTO
  toolVoltage : List URToolVoltageEntryDTO
deriving DecidableEq, Repr

structure URDeviceConfigDTO where
  controllerNamespace : String
  serviceTimeoutSec : ℚ
  mapping : URMappingDTO
  serviceTimeoutSec_pos : 0 < serviceTimeoutSec
deriving DecidableEq, Repr

/-- One field of a model: `default` when it is absent, `none` there if it is required. -/
def parseField {α : Type} (entry : List (Yaml × Yaml)) (key : String) (parse : Yaml → Option α)
    (default : Option α) : Option α :=
  match lookup entry key with
  | some value => parse value
  | none => default

def parseList {α : Type} (parse : Yaml → Option α) : Yaml → Option (List α)
  | .list l | .set l => l.mapM parse
  | _ => none

section Parse

variable (py : Pydantic)

/-- `pin: int = Field(ge=0)`. -/
def parsePin (value : Yaml) : Option Nat :=
  (py.parseInt value).bind fun pin => if 0 ≤ pin then some pin.toNat else none

def URDigitalEntryDTO.parse : Yaml → Option URDigitalEntryDTO
  | .dict entry => do
    let ioName ← parseField entry "io_name" py.parseStr none
    let pin ← parseField entry "pin" (parsePin py) none
    let default ← parseField entry "default" py.parseBool (some false)
    pure { ioName, pin, default }
  | _ => none

def URAnalogEntryDTO.parse : Yaml → Option URAnalogEntryDTO
  | .dict entry => do
    let ioName ← parseField entry "io_name" py.parseStr none
    let pin ← parseField entry "pin" (parsePin py) none
    let domain ← parseField entry "domain" py.parseDomain (some .VOLTAGE)
    let default ← parseField entry "default" py.parseFloat (some 0)
    pure { ioName, pin, domain, default }
  | _ => none

def URToolVoltageEntryDTO.parse : Yaml → Option URToolVoltageEntryDTO
  | .dict entry => do
    let ioName ← parseField entry "io_name" py.parseStr none
    let default ← parseField entry "default" py.parseFloat (some 0)
    pure { ioName, default }
  | _ => none

def URMappingDTO.parse : Yaml → Option URMappingDTO
  | .dict entry => do
    let digital (key : String) := parseField entry key (parseList (URDigitalEntryDTO.parse py)) (some [])
    let analog (key : String) := parseField entry key (parseList (URAnalogEntryDTO.parse py)) (some [])
    let digitalInStates ← digital "digital_in_states"
    let digitalOutStates ← digital "digital_out_states"
    let flagStates ← digital "flag_states"
    let analogInStates ← analog "analog_in_states"
    let analogOutStates ← analog "analog_out_states"
    let toolVoltage ←
      parseField entry "tool_voltage" (parseList (URToolVoltageEntryDTO.parse py)) (some [])
    pure ⟨digitalInStates, digitalOutStates, flagStates, analogInStates, analogOutStates, toolVoltage⟩
  | _ => none

/-- `URDeviceConfigDTO(**device)`. -/
def URDeviceConfigDTO.parse (device : List (Yaml × Yaml)) : Option URDeviceConfigDTO := do
  let controllerNamespace ← parseField device "controller_namespace" py.parseStr none
  let serviceTimeoutSec ← parseField device "service_timeout_sec" py.parseFloat (some 5)
  let mapping ← parseField device "mapping" (URMappingDTO.parse py) none
  if h : 0 < serviceTimeoutSec then
    some { controllerNamespace, serviceTimeoutSec, mapping, serviceTimeoutSec_pos := h }
  else none

end Parse

/-! ### `mapping_normalizer` -/

def requireIoName (entry : List (Yaml × Yaml)) (category : String) : Except ConfigError String :=
  match lookup entry "io_name" with
  | some (.str ioName) => if ioName = "" then .error (.ioNameMissing category) else .ok ioName
  | _ => .error (.ioNameMissing category)

/-- `_parse_domain(entry.get('domain', …))`. -/
def parseDomain (entry : List (Yaml × Yaml)) : Except ConfigError IODomainEnum :=
  match lookup entry "domain" with
  | none => .ok .VOLTAGE
  | some (.str domain) =>
    match IODomainEnum.ofValue domain with
    | some domain => .ok domain
    | none => .error .domainInvalid
  | some _ => .error .domainInvalid

/-- `float(entry.get('default', 0.0))`. -/
def floatDefault (entry : List (Yaml × Yaml)) : Except ConfigError ℚ :=
  match (lookup entry "default").elim (some 0) Yaml.toFloat with
  | some q => .ok q
  | none => .error .raised

def normalizeDigital (category : String) (direction : IODirectionEnum) :
    Yaml → Except ConfigError Signal
  | .dict entry => do
    let ioName ← requireIoName entry category
    let default := Value.bool ((lookup entry "default").elim false Yaml.toBool)
    pure { type := .digital, ioName, direction, default, state := default }
  | _ => .error .raised

def normalizeAnalog (category : String) (direction : IODirectionEnum) :
    Yaml → Except ConfigError Signal
  | .dict entry => do
    let ioName ← requireIoName entry category
    let default ← floatDefault entry
    let domain ← parseDomain entry
    pure {
      type := .analog domain, ioName, direction, default := .float default
      state := .float default }
  | _ => .error .raised

def normalizeToolVoltage : Yaml → Except ConfigError Signal
  | .dict entry => do
    let ioName ← requireIoName entry "tool_voltage"
    let default ← floatDefault entry
    pure {
      type := .analog .VOLTAGE, ioName, direction := .OUT, default := .float default
      state := .float default }
  | _ => .error .raised

/-- `mapping.get(category, []) or []`, as far as it can be iterated over dicts. -/
def categoryEntries (mapping : List (Yaml × Yaml)) (category : String) :
    Except ConfigError (List Yaml) :=
  match lookup mapping category with
  | none => .ok []
  | some (.list l) => .ok l
  | some value => if value.toBool then .error .raised else .ok []

def normalizeCategory (mapping : List (Yaml × Yaml)) (category : String)
    (normalize : Yaml → Except ConfigError Signal) : Except ConfigError (List Signal) := do
  let entries ← categoryEntries mapping category
  entries.mapM normalize

def normalizeUrMapping (device : List (Yaml × Yaml)) : Except ConfigError (List Signal) :=
  match lookup device "mapping" with
  | some (.dict mapping) => do
    let digital (category : String) (direction : IODirectionEnum) :=
      normalizeCategory mapping category (normalizeDigital category direction)
    let analog (category : String) (direction : IODirectionEnum) :=
      normalizeCategory mapping category (normalizeAnalog category direction)
    let digitalInStates ← digital "digital_in_states" .IN
    let digitalOutStates ← digital "digital_out_states" .OUT
    let flagStates ← digital "flag_states" .OUT
    let analogInStates ← analog "analog_in_states" .IN
    let analogOutStates ← analog "analog_out_states" .OUT
    let toolVoltage ← normalizeCategory mapping "tool_voltage" normalizeToolVoltage
    pure (digitalInStates ++ digitalOutStates ++ flagStates ++ analogInStates ++ analogOutStates ++
      toolVoltage)
  | _ => .error .mappingRequired

def normalizeMapping : DeviceTypeEnum → List (Yaml × Yaml) → Except ConfigError (List Signal)
  | .UR, device => normalizeUrMapping device

/-- The state of a digital signal is a `bool`. -/
def Signal.Typed (signal : Signal) : Prop := signal.type = .digital → ∃ b, signal.state = .bool b

theorem normalizeDigital_ok {category : String} {direction : IODirectionEnum} {raw : Yaml}
    {signal : Signal} (h : normalizeDigital category direction raw = .ok signal) :
    ∃ entry ioName, raw = .dict entry ∧ requireIoName entry category = .ok ioName ∧
      let default := Value.bool ((lookup entry "default").elim false Yaml.toBool)
      signal = ⟨.digital, ioName, direction, default, default⟩ := by
  cases raw with
  | dict entry =>
    obtain ⟨ioName, hioName, h⟩ := Fallible.bind_ok h
    exact ⟨entry, ioName, rfl, hioName, (Except.ok.inj h).symm⟩
  | _ => cases h

theorem normalizeAnalog_ok {category : String} {direction : IODirectionEnum} {raw : Yaml}
    {signal : Signal} (h : normalizeAnalog category direction raw = .ok signal) :
    ∃ entry ioName default domain, raw = .dict entry ∧ requireIoName entry category = .ok ioName ∧
      floatDefault entry = .ok default ∧ parseDomain entry = .ok domain ∧
      signal = ⟨.analog domain, ioName, direction, .float default, .float default⟩ := by
  cases raw with
  | dict entry =>
    obtain ⟨ioName, hioName, h⟩ := Fallible.bind_ok h
    obtain ⟨default, hdefault, h⟩ := Fallible.bind_ok h
    obtain ⟨domain, hdomain, h⟩ := Fallible.bind_ok h
    exact ⟨entry, ioName, default, domain, rfl, hioName, hdefault, hdomain, (Except.ok.inj h).symm⟩
  | _ => cases h

theorem normalizeToolVoltage_ok {raw : Yaml} {signal : Signal}
    (h : normalizeToolVoltage raw = .ok signal) :
    ∃ entry ioName default, raw = .dict entry ∧ requireIoName entry "tool_voltage" = .ok ioName ∧
      floatDefault entry = .ok default ∧
      signal = ⟨.analog .VOLTAGE, ioName, .OUT, .float default, .float default⟩ := by
  cases raw with
  | dict entry =>
    obtain ⟨ioName, hioName, h⟩ := Fallible.bind_ok h
    obtain ⟨default, hdefault, h⟩ := Fallible.bind_ok h
    exact ⟨entry, ioName, default, rfl, hioName, hdefault, (Except.ok.inj h).symm⟩
  | _ => cases h

theorem normalizeDigital_typed {category : String} {direction : IODirectionEnum} {raw : Yaml}
    {signal : Signal} (h : normalizeDigital category direction raw = .ok signal) : signal.Typed := by
  obtain ⟨entry, ioName, -, -, rfl⟩ := normalizeDigital_ok h
  exact fun _ => ⟨_, rfl⟩

theorem normalizeAnalog_typed {category : String} {direction : IODirectionEnum} {raw : Yaml}
    {signal : Signal} (h : normalizeAnalog category direction raw = .ok signal) : signal.Typed := by
  obtain ⟨entry, ioName, default, domain, -, -, -, -, rfl⟩ := normalizeAnalog_ok h
  exact fun htype => nomatch htype

theorem normalizeToolVoltage_typed {raw : Yaml} {signal : Signal}
    (h : normalizeToolVoltage raw = .ok signal) : signal.Typed := by
  obtain ⟨entry, ioName, default, -, -, -, rfl⟩ := normalizeToolVoltage_ok h
  exact fun htype => nomatch htype

theorem normalizeCategory_forall {P : Signal → Prop} {normalize : Yaml → Except ConfigError Signal}
    (hP : ∀ raw signal, normalize raw = .ok signal → P signal) {mapping : List (Yaml × Yaml)}
    {category : String} {signals : List Signal}
    (h : normalizeCategory mapping category normalize = .ok signals) : ∀ signal ∈ signals, P signal := by
  obtain ⟨raws, -, h⟩ := Fallible.bind_ok h
  exact Fallible.forall_of_mapM_ok hP h

theorem normalizeMapping_typed {deviceType : DeviceTypeEnum} {device : List (Yaml × Yaml)}
    {signals : List Signal} (h : normalizeMapping deviceType device = .ok signals) :
    ∀ signal ∈ signals, signal.Typed := by
  cases deviceType
  change normalizeUrMapping device = .ok signals at h
  unfold normalizeUrMapping at h
  split at h
  · obtain ⟨digitalIn, hdi, h⟩ := Fallible.bind_ok h
    obtain ⟨digitalOut, hdo, h⟩ := Fallible.bind_ok h
    obtain ⟨flags, hfl, h⟩ := Fallible.bind_ok h
    obtain ⟨analogIn, hai, h⟩ := Fallible.bind_ok h
    obtain ⟨analogOut, hao, h⟩ := Fallible.bind_ok h
    obtain ⟨tool, htv, h⟩ := Fallible.bind_ok h
    rw [← Except.ok.inj h]
    simp only [List.mem_append, or_imp, forall_and]
    exact ⟨⟨⟨⟨⟨normalizeCategory_forall (fun _ _ => normalizeDigital_typed) hdi,
      normalizeCategory_forall (fun _ _ => normalizeDigital_typed) hdo⟩,
      normalizeCategory_forall (fun _ _ => normalizeDigital_typed) hfl⟩,
      normalizeCategory_forall (fun _ _ => normalizeAnalog_typed) hai⟩,
      normalizeCategory_forall (fun _ _ => normalizeAnalog_typed) hao⟩,
      normalizeCategory_forall (fun _ _ => normalizeToolVoltage_typed) htv⟩
  · cases h

/-- The loop of `check_unique_io_names`: the names that are already in `seen`. -/
def duplicates (seen : List String) : List String → List String
  | [] => []
  | ioName :: ioNames =>
    if ioName ∈ seen then ioName :: duplicates (ioName :: seen) ioNames
    else duplicates (ioName :: seen) ioNames

def checkUniqueIoNames (signals : List Signal) : Except ConfigError Unit :=
  match duplicates [] (signals.map (·.ioName)) with
  | [] => .ok ()
  | ioNames => .error (.ioNamesDuplicate (ioNames.dedup.mergeSort (· ≤ ·)))

theorem duplicates_eq_nil (seen ioNames : List String) :
    duplicates seen ioNames = [] ↔ ioNames.Nodup ∧ ∀ n ∈ ioNames, n ∉ seen := by
  induction ioNames generalizing seen with
  | nil => simp [duplicates]
  | cons n ns ih =>
    rw [duplicates]
    by_cases hn : n ∈ seen
    · simp [hn]
    · rw [if_neg hn, ih]
      rw [List.nodup_cons, List.forall_mem_cons]
      simp only [List.mem_cons, not_or]
      constructor
      · rintro ⟨hnd, hns⟩
        exact ⟨⟨fun h => (hns n h).1 rfl, hnd⟩, hn, fun m hm => (hns m hm).2⟩
      · rintro ⟨⟨hnot, hnd⟩, -, hns⟩
        exact ⟨hnd, fun m hm => ⟨fun heq => hnot (heq ▸ hm), hns m hm⟩⟩

theorem checkUniqueIoNames_ok {signals : List Signal} :
    checkUniqueIoNames signals = .ok () ↔ (signals.map (·.ioName)).Nodup := by
  have hnil := duplicates_eq_nil [] (signals.map (·.ioName))
  unfold checkUniqueIoNames
  constructor
  · intro h
    split at h
    · next hd => exact (hnil.1 hd).1
    · cases h
  · intro h
    rw [hnil.2 ⟨h, fun _ _ => List.not_mem_nil⟩]

end IoControllers
