import MovementController.Io.Lifecycle

/-!
# Loading the config file

`load_config` reads, decodes, parses and validates, and each stage has exceptions of its own. It turns
`OSError`, `YAMLError` and `ValidationError` into `ConfigError`, which `on_configure` expects; what the
codec, a constructor of YAML or the keyword expansion raises gets through.
-/

namespace IoControllers

/-! ### Paths -/

/-- A `PosixPath`. -/
structure Path where
  root : String
  parts : List String
deriving DecidableEq, Repr

namespace Path

def ofString (s : String) : Path where
  root :=
    match s.toList with
    | '/' :: '/' :: '/' :: _ => "/"
    | '/' :: '/' :: _ => "//"
    | '/' :: _ => "/"
    | _ => ""
  parts := ((s.toList.splitOn '/').map String.ofList).filter fun part => part ≠ "" ∧ part ≠ "."

def isAbsolute (path : Path) : Bool := path.root ≠ ""

/-- `directory / path` of a relative path. -/
def join (directory path : Path) : Path := { directory with parts := directory.parts ++ path.parts }

end Path

structure FileSystem where
  isFile : Path → Bool
  /-- `get_package_share_directory('io_controllers')`; `none` when it raises. -/
  share : Option Path
  cwd : Path
  /-- The content of a file, or the text of the `OSError`. -/
  read : Path → Except String (List UInt8)

/-! ### The libraries -/

def Yaml.isStr : Yaml → Bool
  | str _ => true
  | _ => false

inductive YamlException where
  | yamlError (exc : String)
  /-- The `ValueError`, `KeyError` or the like of a constructor, with its name. -/
  | other (exc : String)

structure Libraries where
  /-- The codec of the locale; `none` is a `UnicodeDecodeError`. -/
  decode : List UInt8 → Option String
  safeLoad : String → Except YamlException Yaml
  pydantic : Pydantic
  parseDeviceType : Yaml → Option DeviceTypeEnum

def DeviceTypeEnum.ofValue : String → Option DeviceTypeEnum
  | "ur" => some .UR
  | _ => none

/-- The `IOControllerConfigDTO` of the keyword arguments; `none` is a `ValidationError`. -/
def IOControllerConfigDTO.parse (lib : Libraries) (data : List (Yaml × Yaml)) :
    Option IOControllerConfigDTO := do
  let deviceType ← parseField data "device_type" lib.parseDeviceType none
  let publishRateHz ← parseField data "publish_rate_hz" lib.pydantic.parseFloat (some 10)
  let device ← parseField data "device" (fun | .dict l => some l | _ => none) none
  if h : 0 < publishRateHz then
    some { deviceType, publishRateHz, device, publishRateHz_pos := h }
  else none

/-! ### `config_loader` -/

namespace ConfigLoader

/-- The payload is what the text of the `ConfigError` names. -/
inductive ConfigError where
  /-- `config_file parameter is empty; a path is required` -/
  | pathEmpty
  /-- `config file not found: …` -/
  | absoluteNotFound (candidate : Path)
  /-- `config file … not found (searched: …)` -/
  | notFound (configFile : String) (searched : List Path)
  /-- `could not read config file …: …` -/
  | unreadable (path : Path) (exc : String)
  /-- `malformed YAML in …: …` -/
  | malformed (path : Path) (exc : String)
  /-- `config file … must contain a top-level mapping, got …`, with the type of the document. -/
  | notMapping (path : Path) (data : Yaml)
  /-- `invalid config in …: …` -/
  | invalid (path : Path)

/-- What `load_config` raises. -/
inductive Raised where
  | configError (exc : ConfigError)
  | unicodeDecodeError
  /-- `keywords must be strings` -/
  | typeError
  | other (exc : String)

def Raised.IsConfigError : Raised → Prop
  | configError _ => True
  | _ => False

def searchDirs (fs : FileSystem) : List Path :=
  (fs.share.map fun share => share.join (Path.ofString "config")).toList ++ [fs.cwd]

def resolveConfigPath (fs : FileSystem) (configFile : String) : Except ConfigError Path :=
  if configFile = "" then .error .pathEmpty
  else
    let candidate := Path.ofString configFile
    if candidate.isAbsolute then
      if fs.isFile candidate then .ok candidate else .error (.absoluteNotFound candidate)
    else
      match ((searchDirs fs).map fun directory => directory.join candidate).find? fs.isFile with
      | some resolved => .ok resolved
      | none => .error (.notFound configFile (searchDirs fs))

variable (lib : Libraries)

/-- `path.read_text()`. -/
def readText (path : Path) : Except String (List UInt8) → Except Raised String
  | .error exc => .error (.configError (.unreadable path exc))
  | .ok bytes =>
    match lib.decode bytes with
    | some text => .ok text
    | none => .error .unicodeDecodeError

def safeLoad (path : Path) (rawText : String) : Except Raised Yaml :=
  match lib.safeLoad rawText with
  | .ok data => .ok data
  | .error (.yamlError exc) => .error (.configError (.malformed path exc))
  | .error (.other exc) => .error (.other exc)

/-- The type check, and `IOControllerConfigDTO(**data)`. -/
def construct (path : Path) : Yaml → Except Raised IOControllerConfigDTO
  | .dict data =>
    if data.all (·.1.isStr) then
      match IOControllerConfigDTO.parse lib data with
      | some config => .ok config
      | none => .error (.configError (.invalid path))
    else .error .typeError
  | data => .error (.configError (.notMapping path data))

def loadConfig (fs : FileSystem) (configFile : String) : Except Raised IOControllerConfigDTO :=
  match resolveConfigPath fs configFile with
  | .error exc => .error (.configError exc)
  | .ok path => do
    let rawText ← readText lib path (fs.read path)
    let data ← safeLoad lib path rawText
    construct lib path data

/-! ### Which contents are handled -/

/-- The content is decoded, loading it raises nothing but a `YAMLError`, and the keys of a top-level
mapping are strings. -/
structure Handled (content : Except String (List UInt8)) : Prop where
  decoded : ∀ bytes, content = .ok bytes → (lib.decode bytes).isSome = true
  loaded : ∀ bytes text exc, content = .ok bytes → lib.decode bytes = some text →
    lib.safeLoad text ≠ .error (.other exc)
  keys : ∀ bytes text data, content = .ok bytes → lib.decode bytes = some text →
    lib.safeLoad text = .ok (.dict data) → data.all (·.1.isStr) = true

variable {lib} {fs : FileSystem} {configFile : String} {path : Path}

theorem readText_ok {content : Except String (List UInt8)} {text : String} :
    readText lib path content = .ok text ↔
      ∃ bytes, content = .ok bytes ∧ lib.decode bytes = some text := by
  cases content with
  | error exc => simp [readText]
  | ok bytes =>
    cases hd : lib.decode bytes with
    | none => simp [readText, hd]
    | some text' => simp [readText, hd]

theorem raises_readText {content : Except String (List UInt8)} :
    Fallible.Raises Raised.IsConfigError (readText lib path content) ↔
      ∀ bytes, content = .ok bytes → (lib.decode bytes).isSome = true := by
  cases content with
  | error exc =>
    refine iff_of_true ?_ fun bytes h => nomatch h
    exact Fallible.raises_error.2 trivial
  | ok bytes =>
    rw [readText]
    cases hd : lib.decode bytes with
    | none =>
      refine iff_of_false (fun h => Fallible.raises_error.1 h) fun h => ?_
      have hsome := h bytes rfl
      rw [hd] at hsome
      cases hsome
    | some text =>
      refine iff_of_true (Fallible.raises_ok text) fun bytes' h => ?_
      rw [← Except.ok.inj h, hd]
      rfl

theorem safeLoad_ok {text : String} {data : Yaml} :
    safeLoad lib path text = .ok data ↔ lib.safeLoad text = .ok data := by
  unfold safeLoad
  split
  · next data' heq => simp [heq]
  · next exc heq => simp [heq]
  · next exc heq => simp [heq]

theorem raises_safeLoad {text : String} :
    Fallible.Raises Raised.IsConfigError (safeLoad lib path text) ↔
      ∀ exc, lib.safeLoad text ≠ .error (.other exc) := by
  unfold safeLoad
  split
  · next data heq => exact iff_of_true (Fallible.raises_ok data) (by simp [heq])
  · next exc heq => exact iff_of_true (Fallible.raises_error.2 trivial) (by simp [heq])
  · next exc heq => exact iff_of_false (fun h => Fallible.raises_error.1 h) (by simp [heq])

theorem raises_construct {data : Yaml} :
    Fallible.Raises Raised.IsConfigError (construct lib path data) ↔
      ∀ l, data = .dict l → l.all (·.1.isStr) = true := by
  cases data with
  | dict l =>
    have hforall : (∀ l', Yaml.dict l = .dict l' → l'.all (·.1.isStr) = true) ↔
        l.all (·.1.isStr) = true := by
      simp
    rw [hforall, construct]
    split
    · next hkeys =>
      refine iff_of_true ?_ hkeys
      split
      · exact Fallible.raises_ok _
      · exact Fallible.raises_error.2 trivial
    · next hkeys => exact iff_of_false (fun h => Fallible.raises_error.1 h) hkeys
  | _ =>
    refine iff_of_true ?_ fun l h => nomatch h
    exact Fallible.raises_error.2 trivial

theorem raises_loadConfig (hpath : resolveConfigPath fs configFile = .ok path) :
    Fallible.Raises Raised.IsConfigError (loadConfig lib fs configFile) ↔
      Handled lib (fs.read path) := by
  unfold loadConfig
  rw [hpath]
  dsimp only
  rw [Fallible.raises_bind, raises_readText]
  constructor
  · rintro ⟨hdecoded, hrest⟩
    have hstages (text : String) (htext : readText lib path (fs.read path) = .ok text) :=
      Fallible.raises_bind.1 (hrest text htext)
    refine ⟨hdecoded, fun bytes text exc hb ht => ?_, fun bytes text data hb ht hl => ?_⟩
    · exact raises_safeLoad.1 (hstages text (readText_ok.2 ⟨bytes, hb, ht⟩)).1 exc
    · have hconstruct := (hstages text (readText_ok.2 ⟨bytes, hb, ht⟩)).2 _ (safeLoad_ok.2 hl)
      exact raises_construct.1 hconstruct data rfl
  · intro h
    refine ⟨h.decoded, fun text htext => ?_⟩
    obtain ⟨bytes, hb, ht⟩ := readText_ok.1 htext
    rw [Fallible.raises_bind, raises_safeLoad]
    refine ⟨fun exc => h.loaded bytes text exc hb ht, fun data hdata => ?_⟩
    rw [raises_construct]
    rintro l rfl
    exact h.keys bytes text l hb ht (safeLoad_ok.1 hdata)

end ConfigLoader

/-! ### `on_configure` -/

open ConfigLoader

/-- `on_configure` with its parameters; an error is an exception that escapes from it. -/
def GpioController.onConfigureFile (lib : Libraries) (fs : FileSystem) (n : GpioController)
    (configFile : String) (simulated : Bool) (publishRateHz : ℚ) (fault : Bool) :
    Except Raised (GpioController × TransitionCallbackReturn) :=
  match loadConfig lib fs configFile with
  | .ok config => .ok (n.onConfigure lib.pydantic ⟨some config, simulated, publishRateHz, fault⟩)
  | .error (.configError _) =>
    .ok (n.onConfigure lib.pydantic ⟨none, simulated, publishRateHz, fault⟩)
  | .error exc => .error exc

namespace Managed

/-- A node that is not configured has no driver and none of its entities, also after a
`driver.deactivate` that raised. -/
def Released (m : Managed) : Prop :=
  m.state = .unconfigured ∨ m.state = .finalized →
    m.node.driver = none ∧ ∀ kind, m.node.handle kind = none

theorem Released.transition {py : Pydantic} {m m' : Managed} {t : Transition}
    {ret : TransitionCallbackReturn} (h : m.Released) (hm : m.Transits py t m' ret) : m'.Released := by
  cases hm with
  | configure hstate hdriver => simp [Released]
  | configureFails hstate hdriver =>
    intro _
    obtain ⟨hnone, hhandles⟩ := h (.inl hstate)
    refine ⟨?_, fun kind => ?_⟩
    · rcases hdriver with rfl | rfl
      · exact hnone
      · rfl
    · rw [← hhandles kind]
      cases kind <;> rfl
  | activate hstate hdriver => simp [Released]
  | activateFails hstate hfault => simp [Released]
  | deactivate hstate hfault => simp [Released]
  | deactivateFails hstate hdriver => simp [Released]
  | cleanup hstate => exact fun _ => ⟨rfl, m.node.handle_teardown⟩
  | shutdown hstate => exact fun _ => ⟨rfl, m.node.handle_teardown⟩

theorem Released.step {py : Pydantic} {m m' : Managed} {e : Event} (h : m.Released)
    (hs : m.step py e = some m') : m'.Released := by
  cases e with
  | transition t =>
    obtain ⟨⟨m₁, ret⟩, hm, rfl⟩ := Option.map_eq_some_iff.1 hs
    exact h.transition (transition_cases hm)
  | setMockBehavior request =>
    obtain rfl := Option.some.inj hs
    intro hstate
    obtain ⟨hnone, hhandles⟩ := h hstate
    rcases m.node.onSetMockBehavior_cases request with heq | ⟨-, timer, heq⟩
    · rw [heq]
      exact ⟨hnone, hhandles⟩
    · rw [heq]
      exact ⟨hnone, fun kind => by rw [← hhandles kind]; cases kind <;> rfl⟩
  | fire timer =>
    rw [Managed.step] at hs
    split at hs
    · obtain rfl := Option.some.inj hs
      intro hstate
      obtain ⟨hnone, hhandles⟩ := h hstate
      rcases m.node.fire_cases timer with heq | ⟨driver, hd, heq⟩
      · rw [heq]
        exact ⟨hnone, fun kind => by rw [← hhandles kind]; cases kind <;> rfl⟩
      · rw [hnone] at hd
        cases hd
    · cases hs
  | change ioName value =>
    obtain ⟨driver, hd, rfl⟩ := Option.map_eq_some_iff.1 hs
    intro hstate
    obtain ⟨hnone, -⟩ := h hstate
    rw [hnone] at hd
    cases hd

theorem released_of_reaches {py : Pydantic} {m : Managed} (h : Lts.Reaches (step py) {} m) :
    m.Released :=
  h.invariant (fun _ => ⟨rfl, fun kind => by cases kind <;> rfl⟩) fun h _ hs => h.step hs

end Managed

/-- `on_configure` returns `FAILURE`; the node has no driver and no entity, and none was created. -/
def FailsCleanly (n : GpioController)
    (r : Except Raised (GpioController × TransitionCallbackReturn)) : Prop :=
  ∃ n', r = .ok (n', .FAILURE) ∧ n'.driver = none ∧ (∀ kind, n'.handle kind = none) ∧
    n'.entities = n.entities

/-- The file is loaded, or it is a `ConfigError` and every configuration of a node from it fails
cleanly. -/
def LoadsOrFails (lib : Libraries) (fs : FileSystem) (configFile : String) : Prop :=
  (∃ config, loadConfig lib fs configFile = .ok config) ∨
    (∃ exc, loadConfig lib fs configFile = .error (.configError exc)) ∧
      ∀ m, Lts.Reaches (Managed.step lib.pydantic) {} m → m.state = .unconfigured →
        ∀ simulated publishRateHz fault, FailsCleanly m.node
          (m.node.onConfigureFile lib fs configFile simulated publishRateHz fault)

theorem failsCleanly_of_configError {lib : Libraries} {fs : FileSystem} {configFile : String}
    {exc : ConfigLoader.ConfigError} (h : loadConfig lib fs configFile = .error (.configError exc))
    {m : Managed} (hm : m.Released) (hstate : m.state = .unconfigured) (simulated : Bool)
    (publishRateHz : ℚ) (fault : Bool) : FailsCleanly m.node
      (m.node.onConfigureFile lib fs configFile simulated publishRateHz fault) := by
  obtain ⟨hnone, hhandles⟩ := hm (.inl hstate)
  unfold GpioController.onConfigureFile
  rw [h]
  exact ⟨{ m.node with simulated }, rfl, hnone,
    fun kind => by rw [← hhandles kind]; cases kind <;> rfl, rfl⟩

/-- A config file is loaded or fails cleanly if and only if no stage raises an exception that
`load_config` does not expect. -/
theorem loads_or_fails_iff (lib : Libraries) {fs : FileSystem} {configFile : String} {path : Path}
    (hpath : resolveConfigPath fs configFile = .ok path) :
    LoadsOrFails lib fs configFile ↔ Handled lib (fs.read path) := by
  rw [← raises_loadConfig hpath]
  constructor
  · rintro (⟨config, hconfig⟩ | ⟨⟨exc, hexc⟩, -⟩)
    · rw [hconfig]
      exact Fallible.raises_ok config
    · rw [hexc]
      exact Fallible.raises_error.2 trivial
  · intro h
    cases hload : loadConfig lib fs configFile with
    | ok config => exact .inl ⟨config, hload⟩
    | error raised =>
      cases raised with
      | configError exc =>
        exact .inr ⟨⟨exc, hload⟩, fun m hm hstate =>
          failsCleanly_of_configError hload (Managed.released_of_reaches hm) hstate⟩
      | unicodeDecodeError => exact absurd (h _ hload) id
      | typeError => exact absurd (h _ hload) id
      | other exc => exact absurd (h _ hload) id

/-- UTF-8 as far as it is ASCII, and what `yaml.safe_load` makes of a few texts. -/
def sampleLibraries : Libraries where
  decode bytes := if bytes.all (· < 0x80) then some (Yaml.ascii bytes) else none
  safeLoad
    | "- a\n" => .ok (.list [.str "a"])
    | "1: ur\n" => .ok (.dict [(.int 1, .str "ur")])
    | "2020-99-99\n" => .error (.other "ValueError")
    | _ => .error (.yamlError "")
  pydantic := .strict
  parseDeviceType | .str s => DeviceTypeEnum.ofValue s | _ => none

/-- The bytes of `- a`. -/
def listFile : List UInt8 := [0x2d, 0x20, 0x61, 0x0a]

/-- The bytes of `1: ur`. -/
def intKeyFile : List UInt8 := [0x31, 0x3a, 0x20, 0x75, 0x72, 0x0a]

/-- The bytes of `2020-99-99`. -/
def badDateFile : List UInt8 := [0x32, 0x30, 0x32, 0x30, 0x2d, 0x39, 0x39, 0x2d, 0x39, 0x39, 0x0a]

def oneFile (content : List UInt8) : FileSystem where
  isFile path := path = Path.ofString "/etc/ur.yaml"
  share := none
  cwd := ⟨"/", []⟩
  read _ := .ok content

theorem loads_or_fails_iff_list :
    LoadsOrFails sampleLibraries (oneFile listFile) "/etc/ur.yaml" := by
  have hpath : resolveConfigPath (oneFile listFile) "/etc/ur.yaml" =
      .ok (Path.ofString "/etc/ur.yaml") := rfl
  refine (loads_or_fails_iff sampleLibraries hpath).2 ⟨?_, ?_, ?_⟩
  · rintro bytes ⟨⟩
    rfl
  · rintro bytes text exc ⟨⟩ ⟨⟩ h
    cases h
  · rintro bytes text data ⟨⟩ ⟨⟩ h
    cases h

theorem not_loadsOrFails {lib : Libraries} {fs : FileSystem} {configFile : String} {raised : Raised}
    (h : loadConfig lib fs configFile = .error raised) (hraised : ¬raised.IsConfigError) :
    ¬LoadsOrFails lib fs configFile := by
  rintro (⟨config, hconfig⟩ | ⟨⟨exc, hexc⟩, -⟩)
  · rw [h] at hconfig
    cases hconfig
  · rw [h] at hexc
    rw [Except.error.inj hexc] at hraised
    exact hraised trivial

/-- A byte that is not UTF-8, a key that is an integer, and a date that does not exist. -/
theorem load_escapes :
    loadConfig sampleLibraries (oneFile [0xff]) "/etc/ur.yaml" = .error .unicodeDecodeError ∧
    loadConfig sampleLibraries (oneFile intKeyFile) "/etc/ur.yaml" = .error .typeError ∧
    loadConfig sampleLibraries (oneFile badDateFile) "/etc/ur.yaml" =
      .error (.other "ValueError") ∧
    ∀ content ∈ [[0xff], intKeyFile, badDateFile],
      ¬LoadsOrFails sampleLibraries (oneFile content) "/etc/ur.yaml" := by
  have hdecode : loadConfig sampleLibraries (oneFile [0xff]) "/etc/ur.yaml" =
      .error .unicodeDecodeError := rfl
  have hkey : loadConfig sampleLibraries (oneFile intKeyFile) "/etc/ur.yaml" =
      .error .typeError := rfl
  have hdate : loadConfig sampleLibraries (oneFile badDateFile) "/etc/ur.yaml" =
      .error (.other "ValueError") := rfl
  refine ⟨hdecode, hkey, hdate, ?_⟩
  simp only [List.forall_mem_cons, List.not_mem_nil, false_implies, implies_true, and_true]
  exact ⟨not_loadsOrFails hdecode id, not_loadsOrFails hkey id, not_loadsOrFails hdate id⟩

end IoControllers
