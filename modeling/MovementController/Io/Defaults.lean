import MovementController.Io.Wiring
import MovementController.Io.Events

/-!
# The defaults of the mapping entries

The default of an entry is coerced twice, by pydantic for the DTO and with `bool` or `float` for the
cache. The two differ on the words that pydantic takes for False, since `bool` of any text is True. On
numbers they differ in the texts they take, not in what they make of a text that both take.
-/

namespace IoControllers

/-! ### The lax coercions of pydantic -/

/-- The words for a truth value, in upper or lower case. -/
def boolWord (s : String) : Option Bool :=
  let word := s.toList.map Char.toLower
  if word ∈ ["0", "off", "f", "false", "n", "no"].map String.toList then some false
  else if word ∈ ["1", "on", "t", "true", "y", "yes"].map String.toList then some true
  else none

namespace Yaml

def word : Yaml → Option Bool
  | str s => boolWord s
  | bytes l => boolWord (ascii l)
  | _ => none

def laxBool : Yaml → Option Bool
  | bool b => some b
  | int n => if n = 0 then some false else if n = 1 then some true else none
  | float q => if q = 0 then some false else if q = 1 then some true else none
  | str s => boolWord s
  | bytes l => boolWord (ascii l)
  | _ => none

/-- Pydantic's reading of a text as a number, at its widest: white space at the ends is skipped, and if
that does not make it a numeral, the underscores are taken out. -/
def laxText (s : String) : Option ℚ :=
  (Numeral.value (Numeral.trim Numeral.isSpace s.toList)).or
    (Numeral.value (Numeral.trim Numeral.isSpace (s.toList.filter (· ≠ '_'))))

def laxFloat : Yaml → Option ℚ
  | bool b => some (if b then 1 else 0)
  | int n => some n
  | float q => some q
  | str s => laxText s
  | bytes l => if l.all (· < 128) then laxText (ascii l) else none
  | _ => none

end Yaml

/-- Pydantic reads strings and enum values as they are, a bool as documented, and as a float only
numbers and texts that denote them; ASCII bytes are read as their text. -/
structure Pydantic.Lax (py : Pydantic) : Prop where
  parseStr : ∀ s, py.parseStr (.str s) = some s
  parseBool : ∀ value, py.parseBool value = value.laxBool
  parseFloat : ∀ value q, (∀ l, value ≠ .bytes l) → py.parseFloat value = some q →
    value.laxFloat = some q
  parseBytes : ∀ l, l.all (· < 128) = true →
    py.parseFloat (.bytes l) = py.parseFloat (.str (Yaml.ascii l))
  parseDomain : ∀ s, py.parseDomain (.str s) = IODomainEnum.ofValue s

def Pydantic.lax : Pydantic := { strict with parseBool := Yaml.laxBool, parseFloat := Yaml.laxFloat }

@[simp] theorem Pydantic.parseFloat_lax : Pydantic.lax.parseFloat = Yaml.laxFloat := rfl

theorem Pydantic.lax_lax : Pydantic.lax.Lax where
  parseStr _ := rfl
  parseBool _ := rfl
  parseFloat _ _ _ h := h
  parseBytes l hascii := by
    rw [parseFloat_lax, Yaml.laxFloat.eq_def, Yaml.laxFloat.eq_def]
    exact if_pos hascii
  parseDomain _ := rfl

/-- `bool` takes a value as pydantic does, if it is not a word for False. -/
theorem Yaml.toBool_eq_laxBool_iff {value : Yaml} {b : Bool} (h : value.laxBool = some b) :
    value.toBool = b ↔ value.word ≠ some false := by
  have hempty : boolWord "" = none := by decide
  cases value with
  | bool b' =>
    cases h
    simp [toBool, word]
  | int n =>
    simp only [laxBool] at h
    split_ifs at h with h0 h1
    · cases h
      simp [toBool, word, h0]
    · cases h
      simp [toBool, word, h1]
  | float q =>
    simp only [laxBool] at h
    split_ifs at h with h0 h1
    · cases h
      simp [toBool, word, h0]
    · cases h
      simp [toBool, word, h1]
  | str s =>
    have hs : s ≠ "" := by
      rintro rfl
      rw [laxBool, hempty] at h
      cases h
    have hword : boolWord s = some b := h
    simp [toBool, word, hs, hword]
  | bytes l =>
    have hl : l.isEmpty = false := by
      rw [List.isEmpty_eq_false_iff]
      rintro rfl
      rw [laxBool, show ascii [] = "" from rfl, hempty] at h
      cases h
    have hword : boolWord (ascii l) = some b := h
    simp [toBool, word, hl, hword]
  | _ => cases h

/-! ### Numbers -/

namespace Yaml

/-- The characters a number can be made of. -/
def figures (s : String) : List Char :=
  (s.toList.filter (· ≠ '_')).filter (!Numeral.isSpace ·)

theorem isAsciiSpace_digit : ∀ digit < 10, isAsciiSpace (Char.ofNat ('0'.toNat + digit)) = false := by
  decide

theorem isAsciiSpace_toAscii (c : Char) : isAsciiSpace (toAscii c) = Numeral.isSpace c := by
  unfold toAscii
  split
  · next h => simp [isAsciiSpace, h]
  · split
    · next h => rw [h]; rfl
    · next h =>
      rw [Bool.not_eq_true] at h
      rw [h]
      split
      · next digit hdigit => exact isAsciiSpace_digit digit (Numeral.decimal_lt hdigit)
      · rfl

theorem digit_ne_underscore : ∀ digit < 10, Char.ofNat ('0'.toNat + digit) ≠ '_' := by decide

theorem toAscii_eq_underscore_iff {c : Char} : toAscii c = '_' ↔ c = '_' := by
  unfold toAscii
  split
  · rfl
  · next h =>
    refine iff_of_false ?_ ?_
    · split
      · decide
      · split
        · next digit hdigit => exact digit_ne_underscore digit (Numeral.decimal_lt hdigit)
        · decide
    · rintro rfl
      exact h (by decide)

theorem of_isMark {c : Char} (h : Numeral.isMark c = true) :
    c.toNat < 127 ∧ Numeral.isSpace c = false ∧ c ≠ '_' := by
  simp only [Numeral.isMark, Char.isDigit, Bool.or_eq_true, Bool.and_eq_true, decide_eq_true_eq,
    List.mem_cons, List.not_mem_nil, or_false] at h
  rcases h with ⟨hlo, hhi⟩ | rfl | rfl | rfl | rfl | rfl
  · have hlo : 48 ≤ c.toNat := hlo
    have hhi : c.toNat ≤ 57 := hhi
    refine ⟨by omega, ?_, ?_⟩
    · simp only [Numeral.isSpace, Bool.or_eq_false_iff, Bool.and_eq_false_iff, decide_eq_false_iff_not,
        beq_eq_false_iff_ne]
      omega
    · rintro rfl
      exact absurd hhi (by decide)
  all_goals decide

theorem toAscii_of_isMark {c : Char} (h : Numeral.isMark c = true) : toAscii c = c :=
  if_pos (of_isMark h).1

/-- A text that pydantic takes for a number is a numeral but for blanks and underscores. -/
theorem value_of_laxText {s : String} {q : ℚ} (h : laxText s = some q) :
    Numeral.value (figures s) = some q := by
  have hmarks {cs : List Char} (hvalue : Numeral.value cs = some q) :
      ∀ c ∈ cs, Numeral.isSpace c = false ∧ c ≠ '_' := fun c hc =>
    (of_isMark (Numeral.isMark_of_value hvalue c hc)).2
  rcases Option.or_eq_some_iff.1 h with hvalue | ⟨-, hvalue⟩
  · have htrim := Numeral.trim_eq_filter fun c hc => (hmarks hvalue c hc).1
    have hplain : (s.toList.filter (!Numeral.isSpace ·)).filter (· ≠ '_') =
        s.toList.filter (!Numeral.isSpace ·) := by
      refine List.filter_eq_self.2 fun c hc => ?_
      rw [← htrim] at hc
      simpa using (hmarks hvalue c hc).2
    rw [figures, List.filter_comm, hplain, ← htrim]
    exact hvalue
  · rw [figures, ← Numeral.trim_eq_filter fun c hc => (hmarks hvalue c hc).1]
    exact hvalue

/-- And so is what `float` takes, once its digits are those of ASCII. -/
theorem value_of_floatOfStr {s : String} {q : ℚ} (h : floatOfStr s = some q) :
    Numeral.value ((figures s).map toAscii) = some q := by
  obtain ⟨digits, hdigits, hvalue⟩ := Option.bind_eq_some_iff.1 h
  have hunspaced : digits.filter (!isAsciiSpace ·) = digits := by
    refine List.filter_eq_self.2 fun c hc => ?_
    have hspace := (of_isMark (Numeral.isMark_of_value hvalue c hc)).2.1
    rw [isAsciiSpace, hspace, Bool.and_false]
    rfl
  have hspaces : (fun c => !isAsciiSpace c) ∘ toAscii = fun c => !Numeral.isSpace c :=
    funext fun c => congrArg (!·) (isAsciiSpace_toAscii c)
  have hunderscores : (fun c => decide (c ≠ '_')) ∘ toAscii = fun c => decide (c ≠ '_') :=
    funext fun c => decide_eq_decide.2 (not_congr toAscii_eq_underscore_iff)
  have hdigits : digits = (figures s).map toAscii := by
    rw [← hunspaced, Numeral.ungroup_eq_filter hdigits, List.filter_comm, Numeral.filter_trim,
      List.filter_map, hspaces, List.filter_map, hunderscores, figures, List.filter_comm]
  rw [← hdigits]
  exact hvalue

/-- A text that both take for a number is the same number to both. -/
theorem floatOfStr_eq_laxText {s : String} {q q' : ℚ} (h : laxText s = some q)
    (h' : floatOfStr s = some q') : q' = q := by
  have hvalue := value_of_laxText h
  have hfixed : (figures s).map toAscii = figures s :=
    (List.map_congr_left fun c hc => toAscii_of_isMark (Numeral.isMark_of_value hvalue c hc)).trans
      (List.map_id _)
  have hvalue' := value_of_floatOfStr h'
  rw [hfixed] at hvalue'
  exact Option.some.inj (hvalue'.symm.trans hvalue)

end Yaml

/-- `float` takes a value as pydantic does, if they both take it. -/
theorem Pydantic.Lax.toFloat_eq {py : Pydantic} (hlax : py.Lax) {value : Yaml} {q q' : ℚ}
    (h : py.parseFloat value = some q) (h' : value.toFloat = some q') : q' = q := by
  have htext {s : String} (hs : py.parseFloat (.str s) = some q) : Yaml.laxText s = some q :=
    hlax.parseFloat (.str s) q (by rintro _ ⟨⟩) hs
  cases value with
  | bool | int | float =>
    have hvalue := hlax.parseFloat _ q (by rintro _ ⟨⟩) h
    exact Option.some.inj (h'.symm.trans hvalue)
  | str s => exact Yaml.floatOfStr_eq_laxText (htext h) h'
  | bytes l =>
    rw [Yaml.toFloat, Option.ite_none_right_eq_some] at h'
    rw [hlax.parseBytes l h'.1] at h
    exact Yaml.floatOfStr_eq_laxText (htext h) h'.2
  | _ => cases h'

/-! ### The entries -/

/-- The entries of a category as they stand in the device block. -/
def rawEntries (device : List (Yaml × Yaml)) (category : String) : List Yaml :=
  match lookup device "mapping" with
  | some (.dict mapping) => (categoryEntries mapping category).toOption.getD []
  | _ => []

def rawDigital (device : List (Yaml × Yaml)) : List Yaml :=
  Category.digital.flatMap fun category => rawEntries device category.key

def rawDefault : Yaml → Option Yaml
  | .dict entry => lookup entry "default"
  | _ => none

/-- The default of the entry is a word that pydantic takes for False. -/
def FalseWord (raw : Yaml) : Prop := (rawDefault raw).bind Yaml.word = some false

instance (raw : Yaml) : Decidable (FalseWord raw) := inferInstanceAs (Decidable (_ = some false))

namespace URMappingDTO

def digital (mapping : URMappingDTO) : List URDigitalEntryDTO :=
  mapping.digitalInStates ++ mapping.digitalOutStates ++ mapping.flagStates

def analog (mapping : URMappingDTO) : List URAnalogEntryDTO :=
  mapping.analogInStates ++ mapping.analogOutStates

end URMappingDTO

/-- The signal of the name is cached at this default. -/
def Signal.At (cache : Dict String Signal) (ioName : String) (default : Value) : Prop :=
  ∃ signal, Dict.get cache ioName = some signal ∧ signal.default = default ∧ signal.state = default

/-- The cache agrees with the DTO on the defaults of all entries, and on the domains. -/
structure DefaultsAgree (mapping : URMappingDTO) (cache : Dict String Signal) : Prop where
  digital : ∀ e ∈ mapping.digital, Signal.At cache e.ioName (.bool e.default)
  analog : ∀ e ∈ mapping.analog, Signal.At cache e.ioName (.float e.default) ∧
    (Dict.get cache e.ioName).map (·.type) = some (.analog e.domain)
  toolVoltage : ∀ e ∈ mapping.toolVoltage, Signal.At cache e.ioName (.float e.default)

theorem category_reads {α : Type} {R : Yaml → α → Signal → Prop} {device mapping : List (Yaml × Yaml)}
    {category : String} {parse : Yaml → Option α} {normalize : Yaml → Except ConfigError Signal}
    (hR : ∀ raw e signal, parse raw = some e → normalize raw = .ok signal → R raw e signal)
    (hm : lookup device "mapping" = some (.dict mapping)) {entries : List α}
    {sigs signals : List Signal} (hp : parseEntries mapping category parse = some entries)
    (hn : normalizeCategory mapping category normalize = .ok sigs) (hsub : sigs ⊆ signals) :
    List.Forall₂ (fun raw e => ∃ signal ∈ signals, R raw e signal) (rawEntries device category)
      entries := by
  obtain ⟨raws, hraws, hparse, hnormalize⟩ := category_passes hp hn
  have hraw : rawEntries device category = raws := by
    unfold rawEntries
    rw [hm]
    simp [hraws, Except.toOption]
  have hsignal : ∀ raw ∈ raws, ∃ signal ∈ signals, normalize raw = .ok signal := by
    intro raw hmem
    obtain ⟨signal, hsignal, hok⟩ := Fallible.exists_right hnormalize hmem
    exact ⟨signal, hsub hsignal, hok⟩
  rw [hraw]
  refine ((List.forall₂_and_left _ _).2 ⟨hsignal, hparse⟩).imp ?_
  rintro raw e ⟨⟨signal, hmem, hok⟩, hsome⟩
  exact ⟨signal, hmem, hR raw e signal hsome hok⟩

section Readings

variable {py : Pydantic} (hlax : py.Lax)

include hlax

theorem digital_default {category : String} {direction : IODirectionEnum} {raw : Yaml}
    {e : URDigitalEntryDTO} {signal : Signal} (hp : URDigitalEntryDTO.parse py raw = some e)
    (hn : normalizeDigital category direction raw = .ok signal) :
    signal.ioName = e.ioName ∧ signal.state = signal.default ∧
      (signal.default = .bool e.default ↔ ¬FalseWord raw) := by
  obtain ⟨entry, rfl, hioName, hdefault⟩ := URDigitalEntryDTO.parse_some hp
  obtain ⟨_, ioName', ⟨⟩, hioName', rfl⟩ := normalizeDigital_ok hn
  refine ⟨ioName_agree hlax.parseStr hioName hioName', rfl, ?_⟩
  rw [Value.bool.injEq, FalseWord, rawDefault]
  unfold parseField at hdefault
  cases hl : lookup entry "default" with
  | none =>
    rw [hl] at hdefault
    rw [← Option.some.inj hdefault]
    simp
  | some value =>
    rw [hl] at hdefault
    exact Yaml.toBool_eq_laxBool_iff ((hlax.parseBool value).symm.trans hdefault)

theorem float_default {entry : List (Yaml × Yaml)} {default default' : ℚ}
    (hp : parseField entry "default" py.parseFloat (some 0) = some default)
    (hn : floatDefault entry = .ok default') : default' = default := by
  unfold floatDefault at hn
  unfold parseField at hp
  cases hl : lookup entry "default" with
  | none =>
    rw [hl] at hp hn
    rw [← Option.some.inj hp, ← Except.ok.inj hn]
  | some value =>
    rw [hl] at hp hn
    cases hvalue : value.toFloat with
    | none =>
      rw [Option.elim_some, hvalue] at hn
      cases hn
    | some q =>
      rw [Option.elim_some, hvalue] at hn
      rw [← Except.ok.inj hn]
      exact hlax.toFloat_eq hp hvalue

theorem domain_agree {entry : List (Yaml × Yaml)} {domain domain' : IODomainEnum}
    (hp : parseField entry "domain" py.parseDomain (some .VOLTAGE) = some domain)
    (hn : parseDomain entry = .ok domain') : domain' = domain := by
  unfold parseDomain at hn
  unfold parseField at hp
  split at hn
  · next hl =>
    rw [hl] at hp
    rw [← Option.some.inj hp, ← Except.ok.inj hn]
  · next text hl =>
    rw [hl] at hp
    have hvalue := (hlax.parseDomain text).symm.trans hp
    rw [hvalue] at hn
    exact (Except.ok.inj hn).symm
  · cases hn

theorem analog_default {category : String} {direction : IODirectionEnum} {raw : Yaml}
    {e : URAnalogEntryDTO} {signal : Signal} (hp : URAnalogEntryDTO.parse py raw = some e)
    (hn : normalizeAnalog category direction raw = .ok signal) :
    signal.ioName = e.ioName ∧ signal.state = signal.default ∧ signal.default = .float e.default ∧
      signal.type = .analog e.domain := by
  obtain ⟨entry, rfl, hioName, hdomain, hdefault⟩ := URAnalogEntryDTO.parse_some hp
  obtain ⟨_, ioName', default', domain', ⟨⟩, hioName', hdefault', hdomain', rfl⟩ :=
    normalizeAnalog_ok hn
  have hfloat := float_default hlax hdefault hdefault'
  have htype := domain_agree hlax hdomain hdomain'
  exact ⟨ioName_agree hlax.parseStr hioName hioName', rfl, by rw [hfloat], by rw [htype]⟩

theorem toolVoltage_default {raw : Yaml} {e : URToolVoltageEntryDTO} {signal : Signal}
    (hp : URToolVoltageEntryDTO.parse py raw = some e) (hn : normalizeToolVoltage raw = .ok signal) :
    signal.ioName = e.ioName ∧ signal.state = signal.default ∧ signal.default = .float e.default := by
  obtain ⟨entry, rfl, hioName, hdefault⟩ := URToolVoltageEntryDTO.parse_some hp
  obtain ⟨_, ioName', default', ⟨⟩, hioName', hdefault', rfl⟩ := normalizeToolVoltage_ok hn
  have hfloat := float_default hlax hdefault hdefault'
  exact ⟨ioName_agree hlax.parseStr hioName hioName', rfl, by rw [hfloat]⟩

/-- What the two readings of an accepted device block make of its entries. -/
theorem device_reads {device : List (Yaml × Yaml)} {dto : URDeviceConfigDTO} {signals : List Signal}
    (hp : URDeviceConfigDTO.parse py device = some dto)
    (hn : normalizeMapping .UR device = .ok signals) :
    List.Forall₂ (fun raw e => ∃ signal ∈ signals, signal.ioName = e.ioName ∧
        signal.state = signal.default ∧ (signal.default = .bool e.default ↔ ¬FalseWord raw))
      (rawDigital device) dto.mapping.digital ∧
    (∀ e ∈ dto.mapping.analog, ∃ signal ∈ signals, signal.ioName = e.ioName ∧
      signal.state = signal.default ∧ signal.default = .float e.default ∧
      signal.type = .analog e.domain) ∧
    ∀ e ∈ dto.mapping.toolVoltage, ∃ signal ∈ signals, signal.ioName = e.ioName ∧
      signal.state = signal.default ∧ signal.default = .float e.default := by
  obtain ⟨raw, hraw, hp⟩ := URDeviceConfigDTO.parse_some hp
  obtain ⟨mapping, hmapping, hdi, hdo, hfl, hai, hao, htv⟩ := URMappingDTO.parse_some hp
  rw [hmapping] at hraw
  obtain ⟨sigs, tool, hsigs, htool, rfl⟩ := normalizeUrMapping_ok hraw hn
  have hsub (category : Category) :
      sigs category ⊆ (Category.digital ++ Category.analog).flatMap sigs ++ tool := by
    intro signal hsignal
    exact List.mem_append_left _ (List.mem_flatMap.2 ⟨category, category.mem_all, hsignal⟩)
  refine ⟨?_, ?_, ?_⟩
  · have hin := category_reads (fun _ _ _ => digital_default hlax) hraw hdi
      (hsigs .digitalInStates) (hsub _)
    have hout := category_reads (fun _ _ _ => digital_default hlax) hraw hdo
      (hsigs .digitalOutStates) (hsub _)
    have hflags := category_reads (fun _ _ _ => digital_default hlax) hraw hfl
      (hsigs .flagStates) (hsub _)
    have hdigital := List.rel_append (List.rel_append hin hout) hflags
    simpa [rawDigital, Category.digital, Category.key, URMappingDTO.digital] using hdigital
  · have hin := category_reads (fun _ _ _ => analog_default hlax) hraw hai
      (hsigs .analogInStates) (hsub _)
    have hout := category_reads (fun _ _ _ => analog_default hlax) hraw hao
      (hsigs .analogOutStates) (hsub _)
    intro e he
    obtain ⟨-, -, hread⟩ := Fallible.exists_left (List.rel_append hin hout) he
    exact hread
  · have htools := category_reads (fun _ _ _ => toolVoltage_default hlax) hraw htv htool
      (List.subset_append_right ((Category.digital ++ Category.analog).flatMap sigs) tool)
    intro e he
    obtain ⟨-, -, hread⟩ := Fallible.exists_left htools he
    exact hread

end Readings

/-- The cache has the defaults of the DTO if and only if no default of a digital entry is a word for
False. -/
theorem defaults_agree_iff {py : Pydantic} (hlax : py.Lax) {device : List (Yaml × Yaml)}
    {d : URIODriver} (h : URIODriver.configure py device = .ok d) :
    DefaultsAgree d.device.mapping d.cache ↔ ∀ raw ∈ rawDigital device, ¬FalseWord raw := by
  obtain ⟨signals, hparse, hsignals, hnodup, hd, -⟩ := URIODriver.configure_ok h
  obtain ⟨hdigital, hanalog, htool⟩ := device_reads hlax hparse hsignals
  have hget {signal : Signal} (hmem : signal ∈ signals) :
      Dict.get d.cache signal.ioName = some signal := by
    have hcache : d.cache = signals.map fun s => (s.ioName, s) := congrArg Driver.cache hd
    rw [hcache]
    refine Dict.get_of_mem ?_ (List.mem_map_of_mem hmem)
    rw [Dict.keys, List.map_map]
    exact hnodup
  constructor
  · intro hagree raw hraw
    obtain ⟨e, he, signal, hmem, hname, -, hdefault⟩ := Fallible.exists_right hdigital hraw
    obtain ⟨signal', hsignal', hdefault', -⟩ := hagree.digital e he
    rw [← hname, hget hmem] at hsignal'
    obtain rfl := Option.some.inj hsignal'
    exact hdefault.1 hdefault'
  · intro hword
    refine ⟨fun e he => ?_, fun e he => ?_, fun e he => ?_⟩
    · obtain ⟨raw, hraw, signal, hmem, hname, hstate, hdefault⟩ := Fallible.exists_left hdigital he
      have hseed := hdefault.2 (hword raw hraw)
      rw [← hname]
      exact ⟨signal, hget hmem, hseed, hstate.trans hseed⟩
    · obtain ⟨signal, hmem, hname, hstate, hdefault, htype⟩ := hanalog e he
      rw [← hname]
      exact ⟨⟨signal, hget hmem, hdefault, hstate.trans hdefault⟩, by rw [hget hmem, ← htype]; rfl⟩
    · obtain ⟨signal, hmem, hname, hstate, hdefault⟩ := htool e he
      rw [← hname]
      exact ⟨signal, hget hmem, hdefault, hstate.trans hdefault⟩

/-- Defaults in several representations, none of them a word for False. -/
def quotedDefaults : List (Yaml × Yaml) :=
  let entry (ioName : String) (pin : Int) (default : Yaml) : Yaml :=
    .dict [(.str "io_name", .str ioName), (.str "pin", .int pin), (.str "default", default)]
  [(.str "controller_namespace", .str "/io_and_status_controller"),
    (.str "mapping", .dict [
      (.str "digital_in_states", .list [entry "part_present" 0 (.str "Yes")]),
      (.str "digital_out_states", .list [entry "gripper" 0 (.int 1), entry "lamp" 1 (.bool false)]),
      (.str "analog_out_states", .list [
        entry "speed" 0 (.str "5"), entry "torque" 1 (.str "\u00a01_0")]),
      (.str "tool_voltage", .list [
        .dict [(.str "io_name", .str "tool"), (.str "default", .int 24)]])])]

theorem defaults_agree_iff_quotedDefaults : ∃ init,
    URIODriver.configure .lax quotedDefaults = .ok init ∧
      DefaultsAgree init.device.mapping init.cache := by
  have hinit : URIODriver.configure .lax quotedDefaults = .ok _ := rfl
  exact ⟨_, hinit, (defaults_agree_iff Pydantic.lax_lax hinit).2 (by decide)⟩

/-- `default: n` is a string in YAML. -/
def offByWord : List (Yaml × Yaml) :=
  [(.str "controller_namespace", .str "/io_and_status_controller"),
    (.str "mapping", .dict [(.str "digital_out_states", .list [
      .dict [(.str "io_name", .str "gripper"), (.str "pin", .int 0), (.str "default", .str "n")]])])]

/-- The DTO says that the gripper starts off, the cache that it is on. -/
theorem default_misread : ∃ init, URIODriver.configure .lax offByWord = .ok init ∧
    init.device.mapping.digital = [⟨"gripper", 0, false⟩] ∧
    (Dict.get init.cache "gripper").map (·.state) = some (.bool true) ∧
    ¬DefaultsAgree init.device.mapping init.cache := by
  refine ⟨_, rfl, rfl, rfl, fun h => ?_⟩
  obtain ⟨signal, hget, -, hstate⟩ := h.digital ⟨"gripper", 0, false⟩ List.mem_cons_self
  cases hget
  cases hstate

end IoControllers
