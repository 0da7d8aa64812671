import MovementController.Io.Node

/-!
# `set_io`

The handler attempts every entry of a request and answers at once. With the UR driver a write is a
request to the hardware, and its answer comes later to `_done`, which logs it: what the hardware refuses
is not in the response.
-/

namespace IoControllers

/-! ### The handler -/

/-- An entry of `command.digital_io` or of `command.analog_io`. -/
inductive SetEntry where
  | digital (io : DigitalIO)
  | analog (io : AnalogIO)
deriving DecidableEq, Repr

namespace SetEntry

def ioName : SetEntry → String
  | digital io => io.ioName
  | analog io => io.ioName

def isDigital : SetEntry → Bool
  | digital _ => true
  | analog _ => false

end SetEntry

/-- The `command` of a request. -/
structure SetIO.Request where
  digitalIo : List DigitalIO
  analogIo : List AnalogIO
deriving DecidableEq, Repr

/-- The entries in the order in which the handler takes them. -/
def SetIO.Request.entries (request : SetIO.Request) : List SetEntry :=
  request.digitalIo.map .digital ++ request.analogIo.map .analog

structure SetIO.Response where
  success : Bool
  message : String
  failedIoNames : List String
deriving DecidableEq, Repr

/-- `str(exc)`. For a `KeyError` this is the `repr` of the text, which takes double quotes when the text
has single ones. -/
def DriverError.str : DriverError → String
  | keyError text => if text.toList.any (·.toNat = 39) then "\"" ++ text ++ "\"" else pyRepr text
  | valueError text | runtimeError text | other text => text
  | assertionError => ""

/-- The driver and the lists that the handler fills. -/
structure SetIoState (δ : Type) where
  driver : δ
  failed : List String := []
  reasons : List String := []

section Handler

variable {δ : Type} (signalIndex : Dict String SignalMeta)

def recordFailure (st : SetIoState δ) (ioName reason : String) : SetIoState δ :=
  { st with
    failed := st.failed ++ [ioName]
    reasons := st.reasons ++ [s!"{ioName} ({reason})"] }

/-- `write` is the call of the driver, with the exception it raises. -/
def applySetEntry (write : SetEntry → δ → δ × Option DriverError) (st : SetIoState δ) (e : SetEntry) :
    SetIoState δ :=
  match Dict.get signalIndex e.ioName with
  | none => recordFailure st e.ioName "unknown io_name"
  | some (isDigital, direction) =>
    if direction = .IN then recordFailure st e.ioName "is an input (not writable)"
    else if isDigital ≠ e.isDigital then
      let kind := if isDigital then "digital" else "analog"
      recordFailure st e.ioName s!"is {kind}, wrong request category"
    else
      let (driver, error) := write e st.driver
      match error with
      | none => { st with driver }
      | some exc => recordFailure { st with driver } e.ioName exc.str

/-- The loops over the entries; `write i` is the write of the entry at place `i`. -/
def applyEntries (write : ℕ → SetEntry → δ → δ × Option DriverError) :
    ℕ → List SetEntry → SetIoState δ → SetIoState δ
  | _, [], st => st
  | i, e :: entries, st =>
    applyEntries write (i + 1) entries (applySetEntry signalIndex (write i) st e)

variable {signalIndex} {write : SetEntry → δ → δ × Option DriverError} {e : SetEntry}

/-- An entry that names an output of its type is written. -/
theorem applySetEntry_output (h : Dict.get signalIndex e.ioName = some (e.isDigital, .OUT))
    (st : SetIoState δ) : applySetEntry signalIndex write st e =
      if (write e st.driver).2 = none then { st with driver := (write e st.driver).1 }
      else recordFailure { st with driver := (write e st.driver).1 } e.ioName
        (((write e st.driver).2.map DriverError.str).getD "") := by
  rw [applySetEntry, h]
  rcases hw : write e st.driver with ⟨d, _ | exc⟩ <;> simp

/-- Any other entry adds its name, and nothing is written. -/
theorem applySetEntry_other (h : Dict.get signalIndex e.ioName ≠ some (e.isDigital, .OUT))
    (st : SetIoState δ) :
    ∃ reason, applySetEntry signalIndex write st e = recordFailure st e.ioName reason := by
  unfold applySetEntry
  split
  · exact ⟨_, rfl⟩
  · next isDigital direction hmeta =>
    split
    · exact ⟨_, rfl⟩
    · next hin =>
      split
      · exact ⟨_, rfl⟩
      · next hkind =>
        cases direction with
        | IN => exact absurd rfl hin
        | OUT => exact absurd (by rw [hmeta, not_not.1 hkind]) h

end Handler

def setIoResponse (total : ℕ) (failed reasons : List String) : SetIO.Response where
  success := failed.isEmpty
  message :=
    if failed.isEmpty then ""
    else s!"{failed.length} of {total} entries failed: " ++ String.intercalate "; " reasons
  failedIoNames := failed

/-! ### The writes of the node's driver -/

/-- A call of `set_io` or `set_analog_output` that was triggered by the entry at place `index`. -/
structure Call where
  index : ℕ
  entry : SetEntry
  request : Request
deriving DecidableEq, Repr

/-- What a call is answered: a result with its `success`, or an exception. -/
inductive Answer where
  | result (success : Bool)
  | raised (exc : String)
deriving DecidableEq, Repr

/-- `_done`: the error that it logs. It has the name of the signal and nothing of the request. -/
def URIODriver.done (ioName : String) : Answer → Option String
  | .raised exc => some s!"UR write for '{ioName}' raised: {exc}"
  | .result true => none
  | .result false => some s!"UR write for '{ioName}' returned success=false"

theorem URIODriver.done_eq_none {ioName : String} {answer : Answer} :
    done ioName answer = none ↔ answer = .result true := by
  constructor
  · intro h
    match answer, h with
    | .result true, _ => rfl
  · intro h
    rw [h]
    rfl

/-- `fault` is the exception of a `call_async`. The calls made so far are collected. -/
def IODriver.write (fault : Option String) (index : ℕ) (e : SetEntry) (s : IODriver × List Call) :
    (IODriver × List Call) × Option DriverError :=
  match s.1 with
  | .mock d =>
    match (match e with
      | .digital io => d.setDigital io.ioName io.state
      | .analog io => d.setAnalog io.ioName io.state) with
    | .ok d => ((.mock d, s.2), none)
    | .error exc => (s, some exc)
  | .ur d =>
    let outcome := match e with
      | .digital io => d.setDigital io.ioName io.state fault
      | .analog io => d.setAnalog io.ioName io.state fault
    ((.ur outcome.driver, s.2 ++ outcome.request.toList.map fun request => ⟨index, e, request⟩),
      outcome.error)

namespace GpioController

/-- `_on_set_io`, and the calls that it triggers. `fault i` is the exception of the `call_async` that
the entry at place `i` leads to. -/
def onSetIo (n : GpioController) (request : SetIO.Request) (fault : ℕ → Option String) :
    GpioController × SetIO.Response × List Call :=
  match n.driver with
  | none => (n, ⟨false, "node is not configured; no driver available", []⟩, [])
  | some driver =>
    let st := applyEntries n.signalIndex (fun i => IODriver.write (fault i) i) 0 request.entries
      { driver := (driver, []) }
    ({ n with driver := some st.driver.1 },
      setIoResponse request.entries.length st.failed st.reasons, st.driver.2)

end GpioController

/-! ### Which entries are sent -/

namespace URIODriver

/-- A write of this type to the signal is sent, unless `call_async` raises. -/
def writable (d : URIODriver) (digital : Bool) (ioName : String) : Bool :=
  match d.requireWrite ioName with
  | .error _ => false
  | .ok (kind, _) =>
    match digital, kind with
    | true, .digitalOut | true, .flag | false, .toolVoltage => true
    | false, .analogOut =>
      ((Dict.get d.cache ioName).map fun signal => decide (signal.type ≠ .digital)).getD false
    | _, _ => false

/-- What a write does: it is sent, or it raises. -/
def Sent (outcome : Outcome) (sent : Prop) : Prop :=
  (sent ∧ outcome.error = none ∧ ∃ request, outcome.request = some request) ∨
    (¬sent ∧ outcome.error ≠ none ∧ outcome.request = none)

variable {d : URIODriver} {ioName : String} {fault : Option String}

theorem sent_send (d : URIODriver) (request : Request) (fault : Option String) :
    Sent (d.send request fault) (fault = none) := by
  cases fault with
  | none => exact .inl ⟨rfl, rfl, request, rfl⟩
  | some exc =>
    refine .inr ⟨?_, ?_, rfl⟩
    · intro h
      cases h
    · intro h
      cases h

theorem sent_error {error : DriverError} {sent : Prop} (h : ¬sent) :
    Sent { driver := d, error := some error } sent := by
  refine .inr ⟨h, ?_, rfl⟩
  intro hnone
  cases hnone

theorem Sent.of_iff {outcome : Outcome} {sent sent' : Prop} (h : Sent outcome sent)
    (hiff : sent' ↔ sent) : Sent outcome sent' := by
  unfold Sent at h ⊢
  rw [hiff]
  exact h

theorem sent_setDigital (d : URIODriver) (ioName : String) (state : Bool) (fault : Option String) :
    Sent (d.setDigital ioName state fault) (d.writable true ioName ∧ fault = none) := by
  unfold setDigital writable
  cases d.requireWrite ioName with
  | error exc => exact sent_error fun h => nomatch h.1
  | ok target =>
    obtain ⟨kind, pin⟩ := target
    cases kind with
    | digitalOut => exact (sent_send d _ fault).of_iff (and_iff_right rfl)
    | flag => exact (sent_send d _ fault).of_iff (and_iff_right rfl)
    | analogOut => exact sent_error fun h => Bool.false_ne_true h.1
    | toolVoltage => exact sent_error fun h => Bool.false_ne_true h.1

theorem sent_setAnalog (d : URIODriver) (ioName : String) (state : ℚ) (fault : Option String) :
    Sent (d.setAnalog ioName state fault) (d.writable false ioName ∧ fault = none) := by
  unfold setAnalog writable
  cases d.requireWrite ioName with
  | error exc => exact sent_error fun h => Bool.false_ne_true h.1
  | ok target =>
    obtain ⟨kind, pin⟩ := target
    cases kind with
    | digitalOut => exact sent_error fun h => Bool.false_ne_true h.1
    | flag => exact sent_error fun h => Bool.false_ne_true h.1
    | analogOut =>
      cases hget : Dict.get d.cache ioName with
      | none => exact sent_error fun h => Bool.false_ne_true h.1
      | some signal =>
        obtain ⟨type, name, direction, value⟩ := signal
        cases type with
        | digital => exact sent_error fun h => Bool.false_ne_true h.1
        | analog domain => exact (sent_send d _ fault).of_iff (and_iff_right rfl)
    | toolVoltage =>
      cases fault with
      | none => exact .inl ⟨⟨rfl, rfl⟩, rfl, _, rfl⟩
      | some exc =>
        refine .inr ⟨?_, ?_, rfl⟩
        · rintro ⟨-, h⟩
          cases h
        · intro h
          cases h

/-- What the writes depend on, the state of the signals apart. -/
structure Alike (d d' : URIODriver) : Prop where
  active : d'.active = d.active
  writeIndex : d'.writeIndex = d.writeIndex
  types : ∀ ioName, (Dict.get d'.cache ioName).map (·.type) = (Dict.get d.cache ioName).map (·.type)

theorem Alike.refl (d : URIODriver) : Alike d d := ⟨rfl, rfl, fun _ => rfl⟩

theorem Alike.trans {d d' d'' : URIODriver} (h : Alike d d') (h' : Alike d' d'') : Alike d d'' :=
  ⟨h'.active.trans h.active, h'.writeIndex.trans h.writeIndex,
    fun ioName => (h'.types ioName).trans (h.types ioName)⟩

theorem alike_updateCache (d : URIODriver) (ioName : String) (value : Value) :
    Alike d (d.updateCache ioName value) := by
  unfold updateCache
  split
  · exact .refl d
  · next signal hget =>
    split
    · exact .refl d
    · refine ⟨rfl, rfl, fun name => ?_⟩
      show (Dict.get (Dict.set d.cache ioName { signal with state := value }) name).map (·.type) = _
      by_cases hname : name = ioName
      · rw [hname, Dict.get_set_self, hget]
        rfl
      · rw [Dict.get_set_of_ne hname]

theorem alike_setAnalog (d : URIODriver) (ioName : String) (state : ℚ) (fault : Option String) :
    Alike d (d.setAnalog ioName state fault).driver := by
  unfold setAnalog
  split
  · exact .refl d
  · split
    · exact .refl d
    · split
      · exact .refl d
      · rw [send_driver]
        exact .refl d
  · cases fault with
    | some exc => exact .refl d
    | none => exact alike_updateCache d _ _
  · exact .refl d
  · exact .refl d

theorem writable_alike {d d' : URIODriver} (h : Alike d d') (digital : Bool) (ioName : String) :
    d'.writable digital ioName = d.writable digital ioName := by
  have hsome : (Dict.get d'.cache ioName).isSome = (Dict.get d.cache ioName).isSome := by
    have htypes := congrArg Option.isSome (h.types ioName)
    rwa [Option.isSome_map, Option.isSome_map] at htypes
  have hrequire : d'.requireWrite ioName = d.requireWrite ioName := by
    unfold requireWrite
    rw [h.active, h.writeIndex, hsome]
  have hanalog :
      ((Dict.get d'.cache ioName).map fun signal => decide (signal.type ≠ .digital)).getD false =
      ((Dict.get d.cache ioName).map fun signal => decide (signal.type ≠ .digital)).getD false := by
    have htypes := congrArg (Option.map fun type => decide (type ≠ SignalType.digital))
      (h.types ioName)
    rw [Option.map_map, Option.map_map] at htypes
    exact congrArg (·.getD false) htypes
  unfold writable
  rw [hrequire, hanalog]

end URIODriver

/-! ### What the handler records and what it sends -/

/-- The node writes this entry: an output under its name, of its type and connected. -/
def accepts (signalIndex : Dict String SignalMeta) (d : URIODriver) (e : SetEntry) : Bool :=
  decide (Dict.get signalIndex e.ioName = some (e.isDigital, .OUT)) && d.writable e.isDigital e.ioName

section Entries

variable (signalIndex : Dict String SignalMeta) (d : URIODriver) (fault : ℕ → Option String)

/-- The entry, at its place, triggers a call. -/
def sends (p : SetEntry × ℕ) : Bool := accepts signalIndex d p.1 && (fault p.2).isNone

/-- The entries up to here are the list `taken`: one call for each that is sent, and the name of each of
the others. -/
structure Taken (taken : List (SetEntry × ℕ)) (st : SetIoState (IODriver × List Call)) : Prop where
  driver : ∃ d', st.driver.1 = .ur d' ∧ d.Alike d'
  calls : st.driver.2.map (fun call => (call.entry, call.index)) =
    taken.filter (sends signalIndex d fault)
  failed : st.failed = (taken.filter fun p => !sends signalIndex d fault p).map (·.1.ioName)

variable {signalIndex d fault}

theorem sends_iff {p : SetEntry × ℕ} : sends signalIndex d fault p = true ↔
    Dict.get signalIndex p.1.ioName = some (p.1.isDigital, .OUT) ∧
      d.writable p.1.isDigital p.1.ioName = true ∧ fault p.2 = none := by
  unfold sends accepts
  rw [Bool.and_eq_true, Bool.and_eq_true, decide_eq_true_iff, Option.isNone_iff_eq_none, and_assoc]

/-- The write of an entry, of either type. -/
theorem sent_write {d' : URIODriver} (h : d.Alike d') (i : ℕ) (e : SetEntry) (calls : List Call) :
    ∃ outcome : Outcome,
      URIODriver.Sent outcome (d.writable e.isDigital e.ioName = true ∧ fault i = none) ∧
      d.Alike outcome.driver ∧
      IODriver.write (fault i) i e (.ur d', calls) =
        ((.ur outcome.driver, calls ++ outcome.request.toList.map fun request => ⟨i, e, request⟩),
          outcome.error) := by
  rw [← URIODriver.writable_alike h]
  cases e with
  | digital io =>
    refine ⟨d'.setDigital io.ioName io.state (fault i), d'.sent_setDigital _ _ _, ?_, rfl⟩
    rw [URIODriver.setDigital_driver]
    exact h
  | analog io =>
    exact ⟨d'.setAnalog io.ioName io.state (fault i), d'.sent_setAnalog _ _ _,
      h.trans (d'.alike_setAnalog _ _ _), rfl⟩

/-- An entry that is not sent adds its name, whatever the reason. -/
theorem Taken.record {taken : List (SetEntry × ℕ)} {st st' : SetIoState (IODriver × List Call)}
    (h : Taken signalIndex d fault taken st) {i : ℕ} {e : SetEntry}
    (hsends : sends signalIndex d fault (e, i) = false) (hfailed : st'.failed = st.failed)
    (hcalls : st'.driver.2 = st.driver.2) (hdriver : ∃ d', st'.driver.1 = .ur d' ∧ d.Alike d')
    (reason : String) :
    Taken signalIndex d fault (taken ++ [(e, i)]) (recordFailure st' e.ioName reason) := by
  refine ⟨hdriver, ?_, ?_⟩
  · show st'.driver.2.map _ = _
    rw [hcalls, h.calls, List.filter_append, List.filter_cons_of_neg (by rw [hsends]; nofun),
      List.filter_nil, List.append_nil]
  · show st'.failed ++ [e.ioName] = _
    rw [hfailed, h.failed, List.filter_append, List.map_append,
      List.filter_cons_of_pos (by rw [hsends]; rfl)]
    rfl

theorem Taken.send {taken : List (SetEntry × ℕ)} {st : SetIoState (IODriver × List Call)}
    (h : Taken signalIndex d fault taken st) {i : ℕ} {e : SetEntry}
    (hsends : sends signalIndex d fault (e, i) = true) {d' : URIODriver} (hlike : d.Alike d')
    (request : Request) :
    Taken signalIndex d fault (taken ++ [(e, i)])
      { st with driver := (.ur d', st.driver.2 ++ [⟨i, e, request⟩]) } := by
  refine ⟨⟨d', rfl, hlike⟩, ?_, ?_⟩
  · show (st.driver.2 ++ [({ index := i, entry := e, request } : Call)]).map _ = _
    rw [List.map_append, h.calls, List.filter_append, List.filter_cons_of_pos hsends]
    rfl
  · show st.failed = _
    rw [h.failed, List.filter_append, List.filter_cons_of_neg (by rw [hsends]; nofun),
      List.filter_nil, List.append_nil]

theorem Taken.applySetEntry {taken : List (SetEntry × ℕ)} {st : SetIoState (IODriver × List Call)}
    (h : Taken signalIndex d fault taken st) (i : ℕ) (e : SetEntry) :
    Taken signalIndex d fault (taken ++ [(e, i)])
      (applySetEntry signalIndex (IODriver.write (fault i) i) st e) := by
  obtain ⟨d', hd, halike⟩ := h.driver
  by_cases hindex : Dict.get signalIndex e.ioName = some (e.isDigital, .OUT)
  · obtain ⟨outcome, hsent, hlike, hwrite⟩ := sent_write halike i e st.driver.2
    rw [← hd] at hwrite
    rw [applySetEntry_output hindex, hwrite]
    rcases hsent with ⟨⟨hwritable, hfault⟩, herror, request, hrequest⟩ | ⟨hno, herror, hrequest⟩
    · rw [if_pos herror, hrequest]
      exact h.send (sends_iff.2 ⟨hindex, hwritable, hfault⟩) hlike request
    · have hsends : sends signalIndex d fault (e, i) = false := by
        rw [Bool.eq_false_iff]
        intro hsends
        exact hno (sends_iff.1 hsends).2
      rw [if_neg herror, hrequest]
      refine h.record hsends ?_ ?_ ⟨outcome.driver, ?_, hlike⟩ _
      · rfl
      · exact List.append_nil _
      · rfl
  · have hsends : sends signalIndex d fault (e, i) = false := by
      rw [Bool.eq_false_iff]
      intro hsends
      exact hindex (sends_iff.1 hsends).1
    obtain ⟨reason, hreason⟩ := applySetEntry_other hindex st
    rw [hreason]
    exact h.record hsends rfl rfl h.driver reason

/-- The loops take the entries in order. -/
theorem Taken.applyEntries {entries : List SetEntry} {i : ℕ} {taken : List (SetEntry × ℕ)}
    {st : SetIoState (IODriver × List Call)} (h : Taken signalIndex d fault taken st) :
    Taken signalIndex d fault (taken ++ entries.zipIdx i)
      (applyEntries signalIndex (fun i => IODriver.write (fault i) i) i entries st) := by
  induction entries generalizing i taken st with
  | nil =>
    rw [List.zipIdx_nil, List.append_nil]
    exact h
  | cons e entries ih =>
    rw [List.zipIdx_cons, List.append_cons]
    exact ih (h.applySetEntry i e)

end Entries

namespace GpioController

variable {n : GpioController} {d : URIODriver} {request : SetIO.Request} {fault : ℕ → Option String}

theorem taken_onSetIo (hd : n.driver = some (.ur d)) (request : SetIO.Request)
    (fault : ℕ → Option String) :
    ∃ st, Taken n.signalIndex d fault request.entries.zipIdx st ∧
      n.onSetIo request fault = ({ n with driver := some st.driver.1 },
        setIoResponse request.entries.length st.failed st.reasons, st.driver.2) := by
  have hstart : Taken n.signalIndex d fault [] { driver := (.ur d, []) } :=
    ⟨⟨d, rfl, .refl d⟩, rfl, rfl⟩
  refine ⟨applyEntries n.signalIndex (fun i => IODriver.write (fault i) i) 0 request.entries
    { driver := (.ur d, []) }, hstart.applyEntries, ?_⟩
  unfold onSetIo
  rw [hd]

theorem mem_onSetIo_calls (hd : n.driver = some (.ur d)) {i : ℕ} {e : SetEntry} :
    (∃ call ∈ (n.onSetIo request fault).2.2, call.index = i ∧ call.entry = e) ↔
      request.entries[i]? = some e ∧ sends n.signalIndex d fault (e, i) = true := by
  obtain ⟨st, h, heq⟩ := taken_onSetIo hd request fault
  rw [heq]
  have hmem : (e, i) ∈ st.driver.2.map (fun call => (call.entry, call.index)) ↔
      request.entries[i]? = some e ∧ sends n.signalIndex d fault (e, i) = true := by
    rw [h.calls, List.mem_filter, List.mk_mem_zipIdx_iff_getElem?]
  rw [← hmem, List.mem_map]
  constructor
  · rintro ⟨call, hcall, rfl, rfl⟩
    exact ⟨call, hcall, rfl⟩
  · rintro ⟨call, hcall, hpair⟩
    obtain ⟨rfl, rfl⟩ := Prod.mk.inj hpair
    exact ⟨call, hcall, rfl, rfl⟩

theorem mem_onSetIo_failed (hd : n.driver = some (.ur d)) {ioName : String} :
    ioName ∈ (n.onSetIo request fault).2.1.failedIoNames ↔ ∃ i e, request.entries[i]? = some e ∧
      e.ioName = ioName ∧ sends n.signalIndex d fault (e, i) = false := by
  obtain ⟨st, h, heq⟩ := taken_onSetIo hd request fault
  rw [heq]
  show ioName ∈ st.failed ↔ _
  rw [h.failed, List.mem_map]
  constructor
  · rintro ⟨⟨e, i⟩, hmem, rfl⟩
    obtain ⟨hmem, hsends⟩ := List.mem_filter.1 hmem
    exact ⟨i, e, List.mk_mem_zipIdx_iff_getElem?.1 hmem, rfl, Bool.not_eq_true' _ ▸ hsends⟩
  · rintro ⟨i, e, hget, rfl, hsends⟩
    refine ⟨(e, i), List.mem_filter.2 ⟨List.mk_mem_zipIdx_iff_getElem?.2 hget, ?_⟩, rfl⟩
    rw [hsends]
    rfl

theorem onSetIo_success : (n.onSetIo request fault).2.1.success = true →
    (n.onSetIo request fault).2.1.failedIoNames = [] := by
  unfold onSetIo
  split
  · intro h
    cases h
  · intro h
    exact List.isEmpty_iff.1 h

/-- The response tells whether the hardware took the writes. -/
def Reports (result : GpioController × SetIO.Response × List Call) (answer : ℕ → Answer) : Prop :=
  (result.2.1.success = true → ∀ call ∈ result.2.2, answer call.index = .result true) ∧
    ∀ call ∈ result.2.2, answer call.index ≠ .result true →
      call.entry.ioName ∈ result.2.1.failedIoNames

/-- What the hardware refuses is reported only where an entry of the same name was not sent at all. -/
theorem onSetIo_reports (hd : n.driver = some (.ur d)) (answer : ℕ → Answer) :
    Reports (n.onSetIo request fault) answer ↔
      ∀ i e, request.entries[i]? = some e → sends n.signalIndex d fault (e, i) = true →
        answer i ≠ .result true →
          ∃ j e', request.entries[j]? = some e' ∧ e'.ioName = e.ioName ∧
            sends n.signalIndex d fault (e', j) = false := by
  constructor
  · rintro ⟨-, hlisted⟩ i e hget hsends hanswer
    obtain ⟨call, hcall, rfl, rfl⟩ := (mem_onSetIo_calls hd).2 ⟨hget, hsends⟩
    exact (mem_onSetIo_failed hd).1 (hlisted call hcall hanswer)
  · intro h
    have hlisted : ∀ call ∈ (n.onSetIo request fault).2.2, answer call.index ≠ .result true →
        call.entry.ioName ∈ (n.onSetIo request fault).2.1.failedIoNames := by
      intro call hcall hanswer
      obtain ⟨hget, hsends⟩ := (mem_onSetIo_calls hd).1 ⟨call, hcall, rfl, rfl⟩
      exact (mem_onSetIo_failed hd).2 (h call.index call.entry hget hsends hanswer)
    refine ⟨fun hsuccess call hcall => ?_, hlisted⟩
    by_contra hanswer
    have hmem := hlisted call hcall hanswer
    rw [onSetIo_success hsuccess] at hmem
    cases hmem

/-- The node of the sample device, active, with the UR driver. -/
def connected : GpioController :=
  ((({} : GpioController).onConfigure .strict ⟨some sampleConfig, false, 0, false⟩).1.onActivate false).1

/-- The tool voltage is refused, and reported since a second entry gives it a digital state. -/
theorem onSetIo_reports_connected :
    let request : SetIO.Request :=
      ⟨[⟨"gripper", .OUT, true⟩, ⟨"tool", .OUT, true⟩], [⟨"tool", .OUT, 24, .VOLTAGE⟩]⟩
    let answer := fun i => if i = 2 then Answer.raised "timeout" else .result true
    Reports (connected.onSetIo request fun _ => none) answer ∧
      (connected.onSetIo request fun _ => none).2.2.length = 2 := by
  intro request answer
  refine ⟨(onSetIo_reports rfl answer).2 ?_, rfl⟩
  intro i e hget hsends hanswer
  match i with
  | 0 => exact absurd rfl hanswer
  | 1 => exact absurd rfl hanswer
  | 2 =>
    cases hget
    exact ⟨1, _, rfl, rfl, rfl⟩
  | i + 3 => cases hget

/-- The one write of the request is refused, and the response says success. -/
theorem refusal_lost :
    let request : SetIO.Request := ⟨[⟨"gripper", .OUT, true⟩], []⟩
    let result := connected.onSetIo request fun _ => none
    result.2.1 = ⟨true, "", []⟩ ∧ result.2.2 = [⟨0, .digital ⟨"gripper", .OUT, true⟩,
      .setIo .FUN_SET_DIGITAL_OUT 0 STATE_ON⟩] ∧ ¬Reports result fun _ => .result false := by
  intro request result
  refine ⟨rfl, rfl, ?_⟩
  rintro ⟨hsuccess, -⟩
  have hanswer := hsuccess rfl _ (List.mem_cons_self ..)
  cases hanswer

end GpioController

end IoControllers
