import MovementController.Io.Interchange

/-!
# Saved outputs

A message of `~/io_states` has the entries of a `set_io` command, so it can be sent back. The outputs then
have the states of the message, with the driver of either mode, whatever happened to them in between.
-/

namespace IoControllers

def IOStates.toRequest (msg : IOStates) : SetIO.Request := ⟨msg.digitalIo, msg.analogIo⟩

def SetEntry.direction : SetEntry → IODirectionEnum
  | digital io => io.direction
  | analog io => io.direction

def IOStates.inputNames (msg : IOStates) : List String :=
  (msg.toRequest.entries.filter (·.direction = .IN)).map (·.ioName)

/-- The same signals in the same order, and the outputs as they are in `saved`. -/
def IOStates.Restored (saved msg : IOStates) : Prop :=
  List.Forall₂ (fun s e : SetEntry => e.ioName = s.ioName ∧ e.isDigital = s.isDigital ∧
    e.direction = s.direction ∧ (s.direction = .OUT → e = s))
    saved.toRequest.entries msg.toRequest.entries

/-! ### Two caches of one table -/

/-- The caches differ in no more than the states. -/
structure SameTable (c c' : Dict String Signal) : Prop where
  keys : Dict.keys c' = Dict.keys c
  signals : ∀ n, (Dict.get c' n).map Signal.reset = (Dict.get c n).map Signal.reset

namespace SameTable

variable {c c' c'' : Dict String Signal} {n : String} {signal : Signal}

theorem refl (c : Dict String Signal) : SameTable c c := ⟨rfl, fun _ => rfl⟩

theorem trans (h : SameTable c c') (h' : SameTable c' c'') : SameTable c c'' :=
  ⟨h'.keys.trans h.keys, fun n => (h'.signals n).trans (h.signals n)⟩

theorem of_twin {places : Dict String Place} {d d' : URIODriver} (h : Twin places d d') :
    SameTable d.cache d'.cache :=
  ⟨h.keys, h.signals⟩

theorem updateCache (d : URIODriver) (n : String) (value : Value) :
    SameTable d.cache (d.updateCache n value).cache :=
  ⟨d.keys_updateCache n value, fun m => d.reset_updateCache n m value⟩

theorem onIoStates (d : URIODriver) (msg : URIOStates) :
    SameTable d.cache (d.onIoStates msg).cache := by
  rw [URIODriver.onIoStates_eq]
  induction d.updates msg generalizing d with
  | nil => exact .refl _
  | cons u us ih => exact (updateCache d u.1 u.2).trans (ih _)

/-- A signal that one cache has the other one has too. -/
theorem get (h : SameTable c c') (hget : Dict.get c n = some signal) :
    ∃ signal', Dict.get c' n = some signal' ∧ signal'.reset = signal.reset := by
  have hsignals := h.signals n
  rw [hget, Option.map_some] at hsignals
  exact Option.map_eq_some_iff.1 hsignals

/-- A new state keeps the table. -/
theorem set (hget : Dict.get c n = some signal) (state : Value) :
    SameTable c (Dict.set c n { signal with state }) := by
  refine ⟨Dict.keys_set_of_mem (List.mem_map_of_mem (Dict.mem_of_get hget)), fun m => ?_⟩
  by_cases hm : m = n
  · rw [hm, Dict.get_set_self, hget]
    rfl
  · rw [Dict.get_set_of_ne hm]

end SameTable

/-! ### The writes of the mock -/

/-- The signal is in the state that the entry sets. -/
def SetEntry.Holds (e : SetEntry) (c : Dict String Signal) : Prop :=
  ∃ signal, Dict.get c e.ioName = some signal ∧
    match e with
    | .digital io => signal.state.toBool = io.state
    | .analog io => signal.state.toFloat = io.state

/-- The cache has the signals of the index. -/
def Serves (signalIndex : Dict String SignalMeta) (c : Dict String Signal) : Prop :=
  ∀ n entry, Dict.get signalIndex n = some entry →
    ∃ signal, Dict.get c n = some signal ∧ signal.ioName = n ∧ signal.toMeta = entry

section Writes

variable {signalIndex : Dict String SignalMeta} {c c' : Dict String Signal} {m : MockIODriver}
  {signal : Signal} {n : String} {e : SetEntry}

theorem Serves.of_sameTable (h : Serves signalIndex c) (ht : SameTable c c') : Serves signalIndex c' := by
  intro n entry hn
  obtain ⟨signal, hget, hname, hmeta⟩ := h n entry hn
  obtain ⟨signal', hget', hreset⟩ := ht.get hget
  have hname' : signal'.ioName = signal.ioName := congrArg (·.ioName) hreset
  have hmeta' : signal'.toMeta = signal.toMeta := congrArg (·.toMeta) hreset
  exact ⟨signal', hget', hname'.trans hname, hmeta'.trans hmeta⟩

/-- The state after `_apply` is the value, up to the type of the number. -/
theorem MockIODriver.apply_cache (hget : Dict.get m.cache signal.ioName = some signal) (value : Value) :
    SameTable m.cache (m.apply signal value).cache ∧
    (∀ n, n ≠ signal.ioName → Dict.get (m.apply signal value).cache n = Dict.get m.cache n) ∧
    ∃ state, state.num = value.num ∧
      Dict.get (m.apply signal value).cache signal.ioName = some { signal with state } := by
  unfold apply
  by_cases hnum : signal.state.num = value.num
  · rw [if_pos hnum]
    exact ⟨.refl _, fun _ _ => rfl, signal.state, hnum, hget⟩
  · rw [if_neg hnum]
    exact ⟨.set hget value, fun n hn => Dict.get_set_of_ne hn, value, rfl, Dict.get_set_self⟩

/-- A write that names an output is accepted and has its effect on that output alone. -/
theorem Serves.write (h : Serves signalIndex m.cache) (hnames : namesOutput signalIndex e = true)
    (calls : List Call) (fault : Option String) (i : ℕ) :
    ∃ m', IODriver.write fault i e (.mock m, calls) = ((.mock m', calls), none) ∧
      SameTable m.cache m'.cache ∧ e.Holds m'.cache ∧
      ∀ n, n ≠ e.ioName → Dict.get m'.cache n = Dict.get m.cache n := by
  obtain ⟨signal, hget, hname, hmeta⟩ := h _ _ (namesOutput_iff.1 hnames)
  obtain ⟨htype, hout⟩ := Prod.mk.inj hmeta
  have hrequire : m.requireOutput e.ioName e.isDigital = .ok signal := by
    simp [MockIODriver.requireOutput, hget, hout, htype]
  rw [← hname] at hget
  cases e with
  | digital io =>
    have hdigital : m.setDigital io.ioName io.state = .ok (m.apply signal (.bool io.state)) := by
      have hrequire' : m.requireOutput io.ioName true = .ok signal := hrequire
      rw [MockIODriver.setDigital, hrequire']
      rfl
    obtain ⟨htable, hothers, state, hnum, hself⟩ := MockIODriver.apply_cache hget (.bool io.state)
    rw [hname] at hself hothers
    refine ⟨_, ?_, htable, ⟨_, hself, ?_⟩, hothers⟩
    · simp only [IODriver.write, hdigital]
    · rw [Value.toBool, hnum]
      exact Value.toBool_bool io.state
  | analog io =>
    have hanalog : m.setAnalog io.ioName io.state = .ok (m.apply signal (.float io.state)) := by
      have hrequire' : m.requireOutput io.ioName false = .ok signal := hrequire
      rw [MockIODriver.setAnalog, hrequire']
      rfl
    obtain ⟨htable, hothers, state, hnum, hself⟩ := MockIODriver.apply_cache hget (.float io.state)
    rw [hname] at hself hothers
    refine ⟨_, ?_, htable, ⟨_, hself, hnum⟩, hothers⟩
    simp only [IODriver.write, hanalog]

/-- The handler writes every entry that names an output, notes the names of the others and leaves the
signals that are not in the request alone. -/
theorem Serves.applyEntries {entries : List SetEntry} (h : Serves signalIndex m.cache)
    (hnodup : (entries.map (·.ioName)).Nodup) (failed reasons : List String) (i : ℕ) :
    ∃ m' reasons', applyEntries signalIndex (fun i => IODriver.write none i) i entries
        { driver := (.mock m, []), failed, reasons } =
        { driver := (.mock m', []), failed := failed ++
            (entries.filter (!namesOutput signalIndex ·)).map (·.ioName), reasons := reasons' } ∧
      SameTable m.cache m'.cache ∧
      (∀ e ∈ entries, namesOutput signalIndex e = true → e.Holds m'.cache) ∧
      ∀ n, n ∉ entries.map (·.ioName) → Dict.get m'.cache n = Dict.get m.cache n := by
  induction entries generalizing m failed reasons i with
  | nil => exact ⟨m, reasons, by simp [IoControllers.applyEntries], .refl _, nofun, fun _ _ => rfl⟩
  | cons e entries ih =>
    rw [List.map_cons, List.nodup_cons] at hnodup
    rw [IoControllers.applyEntries]
    cases hnames : namesOutput signalIndex e with
    | true =>
      obtain ⟨m₁, hwrite, htable, hholds, hothers⟩ := h.write hnames [] none i
      obtain ⟨m', reasons', hentries, htable', hholds', hothers'⟩ :=
        ih (h.of_sameTable htable) hnodup.2 failed reasons (i + 1)
      have hstep : applySetEntry signalIndex (IODriver.write none i)
          { driver := (.mock m, []), failed, reasons } e =
            { driver := (.mock m₁, []), failed, reasons } := by
        rw [applySetEntry_output (namesOutput_iff.1 hnames), hwrite]
        rfl
      refine ⟨m', reasons', ?_, htable.trans htable', ?_, fun n hn => ?_⟩
      · rw [hstep, hentries, List.filter_cons_of_neg (by simp [hnames])]
      · intro e' he' hnames'
        rcases List.mem_cons.1 he' with rfl | he'
        -- the name of the entry does not come again
        · obtain ⟨signal, hget, hstate⟩ := hholds
          exact ⟨signal, (hothers' _ hnodup.1).trans hget, hstate⟩
        · exact hholds' e' he' hnames'
      · rw [List.map_cons, List.mem_cons, not_or] at hn
        exact (hothers' n hn.2).trans (hothers n hn.1)
    | false =>
      have hother : ∃ reason, applySetEntry signalIndex (IODriver.write none i)
          { driver := (.mock m, []), failed, reasons } e =
          recordFailure { driver := (.mock m, []), failed, reasons } e.ioName reason :=
        applySetEntry_other (of_decide_eq_false hnames) _
      obtain ⟨reason, hstep⟩ := hother
      obtain ⟨m', reasons', hentries, htable, hholds, hothers⟩ :=
        ih h hnodup.2 (failed ++ [e.ioName]) (reasons ++ [s!"{e.ioName} ({reason})"]) (i + 1)
      refine ⟨m', reasons', ?_, htable, fun e' he' hnames' => ?_, fun n hn => ?_⟩
      · rw [hstep, recordFailure, hentries, List.filter_cons_of_pos (by simp [hnames]), List.map_cons,
          List.append_assoc]
        rfl
      · rcases List.mem_cons.1 he' with rfl | he'
        · rw [hnames] at hnames'
          cases hnames'
        · exact hholds e' he' hnames'
      · exact hothers n fun hmem => hn (List.mem_cons_of_mem _ hmem)

end Writes

/-! ### The message of a snapshot -/

def Signal.toEntry (signal : Signal) : SetEntry := signal.toMsg.elim .digital .analog

section Entries

variable {signal : Signal}

theorem Signal.toEntry_digital (h : signal.type = .digital) : signal.toEntry =
    .digital ⟨signal.ioName, signal.direction, signal.state.toBool⟩ := by
  rw [toEntry, toMsg, h]
  rfl

theorem Signal.toEntry_analog {domain : IODomainEnum} (h : signal.type = .analog domain) :
    signal.toEntry = .analog ⟨signal.ioName, signal.direction, signal.state.toFloat, domain⟩ := by
  rw [toEntry, toMsg, h]
  rfl

@[simp] theorem Signal.ioName_toEntry (signal : Signal) : signal.toEntry.ioName = signal.ioName := by
  cases h : signal.type with
  | digital => rw [toEntry_digital h]; rfl
  | analog domain => rw [toEntry_analog h]; rfl

@[simp] theorem Signal.direction_toEntry (signal : Signal) :
    signal.toEntry.direction = signal.direction := by
  cases h : signal.type with
  | digital => rw [toEntry_digital h]; rfl
  | analog domain => rw [toEntry_analog h]; rfl

@[simp] theorem Signal.isDigital_toEntry (signal : Signal) :
    signal.toEntry.isDigital = decide (signal.type = .digital) := by
  cases h : signal.type with
  | digital => rw [toEntry_digital h]; rfl
  | analog domain => rw [toEntry_analog h]; rfl

/-- The entries are made of the signals, the digital ones first. -/
theorem Driver.entries_snapshot (d : Driver) : d.snapshot.toMsg.toRequest.entries =
    (d.snapshot.digital ++ d.snapshot.analog).map Signal.toEntry := by
  have hdigital : ∀ s ∈ d.snapshot.digital, s.toMsg.getLeft?.map SetEntry.digital = some s.toEntry := by
    intro s hs
    have htype : s.type = .digital := by simpa using (List.mem_filter.1 hs).2
    rw [Signal.toEntry_digital htype, Signal.toMsg, htype]
    rfl
  have hanalog : ∀ s ∈ d.snapshot.analog, s.toMsg.getRight?.map SetEntry.analog = some s.toEntry := by
    intro s hs
    have htype : s.type ≠ .digital := by simpa using (List.mem_filter.1 hs).2
    cases hs : s.type with
    | digital => exact absurd hs htype
    | analog domain =>
      rw [Signal.toEntry_analog hs, Signal.toMsg, hs]
      rfl
  rw [IOStates.toRequest, SetIO.Request.entries, IOStatesSnapshot.toMsg, List.map_append,
    List.map_filterMap, List.map_filterMap, List.filterMap_congr hdigital, List.filterMap_congr hanalog,
    List.filterMap_eq_map']

end Entries

/-! ### Sending it back -/

section Back

variable {d : Driver} {m m' : MockIODriver} {signalIndex : Dict String SignalMeta}

theorem Driver.Consistent.serves (h : d.Consistent)
    (hindex : ∀ n, Dict.get signalIndex n = (Dict.get d.cache n).map Signal.toMeta) :
    Serves signalIndex d.cache := by
  intro n entry hn
  rw [hindex] at hn
  obtain ⟨signal, hget, hmeta⟩ := Option.map_eq_some_iff.1 hn
  exact ⟨signal, hget, h.keyed n signal hget, hmeta⟩

/-- The entries of a snapshot name outputs exactly when they are outputs. -/
theorem Driver.Consistent.namesOutput_toEntry (h : d.Consistent)
    (hindex : ∀ n, Dict.get signalIndex n = (Dict.get d.cache n).map Signal.toMeta) {signal : Signal}
    (hs : signal ∈ d.snapshot.digital ++ d.snapshot.analog) :
    namesOutput signalIndex signal.toEntry = decide (signal.direction = .OUT) := by
  rw [namesOutput, hindex, Signal.ioName_toEntry, h.mem_snapshot.1 hs, Signal.isDigital_toEntry]
  simp [Signal.toMeta]

/-- A signal that holds what the entry of another state sets has that entry. -/
theorem Signal.toEntry_eq {signal signal' : Signal} (hreset : signal'.reset = signal.reset)
    {c : Dict String Signal} (hget : Dict.get c signal.ioName = some signal')
    (h : signal.toEntry.Holds c) : signal'.toEntry = signal.toEntry := by
  have hname : signal'.ioName = signal.ioName := congrArg (·.ioName) hreset
  have hdirection : signal'.direction = signal.direction := congrArg (·.direction) hreset
  have htype : signal'.type = signal.type := congrArg (·.type) hreset
  obtain ⟨written, hwritten, hstate⟩ := h
  rw [Signal.ioName_toEntry, hget] at hwritten
  obtain rfl := Option.some.inj hwritten
  cases hs : signal.type with
  | digital =>
    rw [toEntry_digital hs] at hstate
    rw [toEntry_digital hs, toEntry_digital (htype.trans hs), hname, hdirection, hstate]
  | analog domain =>
    rw [toEntry_analog hs] at hstate
    rw [toEntry_analog hs, toEntry_analog (htype.trans hs), hname, hdirection, hstate]

/-- Caches of one table with the same outputs make messages with the same outputs. -/
theorem SameTable.restored (h : SameTable d.cache m.cache) (hd : d.Consistent)
    (hout : ∀ signal ∈ d.snapshot.digital ++ d.snapshot.analog, signal.direction = .OUT →
      signal.toEntry.Holds m.cache) : d.snapshot.toMsg.Restored m.snapshot.toMsg := by
  have hvalues : List.Forall₂ (fun s s' : Signal => s'.reset = s.reset ∧
      (s.direction = .OUT → s'.toEntry = s.toEntry)) (Dict.values d.cache) (Dict.values m.cache) := by
    refine Dict.forall₂_values h.keys.symm hd.nodup fun n s s' hs hs' => ?_
    have hname := hd.keyed n s hs
    obtain ⟨s'', hget, hreset⟩ := h.get hs
    obtain rfl := Option.some.inj (hget.symm.trans hs')
    rw [← hname] at hs hget
    exact ⟨hreset, fun hdir => Signal.toEntry_eq hreset hget (hout s (hd.mem_snapshot.2 hs) hdir)⟩
  have htype {s s' : Signal} (hreset : s'.reset = s.reset) : s'.type = s.type :=
    congrArg (·.type) hreset
  rw [IOStates.Restored, Driver.entries_snapshot, Driver.entries_snapshot, List.forall₂_map_left_iff,
    List.forall₂_map_right_iff]
  have hentries : List.Forall₂ (fun s s' : Signal => s'.reset = s.reset ∧
      (s.direction = .OUT → s'.toEntry = s.toEntry)) (d.snapshot.digital ++ d.snapshot.analog)
      (m.snapshot.digital ++ m.snapshot.analog) := by
    refine List.rel_append (List.rel_filter (fun s s' hs => ?_) hvalues)
      (List.rel_filter (fun s s' hs => ?_) hvalues)
    · dsimp only
      rw [htype hs.1]
    · dsimp only
      rw [htype hs.1]
  refine hentries.imp fun s s' hs => ⟨?_, ?_, ?_, ?_⟩
  · rw [Signal.ioName_toEntry, Signal.ioName_toEntry]
    exact congrArg (·.ioName) hs.1
  · rw [Signal.isDigital_toEntry, Signal.isDigital_toEntry, htype hs.1]
  · rw [Signal.direction_toEntry, Signal.direction_toEntry]
    exact congrArg (·.direction) hs.1
  · rw [Signal.direction_toEntry]
    exact hs.2

/-- The simulated node. -/
theorem GpioController.onSetIo_snapshot {n : GpioController} (hd : d.Consistent)
    (hindex : ∀ name, Dict.get n.signalIndex name = (Dict.get d.cache name).map Signal.toMeta)
    (hm : n.driver = some (.mock m)) (htable : SameTable d.cache m.cache) :
    let saved := d.snapshot.toMsg
    let (n', response, _) := n.onSetIo saved.toRequest fun _ => none
    response.failedIoNames = saved.inputNames ∧ (response.success = true ↔ saved.inputNames = []) ∧
      ∃ m', n' = { n with driver := some (.mock m') } ∧ saved.Restored m'.snapshot.toMsg := by
  intro saved
  have hserves : Serves n.signalIndex m.cache := (hd.serves hindex).of_sameTable htable
  have hentries : saved.toRequest.entries = _ := d.entries_snapshot
  have hnodup : (saved.toRequest.entries.map (·.ioName)).Nodup := by
    rw [hentries, List.map_map]
    simpa [Function.comp_def] using hd.nodup_snapshot
  obtain ⟨m', reasons, happly, htable', hholds, -⟩ := hserves.applyEntries hnodup [] [] 0
  have hfailed : (saved.toRequest.entries.filter (!namesOutput n.signalIndex ·)).map (·.ioName) =
      saved.inputNames := by
    rw [IOStates.inputNames]
    congr 1
    refine List.filter_congr fun e he => ?_
    rw [hentries] at he
    obtain ⟨signal, hsignal, rfl⟩ := List.mem_map.1 he
    rw [hd.namesOutput_toEntry hindex hsignal, Signal.direction_toEntry]
    cases signal.direction <;> rfl
  have honSetIo : n.onSetIo saved.toRequest (fun _ => none) = ({ n with driver := some (.mock m') },
      setIoResponse saved.toRequest.entries.length saved.inputNames reasons, []) := by
    simp only [onSetIo, hm, happly, List.nil_append, hfailed]
  rw [honSetIo]
  refine ⟨rfl, List.isEmpty_iff, m', rfl, (htable.trans htable').restored hd fun signal hs hdir => ?_⟩
  refine hholds _ (by rw [hentries]; exact List.mem_map_of_mem hs) ?_
  rw [hd.namesOutput_toEntry hindex hs, hdir]
  rfl

end Back

/-! ### The node on the robot -/

theorem Wired.table_write {places : Dict String Place} {d : URIODriver} (h : Wired places d)
    (fault : Option String) (i : ℕ) (e : SetEntry) (calls : List Call) :
    ∃ d', (IODriver.write fault i e (.ur d, calls)).1.1 = .ur d' ∧ Wired places d' ∧
      SameTable d.cache d'.cache := by
  cases e with
  | digital io =>
    refine ⟨_, rfl, (h.samePins_setDigital io.ioName io.state fault).wired, ?_⟩
    rw [URIODriver.setDigital_driver]
    exact .refl _
  | analog io =>
    refine ⟨_, rfl, (h.samePins_setAnalog io.ioName io.state fault).wired, ?_⟩
    rcases h.setAnalog_driver io.ioName io.state fault with hd | ⟨-, hd⟩
    · rw [hd]
      exact .refl _
    · rw [hd]
      exact .updateCache d io.ioName _

theorem GpioController.table_onSetIo {places : Dict String Place} {n : GpioController} {d : URIODriver}
    (hd : n.driver = some (.ur d)) (hw : Wired places d) (request : SetIO.Request)
    (fault : ℕ → Option String) :
    ∃ d', (n.onSetIo request fault).1.driver = some (.ur d') ∧ SameTable d.cache d'.cache := by
  have hwrite (i : ℕ) (e : SetEntry) (s : IODriver × List Call)
      (h : ∃ d', s.1 = .ur d' ∧ Wired places d' ∧ SameTable d.cache d'.cache) :
      ∃ d', (IODriver.write (fault i) i e s).1.1 = .ur d' ∧ Wired places d' ∧
        SameTable d.cache d'.cache := by
    obtain ⟨s, calls⟩ := s
    obtain ⟨d₁, rfl, hw₁, htable⟩ := h
    obtain ⟨d', hd', hw', htable'⟩ := hw₁.table_write (fault i) i e calls
    exact ⟨d', hd', hw', htable.trans htable'⟩
  obtain ⟨d', hd', -, htable⟩ := applyEntries_keeps
    (fun s : IODriver × List Call => ∃ d', s.1 = .ur d' ∧ Wired places d' ∧ SameTable d.cache d'.cache)
    n.signalIndex hwrite request.entries 0 { driver := (.ur d, []) } ⟨d, rfl, hw, .refl _⟩
  refine ⟨d', ?_, htable⟩
  rw [onSetIo, hd]
  dsimp only
  rw [hd']

namespace Hardware

variable {mapping : URMappingDTO} {pins : Category → List Nat} {w w' : Hardware} {l : Label}

/-- Whatever happens, the driver has the signals that it had. -/
theorem table_step {d : URIODriver} (hd : w.node.driver = some (.ur d)) (hw : Wired mapping.places d)
    (hs : w.step pins l = some w') :
    ∃ d', w'.node.driver = some (.ur d') ∧ SameTable d.cache d'.cache := by
  cases hl : l.stimulus? with
  | some stimulus =>
    obtain rfl : l = .stimulus stimulus := by
      cases l with
      | stimulus s => rw [Option.some.inj hl]
      | _ => cases hl
    cases stimulus with
    | setIo request =>
      rw [← Option.some.inj hs]
      exact w.node.table_onSetIo hd hw request _
    | inputChange =>
      rw [← Option.some.inj hs]
      exact ⟨d, hd, .refl _⟩
  | none =>
    obtain ⟨k, hk, hstep⟩ := step_quiet pins hd hl
    rw [hstep] at hs
    obtain ⟨r, hr, rfl⟩ := Option.map_eq_some_iff.1 hs
    refine ⟨r.driver, rfl, ?_⟩
    cases Remote.step_cases hr with
    | inputChange => exact .refl _
    | call => cases hk
    | net => exact .refl _
    | receive => exact .onIoStates d _

/-- There is a simulated node that goes with it. -/
def Simulated (mapping : URMappingDTO) (pins : Category → List Nat) (w : Hardware) : Prop :=
  ∃ n, Counterparts mapping pins w n

theorem Simulated.step (hpins : ∀ category, ∀ e ∈ mapping.pins category, e.2 ∈ pins category)
    (h : Simulated mapping pins w) (hs : w.step pins l = some w') : Simulated mapping pins w' := by
  obtain ⟨n, h⟩ := h
  cases hl : l.stimulus? with
  | none => exact ⟨n, (h.quiet hpins hl hs).1⟩
  | some stimulus =>
    cases l with
    | stimulus s => exact ⟨_, (h.stimulus hpins hs).1⟩
    | _ => cases hl

theorem table_runs {d : URIODriver}
    (hpins : ∀ category, ∀ e ∈ mapping.pins category, e.2 ∈ pins category)
    (h : Simulated mapping pins w) (hd : w.node.driver = some (.ur d))
    (hrun : Lts.Reaches (step pins) w w') : Simulated mapping pins w' ∧
      ∃ d', w'.node.driver = some (.ur d') ∧ SameTable d.cache d'.cache := by
  refine hrun.invariant (I := fun w => Simulated mapping pins w ∧
    ∃ d', w.node.driver = some (.ur d') ∧ SameTable d.cache d'.cache) ⟨h, d, hd, .refl _⟩ ?_
  rintro w w' l ⟨h, d', hd', htable⟩ - hs
  obtain ⟨n, hn⟩ := h
  obtain ⟨m, -, hpaired⟩ := hn.paired hd'
  obtain ⟨d₁, hd₁, htable₁⟩ := table_step hd' hpaired.inv.wired hs
  exact ⟨.step hpins ⟨n, hn⟩ hs, d₁, hd₁, htable.trans htable₁⟩

end Hardware

/-- A message that a node on the robot has published is sent back to it, some time later. The response
names the inputs of the message, and when the network has caught up, which it can, the outputs are as
they were, whatever was asked of them in the meantime. -/
theorem outputs_restored {py : Pydantic} (hstr : ∀ s, py.parseStr (.str s) = some s)
    {config : IOControllerConfigDTO} {rate : ℚ} {real : GpioController}
    (hreal : GpioController.startUp py ⟨some config, false, rate, false⟩ = some real) :
    ∃ d, real.driver = some (.ur d) ∧ ∀ pins : Category → List Nat,
      (∀ category, ∀ e ∈ d.device.mapping.pins category, e.2 ∈ pins category) →
      ∀ robot : Robot, robot.AtDefaults d.device.mapping (Dict.values d.cache) →
      ∀ w₀ saved w w₁, Lts.Reaches (Hardware.step pins) { node := real, net := { robot } } w₀ →
      w₀.node.publishSnapshot = some saved → Lts.Reaches (Hardware.step pins) w₀ w →
      w.step pins (.stimulus (.setIo saved.toRequest)) = some w₁ →
      (∃ response, w₁.responses = w.responses ++ [response] ∧
        response.failedIoNames = saved.inputNames ∧
        (response.success = true ↔ saved.inputNames = [])) ∧
      (∀ w₂, Lts.Runs (Hardware.step pins) Hardware.Quiet w₁ w₂ → w₂.net.calls = [] →
        w₂.net.seen = w₂.net.past.length →
        ∃ msg, w₂.node.publishSnapshot = some msg ∧ saved.Restored msg) ∧
      ∃ w₂, Lts.Runs (Hardware.step pins) Hardware.Quiet w₁ w₂ ∧ w₂.net.calls = [] ∧
        w₂.net.seen = w₂.net.past.length := by
  obtain ⟨sim, d, -, hd, hstart⟩ := counterparts_startUp hstr hreal
  refine ⟨d, hd, fun pins hpins robot hrobot w₀ saved w w₁ h₀ hsaved h hs => ?_⟩
  obtain ⟨⟨n₀, hn₀⟩, d₀, hd₀, -⟩ := Hardware.table_runs hpins ⟨sim, hstart pins robot hrobot⟩ hd h₀
  obtain ⟨⟨n, hn⟩, dw, hdw, htable⟩ := Hardware.table_runs hpins ⟨n₀, hn₀⟩ hd₀ h
  obtain ⟨m₀, -, hpaired₀⟩ := hn₀.paired hd₀
  obtain ⟨m, hm, hpaired⟩ := hn.paired hdw
  have hwired₀ := hpaired₀.inv.wired
  have hconsistent : d₀.Consistent := ⟨hwired₀.keyed, by rw [hpaired₀.inv.keys]; exact hwired₀.nodup⟩
  obtain ⟨driver, hdriver, rfl⟩ := GpioController.publishSnapshot_some hsaved
  obtain rfl := Option.some.inj (hd₀.symm.trans hdriver)
  have hindex : ∀ name, Dict.get n.signalIndex name = (Dict.get d₀.cache name).map Signal.toMeta := by
    intro name
    rw [hwired₀.toMeta_eq, hn.signalIndex]
    exact hn.indexed name
  have htable' : SameTable d₀.cache m.cache := by
    obtain ⟨cell, hmirrors⟩ := hpaired.mirrors
    rw [hmirrors.related.cache_eq]
    exact htable.trans (.of_twin hmirrors.twin)
  obtain ⟨hfailed, hsuccess, m', hn', hrestored⟩ :=
    GpioController.onSetIo_snapshot hconsistent hindex hm htable'
  rw [← Option.some.inj hs]
  have hboth := hn.setIo hpins (IODriver.ur d₀).snapshot.toMsg.toRequest
    (w.responses ++ [(w.node.onSetIo (IODriver.ur d₀).snapshot.toMsg.toRequest fun _ => none).2.1])
  obtain ⟨hresponse, hnext⟩ := hboth
  obtain ⟨w₂, hquiet, -, hcalls, hseen⟩ := hnext.catches_up hpins
  refine ⟨⟨_, rfl, ?_, ?_⟩, fun w₃ hquiet hcalls hseen => ?_, w₂, hquiet, hcalls, hseen⟩
  · exact (congrArg SetIO.Response.failedIoNames hresponse).trans hfailed
  · exact (congrArg (fun r => r.success = true) hresponse).to_iff.trans hsuccess
  · have hw₃ := hquiet.invariant (I := fun w => Counterparts d.device.mapping pins w _) hnext
      fun hw hl hs => (hw.quiet hpins hl hs).1
    obtain ⟨msg, hreal, hmock⟩ := hw₃.publishSnapshot_eq hcalls hseen
    refine ⟨msg, hreal, ?_⟩
    rw [hw₃.mock.snapshot (congrArg GpioController.driver hn')] at hmock
    rw [← Option.some.inj hmock]
    exact hrestored

/-- The gripper closes, and a part is there. -/
def changedLabels : List Hardware.Label := [
  .stimulus (.setIo ⟨[⟨"gripper", .OUT, true⟩], []⟩), .execute 0,
  .stimulus (.inputChange .digitalInStates Category.direction_digitalInStates 0 (.bool true))]

def settledLabels : List Hardware.Label := [
  .execute 0, .execute 0, .execute 0, .execute 0, .report, .receive]

/-- What is saved are the defaults. -/
theorem outputs_restored_changedLabels : ∃ (w₂ : Hardware) (saved msg : IOStates),
    saved.inputNames = ["part_present", "force"] ∧ saved.isOn "part_present" = false ∧
    w₂.node.publishSnapshot.any (·.isOn "part_present") = true ∧
    w₂.node.publishSnapshot = some msg ∧ saved.Restored msg := by
  let robot : Robot :=
    { value := fun category _ => if category.isDigital then .bool false else .float 0 }
  have hreal : GpioController.startUp .strict ⟨some sampleConfig, false, 0, false⟩ = some _ := rfl
  obtain ⟨d, hd, hruns⟩ := @outputs_restored .strict (fun _ => rfl) _ _ _ hreal
  cases hd
  obtain ⟨-, hsettled, -⟩ := hruns (fun _ => [0, 1]) (by intro category; cases category <;> decide) robot
    (by intro category; cases category <;> decide) _ _ _ _ .refl rfl (.of_exec changedLabels rfl) rfl
  obtain ⟨msg, hmsg, hrestored⟩ := hsettled _ (.of_exec settledLabels rfl) rfl rfl
  refine ⟨_, _, msg, ?_, ?_, ?_, hmsg, hrestored⟩
  · decide
  · decide
  · decide

end IoControllers
