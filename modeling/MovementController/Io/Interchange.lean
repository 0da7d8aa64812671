import MovementController.Io.Messages
import MovementController.Io.MockBehavior
import MovementController.Io.Tables

/-!
# A simulated node in the place of a real one

Two active nodes of one configuration get the same requests: one has the mock driver, the other one the
robot, over a network with its delays. They answer word for word the same, and when the network has
caught up they publish the same message. A change of an input is a change of its pin for the one and a
scripted change for the other.
-/

namespace IoControllers

inductive NodeStimulus where
  | setIo (request : SetIO.Request)
  | inputChange (category : Category) (hin : category.direction = .IN) (pin : Nat) (value : Value)

/-! ### The simulated node -/

namespace GpioController

/-- A change is scripted with no delay, and its timer fires. -/
def script (n : GpioController) (ioName : String) (value : Value) : GpioController :=
  let (n', response) := n.onSetMockBehavior ⟨ioName, value.toBool, value.toFloat, 0⟩
  if response.success then n'.armed.getLast?.elim n' n'.fire else n

def simulate (mapping : URMappingDTO) (n : GpioController) :
    NodeStimulus → GpioController × Option SetIO.Response
  | .setIo request =>
    let (n, response, _) := n.onSetIo request fun _ => none
    (n, some response)
  | .inputChange category _ pin value =>
    match (mapping.pins category).find? (·.2 = pin) with
    | some e => (n.script e.1 value, none)
    | none => (n, none)

/-- The node after a list of stimuli, with the responses it has given. -/
def simulateAll (mapping : URMappingDTO) (n : GpioController) :
    List NodeStimulus → GpioController × List SetIO.Response
  | [] => (n, [])
  | stimulus :: stimuli =>
    let (n, response) := n.simulate mapping stimulus
    let (n, responses) := n.simulateAll mapping stimuli
    (n, response.toList ++ responses)

end GpioController

/-! ### The node on the robot -/

structure Hardware where
  node : GpioController
  net : Network
  responses : List SetIO.Response := []

namespace Hardware

inductive Label where
  | stimulus (stimulus : NodeStimulus)
  | execute (i : ℕ)
  | report
  | lose (i : ℕ)
  | receive

def Label.stimulus? : Label → Option NodeStimulus
  | stimulus s => some s
  | _ => none

def overNet (pins : Category → List Nat) (w : Hardware) (l : Network.Label) : Option Hardware :=
  (w.net.step pins l).map fun net => { w with net }

def step (pins : Category → List Nat) (w : Hardware) : Label → Option Hardware
  | .stimulus (.setIo request) =>
    let (node, response, calls) := w.node.onSetIo request fun _ => none
    some {
      node
      net := { w.net with calls := w.net.calls ++ calls.map (·.request) }
      responses := w.responses ++ [response] }
  | .stimulus (.inputChange category _ pin value) => w.overNet pins (.outside category pin value)
  | .execute i => w.overNet pins (.execute i)
  | .report => w.overNet pins .report
  | .lose i => w.overNet pins (.lose i)
  | .receive =>
    match w.node.driver with
    | some (.ur d) =>
      w.net.receive.map fun (msg, net) =>
        { w with node := { w.node with driver := some (.ur (d.onIoStates msg)) }, net }
    | _ => none

/-- The node and the network with the driver and the network of `r`. -/
def withRemote (w : Hardware) (r : Remote) : Hardware :=
  { w with node := { w.node with driver := some (.ur r.driver) }, net := r.net }

section Quiet

variable (pins : Category → List Nat) {w : Hardware} {d : URIODriver}

theorem overNet_eq (hd : w.node.driver = some (.ur d)) (l : Network.Label) :
    w.overNet pins l = (Remote.overNet pins ⟨d, w.net⟩ l).map w.withRemote := by
  rw [overNet, Remote.overNet, Option.map_map]
  congr 1
  funext net
  rw [Function.comp_apply, withRemote, ← hd]

theorem receive_eq (hd : w.node.driver = some (.ur d)) :
    w.step pins .receive = (Remote.step pins ⟨d, w.net⟩ .receive).map w.withRemote := by
  rw [step, hd, Remote.step, Option.map_map]
  rfl

/-- What happens without a stimulus happens between the driver and the network. -/
theorem step_quiet (hd : w.node.driver = some (.ur d)) {l : Label} (hl : l.stimulus? = none) :
    ∃ k : Remote.Label, k.stimulus? = none ∧
      w.step pins l = (Remote.step pins ⟨d, w.net⟩ k).map w.withRemote := by
  cases l with
  | stimulus => cases hl
  | execute i => exact ⟨.execute i, rfl, overNet_eq pins hd _⟩
  | report => exact ⟨.report, rfl, overNet_eq pins hd _⟩
  | lose i => exact ⟨.lose i, rfl, overNet_eq pins hd _⟩
  | receive => exact ⟨.receive, rfl, receive_eq pins hd⟩

theorem step_of_remote (hd : w.node.driver = some (.ur d)) {k : Remote.Label} (hk : k.stimulus? = none) :
    ∃ l : Label, l.stimulus? = none ∧
      w.step pins l = (Remote.step pins ⟨d, w.net⟩ k).map w.withRemote := by
  cases k with
  | stimulus => cases hk
  | execute i => exact ⟨.execute i, rfl, overNet_eq pins hd _⟩
  | report => exact ⟨.report, rfl, overNet_eq pins hd _⟩
  | lose i => exact ⟨.lose i, rfl, overNet_eq pins hd _⟩
  | receive => exact ⟨.receive, rfl, receive_eq pins hd⟩

end Quiet

/-- Nothing is asked of the node, and no input changes. -/
def Quiet (_ : Hardware) (l : Label) : Prop := l.stimulus? = none

instance (w : Hardware) (l : Label) : Decidable (Quiet w l) :=
  decidable_of_iff l.stimulus?.isNone Option.isNone_iff_eq_none

/-- A run of the driver and the network alone is one of the node. -/
theorem runs_of_remote {pins : Category → List Nat} {w : Hardware} {d : URIODriver}
    (hd : w.node.driver = some (.ur d)) {r : Remote}
    (h : Lts.Runs (Remote.step pins) Remote.Quiet ⟨d, w.net⟩ r) :
    Lts.Runs (step pins) Quiet w (w.withRemote r) := by
  induction h with
  | refl =>
    rw [withRemote, ← hd]
    exact .refl
  | @tail r r' k h hk hs ih =>
    obtain ⟨l, hl, hstep⟩ := step_of_remote pins (w := w.withRemote r) rfl hk
    refine ih.tail hl (hstep.trans ?_)
    exact congrArg (Option.map _) hs

end Hardware

/-! ### The signal index and the places -/

/-- What the signal index has of a signal at the place. -/
def Place.toMeta : Place → SignalMeta
  | pin category _ => (category.isDigital, category.direction)
  | toolVoltage => (false, .OUT)

theorem Place.Fits.toMeta {place : Place} {signal : Signal} (h : place.Fits signal) :
    signal.toMeta = place.toMeta := by
  cases place with
  | pin category pin => exact Prod.ext h.type h.direction
  | toolVoltage => exact Prod.ext (decide_eq_false h.2) h.1

def Indexed (places : Dict String Place) (signalIndex : Dict String SignalMeta) : Prop :=
  ∀ n, Dict.get signalIndex n = (Dict.get places n).map Place.toMeta

theorem Driver.Consistent.get_signalIndex_eq {d : Driver} (h : d.Consistent) (n : String) :
    Dict.get d.snapshot.signalIndex n = (Dict.get d.cache n).map Signal.toMeta := by
  cases hget : Dict.get d.snapshot.signalIndex n with
  | some entry =>
    obtain ⟨signal, hsignal, hmeta⟩ := h.get_signalIndex hget
    rw [hsignal, Option.map_some, hmeta]
  | none =>
    have hkeys : (((d.snapshot.digital ++ d.snapshot.analog).map fun s => (s.ioName, s.toMeta)).map
        Prod.fst).Nodup := by
      rw [List.map_map]
      exact h.nodup_snapshot
    rw [IOStatesSnapshot.signalIndex, Dict.ofList_of_nodup hkeys, Dict.get_eq_none] at hget
    cases hsignal : Dict.get d.cache n with
    | none => rfl
    | some signal =>
      have hname := h.keyed n signal hsignal
      have hmem : signal ∈ d.snapshot.digital ++ d.snapshot.analog :=
        h.mem_snapshot.2 (by rw [hname]; exact hsignal)
      refine absurd ?_ hget
      rw [Dict.keys, List.map_map]
      exact List.mem_map.2 ⟨signal, hmem, hname⟩

/-- What is cached is what is at its place. -/
theorem Wired.toMeta_eq {places : Dict String Place} {d : URIODriver} (h : Wired places d) (n : String) :
    (Dict.get d.cache n).map Signal.toMeta = (Dict.get places n).map Place.toMeta := by
  cases hn : Dict.get places n with
  | none => rw [h.cached_none hn]; rfl
  | some place =>
    obtain ⟨signal, hget, hfits⟩ := h.cached hn
    rw [hget, Option.map_some, Option.map_some, hfits.toMeta]

theorem Wired.indexed {places : Dict String Place} {d : URIODriver} (h : Wired places d)
    (hkeys : Dict.keys d.cache = Dict.keys places) : Indexed places d.snapshot.signalIndex := by
  intro n
  have hconsistent : d.Consistent := ⟨h.keyed, by rw [hkeys]; exact h.nodup⟩
  rw [hconsistent.get_signalIndex_eq, h.toMeta_eq]

/-! ### Two handlers -/

section Handlers

variable {δ δ' : Type} {signalIndex : Dict String SignalMeta}
  {write : ℕ → SetEntry → δ → δ × Option DriverError}
  {write' : ℕ → SetEntry → δ' → δ' × Option DriverError}

/-- The handlers have noted the same failures, and their drivers are related. -/
structure Alike (R : δ → δ' → Prop) (st : SetIoState δ) (st' : SetIoState δ') : Prop where
  driver : R st.driver st'.driver
  failed : st.failed = st'.failed
  reasons : st.reasons = st'.reasons

variable {R : δ → δ' → Prop} {st : SetIoState δ} {st' : SetIoState δ'}

theorem Alike.recordFailure (h : Alike R st st') (ioName reason : String) :
    Alike R (recordFailure st ioName reason) (recordFailure st' ioName reason) := by
  refine ⟨h.driver, ?_, ?_⟩
  · show st.failed ++ _ = st'.failed ++ _
    rw [h.failed]
  · show st.reasons ++ _ = st'.reasons ++ _
    rw [h.reasons]

/-- A write that names no output never reaches the driver. -/
theorem Alike.applySetEntry (h : Alike R st st') {i : ℕ} {e : SetEntry}
    (hwrite : namesOutput signalIndex e = true → (write i e st.driver).2 = (write' i e st'.driver).2 ∧
      R (write i e st.driver).1 (write' i e st'.driver).1) :
    Alike R (applySetEntry signalIndex (write i) st e) (applySetEntry signalIndex (write' i) st' e) := by
  cases hnames : namesOutput signalIndex e with
  | true =>
    obtain ⟨herror, hdriver⟩ := hwrite hnames
    rw [applySetEntry_output (namesOutput_iff.1 hnames), applySetEntry_output (namesOutput_iff.1 hnames),
      herror]
    have hwritten : Alike R { st with driver := (write i e st.driver).1 }
        { st' with driver := (write' i e st'.driver).1 } := ⟨hdriver, h.failed, h.reasons⟩
    split
    · exact hwritten
    · exact hwritten.recordFailure _ _
  | false =>
    have hother : Dict.get signalIndex e.ioName ≠ some (e.isDigital, .OUT) := of_decide_eq_false hnames
    unfold IoControllers.applySetEntry
    split
    · exact h.recordFailure _ _
    · next isDigital direction hmeta =>
      split
      · exact h.recordFailure _ _
      · next hin =>
        split
        · exact h.recordFailure _ _
        · next hkind =>
          cases direction with
          | IN => exact absurd rfl hin
          | OUT => exact absurd (by rw [hmeta, not_not.1 hkind]) hother

theorem Alike.applyEntries (hwrite : ∀ i e s s', namesOutput signalIndex e = true → R s s' →
      (write i e s).2 = (write' i e s').2 ∧ R (write i e s).1 (write' i e s').1)
    (entries : List SetEntry) (i : ℕ) (h : Alike R st st') :
    Alike R (applyEntries signalIndex write i entries st)
      (applyEntries signalIndex write' i entries st') := by
  induction entries generalizing i st st' with
  | nil => exact h
  | cons e entries ih => exact ih (i + 1) (h.applySetEntry fun he => hwrite i e _ _ he h.driver)

end Handlers

/-! ### One write -/

def SetEntry.stimulus : SetEntry → Stimulus
  | digital io => .setDigital io.ioName io.state
  | analog io => .setAnalog io.ioName io.state

theorem IODriver.write_ur (d : URIODriver) (calls : List Call) (i : ℕ) (e : SetEntry) (r : Robot) :
    IODriver.write none i e (.ur d, calls) =
      ((.ur (Cell.outcome ⟨d, r⟩ e.stimulus).driver, calls ++
        (Cell.outcome ⟨d, r⟩ e.stimulus).request.toList.map fun request => ⟨i, e, request⟩),
        (Cell.outcome ⟨d, r⟩ e.stimulus).error) := by
  cases e <;> rfl

theorem IODriver.write_mock {mapping : URMappingDTO} {m m' : MockIODriver} {e : SetEntry}
    (h : m.answer mapping e.stimulus = .ok m') (calls : List Call) (fault : Option String) (i : ℕ) :
    IODriver.write fault i e (.mock m, calls) = ((.mock m', calls), none) := by
  unfold IODriver.write
  cases e with
  | digital io =>
    have hm : m.setDigital io.ioName io.state = .ok m' := h
    simp only [hm]
  | analog io =>
    have hm : m.setAnalog io.ioName io.state = .ok m' := h
    simp only [hm]

namespace Related

variable {mapping : URMappingDTO} {m : MockIODriver} {cell : Cell}
  {signalIndex : Dict String SignalMeta} {e : SetEntry}

theorem output (h : Related mapping.places m cell) (hindex : Indexed mapping.places signalIndex)
    (hnames : namesOutput signalIndex e = true) :
    ∃ signal, Dict.get m.cache e.ioName = some signal ∧ signal.toMeta = (e.isDigital, .OUT) := by
  have hmeta := (hindex e.ioName).symm.trans (namesOutput_iff.1 hnames)
  obtain ⟨place, hplace, hmeta⟩ := Option.map_eq_some_iff.1 hmeta
  obtain ⟨signal, hget, hfits⟩ := h.wired.cached hplace
  exact ⟨signal, h.cache_eq ▸ hget, hfits.toMeta.trans hmeta⟩

/-- What the checks of the node let through the mock writes. -/
theorem answer (h : Related mapping.places m cell) (hindex : Indexed mapping.places signalIndex)
    (hnames : namesOutput signalIndex e = true) : ∃ m', m.answer mapping e.stimulus = .ok m' := by
  obtain ⟨signal, hget, hmeta⟩ := h.output hindex hnames
  obtain ⟨htype, hout⟩ := Prod.mk.inj hmeta
  have hrequire : m.requireOutput e.ioName e.isDigital = .ok signal := by
    simp [MockIODriver.requireOutput, hget, hout, htype]
  cases e with
  | digital io =>
    have hrequire' : m.requireOutput io.ioName true = .ok signal := hrequire
    exact ⟨_, by rw [SetEntry.stimulus, MockIODriver.answer, MockIODriver.setDigital, hrequire']; rfl⟩
  | analog io =>
    have hrequire' : m.requireOutput io.ioName false = .ok signal := hrequire
    exact ⟨_, by rw [SetEntry.stimulus, MockIODriver.answer, MockIODriver.setAnalog, hrequire']; rfl⟩

end Related

/-- The drivers of the two nodes in the middle of a request; `calls` are those made for it so far. -/
structure Paired (mapping : URMappingDTO) (pins : Category → List Nat) (net : Network) (d : URIODriver)
    (calls : List Call) (m : MockIODriver) : Prop where
  inv : Remote.Inv mapping.places pins ⟨d, { net with calls := net.calls ++ calls.map (·.request) }⟩
  mirrors : ∃ cell, Remote.Mirrors mapping.places m
    ⟨d, { net with calls := net.calls ++ calls.map (·.request) }⟩ cell

section Paired

variable {mapping : URMappingDTO} {pins : Category → List Nat} {net : Network} {d : URIODriver}
  {calls : List Call} {m : MockIODriver} {signalIndex : Dict String SignalMeta} {e : SetEntry}

/-- A write that passes the checks is accepted on both sides. -/
theorem Paired.write (h : Paired mapping pins net d calls m)
    (hpins : ∀ category, ∀ e ∈ mapping.pins category, e.2 ∈ pins category)
    (hindex : Indexed mapping.places signalIndex) (hnames : namesOutput signalIndex e = true) (i : ℕ) :
    ∃ d' calls' m', IODriver.write none i e (.ur d, calls) = ((.ur d', calls'), none) ∧
      m.answer mapping e.stimulus = .ok m' ∧ Paired mapping pins net d' calls' m' := by
  obtain ⟨cell, hm⟩ := h.mirrors
  obtain ⟨m', hanswer⟩ := hm.related.answer hindex hnames
  set w : Remote := ⟨d, { net with calls := net.calls ++ calls.map (·.request) }⟩ with hw
  have hstep : (m.step mapping e.stimulus) = (m', ⟨m'.snapshot, m'.fired, none⟩) := by
    rw [MockIODriver.step, hanswer]
  have herror : (w.outcome e.stimulus).error = none := by
    have hrejected := hm.rejected h.inv.wired hpins e.stimulus
    rw [hstep] at hrejected
    exact Option.map_eq_none_iff.1 hrejected.symm
  have hs : w.step pins (.stimulus e.stimulus) = some ⟨(w.outcome e.stimulus).driver,
      { net with calls := net.calls ++ (calls ++ (w.outcome e.stimulus).request.toList.map
        fun request => (⟨i, e, request⟩ : Call)).map (·.request) }⟩ := by
    rw [List.map_append, List.map_map, ← List.append_assoc]
    have hmap : (w.outcome e.stimulus).request.toList.map ((·.request) ∘
        fun request => (⟨i, e, request⟩ : Call)) = (w.outcome e.stimulus).request.toList :=
      List.map_id'' (fun _ => rfl) _
    rw [hmap]
    cases e <;> rfl
  have hnext := hm.stimulus h.inv.wired hpins hs
  rw [hstep] at hnext
  refine ⟨_, _, m', ?_, hanswer, h.inv.step (URMappingDTO.mem_of_places hpins) hs, _, hnext⟩
  rw [IODriver.write_ur d calls i e net.robot]
  exact Prod.ext rfl herror

/-- A request is accepted and rejected entry by entry as on the other side. -/
theorem Paired.applyEntries (h : Paired mapping pins net d calls m)
    (hpins : ∀ category, ∀ e ∈ mapping.pins category, e.2 ∈ pins category)
    (hindex : Indexed mapping.places signalIndex) (entries : List SetEntry) (i : ℕ) :
    Alike (fun s s' => ∃ d' calls' m', s = (IODriver.ur d', calls') ∧ s' = (IODriver.mock m', []) ∧
        Paired mapping pins net d' calls' m')
      (applyEntries signalIndex (fun i => IODriver.write none i) i entries
        { driver := (.ur d, calls) })
      (applyEntries signalIndex (fun i => IODriver.write none i) i entries
        { driver := (.mock m, []) }) := by
  refine Alike.applyEntries ?_ entries i ⟨⟨d, calls, m, rfl, rfl, h⟩, rfl, rfl⟩
  rintro i e _ _ hnames ⟨d, calls, m, rfl, rfl, h⟩
  obtain ⟨d', calls', m', hur, hmock, h'⟩ := h.write hpins hindex hnames i
  rw [hur, IODriver.write_mock hmock]
  exact ⟨rfl, d', calls', m', rfl, rfl, h'⟩

/-- The requests of the calls go to the network when the handler returns. -/
theorem Paired.sent (h : Paired mapping pins net d calls m) : Paired mapping pins
    { net with calls := net.calls ++ calls.map (·.request) } d [] m := by
  obtain ⟨hinv, hm⟩ := h
  constructor
  · simpa using hinv
  · simpa using hm

end Paired

/-! ### The two nodes -/

/-- What the node publishes goes out. -/
def GpioController.Publishes (n : GpioController) : Prop :=
  n.ioStatePub.isSome = true ∧ n.enabled = true

theorem GpioController.Publishes.snapshot {n : GpioController} (h : n.Publishes) {driver : IODriver}
    (hdriver : n.driver = some driver) : n.publishSnapshot = some driver.snapshot.toMsg := by
  obtain ⟨pub, hpub⟩ := Option.isSome_iff_exists.1 h.1
  rw [publishSnapshot, hdriver, hpub]
  exact if_pos h.2

/-- Two active nodes of one configuration. -/
structure Counterparts (mapping : URMappingDTO) (pins : Category → List Nat) (w : Hardware)
    (n : GpioController) : Prop where
  signalIndex : n.signalIndex = w.node.signalIndex
  indexed : Indexed mapping.places w.node.signalIndex
  simulated : n.simulated = true
  active : n.active = true
  real : w.node.Publishes
  mock : n.Publishes
  drivers : ∃ d m, w.node.driver = some (.ur d) ∧ n.driver = some (.mock m) ∧
    Paired mapping pins w.net d [] m

theorem paired_nil {mapping : URMappingDTO} {pins : Category → List Nat} {net : Network} {d : URIODriver}
    {m : MockIODriver} : Paired mapping pins net d [] m ↔
      Remote.Inv mapping.places pins ⟨d, net⟩ ∧ ∃ cell, Remote.Mirrors mapping.places m ⟨d, net⟩ cell := by
  constructor
  · rintro ⟨hinv, hm⟩
    exact ⟨by simpa using hinv, by simpa using hm⟩
  · rintro ⟨hinv, hm⟩
    exact ⟨by simpa using hinv, by simpa using hm⟩

theorem GpioController.fire_of_ok {n : GpioController} {timer : MockTimer} {m m' : MockIODriver}
    (hdriver : n.driver = some (.mock m)) (h : m.applyMockChange timer.ioName timer.value = .ok m') :
    n.fire timer = { n.cancelTimer timer with driver := some (.mock m') } := by
  have hsame : (n.cancelTimer timer).driver = some (.mock m) := hdriver
  rw [fire]
  dsimp only
  rw [hsame]
  dsimp only
  rw [h]

/-- A scripted change of an input is applied. -/
theorem GpioController.script_eq {n : GpioController} {m m' : MockIODriver} {ioName : String}
    {signal : Signal} (hsimulated : n.simulated = true) (hactive : n.active = true)
    (hdriver : n.driver = some (.mock m)) (hget : Dict.get m.cache ioName = some signal)
    (hindex : Dict.get n.signalIndex ioName = some signal.toMeta) (hin : signal.direction = .IN)
    (value : Value) (h : m.applyMockChange ioName value = .ok m') :
    ∃ armed mockTimers nextTimer, n.script ioName value =
      { n with driver := some (.mock m'), armed, mockTimers, nextTimer } := by
  set v : Value := if decide (signal.type = .digital) = true then .bool value.toBool
    else .float value.toFloat with hv
  have hvalue : m.applyMockChange ioName v = .ok m' := by
    rw [← h, MockIODriver.applyMockChange, MockIODriver.applyMockChange, hget]
    by_cases htype : signal.type = .digital
    · simp [hv, htype, hin, Value.toBool_bool]
    · simp [hv, htype, hin, Value.toFloat, Value.num]
  have hrequest : n.onSetMockBehavior ⟨ioName, value.toBool, value.toFloat, 0⟩ =
      ((n.scheduleMockChange ioName v 0).1, { success := true }) := by
    simp [onSetMockBehavior, validateMockBehavior, hsimulated, hdriver, hindex, Signal.toMeta, hin, hv]
  let timer : MockTimer := { id := n.nextTimer, ioName, value := v, delaySeconds := max 0 0 }
  let scheduled : GpioController := { n with
    armed := n.armed ++ [timer]
    mockTimers := n.mockTimers ++ [timer]
    nextTimer := n.nextTimer + 1 }
  have hschedule : (n.scheduleMockChange ioName v 0).1 = scheduled := by
    simp only [scheduleMockChange, hactive, Bool.not_true, Bool.false_eq_true, if_false, timer, scheduled]
  have hscript : n.script ioName value = scheduled.fire timer := by
    simp only [script, hrequest, hschedule, if_true, List.getLast?_concat, Option.elim_some, scheduled]
  have hfire : scheduled.fire timer = { scheduled.cancelTimer timer with driver := some (.mock m') } :=
    fire_of_ok hdriver hvalue
  exact ⟨_, _, _, hscript.trans hfire⟩

namespace Counterparts

variable {mapping : URMappingDTO} {pins : Category → List Nat} {w w' : Hardware} {n : GpioController}
  {l : Hardware.Label}

theorem setIo (h : Counterparts mapping pins w n)
    (hpins : ∀ category, ∀ e ∈ mapping.pins category, e.2 ∈ pins category) (request : SetIO.Request)
    (responses : List SetIO.Response) :
    let real := w.node.onSetIo request fun _ => none
    let mock := n.onSetIo request fun _ => none
    real.2.1 = mock.2.1 ∧ Counterparts mapping pins
      ⟨real.1, { w.net with calls := w.net.calls ++ real.2.2.map (·.request) }, responses⟩ mock.1 := by
  obtain ⟨d, m, hd, hm, hpaired⟩ := h.drivers
  obtain ⟨⟨d', calls, m', hreal, hmock, hpaired'⟩, hfailed, hreasons⟩ :=
    hpaired.applyEntries hpins h.indexed request.entries 0
  have hrealIo : w.node.onSetIo request (fun _ => none) =
      ({ w.node with driver := some (.ur d') }, setIoResponse request.entries.length
        (applyEntries w.node.signalIndex (fun i => IODriver.write none i) 0 request.entries
          { driver := (.ur d, []) }).failed
        (applyEntries w.node.signalIndex (fun i => IODriver.write none i) 0 request.entries
          { driver := (.ur d, []) }).reasons, calls) := by
    simp only [GpioController.onSetIo, hd, hreal]
  have hmockIo : n.onSetIo request (fun _ => none) =
      ({ n with driver := some (.mock m') }, setIoResponse request.entries.length
        (applyEntries w.node.signalIndex (fun i => IODriver.write none i) 0 request.entries
          { driver := (.mock m, []) }).failed
        (applyEntries w.node.signalIndex (fun i => IODriver.write none i) 0 request.entries
          { driver := (.mock m, []) }).reasons, []) := by
    simp only [GpioController.onSetIo, hm, h.signalIndex, hmock]
  intro real mock
  rw [show real = _ from hrealIo, show mock = _ from hmockIo]
  refine ⟨by rw [hfailed, hreasons], h.signalIndex, h.indexed, h.simulated, h.active, h.real,
    h.mock, d', m', rfl, rfl, hpaired'.sent⟩

theorem inputChange (h : Counterparts mapping pins w n)
    (hpins : ∀ category, ∀ e ∈ mapping.pins category, e.2 ∈ pins category) {category : Category}
    (hin : category.direction = .IN) (pin : Nat) (value : Value) :
    (n.simulate mapping (.inputChange category hin pin value)).2 = none ∧
      Counterparts mapping pins { w with net := w.net.become (w.net.robot.set category pin value) }
        (n.simulate mapping (.inputChange category hin pin value)).1 := by
  obtain ⟨d, m, hd, hm, hpaired⟩ := h.drivers
  obtain ⟨hinv, cell, hmirrors⟩ := paired_nil.1 hpaired
  have hs : Remote.step pins ⟨d, w.net⟩ (.stimulus (.inputChange category hin pin value)) =
      some ⟨d, w.net.become (w.net.robot.set category pin value)⟩ := rfl
  have hnext := hmirrors.stimulus hinv.wired hpins hs
  have hinv' := hinv.step (URMappingDTO.mem_of_places hpins) hs
  rw [GpioController.simulate]
  cases hfind : (mapping.pins category).find? (·.2 = pin) with
  | none =>
    have hstep : (m.step mapping (.inputChange category hin pin value)).1 = m := by
      simp only [MockIODriver.step, MockIODriver.answer, hfind]
    rw [hstep] at hnext
    exact ⟨rfl, h.signalIndex, h.indexed, h.simulated, h.active, h.real, h.mock, d, m, hd, hm,
      paired_nil.2 ⟨hinv', _, hnext⟩⟩
  | some e =>
    have hmem := List.mem_of_find?_eq_some hfind
    have hplace : Dict.get mapping.places e.1 = some (.pin category e.2) :=
      Dict.get_of_mem hinv.wired.nodup (URMappingDTO.mem_places.2 hmem)
    obtain ⟨signal, hget, hfits⟩ := hmirrors.related.wired.cached hplace
    rw [← hmirrors.related.cache_eq] at hget
    have hsignal : signal.direction = .IN := hfits.direction.trans hin
    have hindex : Dict.get n.signalIndex e.1 = some signal.toMeta := by
      rw [h.signalIndex, h.indexed e.1, hplace, Option.map_some, Place.Fits.toMeta hfits]
    obtain ⟨m', hchange⟩ : ∃ m', m.applyMockChange e.1 value = .ok m' := by
      simp [MockIODriver.applyMockChange, hget, hsignal]
    have hstep : (m.step mapping (.inputChange category hin pin value)).1 = m' := by
      simp only [MockIODriver.step, MockIODriver.answer, hfind, hchange]
    obtain ⟨armed, mockTimers, nextTimer, hscript⟩ :=
      n.script_eq h.simulated h.active hm hget hindex hsignal value hchange
    dsimp only
    rw [hscript]
    rw [hstep] at hnext
    exact ⟨rfl, h.signalIndex, h.indexed, h.simulated, h.active, h.real, h.mock, d, m', hd, rfl,
      paired_nil.2 ⟨hinv', _, hnext⟩⟩

theorem paired {d : URIODriver} (h : Counterparts mapping pins w n)
    (hd : w.node.driver = some (.ur d)) :
    ∃ m, n.driver = some (.mock m) ∧ Paired mapping pins w.net d [] m := by
  obtain ⟨d', m, hd', hm, hpaired⟩ := h.drivers
  cases hd'.symm.trans hd
  exact ⟨m, hm, hpaired⟩

/-- What the network does on its own the simulated node need not know. -/
theorem quiet (h : Counterparts mapping pins w n)
    (hpins : ∀ category, ∀ e ∈ mapping.pins category, e.2 ∈ pins category) (hl : l.stimulus? = none)
    (hs : w.step pins l = some w') : Counterparts mapping pins w' n ∧ w'.responses = w.responses := by
  obtain ⟨d, m, hd, hm, hpaired⟩ := h.drivers
  obtain ⟨hinv, cell, hmirrors⟩ := paired_nil.1 hpaired
  obtain ⟨k, hk, hstep⟩ := Hardware.step_quiet pins hd hl
  rw [hstep] at hs
  obtain ⟨r, hr, rfl⟩ := Option.map_eq_some_iff.1 hs
  refine ⟨⟨h.signalIndex, h.indexed, h.simulated, h.active, h.real, h.mock, r.driver, m, rfl, hm,
    paired_nil.2 ⟨?_, cell, ?_⟩⟩, rfl⟩
  · exact hinv.step (URMappingDTO.mem_of_places hpins) hr
  · exact hmirrors.quiet hinv.wired hk hr

/-- A stimulus that both nodes get. -/
theorem stimulus (h : Counterparts mapping pins w n)
    (hpins : ∀ category, ∀ e ∈ mapping.pins category, e.2 ∈ pins category) {stimulus : NodeStimulus}
    (hs : w.step pins (.stimulus stimulus) = some w') :
    Counterparts mapping pins w' (n.simulate mapping stimulus).1 ∧
      w'.responses = w.responses ++ (n.simulate mapping stimulus).2.toList := by
  cases stimulus with
  | setIo request =>
    rw [← Option.some.inj hs]
    obtain ⟨hresponse, hnext⟩ := h.setIo hpins request
      (w.responses ++ [(w.node.onSetIo request fun _ => none).2.1])
    exact ⟨hnext, congrArg (fun response => w.responses ++ [response]) hresponse⟩
  | inputChange category hin pin value =>
    rw [← Option.some.inj hs]
    obtain ⟨hnone, hnext⟩ := h.inputChange hpins hin pin value
    exact ⟨hnext, by rw [hnone, Option.toList_none, List.append_nil]⟩

theorem run (hpins : ∀ category, ∀ e ∈ mapping.pins category, e.2 ∈ pins category)
    {ls : List Hardware.Label} (h : Lts.Trace (Hardware.step pins) (fun _ _ => True) w ls w')
    (hw : Counterparts mapping pins w n) :
    let twin := n.simulateAll mapping (ls.filterMap Hardware.Label.stimulus?)
    Counterparts mapping pins w' twin.1 ∧ w'.responses = w.responses ++ twin.2 := by
  induction h generalizing n with
  | nil => exact ⟨hw, (List.append_nil _).symm⟩
  | @cons w w₁ w' l ls _ hs _ ih =>
    cases hl : l.stimulus? with
    | none =>
      obtain ⟨hw₁, hresponses⟩ := hw.quiet hpins hl hs
      rw [List.filterMap_cons_none hl, ← hresponses]
      exact ih hw₁
    | some stimulus =>
      obtain rfl : l = .stimulus stimulus := by
        cases l with
        | stimulus s => rw [Option.some.inj hl]
        | _ => cases hl
      obtain ⟨hw₁, hresponses⟩ := hw.stimulus hpins hs
      obtain ⟨hw', hrest⟩ := ih hw₁
      rw [List.filterMap_cons_some hl]
      refine ⟨hw', ?_⟩
      rw [hrest, hresponses, List.append_assoc]
      rfl

/-- Both publish what the driver shows, and that is the same when the network has caught up. -/
theorem publishSnapshot_eq (h : Counterparts mapping pins w n) (hcalls : w.net.calls = [])
    (hseen : w.net.seen = w.net.past.length) :
    ∃ msg, w.node.publishSnapshot = some msg ∧ n.publishSnapshot = some msg := by
  obtain ⟨d, m, hd, hm, hpaired⟩ := h.drivers
  obtain ⟨hinv, cell, hmirrors⟩ := paired_nil.1 hpaired
  have hsnapshot : (IODriver.ur d).snapshot = (IODriver.mock m).snapshot :=
    hmirrors.snapshot_eq hinv hcalls hseen
  refine ⟨_, h.real.snapshot hd, ?_⟩
  rw [h.mock.snapshot hm, hsnapshot]

/-- The network can always catch up. -/
theorem catches_up (h : Counterparts mapping pins w n)
    (hpins : ∀ category, ∀ e ∈ mapping.pins category, e.2 ∈ pins category) :
    ∃ w', Lts.Runs (Hardware.step pins) Hardware.Quiet w w' ∧ Counterparts mapping pins w' n ∧
      w'.net.calls = [] ∧ w'.net.seen = w'.net.past.length := by
  obtain ⟨d, m, hd, -⟩ := h.drivers
  obtain ⟨r, hruns, hcalls, hseen⟩ := Remote.catches_up pins ⟨d, w.net⟩
  have hquiet := Hardware.runs_of_remote hd hruns
  exact ⟨_, hquiet, hquiet.invariant (I := fun w => Counterparts mapping pins w n) h
    fun hw hl hs => (hw.quiet hpins hl hs).1, hcalls, hseen⟩

end Counterparts

/-! ### Whole runs -/

namespace GpioController

/-- The node that has been configured and activated, unless one of the two fails. -/
def startUp (py : Pydantic) (input : ConfigureInput) : Option GpioController :=
  match ({} : GpioController).onConfigure py input with
  | (n, .SUCCESS) =>
    match n.onActivate false with
    | (n, .SUCCESS) => some n
    | _ => none
  | _ => none

def running (config : IOControllerConfigDTO) (simulated : Bool) (rate : ℚ) (driver : IODriver) :
    GpioController :=
  let n := ({ simulated, config := some config } : GpioController).setUp config rate driver
  { n with
    driver := some driver.setChangeCallback.activate
    enabled := true
    publishTimer := some n.entities.next
    entities := n.entities.create .publishTimer
    active := true }

variable {py : Pydantic} {config : IOControllerConfigDTO} {simulated : Bool} {rate : ℚ}

theorem startUp_eq : startUp py ⟨some config, simulated, rate, false⟩ =
    (createDriver py config simulated).toOption.map (running config simulated rate) := by
  unfold startUp onConfigure
  cases hdriver : createDriver py config simulated with
  | error e => simp [hdriver, Except.toOption]
  | ok driver => simp [hdriver, Except.toOption, onActivate, running]

theorem publishes_running (config : IOControllerConfigDTO) (simulated : Bool) (rate : ℚ)
    (driver : IODriver) : (running config simulated rate driver).Publishes := by
  cases simulated <;> exact ⟨rfl, rfl⟩

end GpioController

/-- Both drivers accept the device block of a configuration for the robot. -/
theorem createDriver_both {py : Pydantic} {config : IOControllerConfigDTO} {driver : IODriver}
    (h : createDriver py config false = .ok driver) :
    ∃ init mock, URIODriver.configure py config.device = .ok init ∧ driver = .ur init ∧
      createDriver py config true = .ok (.mock mock) ∧ init.toDriver = mock.toDriver := by
  rw [createDriver, if_neg Bool.false_ne_true] at h
  split at h
  next htype =>
    obtain ⟨init, hinit, rfl⟩ := Fallible.map_ok h
    obtain ⟨signals, -, hsignals, hnodup, hbase, -⟩ := URIODriver.configure_ok hinit
    refine ⟨init, _, hinit, rfl, ?_, hbase⟩
    rw [createDriver, if_pos rfl, htype, MockIODriver.configure_of_nodup hsignals hnodup]
    rfl

theorem counterparts_startUp {py : Pydantic} (hstr : ∀ s, py.parseStr (.str s) = some s)
    {config : IOControllerConfigDTO} {rate : ℚ} {real : GpioController}
    (hreal : GpioController.startUp py ⟨some config, false, rate, false⟩ = some real) :
    ∃ sim d, GpioController.startUp py ⟨some config, true, rate, false⟩ = some sim ∧
      real.driver = some (.ur d) ∧ ∀ (pins : Category → List Nat) (robot : Robot),
      robot.AtDefaults d.device.mapping (Dict.values d.cache) →
      Counterparts d.device.mapping pins { node := real, net := { robot } } sim := by
  rw [GpioController.startUp_eq] at hreal
  obtain ⟨driver, hdriver, rfl⟩ := Option.map_eq_some_iff.1 hreal
  cases hcreate : createDriver py config false with
  | error e =>
    rw [hcreate] at hdriver
    cases hdriver
  | ok created =>
    obtain ⟨init, mock, hinit, rfl, hmock, hsame⟩ := createDriver_both hcreate
    rw [hcreate] at hdriver
    obtain rfl := Option.some.inj hdriver
    refine ⟨GpioController.running config true rate (.mock mock),
      { init with callback := true, active := true }, ?_, rfl, fun pins robot hrobot => ?_⟩
    · rw [GpioController.startUp_eq, hmock]
      rfl
    obtain ⟨hinv, hmirrors⟩ := Remote.initial hstr hinit hrobot hsame true pins
    have hindex (simulated : Bool) (driver : IODriver) :
        (GpioController.running config simulated rate driver).signalIndex = driver.snapshot.signalIndex :=
      (GpioController.setUp_frame _ config rate driver).2.1
    have hindexed : Indexed init.device.mapping.places init.snapshot.signalIndex :=
      hinv.wired.indexed hinv.keys
    refine ⟨?_, ?_, rfl, rfl, GpioController.publishes_running .., GpioController.publishes_running ..,
      _, _, rfl, rfl, paired_nil.2 ⟨hinv, _, hmirrors⟩⟩
    · rw [hindex, hindex]
      exact congrArg (fun d : Driver => d.snapshot.signalIndex) hsame.symm
    · rw [hindex]
      exact hindexed

/-- A node on the robot answers every request as a simulated node of its configuration answers it, and
when the network has caught up, which it always can, it publishes the message that the simulated node
publishes. -/
theorem simulated_node_replaces_real {py : Pydantic} (hstr : ∀ s, py.parseStr (.str s) = some s)
    {config : IOControllerConfigDTO} {rate : ℚ} {real : GpioController}
    (hreal : GpioController.startUp py ⟨some config, false, rate, false⟩ = some real) :
    ∃ sim d, GpioController.startUp py ⟨some config, true, rate, false⟩ = some sim ∧
      real.driver = some (.ur d) ∧ ∀ pins : Category → List Nat,
      (∀ category, ∀ e ∈ d.device.mapping.pins category, e.2 ∈ pins category) →
      ∀ robot : Robot, robot.AtDefaults d.device.mapping (Dict.values d.cache) → ∀ ls w,
      Lts.Trace (Hardware.step pins) (fun _ _ => True) { node := real, net := { robot } } ls w →
      let twin := sim.simulateAll d.device.mapping (ls.filterMap Hardware.Label.stimulus?)
      w.responses = twin.2 ∧
      (w.net.calls = [] → w.net.seen = w.net.past.length →
        w.node.publishSnapshot = twin.1.publishSnapshot) ∧
      ∃ w' msg, Lts.Runs (Hardware.step pins) Hardware.Quiet w w' ∧
        w'.node.publishSnapshot = some msg ∧ twin.1.publishSnapshot = some msg := by
  obtain ⟨sim, d, hsim, hd, hstart⟩ := counterparts_startUp hstr hreal
  refine ⟨sim, d, hsim, hd, fun pins hpins robot hrobot ls w h => ?_⟩
  obtain ⟨hw, hresponses⟩ := (hstart pins robot hrobot).run hpins h
  obtain ⟨w', hquiet, hw', hcalls, hseen⟩ := hw.catches_up hpins
  obtain ⟨msg, hreal, htwin⟩ := hw'.publishSnapshot_eq hcalls hseen
  refine ⟨hresponses, fun hcalls hseen => ?_, w', msg, hquiet, hreal, htwin⟩
  obtain ⟨msg, hreal, htwin⟩ := hw.publishSnapshot_eq hcalls hseen
  rw [hreal, htwin]

/-- The second request is handled before the robot has executed the calls of the first one; an input
and an unknown name fail. -/
def overtakingLabels : List Hardware.Label := [
  .stimulus (.setIo ⟨[⟨"gripper", .OUT, true⟩, ⟨"part_present", .OUT, true⟩],
    [⟨"speed", .OUT, 2, .VOLTAGE⟩, ⟨"tool", .OUT, 24, .VOLTAGE⟩]⟩),
  .stimulus (.inputChange .digitalInStates Category.direction_digitalInStates 0 (.bool true)),
  .report, .execute 1,
  .stimulus (.setIo ⟨[⟨"gripper", .OUT, false⟩, ⟨"lamp", .OUT, true⟩], []⟩), .execute 0, .lose 0,
  .execute 0, .execute 0, .report, .receive]

theorem simulated_node_replaces_real_overtakingLabels :
    ∃ (sim : GpioController) (w : Hardware) (mapping : URMappingDTO),
      GpioController.startUp .strict ⟨some sampleConfig, true, 0, false⟩ = some sim ∧
      w.responses.map (·.failedIoNames) = [["part_present"], ["lamp"]] ∧
      let twin := sim.simulateAll mapping (overtakingLabels.filterMap Hardware.Label.stimulus?)
      w.responses = twin.2 ∧ w.node.publishSnapshot = twin.1.publishSnapshot := by
  let robot : Robot :=
    { value := fun category _ => if category.isDigital then .bool false else .float 0 }
  have hreal : GpioController.startUp .strict ⟨some sampleConfig, false, 0, false⟩ = some _ := rfl
  obtain ⟨sim, d, hsim, hd, hruns⟩ := @simulated_node_replaces_real .strict (fun _ => rfl) _ _ _ hreal
  cases hd
  have htwin := hruns (fun _ => [0, 1]) (by intro category; cases category <;> decide) robot
    (by intro category; cases category <;> decide) overtakingLabels _ (.of_exec rfl)
  refine ⟨sim, _, _, hsim, ?_, htwin.1, htwin.2.1 rfl rfl⟩
  decide

end IoControllers
