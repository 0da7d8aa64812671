import MovementController.Io.Baseline
import MovementController.Io.Messages

/-!
# What a monitor goal tells of the robot

A pin changes, a report of it arrives late or not at all, the driver takes the report entry by entry,
every change goes through the change callback into the queues of the goals, and a goal publishes it.
Through all of this a goal tells of states that the robot has had, in their order, and in the end of
the last one.
-/

namespace IoControllers

/-! ### The node between the robot and its clients -/

/-- `updates` are the entries of the report at hand that the driver still has to take. The code does
not have `told`: the changes that were made, each with the number of the robot's state that the last
report told of. -/
structure Observed where
  monitor : Monitor
  net : Network
  updates : List (String × Value) := []
  told : List (ℕ × String × Signal) := []

namespace Observed

def withDriver (w : Observed) (d : URIODriver) : Observed :=
  { w with monitor := { w.monitor with node := { w.monitor.node with driver := some (.ur d) } } }

/-- The driver goes on from `d` to `d'`; the change callback is called if it has made a change. -/
def advance (w : Observed) (d d' : URIODriver) : Observed :=
  match d'.fired.drop d.fired.length with
  | [] => w.withDriver d'
  | call :: _ =>
    { w with
      monitor := { w.monitor with
        node := { w.monitor.node with driver := some (.ur d') }
        routing := .called call.ioName call.signal }
      told := w.told ++ [(w.net.seen, call.ioName, call.signal)] }

/-- The driver works while the change callback does not. -/
def onDriver (w : Observed) (f : URIODriver → Option Observed) : Option Observed :=
  match w.monitor.routing, w.monitor.node.driver with
  | .idle, some (.ur d) => f d
  | _, _ => none

/-- A write of the driver, of which a request may go out. -/
def write (w : Observed) (d : URIODriver) (outcome : Outcome) : Observed :=
  { w with net := w.net.send outcome.request }.advance d outcome.driver

inductive Label where
  | monitor (l : Monitor.Label)
  | net (l : Network.Label)
  /-- The first report reaches the driver, which has its subscription while it is active. -/
  | receive
  /-- The driver takes the next entry. -/
  | update
  | setDigital (ioName : String) (state : Bool) (fault : Option String)
  | setAnalog (ioName : String) (state : ℚ) (fault : Option String)

def step (py : Pydantic) (pins : Category → List Nat) (w : Observed) : Label → Option Observed
  -- the driver makes its changes below
  | .monitor (.change _ _) => none
  | .monitor l => (w.monitor.step py l).map fun monitor => { w with monitor }
  | .net l => (w.net.step pins l).map fun net => { w with net }
  | .receive => w.onDriver fun d =>
    if d.active = true ∧ w.updates = [] then
      w.net.receive.map fun (msg, net) => { w with net, updates := d.updates msg }
    else none
  | .update => w.onDriver fun d =>
    match w.updates with
    | [] => none
    | u :: updates => some ({ w with updates }.advance d (d.update u))
  | .setDigital ioName state fault =>
    w.onDriver fun d => some (w.write d (d.setDigital ioName state fault))
  | .setAnalog ioName state fault =>
    w.onDriver fun d => some (w.write d (d.setAnalog ioName state fault))

/-- The node stays configured, with one subscription to the reports at most. -/
def Keeps (_ : Observed) : Label → Prop
  | .monitor (.transition t) => t.keepsDriver
  | _ => True

theorem onDriver_some {w w' : Observed} {f : URIODriver → Option Observed} (h : w.onDriver f = some w') :
    ∃ d, w.monitor.routing = .idle ∧ w.monitor.node.driver = some (.ur d) ∧ f d = some w' := by
  unfold onDriver at h
  split at h
  · next d hr hd => exact ⟨d, hr, hd, h⟩
  · cases h

end Observed

/-! ### The cache while a report is taken -/

namespace URIODriver

variable {d d' : URIODriver} {n : String}

/-- What the entries make of a signal does not depend on the other ones. -/
theorem get_foldl_update_congr (h : Dict.get d'.cache n = Dict.get d.cache n)
    (us : List (String × Value)) :
    Dict.get (us.foldl update d').cache n = Dict.get (us.foldl update d).cache n := by
  induction us generalizing d d' with
  | nil => exact h
  | cons u us ih =>
    refine ih ?_
    by_cases hn : n = u.1
    · subst hn
      exact get_updateCache_congr h u.2
    · rw [update, update, get_updateCache_of_ne hn, get_updateCache_of_ne hn, h]

end URIODriver

/-- The value is of the type of the signals at the place. -/
def Place.Takes : Place → Value → Prop
  | pin category _, value => category.coerce value = value
  | toolVoltage, value => .float value.toFloat = value

theorem Place.Fits.takes {place : Place} {signal : Signal} {value : Value} (h : place.Fits signal)
    (hv : place.Takes value) :
    (if signal.type = .digital then .bool value.toBool else .float value.toFloat) = value := by
  cases place with
  | toolVoltage => rw [if_neg h.2, hv]
  | pin category pin =>
    have htype := h.type
    have hv : category.coerce value = value := hv
    unfold Category.coerce at hv
    cases hdigital : category.isDigital with
    | true =>
      rw [hdigital, decide_eq_true_eq] at htype
      rw [hdigital, if_pos rfl] at hv
      rw [if_pos htype, hv]
    | false =>
      rw [hdigital, decide_eq_false_iff_not] at htype
      rw [hdigital, if_neg Bool.false_ne_true] at hv
      rw [if_neg htype, hv]

theorem Place.Takes.holds {place : Place} {value : Value} (h : place.Takes value) :
    place.Holds value := by
  cases place with
  | toolVoltage => trivial
  | pin category pin => exact h

namespace Observed

variable {py : Pydantic} {places : Dict String Place} {pins : Category → List Nat} {w w' : Observed}
  {l : Label} {d : URIODriver}

/-! ### What a write of the cache does -/

theorem advance_same (hd : w.monitor.node.driver = some (.ur d)) : w.advance d d = w := by
  have hsame : w.withDriver d = w := by rw [withDriver, ← hd]
  rw [advance, List.drop_length]
  exact hsame

theorem write_same (hd : w.monitor.node.driver = some (.ur d)) {outcome : Outcome}
    (h : outcome.driver = d) : w.write d outcome = { w with net := w.net.send outcome.request } := by
  rw [write, h]
  exact advance_same (w := { w with net := w.net.send outcome.request }) hd

/-- The node after a change, which is called back and told. -/
def changed (w : Observed) (d : URIODriver) (n : String) (updated : Signal) : Observed :=
  { w with
    monitor := { w.monitor with
      node := { w.monitor.node with driver := some (.ur d) }
      routing := .called n updated }
    told := w.told ++ [(w.net.seen, n, updated)] }

/-- A write either does nothing or makes a change, which is one of the monitor's. -/
theorem advance_updateCache (hd : w.monitor.node.driver = some (.ur d))
    (hcallback : d.callback = true) (hw : Wired places d) {n : String} {place : Place}
    (hn : Dict.get places n = some place) {value : Value} (hv : place.Takes value) :
    d.updateCache n value = d ∧ w.advance d (d.updateCache n value) = w ∨
      ∃ signal, Dict.get d.cache n = some signal ∧
        signal.Differs { signal with state := value } ∧
        (d.updateCache n value).cache = Dict.set d.cache n { signal with state := value } ∧
        w.advance d (d.updateCache n value) =
          w.changed (d.updateCache n value) n { signal with state := value } ∧
        w.monitor.change n value =
          some (w.changed (d.updateCache n value) n { signal with state := value }).monitor := by
  obtain ⟨signal, hget, hfits⟩ := hw.cached hn
  by_cases hnum : signal.state.num = value.num
  · rw [URIODriver.updateCache_of_num_eq hget hnum]
    exact .inl ⟨rfl, advance_same hd⟩
  · have hfired : (d.updateCache n value).fired.drop d.fired.length =
        [⟨n, { signal with state := value }, Dict.set d.cache n { signal with state := value }⟩] := by
      rw [URIODriver.updateCache_of_ne hget hnum]
      simp [Driver.store, hcallback]
    have hupdate : (IODriver.ur d).update n value = .ur (d.updateCache n value) := by
      have hget' : Dict.get (IODriver.ur d).base.cache n = some signal := hget
      rw [IODriver.update, hget']
      dsimp only
      rw [hfits.takes hv]
    refine .inr ⟨signal, hget, hnum, ?_, ?_, ?_⟩
    · rw [URIODriver.updateCache_of_ne hget hnum]
      rfl
    · rw [advance, hfired]
      rfl
    · rw [Monitor.change, hd, Option.bind_some, hupdate]
      dsimp only [IODriver.base]
      rw [hfired]
      rfl

/-! ### The invariant -/

/-- If the signal has a pin, the pin had this value in the `k`-th state of the robot. -/
def HadAt (places : Dict String Place) (n : Network) (k : ℕ) (ioName : String) (value : Value) :
    Prop :=
  ∀ category pin, Dict.get places ioName = some (.pin category pin) →
    ∃ r, n.states[k]? = some r ∧ r.value category pin = value

theorem HadAt.mono {n n' : Network} {k : ℕ} {ioName : String} {value : Value}
    (h : HadAt places n k ioName value) (hstates : n.states <+: n'.states) :
    HadAt places n' k ioName value := fun category pin hpin =>
  let ⟨r, hr, hvalue⟩ := h category pin hpin
  ⟨r, Network.getElem?_states hstates hr, hvalue⟩

/-- Once the report at hand is taken, the cache shows the state that it tells of. -/
structure Drives (places : Dict String Place) (cache : Dict String Signal) (w : Observed)
    (d : URIODriver) : Prop where
  driver : w.monitor.node.driver = some (.ur d)
  wired : Wired places d
  replay : Dict.replay cache w.monitor.made = d.cache
  shown : ∃ r, w.net.states[w.net.seen]? = some r ∧
    r.Agrees places (w.updates.foldl URIODriver.update d).cache

/-- What a goal has read is what the changes made by then have led to. -/
def Reads (cache : Dict String Signal) (s : Monitor) : Prop :=
  ∀ g goal read readAt, s.goals g = some goal → goal.read = some (read, readAt) →
    readAt ≤ s.made.length ∧
      ∀ signal ∈ read, Dict.get (Dict.replay cache (s.made.take readAt)) goal.ioName = some signal

structure Inv (py : Pydantic) (places : Dict String Place) (pins : Category → List Nat)
    (cache : Dict String Signal) (w : Observed) : Prop where
  run : Lts.Runs (Monitor.step py) Monitor.KeepsTable {} w.monitor
  driver : ∃ d, w.Drives places cache d
  net : w.net.Sound places pins
  updates : ∀ u ∈ w.updates, ∃ category pin, Dict.get places u.1 = some (.pin category pin) ∧
    category.coerce u.2 = u.2 ∧ HadAt places w.net w.net.seen u.1 u.2
  told : w.told.map Prod.snd = w.monitor.made
  had : ∀ p ∈ w.told, HadAt places w.net p.1 p.2.1 p.2.2.state
  start : ∀ n signal, Dict.get cache n = some signal → HadAt places w.net 0 n signal.state
  ordered : (w.told.map Prod.fst ++ [w.net.seen]).Pairwise (· ≤ ·)
  genuine : Dict.Genuine Signal.Differs cache w.monitor.made
  reads : Reads cache w.monitor

/-! ### A step of the monitor -/

/-- Only the driver makes changes. -/
theorem made_eq {s s' : Monitor} {l : Monitor.Label} (hl : ∀ n v, l ≠ .change n v)
    (hs : s.step py l = some s') : s'.made = s.made := by
  cases Monitor.step_cases hs with
  | transition | accept | register | unregister | goal => rfl
  | @change n v => exact absurd rfl (hl n v)
  | stamp time hr => rw [Monitor.made, Monitor.made, hr]; rfl
  | copyWatchers hr hnodup hset => simp [Monitor.made, hr, Routing.calling]
  | put hr hg => rw [Monitor.made, Monitor.made, hr]; rfl
  | done hr => rw [Monitor.made, Monitor.made, hr]; rfl

/-- All that a step of the monitor does to the driver is an activation or a deactivation. -/
theorem driver_monitor {s s' : Monitor} {l : Monitor.Label} (hl : ∀ n v, l ≠ .change n v)
    (ht : ∀ t, l = .transition t → t.keepsDriver) (hd : s.node.driver = some (.ur d))
    (hs : s.step py l = some s') : ∃ active, s'.node.driver = some (.ur { d with active }) := by
  cases Monitor.step_cases hs with
  | transition hm => exact Managed.driver_transition hd (ht _ rfl) hm
  | accept | register | goal => exact ⟨d.active, hd⟩
  | unregister hg hpc =>
    refine ⟨d.active, ?_⟩
    show (s.node.unregisterWatcher _ _).driver = _
    rw [GpioController.driver_unregisterWatcher]
    exact hd
  | @change n v => exact absurd rfl (hl n v)
  | stamp | copyWatchers | put | done => exact ⟨d.active, hd⟩

/-- A goal reads what the driver shows. -/
theorem Reads.step {cache : Dict String Signal} {s s' : Monitor} (h : Reads cache s) (hinv : s.Inv)
    {l : Monitor.Label} (hd : s.node.driver = some (.ur d))
    (hreplay : Dict.replay cache s.made = d.cache) (hs : s.step py l = some s') : Reads cache s' := by
  have hmade := Monitor.made_step hinv hs
  intro g goal' read readAt hg' hread
  have hgoal : goal'.read = none ∨ ∃ goal, s.goals g = some goal ∧ goal'.ioName = goal.ioName ∧
      (goal'.read = goal.read ∨ ∃ driver, s.node.driver = some driver ∧
        goal'.read = some (currentSignal driver goal.ioName goal.isDigital, s.made.length)) := by
    cases hg : s.goals g with
    | none =>
      obtain ⟨request, rfl⟩ := Monitor.accepted_of_none hs hg hg'
      exact .inl rfl
    | some goal =>
      obtain ⟨c, hc, hbecomes⟩ := Monitor.becomes hs hg
      obtain rfl := Option.some.inj (hg'.symm.trans hc)
      cases hbecomes with
      | keeps pending hl => exact .inr ⟨goal, rfl, rfl, .inl rfl⟩
      | register hpc => exact .inr ⟨goal, rfl, rfl, .inl rfl⟩
      | unregister hpc => exact .inr ⟨goal, rfl, rfl, .inl rfl⟩
      | moved hm =>
        have hname : goal'.ioName = goal.ioName :=
          congrArg MonitorIO.Goal.ioName (hm.frame (hinv.books _ _ hg)).1
        rcases hm.read with hsame | ⟨driver, fault, hdriver, -, -, hnew⟩
        · exact .inr ⟨goal, rfl, hname, .inl hsame⟩
        · exact .inr ⟨goal, rfl, hname, .inr ⟨driver, hdriver, hnew⟩⟩
  rcases hgoal with hnone | ⟨goal, hg, hname, hsame | ⟨driver, hdriver, hnew⟩⟩
  · rw [hnone] at hread
    cases hread
  · obtain ⟨hle, hsignal⟩ := h g goal read readAt hg (hsame ▸ hread)
    refine ⟨hle.trans hmade.length_le, fun signal hmem => ?_⟩
    obtain ⟨rest, hrest⟩ := hmade
    rw [← hrest, List.take_append_of_le_length hle, hname]
    exact hsignal signal hmem
  · obtain ⟨rfl, rfl⟩ := Prod.mk.inj (Option.some.inj (hread.symm.trans hnew))
    refine ⟨hmade.length_le, fun signal hmem => ?_⟩
    obtain ⟨rest, hrest⟩ := hmade
    obtain rfl := Option.some.inj (hd.symm.trans hdriver)
    rw [← hrest, List.take_left, hreplay, hname]
    exact Monitor.currentSignal_eq (hinv.connected _ hd).consistent (Option.mem_def.1 hmem)

namespace Inv

variable {cache : Dict String Signal}

theorem monitorInv (h : w.Inv py places pins cache) : w.monitor.Inv := Monitor.Inv.of_runs h.run

/-- No change is made. -/
theorem frame (h : w.Inv py places pins cache)
    (hrun : Lts.Runs (Monitor.step py) Monitor.KeepsTable {} w'.monitor)
    (hdriver : ∃ d, w'.Drives places cache d) (hnet : w'.net.Sound places pins)
    (hstates : w.net.states <+: w'.net.states) (hseen : w.net.seen ≤ w'.net.seen)
    (hupdates : ∀ u ∈ w'.updates, ∃ category pin, Dict.get places u.1 = some (.pin category pin) ∧
      category.coerce u.2 = u.2 ∧ HadAt places w'.net w'.net.seen u.1 u.2)
    (htold : w'.told = w.told) (hmade : w'.monitor.made = w.monitor.made)
    (hreads : Reads cache w'.monitor) : w'.Inv py places pins cache := by
  refine ⟨hrun, hdriver, hnet, hupdates, ?_, fun p hp => ?_,
    fun n signal hget => (h.start n signal hget).mono hstates, ?_, ?_, hreads⟩
  · rw [htold, hmade]
    exact h.told
  · rw [htold] at hp
    exact (h.had p hp).mono hstates
  · have hord := h.ordered
    rw [htold]
    rw [List.pairwise_append] at hord ⊢
    refine ⟨hord.1, List.pairwise_singleton _ _, fun a ha b hb => ?_⟩
    rw [List.mem_singleton.1 hb]
    exact (hord.2.2 a ha _ (List.mem_singleton_self _)).trans hseen
  · rw [hmade]
    exact h.genuine

/-- A write of the cache of a value that the state at hand had. -/
theorem advance (h : w.Inv py places pins cache) (hd : w.Drives places cache d)
    (hidle : w.monitor.routing = .idle) {n : String} {place : Place}
    (hn : Dict.get places n = some place) {value : Value} (hv : place.Takes value)
    (hhad : HadAt places w.net w.net.seen n value) {net : Network} (hnet : net.Sound places pins)
    (hstates : net.states = w.net.states) (hseen : net.seen = w.net.seen)
    {updates : List (String × Value)} (hsub : updates ⊆ w.updates)
    (hshown : ∃ r, w.net.states[w.net.seen]? = some r ∧
      r.Agrees places (updates.foldl URIODriver.update (d.updateCache n value)).cache) :
    ({ w with net, updates }.advance d (d.updateCache n value)).Inv py places pins cache := by
  have hinv := h.monitorInv
  have hcallback : d.callback = true := (hinv.connected _ hd.driver).callback
  have hupdates : ∀ u ∈ updates, ∃ category pin, Dict.get places u.1 = some (.pin category pin) ∧
      category.coerce u.2 = u.2 ∧ HadAt places net net.seen u.1 u.2 := by
    intro u hu
    obtain ⟨category, pin, hpin, hcoerce, hhadu⟩ := h.updates u (hsub hu)
    exact ⟨category, pin, hpin, hcoerce, hseen ▸ hhadu.mono (hstates ▸ List.prefix_refl _)⟩
  have hshown' : ∃ r, net.states[net.seen]? = some r ∧
      r.Agrees places (updates.foldl URIODriver.update (d.updateCache n value)).cache := by
    rw [hstates, hseen]
    exact hshown
  rcases advance_updateCache (w := { w with net, updates }) hd.driver hcallback hd.wired hn hv with
    ⟨hsame, heq⟩ | ⟨signal, hget, hdiff, hcache, heq, hchange⟩
  · rw [heq]
    rw [hsame] at hshown'
    exact h.frame h.run ⟨d, hd.driver, hd.wired, hd.replay, hshown'⟩ hnet (hstates ▸ List.prefix_refl _)
      hseen.ge hupdates rfl rfl h.reads
  · rw [heq]
    have hstep : w.monitor.step py (.change n value) =
        some (changed { w with net, updates } (d.updateCache n value) n
          { signal with state := value }).monitor := by
      rw [Monitor.step, hidle]
      exact hchange
    have hmade : (changed { w with net, updates } (d.updateCache n value) n
        { signal with state := value }).monitor.made =
          w.monitor.made ++ [(n, { signal with state := value })] := by
      simp [changed, Monitor.made, hidle, Routing.calling]
    have hkeeps : Monitor.KeepsTable w.monitor (.change n value) := trivial
    refine ⟨h.run.tail hkeeps hstep,
      ⟨_, rfl, hd.wired.updateCache hn hv.holds, ?_, hshown'⟩, hnet, hupdates, ?_, fun p hp => ?_,
      fun n signal hget => (h.start n signal hget).mono (hstates ▸ List.prefix_refl _), ?_, ?_,
      h.reads.step hinv hd.driver hd.replay hstep⟩
    · rw [hmade, Dict.replay_concat, hd.replay, hcache]
    · rw [hmade, changed, List.map_append, h.told]
      rfl
    · rcases List.mem_append.1 hp with hp | hp
      · exact (h.had p hp).mono (hstates ▸ List.prefix_refl _)
      · rw [List.mem_singleton.1 hp]
        show HadAt places net net.seen n value
        exact hseen ▸ hhad.mono (hstates ▸ List.prefix_refl _)
    · have hord := h.ordered
      show ((w.told ++ [(net.seen, _)]).map Prod.fst ++ [net.seen]).Pairwise (· ≤ ·)
      rw [hseen, List.map_append, List.pairwise_append]
      refine ⟨hord, List.pairwise_singleton _ _, fun a ha b hb => ?_⟩
      rw [List.mem_singleton.1 hb]
      rcases List.mem_append.1 ha with ha | ha
      · exact (List.pairwise_append.1 hord).2.2 a ha _ (List.mem_singleton_self _)
      · exact (List.mem_singleton.1 ha).le
    · rw [hmade]
      exact h.genuine.concat ⟨signal, by rw [hd.replay]; exact hget, hdiff⟩

/-- A step of the monitor. -/
theorem monitor (h : w.Inv py places pins cache) {l : Monitor.Label} (hl : ∀ n v, l ≠ .change n v)
    (hkeeps : Keeps w (.monitor l)) {s : Monitor} (hs : w.monitor.step py l = some s) :
    Inv py places pins cache { w with monitor := s } := by
  obtain ⟨d, hd⟩ := h.driver
  have ht : ∀ t, l = .transition t → t.keepsDriver := by
    rintro t rfl
    exact hkeeps
  have htable : Monitor.KeepsTable w.monitor l := by
    cases l with
    | transition t => cases t <;> trivial
    | _ => trivial
  obtain ⟨active, hdriver⟩ := driver_monitor hl ht hd.driver hs
  have hmade := made_eq hl hs
  have hdrives : Drives places cache { w with monitor := s } { d with active } := by
    obtain ⟨r, hr, hagrees⟩ := hd.shown
    refine ⟨hdriver, ⟨hd.wired.nodup, hd.wired.keyed, hd.wired.fits, hd.wired.write, hd.wired.read⟩,
      ?_, r, hr, fun n category pin signal hn hget => hagrees n category pin signal hn ?_⟩
    · show Dict.replay cache s.made = d.cache
      rw [hmade, hd.replay]
    · have hcache : Dict.get ({ d with active } : URIODriver).cache n = Dict.get d.cache n := rfl
      exact (URIODriver.get_foldl_update_congr hcache w.updates).symm.trans hget
  exact h.frame (h.run.tail htable hs) ⟨_, hdrives⟩ h.net (List.prefix_refl _) (Nat.le_refl _) h.updates
    rfl hmade (h.reads.step h.monitorInv hd.driver hd.replay hs)

/-- A report reaches the driver. -/
theorem receive (hpins : ∀ n c p, Dict.get places n = some (.pin c p) → p ∈ pins c)
    (h : w.Inv py places pins cache) (hd : w.monitor.node.driver = some (.ur d))
    {msg : URIOStates} {net : Network}
    (hs : w.net.receive = some (msg, net)) :
    Inv py places pins cache { w with net, updates := d.updates msg } := by
  obtain ⟨d', hd'⟩ := h.driver
  obtain rfl : d = d' := by simpa [hd] using hd'.driver
  obtain ⟨hsound, hle, hstates, r, hr, hseen, rfl⟩ := h.net.receive hs
  have hshown := Network.ShownBy.receive h.net hd'.wired hpins hs
  rw [Network.ShownBy, URIODriver.onIoStates_eq] at hshown
  refine h.frame h.run ⟨d, hd, hd'.wired, hd'.replay, hshown⟩ hsound (hstates ▸ List.prefix_refl _) hle
    (fun u hu => ?_) rfl rfl h.reads
  obtain ⟨category, pin, hpin, hread, hvalue⟩ := URIODriver.mem_updates.1 hu
  have hn := (hd'.wired.read category pin u.1).1 hread
  have htyped := h.net.typed r hr u.1 category pin hn
  rw [htyped] at hvalue
  refine ⟨category, pin, hn, by rw [hvalue, htyped], fun category' pin' hn' => ⟨r, hseen, ?_⟩⟩
  obtain ⟨rfl, rfl⟩ := Place.pin.inj (Option.some.inj (hn.symm.trans hn'))
  exact hvalue.symm

/-- The driver takes an entry. -/
theorem update (h : w.Inv py places pins cache) (hidle : w.monitor.routing = .idle)
    (hd : w.monitor.node.driver = some (.ur d)) {u : String × Value}
    {updates : List (String × Value)} (hupdates : w.updates = u :: updates) :
    ({ w with updates }.advance d (d.update u)).Inv py places pins cache := by
  obtain ⟨d', hd'⟩ := h.driver
  obtain rfl : d = d' := by simpa [hd] using hd'.driver
  obtain ⟨category, pin, hpin, hcoerce, hhad⟩ :=
    h.updates u (by rw [hupdates]; exact List.mem_cons_self)
  have htakes : (Place.pin category pin).Takes u.2 := hcoerce
  have hshown := hd'.shown
  rw [hupdates] at hshown
  exact h.advance hd' hidle hpin htakes hhad h.net rfl rfl
    (by rw [hupdates]; exact List.subset_cons_self _ _) hshown

/-- A request goes out. -/
theorem send (h : w.Inv py places pins cache) (request : Option Request) :
    Inv py places pins cache { w with net := w.net.send request } := by
  obtain ⟨d, hd⟩ := h.driver
  exact h.frame h.run ⟨d, hd.driver, hd.wired, hd.replay, hd.shown⟩
    ⟨h.net.typed, h.net.reports, h.net.ordered⟩ (List.prefix_refl _) (Nat.le_refl _) h.updates rfl rfl
    h.reads

theorem setAnalog (h : w.Inv py places pins cache) (hidle : w.monitor.routing = .idle)
    (hd : w.monitor.node.driver = some (.ur d)) (ioName : String) (state : ℚ)
    (fault : Option String) :
    (w.write d (d.setAnalog ioName state fault)).Inv py places pins cache := by
  obtain ⟨d', hd'⟩ := h.driver
  obtain rfl : d = d' := by simpa [hd] using hd'.driver
  rcases hd'.wired.setAnalog_driver ioName state fault with hsame | ⟨hn, hset⟩
  · rw [write_same hd hsame]
    exact h.send _
  · rw [write, hset]
    -- the tool voltage is written to the cache, and no pin is
    have hhad : HadAt places w.net w.net.seen ioName (.float state) := by
      intro category pin hpin
      cases hn.symm.trans hpin
    have htakes : Place.toolVoltage.Takes (.float state) := rfl
    have hnet : (w.net.send (d.setAnalog ioName state fault).request).Sound places pins :=
      ⟨h.net.typed, h.net.reports, h.net.ordered⟩
    refine h.advance hd' hidle hn htakes hhad hnet rfl rfl (List.Subset.refl _) ?_
    obtain ⟨r, hr, hagrees⟩ := hd'.shown
    refine ⟨r, hr, fun n category pin signal hpin hget => hagrees n category pin signal hpin ?_⟩
    have hne : n ≠ ioName := by
      rintro rfl
      cases hn.symm.trans hpin
    have hcongr : Dict.get (w.updates.foldl URIODriver.update (d.updateCache ioName (.float state))).cache
        n = Dict.get (w.updates.foldl URIODriver.update d).cache n :=
      URIODriver.get_foldl_update_congr (URIODriver.get_updateCache_of_ne hne) w.updates
    exact hcongr.symm.trans hget

theorem step (hpins : ∀ n c p, Dict.get places n = some (.pin c p) → p ∈ pins c)
    (h : w.Inv py places pins cache) (hl : Keeps w l) (hs : w.step py pins l = some w') :
    w'.Inv py places pins cache := by
  cases l with
  | monitor l =>
    have hmonitor : (∀ n v, l ≠ .change n v) ∧
        (w.monitor.step py l).map (fun monitor => { w with monitor }) = some w' := by
      cases l with
      | change n v => cases hs
      | _ => exact ⟨by rintro _ _ ⟨⟩, hs⟩
    obtain ⟨s, hstep, rfl⟩ := Option.map_eq_some_iff.1 hmonitor.2
    exact h.monitor hmonitor.1 hl hstep
  | net l =>
    obtain ⟨net, hnet, rfl⟩ := Option.map_eq_some_iff.1 hs
    obtain ⟨d, hd⟩ := h.driver
    have hstates := Network.states_step hnet
    have hseen := Network.seen_step hnet
    obtain ⟨r, hr, hagrees⟩ := hd.shown
    refine h.frame h.run ⟨d, hd.driver, hd.wired, hd.replay, r, ?_, hagrees⟩ (h.net.step hnet) hstates
      hseen.ge (fun u hu => ?_) rfl rfl h.reads
    · rw [hseen]
      exact Network.getElem?_states hstates hr
    · obtain ⟨category, pin, hpin, hcoerce, hhad⟩ := h.updates u hu
      exact ⟨category, pin, hpin, hcoerce, hseen ▸ hhad.mono hstates⟩
  | receive =>
    obtain ⟨d, -, hd, hs⟩ := onDriver_some hs
    split_ifs at hs
    obtain ⟨⟨msg, net⟩, hnet, rfl⟩ := Option.map_eq_some_iff.1 hs
    exact h.receive hpins hd hnet
  | update =>
    obtain ⟨d, hidle, hd, hs⟩ := onDriver_some hs
    split at hs
    · cases hs
    · next u updates hupdates =>
      rw [← Option.some.inj hs]
      exact h.update hidle hd hupdates
  | setDigital ioName state fault =>
    obtain ⟨d, -, hd, hs⟩ := onDriver_some hs
    rw [← Option.some.inj hs, write_same hd (d.setDigital_driver ioName state fault)]
    exact h.send _
  | setAnalog ioName state fault =>
    obtain ⟨d, hidle, hd, hs⟩ := onDriver_some hs
    rw [← Option.some.inj hs]
    exact h.setAnalog hidle hd ioName state fault

end Inv

/-! ### What a goal tells -/

/-- The feedback carries the value that the pin had in the `k`-th state of the robot. -/
def Tells (w : Observed) (category : Category) (pin : Nat) (k : ℕ) (feedback : MonitorIO.Feedback) :
    Prop :=
  ∃ r, w.net.states[k]? = some r ∧ feedback.state = (r.value category pin).num

/-- The changes of a signal that are told from the place `since` on. -/
def toldOf (w : Observed) (ioName : String) (since : ℕ) : List (ℕ × String × Signal) :=
  (w.told.drop since).filter (·.2.1 = ioName)

theorem mem_toldOf {ioName : String} {since : ℕ} {t : ℕ × String × Signal}
    (h : t ∈ w.toldOf ioName since) : t ∈ w.told ∧ t.2.1 = ioName := by
  obtain ⟨hmem, hname⟩ := List.mem_filter.1 h
  exact ⟨List.mem_of_mem_drop hmem, of_decide_eq_true hname⟩

/-- The report at hand is taken and tells of the present state, no change is on its way, and the goal
has fed back all that it got. -/
structure Settled (w : Observed) (goal : MonitorGoal) : Prop where
  seen : w.net.seen = w.net.past.length
  updates : w.updates = []
  idle : w.monitor.routing = .idle
  running : goal.running
  taken : goal.taken = none
  pending : goal.pending = []

/-- What a signal is after a log: its last change from some place on, or what it was there. -/
theorem get_replay_messages (cache : Dict String Signal) (log : List (String × Signal)) (n : String)
    (since : ℕ) : Dict.get (Dict.replay cache log) n =
      (Fanout.messages log n since).getLast?.or (Dict.get (Dict.replay cache (log.take since)) n) := by
  have hsplit : Dict.replay cache log =
      Dict.replay (Dict.replay cache (log.take since)) (log.drop since) := by
    rw [Dict.replay, Dict.replay, Dict.replay, ← List.foldl_append, List.take_append_drop]
  rw [hsplit, Dict.get_replay]
  rfl

namespace Inv

variable {cache : Dict String Signal} {g : ℕ} {goal : MonitorGoal} {category : Category} {pin : Nat}
  {n : String}

theorem typed (h : w.Inv py places pins cache) {t : ℕ × String × Signal} (ht : t ∈ w.told) :
    t.2.2.Typed := by
  refine (Monitor.Replayed.of_runs h.run).2.typed t.2 ?_
  rw [← h.told]
  exact List.mem_map_of_mem ht

theorem map_toldOf (h : w.Inv py places pins cache) (n : String) (since : ℕ) :
    (w.toldOf n since).map (·.2.2) = Fanout.messages w.monitor.made n since := by
  rw [toldOf, Fanout.messages, ← h.told, ← List.map_drop, List.filter_map, List.map_map]
  rfl

/-- Two changes of a signal in a row are told of different states of the robot. -/
theorem pairwise_toldOf (h : w.Inv py places pins cache)
    (hn : Dict.get places n = some (.pin category pin)) (since : ℕ) :
    ((w.toldOf n since).map Prod.fst).Pairwise (· < ·) := by
  have hle : ((w.toldOf n since).map Prod.fst).Pairwise (· ≤ ·) :=
    (List.pairwise_append.1 h.ordered).1.sublist
      ((List.filter_sublist.trans (List.drop_sublist _ _)).map _)
  have hdiffer : ((w.toldOf n since).map (·.2.2)).IsChain Signal.Differs := by
    have hchain := h.genuine.isChain_changes n
    rw [← List.take_append_drop since w.monitor.made, List.filter_append, List.map_append] at hchain
    rw [h.map_toldOf]
    exact hchain.right_of_append
  rw [← List.isChain_iff_pairwise, List.isChain_map] at hle ⊢
  rw [List.isChain_map] at hdiffer
  refine List.isChain_iff_getElem.2 fun i hi => ?_
  obtain ⟨ha, hna⟩ := mem_toldOf (List.getElem_mem (Nat.lt_of_succ_lt hi))
  obtain ⟨hb, hnb⟩ := mem_toldOf (List.getElem_mem hi)
  refine lt_of_le_of_ne (List.isChain_iff_getElem.1 hle i hi) fun heq =>
    List.isChain_iff_getElem.1 hdiffer i hi ?_
  obtain ⟨r, hr, hvalue⟩ := h.had _ ha category pin (by rw [hna]; exact hn)
  obtain ⟨r', hr', hvalue'⟩ := h.had _ hb category pin (by rw [hnb]; exact hn)
  rw [heq, hr'] at hr
  rw [← hvalue, ← hvalue', Option.some.inj hr]

/-- A goal sends changes that were made. -/
theorem sent_prefix (h : w.Inv py places pins cache) (hg : w.monitor.goals g = some goal) :
    goal.sent.map (·.signal) <+:
      Fanout.messages w.monitor.made goal.ioName (goal.since.getD 0) := by
  cases hsince : goal.since with
  | none =>
    have hnone := (h.monitorInv.registration g goal hg).unregistered hsince
    rw [(List.append_eq_nil_iff.1 (List.append_eq_nil_iff.1 hnone).1).1]
    exact List.nil_prefix
  | some since =>
    have hstream := h.monitorInv.stream_prefix hg hsince
    have hrouted : w.monitor.routed.map (fun p => (p.1, p.2.signal)) <+: w.monitor.made :=
      List.prefix_append _ _
    have hmono := Fanout.messages_mono hrouted goal.ioName since
    rw [Fanout.messages_map (fun event : ChangeEvent => event.signal)] at hmono
    refine List.IsPrefix.trans (List.IsPrefix.map _ ?_) hmono
    unfold Monitor.stream at hstream
    rw [List.append_assoc, List.append_assoc] at hstream
    exact (List.prefix_append _ _).trans hstream

theorem tells_sent (h : w.Inv py places pins cache) (hg : w.monitor.goals g = some goal)
    (hn : Dict.get places goal.ioName = some (.pin category pin)) :
    ∃ ks, List.Forall₂ (w.Tells category pin) ks (goal.sent.map goal.feedback) ∧
      ks.Pairwise (· < ·) := by
  obtain ⟨rest, hrest⟩ := h.sent_prefix hg
  let told := (w.toldOf goal.ioName (goal.since.getD 0)).take goal.sent.length
  have hmap : told.map (·.2.2) = goal.sent.map (·.signal) := by
    rw [List.map_take, h.map_toldOf, ← hrest, List.take_left' (List.length_map _)]
  rw [← List.forall₂_eq_eq_eq, List.forall₂_map_left_iff, List.forall₂_map_right_iff] at hmap
  have htold : ∀ t ∈ told, t ∈ w.told ∧ t.2.1 = goal.ioName :=
    fun t ht => mem_toldOf (List.mem_of_mem_take ht)
  have hsub : told.Sublist (w.toldOf goal.ioName (goal.since.getD 0)) := List.take_sublist _ _
  refine ⟨told.map Prod.fst, ?_, (h.pairwise_toldOf hn _).sublist (hsub.map _)⟩
  rw [List.forall₂_map_left_iff, List.forall₂_map_right_iff]
  refine List.Forall₂.imp (fun t event ht => ?_) ((List.forall₂_and_left _ _).2 ⟨htold, hmap⟩)
  obtain ⟨⟨hmem, hname⟩, heq⟩ := ht
  obtain ⟨r, hr, hvalue⟩ := h.had t hmem category pin (hname ▸ hn)
  refine ⟨r, hr, ?_⟩
  rw [MonitorGoal.feedback, ← heq, (h.typed hmem).state_feedback, hvalue]

/-- What a goal has read is what the robot has had. -/
theorem had_of_replay (h : w.Inv py places pins cache) {readAt : ℕ} {signal : Signal}
    (hget : Dict.get (Dict.replay cache (w.monitor.made.take readAt)) n = some signal) :
    ∃ k, HadAt places w.net k n signal.state := by
  rw [Dict.get_replay, Option.or_eq_some_iff] at hget
  rcases hget with hlast | ⟨-, hstart⟩
  · obtain ⟨p, hp, rfl⟩ := List.mem_map.1 (List.mem_of_getLast? hlast)
    obtain ⟨hp, hname⟩ := List.mem_filter.1 hp
    have hmade := List.mem_of_mem_take hp
    rw [← h.told] at hmade
    obtain ⟨t, ht, rfl⟩ := List.mem_map.1 hmade
    obtain rfl := of_decide_eq_true hname
    exact ⟨t.1, h.had t ht⟩
  · exact ⟨0, h.start n signal hstart⟩

/-- What the initial feedback comes from. -/
theorem initial_cases (h : w.Inv py places pins cache) (hg : w.monitor.goals g = some goal)
    (hne : goal.initial ≠ []) : ∃ signal readAt stamp,
      goal.read = some (some signal, readAt) ∧ signal.Typed ∧ goal.initial =
        [makeMonitorFeedback signal goal.isDigital stamp] := by
  have hbooks := h.monitorInv.books g goal hg
  have hreplayed := (Monitor.Replayed.of_runs h.run).2
  have hemit : goal.request.emitInitial := by
    by_contra hno
    have hlength := hbooks.initial
    rw [if_neg hno] at hlength
    exact hne (List.length_eq_zero_iff.1 (Nat.le_zero.1 hlength))
  have hpublished : goal.published ≠ [] := by
    rw [hbooks.published]
    exact List.append_ne_nil_of_left_ne_nil hne _
  obtain ⟨read, readAt, stamp, hread, hinitial⟩ :=
    (hreplayed.opening g goal hg).opened (.inr hpublished) hemit
  cases read with
  | none => exact absurd hinitial hne
  | some signal =>
    obtain ⟨since, m, cache', hfollows⟩ := hreplayed.follows g goal _ readAt hg hread
    exact ⟨signal, readAt, stamp, hread, (hfollows.signal signal rfl).2, hinitial⟩

theorem tells_initial (h : w.Inv py places pins cache) (hg : w.monitor.goals g = some goal)
    (hn : Dict.get places goal.ioName = some (.pin category pin)) :
    ∃ ks, List.Forall₂ (w.Tells category pin) ks goal.initial := by
  by_cases hnil : goal.initial = []
  · exact ⟨[], by rw [hnil]; exact .nil⟩
  · obtain ⟨signal, readAt, stamp, hread, htyped, hinitial⟩ := h.initial_cases hg hnil
    obtain ⟨k, hhad⟩ := h.had_of_replay ((h.reads g goal _ readAt hg hread).2 signal rfl)
    obtain ⟨r, hr, hvalue⟩ := hhad category pin hn
    refine ⟨[k], ?_⟩
    rw [hinitial]
    refine .cons ⟨r, hr, ?_⟩ .nil
    rw [htyped.state_feedback, hvalue]

/-- What a goal has published are states of its pin, and those after the initial one in the order in
which the robot has had them. -/
theorem tells (h : w.Inv py places pins cache) (hg : w.monitor.goals g = some goal)
    (hn : Dict.get places goal.ioName = some (.pin category pin)) :
    ∃ ks, List.Forall₂ (w.Tells category pin) ks goal.published ∧
      (ks.drop (if goal.request.emitInitial then 1 else 0)).Pairwise (· < ·) := by
  have hbooks := h.monitorInv.books g goal hg
  obtain ⟨initial, hinitial⟩ := h.tells_initial hg hn
  obtain ⟨ks, hks, hordered⟩ := h.tells_sent hg hn
  refine ⟨initial ++ ks, ?_, ?_⟩
  · rw [hbooks.published]
    exact List.rel_append hinitial hks
  · have hle : initial.length ≤ if goal.request.emitInitial then 1 else 0 := by
      rw [hinitial.length_eq]
      exact hbooks.initial
    rw [List.drop_append, List.drop_eq_nil_of_le hle, List.nil_append]
    exact hordered.sublist (List.drop_sublist _ _)

/-- The last feedback of a goal that has nothing more to get carries what the cache has. -/
theorem last (h : w.Inv py places pins cache) (hg : w.monitor.goals g = some goal)
    (hs : w.Settled goal) {signal : Signal}
    (hget : Dict.get (Dict.replay cache w.monitor.made) goal.ioName = some signal) :
    ∀ feedback ∈ goal.published.getLast?, feedback.state = signal.state.num := by
  intro feedback hfeedback
  have hinv := h.monitorInv
  obtain ⟨since, hsince⟩ :=
    Option.isSome_iff_exists.1 ((hinv.registration g goal hg).since hs.running)
  have hsent : goal.sent.map (·.signal) = Fanout.messages w.monitor.made goal.ioName since := by
    have hstream := hinv.stream_eq hg hsince (Monitor.Watching.of_runs h.run g goal hg hs.running)
    rw [Monitor.stream, hs.taken, hs.pending, Monitor.onTheWay, hs.idle] at hstream
    simp only [Option.toList_none, List.append_nil] at hstream
    rw [hstream, Monitor.made, hs.idle, ← Fanout.messages_map (fun event : ChangeEvent => event.signal)]
    simp [Routing.calling]
  rw [(hinv.books g goal hg).published, List.getLast?_append] at hfeedback
  rcases Option.or_eq_some_iff.1 hfeedback with hlast | ⟨hnone, hinitial⟩
  · rw [List.getLast?_map] at hlast
    obtain ⟨event, hevent, rfl⟩ := Option.map_eq_some_iff.1 hlast
    rw [get_replay_messages _ _ _ since, ← hsent, List.getLast?_map, hevent] at hget
    obtain rfl := Option.some.inj hget
    have hmem := List.mem_map_of_mem (f := (·.signal)) (List.mem_of_getLast? hevent)
    rw [hsent, ← h.map_toldOf] at hmem
    obtain ⟨t, ht, heq⟩ := List.mem_map.1 hmem
    have htyped := h.typed (mem_toldOf ht).1
    rw [heq] at htyped
    exact htyped.state_feedback _ _
  · -- nothing has changed since the goal read the snapshot
    have hnil : goal.sent = [] := by simpa using hnone
    rw [hnil, List.map_nil] at hsent
    have hne : goal.initial ≠ [] := List.ne_nil_of_mem (List.mem_of_getLast? hinitial)
    obtain ⟨signal', readAt, stamp, hread, htyped, hinitial'⟩ := h.initial_cases hg hne
    obtain ⟨since', m, cache', hfollows⟩ :=
      (Monitor.Replayed.of_runs h.run).2.follows g goal _ readAt hg hread
    obtain rfl := Option.some.inj (hsince.symm.trans hfollows.registered)
    have hskip : Fanout.messages (w.monitor.made.take readAt) goal.ioName since = [] := by
      have hmono := Fanout.messages_mono (List.take_prefix readAt w.monitor.made) goal.ioName since
      rw [← hsent, List.prefix_nil] at hmono
      exact hmono
    rw [get_replay_messages _ _ _ readAt, ← Fanout.messages_skip hfollows.since_le hskip, ← hsent,
      List.getLast?_nil, Option.none_or, (h.reads g goal _ readAt hg hread).2 signal' rfl] at hget
    obtain rfl := Option.some.inj hget
    rw [hinitial'] at hinitial
    obtain rfl := Option.some.inj hinitial
    exact htyped.state_feedback _ _

theorem settled (h : w.Inv py places pins cache) (hg : w.monitor.goals g = some goal)
    (hn : Dict.get places goal.ioName = some (.pin category pin)) (hs : w.Settled goal) :
    ∀ feedback ∈ goal.published.getLast?, feedback.state = (w.net.robot.value category pin).num := by
  obtain ⟨d, hd⟩ := h.driver
  obtain ⟨signal, hget, -⟩ := hd.wired.cached hn
  obtain ⟨r, hr, hagrees⟩ := hd.shown
  rw [hs.updates] at hagrees
  rw [hs.seen, Network.states_current] at hr
  obtain rfl := Option.some.inj hr
  rw [hagrees goal.ioName category pin signal hn hget]
  refine h.last hg hs ?_
  rw [hd.replay]
  exact hget

/-- The configured node, before the driver has heard anything. -/
theorem initial {device : List (Yaml × Yaml)} {init : URIODriver} {cfg : GpioController.ConfigureInput}
    {gpio : Managed} {defaults robot : Robot} (hstr : ∀ s, py.parseStr (.str s) = some s)
    (hinit : URIODriver.configure py device = .ok init)
    (hconf : ({} : Managed).transition py (.configure cfg) = some (gpio, .SUCCESS))
    (hdriver : gpio.node.driver = some (.ur { init with callback := true }))
    (hdefaults : defaults.AtDefaults init.device.mapping (Dict.values init.cache))
    (hrobot : robot.Typed init.device.mapping.places) :
    Observed.Inv py init.device.mapping.places pins init.cache
      { monitor := { toManaged := gpio }, net := { robot, past := [defaults] } } := by
  have hmock : init.toDriver = (⟨init.toDriver⟩ : MockIODriver).toDriver := rfl
  have hrelated := Related.initial hstr hinit hdefaults hmock true
  have hsound : Network.Sound init.device.mapping.places pins { robot, past := [defaults] } :=
    .initial (by simpa using hrelated.typed) hrobot
  have hstep : Monitor.step py {} (.transition (.configure cfg)) = some { toManaged := gpio } := by
    rw [Monitor.step, hconf]
    rfl
  have hkeeps : Monitor.KeepsTable {} (.transition (.configure cfg)) := trivial
  have hdrives : Drives init.device.mapping.places init.cache
      { monitor := { toManaged := gpio }, net := { robot, past := [defaults] } }
      { init with callback := true } :=
    ⟨hdriver, (wired_configure hstr hinit).setChangeCallback true, rfl, defaults, rfl, hrelated.robot⟩
  exact
    { run := .single hkeeps hstep
      driver := ⟨_, hdrives⟩
      net := hsound
      updates := by simp
      told := rfl
      had := by simp
      start := fun n signal hget category pin hn =>
        ⟨defaults, rfl, hrelated.robot n category pin signal hn hget⟩
      ordered := by simp
      genuine := trivial
      reads := by rintro g goal read readAt ⟨⟩ }

end Inv

/-- The node is configured for the hardware. The driver shows the configured defaults until the first
report arrives, so they count as the first state of the robot. Every feedback of a goal carries what the
pin of the goal had in a state that the robot has had; after the initial feedback each is of a later
state than the one before. Once all reports have arrived and all changes are fed back, the last one is
the present value. -/
theorem monitor_follows_pins (hstr : ∀ s, py.parseStr (.str s) = some s)
    {cfg : GpioController.ConfigureInput} (hreal : cfg.simulated = false) {gpio : Managed}
    (hconf : ({} : Managed).transition py (.configure cfg) = some (gpio, .SUCCESS)) :
    ∃ d : URIODriver, gpio.node.driver = some (.ur d) ∧ ∀ (pins : Category → List Nat),
      (∀ category, ∀ e ∈ d.device.mapping.pins category, e.2 ∈ pins category) →
      ∀ defaults robot : Robot, defaults.AtDefaults d.device.mapping (Dict.values d.cache) →
      robot.Typed d.device.mapping.places → ∀ w : Observed,
      Lts.Runs (step py pins) Keeps
        { monitor := { toManaged := gpio }, net := { robot, past := [defaults] } } w →
      ∀ g goal category pin, w.monitor.goals g = some goal →
        Dict.get d.device.mapping.places goal.ioName = some (.pin category pin) →
        (∃ ks, List.Forall₂ (w.Tells category pin) ks goal.published ∧
          (ks.drop (if goal.request.emitInitial then 1 else 0)).Pairwise (· < ·)) ∧
        (w.Settled goal → ∀ feedback ∈ goal.published.getLast?,
          feedback.state = (w.net.robot.value category pin).num) := by
  obtain ⟨device, init, hinit, hdriver⟩ := Managed.driver_configure hreal hconf
  refine ⟨_, hdriver, fun pins hpins defaults robot hdefaults hrobot w h => ?_⟩
  have hinv := h.invariant (I := fun w => w.Inv py init.device.mapping.places pins init.cache)
    (.initial hstr hinit hconf hdriver hdefaults hrobot)
    fun hw hl hs => hw.step (URMappingDTO.mem_of_places hpins) hl hs
  intro g goal category pin hg hn
  exact ⟨hinv.tells hg hn, hinv.settled hg hn⟩

instance (w : Observed) (l : Label) : Decidable (Keeps w l) :=
  match l with
  | .monitor (.transition (.activate fault)) => inferInstanceAs (Decidable (fault = false))
  | .monitor (.transition (.deactivate _)) => isTrue trivial
  | .monitor (.transition (.configure _)) | .monitor (.transition .cleanup)
  | .monitor (.transition .shutdown) => isFalse id
  | .monitor (.accept _ _) | .monitor (.register _) | .monitor (.unregister _) | .monitor (.goal _ _)
  | .monitor (.change _ _) | .monitor (.stamp _) | .monitor (.copyWatchers _) | .monitor .put
  | .net _ | .receive | .update | .setDigital _ _ _ | .setAnalog _ _ _ => isTrue trivial

/-- All pins are off. -/
def restingRobot : Robot :=
  { value := fun category _ => if category.isDigital then .bool false else .float 0 }

/-- The pin of the goal goes on, off and on. The report of the first change is lost, and an output is
written while the last one is taken. -/
def lostReport : List Label :=
  [.monitor (.transition (.activate false)), .monitor (.accept 0 ⟨"part_present", true⟩),
    .monitor (.goal 0 .lookup), .monitor (.register 0), .monitor (.goal 0 (.readInitial none)),
    .monitor (.goal 0 (.publishInitial 1 none)), .net (.outside .digitalInStates 0 (.bool true)),
    .net .report, .net (.lose 0), .net (.outside .digitalInStates 0 (.bool false)),
    .net (.outside .digitalInStates 0 (.bool true)), .net .report, .receive, .update,
    .monitor (.stamp 2), .monitor (.copyWatchers [0]), .monitor .put, .monitor .put,
    .setDigital "gripper" true none, .update, .update, .update, .update,
    .monitor (.goal 0 .checkActive), .monitor (.goal 0 .checkCancel), .monitor (.goal 0 .get),
    .monitor (.goal 0 (.publish none))]

theorem monitor_follows_pins_lostReport :
    ∃ (gpio : Managed) (d : URIODriver) (w : Observed) (goal : MonitorGoal),
      gpio.node.driver = some (.ur d) ∧ w.monitor.goals 0 = some goal ∧ w.Settled goal ∧
      goal.published.map (·.state) = [0, 1] ∧
      (∃ ks, List.Forall₂ (w.Tells .digitalInStates 0) ks goal.published ∧
        (ks.drop 1).Pairwise (· < ·)) ∧
      ∀ feedback ∈ goal.published.getLast?,
        feedback.state = (w.net.robot.value .digitalInStates 0).num := by
  have hconf : ({} : Managed).transition .strict (.configure ⟨some sampleConfig, false, 0, false⟩) =
    some (_, .SUCCESS) := rfl
  obtain ⟨d, hd, hruns⟩ := @monitor_follows_pins .strict (fun _ => rfl) _ rfl _ hconf
  have hdriver := hd
  cases hd
  have hfollows := hruns (fun _ => [0, 1]) (by intro category; cases category <;> decide) restingRobot
    restingRobot (by intro category; cases category <;> decide)
    (by intro _ category _ _; cases category <;> rfl)
  obtain ⟨htells, hlast⟩ := hfollows _ (.of_exec lostReport rfl) 0 _ .digitalInStates 0 rfl rfl
  have hsettled := hlast ⟨rfl, rfl, rfl, rfl, rfl, rfl⟩
  exact ⟨_, _, _, _, hdriver, rfl, ⟨rfl, rfl, rfl, rfl, rfl, rfl⟩, rfl, htells, hsettled⟩

end Observed

end IoControllers
