import MovementController.Io.Node
import MovementController.Lib.Fanout
import MovementController.Lib.Runs

/-!
# `monitor_io`

Every goal runs `_execute_monitor` on a thread of its own, the driver calls `_on_driver_change` on
its thread, and transitions of the node come in between. A step is one access to what the threads
share, with the computation around it. The driver makes one change at a time.
-/

namespace IoControllers

/-- `builtin_interfaces/Time`, in nanoseconds. -/
abbrev Time := ℕ

structure MonitorIO.Goal where
  ioName : String
  emitInitial : Bool
deriving DecidableEq, Repr

/-- `io` is the populated one of `digital_io` and `analog_io`. -/
structure MonitorIO.Feedback where
  io : DigitalIO ⊕ AnalogIO
  isDigital : Bool
  stamp : Time
deriving DecidableEq, Repr

structure MonitorIO.Result where
  success : Bool
  message : String
  changeCount : ℕ
deriving DecidableEq, Repr

/-- What a per-goal queue holds. `seq` is the place of the change among all changes that read the
watcher table; the code does not have it. -/
structure ChangeEvent where
  signal : Signal
  stamp : Time
  seq : ℕ
deriving DecidableEq, Repr

def makeMonitorFeedback (signal : Signal) (isDigital : Bool) (stamp : Time) : MonitorIO.Feedback :=
  { io := signal.toMsg, isDigital, stamp }

/-- `_current_signal`. -/
def currentSignal (driver : IODriver) (ioName : String) (isDigital : Bool) : Option Signal :=
  let snapshot := driver.snapshot
  (if isDigital then snapshot.digital else snapshot.analog).find? (·.ioName = ioName)

/-! ### A goal -/

inductive MonitorOutcome where
  | canceled
  | aborted
deriving DecidableEq, Repr

/-- Where `_execute_monitor` is. -/
inductive MonitorPc where
  | accepted
  | lookedUp
  | registered
  | snapshotRead (signal : Signal)
  | checkActive
  | checkCancel
  | get
  | publish
  /-- In `_finish_monitor`, called by the `except` clause or not. -/
  | finish (handler : Bool) (message : String) (outcome : MonitorOutcome)
  /-- In the `finally` clause; `none` is an exception that leaves the callback. -/
  | leave (result : Option MonitorIO.Result)
  | ended (result : Option MonitorIO.Result)
deriving DecidableEq, Repr

/-- Registered and not yet unregistered. -/
def MonitorPc.running : MonitorPc → Bool
  | accepted | lookedUp | ended _ => false
  | _ => true

/-- A goal with its `MonitorEntry`. The code does not have what stands below `cancelRequested`: how
many changes had read the watcher table when the entry was registered, what the snapshot read gave
and how many changes had been made by then, and where the published feedback comes from. -/
structure MonitorGoal where
  request : MonitorIO.Goal
  isDigital : Bool := false
  pc : MonitorPc := .accepted
  pending : List ChangeEvent := []
  taken : Option ChangeEvent := none
  changeCount : ℕ := 0
  published : List MonitorIO.Feedback := []
  outcome : Option MonitorOutcome := none
  cancelRequested : Bool := false
  since : Option ℕ := none
  read : Option (Option Signal × ℕ) := none
  initial : List MonitorIO.Feedback := []
  sent : List ChangeEvent := []

/-- The moves of a goal on its own; `fault` is an exception raised there. -/
inductive GoalStep where
  | lookup
  | readInitial (fault : Option String)
  | publishInitial (stamp : Time) (fault : Option String)
  | checkActive
  | checkCancel
  | get
  | publish (fault : Option String)
  | finish (fault : Option String)
  | cancel
deriving DecidableEq, Repr

namespace MonitorGoal

abbrev ioName (goal : MonitorGoal) : String := goal.request.ioName

abbrev running (goal : MonitorGoal) : Bool := goal.pc.running

def feedback (goal : MonitorGoal) (event : ChangeEvent) : MonitorIO.Feedback :=
  makeMonitorFeedback event.signal goal.isDigital event.stamp

/-- An exception in the `try` block goes to the `except` clause. -/
def raise (goal : MonitorGoal) (exc : String) : MonitorGoal :=
  { goal with pc := .finish true s!"error: {exc}" .aborted }

/-- `_finish_monitor` up to the call that moves the goal to its terminal state. -/
def result (goal : MonitorGoal) (message : String) : MonitorOutcome → MonitorIO.Result
  | .canceled => { success := true, message, changeCount := goal.changeCount }
  | .aborted => { success := false, message, changeCount := goal.changeCount }

def lookup (goal : MonitorGoal) (n : GpioController) : MonitorGoal :=
  match Dict.get n.signalIndex goal.ioName with
  -- the `KeyError` leaves the callback, and the action server aborts the goal
  | none => { goal with pc := .ended none, outcome := some .aborted }
  | some (isDigital, _) => { goal with pc := .lookedUp, isDigital }

/-- `since` changes have read the watcher table so far. -/
def register (goal : MonitorGoal) (since : ℕ) : MonitorGoal :=
  { goal with
    pc := if goal.request.emitInitial then .registered else .checkActive
    since := some since }

theorem running_register (goal : MonitorGoal) (since : ℕ) : (goal.register since).running = true := by
  unfold running register
  dsimp only
  split <;> rfl

/-- `made` changes have been made so far. -/
def readInitial (goal : MonitorGoal) (n : GpioController) (made : ℕ) : Option String → MonitorGoal
  | some exc => goal.raise exc
  | none =>
    match n.driver with
    | none => goal.raise "'NoneType' object has no attribute 'snapshot'"
    | some driver =>
      match currentSignal driver goal.ioName goal.isDigital with
      | none => { goal with pc := .checkActive, read := some (none, made) }
      | some signal => { goal with pc := .snapshotRead signal, read := some (some signal, made) }

def publishInitial (goal : MonitorGoal) (signal : Signal) (stamp : Time) :
    Option String → MonitorGoal
  | some exc => goal.raise exc
  | none =>
    let feedback := makeMonitorFeedback signal goal.isDigital stamp
    { goal with
      pc := .checkActive
      published := goal.published ++ [feedback]
      initial := [feedback]
      changeCount := goal.changeCount + 1 }

def checkActive (goal : MonitorGoal) (n : GpioController) : MonitorGoal :=
  if !n.active then { goal with pc := .finish false "deactivated" .aborted }
  else { goal with pc := .checkCancel }

def checkCancel (goal : MonitorGoal) : MonitorGoal :=
  if goal.cancelRequested then { goal with pc := .finish false "cancelled" .canceled }
  else { goal with pc := .get }

/-- `entry.pending.get(timeout=0.1)`. -/
def get (goal : MonitorGoal) : MonitorGoal :=
  match goal.pending with
  | [] => { goal with pc := .checkActive }
  | event :: pending => { goal with pc := .publish, taken := some event, pending }

def publish (goal : MonitorGoal) (event : ChangeEvent) : Option String → MonitorGoal
  | some exc => goal.raise exc
  | none =>
    { goal with
      pc := .checkActive
      taken := none
      published := goal.published ++ [goal.feedback event]
      sent := goal.sent ++ [event]
      changeCount := goal.changeCount + 1 }

def finish (goal : MonitorGoal) (handler : Bool) (message : String) (outcome : MonitorOutcome) :
    Option String → MonitorGoal
  | none => { goal with pc := .leave (some (goal.result message outcome)), outcome := some outcome }
  | some exc => if handler then { goal with pc := .leave none } else goal.raise exc

def step (goal : MonitorGoal) (n : GpioController) (made : ℕ) (l : GoalStep) : Option MonitorGoal :=
  match l, goal.pc with
  | .lookup, .accepted => some (goal.lookup n)
  | .readInitial fault, .registered => some (goal.readInitial n made fault)
  | .publishInitial stamp fault, .snapshotRead signal =>
    some (goal.publishInitial signal stamp fault)
  | .checkActive, .checkActive => some (goal.checkActive n)
  | .checkCancel, .checkCancel => some goal.checkCancel
  | .get, .get => some goal.get
  | .publish fault, .publish => goal.taken.map fun event => goal.publish event fault
  | .finish fault, .finish handler message outcome =>
    some (goal.finish handler message outcome fault)
  | .cancel, _ => if goal.outcome = none then some { goal with cancelRequested := true } else none
  | _, _ => none

/-- What a move of a goal can do. -/
inductive Moved (n : GpioController) (made : ℕ) (goal : MonitorGoal) :
    GoalStep → MonitorGoal → Prop
  | lookup (hpc : goal.pc = .accepted) : Moved n made goal .lookup (goal.lookup n)
  | readInitial (fault : Option String) (hpc : goal.pc = .registered) :
      Moved n made goal (.readInitial fault) (goal.readInitial n made fault)
  | publishInitial {signal : Signal} (stamp : Time) (fault : Option String)
      (hpc : goal.pc = .snapshotRead signal) :
      Moved n made goal (.publishInitial stamp fault) (goal.publishInitial signal stamp fault)
  | checkActive (hpc : goal.pc = .checkActive) : Moved n made goal .checkActive (goal.checkActive n)
  | checkCancel (hpc : goal.pc = .checkCancel) : Moved n made goal .checkCancel goal.checkCancel
  | get (hpc : goal.pc = .get) : Moved n made goal .get goal.get
  | publish {event : ChangeEvent} (fault : Option String) (hpc : goal.pc = .publish)
      (htaken : goal.taken = some event) :
      Moved n made goal (.publish fault) (goal.publish event fault)
  | finish {handler : Bool} {message : String} {outcome : MonitorOutcome} (fault : Option String)
      (hpc : goal.pc = .finish handler message outcome) :
      Moved n made goal (.finish fault) (goal.finish handler message outcome fault)
  | cancel (hnone : goal.outcome = none) : Moved n made goal .cancel { goal with cancelRequested := true }

theorem step_cases {n : GpioController} {made : ℕ} {goal goal' : MonitorGoal} {l : GoalStep}
    (h : goal.step n made l = some goal') : Moved n made goal l goal' := by
  unfold step at h
  split at h
  · next hpc => rw [← Option.some.inj h]; exact .lookup hpc
  · next fault hpc => rw [← Option.some.inj h]; exact .readInitial fault hpc
  · next stamp fault signal hpc => rw [← Option.some.inj h]; exact .publishInitial stamp fault hpc
  · next hpc => rw [← Option.some.inj h]; exact .checkActive hpc
  · next hpc => rw [← Option.some.inj h]; exact .checkCancel hpc
  · next hpc => rw [← Option.some.inj h]; exact .get hpc
  · next fault hpc =>
    obtain ⟨event, htaken, rfl⟩ := Option.map_eq_some_iff.1 h
    exact .publish fault hpc htaken
  · next fault handler message outcome hpc =>
    rw [← Option.some.inj h]
    exact .finish fault hpc
  · split at h
    · next hnone => rw [← Option.some.inj h]; exact .cancel hnone
    · cases h
  · cases h

end MonitorGoal

/-! ### The node with its goals -/

/-- Where the change callback is. -/
inductive Routing where
  | idle
  | called (ioName : String) (signal : Signal)
  | stamped (ioName : String) (signal : Signal) (stamp : Time)
  | enqueue (event : ChangeEvent) (entries : List ℕ)

/-- The change that has been made and has not read the watcher table. -/
def Routing.calling : Routing → Option (String × Signal)
  | called ioName signal | stamped ioName signal _ => some (ioName, signal)
  | _ => none

/-- `routed` are the changes so far that read the watcher table, in that order. -/
structure Monitor extends Managed where
  goals : ℕ → Option MonitorGoal := fun _ => none
  routing : Routing := .idle
  routed : List (String × ChangeEvent) := []

/-- The changes so far. -/
def Monitor.made (s : Monitor) : List (String × Signal) :=
  s.routed.map (fun p => (p.1, p.2.signal)) ++ s.routing.calling.toList

namespace GpioController

/-- `_on_monitor_goal`. -/
def onMonitorGoal (n : GpioController) (request : MonitorIO.Goal) : Bool :=
  n.active && n.driver.isSome && (Dict.get n.signalIndex request.ioName).isSome

def watchersOf (n : GpioController) (ioName : String) : Finset ℕ :=
  (Dict.get n.watchers ioName).getD ∅

def registerWatcher (n : GpioController) (ioName : String) (g : ℕ) : GpioController :=
  { n with watchers := Dict.set n.watchers ioName (insert g (n.watchersOf ioName)) }

def unregisterWatcher (n : GpioController) (ioName : String) (g : ℕ) : GpioController :=
  match Dict.get n.watchers ioName with
  | none => n
  | some entries =>
    if entries.erase g = ∅ then { n with watchers := Dict.erase n.watchers ioName }
    else { n with watchers := Dict.set n.watchers ioName (entries.erase g) }

@[simp] theorem driver_unregisterWatcher (n : GpioController) (ioName : String) (g : ℕ) :
    (n.unregisterWatcher ioName g).driver = n.driver := by
  unfold unregisterWatcher
  split
  · rfl
  · split <;> rfl

variable {n : GpioController} {ioName name : String} {g i : ℕ}

theorem mem_registerWatcher : i ∈ (n.registerWatcher ioName g).watchersOf name ↔
    (i = g ∧ name = ioName) ∨ i ∈ n.watchersOf name := by
  unfold registerWatcher watchersOf
  by_cases hname : name = ioName
  · subst hname
    simp
  · rw [Dict.get_set_of_ne hname]
    simp [hname]

theorem mem_unregisterWatcher : i ∈ (n.unregisterWatcher ioName g).watchersOf name ↔
    i ∈ n.watchersOf name ∧ ¬(i = g ∧ name = ioName) := by
  unfold unregisterWatcher
  by_cases hname : name = ioName
  · subst hname
    split
    · next hnone => simp [watchersOf, hnone]
    · next entries hentries =>
      have hmem : i ∈ entries.erase g ↔ i ∈ entries ∧ i ≠ g := by
        rw [Finset.mem_erase, and_comm]
      split
      · next hempty =>
        rw [hempty] at hmem
        simpa [watchersOf, hentries] using hmem
      · simpa [watchersOf, hentries] using hmem
  · split
    · simp [hname]
    · split <;> simp [watchersOf, hname, Dict.get_set_of_ne, Dict.get_erase_of_ne]

theorem registerWatcher_nonempty (h : ∀ name, Dict.get n.watchers name ≠ some ∅) (name : String) :
    Dict.get (n.registerWatcher ioName g).watchers name ≠ some ∅ := by
  unfold registerWatcher
  by_cases hname : name = ioName
  · subst hname
    rw [Dict.get_set_self]
    exact fun hempty => Finset.insert_ne_empty _ _ (Option.some.inj hempty)
  · rw [Dict.get_set_of_ne hname]
    exact h name

theorem unregisterWatcher_nonempty (h : ∀ name, Dict.get n.watchers name ≠ some ∅) (name : String) :
    Dict.get (n.unregisterWatcher ioName g).watchers name ≠ some ∅ := by
  unfold unregisterWatcher
  split
  · exact h name
  · split
    · by_cases hname : name = ioName
      · subst hname
        rw [Dict.get_erase_self]
        exact fun hempty => Option.some_ne_none _ hempty.symm
      · rw [Dict.get_erase_of_ne hname]
        exact h name
    · next hne =>
      by_cases hname : name = ioName
      · subst hname
        rw [Dict.get_set_self]
        exact fun hempty => hne (Option.some.inj hempty)
      · rw [Dict.get_set_of_ne hname]
        exact h name

end GpioController

/-- A write of a cached signal, as all callers make it: with a value of the signal's type. -/
def IODriver.update (ioName : String) (value : Value) (d : IODriver) : IODriver :=
  match Dict.get d.base.cache ioName with
  | none => d
  | some signal =>
    let value := if signal.type = .digital then .bool value.toBool else .float value.toFloat
    match d with
    | .mock d => .mock (d.apply signal value)
    | .ur d => .ur (d.updateCache ioName value)

namespace Monitor

inductive Label where
  | transition (t : Transition)
  | accept (g : ℕ) (request : MonitorIO.Goal)
  | register (g : ℕ)
  | unregister (g : ℕ)
  | goal (g : ℕ) (l : GoalStep)
  | change (ioName : String) (value : Value)
  | stamp (time : Time)
  | copyWatchers (entries : List ℕ)
  | put

def setGoal (s : Monitor) (g : ℕ) (goal : MonitorGoal) : Monitor :=
  { s with goals := Function.update s.goals g (some goal) }

def register (s : Monitor) (g : ℕ) (goal : MonitorGoal) : Monitor :=
  { s with node := s.node.registerWatcher goal.ioName g }.setGoal g (goal.register s.routed.length)

def unregister (s : Monitor) (g : ℕ) (goal : MonitorGoal) (result : Option MonitorIO.Result) :
    Monitor :=
  { s with node := s.node.unregisterWatcher goal.ioName g }.setGoal g
    { goal with
      pc := .ended result
      -- after an exception the action server aborts the goal
      outcome := if result.isNone then some .aborted else goal.outcome }

/-- The driver writes a signal that differs, and its change callback is called. -/
def change (s : Monitor) (ioName : String) (value : Value) : Option Monitor :=
  s.node.driver.bind fun driver =>
    let driver' := driver.update ioName value
    match driver'.base.fired.drop driver.base.fired.length with
    | [] => none
    | call :: _ =>
      some { s with
        node := { s.node with driver := some driver' }
        routing := .called call.ioName call.signal }

/-- The critical section of `_on_driver_change`; the entries come in the order of the set. -/
def copyWatchers (s : Monitor) (ioName : String) (signal : Signal) (stamp : Time)
    (entries : List ℕ) : Option Monitor :=
  if entries.Nodup ∧ entries.toFinset = s.node.watchersOf ioName then
    let event := { signal, stamp, seq := s.routed.length }
    some { s with
      routing := .enqueue event entries
      routed := s.routed ++ [(ioName, event)] }
  else none

/-- One round of the loop over the copied entries. -/
def put (s : Monitor) (event : ChangeEvent) : List ℕ → Option Monitor
  | [] => some { s with routing := .idle }
  | g :: entries =>
    (s.goals g).map fun goal =>
      { s with routing := .enqueue event entries }.setGoal g
        { goal with pending := goal.pending ++ [event] }

def step (py : Pydantic) (s : Monitor) : Label → Option Monitor
  | .transition t => (s.transition py t).map fun r => { s with toManaged := r.1 }
  | .accept g request =>
    if s.goals g = none ∧ s.node.onMonitorGoal request then some (s.setGoal g { request }) else none
  | .register g =>
    (s.goals g).bind fun goal => if goal.pc = .lookedUp then some (s.register g goal) else none
  | .unregister g =>
    (s.goals g).bind fun goal =>
      match goal.pc with
      | .leave result => some (s.unregister g goal result)
      | _ => none
  | .goal g l => (s.goals g).bind fun goal => (goal.step s.node s.made.length l).map (s.setGoal g)
  | .change ioName value =>
    match s.routing with
    | .idle => s.change ioName value
    | _ => none
  | .stamp time =>
    match s.routing with
    | .called ioName signal => some { s with routing := .stamped ioName signal time }
    | _ => none
  | .copyWatchers entries =>
    match s.routing with
    | .stamped ioName signal stamp => s.copyWatchers ioName signal stamp entries
    | _ => none
  | .put =>
    match s.routing with
    | .enqueue event entries => s.put event entries
    | _ => none

/-- What a step can do. -/
inductive Moves (py : Pydantic) (s : Monitor) : Label → Monitor → Prop
  | transition {t : Transition} {m : Managed} {ret : TransitionCallbackReturn}
      (h : s.transition py t = some (m, ret)) : Moves py s (.transition t) { s with toManaged := m }
  | accept {g : ℕ} {request : MonitorIO.Goal} (hg : s.goals g = none)
      (hok : s.node.onMonitorGoal request) : Moves py s (.accept g request) (s.setGoal g { request })
  | register {g : ℕ} {goal : MonitorGoal} (hg : s.goals g = some goal) (hpc : goal.pc = .lookedUp) :
      Moves py s (.register g) (s.register g goal)
  | unregister {g : ℕ} {goal : MonitorGoal} {result : Option MonitorIO.Result}
      (hg : s.goals g = some goal) (hpc : goal.pc = .leave result) :
      Moves py s (.unregister g) (s.unregister g goal result)
  | goal {g : ℕ} {goal goal' : MonitorGoal} {l : GoalStep} (hg : s.goals g = some goal)
      (h : goal.Moved s.node s.made.length l goal') : Moves py s (.goal g l) (s.setGoal g goal')
  | change {ioName : String} {value : Value} {s' : Monitor} (hr : s.routing = .idle)
      (h : s.change ioName value = some s') : Moves py s (.change ioName value) s'
  | stamp {ioName : String} {signal : Signal} (time : Time) (hr : s.routing = .called ioName signal) :
      Moves py s (.stamp time) { s with routing := .stamped ioName signal time }
  | copyWatchers {ioName : String} {signal : Signal} {stamp : Time} {entries : List ℕ}
      (hr : s.routing = .stamped ioName signal stamp) (hnodup : entries.Nodup)
      (hset : entries.toFinset = s.node.watchersOf ioName) :
      Moves py s (.copyWatchers entries)
        { s with
          routing := .enqueue ⟨signal, stamp, s.routed.length⟩ entries
          routed := s.routed ++ [(ioName, ⟨signal, stamp, s.routed.length⟩)] }
  | put {event : ChangeEvent} {g : ℕ} {entries : List ℕ} {goal : MonitorGoal}
      (hr : s.routing = .enqueue event (g :: entries)) (hg : s.goals g = some goal) :
      Moves py s .put ({ s with routing := .enqueue event entries }.setGoal g
        { goal with pending := goal.pending ++ [event] })
  | done {event : ChangeEvent} (hr : s.routing = .enqueue event []) :
      Moves py s .put { s with routing := .idle }

theorem step_cases {py : Pydantic} {s s' : Monitor} {l : Label} (h : step py s l = some s') :
    Moves py s l s' := by
  cases l with
  | transition t =>
    obtain ⟨⟨m, ret⟩, hm, rfl⟩ := Option.map_eq_some_iff.1 h
    exact .transition hm
  | accept g request =>
    rw [step] at h
    split at h
    · next hok => rw [← Option.some.inj h]; exact .accept hok.1 hok.2
    · cases h
  | register g =>
    obtain ⟨goal, hg, h⟩ := Option.bind_eq_some_iff.1 h
    split at h
    · next hpc => rw [← Option.some.inj h]; exact .register hg hpc
    · cases h
  | unregister g =>
    obtain ⟨goal, hg, h⟩ := Option.bind_eq_some_iff.1 h
    split at h
    · next result hpc => rw [← Option.some.inj h]; exact .unregister hg hpc
    · cases h
  | goal g l =>
    obtain ⟨goal, hg, h⟩ := Option.bind_eq_some_iff.1 h
    obtain ⟨goal', hgoal, rfl⟩ := Option.map_eq_some_iff.1 h
    exact .goal hg (MonitorGoal.step_cases hgoal)
  | change ioName value =>
    rw [step] at h
    split at h
    · next hr => exact .change hr h
    · cases h
  | stamp time =>
    rw [step] at h
    split at h
    · next ioName signal hr => rw [← Option.some.inj h]; exact .stamp time hr
    · cases h
  | copyWatchers entries =>
    rw [step] at h
    split at h
    · next ioName signal stamp hr =>
      unfold copyWatchers at h
      split at h
      · next hok => rw [← Option.some.inj h]; exact .copyWatchers hr hok.1 hok.2
      · cases h
    · cases h
  | put =>
    rw [step] at h
    split at h
    · next event entries hr =>
      cases entries with
      | nil => rw [← Option.some.inj h]; exact .done hr
      | cons g entries =>
        obtain ⟨goal, hg, rfl⟩ := Option.map_eq_some_iff.1 h
        exact .put hr hg
    · cases h

theorem goals_change {s s' : Monitor} {ioName : String} {value : Value}
    (h : s.change ioName value = some s') : s'.goals = s.goals := by
  obtain ⟨driver, -, h⟩ := Option.bind_eq_some_iff.1 h
  dsimp only at h
  split at h
  · cases h
  · rw [← Option.some.inj h]

/-- The label is a move of the goal on its own. -/
def Label.ofGoal (g : ℕ) : Label → Bool
  | goal i _ => i = g
  | _ => false

/-- What a step of the node does to one goal. -/
inductive Becomes (s : Monitor) (g : ℕ) (goal : MonitorGoal) : Label → MonitorGoal → Prop
  | keeps {l : Label} (pending : List ChangeEvent) (hl : l.ofGoal g = false) :
      Becomes s g goal l { goal with pending }
  | register (hpc : goal.pc = .lookedUp) :
      Becomes s g goal (.register g) (goal.register s.routed.length)
  | unregister {result : Option MonitorIO.Result} (hpc : goal.pc = .leave result) :
      Becomes s g goal (.unregister g) { goal with
        pc := .ended result
        outcome := if result.isNone then some .aborted else goal.outcome }
  | moved {k : GoalStep} {goal' : MonitorGoal} (h : goal.Moved s.node s.made.length k goal') :
      Becomes s g goal (.goal g k) goal'

theorem becomes {py : Pydantic} {s s' : Monitor} {l : Label} {g : ℕ} {goal : MonitorGoal}
    (hs : step py s l = some s') (hg : s.goals g = some goal) :
    ∃ goal', s'.goals g = some goal' ∧ Becomes s g goal l goal' := by
  have hother : ∀ {i : ℕ} {c : MonitorGoal}, g ≠ i →
      Function.update s.goals i (some c) g = some goal :=
    fun hi => (Function.update_of_ne hi _ _).trans hg
  cases step_cases hs with
  | transition hm => exact ⟨goal, hg, .keeps goal.pending rfl⟩
  | @accept i request hi hok =>
    have hne : g ≠ i := fun h => by
      rw [h, hi] at hg
      cases hg
    exact ⟨goal, hother hne, .keeps goal.pending rfl⟩
  | @register i c hi hpc =>
    by_cases hne : g = i
    · subst hne
      rw [hg] at hi
      obtain rfl := Option.some.inj hi
      exact ⟨_, Function.update_self _ _ _, .register hpc⟩
    · exact ⟨goal, hother hne, .keeps goal.pending rfl⟩
  | @unregister i c result hi hpc =>
    by_cases hne : g = i
    · subst hne
      rw [hg] at hi
      obtain rfl := Option.some.inj hi
      exact ⟨_, Function.update_self _ _ _, .unregister hpc⟩
    · exact ⟨goal, hother hne, .keeps goal.pending rfl⟩
  | @goal i c c' k hi hm =>
    by_cases hne : g = i
    · subst hne
      rw [hg] at hi
      obtain rfl := Option.some.inj hi
      exact ⟨_, Function.update_self _ _ _, .moved hm⟩
    · exact ⟨goal, hother hne, .keeps goal.pending (decide_eq_false fun h => hne h.symm)⟩
  | change hr hc =>
    refine ⟨goal, ?_, .keeps goal.pending rfl⟩
    rw [goals_change hc, hg]
  | stamp time hr => exact ⟨goal, hg, .keeps goal.pending rfl⟩
  | copyWatchers hr hnodup hset => exact ⟨goal, hg, .keeps goal.pending rfl⟩
  | @put event i entries c hr hi =>
    by_cases hne : g = i
    · subst hne
      rw [hg] at hi
      obtain rfl := Option.some.inj hi
      exact ⟨_, Function.update_self _ _ _, .keeps _ rfl⟩
    · exact ⟨goal, hother hne, .keeps goal.pending rfl⟩
  | done hr => exact ⟨goal, hg, .keeps goal.pending rfl⟩

/-- A goal that was not there has just been accepted. -/
theorem accepted_of_none {py : Pydantic} {s s' : Monitor} {l : Label} {g : ℕ} {goal' : MonitorGoal}
    (hs : step py s l = some s') (hg : s.goals g = none) (hg' : s'.goals g = some goal') :
    ∃ request, goal' = { request } := by
  have hold : s.goals g ≠ some goal' := fun h => by
    rw [hg] at h
    cases h
  cases step_cases hs with
  | transition hm => exact absurd hg' hold
  | accept hi hok =>
    rcases Fanout.update_some hg' with ⟨-, rfl⟩ | ⟨-, h⟩
    · exact ⟨_, rfl⟩
    · exact absurd h hold
  | register hi hpc =>
    rcases Fanout.update_some hg' with ⟨rfl, -⟩ | ⟨-, h⟩
    · rw [hg] at hi
      cases hi
    · exact absurd h hold
  | unregister hi hpc =>
    rcases Fanout.update_some hg' with ⟨rfl, -⟩ | ⟨-, h⟩
    · rw [hg] at hi
      cases hi
    · exact absurd h hold
  | goal hi hm =>
    rcases Fanout.update_some hg' with ⟨rfl, -⟩ | ⟨-, h⟩
    · rw [hg] at hi
      cases hi
    · exact absurd h hold
  | change hr hc =>
    rw [goals_change hc] at hg'
    exact absurd hg' hold
  | stamp time hr => exact absurd hg' hold
  | copyWatchers hr hnodup hset => exact absurd hg' hold
  | put hr hi =>
    rcases Fanout.update_some hg' with ⟨rfl, -⟩ | ⟨-, h⟩
    · rw [hg] at hi
      cases hi
    · exact absurd h hold
  | done hr => exact absurd hg' hold

end Monitor

end IoControllers
