import MovementController.Io.Drivers
import MovementController.Lib.Entities
import MovementController.Lib.Lifecycle
import MovementController.Lib.Runs
import Mathlib.Data.List.Count
import Mathlib.Order.WithBot

/-!
# The laser cross

`CaptronORL2` publishes for each of its two beams whether it is interrupted: from the messages of the
GPIO controller, or from the scans of the simulated beams. Every activation creates two publishers and
the subscriptions, and every deactivation destroys the publishers.
-/

namespace LaserSensors

/-! ### Messages -/

inductive Beam where
  | x
  | y
deriving DecidableEq, Repr

def Beam.topic : Beam → String
  | x => "~/x_axis_triggered"
  | y => "~/y_axis_triggered"

structure IOStates where
  digitalIo : List IoControllers.DigitalIO
deriving DecidableEq, Repr

/-- `⊤` is the distance of a ray that meets nothing. -/
structure LaserScan where
  rangeMin : ℚ
  ranges : List (WithTop ℚ)

structure BeamTriggered where
  stamp : ℕ
  frameId : String
  triggered : Bool
deriving DecidableEq, Repr

/-- What a subscription is for. -/
inductive Input where
  | ioStates
  | beam (b : Beam)
deriving DecidableEq, Repr

inductive Message where
  | ioStates (msg : IOStates)
  | scan (b : Beam) (scan : LaserScan)

namespace Message

def input : Message → Input
  | ioStates _ => .ioStates
  | scan b _ => .beam b

/-- The beams that a message is about. -/
def beams : Message → List Beam
  | ioStates _ => [.x, .y]
  | scan b _ => [b]

end Message

/-- A message on a topic. -/
structure Output where
  topic : String
  msg : BeamTriggered
deriving DecidableEq, Repr

/-! ### The node -/

inductive EntityKind where
  | output (b : Beam)
  | input (i : Input)
deriving DecidableEq, Repr

structure Publisher where
  handle : ℕ
  topic : String
deriving DecidableEq, Repr

structure Parameters where
  simulated : Bool := true
  sensorDiameter : ℚ := 4 / 100
  frameId : String := "captron_orl2_intersection"
  xAxisBeamInput : String := "cross_laser_x_triggered"
  yAxisBeamInput : String := "cross_laser_y_triggered"

/-- `managed` are the lifecycle publishers that the base class enables and disables; a publisher that is
destroyed remains one of them. -/
structure CaptronORL2 extends Parameters where
  output1Pub : Option Publisher := none
  output2Pub : Option Publisher := none
  managed : List ℕ := []
  enabled : List ℕ := []
  entities : Entities EntityKind := {}

namespace CaptronORL2

/-- `create_lifecycle_publisher`; the publisher has the handle `n.entities.next`. -/
def createPublisher (n : CaptronORL2) (b : Beam) : CaptronORL2 :=
  { n with
    managed := n.managed ++ [n.entities.next]
    entities := n.entities.create (.output b) }

def createPublishers (n : CaptronORL2) : CaptronORL2 :=
  let n := { n.createPublisher .x with output1Pub := some ⟨n.entities.next, Beam.x.topic⟩ }
  { n.createPublisher .y with output2Pub := some ⟨n.entities.next, Beam.y.topic⟩ }

/-- Calls of `create_subscription` in order, up to the one that raises. -/
def createSubscriptions (raises : Input → Bool) (n : CaptronORL2) : List Input → CaptronORL2 × Bool
  | [] => (n, false)
  | i :: inputs =>
    if raises i then (n, true)
    else createSubscriptions raises { n with entities := n.entities.create (.input i) } inputs

def setupRealHardware (n : CaptronORL2) (raises : Input → Bool) : CaptronORL2 × Bool :=
  n.createSubscriptions raises [.ioStates]

def setupSimulated (n : CaptronORL2) (raises : Input → Bool) : CaptronORL2 × Bool :=
  n.createSubscriptions raises [.beam .x, .beam .y]

def onConfigure (n : CaptronORL2) (parameters : Parameters) :
    CaptronORL2 × TransitionCallbackReturn :=
  ({ n with toParameters := parameters }, .SUCCESS)

def onActivate (n : CaptronORL2) (raises : Input → Bool) : CaptronORL2 × TransitionCallbackReturn :=
  let n := n.createPublishers
  let (n, raised) := if n.simulated then n.setupSimulated raises else n.setupRealHardware raises
  if raised then (n, .FAILURE) else ({ n with enabled := n.managed }, .SUCCESS)

def destroyPublisher (n : CaptronORL2) (publisher : Option Publisher) : CaptronORL2 :=
  { n with entities := n.entities.release (publisher.map (·.handle)) }

def onDeactivate (n : CaptronORL2) : CaptronORL2 × TransitionCallbackReturn :=
  let n := { n with enabled := [] }
  let n := n.destroyPublisher n.output1Pub
  (n.destroyPublisher n.output2Pub, .SUCCESS)

/-- The one of the base class. -/
def onCleanup (n : CaptronORL2) : CaptronORL2 × TransitionCallbackReturn := (n, .SUCCESS)

/-! ### The callbacks of the subscriptions -/

/-- A publisher that is not enabled drops the message. -/
def publishOutput (n : CaptronORL2) (stamp : ℕ) (publisher : Option Publisher) (interrupted : Bool) :
    List Output :=
  match publisher with
  | none => []
  | some publisher =>
    if publisher.handle ∈ n.enabled then
      [⟨publisher.topic, { stamp, frameId := n.frameId, triggered := interrupted }⟩]
    else []

def parseIoStatesCallback (n : CaptronORL2) (stamp : ℕ) (ioStates : IOStates) : List Output :=
  let xAxisTriggered := ioStates.digitalIo.any fun io => io.ioName = n.xAxisBeamInput && io.state
  let yAxisTriggered := ioStates.digitalIo.any fun io => io.ioName = n.yAxisBeamInput && io.state
  n.publishOutput stamp n.output1Pub xAxisTriggered ++ n.publishOutput stamp n.output2Pub yAxisTriggered

/-- The test of the two beam callbacks. -/
def interrupted (n : CaptronORL2) (scan : LaserScan) : Bool :=
  scan.ranges.any fun distance => scan.rangeMin ≤ distance && distance ≤ n.sensorDiameter

def beamXSimulatedCallback (n : CaptronORL2) (stamp : ℕ) (scan : LaserScan) : List Output :=
  n.publishOutput stamp n.output1Pub (n.interrupted scan)

def beamYSimulatedCallback (n : CaptronORL2) (stamp : ℕ) (scan : LaserScan) : List Output :=
  n.publishOutput stamp n.output2Pub (n.interrupted scan)

def callback (n : CaptronORL2) (stamp : ℕ) : Message → List Output
  | .ioStates msg => n.parseIoStatesCallback stamp msg
  | .scan .x scan => n.beamXSimulatedCallback stamp scan
  | .scan .y scan => n.beamYSimulatedCallback stamp scan

/-- The callback runs once for each subscription that exists. -/
def receive (n : CaptronORL2) (stamp : ℕ) (msg : Message) : List Output :=
  (List.replicate (n.entities.count (.input msg.input)) (n.callback stamp msg)).flatten

end CaptronORL2

inductive Request where
  | configure (parameters : Parameters)
  | activate (raises : Input → Bool)
  | deactivate
  | cleanup

namespace Request

def transition : Request → Lifecycle.Transition
  | configure _ => .configure
  | activate _ => .activate
  | deactivate => .deactivate
  | cleanup => .cleanup

def callback (n : CaptronORL2) : Request → CaptronORL2 × TransitionCallbackReturn
  | configure parameters => n.onConfigure parameters
  | activate raises => n.onActivate raises
  | deactivate => n.onDeactivate
  | cleanup => n.onCleanup

end Request

abbrev Managed := Lifecycle.Managed CaptronORL2

def step : Managed → Request → Option Managed :=
  Lifecycle.Managed.step Request.transition Request.callback

/-! ### Activation -/

namespace CaptronORL2

variable {n : CaptronORL2} {raises : Input → Bool}

/-- The inputs of the mode. -/
def inputs (n : CaptronORL2) : List Input :=
  if n.simulated then [.beam .x, .beam .y] else [.ioStates]

theorem nodup_inputs (n : CaptronORL2) : n.inputs.Nodup := by
  unfold inputs
  split <;> decide

/-- The subscriptions that an activation creates. -/
def created (n : CaptronORL2) (raises : Input → Bool) : List Input := n.inputs.takeWhile (!raises ·)

theorem createSubscriptions_eq (n : CaptronORL2) (inputs : List Input) :
    n.createSubscriptions raises inputs =
      ({ n with entities := n.entities.createAll ((inputs.takeWhile (!raises ·)).map .input) },
        inputs.any raises) := by
  induction inputs generalizing n with
  | nil => rfl
  | cons i inputs ih =>
    rw [createSubscriptions, List.takeWhile_cons, List.any_cons]
    cases hraises : raises i with
    | true => rfl
    | false =>
      rw [if_neg Bool.false_ne_true, ih]
      rfl

/-- `on_activate` up to the exception or the base class. -/
def subscribed (n : CaptronORL2) (raises : Input → Bool) : CaptronORL2 :=
  { n.createPublishers with
    entities := n.createPublishers.entities.createAll ((n.created raises).map .input) }

theorem onActivate_eq (n : CaptronORL2) (raises : Input → Bool) : n.onActivate raises =
    if n.inputs.any raises then (n.subscribed raises, .FAILURE)
    else ({ n.subscribed raises with enabled := n.createPublishers.managed }, .SUCCESS) := by
  unfold onActivate subscribed created inputs setupSimulated setupRealHardware
  have hmode : n.createPublishers.simulated = n.simulated := rfl
  dsimp only
  rw [hmode]
  split
  · rw [createSubscriptions_eq]
  · rw [createSubscriptions_eq]

theorem created_of_any (h : n.inputs.any raises = false) : n.created raises = n.inputs :=
  Entities.takeWhile_of_any h

theorem count_subscribed (n : CaptronORL2) (raises : Input → Bool) (i : Input) :
    (n.subscribed raises).entities.count (.input i) =
      n.entities.count (.input i) + (n.created raises).count i := by
  have hpublishers : n.createPublishers.entities.count (.input i) = n.entities.count (.input i) := by
    show ((n.entities.create _).create _).count _ = _
    rw [Entities.count_create, Entities.count_create]
    simp
  have hinput : Function.Injective EntityKind.input := fun _ _ h => EntityKind.input.inj h
  show (n.createPublishers.entities.createAll _).count _ = _
  rw [Entities.count_createAll, hpublishers, List.count_map_of_injective _ _ hinput]

/-! ### Publishing -/

/-- The publisher is alive, enabled and for the topic of the beam. -/
def Publishes (n : CaptronORL2) (publisher : Option Publisher) (b : Beam) : Prop :=
  ∃ handle, publisher = some ⟨handle, b.topic⟩ ∧ handle ∈ n.enabled ∧
    (handle, .output b) ∈ n.entities.live

theorem Publishes.output {publisher : Option Publisher} {b : Beam} (h : n.Publishes publisher b)
    (stamp : ℕ) (interrupted : Bool) :
    (n.publishOutput stamp publisher interrupted).map (·.topic) = [b.topic] := by
  obtain ⟨handle, rfl, henabled, -⟩ := h
  unfold publishOutput
  dsimp only
  rw [if_pos henabled]
  rfl

/-- Every callback publishes on the topics of its beams, once on each. -/
theorem topics_callback (hx : n.Publishes n.output1Pub .x) (hy : n.Publishes n.output2Pub .y)
    (stamp : ℕ) (msg : Message) :
    (n.callback stamp msg).map (·.topic) = msg.beams.map Beam.topic := by
  cases msg with
  | ioStates msg =>
    show (n.publishOutput _ _ _ ++ n.publishOutput _ _ _).map _ = _
    rw [List.map_append, hx.output, hy.output]
    rfl
  | scan b scan =>
    cases b with
    | x => exact hx.output stamp _
    | y => exact hy.output stamp _

theorem publishOutput_of_disabled (h : n.enabled = []) (stamp : ℕ) (publisher : Option Publisher)
    (interrupted : Bool) : n.publishOutput stamp publisher interrupted = [] := by
  unfold publishOutput
  split
  · rfl
  · rw [h, if_neg List.not_mem_nil]

theorem callback_of_disabled (h : n.enabled = []) (stamp : ℕ) (msg : Message) :
    n.callback stamp msg = [] := by
  cases msg with
  | ioStates msg =>
    show n.publishOutput _ _ _ ++ n.publishOutput _ _ _ = []
    rw [publishOutput_of_disabled h, publishOutput_of_disabled h]
    rfl
  | scan b scan => cases b <;> exact publishOutput_of_disabled h _ _ _

theorem receive_of_disabled (h : n.enabled = []) (stamp : ℕ) (msg : Message) :
    n.receive stamp msg = [] := by
  rw [receive, callback_of_disabled h, List.flatten_replicate_nil]

end CaptronORL2

/-! ### Every run -/

/-- What a transition does. -/
inductive Steps (m : Managed) : Request → Managed → Prop
  | configure {parameters : Parameters} (hstate : m.state = .unconfigured) :
      Steps m (.configure parameters) ⟨.inactive, { m.node with toParameters := parameters }⟩
  | activate {raises : Input → Bool} (hstate : m.state = .inactive)
      (hraises : m.node.inputs.any raises = false) :
      Steps m (.activate raises)
        ⟨.active, { m.node.subscribed raises with enabled := m.node.createPublishers.managed }⟩
  | activateFails {raises : Input → Bool} (hstate : m.state = .inactive)
      (hraises : m.node.inputs.any raises = true) :
      Steps m (.activate raises) ⟨.inactive, m.node.subscribed raises⟩
  | deactivate (hstate : m.state = .active) :
      Steps m .deactivate ⟨.inactive, m.node.onDeactivate.1⟩
  | cleanup (hstate : m.state = .inactive) : Steps m .cleanup ⟨.unconfigured, m.node⟩

variable {m m' : Managed} {r : Request}

theorem step_cases (h : step m r = some m') : Steps m r m' := by
  have hstate := (Lifecycle.Managed.step_cases h).1
  cases r with
  | configure parameters =>
    rw [Lifecycle.Managed.step_of_success h rfl]
    exact .configure hstate
  | activate raises =>
    have hactivate : Request.callback m.node (.activate raises) = _ := m.node.onActivate_eq raises
    cases hraises : m.node.inputs.any raises with
    | true =>
      rw [hraises, if_pos rfl] at hactivate
      rw [Lifecycle.Managed.step_of_failure h (by rw [hactivate]), hactivate]
      exact .activateFails hstate hraises
    | false =>
      rw [hraises, if_neg Bool.false_ne_true] at hactivate
      rw [Lifecycle.Managed.step_of_success h (by rw [hactivate]), hactivate]
      exact .activate hstate hraises
  | deactivate =>
    rw [Lifecycle.Managed.step_of_success h rfl]
    exact .deactivate hstate
  | cleanup =>
    rw [Lifecycle.Managed.step_of_success h rfl]
    exact .cleanup hstate

/-- The publishers of the fields are enabled while the node is active, and none is otherwise. -/
structure Inv (m : Managed) : Prop where
  distinct : m.node.entities.Distinct
  publishesX : m.state = .active → m.node.Publishes m.node.output1Pub .x
  publishesY : m.state = .active → m.node.Publishes m.node.output2Pub .y
  disabled : m.state ≠ .active → m.node.enabled = []

namespace Inv

theorem initial : Inv ⟨.unconfigured, {}⟩ :=
  ⟨.empty, by simp, by simp, fun _ => rfl⟩

theorem of_disabled {state : LifecycleState} {n : CaptronORL2} (hstate : state ≠ .active)
    (hdistinct : n.entities.Distinct) (hdisabled : n.enabled = []) : Inv ⟨state, n⟩ :=
  ⟨hdistinct, fun h => absurd h hstate, fun h => absurd h hstate, fun _ => hdisabled⟩

theorem distinct_subscribed (h : Inv m) (raises : Input → Bool) :
    (m.node.subscribed raises).entities.Distinct :=
  ((h.distinct.create _).create _).createAll _

theorem steps (h : Inv m) (hs : Steps m r m') : Inv m' := by
  cases hs with
  | configure hstate =>
    have hdisabled := h.disabled (by rw [hstate]; decide)
    exact .of_disabled (by decide) h.distinct hdisabled
  | @activate raises hstate hraises =>
    have hsub := Entities.live_subset_createAll (e := m.node.createPublishers.entities)
      ((m.node.created raises).map .input)
    refine ⟨h.distinct_subscribed raises, fun _ => ⟨m.node.entities.next, rfl, ?_, hsub ?_⟩,
      fun _ => ⟨m.node.entities.next + 1, rfl, ?_, hsub ?_⟩, fun hne => absurd rfl hne⟩
    · show _ ∈ m.node.managed ++ [_] ++ [_]
      simp
    · show _ ∈ m.node.entities.live ++ [_] ++ [_]
      simp
    · show _ ∈ m.node.managed ++ [_] ++ [m.node.entities.next + 1]
      simp
    · show _ ∈ m.node.entities.live ++ [_] ++ [(m.node.entities.next + 1, _)]
      simp
  | @activateFails raises hstate hraises =>
    have hdisabled := h.disabled (by rw [hstate]; decide)
    exact .of_disabled (by decide) (h.distinct_subscribed raises) hdisabled
  | deactivate hstate =>
    obtain ⟨x, hx, -, -⟩ := h.publishesX hstate
    obtain ⟨y, hy, -, -⟩ := h.publishesY hstate
    refine .of_disabled (by decide) ?_ rfl
    show ((m.node.entities.release (m.node.output1Pub.map _)).release
      (m.node.output2Pub.map _)).Distinct
    rw [hx, hy]
    exact (h.distinct.destroy x).destroy y
  | cleanup hstate =>
    have hdisabled := h.disabled (by rw [hstate]; decide)
    exact .of_disabled (by decide) h.distinct hdisabled

theorem of_reaches (h : Lts.Reaches step ⟨.unconfigured, {}⟩ m) : Inv m :=
  h.invariant initial fun h _ hs => h.steps (step_cases hs)

/-- A deactivation destroys the publishers and nothing else. -/
theorem count_onDeactivate (h : Inv m) (hstate : m.state = .active) (i : Input) :
    m.node.onDeactivate.1.entities.count (.input i) = m.node.entities.count (.input i) := by
  obtain ⟨x, hx, -, hxlive⟩ := h.publishesX hstate
  obtain ⟨y, hy, -, hylive⟩ := h.publishesY hstate
  have houtput : ∀ {handle : ℕ} {b : Beam}, (handle, .output b) ∈ m.node.entities.live →
      ∀ p ∈ m.node.entities.live, p.1 = handle → p.2 ≠ .input i := by
    intro handle b hlive p hp hhandle
    rw [h.distinct.kind_eq hp hlive hhandle]
    simp
  show ((m.node.entities.release (m.node.output1Pub.map _)).release
    (m.node.output2Pub.map _)).count _ = _
  rw [hx, hy]
  have hsecond : ∀ p ∈ (m.node.entities.destroy x).live, p.1 = y → p.2 ≠ .input i :=
    fun p hp => houtput hylive p (List.mem_of_mem_filter hp)
  exact (Entities.count_destroy hsecond).trans (Entities.count_destroy (houtput hxlive))

/-- Subscriptions are never destroyed. -/
theorem count_le (h : Inv m) (hs : Steps m r m') (i : Input) :
    m.node.entities.count (.input i) ≤ m'.node.entities.count (.input i) := by
  cases hs with
  | configure | cleanup => exact Nat.le_refl _
  | @activate raises hstate hraises | @activateFails raises hstate hraises =>
    exact (Nat.le_add_right _ _).trans (m.node.count_subscribed raises i).ge
  | deactivate hstate => exact (h.count_onDeactivate hstate i).ge

/-- A message is published once for each subscription that gets it. -/
theorem topics_receive (h : Inv m) (hstate : m.state = .active) (stamp : ℕ) (msg : Message) :
    (m.node.receive stamp msg).map (·.topic) =
      (List.replicate (m.node.entities.count (.input msg.input)) (msg.beams.map Beam.topic)).flatten := by
  have htopics := CaptronORL2.topics_callback (h.publishesX hstate) (h.publishesY hstate) stamp msg
  unfold CaptronORL2.receive
  rw [List.map_flatten, List.map_replicate, htopics]

/-- Whatever has gone wrong before, nothing is published unless the node is active. -/
theorem receive_eq_nil (h : Inv m) (hstate : m.state ≠ .active) (stamp : ℕ) (msg : Message) :
    m.node.receive stamp msg = [] :=
  CaptronORL2.receive_of_disabled (h.disabled hstate) stamp msg

end Inv

/-! ### One output per beam -/

/-- One subscription for each input of the mode while the node is active and none otherwise; a message
is published once on the topic of each of its beams while it is active and not at all otherwise. -/
structure OnePerBeam (m : Managed) : Prop where
  subscriptions : ∀ i, m.node.entities.count (.input i) =
    if m.state = .active ∧ i ∈ m.node.inputs then 1 else 0
  published : m.state = .active → ∀ stamp msg, msg.input ∈ m.node.inputs →
    (m.node.receive stamp msg).map (·.topic) = msg.beams.map Beam.topic
  silent : m.state ≠ .active → ∀ stamp msg, m.node.receive stamp msg = []

/-- Not a deactivation, and not an activation that raises after it has created a subscription. -/
def Request.tidy (n : CaptronORL2) : Request → Prop
  | activate raises => n.inputs.any raises = true → n.created raises = []
  | deactivate => False
  | _ => True

namespace OnePerBeam

theorem of_inv (h : Inv m) (hsub : ∀ i, m.node.entities.count (.input i) =
    if m.state = .active ∧ i ∈ m.node.inputs then 1 else 0) : OnePerBeam m := by
  refine ⟨hsub, fun hstate stamp msg hmsg => ?_, h.receive_eq_nil⟩
  have hone : m.node.entities.count (.input msg.input) = 1 := by
    rw [hsub, if_pos ⟨hstate, hmsg⟩]
  rw [h.topics_receive hstate, hone, List.replicate_one, List.flatten_singleton]

theorem count_eq_zero (h : OnePerBeam m) (hstate : m.state ≠ .active) (i : Input) :
    m.node.entities.count (.input i) = 0 := by
  rw [h.subscriptions, if_neg fun hactive => hstate hactive.1]

theorem steps (h : OnePerBeam m) (hinv : Inv m) (hr : r.tidy m.node) (hs : Steps m r m') :
    OnePerBeam m' := by
  refine of_inv (hinv.steps hs) fun i => ?_
  cases hs with
  | configure hstate =>
    have hzero := h.count_eq_zero (by rw [hstate]; decide) i
    rw [if_neg (by simp)]
    exact hzero
  | @activate raises hstate hraises =>
    have hzero := h.count_eq_zero (by rw [hstate]; decide) i
    have hcount := m.node.count_subscribed raises i
    rw [hzero, CaptronORL2.created_of_any hraises, Nat.zero_add, m.node.nodup_inputs.count] at hcount
    have hinputs : ∀ enabled, CaptronORL2.inputs { m.node.subscribed raises with enabled } =
        m.node.inputs := fun _ => rfl
    show (m.node.subscribed raises).entities.count _ = _
    rw [hcount, hinputs]
    simp
  | @activateFails raises hstate hraises =>
    have hzero := h.count_eq_zero (by rw [hstate]; decide) i
    have hcount := m.node.count_subscribed raises i
    rw [hzero, hr hraises] at hcount
    rw [hcount, if_neg (by simp)]
    rfl
  | deactivate hstate => exact hr.elim
  | cleanup hstate =>
    have hzero := h.count_eq_zero (by rw [hstate]; decide) i
    rw [if_neg (by simp)]
    exact hzero

/-- What is left behind is never destroyed. -/
theorem not_steps (h : OnePerBeam m) (hinv : Inv m) (hr : ¬r.tidy m.node) (hs : Steps m r m') :
    ¬OnePerBeam m' := by
  intro h'
  cases hs with
  | configure hstate => exact hr trivial
  | @activate raises hstate hraises =>
    refine hr fun hany => ?_
    rw [hraises] at hany
    cases hany
  | @activateFails raises hstate hraises =>
    refine hr fun _ => List.eq_nil_iff_forall_not_mem.2 fun i hi => ?_
    have hzero := h'.count_eq_zero (by simp) i
    have hcount := m.node.count_subscribed raises i
    have hpos := List.count_pos_iff.2 hi
    change (m.node.subscribed raises).entities.count _ = 0 at hzero
    omega
  | deactivate hstate =>
    obtain ⟨i, hi⟩ : ∃ i, i ∈ m.node.inputs := by
      unfold CaptronORL2.inputs
      split <;> exact ⟨_, List.mem_cons_self⟩
    have hone := h.subscriptions i
    rw [if_pos ⟨hstate, hi⟩] at hone
    have hzero := h'.count_eq_zero (by simp) i
    have hcount := hinv.count_onDeactivate hstate i
    change m.node.onDeactivate.1.entities.count _ = 0 at hzero
    omega
  | cleanup hstate => exact hr trivial

end OnePerBeam

theorem exactly_onePerBeam :
    Lts.Exactly step (fun m r => r.tidy m.node) OnePerBeam ⟨.unconfigured, {}⟩ := by
  refine .of_invariant (I := fun m => Inv m ∧ OnePerBeam m) ⟨.initial, .of_inv .initial fun i => ?_⟩
    (fun h => h.2) (fun h hr hs => ?_) (fun h hr hs => h.2.not_steps h.1 hr (step_cases hs))
  · rw [if_neg (by simp)]
    rfl
  · exact ⟨h.1.steps (step_cases hs), h.2.steps h.1 hr (step_cases hs)⟩

/-- There is one output per beam in every state of a run if and only if nothing is deactivated in it and
no activation leaves a subscription behind. -/
theorem one_output_per_beam (ls : List Request) (m : Managed) :
    Lts.Stays step OnePerBeam ⟨.unconfigured, {}⟩ ls m ↔
      Lts.Trace step (fun m r => r.tidy m.node) ⟨.unconfigured, {}⟩ ls m :=
  exactly_onePerBeam.stays_iff

/-- The subscription outlives the deactivation, and after the next activation every message is published
twice. -/
theorem subscriptions_pile_up : ∃ m m' : Managed, Lts.Reaches step ⟨.unconfigured, {}⟩ m ∧
    m.state = .inactive ∧ m.node.entities.count (.input .ioStates) = 1 ∧ ¬OnePerBeam m ∧
    Lts.Reaches step m m' ∧ m'.state = .active ∧
    ∀ stamp msg, (m'.node.receive stamp (.ioStates msg)).map (·.topic) =
      [Beam.x.topic, Beam.y.topic, Beam.x.topic, Beam.y.topic] := by
  refine ⟨_, _, .of_exec [.configure { simulated := false }, .activate fun _ => false, .deactivate] rfl,
    rfl, rfl, fun h => ?_, .of_exec [.activate fun _ => false] rfl, rfl, fun stamp msg => ?_⟩
  · have hzero := h.count_eq_zero (by decide) .ioStates
    cases hzero
  · have hrun : Lts.Reaches step ⟨.unconfigured, {}⟩ _ :=
      .of_exec [.configure { simulated := false }, .activate fun _ => false, .deactivate,
        .activate fun _ => false] rfl
    rw [(Inv.of_reaches hrun).topics_receive rfl]
    rfl

end LaserSensors
