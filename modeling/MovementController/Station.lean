import MovementController.Io.Messages
import MovementController.LaserCross

/-!
# From the robot's pins to the beams

The GPIO controller runs the UR driver and publishes its cache on every tick, and the laser cross, which
may miss messages, makes beam states of them. Every activation of the laser cross leaves a subscription
behind, each with a queue of its own. Whatever is late or lost on the way, the beam states that go out
are those of the mapped pins, and those of one subscription come in the order in which the robot has had
them.
-/

open IoControllers LaserSensors

/-- A beam state that went out, with the subscription that made it and the number of the state of the
robot that it is of. -/
structure Reading where
  subscription : ℕ
  state : ℕ
  output : Output

/-- The two nodes and what is between them. A message of `~/io_states` has the number of the state of the
robot that the driver showed when it was published. `queues` has the messages that have not reached a
subscription of the laser cross yet; the subscriptions are numbered in the order of their creation. -/
structure Station where
  gpio : IoControllers.Managed
  net : Network
  queues : ℕ → List (ℕ × IoControllers.IOStates) := fun _ => []
  sensor : LaserSensors.Managed := ⟨.unconfigured, {}⟩
  outputs : List Reading := []

namespace Station

def withNode (w : Station) (node : GpioController) : Station := { w with gpio := { w.gpio with node } }

/-- How many subscriptions the laser cross has to `~/io_states`. -/
def subscriptions (w : Station) : ℕ := w.sensor.node.entities.count (.input .ioStates)

inductive Label where
  | net (l : Network.Label)
  /-- The first report reaches the driver. -/
  | receive
  | gpio (t : IoControllers.Transition)
  | setIo (request : SetIO.Request) (fault : ℕ → Option String)
  | publish
  /-- A message of `~/io_states` is lost to the subscription `i`. -/
  | drop (i j : ℕ)
  /-- The first message for the subscription `i` reaches it. -/
  | deliver (i stamp : ℕ)
  | sensor (r : LaserSensors.Request)

/-- The driver has its subscription while it is active. -/
def receive (w : Station) : Option Station :=
  match w.gpio.node.driver with
  | some (.ur d) =>
    if d.active then
      w.net.receive.map fun (msg, net) =>
        { w.withNode { w.gpio.node with driver := some (.ur (d.onIoStates msg)) } with net }
    else none
  | _ => none

def setQueue (w : Station) (i : ℕ) (queue : List (ℕ × IoControllers.IOStates)) : Station :=
  { w with queues := Function.update w.queues i queue }

/-- A message goes to every subscription that exists. -/
def send (w : Station) (msg : IoControllers.IOStates) : Station :=
  { w with queues := fun i =>
      if i < w.subscriptions then w.queues i ++ [(w.net.seen, msg)] else w.queues i }

/-- The callback of a subscription runs on a message. -/
def handle (w : Station) (i k stamp : ℕ) (msg : IoControllers.IOStates) : Station :=
  { w with outputs := w.outputs ++
      (w.sensor.node.callback stamp (.ioStates ⟨msg.digitalIo⟩)).map fun output => ⟨i, k, output⟩ }

def step (py : Pydantic) (pins : Category → List Nat) (w : Station) : Label → Option Station
  | .net l => (w.net.step pins l).map fun net => { w with net }
  | .receive => w.receive
  | .gpio t => (w.gpio.transition py t).map fun (gpio, _) => { w with gpio }
  | .setIo request fault =>
    let (node, _, calls) := w.gpio.node.onSetIo request fault
    some { w.withNode node with net := { w.net with calls := w.net.calls ++ calls.map (·.request) } }
  | .publish =>
    if w.gpio.node.publishTimer.isSome then
      match w.gpio.node.publishSnapshot with
      | some msg => some (w.send msg)
      | none => some w
    else none
  | .drop i j =>
    if j < (w.queues i).length then some (w.setQueue i ((w.queues i).eraseIdx j)) else none
  | .deliver i stamp =>
    match w.queues i with
    | [] => none
    | (k, msg) :: queue => some ((w.setQueue i queue).handle i k stamp msg)
  | .sensor r => (LaserSensors.step w.sensor r).map fun sensor => { w with sensor }

/-- The GPIO controller stays configured, with one subscription to the reports at most, and the laser
cross has these inputs. -/
def Keeps (input : Beam → String) (_ : Station) : Label → Prop
  | .gpio t => t.keepsDriver
  | .sensor (.configure parameters) =>
    parameters.xAxisBeamInput = input .x ∧ parameters.yAxisBeamInput = input .y
  | _ => True

/-! ### What the laser cross makes of a message -/

/-- The output is for a beam, and its state is what the message says of the input of the beam. -/
def BeamOf (input : Beam → String) (isOn : String → Bool) (output : Output) : Prop :=
  ∃ b : Beam, output.topic = b.topic ∧ output.msg.triggered = isOn (input b)

theorem beamOf_callback {m : LaserSensors.Managed} (h : LaserSensors.Inv m) {input : Beam → String}
    (hinput : m.state ≠ .unconfigured →
      m.node.xAxisBeamInput = input .x ∧ m.node.yAxisBeamInput = input .y)
    {stamp : ℕ} {msg : IoControllers.IOStates} {output : Output}
    (ho : output ∈ m.node.callback stamp (.ioStates ⟨msg.digitalIo⟩)) :
    BeamOf input msg.isOn output := by
  by_cases hstate : m.state = .active
  · obtain ⟨hx, hy⟩ := hinput (by rw [hstate]; decide)
    obtain ⟨x, hpubx, henabledx, -⟩ := h.publishesX hstate
    obtain ⟨y, hpuby, henabledy, -⟩ := h.publishesY hstate
    rw [CaptronORL2.callback, CaptronORL2.parseIoStatesCallback, hpubx, hpuby,
      CaptronORL2.publishOutput, CaptronORL2.publishOutput] at ho
    dsimp only at ho
    rw [if_pos henabledx, if_pos henabledy] at ho
    simp only [List.singleton_append, List.mem_cons, List.not_mem_nil, or_false] at ho
    rcases ho with rfl | rfl
    · exact ⟨.x, rfl, by rw [← hx]; rfl⟩
    · exact ⟨.y, rfl, by rw [← hy]; rfl⟩
  · rw [CaptronORL2.callback_of_disabled (h.disabled hstate)] at ho
    cases ho

/-- The inputs stay those of the configuration. -/
theorem inputs_step {m m' : LaserSensors.Managed} {r : LaserSensors.Request} {input : Beam → String}
    (hr : ∀ parameters, r = .configure parameters →
      parameters.xAxisBeamInput = input .x ∧ parameters.yAxisBeamInput = input .y)
    (h : m.state ≠ .unconfigured → m.node.xAxisBeamInput = input .x ∧ m.node.yAxisBeamInput = input .y)
    (hs : LaserSensors.step m r = some m') :
    m'.state ≠ .unconfigured → m'.node.xAxisBeamInput = input .x ∧ m'.node.yAxisBeamInput = input .y := by
  cases LaserSensors.step_cases hs with
  | configure => exact fun _ => hr _ rfl
  | activate hstate => exact fun _ => h (by rw [hstate]; decide)
  | activateFails hstate => exact fun _ => h (by rw [hstate]; decide)
  | deactivate hstate => exact fun _ => h (by rw [hstate]; decide)
  | cleanup => exact fun hstate => absurd rfl hstate

/-! ### The invariant -/

variable {py : Pydantic} {places : Dict String Place} {pins : Category → List Nat}
  {input : Beam → String} {w w' : Station} {l : Label}

/-- The `k`-th state of the robot has `P`. -/
def Tells (w : Station) (k : ℕ) (P : Robot → Prop) : Prop := ∃ r, w.net.states[k]? = some r ∧ P r

theorem Tells.mono {k : ℕ} {P Q : Robot → Prop} (h : w.Tells k P)
    (hstates : w.net.states <+: w'.net.states) (hPQ : ∀ r, P r → Q r) : w'.Tells k Q :=
  let ⟨r, hr, hP⟩ := h
  ⟨r, Network.getElem?_states hstates hr, hPQ r hP⟩

/-- The states that the beam states of a subscription are of. -/
def statesOf (outputs : List Reading) (i : ℕ) : List ℕ :=
  (outputs.filter (·.subscription = i)).map (·.state)

theorem statesOf_append (outputs new : List Reading) (i : ℕ) :
    statesOf (outputs ++ new) i = statesOf outputs i ++ statesOf new i := by
  rw [statesOf, List.filter_append, List.map_append]
  rfl

theorem statesOf_map (i j k : ℕ) (outputs : List Output) :
    statesOf (outputs.map fun output => ⟨j, k, output⟩) i =
      if j = i then List.replicate outputs.length k else [] := by
  by_cases h : j = i
  · rw [if_pos h, statesOf, List.filter_eq_self.2 (by simp [h]), List.map_map]
    exact List.map_const' ..
  · rw [if_neg h, statesOf, List.filter_eq_nil_iff.2 (by simp [h]), List.map_nil]

/-- The driver of the node, with its tables and its cache. -/
structure Drives (places : Dict String Place) (w : Station) (d : URIODriver) : Prop where
  driver : w.gpio.node.driver = some (.ur d)
  wired : Wired places d
  keys : Dict.keys d.cache = Dict.keys places
  shown : w.net.ShownBy places d

structure Inv (places : Dict String Place) (pins : Category → List Nat) (input : Beam → String)
    (w : Station) : Prop where
  driver : ∃ d, w.Drives places d
  net : w.net.Sound places pins
  sensor : LaserSensors.Inv w.sensor
  inputs : w.sensor.state ≠ .unconfigured →
    w.sensor.node.xAxisBeamInput = input .x ∧ w.sensor.node.yAxisBeamInput = input .y
  queues : ∀ i, ∀ p ∈ w.queues i, w.Tells p.1 fun r => ∀ ioName, p.2.isOn ioName = r.isOn places ioName
  outputs : ∀ p ∈ w.outputs, w.Tells p.state fun r => BeamOf input (r.isOn places) p.output
  waiting : ∀ i, w.queues i ≠ [] → i < w.subscriptions
  known : ∀ p ∈ w.outputs, p.subscription < w.subscriptions
  ordered : ∀ i,
    (statesOf w.outputs i ++ ((w.queues i).map Prod.fst ++ [w.net.seen])).Pairwise (· ≤ ·)

/-- What was first in a queue goes out. -/
theorem pairwise_replicate {n k : ℕ} {before after : List ℕ}
    (h : (before ++ k :: after).Pairwise (· ≤ ·)) :
    ((before ++ List.replicate n k) ++ after).Pairwise (· ≤ ·) := by
  rw [List.pairwise_append, List.pairwise_cons] at h
  rw [List.append_assoc, List.pairwise_append, List.pairwise_append]
  refine ⟨h.1, ⟨List.pairwise_replicate.2 (.inr (Nat.le_refl k)), h.2.1.2, fun a ha b hb => ?_⟩,
    fun a ha b hb => ?_⟩
  · rw [(List.mem_replicate.1 ha).2]
    exact h.2.1.1 b hb
  · rcases List.mem_append.1 hb with hb | hb
    · rw [(List.mem_replicate.1 hb).2]
      exact h.2.2 a ha k List.mem_cons_self
    · exact h.2.2 a ha b (List.mem_cons_of_mem _ hb)

namespace Inv

/-- Nothing new is in the queues or goes out. -/
theorem frame (h : w.Inv places pins input) (hdriver : ∃ d, w'.Drives places d)
    (hnet : w'.net.Sound places pins) (hstates : w.net.states <+: w'.net.states)
    (hseen : w.net.seen ≤ w'.net.seen) (hsensor : w'.sensor = w.sensor)
    (hqueues : ∀ i, (w'.queues i).Sublist (w.queues i)) (houtputs : w'.outputs = w.outputs) :
    w'.Inv places pins input := by
  have hsubscriptions : w'.subscriptions = w.subscriptions := by rw [subscriptions, hsensor]; rfl
  refine ⟨hdriver, hnet, hsensor ▸ h.sensor, hsensor ▸ h.inputs,
    fun i p hp => (h.queues i p ((hqueues i).subset hp)).mono hstates fun _ => id,
    fun p hp => (h.outputs p (houtputs ▸ hp)).mono hstates fun _ => id, fun i hi => ?_, ?_, fun i => ?_⟩
  · rw [hsubscriptions]
    refine h.waiting i fun hnil => hi ?_
    exact List.eq_nil_of_subset_nil (hnil ▸ (hqueues i).subset)
  · rw [hsubscriptions, houtputs]
    exact h.known
  · have hord := h.ordered i
    rw [← List.append_assoc, List.pairwise_append] at hord ⊢
    have hsub : (statesOf w'.outputs i ++ (w'.queues i).map Prod.fst).Sublist
        (statesOf w.outputs i ++ (w.queues i).map Prod.fst) := by
      rw [houtputs]
      exact (List.Sublist.refl _).append ((hqueues i).map Prod.fst)
    refine ⟨hord.1.sublist hsub, List.pairwise_singleton _ _, fun a ha b hb => ?_⟩
    rw [List.mem_singleton.1 hb]
    exact (hord.2.2 a (hsub.subset ha) _ (List.mem_singleton_self _)).trans hseen

theorem receive (hpins : ∀ n c p, Dict.get places n = some (.pin c p) → p ∈ pins c)
    (h : w.Inv places pins input) (hs : w.receive = some w') : w'.Inv places pins input := by
  obtain ⟨d, hd⟩ := h.driver
  unfold Station.receive at hs
  rw [hd.driver] at hs
  dsimp only at hs
  split_ifs at hs
  obtain ⟨⟨msg, net⟩, hnet, rfl⟩ := Option.map_eq_some_iff.1 hs
  obtain ⟨hsound, hle, hstates, -⟩ := h.net.receive hnet
  have hdrives : Drives places { w.withNode
      { w.gpio.node with driver := some (.ur (d.onIoStates msg)) } with net } (d.onIoStates msg) :=
    ⟨rfl, hd.wired.onIoStates msg, (Remote.keys_onIoStates d msg).trans hd.keys,
      .receive h.net hd.wired hpins hnet⟩
  exact h.frame ⟨_, hdrives⟩ hsound (hstates ▸ List.prefix_refl _) hle rfl
    (fun _ => List.Sublist.refl _) rfl

theorem gpio (h : w.Inv places pins input) {t : IoControllers.Transition} {gpio : IoControllers.Managed}
    {ret : TransitionCallbackReturn} (ht : t.keepsDriver)
    (hs : w.gpio.transition py t = some (gpio, ret)) : Inv places pins input { w with gpio } := by
  obtain ⟨d, hd⟩ := h.driver
  obtain ⟨active, hdriver⟩ := IoControllers.Managed.driver_transition hd.driver ht hs
  have hwired : Wired places { d with active } :=
    ⟨hd.wired.nodup, hd.wired.keyed, hd.wired.fits, hd.wired.write, hd.wired.read⟩
  exact h.frame ⟨_, hdriver, hwired, hd.keys, hd.shown⟩ h.net (List.prefix_refl _) (Nat.le_refl _) rfl
    (fun _ => List.Sublist.refl _) rfl

theorem setIo (h : w.Inv places pins input) (request : SetIO.Request) (fault : ℕ → Option String)
    (calls : List IoControllers.Request) : Inv places pins input
      { w.withNode (w.gpio.node.onSetIo request fault).1 with net := { w.net with calls } } := by
  obtain ⟨d, hd⟩ := h.driver
  obtain ⟨d', hnode, hsame⟩ := w.gpio.node.samePins_onSetIo hd.driver hd.wired request fault
  obtain ⟨r, hr, hagrees⟩ := hd.shown
  rw [hnode]
  exact h.frame ⟨d', rfl, hsame.wired, hsame.keys.trans hd.keys, r, hr, hsame.agrees hagrees⟩
    ⟨h.net.typed, h.net.reports, h.net.ordered⟩ (List.prefix_refl _) (Nat.le_refl _) rfl
    (fun _ => List.Sublist.refl _) rfl

theorem send (h : w.Inv places pins input) {msg : IoControllers.IOStates}
    (hmsg : w.gpio.node.publishSnapshot = some msg) : (w.send msg).Inv places pins input := by
  obtain ⟨d, hd⟩ := h.driver
  obtain ⟨driver, hdriver, rfl⟩ := GpioController.publishSnapshot_some hmsg
  obtain rfl := Option.some.inj (hd.driver.symm.trans hdriver)
  obtain ⟨r, hr, hagrees⟩ := hd.shown
  have hqueue (i : ℕ) : (w.send (IODriver.ur d).snapshot.toMsg).queues i = w.queues i ∨
      i < w.subscriptions ∧ (w.send (IODriver.ur d).snapshot.toMsg).queues i =
        w.queues i ++ [(w.net.seen, (IODriver.ur d).snapshot.toMsg)] := by
    unfold Station.send
    dsimp only
    split
    · next hi => exact .inr ⟨hi, rfl⟩
    · exact .inl rfl
  refine ⟨⟨d, hd.driver, hd.wired, hd.keys, hd.shown⟩, h.net, h.sensor, h.inputs, fun i p hp => ?_,
    h.outputs, fun i hi => ?_, h.known, fun i => ?_⟩
  · rcases hqueue i with hsame | ⟨-, hnew⟩
    · exact h.queues i p (hsame ▸ hp)
    · rw [hnew] at hp
      rcases List.mem_append.1 hp with hp | hp
      · exact h.queues i p hp
      · obtain rfl := List.mem_singleton.1 hp
        exact ⟨r, hr, hagrees.isOn_toMsg hd.wired hd.keys⟩
  · rcases hqueue i with hsame | ⟨hlt, -⟩
    · exact h.waiting i (hsame ▸ hi)
    · exact hlt
  · have hord := h.ordered i
    rcases hqueue i with hsame | ⟨-, hnew⟩
    · rw [hsame]
      exact hord
    · rw [← List.append_assoc] at hord
      rw [hnew, List.map_append, List.map_singleton, List.append_assoc, ← List.append_assoc]
      rw [List.pairwise_append] at hord ⊢
      refine ⟨hord.1, ?_, fun a ha b hb => ?_⟩
      · exact List.pairwise_pair.2 (Nat.le_refl _)
      · have hle := hord.2.2 a ha _ (List.mem_singleton_self _)
        simp only [List.singleton_append, List.mem_cons, List.not_mem_nil, or_false] at hb
        rcases hb with rfl | rfl <;> exact hle

theorem deliver (h : w.Inv places pins input) {i k : ℕ} {msg : IoControllers.IOStates}
    {queue : List (ℕ × IoControllers.IOStates)} (hqueue : w.queues i = (k, msg) :: queue)
    (stamp : ℕ) : ((w.setQueue i queue).handle i k stamp msg).Inv places pins input := by
  have hmsg := h.queues i (k, msg) (by rw [hqueue]; exact List.mem_cons_self)
  have hi : i < w.subscriptions := h.waiting i (by rw [hqueue]; exact List.cons_ne_nil _ _)
  have hqueues (j : ℕ) : (j = i ∧ Function.update w.queues i queue j = queue) ∨
      j ≠ i ∧ Function.update w.queues i queue j = w.queues j := by
    by_cases hj : j = i
    · exact .inl ⟨hj, by rw [hj, Function.update_self]⟩
    · exact .inr ⟨hj, Function.update_of_ne hj _ _⟩
  obtain ⟨d, hd⟩ := h.driver
  refine ⟨⟨d, hd.driver, hd.wired, hd.keys, hd.shown⟩, h.net, h.sensor, h.inputs, fun j p hp => ?_,
    fun p hp => ?_, fun j hj => ?_, fun p hp => ?_, fun j => ?_⟩
  · change p ∈ Function.update w.queues i queue j at hp
    rcases hqueues j with ⟨rfl, heq⟩ | ⟨-, heq⟩
    · refine h.queues j p ?_
      rw [hqueue]
      exact List.mem_cons_of_mem _ (heq ▸ hp)
    · exact h.queues j p (heq ▸ hp)
  · rcases List.mem_append.1 hp with hp | hp
    · exact h.outputs p hp
    · obtain ⟨output, houtput, rfl⟩ := List.mem_map.1 hp
      obtain ⟨r, hr, hison⟩ := hmsg
      obtain ⟨b, hb, htriggered⟩ := beamOf_callback h.sensor h.inputs houtput
      exact ⟨r, hr, b, hb, htriggered.trans (hison _)⟩
  · change Function.update w.queues i queue j ≠ [] at hj
    rcases hqueues j with ⟨rfl, -⟩ | ⟨-, heq⟩
    · exact hi
    · exact h.waiting j (heq ▸ hj)
  · rcases List.mem_append.1 hp with hp | hp
    · exact h.known p hp
    · obtain ⟨output, -, rfl⟩ := List.mem_map.1 hp
      exact hi
  · have hord := h.ordered j
    show (statesOf (w.outputs ++ _) j ++
      ((Function.update w.queues i queue j).map Prod.fst ++ [w.net.seen])).Pairwise (· ≤ ·)
    rw [statesOf_append, statesOf_map]
    rcases hqueues j with ⟨rfl, heq⟩ | ⟨hne, heq⟩
    · rw [heq, if_pos rfl]
      rw [hqueue, List.map_cons, List.cons_append] at hord
      exact pairwise_replicate hord
    · rw [heq, if_neg (Ne.symm hne), List.append_nil]
      exact hord

theorem sensorStep (h : w.Inv places pins input) {r : LaserSensors.Request} {sensor : LaserSensors.Managed}
    (hr : ∀ parameters, r = .configure parameters →
      parameters.xAxisBeamInput = input .x ∧ parameters.yAxisBeamInput = input .y)
    (hs : LaserSensors.step w.sensor r = some sensor) : Inv places pins input { w with sensor } := by
  obtain ⟨d, hd⟩ := h.driver
  have hsteps := LaserSensors.step_cases hs
  have hle : w.subscriptions ≤ subscriptions { w with sensor } := h.sensor.count_le hsteps .ioStates
  exact ⟨⟨d, hd.driver, hd.wired, hd.keys, hd.shown⟩, h.net, h.sensor.steps hsteps,
    inputs_step hr h.inputs hs, h.queues, h.outputs, fun i hi => (h.waiting i hi).trans_le hle,
    fun p hp => (h.known p hp).trans_le hle, h.ordered⟩

theorem step (hpins : ∀ n c p, Dict.get places n = some (.pin c p) → p ∈ pins c)
    (h : w.Inv places pins input) (hl : Keeps input w l) (hs : w.step py pins l = some w') :
    w'.Inv places pins input := by
  obtain ⟨d, hd⟩ := h.driver
  cases l with
  | net l =>
    obtain ⟨net, hnet, rfl⟩ := Option.map_eq_some_iff.1 hs
    exact h.frame ⟨d, hd.driver, hd.wired, hd.keys, hd.shown.step hnet⟩ (h.net.step hnet)
      (Network.states_step hnet) (Network.seen_step hnet).ge rfl (fun _ => List.Sublist.refl _) rfl
  | receive => exact h.receive hpins hs
  | gpio t =>
    obtain ⟨⟨gpio, ret⟩, hgpio, rfl⟩ := Option.map_eq_some_iff.1 hs
    exact h.gpio hl hgpio
  | setIo request fault =>
    rw [← Option.some.inj hs]
    exact h.setIo request fault _
  | publish =>
    simp only [Station.step, Option.ite_none_right_eq_some] at hs
    obtain ⟨-, hs⟩ := hs
    cases hmsg : w.gpio.node.publishSnapshot with
    | none =>
      rw [hmsg] at hs
      rw [← Option.some.inj hs]
      exact h
    | some msg =>
      rw [hmsg] at hs
      rw [← Option.some.inj hs]
      exact h.send hmsg
  | drop i j =>
    simp only [Station.step, Option.ite_none_right_eq_some, Option.some.injEq] at hs
    rw [← hs.2]
    refine h.frame ⟨d, hd.driver, hd.wired, hd.keys, hd.shown⟩ h.net (List.prefix_refl _)
      (Nat.le_refl _) rfl (fun k => ?_) rfl
    change (Function.update w.queues i ((w.queues i).eraseIdx j) k).Sublist (w.queues k)
    by_cases hk : k = i
    · subst hk
      rw [Function.update_self]
      exact List.eraseIdx_sublist _ _
    · rw [Function.update_of_ne hk]
  | deliver i stamp =>
    rw [Station.step] at hs
    split at hs
    · cases hs
    · next k msg queue hqueue =>
      rw [← Option.some.inj hs]
      exact h.deliver hqueue stamp
  | sensor r =>
    obtain ⟨sensor, hsensor, rfl⟩ := Option.map_eq_some_iff.1 hs
    refine h.sensorStep ?_ hsensor
    rintro parameters rfl
    exact hl

/-- With one subscription all beam states are in order. -/
theorem ordered_of_one (h : w.Inv places pins input) (hone : w.subscriptions ≤ 1) :
    (w.outputs.map (·.state)).Pairwise (· ≤ ·) := by
  have hall : w.outputs.filter (·.subscription = 0) = w.outputs := by
    refine List.filter_eq_self.2 fun p hp => ?_
    have hlt := h.known p hp
    simp only [decide_eq_true_eq]
    omega
  have hord := (List.pairwise_append.1 (h.ordered 0)).1
  rwa [statesOf, hall] at hord

end Inv

/-- The node is configured for the hardware. The driver shows the configured defaults until the first
report arrives, so they count as the first state of the robot. Every beam state that goes out is that
of the input of its beam in a state that the robot has had, and none is older than one that the same
subscription made before it: than any before it, if the laser cross has one subscription. -/
theorem beams_follow_pins (hstr : ∀ s, py.parseStr (.str s) = some s)
    {cfg : GpioController.ConfigureInput} (hreal : cfg.simulated = false) {gpio : IoControllers.Managed}
    (hconf : ({} : IoControllers.Managed).transition py (.configure cfg) = some (gpio, .SUCCESS)) :
    ∃ d : URIODriver, gpio.node.driver = some (.ur d) ∧ ∀ (pins : Category → List Nat),
      (∀ category, ∀ e ∈ d.device.mapping.pins category, e.2 ∈ pins category) →
      ∀ defaults robot : Robot, defaults.AtDefaults d.device.mapping (Dict.values d.cache) →
      robot.Typed d.device.mapping.places → ∀ (input : Beam → String) (w : Station),
      Lts.Runs (step py pins) (Keeps input) { gpio, net := { robot, past := [defaults] } } w →
      (∀ p ∈ w.outputs, w.Tells p.state fun r =>
        BeamOf input (r.isOn d.device.mapping.places) p.output) ∧
      (∀ i, (statesOf w.outputs i).Pairwise (· ≤ ·)) ∧
      (w.subscriptions ≤ 1 → (w.outputs.map (·.state)).Pairwise (· ≤ ·)) := by
  obtain ⟨device, init, hinit, hdriver⟩ := IoControllers.Managed.driver_configure hreal hconf
  refine ⟨_, hdriver, fun pins hpins defaults robot hdefaults hrobot input w h => ?_⟩
  have hmock : init.toDriver = (⟨init.toDriver⟩ : MockIODriver).toDriver := rfl
  have hrelated := Related.initial hstr hinit hdefaults hmock true
  have hplaces := URMappingDTO.mem_of_places hpins
  have hsound : Network.Sound init.device.mapping.places pins { robot, past := [defaults] } :=
    .initial (by simpa using hrelated.typed) hrobot
  have hkeys : Dict.keys init.cache = Dict.keys init.device.mapping.places := keys_configure hstr hinit
  have hdrives : Drives init.device.mapping.places { gpio, net := { robot, past := [defaults] } }
      { init with callback := true } :=
    ⟨hdriver, (wired_configure hstr hinit).setChangeCallback true, hkeys, defaults, rfl, hrelated.robot⟩
  have hinv := h.invariant (I := fun w => w.Inv init.device.mapping.places pins input)
    { driver := ⟨_, hdrives⟩
      net := hsound
      sensor := .initial
      inputs := fun hstate => absurd rfl hstate
      queues := by simp
      outputs := by simp
      waiting := fun _ hne => absurd rfl hne
      known := by simp
      ordered := by simp [statesOf] }
    fun hw hl hs => hw.step hplaces hl hs
  exact ⟨hinv.outputs, fun i => (List.pairwise_append.1 (hinv.ordered i)).1, hinv.ordered_of_one⟩

/-- Something enters the x axis beam; the y axis beam is not mapped. The laser cross is activated a
second time, and its two subscriptions do not keep step. -/
def enterBeam : List Label := [
  .gpio (.activate false),
  .sensor (.configure { simulated := false, xAxisBeamInput := "part_present", yAxisBeamInput := "none" }),
  .sensor (.activate fun _ => false), .sensor .deactivate, .sensor (.activate fun _ => false),
  .publish, .deliver 0 1,
  .net (.outside .digitalInStates 0 (.bool true)), .net .report, .receive, .publish,
  .deliver 0 2, .deliver 1 3, .deliver 1 4]

instance (t : IoControllers.Transition) : Decidable t.keepsDriver :=
  match t with
  | .activate fault => inferInstanceAs (Decidable (fault = false))
  | .deactivate _ => isTrue trivial
  | .configure _ | .cleanup | .shutdown => isFalse id

instance (input : Beam → String) (w : Station) (l : Label) : Decidable (Keeps input w l) :=
  match l with
  | .gpio t => inferInstanceAs (Decidable t.keepsDriver)
  | .sensor (.configure _) => instDecidableAnd
  | .net _ | .receive | .setIo _ _ | .publish | .drop _ _ | .deliver _ _ | .sensor (.activate _)
  | .sensor .deactivate | .sensor .cleanup => isTrue trivial

def enterInput : Beam → String
  | .x => "part_present"
  | .y => "none"

theorem beams_follow_pins_enterBeam : ∃ (gpio : IoControllers.Managed) (d : URIODriver) (w : Station),
    gpio.node.driver = some (.ur d) ∧ w.subscriptions = 2 ∧
    w.outputs.map (fun p => (p.subscription, p.state, p.output.msg.triggered)) =
      [(0, 0, false), (0, 0, false), (0, 2, true), (0, 2, false),
        (1, 0, false), (1, 0, false), (1, 2, true), (1, 2, false)] ∧
    (∀ p ∈ w.outputs, w.Tells p.state fun r =>
      BeamOf enterInput (r.isOn d.device.mapping.places) p.output) ∧
    ∀ i, (statesOf w.outputs i).Pairwise (· ≤ ·) := by
  let robot : Robot :=
    { value := fun category _ => if category.isDigital then .bool false else .float 0 }
  have hconf : ({} : IoControllers.Managed).transition .strict
    (.configure ⟨some sampleConfig, false, 0, false⟩) = some (_, .SUCCESS) := rfl
  obtain ⟨d, hd, hruns⟩ := @beams_follow_pins .strict (fun _ => rfl) _ rfl _ hconf
  have hdriver := hd
  cases hd
  have hbeams := hruns (fun _ => [0, 1]) (by intro category; cases category <;> decide) robot robot
    (by intro category; cases category <;> decide) (by intro _ category _ _; cases category <;> rfl)
    enterInput
  have hrun := hbeams _ (.of_exec enterBeam rfl)
  refine ⟨_, _, _, hdriver, rfl, ?_, hrun.1, hrun.2.1⟩
  decide

end Station
