import MovementController.Io.Node
import MovementController.Lib.Runs

/-!
# The hardware links of the UR driver

`activate` creates the `io_states` subscription and the two write clients before it waits for their
services, and `deactivate` destroys what the fields hold. The node calls `deactivate` only after an
`activate` that did not raise.
-/

namespace IoControllers

inductive LinkKind where
  | ioStates
  | setIo
  | setAnalogOutput
deriving DecidableEq, Repr

/-- The driver with the fields for its subscription and its clients, and the entities that exist. -/
structure URLinks where
  driver : URIODriver
  ioStatesSub : Option ℕ := none
  setIoClient : Option ℕ := none
  setAnalogClient : Option ℕ := none
  entities : Entities LinkKind := {}

/-- `s.rstrip('/')`. -/
def rstripSlash (s : String) : String := String.ofList (s.toList.reverse.dropWhile (· = '/')).reverse

namespace URLinks

def handle (s : URLinks) : LinkKind → Option ℕ
  | .ioStates => s.ioStatesSub
  | .setIo => s.setIoClient
  | .setAnalogOutput => s.setAnalogClient

/-- The names under the controller's namespace. -/
def serviceName (s : URLinks) (kind : LinkKind) : String :=
  rstripSlash s.driver.device.controllerNamespace ++
    match kind with
    | .ioStates => "/io_states"
    | .setIo => "/set_io"
    | .setAnalogOutput => "/set_analog_output"

/-- What `activate` creates. -/
def connect (s : URLinks) : URLinks :=
  let s := { s with ioStatesSub := some s.entities.next, entities := s.entities.create .ioStates }
  let s := { s with setIoClient := some s.entities.next, entities := s.entities.create .setIo }
  { s with
    setAnalogClient := some s.entities.next
    entities := s.entities.create .setAnalogOutput
    driver := { s.driver with active := true } }

/-- `available`: the service of a client is there within the timeout. -/
def activate (s : URLinks) (available : LinkKind → Bool) : URLinks × Option DriverError :=
  let s := s.connect
  match [LinkKind.setIo, .setAnalogOutput].find? (!available ·) with
  | some kind => (s, some (.runtimeError s!"UR service not available: {s.serviceName kind}"))
  | none => (s, none)

def deactivate (s : URLinks) : URLinks :=
  let s := { s with ioStatesSub := none, entities := s.entities.release s.ioStatesSub }
  let s := { s with setIoClient := none, entities := s.entities.release s.setIoClient }
  { s with
    setAnalogClient := none
    entities := s.entities.release s.setAnalogClient
    driver := { s.driver with active := false } }

/-- Every subscription that exists gets the message. -/
def onIoStates (s : URLinks) (msg : URIOStates) : URLinks :=
  { s with driver := (·.onIoStates msg)^[s.entities.count .ioStates] s.driver }

/-! ### The fields -/

variable {s : URLinks}

/-- The driver of the node, where the links are no more than whether they exist. -/
theorem driver_activate (s : URLinks) (available : LinkKind → Bool) :
    IODriver.ur (s.activate available).1.driver = (IODriver.ur s.driver).activate := by
  unfold activate
  dsimp only
  split <;> rfl

theorem driver_deactivate (s : URLinks) :
    IODriver.ur s.deactivate.driver = (IODriver.ur s.driver).deactivate := rfl

theorem activate_fst (s : URLinks) (available : LinkKind → Bool) :
    (s.activate available).1 = s.connect := by
  unfold activate
  dsimp only
  split <;> rfl

theorem activate_ok (s : URLinks) (available : LinkKind → Bool) :
    (s.activate available).2 = none ↔
      available .setIo = true ∧ available .setAnalogOutput = true := by
  unfold activate
  dsimp only
  cases hio : available .setIo <;> cases hanalog : available .setAnalogOutput <;>
    simp [List.find?, hio, hanalog]

theorem owned_connect (h : s.entities.Owned s.handle) (hnone : ∀ kind, s.handle kind = none) :
    s.connect.entities.Owned s.connect.handle := by
  have hsub := h.create (hnone .ioStates)
  have hclient : ((s.entities.create .ioStates).create .setIo).Owned _ := hsub.create (hnone .setIo)
  have hanalog : (((s.entities.create .ioStates).create .setIo).create .setAnalogOutput).Owned _ :=
    hclient.create (hnone .setAnalogOutput)
  refine hanalog.congr fun kind => ?_
  cases kind <;> rfl

theorem owned_deactivate (h : s.entities.Owned s.handle) :
    s.deactivate.entities.Owned s.deactivate.handle := by
  have hanalog := ((h.release .ioStates).release .setIo).release .setAnalogOutput
  refine hanalog.congr fun kind => ?_
  cases kind <;> rfl

end URLinks

/-! ### The calls of the node -/

/-- `active` says that an `activate` has not raised and no `deactivate` has followed. `received` has for
each message whether the node was active and how often the message was applied. -/
structure LinkedNode where
  links : URLinks
  active : Bool := false
  received : List (Bool × ℕ) := []

namespace LinkedNode

inductive Label where
  | activate (available : LinkKind → Bool)
  | deactivate
  | message (msg : URIOStates)

def step (n : LinkedNode) : Label → Option LinkedNode
  | .activate available =>
    if n.active then none
    else
      let (links, error) := n.links.activate available
      some { n with links, active := error.isNone }
  | .deactivate =>
    if n.active then some { n with links := n.links.deactivate, active := false } else none
  | .message msg =>
    some { n with
      links := n.links.onIoStates msg
      received := n.received ++ [(n.active, n.links.entities.count .ioStates)] }

/-- Both services are found. -/
def Label.found : Label → Prop
  | activate available => available .setIo = true ∧ available .setAnalogOutput = true
  | _ => True

/-- One subscription and two clients while the node is active and none otherwise; a message is applied
once while it is active and not at all otherwise. -/
structure NoLeak (n : LinkedNode) : Prop where
  links : ∀ kind, n.links.entities.count kind = if n.active then 1 else 0
  received : ∀ r ∈ n.received, r.2 = if r.1 then 1 else 0

structure Inv (n : LinkedNode) : Prop where
  owned : n.links.entities.Owned n.links.handle
  handle : ∀ kind, (n.links.handle kind).isSome = n.active
  received : ∀ r ∈ n.received, r.2 = if r.1 then 1 else 0

namespace Inv

variable {n n' : LinkedNode} {l : Label}

theorem count (h : Inv n) (kind : LinkKind) :
    n.links.entities.count kind = if n.active then 1 else 0 := by
  rw [h.owned.count_eq, h.handle]

theorem noLeak (h : Inv n) : NoLeak n := ⟨h.count, h.received⟩

theorem step (h : Inv n) (hl : l.found) (hs : n.step l = some n') : Inv n' := by
  cases l with
  | activate available =>
    rw [LinkedNode.step] at hs
    split at hs
    · cases hs
    · next hactive =>
      obtain rfl := Option.some.inj hs
      have hnone : ∀ kind, n.links.handle kind = none := by
        intro kind
        rw [← Option.not_isSome_iff_eq_none, h.handle]
        exact hactive
      have hok := (n.links.activate_ok available).2 hl
      refine ⟨?_, fun kind => ?_, h.received⟩
      · show (n.links.activate available).1.entities.Owned (n.links.activate available).1.handle
        rw [URLinks.activate_fst]
        exact URLinks.owned_connect h.owned hnone
      · show ((n.links.activate available).1.handle kind).isSome = (n.links.activate available).2.isNone
        rw [URLinks.activate_fst, hok]
        cases kind <;> rfl
  | deactivate =>
    rw [LinkedNode.step] at hs
    split at hs
    · obtain rfl := Option.some.inj hs
      exact ⟨URLinks.owned_deactivate h.owned, fun kind => by cases kind <;> rfl, h.received⟩
    · cases hs
  | message msg =>
    obtain rfl := Option.some.inj hs
    refine ⟨h.owned, h.handle, fun r hr => ?_⟩
    rcases List.mem_append.1 hr with hr | hr
    · exact h.received r hr
    · rw [List.mem_singleton.1 hr]
      exact h.count .ioStates

end Inv

theorem exactly_noLeak (driver : URIODriver) :
    Lts.Exactly step (fun _ l => l.found) NoLeak { links := { driver } } := by
  refine .of_invariant (I := Inv) ?_ (fun h => h.noLeak) (fun h hl hs => h.step hl hs) ?_
  · refine ⟨Entities.Owned.empty.congr fun kind => by cases kind <;> rfl, fun kind => ?_, ?_⟩
    · cases kind <;> rfl
    · intro r hr
      cases hr
  · intro n n' l h hl hs hleak
    cases l with
    | activate available =>
      rw [step] at hs
      split at hs
      · cases hs
      · next hactive =>
        obtain rfl := Option.some.inj hs
        have hnone : ∀ kind, n.links.handle kind = none := by
          intro kind
          rw [← Option.not_isSome_iff_eq_none, h.handle]
          exact hactive
        have hraised : (n.links.activate available).2.isNone = false := by
          rw [Option.isNone_eq_false_iff, Option.isSome_iff_ne_none]
          exact fun hok => hl ((n.links.activate_ok available).1 hok)
        have hcount := hleak.links .ioStates
        change (n.links.activate available).1.entities.count .ioStates =
          if (n.links.activate available).2.isNone then 1 else 0 at hcount
        rw [hraised, URLinks.activate_fst, (URLinks.owned_connect h.owned hnone).count_eq] at hcount
        cases hcount
    | deactivate => exact hl trivial
    | message msg => exact hl trivial

/-- No link leaks in a run if and only if every attempt of it finds its services; one that does not leaves
all three links behind. -/
theorem links_owned (driver : URIODriver) (ls : List Label) (n : LinkedNode) :
    Lts.Stays step NoLeak { links := { driver } } ls n ↔
      Lts.Trace step (fun _ l => l.found) { links := { driver } } ls n :=
  (exactly_noLeak driver).stays_iff

/-- The services come late: the subscription of the first attempt is never destroyed, and every message
is applied twice. -/
theorem links_leaked : ∃ driver, URIODriver.configure .strict sampleDevice = .ok driver ∧
    ∃ n n' : LinkedNode, Lts.Reaches step { links := { driver } } n ∧ n.active = false ∧
      n.links.entities.count .ioStates = 1 ∧ ¬NoLeak n ∧
      Lts.Reaches step n n' ∧ n'.received = [(true, 2)] := by
  refine ⟨_, rfl, _, _, .of_exec [.activate fun _ => false] rfl, rfl, rfl, fun hleak => ?_,
    .of_exec [.activate fun _ => true, .message fun _ => []] rfl, rfl⟩
  have hcount := hleak.links .ioStates
  cases hcount

end LinkedNode

end IoControllers
