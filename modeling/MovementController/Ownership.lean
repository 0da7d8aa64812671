import MovementController.Lib.Entities
import MovementController.Lib.Lifecycle
import MovementController.Lib.Runs

/-!
# What the node owns

The clients, the publisher and the action server that `on_activate` creates, with the fields that hold
their handles: those of the node, of the coordinator and of its two services. `_goal_callback` and the
goal that is executed are in `Gate`.
-/

namespace MovementController
namespace Ownership

/-! ### The fields -/

inductive Resource where
  | sceneClient
  | planSeqClient
  | planClient
  | cancellationPub
  | actionServer
  | executeTrajectoryClient
deriving DecidableEq, Repr

/-- The handles in the coordinator, the PILZ service and the OMPL service. -/
structure Clients where
  sceneClient : Option ℕ := none
  planSeqClient : Option ℕ := none
  planClient : Option ℕ := none
deriving DecidableEq, Repr

/-- `executionEvents` are the messages on `/trajectory_execution_event`. -/
structure Node where
  plannerService : Option Clients := none
  cancellationPub : Option ℕ := none
  actionServer : Option ℕ := none
  executeTrajectoryClient : Option ℕ := none
  entities : Entities Resource := {}
  executionEvents : List String := []
deriving DecidableEq, Repr

namespace Node

/-- What the field for a resource holds. -/
def handle (n : Node) : Resource → Option ℕ
  | .sceneClient => n.plannerService.bind (·.sceneClient)
  | .planSeqClient => n.plannerService.bind (·.planSeqClient)
  | .planClient => n.plannerService.bind (·.planClient)
  | .cancellationPub => n.cancellationPub
  | .actionServer => n.actionServer
  | .executeTrajectoryClient => n.executeTrajectoryClient

def assign (n : Node) (kind : Resource) (handle : Option ℕ) : Node :=
  match kind with
  | .sceneClient =>
    { n with plannerService := n.plannerService.map ({ · with sceneClient := handle }) }
  | .planSeqClient =>
    { n with plannerService := n.plannerService.map ({ · with planSeqClient := handle }) }
  | .planClient => { n with plannerService := n.plannerService.map ({ · with planClient := handle }) }
  | .cancellationPub => { n with cancellationPub := handle }
  | .actionServer => { n with actionServer := handle }
  | .executeTrajectoryClient => { n with executeTrajectoryClient := handle }

/-- `self._x = create_x(..)`. -/
def create (n : Node) (kind : Resource) : Node :=
  { n.assign kind (some n.entities.next) with entities := n.entities.create kind }

/-- `if self._x is not None: destroy(self._x); self._x = None`. -/
def release (n : Node) (kind : Resource) : Node :=
  { n.assign kind none with entities := n.entities.release (n.handle kind) }

/-- Creations in order, up to the one that raises. -/
def createAll (raises : Resource → Bool) (n : Node) : List Resource → Node × Bool
  | [] => (n, false)
  | kind :: kinds => if raises kind then (n, true) else createAll raises (n.create kind) kinds

end Node

/-! ### The callbacks -/

/-- The creations of `PlanningCoordinator.on_activate`. -/
def clients : List Resource := [.sceneClient, .planSeqClient, .planClient]

/-- The creations of `on_activate` after the services have been found. -/
def servers : List Resource := [.cancellationPub, .actionServer, .executeTrajectoryClient]

/-- Which creations raise in `on_activate`, and for which clients the service is there in time. -/
structure ActivateInput where
  raises : Resource → Bool
  available : Resource → Bool

namespace Node

/-- `PlanningCoordinator.on_deactivate`. -/
def deactivatePlanner (n : Node) : Node :=
  if n.plannerService.isSome then ((n.release .sceneClient).release .planSeqClient).release .planClient
  else n

/-- `wait_for_service` of one of the clients. -/
def waitFor (n : Node) (available : Resource → Bool) (kind : Resource) : Bool :=
  (n.handle kind).isSome && available kind

/-- `PlanningCoordinator.wait_for_service`. -/
def waitForService (n : Node) (available : Resource → Bool) : Bool :=
  if !n.waitFor available .sceneClient then false
  else n.waitFor available .planSeqClient && n.waitFor available .planClient

/-- `valid`: nothing raises. -/
def onConfigure (n : Node) (valid : Bool) : Node × TransitionCallbackReturn :=
  if valid then ({ n with plannerService := some {} }, .SUCCESS)
  else ({ n with plannerService := none }, .FAILURE)

/-- The `except` branch of `on_activate`. -/
def abandon (n : Node) : Node :=
  ((n.release .actionServer).release .executeTrajectoryClient).deactivatePlanner

def onActivate (n : Node) (input : ActivateInput) : Node × TransitionCallbackReturn :=
  if n.plannerService.isNone then (n, .FAILURE)
  else
    let (n, raised) := n.createAll input.raises clients
    if raised then (n.abandon, .FAILURE)
    else if !n.waitForService input.available then (n, .FAILURE)
    else
      let (n, raised) := n.createAll input.raises servers
      if raised then (n.abandon, .FAILURE) else (n, .SUCCESS)

def publishStop (n : Node) : Node :=
  if n.cancellationPub.isSome then { n with executionEvents := n.executionEvents ++ ["stop"] } else n

def onDeactivate (n : Node) : Node × TransitionCallbackReturn :=
  let n := n.deactivatePlanner.publishStop.release .cancellationPub
  ((n.release .executeTrajectoryClient).release .actionServer, .SUCCESS)

def onCleanup (n : Node) : Node × TransitionCallbackReturn :=
  ({ n with plannerService := none }, .SUCCESS)

end Node

inductive Request where
  | configure (valid : Bool)
  | activate (input : ActivateInput)
  | deactivate
  | cleanup

namespace Request

def transition : Request → Lifecycle.Transition
  | configure _ => .configure
  | activate _ => .activate
  | deactivate => .deactivate
  | cleanup => .cleanup

def callback (n : Node) : Request → Node × TransitionCallbackReturn
  | configure valid => n.onConfigure valid
  | activate input => n.onActivate input
  | deactivate => n.onDeactivate
  | cleanup => n.onCleanup

end Request

abbrev Managed := Lifecycle.Managed Node

def step : Managed → Request → Option Managed :=
  Lifecycle.Managed.step Request.transition Request.callback

/-! ### What is held -/

namespace Node

variable {n : Node} {kind : Resource}

theorem isSome_assign (n : Node) (kind : Resource) (handle : Option ℕ) :
    (n.assign kind handle).plannerService.isSome = n.plannerService.isSome := by
  cases kind <;> first | rfl | exact Option.isSome_map

theorem handle_assign (h : n.plannerService.isSome) (kind : Resource) (handle : Option ℕ) :
    (n.assign kind handle).handle = Function.update n.handle kind handle := by
  obtain ⟨clients, hclients⟩ := Option.isSome_iff_exists.1 h
  funext k
  cases kind <;> cases k <;> simp [assign, Node.handle, hclients]

end Node

/-- The live entities are those in the fields, and the fields that hold one are those of `held`. -/
structure Holds (n : Node) (held : List Resource) : Prop where
  plannerService : n.plannerService.isSome
  owned : n.entities.Owned n.handle
  handle : ∀ kind, (n.handle kind).isSome ↔ kind ∈ held

namespace Holds

variable {n : Node} {held held' : List Resource} {kind : Resource}

theorem congr (h : Holds n held) (hiff : ∀ kind, kind ∈ held' ↔ kind ∈ held) : Holds n held' :=
  ⟨h.plannerService, h.owned, fun kind => (h.handle kind).trans (hiff kind).symm⟩

theorem none_iff (h : Holds n held) : n.handle kind = none ↔ kind ∉ held := by
  rw [← h.handle, Option.not_isSome_iff_eq_none]

theorem create (h : Holds n held) (hnot : kind ∉ held) : Holds (n.create kind) (held ++ [kind]) := by
  have hhandle : (n.create kind).handle = Function.update n.handle kind (some n.entities.next) :=
    Node.handle_assign h.plannerService kind _
  refine ⟨(n.isSome_assign kind _).trans h.plannerService, ?_, fun k => ?_⟩
  · rw [hhandle]
    exact h.owned.create (h.none_iff.2 hnot)
  · rw [hhandle, List.mem_append, List.mem_singleton]
    by_cases hk : k = kind
    · rw [hk, Function.update_self]
      exact ⟨fun _ => .inr rfl, fun _ => rfl⟩
    · rw [Function.update_of_ne hk, h.handle, or_iff_left hk]

theorem release (h : Holds n held) (kind : Resource) :
    Holds (n.release kind) (held.filter (· ≠ kind)) := by
  have hhandle : (n.release kind).handle = Function.update n.handle kind none :=
    Node.handle_assign h.plannerService kind _
  refine ⟨(n.isSome_assign kind _).trans h.plannerService, ?_, fun k => ?_⟩
  · rw [hhandle]
    exact h.owned.release kind
  · rw [hhandle, List.mem_filter, decide_eq_true_iff]
    by_cases hk : k = kind
    · rw [hk, Function.update_self]
      exact ⟨fun hsome => (Bool.false_ne_true hsome).elim, fun hmem => absurd rfl hmem.2⟩
    · rw [Function.update_of_ne hk, h.handle, and_iff_left hk]

/-- Up to the creation that raises, everything is created. -/
theorem createAll {raises : Resource → Bool} {kinds : List Resource} (h : Holds n held)
    (hnodup : kinds.Nodup) (hnot : ∀ kind ∈ kinds, kind ∉ held) :
    Holds (n.createAll raises kinds).1 (held ++ kinds.takeWhile (!raises ·)) ∧
      (n.createAll raises kinds).2 = kinds.any raises := by
  induction kinds generalizing n held with
  | nil =>
    rw [List.takeWhile_nil, List.append_nil]
    exact ⟨h, rfl⟩
  | cons kind kinds ih =>
    rw [List.nodup_cons] at hnodup
    rw [Node.createAll, List.takeWhile_cons, List.any_cons]
    cases hraises : raises kind with
    | true =>
      refine ⟨?_, rfl⟩
      simpa using h
    | false =>
      obtain ⟨hrest, hraised⟩ := ih (h.create (hnot kind List.mem_cons_self)) hnodup.2
        fun k hk hmem => by
          rcases List.mem_append.1 hmem with hmem | hmem
          · exact hnot k (List.mem_cons_of_mem kind hk) hmem
          · rw [List.mem_singleton.1 hmem] at hk
            exact hnodup.1 hk
      rw [List.append_assoc] at hrest
      exact ⟨hrest, hraised⟩

theorem deactivatePlanner (h : Holds n held) :
    Holds n.deactivatePlanner (held.filter (· ∉ clients)) := by
  unfold Node.deactivatePlanner
  rw [if_pos h.plannerService]
  refine (((h.release .sceneClient).release .planSeqClient).release .planClient).congr fun kind => ?_
  simp only [List.mem_filter, decide_eq_true_iff, clients, List.mem_cons, List.not_mem_nil, or_false]
  tauto

theorem abandon (h : Holds n held) :
    Holds n.abandon (held.filter (· = .cancellationPub)) := by
  refine ((h.release .actionServer).release .executeTrajectoryClient).deactivatePlanner.congr
    fun kind => ?_
  simp only [List.mem_filter, decide_eq_true_iff, clients, List.mem_cons, List.not_mem_nil, or_false]
  cases kind <;> simp

theorem publishStop (h : Holds n held) : Holds n.publishStop held := by
  unfold Node.publishStop
  split
  · exact ⟨h.plannerService, h.owned, h.handle⟩
  · exact h

theorem onDeactivate (h : Holds n held) : Holds n.onDeactivate.1 [] := by
  have hall := ((h.deactivatePlanner.publishStop.release .cancellationPub).release
    .executeTrajectoryClient).release .actionServer
  refine hall.congr fun kind => ?_
  simp only [List.mem_filter, decide_eq_true_iff, clients, List.mem_cons, List.not_mem_nil, or_false]
  cases kind <;> simp

theorem waitForService {available : Resource → Bool} (h : Holds n clients) :
    n.waitForService available = clients.all available := by
  have hwait : ∀ kind ∈ clients, n.waitFor available kind = available kind := by
    intro kind hkind
    rw [Node.waitFor, (h.handle kind).2 hkind, Bool.true_and]
  unfold Node.waitForService
  rw [hwait .sceneClient (by decide), hwait .planSeqClient (by decide), hwait .planClient (by decide)]
  cases hscene : available .sceneClient <;> simp [clients, hscene]

end Holds

/-! ### Activation -/

/-- An activation whose clients are created and that then does not find a service, or creates the
publisher but not all that comes after it. -/
def ActivateInput.strands (input : ActivateInput) : Bool :=
  clients.all (!input.raises ·) &&
    (!clients.all input.available ||
      !input.raises .cancellationPub && servers.any input.raises)

/-- An activation builds everything, or undoes everything, or strands something. -/
inductive Activated (input : ActivateInput) : Node × TransitionCallbackReturn → Prop
  | built {n : Node} (hstrands : input.strands = false) (h : Holds n (clients ++ servers)) :
      Activated input (n, .SUCCESS)
  | undone {n : Node} (hstrands : input.strands = false) (h : Holds n []) :
      Activated input (n, .FAILURE)
  | stranded {n : Node} {held : List Resource} {kind : Resource} (hstrands : input.strands = true)
      (h : Holds n held) (hheld : kind ∈ held) : Activated input (n, .FAILURE)

/-- The part of `on_activate` that follows once the services have been found. -/
theorem activated_servers {n : Node} (h : Holds n clients) {input : ActivateInput}
    (hstrands : input.strands = (!input.raises .cancellationPub && servers.any input.raises)) :
    Activated input
      (if (n.createAll input.raises servers).2 then
        ((n.createAll input.raises servers).1.abandon, .FAILURE)
      else ((n.createAll input.raises servers).1, .SUCCESS)) := by
  obtain ⟨hservers, hraised⟩ : Holds (n.createAll input.raises servers).1
      (clients ++ servers.takeWhile (!input.raises ·)) ∧ _ := h.createAll (by decide) (by decide)
  rw [hraised]
  cases hany : servers.any input.raises with
  | false =>
    rw [Entities.takeWhile_of_any hany] at hservers
    rw [if_neg Bool.false_ne_true]
    exact .built (by rw [hstrands, hany, Bool.and_false]) hservers
  | true =>
    rw [if_pos rfl]
    cases hpub : input.raises .cancellationPub with
    | true =>
      refine .undone (by rw [hstrands, hpub]; rfl) (hservers.abandon.congr fun kind => ?_)
      simp [servers, clients, hpub]
    | false =>
      refine .stranded (by rw [hstrands, hpub, hany]; rfl) hservers.abandon
        (List.mem_filter.2 ⟨List.mem_append_right _ ?_, decide_eq_true rfl⟩)
      unfold servers
      rw [List.takeWhile_cons_of_pos (by rw [hpub]; rfl)]
      exact List.mem_cons_self

theorem onActivate_activated {n : Node} (h : Holds n []) (input : ActivateInput) :
    Activated input (n.onActivate input) := by
  obtain ⟨hclients, hraised⟩ : Holds (n.createAll input.raises clients).1
      ([] ++ clients.takeWhile (!input.raises ·)) ∧ _ :=
    h.createAll (by decide) fun _ _ => List.not_mem_nil
  have hplanner : n.plannerService.isNone = false := by
    rw [Option.isNone_eq_false_iff]
    exact h.plannerService
  have hstrands : input.strands = (!clients.any input.raises && (!clients.all input.available ||
      !input.raises .cancellationPub && servers.any input.raises)) := by
    rw [List.not_any_eq_all_not]
    rfl
  unfold Node.onActivate
  dsimp only
  rw [if_neg (by rw [hplanner]; exact Bool.false_ne_true), hraised]
  cases hany : clients.any input.raises with
  | true =>
    rw [if_pos rfl]
    refine .undone (by rw [hstrands, hany]; rfl) (hclients.abandon.congr fun kind => ?_)
    refine ⟨fun hmem => (List.not_mem_nil hmem).elim, fun hmem => ?_⟩
    obtain ⟨hmem, hpub⟩ := List.mem_filter.1 hmem
    have hclient := (List.takeWhile_sublist _).subset hmem
    rw [of_decide_eq_true hpub] at hclient
    exact absurd hclient (by decide)
  | false =>
    rw [List.nil_append, Entities.takeWhile_of_any hany] at hclients
    rw [if_neg Bool.false_ne_true, hclients.waitForService]
    cases hall : clients.all input.available with
    | false => exact .stranded (by rw [hstrands, hany, hall]; rfl) hclients List.mem_cons_self
    | true => exact activated_servers hclients (by rw [hstrands, hany, hall]; rfl)

/-! ### Runs -/

/-- While the node is active one entity of each kind is alive, otherwise none. -/
def Owns (m : Managed) : Prop :=
  ∀ kind, m.node.entities.count kind = if m.state = .active then 1 else 0

def Request.strands : Request → Bool
  | activate input => input.strands
  | _ => false

structure Inv (m : Managed) : Prop where
  owned : m.node.entities.Owned m.node.handle
  handle : ∀ kind, (m.node.handle kind).isSome ↔ m.state = .active
  plannerService : m.state = .inactive ∨ m.state = .active → m.node.plannerService.isSome

namespace Inv

variable {m m' : Managed} {l : Request}

theorem of_holds {n : Node} {held : List Resource} (h : Holds n held) {state : LifecycleState}
    (hheld : ∀ kind, kind ∈ held ↔ state = .active) : Inv ⟨state, n⟩ :=
  ⟨h.owned, fun kind => (h.handle kind).trans (hheld kind), fun _ => h.plannerService⟩

theorem owns (h : Inv m) : Owns m := by
  intro kind
  rw [h.owned.count_eq]
  by_cases hactive : m.state = .active
  · rw [if_pos hactive, if_pos ((h.handle kind).2 hactive)]
  · rw [if_neg hactive, if_neg fun hsome => hactive ((h.handle kind).1 hsome)]

/-- No field holds anything outside the active state. -/
theorem holds_nil (h : Inv m) (hstate : m.state = .inactive) : Holds m.node [] := by
  refine ⟨h.plannerService (.inl hstate), h.owned, fun kind => ?_⟩
  simp [h.handle, hstate]

/-- A coordinator without clients takes the place of one without clients. -/
theorem assign_plannerService (h : Inv m) (hstate : m.state ≠ .active) {service : Option Clients}
    (hservice : service = none ∨ service = some {}) {state : LifecycleState}
    (htarget : state = .unconfigured ∨ state = .inactive ∧ service = some {}) :
    Inv ⟨state, { m.node with plannerService := service }⟩ := by
  have hnone : ∀ kind, m.node.handle kind = none := by
    intro kind
    rw [← Option.not_isSome_iff_eq_none, h.handle]
    exact hstate
  have hhandle : ({ m.node with plannerService := service } : Node).handle = m.node.handle := by
    funext kind
    rcases hservice with rfl | rfl
    all_goals cases kind <;> first | rfl | exact (hnone _).symm
  refine ⟨?_, fun kind => ?_, ?_⟩
  · show m.node.entities.Owned _
    rw [hhandle]
    exact h.owned
  · rcases htarget with rfl | ⟨rfl, -⟩
    · simp [hhandle, hnone]
    · simp [hhandle, hnone]
  · rcases htarget with rfl | ⟨rfl, rfl⟩
    · simp
    · exact fun _ => rfl

/-- An activation that strands something leaves it alive in the inactive state. -/
theorem activate (h : Inv m) {input : ActivateInput}
    (hs : Ownership.step m (.activate input) = some m') :
    input.strands = false ∧ Inv m' ∨ input.strands = true ∧ ¬Owns m' := by
  obtain ⟨hsource, hnode, hret⟩ := Lifecycle.Managed.step_cases hs
  obtain ⟨state, n⟩ := m'
  obtain rfl : n = (m.node.onActivate input).1 := hnode
  have hactivated := onActivate_activated (h.holds_nil hsource) input
  change (m.node.onActivate input).2 = .SUCCESS ∧ state = .active ∨
    (m.node.onActivate input).2 = .FAILURE ∧ state = .inactive at hret
  generalize m.node.onActivate input = result at hactivated hret
  cases hactivated with
  | built hstrands hall =>
    obtain ⟨-, rfl⟩ := hret.resolve_right fun hfail => nomatch hfail.1
    refine .inl ⟨hstrands, .of_holds hall fun kind => ?_⟩
    exact ⟨fun _ => rfl, fun _ => by cases kind <;> decide⟩
  | undone hstrands hnone =>
    obtain ⟨-, rfl⟩ := hret.resolve_left fun hok => nomatch hok.1
    refine .inl ⟨hstrands, .of_holds hnone fun kind => ?_⟩
    exact ⟨fun hmem => (List.not_mem_nil hmem).elim, fun heq => nomatch heq⟩
  | @stranded n held kind hstrands hheld hmem =>
    obtain ⟨-, rfl⟩ := hret.resolve_left fun hok => nomatch hok.1
    refine .inr ⟨hstrands, fun howns => ?_⟩
    have hcount := howns kind
    rw [show (Lifecycle.Managed.mk .inactive n).node.entities = n.entities from rfl,
      hheld.owned.count_eq, if_pos ((hheld.handle kind).2 hmem)] at hcount
    cases hcount

theorem step (h : Inv m) (hl : l.strands = false) (hs : Ownership.step m l = some m') : Inv m' := by
  obtain ⟨hsource, hnode, hret⟩ := Lifecycle.Managed.step_cases hs
  cases l with
  | activate input =>
    rcases h.activate hs with ⟨-, hinv⟩ | ⟨hstrands, -⟩
    · exact hinv
    · rw [show Request.strands (.activate input) = input.strands from rfl, hstrands] at hl
      cases hl
  | configure valid =>
    obtain ⟨state, n⟩ := m'
    obtain rfl : n = (m.node.onConfigure valid).1 := hnode
    have hstate : m.state ≠ .active := by
      rw [hsource]
      intro heq
      cases heq
    cases valid with
    | true =>
      rcases hret with ⟨-, hstate'⟩ | ⟨hfail, -⟩
      · exact h.assign_plannerService hstate (.inr rfl) (.inr ⟨hstate', rfl⟩)
      · cases hfail
    | false =>
      rcases hret with ⟨hok, -⟩ | ⟨-, hstate'⟩
      · cases hok
      · exact h.assign_plannerService hstate (.inl rfl) (.inl hstate')
  | deactivate =>
    obtain ⟨state, n⟩ := m'
    obtain rfl : n = m.node.onDeactivate.1 := hnode
    have hholds : Holds m.node (clients ++ servers) := by
      refine ⟨h.plannerService (.inr hsource), h.owned, fun kind => ?_⟩
      exact (h.handle kind).trans ⟨fun _ => by cases kind <;> decide, fun _ => hsource⟩
    obtain ⟨-, hstate'⟩ := hret.resolve_right fun hfail => nomatch hfail.1
    refine .of_holds hholds.onDeactivate fun kind => ?_
    have hinactive : state = .inactive := hstate'
    rw [hinactive]
    exact ⟨fun hmem => (List.not_mem_nil hmem).elim, fun heq => nomatch heq⟩
  | cleanup =>
    obtain ⟨state, n⟩ := m'
    obtain rfl : n = m.node.onCleanup.1 := hnode
    obtain ⟨-, hstate'⟩ := hret.resolve_right fun hfail => nomatch hfail.1
    have hstate : m.state ≠ .active := by
      rw [hsource]
      intro heq
      cases heq
    exact h.assign_plannerService hstate (.inl rfl) (.inl hstate')

end Inv

theorem Inv.initial : Inv { node := {} } := by
  have hhandle : ({} : Node).handle = fun _ => none := by
    funext kind
    cases kind <;> rfl
  refine ⟨?_, fun kind => ?_, ?_⟩
  · rw [hhandle]
    exact Entities.Owned.empty
  · simp [hhandle]
  · simp

theorem exactly_owns : Lts.Exactly step (fun _ l => l.strands = false) Owns { node := {} } := by
  refine .of_invariant (I := Inv) .initial (fun h => h.owns) (fun h hl hs => h.step hl hs) ?_
  intro m m' l h hl hs
  cases l with
  | activate input =>
    rcases h.activate hs with ⟨hstrands, -⟩ | ⟨-, hnot⟩
    · exact absurd hstrands hl
    · exact hnot
  | configure valid => exact absurd rfl hl
  | deactivate => exact absurd rfl hl
  | cleanup => exact absurd rfl hl

/-- In a run the node owns its resources exactly while it is active, if and only if no activation of the
run strands anything. -/
theorem owns_while_active (ls : List Request) (m : Managed) :
    Lts.Stays step Owns { node := {} } ls m ↔
      Lts.Trace step (fun _ l => l.strands = false) { node := {} } ls m :=
  exactly_owns.stays_iff

def unavailable : ActivateInput := ⟨fun _ => false, fun _ => false⟩

def untroubled : ActivateInput := ⟨fun _ => false, fun _ => true⟩

/-- The services are not there in time: the clients stay alive in the inactive state, and the next attempt
takes their handles. -/
theorem clients_stranded : ∃ m m' : Managed, Lts.Reaches step { node := {} } m ∧
    m.state = .inactive ∧ m.node.entities.count .sceneClient = 1 ∧ ¬Owns m ∧
    Lts.Reaches step m m' ∧ m'.state = .active ∧ m'.node.entities.count .sceneClient = 2 := by
  refine ⟨_, _, .of_exec [.configure true, .activate unavailable] rfl, rfl, rfl, fun howns => ?_,
    .of_exec [.activate untroubled] rfl, rfl, rfl⟩
  have hcount := howns .sceneClient
  cases hcount

end Ownership
end MovementController
