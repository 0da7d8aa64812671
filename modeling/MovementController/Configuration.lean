import MovementController.Coordinator
import MovementController.Lib.Lifecycle
import MovementController.Lib.Runs

/-!
# The constraint configuration of the node

`on_configure` writes it four times, into the node for `_goal_callback` and into the coordinator and its
two services for the planning requests, and it can fail between any two of these writes. `on_cleanup`
drops the coordinator with its copies and leaves the node's own copy behind.
-/

namespace MovementController

/-- The parameters that `on_configure` reads. -/
structure Parameters where
  moveitGroupName : String := "ur_manipulator"
  xMin : ℚ := -1000000000
  xMax : ℚ := 1000000000
  yMin : ℚ := -1000000000
  yMax : ℚ := 1000000000
  zMin : ℚ := -1000000000
  zMax : ℚ := 1000000000
  orientationToleranceX : ℚ := twoPi
  orientationToleranceY : ℚ := twoPi
  orientationToleranceZ : ℚ := twoPi
  maxCartesianSpeed : ℚ := 0
  maxCartesianAcceleration : ℚ := 0
  maxJointSpeed : ℚ := 0
  maxJointAcceleration : ℚ := 0
  omplPlanningTime : ℚ := 5
  omplPlanningAttempts : Int := 10
deriving DecidableEq, Repr

/-- `x_min (…) must be <= x_max (…)`; the payload is the axis. -/
inductive BoundsError where
  | unordered (axis : String) (lower upper : ℚ)
deriving DecidableEq, Repr

/-- `ConstraintConfigDTO(..)` with `_validate_workspace_bounds`. -/
def ConstraintConfigDTO.ofParameters (p : Parameters) : Except BoundsError ConstraintConfigDTO :=
  if hx : p.xMin ≤ p.xMax then
    if hy : p.yMin ≤ p.yMax then
      if hz : p.zMin ≤ p.zMax then
        .ok {
          xMin := p.xMin
          xMax := p.xMax
          yMin := p.yMin
          yMax := p.yMax
          zMin := p.zMin
          zMax := p.zMax
          orientationToleranceX := p.orientationToleranceX
          orientationToleranceY := p.orientationToleranceY
          orientationToleranceZ := p.orientationToleranceZ
          maxCartesianSpeed := p.maxCartesianSpeed
          maxCartesianAcceleration := p.maxCartesianAcceleration
          maxJointSpeed := p.maxJointSpeed
          maxJointAcceleration := p.maxJointAcceleration
          x_ordered := hx
          y_ordered := hy
          z_ordered := hz }
      else .error (.unordered "z" p.zMin p.zMax)
    else .error (.unordered "y" p.yMin p.yMax)
  else .error (.unordered "x" p.xMin p.xMax)

/-- `PlanningCoordinator.on_deactivate`. -/
def PlanningCoordinator.onDeactivate (c : PlanningCoordinator) : PlanningCoordinator :=
  { c with
    sceneClient := false
    pilz := { c.pilz with planSeqClient := false }
    ompl := { c.ompl with planClient := false }
    session := none }

namespace Configuration

/-- The fields of the node that hold a configuration, or an object that does. `configured` is a history:
the parameters that the last successful `on_configure` read. -/
structure Node where
  plannerService : Option PlanningCoordinator := none
  constraintConfig : Option ConstraintConfigDTO := none
  actionServer : Bool := false
  configured : Option Parameters := none
deriving DecidableEq, Repr

/-- Where `on_configure` can raise, besides the validation. -/
inductive ConfigurePoint where
  | coordinator
  | parameters
  | constraints
  | pilzConstraints
  | omplConstraints
  | omplTuning
deriving DecidableEq, Repr

/-- Where `on_activate` can fail once it has a coordinator. -/
inductive ActivatePoint where
  | coordinator
  | services
  | publisher
  | actionServer
  | executeTrajectoryClient
deriving DecidableEq, Repr

/-- `set_constraints` on the coordinator, with what was written when it raises. -/
def setConstraints (c : PlanningCoordinator) (dto : ConstraintConfigDTO)
    (raises : ConfigurePoint → Bool) : Except PlanningCoordinator PlanningCoordinator :=
  if raises .constraints then .error c
  else
    let c := { c with constraintConfig := some dto }
    if raises .pilzConstraints then .error c
    else
      let c := { c with pilz := { c.pilz with constraintConfig := some dto } }
      if raises .omplConstraints then .error c
      else .ok { c with ompl := { c.ompl with constraintConfig := some dto } }

namespace Node

/-- The `try` block of `on_configure`, with the node as it is when it raises. -/
def tryConfigure (n : Node) (p : Parameters) (raises : ConfigurePoint → Bool) : Except Node Node :=
  if raises .coordinator then .error n
  else
    let c := PlanningCoordinator.new p.moveitGroupName
    let n := { n with plannerService := some c }
    if raises .parameters then .error n
    else
      match ConstraintConfigDTO.ofParameters p with
      | .error _ => .error n
      | .ok dto =>
        let n := { n with constraintConfig := some dto }
        match setConstraints c dto raises with
        | .error c => .error { n with plannerService := some c }
        | .ok c =>
          if raises .omplTuning then .error { n with plannerService := some c }
          else .ok { n with
            plannerService := some (c.setOmplTuning p.omplPlanningTime p.omplPlanningAttempts) }

def onConfigure (n : Node) (p : Parameters) (raises : ConfigurePoint → Bool) :
    Node × TransitionCallbackReturn :=
  match n.tryConfigure p raises with
  | .error n => ({ n with plannerService := none }, .FAILURE)
  | .ok n => ({ n with configured := some p }, .SUCCESS)

/-- The `except` branch of `on_activate`. -/
def abandon (n : Node) : Node :=
  { n with
    actionServer := false
    plannerService := n.plannerService.map PlanningCoordinator.onDeactivate }

/-- A coordinator whose activation raises is deactivated whatever it had created. When the services are
not there in time, it stays activated. -/
def onActivate (n : Node) (fault : Option ActivatePoint) : Node × TransitionCallbackReturn :=
  match n.plannerService with
  | none => (n, .FAILURE)
  | some c =>
    let activated := { n with plannerService := some c.onActivate }
    match fault with
    | some .coordinator => (n.abandon, .FAILURE)
    | some .services => (activated, .FAILURE)
    | some .publisher | some .actionServer => (activated.abandon, .FAILURE)
    | some .executeTrajectoryClient => ({ activated with actionServer := true }.abandon, .FAILURE)
    | none => ({ activated with actionServer := true }, .SUCCESS)

def onDeactivate (n : Node) : Node × TransitionCallbackReturn :=
  ({ n with
    actionServer := false
    plannerService := n.plannerService.map fun c => c.cancel.onDeactivate }, .SUCCESS)

def onCleanup (n : Node) : Node × TransitionCallbackReturn :=
  ({ n with plannerService := none }, .SUCCESS)

end Node

inductive Request where
  | configure (p : Parameters) (raises : ConfigurePoint → Bool)
  | activate (fault : Option ActivatePoint)
  | deactivate
  | cleanup

namespace Request

def transition : Request → Lifecycle.Transition
  | configure .. => .configure
  | activate _ => .activate
  | deactivate => .deactivate
  | cleanup => .cleanup

def callback (n : Node) : Request → Node × TransitionCallbackReturn
  | configure p raises => n.onConfigure p raises
  | activate fault => n.onActivate fault
  | deactivate => n.onDeactivate
  | cleanup => n.onCleanup

end Request

/-- A request, or the shutdown, for which the node has no callback of its own. -/
inductive Label where
  | request (r : Request)
  | shutdown

abbrev Managed := Lifecycle.Managed Node

def step (m : Managed) : Label → Option Managed
  | .request r => m.step Request.transition Request.callback r
  | .shutdown => if m.state = .finalized then none else some { m with state := .finalized }

/-! ### Agreement -/

/-- All four copies are the configuration that `p` describes. -/
structure AgreesOn (n : Node) (p : Parameters) (dto : ConstraintConfigDTO) (c : PlanningCoordinator) :
    Prop where
  configured : n.configured = some p
  built : ConstraintConfigDTO.ofParameters p = .ok dto
  node : n.constraintConfig = some dto
  plannerService : n.plannerService = some c
  coordinator : c.constraintConfig = some dto
  pilz : c.pilz.constraintConfig = some dto
  ompl : c.ompl.constraintConfig = some dto

def Agrees (n : Node) : Prop := ∃ p dto c, AgreesOn n p dto c

/-- A coordinator whose copies are those of `c`. -/
def SameCopies (c c' : PlanningCoordinator) : Prop :=
  c'.constraintConfig = c.constraintConfig ∧ c'.pilz.constraintConfig = c.pilz.constraintConfig ∧
    c'.ompl.constraintConfig = c.ompl.constraintConfig

theorem sameCopies_onActivate (c : PlanningCoordinator) : SameCopies c c.onActivate := ⟨rfl, rfl, rfl⟩

theorem sameCopies_onDeactivate (c : PlanningCoordinator) : SameCopies c c.onDeactivate :=
  ⟨rfl, rfl, rfl⟩

theorem sameCopies_cancel (c : PlanningCoordinator) : SameCopies c c.cancel := ⟨rfl, rfl, rfl⟩

theorem SameCopies.trans {c c' c'' : PlanningCoordinator} (h : SameCopies c c')
    (h' : SameCopies c' c'') : SameCopies c c'' :=
  ⟨h'.1.trans h.1, h'.2.1.trans h.2.1, h'.2.2.trans h.2.2⟩

/-- The node keeps its configuration and its coordinator, up to what is no copy of it. -/
theorem AgreesOn.congr {n n' : Node} {p : Parameters} {dto : ConstraintConfigDTO}
    {c c' : PlanningCoordinator} (h : AgreesOn n p dto c) (hconfigured : n'.configured = n.configured)
    (hnode : n'.constraintConfig = n.constraintConfig) (hplanner : n'.plannerService = some c')
    (hcopies : SameCopies c c') : AgreesOn n' p dto c' where
  configured := hconfigured.trans h.configured
  built := h.built
  node := hnode.trans h.node
  plannerService := hplanner
  coordinator := hcopies.1.trans h.coordinator
  pilz := hcopies.2.1.trans h.pilz
  ompl := hcopies.2.2.trans h.ompl

/-! ### What the callbacks write -/

theorem setConstraints_ok {c c' : PlanningCoordinator} {dto : ConstraintConfigDTO}
    {raises : ConfigurePoint → Bool} (h : setConstraints c dto raises = .ok c') :
    c' = c.setConstraints dto := by
  unfold setConstraints at h
  split at h
  · cases h
  · split at h
    · cases h
    · split at h
      · cases h
      · exact (Except.ok.inj h).symm

/-- The `try` block ends normally only when every copy is written. -/
theorem tryConfigure_ok {n n' : Node} {p : Parameters} {raises : ConfigurePoint → Bool}
    (h : n.tryConfigure p raises = .ok n') :
    ∃ dto, ConstraintConfigDTO.ofParameters p = .ok dto ∧
      n' = { n with
        constraintConfig := some dto
        plannerService := some (((PlanningCoordinator.new p.moveitGroupName).setConstraints dto).setOmplTuning
          p.omplPlanningTime p.omplPlanningAttempts) } := by
  unfold Node.tryConfigure at h
  split at h
  · cases h
  · simp only at h
    split at h
    · cases h
    · split at h
      · cases h
      · next dto hdto =>
        split at h
        · cases h
        · next c hc =>
          split at h
          · cases h
          · refine ⟨dto, hdto, ?_⟩
            rw [← setConstraints_ok hc]
            exact (Except.ok.inj h).symm

theorem agrees_onConfigure {n : Node} {p : Parameters} {raises : ConfigurePoint → Bool}
    (h : (n.onConfigure p raises).2 = .SUCCESS) : Agrees (n.onConfigure p raises).1 := by
  unfold Node.onConfigure at h ⊢
  cases hn : n.tryConfigure p raises with
  | error n' =>
    rw [hn] at h
    cases h
  | ok n' =>
    obtain ⟨dto, hdto, rfl⟩ := tryConfigure_ok hn
    exact ⟨p, dto, _, rfl, hdto, rfl, rfl, rfl, rfl, rfl⟩

theorem actionServer_tryConfigure_error {n n' : Node} {p : Parameters}
    {raises : ConfigurePoint → Bool} (h : n.tryConfigure p raises = .error n') :
    n'.actionServer = n.actionServer := by
  unfold Node.tryConfigure at h
  split at h
  · rw [← Except.error.inj h]
  · simp only at h
    split at h
    · rw [← Except.error.inj h]
    · split at h
      · rw [← Except.error.inj h]
      · split at h
        · rw [← Except.error.inj h]
        · split at h
          · rw [← Except.error.inj h]
          · cases h

/-- No exit of `on_configure` touches the action server. -/
theorem actionServer_onConfigure (n : Node) (p : Parameters) (raises : ConfigurePoint → Bool) :
    (n.onConfigure p raises).1.actionServer = n.actionServer := by
  unfold Node.onConfigure
  cases hn : n.tryConfigure p raises with
  | error n' =>
    have hserver := actionServer_tryConfigure_error hn
    exact hserver
  | ok n' =>
    obtain ⟨dto, -, rfl⟩ := tryConfigure_ok hn
    rfl

/-- Whatever becomes of an activation, it writes no copy. -/
theorem Agrees.onActivate {n : Node} (h : Agrees n) (fault : Option ActivatePoint) :
    Agrees (n.onActivate fault).1 := by
  obtain ⟨p, dto, c, hn⟩ := h
  have hc := hn.plannerService
  have hup := sameCopies_onActivate c
  have hboth := hup.trans (sameCopies_onDeactivate c.onActivate)
  unfold Node.onActivate
  rw [hc]
  rcases fault with _ | _ | _ | _ | _ | _
  · exact ⟨p, dto, _, hn.congr rfl rfl rfl hup⟩
  · exact ⟨p, dto, _, hn.congr rfl rfl (by simp [Node.abandon, hc]) (sameCopies_onDeactivate c)⟩
  · exact ⟨p, dto, _, hn.congr rfl rfl rfl hup⟩
  all_goals exact ⟨p, dto, _, hn.congr rfl rfl rfl hboth⟩

theorem Agrees.onDeactivate {n : Node} (h : Agrees n) : Agrees n.onDeactivate.1 := by
  obtain ⟨p, dto, c, hn⟩ := h
  have hcopies := (sameCopies_cancel c).trans (sameCopies_onDeactivate c.cancel)
  exact ⟨p, dto, _, hn.congr rfl rfl (by simp [Node.onDeactivate, hn.plannerService]) hcopies⟩

/-- Only a successful activation leaves a server. -/
theorem actionServer_onActivate {n : Node} {fault : Option ActivatePoint}
    (h : (n.onActivate fault).1.actionServer = true) :
    n.actionServer = true ∨ (n.onActivate fault).2 = .SUCCESS := by
  unfold Node.onActivate at h ⊢
  split
  · next hc =>
    rw [hc] at h
    exact .inl h
  · next c hc =>
    rw [hc] at h
    rcases fault with _ | _ | _ | _ | _ | _
    · exact .inr rfl
    · cases h
    · exact .inl h
    all_goals cases h

/-! ### Runs -/

/-- The node has its coordinator and all copies when it is configured, a server only when it is active
or shut down, and then too. -/
structure Consistent (m : Managed) : Prop where
  server : m.node.actionServer = true → m.state = .active ∨ m.state = .finalized
  agrees : m.state = .inactive ∨ m.state = .active ∨ m.node.actionServer = true → Agrees m.node

theorem consistent_init : Consistent { node := {} } :=
  ⟨nofun, by rintro (h | h | h) <;> cases h⟩

namespace Consistent

variable {m m' : Managed}

theorem no_server (hm : Consistent m) (h : m.state = .unconfigured ∨ m.state = .inactive) :
    m.node.actionServer = false := by
  by_contra hserver
  rw [Bool.not_eq_false] at hserver
  have hup := hm.server hserver
  rcases h with h | h <;> simp [h] at hup

/-- A node without a server, whose copies agree if it is configured. -/
theorem of_no_server (hserver : m.node.actionServer = false)
    (hagrees : m.state ≠ .unconfigured → Agrees m.node) : Consistent m where
  server h := by simp [hserver] at h
  agrees h := by
    refine hagrees fun hstate => ?_
    simp [hstate, hserver] at h

theorem request (hm : Consistent m) {r : Request}
    (h : m.step Request.transition Request.callback r = some m') : Consistent m' := by
  obtain ⟨hstate, hnode, hret⟩ := Lifecycle.Managed.step_cases h
  cases r with
  | configure p raises =>
    have hserver := hm.no_server (.inl hstate)
    refine of_no_server ?_ fun hconfigured => ?_
    · rw [hnode]
      exact (actionServer_onConfigure m.node p raises).trans hserver
    · rcases hret with ⟨hsuccess, -⟩ | ⟨-, hstate'⟩
      · rw [hnode]
        exact agrees_onConfigure hsuccess
      · exact absurd hstate' hconfigured
  | activate fault =>
    have hagrees : Agrees m'.node := by
      rw [hnode]
      exact (hm.agrees (.inl hstate)).onActivate fault
    refine ⟨fun hserver => ?_, fun _ => hagrees⟩
    have hno := hm.no_server (.inr hstate)
    rw [hnode] at hserver
    have hsuccess := (actionServer_onActivate hserver).resolve_left (by simp [hno])
    rcases hret with ⟨-, hstate'⟩ | ⟨hfailure, -⟩
    · exact .inl hstate'
    · cases hsuccess.symm.trans hfailure
  | deactivate =>
    refine of_no_server (by rw [hnode]; rfl) fun _ => ?_
    rw [hnode]
    exact (hm.agrees (.inr (.inl hstate))).onDeactivate
  | cleanup =>
    have hserver := hm.no_server (.inr hstate)
    refine of_no_server (by rw [hnode]; exact hserver) fun hconfigured => ?_
    rcases hret with ⟨-, hstate'⟩ | ⟨hfailure, -⟩
    · exact absurd hstate' hconfigured
    · cases hfailure

theorem step (hm : Consistent m) {l : Label} (h : step m l = some m') : Consistent m' := by
  cases l with
  | request r => exact hm.request h
  | shutdown =>
    simp only [Configuration.step] at h
    split at h
    · cases h
    · obtain rfl := Option.some.inj h
      refine ⟨fun _ => .inr rfl, fun h => ?_⟩
      have hserver : m.node.actionServer = true := by simpa using h
      exact hm.agrees (.inr (.inr hserver))

end Consistent

/-- Wherever there is an action server, `_goal_callback` validates against the configuration that the
coordinator and both of its services plan with. -/
theorem configurations_agree (m : Managed) (h : Lts.Reaches step { node := {} } m)
    (hserver : m.node.actionServer = true) : ∃ p dto c, AgreesOn m.node p dto c :=
  (h.invariant consistent_init fun hm _ hs => hm.step hs).agrees (.inr (.inr hserver))

/-- Configured, cleaned up and configured with other values, the second time past a failure. -/
def reconfigured : List Label :=
  [.request (.configure { zMin := -1 } fun _ => false), .request .cleanup,
    .request (.configure { zMin := 0, maxJointSpeed := 1/2 } (· == .pilzConstraints)),
    .request (.configure { zMin := 0, maxJointSpeed := 1/2 } fun _ => false),
    .request (.activate none)]

theorem configurations_agree_reconfigured : ∃ m, Lts.Reaches step { node := {} } m ∧
    m.node.configured = some { zMin := 0, maxJointSpeed := 1/2 } ∧
    ∃ p dto c, AgreesOn m.node p dto c := by
  have hrun : Lts.Reaches step { node := {} } _ := .of_exec reconfigured rfl
  exact ⟨_, hrun, rfl, configurations_agree _ hrun rfl⟩

end Configuration
end MovementController
