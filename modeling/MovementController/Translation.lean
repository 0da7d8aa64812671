import MovementController.Callbacks
import MovementController.Lib.Fallible

/-!
# Goals as planner requests

What the two request builders make of the groups of a goal. A request is read as a list of items
(`PlannerMessage.read`), an OMPL request as one item that blends into nothing.
-/

namespace MovementController
open PlanningCoordinator BasePlannerService

/-! ### What is expected of the requests -/

/-- The items of a request, each with the planner it is for. -/
def PlannerMessage.read : PlannerMessage → List (Planner × MotionSequenceItem)
  | .sequence request => request.items.map fun item => (.pilz, item)
  | .plan request => [(.ompl, { req := request })]

/-- The arc point of a CIRC path, a pose without a region about it. -/
def arcPoint (path : TrajectoryPathDTO) : List PositionConstraint :=
  if path.motionType = .CIRC then [{
    header := path.targetPose.header
    linkName := path.toolFrame
    constraintRegion := ⟨[], [⟨path.circPoint, ⟨0, 0, 0, 1⟩⟩]⟩
    weight := 1 / 10 }]
  else []

/-- The configured box; there is none if all three ranges are as wide as from sentinel to sentinel. -/
def workspaceBox (cfg : Option ConstraintConfigDTO) (toolFrame : String) : List PositionConstraint :=
  match cfg with
  | none => []
  | some cfg =>
    let dx := cfg.xMax - cfg.xMin
    let dy := cfg.yMax - cfg.yMin
    let dz := cfg.zMax - cfg.zMin
    if dx < 2000000000 ∨ dy < 2000000000 ∨ dz < 2000000000 then [{
      header := ⟨0, "base_link"⟩
      linkName := toolFrame
      constraintRegion := ⟨[⟨.box, [dx, dy, dz]⟩],
        [⟨⟨(cfg.xMax + cfg.xMin) / 2, (cfg.yMax + cfg.yMin) / 2, (cfg.zMax + cfg.zMin) / 2⟩,
          ⟨0, 0, 0, 1⟩⟩]⟩
      weight := 1 }]
    else []

/-- The configured tolerances about the axes of `base_link`, if one of them is less than a full turn. -/
def pathOrientation (cfg : Option ConstraintConfigDTO) (toolFrame : String) :
    List OrientationConstraint :=
  match cfg with
  | none => []
  | some cfg =>
    let x := cfg.orientationToleranceX
    let y := cfg.orientationToleranceY
    let z := cfg.orientationToleranceZ
    if x < twoPi ∨ y < twoPi ∨ z < twoPi then [{
      header := ⟨0, "base_link"⟩
      orientation := ⟨0, 0, 0, 1⟩
      linkName := toolFrame
      absoluteXAxisTolerance := x
      absoluteYAxisTolerance := y
      absoluteZAxisTolerance := z
      parameterization := 0
      weight := 1 }]
    else []

/-- The goal constraints take the tool frame of the path to its target pose. -/
structure Targets (constraints : List Constraints) (path : TrajectoryPathDTO) : Prop where
  position : constraints.map (·.positionConstraints.map fun p =>
    (p.linkName, p.header, p.constraintRegion.primitivePoses.map (·.position))) =
      [[(path.toolFrame, path.targetPose.header, [path.targetPose.pose.position])]]
  orientation : constraints.map (·.orientationConstraints.map fun o =>
    (o.linkName, o.header, o.orientation)) =
      [[(path.toolFrame, path.targetPose.header, path.targetPose.pose.orientation)]]

/-- The item is for the planner of the path, and carries its goal and its path constraints. -/
structure Carries (cfg : Option ConstraintConfigDTO) (read : Planner × MotionSequenceItem)
    (path : TrajectoryPathDTO) : Prop where
  planner : read.1 = if path.motionType = .PTP then .ompl else .pilz
  lin : path.motionType = .LIN → read.2.req.plannerId = "LIN"
  circ : path.motionType = .CIRC → read.2.req.plannerId = "CIRC"
  targets : Targets read.2.req.goalConstraints path
  position : read.2.req.pathConstraints.positionConstraints =
    arcPoint path ++ workspaceBox cfg path.toolFrame
  orientation : read.2.req.pathConstraints.orientationConstraints = pathOrientation cfg path.toolFrame
  joint : read.2.req.pathConstraints.jointConstraints = []
  interim : path.motionType = .CIRC → path.circType = .INTERIM →
    read.2.req.pathConstraints.name = "interim"
  center : path.motionType = .CIRC → path.circType = .CENTER →
    read.2.req.pathConstraints.name = "center"

/-- The start state stands on the first item only, and every item of a PILZ request but the last
blends with the radius of its path, which is positive. -/
structure Shaped (r : PlanRequest) (m : PlannerMessage) : Prop where
  startState : m.read.map (·.2.req.startState) =
    r.startState :: List.replicate (r.group.length - 1) {}
  blendRadius : m.read.map (·.2.blendRadius) = r.group.dropLast.map (·.blendRadius) ++ [0]
  blends : ∀ path ∈ r.group.dropLast, 0 < path.blendRadius

/-- The planner requests for the groups of a goal, the `i`-th of which starts from `start i`. -/
def TrajectoryGoalDTO.requests (goal : TrajectoryGoalDTO) (start : Nat → RobotState) :
    List PlanRequest :=
  goal.groups.zipIdx.map fun g => ⟨selectService g.1, g.1, start g.2⟩

/-- The coordinator after `on_configure` and `on_activate`; without a `dto`, `set_constraints` was
not called. -/
def PlanningCoordinator.configured (groupName : String) (dto : Option ConstraintConfigDTO)
    (planningTime : ℚ) (numPlanningAttempts : Int) : PlanningCoordinator :=
  let c := new groupName
  ((dto.elim c c.setConstraints).setOmplTuning planningTime numPlanningAttempts).onActivate

/-! ### Groups -/

namespace TrajectoryGrouper

variable {g : Group}

theorem pos_of_isChain (h : g.IsChain fun a b => joins a b) :
    ∀ path ∈ g.dropLast, 0 < path.blendRadius := by
  induction g with
  | nil => simp
  | cons a g ih =>
    cases g with
    | nil => simp
    | cons b g =>
      rw [List.isChain_cons_cons] at h
      intro path hpath
      rw [List.dropLast_cons_cons, List.mem_cons] at hpath
      rcases hpath with rfl | hpath
      · exact (joins_iff.1 h.1).2.2
      · exact ih h.2 path hpath

end TrajectoryGrouper

namespace TrajectoryGoalDTO

variable {goal : TrajectoryGoalDTO} {g : Group}

theorem blendRadius_pos (hg : g ∈ goal.groups) : ∀ path ∈ g.dropLast, 0 < path.blendRadius := by
  rw [goal.groups_eq_splitBy] at hg
  exact TrajectoryGrouper.pos_of_isChain (TrajectoryGrouper.chain_of_mem hg)

theorem selectService_cases (hg : g ∈ goal.groups) :
    (selectService g = .ompl ∧ ∃ path : TrajectoryPathDTO, path.motionType = .PTP ∧ g = [path]) ∨
      selectService g = .pilz ∧ ∀ path ∈ g, path.motionType ≠ .PTP := by
  by_cases hptp : ∃ path ∈ g, path.motionType = .PTP
  · obtain ⟨path, hpath, hptp⟩ := hptp
    have hsplit := hg
    rw [goal.groups_eq_splitBy] at hsplit
    have hsingle : g = [path] := TrajectoryGrouper.eq_singleton_of_ptp hsplit hpath hptp
    refine .inl ⟨?_, path, hptp, hsingle⟩
    rw [hsingle, selectService]
    simp [hptp]
  · have hnot : ∀ path ∈ g, path.motionType ≠ .PTP := fun path hpath h => hptp ⟨path, hpath, h⟩
    refine .inr ⟨?_, hnot⟩
    have hne := goal.ne_nil_of_mem_groups hg
    cases g with
    | nil => exact absurd rfl hne
    | cons a g =>
      have ha := hnot a List.mem_cons_self
      rw [selectService]
      simp [ha]

end TrajectoryGoalDTO

/-! ### The builders -/

theorem targets_buildPoseGoalConstraints (path : TrajectoryPathDTO) :
    Targets [buildPoseGoalConstraints path.toolFrame path.targetPose] path := ⟨rfl, rfl⟩

theorem workspaceBox_some (cfg : ConstraintConfigDTO) (toolFrame : String) :
    workspaceBox (some cfg) toolFrame =
      if cfg.workspaceEnabled then [workspaceConstraint cfg toolFrame] else [] := by
  have hactive : (cfg.xMax - cfg.xMin < 2000000000 ∨ cfg.yMax - cfg.yMin < 2000000000 ∨
      cfg.zMax - cfg.zMin < 2000000000) ↔ cfg.workspaceEnabled = true := by
    simp [ConstraintConfigDTO.workspaceEnabled, or_assoc]
  unfold workspaceBox
  simp only [hactive]
  rfl

theorem pathOrientation_some (cfg : ConstraintConfigDTO) (toolFrame : String) :
    pathOrientation (some cfg) toolFrame =
      if cfg.orientationConstraintEnabled then [orientationConstraint cfg toolFrame] else [] := by
  have hactive : (cfg.orientationToleranceX < twoPi ∨ cfg.orientationToleranceY < twoPi ∨
      cfg.orientationToleranceZ < twoPi) ↔ cfg.orientationConstraintEnabled = true := by
    simp [ConstraintConfigDTO.orientationConstraintEnabled, or_assoc]
  unfold pathOrientation
  simp only [hactive]
  rfl

theorem buildPathConstraints_eq (svc : BasePlannerService) (toolFrame : String) :
    svc.buildPathConstraints toolFrame = {
      name := s!"path_constraints_{toolFrame}"
      positionConstraints := workspaceBox svc.constraintConfig toolFrame
      orientationConstraints := pathOrientation svc.constraintConfig toolFrame } := by
  unfold buildPathConstraints
  rcases svc.constraintConfig with _ | cfg
  · rfl
  · rw [workspaceBox_some, pathOrientation_some]
    by_cases hw : cfg.workspaceEnabled = true <;>
      by_cases ho : cfg.orientationConstraintEnabled = true <;> simp [hw, ho]

theorem arcPoint_of_circ {path : TrajectoryPathDTO} (hcirc : path.motionType = .CIRC) :
    arcPoint path = [PilzPlannerService.arcPointConstraint path] := if_pos hcirc

theorem arcPoint_of_ne {path : TrajectoryPathDTO} (hcirc : path.motionType ≠ .CIRC) :
    arcPoint path = [] := if_neg hcirc

namespace PilzPlannerService

variable (svc : PilzPlannerService)

/-- The path constraints of an item when nothing is missing. -/
def constraintsOf (path : TrajectoryPathDTO) : Constraints where
  name := if path.motionType = .CIRC then path.circType.value
    else s!"path_constraints_{path.toolFrame}"
  positionConstraints := arcPoint path ++ workspaceBox svc.constraintConfig path.toolFrame
  orientationConstraints := pathOrientation svc.constraintConfig path.toolFrame

theorem itemPathConstraints_eq (path : TrajectoryPathDTO) :
    svc.itemPathConstraints path = .ok (svc.constraintsOf path) := by
  unfold itemPathConstraints constraintsOf
  rw [buildPathConstraints_eq]
  by_cases hcirc : path.motionType = .CIRC
  · simp [hcirc, mergeCircAndPathConstraints, buildCircConstraints, arcPoint_of_circ]
  · simp [hcirc, arcPoint_of_ne]

def itemOf (n : Nat) (startState : RobotState) (path : TrajectoryPathDTO) (i : Nat) :
    MotionSequenceItem where
  blendRadius := if i < n - 1 then path.blendRadius else 0
  req := {
    groupName := svc.groupName
    pipelineId := "pilz_industrial_motion_planner"
    plannerId := path.motionType.value
    allowedPlanningTime := 5
    numPlanningAttempts := 1
    maxVelocityScalingFactor := (svc.calculateScalingFactors path).1
    maxAccelerationScalingFactor := (svc.calculateScalingFactors path).2
    goalConstraints := [buildPoseGoalConstraints path.toolFrame path.targetPose]
    startState := if i = 0 then startState else {}
    pathConstraints := svc.constraintsOf path }

theorem sequenceItem_eq (n : Nat) (startState : RobotState) (path : TrajectoryPathDTO) (i : Nat) :
    svc.sequenceItem n startState path i = .ok (svc.itemOf n startState path i) := by
  rw [sequenceItem, itemPathConstraints_eq]
  rfl

def requestOf (group : Group) (startState : RobotState) : MotionSequenceRequest :=
  ⟨group.zipIdx.map fun p => svc.itemOf group.length startState p.1 p.2⟩

theorem generateMotionSequenceRequest_eq (group : Group) (startState : RobotState) :
    svc.generateMotionSequenceRequest group startState = .ok (svc.requestOf group startState) := by
  have hitems : (group.zipIdx.mapM fun p => svc.sequenceItem group.length startState p.1 p.2) =
      .ok (group.zipIdx.map fun p => svc.itemOf group.length startState p.1 p.2) := by
    have hpure : (fun p : TrajectoryPathDTO × Nat =>
        svc.sequenceItem group.length startState p.1 p.2) =
          fun p => pure (svc.itemOf group.length startState p.1 p.2) :=
      funext fun p => svc.sequenceItem_eq group.length startState p.1 p.2
    rw [hpure, List.mapM_pure]
    rfl
  rw [generateMotionSequenceRequest, hitems]
  rfl

theorem carries_itemOf {path : TrajectoryPathDTO} (hptp : path.motionType ≠ .PTP) (n : Nat)
    (startState : RobotState) (i : Nat) :
    Carries svc.constraintConfig (.pilz, svc.itemOf n startState path i) path where
  planner := by rw [if_neg hptp]
  lin hlin := by rw [itemOf, hlin]; rfl
  circ hcirc := by rw [itemOf, hcirc]; rfl
  targets := targets_buildPoseGoalConstraints path
  position := rfl
  orientation := rfl
  joint := rfl
  interim hcirc htype := by
    rw [itemOf, constraintsOf, if_pos hcirc, htype]
    rfl
  center hcirc htype := by
    rw [itemOf, constraintsOf, if_pos hcirc, htype]
    rfl

theorem carries_requestOf {group : Group} (hptp : ∀ path ∈ group, path.motionType ≠ .PTP)
    (startState : RobotState) : List.Forall₂ (Carries svc.constraintConfig)
      (PlannerMessage.sequence (svc.requestOf group startState)).read group := by
  have hfst : group = group.zipIdx.map Prod.fst := (List.zipIdx_map_fst 0 group).symm
  rw [PlannerMessage.read, requestOf, List.map_map]
  nth_rewrite 3 [hfst]
  rw [List.forall₂_map_left_iff, List.forall₂_map_right_iff, List.forall₂_same]
  intro p hp
  have hmem : p.1 ∈ group := by
    rw [hfst]
    exact List.mem_map_of_mem hp
  exact svc.carries_itemOf (hptp p.1 hmem) group.length startState p.2

theorem shaped_requestOf {group : Group} (hne : group ≠ [])
    (hblend : ∀ path ∈ group.dropLast, 0 < path.blendRadius) (planner : Planner)
    (startState : RobotState) :
    Shaped ⟨planner, group, startState⟩ (.sequence (svc.requestOf group startState)) := by
  have hlen : 0 < group.length := List.length_pos_iff.2 hne
  refine ⟨?_, ?_, hblend⟩
  · refine List.ext_getElem ?_ fun i hi hi' => ?_
    · simp [PlannerMessage.read, requestOf]
      omega
    · cases i with
      | zero => simp [PlannerMessage.read, requestOf, itemOf]
      | succ i => simp [PlannerMessage.read, requestOf, itemOf]
  · refine List.ext_getElem ?_ fun i hi hi' => ?_
    · simp [PlannerMessage.read, requestOf]
      omega
    · have hi : i < group.length := by simpa [PlannerMessage.read, requestOf] using hi
      by_cases hlast : i < group.length - 1
      · rw [List.getElem_append_left (by simpa using hlast)]
        simp [PlannerMessage.read, requestOf, itemOf, hlast]
      · have heq : i = group.length - 1 := by omega
        simp [PlannerMessage.read, requestOf, itemOf, heq]

end PilzPlannerService

namespace OmplPlannerService

variable (svc : OmplPlannerService)

theorem carries_buildMotionPlanRequest {path : TrajectoryPathDTO} (hptp : path.motionType = .PTP)
    (startState : RobotState) : List.Forall₂ (Carries svc.constraintConfig)
      (PlannerMessage.plan (svc.buildMotionPlanRequest path startState)).read [path] := by
  have hcirc : path.motionType ≠ .CIRC := by
    rw [hptp]
    decide
  have hpath : (svc.buildMotionPlanRequest path startState).pathConstraints =
      svc.buildPathConstraints path.toolFrame := rfl
  rw [buildPathConstraints_eq] at hpath
  refine .cons ⟨?_, ?_, ?_, targets_buildPoseGoalConstraints path, ?_, ?_, ?_, ?_, ?_⟩ .nil
  · rw [if_pos hptp]
  · intro hlin
    cases hptp.symm.trans hlin
  · exact fun h => absurd h hcirc
  · rw [hpath, arcPoint_of_ne hcirc, List.nil_append]
  · rw [hpath]
  · rw [hpath]
  · exact fun h => absurd h hcirc
  · exact fun h => absurd h hcirc

theorem shaped_buildMotionPlanRequest (planner : Planner) (path : TrajectoryPathDTO)
    (startState : RobotState) : Shaped ⟨planner, [path], startState⟩
      (.plan (svc.buildMotionPlanRequest path startState)) :=
  ⟨rfl, rfl, by simp⟩

end OmplPlannerService

/-! ### The whole goal -/

section Configured

variable (groupName : String) (dto : Option ConstraintConfigDTO) (planningTime : ℚ)
  (numPlanningAttempts : Int)

theorem configured_constraints :
    let c := configured groupName dto planningTime numPlanningAttempts
    c.pilz.constraintConfig = dto ∧ c.ompl.constraintConfig = dto ∧ c.pilz.planSeqClient = true ∧
      c.ompl.planClient = true := by
  cases dto <;> exact ⟨rfl, rfl, rfl, rfl⟩

variable {goal : TrajectoryGoalDTO}

theorem dispatch_group {g : Group} (hg : g ∈ goal.groups) (startState : RobotState) :
    ∃ m, (configured groupName dto planningTime numPlanningAttempts).dispatch
        ⟨selectService g, g, startState⟩ {} = .outstanding m ∧
      List.Forall₂ (Carries dto) m.read g ∧ Shaped ⟨selectService g, g, startState⟩ m := by
  have hconf := configured_constraints groupName dto planningTime numPlanningAttempts
  obtain ⟨hpilz, hompl, hseq, hplan⟩ := hconf
  set c := configured groupName dto planningTime numPlanningAttempts
  have hne := goal.ne_nil_of_mem_groups hg
  have hblend := goal.blendRadius_pos hg
  rcases goal.selectService_cases hg with ⟨hsel, path, hptp, rfl⟩ | ⟨hsel, hnot⟩
  · refine ⟨.plan (c.ompl.buildMotionPlanRequest path startState), ?_, ?_, ?_⟩
    · rw [hsel]
      simp [dispatch, planGroupAsync, OmplPlannerService.planGroupAsync, hplan, startStateInvalid]
    · rw [← hompl]
      exact c.ompl.carries_buildMotionPlanRequest hptp startState
    · exact c.ompl.shaped_buildMotionPlanRequest _ path startState
  · refine ⟨.sequence (c.pilz.requestOf g startState), ?_, ?_, ?_⟩
    · rw [hsel]
      simp [dispatch, planGroupAsync, PilzPlannerService.planGroupAsync, hseq,
        PilzPlannerService.generateMotionSequenceRequest_eq]
    · rw [← hpilz]
      exact c.pilz.carries_requestOf hnot startState
    · exact c.pilz.shaped_requestOf hne hblend _ startState

/-- The requests for the groups of a goal go out; read in order they carry the paths of the goal in
order, and each has the start state of its group and blends as its group does. -/
theorem goal_translated (goal : TrajectoryGoalDTO) (start : Nat → RobotState) :
    ∃ ms, List.Forall₂ (fun r m =>
        (configured groupName dto planningTime numPlanningAttempts).dispatch r {} = .outstanding m)
          (goal.requests start) ms ∧
      List.Forall₂ (Carries dto) (ms.flatMap PlannerMessage.read) goal.paths ∧
      List.Forall₂ Shaped (goal.requests start) ms := by
  have hrequests : ∀ r ∈ goal.requests start, ∃ m,
      (configured groupName dto planningTime numPlanningAttempts).dispatch r {} = .outstanding m ∧
        List.Forall₂ (Carries dto) m.read r.group ∧ Shaped r m := by
    intro r hr
    obtain ⟨⟨g, i⟩, hgi, rfl⟩ := List.mem_map.1 hr
    have hg : g ∈ goal.groups := by
      rw [← List.zipIdx_map_fst 0 goal.groups]
      exact List.mem_map_of_mem hgi
    exact dispatch_group groupName dto planningTime numPlanningAttempts hg (start i)
  obtain ⟨ms, hms⟩ := Fallible.exists_forall₂ hrequests
  refine ⟨ms, hms.imp fun _ _ h => h.1, ?_, hms.imp fun _ _ h => h.2.2⟩
  have hgroups : (goal.requests start).map (·.group) = goal.groups := by
    rw [TrajectoryGoalDTO.requests, List.map_map]
    exact List.zipIdx_map_fst 0 goal.groups
  have hread : List.Forall₂ (List.Forall₂ (Carries dto)) (ms.map PlannerMessage.read)
      ((goal.requests start).map (·.group)) := by
    rw [List.forall₂_map_left_iff, List.forall₂_map_right_iff]
    exact hms.flip.imp fun _ _ h => h.2.1
  rw [hgroups] at hread
  rw [← goal.flatten_groups, List.flatMap]
  exact List.rel_flatten hread

end Configured

end MovementController
