import MovementController.Configuration
import MovementController.Limits
import MovementController.Requests
import MovementController.Io.Config
import MovementController.Lib.Dict

/-!
# From the limits files to the requests

`launch.py` reads two YAML files, takes the strictest limits of the joints and gives them to the node
as parameters. The node makes its configuration of them, checks goals against it and scales the
requests to the planners with it.
-/

namespace MovementController
namespace Launch
open IoControllers (Yaml lookup)

/-! ### Python -/

/-- `raised` is an exception of what `launch.py` calls, with its class. -/
inductive LaunchError where
  | valueError (text : String)
  | fileNotFoundError (text : String)
  | keyError (text : String)
  | raised (exc : String)
deriving DecidableEq, Repr

/-- `less` is `<`, where `none` is a `TypeError`. -/
structure Python where
  less : Yaml → Yaml → Option Bool
  str : Yaml → String

def numeric : Yaml → Option ℚ
  | .bool b => some (if b then 1 else 0)
  | .int n => some n
  | .float q => some q
  | _ => none

/-- Numbers are ordered as numbers, and not ordered with anything else. -/
structure Python.Lawful (py : Python) : Prop where
  numbers : ∀ v w q r, numeric v = some q → numeric w = some r → py.less v w = some (decide (q < r))
  mixed : ∀ v w, (numeric v).isSome ≠ (numeric w).isSome → py.less v w = none

/-- `value[key]`. -/
def subscript (value : Yaml) (key : String) : Except LaunchError Yaml :=
  match value with
  | .dict items =>
    match lookup items key with
    | some value => .ok value
    | none => .error (.raised "KeyError")
  | _ => .error (.raised "TypeError")

/-- `value.get(key, default)`. -/
def get (value : Yaml) (key : String) (default : Yaml) : Except LaunchError Yaml :=
  match value with
  | .dict items => .ok ((lookup items key).getD default)
  | _ => .error (.raised "AttributeError")

/-- `value.items()`. -/
def items : Yaml → Except LaunchError (List (Yaml × Yaml))
  | .dict items => .ok items
  | _ => .error (.raised "AttributeError")

def isStr (key : String) : Yaml → Bool
  | .str s => s = key
  | _ => false

/-- `key in value`. -/
def contains (key : String) : Yaml → Except LaunchError Bool
  | .dict items => .ok (lookup items key).isSome
  | .list l | .set l => .ok (l.any (isStr key))
  | .pair k v => .ok (isStr key k || isStr key v)
  | .str s => .ok (s.toList.tails.any fun rest => key.toList.isPrefixOf rest)
  | _ => .error (.raised "TypeError")

/-- `float(value)`. -/
def float (value : Yaml) : Except LaunchError Yaml :=
  match value.toFloat with
  | some q => .ok (.float q)
  | none => .error (.raised "TypeError or ValueError")

/-- One round of `min`. -/
def smaller (py : Python) (least value : Yaml) : Except LaunchError Yaml :=
  match py.less value least with
  | some true => .ok value
  | some false => .ok least
  | none => .error (.raised "TypeError")

/-- `min(values)`. -/
def minimum (py : Python) : List Yaml → Except LaunchError Yaml
  | [] => .error (.raised "ValueError")
  | value :: values => values.foldlM (smaller py) value

/-! ### `launch.py` -/

def ROBOT_TYPES : List (String × List String) := [("ur", ["ur3", "ur5", "ur10", "ur3e", "ur5e", "ur7e",
  "ur10e", "ur12e", "ur16e", "ur8long", "ur15", "ur18", "ur20", "ur30"])]

def getRobotFamily (modelValue : String) : Except LaunchError String :=
  match ROBOT_TYPES.find? fun family => modelValue ∈ family.2 with
  | some (family, _) => .ok family
  | none => .error (.valueError
    s!"Model '{modelValue}' does not map to any known robot family in ROBOT_TYPES.")

/-- The package share directory. `load` is `yaml.safe_load` of a file. -/
structure Share where
  path : String
  isFile : String → Bool
  load : String → Except LaunchError Yaml

namespace Share

variable (share : Share)

def jointLimitsFile : String := share.path ++ "/config/joint_limits.yaml"

def cartesianLimitsFile : String := share.path ++ "/config/pilz_cartesian_limits.yaml"

/-- An empty file is an empty mapping. -/
def read (what file : String) : Except LaunchError Yaml :=
  if share.isFile file then
    (share.load file).map fun data => if data.toBool then data else .dict []
  else .error (.fileNotFoundError s!"{what} file not found: {file}")

end Share

def jointNames : List String := ["shoulder_pan_joint", "shoulder_lift_joint", "elbow_joint",
  "wrist_1_joint", "wrist_2_joint", "wrist_3_joint"]

/-- The values at `key` of the joints of the robot that have `flag` set. -/
def limitsOf (flag key : String) : List (Yaml × Yaml) → Except LaunchError (List Yaml)
  | [] => .ok []
  | (name, joint) :: joints =>
    if jointNames.any fun jointName => isStr jointName name then do
      let has ← get joint flag (.bool false)
      if has.toBool then do
        let limit ← subscript joint key
        let limits ← limitsOf flag key joints
        return limit :: limits
      else limitsOf flag key joints
    else limitsOf flag key joints

def loadSpeedAndAccelerationConstraints (py : Python) (share : Share) (family : String) :
    Except LaunchError (Dict String Yaml) := do
  let jointData ← share.read "Speed and acceleration constraints" share.jointLimitsFile
  let cartesianData ← share.read "Speed and acceleration constraints" share.cartesianLimitsFile
  if family = "ur" then do
    let joints ← subscript jointData "joint_limits" >>= items
    let lowestVelocityLimit ← limitsOf "has_velocity_limits" "max_velocity" joints >>= minimum py
    let lowestAccelerationLimit ←
      limitsOf "has_acceleration_limits" "max_acceleration" joints >>= minimum py
    let present ← contains "cartesian_limits" cartesianData
    if present then do
      let cartesianLimits ← subscript cartesianData "cartesian_limits"
      let maxCartesianSpeed ← get cartesianLimits "max_trans_vel" (.float 1)
      let maxCartesianAcceleration ← get cartesianLimits "max_trans_acc" (.float (9 / 4))
      return [("constraints.max_cartesian_speed", maxCartesianSpeed),
        ("constraints.max_cartesian_acceleration", maxCartesianAcceleration),
        ("constraints.max_joint_speed", lowestVelocityLimit),
        ("constraints.max_joint_acceleration", lowestAccelerationLimit)]
    else .error (.keyError
      s!"Cartesian limits file {share.cartesianLimitsFile} has no 'cartesian_limits'.")
  else .error (.valueError s!"No joint limits defined for robot family '{family}'.")

/-- One round of the loop of `load_joint_position_limits`. -/
def positionLimits (py : Python) (share : Share) (params : Dict String Yaml) (entry : Yaml × Yaml) :
    Except LaunchError (Dict String Yaml) := do
  let (name, limits) := entry
  let has ← get limits "has_position_limits" (.bool false)
  if has.toBool then do
    let hasMin ← contains "min_position" limits
    let hasMax ← contains "max_position" limits
    if hasMin && hasMax then do
      let minPosition ← subscript limits "min_position" >>= float
      let maxPosition ← subscript limits "max_position" >>= float
      let start := "robot_description_planning.joint_limits." ++ py.str name
      return Dict.set (Dict.set (Dict.set params (start ++ ".has_position_limits") (.bool true))
        (start ++ ".min_position") minPosition) (start ++ ".max_position") maxPosition
    else .error (.keyError (s!"Joint '{py.str name}' declares has_position_limits but is missing " ++
      s!"min_position/max_position in {share.jointLimitsFile}"))
  else return params

def loadJointPositionLimits (py : Python) (share : Share) (family : String) :
    Except LaunchError (Dict String Yaml) := do
  if family = "ur" then do
    let jointData ← share.read "Joint limits" share.jointLimitsFile
    let joints ← get jointData "joint_limits" (.dict []) >>= items
    joints.foldlM (positionLimits py share) []
  else .error (.valueError s!"No joint position limits defined for robot family '{family}'.")

/-- Of what is launched: the driver launch file, the parameters of `move_group` and of the node, and
whether the nodes wait for `robot_launched`. -/
structure Launched where
  driver : String
  useSimTime : Bool
  moveGroup : Dict String Yaml
  movementController : Dict String Yaml
  afterRobot : Bool

def driverLaunchFile (share : Share) (family : String) (isSimulated : Bool) : String :=
  share.path ++ s!"/launch/{family}_launch/" ++
    if isSimulated then "gz_sim.launch.py" else "hardware.launch.py"

def setupRobotNodes (py : Python) (share : Share) (modelValue simulatedValue : String) :
    Except LaunchError Launched := do
  let isSimulated : Bool := simulatedValue.toLower ∈ ["true", "1", "yes", "on"]
  let family ← getRobotFamily modelValue
  let driver := driverLaunchFile share family isSimulated
  if share.isFile driver then do
    let constraints ← loadSpeedAndAccelerationConstraints py share family
    let moveGroup ← loadJointPositionLimits py share family
    return {
      driver
      useSimTime := isSimulated
      moveGroup
      movementController := constraints
      afterRobot := !isSimulated }
  else .error (.fileNotFoundError s!"Vendor launch file not found for family '{family}': {driver}")

/-- A parameter that is declared with a double takes no value of another type. -/
def declareDouble (overrides : Dict String Yaml) (name : String) (default : ℚ) : Option ℚ :=
  match Dict.get overrides name with
  | none => some default
  | some (.float value) => some value
  | some _ => none

/-- The parameters that `__init__` declares; `none` when it raises. Of those that `on_configure` reads
the launch gives the four caps. -/
def declareParameters (overrides : Dict String Yaml) : Option Parameters := do
  let maxCartesianSpeed ← declareDouble overrides "constraints.max_cartesian_speed" 0
  let maxCartesianAcceleration ← declareDouble overrides "constraints.max_cartesian_acceleration" 0
  let maxJointSpeed ← declareDouble overrides "constraints.max_joint_speed" 0
  let maxJointAcceleration ← declareDouble overrides "constraints.max_joint_acceleration" 0
  return { maxCartesianSpeed, maxCartesianAcceleration, maxJointSpeed, maxJointAcceleration }

/-! ### The strictest limit -/

/-- The entry of `joint_limits` is for a joint of the robot and limits it to the value. -/
def Sets (flag key : String) : Yaml × Yaml → Yaml → Prop
  | (.str name, .dict joint), value =>
    name ∈ jointNames ∧ (lookup joint flag).any (·.toBool) ∧ lookup joint key = some value
  | _, _ => False

def JointLimit (flag key : String) (joints : List (Yaml × Yaml)) (q : ℚ) : Prop :=
  ∃ entry ∈ joints, ∃ value, Sets flag key entry value ∧ numeric value = some q

/-- `cap` is a limit, and no limit is stricter. -/
structure Strictest (limit : ℚ → Prop) (cap : ℚ) : Prop where
  mem : limit cap
  le : ∀ q, limit q → cap ≤ q

variable {py : Python} {flag key : String} {joints : List (Yaml × Yaml)} {values : List Yaml}
  {value least next default : Yaml} {q : ℚ}

theorem subscript_ok (h : subscript value key = .ok next) :
    ∃ items, value = .dict items ∧ lookup items key = some next := by
  unfold subscript at h
  split at h
  · next items =>
    split at h
    · next hlookup => exact ⟨items, rfl, hlookup.trans (congrArg some (Except.ok.inj h))⟩
    · cases h
  · cases h

theorem get_ok (h : get value key default = .ok next) :
    ∃ items, value = .dict items ∧ next = (lookup items key).getD default := by
  unfold get at h
  split at h
  · next items => exact ⟨items, rfl, (Except.ok.inj h).symm⟩
  · cases h

theorem items_ok (h : items value = .ok joints) : value = .dict joints := by
  unfold items at h
  split at h
  · rw [← Except.ok.inj h]
  · cases h

theorem toBool_getD (l : List (Yaml × Yaml)) (key : String) :
    ((lookup l key).getD (.bool false)).toBool = (lookup l key).any (·.toBool) := by
  cases lookup l key <;> rfl

theorem isStr_iff : isStr key value = true ↔ value = .str key := by
  cases value <;> simp [isStr]

theorem limitsOf_cons {entry : Yaml × Yaml} (h : limitsOf flag key (entry :: joints) = .ok values) :
    ∃ rest, limitsOf flag key joints = .ok rest ∧
      ∀ value, value ∈ values ↔ Sets flag key entry value ∨ value ∈ rest := by
  obtain ⟨name, joint⟩ := entry
  rw [limitsOf] at h
  split_ifs at h with hname
  · obtain ⟨jointName, hmem, hstr⟩ := List.any_eq_true.1 hname
    obtain rfl := isStr_iff.1 hstr
    obtain ⟨has, hhas, h⟩ := Fallible.bind_ok h
    obtain ⟨limits, rfl, rfl⟩ := get_ok hhas
    rw [toBool_getD] at h
    split_ifs at h with hflag
    · obtain ⟨limit, hlimit, h⟩ := Fallible.bind_ok h
      obtain ⟨rest, hrest, h⟩ := Fallible.bind_ok h
      obtain ⟨_, ⟨⟩, hlookup⟩ := subscript_ok hlimit
      refine ⟨rest, hrest, fun value => ?_⟩
      rw [← Except.ok.inj h, List.mem_cons, Sets, hlookup, Option.some.injEq, eq_comm]
      simp [hmem, hflag]
    · exact ⟨values, h, fun value => by simp [Sets, hflag]⟩
  · refine ⟨values, h, fun value => ?_⟩
    have hnot : ¬Sets flag key (name, joint) value := by
      intro hsets
      unfold Sets at hsets
      split at hsets
      · next jointName limits heq =>
        obtain ⟨rfl, -⟩ := Prod.mk.inj heq
        exact hname (List.any_eq_true.2 ⟨jointName, hsets.1, isStr_iff.2 rfl⟩)
      · exact hsets
    simp [hnot]

/-- The values that `min` gets are those of the joints. -/
theorem mem_limitsOf (h : limitsOf flag key joints = .ok values) :
    value ∈ values ↔ ∃ entry ∈ joints, Sets flag key entry value := by
  induction joints generalizing values with
  | nil =>
    rw [← Except.ok.inj h]
    simp
  | cons entry joints ih =>
    obtain ⟨rest, hrest, hmem⟩ := limitsOf_cons h
    rw [hmem, ih hrest, List.exists_mem_cons_iff]

/-- Of two values one of which is a number both are, if they can be compared. -/
theorem smaller_ok (hpy : py.Lawful) (h : smaller py least value = .ok next)
    (hq : numeric next = some q) : ∃ l v, numeric least = some l ∧ numeric value = some v ∧
      q ≤ l ∧ q ≤ v ∧ (next = least ∨ next = value) := by
  have hboth : (numeric value).isSome = (numeric least).isSome := by
    by_contra hne
    rw [smaller, hpy.mixed value least hne] at h
    cases h
  have hchoice : next = least ∨ next = value := by
    unfold smaller at h
    split at h
    · exact .inr (Except.ok.inj h).symm
    · exact .inl (Except.ok.inj h).symm
    · cases h
  have hsome : (numeric value).isSome ∧ (numeric least).isSome := by
    rcases hchoice with rfl | rfl <;> simp_all
  obtain ⟨v, hv⟩ := Option.isSome_iff_exists.1 hsome.1
  obtain ⟨l, hl⟩ := Option.isSome_iff_exists.1 hsome.2
  refine ⟨l, v, hl, hv, ?_⟩
  rw [smaller, hpy.numbers value least v l hv hl] at h
  by_cases hlt : v < l
  · rw [decide_eq_true hlt] at h
    obtain rfl := Except.ok.inj h
    obtain rfl := Option.some.inj (hv.symm.trans hq)
    exact ⟨hlt.le, le_refl v, .inr rfl⟩
  · rw [decide_eq_false hlt] at h
    obtain rfl := Except.ok.inj h
    obtain rfl := Option.some.inj (hl.symm.trans hq)
    exact ⟨le_refl l, not_lt.1 hlt, .inl rfl⟩

/-- A minimum that is a number is one of the values, all of which are numbers. -/
theorem foldlM_smaller_ok (hpy : py.Lawful) (h : values.foldlM (smaller py) least = .ok value)
    (hq : numeric value = some q) : (∀ v ∈ least :: values, ∃ r, numeric v = some r ∧ q ≤ r) ∧
      value ∈ least :: values := by
  induction values generalizing least with
  | nil =>
    obtain rfl := Except.ok.inj h
    simp [hq]
  | cons w values ih =>
    rw [List.foldlM_cons] at h
    obtain ⟨next, hnext, h⟩ := Fallible.bind_ok h
    obtain ⟨hle, hmem⟩ := ih h
    obtain ⟨hnumber, hle⟩ := List.forall_mem_cons.1 hle
    obtain ⟨r, hr, hqr⟩ := hnumber
    obtain ⟨l, v, hl, hv, hrl, hrv, hchoice⟩ := smaller_ok hpy hnext hr
    refine ⟨?_, ?_⟩
    · rw [List.forall_mem_cons, List.forall_mem_cons]
      exact ⟨⟨l, hl, hqr.trans hrl⟩, ⟨v, hv, hqr.trans hrv⟩, hle⟩
    · rcases List.mem_cons.1 hmem with rfl | hmem
      · rcases hchoice with rfl | rfl
        · exact List.mem_cons_self
        · exact List.mem_cons_of_mem _ List.mem_cons_self
      · exact List.mem_cons_of_mem _ (List.mem_cons_of_mem _ hmem)

theorem strictest_of_minimum (hpy : py.Lawful) (hlimits : limitsOf flag key joints = .ok values)
    (h : minimum py values = .ok (.float q)) : Strictest (JointLimit flag key joints) q := by
  cases values with
  | nil => cases h
  | cons least values =>
    obtain ⟨hle, hmem⟩ := foldlM_smaller_ok hpy h rfl
    obtain ⟨entry, hentry, hsets⟩ := (mem_limitsOf hlimits).1 hmem
    refine ⟨⟨entry, hentry, _, hsets, rfl⟩, ?_⟩
    rintro q' ⟨entry', hentry', value, hsets', hnumeric⟩
    obtain ⟨r, hr, hqr⟩ := hle value ((mem_limitsOf hlimits).2 ⟨entry', hentry', hsets'⟩)
    exact hqr.trans (Option.some.inj (hr.symm.trans hnumeric)).le

/-! ### The configuration of the node -/

/-- A limit of the tool. A file that does not set it leaves the default. -/
def CartesianLimit (key : String) (default : ℚ) (limits : List (Yaml × Yaml)) (q : ℚ) : Prop :=
  (lookup limits key).getD (.float default) = .float q

/-- The limits of speed and acceleration for a path of the motion type. -/
def limitsFor (joints cartesian : List (Yaml × Yaml)) (motionType : MotionTypeEnum) :
    (ℚ → Prop) × (ℚ → Prop) :=
  if motionType = .PTP then
    (JointLimit "has_velocity_limits" "max_velocity" joints,
      JointLimit "has_acceleration_limits" "max_acceleration" joints)
  else
    (CartesianLimit "max_trans_vel" 1 cartesian, CartesianLimit "max_trans_acc" (9 / 4) cartesian)

/-- What the limits files hold. -/
structure Share.Holds (share : Share) (joints cartesian : List (Yaml × Yaml)) : Prop where
  joints : ∃ data, share.load share.jointLimitsFile = .ok (.dict data) ∧
    lookup data "joint_limits" = some (.dict joints)
  cartesian : ∃ data, share.load share.cartesianLimitsFile = .ok (.dict data) ∧
    lookup data "cartesian_limits" = some (.dict cartesian)

theorem read_ok {share : Share} {what file : String} {data : List (Yaml × Yaml)}
    (h : share.read what file = .ok (.dict data)) (hne : data ≠ []) :
    share.load file = .ok (.dict data) := by
  unfold Share.read at h
  split at h
  · obtain ⟨loaded, hload, heq⟩ := Fallible.map_ok h
    split at heq
    · rw [hload, heq]
    · exact absurd (Yaml.dict.inj heq).symm hne
  · cases h

theorem ne_nil_of_lookup {data : List (Yaml × Yaml)} (h : lookup data key = some value) : data ≠ [] := by
  rintro rfl
  cases h

theorem strictest_cartesian {limits : List (Yaml × Yaml)} {d : ℚ}
    (h : (lookup limits key).getD (.float d) = .float q) : Strictest (CartesianLimit key d limits) q :=
  ⟨h, fun _ hq => (Yaml.float.inj (h.symm.trans hq)).le⟩

theorem declareDouble_some {overrides : Dict String Yaml} {name : String} {d : ℚ}
    (hget : Dict.get overrides name = some value) (h : declareDouble overrides name d = some q) :
    value = .float q := by
  unfold declareDouble at h
  rw [hget] at h
  split at h
  · next hnone => cases hnone
  · next hsome => rw [Option.some.inj hsome, Option.some.inj h]
  · cases h

theorem declareParameters_some {overrides : Dict String Yaml} {p : Parameters}
    (h : declareParameters overrides = some p) :
    declareDouble overrides "constraints.max_cartesian_speed" 0 = some p.maxCartesianSpeed ∧
    declareDouble overrides "constraints.max_cartesian_acceleration" 0 =
      some p.maxCartesianAcceleration ∧
    declareDouble overrides "constraints.max_joint_speed" 0 = some p.maxJointSpeed ∧
    declareDouble overrides "constraints.max_joint_acceleration" 0 = some p.maxJointAcceleration := by
  obtain ⟨_, hcartesianSpeed, h⟩ := Option.bind_eq_some_iff.1 h
  obtain ⟨_, hcartesianAcceleration, h⟩ := Option.bind_eq_some_iff.1 h
  obtain ⟨_, hjointSpeed, h⟩ := Option.bind_eq_some_iff.1 h
  obtain ⟨_, hjointAcceleration, h⟩ := Option.bind_eq_some_iff.1 h
  obtain rfl := Option.some.inj h
  exact ⟨hcartesianSpeed, hcartesianAcceleration, hjointSpeed, hjointAcceleration⟩

theorem strictest_of_limitsOf (hpy : py.Lawful)
    (h : (limitsOf flag key joints >>= minimum py) = .ok (.float q)) :
    Strictest (JointLimit flag key joints) q := by
  obtain ⟨values, hlimits, hmin⟩ := Fallible.bind_ok h
  exact strictest_of_minimum hpy hlimits hmin

/-- The parameters of the node are the strictest limits of the files. -/
theorem strictest_of_load (hpy : py.Lawful) {share : Share} {family : String}
    {overrides : Dict String Yaml}
    (h : loadSpeedAndAccelerationConstraints py share family = .ok overrides) {p : Parameters}
    (hp : declareParameters overrides = some p) :
    ∃ joints cartesian, share.Holds joints cartesian ∧
      Strictest (JointLimit "has_velocity_limits" "max_velocity" joints) p.maxJointSpeed ∧
      Strictest (JointLimit "has_acceleration_limits" "max_acceleration" joints)
        p.maxJointAcceleration ∧
      Strictest (CartesianLimit "max_trans_vel" 1 cartesian) p.maxCartesianSpeed ∧
      Strictest (CartesianLimit "max_trans_acc" (9 / 4) cartesian) p.maxCartesianAcceleration := by
  unfold loadSpeedAndAccelerationConstraints at h
  obtain ⟨jointData, hjointData, h⟩ := Fallible.bind_ok h
  obtain ⟨cartesianData, hcartesianData, h⟩ := Fallible.bind_ok h
  split_ifs at h
  obtain ⟨joints, hjoints, h⟩ := Fallible.bind_ok h
  obtain ⟨velocity, hvelocity, h⟩ := Fallible.bind_ok h
  obtain ⟨acceleration, hacceleration, h⟩ := Fallible.bind_ok h
  obtain ⟨present, -, h⟩ := Fallible.bind_ok h
  split_ifs at h
  obtain ⟨limits, hlimits, h⟩ := Fallible.bind_ok h
  obtain ⟨speed, hspeed, h⟩ := Fallible.bind_ok h
  obtain ⟨accel, haccel, h⟩ := Fallible.bind_ok h
  have hoverrides := Except.ok.inj h
  clear h
  -- what the node is given are the four values
  obtain ⟨hp₁, hp₂, hp₃, hp₄⟩ := declareParameters_some hp
  have hget {name : String} {value : Yaml} (hget : Dict.get [("constraints.max_cartesian_speed", speed),
      ("constraints.max_cartesian_acceleration", accel), ("constraints.max_joint_speed", velocity),
      ("constraints.max_joint_acceleration", acceleration)] name = some value) :
      Dict.get overrides name = some value := by
    rw [← hoverrides]
    exact hget
  have hspeed' := declareDouble_some (hget rfl) hp₁
  have haccel' := declareDouble_some (hget rfl) hp₂
  have hvelocity' := declareDouble_some (hget rfl) hp₃
  have hacceleration' := declareDouble_some (hget rfl) hp₄
  -- where they come from
  obtain ⟨value, hvalue, hitems⟩ := Fallible.bind_ok hjoints
  have hdict := items_ok hitems
  obtain ⟨jointItems, hjointItems, hlookup⟩ := subscript_ok hvalue
  obtain ⟨cartesianItems, hcartesianItems, hlookup'⟩ := subscript_ok hlimits
  obtain ⟨cartesian, hcartesian, hspeed⟩ := get_ok hspeed
  obtain ⟨_, hcartesian', haccel⟩ := get_ok haccel
  rw [hcartesian] at hcartesian' hlookup'
  rw [hdict] at hlookup
  obtain rfl := Yaml.dict.inj hcartesian'
  rw [hjointItems] at hjointData
  rw [hcartesianItems] at hcartesianData
  refine ⟨joints, cartesian, ⟨⟨_, read_ok hjointData (ne_nil_of_lookup hlookup), hlookup⟩,
    ⟨_, read_ok hcartesianData (ne_nil_of_lookup hlookup'), hlookup'⟩⟩,
    strictest_of_limitsOf hpy (hvelocity' ▸ hvelocity),
    strictest_of_limitsOf hpy (hacceleration' ▸ hacceleration),
    strictest_cartesian (hspeed.symm.trans hspeed'), strictest_cartesian (haccel.symm.trans haccel')⟩

theorem setupRobotNodes_ok {share : Share} {model simulated : String} {launched : Launched}
    (h : setupRobotNodes py share model simulated = .ok launched) : ∃ family,
      loadSpeedAndAccelerationConstraints py share family = .ok launched.movementController := by
  unfold setupRobotNodes at h
  obtain ⟨family, -, h⟩ := Fallible.bind_ok h
  dsimp only at h
  split_ifs at h
  obtain ⟨constraints, hload, h⟩ := Fallible.bind_ok h
  obtain ⟨moveGroup, -, h⟩ := Fallible.bind_ok h
  refine ⟨family, hload.trans (congrArg Except.ok ?_)⟩
  rw [← Except.ok.inj h]

theorem strictest_of_launch (hpy : py.Lawful) {share : Share} {model simulated : String}
    {launched : Launched} (h : setupRobotNodes py share model simulated = .ok launched)
    {p : Parameters} (hp : declareParameters launched.movementController = some p) :
    ∃ joints cartesian, share.Holds joints cartesian ∧
      ∀ dto, ConstraintConfigDTO.ofParameters p = .ok dto → ∀ motionType,
        Strictest (limitsFor joints cartesian motionType).1 (dto.caps motionType).1 ∧
          Strictest (limitsFor joints cartesian motionType).2 (dto.caps motionType).2 := by
  obtain ⟨family, hload⟩ := setupRobotNodes_ok h
  obtain ⟨joints, cartesian, hholds, hvelocity, hacceleration, hspeed, haccel⟩ :=
    strictest_of_load hpy hload hp
  refine ⟨joints, cartesian, hholds, fun dto hdto motionType => ?_⟩
  have hcaps : dto.maxJointSpeed = p.maxJointSpeed ∧ dto.maxJointAcceleration = p.maxJointAcceleration ∧
      dto.maxCartesianSpeed = p.maxCartesianSpeed ∧
      dto.maxCartesianAcceleration = p.maxCartesianAcceleration := by
    unfold ConstraintConfigDTO.ofParameters at hdto
    split_ifs at hdto
    rw [← Except.ok.inj hdto]
    exact ⟨rfl, rfl, rfl, rfl⟩
  obtain ⟨h₁, h₂, h₃, h₄⟩ := hcaps
  unfold limitsFor ConstraintConfigDTO.caps
  split_ifs
  · rw [h₁, h₂]
    exact ⟨hvelocity, hacceleration⟩
  · rw [h₃, h₄]
    exact ⟨hspeed, haccel⟩

/-! ### The requests -/

/-- Where all limits are positive, a positive request is within all of them, and of the strictest one
the factor makes what was requested. A limit that is not positive lifts the cap, and the factor is 1. -/
structure Obeys (limit : ℚ → Prop) (requested factor : ℚ) : Prop where
  scaled : (∀ q, limit q → 0 < q) → 0 < requested →
    (0 < factor ∧ factor ≤ 1) ∧ (∀ q, limit q → requested ≤ q) ∧
      ∃ q, Strictest limit q ∧ factor * q = requested
  lifted : ∀ q, limit q → q ≤ 0 → factor = 1

theorem Strictest.obeys {limit : ℚ → Prop} {cap requested factor : ℚ} (h : Strictest limit cap)
    (hwithin : ConstraintConfigDTO.Within requested cap) (hscaled : Scaled requested cap factor) :
    Obeys limit requested factor := by
  refine ⟨fun hpositive hrequested => ?_, fun q hq hle => hscaled.uncapped ((h.le q hq).trans hle)⟩
  have hcap : 0 < cap := hpositive cap h.mem
  have hle : requested ≤ cap := hwithin hrequested hcap
  rw [hscaled.capped hcap, min_eq_right ((div_le_one hcap).2 hle)]
  exact ⟨⟨div_pos hrequested hcap, (div_le_one hcap).2 hle⟩, fun q hq => hle.trans (h.le q hq),
    cap, h, div_mul_cancel₀ requested hcap.ne'⟩

end Launch

namespace Execution

/-- Goals are accepted that `validate_goal` lets through. -/
def Checked (cfg : Option ConstraintConfigDTO) (_ : State) : Label → Prop
  | .accept goal => ∀ dto ∈ cfg, dto.validateGoal goal = .ok ()
  | _ => True

theorem checked_step {cfg : Option ConstraintConfigDTO} {w w' : State} {l : Label} (hw : Sound w)
    (h : ∀ g ∈ w.goals, ∀ dto ∈ cfg, dto.validateGoal g.goal = .ok ()) (hl : Checked cfg w l)
    (hs : step w l = some w') : ∀ g ∈ w'.goals, ∀ dto ∈ cfg, dto.validateGoal g.goal = .ok () := by
  intro k hk
  cases step_cases hs with
  | accept goal hc =>
    rcases State.mem_goals.1 hk with hfin | hcur
    · exact h k (State.mem_goals.2 (.inl hfin))
    · obtain rfl := Option.some.inj hcur
      exact hl
  | cancel g hg =>
    rcases State.mem_goals.1 hk with hfin | hcur
    · exact h k (State.mem_goals.2 (.inl hfin))
    · obtain rfl := Option.some.inj hcur
      exact h g (State.mem_goals.2 (.inr hg))
  | deliver i answer call p hd => exact h k hk
  | thread a g hg p g' ha =>
    rcases State.mem_goals_advance.1 hk with hfin | rfl
    · exact h k (State.mem_goals.2 (.inl hfin))
    · rw [(ha.session hw.coherent).1]
      exact h g (State.mem_goals.2 (.inr hg))

theorem checked_of_runs {cfg : Option ConstraintConfigDTO} {c : PlanningCoordinator} {w : State}
    (h : Lts.Runs step (Checked cfg) (init c) w) :
    ∀ g ∈ w.goals, ∀ dto ∈ cfg, dto.validateGoal g.goal = .ok () := by
  have hboth := h.invariant
    (I := fun w => Sound w ∧ ∀ g ∈ w.goals, ∀ dto ∈ cfg, dto.validateGoal g.goal = .ok ())
    ⟨.init c, by simp [init, State.goals]⟩ fun hw hl hs => ⟨hw.1.step hs, checked_step hw.1 hw.2 hl hs⟩
  exact hboth.2

end Execution

namespace Launch
open IoControllers (Yaml)
open BasePlannerService PlanningCoordinator

/-- From the limits files of the launch to the requests on the wire. However the planner responses and
cancel requests interleave, every item of every request for a goal that the node let through obeys the
limits that the files set for its motion type, where the numbers in the files are finite and taken
exactly. -/
theorem launched_limits_hold (hpy : py.Lawful) {share : Share} {model simulated : String}
    {launched : Launched} (hlaunch : setupRobotNodes py share model simulated = .ok launched)
    {p : Parameters} (hp : declareParameters launched.movementController = some p)
    {n n' : Configuration.Node} {raises : Configuration.ConfigurePoint → Bool}
    (hconf : n.onConfigure p raises = (n', .SUCCESS)) :
    ∃ joints cartesian, share.Holds joints cartesian ∧
      ∃ c, (n'.onActivate none).1.plannerService = some c ∧
      ∀ w, Lts.Runs Execution.step (Execution.Checked n'.constraintConfig) (Execution.init c) w →
        ∀ o ∈ w.plan.sent, ∀ r m, o.ask = .plan r m →
          List.Forall₂ (fun read path =>
            Obeys (limitsFor joints cartesian path.motionType).1 path.requested.1
              read.2.req.maxVelocityScalingFactor ∧
            Obeys (limitsFor joints cartesian path.motionType).2 path.requested.2
              read.2.req.maxAccelerationScalingFactor) m.read r.group := by
  obtain ⟨joints, cartesian, hholds, hstrictest⟩ := strictest_of_launch hpy hlaunch hp
  refine ⟨joints, cartesian, hholds, ?_⟩
  unfold Configuration.Node.onConfigure at hconf
  split at hconf
  · cases (Prod.mk.inj hconf).2
  · next n₀ htry =>
    obtain ⟨dto, hdto, rfl⟩ := Configuration.tryConfigure_ok htry
    obtain rfl := (Prod.mk.inj hconf).1
    refine ⟨configured p.moveitGroupName (some dto) p.omplPlanningTime p.omplPlanningAttempts, rfl,
      fun w h o ho r m hask => ?_⟩
    obtain ⟨hw, hbooked, hordered⟩ := Execution.ordered_of_runs _ _ _ _ h
    have hchecked := Execution.checked_of_runs h
    obtain ⟨⟨g, hg, -, -, hgroup⟩, -, hmessage⟩ := hbooked.request hw hordered ho hask
    have htuned := tuned_of_dispatch _ _ _ _ hgroup r.startState hmessage
    refine List.forall₂_iff_zip.2 ⟨htuned.length_eq, fun {read path} hmem => ?_⟩
    have hitem := (List.forall₂_iff_zip.1 htuned).2 hmem
    have hpath : path ∈ g.goal.paths := by
      rw [← g.goal.flatten_groups]
      exact List.mem_flatten_of_mem hgroup (List.of_mem_zip hmem).2
    obtain ⟨hspeed, hacceleration⟩ := dto.validateGoal_ok_iff.1 (hchecked g hg dto rfl) path hpath
    obtain ⟨hstrictest, hstrictest'⟩ := hstrictest dto hdto path.motionType
    exact ⟨hstrictest.obeys hspeed (hitem.velocity dto rfl),
      hstrictest'.obeys hacceleration (hitem.acceleration dto rfl)⟩

/-- Of `<`, what numbers need. -/
def numbersOnly : Python where
  less v w := (numeric v).bind fun q => (numeric w).map fun r => decide (q < r)
  str := fun
    | .str s => s
    | _ => ""

theorem numbersOnly_lawful : numbersOnly.Lawful := by
  refine ⟨fun v w q r hv hw => ?_, fun v w hne => ?_⟩
  · simp [numbersOnly, hv, hw]
  · unfold numbersOnly
    dsimp only
    cases hv : numeric v <;> cases hw : numeric w <;> simp_all

/-- The elbow is slower than the shoulder, and what is not a joint of the robot has no say. -/
def slowElbow : List (Yaml × Yaml) := [
  (.str "shoulder_pan_joint", .dict [
    (.str "has_velocity_limits", .bool true), (.str "max_velocity", .float 3),
    (.str "has_acceleration_limits", .bool true), (.str "max_acceleration", .float 4)]),
  (.str "elbow_joint", .dict [
    (.str "has_velocity_limits", .bool true), (.str "max_velocity", .float 2)]),
  (.str "gripper_joint", .dict [
    (.str "has_velocity_limits", .bool true), (.str "max_velocity", .float 1)])]

def slowElbowShare : Share where
  path := "/share"
  isFile _ := true
  load file :=
    if file = "/share/config/joint_limits.yaml" then .ok (.dict [(.str "joint_limits", .dict slowElbow)])
    else .ok (.dict [(.str "cartesian_limits", .dict [(.str "max_trans_vel", .float (1 / 2))])])

def elbowPath : TrajectoryPathDTO :=
  { TrajectoryPathDTO.atOrigin "66666666-6666-4666-8666-666666666666" .PTP (by decide) with
    jointSpeed := 1
    jointAcceleration := 4 }

def elbowGoal : TrajectoryGoalDTO := ⟨[elbowPath], by decide, by decide⟩

def elbowParameters : Parameters where
  maxCartesianSpeed := 1 / 2
  maxCartesianAcceleration := 9 / 4
  maxJointSpeed := 2
  maxJointAcceleration := 4

def elbowNode : Configuration.Node :=
  (Configuration.Node.onConfigure {} elbowParameters fun _ => false).1

/-- The scaling factors on the wire. -/
def factors (w : Execution.State) : List (ℚ × ℚ) :=
  w.plan.sent.flatMap fun o =>
    match o.ask with
    | .plan _ m => m.read.map fun read =>
      (read.2.req.maxVelocityScalingFactor, read.2.req.maxAccelerationScalingFactor)
    | .scene => []

theorem launched_limits_hold_slowElbow : ∃ (launched : Launched) (w : Execution.State)
    (joints cartesian : List (Yaml × Yaml)),
    setupRobotNodes numbersOnly slowElbowShare "ur10e" "false" = .ok launched ∧
    slowElbowShare.Holds joints cartesian ∧ factors w = [(1 / 2, 1)] ∧
    ∀ o ∈ w.plan.sent, ∀ r m, o.ask = .plan r m →
      List.Forall₂ (fun read path =>
        Obeys (limitsFor joints cartesian path.motionType).1 path.requested.1
          read.2.req.maxVelocityScalingFactor ∧
        Obeys (limitsFor joints cartesian path.motionType).2 path.requested.2
          read.2.req.maxAccelerationScalingFactor) m.read r.group := by
  have hlaunch : setupRobotNodes numbersOnly slowElbowShare "ur10e" "false" = .ok _ := rfl
  have hconf : ({} : Configuration.Node).onConfigure elbowParameters (fun _ => false) =
    (elbowNode, .SUCCESS) := rfl
  have hvalid (w : Execution.State) :
      Execution.Checked elbowNode.constraintConfig w (.accept elbowGoal) := by
    rintro _ ⟨⟩
    decide +kernel
  obtain ⟨joints, cartesian, hholds, c, hc, hruns⟩ :=
    launched_limits_hold numbersOnly_lawful hlaunch rfl hconf
  obtain rfl : configured "ur_manipulator" elbowNode.constraintConfig 5 10 = c := Option.some.inj hc
  have hrun : Lts.Trace Execution.step (Execution.Checked elbowNode.constraintConfig)
      (Execution.init (configured "ur_manipulator" elbowNode.constraintConfig 5 10))
      [.accept elbowGoal, .thread (.start true), .thread .planAll, .thread (.requestScene .available),
        .deliver 0 (.scene (.value (some {}))) fun _ => {}] _ :=
    .cons (hvalid _) rfl <| .cons trivial rfl <| .cons trivial rfl <| .cons trivial rfl <|
      .cons trivial rfl <| .nil _
  refine ⟨_, _, joints, cartesian, hlaunch, hholds, ?_, hruns _ hrun.runs⟩
  decide +kernel

end Launch
end MovementController
