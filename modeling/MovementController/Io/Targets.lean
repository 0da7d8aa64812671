import MovementController.Io.ReadPath

/-!
# Names and hardware outputs

Every write of the UR driver is a request for one output of the robot. Pins are unique in their category
and names are unique altogether, so two names share an output only if both are for the tool voltage.
-/

namespace IoControllers

/-- An output of the robot. -/
inductive Target where
  | digitalOut (pin : Int)
  | flag (pin : Int)
  | analogOut (pin : Int)
  | toolVoltage
deriving DecidableEq, Repr

def Request.target : Request → Target
  | .setIo .FUN_SET_DIGITAL_OUT pin _ => .digitalOut pin
  | .setIo .FUN_SET_FLAG pin _ => .flag pin
  | .setIo .FUN_SET_TOOL_VOLTAGE _ _ => .toolVoltage
  | .setAnalogOutput pin _ _ => .analogOut pin

/-- The output that an item of the write index is for. -/
def WriteKind.hardware : WriteKind × Int → Target
  | (.digitalOut, pin) => .digitalOut pin
  | (.flag, pin) => .flag pin
  | (.analogOut, pin) => .analogOut pin
  | (.toolVoltage, _) => .toolVoltage

/-- Different places that can be written are different outputs. -/
theorem Place.target_inj {place place' : Place} {t t' : WriteKind × Int} (h : place.target = some t)
    (h' : place'.target = some t') (heq : WriteKind.hardware t = WriteKind.hardware t') :
    place = place' := by
  cases place with
  | toolVoltage =>
    cases place' with
    | toolVoltage => rfl
    | pin category' p' =>
      cases h
      cases category' <;> cases h' <;> cases heq
  | pin category p =>
    cases place' with
    | toolVoltage =>
      cases h'
      cases category <;> cases h <;> cases heq
    | pin category' p' =>
      cases category <;> cases category' <;> cases h <;> cases h' <;> cases heq <;> rfl

namespace URIODriver

/-- The request of a write, with the name it is for. -/
def command (d : URIODriver) : Op → Option (String × Request)
  | .setDigital n state fault => (d.setDigital n state fault).request.map (n, ·)
  | .setAnalog n state fault => (d.setAnalog n state fault).request.map (n, ·)
  | _ => none

/-- The commands of a run, in order. -/
def commands (d : URIODriver) : List Op → List (String × Request)
  | [] => []
  | op :: ops => (d.command op).toList ++ commands (d.exec op) ops

variable {d : URIODriver} {n : String} {fault : Option String} {request : Request}

theorem request_send {r : Request} (h : (d.send r fault).request = some request) : request = r := by
  cases fault with
  | none => exact (Option.some.inj h).symm
  | some exc => cases h

theorem target_setDigital {state : Bool} (h : (d.setDigital n state fault).request = some request) :
    ∃ t, d.requireWrite n = .ok t ∧ request.target = WriteKind.hardware t := by
  unfold setDigital at h
  split at h
  · cases h
  · next kind pin hrequire =>
    refine ⟨_, hrequire, ?_⟩
    split at h
    · next hkind =>
      rw [request_send h]
      rcases hkind with rfl | rfl <;> rfl
    · cases h

theorem target_setAnalog {state : ℚ} (h : (d.setAnalog n state fault).request = some request) :
    ∃ t, d.requireWrite n = .ok t ∧ request.target = WriteKind.hardware t := by
  unfold setAnalog at h
  split at h
  · cases h
  · next pin hrequire =>
    refine ⟨_, hrequire, ?_⟩
    split at h
    · cases h
    · split at h
      · cases h
      · rw [request_send h]
        rfl
  · next pin hrequire =>
    refine ⟨_, hrequire, ?_⟩
    cases fault with
    | none =>
      cases h
      rfl
    | some exc => cases h
  · cases h
  · cases h

theorem target_command {op : Op} {c : String × Request} (h : d.command op = some c) :
    ∃ t, d.requireWrite c.1 = .ok t ∧ c.2.target = WriteKind.hardware t := by
  cases op with
  | setDigital n state fault =>
    obtain ⟨request, hrequest, rfl⟩ := Option.map_eq_some_iff.1 h
    exact target_setDigital hrequest
  | setAnalog n state fault =>
    obtain ⟨request, hrequest, rfl⟩ := Option.map_eq_some_iff.1 h
    exact target_setAnalog hrequest
  | activate => cases h
  | deactivate => cases h
  | ioStates msg => cases h

end URIODriver

/-- No two names are for one output, so the last command to an output is the last one under its name. -/
structure NoAlias (d : URIODriver) : Prop where
  unique : ∀ ops ops' : List URIODriver.Op, ∀ c ∈ d.commands ops, ∀ c' ∈ d.commands ops',
    c.2.target = c'.2.target → c.1 = c'.1
  last : ∀ ops : List URIODriver.Op, ∀ c ∈ d.commands ops,
    ((d.commands ops).filter (·.2.target = c.2.target)).getLast? =
      ((d.commands ops).filter (·.1 = c.1)).getLast?

/-- The command is for the output of the place where its name is. -/
structure Commands (places : Dict String Place) (c : String × Request) (place : Place)
    (t : WriteKind × Int) : Prop where
  mapped : Dict.get places c.1 = some place
  target : place.target = some t
  hardware : c.2.target = WriteKind.hardware t

namespace Commands

variable {places : Dict String Place} {c c' : String × Request} {place place' : Place}
  {t t' : WriteKind × Int}

theorem place_eq (h : Commands places c place t) (h' : Commands places c' place' t')
    (heq : c.2.target = c'.2.target) : place = place' := by
  refine Place.target_inj h.target h'.target ?_
  rw [← h.hardware, ← h'.hardware, heq]

theorem target_eq (h : Commands places c place t) (h' : Commands places c' place' t')
    (hname : c.1 = c'.1) : c.2.target = c'.2.target := by
  have hplace : place = place' := by
    have hget := h.mapped
    rw [hname, h'.mapped] at hget
    exact (Option.some.inj hget).symm
  have ht : t = t' := by
    have htarget := h.target
    rw [hplace, h'.target] at htarget
    exact (Option.some.inj htarget).symm
  rw [h.hardware, h'.hardware, ht]

end Commands

theorem eq_of_mem_of_length_le_one {α : Type*} {l : List α} {a b : α} (h : l.length ≤ 1)
    (ha : a ∈ l) (hb : b ∈ l) : a = b := by
  match l, h with
  | [c], _ => rw [List.mem_singleton.1 ha, List.mem_singleton.1 hb]

namespace Wired

variable {d : URIODriver}

theorem commands {places : Dict String Place} (h : Wired places d) {ops : List URIODriver.Op}
    {c : String × Request} (hc : c ∈ d.commands ops) : ∃ place t, Commands places c place t := by
  induction ops generalizing d with
  | nil => cases hc
  | cons op ops ih =>
    rcases List.mem_append.1 hc with hc | hc
    · obtain ⟨t, hrequire, hhardware⟩ := URIODriver.target_command (Option.mem_toList.1 hc)
      obtain ⟨place, hplace, htarget⟩ := h.place_of_requireWrite hrequire
      exact ⟨place, t, hplace, htarget, hhardware⟩
    · exact ih (h.exec op) hc

variable {mapping : URMappingDTO}

theorem noAlias (h : Wired mapping.places d) (htool : mapping.toolVoltage.length ≤ 1) : NoAlias d := by
  have hunique (ops ops' : List URIODriver.Op) (c : String × Request) (hc : c ∈ d.commands ops)
      (c' : String × Request) (hc' : c' ∈ d.commands ops') (heq : c.2.target = c'.2.target) :
      c.1 = c'.1 := by
    obtain ⟨place, t, hcmd⟩ := h.commands hc
    obtain ⟨place', t', hcmd'⟩ := h.commands hc'
    obtain rfl := hcmd.place_eq hcmd' heq
    cases place with
    | pin category pin => exact h.inj hcmd.mapped hcmd'.mapped
    | toolVoltage =>
      have hmem := URMappingDTO.toolVoltage_of_mem (Dict.mem_of_get hcmd.mapped)
      have hmem' := URMappingDTO.toolVoltage_of_mem (Dict.mem_of_get hcmd'.mapped)
      have hone : (mapping.toolVoltage.map (·.ioName)).length ≤ 1 := by rwa [List.length_map]
      exact eq_of_mem_of_length_le_one hone hmem hmem'
  refine ⟨hunique, fun ops c hc => ?_⟩
  have hsame : (d.commands ops).filter (·.2.target = c.2.target) =
      (d.commands ops).filter (·.1 = c.1) := by
    refine List.filter_congr fun c' hc' => decide_eq_decide.2 ?_
    constructor
    · exact hunique ops ops c' hc' c hc
    · obtain ⟨place, t, hcmd⟩ := h.commands hc
      obtain ⟨place', t', hcmd'⟩ := h.commands hc'
      exact hcmd'.target_eq hcmd
  rw [hsame]

theorem command_toolVoltage (h : Wired mapping.places d) (hactive : d.active = true)
    {e : URToolVoltageEntryDTO} (he : e ∈ mapping.toolVoltage) (state : ℚ) :
    d.command (.setAnalog e.ioName state none) =
      some (e.ioName, .setIo .FUN_SET_TOOL_VOLTAGE 0 state) := by
  have hget : Dict.get d.writeIndex e.ioName = some (.toolVoltage, -1) := by
    rw [h.write, h.place_of_toolVoltage he]
    rfl
  have hrequire : d.requireWrite e.ioName = .ok (.toolVoltage, -1) := by
    simp [URIODriver.requireWrite, hactive, hget]
  rw [URIODriver.command, URIODriver.setAnalog_toolVoltage hrequire]
  rfl

/-- Two entries for the tool voltage are an alias. -/
theorem toolVoltage_le_one (h : Wired mapping.places d) (hnoAlias : NoAlias d) :
    mapping.toolVoltage.length ≤ 1 := by
  have hnames : (mapping.toolVoltage.map (·.ioName)).Nodup := by
    have hnodup := h.nodup
    unfold Dict.keys URMappingDTO.places at hnodup
    rw [List.map_append, List.map_map] at hnodup
    exact (List.nodup_append.1 hnodup).2.1
  have hactivated : Wired mapping.places (d.exec .activate) := h.exec .activate
  have hsent (e : URToolVoltageEntryDTO) (he : e ∈ mapping.toolVoltage) :
      (e.ioName, Request.setIo .FUN_SET_TOOL_VOLTAGE 0 0) ∈
        d.commands [.activate, .setAnalog e.ioName 0 none] := by
    show _ ∈ ((d.exec .activate).command _).toList ++ []
    rw [hactivated.command_toolVoltage rfl he]
    exact List.mem_cons_self
  have hone (e e' : URToolVoltageEntryDTO) (he : e ∈ mapping.toolVoltage)
      (he' : e' ∈ mapping.toolVoltage) : e.ioName = e'.ioName :=
    hnoAlias.unique _ _ _ (hsent e he) _ (hsent e' he') rfl
  match hl : mapping.toolVoltage with
  | [] => exact Nat.zero_le 1
  | [e] => exact Nat.le_refl 1
  | e :: e' :: l =>
    rw [hl, List.map_cons, List.map_cons, List.nodup_cons] at hnames
    have heq := hone e e' (by simp [hl]) (by simp [hl])
    exact absurd (heq ▸ List.mem_cons_self) hnames.1

end Wired

/-- No two names share an output of the robot if and only if at most one is for the tool voltage. -/
theorem no_alias_iff {py : Pydantic} (hstr : ∀ s, py.parseStr (.str s) = some s)
    {device : List (Yaml × Yaml)} {init : URIODriver} (hinit : URIODriver.configure py device = .ok init)
    (callback : Bool) :
    NoAlias { init with callback } ↔ init.device.mapping.toolVoltage.length ≤ 1 := by
  have hstart : Wired init.device.mapping.places { init with callback } :=
    (wired_configure hstr hinit).congr rfl rfl rfl
  exact ⟨hstart.toolVoltage_le_one, hstart.noAlias⟩

theorem no_alias_iff_sampleDevice : ∃ init, URIODriver.configure .strict sampleDevice = .ok init ∧
    NoAlias { init with callback := true } := by
  have hstr : ∀ s, Pydantic.strict.parseStr (.str s) = some s := fun _ => rfl
  have hinit : URIODriver.configure .strict sampleDevice = .ok _ := rfl
  exact ⟨_, hinit, (no_alias_iff hstr hinit true).2 (by decide)⟩

/-- Two names for the tool voltage. -/
def twoTools : List (Yaml × Yaml) :=
  [(.str "controller_namespace", .str "/io_and_status_controller"),
    (.str "mapping", .dict [(.str "tool_voltage", .list [
      .dict [(.str "io_name", .str "tool")], .dict [(.str "io_name", .str "vacuum")]])])]

/-- The tool voltage is set to 24 and then to 0 under the other name; the cache keeps 24 for the first. -/
theorem toolVoltage_aliased : ∃ init, URIODriver.configure .strict twoTools = .ok init ∧
    let ops : List URIODriver.Op := [.activate, .setAnalog "tool" 24 none, .setAnalog "vacuum" 0 none]
    init.commands ops = [("tool", .setIo .FUN_SET_TOOL_VOLTAGE 0 24),
      ("vacuum", .setIo .FUN_SET_TOOL_VOLTAGE 0 0)] ∧
    (Dict.get (ops.foldl URIODriver.exec init).cache "tool").map (·.state) = some (.float 24) ∧
    ¬NoAlias init := by
  refine ⟨_, rfl, ?_⟩
  intro ops
  refine ⟨rfl, rfl, fun h => ?_⟩
  have hname := h.unique ops ops ("tool", .setIo .FUN_SET_TOOL_VOLTAGE 0 24) List.mem_cons_self
    ("vacuum", .setIo .FUN_SET_TOOL_VOLTAGE 0 0) (List.mem_cons_of_mem _ List.mem_cons_self) rfl
  exact absurd hname (by decide)

end IoControllers
