import MovementController.Io.Links
import MovementController.Io.ReadPath
import MovementController.Io.SetIo
import MovementController.Lib.Lanes

/-!
# The UR driver over the network

Calls and reports take their time: a call is executed after those that were sent before it with the same
client, and a report says what the robot was like when it was sent. In every order of arrival the cache
shows a state that the robot has had, never goes back to an earlier one, and is the cache of the mock
once everything has arrived.
-/

namespace IoControllers

/-- The client that a call is made with. -/
def Request.client : Request → LinkKind
  | setIo .. => .setIo
  | setAnalogOutput .. => .setAnalogOutput

/-! ### The network -/

/-- The robot, the calls that it has not executed and the reports that have not arrived, in the order in
which they were sent. `past` are the states the robot has had, and `seen` is the number of the one that
the last report told of; a report has the number of its state. -/
structure Network where
  robot : Robot
  past : List Robot := []
  calls : List Request := []
  reports : List (ℕ × URIOStates) := []
  seen : ℕ := 0

namespace Network

def states (n : Network) : List Robot := n.past ++ [n.robot]

def become (n : Network) (robot : Robot) : Network :=
  { n with robot, past := n.past ++ [n.robot] }

def send (n : Network) (request : Option Request) : Network :=
  { n with calls := n.calls ++ request.toList }

inductive Label where
  /-- Something outside changes a pin. -/
  | outside (category : Category) (pin : Nat) (value : Value)
  | execute (i : ℕ)
  | report
  | lose (i : ℕ)

def step (pins : Category → List Nat) (n : Network) : Label → Option Network
  | .outside category pin value => some (n.become (n.robot.set category pin value))
  | .execute i =>
    match n.calls[i]? with
    | none => none
    | some call =>
      if Lanes.First Request.client n.calls i then
        some { n.become (n.robot.execute call) with calls := n.calls.eraseIdx i }
      else none
  | .report => some { n with reports := n.reports ++ [(n.past.length, n.robot.message pins)] }
  | .lose i => if i < n.reports.length then some { n with reports := n.reports.eraseIdx i } else none

/-- What a step can do. -/
inductive Moves (pins : Category → List Nat) (n : Network) : Label → Network → Prop
  | outside (category : Category) (pin : Nat) (value : Value) :
      Moves pins n (.outside category pin value) (n.become (n.robot.set category pin value))
  | execute {i : ℕ} {call : Request} (hcall : n.calls[i]? = some call)
      (hfirst : Lanes.First Request.client n.calls i) : Moves pins n (.execute i)
        { n.become (n.robot.execute call) with calls := n.calls.eraseIdx i }
  | report : Moves pins n .report
      { n with reports := n.reports ++ [(n.past.length, n.robot.message pins)] }
  | lose (i : ℕ) : Moves pins n (.lose i) { n with reports := n.reports.eraseIdx i }

theorem step_cases {pins : Category → List Nat} {n n' : Network} {l : Label}
    (h : n.step pins l = some n') : Moves pins n l n' := by
  cases l with
  | outside category pin value =>
    rw [← Option.some.inj h]
    exact .outside category pin value
  | execute i =>
    rw [step] at h
    split at h
    · cases h
    · next call hcall =>
      split_ifs at h with hfirst
      rw [← Option.some.inj h]
      exact .execute hcall hfirst
  | report =>
    rw [← Option.some.inj h]
    exact .report
  | lose i =>
    simp only [step, Option.ite_none_right_eq_some, Option.some.injEq] at h
    rw [← h.2]
    exact .lose i

/-- The first report arrives. -/
def receive (n : Network) : Option (URIOStates × Network) :=
  match n.reports with
  | [] => none
  | (k, msg) :: reports => some (msg, { n with reports, seen := k })

end Network

/-! ### The driver on the network -/

structure Remote where
  driver : URIODriver
  net : Network

namespace Remote

def outcome (w : Remote) (stimulus : Stimulus) : Outcome := Cell.outcome ⟨w.driver, w.net.robot⟩ stimulus

inductive Label where
  | stimulus (stimulus : Stimulus)
  | execute (i : ℕ)
  | report
  | lose (i : ℕ)
  | receive

/-- The stimulus that both the mock and the driver get. -/
def Label.stimulus? : Label → Option Stimulus
  | stimulus s => some s
  | _ => none

def overNet (pins : Category → List Nat) (w : Remote) (l : Network.Label) : Option Remote :=
  (w.net.step pins l).map fun net => { w with net }

def step (pins : Category → List Nat) (w : Remote) : Label → Option Remote
  | .stimulus (.inputChange category _ pin value) => w.overNet pins (.outside category pin value)
  | .stimulus stimulus =>
    some ⟨(w.outcome stimulus).driver, w.net.send (w.outcome stimulus).request⟩
  | .execute i => w.overNet pins (.execute i)
  | .report => w.overNet pins .report
  | .lose i => w.overNet pins (.lose i)
  | .receive => w.net.receive.map fun (msg, net) => ⟨w.driver.onIoStates msg, net⟩

end Remote

/-! ### The robot -/

namespace Robot

theorem ext {r r' : Robot} (hvalue : ∀ c p, r.value c p = r'.value c p)
    (htool : r.toolVoltage = r'.toolVoltage) : r = r' := by
  obtain ⟨value, toolVoltage⟩ := r
  obtain ⟨value', toolVoltage'⟩ := r'
  obtain rfl : value = value' := funext fun c => funext fun p => hvalue c p
  obtain rfl : toolVoltage = toolVoltage' := htool
  rfl

theorem set_comm (r : Robot) {c c' : Category} (hne : c ≠ c') (pin pin' : Nat) (v v' : Value) :
    (r.set c pin v).set c' pin' v' = (r.set c' pin' v').set c pin v := by
  refine ext (fun c'' p => ?_) rfl
  simp only [set]
  by_cases h : c'' = c ∧ p = pin
  · have h' : ¬(c'' = c' ∧ p = pin') := fun h' => hne (h.1.symm.trans h'.1)
    rw [if_pos h, if_neg h', if_pos h]
  · rw [if_neg h, if_neg h]

/-- Only outputs are written. -/
theorem execute_set (r : Robot) (request : Request) {c : Category} (hin : c.direction = .IN) (pin : Nat)
    (v : Value) : (r.set c pin v).execute request = (r.execute request).set c pin v := by
  have hne {c' : Category} (hout : c'.direction = .OUT) : c ≠ c' := by
    rintro rfl
    rw [hin] at hout
    cases hout
  cases request with
  | setIo fn pin' state =>
    cases fn with
    | FUN_SET_DIGITAL_OUT => exact r.set_comm (hne rfl) _ _ _ _
    | FUN_SET_FLAG => exact r.set_comm (hne rfl) _ _ _ _
    | FUN_SET_TOOL_VOLTAGE => rfl
  | setAnalogOutput pin' domain state => exact r.set_comm (hne rfl) _ _ _ _

/-- The two clients write different outputs. -/
theorem independent : Lanes.Independent Request.client execute := by
  intro a b hne r
  cases a with
  | setIo fn pin state =>
    cases b with
    | setIo => exact absurd rfl hne
    | setAnalogOutput pin' domain state' =>
      cases fn with
      | FUN_SET_DIGITAL_OUT => exact r.set_comm (by decide) _ _ _ _
      | FUN_SET_FLAG => exact r.set_comm (by decide) _ _ _ _
      | FUN_SET_TOOL_VOLTAGE => rfl
  | setAnalogOutput pin domain state =>
    cases b with
    | setAnalogOutput => exact absurd rfl hne
    | setIo fn pin' state' =>
      cases fn with
      | FUN_SET_DIGITAL_OUT => exact r.set_comm (by decide) _ _ _ _
      | FUN_SET_FLAG => exact r.set_comm (by decide) _ _ _ _
      | FUN_SET_TOOL_VOLTAGE => rfl

/-- A mapped pin holds a value of its category. -/
def Typed (places : Dict String Place) (r : Robot) : Prop :=
  ∀ ioName category pin, Dict.get places ioName = some (.pin category pin) →
    category.coerce (r.value category pin) = r.value category pin

namespace Typed

variable {places : Dict String Place} {r : Robot}

theorem set (h : r.Typed places) (category : Category) (pin : Nat) (value : Value) :
    (r.set category pin value).Typed places := by
  intro n c p hn
  by_cases hsame : Place.pin c p = .pin category pin
  · obtain ⟨rfl, rfl⟩ := Place.pin.inj hsame
    rw [set_value_self, c.coerce_coerce]
  · rw [set_value_of_ne hsame]
    exact h n c p hn

theorem execute (h : r.Typed places) (request : Request) : (r.execute request).Typed places := by
  cases request with
  | setIo fn pin state =>
    cases fn with
    | FUN_SET_DIGITAL_OUT => exact h.set _ _ _
    | FUN_SET_FLAG => exact h.set _ _ _
    | FUN_SET_TOOL_VOLTAGE => exact h
  | setAnalogOutput pin domain state => exact h.set _ _ _

end Typed

end Robot

theorem Related.typed {m : MockIODriver} {s : Cell} (h : Related places m s) :
    s.robot.Typed places := by
  intro n c p hn
  obtain ⟨signal, hget, hfits⟩ := h.wired.cached hn
  rw [h.robot n c p signal hn hget]
  exact hfits.state

/-! ### Messages -/

namespace URIODriver

variable {d : URIODriver} {n : String} {signal : Signal} {value : Value}

theorem get_foldl_update_of_num_eq {l : List (String × Value)} (hget : Dict.get d.cache n = some signal)
    (hnum : signal.state.num = value.num) (hall : ∀ e ∈ l, e.1 = n → e.2 = value) :
    Dict.get (l.foldl update d).cache n = some signal := by
  induction l generalizing d with
  | nil => exact hget
  | cons e l ih =>
    refine ih ?_ fun e' he' => hall e' (List.mem_cons_of_mem e he')
    by_cases hn : e.1 = n
    · rw [update, hn, hall e List.mem_cons_self hn, updateCache_of_num_eq hget hnum]
      exact hget
    · rw [update, get_updateCache_of_ne fun h => hn h.symm]
      exact hget

/-- When all updates of a signal bring one value, it has that value after them. -/
theorem get_foldl_update_of_forall_eq {l : List (String × Value)} (hget : Dict.get d.cache n = some signal)
    (hmem : n ∈ l.map Prod.fst) (hall : ∀ e ∈ l, e.1 = n → e.2 = value) :
    ∃ state, state.num = value.num ∧ (state = signal.state ∨ state = value) ∧
      Dict.get (l.foldl update d).cache n = some { signal with state } := by
  induction l generalizing d with
  | nil => cases hmem
  | cons e l ih =>
    have htail (e' : String × Value) (he' : e' ∈ l) := hall e' (List.mem_cons_of_mem e he')
    by_cases hn : e.1 = n
    · have hvalue := hall e List.mem_cons_self hn
      obtain ⟨state, hnum, hstate, hself⟩ := get_updateCache_self hget value
      refine ⟨state, hnum, hstate, ?_⟩
      rw [List.foldl_cons, update, hn, hvalue]
      exact get_foldl_update_of_num_eq hself hnum htail
    · rw [List.map_cons, List.mem_cons] at hmem
      refine ih ?_ (hmem.resolve_left fun h => hn h.symm) htail
      rw [update, get_updateCache_of_ne fun h => hn h.symm]
      exact hget

end URIODriver

section Message

variable {places : Dict String Place} {d : URIODriver} {r : Robot}

/-- After a report the cache shows the robot as it was. -/
theorem Robot.Typed.agrees_onIoStates (hr : r.Typed places) (hw : Wired places d)
    {pins : Category → List Nat}
    (hpins : ∀ n c p, Dict.get places n = some (.pin c p) → p ∈ pins c) :
    r.Agrees places (d.onIoStates (r.message pins)).cache := by
  intro n category pin signal hn hget
  obtain ⟨before, hbefore, hfits⟩ := hw.cached hn
  have hvalue : category.coerce (r.value category pin) = r.value category pin := hr n category pin hn
  have hmem : n ∈ (d.updates (r.message pins)).map Prod.fst := by
    refine List.mem_map.2 ⟨(n, r.value category pin), URIODriver.mem_updates.2 ?_, rfl⟩
    exact ⟨category, pin, hpins n category pin hn, (hw.read category pin n).2 hn, hvalue.symm⟩
  have hall : ∀ e ∈ d.updates (r.message pins), e.1 = n → e.2 = r.value category pin := by
    rintro e he rfl
    obtain ⟨category', pin', -, hn', hv⟩ := URIODriver.mem_updates.1 he
    have hplace := ((hw.read category' pin' e.1).1 hn').symm.trans hn
    obtain ⟨rfl, rfl⟩ := Place.pin.inj (Option.some.inj hplace)
    rw [hv, hvalue]
  obtain ⟨state, hnum, hstate, hfinal⟩ := URIODriver.get_foldl_update_of_forall_eq hbefore hmem hall
  rw [URIODriver.onIoStates_eq, hfinal] at hget
  rw [← Option.some.inj hget]
  rcases hstate with rfl | rfl
  · have heq := category.coerce_eq_of_num_eq hnum
    rw [hfits.state, hvalue] at heq
    exact heq.symm
  · rfl

end Message

/-! ### What the network carries -/

namespace Network

variable {places : Dict String Place} {pins : Category → List Nat} {n n' : Network} {l : Label}

/-- Every report tells of a state that the robot has had, and a later report of no earlier state. -/
structure Sound (places : Dict String Place) (pins : Category → List Nat) (n : Network) : Prop where
  typed : ∀ r ∈ n.states, r.Typed places
  reports : ∀ p ∈ n.reports, ∃ r, n.states[p.1]? = some r ∧ p.2 = r.message pins
  ordered : (n.seen :: n.reports.map Prod.fst ++ [n.past.length]).Pairwise (· ≤ ·)

/-- The cache shows the state that the last report told of. -/
def ShownBy (places : Dict String Place) (n : Network) (d : URIODriver) : Prop :=
  ∃ r, n.states[n.seen]? = some r ∧ r.Agrees places d.cache

theorem robot_mem_states (n : Network) : n.robot ∈ n.states := by simp [states]

theorem states_current (n : Network) : n.states[n.past.length]? = some n.robot := by simp [states]

theorem states_become (n : Network) (robot : Robot) :
    (n.become robot).states = n.states ++ [robot] := rfl

/-- What has been stays. -/
theorem states_step (h : n.step pins l = some n') : n.states <+: n'.states := by
  cases step_cases h with
  | outside | execute => exact List.prefix_append _ _
  | report | lose => exact List.prefix_refl _

theorem getElem?_states {k : ℕ} {r : Robot} (h : n.states <+: n'.states)
    (hk : n.states[k]? = some r) : n'.states[k]? = some r := by
  obtain ⟨rest, hrest⟩ := h
  rw [← hrest, List.getElem?_append_left (List.getElem?_eq_some_iff.1 hk).1, hk]

theorem seen_step (h : n.step pins l = some n') : n'.seen = n.seen := by
  cases step_cases h <;> rfl

theorem ShownBy.step {d : URIODriver} (h : n.ShownBy places d) (hs : n.step pins l = some n') :
    n'.ShownBy places d := by
  obtain ⟨r, hr, hagrees⟩ := h
  refine ⟨r, ?_, hagrees⟩
  rw [seen_step hs]
  exact getElem?_states (states_step hs) hr

namespace Sound

/-- Nothing is on the way. -/
theorem initial {past : List Robot} {robot : Robot} (hpast : ∀ r ∈ past, r.Typed places)
    (hrobot : robot.Typed places) : Sound places pins { robot, past } := by
  refine ⟨fun r hr => ?_, by simp, by simp⟩
  rcases List.mem_append.1 hr with hr | hr
  · exact hpast r hr
  · rw [List.mem_singleton.1 hr]
    exact hrobot

theorem become (h : n.Sound places pins) {robot : Robot} (hr : robot.Typed places) :
    (n.become robot).Sound places pins := by
  refine ⟨fun r hmem => ?_, fun p hp => ?_, ?_⟩
  · rw [states_become, List.mem_append, List.mem_singleton] at hmem
    rcases hmem with hmem | rfl
    · exact h.typed r hmem
    · exact hr
  · obtain ⟨r, hstate, hmsg⟩ := h.reports p hp
    exact ⟨r, getElem?_states (List.prefix_append n.states [robot]) hstate, hmsg⟩
  · have hord := h.ordered
    rw [List.pairwise_append] at hord ⊢
    refine ⟨hord.1, List.pairwise_singleton _ _, fun a ha b hb => ?_⟩
    have hle := hord.2.2 a ha _ (List.mem_singleton_self _)
    rw [List.mem_singleton.1 hb]
    simp only [Network.become, List.length_append, List.length_singleton]
    omega

theorem report (h : n.Sound places pins) :
    Sound places pins { n with reports := n.reports ++ [(n.past.length, n.robot.message pins)] } := by
  refine ⟨h.typed, fun p hp => ?_, ?_⟩
  · rcases List.mem_append.1 hp with hp | hp
    · exact h.reports p hp
    · rw [List.mem_singleton.1 hp]
      exact ⟨n.robot, n.states_current, rfl⟩
  · have hord := h.ordered
    rw [List.map_append, List.map_singleton, ← List.cons_append, List.append_assoc]
    rw [List.pairwise_append] at hord ⊢
    refine ⟨hord.1, by simp, fun a ha b hb => ?_⟩
    have hle := hord.2.2 a ha _ (List.mem_singleton_self _)
    simp only [List.singleton_append, List.mem_cons, List.not_mem_nil, or_false, or_self] at hb
    exact hb ▸ hle

/-- Fewer reports in the same order, the last one that was seen told of a later state. -/
theorem sublist (h : n.Sound places pins) {seen : ℕ} {reports : List (ℕ × URIOStates)}
    (hsub : (seen :: reports.map Prod.fst).Sublist (n.seen :: n.reports.map Prod.fst))
    (hmem : reports ⊆ n.reports) : Sound places pins { n with reports, seen } := by
  refine ⟨h.typed, fun p hp => h.reports p (hmem hp), ?_⟩
  exact h.ordered.sublist (hsub.append_right _)

theorem step (h : n.Sound places pins) (hs : n.step pins l = some n') : n'.Sound places pins := by
  have hrobot := h.typed _ n.robot_mem_states
  cases step_cases hs with
  | outside category pin value => exact h.become (hrobot.set category pin value)
  | @execute i call hcall hfirst =>
    have hnext := h.become (hrobot.execute call)
    exact ⟨hnext.typed, hnext.reports, hnext.ordered⟩
  | report => exact h.report
  | lose i =>
    have hsub := List.eraseIdx_sublist n.reports i
    exact h.sublist ((hsub.map Prod.fst).cons_cons n.seen) hsub.subset

theorem receive (h : n.Sound places pins) {msg : URIOStates} (hs : n.receive = some (msg, n')) :
    n'.Sound places pins ∧ n.seen ≤ n'.seen ∧ n'.states = n.states ∧
      ∃ r ∈ n.states, n'.states[n'.seen]? = some r ∧ msg = r.message pins := by
  unfold Network.receive at hs
  split at hs
  · cases hs
  · next k m reports hreports =>
    obtain ⟨rfl, rfl⟩ := Prod.mk.inj (Option.some.inj hs)
    obtain ⟨r, hstate, hmsg⟩ := h.reports (k, m) (by rw [hreports]; exact List.mem_cons_self)
    have hle : n.seen ≤ k := by
      have hord := h.ordered
      rw [hreports] at hord
      exact (List.pairwise_cons.1 hord).1 k (by simp)
    refine ⟨h.sublist ?_ ?_, hle, rfl, r, List.mem_of_getElem? hstate, hstate, hmsg⟩
    · rw [hreports]
      exact List.sublist_cons_self _ _
    · rw [hreports]
      exact List.subset_cons_self _ _

end Sound

/-- A report that arrives is shown. -/
theorem ShownBy.receive {d : URIODriver} (h : n.Sound places pins) (hw : Wired places d)
    (hpins : ∀ n c p, Dict.get places n = some (.pin c p) → p ∈ pins c) {msg : URIOStates}
    (hs : n.receive = some (msg, n')) : n'.ShownBy places (d.onIoStates msg) := by
  obtain ⟨-, -, -, r, hr, hstate, rfl⟩ := h.receive hs
  exact ⟨r, hstate, (h.typed r hr).agrees_onIoStates hw hpins⟩

end Network

/-! ### Two drivers with one configuration -/

def Signal.reset (signal : Signal) : Signal := { signal with state := signal.default }

theorem Signal.eq_of_reset {s s' : Signal} (h : s.reset = s'.reset) (hstate : s.state = s'.state) :
    s = s' := by
  cases s
  cases s'
  simp only [reset, mk.injEq] at h hstate ⊢
  exact ⟨h.1, h.2.1, h.2.2.1, h.2.2.2.1, hstate⟩

section UpdateCache

variable {d d' : URIODriver} {n : String}

theorem URIODriver.updateCache_of_none (hget : Dict.get d.cache n = none) (value : Value) :
    d.updateCache n value = d := by
  rw [updateCache, hget]

theorem URIODriver.keys_updateCache (d : URIODriver) (n : String) (value : Value) :
    Dict.keys (d.updateCache n value).cache = Dict.keys d.cache := by
  cases hget : Dict.get d.cache n with
  | none => rw [updateCache_of_none hget]
  | some signal =>
    by_cases hnum : signal.state.num = value.num
    · rw [updateCache_of_num_eq hget hnum]
    · rw [updateCache_of_ne hget hnum]
      exact Dict.keys_set_of_mem (List.mem_map_of_mem (Dict.mem_of_get hget))

theorem URIODriver.reset_updateCache (d : URIODriver) (n m : String) (value : Value) :
    (Dict.get (d.updateCache n value).cache m).map Signal.reset =
      (Dict.get d.cache m).map Signal.reset := by
  by_cases hm : m = n
  · rw [hm]
    cases hget : Dict.get d.cache n with
    | none => rw [updateCache_of_none hget, hget]
    | some signal =>
      obtain ⟨state, -, -, hself⟩ := get_updateCache_self hget value
      rw [hself]
      rfl
  · rw [get_updateCache_of_ne hm]

theorem URIODriver.get_updateCache_congr (h : Dict.get d'.cache n = Dict.get d.cache n) (value : Value) :
    Dict.get (d'.updateCache n value).cache n = Dict.get (d.updateCache n value).cache n := by
  cases hget : Dict.get d.cache n with
  | none =>
    rw [hget] at h
    rw [updateCache_of_none hget, updateCache_of_none h, h, hget]
  | some signal =>
    rw [hget] at h
    by_cases hnum : signal.state.num = value.num
    · rw [updateCache_of_num_eq hget hnum, updateCache_of_num_eq h hnum, h, hget]
    · rw [updateCache_of_ne hget hnum, updateCache_of_ne h hnum]
      show Dict.get (Dict.set _ _ _) n = Dict.get (Dict.set _ _ _) n
      rw [Dict.get_set_self, Dict.get_set_self]

end UpdateCache

/-- The caches differ in no more than the states of the signals that have a pin. -/
structure Twin (places : Dict String Place) (d d' : URIODriver) : Prop where
  active : d'.active = d.active
  writeIndex : d'.writeIndex = d.writeIndex
  keys : Dict.keys d'.cache = Dict.keys d.cache
  signals : ∀ n, (Dict.get d'.cache n).map Signal.reset = (Dict.get d.cache n).map Signal.reset
  toolVoltage : ∀ n, Dict.get places n = some .toolVoltage → Dict.get d'.cache n = Dict.get d.cache n

namespace Twin

variable {places : Dict String Place} {d d' : URIODriver} {n : String}

theorem refl (places : Dict String Place) (d : URIODriver) : Twin places d d :=
  ⟨rfl, rfl, rfl, fun _ => rfl, fun _ _ => rfl⟩

theorem symm (h : Twin places d d') : Twin places d' d :=
  ⟨h.active.symm, h.writeIndex.symm, h.keys.symm, fun n => (h.signals n).symm,
    fun n hn => (h.toolVoltage n hn).symm⟩

theorem update (h : Twin places d d') {category : Category} {pin : Nat}
    (hn : Dict.get places n = some (.pin category pin)) (value : Value) :
    Twin places (d.updateCache n value) d' := by
  refine ⟨?_, ?_, ?_, fun m => ?_, fun m hm => ?_⟩
  · rw [URIODriver.updateCache_active]
    exact h.active
  · rw [URIODriver.updateCache_writeIndex]
    exact h.writeIndex
  · rw [URIODriver.keys_updateCache]
    exact h.keys
  · rw [URIODriver.reset_updateCache]
    exact h.signals m
  · have hne : m ≠ n := by
      rintro rfl
      cases hn.symm.trans hm
    rw [URIODriver.get_updateCache_of_ne hne]
    exact h.toolVoltage m hm

/-- A message is about pins. -/
theorem message (h : Twin places d d') (hw : Wired places d) (msg : URIOStates) :
    Twin places (d.onIoStates msg) d' := by
  have hfold (l : List (String × Value)) : ∀ {d : URIODriver}, Twin places d d' →
      (∀ e ∈ l, ∃ category pin, Dict.get places e.1 = some (.pin category pin)) →
      Twin places (l.foldl URIODriver.update d) d' := by
    induction l with
    | nil => exact fun hd _ => hd
    | cons e l ih =>
      intro d hd hl
      obtain ⟨category, pin, hn⟩ := hl e List.mem_cons_self
      exact ih (hd.update hn e.2) fun e' he' => hl e' (List.mem_cons_of_mem e he')
  rw [URIODriver.onIoStates_eq]
  refine hfold _ h fun e he => ?_
  obtain ⟨category, pin, hn, -⟩ := hw.mem_updates he
  exact ⟨category, pin, hn⟩

theorem updateToolVoltage (h : Twin places d d') (hn : Dict.get places n = some .toolVoltage)
    (value : Value) : Twin places (d.updateCache n value) (d'.updateCache n value) := by
  refine ⟨?_, ?_, ?_, fun m => ?_, fun m hm => ?_⟩
  · rw [URIODriver.updateCache_active, URIODriver.updateCache_active]
    exact h.active
  · rw [URIODriver.updateCache_writeIndex, URIODriver.updateCache_writeIndex]
    exact h.writeIndex
  · rw [URIODriver.keys_updateCache, URIODriver.keys_updateCache]
    exact h.keys
  · rw [URIODriver.reset_updateCache, URIODriver.reset_updateCache]
    exact h.signals m
  · by_cases hmn : m = n
    · rw [hmn]
      exact URIODriver.get_updateCache_congr (h.toolVoltage n hn) value
    · rw [URIODriver.get_updateCache_of_ne hmn, URIODriver.get_updateCache_of_ne hmn]
      exact h.toolVoltage m hm

theorem types (h : Twin places d d') (n : String) :
    (Dict.get d'.cache n).map (·.type) = (Dict.get d.cache n).map (·.type) := by
  have hreset := congrArg (Option.map Signal.type) (h.signals n)
  rwa [Option.map_map, Option.map_map] at hreset

theorem requireWrite (h : Twin places d d') (n : String) : d'.requireWrite n = d.requireWrite n := by
  have hsome := congrArg Option.isSome (h.types n)
  rw [Option.isSome_map, Option.isSome_map] at hsome
  unfold URIODriver.requireWrite
  rw [h.active, h.writeIndex, hsome]

end Twin

/-! ### Calls -/

section Calls

variable {places : Dict String Place} {d d' : URIODriver} {n : String}

theorem Wired.toolVoltage_of_requireWrite (h : Wired places d) {pin : Int}
    (hw : d.requireWrite n = .ok (.toolVoltage, pin)) : Dict.get places n = some .toolVoltage := by
  unfold URIODriver.requireWrite at hw
  split at hw
  · cases hw
  cases htarget : Dict.get d.writeIndex n with
  | none =>
    rw [htarget] at hw
    dsimp only at hw
    split at hw <;> cases hw
  | some target =>
    rw [htarget] at hw
    obtain rfl := Except.ok.inj hw
    rw [h.write n] at htarget
    obtain ⟨place, hplace, hkind⟩ := Option.bind_eq_some_iff.1 htarget
    cases place with
    | toolVoltage => exact hplace
    | pin category p => cases category <;> cases hkind

/-- Only a tool voltage is written at once. -/
theorem Wired.setAnalog_driver (h : Wired places d) (n : String) (state : ℚ) (fault : Option String) :
    (d.setAnalog n state fault).driver = d ∨ Dict.get places n = some .toolVoltage ∧
      (d.setAnalog n state fault).driver = d.updateCache n (.float state) := by
  unfold URIODriver.setAnalog
  split
  · exact .inl rfl
  · split
    · exact .inl rfl
    · split
      · exact .inl rfl
      · exact .inl (URIODriver.send_driver d _ fault)
  · next pin hw =>
    cases fault with
    | some e => exact .inl rfl
    | none => exact .inr ⟨h.toolVoltage_of_requireWrite hw, rfl⟩
  · exact .inl rfl
  · exact .inl rfl

theorem Wired.setChangeCallback (h : Wired places d) (callback : Bool) :
    Wired places { d with callback } :=
  ⟨h.nodup, h.keyed, h.fits, h.write, h.read⟩

theorem Twin.setChangeCallback (h : Twin places d d') (callback : Bool) :
    Twin places { d with callback } { d' with callback } :=
  ⟨h.active, h.writeIndex, h.keys, h.signals, h.toolVoltage⟩

theorem Twin.setDigital (h : Twin places d d') (n : String) (state : Bool) :
    (d'.setDigital n state none).request = (d.setDigital n state none).request ∧
      (d'.setDigital n state none).error = (d.setDigital n state none).error := by
  unfold URIODriver.setDigital
  rw [h.requireWrite]
  rcases d.requireWrite n with e | ⟨kind, pin⟩
  · exact ⟨rfl, rfl⟩
  · cases kind <;> exact ⟨rfl, rfl⟩

theorem Twin.setAnalog (h : Twin places d d') (hw : Wired places d) (n : String) (state : ℚ) :
    Twin places (d.setAnalog n state none).driver (d'.setAnalog n state none).driver ∧
    (d'.setAnalog n state none).request = (d.setAnalog n state none).request ∧
      (d'.setAnalog n state none).error = (d.setAnalog n state none).error := by
  have htypes := h.types n
  unfold URIODriver.setAnalog
  rw [h.requireWrite]
  rcases hwrite : d.requireWrite n with e | ⟨kind, pin⟩
  · exact ⟨h, rfl, rfl⟩
  cases kind with
  | digitalOut => exact ⟨h, rfl, rfl⟩
  | flag => exact ⟨h, rfl, rfl⟩
  | toolVoltage =>
    exact ⟨h.updateToolVoltage (hw.toolVoltage_of_requireWrite hwrite) (.float state), rfl, rfl⟩
  | analogOut =>
    dsimp only
    cases hget : Dict.get d.cache n with
    | none =>
      rw [hget, Option.map_none, Option.map_eq_none_iff] at htypes
      rw [htypes]
      exact ⟨h, rfl, rfl⟩
    | some signal =>
      rw [hget, Option.map_some, Option.map_eq_some_iff] at htypes
      obtain ⟨signal', hget', htype⟩ := htypes
      rw [hget']
      dsimp only
      rw [htype]
      cases signal.type <;> exact ⟨h, rfl, rfl⟩

/-- The two drivers answer a call alike and send the same request. -/
theorem Twin.outcome (h : Twin places d d') (hw : Wired places d) (r r' : Robot) (stimulus : Stimulus) :
    Twin places (Cell.outcome ⟨d, r⟩ stimulus).driver (Cell.outcome ⟨d', r'⟩ stimulus).driver ∧
    (Cell.outcome ⟨d', r'⟩ stimulus).request = (Cell.outcome ⟨d, r⟩ stimulus).request ∧
      (Cell.outcome ⟨d', r'⟩ stimulus).error = (Cell.outcome ⟨d, r⟩ stimulus).error := by
  cases stimulus with
  | setDigital n state =>
    refine ⟨?_, h.setDigital n state⟩
    show Twin places (d.setDigital n state none).driver (d'.setDigital n state none).driver
    rw [URIODriver.setDigital_driver, URIODriver.setDigital_driver]
    exact h
  | setAnalog n state => exact h.setAnalog hw n state
  | inputChange category hin pin value => exact ⟨h, rfl, rfl⟩
  | setChangeCallback registered => exact ⟨h.setChangeCallback registered, rfl, rfl⟩

/-- The driver after a call: no signal that has a pin has changed. -/
structure SamePins (places : Dict String Place) (d d' : URIODriver) : Prop where
  wired : Wired places d'
  active : d'.active = d.active
  keys : Dict.keys d'.cache = Dict.keys d.cache
  pins : ∀ n category pin, Dict.get places n = some (.pin category pin) →
    Dict.get d'.cache n = Dict.get d.cache n

theorem Wired.samePins (h : Wired places d) : SamePins places d d := ⟨h, rfl, rfl, fun _ _ _ _ => rfl⟩

theorem SamePins.trans {d'' : URIODriver} (h : SamePins places d d') (h' : SamePins places d' d'') :
    SamePins places d d'' :=
  ⟨h'.wired, h'.active.trans h.active, h'.keys.trans h.keys,
    fun n category pin hn => (h'.pins n category pin hn).trans (h.pins n category pin hn)⟩

theorem SamePins.agrees {r : Robot} (h : SamePins places d d') (hr : r.Agrees places d.cache) :
    r.Agrees places d'.cache :=
  fun n category pin signal hn hs => hr n category pin signal hn ((h.pins n category pin hn).symm.trans hs)

theorem Wired.samePins_setDigital (h : Wired places d) (n : String) (state : Bool)
    (fault : Option String) : SamePins places d (d.setDigital n state fault).driver := by
  rw [URIODriver.setDigital_driver]
  exact h.samePins

theorem Wired.samePins_setAnalog (h : Wired places d) (n : String) (state : ℚ) (fault : Option String) :
    SamePins places d (d.setAnalog n state fault).driver := by
  rcases h.setAnalog_driver n state fault with hd | ⟨hn, hd⟩
  · rw [hd]
    exact h.samePins
  · rw [hd]
    refine ⟨h.updateCache hn trivial, URIODriver.updateCache_active, URIODriver.keys_updateCache d n _,
      fun m category pin hm => URIODriver.get_updateCache_of_ne ?_⟩
    rintro rfl
    cases hn.symm.trans hm

theorem Wired.samePins_outcome (h : Wired places d) (r : Robot) (stimulus : Stimulus) :
    SamePins places d (Cell.outcome ⟨d, r⟩ stimulus).driver := by
  cases stimulus with
  | setDigital n state => exact h.samePins_setDigital n state none
  | setAnalog n state => exact h.samePins_setAnalog n state none
  | inputChange => exact h.samePins
  | setChangeCallback registered => exact ⟨h.setChangeCallback registered, rfl, rfl, fun _ _ _ _ => rfl⟩

end Calls

/-! ### Whole runs -/

theorem URMappingDTO.mem_of_places {mapping : URMappingDTO} {pins : Category → List Nat}
    (hpins : ∀ category, ∀ e ∈ mapping.pins category, e.2 ∈ pins category) (n : String)
    (category : Category) (pin : Nat) (hn : Dict.get mapping.places n = some (.pin category pin)) :
    pin ∈ pins category :=
  hpins category _ (URMappingDTO.mem_places.1 (Dict.mem_of_get hn))

namespace Remote

variable {places : Dict String Place} {pins : Category → List Nat} {w w' : Remote} {l : Label}

/-- What a step can do. -/
inductive Moves (pins : Category → List Nat) (w : Remote) : Label → Remote → Prop
  | inputChange {category : Category} (hin : category.direction = .IN) (pin : Nat) (value : Value) :
      Moves pins w (.stimulus (.inputChange category hin pin value))
        { w with net := w.net.become (w.net.robot.set category pin value) }
  | call {stimulus : Stimulus}
      (hcall : ∀ s : Cell,
        s.robotAfter stimulus = (s.outcome stimulus).request.elim s.robot s.robot.execute) :
      Moves pins w (.stimulus stimulus)
        ⟨(w.outcome stimulus).driver, w.net.send (w.outcome stimulus).request⟩
  | net {l : Label} {k : Network.Label} {net : Network} (hl : l.stimulus? = none)
      (hk : ∀ category pin value, k ≠ .outside category pin value)
      (hnet : w.net.step pins k = some net) : Moves pins w l { w with net }
  | receive {msg : URIOStates} {net : Network} (hnet : w.net.receive = some (msg, net)) :
      Moves pins w .receive ⟨w.driver.onIoStates msg, net⟩

theorem step_cases (h : w.step pins l = some w') : Moves pins w l w' := by
  cases l with
  | stimulus stimulus =>
    cases stimulus with
    | inputChange category hin pin value =>
      rw [← Option.some.inj h]
      exact .inputChange hin pin value
    | setDigital n state => rw [← Option.some.inj h]; exact .call fun _ => rfl
    | setAnalog n state => rw [← Option.some.inj h]; exact .call fun _ => rfl
    | setChangeCallback registered => rw [← Option.some.inj h]; exact .call fun _ => rfl
  | execute i =>
    obtain ⟨net, hnet, rfl⟩ := Option.map_eq_some_iff.1 h
    exact .net rfl (by simp) hnet
  | report =>
    rw [← Option.some.inj h]
    exact .net rfl (k := .report) (by simp) rfl
  | lose i =>
    obtain ⟨net, hnet, rfl⟩ := Option.map_eq_some_iff.1 h
    exact .net rfl (by simp) hnet
  | receive =>
    obtain ⟨⟨msg, net⟩, hnet, rfl⟩ := Option.map_eq_some_iff.1 h
    exact .receive hnet

/-- The cache shows a past state of the robot. -/
structure Inv (places : Dict String Place) (pins : Category → List Nat) (w : Remote) : Prop where
  wired : Wired places w.driver
  active : w.driver.active = true
  keys : Dict.keys w.driver.cache = Dict.keys places
  net : w.net.Sound places pins
  shown : w.net.ShownBy places w.driver

theorem keys_onIoStates (d : URIODriver) (msg : URIOStates) :
    Dict.keys (d.onIoStates msg).cache = Dict.keys d.cache := by
  rw [URIODriver.onIoStates_eq]
  induction d.updates msg generalizing d with
  | nil => rfl
  | cons e l ih => exact (ih _).trans (d.keys_updateCache e.1 e.2)

theorem active_onIoStates (d : URIODriver) (msg : URIOStates) :
    (d.onIoStates msg).active = d.active := by
  rw [URIODriver.onIoStates_eq]
  induction d.updates msg generalizing d with
  | nil => rfl
  | cons e l ih => exact (ih _).trans URIODriver.updateCache_active

theorem Inv.step (hpins : ∀ n c p, Dict.get places n = some (.pin c p) → p ∈ pins c)
    (h : w.Inv places pins) (hs : w.step pins l = some w') : w'.Inv places pins := by
  cases step_cases hs with
  | @inputChange category hin pin value =>
    have hnet : w.net.step pins (.outside category pin value) = some _ := rfl
    exact ⟨h.wired, h.active, h.keys, h.net.step hnet, h.shown.step hnet⟩
  | @call stimulus hcall =>
    have hsame := h.wired.samePins_outcome w.net.robot stimulus
    obtain ⟨r, hr, hagrees⟩ := h.shown
    exact ⟨hsame.wired, hsame.active.trans h.active, hsame.keys.trans h.keys,
      ⟨h.net.typed, h.net.reports, h.net.ordered⟩, r, hr, hsame.agrees hagrees⟩
  | net hl hk hnet => exact ⟨h.wired, h.active, h.keys, h.net.step hnet, h.shown.step hnet⟩
  | @receive msg net hnet =>
    obtain ⟨hsound, -⟩ := h.net.receive hnet
    refine ⟨h.wired.onIoStates msg, ?_, ?_, hsound, .receive h.net h.wired hpins hnet⟩
    · exact (active_onIoStates w.driver msg).trans h.active
    · exact (keys_onIoStates w.driver msg).trans h.keys

/-- The robot has had the states that it has had, and no report takes the cache back. -/
theorem Inv.forward (h : w.Inv places pins) (hs : w.step pins l = some w') :
    w.net.states <+: w'.net.states ∧ w.net.seen ≤ w'.net.seen := by
  cases step_cases hs with
  | inputChange => exact ⟨List.prefix_append _ _, Nat.le_refl _⟩
  | call => exact ⟨List.prefix_refl _, Nat.le_refl _⟩
  | net hl hk hnet => exact ⟨Network.states_step hnet, (Network.seen_step hnet).ge⟩
  | receive hnet =>
    obtain ⟨-, hle, hstates, -⟩ := h.net.receive hnet
    exact ⟨hstates ▸ List.prefix_refl _, hle⟩

/-- `cell` is what the driver and the robot come to when all calls have been executed and reported. -/
structure Mirrors (places : Dict String Place) (m : MockIODriver) (w : Remote) (cell : Cell) :
    Prop where
  related : Related places m cell
  twin : Twin places w.driver cell.driver
  robot : cell.robot = w.net.calls.foldl Robot.execute w.net.robot

namespace Mirrors

variable {m : MockIODriver} {cell : Cell}

/-- What the network does on its own does not show in the end. -/
theorem net (h : Mirrors places m w cell) {k : Network.Label} {net : Network}
    (hk : ∀ category pin value, k ≠ .outside category pin value) (hs : w.net.step pins k = some net) :
    Mirrors places m { w with net } cell := by
  refine ⟨h.related, h.twin, h.robot.trans ?_⟩
  cases Network.step_cases hs with
  | outside category pin value => exact absurd rfl (hk category pin value)
  | execute hcall hfirst =>
    exact (Robot.independent.foldl_eraseIdx hfirst hcall w.net.robot).symm
  | report => rfl
  | lose => rfl

theorem receive (h : Mirrors places m w cell) (hw : Wired places w.driver) {msg : URIOStates}
    {net : Network} (hs : w.net.receive = some (msg, net)) :
    Mirrors places m ⟨w.driver.onIoStates msg, net⟩ cell := by
  refine ⟨h.related, h.twin.message hw msg, h.robot.trans ?_⟩
  unfold Network.receive at hs
  split at hs
  · cases hs
  · rw [← (Prod.mk.inj (Option.some.inj hs)).2]

theorem quiet (h : Mirrors places m w cell) (hw : Wired places w.driver) (hl : l.stimulus? = none)
    (hs : w.step pins l = some w') : Mirrors places m w' cell := by
  cases step_cases hs with
  | inputChange => cases hl
  | call => cases hl
  | net _ hk hnet => exact h.net hk hnet
  | receive hnet => exact h.receive hw hnet

/-- Both sides get the stimulus. -/
theorem stimulus {mapping : URMappingDTO} (h : Mirrors mapping.places m w cell)
    (hw : Wired mapping.places w.driver)
    (hpins : ∀ category, ∀ e ∈ mapping.pins category, e.2 ∈ pins category) {stimulus : Stimulus}
    (hs : w.step pins (.stimulus stimulus) = some w') :
    Mirrors mapping.places (m.step mapping stimulus).1 w' (cell.step pins stimulus).1 := by
  have hrelated := (simulation hpins).next h.related stimulus
  obtain ⟨htwin, hrequest, -⟩ := h.twin.outcome hw w.net.robot cell.robot stimulus
  have hwired := (h.related.wired.samePins_outcome cell.robot stimulus).wired
  cases step_cases hs with
  | inputChange hin pin value =>
    refine ⟨hrelated, (htwin.symm.message hwired _).symm, ?_⟩
    show cell.robot.set _ pin value = w.net.calls.foldl Robot.execute (w.net.robot.set _ pin value)
    rw [h.robot]
    exact (List.foldl_hom (fun r : Robot => r.set _ pin value)
      fun r call => r.execute_set call hin pin value).symm
  | call hcall =>
    refine ⟨hrelated, (htwin.symm.message hwired _).symm, ?_⟩
    show cell.robotAfter stimulus = (w.net.calls ++ (w.outcome stimulus).request.toList).foldl
      Robot.execute w.net.robot
    have hrequest' : (cell.outcome stimulus).request = (w.outcome stimulus).request := hrequest
    rw [hcall, hrequest', List.foldl_append, ← h.robot]
    cases (w.outcome stimulus).request <;> rfl
  | net hl => cases hl

/-- Both sides accept a call or reject it with one class of errors. -/
theorem rejected {mapping : URMappingDTO} (h : Mirrors mapping.places m w cell)
    (hw : Wired mapping.places w.driver)
    (hpins : ∀ category, ∀ e ∈ mapping.pins category, e.2 ∈ pins category) (stimulus : Stimulus) :
    (m.step mapping stimulus).2.rejected =
      (w.outcome stimulus).error.map DriverError.errorClass := by
  have houtput := congrArg Observation.rejected ((simulation hpins).output h.related stimulus)
  obtain ⟨-, -, herror⟩ := h.twin.outcome hw w.net.robot cell.robot stimulus
  exact houtput.trans (congrArg (Option.map DriverError.errorClass) herror)

/-- When the last call has been executed and reported, the caches are the same. -/
theorem cache_eq (h : Mirrors places m w cell) (hw : w.Inv places pins) (hcalls : w.net.calls = [])
    (hseen : w.net.seen = w.net.past.length) : w.driver.cache = m.cache := by
  obtain ⟨r, hr, hagrees⟩ := hw.shown
  have hrobot : cell.robot = r := by
    rw [hseen, w.net.states_current] at hr
    rw [h.robot, hcalls]
    exact Option.some.inj hr
  have hnodup : (Dict.keys w.driver.cache).Nodup := by
    rw [hw.keys]
    exact hw.wired.nodup
  rw [h.related.cache_eq]
  refine Dict.ext_get h.twin.keys.symm hnodup fun n => ?_
  cases hn : Dict.get places n with
  | none => rw [hw.wired.cached_none hn, h.related.wired.cached_none hn]
  | some place =>
    cases place with
    | toolVoltage => exact (h.twin.toolVoltage n hn).symm
    | pin category pin =>
      obtain ⟨signal, hsignal, -⟩ := hw.wired.cached hn
      obtain ⟨signal', hsignal', -⟩ := h.related.wired.cached hn
      have hstate : signal.state = signal'.state := by
        rw [← hagrees n category pin signal hn hsignal, ← hrobot]
        exact h.related.robot n category pin signal' hn hsignal'
      have hreset := h.twin.signals n
      rw [hsignal, hsignal', Option.map_some, Option.map_some, Option.some.injEq] at hreset
      rw [hsignal, hsignal', Signal.eq_of_reset hreset.symm hstate]

theorem snapshot_eq (h : Mirrors places m w cell) (hw : w.Inv places pins) (hcalls : w.net.calls = [])
    (hseen : w.net.seen = w.net.past.length) : w.driver.snapshot = m.snapshot := by
  rw [Driver.snapshot, h.cache_eq hw hcalls hseen, ← Driver.snapshot]

end Mirrors

/-! ### Catching up -/

/-- Neither side gets a stimulus. -/
def Quiet (_ : Remote) (l : Label) : Prop := l.stimulus? = none

theorem executes_all (pins : Category → List Nat) (w : Remote) :
    ∃ w', Lts.Runs (step pins) Quiet w w' ∧ w'.net.calls = [] := by
  induction hcalls : w.net.calls generalizing w with
  | nil => exact ⟨w, .refl, hcalls⟩
  | cons call calls ih =>
    have hs : w.step pins (.execute 0) = some { w with
        net := { w.net.become (w.net.robot.execute call) with calls := w.net.calls.eraseIdx 0 } } := by
      simp [step, overNet, Network.step, hcalls, Lanes.First.zero]
    obtain ⟨w', hrun, hdone⟩ := ih { w with
      net := { w.net.become (w.net.robot.execute call) with calls := w.net.calls.eraseIdx 0 } }
      (by simp [hcalls])
    have hquiet : w.Quiet (.execute 0) := rfl
    exact ⟨w', (Lts.Runs.single hquiet hs).trans hrun, hdone⟩

theorem receives_all (pins : Category → List Nat) (w : Remote) : ∃ w', Lts.Runs (step pins) Quiet w w' ∧
    w'.net.reports = [] ∧ w'.net.calls = w.net.calls := by
  induction hreports : w.net.reports generalizing w with
  | nil => exact ⟨w, .refl, hreports, rfl⟩
  | cons report reports ih =>
    have hs : w.step pins .receive =
        some ⟨w.driver.onIoStates report.2, { w.net with reports, seen := report.1 }⟩ := by
      simp [step, Network.receive, hreports]
    obtain ⟨w', hrun, hdone, hcalls⟩ := ih
      ⟨w.driver.onIoStates report.2, { w.net with reports, seen := report.1 }⟩ rfl
    have hquiet : w.Quiet .receive := rfl
    exact ⟨w', (Lts.Runs.single hquiet hs).trans hrun, hdone, hcalls⟩

/-- The network can always catch up. -/
theorem catches_up (pins : Category → List Nat) (w : Remote) :
    ∃ w', Lts.Runs (step pins) Quiet w w' ∧ w'.net.calls = [] ∧ w'.net.seen = w'.net.past.length := by
  obtain ⟨w₁, hexecute, hcalls₁⟩ := w.executes_all pins
  obtain ⟨w₂, hreceive, hreports₂, hcalls₂⟩ := w₁.receives_all pins
  have hreport : w₂.step pins .report = some { w₂ with
      net := { w₂.net with reports := [(w₂.net.past.length, w₂.net.robot.message pins)] } } := by
    simp [step, overNet, Network.step, hreports₂]
  have hquiet : w₂.Quiet .report := rfl
  have hquiet' (w : Remote) : w.Quiet .receive := rfl
  refine ⟨_, ((hexecute.trans hreceive).tail hquiet hreport).tail (hquiet' _) rfl, ?_, rfl⟩
  exact hcalls₂.trans hcalls₁

/-- A driver that has been configured and activated shows the defaults, and so does the robot. -/
theorem initial {py : Pydantic} (hstr : ∀ s, py.parseStr (.str s) = some s)
    {device : List (Yaml × Yaml)} {init : URIODriver} (hinit : URIODriver.configure py device = .ok init)
    {robot : Robot} (hrobot : robot.AtDefaults init.device.mapping (Dict.values init.cache))
    {mock : MockIODriver} (hmock : init.toDriver = mock.toDriver) (registered : Bool)
    (pins : Category → List Nat) :
    Inv init.device.mapping.places pins
      ⟨{ init with callback := registered, active := true }, { robot }⟩ ∧
    Mirrors init.device.mapping.places { mock with callback := registered }
      ⟨{ init with callback := registered, active := true }, { robot }⟩
      ⟨{ init with callback := registered, active := true }, robot⟩ := by
  have hrelated := Related.initial hstr hinit hrobot hmock registered
  have hsound : Network.Sound init.device.mapping.places pins { robot } :=
    .initial (fun _ => List.not_mem_nil.elim) hrelated.typed
  have hkeys : Dict.keys init.cache = Dict.keys init.device.mapping.places := keys_configure hstr hinit
  exact ⟨⟨hrelated.wired, rfl, hkeys, hsound, robot, rfl, hrelated.robot⟩, hrelated, .refl _ _, rfl⟩

end Remote

/-- The mock after the stimuli of a run. -/
def MockIODriver.after (mapping : URMappingDTO) (m : MockIODriver) (ls : List Remote.Label) :
    MockIODriver :=
  (ls.filterMap Remote.Label.stimulus?).foldl (fun m stimulus => (m.step mapping stimulus).1) m

namespace Remote

variable {mapping : URMappingDTO} {pins : Category → List Nat} {w w' : Remote} {m : MockIODriver}

theorem mirrors_run (hpins : ∀ category, ∀ e ∈ mapping.pins category, e.2 ∈ pins category)
    (hplaces : ∀ n c p, Dict.get mapping.places n = some (.pin c p) → p ∈ pins c) {ls : List Label}
    (hw : w.Inv mapping.places pins) (hm : ∃ cell, Mirrors mapping.places m w cell)
    (h : Lts.Trace (step pins) (fun _ _ => True) w ls w') :
    w'.Inv mapping.places pins ∧ ∃ cell, Mirrors mapping.places (m.after mapping ls) w' cell := by
  induction h generalizing m with
  | nil => exact ⟨hw, hm⟩
  | @cons w w₁ w' l ls hc hs h ih =>
    obtain ⟨cell, hm⟩ := hm
    have hw₁ := hw.step hplaces hs
    cases hl : l.stimulus? with
    | none =>
      have hafter : m.after mapping (l :: ls) = m.after mapping ls := by
        rw [MockIODriver.after, List.filterMap_cons_none hl, MockIODriver.after]
      rw [hafter]
      exact ih hw₁ ⟨cell, hm.quiet hw.wired hl hs⟩
    | some stimulus =>
      have hafter : m.after mapping (l :: ls) = (m.step mapping stimulus).1.after mapping ls := by
        rw [MockIODriver.after, List.filterMap_cons_some hl, MockIODriver.after, List.foldl_cons]
      rw [hafter]
      obtain rfl : l = .stimulus stimulus := by
        cases l with
        | stimulus s => rw [Option.some.inj hl]
        | _ => cases hl
      exact ih hw₁ ⟨_, hm.stimulus hw.wired hpins hs⟩

end Remote

/-- However calls and reports are delayed, the cache of the UR driver shows a state that the robot has
had and never an earlier one again, calls are accepted and rejected as the mock does, and when the
network has caught up, which it always can, the driver and the mock have one snapshot. -/
theorem remote_driver_converges {py : Pydantic} (hstr : ∀ s, py.parseStr (.str s) = some s)
    {device : List (Yaml × Yaml)} {init : URIODriver}
    (hinit : URIODriver.configure py device = .ok init) {pins : Category → List Nat}
    (hpins : ∀ category, ∀ e ∈ init.device.mapping.pins category, e.2 ∈ pins category)
    {robot : Robot} (hrobot : robot.AtDefaults init.device.mapping (Dict.values init.cache))
    (registered : Bool) :
    ∃ mock, MockIODriver.configure .UR device = .ok mock ∧ ∀ ls w,
      Lts.Trace (Remote.step pins) (fun _ _ => True)
        ⟨{ init with callback := registered, active := true }, { robot }⟩ ls w →
      let mapping := init.device.mapping
      let m := MockIODriver.after mapping { mock with callback := registered } ls
      (∃ r, w.net.states[w.net.seen]? = some r ∧ r.Agrees mapping.places w.driver.cache) ∧
      (∀ l w', w.step pins l = some w' →
        w.net.states <+: w'.net.states ∧ w.net.seen ≤ w'.net.seen) ∧
      (∀ stimulus, (w.outcome stimulus).error.map DriverError.errorClass =
        (m.step mapping stimulus).2.rejected) ∧
      (w.net.calls = [] → w.net.seen = w.net.past.length → w.driver.snapshot = m.snapshot) ∧
      ∃ w', Lts.Runs (Remote.step pins) Remote.Quiet w w' ∧ w'.driver.snapshot = m.snapshot := by
  obtain ⟨signals, -, hsignals, hn, hd, -⟩ := URIODriver.configure_ok hinit
  have hmock := MockIODriver.configure_of_nodup hsignals hn
  refine ⟨_, hmock, fun ls w h => ?_⟩
  set mapping := init.device.mapping
  have hplaces := mapping.mem_of_places hpins
  obtain ⟨hinv, hmirrors⟩ := Remote.initial hstr hinit hrobot hd registered pins
  obtain ⟨hw, cell, hm⟩ := Remote.mirrors_run hpins hplaces hinv ⟨_, hmirrors⟩ h
  refine ⟨hw.shown, fun l w' hs => hw.forward hs, fun stimulus => ?_,
    hm.snapshot_eq hw, ?_⟩
  · exact (hm.rejected hw.wired hpins stimulus).symm
  · obtain ⟨w', hrun, hcalls, hseen⟩ := w.catches_up pins
    obtain ⟨hw', hm'⟩ := hrun.invariant
      (I := fun w => w.Inv mapping.places pins ∧ Remote.Mirrors mapping.places _ w cell) ⟨hw, hm⟩
      fun hi hq hs => ⟨hi.1.step hplaces hs, hi.2.quiet hi.1.wired hq hs⟩
    exact ⟨w', hrun, hm'.snapshot_eq hw' hcalls hseen⟩

theorem Category.direction_digitalInStates : Category.digitalInStates.direction = .IN := rfl

/-- The analog output is written before the digital one that was sent first, and a report is late. -/
def delayedLabels : List Remote.Label := [
  .stimulus (.setDigital "gripper" true), .stimulus (.setAnalog "speed" 2), .report, .execute 1,
  .stimulus (.inputChange .digitalInStates Category.direction_digitalInStates 0 (.bool true)), .report,
  .execute 0, .receive, .report,
  .lose 0, .receive]

theorem remote_driver_converges_delayedLabels :
    ∃ init, URIODriver.configure .strict sampleDevice = .ok init ∧
      ∃ mock, MockIODriver.configure .UR sampleDevice = .ok mock ∧
        ∃ w : Remote, w.net.seen = 3 ∧ w.driver.snapshot =
          (MockIODriver.after init.device.mapping { mock with callback := true } delayedLabels).snapshot := by
  have hstr : ∀ s, Pydantic.strict.parseStr (.str s) = some s := fun _ => rfl
  let robot : Robot :=
    { value := fun category _ => if category.isDigital then .bool false else .float 0 }
  have hinit : URIODriver.configure .strict sampleDevice = .ok _ := rfl
  obtain ⟨mock, hmock, hruns⟩ := @remote_driver_converges .strict hstr sampleDevice _ hinit
    (fun _ => [0, 1]) (by intro category; cases category <;> decide) robot
    (by intro category; cases category <;> decide) true
  exact ⟨_, hinit, mock, hmock, _, rfl, (hruns delayedLabels _ (.of_exec rfl)).2.2.2.1 rfl rfl⟩

end IoControllers
