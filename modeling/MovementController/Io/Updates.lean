import MovementController.Io.Wiring

/-!
# A message as a sequence of cache updates

`_on_io_states` is the calls of `_update_cache` for its entries, in the order of the loops.
-/

namespace IoControllers

namespace URIODriver

/-! ### One cache update -/

section Update

variable {d : URIODriver} {ioName : String} {signal : Signal} {value : Value}

@[simp] theorem updateCache_readIndex : (d.updateCache ioName value).readIndex = d.readIndex := by
  unfold updateCache
  split
  · rfl
  · split <;> rfl

@[simp] theorem updateCache_writeIndex : (d.updateCache ioName value).writeIndex = d.writeIndex := by
  unfold updateCache
  split
  · rfl
  · split <;> rfl

@[simp] theorem updateCache_active : (d.updateCache ioName value).active = d.active := by
  unfold updateCache
  split
  · rfl
  · split <;> rfl

theorem updateCache_of_num_eq (hget : Dict.get d.cache ioName = some signal)
    (h : signal.state.num = value.num) : d.updateCache ioName value = d := by
  simp [updateCache, hget, h]

theorem updateCache_of_ne (hget : Dict.get d.cache ioName = some signal)
    (h : signal.state.num ≠ value.num) : d.updateCache ioName value =
      { d with toDriver := d.store ioName { signal with state := value } } := by
  simp [updateCache, hget, h]

theorem get_updateCache_of_ne {n : String} (hn : n ≠ ioName) :
    Dict.get (d.updateCache ioName value).cache n = Dict.get d.cache n := by
  unfold updateCache
  split
  · rfl
  · split
    · rfl
    · exact Dict.get_set_of_ne hn

theorem get_updateCache_self (hget : Dict.get d.cache ioName = some signal) (value : Value) :
    ∃ state, state.num = value.num ∧ (state = signal.state ∨ state = value) ∧
      Dict.get (d.updateCache ioName value).cache ioName = some { signal with state := state } := by
  by_cases h : signal.state.num = value.num
  · rw [updateCache_of_num_eq hget h]
    exact ⟨signal.state, h, .inl rfl, hget⟩
  · rw [updateCache_of_ne hget h]
    exact ⟨value, rfl, .inr rfl, Dict.get_set_self⟩

end Update

/-! ### One message -/

def categoryUpdates (d : URIODriver) (category : Category) (entries : List PinState) :
    List (String × Value) :=
  entries.filterMap fun entry =>
    (Dict.get (d.readIndex category) entry.pin).map fun n => (n, category.coerce entry.state)

def updates (d : URIODriver) (msg : URIOStates) : List (String × Value) :=
  (Category.digital ++ Category.analog).flatMap fun category =>
    d.categoryUpdates category (msg category)

def update (d : URIODriver) (e : String × Value) : URIODriver := d.updateCache e.1 e.2

theorem foldl_update_readIndex (l : List (String × Value)) (d : URIODriver) :
    (l.foldl update d).readIndex = d.readIndex := by
  induction l generalizing d with
  | nil => rfl
  | cons e l ih => rw [List.foldl_cons, ih, update, updateCache_readIndex]

theorem updateCategory_eq (d : URIODriver) (category : Category) (entries : List PinState) :
    d.updateCategory category.coerce category entries =
      (d.categoryUpdates category entries).foldl update d := by
  induction entries generalizing d with
  | nil => rfl
  | cons entry entries ih =>
    rw [updateCategory, List.foldl_cons, ← updateCategory, categoryUpdates, List.filterMap_cons]
    cases hn : Dict.get (d.readIndex category) entry.pin with
    | none => exact ih d
    | some n =>
      have hread (e : PinState) : Dict.get (d.readIndex category) e.pin =
          Dict.get ((d.updateCache n (category.coerce entry.state)).readIndex category) e.pin := by
        rw [updateCache_readIndex]
      simp only [hread]
      exact ih _

theorem foldl_updateCategory_eq (msg : URIOStates) (categories : List Category) (d : URIODriver) :
    categories.foldl (fun d c => d.updateCategory c.coerce c (msg c)) d =
      (categories.flatMap fun c => d.categoryUpdates c (msg c)).foldl update d := by
  induction categories generalizing d with
  | nil => rfl
  | cons c categories ih =>
    have hread (c' : Category) : d.categoryUpdates c' (msg c') =
        ((d.categoryUpdates c (msg c)).foldl update d).categoryUpdates c' (msg c') := by
      unfold categoryUpdates
      rw [foldl_update_readIndex]
    rw [List.foldl_cons, ih, List.flatMap_cons, List.foldl_append, updateCategory_eq]
    simp only [← hread]

theorem onIoStates_eq (d : URIODriver) (msg : URIOStates) :
    d.onIoStates msg = (d.updates msg).foldl update d := by
  rw [updates, ← foldl_updateCategory_eq, List.foldl_append]
  rfl

end URIODriver

end IoControllers
