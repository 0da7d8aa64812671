import MovementController.Io.SetIo

/-!
# `set_io` is best-effort

The handler over a driver of which nothing is known: any state, any exception at any write. The writes
it attempts are recorded with what they raise, and the response is read off the entries and this record.
-/

namespace IoControllers

/-- An entry and the exception of its write, if there was one. -/
abbrev Attempt := SetEntry × Option DriverError

section BestEffort

variable {δ : Type} (signalIndex : Dict String SignalMeta)
  (write : ℕ → SetEntry → δ → δ × Option DriverError)

/-- The entry names a mapped output of the type of its list. -/
def namesOutput (e : SetEntry) : Bool :=
  decide (Dict.get signalIndex e.ioName = some (e.isDigital, .OUT))

/-- The driver's write, recorded. -/
def attempt (i : ℕ) (e : SetEntry) (s : δ × List Attempt) : (δ × List Attempt) × Option DriverError :=
  (((write i e s.1).1, s.2 ++ [(e, (write i e s.1).2)]), (write i e s.1).2)

/-- `_on_set_io` with a driver in the state `d`: the driver afterwards, the writes attempted on it and
the response. -/
def attemptSetIo (request : SetIO.Request) (d : δ) : (δ × List Attempt) × SetIO.Response :=
  let st := applyEntries signalIndex (attempt write) 0 request.entries { driver := (d, []) }
  (st.driver, setIoResponse request.entries.length st.failed st.reasons)

/-- The entry is not written: it names no output, or its write raises. -/
def fails (a : Attempt) : Bool := !namesOutput signalIndex a.1 || a.2.isSome

variable {signalIndex write}

theorem namesOutput_iff {e : SetEntry} : namesOutput signalIndex e = true ↔
    Dict.get signalIndex e.ioName = some (e.isDigital, .OUT) := decide_eq_true_iff

/-! ### The loops -/

/-- From `st` to `st'` the handler has taken the entries of `taken`: it has attempted the writes of those
that name an output, and noted the names of those that fail. -/
structure Attempted (signalIndex : Dict String SignalMeta) (st : SetIoState (δ × List Attempt))
    (taken : List Attempt) (st' : SetIoState (δ × List Attempt)) : Prop where
  attempts : st'.driver.2 = st.driver.2 ++ taken.filter fun a => namesOutput signalIndex a.1
  failed : st'.failed = st.failed ++ (taken.filter (fails signalIndex)).map (·.1.ioName)

theorem Attempted.trans {st st' st'' : SetIoState (δ × List Attempt)} {taken taken' : List Attempt}
    (h : Attempted signalIndex st taken st') (h' : Attempted signalIndex st' taken' st'') :
    Attempted signalIndex st (taken ++ taken') st'' := by
  constructor
  · rw [h'.attempts, h.attempts, List.filter_append, List.append_assoc]
  · rw [h'.failed, h.failed, List.filter_append, List.map_append, List.append_assoc]

variable (signalIndex write)

end BestEffort

/-- The state without the record of the writes. -/
def SetIoState.forget {δ : Type} (st : SetIoState (δ × List Attempt)) : SetIoState δ where
  driver := st.driver.1
  failed := st.failed
  reasons := st.reasons

section Forget

variable {δ : Type} {signalIndex : Dict String SignalMeta}
  {write : ℕ → SetEntry → δ → δ × Option DriverError}

theorem forget_applySetEntry (i : ℕ) (e : SetEntry) (st : SetIoState (δ × List Attempt)) :
    (applySetEntry signalIndex (attempt write i) st e).forget =
      applySetEntry signalIndex (write i) st.forget e := by
  unfold applySetEntry
  split
  · rfl
  · split
    · rfl
    · split
      · rfl
      · simp only [attempt, SetIoState.forget]
        rcases write i e st.driver.1 with ⟨d, _ | exc⟩ <;> rfl

theorem forget_applyEntries (entries : List SetEntry) (i : ℕ) (st : SetIoState (δ × List Attempt)) :
    (applyEntries signalIndex (attempt write) i entries st).forget =
      applyEntries signalIndex write i entries st.forget := by
  induction entries generalizing i st with
  | nil => rfl
  | cons e entries ih => rw [applyEntries, ih, forget_applySetEntry, applyEntries]

end Forget

/-- The record changes nothing: the response is that of the node's handler. -/
theorem GpioController.onSetIo_response {n : GpioController} {driver : IODriver}
    (hd : n.driver = some driver) (request : SetIO.Request) (fault : ℕ → Option String) :
    (n.onSetIo request fault).2.1 =
      (attemptSetIo n.signalIndex (fun i => IODriver.write (fault i) i) request (driver, [])).2 := by
  have hforget : (applyEntries n.signalIndex (attempt fun i => IODriver.write (fault i) i) 0
      request.entries { driver := ((driver, []), []) }).forget =
      applyEntries n.signalIndex (fun i => IODriver.write (fault i) i) 0 request.entries
        { driver := (driver, []) } := forget_applyEntries request.entries 0 _
  simp only [onSetIo, hd, attemptSetIo, ← hforget]
  rfl

end IoControllers
