import MovementController.Io.Events
import MovementController.Io.Updates
import MovementController.Lib.Runs

/-!
# Snapshots of the UR driver

`_on_io_states` takes the cache lock for one signal after the other, so that a `snapshot` on another
thread can come between two signals of one message. It sees whole messages as long as it does not come
between two genuine changes.
-/

namespace IoControllers

namespace URIODriver

/-! ### Genuine changes -/

/-- Whether `_update_cache` changes the cached state. -/
def changes (d : URIODriver) (u : String × Value) : Bool :=
  match Dict.get d.cache u.1 with
  | none => false
  | some signal => signal.state.num ≠ u.2.num

/-- How many of the updates are genuine changes. -/
def countChanges (d : URIODriver) : List (String × Value) → ℕ
  | [] => 0
  | u :: us => (if d.changes u then 1 else 0) + countChanges (d.updateCache u.1 u.2) us

theorem updateCache_of_not_changes {d : URIODriver} {u : String × Value} (h : d.changes u = false) :
    d.updateCache u.1 u.2 = d := by
  unfold changes at h
  unfold updateCache
  split
  · rfl
  · next signal hget =>
    rw [hget] at h
    exact if_pos (by simpa using h)

/-- The write of a genuine change. -/
theorem updateCache_of_changes {d : URIODriver} {u : String × Value} (h : d.changes u = true) :
    ∃ signal, Dict.get d.cache u.1 = some signal ∧ signal.state.num ≠ u.2.num ∧
      (d.updateCache u.1 u.2).toDriver = d.store u.1 { signal with state := u.2 } := by
  unfold changes at h
  unfold updateCache
  split
  · next hnone =>
    rw [hnone] at h
    cases h
  · next signal hget =>
    rw [hget] at h
    have hne : signal.state.num ≠ u.2.num := of_decide_eq_true h
    exact ⟨signal, hget, hne, by rw [if_neg hne]⟩

theorem updates_congr {d d' : URIODriver} (h : d'.readIndex = d.readIndex) (msg : URIOStates) :
    d'.updates msg = d.updates msg := by
  unfold updates categoryUpdates
  rw [h]

theorem foldl_update_of_no_changes {d : URIODriver} {us : List (String × Value)}
    (h : d.countChanges us = 0) : us.foldl update d = d := by
  induction us generalizing d with
  | nil => rfl
  | cons u us ih =>
    rw [countChanges, Nat.add_eq_zero_iff] at h
    obtain ⟨hu, hus⟩ := h
    have hsame : d.changes u = false := by
      cases hc : d.changes u with
      | false => rfl
      | true => simp [hc] at hu
    rw [updateCache_of_not_changes hsame] at hus
    show us.foldl update (d.updateCache u.1 u.2) = d
    rw [updateCache_of_not_changes hsame]
    exact ih hus

theorem countChanges_append (d : URIODriver) (us us' : List (String × Value)) :
    d.countChanges (us ++ us') = d.countChanges us + (us.foldl update d).countChanges us' := by
  induction us generalizing d with
  | nil => exact (Nat.zero_add _).symm
  | cons u us ih =>
    rw [List.cons_append, countChanges, countChanges, ih, Nat.add_assoc]
    rfl

/-! ### The cache under updates -/

theorem consistent_updateCache {d : URIODriver} (h : d.Consistent) (u : String × Value) :
    (d.updateCache u.1 u.2).Consistent := by
  cases hu : d.changes u with
  | false =>
    rw [updateCache_of_not_changes hu]
    exact h
  | true =>
    obtain ⟨signal, hget, -, hstore⟩ := updateCache_of_changes hu
    have hname : signal.ioName = u.1 := h.keyed _ _ hget
    rw [hstore]
    exact h.store hget hname

theorem consistent_foldl_update {d : URIODriver} (h : d.Consistent) (us : List (String × Value)) :
    (us.foldl update d).Consistent := by
  induction us generalizing d with
  | nil => exact h
  | cons u us ih => exact ih (consistent_updateCache h u)

theorem get_foldl_update_of_notMem {d : URIODriver} {us : List (String × Value)} {name : String}
    (h : name ∉ us.map Prod.fst) :
    Dict.get (us.foldl update d).cache name = Dict.get d.cache name := by
  induction us generalizing d with
  | nil => rfl
  | cons u us ih =>
    rw [List.map_cons, List.mem_cons, not_or] at h
    exact (ih h.2).trans (get_updateCache_of_ne h.1)

/-- Genuine changes of distinct signals are visible. -/
theorem get_ne_of_changes {d : URIODriver} {us : List (String × Value)}
    (hnodup : (us.map Prod.fst).Nodup) (h : d.countChanges us ≠ 0) :
    ∃ name, Dict.get (us.foldl update d).cache name ≠ Dict.get d.cache name := by
  induction us generalizing d with
  | nil => exact absurd rfl h
  | cons u us ih =>
    rw [List.map_cons, List.nodup_cons] at hnodup
    cases hu : d.changes u with
    | true =>
      refine ⟨u.1, fun heq => ?_⟩
      obtain ⟨signal, hget, hne, hstore⟩ := updateCache_of_changes hu
      have hlast : Dict.get ((u :: us).foldl update d).cache u.1 =
          some { signal with state := u.2 } := by
        refine (get_foldl_update_of_notMem hnodup.1).trans ?_
        show Dict.get (d.updateCache u.1 u.2).cache u.1 = _
        rw [hstore]
        exact Dict.get_set_self
      rw [hlast, hget] at heq
      exact hne (congrArg (·.state.num) (Option.some.inj heq)).symm
    | false =>
      have hsame := updateCache_of_not_changes hu
      rw [countChanges, hsame, if_neg (by rw [hu]; exact Bool.false_ne_true), Nat.zero_add] at h
      obtain ⟨name, hname⟩ := ih hnodup.2 h
      refine ⟨name, ?_⟩
      show Dict.get (us.foldl update (d.updateCache u.1 u.2)).cache name ≠ _
      rw [hsame]
      exact hname

theorem snapshot_ne_of_changes {d : URIODriver} (hd : d.Consistent) {us : List (String × Value)}
    (hnodup : (us.map Prod.fst).Nodup) (h : d.countChanges us ≠ 0) :
    (us.foldl update d).snapshot ≠ d.snapshot := by
  obtain ⟨name, hname⟩ := get_ne_of_changes hnodup h
  intro heq
  refine hname ?_
  rw [← hd.signal?_snapshot, ← (consistent_foldl_update hd us).signal?_snapshot, heq]

end URIODriver

/-! ### Messages and snapshots -/

/-- The two threads. `pending` are the updates of the current message that are still to be made and
`written` counts the genuine changes it has made; each snapshot has the number of messages begun. -/
structure CacheUse where
  driver : URIODriver
  pending : List (String × Value) := []
  written : ℕ := 0
  messages : List URIOStates := []
  snapshots : List (ℕ × IOStatesSnapshot) := []

namespace CacheUse

open URIODriver

inductive Label where
  | message (msg : URIOStates)
  | update
  | snapshot

def step (s : CacheUse) : Label → Option CacheUse
  | .message msg =>
    if s.pending = [] then
      some { s with
        pending := s.driver.updates msg
        written := 0
        messages := s.messages ++ [msg] }
    else none
  | .update =>
    match s.pending with
    | [] => none
    | u :: pending =>
      some { s with
        driver := s.driver.updateCache u.1 u.2
        pending
        written := s.written + if s.driver.changes u then 1 else 0 }
  | .snapshot => some { s with snapshots := s.snapshots ++ [(s.messages.length, s.driver.snapshot)] }

/-- What a step can do. -/
inductive Moves (s : CacheUse) : Label → CacheUse → Prop
  | message (msg : URIOStates) (hpending : s.pending = []) :
      Moves s (.message msg) { s with
        pending := s.driver.updates msg
        written := 0
        messages := s.messages ++ [msg] }
  | update {u : String × Value} {pending : List (String × Value)} (hpending : s.pending = u :: pending) :
      Moves s .update { s with
        driver := s.driver.updateCache u.1 u.2
        pending
        written := s.written + if s.driver.changes u then 1 else 0 }
  | snapshot : Moves s .snapshot
      { s with snapshots := s.snapshots ++ [(s.messages.length, s.driver.snapshot)] }

theorem step_cases {s s' : CacheUse} {l : Label} (h : s.step l = some s') : Moves s l s' := by
  cases l with
  | message msg =>
    rw [step] at h
    split at h
    · next hpending => rw [← Option.some.inj h]; exact .message msg hpending
    · cases h
  | update =>
    rw [step] at h
    split at h
    · cases h
    · next u pending hpending => rw [← Option.some.inj h]; exact .update hpending
  | snapshot => rw [← Option.some.inj h]; exact .snapshot

/-- Between two genuine changes of one message. -/
def Between (s : CacheUse) : Prop := s.written ≠ 0 ∧ s.driver.countChanges s.pending ≠ 0

def Undivided (s : CacheUse) : Label → Prop
  | .snapshot => ¬s.Between
  | _ => True

/-- The cache after the first `n` messages. -/
def after (init : URIODriver) (messages : List URIOStates) (n : ℕ) : URIODriver :=
  (messages.take n).foldl onIoStates init

/-- The snapshot is the one of the cache after a whole number of messages: all that have been begun, or
all but the last of them. -/
def Whole (init : URIODriver) (s : CacheUse) (p : ℕ × IOStatesSnapshot) : Prop :=
  ∃ n, n ≤ p.1 ∧ p.1 ≤ n + 1 ∧ p.2 = (after init s.messages n).snapshot

variable {init : URIODriver} {s s' : CacheUse} {l : Label}

/-- Either no message has come yet, or the updates of the last one have been made in part. -/
structure Inv (init : URIODriver) (s : CacheUse) : Prop where
  readIndex : s.driver.readIndex = init.readIndex
  current : (s.messages = [] ∧ s.pending = [] ∧ s.written = 0 ∧ s.driver = init) ∨
    ∃ done msg applied, s.messages = done ++ [msg] ∧
      init.updates msg = applied ++ s.pending ∧
      s.driver = applied.foldl update (done.foldl onIoStates init) ∧
      s.written = (done.foldl onIoStates init).countChanges applied

theorem readIndex_foldl_onIoStates (init : URIODriver) (messages : List URIOStates) :
    (messages.foldl onIoStates init).readIndex = init.readIndex := by
  induction messages using List.reverseRecOn with
  | nil => rfl
  | append_singleton messages msg ih =>
    rw [List.foldl_append, List.foldl_cons, List.foldl_nil, onIoStates_eq, foldl_update_readIndex, ih]

theorem consistent_foldl_onIoStates (hinit : init.Consistent) (messages : List URIOStates) :
    (messages.foldl onIoStates init).Consistent := by
  induction messages using List.reverseRecOn with
  | nil => exact hinit
  | append_singleton messages msg ih =>
    rw [List.foldl_append, List.foldl_cons, List.foldl_nil, onIoStates_eq]
    exact consistent_foldl_update ih _

namespace Inv

theorem initial (init : URIODriver) : Inv init { driver := init } :=
  ⟨rfl, .inl ⟨rfl, rfl, rfl, rfl⟩⟩

/-- When the updates to come change nothing, the cache is the one after all messages. -/
theorem driver_of_no_changes (h : s.Inv init) (hnone : s.driver.countChanges s.pending = 0) :
    s.driver = s.messages.foldl onIoStates init := by
  have hsame := foldl_update_of_no_changes hnone
  rcases h.current with ⟨hmessages, -, -, hdriver⟩ | ⟨done, msg, applied, hmessages, hupdates, hdriver, -⟩
  · rw [hmessages]
    exact hdriver
  · rw [← hsame, hdriver, ← List.foldl_append, ← hupdates, hmessages, List.foldl_append,
      List.foldl_cons, List.foldl_nil, onIoStates_eq,
      updates_congr (readIndex_foldl_onIoStates init done)]

theorem step (h : s.Inv init) (hs : s.step l = some s') : s'.Inv init := by
  cases step_cases hs with
  | message msg hpending =>
    refine ⟨h.readIndex, .inr ⟨s.messages, msg, [], rfl, ?_, ?_, rfl⟩⟩
    · exact (updates_congr h.readIndex msg).symm
    · exact h.driver_of_no_changes (by rw [hpending]; rfl)
  | @update u pending hpending =>
    refine ⟨updateCache_readIndex.trans h.readIndex, .inr ?_⟩
    rcases h.current with ⟨-, hnil, -⟩ | ⟨done, msg, applied, hmessages, hupdates, hdriver, hwritten⟩
    · rw [hpending] at hnil
      cases hnil
    · refine ⟨done, msg, applied ++ [u], hmessages, ?_, ?_, ?_⟩
      · rw [hupdates, hpending, List.append_assoc]
        rfl
      · rw [List.foldl_append, hdriver]
        rfl
      · rw [countChanges_append, hwritten, hdriver]
        rfl
  | snapshot => exact ⟨h.readIndex, h.current⟩

theorem of_runs {C : CacheUse → Label → Prop} (h : Lts.Runs CacheUse.step C { driver := init } s) :
    s.Inv init :=
  h.invariant (initial init) fun h _ hs => h.step hs

/-- A snapshot that does not come between two changes is whole. -/
theorem whole (h : s.Inv init) (hu : ¬s.Between) :
    s.Whole init (s.messages.length, s.driver.snapshot) := by
  by_cases hwritten : s.written = 0
  · rcases h.current with ⟨hmessages, -, -, hdriver⟩ | ⟨done, msg, applied, hmessages, -, hdriver, hcount⟩
    · refine ⟨0, Nat.zero_le _, ?_, ?_⟩
      · rw [hmessages]
        exact Nat.zero_le _
      · rw [hdriver]
        rfl
    · rw [hwritten] at hcount
      refine ⟨done.length, ?_, ?_, ?_⟩
      · rw [hmessages, List.length_append]
        exact Nat.le_add_right _ _
      · rw [hmessages, List.length_append]
        rfl
      · rw [after, hmessages, List.take_left, hdriver, foldl_update_of_no_changes hcount.symm]
  · have hnone : s.driver.countChanges s.pending = 0 := by
      by_contra hne
      exact hu ⟨hwritten, hne⟩
    refine ⟨s.messages.length, Nat.le_refl _, Nat.le_succ _, ?_⟩
    rw [after, List.take_length, ← h.driver_of_no_changes hnone]

/-- Between two changes of a message that has every signal at most once, the cache is neither the one
before the message nor the one after it. -/
theorem not_whole (h : s.Inv init) (hinit : init.Consistent)
    (honce : ∀ msg ∈ s.messages.getLast?, ((init.updates msg).map Prod.fst).Nodup)
    (hb : s.Between) : ¬s.Whole init (s.messages.length, s.driver.snapshot) := by
  obtain ⟨hwritten, hpending⟩ := hb
  rcases h.current with ⟨-, -, hzero, -⟩ | ⟨done, msg, applied, hmessages, hupdates, hdriver, hcount⟩
  · exact absurd hzero hwritten
  have hnodup := honce msg (by rw [hmessages, List.getLast?_append]; rfl)
  rw [hupdates, List.map_append, List.nodup_append] at hnodup
  have hbefore := consistent_foldl_onIoStates hinit done
  have hlength : s.messages.length = done.length + 1 := by
    rw [hmessages, List.length_append]
    rfl
  rintro ⟨n, hn, hn', hsnapshot⟩
  rw [hlength] at hn hn'
  have hcases : n = done.length ∨ n = done.length + 1 := by omega
  rcases hcases with rfl | rfl
  · have hafter : after init s.messages done.length = done.foldl onIoStates init := by
      rw [after, hmessages, List.take_left]
    rw [hcount] at hwritten
    refine snapshot_ne_of_changes hbefore hnodup.1 hwritten ?_
    rw [← hdriver, ← hafter]
    exact hsnapshot
  · have hafter : after init s.messages (done.length + 1) = s.pending.foldl update s.driver := by
      rw [after, ← hlength, List.take_length, hmessages, List.foldl_append, List.foldl_cons,
        List.foldl_nil, onIoStates_eq, updates_congr (readIndex_foldl_onIoStates init done), hupdates,
        List.foldl_append, hdriver]
    have hconsistent : s.driver.Consistent := hdriver ▸ consistent_foldl_update hbefore applied
    refine snapshot_ne_of_changes hconsistent hnodup.2.1 hpending ?_
    rw [← hafter]
    exact hsnapshot.symm

end Inv

theorem messages_step (hs : s.step l = some s') : s.messages <+: s'.messages := by
  cases step_cases hs with
  | message msg hpending => exact List.prefix_append _ _
  | update hpending => exact List.prefix_refl _
  | snapshot => exact List.prefix_refl _

/-- What a snapshot was does not depend on the messages that follow. -/
theorem whole_step (hs : s.step l = some s') {p : ℕ × IOStatesSnapshot} (hp : p.1 ≤ s.messages.length)
    (h : s.Whole init p) : s'.Whole init p := by
  obtain ⟨n, hn, hn', hsnapshot⟩ := h
  obtain ⟨rest, hrest⟩ := messages_step hs
  have htake : s'.messages.take n = s.messages.take n := by
    rw [← hrest, List.take_append_of_le_length (hn.trans hp)]
  exact ⟨n, hn, hn', by rw [hsnapshot, after, after, htake]⟩

/-- What has been returned so far is whole. -/
def AllWhole (init : URIODriver) (s : CacheUse) : Prop :=
  ∀ p ∈ s.snapshots, p.1 ≤ s.messages.length ∧ s.Whole init p

theorem AllWhole.step (h : s.AllWhole init) (hinv : s.Inv init) (hu : s.Undivided l)
    (hs : s.step l = some s') : s'.AllWhole init := by
  have hold : ∀ p ∈ s.snapshots, p.1 ≤ s'.messages.length ∧ s'.Whole init p := by
    intro p hp
    obtain ⟨hle, hwhole⟩ := h p hp
    exact ⟨hle.trans (messages_step hs).length_le, whole_step hs hle hwhole⟩
  cases step_cases hs with
  | message msg hpending => exact hold
  | update hpending => exact hold
  | snapshot =>
    intro p hp
    rcases List.mem_append.1 hp with hp | hp
    · exact hold p hp
    · rw [List.mem_singleton.1 hp]
      exact ⟨Nat.le_refl _, hinv.whole hu⟩

instance (s : CacheUse) : Decidable s.Between := instDecidableAnd

instance (s : CacheUse) (l : Label) : Decidable (s.Undivided l) :=
  match l with
  | .snapshot => instDecidableNot
  | .message _ | .update => isTrue trivial

/-- A snapshot sees whole messages when it does not come between two genuine changes of one message; it
does not when it does, if the message has every signal at most once. -/
theorem snapshots_are_whole {py : Pydantic} {device : List (Yaml × Yaml)} {init : URIODriver}
    (hinit : URIODriver.configure py device = .ok init) (callback : Bool) :
    let start : CacheUse := { driver := { init with callback } }
    (∀ s, Lts.Runs step Undivided start s → ∀ p ∈ s.snapshots, ∃ n, n ≤ s.messages.length ∧
      p.2 = (after start.driver s.messages n).snapshot) ∧
    ∀ s, Lts.Reaches step start s →
      (∀ msg ∈ s.messages.getLast?, ((init.updates msg).map Prod.fst).Nodup) →
      (s.Whole start.driver (s.messages.length, s.driver.snapshot) ↔ ¬s.Between) := by
  intro start
  obtain ⟨signals, -, -, hnodup, hbase, -⟩ := URIODriver.configure_ok hinit
  have hcache : start.driver.cache = signals.map fun signal => (signal.ioName, signal) :=
    congrArg Driver.cache hbase
  refine ⟨fun s h p hp => ?_, fun s h honce => ?_⟩
  · have h0 : start.AllWhole start.driver := fun p hp => by cases hp
    have hall := h.invariant (I := fun s => s.Inv start.driver ∧ s.AllWhole start.driver)
      ⟨.initial _, h0⟩ fun hi hu hs => ⟨hi.1.step hs, hi.2.step hi.1 hu hs⟩
    obtain ⟨hle, n, hn, -, hsnapshot⟩ := hall.2 p hp
    exact ⟨n, hn.trans hle, hsnapshot⟩
  · have hinv : s.Inv start.driver := .of_runs h
    refine ⟨fun hwhole hb => ?_, hinv.whole⟩
    exact hinv.not_whole (.of_signals hnodup hcache) honce hb hwhole

/-- Two inputs change in one message. -/
def twoInputs : URIOStates
  | .digitalInStates => [⟨0, .bool true⟩]
  | .analogInStates => [⟨0, .float 3⟩]
  | _ => []

theorem snapshots_are_whole_twoInputs : ∃ init, URIODriver.configure .strict sampleDevice = .ok init ∧
    ∃ s : CacheUse, s.snapshots.length = 2 ∧ (∀ p ∈ s.snapshots, ∃ n, n ≤ s.messages.length ∧
      p.2 = (after { init with callback := true } s.messages n).snapshot) ∧
      s.Whole { init with callback := true } (s.messages.length, s.driver.snapshot) := by
  have hinit : URIODriver.configure .strict sampleDevice = .ok _ := rfl
  refine ⟨_, hinit, ?_⟩
  obtain ⟨hwhole, hiff⟩ := snapshots_are_whole hinit true
  have hrun := hwhole _ (.of_exec [.message twoInputs, .snapshot, .update, .update, .snapshot] rfl)
  have hlast := hiff _ (.of_exec [.message twoInputs, .snapshot, .update, .update, .snapshot] rfl)
  refine ⟨_, rfl, hrun, (hlast fun msg hmsg => ?_).2 fun hb => hb.2 rfl⟩
  cases hmsg
  decide

/-- The snapshot has the new value of one input and the old value of the other. -/
theorem snapshot_torn : ∃ init, URIODriver.configure .strict sampleDevice = .ok init ∧
    ∃ s : CacheUse, Lts.Reaches step { driver := { init with callback := true } } s ∧
      ∃ p ∈ s.snapshots, ∀ n, p.2 ≠ (after { init with callback := true } s.messages n).snapshot := by
  refine ⟨_, rfl, _, .of_exec [.message twoInputs, .update, .snapshot] rfl, _, List.mem_cons_self,
    fun n => ?_⟩
  cases n with
  | zero => decide
  | succ n =>
    show _ ≠ (List.foldl onIoStates _ ([twoInputs].take (n + 1))).snapshot
    rw [List.take_succ_cons, List.take_nil]
    decide

end CacheUse

end IoControllers
