import MovementController.Lib.Runs
import Mathlib.Data.List.Nodup

/-!
# One-shot timers that are cancelled together

A timer is created and listed under a lock, if the flag is up when the lock is taken. To close, the flag
is taken down without the lock, the list is taken over under it and its timers are then cancelled one
after the other. A timer may fire at any time before it is cancelled, and cancels itself. The log has
what happened, in order.
-/

namespace OneShots

inductive Event where
  | scheduled (id : ℕ)
  | applied (id : ℕ)
  | raised
  | closed
deriving DecidableEq, Repr

/-- How far the closing is that is under way. -/
inductive Closing (τ : Type*) where
  | no
  | lowered
  | cancelling (timers : List τ)
deriving DecidableEq, Repr

/-- The timers that a closing has taken over and has not cancelled yet. -/
def Closing.taken {τ : Type*} : Closing τ → List τ
  | cancelling timers => timers
  | _ => []

/-- `locked`: the flag was up and a timer is about to be created. `armed` are the timers that are created
and not cancelled; `next` is the number of the next one. -/
structure State (τ : Type*) where
  flag : Bool := false
  locked : Bool := false
  listed : List τ := []
  closing : Closing τ := .no
  armed : List τ := []
  next : ℕ := 0
  log : List Event := []
deriving DecidableEq, Repr

inductive Label (τ : Type*) where
  | raise
  | lower
  | take
  | cancel
  | finish
  | enter
  | schedule (t : τ)
  | fire (t : τ)

section

variable {τ : Type*} (id : τ → ℕ)

def State.cancel (s : State τ) (t : τ) : State τ :=
  { s with armed := s.armed.filter (id · ≠ id t) }

def step [DecidableEq τ] (s : State τ) : Label τ → Option (State τ)
  | .raise =>
    match s.closing with
    | .no => some { s with flag := true, log := s.log ++ [.raised] }
    | _ => none
  | .lower =>
    match s.closing with
    | .no => some { s with flag := false, closing := .lowered }
    | _ => none
  | .take =>
    match s.closing with
    | .lowered =>
      if s.locked then none else some { s with listed := [], closing := .cancelling s.listed }
    | _ => none
  | .cancel =>
    match s.closing with
    | .cancelling (t :: timers) => some { s.cancel id t with closing := .cancelling timers }
    | _ => none
  | .finish =>
    match s.closing with
    | .cancelling [] => some { s with closing := .no, log := s.log ++ [.closed] }
    | _ => none
  | .enter => if s.flag ∧ !s.locked then some { s with locked := true } else none
  | .schedule t =>
    if s.locked ∧ id t = s.next then
      some { s with
        locked := false
        listed := s.listed ++ [t]
        armed := s.armed ++ [t]
        next := s.next + 1
        log := s.log ++ [.scheduled (id t)] }
    else none
  | .fire t =>
    if t ∈ s.armed then some { s.cancel id t with log := s.log ++ [.applied (id t)] } else none

/-- What a step does. -/
inductive Steps (s : State τ) : State τ → Prop
  | raise (hclosing : s.closing = .no) :
      Steps s { s with flag := true, log := s.log ++ [.raised] }
  | lower (hclosing : s.closing = .no) : Steps s { s with flag := false, closing := .lowered }
  | take (hclosing : s.closing = .lowered) (hlocked : s.locked = false) :
      Steps s { s with listed := [], closing := .cancelling s.listed }
  | cancel {t : τ} {timers : List τ} (hclosing : s.closing = .cancelling (t :: timers)) :
      Steps s { s.cancel id t with closing := .cancelling timers }
  | finish (hclosing : s.closing = .cancelling []) :
      Steps s { s with closing := .no, log := s.log ++ [.closed] }
  | enter (hflag : s.flag = true) : Steps s { s with locked := true }
  | schedule {t : τ} (hlocked : s.locked = true) (hid : id t = s.next) :
      Steps s { s with
        locked := false
        listed := s.listed ++ [t]
        armed := s.armed ++ [t]
        next := s.next + 1
        log := s.log ++ [.scheduled (id t)] }
  | fire {t : τ} (ht : t ∈ s.armed) :
      Steps s { s.cancel id t with log := s.log ++ [.applied (id t)] }

variable {id} {s s' : State τ} {l : Label τ}

theorem step_cases [DecidableEq τ] (h : step id s l = some s') : Steps id s s' := by
  cases l with
  | raise =>
    rw [step] at h
    split at h
    · next hclosing =>
      rw [← Option.some.inj h]
      exact .raise hclosing
    · cases h
  | lower =>
    rw [step] at h
    split at h
    · next hclosing =>
      rw [← Option.some.inj h]
      exact .lower hclosing
    · cases h
  | take =>
    rw [step] at h
    split at h
    · next hclosing =>
      split at h
      · cases h
      · next hlocked =>
        rw [← Option.some.inj h]
        exact .take hclosing (by simpa using hlocked)
    · cases h
  | cancel =>
    rw [step] at h
    split at h
    · next t timers hclosing =>
      rw [← Option.some.inj h]
      exact .cancel hclosing
    · cases h
  | finish =>
    rw [step] at h
    split at h
    · next hclosing =>
      rw [← Option.some.inj h]
      exact .finish hclosing
    · cases h
  | enter =>
    rw [step] at h
    split at h
    · next hready =>
      rw [← Option.some.inj h]
      exact .enter hready.1
    · cases h
  | schedule t =>
    rw [step] at h
    split at h
    · next hready =>
      rw [← Option.some.inj h]
      exact .schedule hready.1 hready.2
    · cases h
  | fire t =>
    rw [step] at h
    split at h
    · next ht =>
      rw [← Option.some.inj h]
      exact .fire ht
    · cases h

/-! ### Logs -/

/-- An event of a log that grows is the new one or an old one. -/
theorem concat_cases {α : Type*} {log a b : List α} {e x : α} (h : log ++ [e] = a ++ x :: b) :
    (b = [] ∧ e = x ∧ log = a) ∨ ∃ b', b = b' ++ [e] ∧ log = a ++ x :: b' := by
  rcases List.eq_nil_or_concat b with rfl | ⟨b', y, rfl⟩
  · obtain ⟨hlog, he⟩ := List.append_inj' h rfl
    exact .inl ⟨rfl, List.head_eq_of_cons_eq he, hlog⟩
  · rw [List.concat_eq_append, ← List.cons_append, ← List.append_assoc] at h
    obtain ⟨hlog, he⟩ := List.append_inj' h rfl
    have hy := List.head_eq_of_cons_eq he
    exact .inr ⟨b', by rw [hy, List.concat_eq_append], hlog⟩

/-- The log ends in a closing, and the flag has not been raised again. -/
def Closed (log : List Event) : Prop := ∃ a b, log = a ++ .closed :: b ∧ .raised ∉ b

/-- No closing has come since the timer was scheduled. -/
def Current (log : List Event) (i : ℕ) : Prop :=
  ∀ a b, log = a ++ .scheduled i :: b → .closed ∉ b

/-- A timer that is applied is applied before the next closing. -/
def InTime (log : List Event) : Prop :=
  ∀ i a b c, log = a ++ .scheduled i :: (b ++ .applied i :: c) → .closed ∉ b

theorem Closed.of_concat {log : List Event} {e : Event} (h : Closed (log ++ [e]))
    (he : e ≠ .closed) : Closed log ∧ e ≠ .raised := by
  obtain ⟨a, b, hlog, hraised⟩ := h
  rcases concat_cases hlog with ⟨-, heq, -⟩ | ⟨b', rfl, hlog'⟩
  · exact absurd heq he
  · rw [List.mem_append, not_or, List.mem_singleton] at hraised
    exact ⟨⟨a, b', hlog', hraised.1⟩, fun heq => hraised.2 heq.symm⟩

theorem Current.concat {log : List Event} {i : ℕ} {e : Event} (h : Current log i)
    (he : e ≠ .closed) : Current (log ++ [e]) i := by
  intro a b hlog
  rcases concat_cases hlog with ⟨rfl, -, -⟩ | ⟨b', rfl, hlog'⟩
  · exact List.not_mem_nil
  · rw [List.mem_append, not_or, List.mem_singleton]
    exact ⟨h a b' hlog', fun heq => he heq.symm⟩

theorem current_scheduled {log : List Event} {i : ℕ} (h : .scheduled i ∉ log) :
    Current (log ++ [.scheduled i]) i := by
  intro a b hlog
  rcases concat_cases hlog with ⟨rfl, -, -⟩ | ⟨b', -, hlog'⟩
  · exact List.not_mem_nil
  · rw [hlog'] at h
    exact absurd (List.mem_append_right a List.mem_cons_self) h

theorem InTime.concat {log : List Event} {e : Event} (h : InTime log)
    (he : ∀ i, e = .applied i → Current log i) : InTime (log ++ [e]) := by
  intro i a b c hlog
  rw [← List.cons_append, ← List.append_assoc] at hlog
  rcases concat_cases hlog with ⟨-, heq, hlog'⟩ | ⟨c', -, hlog'⟩
  · exact he i heq a b hlog'
  · rw [List.append_assoc, List.cons_append] at hlog'
    exact h i a b c' hlog'

/-! ### The invariant -/

/-- `covered` is what makes a closing reach every timer; `quiet` is where it leads. -/
structure Inv (id : τ → ℕ) (s : State τ) : Prop where
  covered : ∀ t ∈ s.armed, t ∈ s.listed ∨ t ∈ s.closing.taken
  down : s.closing ≠ .no → s.flag = false
  taken : ∀ timers, s.closing = .cancelling timers → s.listed = [] ∧ s.locked = false
  quiet : Closed s.log → s.armed = [] ∧ s.flag = false ∧ s.locked = false
  fresh : ∀ t ∈ s.armed, id t < s.next
  logged : ∀ i, .scheduled i ∈ s.log ∨ .applied i ∈ s.log → i < s.next
  current : ∀ t ∈ s.armed, Current s.log (id t)
  spent : ∀ t ∈ s.armed, .applied (id t) ∉ s.log
  inTime : InTime s.log
  once : ∀ i, s.log.count (.applied i) ≤ 1

namespace Inv

theorem initial : Inv id ({} : State τ) where
  covered _ h := (List.not_mem_nil h).elim
  down h := absurd rfl h
  taken _ h := by simp at h
  quiet := by
    rintro ⟨a, b, hlog, -⟩
    simp at hlog
  fresh _ h := (List.not_mem_nil h).elim
  logged i h := by rcases h with h | h <;> exact (List.not_mem_nil h).elim
  current _ h := (List.not_mem_nil h).elim
  spent _ h := (List.not_mem_nil h).elim
  inTime i a b c hlog := by simp at hlog
  once i := Nat.zero_le 1

/-- When everything has been cancelled no timer is left. -/
theorem armed_eq_nil (h : Inv id s) (hclosing : s.closing = .cancelling []) : s.armed = [] := by
  refine List.eq_nil_iff_forall_not_mem.2 fun t ht => ?_
  have hcovered := h.covered t ht
  rw [(h.taken [] hclosing).1, hclosing] at hcovered
  rcases hcovered with hmem | hmem <;> exact List.not_mem_nil hmem

/-- An event that is not about a timer. -/
theorem logged_concat (h : Inv id s) {e : Event} (hs : ∀ i, e ≠ .scheduled i)
    (ha : ∀ i, e ≠ .applied i) (i : ℕ)
    (hi : .scheduled i ∈ s.log ++ [e] ∨ .applied i ∈ s.log ++ [e]) : i < s.next := by
  refine h.logged i ?_
  rw [List.mem_append, List.mem_append, List.mem_singleton, List.mem_singleton] at hi
  rcases hi with (hi | hi) | (hi | hi)
  · exact .inl hi
  · exact absurd hi.symm (hs i)
  · exact .inr hi
  · exact absurd hi.symm (ha i)

theorem once_concat (h : Inv id s) {e : Event} (ha : ∀ i, e = .applied i → .applied i ∉ s.log)
    (i : ℕ) : (s.log ++ [e]).count (.applied i) ≤ 1 := by
  rw [List.count_append, List.count_singleton]
  split
  · next heq =>
    have he : e = .applied i := by simpa using heq
    have hzero := List.count_eq_zero.2 (ha i he)
    omega
  · exact h.once i

theorem spent_concat (h : Inv id s) {e : Event} {t : τ} (ht : t ∈ s.armed)
    (he : e ≠ .applied (id t)) : .applied (id t) ∉ s.log ++ [e] := by
  rw [List.mem_append, not_or, List.mem_singleton]
  exact ⟨h.spent t ht, fun heq => he heq.symm⟩

theorem mem_cancel {t u : τ} : u ∈ (s.cancel id t).armed ↔ u ∈ s.armed ∧ id u ≠ id t := by
  simp [State.cancel]

theorem raise (h : Inv id s) (hclosing : s.closing = .no) :
    Inv id { s with flag := true, log := s.log ++ [.raised] } := by
  refine ⟨h.covered, fun hne => absurd hclosing hne, h.taken, fun hclosed => ?_, h.fresh,
    h.logged_concat (by simp) (by simp), fun t ht => ?_, fun t ht => h.spent_concat ht (by simp),
    h.inTime.concat (by simp), h.once_concat (by simp)⟩
  · exact absurd rfl (hclosed.of_concat (by simp)).2
  · exact (h.current t ht).concat (by simp)

theorem lower (h : Inv id s) (hclosing : s.closing = .no) :
    Inv id { s with flag := false, closing := .lowered } := by
  refine ⟨fun t ht => ?_, fun _ => rfl, fun timers heq => ?_, fun hclosed => ?_, h.fresh, h.logged,
    h.current, h.spent, h.inTime, h.once⟩
  · simpa [hclosing, Closing.taken] using h.covered t ht
  · simp at heq
  · obtain ⟨harmed, -, hlocked⟩ := h.quiet hclosed
    exact ⟨harmed, rfl, hlocked⟩

theorem take (h : Inv id s) (hclosing : s.closing = .lowered) (hlocked : s.locked = false) :
    Inv id { s with listed := [], closing := .cancelling s.listed } := by
  have hflag : s.flag = false := h.down (by simp [hclosing])
  refine ⟨fun t ht => .inr ?_, fun _ => hflag, fun timers heq => ⟨rfl, hlocked⟩, h.quiet, h.fresh,
    h.logged, h.current, h.spent, h.inTime, h.once⟩
  show t ∈ s.listed
  simpa [hclosing, Closing.taken] using h.covered t ht

theorem cancel (h : Inv id s) {t : τ} {timers : List τ}
    (hclosing : s.closing = .cancelling (t :: timers)) :
    Inv id { s.cancel id t with closing := .cancelling timers } := by
  have hflag : s.flag = false := h.down (by simp [hclosing])
  refine ⟨fun u hu => ?_, fun _ => hflag, fun _ _ => h.taken _ hclosing, fun hclosed => ?_,
    fun u hu => h.fresh u (mem_cancel.1 hu).1, h.logged, fun u hu => h.current u (mem_cancel.1 hu).1,
    fun u hu => h.spent u (mem_cancel.1 hu).1, h.inTime, h.once⟩
  · obtain ⟨hu, hne⟩ := mem_cancel.1 hu
    have hcovered := h.covered u hu
    rw [hclosing] at hcovered
    rcases hcovered with hlisted | htaken
    · exact .inl hlisted
    · refine .inr ((List.mem_cons.1 htaken).resolve_left ?_)
      rintro rfl
      exact hne rfl
  · obtain ⟨harmed, hdown⟩ := h.quiet hclosed
    refine ⟨?_, hdown⟩
    show s.armed.filter _ = []
    simp [harmed]

theorem finish (h : Inv id s) (hclosing : s.closing = .cancelling []) :
    Inv id { s with closing := .no, log := s.log ++ [.closed] } := by
  have harmed := h.armed_eq_nil hclosing
  have hflag : s.flag = false := h.down (by simp [hclosing])
  have hnot : ∀ t, t ∉ s.armed := by simp [harmed]
  exact ⟨fun t ht => absurd ht (hnot t), fun hne => absurd rfl hne, fun timers heq => (by simp at heq),
    fun _ => ⟨harmed, hflag, (h.taken [] hclosing).2⟩, h.fresh, h.logged_concat (by simp) (by simp),
    fun t ht => absurd ht (hnot t), fun t ht => absurd ht (hnot t), h.inTime.concat (by simp),
    h.once_concat (by simp)⟩

theorem enter (h : Inv id s) (hflag : s.flag = true) : Inv id { s with locked := true } := by
  refine ⟨h.covered, h.down, fun timers heq => ?_, fun hclosed => ?_, h.fresh, h.logged, h.current,
    h.spent, h.inTime, h.once⟩
  · have hdown : s.flag = false := h.down (by simp [show s.closing = .cancelling timers from heq])
    simp [hflag] at hdown
  · have hdown := (h.quiet hclosed).2.1
    simp [hflag] at hdown

theorem schedule (h : Inv id s) {t : τ} (hlocked : s.locked = true) (hid : id t = s.next) :
    Inv id { s with
      locked := false
      listed := s.listed ++ [t]
      armed := s.armed ++ [t]
      next := s.next + 1
      log := s.log ++ [.scheduled (id t)] } := by
  have hnew : .scheduled (id t) ∉ s.log := by
    intro hmem
    have hlt := h.logged (id t) (.inl hmem)
    omega
  have hunused : .applied (id t) ∉ s.log := by
    intro hmem
    have hlt := h.logged (id t) (.inr hmem)
    omega
  refine ⟨fun u hu => ?_, h.down, fun timers heq => ?_, fun hclosed => ?_, fun u hu => ?_,
    fun i hi => ?_, fun u hu => ?_, fun u hu => ?_, h.inTime.concat (by simp), h.once_concat (by simp)⟩
  · rcases List.mem_append.1 hu with hu | hu
    · rcases h.covered u hu with hlisted | htaken
      · exact .inl (List.mem_append_left _ hlisted)
      · exact .inr htaken
    · exact .inl (List.mem_append_right _ hu)
  · -- the list is not taken over while the lock is held
    have hfree := (h.taken timers heq).2
    simp [hlocked] at hfree
  · have hfree := (h.quiet (hclosed.of_concat (by simp)).1).2.2
    simp [hlocked] at hfree
  · show id u < s.next + 1
    rcases List.mem_append.1 hu with hu | hu
    · have hlt := h.fresh u hu
      omega
    · rw [List.mem_singleton.1 hu]
      omega
  · show i < s.next + 1
    rw [List.mem_append, List.mem_append, List.mem_singleton, List.mem_singleton] at hi
    rcases hi with (hi | hi) | (hi | hi)
    · have hlt := h.logged i (.inl hi)
      omega
    · have heq := Event.scheduled.inj hi
      omega
    · have hlt := h.logged i (.inr hi)
      omega
    · simp at hi
  · rcases List.mem_append.1 hu with hu | hu
    · exact (h.current u hu).concat (by simp)
    · rw [List.mem_singleton.1 hu]
      exact current_scheduled hnew
  · rcases List.mem_append.1 hu with hu | hu
    · exact h.spent_concat hu (by simp)
    · rw [List.mem_singleton.1 hu]
      simp [hunused]

theorem fire (h : Inv id s) {t : τ} (ht : t ∈ s.armed) :
    Inv id { s.cancel id t with log := s.log ++ [.applied (id t)] } := by
  refine ⟨fun u hu => h.covered u (mem_cancel.1 hu).1, h.down, h.taken, fun hclosed => ?_,
    fun u hu => h.fresh u (mem_cancel.1 hu).1, fun i hi => ?_, fun u hu => ?_, fun u hu => ?_,
    h.inTime.concat fun i heq => ?_, h.once_concat fun i heq => ?_⟩
  · have harmed := (h.quiet (hclosed.of_concat (by simp)).1).1
    simp [harmed] at ht
  · show i < s.next
    rw [List.mem_append, List.mem_append, List.mem_singleton, List.mem_singleton] at hi
    rcases hi with (hi | hi) | (hi | hi)
    · exact h.logged i (.inl hi)
    · simp at hi
    · exact h.logged i (.inr hi)
    · rw [Event.applied.inj hi]
      exact h.fresh t ht
  · exact (h.current u (mem_cancel.1 hu).1).concat (by simp)
  · obtain ⟨hu, hne⟩ := mem_cancel.1 hu
    exact h.spent_concat hu fun heq => hne (Event.applied.inj heq).symm
  · rw [← Event.applied.inj heq]
    exact h.current t ht
  · rw [← Event.applied.inj heq]
    exact h.spent t ht

theorem steps (h : Inv id s) (hs : Steps id s s') : Inv id s' := by
  cases hs with
  | raise hclosing => exact h.raise hclosing
  | lower hclosing => exact h.lower hclosing
  | take hclosing hlocked => exact h.take hclosing hlocked
  | cancel hclosing => exact h.cancel hclosing
  | finish hclosing => exact h.finish hclosing
  | enter hflag => exact h.enter hflag
  | schedule hlocked hid => exact h.schedule hlocked hid
  | fire ht => exact h.fire ht

theorem of_reaches [DecidableEq τ] (h : Lts.Reaches (step id) {} s) : Inv id s :=
  h.invariant initial fun h _ hs => h.steps (step_cases hs)

end Inv

end

end OneShots
