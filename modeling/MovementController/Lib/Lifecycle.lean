import Mathlib.Tactic.TypeStar

/-!
# Managed nodes

The lifecycle of a managed node whose callbacks are a function: it takes the node and a request to the
node after it and to what the callback returns. A callback that returns `FAILURE` leaves the node in the
state it came from.
-/

inductive LifecycleState where
  | unconfigured
  | inactive
  | active
  | finalized
deriving DecidableEq, Repr

inductive TransitionCallbackReturn where
  | SUCCESS
  | FAILURE
deriving DecidableEq, Repr

namespace Lifecycle

inductive Transition where
  | configure
  | activate
  | deactivate
  | cleanup
deriving DecidableEq, Repr

namespace Transition

def source : Transition → LifecycleState
  | configure => .unconfigured
  | activate | cleanup => .inactive
  | deactivate => .active

def target : Transition → LifecycleState
  | configure | deactivate => .inactive
  | activate => .active
  | cleanup => .unconfigured

end Transition

structure Managed (ν : Type*) where
  state : LifecycleState := .unconfigured
  node : ν

namespace Managed

variable {ν ι : Type*} (transition : ι → Transition)
  (callback : ν → ι → ν × TransitionCallbackReturn)

/-- `transition l` is the transition that the request `l` is for. -/
def step (m : Managed ν) (l : ι) : Option (Managed ν) :=
  if m.state = (transition l).source then
    let (node, ret) := callback m.node l
    some { state := if ret = .SUCCESS then (transition l).target else m.state, node }
  else none

variable {transition callback} {m m' : Managed ν} {l : ι}

theorem step_cases (h : m.step transition callback l = some m') :
    m.state = (transition l).source ∧ m'.node = (callback m.node l).1 ∧
      ((callback m.node l).2 = .SUCCESS ∧ m'.state = (transition l).target ∨
        (callback m.node l).2 = .FAILURE ∧ m'.state = (transition l).source) := by
  unfold step at h
  split at h
  · next hstate =>
    obtain rfl := Option.some.inj h
    refine ⟨hstate, rfl, ?_⟩
    cases hret : (callback m.node l).2 with
    | SUCCESS => exact .inl ⟨rfl, rfl⟩
    | FAILURE => exact .inr ⟨rfl, hstate⟩
  · cases h

theorem step_of_success (h : m.step transition callback l = some m')
    (hret : (callback m.node l).2 = .SUCCESS) :
    m' = ⟨(transition l).target, (callback m.node l).1⟩ := by
  obtain ⟨-, hnode, ⟨-, hstate⟩ | ⟨hret', -⟩⟩ := step_cases h
  · rw [← hnode, ← hstate]
  · rw [hret] at hret'
    cases hret'

theorem step_of_failure (h : m.step transition callback l = some m')
    (hret : (callback m.node l).2 = .FAILURE) :
    m' = ⟨(transition l).source, (callback m.node l).1⟩ := by
  obtain ⟨-, hnode, ⟨hret', -⟩ | ⟨-, hstate⟩⟩ := step_cases h
  · rw [hret] at hret'
    cases hret'
  · rw [← hnode, ← hstate]

end Managed

end Lifecycle
