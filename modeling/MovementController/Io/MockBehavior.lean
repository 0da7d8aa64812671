import MovementController.Io.Node

/-!
# `set_mock_behavior`

The handler validates the target against the signal index and leaves the rest to
`_schedule_mock_change`, whose answer it does not look at.
-/

namespace IoControllers

structure SetMockBehavior.Request where
  ioName : String
  digitalState : Bool
  analogState : ℚ
  delaySeconds : ℚ
deriving DecidableEq, Repr

inductive MockRejection where
  | notSimulated
  | unknownName (ioName : String)
  | output (ioName : String)
  | negativeDelay (delaySeconds : ℚ)
deriving DecidableEq, Repr

/-- `pyFloat` formats a number as Python does. -/
def MockRejection.message (pyFloat : ℚ → String) : MockRejection → String
  | notSimulated => "node is not in simulated mode"
  | unknownName ioName => s!"unknown io_name '{ioName}'"
  | output ioName => s!"io_name '{ioName}' is an output; only inputs are scriptable"
  | negativeDelay delaySeconds => s!"delay_seconds must be >= 0 (got {pyFloat delaySeconds})"

/-- `_reject_mock` puts the message of the rejection into the response. -/
structure SetMockBehavior.Response where
  success : Bool
  rejection : Option MockRejection := none
deriving DecidableEq, Repr

namespace GpioController

/-- The checks of `_on_set_mock_behavior`, and the value to apply. -/
def validateMockBehavior (n : GpioController) (request : SetMockBehavior.Request) :
    Except MockRejection Value :=
  if !n.simulated || n.driver.isNone then .error .notSimulated
  else
    match Dict.get n.signalIndex request.ioName with
    | none => .error (.unknownName request.ioName)
    | some (isDigital, direction) =>
      if direction ≠ .IN then .error (.output request.ioName)
      else if request.delaySeconds < 0 then .error (.negativeDelay request.delaySeconds)
      else .ok (if isDigital then .bool request.digitalState else .float request.analogState)

def onSetMockBehavior (n : GpioController) (request : SetMockBehavior.Request) :
    GpioController × SetMockBehavior.Response :=
  match n.validateMockBehavior request with
  | .error rejection => (n, { success := false, rejection := some rejection })
  | .ok value =>
    ((n.scheduleMockChange request.ioName value request.delaySeconds).1, { success := true })

end GpioController

end IoControllers
