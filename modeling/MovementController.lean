import MovementController.Stranded
import MovementController.Separation
import MovementController.Sequential
import MovementController.Cancellation
import MovementController.Quiescence
import MovementController.Gate
import MovementController.Translation
import MovementController.Ownership
import MovementController.LaserCross
import MovementController.Configuration
import MovementController.Lockout
import MovementController.EndState
import MovementController.Limits
import MovementController.Workspace
import MovementController.Answers
import MovementController.Identifiers
import MovementController.Liveness
import MovementController.Refinement
import MovementController.Continuity
import MovementController.Causes
import MovementController.Requests
import MovementController.Launch
import MovementController.Station
import MovementController.Io.Events
import MovementController.Io.Simulation
import MovementController.Io.Baseline
import MovementController.Io.WindDown
import MovementController.Io.Snapshots
import MovementController.Io.SetIo
import MovementController.Io.BestEffort
import MovementController.Io.Lifecycle
import MovementController.Io.Links
import MovementController.Io.MockTimers
import MovementController.Io.MockAnswers
import MovementController.Io.Tables
import MovementController.Io.Targets
import MovementController.Io.Defaults
import MovementController.Io.Messages
import MovementController.Io.Restore
import MovementController.Io.Delivery
import MovementController.Io.Observation
import MovementController.Io.ConfigLoader
