import StateCheck.Assertion.Document
import StateCheck.Assertion.Evaluation
import StateCheck.Baseline.Generation
import StateCheck.Device.Client
import StateCheck.Device.Network
import StateCheck.Device.Registry
import StateCheck.Device.Value
import StateCheck.Duration
import StateCheck.Files
import StateCheck.Inventory.Reading
import StateCheck.Json.Reader
import StateCheck.Json.Writer
import StateCheck.Main
import StateCheck.Path.Reading
import StateCheck.Path.Short
import StateCheck.Proofs.Assertion.RoundTrip
import StateCheck.Proofs.Command.Program
import StateCheck.Proofs.Path.Meaning
import StateCheck.Proofs.Run.Completeness
import StateCheck.Report.Page
import StateCheck.Run.Execution
import StateCheck.Settings
import StateCheck.Proofs.Run.Settlement
import StateCheck.Proofs.Run.Faults
import StateCheck.Proofs.Assertion.Verdicts
import StateCheck.Proofs.Run.Answers
import StateCheck.Proofs.Run.Refusals
import StateCheck.Proofs.Inventory.Targets
import StateCheck.Proofs.Assertion.Runnable
import StateCheck.Proofs.Command.Logins
import StateCheck.Proofs.Baseline.RoundTrip
import StateCheck.Proofs.Run.Sequence
import StateCheck.Proofs.Baseline.Identity
import StateCheck.Proofs.Baseline.Statuses
import StateCheck.Proofs.Inventory.Ports
import StateCheck.Proofs.Inventory.Restriction
import StateCheck.Proofs.Inventory.Sections
import StateCheck.Proofs.Settings
import StateCheck.Proofs.Files
import StateCheck.Proofs.Inventory.Discovery
import StateCheck.Proofs.Baseline.Modules
import StateCheck.Proofs.Baseline.Hazards
import StateCheck.Proofs.Settings.Loading
import StateCheck.Proofs.Command.Loading
import StateCheck.Proofs.Baseline.Absence
import StateCheck.Proofs.Device.Lifecycle
import StateCheck.Proofs.Baseline.Neighbors
import StateCheck.Proofs.Baseline.Tunnels
import StateCheck.Proofs.Device.Waiting
import StateCheck.Proofs.Device.Address
import StateCheck.Proofs.Assertion.Opposites
import StateCheck.Proofs.Report.Page
import StateCheck.Proofs.Settings.Durations
import StateCheck.Proofs.Baseline.Requests
import StateCheck.Proofs.Path.Brackets
import StateCheck.Proofs.Path.Equality
import StateCheck.Proofs.Baseline.Decoding
