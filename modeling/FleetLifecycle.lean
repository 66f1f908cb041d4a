import FleetLifecycle.Calendar.Date
import FleetLifecycle.Calendar.Instant
import FleetLifecycle.Calendar.LocalTime
import FleetLifecycle.Calendar.Reading
import FleetLifecycle.Calendar.Weekday
import FleetLifecycle.Command.Arguments
import FleetLifecycle.Command.Check
import FleetLifecycle.Command.LogFilter
import FleetLifecycle.Command.Paths
import FleetLifecycle.Command.Run
import FleetLifecycle.Command.Surroundings
import FleetLifecycle.Cycle.Evaluate
import FleetLifecycle.Decimal.Binary64
import FleetLifecycle.Decimal.Power
import FleetLifecycle.Decimal.Shortest
import FleetLifecycle.Decision.Basic
import FleetLifecycle.Decision.Decide
import FleetLifecycle.Decision.Gate
import FleetLifecycle.Dispatch.Basic
import FleetLifecycle.Dispatch.Journal
import FleetLifecycle.Dispatch.RecordedFleet
import FleetLifecycle.Entries
import FleetLifecycle.Files
import FleetLifecycle.Fleet.Class
import FleetLifecycle.Fleet.Resource
import FleetLifecycle.Fleet.Tags
import FleetLifecycle.Form.Decision
import FleetLifecycle.Form.Request
import FleetLifecycle.Form.Resource
import FleetLifecycle.Form.Settings
import FleetLifecycle.Inventory.Reading
import FleetLifecycle.Json.Basic
import FleetLifecycle.Json.Draft
import FleetLifecycle.Json.Number
import FleetLifecycle.Json.Printer
import FleetLifecycle.Json.Reader
import FleetLifecycle.Main
import FleetLifecycle.Policy.Basic
import FleetLifecycle.Policy.Kind
import FleetLifecycle.Proofs.AcceptedSettings
import FleetLifecycle.Proofs.AdmissibleActions
import FleetLifecycle.Proofs.CalendarDates
import FleetLifecycle.Proofs.Calls
import FleetLifecycle.Proofs.CommandRun
import FleetLifecycle.Proofs.Conservation
import FleetLifecycle.Proofs.Dispatching
import FleetLifecycle.Proofs.EquivalentSpellings
import FleetLifecycle.Proofs.ErrorDecisions
import FleetLifecycle.Proofs.ExactLimits
import FleetLifecycle.Proofs.ExecutionSettings
import FleetLifecycle.Proofs.FleetLog
import FleetLifecycle.Proofs.Gate
import FleetLifecycle.Proofs.Independence
import FleetLifecycle.Proofs.InstantTexts
import FleetLifecycle.Proofs.InventoryListing
import FleetLifecycle.Proofs.JsonLexemes
import FleetLifecycle.Proofs.JsonRoundTrips
import FleetLifecycle.Proofs.JsonScanning
import FleetLifecycle.Proofs.KeyOrder
import FleetLifecycle.Proofs.LimitedJournal
import FleetLifecycle.Proofs.Notifications
import FleetLifecycle.Proofs.Numerals
import FleetLifecycle.Proofs.NumericParameters
import FleetLifecycle.Proofs.OpenHours
import FleetLifecycle.Proofs.Outcomes
import FleetLifecycle.Proofs.Payloads
import FleetLifecycle.Proofs.PolicyGrammar
import FleetLifecycle.Proofs.PolicyTexts
import FleetLifecycle.Proofs.ReadableInstants
import FleetLifecycle.Proofs.Reconciliation
import FleetLifecycle.Proofs.RecordLines
import FleetLifecycle.Proofs.RecordReading
import FleetLifecycle.Proofs.RecordStream
import FleetLifecycle.Proofs.RelevantFacts
import FleetLifecycle.Proofs.ReorderedInventories
import FleetLifecycle.Proofs.ResourceRecords
import FleetLifecycle.Proofs.Results
import FleetLifecycle.Proofs.RunInputs
import FleetLifecycle.Proofs.RunningTimes
import FleetLifecycle.Proofs.SettingsRules
import FleetLifecycle.Proofs.Settling
import FleetLifecycle.Proofs.SnapshotNames
import FleetLifecycle.Proofs.StableForms
import FleetLifecycle.Proofs.TruthfulReasons
import FleetLifecycle.Proofs.WallClockTexts
import FleetLifecycle.Proofs.WallClocks
import FleetLifecycle.Proofs.WrittenForms
import FleetLifecycle.Proofs.WrittenTexts
import FleetLifecycle.Request.Basic
import FleetLifecycle.Request.CycleId
import FleetLifecycle.Request.Notification
import FleetLifecycle.Schedule.Window
import FleetLifecycle.Settings.Basic
import FleetLifecycle.Settings.Given
import FleetLifecycle.Settings.Reading
import FleetLifecycle.Text.Alphanumeric
import FleetLifecycle.Text.Blank
import FleetLifecycle.Text.Digits
import FleetLifecycle.Text.Pattern
import FleetLifecycle.Text.Quoted
import FleetLifecycle.Text.Ranges
import FleetLifecycle.Text.Split
import FleetLifecycle.Text.Unprintable
import FleetLifecycle.Toml.Document
import FleetLifecycle.Toml.Node
import FleetLifecycle.Toml.Scalar
import FleetLifecycle.Toml.Scan
import FleetLifecycle.Toml.Strings
import FleetLifecycle.Zone.America
import FleetLifecycle.Zone.Basic
import FleetLifecycle.Zone.Bundled
import FleetLifecycle.Zone.Europe
import FleetLifecycle.Zone.Library
import FleetLifecycle.Zone.Named
import FleetLifecycle.Zone.Pacific
import FleetLifecycle.Zone.WallClock
