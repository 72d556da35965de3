import ClaimOperator.Cluster.ApiStore
import ClaimOperator.Cluster.BaseAddress
import ClaimOperator.Cluster.Exchange
import ClaimOperator.Cluster.Script
import ClaimOperator.Cluster.Target
import ClaimOperator.CommandLine.Command
import ClaimOperator.CommandLine.Options
import ClaimOperator.CommandLine.Run
import ClaimOperator.Json.Basic
import ClaimOperator.Json.Display
import ClaimOperator.Json.Overlay
import ClaimOperator.Json.Printer
import ClaimOperator.Json.Reader
import ClaimOperator.Main
import ClaimOperator.Manifest.Checked
import ClaimOperator.Manifest.Codec
import ClaimOperator.Manifest.Document
import ClaimOperator.Number.Binary64
import ClaimOperator.Number.Reading
import ClaimOperator.Number.Shortest
import ClaimOperator.Proofs.Cluster.Addresses
import ClaimOperator.Proofs.Cluster.Answers
import ClaimOperator.Proofs.Cluster.FailedCalls
import ClaimOperator.Proofs.Cluster.ForeignFields
import ClaimOperator.Proofs.Cluster.SentObjects
import ClaimOperator.Proofs.Interleaving.Clients
import ClaimOperator.Proofs.Interleaving.Contenders
import ClaimOperator.Proofs.Interleaving.Crowds
import ClaimOperator.Proofs.Interleaving.Passes
import ClaimOperator.Proofs.Interleaving.Phases
import ClaimOperator.Proofs.Interleaving.Shifts
import ClaimOperator.Proofs.Json.OverlayLaws
import ClaimOperator.Proofs.Logic.Alone
import ClaimOperator.Proofs.Logic.Exact
import ClaimOperator.Proofs.Logic.Executions
import ClaimOperator.Proofs.Logic.Footprint
import ClaimOperator.Proofs.Logic.Operations
import ClaimOperator.Proofs.Logic.Regime
import ClaimOperator.Proofs.Manifest.RoundTrip
import ClaimOperator.Proofs.Manifest.UnknownFields
import ClaimOperator.Proofs.Reconcile.Calls
import ClaimOperator.Proofs.Reconcile.Coherence
import ClaimOperator.Proofs.Reconcile.ConditionHistory
import ClaimOperator.Proofs.Reconcile.Confined
import ClaimOperator.Proofs.Reconcile.FailedSteps
import ClaimOperator.Proofs.Reconcile.Halts
import ClaimOperator.Proofs.Reconcile.LivePass
import ClaimOperator.Proofs.Reconcile.Masking
import ClaimOperator.Proofs.Reconcile.Operations
import ClaimOperator.Proofs.Reconcile.Reliance
import ClaimOperator.Proofs.Reconcile.Stages
import ClaimOperator.Proofs.Reconcile.Statuses
import ClaimOperator.Proofs.Reconcile.WholePass
import ClaimOperator.Proofs.Resource.MarkerHistory
import ClaimOperator.Proofs.Store.Atomicity
import ClaimOperator.Proofs.Store.Contents
import ClaimOperator.Proofs.Store.Counting
import ClaimOperator.Proofs.Store.FaithfulRows
import ClaimOperator.Proofs.Store.Lifecycle
import ClaimOperator.Proofs.Store.LocalStore
import ClaimOperator.Proofs.Store.Locality
import ClaimOperator.Proofs.Store.LostUpdates
import ClaimOperator.Proofs.Store.Refusals
import ClaimOperator.Proofs.Store.RowContents
import ClaimOperator.Proofs.Store.RowVersions
import ClaimOperator.Proofs.Store.SideBySide
import ClaimOperator.Proofs.Store.StaleWrites
import ClaimOperator.Proofs.Store.TableContents
import ClaimOperator.Proofs.Store.Twins
import ClaimOperator.Proofs.Store.UnitsOfWork
import ClaimOperator.Proofs.Store.Versions
import ClaimOperator.Proofs.Text.Decimal
import ClaimOperator.Proofs.Time.RoundTrip
import ClaimOperator.Proofs.Workflow.Commuting
import ClaimOperator.Proofs.Workflow.Convergence
import ClaimOperator.Proofs.Workflow.Deletion
import ClaimOperator.Proofs.Workflow.FixedPoint
import ClaimOperator.Proofs.Workflow.NoOrphans
import ClaimOperator.Proofs.Workflow.OwnReferences
import ClaimOperator.Proofs.Workflow.Pairs
import ClaimOperator.Proofs.Workflow.Requests
import ClaimOperator.Proofs.Workflow.Rounds
import ClaimOperator.Proofs.Workflow.Runs
import ClaimOperator.Proofs.Workflow.WriteThrough
import ClaimOperator.Reconcile.ErrorCondition
import ClaimOperator.Reconcile.Pairing
import ClaimOperator.Reconcile.Pass
import ClaimOperator.Reconcile.PhaseGate
import ClaimOperator.Reconcile.ReferenceKey
import ClaimOperator.Resource.Claim
import ClaimOperator.Resource.Finalizers
import ClaimOperator.Resource.Key
import ClaimOperator.Resource.Object
import ClaimOperator.Resource.Reference
import ClaimOperator.Scope
import ClaimOperator.Settings.ApiAccess
import ClaimOperator.Settings.BackendChoice
import ClaimOperator.Settings.DataPath
import ClaimOperator.Settings.DatabaseFile
import ClaimOperator.Settings.LogThresholds
import ClaimOperator.Settings.Variables
import ClaimOperator.Store.Action
import ClaimOperator.Store.Archive
import ClaimOperator.Store.Failure
import ClaimOperator.Store.Faults
import ClaimOperator.Store.Journal
import ClaimOperator.Store.Port
import ClaimOperator.Store.Rows
import ClaimOperator.Store.Service
import ClaimOperator.Store.Tables
import ClaimOperator.Store.Transaction
import ClaimOperator.Store.WriteRules
import ClaimOperator.Text.Blank
import ClaimOperator.Text.Digit
import ClaimOperator.Text.Enumeration
import ClaimOperator.Text.Numeral
import ClaimOperator.Text.Printable
import ClaimOperator.Text.Quoted
import ClaimOperator.Text.Split
import ClaimOperator.Time.Calendar
import ClaimOperator.Time.Reading
import ClaimOperator.Time.Timestamp
import ClaimOperator.Workflow
