import ClusterReconciliation.Arguments
import ClusterReconciliation.ClientError
import ClusterReconciliation.Cluster.Cloud
import ClusterReconciliation.Cluster.Info
import ClusterReconciliation.Cluster.Layout
import ClusterReconciliation.Cluster.Spec
import ClusterReconciliation.CommandLine
import ClusterReconciliation.Context
import ClusterReconciliation.ControlPlane
import ClusterReconciliation.Credentials
import ClusterReconciliation.Datum
import ClusterReconciliation.Decimal.Double
import ClusterReconciliation.Decimal.Shortest
import ClusterReconciliation.Decode
import ClusterReconciliation.Desired
import ClusterReconciliation.Dict
import ClusterReconciliation.Display
import ClusterReconciliation.Display.Output
import ClusterReconciliation.Display.Table
import ClusterReconciliation.Display.Timestamp
import ClusterReconciliation.Duration
import ClusterReconciliation.Held
import ClusterReconciliation.Http.Client
import ClusterReconciliation.Http.Encoding
import ClusterReconciliation.Http.Request
import ClusterReconciliation.Http.Response
import ClusterReconciliation.Http.Url
import ClusterReconciliation.Json
import ClusterReconciliation.Json.Canonical
import ClusterReconciliation.Json.Parse
import ClusterReconciliation.Json.Reader
import ClusterReconciliation.Json.Writer
import ClusterReconciliation.Library
import ClusterReconciliation.Library.Diff
import ClusterReconciliation.Library.Status
import ClusterReconciliation.Library.Wire
import ClusterReconciliation.Main
import ClusterReconciliation.Manifest
import ClusterReconciliation.Manifest.Lint
import ClusterReconciliation.Paths
import ClusterReconciliation.Phase
import ClusterReconciliation.Poll
import ClusterReconciliation.Program
import ClusterReconciliation.Proofs.Acceptance
import ClusterReconciliation.Proofs.Alike
import ClusterReconciliation.Proofs.Attempts
import ClusterReconciliation.Proofs.Cancellation
import ClusterReconciliation.Proofs.Convergence
import ClusterReconciliation.Proofs.Deletion
import ClusterReconciliation.Proofs.Differences
import ClusterReconciliation.Proofs.Endings
import ClusterReconciliation.Proofs.Execution
import ClusterReconciliation.Proofs.Exhaustion
import ClusterReconciliation.Proofs.Idempotence
import ClusterReconciliation.Proofs.Identity
import ClusterReconciliation.Proofs.Legality
import ClusterReconciliation.Proofs.LibraryCalls
import ClusterReconciliation.Proofs.LibraryRounds
import ClusterReconciliation.Proofs.Observation
import ClusterReconciliation.Proofs.Ordering
import ClusterReconciliation.Proofs.Records
import ClusterReconciliation.Proofs.Settling
import ClusterReconciliation.Proofs.Simulated
import ClusterReconciliation.Proofs.SimulatedRounds
import ClusterReconciliation.Proofs.SimulatedRuns
import ClusterReconciliation.Proofs.SimulatedWaits
import ClusterReconciliation.Proofs.Soundness
import ClusterReconciliation.Proofs.Stages
import ClusterReconciliation.Proofs.Steps
import ClusterReconciliation.Proofs.Termination
import ClusterReconciliation.Proofs.Traces
import ClusterReconciliation.Proofs.Transitions
import ClusterReconciliation.Proofs.Waiting
import ClusterReconciliation.Reconcile
import ClusterReconciliation.Reconcile.Failure
import ClusterReconciliation.Reconcile.Libraries
import ClusterReconciliation.Reconcile.Options
import ClusterReconciliation.Reconcile.Session
import ClusterReconciliation.Simulation
import ClusterReconciliation.Simulation.Machine
import ClusterReconciliation.Simulation.Scene
import ClusterReconciliation.Simulation.Script
import ClusterReconciliation.Simulation.Server
import ClusterReconciliation.Text.Blank
import ClusterReconciliation.Text.Printable
import ClusterReconciliation.Text.Uppercase
import ClusterReconciliation.ValidationError
import ClusterReconciliation.Variables
import ClusterReconciliation.Yaml.Cursor
import ClusterReconciliation.Yaml.Folding
import ClusterReconciliation.Yaml.Node
import ClusterReconciliation.Yaml.Reader
import ClusterReconciliation.Yaml.Scalar
import ClusterReconciliation.Yaml.Style
import ClusterReconciliation.Yaml.Token
import ClusterReconciliation.Yaml.Token.Lexer
import ClusterReconciliation.Yaml.Token.Tag
import ClusterReconciliation.Yaml.Writer
import ClusterReconciliation.Proofs.Layers
import ClusterReconciliation.Proofs.Contexts
import ClusterReconciliation.Proofs.Congruence
import ClusterReconciliation.Proofs.Tandem
import ClusterReconciliation.Proofs.Reading
import ClusterReconciliation.Proofs.Encoding
import ClusterReconciliation.Proofs.Desires
import ClusterReconciliation.Proofs.Numerals
import ClusterReconciliation.Proofs.JsonTexts
import ClusterReconciliation.Proofs.Carried
import ClusterReconciliation.Proofs.Manifests
import ClusterReconciliation.Proofs.Doubles
import ClusterReconciliation.Proofs.Messages
import ClusterReconciliation.Proofs.Partition
import ClusterReconciliation.Proofs.Overrides
import ClusterReconciliation.Proofs.Lockstep
import ClusterReconciliation.Proofs.Polling
import ClusterReconciliation.Proofs.SettledDeletion
import ClusterReconciliation.Proofs.Shapes
import ClusterReconciliation.Proofs.Unions
import ClusterReconciliation.Proofs.Grammar
import ClusterReconciliation.Proofs.Fitness
import ClusterReconciliation.Proofs.Arrangement
import ClusterReconciliation.Proofs.Steadiness
import ClusterReconciliation.Proofs.Reports
import ClusterReconciliation.Proofs.Echoes
import ClusterReconciliation.Proofs.Tolerance
import ClusterReconciliation.Proofs.Backoff
import ClusterReconciliation.Proofs.Listings
import ClusterReconciliation.Proofs.Addresses
import ClusterReconciliation.Proofs.Rejections
import ClusterReconciliation.Proofs.Classification
import ClusterReconciliation.Proofs.Hints
import ClusterReconciliation.Proofs.Effects
import ClusterReconciliation.Proofs.Arrivals
