import Headroom.Configuration
import Headroom.Daemon
import Headroom.Engine
import Headroom.Http.Api
import Headroom.Main
import Headroom.Maintenance
import Headroom.Operator.Console
import Headroom.Proofs.Engine.Acceptance
import Headroom.Proofs.Engine.Accounts
import Headroom.Proofs.Engine.Bands
import Headroom.Proofs.Engine.Consistency
import Headroom.Proofs.Engine.Independence
import Headroom.Proofs.Engine.Registration
import Headroom.Proofs.Engine.Rejection
import Headroom.Proofs.Engine.Rescoring
import Headroom.Proofs.Engine.Restart
import Headroom.Proofs.Engine.Retention
import Headroom.Proofs.Engine.Silence
import Headroom.Proofs.Engine.Sweeping
import Headroom.Proofs.Engine.Totals
import Headroom.Proofs.Engine.Trail
import Headroom.Proofs.Engine.Windows
import Headroom.Proofs.Health
import Headroom.Proofs.Hysteresis
import Headroom.Proofs.Idle
import Headroom.Proofs.Load
import Headroom.Proofs.Registry.Restoration
import Headroom.Storage.SnapshotFile
import Headroom.Proofs.Decimal.Shortest
import Headroom.Proofs.Json.Legible
import Headroom.Proofs.Double.Quotients
import Headroom.Proofs.Double.Range
import Headroom.Proofs.Engine.Ranges
import Headroom.Proofs.Schema.Requests
import Headroom.Proofs.Json.Aside
import Headroom.Proofs.Schema.Answers
import Headroom.Proofs.Schema.RoundTrip
import Headroom.Proofs.Http.Percent
import Headroom.Proofs.Http.Paths
import Headroom.Proofs.Operator.Addressing
import Headroom.Proofs.Storage.Interruption
import Headroom.Proofs.Json.Contents
import Headroom.Proofs.Operator.Answers
import Headroom.Proofs.Operator.Exchange
import Headroom.Proofs.Maintenance
import Headroom.Proofs.Operator.BaseAddress
import Headroom.Proofs.Engine.Deadlines
