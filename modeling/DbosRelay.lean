import DbosRelay.Basic
import DbosRelay.Library.Runs
import DbosRelay.Library.Tables
import DbosRelay.Store.Executors
import DbosRelay.Liveness.Machine
import DbosRelay.Liveness.Manager
import DbosRelay.Liveness.Timers
import DbosRelay.Liveness.Dispatch
import DbosRelay.Hub.Registry
import DbosRelay.Cluster.Threads
import DbosRelay.Cluster.System
import DbosRelay.Cluster.Accesses
import DbosRelay.Cluster.Steps
import DbosRelay.Cluster.Recovery
import DbosRelay.Cluster.LiveSockets
import DbosRelay.Cluster.Views
import DbosRelay.Cluster.Fencing
import DbosRelay.Cluster.Sweep
import DbosRelay.Cluster.GracePeriod
import DbosRelay.Library.GenerationCache
import DbosRelay.Router.Forward
import DbosRelay.Router.Replay
import DbosRelay.Hub.Dispatch
import DbosRelay.Router.Dispatch
import DbosRelay.Router.AtMostOnce
import DbosRelay.DataPlane.Manager
import DbosRelay.DataPlane.Calls
import DbosRelay.DataPlane.Coherence
import DbosRelay.DataPlane.Removal
import DbosRelay.DataPlane.Client
import DbosRelay.Router.DirectMode
import DbosRelay.Liveness.Sources
import DbosRelay.Liveness.Probe
import DbosRelay.Hub.Lease
import DbosRelay.Library.GoJson
import DbosRelay.Protocol.Schema
import DbosRelay.Protocol.Codec
import DbosRelay.Declarative.Manifest
import DbosRelay.Declarative.StartUp
import DbosRelay.Library.GoAny
import DbosRelay.Applications.Settings
import DbosRelay.Applications.Frame
import DbosRelay.Cluster.Startup
import DbosRelay.Hub.Multiplexer
import DbosRelay.DataPlane.Retention
import DbosRelay.Library.Calendar
import DbosRelay.Library.Decimals
import DbosRelay.Store.Timestamps
import DbosRelay.Identity.Store
import DbosRelay.Identity.Handlers
import DbosRelay.Identity.Roles
import DbosRelay.Identity.JoinSecrets
import DbosRelay.Identity.Middleware
import DbosRelay.Identity.Routes
import DbosRelay.Identity.Authorisation
import DbosRelay.Identity.Tokens
import DbosRelay.Identity.Escalation
import DbosRelay.Identity.PersonalOrg
import DbosRelay.Identity.SubjectBinding
import DbosRelay.Liveness.Outcomes
import DbosRelay.Alerting.Claims
import DbosRelay.Library.Grouping
import DbosRelay.Metrics.Windows
import DbosRelay.Api.AlertMetadata
import DbosRelay.Cluster.Versions
import DbosRelay.DataPlane.Translation
import DbosRelay.Declarative.Store
import DbosRelay.Library.Floats
import DbosRelay.Library.FloatSums
import DbosRelay.Library.Reconciliation
import DbosRelay.Declarative.Apply
import DbosRelay.Declarative.Outcome
import DbosRelay.Declarative.Plans
import DbosRelay.Declarative.Convergence
import DbosRelay.Declarative.Sufficiency
import DbosRelay.Library.Lines
import DbosRelay.Router.Signing
import DbosRelay.Library.Wrapping
import DbosRelay.Router.Freshness
import DbosRelay.Library.Searching
import DbosRelay.Router.Classification
import DbosRelay.Applications.Enforcement
import DbosRelay.Applications.Timeouts
import DbosRelay.Api.Autoscale
import DbosRelay.Hub.RoundRobin
import DbosRelay.Api.AutoscaleEndpoints
import DbosRelay.Api.Backlog
import DbosRelay.Api.LatestVersion
import DbosRelay.Alerting.Evaluation
import DbosRelay.Alerting.Thresholds
import DbosRelay.Alerting.Channels
import DbosRelay.Api.Attention
import DbosRelay.Metrics.Folding
import DbosRelay.Auth.Availability
import DbosRelay.Identity.Joining
import DbosRelay.Auth.Acceptance
import DbosRelay.Api.MutationOutcomes
import DbosRelay.Api.ResumeGuard
import DbosRelay.Library.Escaping
import DbosRelay.Library.Runes
import DbosRelay.Metrics.Labels
import DbosRelay.Router.NonceWindow
import DbosRelay.Hub.Authenticate
import DbosRelay.Hub.FirstConnection
import DbosRelay.Api.Events
import DbosRelay.Cluster.Deletions
import DbosRelay.Api.EventStream
import DbosRelay.Router.PeerForward
import DbosRelay.Router.PeerNetwork
import DbosRelay.Api.Audit
import DbosRelay.Api.AuditTrail
import DbosRelay.Api.AuditDenials
import DbosRelay.Api.AuditSites
import DbosRelay.Cluster.Directory
import DbosRelay.Library.Exposition
import DbosRelay.Metrics.Page
import DbosRelay.Metrics.Scraped
