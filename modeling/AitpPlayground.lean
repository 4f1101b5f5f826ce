import AitpPlayground.Lib.Lts
import AitpPlayground.Lib.Calls
import AitpPlayground.Lib.Refill
import AitpPlayground.Lib.Act
import AitpPlayground.Lib.Dict
import AitpPlayground.Lib.Py
import AitpPlayground.Lib.Double
import AitpPlayground.Lib.Subst
import AitpPlayground.Lib.Ask
import AitpPlayground.Lib.Lines
import AitpPlayground.Lib.Mask
import AitpPlayground.Lib.Watch
import AitpPlayground.Lib.Percent
import AitpPlayground.Lib.Url
import AitpPlayground.Lib.Base64
import AitpPlayground.Lib.Codecs
import AitpPlayground.Lib.Regex
import AitpPlayground.Agents.HandshakeReplay
import AitpPlayground.Agents.Oidc
import AitpPlayground.Agents.Sdk
import AitpPlayground.Agents.RevocationState
import AitpPlayground.Agents.RevocationPublish
import AitpPlayground.Agents.RevocationRefresh
import AitpPlayground.Agents.RevocationServe
import AitpPlayground.Agents.PopChallenges
import AitpPlayground.Agents.PopCalls
import AitpPlayground.Agents.TctClaims
import AitpPlayground.Agents.AitpServer
import AitpPlayground.Agents.AgentSystem
import AitpPlayground.Agents.RevocationPoll
import AitpPlayground.Agents.ControlPlane
import AitpPlayground.Agents.AgentProcess
import AitpPlayground.Agents.AgentAdmin
import AitpPlayground.Agents.DelegationRedeem
import AitpPlayground.Agents.HandshakeSessions
import AitpPlayground.Agents.Llm
import AitpPlayground.Agents.Redaction
import AitpPlayground.Agents.ManifestThreads
import AitpPlayground.Agents.ManifestCalls
import AitpPlayground.Registry.Models
import AitpPlayground.Registry.Loader
import AitpPlayground.Registry.Service
import AitpPlayground.Registry.Include
import AitpPlayground.Trust.Resolver
import AitpPlayground.Hosting.PortAllocator
import AitpPlayground.Hosting.Hosted
import AitpPlayground.Hosting.KillRun
import AitpPlayground.Hosting.Supervisor
import AitpPlayground.Hosting.Names
import AitpPlayground.Observability.Metrics
import AitpPlayground.Runner.Store
import AitpPlayground.Runner.Delivery
import AitpPlayground.Runner.Engine
import AitpPlayground.Runner.Sqlite
import AitpPlayground.Runner.SqliteThreads
import AitpPlayground.Api.Runs
import AitpPlayground.Api.Stream
import AitpPlayground.Runner.Setup
import AitpPlayground.Runner.Resources
import AitpPlayground.Runner.SpendGuard
import AitpPlayground.Runner.Workflow
import AitpPlayground.Runner.Helpers
import AitpPlayground.Runner.TokenSteps
import AitpPlayground.Runner.CpSteps
import AitpPlayground.Runner.Dispatch
import AitpPlayground.Api.Webhooks
import AitpPlayground.Api.WebhookSweep
import AitpPlayground.Api.WebhookTeardown
import AitpPlayground.Runner.Lookups
import AitpPlayground.Observability.Narrator
import AitpPlayground.Api.Narrate
import AitpPlayground.Api.Hosted
import AitpPlayground.Cli.Lint
import AitpPlayground.Cli.Trace
import AitpPlayground.Cli.New
import AitpPlayground.Limits
import AitpPlayground.Proofs.Agents.HandshakeReplay
import AitpPlayground.Proofs.Agents.HandshakeScreen
import AitpPlayground.Proofs.Agents.AitpServer
import AitpPlayground.Proofs.Agents.PopChallenges
import AitpPlayground.Proofs.Agents.PopExchange
import AitpPlayground.Proofs.Agents.DelegationRedeem
import AitpPlayground.Proofs.Agents.AgentSystem
import AitpPlayground.Proofs.Agents.Revocation
import AitpPlayground.Proofs.Agents.RevocationServe
import AitpPlayground.Proofs.Agents.ControlPlane
import AitpPlayground.Proofs.Agents.RevocationPull
import AitpPlayground.Proofs.Agents.RevocationPoll
import AitpPlayground.Proofs.Agents.Capability
import AitpPlayground.Proofs.Agents.HostileTokens
import AitpPlayground.Proofs.Agents.AgentAdmin
import AitpPlayground.Proofs.Agents.Identity
import AitpPlayground.Proofs.Agents.HeldTokens
import AitpPlayground.Proofs.Agents.HandshakeSessions
import AitpPlayground.Proofs.Agents.ManifestThreads
import AitpPlayground.Proofs.Agents.ManifestFloor
import AitpPlayground.Proofs.Agents.Redemption
import AitpPlayground.Proofs.Agents.Redaction
import AitpPlayground.Proofs.Agents.Encodings
import AitpPlayground.Proofs.Hosting.Hosted
import AitpPlayground.Proofs.Hosting.PortAllocator
import AitpPlayground.Proofs.Hosting.RequestedPorts
import AitpPlayground.Proofs.Hosting.KillRun
import AitpPlayground.Proofs.Hosting.Supervisor
import AitpPlayground.Proofs.Hosting.Names
import AitpPlayground.Proofs.Observability.Metrics
import AitpPlayground.Proofs.Registry.Loader
import AitpPlayground.Proofs.Registry.Include
import AitpPlayground.Proofs.Runner.Resources
import AitpPlayground.Proofs.Runner.SpendGuard
import AitpPlayground.Proofs.Runner.Steps
import AitpPlayground.Proofs.Runner.TrustStores
import AitpPlayground.Proofs.Runner.TokenOps
import AitpPlayground.Proofs.Runner.RevokeTct
import AitpPlayground.Proofs.Runner.Delegation
import AitpPlayground.Proofs.Runner.Faults
import AitpPlayground.Proofs.Runner.Lookups
import AitpPlayground.Proofs.Runner.Templates
import AitpPlayground.Proofs.Runner.Store
import AitpPlayground.Proofs.Runner.Delivery
import AitpPlayground.Proofs.Runner.Sqlite
import AitpPlayground.Proofs.Runner.SqliteThreads
import AitpPlayground.Proofs.Runner.RunTrace
import AitpPlayground.Proofs.Api.Cancellation
import AitpPlayground.Proofs.Api.RunEnd
import AitpPlayground.Proofs.Api.Stream
import AitpPlayground.Proofs.Api.Webhooks
import AitpPlayground.Proofs.Api.SignedDelivery
import AitpPlayground.Proofs.Api.WebhookSweep
import AitpPlayground.Proofs.Api.WebhookTeardown
import AitpPlayground.Proofs.Api.Hosted
import AitpPlayground.Proofs.Cli.Lint
import AitpPlayground.Proofs.Cli.Trace
import AitpPlayground.Proofs.Cli.New
import AitpPlayground.Proofs.Limits
import AitpPlayground.Proofs.Api.Deps
import AitpPlayground.Proofs.Observability.Exposition
import AitpPlayground.Proofs.Observability.Counters
import AitpPlayground.Proofs.Hosting.PublicOrigin
import AitpPlayground.Proofs.Agents.AdminAuth
import AitpPlayground.Proofs.Hosting.AdminChannel
import AitpPlayground.Proofs.Registry.Freshness
import AitpPlayground.Proofs.Api.HostedRoutes
import AitpPlayground.Proofs.Trust.Orchestrator
import AitpPlayground.Proofs.Agents.OidcContext
