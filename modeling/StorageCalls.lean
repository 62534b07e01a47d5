import StorageCalls.Base64
import StorageCalls.Budget.Ceiling
import StorageCalls.Budget.Policy
import StorageCalls.Call.Deadline
import StorageCalls.Call.Delegation
import StorageCalls.Call.Error
import StorageCalls.Call.Metadata
import StorageCalls.Call.Options
import StorageCalls.Call.Run
import StorageCalls.Call.State
import StorageCalls.Call.Status
import StorageCalls.Config.Basic
import StorageCalls.Config.Document
import StorageCalls.Connection.Interceptor
import StorageCalls.Connection.Network
import StorageCalls.Connection.Registry
import StorageCalls.Connection.Target
import StorageCalls.Decimal
import StorageCalls.Description
import StorageCalls.Digest.Sha256
import StorageCalls.Event
import StorageCalls.Files
import StorageCalls.Json.Number
import StorageCalls.Json.Text
import StorageCalls.Json.Value
import StorageCalls.Proofs.Accounting
import StorageCalls.Proofs.Amplification
import StorageCalls.Proofs.AnonymousCalls
import StorageCalls.Proofs.Base64RoundTrip
import StorageCalls.Proofs.BlamedStacks
import StorageCalls.Proofs.BranchAgreement
import StorageCalls.Proofs.BranchCalls
import StorageCalls.Proofs.Branches
import StorageCalls.Proofs.BudgetEffects
import StorageCalls.Proofs.BudgetHistory
import StorageCalls.Proofs.BudgetPart
import StorageCalls.Proofs.ByteOrder
import StorageCalls.Proofs.CallAtomicity
import StorageCalls.Proofs.CallDelivery
import StorageCalls.Proofs.CallMetadata
import StorageCalls.Proofs.CallOutcome
import StorageCalls.Proofs.CallParts
import StorageCalls.Proofs.CallPhases
import StorageCalls.Proofs.CallTraces
import StorageCalls.Proofs.Charge
import StorageCalls.Proofs.CountListings
import StorageCalls.Proofs.Creation
import StorageCalls.Proofs.CreationInvariant
import StorageCalls.Proofs.CreationOnce
import StorageCalls.Proofs.CreationSource
import StorageCalls.Proofs.DeadlineMinimum
import StorageCalls.Proofs.Deadlines
import StorageCalls.Proofs.DelegationRoundTrip
import StorageCalls.Proofs.ExactClock
import StorageCalls.Proofs.FanOut
import StorageCalls.Proofs.FilePaths
import StorageCalls.Proofs.ForwardedFlags
import StorageCalls.Proofs.FrameNumbers
import StorageCalls.Proofs.FrameStack
import StorageCalls.Proofs.HealthChecks
import StorageCalls.Proofs.HostRoundTrip
import StorageCalls.Proofs.Ipv6RoundTrip
import StorageCalls.Proofs.Isolation
import StorageCalls.Proofs.JsonStrings
import StorageCalls.Proofs.LimitSwitch
import StorageCalls.Proofs.LimitedRuns
import StorageCalls.Proofs.MetadataEntries
import StorageCalls.Proofs.MirroredCalls
import StorageCalls.Proofs.NamedStacks
import StorageCalls.Proofs.NetworkAuthority
import StorageCalls.Proofs.NetworkTargets
import StorageCalls.Proofs.Numerals
import StorageCalls.Proofs.OverlappingScopes
import StorageCalls.Proofs.OvertakenCalls
import StorageCalls.Proofs.Parallel
import StorageCalls.Proofs.ParallelCalls
import StorageCalls.Proofs.ParallelDeeds
import StorageCalls.Proofs.Positions
import StorageCalls.Proofs.Process
import StorageCalls.Proofs.ProcessSound
import StorageCalls.Proofs.Punctuality
import StorageCalls.Proofs.QuietStages
import StorageCalls.Proofs.RefNames
import StorageCalls.Proofs.Refusals
import StorageCalls.Proofs.RegistryMemo
import StorageCalls.Proofs.RegistryRuns
import StorageCalls.Proofs.RegistrySecurity
import StorageCalls.Proofs.ReportedStacks
import StorageCalls.Proofs.RequestDeeds
import StorageCalls.Proofs.RequestParts
import StorageCalls.Proofs.RequestSessions
import StorageCalls.Proofs.RequestTurns
import StorageCalls.Proofs.Requests
import StorageCalls.Proofs.Resolution
import StorageCalls.Proofs.ScopeRestoration
import StorageCalls.Proofs.ScopedPrograms
import StorageCalls.Proofs.SecretConfinement
import StorageCalls.Proofs.Securing
import StorageCalls.Proofs.Sending
import StorageCalls.Proofs.SessionIds
import StorageCalls.Proofs.SessionMoves
import StorageCalls.Proofs.SiblingExemptions
import StorageCalls.Proofs.StackLines
import StorageCalls.Proofs.Stages
import StorageCalls.Proofs.SteadyTransport
import StorageCalls.Proofs.StoreStates
import StorageCalls.Proofs.Tallies
import StorageCalls.Proofs.Targets
import StorageCalls.Proofs.TokenParts
import StorageCalls.Proofs.UnenforcedWarnings
import StorageCalls.Proofs.UnixTargets
import StorageCalls.Proofs.UntrackedRuns
import StorageCalls.Proofs.UntrackedSteps
import StorageCalls.Proofs.UrlText
import StorageCalls.Proofs.WorstStacks
import StorageCalls.Request.Context
import StorageCalls.Request.Frames
import StorageCalls.Request.Store
import StorageCalls.Scenario.Action
import StorageCalls.Scenario.Answer
import StorageCalls.Scenario.Session
import StorageCalls.Scenario.Step
import StorageCalls.Stage
import StorageCalls.Storage.Address
import StorageCalls.Storage.Resolved
import StorageCalls.Table
import StorageCalls.Text.Bytes
import StorageCalls.Text.CombiningClass
import StorageCalls.Text.Composition
import StorageCalls.Text.CompositionTable
import StorageCalls.Text.Direction
import StorageCalls.Text.Invisible
import StorageCalls.Text.Joining
import StorageCalls.Text.Mark
import StorageCalls.Text.Quoted
import StorageCalls.Text.Split
import StorageCalls.Time.Duration
import StorageCalls.Time.Instant
import StorageCalls.Toml.Document
import StorageCalls.Toml.Scalar
import StorageCalls.Toml.Text
import StorageCalls.Toml.Tree
import StorageCalls.Url.Domain
import StorageCalls.Url.DomainTable
import StorageCalls.Url.Host
import StorageCalls.Url.Ipv4
import StorageCalls.Url.Ipv6
import StorageCalls.Url.Parse
import StorageCalls.Url.Path
import StorageCalls.Url.Punycode
import StorageCalls.World
