import QuantumJobs.Backend.Basic
import QuantumJobs.Backend.Choice
import QuantumJobs.Backend.Plain
import QuantumJobs.Backend.Registry
import QuantumJobs.Bench
import QuantumJobs.Client
import QuantumJobs.CommandLine.Arguments
import QuantumJobs.CommandLine.Command
import QuantumJobs.CommandLine.Program
import QuantumJobs.CommandLine.Report
import QuantumJobs.CommandLine.Settings
import QuantumJobs.CommandLine.Store
import QuantumJobs.CommandLine.Table
import QuantumJobs.CommandLine.Trouble
import QuantumJobs.CommandLine.World
import QuantumJobs.Config
import QuantumJobs.Counter
import QuantumJobs.Counts
import QuantumJobs.Decimal.Layout
import QuantumJobs.Decimal.Shortest
import QuantumJobs.Desk
import QuantumJobs.Dialogue
import QuantumJobs.Dict
import QuantumJobs.Failure
import QuantumJobs.Fault
import QuantumJobs.Fermioniq.Problem
import QuantumJobs.Fermioniq.Results
import QuantumJobs.Fermioniq.Session
import QuantumJobs.Fermioniq.Settings
import QuantumJobs.Fermioniq.Status
import QuantumJobs.Files.Obstacle
import QuantumJobs.Files.Path
import QuantumJobs.Files.Tree
import QuantumJobs.Handle.Basic
import QuantumJobs.Handle.Record
import QuantumJobs.Handle.Storage
import QuantumJobs.Instant
import QuantumJobs.Job
import QuantumJobs.JobOutcome
import QuantumJobs.Json.Basic
import QuantumJobs.Json.Decode
import QuantumJobs.Json.Numeral
import QuantumJobs.Json.Printer
import QuantumJobs.Json.Reader
import QuantumJobs.Main
import QuantumJobs.Message
import QuantumJobs.Network.Address
import QuantumJobs.Network.Domain.Ascii
import QuantumJobs.Network.Domain.Composition
import QuantumJobs.Network.Domain.Direction
import QuantumJobs.Network.Domain.Joining
import QuantumJobs.Network.Domain.Mapping
import QuantumJobs.Network.Domain.Punycode
import QuantumJobs.Network.Host
import QuantumJobs.Network.Http
import QuantumJobs.Network.Percent
import QuantumJobs.Network.Queues
import QuantumJobs.Network.Replay
import QuantumJobs.Network.Script
import QuantumJobs.Network.Url
import QuantumJobs.Network.UrlPath
import QuantumJobs.Network.UrlReader
import QuantumJobs.Network.Wire
import QuantumJobs.Polling
import QuantumJobs.Proofs.AcceptedJobs
import QuantumJobs.Proofs.AcceptedShapes
import QuantumJobs.Proofs.AddressedJobs
import QuantumJobs.Proofs.BondDimensions
import QuantumJobs.Proofs.ByteOrder
import QuantumJobs.Proofs.Calendar
import QuantumJobs.Proofs.CheckUnderWay
import QuantumJobs.Proofs.CircuitEntries
import QuantumJobs.Proofs.CommandReports
import QuantumJobs.Proofs.CommandSteps
import QuantumJobs.Proofs.ConnectChecks
import QuantumJobs.Proofs.CounterClock
import QuantumJobs.Proofs.CredentialSources
import QuantumJobs.Proofs.Deadlines
import QuantumJobs.Proofs.Decoding
import QuantumJobs.Proofs.DictLookup
import QuantumJobs.Proofs.Exchanges
import QuantumJobs.Proofs.FetchTraces
import QuantumJobs.Proofs.FinalReplies
import QuantumJobs.Proofs.FinishedJobs
import QuantumJobs.Proofs.FollowedPaths
import QuantumJobs.Proofs.HandlePlaces
import QuantumJobs.Proofs.HandleRecord
import QuantumJobs.Proofs.IndependentJobs
import QuantumJobs.Proofs.InstantText
import QuantumJobs.Proofs.JobPlan
import QuantumJobs.Proofs.JobSubmissions
import QuantumJobs.Proofs.JoinedUrls
import QuantumJobs.Proofs.JsonText
import QuantumJobs.Proofs.JsonTokens
import QuantumJobs.Proofs.KernelNames
import QuantumJobs.Proofs.LastingFailures
import QuantumJobs.Proofs.LoadedHandles
import QuantumJobs.Proofs.LoadedSettings
import QuantumJobs.Proofs.MessageFields
import QuantumJobs.Proofs.Numerals
import QuantumJobs.Proofs.OneCheck
import QuantumJobs.Proofs.OneLogin
import QuantumJobs.Proofs.Pacing
import QuantumJobs.Proofs.PollVerdict
import QuantumJobs.Proofs.PollingLoop
import QuantumJobs.Proofs.PollsInLine
import QuantumJobs.Proofs.PreparedAnswers
import QuantumJobs.Proofs.QuotedText
import QuantumJobs.Proofs.RankedCounts
import QuantumJobs.Proofs.ReachedHandles
import QuantumJobs.Proofs.ReadInstants
import QuantumJobs.Proofs.ReadValues
import QuantumJobs.Proofs.RecordText
import QuantumJobs.Proofs.RedactedText
import QuantumJobs.Proofs.RegisteredBackends
import QuantumJobs.Proofs.ResumedPolling
import QuantumJobs.Proofs.ResumedSession
import QuantumJobs.Proofs.RetoldFaults
import QuantumJobs.Proofs.Run
import QuantumJobs.Proofs.SecretFree
import QuantumJobs.Proofs.SessionCalls
import QuantumJobs.Proofs.SessionHeaders
import QuantumJobs.Proofs.SharedFile
import QuantumJobs.Proofs.SharedLogin
import QuantumJobs.Proofs.SoleCaller
import QuantumJobs.Proofs.StatusVerdict
import QuantumJobs.Proofs.StoredHandles
import QuantumJobs.Proofs.SubmitStages
import QuantumJobs.Proofs.SubmittedOnce
import QuantumJobs.Proofs.TalliedCounts
import QuantumJobs.Proofs.TokenLedger
import QuantumJobs.Proofs.TokenSource
import QuantumJobs.Proofs.TreeChanges
import QuantumJobs.Proofs.TrimmedText
import QuantumJobs.Proofs.Twins
import QuantumJobs.Proofs.UnnamedResults
import QuantumJobs.Proofs.WaitSteps
import QuantumJobs.Release
import QuantumJobs.Request
import QuantumJobs.SampleResult
import QuantumJobs.Span
import QuantumJobs.Submission
import QuantumJobs.Text.Base64
import QuantumJobs.Text.Blank
import QuantumJobs.Text.Quoted
import QuantumJobs.Text.Ranges
import QuantumJobs.Text.Unshown
import QuantumJobs.Text.Utf8
import QuantumJobs.Token
import QuantumJobs.TokenCache.Basic
import QuantumJobs.TokenCache.Gate
import QuantumJobs.TokenCache.Timeline
import QuantumJobs.Yaml.Cursor
import QuantumJobs.Yaml.Node
import QuantumJobs.Yaml.Scalar
import QuantumJobs.Yaml.Token
import QuantumJobs.Yaml.Value
