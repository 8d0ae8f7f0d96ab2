import Postmortem.Lib.Table
import Postmortem.Lib.Run
import Postmortem.Data.Json
import Postmortem.Data.Uuid
import Postmortem.Data.Python
import Postmortem.Db.Schema
import Postmortem.Backend.Cockroach
import Postmortem.Backend.Outcome
import Postmortem.Consolidation.Contracts
import Postmortem.Consolidation.Repository
import Postmortem.System
import Postmortem.Backend.Replay
import Postmortem.Backend.Ranker
import Postmortem.Backend.Recall
import Postmortem.Backend.RecalledOutcomes
import Postmortem.Consolidation.Shelf
import Postmortem.Consolidation.Counters
import Postmortem.Consolidation.Simulation
import Postmortem.Consolidation.Grouping
import Postmortem.Consolidation.Model
import Postmortem.Consolidation.Handoff
import Postmortem.Consolidation.Storage
import Postmortem.Consolidation.Pipeline
import Postmortem.Consolidation.Recount
import Postmortem.Consolidation.Redelivery
import Postmortem.Consolidation.Duplicates
import Postmortem.Backend.Atomicity
import Postmortem.Consolidation.Intake
import Postmortem.Backend.Facts
import Postmortem.Lib.Timeline
import Postmortem.Backend.Beliefs
import Postmortem.Backend.Guardrails.Injection
import Postmortem.Backend.OutcomeOnce
import Postmortem.Backend.Bedrock
import Postmortem.Backend.Guardrails.Screening
import Postmortem.Backend.Guardrails.Allowlist
import Postmortem.Lib.Effect
import Postmortem.Backend.Service
import Postmortem.Backend.TurnTrace
import Postmortem.Backend.Sanction
import Postmortem.Backend.RolledBack
import Postmortem.Backend.Citation
import Postmortem.Consolidation.Lifecycle
import Postmortem.Consolidation.Evidence
import Postmortem.Consolidation.LocalPipeline
import Postmortem.Consolidation.Conservation
import Postmortem.Consolidation.Arrival
import Postmortem.Consolidation.RoundTrip
import Postmortem.Backend.StaleFacts
import Postmortem.Backend.StatusOrder
import Postmortem.Backend.GuardedParsing
import Postmortem.Backend.Starvation
import Postmortem.Backend.Delivery
import Postmortem.Backend.DeliveryOrder
import Postmortem.Simulator.Conductor
import Postmortem.Simulator.Faults
import Postmortem.Simulator.Incidents
import Postmortem.Simulator.Rollback
import Postmortem.Simulator.Symptoms
import Postmortem.Evaluation.Responders
import Postmortem.Evaluation.Streams
import Postmortem.Backend.ConsoleBoundary
import Postmortem.Backend.Resolution
import Postmortem.Backend.RowMappers
import Postmortem.Lib.Selection
import Postmortem.Backend.BeliefRoundTrip
import Postmortem.Backend.Fakes
import Postmortem.Consolidation.Consumer
import Postmortem.Consolidation.Receiver
import Postmortem.Evaluation.RealAgent
import Postmortem.Backend.FakeRefinement
import Postmortem.Lib.Subsequence
import Postmortem.Simulator.Progress
import Postmortem.Backend.AdapterDrift
import Postmortem.Backend.IdempotencyKey
import Postmortem.Consolidation.RunbookIds
import Postmortem.Consolidation.Timestamps
import Postmortem.Evaluation.FirstAction
import Postmortem.Evaluation.PairedDelta
import Postmortem.Evaluation.RetrievalMetrics
import Postmortem.Evaluation.TemporalValidity
import Postmortem.Resilience.Rto
import Postmortem.Writers
import Postmortem.Tenants
import Postmortem.Resilience.Guarantees
import Postmortem.Resilience.Durable
import Postmortem.Resilience.Order
import Postmortem.Evaluation.ArmComparison
import Postmortem.Web.FailoverView
import Postmortem.Web.Live
import Postmortem.Backend.Api
