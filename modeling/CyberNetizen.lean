import CyberNetizen.Lib.Machine
import CyberNetizen.Lib.Table
import CyberNetizen.Tasks.Lease
import CyberNetizen.Tasks.Fencing
import CyberNetizen.Tasks.Attempts
import CyberNetizen.Tasks.Cancellation
import CyberNetizen.Tasks.InMemoryRefinement
import CyberNetizen.Tasks.SocialBudget
import CyberNetizen.Tasks.Delivery
import CyberNetizen.Memory.RelationshipEvents
import CyberNetizen.Memory.Boundaries
import CyberNetizen.Application.LongTermMemory
import CyberNetizen.Adapters.Channel
import CyberNetizen.Adapters.Telegram
import CyberNetizen.Application.ConversationService
import CyberNetizen.Channels.Unstuck
import CyberNetizen.Conversations.Begins
import CyberNetizen.Conversations.ConversationRun
import CyberNetizen.Conversations.Idempotency
import CyberNetizen.Conversations.RunLifecycle
import CyberNetizen.Infrastructure.LongTermMemory
import CyberNetizen.Lib.VersionChain
import CyberNetizen.Memory.Forgetting
import CyberNetizen.Memory.Lineage
import CyberNetizen.Administration.EffectiveRole
import CyberNetizen.Administration.RequestWindows
import CyberNetizen.Alerts.Aggregates
import CyberNetizen.Alerts.LifecycleTimes
import CyberNetizen.Attachments.ObjectAgreement
import CyberNetizen.Channels.Negotiation
import CyberNetizen.Channels.RateLimit
import CyberNetizen.Channels.ReplyDelivery
import CyberNetizen.Cognition.AffectDecay
import CyberNetizen.Cognition.CredentialDrift
import CyberNetizen.Cognition.CurrentMessage
import CyberNetizen.Cognition.Envelope
import CyberNetizen.Cognition.RejectionTrace
import CyberNetizen.Cognition.ResourceRun
import CyberNetizen.Configurations.DerivedDrafts
import CyberNetizen.Configurations.Resolution
import CyberNetizen.Conversations.ModelRetries
import CyberNetizen.Conversations.RunContext
import CyberNetizen.DataLifecycle.OrphanCoverage
import CyberNetizen.DataLifecycle.Retention
import CyberNetizen.Evaluations.ApprovalProofs
import CyberNetizen.Evaluations.Claims
import CyberNetizen.Memory.RecallIsolation
import CyberNetizen.Memory.RelationshipRange
import CyberNetizen.Secrets.Resolution
import CyberNetizen.Tasks.ProactiveTiming
import CyberNetizen.Tasks.SensitivePayloads
import CyberNetizen.Tasks.StrandedActions
import CyberNetizen.Tasks.WorkerIdentity
import CyberNetizen.Worker.Isolation
import CyberNetizen.Attachments.InspectedDocuments
import CyberNetizen.Attachments.PdfScan
import CyberNetizen.Cognition.RankingOrder
import CyberNetizen.Evaluations.QualityHistory
import CyberNetizen.Adapters.AlertWebhook
import CyberNetizen.Conversations.CompleteReplies
import CyberNetizen.Inbound.Routing
import CyberNetizen.Application.Pagination
import CyberNetizen.Application.Listings
import CyberNetizen.Conversations.History
import CyberNetizen.Conversations.CircuitBreaker
import CyberNetizen.Inbound.Acceptance
import CyberNetizen.Inbound.InMemoryMappings
