import OmniSupport.Foundation.Machine
import OmniSupport.Foundation.Pool
import OmniSupport.Foundation.Table
import OmniSupport.Foundation.Text
import OmniSupport.Foundation.Ledger
import OmniSupport.Foundation.Effect
import OmniSupport.Foundation.Transaction
import OmniSupport.Foundation.Sequence
import OmniSupport.Foundation.Ends
import OmniSupport.Foundation.Unwinding
import OmniSupport.Foundation.Answers
import OmniSupport.Foundation.Paging
import OmniSupport.Foundation.Process
import OmniSupport.Foundation.Locks
import OmniSupport.Foundation.Snapshot
import OmniSupport.Shared.Base
import OmniSupport.Shared.JsText
import OmniSupport.Shared.DomainEvent
import OmniSupport.Identity.Account
import OmniSupport.Identity.AccountEntity
import OmniSupport.Identity.AccountService
import OmniSupport.Identity.AccountChange
import OmniSupport.Identity.AccountEvents
import OmniSupport.Auth.CredentialRows
import OmniSupport.Identity.PermissionCatalog
import OmniSupport.Auth.TokenStore
import OmniSupport.Auth.TokenService
import OmniSupport.Auth.TokenInvariant
import OmniSupport.Auth.TokenFamily
import OmniSupport.Auth.TokenRevocation
import OmniSupport.Auth.TokenReuse
import OmniSupport.Outbox.OutboxEvent
import OmniSupport.Outbox.OutboxProcessor
import OmniSupport.Outbox.RowTransitions
import OmniSupport.Outbox.RowLifecycle
import OmniSupport.Outbox.AttemptAccounting
import OmniSupport.Outbox.DeadLetters
import OmniSupport.Outbox.Delivery
import OmniSupport.Outbox.Duplicates
import OmniSupport.Outbox.Rejection
import OmniSupport.Notification.NotificationService
import OmniSupport.Notification.FailureDelivery
import OmniSupport.Database.Store
import OmniSupport.Database.Repositories
import OmniSupport.Database.Statements
import OmniSupport.Database.ServiceRules
import OmniSupport.Database.Queries
import OmniSupport.Ticket.TicketRow
import OmniSupport.Ticket.TicketEntity
import OmniSupport.Ticket.TicketService
import OmniSupport.Ticket.TicketWrites
import OmniSupport.Ticket.TicketChange
import OmniSupport.Ticket.TicketAtomicity
import OmniSupport.Ticket.TicketNumbering
import OmniSupport.Ticket.DailyLimit
import OmniSupport.Ticket.TicketLifecycle
import OmniSupport.Ticket.LifecycleSerial
import OmniSupport.Auth.AuthService
import OmniSupport.Auth.LoginCalls
import OmniSupport.Auth.Lockout
import OmniSupport.Auth.InvitationService
import OmniSupport.Auth.OAuthService
import OmniSupport.Auth.PasswordReset
import OmniSupport.Auth.ResetSingleUse
import OmniSupport.Identity.StaffLifecycle
import OmniSupport.Identity.SessionRevocation
import OmniSupport.Identity.SessionsEnd
import OmniSupport.Identity.ProfileEdits
import OmniSupport.Identity.ProfileFrame
import OmniSupport.Auth.AccountSessions
import OmniSupport.Auth.SessionCalls
import OmniSupport.Auth.AccountCalls
import OmniSupport.Auth.LiveSessions
import OmniSupport.Identity.RoleStore
import OmniSupport.Identity.RoleManagement
import OmniSupport.Identity.ManagerCalls
import OmniSupport.Identity.ManagerBounds
import OmniSupport.Identity.RoleBoundary
import OmniSupport.Identity.MembershipBounds
import OmniSupport.Search.SearchService
import OmniSupport.Report.ReportService
import OmniSupport.Ticket.TicketAccess
import OmniSupport.Ticket.TicketController
import OmniSupport.Ticket.ReadPaths
import OmniSupport.Attachment.AttachmentService
import OmniSupport.Attachment.SignedUrls
import OmniSupport.Attachment.RejectedUploads
import OmniSupport.Ticket.TicketRequests
import OmniSupport.Ticket.AffectedTickets
import OmniSupport.Ticket.WritesVisible
import OmniSupport.Ticket.HiddenWrites
import OmniSupport.Foundation.Rows
import OmniSupport.Messaging.WebhookEvent
import OmniSupport.Messaging.WebhookProcessing
import OmniSupport.Messaging.WebhookLifecycle
import OmniSupport.Messaging.InboundWhatsApp
import OmniSupport.Messaging.InboundWrites
import OmniSupport.Messaging.InboundEffects
import OmniSupport.Messaging.InboundThreading
import OmniSupport.Messaging.SenderPhones
import OmniSupport.Foundation.ReadCommitted
import OmniSupport.Auth.AccountStatements
import OmniSupport.Auth.AccountLocks
import OmniSupport.Auth.InvitationCalls
import OmniSupport.Auth.InvitationSingleUse
import OmniSupport.Identity.StaffCalls
import OmniSupport.Identity.StaffSeats
import OmniSupport.Customer.CustomerService
import OmniSupport.Customer.WorkWrites
import OmniSupport.Customer.RemovedAgents
import OmniSupport.Foundation.Refusal
import OmniSupport.Foundation.Straight
import OmniSupport.Operations.OperationsStore
import OmniSupport.Operations.PlatformOperations
import OmniSupport.Operations.ActiveReplays
import OmniSupport.Operations.CleanRefusals
import OmniSupport.Operations.InterventionRecords
import OmniSupport.Foundation.History
import OmniSupport.Report.ReportJobs
import OmniSupport.Report.JobLifecycle
import OmniSupport.Report.ReportFiles
import OmniSupport.Report.ExpiryBlocks
import OmniSupport.Report.ExportBatches
import OmniSupport.Foundation.Csv
import OmniSupport.Report.CsvExport
import OmniSupport.Foundation.JsonTree
import OmniSupport.Operations.Redaction
import OmniSupport.Channels.ChannelIntegration
import OmniSupport.Channels.TestedChannels
import OmniSupport.Channels.WhatsAppNumbers
import OmniSupport.Scheduling.CronRegistry
import OmniSupport.Scheduling.SchedulerService
import OmniSupport.Scheduling.Occurrences
import OmniSupport.Scheduling.MinuteCoverage
import OmniSupport.Foundation.Traces
import OmniSupport.Scheduling.TicketEscalation
import OmniSupport.Foundation.Commits
import OmniSupport.Identity.TenantUpdates
import OmniSupport.Identity.SuspensionData
import OmniSupport.Foundation.Jsonb
import OmniSupport.Identity.FeatureFlags
import OmniSupport.Customer.BlockedCustomers
import OmniSupport.Foundation.ReadThrough
import OmniSupport.Ticket.TicketCalls
import OmniSupport.Ticket.StoredTicket
import OmniSupport.Ticket.ListFilters
import OmniSupport.Foundation.PagePartition
import OmniSupport.Ticket.ListPages
import OmniSupport.Search.SearchPages
import OmniSupport.Analytics.DashboardMetrics
import OmniSupport.Analytics.DashboardCache
import OmniSupport.Foundation.Groups
import OmniSupport.Foundation.Percent
import OmniSupport.Foundation.PosixPath
import OmniSupport.Foundation.Counted
import OmniSupport.Foundation.ChangeTrail
import OmniSupport.Identity.TenantSlug
import OmniSupport.Auth.TokenLifetimes
import OmniSupport.Ticket.TicketAggregate
import OmniSupport.Ticket.AggregateLifecycle
import OmniSupport.Ticket.AuditTrail
import OmniSupport.Realtime.WebSocketGateway
import OmniSupport.Foundation.SetMaps
import OmniSupport.Realtime.RoomManager
import OmniSupport.Realtime.ClosedSockets
import OmniSupport.Foundation.Twins
import OmniSupport.Foundation.Slices
import OmniSupport.Customer.CustomerReads
import OmniSupport.Tenancy.CallScope
import OmniSupport.Tenancy.TenantCalls
import OmniSupport.Tenancy.TenantSlices
import OmniSupport.Tenancy.TenantIsolation
import OmniSupport.Foundation.Views
import OmniSupport.Tenancy.NoteScope
import OmniSupport.Ticket.InternalNotes
import OmniSupport.Ticket.NoteRuns
import OmniSupport.Foundation.Interference
import OmniSupport.Identity.FeatureFlagService
import OmniSupport.Ai.AIService
import OmniSupport.Ai.JobStatements
import OmniSupport.Ai.JobEffects
import OmniSupport.Ai.NotePrompts
import OmniSupport.Realtime.RefusedRooms
import OmniSupport.Realtime.RealtimePublisher
import OmniSupport.Foundation.Html
import OmniSupport.Notification.EmailTemplates
import OmniSupport.Foundation.Sightings
import OmniSupport.Foundation.RelyGuarantee
import OmniSupport.Http.RequestGate
import OmniSupport.Attachment.AttachmentRequests
import OmniSupport.Http.ServedRequests
import OmniSupport.Attachment.StoredFiles
import OmniSupport.Auth.SignInCalls
import OmniSupport.Auth.SessionOrigins
