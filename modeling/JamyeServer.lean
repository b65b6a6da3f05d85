import JamyeServer.ReadCommitted.Store
import JamyeServer.ReadCommitted.Program
import JamyeServer.ReadCommitted.Engine
import JamyeServer.ReadCommitted.Interference
import JamyeServer.ReadCommitted.Soundness
import JamyeServer.ReadCommitted.Rules
import JamyeServer.ReadCommitted.Statement
import JamyeServer.ReadCommitted.Failure
import JamyeServer.Text
import JamyeServer.ReadCommitted.Effects
import JamyeServer.Postgres.Schema
import JamyeServer.Postgres.Auth
import JamyeServer.Postgres.Moderation
import JamyeServer.Postgres.Push
import JamyeServer.Postgres.AccountDeletion
import JamyeServer.Postgres.AccountPurge
import JamyeServer.Accounts.System
import JamyeServer.Accounts.Errors
import JamyeServer.Accounts.Invariants
import JamyeServer.Accounts.Sessions
import JamyeServer.Accounts.Deletion
import JamyeServer.Postgres.Restores
import JamyeServer.Accounts.SignIn
import JamyeServer.Accounts.Commits
import JamyeServer.Accounts.Families
import JamyeServer.Accounts.Reuse
import JamyeServer.Accounts.Suspension
import JamyeServer.Accounts.GracePeriod
import JamyeServer.Accounts.Principals
import JamyeServer.Purge.Frames
import JamyeServer.Purge.System
import JamyeServer.LeaseTable
import JamyeServer.Outbox.Worker
import JamyeServer.Outbox.Fencing
import JamyeServer.OAuth.Service
import JamyeServer.OAuth.Binding
import JamyeServer.Purge.Transactions
import JamyeServer.Purge.Commits
import JamyeServer.Purge.Safety
import JamyeServer.Postgres.Groups
import JamyeServer.Groups.System
import JamyeServer.Groups.Invariants
import JamyeServer.Groups.Accounts
import JamyeServer.Groups.Mutations
import JamyeServer.Groups.Conflicts
import JamyeServer.Groups.Ownership
import JamyeServer.Groups.Invites
import JamyeServer.Groups.Seats
import JamyeServer.Postgres.Installations
import JamyeServer.Postgres.Avatars
import JamyeServer.Avatars.System
import JamyeServer.Avatars.Statements
import JamyeServer.Avatars.Commits
import JamyeServer.Avatars.Uniqueness
import JamyeServer.Postgres.Media
import JamyeServer.Postgres.Notifications
import JamyeServer.Postgres.Messages
import JamyeServer.Postgres.Topics
import JamyeServer.Conversations.System
import JamyeServer.Conversations.Unread
import JamyeServer.ReadCommitted.Alone
import JamyeServer.Postgres.Authorization
import JamyeServer.Conversations.Deletion
import JamyeServer.Conversations.Replay
import JamyeServer.Attachments.Commits
import JamyeServer.Attachments.Posters
import JamyeServer.Index
import JamyeServer.Realtime.Registry
import JamyeServer.Transition
import JamyeServer.Realtime.Hub
import JamyeServer.Realtime.Delivery
import JamyeServer.Realtime.Session
import JamyeServer.Realtime.Revocation
import JamyeServer.Realtime.Eviction
import JamyeServer.Realtime.Tickets
import JamyeServer.Keyset
import JamyeServer.Postgres.Lists
import JamyeServer.Json
import JamyeServer.Pagination.Answers
import JamyeServer.Pagination.Walks
import JamyeServer.Pagination.Sends
import JamyeServer.Pagination.Cursors
import JamyeServer.Conversations.Payloads
import JamyeServer.Conversations.Delta
import JamyeServer.Contracts.Manifest
import JamyeServer.Contracts.Snapshot
import JamyeServer.Contracts.Verification
import JamyeServer.Segmentation
import JamyeServer.Moderation.Filter
import JamyeServer.Escaping
import JamyeServer.Topics.Announcement
import JamyeServer.PercentEncoding
import JamyeServer.Media.Downloads
import JamyeServer.Cleanup.Worker
import JamyeServer.Cleanup.Leases
import JamyeServer.Outbox.Redaction
import JamyeServer.Json.Traversal
import JamyeServer.Conversations.PayloadScrub
import JamyeServer.Objects.System
import JamyeServer.Objects.Invariants
import JamyeServer.Objects.Intents
import JamyeServer.Objects.Removal
import JamyeServer.Objects.Deletions
import JamyeServer.Objects.Releases
import JamyeServer.Objects.Purges
import JamyeServer.Objects.Sends
import JamyeServer.Objects.Usage
import JamyeServer.ReadCommitted.Locked
import JamyeServer.Installations.System
import JamyeServer.Installations.Statements
import JamyeServer.Installations.Registration
import JamyeServer.Installations.Changes
import JamyeServer.Installations.Deletion
import JamyeServer.Installations.Devices
import JamyeServer.Fips180
import JamyeServer.Contracts.Sha256
import JamyeServer.Framing
import JamyeServer.Contracts.Canonical
import JamyeServer.Contracts.Checksum
import JamyeServer.FixedWindow
import JamyeServer.RateLimit.Limiter
import JamyeServer.RateLimit.Windows
import JamyeServer.Moderation.Reports
import JamyeServer.Legal.Render
import JamyeServer.CursorLog
import JamyeServer.Events.System
import JamyeServer.Events.Writers
import JamyeServer.Events.Topics
import JamyeServer.Events.Readers
import JamyeServer.Events.Agreement
import JamyeServer.Push.Worker
import JamyeServer.Push.Changes
import JamyeServer.Push.Accounting
