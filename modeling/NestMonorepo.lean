import NestMonorepo.Concurrency.Program
import NestMonorepo.Concurrency.Pool
import NestMonorepo.Concurrency.History
import NestMonorepo.Concurrency.Faults
import NestMonorepo.Concurrency.Roles
import NestMonorepo.Concurrency.Control
import NestMonorepo.Concurrency.Fleets
import NestMonorepo.Amqp.TopicExchange
import NestMonorepo.Collections.Keyed
import NestMonorepo.Collections.Quotas
import NestMonorepo.Collections.Backlog
import NestMonorepo.Collections.Routes
import NestMonorepo.Collections.Worklist
import NestMonorepo.Collections.Separators
import NestMonorepo.Collections.Lines
import NestMonorepo.Collections.Base64
import NestMonorepo.Collections.Doubles
import NestMonorepo.Common.Text
import NestMonorepo.Common.Errors
import NestMonorepo.Common.Redaction
import NestMonorepo.Common.Numbers
import NestMonorepo.Common.Env
import NestMonorepo.Database.Entities
import NestMonorepo.Database.DuplicateKey
import NestMonorepo.Database.KeyAttribution
import NestMonorepo.Messaging.EventBus
import NestMonorepo.Messaging.Stages
import NestMonorepo.Messaging.FanOut
import NestMonorepo.Messaging.Accounting
import NestMonorepo.Messaging.DeadLetters
import NestMonorepo.Messaging.Subscriptions
import NestMonorepo.Database.Backend
import NestMonorepo.Database.ObjectIds
import NestMonorepo.Database.UnitOfWork
import NestMonorepo.Database.Outages
import NestMonorepo.Messaging.Outbox
import NestMonorepo.Messaging.Dispatching
import NestMonorepo.Messaging.Sweeps
import NestMonorepo.Messaging.Republishing
import NestMonorepo.Messaging.Draining
import NestMonorepo.Users.Service
import NestMonorepo.Messaging.Dedup
import NestMonorepo.Messaging.Staging
import NestMonorepo.Users.Interleaving
import NestMonorepo.Users.Handlers
import NestMonorepo.Users.Store
import NestMonorepo.Users.Reads
import NestMonorepo.Users.EventRows
import NestMonorepo.Users.Revocation
import NestMonorepo.Users.DeletionEvent
import NestMonorepo.Users.Runs
import NestMonorepo.Users.Records
import NestMonorepo.Users.Purge
import NestMonorepo.Users.PurgeRuns
import NestMonorepo.Users.Upgrading
import NestMonorepo.Users.SoftDelete
import NestMonorepo.Users.Devices
import NestMonorepo.Users.WayBack
import NestMonorepo.Users.Blocking
import NestMonorepo.Users.Issuing
import NestMonorepo.Users.Provenance
import NestMonorepo.Users.ResetTokens
import NestMonorepo.Users.Login
import NestMonorepo.Users.Scrubbing
import NestMonorepo.Users.Detached
import NestMonorepo.Users.Anonymous
import NestMonorepo.Users.Ownership
import NestMonorepo.Users.LinkOwners
import NestMonorepo.Users.Registration
import NestMonorepo.Users.DrawnIds
import NestMonorepo.Users.EmailRace
import NestMonorepo.Users.OAuthSignIn
import NestMonorepo.Users.Profiles
import NestMonorepo.Users.Passwordless
import NestMonorepo.Users.Alike
import NestMonorepo.Users.SideBySide
import NestMonorepo.Users.Replies
import NestMonorepo.Users.Email
import NestMonorepo.Messaging.Delivery
import NestMonorepo.Gateway.Rpc
import NestMonorepo.Common.ErrorPaths
import NestMonorepo.Gateway.Tokens
import NestMonorepo.Gateway.Auth
import NestMonorepo.Gateway.RefreshStatus
import NestMonorepo.Gateway.Sessions
import NestMonorepo.Gateway.SpentTokens
import NestMonorepo.Gateway.SingleUse
import NestMonorepo.Gateway.OAuthVerifiers
import NestMonorepo.Gateway.Providers
import NestMonorepo.Gateway.OAuthLogin
import NestMonorepo.Gateway.AccessTokens
import NestMonorepo.Gateway.Portal
import NestMonorepo.Gateway.AccountTypes
import NestMonorepo.Gateway.VersionReads
import NestMonorepo.Gateway.Throttling
import NestMonorepo.Gateway.ThrottleKeys
import NestMonorepo.Gateway.Routing
import NestMonorepo.Gateway.ProfilePatch
import NestMonorepo.Migrations.FileNames
import NestMonorepo.Migrations.Runner
import NestMonorepo.Migrations.UserEmailUnique
import NestMonorepo.Tooling.ServiceNames
import NestMonorepo.Tooling.Template
import NestMonorepo.Tooling.Scaffold
import NestMonorepo.Tooling.FirstRun
import NestMonorepo.Tooling.Composition
