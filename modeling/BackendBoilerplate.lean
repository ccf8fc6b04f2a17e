import BackendBoilerplate.Config.EncryptionKey
import BackendBoilerplate.Config.EnvNumbers
import BackendBoilerplate.Config.EnvValidation
import BackendBoilerplate.Core.Filters.HttpException
import BackendBoilerplate.Core.Interceptors.Audit
import BackendBoilerplate.Core.Interceptors.AuditSecrets
import BackendBoilerplate.Core.Interceptors.AuditTarget
import BackendBoilerplate.Core.Interceptors.AuditTrail
import BackendBoilerplate.Core.Interceptors.Logging
import BackendBoilerplate.Core.Interceptors.Metrics
import BackendBoilerplate.Core.Interceptors.Transform
import BackendBoilerplate.Core.Middlewares.AtMostOnce
import BackendBoilerplate.Core.Middlewares.Fidelity
import BackendBoilerplate.Core.Middlewares.Idempotency
import BackendBoilerplate.Core.Middlewares.IdempotencyPhases
import BackendBoilerplate.Core.Middlewares.Refinement
import BackendBoilerplate.Core.Middlewares.Replay
import BackendBoilerplate.Core.ValidationPipe
import BackendBoilerplate.Domains.Account
import BackendBoilerplate.Domains.Auth.Controller
import BackendBoilerplate.Domains.Auth.Expiry
import BackendBoilerplate.Domains.Auth.FailureTrace
import BackendBoilerplate.Domains.Auth.Freshness
import BackendBoilerplate.Domains.Auth.LoginDisclosure
import BackendBoilerplate.Domains.Auth.LoginEvents
import BackendBoilerplate.Domains.Auth.Logout
import BackendBoilerplate.Domains.Auth.Ownership
import BackendBoilerplate.Domains.Auth.Phases
import BackendBoilerplate.Domains.Auth.RefreshLifetime
import BackendBoilerplate.Domains.Auth.Revocation
import BackendBoilerplate.Domains.Auth.Rotation
import BackendBoilerplate.Domains.Auth.Service
import BackendBoilerplate.Domains.Auth.Strategy
import BackendBoilerplate.Domains.Auth.TokenKinds
import BackendBoilerplate.Domains.Auth.Tokens
import BackendBoilerplate.Domains.Disclosure
import BackendBoilerplate.Domains.FeatureFlag.Coherence
import BackendBoilerplate.Domains.FeatureFlag.Controller
import BackendBoilerplate.Domains.FeatureFlag.Failures
import BackendBoilerplate.Domains.FeatureFlag.Guard
import BackendBoilerplate.Domains.FeatureFlag.Independence
import BackendBoilerplate.Domains.FeatureFlag.KillSwitch
import BackendBoilerplate.Domains.FeatureFlag.Phases
import BackendBoilerplate.Domains.FeatureFlag.Service
import BackendBoilerplate.Domains.FeatureFlag.Staleness
import BackendBoilerplate.Domains.FeatureFlag.Toggles
import BackendBoilerplate.Domains.Pagination
import BackendBoilerplate.Domains.User.Atomicity
import BackendBoilerplate.Domains.User.Confidentiality
import BackendBoilerplate.Domains.User.Contract
import BackendBoilerplate.Domains.User.Controller
import BackendBoilerplate.Domains.User.Dto
import BackendBoilerplate.Domains.User.Events
import BackendBoilerplate.Domains.User.Linearization
import BackendBoilerplate.Domains.User.Phone
import BackendBoilerplate.Domains.User.Privilege
import BackendBoilerplate.Domains.User.Record
import BackendBoilerplate.Domains.User.Service
import BackendBoilerplate.Domains.User.Update
import BackendBoilerplate.Infra.AuditListing
import BackendBoilerplate.Infra.AuditRetention
import BackendBoilerplate.Infra.AuditService
import BackendBoilerplate.Infra.Cache
import BackendBoilerplate.Infra.Cleanup
import BackendBoilerplate.Infra.CleanupRaces
import BackendBoilerplate.Infra.DistributedCron
import BackendBoilerplate.Infra.EmailProcessor
import BackendBoilerplate.Infra.EventHandlers
import BackendBoilerplate.Infra.FileStore
import BackendBoilerplate.Infra.Gateway
import BackendBoilerplate.Infra.GatewayRuns
import BackendBoilerplate.Infra.GracefulExit
import BackendBoilerplate.Infra.LockExclusion
import BackendBoilerplate.Infra.LockOwnership
import BackendBoilerplate.Infra.LockRelease
import BackendBoilerplate.Infra.LoginNotices
import BackendBoilerplate.Infra.Mailings
import BackendBoilerplate.Infra.MultiUpload
import BackendBoilerplate.Infra.Pipeline
import BackendBoilerplate.Infra.Presence
import BackendBoilerplate.Infra.Queue
import BackendBoilerplate.Infra.Rooms
import BackendBoilerplate.Infra.SendToUser
import BackendBoilerplate.Infra.SenderNames
import BackendBoilerplate.Infra.Shutdown
import BackendBoilerplate.Infra.ShutdownOnce
import BackendBoilerplate.Infra.SocketShutdown
import BackendBoilerplate.Infra.SocketTraffic
import BackendBoilerplate.Infra.Streaming
import BackendBoilerplate.Infra.Upload
import BackendBoilerplate.Infra.Websocket
import BackendBoilerplate.Lib.Ensures
import BackendBoilerplate.Lib.History
import BackendBoilerplate.Lib.Isolation
import BackendBoilerplate.Lib.JsDouble
import BackendBoilerplate.Lib.JsNumber
import BackendBoilerplate.Lib.JsString
import BackendBoilerplate.Lib.JsValue
import BackendBoilerplate.Lib.JsonTree
import BackendBoilerplate.Lib.Linearizable
import BackendBoilerplate.Lib.Lockstep
import BackendBoilerplate.Lib.Ms
import BackendBoilerplate.Lib.NumberTexts
import BackendBoilerplate.Lib.Observable
import BackendBoilerplate.Lib.Pagination
import BackendBoilerplate.Lib.Pool
import BackendBoilerplate.Lib.PosixPath
import BackendBoilerplate.Lib.Prog
import BackendBoilerplate.Lib.Projection
import BackendBoilerplate.Lib.PromiseAll
import BackendBoilerplate.Lib.Pruned
import BackendBoilerplate.Lib.Runs
import BackendBoilerplate.Lib.Simulation
import BackendBoilerplate.Lib.Sql
import BackendBoilerplate.Lib.Table
import BackendBoilerplate.Lib.Utf16
import BackendBoilerplate.Lib.Zone
import BackendBoilerplate.Prisma.Accounts
import BackendBoilerplate.Prisma.Database
import BackendBoilerplate.Prisma.Migrations
import BackendBoilerplate.Prisma.Seed
import BackendBoilerplate.Shared.ConstantTime
import BackendBoilerplate.Shared.Crypto
import BackendBoilerplate.Shared.Errors
import BackendBoilerplate.Shared.MaskUtil
import BackendBoilerplate.Shared.Sealing
