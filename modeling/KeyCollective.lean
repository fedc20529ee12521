import KeyCollective.Arithmetic
import KeyCollective.Auth.Accounts
import KeyCollective.Auth.DemoCounters
import KeyCollective.Auth.DemoLimits
import KeyCollective.Auth.DemoSandbox
import KeyCollective.Auth.FallbackLimiter
import KeyCollective.Auth.Jwt
import KeyCollective.Auth.Middleware
import KeyCollective.Auth.OAuth
import KeyCollective.Auth.OAuthLogin
import KeyCollective.Auth.Subnets
import KeyCollective.Auth.Sybil
import KeyCollective.Auth.SybilEngines
import KeyCollective.Auth.SybilRuns
import KeyCollective.Auth.TenantQuota
import KeyCollective.Auth.TokenLimit
import KeyCollective.Breaker.CircuitBreaker
import KeyCollective.Breaker.Eviction
import KeyCollective.Breaker.Recovery
import KeyCollective.Breaker.Runs
import KeyCollective.Breaker.StateMachine
import KeyCollective.Constants
import KeyCollective.Coordinator.Brake
import KeyCollective.Coordinator.PoolCoordinator
import KeyCollective.Coordinator.Window
import KeyCollective.Crypto.Aes
import KeyCollective.Crypto.DurableKeys
import KeyCollective.Crypto.Encoding
import KeyCollective.Crypto.HexDecoders
import KeyCollective.Crypto.RandomStrings
import KeyCollective.Crypto.RoundTrip
import KeyCollective.Dashboard.AdminVerifier
import KeyCollective.Dashboard.Authority
import KeyCollective.Dashboard.Handler
import KeyCollective.Dashboard.ProjectRuns
import KeyCollective.Dashboard.Projects
import KeyCollective.Dashboard.Tokens
import KeyCollective.Date
import KeyCollective.Decimal
import KeyCollective.DollarTexts
import KeyCollective.Host
import KeyCollective.Json
import KeyCollective.Lib.Aggregate
import KeyCollective.Lib.Aging
import KeyCollective.Lib.Base64
import KeyCollective.Lib.BulkSet
import KeyCollective.Lib.CachedStore
import KeyCollective.Lib.CalendarOrder
import KeyCollective.Lib.Cheapest
import KeyCollective.Lib.CivilDate
import KeyCollective.Lib.Expression
import KeyCollective.Lib.FirstOccurrences
import KeyCollective.Lib.FormUrlencoded
import KeyCollective.Lib.IndexedMap
import KeyCollective.Lib.Interleaving
import KeyCollective.Lib.Lexicographic
import KeyCollective.Lib.Like
import KeyCollective.Lib.LongestMatch
import KeyCollective.Lib.Loop
import KeyCollective.Lib.MovingAverage
import KeyCollective.Lib.OwnedRecords
import KeyCollective.Lib.Partition
import KeyCollective.Lib.Redaction
import KeyCollective.Lib.Rejection
import KeyCollective.Lib.Rounding
import KeyCollective.Lib.ShortestDecimal
import KeyCollective.Lib.SlidingWindow
import KeyCollective.Lib.Transition
import KeyCollective.Lib.Utf8
import KeyCollective.Lib.Utf8Stream
import KeyCollective.Lib.Wraparound
import KeyCollective.Limiter.Eviction
import KeyCollective.Limiter.FullCount
import KeyCollective.Limiter.RateLimiter
import KeyCollective.Limiter.RetryAfter
import KeyCollective.Limiter.Safety
import KeyCollective.Limiter.Window
import KeyCollective.Money
import KeyCollective.Number
import KeyCollective.Pool.Agreement
import KeyCollective.Pool.Binding
import KeyCollective.Pool.BulkUpdates
import KeyCollective.Pool.Dispatch
import KeyCollective.Pool.EncryptedKey
import KeyCollective.Pool.Eviction
import KeyCollective.Pool.Held
import KeyCollective.Pool.Kept
import KeyCollective.Pool.KeyPool
import KeyCollective.Pool.Overlap
import KeyCollective.Pool.OwnKeys
import KeyCollective.Pool.Rpc
import KeyCollective.Pool.UsageRoute
import KeyCollective.Proxy.AdaptiveTimeout
import KeyCollective.Proxy.Blocks
import KeyCollective.Proxy.ByteStream
import KeyCollective.Proxy.Chunking
import KeyCollective.Proxy.ClientResponse
import KeyCollective.Proxy.Headers
import KeyCollective.Proxy.NormalForm
import KeyCollective.Proxy.StreamUsage
import KeyCollective.Proxy.Transformer
import KeyCollective.Proxy.Upstream
import KeyCollective.Proxy.UsageExtractor
import KeyCollective.Quota.Admission
import KeyCollective.Quota.ConsumeRoute
import KeyCollective.Quota.DailyReset
import KeyCollective.Quota.Debt
import KeyCollective.Quota.Evaluator
import KeyCollective.Quota.Eviction
import KeyCollective.Quota.HardJail
import KeyCollective.Quota.Limits
import KeyCollective.Quota.Marked
import KeyCollective.Quota.RetryAfter
import KeyCollective.Quota.Standing
import KeyCollective.Quota.Storage
import KeyCollective.Quota.TenantQuota
import KeyCollective.Router.AliasMap
import KeyCollective.Router.Attempts
import KeyCollective.Router.CandidateOrder
import KeyCollective.Router.Candidates
import KeyCollective.Router.Capability
import KeyCollective.Router.Cascade
import KeyCollective.Router.Communal
import KeyCollective.Router.Costs
import KeyCollective.Router.DetailCosts
import KeyCollective.Router.Escalation
import KeyCollective.Router.Extraction
import KeyCollective.Router.Outcomes
import KeyCollective.Router.PreCheck
import KeyCollective.Router.Pricing
import KeyCollective.Router.Registry
import KeyCollective.Router.Requirements
import KeyCollective.Router.TokenLimits
import KeyCollective.SearchParams
import KeyCollective.Selector.Exhaustion
import KeyCollective.Selector.KeySelector
import KeyCollective.Selector.LeastUsed
import KeyCollective.Selector.Limits
import KeyCollective.Selector.Partition
import KeyCollective.Selector.Priority
import KeyCollective.Selector.RoundRobin
import KeyCollective.Selector.Strategies
import KeyCollective.Selector.Sync
import KeyCollective.Selector.Triage
import KeyCollective.Storage.Concurrent
import KeyCollective.Storage.CostLedger
import KeyCollective.Storage.HotState
import KeyCollective.Storage.KeyRepository
import KeyCollective.Storage.KeyUpdates
import KeyCollective.Storage.LedgerRange
import KeyCollective.Storage.ModelRepository
import KeyCollective.Storage.Reconciliation
import KeyCollective.Storage.Rollup
import KeyCollective.Storage.StoredKeys
import KeyCollective.Storage.Timestamps
import KeyCollective.Storage.TokenSpends
import KeyCollective.Storage.TokenTable
import KeyCollective.Storage.TokenVault
import KeyCollective.Storage.WholeKeys
import KeyCollective.TextDecoder
import KeyCollective.Url
import KeyCollective.Worker.Accounting
import KeyCollective.Worker.Billing
import KeyCollective.Worker.Chat
import KeyCollective.Worker.ChatBody
import KeyCollective.Worker.CostTotals
import KeyCollective.Worker.Credentials
import KeyCollective.Worker.ErrorNormalizer
import KeyCollective.Worker.Gateway
import KeyCollective.Worker.Isolation
import KeyCollective.Worker.KeyResolver
import KeyCollective.Worker.KeyRoutes
import KeyCollective.Worker.Ledger
import KeyCollective.Worker.PoolClient
import KeyCollective.Worker.PoolStanding
import KeyCollective.Worker.Resolution
import KeyCollective.Worker.Revocation
import KeyCollective.Worker.Rotation
import KeyCollective.Worker.SoundRouting
import KeyCollective.Worker.Spend
import KeyCollective.Worker.Tiers
import KeyCollective.Worker.TokenHolders
import KeyCollective.Worker.World
