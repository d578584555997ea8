import SvmCourse.Core.Prog
import SvmCourse.Core.Table
import SvmCourse.Core.Knockout
import SvmCourse.Core.Machine
import SvmCourse.Core.Sched
import SvmCourse.Core.Serial
import SvmCourse.Core.Protocol
import SvmCourse.Core.Histories
import SvmCourse.Core.Base64
import SvmCourse.Core.Beside
import SvmCourse.Core.Precedence
import SvmCourse.Core.Number
import SvmCourse.Core.ConstantProduct
import SvmCourse.Core.Contributions
import SvmCourse.Core.Since
import SvmCourse.Core.Throttle
import SvmCourse.Core.Json
import SvmCourse.Core.JsonValue
import SvmCourse.Core.JsonScan
import SvmCourse.Core.BigInt
import SvmCourse.Core.Pick
import SvmCourse.Core.Double
import SvmCourse.Core.Rounding
import SvmCourse.Core.Ranking
import SvmCourse.Core.Streak
import SvmCourse.Core.Text
import SvmCourse.Core.Glob
import SvmCourse.Core.Expiring
import SvmCourse.Esports.Token
import SvmCourse.Esports.Entities
import SvmCourse.Esports.Store
import SvmCourse.Esports.Wallet
import SvmCourse.Esports.Escrow
import SvmCourse.Esports.Prize
import SvmCourse.Esports.Matchmaking
import SvmCourse.Esports.Bracket
import SvmCourse.Esports.Tournament
import SvmCourse.Esports.System
import SvmCourse.Esports.Solvency
import SvmCourse.Esports.Entering
import SvmCourse.Esports.Atomicity
import SvmCourse.Esports.Attachment
import SvmCourse.Esports.Ledger
import SvmCourse.Esports.Calm
import SvmCourse.Esports.Conservation
import SvmCourse.Esports.Crowding
import SvmCourse.Esports.Cancellation
import SvmCourse.Esports.Readiness
import SvmCourse.Esports.Starting
import SvmCourse.Esports.Sheet
import SvmCourse.Esports.Reports
import SvmCourse.Esports.Shares
import SvmCourse.Esports.Completion
import SvmCourse.Esports.Rounds
import SvmCourse.Esports.Batches
import SvmCourse.Esports.Champion
import SvmCourse.Esports.Books
import SvmCourse.Esports.Refunds
import SvmCourse.Esports.Interruptions
import SvmCourse.Esports.Isolation
import SvmCourse.Esports.Accounts
import SvmCourse.Esports.Spending
import SvmCourse.Esports.Races
import SvmCourse.Esports.Credits
import SvmCourse.Esports.Limits
import SvmCourse.Esports.Lifecycle
import SvmCourse.Esports.Submitting
import SvmCourse.Esports.Agreement
import SvmCourse.Esports.Recipients
import SvmCourse.Esports.Settling
import SvmCourse.Esports.Leftovers
import SvmCourse.Esports.Rankings
import SvmCourse.Esports.Placing
import SvmCourse.Esports.Placements
import SvmCourse.Esports.Plays
import SvmCourse.Esports.Seeding
import SvmCourse.Esports.Formats
import SvmCourse.Esports.Finishers
import SvmCourse.Esports.Amounts
import SvmCourse.Esports.PrizeInfo
import SvmCourse.Esports.Payability
import SvmCourse.Esports.EndPrizes
import SvmCourse.Esports.Guarantee
import SvmCourse.Esports.Deposits
import SvmCourse.Signing.MultiSig
import SvmCourse.Signing.Safety
import SvmCourse.Signing.Collecting
import SvmCourse.Signing.Offline
import SvmCourse.Signing.Requests
import SvmCourse.Mpc.Wallets
import SvmCourse.Mpc.Threshold
import SvmCourse.Mpc.Revocation
import SvmCourse.Transactions.Publisher
import SvmCourse.Transactions.Delivery
import SvmCourse.Transactions.Ordering
import SvmCourse.Transactions.Consumer
import SvmCourse.Transactions.Retries
import SvmCourse.Transactions.Records
import SvmCourse.Transactions.Sending
import SvmCourse.Transactions.Statuses
import SvmCourse.Transactions.Replay
import SvmCourse.Transactions.Pipeline
import SvmCourse.Tokens.Market
import SvmCourse.Tokens.Lots
import SvmCourse.Tokens.Auction
import SvmCourse.Tokens.Sales
import SvmCourse.SmartAccounts.Accounts
import SvmCourse.SmartAccounts.Limits
import SvmCourse.SmartAccounts.SessionKeys
import SvmCourse.Cpi.Dex
import SvmCourse.Cpi.Swaps
import SvmCourse.Cpi.Liquidity
import SvmCourse.Cpi.Lending
import SvmCourse.Cpi.Reserves
import SvmCourse.Cpi.Pools
import SvmCourse.Cpi.Permissions
import SvmCourse.Cpi.Invocations
import SvmCourse.Cpi.Payloads
import SvmCourse.Cpi.Marketplaces
import SvmCourse.Svm.GasMeters
import SvmCourse.Svm.Runtime
import SvmCourse.Svm.Parallel
import SvmCourse.Svm.Executions
import SvmCourse.Security.Auth
import SvmCourse.Security.ApiKeys
import SvmCourse.Security.Credentials
import SvmCourse.Security.Lockout
import SvmCourse.Security.Sessions
import SvmCourse.Events.Gateway
import SvmCourse.Events.Subscriptions
import SvmCourse.Events.Monitoring
import SvmCourse.Events.Recording
import SvmCourse.Events.Rooms
import SvmCourse.Events.Delivery
import SvmCourse.Events.Filters
import SvmCourse.Caching.QueryCache
import SvmCourse.Caching.Transparency
import SvmCourse.Caching.OwnWrites
import SvmCourse.Caching.Namespaces
import SvmCourse.Caching.Responses
import SvmCourse.Accounts.Pda
import SvmCourse.Fees.Optimization
import SvmCourse.Fees.Estimates
import SvmCourse.Fees.Conditions
import SvmCourse.Network.Endpoints
import SvmCourse.Network.Failover
