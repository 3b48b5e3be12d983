import OlympusMetrics.Library.BigNumber
import OlympusMetrics.Library.Calendar
import OlympusMetrics.Library.EntityTable
import OlympusMetrics.Library.SlashPath
import OlympusMetrics.Indexer.Types
import OlympusMetrics.Indexer.Records
import OlympusMetrics.Indexer.Global
import OlympusMetrics.Indexer.GlobalSnapshot
import OlympusMetrics.Indexer.RollupRun
import OlympusMetrics.Indexer.DailyRollup
import OlympusMetrics.Chains.Index
import OlympusMetrics.Indexer.SupplyCategories
import OlympusMetrics.Indexer.BalancerPools
import OlympusMetrics.Indexer.Erc20Transfers
import OlympusMetrics.Indexer.BackfillTokenBalances
import OlympusMetrics.Library.Erc20
import OlympusMetrics.Indexer.LedgerRun
import OlympusMetrics.Indexer.BackfillCoverage
import OlympusMetrics.Indexer.LpShare
import OlympusMetrics.Indexer.PriceHandlers
import OlympusMetrics.Indexer.Pricing
import OlympusMetrics.Indexer.PricingOrder
import OlympusMetrics.Library.Process
import OlympusMetrics.Publisher.DateRanges
import OlympusMetrics.Publisher.ArtifactStore
import OlympusMetrics.Publisher.Publish
import OlympusMetrics.Publisher.PublisherRuns
import OlympusMetrics.Publisher.NoDangling
import OlympusMetrics.Library.Marks
import OlympusMetrics.Publisher.FaultyStore
import OlympusMetrics.Publisher.LockExclusion
import OlympusMetrics.Library.DigitTexts
import OlympusMetrics.Publisher.DateArithmetic
import OlympusMetrics.Api.DailyMetric
import OlympusMetrics.Api.Server
import OlympusMetrics.Api.Client
import OlympusMetrics.Api.Reading
import OlympusMetrics.Api.Pagination
import OlympusMetrics.Library.CrashRuns
import OlympusMetrics.Publisher.RunEffects
import OlympusMetrics.Publisher.ShardKeys
import OlympusMetrics.Publisher.Completeness
import OlympusMetrics.Publisher.Entries
import OlympusMetrics.Api.RoundTrip
import OlympusMetrics.Library.FixedAnswers
import OlympusMetrics.Publisher.ManifestWrites
import OlympusMetrics.Api.RequestReads
import OlympusMetrics.Api.Isolation
import OlympusMetrics.Indexer.QuoteSelection
import OlympusMetrics.Publisher.LockRelease
import OlympusMetrics.Indexer.PoolShares
import OlympusMetrics.Library.SharedLookup
import OlympusMetrics.Library.SharedSettling
import OlympusMetrics.Indexer.PricingScopes
import OlympusMetrics.Library.SharedFaithful
import OlympusMetrics.Api.Legacy
import OlympusMetrics.Api.RangeReads
import OlympusMetrics.Api.SameRecords
import OlympusMetrics.Api.StoreFailures
import OlympusMetrics.Api.LegacyClient
import OlympusMetrics.Api.Handler
import OlympusMetrics.Api.OneResponse
import OlympusMetrics.Api.PublishedDays
import OlympusMetrics.Api.LosslessRuns
import OlympusMetrics.Library.HalfUp
import OlympusMetrics.Indexer.ConcentratedPrices
import OlympusMetrics.Indexer.BondSupply
import OlympusMetrics.Indexer.LenderAmos
import OlympusMetrics.Library.OffsetPages
import OlympusMetrics.Publisher.MetricsSource
import OlympusMetrics.Indexer.ContractCache
import OlympusMetrics.Library.CachedAnswers
import OlympusMetrics.Library.NumberOrder
import OlympusMetrics.Indexer.OwnedLiquidity
import OlympusMetrics.Indexer.PoolValues
import OlympusMetrics.Indexer.PoolSplits
import OlympusMetrics.Indexer.Aggregation
import OlympusMetrics.Api.LegacyRanges
import OlympusMetrics.Indexer.OhmSupplyRows
import OlympusMetrics.Indexer.OrderIndependence
import OlympusMetrics.Publisher.DailyMetrics
import OlympusMetrics.Library.BatchedRows
import OlympusMetrics.Indexer.SnapshotStore
import OlympusMetrics.Publisher.HasuraSource
import OlympusMetrics.Api.Pipeline
import OlympusMetrics.Library.EventLog
import OlympusMetrics.Indexer.UpdateLog
import OlympusMetrics.Indexer.WrittenUpdates
import OlympusMetrics.Library.Layers
import OlympusMetrics.Library.Degraded
import OlympusMetrics.Indexer.RpcClient
import OlympusMetrics.Indexer.Effects
import OlympusMetrics.Indexer.BlvSupply
import OlympusMetrics.Library.Grouping
import OlympusMetrics.Indexer.Univ3NftPol
import OlympusMetrics.Library.ClampedSums
import OlympusMetrics.Indexer.Staking
import OlympusMetrics.Indexer.ArbitrumStaking
import OlympusMetrics.Library.KeyedLookup
import OlympusMetrics.Library.KeyedSharing
import OlympusMetrics.Library.LockStep
import OlympusMetrics.Api.EncodedReads
import OlympusMetrics.Api.TypedHandler
import OlympusMetrics.Indexer.EffectCache
import OlympusMetrics.Publisher.PageCursors
import OlympusMetrics.Publisher.ConcurrentReads
import OlympusMetrics.Indexer.TokenBalances
import OlympusMetrics.Indexer.LiquiditySupply
import OlympusMetrics.Indexer.SnapshotReads
import OlympusMetrics.Indexer.LedgerCoverage
import OlympusMetrics.Library.LookupValues
import OlympusMetrics.Indexer.TreasuryEntries
import OlympusMetrics.Indexer.TreasuryCoverage
