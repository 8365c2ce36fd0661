import SnowAgent.AuditRange
import SnowAgent.StoryReceipts
import SnowAgent.FieldAgreement
import SnowAgent.StoryOverlay
import SnowAgent.JobRuns
import SnowAgent.RecordCache
import SnowAgent.CatalogOrders
import SnowAgent.ChangeRuns
import SnowAgent.TimecardReceipts
import SnowAgent.PageCover
import SnowAgent.UserAnswers
import SnowAgent.KnowledgeLock
import SnowAgent.ReplayWindow
import SnowAgent.DiscoveryRuns
import SnowAgent.DocumentRuns
import SnowAgent.CacheReplacement
import SnowAgent.RecordPrune
import SnowAgent.ArticleBodies
import SnowAgent.VaultRebuild
import SnowAgent.RateLimiter
import SnowAgent.HostNames
import SnowAgent.StateResolution
import SnowAgent.IncidentUpdate
import SnowAgent.SyncWindows
import SnowAgent.ServerMemberships
import SnowAgent.TextLines
import SnowAgent.YamlBlocks
import SnowAgent.VaultMarkdown
import SnowAgent.ArticleMarkdown
import SnowAgent.FrontMatter
import SnowAgent.DocumentBody
import SnowAgent.BulkRuns
import SnowAgent.CatalogRuns
import SnowAgent.CachePolicy
import SnowAgent.KnowledgeTags
import SnowAgent.FieldDictionary
import SnowAgent.KnowledgeSearch
import SnowAgent.SemanticIndex
import SnowAgent.HybridSearch
import SnowAgent.FieldFilters
import SnowAgent.JournalBlobs
import SnowAgent.VaultPaths
import SnowAgent.TraversalBudgets
import SnowAgent.Chrono
import SnowAgent.TimeSheets
import SnowAgent.Timestamps
import SnowAgent.LikePatterns
import SnowAgent.NarrowedProducts
import SnowAgent.CachedSearch
import SnowAgent.IncidentQueue
import SnowAgent.IncidentTimes
import SnowAgent.OffsetPages
import SnowAgent.QueuePages
import SnowAgent.FirstSorted
import SnowAgent.RecordLists
import SnowAgent.VaultRepair
import SnowAgent.ChildLists
import SnowAgent.OrderAnswers
import SnowAgent.Decimals
import SnowAgent.TimecardHours
import SnowAgent.Replacing
import SnowAgent.Redaction
import SnowAgent.UserResolvers
import SnowAgent.MembershipViews
import SnowAgent.Representatives
import SnowAgent.SearchMatches
import SnowAgent.NumberLookup
import SnowAgent.PagedReads
import SnowAgent.PendingApprovals
import SnowAgent.Transactions
import SnowAgent.RecordStore
import SnowAgent.FullTextIndex
import SnowAgent.VaultProvenance
import SnowAgent.ServerQueries
import SnowAgent.SearchTerms
import SnowAgent.Enrichment
import SnowAgent.EnrichedSearch
import SnowAgent.StoredInstants
import SnowAgent.RefreshIntervals
import SnowAgent.FieldAliases
import SnowAgent.Lifecycles
import SnowAgent.KillSwitches
