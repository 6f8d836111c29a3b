import Botman.Library.Transition
import Botman.Library.KeyedTable
import Botman.Library.PythonValue
import Botman.DataModel
import Botman.TenantContext
import Botman.HistoryApi
import Botman.ProviderApi
import Botman.ProviderVersions
import Botman.ProviderConcurrency
import Botman.KnowledgeTask
import Botman.KnowledgeIngestion
import Botman.KnowledgeDeletion
import Botman.Library.PythonUrl
import Botman.Prompts
import Botman.ChatbotSettings
import Botman.WidgetApi
import Botman.PublishedBehaviour
import Botman.ChatService
import Botman.ChatStatistics
import Botman.ChatEffects
import Botman.ChatConcurrency
import Botman.ChatIsolation
import Botman.ChatPreview
import Botman.PreviewAnalytics
import Botman.ChatApi
import Botman.PublicGate
import Botman.Library.JsonText
import Botman.Library.CutText
import Botman.WidgetStream
import Botman.AnalyticsTask
import Botman.TenantPrograms
import Botman.ChatbotLimits
import Botman.ChatbotQuota
import Botman.Library.ReadModifyWrite
import Botman.ChatbotConcurrency
import Botman.KnowledgeApi
import Botman.ChunkOwnership
import Botman.AnalyticsApi
import Botman.AnalyticsGraph
import Botman.Library.GroupedSums
import Botman.AnalyticsConservation
import Botman.TelegramApi
import Botman.SessionAccounting
import Botman.StreamAccounting
import Botman.Library.BlockText
import Botman.BufferedWidget
import Botman.Library.Retry
import Botman.ChatPrompt
import Botman.LlmCalls
import Botman.AnswerRecords
import Botman.Library.RankFusion
import Botman.KnowledgeSearch
import Botman.ProviderAudit
import Botman.Library.PythonUuid
import Botman.BotIdentifier
import Botman.WidgetSession
import Botman.TelegramConnect
import Botman.PreviewFidelity
import Botman.Library.CacheAside
import Botman.AnalyticsCache
import Botman.GoogleSignIn
import Botman.Library.Means
import Botman.AnalyticsOverview
import Botman.GeminiFallback
import Botman.TokenLedger
import Botman.ProviderStreams
import Botman.HybridSearch
import Botman.Library.SortedCut
import Botman.VectorSearch
import Botman.RagDebugger
import Botman.ProviderRollback
import Botman.ProviderCredentials
import Botman.OriginCheck
import Botman.Library.SplitText
import Botman.TelegramWebhook
import Botman.Translation
import Botman.TranslatedChat
import Botman.ChatbotConstraints
import Botman.Library.WhileLoop
import Botman.Library.SlidingWindow
import Botman.TextChunks
import Botman.ConversationMemory
import Botman.VisitorIsolation
import Botman.Library.Base64
import Botman.CipherKeys
import Botman.RateLimits
import Botman.StudioClient
import Botman.WidgetDelivery
import Botman.KnowledgeConcurrency
import Botman.KnowledgeWorkers
import Botman.KnowledgeJobs
import Botman.KnowledgeProvenance
import Botman.KnowledgeSettlement
