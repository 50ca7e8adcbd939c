import Dbal.Adapters.CompensatingRollback
import Dbal.Adapters.ElasticsearchBulk
import Dbal.Adapters.KeyCorrection
import Dbal.Adapters.MongoDBQueryBuilder
import Dbal.Adapters.MySQLAnswers
import Dbal.Adapters.PagePartition
import Dbal.Adapters.RedisRefinement
import Dbal.Adapters.SQLiteParams
import Dbal.Adapters.SchemaFile
import Dbal.Adapters.SqlTransactions
import Dbal.Adapters.SupabaseReading
import Dbal.Adapters.SurrealDBLiterals
import Dbal.Blob.BlobMap
import Dbal.Blob.BlobRoutes
import Dbal.Blob.PresignedUrl
import Dbal.Bql.Lossless
import Dbal.Bql.Script
import Dbal.Cache.CachingAdapter
import Dbal.Cas.OneTimeCredentials
import Dbal.Daemon.AclSoundness
import Dbal.Daemon.GateSpelling
import Dbal.Daemon.OffsetWindow
import Dbal.Daemon.PagingArithmetic
import Dbal.Daemon.QueryProcedures
import Dbal.Daemon.RateLimiter
import Dbal.Daemon.RequestSmuggling
import Dbal.Daemon.RouteGuard
import Dbal.Daemon.SeedRestarts
import Dbal.Entities.ComponentListing
import Dbal.Entities.ComponentPages
import Dbal.Entities.ErrorAtomicity
import Dbal.Entities.PackageBatch
import Dbal.JsonConvert
import Dbal.Oidc.LoginOnce
import Dbal.Saml.Base64Standard
import Dbal.Saml.Exchanges
import Dbal.Saml.Verifier
import Dbal.Search.ClientStack
import Dbal.Security.JwtSoundness
import Dbal.Store.StoreTransaction
import Dbal.Workflow.CountAndList
import Dbal.Workflow.Effects
import Dbal.Workflow.RightWorkflow
import Dbal.Workflow.Templates
import Dbal.Workflow.TenantConfinement
import Dbal.Daemon.RpcUsers
