import Xnestjs.Analysis.ForcedRelease
import Xnestjs.Analysis.GrantSafety
import Xnestjs.Analysis.NestedBrackets
import Xnestjs.Analysis.RejectedAcquire
import Xnestjs.Analysis.HeaderSpellings
import Xnestjs.Analysis.HeaderCase
import Xnestjs.Analysis.CountConservation
import Xnestjs.Analysis.SectionExclusion
import Xnestjs.Analysis.CopiedObjects
import Xnestjs.Analysis.StartedModules
import Xnestjs.Analysis.SharedHandles
import Xnestjs.Analysis.LockRegistry
import Xnestjs.Analysis.LockKinds
import Xnestjs.Analysis.MongodbSettings
import Xnestjs.Analysis.KafkaShutdown
import Xnestjs.Analysis.KafkaAfterShutdown
import Xnestjs.Analysis.KafkaSettings
import Xnestjs.Analysis.ObjectHeaders
import Xnestjs.Analysis.RabbitmqSettings
import Xnestjs.Analysis.RedisSettings
import Xnestjs.Analysis.RedisUrl
import Xnestjs.Analysis.ClientSettings
import Xnestjs.Analysis.ClientVisibility
import Xnestjs.Analysis.FactoryInjection
import Xnestjs.Analysis.LogEntries
import Xnestjs.Analysis.MetadataFrame
import Xnestjs.Analysis.MongodbCredentials
import Xnestjs.Analysis.ElasticsearchNodes
import Xnestjs.Analysis.ElasticsearchAuth
import Xnestjs.Analysis.OptionsFactory
import Xnestjs.Analysis.PasswordMessages
import Xnestjs.Analysis.HealthChecks
import Xnestjs.Analysis.HostLists
import Xnestjs.Analysis.ReloadedSettings
import Xnestjs.Analysis.OwnInstances
import Xnestjs.Analysis.OwnVariables
import Xnestjs.Analysis.BootstrapReports
import Xnestjs.Analysis.BucketObjects
import Xnestjs.Analysis.CallbackCompletion
import Xnestjs.Analysis.CallbackSafety
import Xnestjs.Analysis.ObtainedHandles
