import VoVe.FrameStream
import VoVe.PreviewReceiver
import VoVe.TransactionRoundTrip
import VoVe.TrashReserve
import VoVe.TrashPurgeOrder
import VoVe.BatchRenameCollision
import VoVe.BatchRunValidity
import VoVe.BatchRunSafety
import VoVe.DeleteRunSafety
import VoVe.BasicDirectoryRoundTrip
import VoVe.FileTransferClientSafety
import VoVe.TransferRunConflicts
import VoVe.TransferContentSafety
import VoVe.DirectoryTransferLedger
import VoVe.DirectoryManifestForest
import VoVe.BasicDirectoryTree
import VoVe.BasicDirectoryProtocolExact
import VoVe.FileOperationProtocolExact
import VoVe.CachePruneTruth
import VoVe.PreviewServiceSafety
import VoVe.GifAnimationSafety
import VoVe.ThumbnailSchedulerFairness
import VoVe.WorkerProtocolExact
import VoVe.ThumbnailPipelineSafety
import VoVe.ProcessReaper
import VoVe.FolderMosaicTiming
import VoVe.MatchedRemovalSafety
import VoVe.CatalogSessionSafety
import VoVe.HelperProtocol
import VoVe.DirectoryServiceSafety
import VoVe.MemoryCacheOrder
import VoVe.CatalogAppend
import VoVe.NaturalOrder
import VoVe.TransferCopyValid
import VoVe.ArtifactDamage
import VoVe.HashImplementations
import VoVe.TrashRows
import VoVe.GhostscriptPpm
import VoVe.SearchRoots
import VoVe.WebpPlacement
import VoVe.RecursiveListing
import VoVe.IndesignBase64
import VoVe.StepIdentifiers
import VoVe.Utf8Exact
import VoVe.NameTemplate
import VoVe.RevisionIdentity
import VoVe.PsdRows
import VoVe.SearchClient
