import VoVe.CatalogOrder

set_option autoImplicit false

namespace VoVe.CatalogTypes
open ByteCodec CatalogOrder

abbrev RequestGeneration := UInt64

def kCatalogBatchSize : ℕ := 64
def kCatalogQueueCapacity : ℕ := 8
def kCatalogMaxConcurrentEnumerations : ℕ := 4
def kRecursiveCatalogMaximumEntries : UInt64 := 50000
def kRecursiveCatalogMaximumDirectories : UInt32 := 20000
def kRecursiveCatalogMaximumDepth : UInt32 := 64
def kRecursiveCatalogTotalTimeoutMs : Int64 := 60000
def kRecursiveCatalogMaximumMetadataBytes : ℕ := 64*1024*1024
def kRecursiveCatalogMaximumFrameBytes : ℕ := 8*1024*1024
def kRecursiveCatalogMaximumPathBytes : ℕ := 32*1024

structure CatalogRequest where
 generation : RequestGeneration := 0
 path : Bytes := []
 maximumEntries : UInt64 := 100000
 exactEntryPath : Bytes := []
 recursive : Bool := false
 maximumDirectories : UInt32 := kRecursiveCatalogMaximumDirectories
 maximumDepth : UInt32 := kRecursiveCatalogMaximumDepth
 totalTimeoutMs : Int64 := kRecursiveCatalogTotalTimeoutMs
 deriving DecidableEq

def recursiveEntryLimit (request : CatalogRequest) : UInt64:=
 if request.maximumEntries = 0 ∨ request.maximumEntries > kRecursiveCatalogMaximumEntries then
  kRecursiveCatalogMaximumEntries
 else request.maximumEntries

def validRecursiveRequest (request : CatalogRequest) : Bool:=
 !request.recursive ||
  (request.path≠[] && request.path.length ≤ kRecursiveCatalogMaximumPathBytes &&
   0 ∉ request.path && request.exactEntryPath = [] && request.maximumDirectories > 0 &&
   request.maximumDirectories ≤ kRecursiveCatalogMaximumDirectories &&
   request.maximumDepth ≤ kRecursiveCatalogMaximumDepth &&
   request.totalTimeoutMs > 0 && request.totalTimeoutMs ≤ kRecursiveCatalogTotalTimeoutMs)

inductive CatalogErrorKind where
 | none
 | notFound
 | permissionDenied
 | authenticationRequired
 | networkDisconnected
 | timedOut
 | ioError
 | cancelled
 deriving DecidableEq

structure CatalogError where
 kind : CatalogErrorKind := .none
 messageUtf8 : Bytes := []
 platformCode : Int64 := 0
 deriving DecidableEq

/-- `operator bool`. -/
def CatalogError.isError (error : CatalogError) : Bool := error.kind≠.none

structure CatalogBatch where
 generation : RequestGeneration := 0
 entries : List DirectoryEntry := []
 directoryRevisionUtf8 : Bytes := []
 isFinal : Bool := false
 truncated : Bool := false
 error : CatalogError := {}
 directoriesVisited : UInt32 := 0
 rootFailed : Bool := false
 deriving DecidableEq

end VoVe.CatalogTypes
