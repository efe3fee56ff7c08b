import VoVe.CatalogTypes
import VoVe.Scanner

set_option autoImplicit false

/-! The payloads between the application and its directory and search helpers, as
`catalog_protocol.cpp`, `catalog_protocol_decode.cpp` and `search_protocol.cpp` write and read them.
Both helpers list their entries in one layout. -/

namespace VoVe.HelperProtocol
open ByteCodec Checks ScanCodec CatalogOrder CatalogTypes

instance : WireEnum EntryKind where
 values:=[.file,.directory]
 complete a := by cases a<;>decide
 small:=by decide

instance : WireEnum EntryState where
 values:=[.discovered,.metadataReady,.thumbnailQueued,.thumbnailReady,.failed]
 complete a := by cases a<;>decide
 small:=by decide

instance : WireEnum CatalogErrorKind where
 values:=[.none,.notFound,.permissionDenied,.authenticationRequired,.networkDisconnected,
  .timedOut,.ioError,.cancelled]
 complete a := by cases a<;>decide
 small:=by decide

variable (thrown : String)

/-- `append_string`: a text whose length does not fit its prefix is refused. -/
def writeString (text : Bytes) : Except String Bytes := do
 require (text.length ≤ 4294967295) thrown
 pure (appendString text)

variable (entry : DirectoryEntry)

def appendEntry : Bytes:=
 appendInteger entry.id++(appendEnum entry.kind++(appendEnum entry.state ++
  (appendInteger (0 : UInt16)++(appendInteger entry.sizeBytes ++
  (appendInteger entry.modifiedUnixNs++(appendString entry.nameUtf8 ++
  (appendString entry.pathUtf8++appendString entry.sourceRevisionUtf8)))))))

def writeEntry : Except String Bytes := do
 let name ← writeString thrown entry.nameUtf8
 let path ← writeString thrown entry.pathUtf8
 let revision ← writeString thrown entry.sourceRevisionUtf8
 pure (appendInteger entry.id++(appendEnum entry.kind++(appendEnum entry.state ++
  (appendInteger (0 : UInt16)++(appendInteger entry.sizeBytes ++
  (appendInteger entry.modifiedUnixNs++(name++(path++revision))))))))

def writeEntries (thrown : String) : List DirectoryEntry → Except String Bytes
 | []=>pure []
 | entry::entries=>do
  let first ← writeEntry thrown entry
  let rest ← writeEntries thrown entries
  pure (first++rest)

variable (allowed : ℕ → Bool) (searchKey : Bytes → Bytes)

/-- One entry; `allowed` bounds its texts and `searchKey` makes the key that does not travel. -/
def scanEntry (truncated invalid : String) : Scanner String DirectoryEntry := do
 let id ← integer UInt64 truncated
 let kind ← integer UInt8 truncated
 let state ← integer UInt8 truncated
 let reserved ← integer UInt16 truncated
 let sizeBytes ← integer UInt64 truncated
 let modified ← integer Int64 truncated
 let name ← sizedString allowed truncated
 let path ← sizedString allowed truncated
 let revision ← sizedString allowed truncated
 let kind ← present (enumOfCode kind) invalid
 let state ← present (enumOfCode state) invalid
 ensure (reserved = 0) invalid
 pure
  { id:=id
    kind:=kind
    state:=state
    nameUtf8:=name
    searchKeyUtf8:=searchKey name
    pathUtf8:=path
    sourceRevisionUtf8:=revision
    sizeBytes:=sizeBytes
    modifiedUnixNs:=modified }

/-- The texts of an entry, each within what a length can say and what is allowed. -/
def Sized (entry : DirectoryEntry) : Prop:=
 (allowed entry.nameUtf8.length = true ∧ entry.nameUtf8.length < 2 ^ 32) ∧
  (allowed entry.pathUtf8.length = true ∧ entry.pathUtf8.length < 2 ^ 32) ∧
  (allowed entry.sourceRevisionUtf8.length = true ∧ entry.sourceRevisionUtf8.length < 2 ^ 32)

def anyLength (_ : ℕ) : Bool := true

lemma writeString_eq_ok (text bytes : Bytes):
 writeString thrown text=.ok bytes ↔ text.length<2 ^ 32 ∧ appendString text=bytes:=by
 rw [writeString,bind_unit_eq_ok,require_eq_ok,Checks.pure_eq_ok,decide_eq_true_eq]
 constructor
 · intro ⟨hsize,hbytes⟩
   exact ⟨by omega,hbytes⟩
 · intro ⟨hsize,hbytes⟩
   exact ⟨by omega,hbytes⟩

lemma writeEntry_eq_ok (bytes : Bytes):
 writeEntry thrown entry=.ok bytes ↔ Sized anyLength entry ∧ appendEntry entry=bytes:=by
 simp only [writeEntry,Checks.bind_eq_ok,writeString_eq_ok,Checks.pure_eq_ok,Sized,anyLength,
  true_and,appendEntry]
 constructor
 · rintro ⟨_,⟨hname,rfl⟩,_,⟨hpath,rfl⟩,_,⟨hrevision,rfl⟩,hbytes⟩
   exact ⟨⟨hname,hpath,hrevision⟩,hbytes⟩
 · rintro ⟨⟨hname,hpath,hrevision⟩,hbytes⟩
   exact ⟨_,⟨hname,rfl⟩,_,⟨hpath,rfl⟩,_,⟨hrevision,rfl⟩,hbytes⟩

lemma writeEntries_eq_ok (entries : List DirectoryEntry) (bytes : Bytes):
 writeEntries thrown entries=.ok bytes ↔
  (∀entry∈entries,Sized anyLength entry) ∧ entries.flatMap appendEntry=bytes:=by
 induction entries generalizing bytes with
 | nil=>simp [writeEntries]
 | cons entry entries ih=>
  simp only [writeEntries,Checks.bind_eq_ok,writeEntry_eq_ok,ih,Checks.pure_eq_ok,
   List.forall_mem_cons,List.flatMap_cons]
  constructor
  · rintro ⟨_,⟨hentry,rfl⟩,_,⟨hentries,rfl⟩,hbytes⟩
    exact ⟨⟨hentry,hentries⟩,hbytes⟩
  · rintro ⟨⟨hentry,hentries⟩,hbytes⟩
    exact ⟨_,⟨hentry,rfl⟩,_,⟨hentries,rfl⟩,hbytes⟩

lemma scanEntry_eq_ok
 (truncated invalid : String) (input : Bytes) (entry : DirectoryEntry) (rest : Bytes):
 (scanEntry allowed searchKey truncated invalid).run input=.ok (entry,rest) ↔
  (Sized allowed entry ∧ entry.searchKeyUtf8=searchKey entry.nameUtf8) ∧
   input=appendEntry entry++rest:=by
 simp only [scanEntry,integer_bind,sizedString_bind,present_bind,ensure_bind,ScanCodec.pure_eq_ok,
  enumOfCode_eq_some (by decide : (WireEnum.values : List EntryKind).Nodup),
  enumOfCode_eq_some (by decide : (WireEnum.values : List EntryState).Nodup),
  decide_eq_true_eq,Sized,appendEntry,appendEnum,List.append_assoc]
 constructor
 · rintro ⟨id,_,hinput,kind,_,h₁,state,_,h₂,reserved,_,h₃,size,_,h₄,modified,_,h₅,
    name,_,⟨hname,h₆⟩,path,_,⟨hpath,h₇⟩,revision,_,⟨hrevision,h₈⟩,kindOf,hkind,
    stateOf,hstate,hreserved,hentry,hrest⟩
   subst hentry hrest h₁ h₂ h₃ h₄ h₅ h₆ h₇ h₈
   rw [hkind,hstate,hreserved] at hinput
   exact ⟨⟨⟨hname,hpath,hrevision⟩,rfl⟩,hinput⟩
 · rintro ⟨⟨⟨hname,hpath,hrevision⟩,hkey⟩,hinput⟩
   refine ⟨_,_,hinput,_,_,rfl,_,_,rfl,_,_,rfl,_,_,rfl,_,_,rfl,_,_,⟨hname,rfl⟩,
    _,_,⟨hpath,rfl⟩,_,_,⟨hrevision,rfl⟩,_,rfl,_,rfl,rfl,?_,rfl⟩
   rw [←hkey]

def requestMagic : UInt32 := 0x31525156
def batchMagic : UInt32 := 0x31414256
def kCatalogProtocolVersion : UInt32 := 6
def kCatalogMaximumFrameBytes : ℕ := 32*1024*1024
def catalogStringTooLarge : String := "catalog protocol string is too large"

def flagByte (flag : Bool) : UInt8 := if flag then 1 else 0

def encodeCatalogRequest (request : CatalogRequest) : Except String Bytes := do
 let path ← writeString catalogStringTooLarge request.path
 let exactEntryPath ← writeString catalogStringTooLarge request.exactEntryPath
 pure (appendInteger requestMagic++(appendInteger kCatalogProtocolVersion ++
  (appendInteger request.generation++(appendInteger request.maximumEntries ++
  (path++(exactEntryPath++(appendInteger (flagByte request.recursive) ++
  (appendInteger request.maximumDirectories++(appendInteger request.maximumDepth ++
  appendInteger request.totalTimeoutMs)))))))))

def scanCatalogRequest : Scanner String CatalogRequest := do
 let truncated:="catalog request is truncated"
 let magic ← integer UInt32 truncated
 let version ← integer UInt32 truncated
 let generation ← integer UInt64 truncated
 let maximumEntries ← integer UInt64 truncated
 let path ← sizedString anyLength truncated
 let exactEntryPath ← sizedString anyLength truncated
 let recursive ← integer UInt8 truncated
 let maximumDirectories ← integer UInt32 truncated
 let maximumDepth ← integer UInt32 truncated
 let totalTimeoutMs ← integer Int64 truncated
 ensure (magic = requestMagic && version = kCatalogProtocolVersion)
  "catalog request protocol is incompatible"
 finish "catalog request has trailing bytes"
 let request : CatalogRequest:=
  { generation:=generation
    path:=path
    maximumEntries:=maximumEntries
    exactEntryPath:=exactEntryPath
    recursive:=recursive≠0
    maximumDirectories:=maximumDirectories
    maximumDepth:=maximumDepth
    totalTimeoutMs:=totalTimeoutMs }
 ensure (recursive ≤ 1 && validRecursiveRequest request)
  "catalog recursive request bounds or mode are invalid"
 pure request

variable (payload : Bytes)

def decodeCatalogRequest : Except String CatalogRequest:=
 Prod.fst <$> scanCatalogRequest.run payload

def batchFlags (isFinal truncated rootFailed : Bool) : UInt8:=
 (if isFinal then 0x01 else 0) ||| (if truncated then 0x02 else 0) |||
  (if rootFailed then 0x04 else 0)

variable (batch : CatalogBatch)

def encodeCatalogBatch : Except String Bytes := do
 require (batch.entries.length ≤ kCatalogBatchSize)
  "catalog batch exceeds the protocol entry limit"
 let message ← writeString catalogStringTooLarge batch.error.messageUtf8
 let revision ← writeString catalogStringTooLarge batch.directoryRevisionUtf8
 let entries ← writeEntries catalogStringTooLarge batch.entries
 pure (appendInteger batchMagic++(appendInteger kCatalogProtocolVersion ++
  (appendInteger batch.generation ++
  (appendInteger (batchFlags batch.isFinal batch.truncated batch.rootFailed) ++
  (appendEnum batch.error.kind++(appendInteger (0 : UInt16) ++
  (appendInteger batch.error.platformCode++(message++(revision ++
  (appendInteger batch.directoriesVisited ++
  (appendInteger (UInt32.ofNat batch.entries.length)++entries)))))))))))

/-- The check of a batch's header: flags that are known and valid together, and the limits. -/
def catalogHeaderValid (flags errorKind : UInt8) (reserved : UInt16) (entryCount : UInt32)
  (directoriesVisited : UInt32) : Bool:=
 flags &&& 0xF8 = 0 && reserved = 0 && entryCount.toNat ≤ kCatalogBatchSize &&
  directoriesVisited ≤ kRecursiveCatalogMaximumDirectories &&
  (flags &&& 0x04 = 0 || (flags &&& 0x03 = 0x03 && errorKind≠0))

variable (makeSearchKey : Bytes → Bytes)

def scanCatalogBatch : Scanner String CatalogBatch := do
 let truncated:="catalog batch is truncated"
 let invalid:="catalog batch header is invalid"
 let magic ← integer UInt32 truncated
 let version ← integer UInt32 truncated
 let generation ← integer UInt64 truncated
 let flags ← integer UInt8 truncated
 let errorKind ← integer UInt8 truncated
 let reserved ← integer UInt16 truncated
 let platformCode ← integer Int64 truncated
 let message ← sizedString anyLength truncated
 let revision ← sizedString anyLength truncated
 let directoriesVisited ← integer UInt32 truncated
 let entryCount ← integer UInt32 truncated
 ensure (magic = batchMagic && version = kCatalogProtocolVersion)
  "catalog batch protocol is incompatible"
 let kind ← present (enumOfCode errorKind) invalid
 ensure (catalogHeaderValid flags errorKind reserved entryCount directoriesVisited) invalid
 let entries ← scanMany (scanEntry anyLength makeSearchKey "catalog entry is truncated"
  "catalog entry header is invalid") entryCount.toNat
 finish "catalog batch has trailing bytes"
 pure
  { generation:=generation
    entries:=entries
    directoryRevisionUtf8:=revision
    isFinal:=flags &&& 0x01≠0
    truncated:=flags &&& 0x02≠0
    error:={ kind:=kind,messageUtf8:=message,platformCode:=platformCode }
    directoriesVisited:=directoriesVisited
    rootFailed:=flags &&& 0x04≠0 }

def decodeCatalogBatch (payload : Bytes) : Except String CatalogBatch:=
 Prod.fst <$> (scanCatalogBatch makeSearchKey).run payload

def searchRequestMagic : UInt32 := 0x51534756
def searchBatchMagic : UInt32 := 0x42534756
def kSearchProtocolVersion : UInt32 := 2
def kSearchMaximumFrameBytes : ℕ := 16*1024*1024
def kSearchBatchSize : ℕ := 64
def kMaximumSearchResults : ℕ := 100000
def kMaximumSearchRoots : ℕ := 64
def maximumQueryBytes : ℕ := 4096
def maximumPathBytes : ℕ := 65536
def maximumStringBytes : ℕ := 1048576
def searchStringTooLarge : String := "search protocol string is too large"

inductive SearchStatus where
 | success
 | providerUnavailable
 | scopeNotIndexed
 | invalidRequest
 | ioError
 | timedOut
 | cancelled
 deriving DecidableEq

instance : WireEnum SearchStatus where
 values:=[.success,.providerUnavailable,.scopeNotIndexed,.invalidRequest,.ioError,
  .timedOut,.cancelled]
 complete a := by cases a<;>decide
 small:=by decide

structure SearchRequest where
 generation : UInt64 := 0
 queryUtf8 : Bytes := []
 allowedRootsUtf8 : List Bytes := []
 maximumResults : UInt64 := 100000
 deriving DecidableEq

structure SearchBatch where
 generation : UInt64 := 0
 entries : List DirectoryEntry := []
 totalMatches : UInt64 := 0
 providerIndexModifiedUnixNs : Int64 := 0
 status : SearchStatus := .success
 messageUtf8 : Bytes := []
 isFinal : Bool := false
 truncated : Bool := false
 deriving DecidableEq

def upTo (maximum size : ℕ) : Bool := size ≤ maximum

def writeRoots : List Bytes → Except String Bytes
 | []=>pure []
 | root::roots=>do
  require (root.length ≤ maximumPathBytes) "search root exceeds protocol limits"
  let first ← writeString searchStringTooLarge root
  let rest ← writeRoots roots
  pure (first++rest)

variable (request : SearchRequest)

def encodeSearchRequest : Except String Bytes := do
 require (request.queryUtf8.length ≤ maximumQueryBytes &&
   request.allowedRootsUtf8.length ≤ kMaximumSearchRoots &&
   request.maximumResults.toNat ≤ kMaximumSearchResults)
  "search request exceeds protocol limits"
 let query ← writeString searchStringTooLarge request.queryUtf8
 let roots ← writeRoots request.allowedRootsUtf8
 pure (appendInteger searchRequestMagic++(appendInteger kSearchProtocolVersion ++
  (appendInteger request.generation++(appendInteger request.maximumResults++(query ++
  (appendInteger (UInt32.ofNat request.allowedRootsUtf8.length)++roots))))))

def scanRoot : Scanner String Bytes:=
 sizedString (upTo maximumPathBytes) "search request root is truncated"

def scanSearchRequest : Scanner String SearchRequest := do
 let truncated:="search request is truncated"
 let magic ← integer UInt32 truncated
 let version ← integer UInt32 truncated
 let generation ← integer UInt64 truncated
 let maximumResults ← integer UInt64 truncated
 let query ← sizedString (upTo maximumQueryBytes) truncated
 let rootCount ← integer UInt32 truncated
 ensure (magic = searchRequestMagic && version = kSearchProtocolVersion)
  "search request protocol is incompatible"
 ensure (maximumResults.toNat ≤ kMaximumSearchResults && rootCount.toNat ≤ kMaximumSearchRoots)
  "search request exceeds protocol limits"
 let roots ← scanMany scanRoot rootCount.toNat
 finish "search request has trailing bytes"
 pure
  { generation:=generation
    queryUtf8:=query
    allowedRootsUtf8:=roots
    maximumResults:=maximumResults }

def decodeSearchRequest : Except String SearchRequest := Prod.fst <$> scanSearchRequest.run payload

def encodeSearchBatch (batch : SearchBatch) : Except String Bytes := do
 require (batch.entries.length ≤ kSearchBatchSize) "search batch exceeds protocol limits"
 let message ← writeString searchStringTooLarge batch.messageUtf8
 let entries ← writeEntries searchStringTooLarge batch.entries
 pure (appendInteger searchBatchMagic++(appendInteger kSearchProtocolVersion ++
  (appendInteger batch.generation++(appendInteger batch.totalMatches ++
  (appendInteger batch.providerIndexModifiedUnixNs++(appendEnum batch.status ++
  (appendInteger (batchFlags batch.isFinal batch.truncated false) ++
  (appendInteger (0 : UInt16)++(message ++
  (appendInteger (UInt32.ofNat batch.entries.length)++entries))))))))))

def scanSearchBatch : Scanner String SearchBatch := do
 let truncated:="search batch is truncated"
 let invalid:="search batch header is invalid"
 let magic ← integer UInt32 truncated
 let version ← integer UInt32 truncated
 let generation ← integer UInt64 truncated
 let totalMatches ← integer UInt64 truncated
 let modified ← integer Int64 truncated
 let status ← integer UInt8 truncated
 let flags ← integer UInt8 truncated
 let reserved ← integer UInt16 truncated
 let message ← sizedString (upTo maximumStringBytes) truncated
 let entryCount ← integer UInt32 truncated
 ensure (magic = searchBatchMagic && version = kSearchProtocolVersion && reserved = 0 &&
  entryCount.toNat ≤ kSearchBatchSize && flags &&& 0xFC = 0) invalid
 let status ← present (enumOfCode status) invalid
 let entries ← scanMany (scanEntry (upTo maximumPathBytes) (fun _=>[])
  "search batch entry is truncated" "search batch entry is invalid") entryCount.toNat
 finish "search batch has trailing bytes"
 pure
  { generation:=generation
    entries:=entries
    totalMatches:=totalMatches
    providerIndexModifiedUnixNs:=modified
    status:=status
    messageUtf8:=message
    isFinal:=flags &&& 0x01≠0
    truncated:=flags &&& 0x02≠0 }

def decodeSearchBatch : Except String SearchBatch := Prod.fst <$> scanSearchBatch.run payload

lemma decode_eq_ok {α : Type} (scanner : Scanner String α) (payload : Bytes) (a : α):
 Prod.fst <$> scanner.run payload=.ok a ↔ ∃ rest,scanner.run payload=.ok (a,rest):=by
 rw [map_eq_ok,Prod.exists]
 constructor
 · intro ⟨b,rest,hrun,hb⟩
   rw [←hb]
   exact ⟨rest,hrun⟩
 · intro ⟨rest,hrun⟩
   exact ⟨a,rest,hrun,rfl⟩

lemma flagByte_iff (code : UInt8) (flag : Bool):
 code≤1 ∧ decide (code≠0)=flag ↔ code=flagByte flag:=by
 rw [eq_comm (a := decide _),flag_iff]
 rfl

lemma catalogRequest_exact (request : CatalogRequest) (payload : Bytes):
 decodeCatalogRequest payload=.ok request ↔
  encodeCatalogRequest request=.ok payload ∧ validRecursiveRequest request=true:=by
 simp only [decodeCatalogRequest,decode_eq_ok,scanCatalogRequest,integer_bind,
  sizedString_bind,ensure_bind,finish_bind,ScanCodec.pure_eq_ok,encodeCatalogRequest,
  Checks.bind_eq_ok,writeString_eq_ok,Checks.pure_eq_ok,Bool.and_eq_true,decide_eq_true_eq,
  anyLength,true_and]
 constructor
 · rintro ⟨rest,magic,_,h₁,version,_,h₂,generation,_,h₃,maximumEntries,_,h₄,path,_,
    ⟨hpath,h₅⟩,exactPath,_,⟨hexact,h₆⟩,recursive,_,h₇,directories,_,h₈,depth,_,h₉,
    timeout,_,h₁₀,⟨hmagic,hversion⟩,hnil,⟨hflag,hvalid⟩,hrequest,hrest⟩
   subst h₁₀ h₉ h₈ h₇ h₆ h₅ h₄ h₃ h₂ hnil hmagic hversion
   have hcode:=(flagByte_iff recursive request.recursive).mp ⟨hflag,by rw [←hrequest]⟩
   subst hrequest
   refine ⟨⟨_,⟨hpath,rfl⟩,_,⟨hexact,rfl⟩,?_⟩,hvalid⟩
   rw [h₁,←hcode,List.append_nil]
 · rintro ⟨⟨_,⟨hpath,h₁⟩,_,⟨hexact,h₂⟩,hpayload⟩,hvalid⟩
   subst h₁ h₂
   have hcode:=(flagByte_iff (flagByte request.recursive) request.recursive).mpr rfl
   refine ⟨[],_,_,hpayload.symm,_,_,rfl,_,_,rfl,_,_,rfl,_,_,⟨hpath,rfl⟩,_,_,
    ⟨hexact,rfl⟩,_,_,rfl,_,_,rfl,_,_,rfl,_,[],(List.append_nil _).symm,⟨rfl,rfl⟩,
    rfl,⟨hcode.1,?_⟩,?_,rfl⟩
   · rw [hcode.2]
     exact hvalid
   · rw [hcode.2]

lemma flags_of_nat : ∀n<256,∀isFinal truncated rootFailed : Bool,
 (UInt8.ofNat n &&& 0xF8=0 ∧ decide (UInt8.ofNat n &&& 0x01≠0)=isFinal ∧
  decide (UInt8.ofNat n &&& 0x02≠0)=truncated ∧
  decide (UInt8.ofNat n &&& 0x04≠0)=rootFailed) ↔
 UInt8.ofNat n=batchFlags isFinal truncated rootFailed:=by
 decide +kernel

lemma batchFlags_iff (flags : UInt8) (isFinal truncated rootFailed : Bool):
 (flags &&& 0xF8=0 ∧ decide (flags &&& 0x01≠0)=isFinal ∧
  decide (flags &&& 0x02≠0)=truncated ∧ decide (flags &&& 0x04≠0)=rootFailed) ↔
 flags=batchFlags isFinal truncated rootFailed:=by
 have hall:=flags_of_nat flags.toNat flags.toNat_lt isFinal truncated rootFailed
 rwa [UInt8.ofNat_toNat] at hall

lemma searchFlags_of_nat : ∀n<256,∀isFinal truncated : Bool,
 (UInt8.ofNat n &&& 0xFC=0 ∧ decide (UInt8.ofNat n &&& 0x01≠0)=isFinal ∧
  decide (UInt8.ofNat n &&& 0x02≠0)=truncated) ↔
 UInt8.ofNat n=batchFlags isFinal truncated false:=by
 decide +kernel

lemma searchFlags_iff (flags : UInt8) (isFinal truncated : Bool):
 (flags &&& 0xFC=0 ∧ decide (flags &&& 0x01≠0)=isFinal ∧
  decide (flags &&& 0x02≠0)=truncated) ↔
 flags=batchFlags isFinal truncated false:=by
 have hall:=searchFlags_of_nat flags.toNat flags.toNat_lt isFinal truncated
 rwa [UInt8.ofNat_toNat] at hall

/-- The header limits, over the batch: a root failure is final, truncated and has its error. -/
def Deliverable : Prop:=
 batch.directoriesVisited ≤ kRecursiveCatalogMaximumDirectories ∧ (batch.rootFailed = true →
   batch.isFinal = true ∧ batch.truncated = true ∧ batch.error.isError = true)

lemma errorCode_zero (kind : CatalogErrorKind) : enumCode kind=0 ↔ kind=.none:=by
 cases kind<;>decide

lemma catalogHeaderValid_iff (count : UInt32)
 (hcount:count.toNat=batch.entries.length):
 catalogHeaderValid (batchFlags batch.isFinal batch.truncated batch.rootFailed)
   (enumCode batch.error.kind) 0 count batch.directoriesVisited=true ↔
  batch.entries.length≤kCatalogBatchSize ∧ Deliverable batch:=by
 have hflags:=(batchFlags_iff _ batch.isFinal batch.truncated batch.rootFailed).mpr rfl
 have hboth:∀isFinal truncated rootFailed : Bool,
   (batchFlags isFinal truncated rootFailed &&& 0x03=0x03 ↔ isFinal=true ∧ truncated=true) ∧
   (batchFlags isFinal truncated rootFailed &&& 0x04=0 ↔ rootFailed=false):=by
  decide
 simp only [catalogHeaderValid,hflags.1,Bool.and_eq_true,Bool.or_eq_true,decide_eq_true_eq,
  hboth,ne_eq,errorCode_zero,hcount,true_and,Deliverable,CatalogError.isError]
 cases batch.rootFailed<;>simp [and_assoc]

lemma count_toNat {entries : List DirectoryEntry} {maximum : ℕ}
 (h:entries.length ≤ maximum) (hmaximum:maximum<2 ^ 32):
 (UInt32.ofNat entries.length).toNat=entries.length:=
 Nat.mod_eq_of_lt (by omega)

def appendCatalogBatch : Bytes:=
 appendInteger batchMagic++(appendInteger kCatalogProtocolVersion ++
  (appendInteger batch.generation ++
  (appendInteger (batchFlags batch.isFinal batch.truncated batch.rootFailed) ++
  (appendEnum batch.error.kind++(appendInteger (0 : UInt16) ++
  (appendInteger batch.error.platformCode++(appendString batch.error.messageUtf8 ++
  (appendString batch.directoryRevisionUtf8++(appendInteger batch.directoriesVisited ++
  (appendInteger (UInt32.ofNat batch.entries.length) ++
  batch.entries.flatMap appendEntry))))))))))

lemma encodeCatalogBatch_iff (payload : Bytes) : encodeCatalogBatch batch=.ok payload ↔
  batch.entries.length≤kCatalogBatchSize ∧ batch.error.messageUtf8.length<2 ^ 32 ∧
   batch.directoryRevisionUtf8.length<2 ^ 32 ∧
   (∀entry∈batch.entries,Sized anyLength entry) ∧
   appendCatalogBatch batch=payload:=by
 rw [encodeCatalogBatch,Checks.bind_unit_eq_ok,require_eq_ok,decide_eq_true_eq]
 simp only [Checks.bind_eq_ok,writeString_eq_ok,writeEntries_eq_ok,Checks.pure_eq_ok]
 constructor
 · rintro ⟨hcount,_,⟨hmessage,rfl⟩,_,⟨hrevision,rfl⟩,_,⟨hentries,rfl⟩,hpayload⟩
   exact ⟨hcount,hmessage,hrevision,hentries,hpayload⟩
 · rintro ⟨hcount,hmessage,hrevision,hentries,hpayload⟩
   exact ⟨hcount,_,⟨hmessage,rfl⟩,_,⟨hrevision,rfl⟩,_,⟨hentries,rfl⟩,hpayload⟩

/-- A catalog batch is read back where its header is valid and its search keys are the ones that
are made from the names, and only then. -/
lemma catalogBatch_exact (batch : CatalogBatch)
 (payload : Bytes):
 decodeCatalogBatch makeSearchKey payload=.ok batch ↔
  encodeCatalogBatch batch=.ok payload ∧ Deliverable batch ∧
   ∀entry∈batch.entries,entry.searchKeyUtf8=makeSearchKey entry.nameUtf8:=by
 have hentry:=scanEntry_eq_ok anyLength makeSearchKey "catalog entry is truncated"
  "catalog entry header is invalid"
 rw [encodeCatalogBatch_iff]
 simp only [decodeCatalogBatch,decode_eq_ok,scanCatalogBatch,integer_bind,sizedString_bind,
  ensure_bind,present_bind,finish_bind,scanMany_bind hentry,ScanCodec.pure_eq_ok,
  enumOfCode_eq_some (by decide : (WireEnum.values : List CatalogErrorKind).Nodup),
  Bool.and_eq_true,decide_eq_true_eq,anyLength,true_and]
 constructor
 · rintro ⟨rest,magic,_,h₁,version,_,h₂,generation,_,h₃,flags,_,h₄,errorKind,_,h₅,
    reserved,_,h₆,code,_,h₇,message,_,⟨hmessage,h₈⟩,revision,_,⟨hrevision,h₉⟩,
    visited,_,h₁₀,count,_,h₁₁,⟨hmagic,hversion⟩,kind,hkind,hvalid,entries,_,
    ⟨hlength,hall,h₁₂⟩,hnil,hbatch,hrest⟩
   subst hnil h₁₂ h₁₁ h₁₀ h₉ h₈ h₇ h₆ h₅ h₄ h₃ h₂ hmagic hversion hkind
   have hparts:=hvalid
   simp only [catalogHeaderValid,Bool.and_eq_true,decide_eq_true_eq] at hparts
   have hflags:flags=batchFlags batch.isFinal batch.truncated batch.rootFailed:=by
    rw [←batchFlags_iff,←hbatch]
    exact ⟨hparts.1.1.1.1,rfl,rfl,rfl⟩
   have hreserved:reserved=0:=hparts.1.1.1.2
   have hcount:count=UInt32.ofNat batch.entries.length:=by
    rw [←hbatch]
    exact ((eq_toNat32 _ count).mp hlength).2
   have hheader:catalogHeaderValid (batchFlags batch.isFinal batch.truncated batch.rootFailed)
     (enumCode batch.error.kind) 0 count batch.directoriesVisited=true:=by
    rw [←hflags,←hreserved,←hbatch]
    exact hvalid
   obtain ⟨hsmall,hdeliverable⟩:=(catalogHeaderValid_iff batch count
    (by rw [←hbatch]; exact hlength.symm)).mp hheader
   have hbytes:appendCatalogBatch batch=payload:=by
    rw [h₁,appendCatalogBatch,←hflags,←hcount,hreserved,←hbatch]
    simp only [appendEnum,List.append_nil]
   refine ⟨⟨hsmall,?_,?_,?_,hbytes⟩,hdeliverable,?_⟩
   · rw [←hbatch]
     exact hmessage
   · rw [←hbatch]
     exact hrevision
   · rw [←hbatch]
     exact fun entry hmem=>(hall entry hmem).1
   · rw [←hbatch]
     exact fun entry hmem=>(hall entry hmem).2
 · rintro ⟨⟨hcount,hmessage,hrevision,hentries,hpayload⟩,hdeliverable,hkeys⟩
   have hlength:=count_toNat hcount (by decide)
   have hheader:=(catalogHeaderValid_iff batch _ hlength).mpr ⟨hcount,hdeliverable⟩
   have hflags:=(batchFlags_iff _ batch.isFinal batch.truncated batch.rootFailed).mpr rfl
   refine ⟨[],_,_,hpayload.symm,_,_,rfl,_,_,rfl,_,_,rfl,_,_,rfl,_,_,rfl,_,_,
    rfl,_,_,⟨hmessage,rfl⟩,_,_,⟨hrevision,rfl⟩,_,_,rfl,_,_,rfl,⟨rfl,rfl⟩,_,rfl,
    hheader,_,[],⟨hlength.symm,fun entry hmem=>⟨hentries entry hmem,hkeys entry hmem⟩,
    (List.append_nil _).symm⟩,rfl,?_,rfl⟩
   rw [hflags.2.1,hflags.2.2.1,hflags.2.2.2]

lemma scanRoot_eq_ok (input root rest : Bytes) : scanRoot.run input=.ok (root,rest) ↔
  (upTo maximumPathBytes root.length=true ∧ root.length<2 ^ 32) ∧
   input=appendString root++rest:=by
 exact sizedString_eq_ok _ _ _ _ _

lemma writeRoots_eq_ok (roots : List Bytes) (bytes : Bytes) : writeRoots roots=.ok bytes ↔
  (∀root∈roots,upTo maximumPathBytes root.length=true ∧ root.length<2 ^ 32) ∧
   roots.flatMap appendString=bytes:=by
 induction roots generalizing bytes with
 | nil=>simp [writeRoots]
 | cons root roots ih=>
  rw [writeRoots,Checks.bind_unit_eq_ok,require_eq_ok,decide_eq_true_eq]
  simp only [Checks.bind_eq_ok,writeString_eq_ok,ih,Checks.pure_eq_ok,List.forall_mem_cons,
   List.flatMap_cons,upTo,decide_eq_true_eq]
  constructor
  · rintro ⟨hpath,_,⟨hroot,rfl⟩,_,⟨hroots,rfl⟩,hbytes⟩
    exact ⟨⟨⟨hpath,hroot⟩,hroots⟩,hbytes⟩
  · rintro ⟨⟨⟨hpath,hroot⟩,hroots⟩,hbytes⟩
    exact ⟨hpath,_,⟨hroot,rfl⟩,_,⟨hroots,rfl⟩,hbytes⟩

def appendSearchRequest : Bytes:=
 appendInteger searchRequestMagic++(appendInteger kSearchProtocolVersion ++
  (appendInteger request.generation++(appendInteger request.maximumResults ++
  (appendString request.queryUtf8 ++
  (appendInteger (UInt32.ofNat request.allowedRootsUtf8.length) ++
  request.allowedRootsUtf8.flatMap appendString)))))

lemma encodeSearchRequest_iff (payload : Bytes) : encodeSearchRequest request=.ok payload ↔
  request.queryUtf8.length ≤ maximumQueryBytes ∧
   request.allowedRootsUtf8.length≤kMaximumSearchRoots ∧
   request.maximumResults.toNat≤kMaximumSearchResults ∧
   request.queryUtf8.length<2 ^ 32 ∧
   (∀root∈request.allowedRootsUtf8,
    upTo maximumPathBytes root.length=true ∧ root.length<2 ^ 32) ∧
   appendSearchRequest request=payload:=by
 rw [encodeSearchRequest,Checks.bind_unit_eq_ok,require_eq_ok]
 simp only [Checks.bind_eq_ok,writeString_eq_ok,writeRoots_eq_ok,Checks.pure_eq_ok,
  Bool.and_eq_true,decide_eq_true_eq]
 constructor
 · rintro ⟨⟨⟨hquery,hroots⟩,hresults⟩,_,⟨hsized,rfl⟩,_,⟨hall,rfl⟩,hpayload⟩
   exact ⟨hquery,hroots,hresults,hsized,hall,hpayload⟩
 · rintro ⟨hquery,hroots,hresults,hsized,hall,hpayload⟩
   exact ⟨⟨⟨hquery,hroots⟩,hresults⟩,_,⟨hsized,rfl⟩,_,⟨hall,rfl⟩,hpayload⟩

lemma searchRequest_exact (payload : Bytes):
 decodeSearchRequest payload=.ok request ↔ encodeSearchRequest request=.ok payload:=by
 rw [encodeSearchRequest_iff]
 simp only [decodeSearchRequest,decode_eq_ok,scanSearchRequest,integer_bind,
  sizedString_bind,ensure_bind,finish_bind,scanMany_bind scanRoot_eq_ok,
  ScanCodec.pure_eq_ok,Bool.and_eq_true,decide_eq_true_eq]
 constructor
 · intro ⟨rest,magic,_,h₁,version,_,h₂,generation,_,h₃,results,_,h₄,query,_,
    ⟨⟨hquery,hsized⟩,h₅⟩,count,_,h₆,⟨hmagic,hversion⟩,⟨hresults,hroots⟩,roots,_,
    ⟨hlength,hall,h₇⟩,hnil,hrequest,hrest⟩
   subst hnil h₇ h₆ h₅ h₄ h₃ h₂ hmagic hversion
   have hcount:=((eq_toNat32 _ count).mp hlength).2
   rw [←hrequest]
   refine ⟨by simpa [upTo] using hquery,by rw [hlength]; exact hroots,hresults,hsized,hall,?_⟩
   rw [h₁,appendSearchRequest,←hcount,List.append_nil]
 · intro ⟨hquery,hroots,hresults,hsized,hall,hpayload⟩
   have hlength:(UInt32.ofNat request.allowedRootsUtf8.length).toNat=
     request.allowedRootsUtf8.length:=by
    have hsmall:request.allowedRootsUtf8.length≤64:=hroots
    exact Nat.mod_eq_of_lt (by omega)
   exact ⟨[],_,_,hpayload.symm,_,_,rfl,_,_,rfl,_,_,rfl,_,_,
    ⟨⟨by simpa [upTo] using hquery,hsized⟩,rfl⟩,_,_,rfl,⟨rfl,rfl⟩,
    ⟨hresults,by rw [hlength]; exact hroots⟩,_,[],
    ⟨hlength.symm,hall,(List.append_nil _).symm⟩,rfl,rfl,rfl⟩

/-- What the reader of a search batch asks of its texts; keys do not travel. -/
def Searchable (batch : SearchBatch) : Prop:=
 batch.messageUtf8.length ≤ maximumStringBytes ∧
  ∀entry ∈ batch.entries,entry.nameUtf8.length ≤ maximumPathBytes ∧
   entry.pathUtf8.length ≤ maximumPathBytes ∧
   entry.sourceRevisionUtf8.length ≤ maximumPathBytes ∧ entry.searchKeyUtf8 = []

def appendSearchBatch (batch : SearchBatch) : Bytes:=
 appendInteger searchBatchMagic++(appendInteger kSearchProtocolVersion ++
  (appendInteger batch.generation++(appendInteger batch.totalMatches ++
  (appendInteger batch.providerIndexModifiedUnixNs++(appendEnum batch.status ++
  (appendInteger (batchFlags batch.isFinal batch.truncated false) ++
  (appendInteger (0 : UInt16)++(appendString batch.messageUtf8 ++
  (appendInteger (UInt32.ofNat batch.entries.length) ++
  batch.entries.flatMap appendEntry)))))))))

lemma encodeSearchBatch_iff (batch : SearchBatch) (payload : Bytes):
 encodeSearchBatch batch=.ok payload ↔
  batch.entries.length≤kSearchBatchSize ∧ batch.messageUtf8.length<2 ^ 32 ∧
   (∀entry∈batch.entries,Sized anyLength entry) ∧ appendSearchBatch batch=payload:=by
 rw [encodeSearchBatch,Checks.bind_unit_eq_ok,require_eq_ok,decide_eq_true_eq]
 simp only [Checks.bind_eq_ok,writeString_eq_ok,writeEntries_eq_ok,Checks.pure_eq_ok]
 constructor
 · rintro ⟨hcount,_,⟨hmessage,rfl⟩,_,⟨hentries,rfl⟩,hpayload⟩
   exact ⟨hcount,hmessage,hentries,hpayload⟩
 · rintro ⟨hcount,hmessage,hentries,hpayload⟩
   exact ⟨hcount,_,⟨hmessage,rfl⟩,_,⟨hentries,rfl⟩,hpayload⟩

lemma sized_upTo : Sized (upTo maximumPathBytes) entry ↔ Sized anyLength entry ∧
  entry.nameUtf8.length ≤ maximumPathBytes ∧ entry.pathUtf8.length ≤ maximumPathBytes ∧
  entry.sourceRevisionUtf8.length ≤ maximumPathBytes:=by
 simp only [Sized,upTo,anyLength,decide_eq_true_eq,true_and]
 tauto

lemma searchBatch_exact (batch : SearchBatch) (payload : Bytes):
 decodeSearchBatch payload=.ok batch ↔
  encodeSearchBatch batch=.ok payload ∧ Searchable batch:=by
 have hentry:=scanEntry_eq_ok (upTo maximumPathBytes) (fun _=>[])
  "search batch entry is truncated" "search batch entry is invalid"
 rw [encodeSearchBatch_iff]
 simp only [decodeSearchBatch,decode_eq_ok,scanSearchBatch,integer_bind,sizedString_bind,
  ensure_bind,present_bind,finish_bind,scanMany_bind hentry,ScanCodec.pure_eq_ok,
  enumOfCode_eq_some (by decide : (WireEnum.values : List SearchStatus).Nodup),
  Bool.and_eq_true,decide_eq_true_eq,sized_upTo]
 constructor
 · rintro ⟨rest,magic,_,h₁,version,_,h₂,generation,_,h₃,total,_,h₄,modified,_,h₅,
    code,_,h₆,flags,_,h₇,reserved,_,h₈,message,_,⟨⟨hmessage,hsized⟩,h₉⟩,count,_,
    h₁₀,⟨⟨⟨⟨hmagic,hversion⟩,hreserved⟩,hsmall⟩,hbits⟩,status,hstatus,entries,_,
    ⟨hlength,hall,h₁₁⟩,hnil,hbatch,hrest⟩
   subst hnil h₁₁ h₁₀ h₉ h₈ h₇ h₆ h₅ h₄ h₃ h₂ hmagic hversion hreserved hstatus
   have hflags:flags=batchFlags batch.isFinal batch.truncated false:=by
    rw [←searchFlags_iff,←hbatch]
    exact ⟨hbits,rfl,rfl⟩
   have hcount:count=UInt32.ofNat batch.entries.length:=by
    rw [←hbatch]
    exact ((eq_toNat32 _ count).mp hlength).2
   have hbytes:appendSearchBatch batch=payload:=by
    rw [h₁,appendSearchBatch,←hflags,←hcount,←hbatch]
    simp only [appendEnum,List.append_nil]
   refine ⟨⟨?_,?_,?_,hbytes⟩,?_,?_⟩
   · rw [←hbatch,hlength]
     exact hsmall
   · rw [←hbatch]
     exact hsized
   · rw [←hbatch]
     exact fun entry hmem=>(hall entry hmem).1.1
   · rw [←hbatch]
     simpa [upTo] using hmessage
   · rw [←hbatch]
     intro entry hmem
     obtain ⟨⟨-,hname,hpath,hrevision⟩,hkey⟩:=hall entry hmem
     exact ⟨hname,hpath,hrevision,hkey⟩
 · rintro ⟨⟨hcount,hsized,hentries,hpayload⟩,hmessage,hsearchable⟩
   have hlength:=count_toNat hcount (by decide)
   have hflags:=(searchFlags_iff _ batch.isFinal batch.truncated).mpr rfl
   refine ⟨[],_,_,hpayload.symm,_,_,rfl,_,_,rfl,_,_,rfl,_,_,rfl,_,_,rfl,_,_,
    rfl,_,_,rfl,_,_,⟨⟨by simpa [upTo] using hmessage,hsized⟩,rfl⟩,_,_,rfl,
    ⟨⟨⟨⟨rfl,rfl⟩,rfl⟩,by rw [hlength]; exact hcount⟩,hflags.1⟩,_,rfl,_,[],
    ⟨hlength.symm,?_,(List.append_nil _).symm⟩,rfl,?_,rfl⟩
   · intro entry hmem
     obtain ⟨hname,hpath,hrevision,hkey⟩:=hsearchable entry hmem
     exact ⟨⟨hentries entry hmem,hname,hpath,hrevision⟩,hkey⟩
   · rw [hflags.2.1,hflags.2.2]

/-- Both helper protocols are exact: what is written is read back as it was wherever the reader's
limits hold, and what is accepted is written back to the same bytes. -/
theorem helper_protocols_exact (makeSearchKey : Bytes → Bytes) (payload : Bytes)
 (request : CatalogRequest) (batch : CatalogBatch) (searchRequest : SearchRequest)
 (searchBatch : SearchBatch):
 (decodeCatalogRequest payload=.ok request ↔
  encodeCatalogRequest request=.ok payload ∧ validRecursiveRequest request=true) ∧
 (decodeCatalogBatch makeSearchKey payload=.ok batch ↔
  encodeCatalogBatch batch=.ok payload ∧ Deliverable batch ∧
   ∀entry∈batch.entries,entry.searchKeyUtf8=makeSearchKey entry.nameUtf8) ∧
 (decodeSearchRequest payload=.ok searchRequest ↔
  encodeSearchRequest searchRequest=.ok payload) ∧
 (decodeSearchBatch payload=.ok searchBatch ↔
  encodeSearchBatch searchBatch=.ok payload ∧ Searchable searchBatch):=
 ⟨catalogRequest_exact request payload,catalogBatch_exact makeSearchKey batch payload,
  searchRequest_exact searchRequest payload,searchBatch_exact searchBatch payload⟩

def noDirectoriesRequest : CatalogRequest:=
 { path:=[0x2f],recursive:=true,maximumDirectories:=0 }

def crowdedBatch : CatalogBatch := { directoriesVisited:=20001 }

variable (size : ℕ)

/-- A search result with a name of this many bytes. -/
def longNameBatch : SearchBatch:=
 { entries:=[{ nameUtf8:=List.replicate size 0x61 }] }

lemma longNameBatch_encoded (h:size<2 ^ 32):
 encodeSearchBatch (longNameBatch size)=.ok (appendSearchBatch (longNameBatch size)):=by
 rw [encodeSearchBatch_iff]
 refine ⟨by simp [longNameBatch,kSearchBatchSize],by simp [longNameBatch],?_,rfl⟩
 intro entry hmem
 rw [List.mem_singleton.mp hmem]
 have hsized:Sized anyLength { nameUtf8:=List.replicate size 0x61 }:=by
  simpa [Sized,anyLength] using h
 exact hsized

lemma longNameBatch_length : (appendSearchBatch (longNameBatch size)).length=84+size:=by
 simp [appendSearchBatch,longNameBatch,appendEntry,WireInteger.width]
 omega

lemma longNameBatch_refused (h:maximumPathBytes<size) (payload : Bytes):
 decodeSearchBatch payload≠.ok (longNameBatch size):=by
 intro hdecode
 have hname:=(((searchBatch_exact _ _).mp hdecode).2.2 _ List.mem_cons_self).1
 rw [List.length_replicate] at hname
 omega

/-- Payloads within the frame limit that their reader refuses: a recursive request for no
directories, a batch that visited too many, and a search result with a name of 64 KiB and one. -/
theorem refused_payloads : (encodeCatalogRequest noDirectoriesRequest).toOption.any
   (fun payload=>payload.length≤kCatalogMaximumFrameBytes &&
    (decodeCatalogRequest payload).toOption.isNone)=true ∧
 (encodeCatalogBatch crowdedBatch).toOption.any
   (fun payload=>payload.length≤kCatalogMaximumFrameBytes &&
    (decodeCatalogBatch id payload).toOption.isNone)=true ∧
 encodeSearchBatch (longNameBatch 65537)=.ok (appendSearchBatch (longNameBatch 65537)) ∧
 (appendSearchBatch (longNameBatch 65537)).length≤kSearchMaximumFrameBytes ∧
 decodeSearchBatch (appendSearchBatch (longNameBatch 65537))≠.ok (longNameBatch 65537):=by
 refine ⟨by decide +kernel,by decide +kernel,longNameBatch_encoded 65537 (by decide),?_,
  longNameBatch_refused 65537 (by decide) _⟩
 rw [longNameBatch_length]
 decide

end VoVe.HelperProtocol
