import VoVe.DestinationFilename
import VoVe.DirectoryService

set_option autoImplicit false

/-! The recursive walk of `directory_enumerator.cpp` over a tree that stays as it is. -/

namespace VoVe.RecursiveListing
open ByteCodec AsciiText CatalogOrder CatalogTypes DirectoryService DestinationFilename PosixPath

abbrev Trail := List Bytes

structure FileStatus where
 sizeBytes : UInt64
 modifiedUnixNs : Int64
 sourceRevisionUtf8 : Bytes

abbrev Found := Trail × FileStatus

/-- What a directory record leads to: `unopened` is a directory that does not open, `link` also a
file that is none any more when it is opened, `failed` a call on the record that fails. -/
inductive Record where
 | file (status : FileStatus)
 | directory
 | unopened (error : CatalogError)
 | link
 | other
 | failed (error : CatalogError)

/-- The records of a directory in reading order, each with what is below it where it is a
directory, and the error that ends the reading. -/
inductive Listing where
 | done (error : Option CatalogError)
 | record (name : Bytes) (node : Record) (children rest : Listing)

/-- What the clock and the progress callback make of a `tick`. -/
inductive Tick where
 | going
 | timedOut
 | cancelled
 deriving DecidableEq

structure Stops where
 tick : ℕ → Tick
 entry : ℕ → Bool

structure RecursiveTraversal where
 truncated : Bool := false
 error : CatalogError := {}
 directoriesVisited : ℕ := 0
 rootFailed : Bool := false
 files : ℕ := 0
 metadataBytes : ℕ := 0
 stopped : Bool := false
 ticks : ℕ := 0
 entered : List Trail := []
 emitted : List Found := []

def recursiveNameExcluded (name : Bytes) : Bool:=
 name = [] ∨ name.head? = some 46 ∨ isInternalFilename name ∨
  4 ≤ name.length ∧ asciiIequal (name.drop (name.length - 4)) (utf8 ".tmp")

def pathAt (root : Bytes) (trail : Trail) : Path:=
 trail.foldl (fun path name=>path / ⟨name⟩) ⟨root⟩

def stableEntryId (text : Bytes) : UInt64:=
 text.foldl (fun hash byte=>(hash ^^^ byte.toUInt64)*1099511628211) 14695981039346656037

def entryAt (root : Bytes) (file : Found) : DirectoryEntry:=
 let path:=(pathAt root file.1).native
 { id:=stableEntryId path
   state:=.metadataReady
   nameUtf8:=file.1.getLastD []
   pathUtf8:=path
   sourceRevisionUtf8:=file.2.sourceRevisionUtf8
   sizeBytes:=file.2.sizeBytes
   modifiedUnixNs:=file.2.modifiedUnixNs }

section
variable (r request : CatalogRequest) (stops : Stops)

def tick (scan : RecursiveTraversal) : Bool × RecursiveTraversal:=
 if scan.stopped then (false,scan)
 else
  let after:={ scan with ticks:=scan.ticks+1 }
  match stops.tick scan.ticks with
  | .going=>(true,after)
  | .timedOut=>
   (false,{ after with
    error:=⟨.timedOut,utf8 "Recursive catalog total time limit reached",0⟩
    truncated:=true
    stopped:=true })
  | .cancelled=>
   (false,{ after with error:=⟨.cancelled,[],0⟩,truncated:=true,stopped:=true })

/-- The depth is the number of names below the root. -/
def enter (trail : Trail) (scan : RecursiveTraversal) : Bool × RecursiveTraversal:=
 let (going,scan) := tick stops scan
 if !going then (false,scan)
 else if request.maximumDepth.toNat < trail.length then (false,{ scan with truncated:=true })
 else if request.maximumDirectories.toNat ≤ scan.directoriesVisited then
  (false,{ scan with truncated:=true,stopped:=true })
 else
  (true,{ scan with
   directoriesVisited:=scan.directoriesVisited+1
   entered:=scan.entered++[trail] })

def skip (error : CatalogError) (root : Bool) (scan : RecursiveTraversal) : RecursiveTraversal:=
 { scan with
   truncated:=true
   error:=if !scan.error.isError || root then error else scan.error
   rootFailed:=scan.rootFailed || root }

def emit (file : Found) (scan : RecursiveTraversal) : Bool × RecursiveTraversal:=
 let (going,scan) := tick stops scan
 if !going then (false,scan)
 else
  let entry:=entryAt request.path file
  let cost:=recursiveMetadataCost entry
  if kRecursiveCatalogMaximumPathBytes < entry.pathUtf8.length ∨
    (recursiveEntryLimit request).toNat ≤ scan.files ∨
    kRecursiveCatalogMaximumMetadataBytes - scan.metadataBytes < cost then
   (false,{ scan with truncated:=true,stopped:=true })
  else
   let after:={ scan with
    metadataBytes:=scan.metadataBytes+cost
    files:=scan.files+1
    emitted:=scan.emitted++[file] }
   if stops.entry scan.files then (true,after)
   else
    (false,{ after with
     error:=⟨.cancelled,[],0⟩,truncated := true,stopped := true })

/-- The loop of `walk_recursive` over the records of an open directory. -/
def readRecords : Listing → Trail → RecursiveTraversal → RecursiveTraversal
 | .done error, trail, scan=>
  let (going,scan) := tick stops scan
  match error with
  | some error=>if going then skip error (trail = []) scan else scan
  | none=>scan
 | .record name node children rest, trail, scan=>
  let (going,scan) := tick stops scan
  if !going then scan
  else if recursiveNameExcluded name then readRecords rest trail scan
  else
   match node with
   | .file status=>
    let (emitted,scan) := emit request stops (trail++[name],status) scan
    if emitted then readRecords rest trail scan else scan
   | .directory=>
    let (entered,scan) := enter request stops (trail++[name]) scan
    readRecords rest trail
     (if entered then readRecords children (trail++[name]) scan else scan)
   | .unopened error=>
    let (entered,scan) := enter request stops (trail++[name]) scan
    readRecords rest trail (if entered then skip error false scan else scan)
   | .link=>readRecords rest trail (skip {} false scan)
   | .other=>readRecords rest trail scan
   | .failed error=>readRecords rest trail (skip error false scan)

def walkRecursive (root : Except CatalogError Listing) : RecursiveTraversal:=
 let (entered,scan) := enter request stops [] {}
 if !entered then scan
 else
  match root with
  | .error error=>skip error true scan
  | .ok listing=>readRecords request stops listing [] scan

end

/-- What is kept of successive batches by the loop of `run_request`. -/
def recheck (limit : UInt64) : ℕ → ℕ → List (List DirectoryEntry) → List (List DirectoryEntry)
 | _, _, []=>[]
 | received, metadata, batch::rest=>
  let within:=entriesWithinBounds limit received metadata batch
  within.1::recheck limit within.2.1 within.2.2 rest

/-! ## The files of a tree -/

def names : Listing → List Bytes
 | .done _=>[]
 | .record name _ _ rest=>name::names rest

/-- No directory holds two records of one name. -/
def Distinct : Listing → Prop
 | .done _=>True
 | .record name _ children rest=>name ∉ names rest ∧ Distinct children ∧ Distinct rest

/-- A regular file below the directory at the first trail, where no name is excluded. -/
inductive Reaches : Trail → Listing → Trail → FileStatus → Prop
 | file {trail name status children rest} (h:recursiveNameExcluded name=false):
  Reaches trail (.record name (.file status) children rest) (trail++[name]) status
 | inside {trail name children rest place status} (h:recursiveNameExcluded name=false)
  (hinside:Reaches (trail++[name]) children place status):
  Reaches trail (.record name .directory children rest) place status
 | after {trail name node children rest place status} (h:Reaches trail rest place status):
  Reaches trail (.record name node children rest) place status

def found (trail : Trail) (name : Bytes) (inside : List Found) : Record → List Found
 | .file status=>if recursiveNameExcluded name then [] else [(trail++[name],status)]
 | .directory=>if recursiveNameExcluded name then [] else inside
 | _=>[]

def below : Trail → Listing → List Found
 | _, .done _=>[]
 | trail, .record name node children rest=>
  found trail name (below (trail++[name]) children) node++below trail rest

section
variable {t trail place : Trail} {status : FileStatus} {listing : Listing}

lemma mem_found {n : Bytes} {inside : List Found} {node : Record}:
 (place,status)∈found t n inside node ↔ recursiveNameExcluded n=false ∧
  (node=.file status ∧ place=t++[n] ∨ node=.directory ∧ (place,status)∈inside):=by
 cases h:recursiveNameExcluded n<;>cases node<;>simp [found,h,eq_comm,and_comm]

lemma mem_below : (place,status)∈below t listing ↔ Reaches t listing place status:=by
 induction listing generalizing t with
 | done error=>exact ⟨fun h=>(List.not_mem_nil h).elim,nofun⟩
 | record n node children rest ihchildren ih=>
  rw [below,List.mem_append,ih,mem_found,ihchildren]
  constructor
  · intro h
    cases h with
    | inl h=>
     obtain ⟨hname,⟨rfl,rfl⟩ | ⟨rfl,h⟩⟩:=h
     · exact .file hname
     · exact .inside hname h
    | inr h=>exact .after h
  · intro h
    cases h with
    | file hname=>exact .inl ⟨hname,.inl ⟨rfl,rfl⟩⟩
    | inside hname h=>exact .inl ⟨hname,.inr ⟨rfl,h⟩⟩
    | after h=>exact .inr h

lemma below_named (h:(place,status)∈below t listing) : ∃ n∈names listing,t++[n] <+: place:=by
 induction listing generalizing t with
 | done error=>exact (List.not_mem_nil h).elim
 | record n node children rest ihchildren ih=>
  cases List.mem_append.mp h with
  | inl h=>
   refine ⟨n,List.mem_cons_self,?_⟩
   obtain ⟨-,⟨-,rfl⟩ | ⟨-,h⟩⟩:=mem_found.mp h
   · exact List.prefix_rfl
   · obtain ⟨inner,-,hbefore⟩:=ihchildren h
     exact (List.prefix_append _ _).trans hbefore
  | inr h=>
   obtain ⟨other,hother,hbefore⟩:=ih h
   exact ⟨other,.tail _ hother,hbefore⟩

lemma apart {n other : Bytes} (h:t++[n] <+: place)
 (h':t++[other] <+: place) : n=other:=by
 have heq:=(List.prefix_of_prefix_length_le h h' (by simp)).eq_of_length (by simp)
 simpa using heq

lemma below_nodup (h:Distinct listing) : ((below t listing).map Prod.fst).Nodup:=by
 induction listing generalizing t with
 | done error=>exact List.nodup_nil
 | record n node children rest ihchildren ih=>
  rw [below,List.map_append,List.nodup_append]
  refine ⟨?_,ih h.2.2,?_⟩
  · cases hname:recursiveNameExcluded n<;>cases node<;>simp [found,hname]
    exact ihchildren h.2.1
  · intro place hplace second hsecond heq
    subst heq
    obtain ⟨⟨place,status⟩,hfile,rfl⟩:=List.mem_map.mp hplace
    obtain ⟨⟨later,status'⟩,hlater,heq⟩:=List.mem_map.mp hsecond
    cases heq
    obtain ⟨other,hother,hbefore⟩:=below_named hlater
    obtain ⟨-,⟨-,rfl⟩ | ⟨-,hinside⟩⟩:=mem_found.mp hfile
    · exact h.1 (apart List.prefix_rfl hbefore ▸ hother)
    · obtain ⟨inner,-,hinner⟩:=below_named hinside
      exact h.1 (apart ((List.prefix_append _ _).trans hinner) hbefore ▸ hother)

end

/-! ## The walk -/

def metadataOf (request : CatalogRequest) (files : List Found) : ℕ:=
 (files.map fun file=>recursiveMetadataCost (entryAt request.path file)).sum

lemma metadataOf_append (r : CatalogRequest) (files more : List Found):
 metadataOf r (files++more)=metadataOf r files+metadataOf r more:=by
 rw [metadataOf,List.map_append,List.sum_append]
 rfl

structure Sound (request : CatalogRequest) (scan : RecursiveTraversal) : Prop where
 stopped : scan.stopped=true → scan.truncated=true
 error : scan.error.isError=true → scan.truncated=true
 files : scan.files=scan.emitted.length
 files_le : scan.emitted.length≤(recursiveEntryLimit request).toNat
 metadata : scan.metadataBytes=metadataOf request scan.emitted
 metadata_le : scan.metadataBytes≤kRecursiveCatalogMaximumMetadataBytes
 entered : scan.directoriesVisited=scan.entered.length
 entered_le : scan.directoriesVisited ≤ request.maximumDirectories.toNat
 depth_le : ∀trail∈scan.entered,trail.length ≤ request.maximumDepth.toNat

/-- Some of these files are emitted, and all of them where nothing is reported as cut. -/
structure Moves (request : CatalogRequest) (files : List Found)
  (scan after : RecursiveTraversal) : Prop where
 sound : Sound request after
 emits : ∃ new,after.emitted=scan.emitted++new ∧ new.Sublist files ∧
  (after.truncated=false → scan.truncated=false ∧ new=files)

section
variable {r request : CatalogRequest} {files more : List Found} (stops : Stops)
 {scan middle after : RecursiveTraversal}

lemma Moves.trans (h:Moves r files scan middle) (h':Moves r more middle after):
 Moves r (files++more) scan after:=by
 refine ⟨h'.sound,?_⟩
 obtain ⟨new,hnew,hsub,hall⟩:=h.emits
 obtain ⟨next,hnext,hsub',hall'⟩:=h'.emits
 refine ⟨new++next,by rw [hnext,hnew,List.append_assoc],hsub.append hsub',?_⟩
 intro hcut
 obtain ⟨hmiddle,rfl⟩:=hall' hcut
 obtain ⟨hscan,rfl⟩:=hall hmiddle
 exact ⟨hscan,rfl⟩

lemma Moves.cut (h:Moves r files scan after) (hcut:after.truncated=true)
 (hfiles:files.Sublist more) : Moves r more scan after:=by
 obtain ⟨new,hnew,hsub,-⟩:=h.emits
 refine ⟨h.sound,new,hnew,hsub.trans hfiles,?_⟩
 intro hfalse
 rw [hcut] at hfalse
 cases hfalse

lemma Moves.same (h:Sound r after) (hemitted:after.emitted=scan.emitted)
 (htruncated:after.truncated=false → scan.truncated=false):
 Moves r [] scan after:=
 ⟨h,[],by rw [hemitted,List.append_nil],List.nil_sublist _,fun hcut=>⟨htruncated hcut,rfl⟩⟩

lemma tick_moves (h:Sound r scan) : Moves r [] scan (tick stops scan).2 ∧
 ((tick stops scan).1=false → (tick stops scan).2.truncated=true):=by
 unfold tick
 split_ifs with hstopped
 · exact ⟨Moves.same h rfl id,fun _=>h.stopped hstopped⟩
 · cases stops.tick scan.ticks with
   | going=>exact ⟨Moves.same { h with } rfl id,nofun⟩
   | timedOut | cancelled=>
    exact ⟨Moves.same { h with stopped:=fun _=>rfl,error:=fun _=>rfl } rfl nofun,
     fun _=>rfl⟩

lemma skip_moves (error : CatalogError) (root : Bool) (h:Sound r scan):
 Moves r [] scan (skip error root scan):=
 Moves.same { h with stopped:=fun _=>rfl,error:=fun _=>rfl } rfl nofun

lemma enter_moves (t : Trail) (h:Sound r scan) : Moves r [] scan (enter r stops t scan).2 ∧
  ((enter r stops t scan).1=false → (enter r stops t scan).2.truncated=true):=by
 obtain ⟨hmoves,hfalse⟩:=tick_moves stops h
 unfold enter
 generalize tick stops scan=ticked at hmoves hfalse
 obtain ⟨going,middle⟩:=ticked
 have hmiddle:Sound r middle:=hmoves.sound
 dsimp only
 split_ifs with hgoing hdepth hlimit
 · exact ⟨hmoves,fun _=>hfalse (by simpa using hgoing)⟩
 · exact ⟨hmoves.trans (Moves.same { hmiddle with stopped:=fun _=>rfl,error:=fun _=>rfl }
    rfl nofun),fun _=>rfl⟩
 · exact ⟨hmoves.trans (Moves.same { hmiddle with stopped:=fun _=>rfl,error:=fun _=>rfl }
    rfl nofun),fun _=>rfl⟩
 · refine ⟨hmoves.trans (Moves.same { hmiddle with
    entered:=by rw [List.length_append,hmiddle.entered]; rfl
    entered_le:=Nat.lt_of_not_le hlimit
    depth_le:=?_ } rfl id),nofun⟩
   intro place hplace
   cases List.mem_append.mp hplace with
   | inl h=>exact hmiddle.depth_le place h
   | inr h=>exact List.mem_singleton.mp h ▸ Nat.le_of_not_lt hdepth

lemma emit_moves (file : Found) (h:Sound r scan):
 Moves r [file] scan (emit r stops file scan).2 ∧ ((emit r stops file scan).1=false →
   (emit r stops file scan).2.truncated=true):=by
 obtain ⟨hmoves,hfalse⟩:=tick_moves stops h
 unfold emit
 generalize tick stops scan=ticked at hmoves hfalse
 obtain ⟨going,middle⟩:=ticked
 have hmiddle:Sound r middle:=hmoves.sound
 dsimp only
 split_ifs with hgoing hlimit hanswer
 · have hcut:=hfalse (by simpa using hgoing)
   exact ⟨hmoves.cut hcut (List.nil_sublist _),fun _=>hcut⟩
 · refine ⟨Moves.cut (hmoves.trans (Moves.same { hmiddle with
    stopped:=fun _=>rfl,error := fun _=>rfl } rfl nofun)) rfl (List.nil_sublist _),?_⟩
   exact fun _=>rfl
 all_goals
  rw [not_or,not_or,not_le,not_lt] at hlimit
  have hafter:Sound r { middle with
    metadataBytes:=middle.metadataBytes+recursiveMetadataCost (entryAt r.path file)
    files:=middle.files+1
    emitted:=middle.emitted++[file] }:=
   { hmiddle with
     files:=by rw [List.length_append,hmiddle.files]; rfl
     files_le:=by
      rw [List.length_append,←hmiddle.files]
      exact hlimit.2.1
     metadata:=by
      rw [hmiddle.metadata,metadataOf_append]
      rfl
     metadata_le:=by
      have:=hmiddle.metadata_le
      have:=hlimit.2.2
      dsimp only
      omega }
 · exact ⟨hmoves.trans ⟨hafter,[file],rfl,List.Sublist.refl _,fun hcut=>⟨hcut,rfl⟩⟩,nofun⟩
 · exact ⟨hmoves.trans ⟨{ hafter with stopped:=fun _=>rfl,error:=fun _=>rfl },
    [file],rfl,List.Sublist.refl _,nofun⟩,fun _=>rfl⟩

lemma readRecords_moves {listing : Listing} {t : Trail} (h:Sound r scan):
 Moves r (below t listing) scan (readRecords r stops listing t scan):=by
 induction listing generalizing t scan with
 | done error=>
  obtain ⟨hmoves,hfalse⟩:=tick_moves stops h
  unfold readRecords
  generalize tick stops scan=ticked at hmoves hfalse
  cases error with
  | none=>exact hmoves
  | some error=>
   dsimp only
   split_ifs
   · exact hmoves.trans (skip_moves _ _ hmoves.sound)
   · exact hmoves
 | record n node children rest ihchildren ih=>
  obtain ⟨hmoves,hfalse⟩:=tick_moves stops h
  unfold readRecords below
  generalize tick stops scan=ticked at hmoves hfalse
  obtain ⟨going,middle⟩:=ticked
  have hmiddle:Sound r middle:=hmoves.sound
  cases going with
  | false=>exact hmoves.cut (hfalse rfl) (List.nil_sublist _)
  | true=>
   refine hmoves.trans ?_
   obtain ⟨henter,hstop⟩:=enter_moves stops (t++[n]) hmiddle
   dsimp only
   cases hname:recursiveNameExcluded n with
   | true=>
    have hnone:found t n (below (t++[n]) children) node=[]:=by
     cases node<;>simp [found,hname]
    rw [hnone]
    exact ih hmiddle
   | false=>
    simp only [Bool.not_true,Bool.false_eq_true,if_false]
    cases node with
    | file status=>
     obtain ⟨hemit,hend⟩:=emit_moves stops (t++[n],status) hmiddle
     simp only [found,hname,Bool.false_eq_true,if_false]
     split_ifs with hanswer
     · exact hemit.trans (ih hemit.sound)
     · exact hemit.cut (hend (by simpa using hanswer)) (List.sublist_append_left _ _)
    | directory=>
     simp only [found,hname,Bool.false_eq_true,if_false]
     split_ifs with hentered
     · have hinside:=henter.trans (@ihchildren _ (t++[n]) henter.sound)
       exact hinside.trans (ih hinside.sound)
     · have hcut:=henter.cut (hstop (by simpa using hentered))
        (List.nil_sublist (below (t++[n]) children))
       exact hcut.trans (ih hcut.sound)
    | unopened error=>
     simp only [found]
     split_ifs
     · have hskip:=henter.trans (skip_moves error false henter.sound)
       exact hskip.trans (ih hskip.sound)
     · exact henter.trans (ih henter.sound)
    | link | failed error=>
     exact (skip_moves _ _ hmiddle).trans (ih (skip_moves _ _ hmiddle).sound)
    | other=>exact ih hmiddle

end

/-- A root that does not open or a tree, with names that tell the records of a directory apart. -/
structure Tree where
 root : Except CatalogError Listing
 distinct : ∀listing,root=.ok listing → Distinct listing

def Tree.files (tree : Tree) : List Found:=
 match tree.root with
 | .error _=>[]
 | .ok listing=>below [] listing

lemma walk_moves (r : CatalogRequest) (stops : Stops) (tree : Tree):
 Moves r tree.files {} (walkRecursive r stops tree.root):=by
 have hstart:Sound r {}:=⟨nofun,nofun,rfl,Nat.zero_le _,rfl,Nat.zero_le _,rfl,Nat.zero_le _,nofun⟩
 obtain ⟨henter,hfalse⟩:=enter_moves stops [] hstart
 unfold walkRecursive Tree.files
 dsimp only
 split_ifs with hentered
 · exact henter.cut (hfalse (by simpa using hentered)) (List.nil_sublist _)
 · cases tree.root with
   | error error=>exact henter.trans (skip_moves _ _ henter.sound)
   | ok listing=>exact henter.trans (readRecords_moves stops henter.sound)

lemma entries_kept {r : CatalogRequest} {files : List Found}:
 ∀ {received metadata : ℕ},received+files.length≤(recursiveEntryLimit r).toNat →
 metadata+metadataOf r files≤kRecursiveCatalogMaximumMetadataBytes →
 entriesWithinBounds (recursiveEntryLimit r) received metadata
  (files.map (entryAt r.path))=
 (files.map (entryAt r.path),received+files.length, metadata+metadataOf r files):=by
 induction files with
 | nil=>intro received metadata _ _; rfl
 | cons file rest ih=>
  intro received metadata hfiles hmetadata
  have hsum:metadataOf r (file::rest)=
    recursiveMetadataCost (entryAt r.path file)+metadataOf r rest := rfl
  rw [List.length_cons] at hfiles
  rw [hsum] at hmetadata
  rw [List.map_cons,entriesWithinBounds,if_neg,ih (by omega) (by omega),hsum,
   List.length_cons,Nat.add_right_comm,Nat.add_assoc metadata]
  · rfl
  · rw [not_or,not_or]
    refine ⟨fun h=>h rfl,?_,?_⟩<;>omega

lemma batches_kept {r : CatalogRequest} {batches : List (List DirectoryEntry)}:
 ∀ {received metadata : ℕ} {files : List Found},
 batches.flatten=files.map (entryAt r.path) →
 received+files.length≤(recursiveEntryLimit r).toNat →
 metadata+metadataOf r files≤kRecursiveCatalogMaximumMetadataBytes →
 recheck (recursiveEntryLimit r) received metadata batches=batches:=by
 induction batches with
 | nil=>intros; rfl
 | cons batch rest ih=>
  intro received metadata files hbatches hfiles hmetadata
  rw [List.flatten_cons] at hbatches
  obtain ⟨first,later,rfl,hfirst,hlater⟩:=List.map_eq_append_iff.mp hbatches.symm
  rw [List.length_append] at hfiles
  rw [metadataOf_append] at hmetadata
  rw [recheck,←hfirst,entries_kept (by omega) (by omega)]
  exact congrArg _ (@ih (received+first.length) (metadata+metadataOf r first) later
   hlater.symm (by omega) (by omega))

/-- A walk within its bounds that is complete wherever it does not say otherwise. -/
structure Honest (request : CatalogRequest) (tree : Tree) (scan : RecursiveTraversal) : Prop where
 files_le : scan.emitted.length≤(recursiveEntryLimit request).toNat
 directories_le : scan.entered.length ≤ request.maximumDirectories.toNat
 depth_le : ∀trail∈scan.entered,trail.length ≤ request.maximumDepth.toNat
 metadata_le : metadataOf request scan.emitted≤kRecursiveCatalogMaximumMetadataBytes
 once : (scan.emitted.map Prod.fst).Nodup
 complete : scan.truncated=false → scan.error.isError=false →
  ∀trail status,(trail,status)∈scan.emitted ↔
   ∃ listing,tree.root=.ok listing ∧ Reaches [] listing trail status
 uncut : ∀batches,batches.flatten <+: scan.emitted.map (entryAt request.path) →
  recheck (recursiveEntryLimit request) 0 0 batches=batches

theorem walk_honest (request : CatalogRequest) (stops : Stops) (tree : Tree):
 Honest request tree (walkRecursive request stops tree.root):=by
 have hmoves:=walk_moves request stops tree
 generalize walkRecursive request stops tree.root=scan at hmoves
 have h:=hmoves.sound
 obtain ⟨new,hnew,hsub,hall⟩:=hmoves.emits
 have hemitted:scan.emitted=new:=hnew
 have hmetadata:=h.metadata ▸ h.metadata_le
 refine ⟨h.files_le,h.entered ▸ h.entered_le,h.depth_le,hmetadata,?_,?_,?_⟩
 · rw [hemitted]
   refine (hsub.map Prod.fst).nodup ?_
   unfold Tree.files
   cases hroot:tree.root with
   | error error=>exact List.nodup_nil
   | ok listing=>exact below_nodup (tree.distinct listing hroot)
 · intro hcut _ trail status
   rw [hemitted,(hall hcut).2,Tree.files]
   cases tree.root with
   | error error=>exact ⟨fun h=>(List.not_mem_nil h).elim,nofun⟩
   | ok listing=>
    rw [mem_below]
    exact ⟨fun h=>⟨listing,rfl,h⟩,fun ⟨_,heq,h⟩=>by cases heq; exact h⟩
 · intro batches hbatches
   obtain ⟨rest,hrest⟩:=hbatches
   obtain ⟨first,later,hsplit,hfirst,-⟩:=List.map_eq_append_iff.mp hrest.symm
   have hlimit:=h.files_le
   rw [hsplit,metadataOf_append] at hmetadata
   rw [hsplit,List.length_append] at hlimit
   exact batches_kept hfirst.symm (by omega) (by omega)

end VoVe.RecursiveListing
