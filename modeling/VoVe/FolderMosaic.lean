import VoVe.ThumbnailScheduler

set_option autoImplicit false

/-! The mosaic of a folder's first images, as `preview/folder_mosaic.cpp` builds it. -/

namespace VoVe.FolderMosaic
open ThumbnailQueue (ThumbnailPriority)

abbrev FolderMosaicChildId := UInt64
abbrev TimePoint := ℤ

def kMaximumFolderMosaicEntries : ℕ := 64
def kMaximumFolderMosaicCandidates : ℕ := 4
def kFolderMosaicPriority : ThumbnailPriority := .folder

inductive FolderMosaicChildKind where
 | regularFile
 | directory
 | other
 deriving DecidableEq

structure FolderMosaicChild where
 id : FolderMosaicChildId
 kind : FolderMosaicChildKind
 deriving DecidableEq

inductive FolderMosaicChildDisposition where
 | accepted
 | ignoredNonFile
 | ignoredDuplicate
 | limitReached
 | finished
 | deadline
 deriving DecidableEq

inductive FolderMosaicProbeOutcome where
 | image
 | unsupported
 | error
 deriving DecidableEq

structure FolderMosaicProbeRequest where
 childId : FolderMosaicChildId
 priority : ThumbnailPriority := kFolderMosaicPriority
 deriving DecidableEq

structure FolderMosaicProbeResult where
 childId : FolderMosaicChildId
 outcome : FolderMosaicProbeOutcome
 deriving DecidableEq

inductive FolderMosaicProbeDisposition where
 | accepted
 | unexpectedChild
 | finished
 | deadline
 deriving DecidableEq

inductive FolderMosaicOutcome where
 | complete
 | partialResult
 | deadline
 | noCandidates
 deriving DecidableEq

structure FolderMosaicTile where
 candidateIndex : ℕ
 row : ℕ
 column : ℕ
 rowSpan : ℕ
 columnSpan : ℕ
 deriving DecidableEq

structure FolderMosaicResult where
 outcome : FolderMosaicOutcome
 entriesExamined : ℕ
 candidates : List FolderMosaicChildId
 layout : List FolderMosaicTile
 deriving DecidableEq

inductive ProbeState where
 | available
 | pending
 | image
 | rejected
 deriving DecidableEq

structure ProbeChild where
 id : FolderMosaicChildId
 state : ProbeState := .available
 deriving DecidableEq

/-- `make_layout`: the tiles in use, on two rows and two columns. -/
def makeLayout : ℕ → List FolderMosaicTile
 | 1=>[⟨0,0,0,2,2⟩]
 | 2=>[⟨0,0,0,2,1⟩,⟨1,0,1,2,1⟩]
 | 3=>[⟨0,0,0,2,1⟩,⟨1,0,1,1,1⟩,⟨2,1,1,1,1⟩]
 | 4=>(List.range 4).map fun index=>⟨index,index / 2,index % 2,1,1⟩
 | _=>[]

structure FolderMosaicBuilder where
 deadline : TimePoint
 observedChildIds : List FolderMosaicChildId := []
 probeChildren : List ProbeChild := []
 probesStarted : ℕ := 0
 childrenFinished : Bool := false
 result : Option FolderMosaicResult := none
 deriving DecidableEq

def inState (state : ProbeState) (children : List ProbeChild) : List ProbeChild:=
 children.filter fun child=>child.state = state

/-- A probe of the child is still to come or to be answered. -/
def ProbeChild.unresolved (child : ProbeChild) : Bool:=
 child.state = .available || child.state = .pending

def startFirst : List ProbeChild → Option (FolderMosaicChildId × List ProbeChild)
 | []=>none
 | child::rest=>
  if child.state = .available then some (child.id,{ child with state:=.pending }::rest)
  else (startFirst rest).map fun started=>(started.1,child::started.2)

def FolderMosaicProbeOutcome.state : FolderMosaicProbeOutcome → ProbeState
 | .image=>.image
 | .unsupported | .error=>.rejected

def answerFirst (probe : FolderMosaicProbeResult) : List ProbeChild → Option (List ProbeChild)
 | []=>none
 | child::rest=>
  if child.id = probe.childId then
   if child.state = .pending then some ({ child with state:=probe.outcome.state }::rest)
   else none
  else (answerFirst probe rest).map fun rest=>child::rest

namespace FolderMosaicBuilder

variable (builder : FolderMosaicBuilder)

def finalize (outcome : FolderMosaicOutcome):
  FolderMosaicBuilder:=
 let candidates:=((inState .image builder.probeChildren).map ProbeChild.id).take
  kMaximumFolderMosaicCandidates
 { builder with
   result:=some {
    outcome:=outcome
    entriesExamined:=builder.observedChildIds.length
    candidates:=candidates
    layout:=makeLayout candidates.length } }

def settle : FolderMosaicBuilder:=
 let candidateCount:=(inState .image builder.probeChildren).length
 if builder.result.isSome then builder
 else if kMaximumFolderMosaicCandidates ≤ candidateCount then builder.finalize .complete
 else if !builder.childrenFinished || builder.probeChildren.any ProbeChild.unresolved then builder
 else builder.finalize (if candidateCount = 0 then .noCandidates else .partialResult)

variable (now : TimePoint)

def expire : Bool × FolderMosaicBuilder:=
 let builder:=if builder.result.isNone && builder.deadline ≤ now then
   builder.finalize .deadline
  else builder
 (builder.result.any fun result=>result.outcome = .deadline,builder)

/-- What a builder that has a result answers. -/
def decided {α : Type} (result : FolderMosaicResult) (deadline finished : α) : α:=
 if result.outcome = .deadline then deadline else finished

def pushChild (child : FolderMosaicChild) (now : TimePoint):
  FolderMosaicChildDisposition × FolderMosaicBuilder:=
 match builder.result with
 | some result=>(decided result .deadline .finished,builder)
 | none=>
  let (expired,builder) := builder.expire now
  if expired then (.deadline,builder)
  else if builder.childrenFinished then (.limitReached,builder)
  else
   let isDuplicate:=builder.observedChildIds.contains child.id
   let observed:=builder.observedChildIds++[child.id]
   let builder:={ builder with
    observedChildIds:=observed
    childrenFinished:=observed.length = kMaximumFolderMosaicEntries }
   if isDuplicate then (.ignoredDuplicate,builder.settle)
   else if child.kind≠.regularFile then (.ignoredNonFile,builder.settle)
   else
    let builder:={ builder with
     probeChildren:=builder.probeChildren++[ProbeChild.mk child.id .available] }
    (.accepted,builder.settle)

def finishChildren : FolderMosaicBuilder:=
 if builder.result.isSome then builder
 else
  let (expired,builder) := builder.expire now
  if expired then builder else settle { builder with childrenFinished:=true }

def nextProbe:
  Option FolderMosaicProbeRequest × FolderMosaicBuilder:=
 if builder.result.isSome then (none,builder)
 else
  let (expired,builder) := builder.expire now
  if expired then (none,builder)
  else
   let images:=(inState .image builder.probeChildren).length
   let pending:=(inState .pending builder.probeChildren).length
   if kMaximumFolderMosaicCandidates ≤ images ||
     kMaximumFolderMosaicCandidates - images ≤ pending then (none,builder)
   else
    match startFirst builder.probeChildren with
    | none=>(none,builder.settle)
    | some (childId,children)=>
     (some ({ childId:=childId } : FolderMosaicProbeRequest),
      { builder with
        probeChildren:=children
        probesStarted:=builder.probesStarted+1 })

def submitProbe (probe : FolderMosaicProbeResult)
  (now : TimePoint) : FolderMosaicProbeDisposition × FolderMosaicBuilder:=
 match builder.result with
 | some result=>(decided result .deadline .finished,builder)
 | none=>
  let (expired,builder) := builder.expire now
  if expired then (.deadline,builder)
  else
   match answerFirst probe builder.probeChildren with
   | none=>(.unexpectedChild,builder)
   | some children=>(.accepted,settle { builder with probeChildren:=children })

def resultAt:
  Option FolderMosaicResult × FolderMosaicBuilder:=
 let builder:=if builder.result.isNone then (builder.expire now).2.settle else builder
 (builder.result,builder)

def pendingProbes : List FolderMosaicChildId:=
 ((inState .pending builder.probeChildren).map ProbeChild.id).take kMaximumFolderMosaicCandidates

end FolderMosaicBuilder

inductive MosaicCall where
 | pushChild (child : FolderMosaicChild) (now : TimePoint)
 | nextProbe (now : TimePoint)
 | submitProbe (probe : FolderMosaicProbeResult) (now : TimePoint)
 | finishChildren (now : TimePoint)
 | result (now : TimePoint)
 deriving DecidableEq

def MosaicCall.now : MosaicCall → TimePoint
 | .pushChild _ now | .nextProbe now | .submitProbe _ now | .finishChildren now | .result now=>now

def FolderMosaicBuilder.takes (builder : FolderMosaicBuilder) : MosaicCall → FolderMosaicBuilder
 | .pushChild child now=>(builder.pushChild child now).2
 | .nextProbe now=>(builder.nextProbe now).2
 | .submitProbe probe now=>(builder.submitProbe probe now).2
 | .finishChildren now=>builder.finishChildren now
 | .result now=>(builder.resultAt now).2

def after (deadline : TimePoint) (calls : List MosaicCall) : FolderMosaicBuilder:=
 calls.foldl FolderMosaicBuilder.takes { deadline:=deadline }

end VoVe.FolderMosaic
