import VoVe.CatalogTypes

set_option autoImplicit false

/-! The catalog session of `catalog_session.cpp`. Times are nanoseconds of the steady clock. -/

namespace VoVe.CatalogSession
open ByteCodec CatalogOrder CatalogTypes

def retryDelays : List ℤ := [1000000000,3000000000,10000000000]

inductive CatalogSessionState where
 | loading
 | waitingRetry
 | ready
 | networkDisconnected
 | timedOut
 | authenticationRequired
 | permissionDenied
 | unavailable
 deriving DecidableEq

structure CatalogSessionUpdate where
 state : CatalogSessionState := .loading
 entriesReceived : ℕ := 0
 modelChanged : Bool := false
 truncated : Bool := false
 error : CatalogError := {}
 retryInMs : Option ℤ := none
 directoriesVisited : UInt32 := 0
 deriving DecidableEq

structure Session where
 path : Bytes := []
 maximumEntries : UInt64 := 100000
 recursive : Bool := false
 directoriesVisited : UInt32 := 0
 nextGeneration : RequestGeneration := 0
 activeGeneration : RequestGeneration := 0
 state : CatalogSessionState := .unavailable
 lastError : CatalogError := {}
 retryIndex : ℕ := 0
 retryAt : ℤ := 0
 stageUntilSuccess : Bool := false
 stagedEntries : List DirectoryEntry := []
 sinkOpen : Bool := false
 truncated : Bool := false
 deriving DecidableEq

inductive SinkCall where
 | beginCatalog
 | replaceCatalog (entries : List DirectoryEntry)
 | appendCatalog (entries : List DirectoryEntry)
 | finishCatalog
 | abortCatalog
 deriving DecidableEq

inductive SourceCall where
 | submit (request : CatalogRequest)
 | cancel (generation : RequestGeneration)
 deriving DecidableEq

/-- The session in the middle of a call, with the calls it has made so far. -/
structure Turn where
 session : Session
 sinkCalls : List SinkCall := []
 sourceCalls : List SourceCall := []

namespace Turn

variable (turn : Turn)

def tellSink (c : SinkCall) : Turn:=
 { turn with sinkCalls:=turn.sinkCalls++[c] }

def tellSource (c : SourceCall) : Turn:=
 { turn with sourceCalls:=turn.sourceCalls++[c] }

def update (f : Session → Session) : Turn:=
 { turn with session:=f turn.session }

def cancelActive : Turn:=
 if turn.session.activeGeneration≠0 then
  turn.tellSource (.cancel turn.session.activeGeneration)
 else turn

def finishSinkIfOpen : Turn:=
 if turn.session.sinkOpen then
  (turn.tellSink .finishCatalog).update fun s=>{ s with sinkOpen:=false }
 else turn

def abortSinkIfOpen : Turn:=
 if turn.session.sinkOpen then
  (turn.tellSink .abortCatalog).update fun s=>{ s with sinkOpen:=false }
 else turn

def openSink : Turn := (turn.tellSink .beginCatalog).update fun s=>{ s with sinkOpen:=true }

end Turn

variable (s : Session)

def requestOf : CatalogRequest:=
 let request : CatalogRequest:=
  { generation:=s.activeGeneration
    path:=s.path
    maximumEntries:=s.maximumEntries
    recursive:=s.recursive }
 if s.recursive then { request with maximumEntries:=recursiveEntryLimit request } else request

def beginRequest (preserveVisibleEntries : Bool) (turn : Turn) : Turn:=
 let turn:=turn.update fun s =>
  { s with
    nextGeneration:=s.nextGeneration+1
    activeGeneration:=s.nextGeneration+1
    stageUntilSuccess:=preserveVisibleEntries
    stagedEntries:=[]
    state:=.loading
    directoriesVisited:=0 }
 turn.tellSource (.submit (requestOf turn.session))

/-- `open` with a path that is not empty; it throws before any change otherwise. -/
def openCatalog (path : Bytes) (maximumEntries : UInt64) (recursive preserveVisibleEntries : Bool)
  (s : Session) : Turn:=
 let turn:=(Turn.mk s [] []).cancelActive.finishSinkIfOpen.update fun s =>
  { s with
    path:=path
    maximumEntries:=maximumEntries
    recursive:=recursive
    retryIndex:=0
    retryAt:=0
    lastError:={}
    truncated:=false }
 beginRequest preserveVisibleEntries (if preserveVisibleEntries then turn else turn.openSink)

def refresh : Turn:=
 if s.path = [] then { session:=s }
 else
  let turn:=(Turn.mk s [] []).cancelActive.finishSinkIfOpen.update fun s =>
   { s with
     retryIndex:=0
     retryAt:=0
     lastError:={}
     truncated:=false }
  beginRequest true turn

def suspend : Turn:=
 let turn:=Turn.mk s [] []
 let turn:=
  if s.activeGeneration≠0 then
   turn.cancelActive.update fun s=>{ s with activeGeneration:=0 }
  else turn
 turn.abortSinkIfOpen.update fun s =>
  { s with
    stagedEntries:=[]
    stageUntilSuccess:=false
    retryIndex:=0
    retryAt:=0
    lastError:={}
    truncated:=false
    state:=.unavailable }

def makeUpdate : CatalogSessionUpdate:=
 { state:=s.state
   error:=s.lastError
   truncated:=s.truncated
   directoriesVisited:=s.directoriesVisited }

def shouldRetry (error : CatalogError) : Bool:=
 !s.recursive && (error.kind = .networkDisconnected || error.kind = .timedOut ||
  error.kind = .ioError)

def failureState : CatalogErrorKind → CatalogSessionState
 | .networkDisconnected=>.networkDisconnected
 | .timedOut=>.timedOut
 | .authenticationRequired=>.authenticationRequired
 | .permissionDenied=>.permissionDenied
 | _=>.unavailable

def toMilliseconds (nanoseconds : ℤ) : ℤ := nanoseconds.tdiv 1000000

abbrev Outcome := CatalogSessionUpdate × Turn

/-- The first loop of `poll`: batches of other generations are dropped. -/
def nextBatch (generation : RequestGeneration) : List CatalogBatch → Option CatalogBatch
 | []=>none
 | candidate::offered=>
  if candidate.generation = generation then some candidate else nextBatch generation offered

/-- The entries go to the staging list or to the sink. A recursive request that has something to
show stops staging. -/
def deliver (batch : CatalogBatch) (outcome : Outcome) : Outcome:=
 let (update,turn) := outcome
 let turn:=
  if turn.session.recursive && turn.session.stageUntilSuccess && batch.entries≠[] then
   turn.openSink.update fun s=>{ s with stageUntilSuccess:=false }
  else turn
 if turn.session.stageUntilSuccess then
  (update,turn.update fun s=>{ s with stagedEntries:=s.stagedEntries++batch.entries })
 else if batch.entries≠[] then
  ({ update with modelChanged:=true },turn.tellSink (.appendCatalog batch.entries))
 else (update,turn)

/-- An incomplete empty refresh does not replace the old files. -/
def succeed (outcome : Outcome) : Outcome:=
 let (update,turn) := outcome
 let (update,turn):=
  if turn.session.stageUntilSuccess then
   let (update,turn):=
    if !turn.session.recursive || !turn.session.truncated then
     ({ update with modelChanged:=true },
      (turn.tellSink (.replaceCatalog turn.session.stagedEntries)).update fun s =>
       { s with stagedEntries:=[] })
    else (update,turn)
   (update,turn.update fun s=>{ s with stageUntilSuccess:=false })
  else ({ update with modelChanged:=true },turn.finishSinkIfOpen)
 ({ update with state:=.ready,error:={} },
  turn.update fun s=>{ s with lastError:={},state:=.ready })

def dropEntries (outcome : Outcome) : Outcome:=
 let (update,turn) := outcome
 if turn.session.stageUntilSuccess then
  (update,turn.update fun s=>{ s with stagedEntries:=[] })
 else ({ update with modelChanged:=true },turn.abortSinkIfOpen)

variable (now : ℤ)

/-- A failed request waits for a retry or ends in the state of its error. -/
def fail (error : CatalogError) (outcome : Outcome) : Outcome:=
 let (update,turn) := dropEntries outcome
 let turn:=turn.update fun s=>{ s with lastError:=error }
 let update:={ update with error:=error }
 if shouldRetry turn.session error && turn.session.retryIndex < retryDelays.length then
  let delay:=retryDelays.getD turn.session.retryIndex 0
  ({ update with state:=.waitingRetry,retryInMs:=some (toMilliseconds delay) },
   turn.update fun s =>
    { s with
      retryIndex:=s.retryIndex+1
      retryAt:=now+delay
      state:=.waitingRetry })
 else
  ({ update with state:=failureState error.kind },
   turn.update fun s=>{ s with state:=failureState error.kind })

def successfulResult (batch : CatalogBatch) : Bool:=
 !batch.error.isError || (s.recursive && !batch.rootFailed)

def receive (batch : CatalogBatch) (outcome : Outcome) : Outcome:=
 let (update,turn) := outcome
 let successful:=successfulResult turn.session batch
 let turn:=turn.update fun s =>
  { s with directoriesVisited:=max s.directoriesVisited batch.directoriesVisited }
 let update:=
  { update with
    directoriesVisited:=turn.session.directoriesVisited
    entriesReceived:=batch.entries.length }
 let (update,turn) := deliver batch (update,turn)
 let turn:=turn.update fun s =>
  { s with truncated:=s.truncated || batch.truncated || (s.recursive && batch.error.isError) }
 let update:={ update with truncated:=turn.session.truncated }
 if !batch.isFinal then (update,turn)
 else if successful then succeed (update,turn)
 else fail now batch.error (update,turn)

/-- The start of `poll`: a retry whose time has come is submitted. -/
def resume (s : Session) : Turn:=
 if s.state = .waitingRetry ∧ ¬now < s.retryAt then beginRequest true { session:=s }
 else { session:=s }

/-- `poll`, given what the source would answer, up to its first empty answer. -/
def poll (offered : List CatalogBatch) (s : Session) : Outcome:=
 if s.state = .waitingRetry ∧ now < s.retryAt then
  ({ makeUpdate s with retryInMs:=some (toMilliseconds (s.retryAt - now)) },{ session:=s })
 else
  let turn:=resume now s
  if turn.session.state≠.loading then (makeUpdate turn.session,turn)
  else
   match nextBatch turn.session.activeGeneration offered with
   | none=>(makeUpdate turn.session,turn)
   | some batch=>receive now batch (makeUpdate turn.session,turn)

end VoVe.CatalogSession
