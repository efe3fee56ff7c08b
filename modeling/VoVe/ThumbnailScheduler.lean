import Mathlib.Data.Finset.Insert
import Mathlib.Data.Prod.Lex
import Mathlib.Data.UInt
import VoVe.BestScan

set_option autoImplicit false

/-! The queue of thumbnail requests of `thumbnail_scheduler.cpp`. -/

namespace VoVe.ThumbnailQueue
open BestScan

abbrev JobId := UInt64
abbrev RequestGeneration := UInt64
abbrev SourceId := UInt64

inductive ThumbnailPriority where
 | visibleSelected
 | visible
 | folder
 | nearby
 | rest
 deriving DecidableEq

structure ThumbnailRequest where
 jobId : JobId
 generation : RequestGeneration
 sourceId : SourceId
 canonicalEdge : UInt32
 priority : ThumbnailPriority
 deriving DecidableEq

def kMaximumCanonicalEdge : UInt32 := 4096
def kMaximumRememberedCancelledGenerations : ℕ := 4096
def kMaximumPriorityBypasses : UInt64 := 16
def kMaximumFolderPriorityBypasses : UInt64 := 4

inductive SubmitStatus where
 | queued
 | queuedAfterEviction
 | invalidRequest
 | duplicateJob
 | cancelledGeneration
 | queueFull
 deriving DecidableEq

structure SubmitResult where
 status : SubmitStatus
 evictedJob : Option JobId
 deriving DecidableEq

def SubmitResult.accepted (result : SubmitResult) : Bool:=
 result.status = .queued ∨ result.status = .queuedAfterEviction

structure PendingRequest where
 request : ThumbnailRequest
 sequence : UInt64
 dispatchCountAtSubmit : UInt64
 deriving DecidableEq

/-- The two counters wrap around. -/
structure ThumbnailScheduler where
 capacity : ℕ
 nextSequence : UInt64 := 0
 dispatchCount : UInt64 := 0
 pending : List PendingRequest := []
 pendingJobIds : Finset JobId := ∅
 cancelledGenerations : Finset RequestGeneration := ∅
 cancelledGenerationOrder : List RequestGeneration := []

def priorityRank : ThumbnailPriority → ℕ
 | .visibleSelected=>0
 | .visible=>1
 | .folder=>2
 | .nearby=>3
 | .rest=>4

def validRequest (request : ThumbnailRequest) : Bool:=
 request.jobId≠0 ∧ request.generation≠0 ∧ request.sourceId≠0 ∧
  request.canonicalEdge≠0 ∧ request.canonicalEdge ≤ kMaximumCanonicalEdge

def bypassLimit (priority : ThumbnailPriority) : UInt64:=
 if priority = .folder then kMaximumFolderPriorityBypasses else kMaximumPriorityBypasses

/-- Submitted at an earlier dispatch, or at the same one and before. -/
def older (candidate current : PendingRequest) : Bool:=
 candidate.dispatchCountAtSubmit < current.dispatchCountAtSubmit ∨
  (candidate.dispatchCountAtSubmit = current.dispatchCountAtSubmit ∧
   candidate.sequence < current.sequence)

def ahead (candidate current : PendingRequest) : Bool:=
 priorityRank candidate.request.priority < priorityRank current.request.priority ∨
  (priorityRank candidate.request.priority = priorityRank current.request.priority ∧
   candidate.sequence < current.sequence)

def behind (candidate current : PendingRequest) : Bool:=
 priorityRank candidate.request.priority > priorityRank current.request.priority ∨
  (priorityRank candidate.request.priority = priorityRank current.request.priority ∧
   candidate.sequence > current.sequence)

/-- The second loop of `next_index`, and `worst_index`: both start from the first request. -/
def bestIndex (better : PendingRequest → PendingRequest → Bool) : List PendingRequest → ℕ
 | []=>0
 | first::rest=>
  ((scan (fun _=>true) better rest 1 (some (0,first))).map Prod.fst).getD 0

namespace ThumbnailScheduler
variable (scheduler : ThumbnailScheduler)

def new (capacity : ℕ) : ThumbnailScheduler := ⟨capacity,0,0,[],∅,∅,[]⟩

def starved (candidate : PendingRequest) : Bool:=
 ¬scheduler.dispatchCount - candidate.dispatchCountAtSubmit
  < bypassLimit candidate.request.priority

def nextIndex : ℕ:=
 match scan scheduler.starved older scheduler.pending 0 none with
 | some (index,_)=>index
 | none=>bestIndex ahead scheduler.pending

def worstIndex : ℕ := bestIndex behind scheduler.pending

def eraseAt (index : ℕ) : Option PendingRequest × ThumbnailScheduler:=
 match scheduler.pending[index]? with
 | none=>(none,scheduler)
 | some erased=>
  (some erased,
   { scheduler with
     pendingJobIds:=scheduler.pendingJobIds.erase erased.request.jobId
     pending:=scheduler.pending.eraseIdx index })

variable (request : ThumbnailRequest)

def pushBack : ThumbnailScheduler:=
 { scheduler with
   pendingJobIds:=insert request.jobId scheduler.pendingJobIds
   pending:=scheduler.pending++[⟨request,scheduler.nextSequence,scheduler.dispatchCount⟩]
   nextSequence:=scheduler.nextSequence+1 }

def submit : SubmitResult × ThumbnailScheduler:=
 if !validRequest request then (⟨.invalidRequest,none⟩,scheduler)
 else if request.generation ∈ scheduler.cancelledGenerations then
  (⟨.cancelledGeneration,none⟩,scheduler)
 else if request.jobId ∈ scheduler.pendingJobIds then (⟨.duplicateJob,none⟩,scheduler)
 else if scheduler.capacity = 0 then (⟨.queueFull,none⟩,scheduler)
 else if scheduler.pending.length = scheduler.capacity then
  match scheduler.eraseAt scheduler.worstIndex with
  | (none,_)=>(⟨.queueFull,none⟩,scheduler)
  | (some worst,room)=>
   if priorityRank request.priority ≥ priorityRank worst.request.priority then
    (⟨.queueFull,none⟩,scheduler)
   else (⟨.queuedAfterEviction,some worst.request.jobId⟩,room.pushBack request)
 else (⟨.queued,none⟩,scheduler.pushBack request)

def takeNext : Option ThumbnailRequest × ThumbnailScheduler:=
 if scheduler.pending = [] then (none,scheduler)
 else
  match scheduler.eraseAt scheduler.nextIndex with
  | (none,_)=>(none,scheduler)
  | (some taken,rest)=>
   (some taken.request,{ rest with dispatchCount:=rest.dispatchCount+1 })

variable (generation : RequestGeneration)

/-- Beyond the limit the generation remembered for longest is forgotten. -/
def rememberCancelled : ThumbnailScheduler:=
 if generation ∈ scheduler.cancelledGenerations then scheduler
 else
  let cancelled:=insert generation scheduler.cancelledGenerations
  let order:=scheduler.cancelledGenerationOrder++[generation]
  match order with
  | expired::rest=>
   if order.length > kMaximumRememberedCancelledGenerations then
    { scheduler with
      cancelledGenerations:=cancelled.erase expired
      cancelledGenerationOrder:=rest }
   else
    { scheduler with
      cancelledGenerations:=cancelled
      cancelledGenerationOrder:=order }
  | []=>scheduler

def cancelGeneration : ℕ × ThumbnailScheduler:=
 let remembered:=scheduler.rememberCancelled generation
 let cancelled:=remembered.pending.filter (·.request.generation = generation)
 let kept:=remembered.pending.filter (·.request.generation≠generation)
 (remembered.pending.length - kept.length,
  { remembered with
    pendingJobIds:=
     cancelled.foldl (fun ids pending=>ids.erase pending.request.jobId)
      remembered.pendingJobIds
    pending:=kept })

def releaseGeneration : ThumbnailScheduler:=
 { scheduler with
   cancelledGenerations:=scheduler.cancelledGenerations.erase generation
   cancelledGenerationOrder:=scheduler.cancelledGenerationOrder.filter (·≠generation) }

def isGenerationCancelled : Bool := generation ∈ scheduler.cancelledGenerations

def size : ℕ := scheduler.pending.length

def jobIds : List JobId := scheduler.pending.map (·.request.jobId)

def requests : List ThumbnailRequest := scheduler.pending.map (·.request)

end ThumbnailScheduler

inductive Call where
 | submit (request : ThumbnailRequest)
 | takeNext
 | cancelGeneration (generation : RequestGeneration)
 | releaseGeneration (generation : RequestGeneration)

inductive Reply where
 | submitted (result : SubmitResult)
 | taken (request : Option ThumbnailRequest)
 | cancelled (count : ℕ)
 | released
 deriving DecidableEq

namespace ThumbnailScheduler
variable (scheduler : ThumbnailScheduler)

def step : Call → Reply × ThumbnailScheduler
 | .submit request=>
  let (result,after) := scheduler.submit request
  (.submitted result,after)
 | .takeNext=>
  let (request,after) := scheduler.takeNext
  (.taken request,after)
 | .cancelGeneration generation=>
  let (count,after) := scheduler.cancelGeneration generation
  (.cancelled count,after)
 | .releaseGeneration generation=>(.released,scheduler.releaseGeneration generation)

def after (calls : List Call) : ThumbnailScheduler:=
 calls.foldl (fun scheduler call=>(scheduler.step call).2) scheduler

end ThumbnailScheduler
end VoVe.ThumbnailQueue
