import VoVe.FrameStream
import VoVe.HelperProtocol
import VoVe.SearchRoots

set_option autoImplicit false

/-! The application's side of a search, `global_search_client.cpp`: the calls of its owner, the
output of the helper process and the timers. -/

namespace VoVe.SearchClient
open AsciiText ByteCodec Checks HelperProtocol
open SearchRoots (normalizeAllowedRoots pathIsWithinAllowedRoots)

def kSearchFrameHeaderBytes : ℕ := 4

def framePayload (payload : Bytes) : Except String Bytes := do
 require (payload.length ≤ kSearchMaximumFrameBytes) "search frame exceeds protocol limits"
 pure (appendInteger (UInt32.ofNat payload.length)++payload)

def decodeFrameSize (header : Bytes) : Except String ℕ := do
 let error:="search frame header is invalid"
 let (size,_) ← (ScanCodec.integer UInt32 error).run header
 require (header.length = kSearchFrameHeaderBytes && size.toNat ≤ kSearchMaximumFrameBytes) error
 pure size.toNat

/-- What passes between the client and its owner. -/
inductive Exchange where
 | started (generation : ℕ) (allowedRoots : List Bytes)
 | cancelled
 | reply (batch : SearchBatch)

/-- The generation of a running search is the identity of its process. -/
structure Client where
 nextGeneration : ℕ := 0
 activeGeneration : Option ℕ := none
 process : Bool := false
 allowedRoots : List Bytes := []
 requestFrame : Bytes := []
 incoming : Bytes := []
 finalSeen : Bool := false
 finalBatch : Option SearchBatch := none
 log : List Exchange := []

/-- Whether the owner cancels inside its reply handler, by the length of the log. A search it starts
there is a cancellation and a start right after. -/
abbrev Owner := ℕ → Bool

namespace Client
variable (makeSearchKey : Bytes → Bytes) (owner : Owner) (client : Client) (generation : ℕ)

def cancel : Client:=
 { nextGeneration:=client.nextGeneration,log:=client.log }

def ownerCancels : Client := { client.cancel with log:=client.log++[.cancelled] }

def deliver (batch : SearchBatch) : Client:=
 let client:={ client with log:=client.log++[.reply batch] }
 if owner client.log.length then client.ownerCancels else client

def failCurrent (status : SearchStatus) (message : Bytes) : Client:=
 match client.activeGeneration with
 | none=>client
 | some generation=>
  { client with
    activeGeneration:=none
    process:=false
    finalSeen:=true
    finalBatch:=none
    incoming:=[] }.deliver owner
   { generation:=UInt64.ofNat generation,status,messageUtf8:=message,isFinal:=true }

def isOpen : Bool := client.process && client.activeGeneration = some generation

def within (batch : SearchBatch) : Bool:=
 batch.entries.all fun entry=>pathIsWithinAllowedRoots entry.pathUtf8 client.allowedRoots

def keyed (batch : SearchBatch) : SearchBatch:=
 { batch with entries:=batch.entries.map fun entry=>
   { entry with searchKeyUtf8:=makeSearchKey entry.nameUtf8 } }

def acceptPayload (payload : Bytes) : Client:=
 match decodeSearchBatch payload with
 | .error error=>client.failCurrent owner .ioError (utf8 error)
 | .ok batch=>
  if batch.generation ≠ UInt64.ofNat generation then
   client.failCurrent owner .ioError (utf8 "search helper returned a wrong generation")
  else if !client.within batch then
   client.failCurrent owner .ioError (utf8 "search helper returned a path outside allowed roots")
  else
   let batch:=keyed makeSearchKey batch
   if batch.isFinal then { client with finalSeen:=true,finalBatch:=some batch }
   else client.deliver owner batch

/-- The body of the loop of `consume_output`, and its check of what follows a final result. -/
def takeFrame (client : Client) (buffer : Bytes) : Option (ℕ × Client):=
 if client.finalSeen then
  if buffer = [] then none
  else some (0,client.failCurrent owner .ioError
   (utf8 "search helper returned output after its final result"))
 else if buffer.length < kSearchFrameHeaderBytes then none
 else match decodeFrameSize (buffer.take kSearchFrameHeaderBytes) with
  | .error error=>some (0,client.failCurrent owner .ioError (utf8 error))
  | .ok payloadSize=>
   let frameSize:=kSearchFrameHeaderBytes+payloadSize
   if buffer.length < frameSize then none
   else some (frameSize,client.acceptPayload makeSearchKey owner generation
    ((buffer.take frameSize).drop kSearchFrameHeaderBytes))

lemma failCurrent_closed (status : SearchStatus) (message : Bytes):
 (client.failCurrent owner status message).isOpen generation=false:=by
 cases hactive:client.activeGeneration with
 | none=>simp [failCurrent,isOpen,hactive]
 | some found=>
  simp only [failCurrent,hactive,deliver]
  split<;>rfl

lemma takeFrame_used {client next : Client} {buffer : Bytes} {size : ℕ}
 (h:takeFrame makeSearchKey owner generation client buffer=some (size,next)):
 size ≤ buffer.length ∧ (next.isOpen generation=true → 0<size):=by
 unfold takeFrame at h
 split_ifs at h
 · obtain ⟨rfl,rfl⟩:=Prod.mk.inj (Option.some.inj h)
   simp [failCurrent_closed]
 · split at h
   · obtain ⟨rfl,rfl⟩:=Prod.mk.inj (Option.some.inj h)
     simp [failCurrent_closed]
   · dsimp only at h
     split_ifs at h with hlong
     obtain ⟨rfl,-⟩:=Prod.mk.inj (Option.some.inj h)
     exact ⟨not_lt.mp hlong,fun _=>by simp [kSearchFrameHeaderBytes]⟩

lemma takeFrame_append {client : Client} {buffer : Bytes} {found : ℕ × Client} (more : Bytes)
 (h:takeFrame makeSearchKey owner generation client buffer=some found):
 takeFrame makeSearchKey owner generation client (buffer++more)=some found:=by
 unfold takeFrame at h ⊢
 split_ifs at h with hfinal hempty hshort
 · rw [if_pos hfinal,if_neg (by simp [hempty])]
   exact h
 · have hlong:¬(buffer++more).length<kSearchFrameHeaderBytes:=by rw [List.length_append]; omega
   rw [if_neg hfinal,if_neg hlong,List.take_append_of_le_length (not_lt.mp hshort)]
   split at h
   · exact h
   · dsimp only at h ⊢
     split_ifs at h with hsize
     rw [if_neg (by rw [List.length_append]; omega),
      List.take_append_of_le_length (not_lt.mp hsize)]
     exact h

def reader : FrameReader Client UInt8 where
 isOpen client := client.isOpen generation
 take:=takeFrame makeSearchKey owner generation
 used:=takeFrame_used makeSearchKey owner generation
 decided more:=takeFrame_append makeSearchKey owner generation more

/-- The loop takes the collected bytes with it. -/
def apart : Client × Bytes := ({ client with incoming:=[] },client.incoming)

def joined (received : Client × Bytes) : Client := { received.1 with incoming:=received.2 }

def consumeOutput (bytes : Bytes) : Client:=
 if client.isOpen generation then
  joined ((reader makeSearchKey owner generation).receive client.apart bytes)
 else client

/-- The last read of the output comes with it. -/
def completeCurrent (bytes : Bytes) : Client:=
 if client.finalBatch.isNone then client
 else
  let client:=match client.activeGeneration with
   | none=>client
   | some generation=>client.consumeOutput makeSearchKey owner generation bytes
  match client.finalBatch with
  | none=>client
  | some batch=>client.cancel.deliver owner batch

def start (query : Bytes) (allowedRoots : List Bytes) (maximumResults : ℕ) : Client:=
 let generation:=client.nextGeneration+1
 let roots:=normalizeAllowedRoots allowedRoots
 let client : Client:=
  { nextGeneration:=generation
    activeGeneration:=some generation
    allowedRoots:=roots
    log:=client.log++[.started generation roots] }
 if query = [] ∨ roots = [] ∨ maximumResults = 0 then
  client.failCurrent owner .invalidRequest (utf8 "query and allowed roots are required")
 else
  let request : SearchRequest:=
   { generation:=UInt64.ofNat generation
     queryUtf8:=query
     allowedRootsUtf8:=roots
     maximumResults:=UInt64.ofNat (min maximumResults kMaximumSearchResults) }
  match (encodeSearchRequest request).bind framePayload with
  | .error _=>
   client.failCurrent owner .invalidRequest (utf8 "search request is too large")
  | .ok requestFrame=>{ client with requestFrame,process:=true }

end Client

inductive Event where
 /-- The query comes trimmed. -/
 | start (query : Bytes) (allowedRoots : List Bytes) (maximumResults : ℕ)
 | cancel
 | started (generation written : ℕ)
 | output (generation : ℕ) (bytes : Bytes)
 | finished (generation : ℕ) (bytes : Bytes)
 | failed (generation : ℕ) (failedToStart : Bool) (text bytes : Bytes)
 | timeout
 | exitTimeout (bytes : Bytes)

namespace Client
variable (makeSearchKey : Bytes → Bytes) (owner : Owner) (client : Client) (generation : ℕ)

def processFinished (bytes : Bytes) : Client:=
 let client:=client.consumeOutput makeSearchKey owner generation bytes
 if !client.isOpen generation then client
 else if !client.finalSeen then
  client.failCurrent owner .ioError (utf8 (if client.incoming = [] then
   "search helper stopped without a result" else "search helper returned a partial frame"))
 else client.completeCurrent makeSearchKey owner []

def processFailed (failedToStart : Bool) (text bytes : Bytes) : Client:=
 if client.finalSeen then
  let client:=client.consumeOutput makeSearchKey owner generation bytes
  if client.isOpen generation then client.completeCurrent makeSearchKey owner [] else client
 else client.failCurrent owner (if failedToStart then .providerUnavailable else .ioError) text

def step : Event → Client
 | .start query allowedRoots maximumResults=>
  client.start owner query allowedRoots maximumResults
 | .cancel=>client.ownerCancels
 | .started generation written=>
  if client.isOpen generation ∧ written ≠ client.requestFrame.length then
   client.failCurrent owner .ioError (utf8 "search request could not be written")
  else client
 | .output generation bytes=>client.consumeOutput makeSearchKey owner generation bytes
 | .finished generation bytes=>client.processFinished makeSearchKey owner generation bytes
 | .failed generation failedToStart text bytes=>
  if client.isOpen generation then
   client.processFailed makeSearchKey owner generation failedToStart text bytes
  else client
 | .timeout=>
  if client.process && client.activeGeneration.isSome then
   client.failCurrent owner .timedOut (utf8 "search helper timed out")
  else client
 | .exitTimeout bytes=>client.completeCurrent makeSearchKey owner bytes

def run (events : List Event) : Client := events.foldl (step makeSearchKey owner) client

end Client

/-! ## What the owner is told -/

/-- A search as its owner follows it: the generation and the roots. -/
abbrev Search := ℕ × List Bytes

def Fits (search : Search) (batch : SearchBatch) : Prop:=
 batch.generation = UInt64.ofNat search.1 ∧
  ∀entry ∈ batch.entries,pathIsWithinAllowedRoots entry.pathUtf8 search.2 = true

instance (search : Search) (batch : SearchBatch) : Decidable (Fits search batch):=
 inferInstanceAs (Decidable (_ ∧ _))

/-- The search that goes on after an exchange, and nothing for an exchange out of place: a reply
belongs to the search that goes on, stays inside its roots, and ends it where it is final. -/
def follow : Option Search → Exchange → Option (Option Search)
 | _,.started generation roots=>some (some (generation,roots))
 | _,.cancelled=>some none
 | none,.reply _=>none
 | some search,.reply batch=>
  if Fits search batch then some (if batch.isFinal then none else some search) else none

namespace Client

def current (client : Client) : Option Search:=
 client.activeGeneration.map (·,client.allowedRoots)

structure Sound (client : Client) : Prop where
 followed : client.log.foldlM follow none = some client.current
 pending : ∀batch,client.finalBatch = some batch → client.finalSeen = true ∧
  batch.isFinal = true ∧ ∃ search,client.current = some search ∧ Fits search batch

section Soundness
variable {makeSearchKey : Bytes → Bytes} {owner : Owner} {client : Client} {generation : ℕ}

lemma follows {search next : Option Search} {exchange : Exchange}
 (hlog:client.log.foldlM follow none=some search) (h:follow search exchange=some next):
 (client.log++[exchange]).foldlM follow none=some next:=by
 rw [List.foldlM_append,hlog]
 simp [h]

lemma sound_idle (hlog:client.log.foldlM follow none=some client.current)
 (hnone:client.finalBatch=none) : Sound client:=
 ⟨hlog,by simp [hnone]⟩

lemma deliver_sound {search : Search} {batch : SearchBatch}
 (hlog:client.log.foldlM follow none=some (some search)) (hfits:Fits search batch)
 (hcurrent:client.current=if batch.isFinal then none else some search)
 (hnone:client.finalBatch=none) : Sound (client.deliver owner batch):=by
 have hreply:(client.log++[Exchange.reply batch]).foldlM follow none=some client.current:=
  follows hlog (by rw [hcurrent]; exact if_pos hfits)
 unfold deliver
 dsimp only
 split
 · exact sound_idle (follows hreply rfl) rfl
 · exact sound_idle hreply hnone

lemma current_active (h:Sound client) (hactive:client.activeGeneration=some generation):
 client.log.foldlM follow none=some (some (generation,client.allowedRoots)):=by
 rw [h.followed,current,hactive]
 rfl

lemma failCurrent_sound (h:Sound client) (status : SearchStatus) (message : Bytes):
 Sound (client.failCurrent owner status message):=by
 unfold failCurrent
 split
 · exact h
 · next hactive =>
  have hlog:=current_active h hactive
  exact deliver_sound hlog ⟨rfl,by simp⟩ rfl rfl

lemma acceptPayload_sound (h:Sound client) (hactive:client.activeGeneration=some generation)
 (hfinal:client.finalSeen=false) (payload : Bytes):
 Sound (client.acceptPayload makeSearchKey owner generation payload):=by
 have hnone:client.finalBatch=none:=by
  by_contra hsome
  obtain ⟨batch,hbatch⟩:=Option.ne_none_iff_exists'.mp hsome
  exact Bool.false_ne_true (hfinal.symm.trans (h.pending batch hbatch).1)
 have hcurrent:client.current=some (generation,client.allowedRoots):=by rw [current,hactive]; rfl
 unfold acceptPayload
 split
 · exact failCurrent_sound h _ _
 · next batch _ =>
  dsimp only
  split_ifs with hgeneration hwithin hisFinal
  · exact failCurrent_sound h _ _
  · exact failCurrent_sound h _ _
  all_goals
   have hfits:Fits (generation,client.allowedRoots) (keyed makeSearchKey batch):=
    ⟨not_not.mp hgeneration,by simpa [within,keyed] using hwithin⟩
  · exact ⟨h.followed,fun found hfound=>by
    obtain rfl:=Option.some.inj hfound
    exact ⟨rfl,hisFinal,_,hcurrent,hfits⟩⟩
  · exact deliver_sound (current_active h hactive) hfits (by rw [hcurrent,if_neg hisFinal]) hnone

lemma takeFrame_cases {next : Client} {buffer : Bytes} {size : ℕ}
 (htake:takeFrame makeSearchKey owner generation client buffer=some (size,next)):
 (∃ status message,next=client.failCurrent owner status message) ∨ (client.finalSeen=false ∧
  ∃ payload,next=client.acceptPayload makeSearchKey owner generation payload):=by
 unfold takeFrame at htake
 split_ifs at htake with hfinal
 · exact .inl ⟨_,_,(Prod.mk.inj (Option.some.inj htake)).2.symm⟩
 · split at htake
   · exact .inl ⟨_,_,(Prod.mk.inj (Option.some.inj htake)).2.symm⟩
   · dsimp only at htake
     split_ifs at htake
     exact .inr ⟨Bool.eq_false_of_not_eq_true hfinal,_,
      (Prod.mk.inj (Option.some.inj htake)).2.symm⟩

lemma takeFrame_sound (h:Sound client) (hopen:client.isOpen generation=true) {buffer : Bytes}
 {size : ℕ} {next : Client}
 (htake:takeFrame makeSearchKey owner generation client buffer=some (size,next)):
 Sound next:=by
 simp only [isOpen,Bool.and_eq_true,decide_eq_true_eq] at hopen
 obtain ⟨status,message,rfl⟩ | ⟨hfinal,payload,rfl⟩:=takeFrame_cases htake
 · exact failCurrent_sound h status message
 · exact acceptPayload_sound h hopen.2 hfinal payload

lemma consumeOutput_sound (h:Sound client) (bytes : Bytes):
 Sound (client.consumeOutput makeSearchKey owner generation bytes):=by
 unfold consumeOutput
 split
 · have hconsumed:=(reader makeSearchKey owner generation).consume_preserves
    (fun _ _ _ _ hopen hsound htake=>takeFrame_sound hsound hopen htake)
    (client.incoming++bytes)
    (show Sound { client with incoming:=[] } from ⟨h.followed,h.pending⟩)
   exact ⟨hconsumed.followed,hconsumed.pending⟩
 · exact h

lemma completeCurrent_sound (h:Sound client) (bytes : Bytes):
 Sound (client.completeCurrent makeSearchKey owner bytes):=by
 unfold completeCurrent
 split
 · exact h
 · dsimp only
   split
   · split
     · exact h
     · exact consumeOutput_sound h bytes
   · next batch hbatch =>
    have hnext:Sound (match client.activeGeneration with
      | none=>client
      | some generation=>client.consumeOutput makeSearchKey owner generation bytes):=by
     split
     · exact h
     · exact consumeOutput_sound h bytes
    obtain ⟨-,hfinal,search,hcurrent,hfits⟩:=hnext.pending batch hbatch
    exact deliver_sound (hnext.followed.trans (congrArg some hcurrent)) hfits
     (if_pos hfinal).symm rfl

lemma start_sound (h:Sound client) (query : Bytes) (roots : List Bytes) (maximum : ℕ):
 Sound (client.start owner query roots maximum):=by
 have hstarted:=@follows client _ _ (.started (client.nextGeneration+1)
  (normalizeAllowedRoots roots)) h.followed rfl
 unfold start
 dsimp only
 split
 · exact failCurrent_sound (sound_idle hstarted rfl) _ _
 · split
   · exact failCurrent_sound (sound_idle hstarted rfl) _ _
   · exact sound_idle hstarted rfl

lemma step_sound (h:Sound client) (event : Event):
 Sound (client.step makeSearchKey owner event):=by
 cases event with
 | start query roots maximum=>exact start_sound h query roots maximum
 | cancel=>exact sound_idle (follows h.followed rfl) rfl
 | output generation bytes=>exact consumeOutput_sound h bytes
 | exitTimeout bytes=>exact completeCurrent_sound h bytes
 | started generation written=>
  simp only [step]
  split
  · exact failCurrent_sound h _ _
  · exact h
 | timeout=>
  simp only [step]
  split
  · exact failCurrent_sound h _ _
  · exact h
 | finished generation bytes=>
  have hread:Sound (client.consumeOutput makeSearchKey owner generation bytes):=
   consumeOutput_sound h bytes
  simp only [step,processFinished]
  split_ifs
  · exact hread
  · exact failCurrent_sound hread _ _
  · exact failCurrent_sound hread _ _
  · exact completeCurrent_sound hread _
 | failed generation failedToStart text bytes=>
  have hread:Sound (client.consumeOutput makeSearchKey owner generation bytes):=
   consumeOutput_sound h bytes
  simp only [step,processFailed]
  split
  · split
    · split
      · exact completeCurrent_sound hread _
      · exact hread
    · exact failCurrent_sound h _ _
  · exact h

end Soundness

section Delivery
variable {makeSearchKey : Bytes → Bytes} {owner : Owner} {client next : Client} {generation : ℕ}

lemma failCurrent_incoming (h:client.incoming=[]) (status : SearchStatus) (message : Bytes):
 (client.failCurrent owner status message).incoming=[]:=by
 unfold failCurrent
 split
 · exact h
 · simp only [deliver]
   split<;>rfl

lemma takeFrame_incoming (h:client.incoming=[]) {buffer : Bytes} {size : ℕ}
 (htake:takeFrame makeSearchKey owner generation client buffer=some (size,next)):
 next.incoming=[]:=by
 obtain ⟨status,message,rfl⟩ | ⟨-,payload,rfl⟩:=takeFrame_cases htake
 · exact failCurrent_incoming h status message
 · unfold acceptPayload
   split
   · exact failCurrent_incoming h _ _
   · dsimp only [deliver]
     split_ifs
     · exact failCurrent_incoming h _ _
     · exact failCurrent_incoming h _ _
     · exact h
     · rfl
     · exact h

lemma apart_joined {received : Client × Bytes} (h:received.1.incoming=[]):
 (joined received).apart=received:=by
 obtain ⟨client,incoming⟩:=received
 change ({ client with incoming:=[] },incoming)=(client,incoming)
 rw [←h]

lemma consumeOutput_append (first rest : Bytes):
 (client.consumeOutput makeSearchKey owner generation first).consumeOutput makeSearchKey owner
  generation rest=client.consumeOutput makeSearchKey owner generation (first++rest):=by
 cases hopen:client.isOpen generation with
 | false=>simp [consumeOutput,hopen]
 | true=>
  have hempty:((reader makeSearchKey owner generation).receive client.apart first).1.incoming=[]:=
   (reader makeSearchKey owner generation).consume_preserves (p:=fun client=>client.incoming=[])
    (fun _ _ _ _ _ h htake=>takeFrame_incoming h htake) _ rfl
  simp only [consumeOutput,hopen,if_true,←FrameReader.receive_receive]
  cases hnext:((reader makeSearchKey owner generation).receive client.apart first).1.isOpen
   generation with
  | false=>
   rw [FrameReader.receive_closed _ (FrameReader.settled_receive _ _ _) hnext]
   exact if_neg fun h=>Bool.false_ne_true (hnext.symm.trans h)
  | true=>
   refine (if_pos hnext).trans ?_
   rw [apart_joined hempty]

lemma foldl_consumeOutput (arrivals : List Bytes) (rest : Bytes):
 (arrivals.foldl (consumeOutput makeSearchKey owner · generation) client).consumeOutput
  makeSearchKey owner generation rest=
  client.consumeOutput makeSearchKey owner generation (arrivals.flatten++rest):=by
 induction arrivals generalizing client with
 | nil=>rfl
 | cons arrival arrivals ih=>
  rw [List.foldl_cons,ih,consumeOutput_append,List.flatten_cons,List.append_assoc]

/-- A frame the helper can write for a batch of results of this search. -/
structure Sent (search : Search) (batch : SearchBatch) (frame : Bytes) : Prop where
 fits : Fits search batch
 searchable : Searchable batch
 frame : (encodeSearchBatch batch).bind framePayload=.ok frame

lemma decodeFrameSize_appendInteger {size : ℕ} (h:size ≤ kSearchMaximumFrameBytes):
 decodeFrameSize (appendInteger (UInt32.ofNat size))=.ok size:=by
 have hsize:(UInt32.ofNat size).toNat=size:=by
  exact UInt32.toNat_ofNat_of_lt' (h.trans_lt (by decide))
 have hread (error : String) : (ScanCodec.integer UInt32 error).run
   (appendInteger (UInt32.ofNat size))=.ok (UInt32.ofNat size,[]):=by
  change found ((Reader.readInteger UInt32).run (appendInteger (UInt32.ofNat size))) error=_
  rw [←List.append_nil (appendInteger _),Reader.readInteger_append]
  rfl
 simp [decodeFrameSize,hread,hsize,h,WireInteger.width,kSearchFrameHeaderBytes,require]

lemma take_sent {batch : SearchBatch} {frame : Bytes}
 (hsent:Sent (generation,client.allowedRoots) batch frame) (hfinal:client.finalSeen=false):
 takeFrame makeSearchKey owner generation client frame=some (frame.length,
  if batch.isFinal then
   { client with finalSeen:=true,finalBatch:=some (keyed makeSearchKey batch) }
  else client.deliver owner (keyed makeSearchKey batch)):=by
 obtain ⟨⟨hgeneration,hroots⟩,hsearchable,hframe⟩:=hsent
 cases hencoded:encodeSearchBatch batch with
 | error error=>simp [hencoded,Except.bind] at hframe
 | ok payload=>
  rw [hencoded] at hframe
  change framePayload payload=_ at hframe
  rw [framePayload,bind_unit_eq_ok,require_eq_ok,pure_eq_ok,decide_eq_true_eq] at hframe
  obtain ⟨hsmall,rfl⟩:=hframe
  have hhead:(appendInteger (UInt32.ofNat payload.length)).length=kSearchFrameHeaderBytes:=
   appendInteger_length _
  have hlength:(appendInteger (UInt32.ofNat payload.length)++payload).length=
    kSearchFrameHeaderBytes+payload.length := by rw [List.length_append,hhead]
  have haccepted:client.acceptPayload makeSearchKey owner generation payload=if batch.isFinal then
     { client with finalSeen:=true,finalBatch:=some (keyed makeSearchKey batch) }
    else client.deliver owner (keyed makeSearchKey batch):=by
   rw [acceptPayload,(searchBatch_exact batch payload).mpr ⟨hencoded,hsearchable⟩]
   dsimp only
   rw [if_neg (not_not.mpr hgeneration),if_neg (by simpa [within] using hroots)]
   rfl
  rw [takeFrame,if_neg (by simp [hfinal]),hlength,if_neg (by omega),List.take_left' hhead,
   decodeFrameSize_appendInteger hsmall]
  dsimp only
  rw [if_neg (lt_irrefl _),←hlength,List.take_length,List.drop_left' hhead,haccepted]

lemma consume_sent {sent : List (SearchBatch × Bytes)} {last : SearchBatch × Bytes}
 (hopen:client.isOpen generation=true) (hfinal:client.finalSeen=false)
 (hsent:∀s∈sent,Sent (generation,client.allowedRoots) s.1 s.2 ∧ s.1.isFinal=false)
 (hlast:Sent (generation,client.allowedRoots) last.1 last.2) (hisFinal:last.1.isFinal=true):
 (reader makeSearchKey (fun _=>false) generation).consume client
  ((sent.map (·.2)).flatten++last.2)=
  ({ client with
     finalSeen:=true
     finalBatch:=some (keyed makeSearchKey last.1)
     log:=client.log++sent.map fun s=>.reply (keyed makeSearchKey s.1) },[]):=by
 induction sent generalizing client with
 | nil=>
  have htake:=@take_sent makeSearchKey (fun _=>false) client generation _ _ hlast hfinal
  rw [if_pos hisFinal] at htake
  rw [List.map_nil,List.flatten_nil,List.nil_append,
   FrameReader.consume_taken _ hopen htake,List.drop_length,List.map_nil,List.append_nil]
  refine @FrameReader.consume_of_settled _ _ _ (_,[]) ?_
  simp [FrameReader.Settled,reader,takeFrame]
 | cons s sent ih=>
  obtain ⟨⟨hfirst,hpart⟩,hrest⟩:=List.forall_mem_cons.mp hsent
  have htake:=@take_sent makeSearchKey (fun _=>false) client generation _ _ hfirst hfinal
  rw [if_neg (by simp [hpart])] at htake
  rw [List.map_cons,List.flatten_cons,List.append_assoc,
   FrameReader.consume_taken _ hopen (FrameReader.decided _ _ htake),List.drop_left]
  refine (@ih (client.deliver (fun _=>false) (keyed makeSearchKey s.1)) hopen hfinal hrest
   hlast).trans ?_
  simp [deliver]

lemma emptied (h:client.incoming=[]) : { client with incoming:=[] }=client := by rw [←h]

/-- A final result that nothing follows goes to the owner. -/
lemma completeCurrent_log {batch : SearchBatch} (hopen:client.isOpen generation=true)
 (hfinal:client.finalSeen=true) (hbatch:client.finalBatch=some batch) (h:client.incoming=[]):
 (client.completeCurrent makeSearchKey (fun _=>false) []).log=client.log++[.reply batch]:=by
 have hactive:client.activeGeneration=some generation:=by
  simp only [isOpen,Bool.and_eq_true,decide_eq_true_eq] at hopen
  exact hopen.2
 have hsettled:(reader makeSearchKey (fun _=>false) generation).Settled (client,[]):=by
  simp [FrameReader.Settled,reader,takeFrame,hfinal]
 have hstays:client.consumeOutput makeSearchKey (fun _=>false) generation []=client:=by
  rw [consumeOutput,if_pos hopen,apart,emptied h,h,FrameReader.receive_nil _ hsettled]
  exact emptied h
 simp [completeCurrent,hbatch,hactive,hstays,deliver,cancel]

end Delivery
end Client

open Client

def searching : Client where
 activeGeneration:=some 1
 process:=true
 allowedRoots:=[utf8 "/d"]

def oneResult : SearchBatch where
 generation:=1
 entries:=[{ nameUtf8:=utf8 "a",pathUtf8:=utf8 "/d/a" }]
 isFinal:=true

def oneFrame : Bytes := (((encodeSearchBatch oneResult).bind framePayload).toOption).getD []

end VoVe.SearchClient
