import VoVe.FrameStream
import VoVe.PreviewProtocolExact
import VoVe.PreviewServiceSafety

set_option autoImplicit false

/-! The receive buffer of `helper/service.cpp`: what arrives on the socket, in whatever pieces, and
the frames the service is handed. -/

namespace VoVe.PreviewReceiver
open ByteCodec PreviewProtocol PreviewService
open ScanCodec (frameHeaderBytes)

variable (around : Surroundings) (options : ServiceOptions)

/-- The service, or the exception that ended it. -/
abbrev Outcome := Except Fault Service

def isOpen : Outcome → Bool
 | .error _=>false
 | .ok service=>service.socket.isSome

def closed : Outcome → Outcome := Except.map (Service.closeClient · true)

/-- The body of the loop of `consume_frames`. -/
def takeFrame (outcome : Outcome) (buffer : Bytes) : Option (ℕ × Outcome):=
 if buffer.length < frameHeaderBytes then none
 else match decodeHeader buffer with
  | .error _=>some (0,closed outcome)
  | .ok header=>
   let frameSize:=header.totalSize.toNat
   if buffer.length < frameSize then none
   else some (frameSize,outcome.bind (·.consumeFrame around options (buffer.take frameSize)))

lemma decodeHeader_append {buffer : Bytes} (more : Bytes)
 (h:¬buffer.length<frameHeaderBytes) : decodeHeader (buffer++more)=decodeHeader buffer:=by
 have hlong:frameHeaderBytes ≤ (buffer++more).length:=by rw [List.length_append]; omega
 simp only [decodeHeader,List.take_append_of_le_length (not_lt.mp h),hlong,not_lt.mp h]

lemma closed_shut (outcome : Outcome) : isOpen (closed outcome)=false:=by
 cases outcome with
 | error fault=>rfl
 | ok service=>rw [closed,Except.map,isOpen,(service.closeClient_shut true).socket]; rfl

lemma takeFrame_used {outcome next : Outcome} {buffer : Bytes} {size : ℕ}
 (h:takeFrame around options outcome buffer=some (size,next)):
 size ≤ buffer.length ∧ (isOpen next=true → 0<size):=by
 unfold takeFrame at h
 split_ifs at h with hshort
 split at h
 · obtain ⟨rfl,rfl⟩:=Prod.mk.inj (Option.some.inj h)
   exact ⟨Nat.zero_le _,by simp [closed_shut]⟩
 · rename_i header hheader
   have hsmall:=((decodeHeader_iff header).mp hheader).2.2.2.2.2.1
   dsimp only at h
   split_ifs at h with hlong
   obtain ⟨rfl,-⟩:=Prod.mk.inj (Option.some.inj h)
   simp only [frameHeaderBytes] at hsmall
   exact ⟨not_lt.mp hlong,fun _=>by omega⟩

lemma takeFrame_append {outcome : Outcome} {buffer : Bytes} {found : ℕ × Outcome} (more : Bytes)
 (h:takeFrame around options outcome buffer=some found):
 takeFrame around options outcome (buffer++more)=some found:=by
 unfold takeFrame at h ⊢
 split_ifs at h with hshort
 have hlong:¬(buffer++more).length<frameHeaderBytes:=by rw [List.length_append]; omega
 rw [if_neg hlong,decodeHeader_append more hshort]
 split at h
 · exact h
 · dsimp only at h ⊢
   split_ifs at h with hsize
   rw [if_neg (by rw [List.length_append]; omega),
    List.take_append_of_le_length (not_lt.mp hsize)]
   exact h

def reader : FrameReader Outcome UInt8 where
 isOpen:=isOpen
 take:=takeFrame around options
 used:=takeFrame_used around options
 decided more:=takeFrame_append around options more

/-- The loop of `receive`: reads of at most the room left in the buffer, while bytes wait. -/
def receive (received : Outcome × Bytes) (available : Bytes) : Outcome × Bytes:=
 if isOpen received.1 ∧ available ≠ [] then
  let room:=kMaximumFrameBytes - received.2.length
  if _ : room = 0 then (closed received.1,[])
  else receive ((reader around options).receive received (available.take room))
   (available.drop room)
 else received
termination_by available.length
decreasing_by
 rename_i hmore _
 have hpos:=List.length_pos_iff.mpr hmore.2
 simp only [List.length_drop]
 omega

variable {around options}

/-- The buffer never fills up: a frame is announced no larger than it. -/
lemma room_left {received : Outcome × Bytes} (h:(reader around options).Settled received)
 (hopen:isOpen received.1=true) : received.2.length<kMaximumFrameBytes:=by
 have hwait:takeFrame around options received.1 received.2=none:=by
  simpa [FrameReader.Settled,reader,hopen] using h
 unfold takeFrame at hwait
 split_ifs at hwait with hshort
 · exact hshort.trans (by decide)
 · split at hwait
   · cases hwait
   · rename_i header hheader
     have hlarge:=((decodeHeader_iff header).mp hheader).2.2.2.2.2.2
     dsimp only at hwait
     split_ifs at hwait with hlong
     omega

lemma receive_eq {received : Outcome × Bytes} (h:(reader around options).Settled received)
 (available : Bytes):
 receive around options received available=(reader around options).receive received available:=by
 fun_induction receive around options received available with
 | case1 received available hmore room hroom=>
  have hleft:=room_left h hmore.1
  omega
 | case2 received available hmore room hroom ih=>
  rw [ih (FrameReader.settled_receive _ _ _),FrameReader.receive_receive,
   List.take_append_drop]
 | case3 received available hmore=>
  cases hopen:isOpen received.1 with
  | false=>exact ((reader around options).receive_closed h hopen available).symm
  | true=>
   obtain rfl:available=[]:=by_contra fun hne=>hmore ⟨hopen,hne⟩
   exact ((reader around options).receive_nil h).symm

lemma foldl_receive {received : Outcome × Bytes} (h:(reader around options).Settled received)
 (arrivals : List Bytes) : arrivals.foldl (receive around options) received=
 (reader around options).receive received arrivals.flatten:=by
 induction arrivals generalizing received with
 | nil=>exact ((reader around options).receive_nil h).symm
 | cons arrival rest ih=>
  rw [List.foldl_cons,receive_eq h,ih (FrameReader.settled_receive _ _ _),
   FrameReader.receive_receive,List.flatten_cons]

lemma settled_start (outcome : Outcome) : (reader around options).Settled (outcome,[]):=by
 cases hopen:isOpen outcome <;>
  simp [FrameReader.Settled,reader,hopen,takeFrame,frameHeaderBytes]

/-- Whatever bytes a peer sends, the service comes to the same state, with the same answers written,
wherever the stream is cut into arrivals, and it never closes for want of room. -/
theorem arrivals_immaterial (service : Service) (arrivals : List Bytes):
 arrivals.foldl (receive around options) (.ok service,[])=
  (reader around options).consume (.ok service) arrivals.flatten:=
 foldl_receive (settled_start _) arrivals

lemma take_frame {message : Message} {frame : Bytes} (h:encode message=.ok frame)
 (outcome : Outcome) : takeFrame around options outcome frame=
  some (frame.length,outcome.bind (·.consumeFrame around options frame)):=by
 obtain ⟨requestId,payload,hframe⟩:=encode_frame h
 obtain ⟨header,hheader,-,htotal,-⟩:=decodeHeader_first hframe
 have hfirst:¬(frame.take frameHeaderBytes).length<frameHeaderBytes:=fun hshort=>by
  rw [decodeHeader,Checks.bind_unit_eq_ok,Checks.require_eq_ok] at hheader
  exact absurd hheader.1 (by simpa using hshort)
 have hwhole:=decodeHeader_append (frame.drop frameHeaderBytes) hfirst
 rw [List.take_append_drop,hheader] at hwhole
 rw [List.length_take] at hfirst
 simp only [takeFrame,hwhole,htotal,List.take_length]
 rw [if_neg (by omega),if_neg (lt_irrefl _)]

lemma foldl_frames (frames : List Bytes) (outcome : Outcome):
 frames.foldl (fun outcome frame=>bif isOpen outcome then
   outcome.bind (·.consumeFrame around options frame) else outcome) outcome=
  outcome.bind fun service=>
   frames.foldlM (fun service frame=>service.step options around (.frame frame)) service:=by
 induction frames generalizing outcome with
 | nil=>cases outcome<;>rfl
 | cons frame rest ih=>
  rw [List.foldl_cons,ih]
  cases outcome with
  | error fault=>rfl
  | ok service=>
   change Except.bind (bif service.socket.isSome then _ else _) _=
    Except.bind (if service.socket.isSome=true then _ else _) _
   cases service.socket.isSome<;>rfl

/-- The messages a peer sends reach the service whole and in their order, each as the event of one
frame, and nothing is left in the buffer. -/
theorem messages_delivered (service : Service) (messages : List Message):
 let frames:=messages.filterMap fun message=>(encode message).toOption
 receive around options (.ok service,[]) frames.flatten=
  (frames.foldlM (fun service frame=>service.step options around (.frame frame)) service,[]):=by
 intro frames
 have htake:∀frame∈frames,∀outcome,isOpen outcome=true →
  takeFrame around options outcome frame=some (frame.length,
   outcome.bind (·.consumeFrame around options frame)):=by
  intro frame hmem outcome _
  obtain ⟨message,-,hmessage⟩:=List.mem_filterMap.mp hmem
  cases hencoded:encode message with
  | error thrown=>simp [hencoded,Except.toOption] at hmessage
  | ok bytes=>
   obtain rfl:bytes=frame:=by simpa [hencoded,Except.toOption] using hmessage
   exact take_frame hencoded outcome
 rw [receive_eq (settled_start _)]
 refine ((reader around options).consume_frames (fun outcome=>rfl) frames htake _).trans ?_
 exact congrArg (·,[]) (foldl_frames frames (.ok service))

end VoVe.PreviewReceiver
