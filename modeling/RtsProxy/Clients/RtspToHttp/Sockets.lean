import RtsProxy.Clients.RtspToHttp.Runs

/-!
# The sockets of an HTTP session

The port of the RTP socket, and whether the socket is there, are settled when a session is
created (`sockets_of_step`).
-/

open Text Interleaved

namespace RtspToHttpClient

/-- The port of the RTP socket, and whether it is there. -/
def sockets (s : RtspToHttpClient) : Nat × Bool := (s.rtpPort, s.rtpReady)

variable {cfg : ServerConfig} {s : RtspToHttpClient}

theorem sockets_notifyClosed : s.notifyClosed.sockets = s.sockets := by
  rw [notifyClosed]
  split <;> rfl

/-- A request is queued and the next one is to be sent. -/
theorem sockets_request (method : RtspMethod) (uri headers body : Bytes) :
    (s.pushRequestIntoQueue method uri headers body).buildAndSendRequest.sockets = s.sockets := by
  rw [buildAndSendRequest]
  split <;> rfl

theorem sockets_sendRtspOption (opened : Bool) :
    (s.sendRtspOption opened).sockets = s.sockets := by
  refine (sockets_request ..).trans ?_
  rw [connectServer]
  split
  · rfl
  · exact sockets_notifyClosed

theorem sockets_sendRtspSetup (sdp : Bytes) : (s.sendRtspSetup cfg sdp).sockets = s.sockets := by
  unfold sendRtspSetup
  extract_lets u track
  have hu : u.sockets = s.sockets := by
    simp only [u]
    split <;> rfl
  rw [← hu]
  split
  · exact sockets_notifyClosed
  · exact sockets_request ..

theorem sockets_startSession (opened : Bool) (packet : Bytes) :
    (s.startSession cfg opened packet).sockets = s.sockets := by
  unfold startSession
  extract_lets u
  refine (sockets_sendRtspOption opened).trans ?_
  show u.sockets = s.sockets
  simp only [u]
  split <;> rfl

theorem sockets_onClientClosed : s.onClientClosed.sockets = s.sockets := by
  rw [onClientClosed]
  split
  · rfl
  · exact sockets_notifyClosed

theorem sockets_queuePacket (packet : Bytes) : (s.queuePacket packet).sockets = s.sockets := by
  rw [queuePacket]
  split <;> rfl

theorem sockets_onRtpReadable (opened : Bool) (payload : Bytes) :
    (s.onRtpReadable cfg opened payload).sockets = s.sockets := by
  unfold onRtpReadable
  extract_lets data u out v w x y
  split
  · rfl
  · show y.sockets = s.sockets
    simp only [y]
    split
    · exact sockets_queuePacket out.packet
    · split
      · rfl
      · exact sockets_startSession opened out.packet

theorem sockets_handleInterleavedPacket (channel : UInt8) (packet : Bytes) :
    (s.handleInterleavedPacket cfg channel packet).sockets = s.sockets := by
  unfold handleInterleavedPacket
  extract_lets data out u v
  split
  · rfl
  · show v.sockets = s.sockets
    simp only [v]
    split
    · exact sockets_queuePacket out.packet
    · rfl

theorem sockets_setupDone (header : Bytes) : (s.setupDone cfg header).sockets = s.sockets := by
  unfold setupDone
  extract_lets u
  refine (sockets_request ..).trans ?_
  simp only [u]
  split <;> rfl

theorem sockets_handleMessage (header body : Bytes) :
    (ending (s.handleMessage cfg header body)).sockets = s.sockets := by
  unfold handleMessage
  extract_lets u reply
  show _ = u.sockets
  split
  · rfl
  · split
    · exact sockets_sendRtspSetup (s := { u with setupRetryWithTcp := true }) []
    · split
      · exact sockets_notifyClosed
      · rw [handleOk]
        rcases u.currentRequest.method with _ | _ | _ | _
        case options => exact sockets_request ..
        case describe =>
          exact sockets_sendRtspSetup (s := { u with ctx := { u.ctx with contentBase := _ } }) body
        case setup =>
          dsimp only
          split
          · exact sockets_setupDone (s := { u with ctx := _ }) header
          · exact sockets_notifyClosed (s := { u with ctx := _ })
        all_goals rfl

theorem sockets_onRtspWritable (calls : RtspCalls) :
    (s.onRtspWritable calls).sockets = s.sockets := by
  unfold onRtspWritable
  split
  · exact sockets_notifyClosed
  · extract_lets u n v
    have hu : u.sockets = s.sockets := by
      simp only [u]
      split
      · unfold upstreamConnected
        rcases calls.localName with _ | name <;> rfl
      · rfl
    rw [← hu]
    split
    · split <;> rfl
    · exact sockets_notifyClosed

/-- No step touches the sockets. -/
theorem sockets_of_step (cfg : ServerConfig) (s : RtspToHttpClient) (e : Event) :
    (step cfg s e).sockets = s.sockets := by
  cases e with
  | rtpReadable opened payload => exact sockets_onRtpReadable opened payload
  | rtspTurn =>
    show (ending (s.rtspTurn cfg)).sockets = s.sockets
    rw [rtspTurn_eq]
    rcases frontFrame s.respBuf with _ | ⟨channel, packet⟩
    · rcases frontMessage s.respBuf with _ | ⟨header, body, size⟩
      · rfl
      · exact sockets_handleMessage (s := s.skipResp size) header body
    · exact sockets_handleInterleavedPacket (s := s.countReceived (4 + packet.length)) channel packet
  | sendClient r =>
    show (s.clientSendTurn r).state.sockets = s.sockets
    unfold clientSendTurn
    split
    · rfl
    · dsimp only
      split
      · split
        · rfl
        · exact sockets_onClientClosed
      · split <;> rfl
  | clientSent =>
    show (s.onClientWritable []).sockets = s.sockets
    rw [onClientWritable]
    split <;> rfl
  | rtspWritable calls => exact sockets_onRtspWritable calls
  | receiveRtsp _ => rfl
  | rtspLost => exact sockets_notifyClosed
  | clientClosed => exact sockets_onClientClosed
  | timer => exact sockets_request ..

/-- They are those the session is created with. -/
theorem sockets_start (cfg : ServerConfig) (pool : BufferPool) (stats : Statistics) (ctx : RtspCtx)
    (rtpPort : Nat) (rtpReady opened : Bool) :
    (start cfg pool stats ctx rtpPort rtpReady opened).sockets = (rtpPort, rtpReady) := by
  unfold start
  extract_lets u src v w
  show w.sockets = v.sockets
  simp only [w]
  split
  · rfl
  · exact sockets_sendRtspOption opened

end RtspToHttpClient
