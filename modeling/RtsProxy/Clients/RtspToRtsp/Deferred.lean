import RtsProxy.Clients.RtspToRtsp.Changes

/-!
# The SETUP that is held back

With STUN, a `SETUP` waits in `pendingSetupReq` for the reply of the STUN server, which is read
in the state `waitStun` only. But the state is one variable: a message that is sent to its end,
or a reply that starts the stream, overwrites it (`KeepsWaiting`).

* `notStranded_of_step_iff`: which steps leave a waiting `SETUP` stranded;
* `notStranded_of_run`: without such a step it is always waited for.
-/

open Text Interleaved

/-- A `SETUP` that is held back is waited for. -/
def Control.NotStranded (c : Control) : Prop := c.pendingSetupReq ≠ [] → c.state = .waitStun

namespace RtspToRtspClient

variable {s t : RtspToRtspClient} {cfg : ServerConfig} {e : Event}

/-- A step does not overwrite the state while a `SETUP` is held back: no message is sent to its
    end, and no reply starts the stream. -/
def KeepsWaiting (s : RtspToRtspClient) (e : Event) : Prop :=
  s.pendingSetupReq ≠ [] →
    match e with
    | .upstreamWritable calls => ¬s.finishes calls.sends
    | .upstreamTurn calls =>
      ∀ msg ∈ frontMessage s.upstreamRecvBuf, isKeepaliveReply msg = false →
        if s.wantsRetry msg then ¬s.retrying.finishes calls.sends
        else ¬(RtspParser.parseStatusCode msg = 200 && s.pendingPlay)
    | _ => True

instance (s : RtspToRtspClient) : ∀ e, Decidable (KeepsWaiting s e)
  | .upstreamWritable _ | .upstreamTurn _ | .receiveDownstream _ | .downstreamTurn _
  | .sendDownstream _ | .downstreamSent | .receiveUpstream _ | .rtpFromUpstream _
  | .rtcpFromUpstream _ | .rtpFromClient _ | .rtcpFromClient _ | .noDatagram | .stunReply _
  | .timer | .close => by unfold KeepsWaiting; infer_instance

/-- A request leaves no `SETUP` stranded. -/
theorem notStranded_request {canRelay : Bool} {req : Bytes} {c : Control} (hc : c.NotStranded) :
    (c.request cfg canRelay req).NotStranded := by
  rw [Control.request]
  split
  · split
    · exact hc
    · split
      · exact fun _ => rfl
      · exact hc
  · exact hc

/-- Sending strands a `SETUP` that is held back exactly if it sends a message to its end. -/
theorem notStranded_onUpstreamWritable_iff {calls : UpstreamCalls} (hs : s.control.NotStranded) :
    (s.onUpstreamWritable calls).control.NotStranded ↔
      (s.control.pendingSetupReq ≠ [] → ¬s.finishes calls.sends) := by
  rw [control_onUpstreamWritable]
  by_cases hpending : s.pendingSetupReq = []
  · refine iff_of_true ?_ fun hne => absurd hpending hne
    split
    · split
      · exact hs
      · exact fun hne => absurd hpending hne
    · exact fun hne => absurd hpending hne
  · have hstate : s.state = .waitStun := hs hpending
    have hconnected : s.state ≠ .waitUpstreamConnect := by
      rw [hstate]
      exact fun h => RelayState.noConfusion h
    rw [if_neg hconnected,
      forall_prop_of_true (show s.control.pendingSetupReq ≠ [] from hpending)]
    cases s.finishes calls.sends with
    | true => exact iff_of_false (fun h => RelayState.noConfusion (h hpending)) (by simp)
    | false => exact iff_of_true (fun _ => hstate) (by simp)

/-- A step strands a `SETUP` that is held back exactly if it overwrites the state. -/
theorem notStranded_of_step_iff (hs : s.control.NotStranded) (h : step cfg s e = .ok t) :
    t.control.NotStranded ↔ s.KeepsWaiting e := by
  rw [control_of_step h]
  cases e with
  | downstreamTurn ports =>
    refine iff_of_true ?_ fun _ => trivial
    rw [controlAfter]
    split
    · exact hs
    · split
      · exact notStranded_request (c := (s.skipDownstream _).control) hs
      · exact hs
  | upstreamTurn calls =>
    rw [controlAfter, KeepsWaiting]
    rcases hf : frontFrame s.upstreamRecvBuf with _ | ⟨channel, data⟩
    · rcases hm : frontMessage s.upstreamRecvBuf with _ | msg
      · exact iff_of_true hs fun _ msg hmsg => by cases hmsg
      · -- a message is handled
        simp only [Option.mem_some_iff, forall_eq']
        cases hka : isKeepaliveReply msg with
        | true => exact iff_of_true hs fun _ hno => Bool.noConfusion hno
        | false =>
          rw [if_neg Bool.false_ne_true, forall_prop_of_true rfl]
          by_cases hretry : s.wantsRetry msg = true
          · rw [if_pos hretry, if_pos hretry]
            have hcontrol := control_retrying_learnSession (s := s.skipUpstream msg.length) msg
            have hfinishes := finishes_congr (s := s.retrying)
              (t := ((s.skipUpstream msg.length).learnSession msg).retrying) rfl rfl calls.sends
            rw [notStranded_onUpstreamWritable_iff (hcontrol ▸ hs), hcontrol, hfinishes]
            exact Iff.rfl
          · rw [if_neg hretry, if_neg hretry]
            split
            case isTrue hplay =>
              exact ⟨fun hn hne => RelayState.noConfusion (hn hne), fun hn hne => absurd hplay (hn hne)⟩
            case isFalse hplay => exact iff_of_true hs fun _ => hplay
    · rw [frontMessage_of_frontFrame hf]
      exact iff_of_true hs fun _ msg hmsg => by cases hmsg
  | upstreamWritable calls => exact notStranded_onUpstreamWritable_iff hs
  | stunReply d =>
    refine iff_of_true ?_ fun _ => trivial
    rw [controlAfter]
    split
    · exact hs
    · exact fun hne => absurd rfl hne
  | _ => exact iff_of_true hs fun _ => trivial

/-- In a run that keeps waiting, a `SETUP` is held back only in the state in which the reply of
    the STUN server releases it. -/
theorem notStranded_of_run (hs : Started cfg s) (h : Run cfg KeepsWaiting s t)
    (hpending : t.pendingSetupReq ≠ []) : t.state = .waitStun := by
  refine run_invariant (P := fun u => u.control.NotStranded)
    (fun u e v hu _ hkeeps hv => (notStranded_of_step_iff hu hv).2 hkeeps) h ?_ hpending
  obtain ⟨_, _, _, _, _, _, _, _, _, rfl⟩ := hs
  exact fun hne => absurd rfl hne

/-- Mapped ports are asked of a STUN server. -/
def stunConfig : ServerConfig := { enableNat := true }

/-- A session for the path `/live`, with STUN. -/
def stunSession : RtspToRtspClient :=
  sessionFor stunConfig (ascii "rtsp://10.0.0.1:8554/rtp/10.0.0.9:554/live") (ascii "/live")

theorem started_stunSession : Started stunConfig stunSession :=
  ⟨default, _, _, _, _, _, _, BufferPool.inBounds_new 2048 1024, by decide +kernel, rfl⟩

/-- A `SETUP` of the client over UDP. -/
def udpSetup : Bytes :=
  ascii "SETUP rtsp://10.0.0.9/live/1 RTSP/1.0\r\nTransport: RTP/AVP;client_port=6000-6001\r\nCSeq: 3\r\n\r\n"

/-- The `SETUP` is received and handled. -/
def udpSetupEvents : List Event :=
  [.receiveDownstream udpSetup, .downstreamTurn ⟨.bound 20000, .bound 30000⟩]

/-- The socket takes the first request when the connection is made. -/
theorem notStranded_of_run_sent : ∃ t,
    runEvents stunConfig KeepsWaiting stunSession
      (.upstreamWritable { sends := [⟨1000, false⟩] } :: udpSetupEvents) = some t ∧
    t.pendingSetupReq = udpSetup ∧ t.state = .waitStun := by
  have hrun : (runEvents stunConfig KeepsWaiting stunSession
      (.upstreamWritable { sends := [⟨1000, false⟩] } :: udpSetupEvents)).map
        RtspToRtspClient.pendingSetupReq = some udpSetup := by
    decide +kernel
  obtain ⟨t, ht, hpending⟩ := Option.map_eq_some_iff.1 hrun
  refine ⟨t, ht, hpending, notStranded_of_run started_stunSession (run_of_runEvents ht) ?_⟩
  rw [hpending]
  decide +kernel

/-- The socket takes the first request while the `SETUP` behind it is held back. -/
theorem stranded_stun : ∃ t, Started stunConfig stunSession ∧ Run stunConfig anyStep stunSession t ∧
    t.pendingSetupReq = udpSetup ∧ t.state = .waitUpstreamResp := by
  have hrun : (runEvents stunConfig anyStep stunSession
      (connectEvent :: udpSetupEvents ++ [.upstreamWritable { sends := [⟨1000, false⟩] }])).map
        (fun t => (t.pendingSetupReq, t.state)) = some (udpSetup, .waitUpstreamResp) := by
    decide +kernel
  obtain ⟨t, ht, heq⟩ := Option.map_eq_some_iff.1 hrun
  obtain ⟨hpending, hstate⟩ := Prod.mk.inj heq
  exact ⟨t, started_stunSession, run_of_runEvents ht, hpending, hstate⟩

end RtspToRtspClient
