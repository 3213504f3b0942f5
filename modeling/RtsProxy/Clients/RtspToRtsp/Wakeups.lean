import RtsProxy.Clients.RtspToRtsp.Backlog
import RtsProxy.Clients.RtspToRtsp.Pieces
import RtsProxy.Clients.RtspToRtsp.Wiring

/-!
# No wake-up of a relayed session is lost

What waits in one of the two queues is sent when its connection is writable, so that has to be
watched for; many handlers set what a connection is watched for, each to a mask of its own.
Before the upstream is connected there is nothing to send to the client, since the upstream is
not read from yet (`Connecting`); from then on every step leaves both connections watched
(`Wiring.Awake`).

* `Connecting.step`, `Rewired.awake`: what a step does before, and after the connection is made;
* `awake_of_run`: runs in which the upstream is read from only when it is watched for that.
-/

open Text Interleaved

/-- Both connections are watched for what there is to read, and for writing if there is something
    to send. -/
structure Wiring.Awake (w : Wiring) : Prop where
  upstream : w.toUpstreamQ ≠ [] → w.upstreamEvents.writable = true
  downstream : w.toDownstreamQ.packets ≠ [] → w.downstreamEvents.writable = true
  reading : w.upstreamEvents.readable = true ∧ w.downstreamEvents.readable = true

namespace RtspToRtspClient

variable {s t u : RtspToRtspClient} {cfg : ServerConfig} {e : Event} {bytes : Bytes} {w : Wiring}

/-- The upstream is read from only when it is watched for that. -/
def ReadsWatched (s : RtspToRtspClient) : Event → Prop
  | .receiveUpstream _ => s.upstreamEvents.readable = true
  | _ => True

instance (s : RtspToRtspClient) : ∀ e, Decidable (ReadsWatched s e)
  | .receiveUpstream _ => inferInstanceAs (Decidable (_ = true))
  | .receiveDownstream _ | .downstreamTurn _ | .sendDownstream _ | .downstreamSent
  | .upstreamTurn _ | .upstreamWritable _ | .rtpFromUpstream _ | .rtcpFromUpstream _
  | .rtpFromClient _ | .rtcpFromClient _ | .noDatagram | .stunReply _ | .timer | .close =>
    isTrue trivial

/-! ## Writing to the upstream -/

/-- Unless writing to the upstream closes the session, the upstream is watched for what is left to
    write and for replies; the way to the client is as it was. -/
theorem wiring_of_written {calls : UpstreamCalls}
    (hopen : (s.onUpstreamWritable calls).closed = false) :
    (s.onUpstreamWritable calls).upstreamEvents =
        { readable := true, writable := !(s.onUpstreamWritable calls).toUpstreamQ.isEmpty } ∧
      (s.onUpstreamWritable calls).toDownstreamQ = (s.readyToWrite calls).toDownstreamQ ∧
      (s.onUpstreamWritable calls).downstreamEvents = (s.readyToWrite calls).downstreamEvents ∧
      s.connectFails calls = false ∧ (s.readyToWrite calls).closed = false := by
  rcases onUpstreamWritable_cases (s := s) calls with ⟨-, hr⟩ |
    ⟨hfails, v, rfl, ⟨-, hr⟩ | ⟨hok, hr⟩⟩
  · rw [hr] at hopen
    cases hopen
  · have hmask := unsent_drainUpstream (s := s.readyToWrite calls) calls.sends
    rw [hr] at hopen ⊢
    exact ⟨rfl, (congrArg toDownstreamQ hmask :), (congrArg downstreamEvents hmask :), hfails,
      opened_of_drainUpstream hopen⟩
  · rw [hr, closed_drainUpstream hok] at hopen
    cases hopen

theorem closed_readyToWrite (calls : UpstreamCalls) :
    (s.readyToWrite calls).closed = s.closed := by
  rw [readyToWrite]
  split
  · have hclosed := congrArg Wiring.closed (wiring_upstreamConnected (s := s) calls.localName)
    split at hclosed
    · exact hclosed
    · exact hclosed
  · rfl

theorem readyToWrite_connected {calls : UpstreamCalls} (hs : s.state ≠ .waitUpstreamConnect) :
    s.readyToWrite calls = s := if_neg hs

/-! ## Before the connection is made -/

/-- A session that is connecting: nothing has been received from the upstream, nor queued for the
    client. -/
structure Connecting (s : RtspToRtspClient) : Prop where
  watching : s.upstreamEvents = { writable := true }
  queue : s.toDownstreamQ.packets = []
  unread : s.upstreamRecvBuf = []
  ports : s.relayReady = false
  timer : s.timerArmed = false

/-- A session is watched for all that there is to do. -/
def Wakeful (s : RtspToRtspClient) : Prop :=
  if s.state = .waitUpstreamConnect then Connecting s else s.wiring.Awake

/-- The connection is made, and the first request is written. -/
theorem Connecting.connected {calls : UpstreamCalls} (h : Connecting s)
    (hstate : s.state = .waitUpstreamConnect)
    (hopen : (s.onUpstreamWritable calls).closed = false) :
    Wakeful (s.onUpstreamWritable calls) := by
  obtain ⟨hevents, hqueue, hdown, hfails, -⟩ := wiring_of_written hopen
  have hready : s.readyToWrite calls = s.upstreamConnected calls.localName := if_pos hstate
  have hwiring := wiring_upstreamConnected (s := s) calls.localName
  rw [hready] at hqueue hdown
  have hq : (s.upstreamConnected calls.localName).toDownstreamQ = s.toDownstreamQ := by
    have hq := congrArg Wiring.toDownstreamQ hwiring
    split at hq
    · exact hq
    · exact hq
  have hconnected : (s.onUpstreamWritable calls).state ≠ .waitUpstreamConnect := by
    have hno : calls.connectFailed = false := by
      simpa [connectFails, hstate] using hfails
    have hcontrol := congrArg Control.state (control_onUpstreamWritable (s := s) calls)
    rw [if_pos hstate, hno, if_neg Bool.false_ne_true] at hcontrol
    rw [show (s.onUpstreamWritable calls).state = _ from hcontrol]
    dsimp only
    split
    · exact fun h => RelayState.noConfusion h
    · exact fun h => RelayState.noConfusion h
  rw [Wakeful, if_neg hconnected]
  refine ⟨fun hne => ?_, fun hne => ?_, ?_⟩
  · show (s.onUpstreamWritable calls).upstreamEvents.writable = true
    have hleft : (s.onUpstreamWritable calls).toUpstreamQ ≠ [] := hne
    rw [hevents]
    simpa using hleft
  · refine absurd ?_ hne
    show (s.onUpstreamWritable calls).toDownstreamQ.packets = []
    rw [hqueue, hq]
    exact h.queue
  · refine ⟨congrArg Interest.readable hevents, ?_⟩
    show (s.onUpstreamWritable calls).downstreamEvents.readable = true
    rw [hdown, show (s.upstreamConnected calls.localName).downstreamEvents = _ from
      congrArg Wiring.downstreamEvents hwiring]

/-- A session that is connecting goes on so, or is closed, or the connection is made. -/
theorem Connecting.step (h : Connecting s) (hstate : s.state = .waitUpstreamConnect)
    (hen : Enabled cfg s e) (hreads : ReadsWatched s e) (hst : step cfg s e = .ok t)
    (hopen : t.closed = false) : Wakeful t := by
  have hkept : Wakeful s := by
    rw [Wakeful, if_pos hstate]
    exact h
  have hports : s.relayReady ≠ true := by
    rw [h.ports]
    exact Bool.false_ne_true
  cases e with
  | receiveDownstream bytes => exact absurd hstate hen.1
  | downstreamTurn ports => exact absurd hstate hen
  | receiveUpstream bytes =>
    have hreadable : s.upstreamEvents.readable = true := hreads
    rw [h.watching] at hreadable
    cases hreadable
  | upstreamTurn calls =>
    obtain ⟨r, hr, rfl⟩ := Except.map_eq_ok_iff.1 hst
    rw [upstreamTurn, h.unread] at hr
    cases hr
    exact hkept
  | upstreamWritable calls =>
    cases hst
    exact h.connected hstate hopen
  | sendDownstream r =>
    cases hst
    rw [downstreamSendTurn, h.queue]
    exact hkept
  | downstreamSent =>
    cases hst
    rw [onDownstreamWritable, drainDownstream, if_pos h.queue, Wakeful, if_pos hstate]
    exact ⟨h.watching, h.queue, h.unread, h.ports, h.timer⟩
  | rtpFromUpstream d | rtcpFromUpstream d | rtpFromClient d | rtcpFromClient d | stunReply d =>
    exact absurd hen.1 hports
  | noDatagram => exact absurd hen hports
  | timer =>
    have harmed : s.timerArmed = true := hen
    rw [h.timer] at harmed
    cases harmed
  | close =>
    cases hst
    cases hopen

/-! ## From then on -/

/-- A step does not reopen a session. -/
theorem Rewired.opened (h : Rewired s bytes w) (hopen : w.closed = false) : s.closed = false := by
  cases h with
  | framed hframed => cases hframed <;> exact hopen
  | pushed | sent | emptied => exact hopen
  | @written calls u hstate hu =>
    have hready := (wiring_of_written hopen).2.2.2.2
    rw [closed_readyToWrite] at hready
    rcases hu with hu | ⟨p, hu⟩
    · exact (congrArg Wiring.closed hu).symm.trans hready
    · exact (congrArg Wiring.closed hu).symm.trans hready
  | closed => cases hopen

/-- Whatever a step does once the connection is made, both connections stay watched. -/
theorem Rewired.awake (h : Rewired s bytes w) (hstate : s.state ≠ .waitUpstreamConnect)
    (hs : s.wiring.Awake) (hopen : w.closed = false) : w.Awake := by
  obtain ⟨hup, hdown, hreading⟩ := hs
  cases h with
  | framed hframed =>
    cases hframed with
    | kept => exact ⟨hup, hdown, hreading⟩
    | queued q => exact ⟨hup, fun _ => rfl, hreading.1, rfl⟩
  | pushed p => exact ⟨fun _ => rfl, hdown, rfl, hreading.2⟩
  | @written calls u hu hsame =>
    obtain ⟨hevents, hqueue, hevents', -, -⟩ := wiring_of_written hopen
    rw [readyToWrite_connected (hu ▸ hstate)] at hqueue hevents'
    have hclient : u.toDownstreamQ = s.toDownstreamQ ∧ u.downstreamEvents = s.downstreamEvents := by
      rcases hsame with hsame | ⟨p, hsame⟩
      all_goals
        exact ⟨congrArg Wiring.toDownstreamQ hsame, congrArg Wiring.downstreamEvents hsame⟩
    refine ⟨fun hne => ?_, fun hne => ?_, congrArg Interest.readable hevents, ?_⟩
    · show (u.onUpstreamWritable calls).upstreamEvents.writable = true
      have hleft : (u.onUpstreamWritable calls).toUpstreamQ ≠ [] := hne
      rw [hevents]
      simpa using hleft
    · show (u.onUpstreamWritable calls).downstreamEvents.writable = true
      rw [hevents', hclient.2]
      refine hdown fun hnil => hne ?_
      show (u.onUpstreamWritable calls).toDownstreamQ.packets = []
      rw [hqueue, hclient.1]
      exact hnil
    · show (u.onUpstreamWritable calls).downstreamEvents.readable = true
      rw [hevents', hclient.2]
      exact hreading.2
  | sent q hq => exact ⟨hup, fun hne => hdown fun hnil => hne (hq hnil), hreading⟩
  | emptied hempty => exact ⟨hup, fun hne => absurd hempty hne, hreading.1, rfl⟩
  | closed => cases hopen

/-! ## Runs -/

/-- A step of a session that is not closed leaves it watched for what there is to do. -/
theorem wakeful_of_step (hs : s.closed = false → Wakeful s) (hen : Enabled cfg s e)
    (hreads : ReadsWatched s e) (h : step cfg s e = .ok t) : t.closed = false → Wakeful t := by
  intro hopen
  have hrewired := wiring_of_step h
  have hwakeful := hs (hrewired.opened hopen)
  by_cases hstate : s.state = .waitUpstreamConnect
  · rw [Wakeful, if_pos hstate] at hwakeful
    exact hwakeful.step hstate hen hreads h hopen
  · rw [Wakeful, if_neg hstate] at hwakeful
    rw [Wakeful, if_neg (connected_of_step hstate h).1]
    exact hrewired.awake hstate hwakeful hopen

/-- In a session that is not closed, the upstream is watched for writing while there are messages
    for it, and so is the client while there are packets for it; and once the upstream is connected,
    both are read from. -/
theorem awake_of_run (hs : Started cfg s) (h : Run cfg ReadsWatched s t)
    (hopen : t.closed = false) :
    (t.toUpstreamQ ≠ [] → t.upstreamEvents.writable = true) ∧
      (t.toDownstreamQ.packets ≠ [] → t.downstreamEvents.writable = true) ∧
      (t.state ≠ .waitUpstreamConnect →
        t.upstreamEvents.readable = true ∧ t.downstreamEvents.readable = true) := by
  have hwakeful : t.closed = false → Wakeful t := by
    refine run_invariant (P := fun u => u.closed = false → Wakeful u)
      (fun _ _ _ hu hen hreads hst => wakeful_of_step hu hen hreads hst) h ?_
    obtain ⟨_, _, _, _, _, _, _, _, _, rfl⟩ := hs
    exact fun _ => ⟨rfl, rfl, rfl, rfl, rfl⟩
  have ht := hwakeful hopen
  rw [Wakeful] at ht
  split at ht
  case isTrue hstate =>
    refine ⟨fun _ => congrArg Interest.writable ht.watching, fun hne => absurd ht.queue hne, ?_⟩
    exact fun hne => absurd hstate hne
  case isFalse => exact ⟨ht.upstream, ht.downstream, fun _ => ht.reading⟩

/-- A request is half written to the upstream, and a reply is queued for the client. -/
theorem awake_of_run_live : ∃ t,
    runEvents {} ReadsWatched liveSession
      [.upstreamWritable { sends := [⟨9, false⟩] }, .receiveUpstream okReply, .upstreamTurn {}] =
        some t ∧
    (t.toUpstreamQ ≠ [] ∧ t.toDownstreamQ.packets ≠ []) ∧
    (t.toUpstreamQ ≠ [] → t.upstreamEvents.writable = true) ∧
      (t.toDownstreamQ.packets ≠ [] → t.downstreamEvents.writable = true) ∧
      (t.state ≠ .waitUpstreamConnect →
        t.upstreamEvents.readable = true ∧ t.downstreamEvents.readable = true) := by
  have hrun : (runEvents {} ReadsWatched liveSession
      [.upstreamWritable { sends := [⟨9, false⟩] }, .receiveUpstream okReply,
        .upstreamTurn {}]).map (fun t => (t.closed, t.toUpstreamQ.length,
          t.toDownstreamQ.packets.length)) = some (false, 1, 1) := by
    decide +kernel
  obtain ⟨t, ht, hfields⟩ := Option.map_eq_some_iff.1 hrun
  simp only [Prod.mk.injEq] at hfields
  obtain ⟨hopen, hup, hdown⟩ := hfields
  refine ⟨t, ht, ⟨?_, ?_⟩, awake_of_run started_liveSession (run_of_runEvents ht) hopen⟩
  · exact List.ne_nil_of_length_pos (by omega)
  · exact List.ne_nil_of_length_pos (by omega)

end RtspToRtspClient
