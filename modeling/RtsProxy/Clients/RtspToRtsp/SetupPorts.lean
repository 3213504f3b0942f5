import RtsProxy.Clients.RtspToRtsp.ForwardedTransport
import RtsProxy.Clients.RtspToRtsp.Runs

/-!
# The ports of a `SETUP` on its way up

The relay asks the server for datagrams to its own ports. It writes its pair of ports behind what
is left of the transport of a client that wants frames, or else puts it in the place of every pair
of ports of the client. Neither is done to the other kind of transport.

* `namesPorts_upstreamTransport_iff`: which transports name the ports of the relay, and these only;
* `leavesRelayed_iff`: which requests leave with such a transport, and are the same elsewhere.
-/

open Text Ecma Regex RtspParser

namespace RtspToRtspClient

variable {cfg : ServerConfig} {s : RtspToRtspClient} {hs ports ps qs : List Bytes}
  {body l pat t u v w : Bytes} {a b : Nat}

/-! ## Transports -/

/-- A parameter names ports of a client. -/
def isClientPort (param : Bytes) : Bool := (ascii "client_port=").isPrefixOf param

/-- A transport of datagrams, in one line, with these parameters of ports and none of channels. -/
structure NamesPorts (ports : List Bytes) (v : Bytes) : Prop where
  client : (transportParams v).filter isClientPort = ports
  channels : ∀ param ∈ transportParams v, ¬ascii "interleaved=" <+: param
  profile : ∀ profile ∈ profiles v, isTcp profile = false
  unbroken : Unbroken v

/-- There is one parameter of ports, and it is a pair. -/
def HasOnePair (t : Bytes) : Prop :=
  ∃ param, (transportParams t).filter isClientPort = [param] ∧ IsPair "client_port=" param

/-- The ports at which the server is to send to the relay: its own, or what they are mapped to. -/
def upstreamPorts (cfg : ServerConfig) (s : RtspToRtspClient) : Nat × Nat :=
  if cfg.usesStun && s.natWanPortUs ≠ 0 then (s.natWanPortUs, s.natWanPortUs + 1)
  else (s.localRtpUsPort, s.localRtcpUsPort)

/-- A pair of ports. -/
def IsPortPair (ports : Nat × Nat) : Prop := 1 ≤ ports.1 ∧ ports.2 = ports.1 + 1 ∧ ports.2 ≤ 65535

/-- The ports as a parameter. -/
def portsParam (cfg : ServerConfig) (s : RtspToRtspClient) : Bytes :=
  portPair "client_port=" (s.upstreamPorts cfg).1 (s.upstreamPorts cfg).2

/-- A transport of which the relay makes one that names its ports only. -/
def Suits (cfg : ServerConfig) (s : RtspToRtspClient) (t : Bytes) : Prop :=
  if cfg.usesZte then NamesPorts [] (ascii "MP2T/RTP/UDP;unicast;client_address=" ++ s.localIp)
  else if wantsFrames t then NamesPorts [] (remainder t)
  else HasOnePair t ∧ ∀ profile ∈ profiles t, isTcp profile = false

/-! ### Parameters side by side -/

theorem unbroken_sep_iff : Unbroken (u ++ 59 :: w) ↔ Unbroken u ∧ Unbroken w := by
  rw [Unbroken, infix_append_sep_iff (by decide) (by decide), not_or]
  rfl

theorem profiles_of_not_mem (h : 44 ∉ w) : profiles w = [profileOf w] := by
  have hno : ∀ x ∈ w, decide (x = 44) = false := fun x hx =>
    decide_eq_false fun heq => h (heq ▸ hx)
  rw [profiles, firsts, List.splitOnP_eq_singleton hno]
  rfl

/-- Parameters behind others. -/
theorem namesPorts_append_iff (hw : NamesPorts qs w) (hcomma : 44 ∉ w) :
    NamesPorts (ps ++ qs) (u ++ 59 :: w) ↔ NamesPorts ps u := by
  have hparams := params_sep u w
  have hclient : (transportParams (u ++ 59 :: w)).filter isClientPort = ps ++ qs ↔
      (transportParams u).filter isClientPort = ps := by
    rw [hparams, List.filter_append, hw.client]
    exact List.append_left_inj qs
  have hchannels : (∀ param ∈ transportParams (u ++ 59 :: w), ¬ascii "interleaved=" <+: param) ↔
      ∀ param ∈ transportParams u, ¬ascii "interleaved=" <+: param := by
    rw [hparams, List.forall_mem_append]
    exact and_iff_left hw.channels
  have hlast : isTcp (profileOf w) = false :=
    hw.profile _ (profiles_of_not_mem hcomma ▸ List.mem_singleton.2 rfl)
  have hprofile : (∀ profile ∈ profiles (u ++ 59 :: w), isTcp profile = false) ↔
      ∀ profile ∈ profiles u, isTcp profile = false := by
    have hno : ∀ y ∈ w, decide (y = 44) = false := fun y hy =>
      decide_eq_false fun heq => hcomma (heq ▸ hy)
    have hsemicolon : decide ((59 : UInt8) = 44) = false := rfl
    exact forall_firsts_append_iff (P := fun profile => isTcp profile = false)
      isSeparator_semicolon hsemicolon hno rfl hlast u
  constructor
  · rintro ⟨hc, hch, hp, hfree⟩
    exact ⟨hclient.1 hc, hchannels.1 hch, hprofile.1 hp, (unbroken_sep_iff.1 hfree).1⟩
  · rintro ⟨hc, hch, hp, hfree⟩
    exact ⟨hclient.2 hc, hchannels.2 hch, hprofile.2 hp, unbroken_sep_iff.2 ⟨hfree, hw.unbroken⟩⟩

theorem namesPorts_nil : NamesPorts [] [] := ⟨rfl, by decide, by decide, unbroken_nil⟩

/-- A text without separators is the only parameter, and the profile. -/
theorem params_word (hne : w ≠ []) (hsep : ∀ x ∈ w, isSeparator x = false) :
    transportParams w = [w] ∧ profiles w = [w] := by
  have hcomma : 44 ∉ w := fun hin => Bool.false_ne_true ((hsep 44 hin).symm.trans rfl)
  have hparams := params_of_no_sep hsep hne
  refine ⟨hparams, ?_⟩
  rw [profiles_of_not_mem hcomma]
  exact congrArg (fun ps => [List.headD ps []]) hparams

/-- A text without a slash is no profile of TCP. -/
theorem isTcp_of_not_mem (h : 47 ∉ w) : isTcp w = false := by
  rw [isTcp, List.splitOn_eq_singleton h]
  rfl

theorem namesPorts_portPair (a b : Nat) :
    NamesPorts [portPair "client_port=" a b] (portPair "client_port=" a b) := by
  have hnot : ∀ {x : UInt8}, x ∉ ascii "client_port=" → isDigit x = false → x ≠ 45 →
      x ∉ portPair "client_port=" a b := fun hname hx hdash => not_mem_portPair hname hx hdash a b
  have hne : portPair "client_port=" a b ≠ [] := fun hnil =>
    absurd (hnil ▸ prefix_portPair "client_port=" a b) (by decide)
  obtain ⟨hparams, hprofiles⟩ := params_word hne (no_sep_portPair (by decide +kernel) a b)
  refine ⟨?_, ?_, ?_, unbroken_of_not_mem (hnot (by decide) (by decide) (by decide))⟩
  · have hpair : isClientPort (portPair "client_port=" a b) = true :=
      List.isPrefixOf_iff_prefix.2 (prefix_portPair _ a b)
    rw [hparams, List.filter_cons_of_pos hpair, List.filter_nil]
  · rw [hparams, List.forall_mem_singleton]
    exact fun hpre => @hnot 118 (by decide) (by decide) (by decide) (hpre.subset (by decide))
  · rw [hprofiles, List.forall_mem_singleton]
    exact isTcp_of_not_mem (hnot (by decide) (by decide) (by decide))

theorem comma_not_mem_portPair (a b : Nat) : 44 ∉ portPair "client_port=" a b :=
  not_mem_portPair (by decide) (by decide) (by decide) a b

/-! ### What the relay makes of a transport -/

/-- A line ends in a text exactly if it ends in the text without the blanks in front. -/
theorem unbroken_skipBlanks_iff : Unbroken (skipBlanks v) ↔ Unbroken v := by
  induction v with
  | nil => rfl
  | cons c v ih =>
    by_cases hc : (c = 32 || c = 9) = true
    · have hskip : skipBlanks (c :: v) = skipBlanks v := List.dropWhile_cons_of_pos hc
      rw [hskip, ih, Unbroken, Unbroken, List.infix_cons_iff, or_iff_right fun hpre => ?_]
      obtain ⟨rfl, -⟩ := List.cons_prefix_cons.1 hpre
      exact absurd hc (by decide)
    · have hskip : skipBlanks (c :: v) = c :: v := List.dropWhile_cons_of_neg hc
      rw [hskip]

/-- Blanks in front do not matter. -/
theorem namesPorts_skipBlanks_iff : NamesPorts ports (skipBlanks v) ↔ NamesPorts ports v := by
  obtain ⟨hparams, hprofiles⟩ := params_skipBlanks v
  constructor
  · rintro ⟨hclient, hchannels, hprofile, hfree⟩
    exact ⟨hparams ▸ hclient, hparams ▸ hchannels, hprofiles ▸ hprofile,
      unbroken_skipBlanks_iff.1 hfree⟩
  · rintro ⟨hclient, hchannels, hprofile, hfree⟩
    exact ⟨hparams.symm ▸ hclient, hparams.symm ▸ hchannels, hprofiles.symm ▸ hprofile,
      unbroken_skipBlanks_iff.2 hfree⟩

theorem namesPorts_dropSemicolon_iff : NamesPorts [] (dropSemicolon v) ↔ NamesPorts [] v := by
  rw [dropSemicolon]
  split
  case isTrue hlast =>
    obtain ⟨u, rfl⟩ := List.getLast?_eq_some_iff.1 hlast
    rw [List.dropLast_concat]
    exact (namesPorts_append_iff namesPorts_nil List.not_mem_nil :
      NamesPorts ([] ++ []) (u ++ 59 :: []) ↔ _).symm
  case isFalse => rfl

theorem isClientPort_withPair (x : Bytes) :
    isClientPort (withPair "client_port=" a b x) = isClientPort x := by
  rw [Bool.eq_iff_iff, isClientPort, isClientPort, List.isPrefixOf_iff_prefix,
    List.isPrefixOf_iff_prefix]
  exact prefix_withPair_iff (by decide) (.inl rfl)

/-- A transport without channels names the ports of the relay only, if there is one parameter of
    ports, it is a pair, and no profile is over TCP. -/
theorem namesPorts_withPair_iff (hframes : wantsFrames t = false) (hfree : Unbroken t) :
    NamesPorts [portPair "client_port=" a b] (withPair "client_port=" a b t) ↔
      HasOnePair t ∧ ∀ profile ∈ profiles t, isTcp profile = false := by
  obtain ⟨-, hchannels⟩ := Bool.or_eq_false_iff.1 hframes
  have hchannels : ¬ascii "interleaved=" <:+: t := fun h =>
    Bool.false_ne_true (hchannels.symm.trans (contains_iff.2 h))
  have hedits : Edits (withPair "client_port=" a b) :=
    edits_withPair (by decide) (by decide +kernel) a b
  -- the edit keeps the parameters apart, and changes the pairs among them
  have hclient : (transportParams (withPair "client_port=" a b t)).filter isClientPort =
      ((transportParams t).filter isClientPort).map (withPair "client_port=" a b) := by
    rw [hedits.parts_of, List.filter_map]
    exact congrArg (List.map _) (List.filter_congr fun x _ => isClientPort_withPair x)
  constructor
  · intro h
    obtain ⟨param, hparam, hpair⟩ := List.map_eq_singleton_iff.1 (hclient.symm.trans h.client)
    exact ⟨⟨param, hparam, (withPair_eq_iff (by decide)).1 hpair⟩,
      (hedits.forall_profiles_iff t).1 h.profile⟩
  · rintro ⟨⟨param, hparam, hpair⟩, hprofile⟩
    refine ⟨?_, ?_, (hedits.forall_profiles_iff t).2 hprofile, fun hin => hfree ?_⟩
    · rw [hclient, hparam, List.map_singleton, (withPair_eq_iff (by decide)).2 hpair]
    · rw [hedits.parts_of, List.forall_mem_map]
      intro param hparam hpre
      have hpre := (prefix_withPair_iff (by decide) (.inr (by decide))).1 hpre
      exact hchannels ((infix_channels_iff t).2 ⟨param, hparam, hpre.isInfix⟩)
    · have hne : portPair "client_port=" a b ≠ [] := fun hnil =>
        absurd (hnil ▸ prefix_portPair "client_port=" a b) (by decide)
      refine infix_of_scan hne (fun c hc hcy => ?_) hin
      rcases List.mem_cons.1 hcy with rfl | hcy
      · exact not_mem_portPair (by decide) (by decide) (by decide) a b hc
      · rw [List.mem_singleton.1 hcy] at hc
        exact not_mem_portPair (by decide) (by decide) (by decide) a b hc

/-- The relay makes a transport that names its ports only of the transports that suit. -/
theorem namesPorts_upstreamTransport_iff (hports : IsPortPair (s.upstreamPorts cfg))
    (hfree : Unbroken t) :
    NamesPorts [portsParam cfg s] (s.upstreamTransport cfg t) ↔ Suits cfg s t := by
  rw [Suits, upstreamTransport]
  by_cases hzte : cfg.usesZte = true
  · -- the transport of the client is thrown away
    have hstun : cfg.usesStun = false := by
      rw [ServerConfig.usesZte, Bool.and_eq_true, decide_eq_true_eq] at hzte
      rw [ServerConfig.usesStun, hzte.2]
      exact Bool.and_false _
    have hparam : portsParam cfg s = portPair "client_port=" s.localRtpUsPort s.localRtcpUsPort := by
      rw [portsParam, upstreamPorts, hstun]
      rfl
    have hback : NamesPorts [] (ascii "mode=PLAY") :=
      ⟨by decide +kernel, by decide +kernel, by decide +kernel, unbroken_of_not_mem (by decide +kernel)⟩
    have hlast : ascii ";mode=PLAY" = 59 :: ascii "mode=PLAY" := by decide +kernel
    have hsemicolon : ascii ";" = [59] := rfl
    have htext : ascii "MP2T/RTP/UDP;unicast;client_address=" ++ s.localIp ++ ascii ";" ++
        portsParam cfg s ++ ascii ";mode=PLAY" =
        ((ascii "MP2T/RTP/UDP;unicast;client_address=" ++ s.localIp) ++ 59 :: portsParam cfg s) ++
          59 :: ascii "mode=PLAY" := by
      rw [hlast, hsemicolon]
      simp only [List.append_assoc, List.cons_append, List.nil_append]
    have hpair : NamesPorts [portsParam cfg s] (portsParam cfg s) := namesPorts_portPair _ _
    have hwhole := (namesPorts_append_iff hback (by decide +kernel) :
      NamesPorts ([portsParam cfg s] ++ [])
        (((ascii "MP2T/RTP/UDP;unicast;client_address=" ++ s.localIp) ++ 59 :: portsParam cfg s) ++
          59 :: ascii "mode=PLAY") ↔ _)
    have hparams := (namesPorts_append_iff hpair (comma_not_mem_portPair _ _) :
      NamesPorts ([] ++ [portsParam cfg s])
        ((ascii "MP2T/RTP/UDP;unicast;client_address=" ++ s.localIp) ++ 59 :: portsParam cfg s) ↔ _)
    rw [if_pos hzte, if_pos hzte, ← hparam, htext]
    exact hwhole.trans hparams
  · rw [if_neg hzte, if_neg hzte]
    -- the port behind the mapped one wraps, but not if they are a pair
    have hparam : portPair "client_port="
        (if (cfg.usesStun && decide (s.natWanPortUs ≠ 0)) = true then s.natWanPortUs
          else s.localRtpUsPort)
        (if (cfg.usesStun && decide (s.natWanPortUs ≠ 0)) = true then (s.natWanPortUs + 1) % 65536
          else s.localRtcpUsPort) = portsParam cfg s := by
      obtain ⟨-, hnext, hle⟩ := hports
      rw [upstreamPorts] at hnext hle
      rw [portsParam, upstreamPorts]
      split
      case isTrue hmapped =>
        rw [if_pos hmapped] at hle
        rw [Nat.mod_eq_of_lt (Nat.lt_succ_of_le hle)]
      case isFalse => rfl
    dsimp only
    rw [hparam]
    have hpair : NamesPorts [portsParam cfg s] (portsParam cfg s) := namesPorts_portPair _ _
    by_cases hframes : wantsFrames t = true
    · rw [if_pos hframes, if_pos hframes, append_sep]
      exact (namesPorts_append_iff hpair (comma_not_mem_portPair _ _)).trans
        namesPorts_dropSemicolon_iff
    · have hreplace : clientPortRe.replace (portsParam cfg s) t =
          withPair "client_port=" (s.upstreamPorts cfg).1 (s.upstreamPorts cfg).2 t :=
        replace_eq_scan (scans_pairRe (by decide))
          (not_mem_portPair (by decide) (by decide) (by decide) _ _) t
      rw [if_neg hframes, if_neg hframes, hreplace]
      exact namesPorts_withPair_iff (Bool.eq_false_iff.2 hframes) hfree

/-- Where the ports are kept open by heartbeats, every transport suits. -/
theorem suits_of_usesZte {addr : Ipv4} (hzte : cfg.usesZte = true) (hip : s.localIp = inetNtoa addr) :
    Suits cfg s t := by
  have hnot : ∀ {c : UInt8}, c ∉ ascii "client_address=" → isDigit c = false → c ≠ 46 →
      c ∉ ascii "client_address=" ++ inetNtoa addr := fun hname hdigit hdot hin =>
    (List.mem_append.1 hin).elim hname (not_mem_inetNtoa hdigit hdot addr)
  have hsep : ∀ x ∈ ascii "client_address=" ++ inetNtoa addr, isSeparator x = false := by
    refine fun x hx => Bool.eq_false_iff.2 fun hsep => ?_
    have hseparates := separates_of_isSeparator hsep
    have hall : ∀ x ∈ ascii "client_address=", isSeparator x = false := by decide +kernel
    exact hnot (fun hmem => Bool.false_ne_true ((hall x hmem).symm.trans hsep))
      hseparates.no_digit hseparates.no_dot hx
  obtain ⟨hparams, hprofiles⟩ := params_word (List.append_ne_nil_of_left_ne_nil (by decide) _) hsep
  have haddress : NamesPorts [] (ascii "client_address=" ++ inetNtoa addr) := by
    refine ⟨?_, ?_, ?_, unbroken_of_not_mem (hnot (by decide) (by decide) (by decide))⟩
    · rw [hparams]
      rfl
    · rw [hparams, List.forall_mem_singleton]
      exact fun hpre => @hnot 118 (by decide) (by decide) (by decide) (hpre.subset (by decide))
    · rw [hprofiles, List.forall_mem_singleton]
      exact isTcp_of_not_mem (hnot (by decide) (by decide) (by decide))
  have hfront : NamesPorts [] (ascii "MP2T/RTP/UDP;unicast") :=
    ⟨by decide +kernel, by decide +kernel, by decide +kernel, unbroken_of_not_mem (by decide +kernel)⟩
  have htext : ascii "MP2T/RTP/UDP;unicast;client_address=" ++ inetNtoa addr =
      ascii "MP2T/RTP/UDP;unicast" ++ 59 :: (ascii "client_address=" ++ inetNtoa addr) := by
    rw [← List.cons_append, ← List.append_assoc]
    rfl
  rw [Suits, if_pos hzte, hip, htext]
  exact (namesPorts_append_iff haddress (hnot (by decide) (by decide) (by decide)) :
    NamesPorts ([] ++ []) _ ↔ _).2 hfront

/-! ## Requests -/

/-- A request leaves with a transport that names the ports of the relay only: these are a pair, and
    all else that is changed is on the line of the first header field of this name. No end is read of
    a text that has none. -/
def LeavesRelayed (cfg : ServerConfig) (s : RtspToRtspClient) (hs : List Bytes) (body : Bytes) :
    Prop :=
  IsPortPair (s.upstreamPorts cfg) ∧
    (s.patchTransportForUpstream cfg (message hs body)).1.emptyBacks = s.emptyBacks ∧
    ∃ before l after l', hs = before ++ l :: after ∧
    (∀ m ∈ before, valueOf (ascii "Transport") m = none) ∧ valueOf (ascii "Transport") l ≠ none ∧
    (s.patchTransportForUpstream cfg (message hs body)).2 = message (before ++ l' :: after) body ∧
    Unbroken l' ∧ ∃ v ∈ valueOf (ascii "Transport") l', NamesPorts [portsParam cfg s] v

/-- The first place where the name stands is at the start of a line, with a transport that suits. Or
    it is inside a line that stays as it is, and the first header field of this name does already
    name the ports of the relay only. -/
def Suitable (cfg : ServerConfig) (s : RtspToRtspClient) : List Bytes → Prop
  | [] => False
  | l :: hs =>
    match headerPos l (ascii "Transport") with
    | none => Suitable cfg s hs
    | some 0 => Suits cfg s (lineValue (ascii "Transport") l 0)
    | some (p + 1) =>
      editLine (ascii "Transport")
          (s.upstreamTransport cfg (lineValue (ascii "Transport") l (p + 1))) (p + 1) l = l ∧
        ∃ v ∈ headerField (ascii "Transport") hs, NamesPorts [portsParam cfg s] v

/-! ### Lines -/

theorem splitLines_crlf (u w : Bytes) : splitLines (u ++ (crlf ++ w)) = splitLines u ++ splitLines w := by
  have hlines : ∀ ls : List Bytes, ls ≠ [] → (∀ l ∈ ls, Unbroken l) →
      splitLines (crlf.intercalate ls ++ (crlf ++ w)) = ls ++ splitLines w := by
    intro ls hne hfree
    induction ls with
    | nil => exact absurd rfl hne
    | cons l ls ih =>
      obtain ⟨hl, hls⟩ := List.forall_mem_cons.1 hfree
      rcases ls with _ | ⟨l', ls⟩
      · rw [List.intercalate_singleton, splitLines_line hl]
        rfl
      · rw [List.intercalate_cons_cons, List.append_assoc, List.append_assoc, splitLines_line hl,
          ih (List.cons_ne_nil _ _) hls]
        rfl
  have hu := hlines (splitLines u) (splitLines_ne_nil u) fun _ => unbroken_of_mem_splitLines
  rwa [intercalate_splitLines] at hu

theorem splitLines_message_flatMap (hs : List Bytes) (body : Bytes) :
    splitLines (message hs body) = hs.flatMap splitLines ++ [] :: splitLines body := by
  induction hs with
  | nil => rfl
  | cons l hs ih => rw [message_cons, splitLines_crlf, ih, List.flatMap_cons, List.append_assoc]

theorem flatMap_splitLines (h : ∀ l ∈ hs, Unbroken l) : hs.flatMap splitLines = hs := by
  induction hs with
  | nil => rfl
  | cons l hs ih =>
    obtain ⟨hl, hhs⟩ := List.forall_mem_cons.1 h
    rw [List.flatMap_cons, splitLines_of_unbroken hl, ih hhs]
    rfl

/-- Messages of as many lines are the same only if their lines are, even if one of these might be
    broken. -/
theorem lines_eq_of_message {before after ls : List Bytes} (hbefore : ∀ m ∈ before, Unbroken m)
    (hafter : ∀ m ∈ after, Unbroken m) (hls : ∀ m ∈ ls, Unbroken m)
    (hlen : (before ++ l :: after).length = ls.length)
    (h : message (before ++ l :: after) body = message ls body) : before ++ l :: after = ls := by
  have hsplit := congrArg splitLines h
  rw [splitLines_message_flatMap, splitLines_message_flatMap, flatMap_splitLines hls] at hsplit
  have hlines := List.append_cancel_right hsplit
  rw [List.flatMap_append, List.flatMap_cons, flatMap_splitLines hbefore,
    flatMap_splitLines hafter] at hlines
  have hone : (splitLines l).length = 1 := by
    have hcount := congrArg List.length hlines
    simp only [List.length_append, List.length_cons] at hcount hlen
    omega
  obtain ⟨l', hl'⟩ := List.length_eq_one_iff.1 hone
  have hsame : l' = l := by
    rw [← intercalate_splitLines l, hl', List.intercalate_singleton]
  rw [← hlines, hl', hsame]
  rfl

theorem unbroken_transportLine (h : Unbroken v) : Unbroken (ascii "Transport" ++ 58 :: 32 :: v) := by
  have happend : ¬crlf <:+: [] ++ (ascii "Transport: " ++ v) := by
    rw [infix_append_apart_iff (by decide) (by decide) (by decide +kernel), not_or]
    exact ⟨unbroken_nil, h⟩
  exact happend

/-- What the relay makes of the lines of a request is what is asked for exactly if they suit. -/
theorem setField_iff_suitable (hports : IsPortPair (s.upstreamPorts cfg))
    (hfree : ∀ l ∈ hs, Unbroken l) :
    (∃ before l after l', hs = before ++ l :: after ∧
      (∀ m ∈ before, valueOf (ascii "Transport") m = none) ∧ valueOf (ascii "Transport") l ≠ none ∧
      setField (ascii "Transport")
        (s.upstreamTransport cfg ((fieldIn (ascii "Transport") hs).getD [])) hs =
          before ++ l' :: after ∧
      Unbroken l' ∧ ∃ v ∈ valueOf (ascii "Transport") l', NamesPorts [portsParam cfg s] v) ↔
    Suitable cfg s hs := by
  have hname : IsName (ascii "Transport") := by decide
  induction hs with
  | nil =>
    refine iff_of_false ?_ id
    rintro ⟨before, l, after, -, heq, -⟩
    exact absurd heq.symm (List.append_ne_nil_of_right_ne_nil _ (List.cons_ne_nil _ _))
  | cons l hs ih =>
    obtain ⟨hl, hhs⟩ := List.forall_mem_cons.1 hfree
    have hother : headerPos l (ascii "Transport") ≠ some 0 → valueOf (ascii "Transport") l = none := by
      intro hne
      by_contra hsome
      obtain ⟨v, hv⟩ := Option.ne_none_iff_exists'.1 hsome
      exact hne (headerPos_of_valueOf hv)
    rw [Suitable, setField, fieldIn, List.findSome?_cons]
    have hlater : ∀ p, headerPos l (ascii "Transport") = some (p + 1) →
        valueOf (ascii "Transport") l = none := by
      intro p hp
      exact hother (by rw [hp]; exact fun h => Nat.succ_ne_zero p (Option.some.inj h))
    rcases hp : headerPos l (ascii "Transport") with _ | _ | p
    · -- The field is in a later line.
      have hnone := hother (by rw [hp]; exact (Option.some_ne_none 0).symm)
      dsimp only [Option.map_none]
      refine Iff.trans ?_ (ih hhs)
      rw [fieldIn]
      constructor
      · rintro ⟨before, l₀, after, l', heq, hbefore, hl₀, hset, hgood⟩
        rcases before with _ | ⟨m, before⟩
        · obtain ⟨rfl, -⟩ := List.cons.inj heq
          exact absurd hnone hl₀
        · obtain ⟨rfl, rfl⟩ := List.cons.inj heq
          exact ⟨before, l₀, after, l', rfl, fun m hm => hbefore m (List.mem_cons_of_mem _ hm), hl₀,
            (List.cons.inj hset).2, hgood⟩
      · rintro ⟨before, l₀, after, l', rfl, hbefore, hl₀, hset, hgood⟩
        refine ⟨l :: before, l₀, after, l', rfl, List.forall_mem_cons.2 ⟨hnone, hbefore⟩, hl₀, ?_,
          hgood⟩
        rw [hset]
        rfl
    · -- The line is that of the field.
      have hstart := valueOf_of_start hname hp
      have hedit : ∀ v, editLine (ascii "Transport") v 0 l = ascii "Transport" ++ 58 :: 32 :: v :=
        fun v => rfl
      have hvalue : Unbroken (lineValue (ascii "Transport") l 0) := unbroken_value hl _
      dsimp only [Option.map_some, Option.getD_some]
      rw [hedit, ← namesPorts_upstreamTransport_iff hports hvalue]
      constructor
      · rintro ⟨before, l₀, after, l', heq, hbefore, -, hset, -, v, hv, hgood⟩
        rcases before with _ | ⟨m, before⟩
        · obtain ⟨rfl, -⟩ := List.cons.inj hset
          rw [valueOf_transportLine] at hv
          obtain rfl := Option.some.inj hv
          exact namesPorts_skipBlanks_iff.1 hgood
        · obtain ⟨rfl, -⟩ := List.cons.inj heq
          rw [hbefore l List.mem_cons_self] at hstart
          cases hstart
      · intro hgood
        exact ⟨[], l, hs, _, rfl, List.forall_mem_nil _, by simp [hstart], rfl,
          unbroken_transportLine hgood.unbroken, _, valueOf_transportLine _,
          namesPorts_skipBlanks_iff.2 hgood⟩
    · -- The name stands inside another line, and the first line of the field is behind it.
      have hnone := hlater p hp
      dsimp only [Option.map_some, Option.getD_some]
      constructor
      · rintro ⟨before, l₀, after, l', heq, hbefore, hl₀, hset, -, v, hv, hgood⟩
        rcases before with _ | ⟨m, before⟩
        · obtain ⟨rfl, -⟩ := List.cons.inj heq
          exact absurd hnone hl₀
        · obtain ⟨rfl, rfl⟩ := List.cons.inj heq
          obtain ⟨hsame, hrest⟩ := List.cons.inj hset
          refine ⟨hsame, v, ?_, hgood⟩
          have hskip : before.findSome? (valueOf (ascii "Transport")) = none :=
            List.findSome?_eq_none_iff.2 fun m hm => hbefore m (List.mem_cons_of_mem _ hm)
          have hfield : headerField (ascii "Transport") (before ++ l' :: after) = some v := by
            rw [headerField, List.findSome?_append, hskip, Option.none_or, List.findSome?_cons,
              Option.mem_def.1 hv]
          rw [hrest]
          exact hfield
      · rintro ⟨hsame, v, hv, hgood⟩
        obtain ⟨before, l₀, after, rfl, hl₀, hbefore⟩ := List.findSome?_eq_some_iff.1 hv
        have hset : editLine (ascii "Transport")
            (s.upstreamTransport cfg (lineValue (ascii "Transport") l (p + 1))) (p + 1) l ::
              (before ++ l₀ :: after) = l :: before ++ l₀ :: after :=
          congrArg (· :: (before ++ l₀ :: after)) hsame
        exact ⟨l :: before, l₀, after, l₀, rfl, List.forall_mem_cons.2 ⟨hnone, hbefore⟩,
          by simp [hl₀], hset, hhs l₀ (List.mem_append_right _ List.mem_cons_self), v, hl₀, hgood⟩

/-- A request in which ports or channels are found has a transport. -/
theorem transport_ne_nil {req : Bytes} (h : (∃ p, extractClientPort req = .ok (some p)) ∨
    ∃ c, extractInterleavedChannels req = .ok (some c)) :
    extractHeaderValue req (ascii "Transport") ≠ [] := by
  intro hnil
  have hpair : ∀ re : Regex, extractPair re req = .ok none := fun re => if_pos hnil
  rcases h with ⟨p, hp⟩ | ⟨c, hc⟩
  · rw [extractClientPort, hpair] at hp
    cases hp
  · rw [extractInterleavedChannels, hpair] at hc
    cases hc

theorem names_of_suitable (h : Suitable cfg s hs) : ∃ l ∈ hs, Names (ascii "Transport") l := by
  induction hs with
  | nil => exact h.elim
  | cons l hs ih =>
    rw [Suitable] at h
    rcases hp : headerPos l (ascii "Transport") with _ | p
    · rw [hp] at h
      obtain ⟨m, hm, hname⟩ := ih h
      exact ⟨m, List.mem_cons_of_mem _ hm, hname⟩
    · exact ⟨l, List.mem_cons_self, names_of_headerPos hp⟩

/-- An end is read of what remains of the transport, unless nothing does. -/
theorem emptyBacks_patchTransportForUpstream_iff (req : Bytes) :
    (s.patchTransportForUpstream cfg req).1.emptyBacks = s.emptyBacks ↔
      (extractHeaderValue req (ascii "Transport") = [] ∨
        readsEmptyBack cfg (extractHeaderValue req (ascii "Transport")) = false) := by
  rw [patchTransportForUpstream]
  split
  case isTrue hnil => exact iff_of_true rfl (.inl hnil)
  case isFalse hne =>
    rw [or_iff_right hne]
    dsimp only
    rcases readsEmptyBack cfg (extractHeaderValue req (ascii "Transport")) with _ | _
    · exact iff_of_true rfl rfl
    · exact iff_of_false (Nat.succ_ne_self _) (Bool.false_ne_true ∘ Eq.symm)

/-- A request with a transport leaves with the ports of the relay only, and is the same elsewhere,
    exactly if these ports are a pair, the request suits, and something remains of the transport. -/
theorem leavesRelayed_iff_suitable (hblock : IsBlock hs)
    (hne : extractHeaderValue (message hs body) (ascii "Transport") ≠ []) :
    LeavesRelayed cfg s hs body ↔ IsPortPair (s.upstreamPorts cfg) ∧
      readsEmptyBack cfg (extractHeaderValue (message hs body) (ascii "Transport")) = false ∧
      Suitable cfg s hs := by
  have hname : IsName (ascii "Transport") := by decide
  have hfree := hblock.unbroken
  refine and_congr_right fun hports =>
    and_congr ((emptyBacks_patchTransportForUpstream_iff _).trans (or_iff_right hne)) ?_
  by_cases hnames : ∃ l ∈ hs, Names (ascii "Transport") l
  · have hfound : fieldIn (ascii "Transport") hs ≠ none := by
      rw [ne_eq, fieldIn_eq_none_iff]
      intro hno
      obtain ⟨l, hl, hin⟩ := hnames
      exact hno l hl hin
    obtain ⟨v, hv⟩ := Option.ne_none_iff_exists'.1 hfound
    have hvalue : extractHeaderValue (message hs body) (ascii "Transport") =
        (fieldIn (ascii "Transport") hs).getD [] := by
      rw [extractHeaderValue_message hname hfree, hv]
      rfl
    have hpatch : (s.patchTransportForUpstream cfg (message hs body)).2 =
        message (setField (ascii "Transport")
          (s.upstreamTransport cfg ((fieldIn (ascii "Transport") hs).getD [])) hs) body := by
      rw [patchTransportForUpstream, if_neg hne, hvalue, replaceHeader_message hname hfree hnames]
    rw [hpatch]
    refine Iff.trans ?_ (setField_iff_suitable hports hfree)
    -- a header block with as many lines is read off the message in one way only
    refine exists_congr fun before => exists_congr fun l => exists_congr fun after =>
      exists_congr fun l' => and_congr_right fun heq => and_congr_right fun _ =>
        and_congr_right fun _ => and_congr_left fun hgood => ?_
    refine ⟨fun hsame => ?_, congrArg (message · body)⟩
    obtain ⟨u, k, w, p, hsplit, -, -, hset⟩ := setField_eq hnames
      (s.upstreamTransport cfg ((fieldIn (ascii "Transport") hs).getD []))
    rw [hset] at hsame ⊢
    have hfree' : ∀ m ∈ before ++ l' :: after, Unbroken m := by
      rw [heq, List.forall_mem_append, List.forall_mem_cons] at hfree
      exact List.forall_mem_append.2 ⟨hfree.1, List.forall_mem_cons.2 ⟨hgood.1, hfree.2.2⟩⟩
    have hlen : (u ++ editLine (ascii "Transport") (s.upstreamTransport cfg
        ((fieldIn (ascii "Transport") hs).getD [])) p k :: w).length = (before ++ l' :: after).length := by
      have hcount := congrArg List.length (hsplit.symm.trans heq)
      simp only [List.length_append, List.length_cons] at hcount ⊢
      exact hcount
    rw [hsplit, List.forall_mem_append, List.forall_mem_cons] at hfree
    exact lines_eq_of_message hfree.1 hfree.2.2 hfree' hlen hsame
  · refine iff_of_false ?_ fun hsuits => hnames (names_of_suitable hsuits)
    rintro ⟨before, l, after, l', rfl, -, hl, -⟩
    obtain ⟨v, hv⟩ := Option.ne_none_iff_exists'.1 hl
    exact hnames ⟨l, List.mem_append_right _ List.mem_cons_self,
      names_of_headerPos (headerPos_of_valueOf hv)⟩

/-- A `SETUP` in which ports or channels are found leaves with the ports of the relay only, and is
    the same elsewhere, exactly if these ports are a pair, the request suits, and something remains
    of the transport of a client that wants frames. -/
theorem leavesRelayed_iff (cfg : ServerConfig) (s : RtspToRtspClient) (hs : List Bytes) (body : Bytes)
    (hblock : IsBlock hs) (h :
      (∃ p, extractClientPort (message hs body) = .ok (some p)) ∨
        ∃ c, extractInterleavedChannels (message hs body) = .ok (some c)) :
    LeavesRelayed cfg s hs body ↔ IsPortPair (s.upstreamPorts cfg) ∧
      readsEmptyBack cfg (extractHeaderValue (message hs body) (ascii "Transport")) = false ∧
      Suitable cfg s hs :=
  leavesRelayed_iff_suitable hblock (transport_ne_nil h)

/-- A `SETUP` with a transport. -/
def setupWith (transport : Bytes) : List Bytes :=
  [ascii "SETUP /a RTSP/1.0", ascii "Transport: " ++ transport]

theorem isBlock_setupWith {transport : Bytes} (h : 13 ∉ transport) : IsBlock (setupWith transport) where
  ne_nil := List.cons_ne_nil _ _
  unbroken := by
    refine List.forall_mem_cons.2 ⟨unbroken_of_not_mem (by decide), List.forall_mem_singleton.2 ?_⟩
    exact unbroken_of_not_mem fun hin => (List.mem_append.1 hin).elim (by decide) h
  full := List.forall_mem_singleton.2 (List.append_ne_nil_of_left_ne_nil (by decide) _)

theorem suitable_setupWith_iff {transport : Bytes}
    (hline : headerPos (ascii "Transport: " ++ transport) (ascii "Transport") = some 0) :
    Suitable cfg s (setupWith transport) ↔ Suits cfg s (skipBlanks transport) := by
  have hfirst : headerPos (ascii "SETUP /a RTSP/1.0") (ascii "Transport") = none :=
    headerPos_eq_none_iff.2 (not_names_of_not_mem (by decide))
  rw [setupWith, Suitable, hfirst]
  dsimp only
  rw [Suitable, hline]
  rfl

/-- The ports of the relay, and the port that they are mapped to. -/
def relayAt (mapped : Nat) : RtspToRtspClient :=
  { liveSession with localRtpUsPort := 5000, localRtcpUsPort := 5001, natWanPortUs := mapped }

theorem leavesRelayed_iff_pair : LeavesRelayed {} (relayAt 0)
    (setupWith (ascii "RTP/AVP;client_port=6000-6001")) [] := by
  have hblock := @isBlock_setupWith (ascii "RTP/AVP;client_port=6000-6001") (by decide)
  refine (leavesRelayed_iff {} (relayAt 0) _ [] hblock (.inl ⟨(6000, 6001), by decide +kernel⟩)).2
    ⟨⟨by decide, rfl, by decide⟩, by decide +kernel,
      (suitable_setupWith_iff (by decide +kernel)).2 ?_⟩
  rw [Suits, if_neg (by decide), if_neg (by decide +kernel)]
  exact ⟨⟨ascii "client_port=6000-6001", by decide +kernel, ascii "6000", ascii "6001",
    by decide +kernel, ⟨by decide, by decide +kernel⟩, by decide, by decide +kernel⟩,
    by decide +kernel⟩

/-- Beside channels, the ports of the client are left in the transport; and the port behind the
    highest one is 0. -/
theorem not_leavesRelayed :
    (extractClientPort (message
        (setupWith (ascii "RTP/AVP/TCP;interleaved=0-1;client_port=6000-6001")) []) =
        .ok (some (6000, 6001)) ∧
      ¬LeavesRelayed {} (relayAt 0)
        (setupWith (ascii "RTP/AVP/TCP;interleaved=0-1;client_port=6000-6001")) []) ∧
    (extractClientPort (message (setupWith (ascii "RTP/AVP;client_port=6000-6001")) []) =
        .ok (some (6000, 6001)) ∧
      ¬LeavesRelayed { enableNat := true } (relayAt 65535)
        (setupWith (ascii "RTP/AVP;client_port=6000-6001")) []) := by
  refine ⟨⟨by decide +kernel, fun h => ?_⟩, by decide +kernel, fun h => ?_⟩
  · have hblock :=
      @isBlock_setupWith (ascii "RTP/AVP/TCP;interleaved=0-1;client_port=6000-6001") (by decide)
    obtain ⟨-, -, hsuits⟩ := (leavesRelayed_iff_suitable hblock (by decide +kernel)).1 h
    rw [suitable_setupWith_iff (by decide +kernel), Suits, if_neg (by decide),
      if_pos (by decide +kernel)] at hsuits
    exact absurd hsuits.client (by decide +kernel)
  · exact absurd h.1.2.2 (by decide)

end RtspToRtspClient
