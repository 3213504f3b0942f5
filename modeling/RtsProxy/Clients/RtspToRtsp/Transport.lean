import RtsProxy.Clients.RtspToRtsp.Patch
import RtsProxy.Regex.Scan

/-!
# The transport that a client is shown

A transport is a profile and parameters, with semicolons and blanks between them; several of them
have commas between them. The proxy edits it by expressions that look for pairs of ports, or for an
address, anywhere in the text. Each parameter is edited on its own.

* `udpShown_clientTransport_iff`: which transports of a reply are shown to a client that is sent
  datagrams as what it gets;
* `tcpShown_clientTransport_iff`: the same for a client that is sent frames.
-/

open Text Ecma Regex

namespace RtspToRtspClient

/-! ## Parameters -/

/-- A byte between the profile and the parameters of a transport. -/
def isSeparator (c : UInt8) : Bool := c = 59 || c = 44 || c = 32 || c = 9

/-- The profiles of transports and their parameters. -/
def transportParams (transport : Bytes) : List Bytes := parts isSeparator transport

/-- The profile of a transport. -/
def profileOf (transport : Bytes) : Bytes := firstPart isSeparator transport

/-- The profiles of transports. -/
def profiles (transport : Bytes) : List Bytes := firsts (· = 44) isSeparator transport

/-- A profile is over TCP: this is its third part, in any case. -/
def isTcp (profile : Bytes) : Bool := (profile.splitOn 47)[2]?.map lower = some (ascii "tcp")

/-- A number: digits, and not none. -/
def IsNumber (text : Bytes) : Prop := text ≠ [] ∧ ∀ b ∈ text, isDigit b = true

/-- A parameter is a name with a pair of numbers. -/
def IsPair (name : String) (param : Bytes) : Prop :=
  ∃ first second, param = ascii name ++ first ++ ascii "-" ++ second ∧ IsNumber first ∧
    IsNumber second

/-- Of the parameters with a name there is one, and each is this pair. -/
def NamesPair (name : String) (a b : Nat) (transport : Bytes) : Prop :=
  portPair name a b ∈ transportParams transport ∧
    ∀ param ∈ transportParams transport, ascii name <+: param → param = portPair name a b

/-- Of the parameters with a name there is one, and each is a pair. -/
def HasPair (name : String) (transport : Bytes) : Prop :=
  (∃ param ∈ transportParams transport, IsPair name param) ∧
    ∀ param ∈ transportParams transport, ascii name <+: param → IsPair name param

/-- Blanks in front do not matter. -/
theorem params_skipBlanks (t : Bytes) : transportParams (RtspParser.skipBlanks t) = transportParams t ∧
    profiles (RtspParser.skipBlanks t) = profiles t := by
  induction t with
  | nil => exact ⟨rfl, rfl⟩
  | cons c t ih =>
    by_cases hc : (c = 32 || c = 9) = true
    · have hskip : RtspParser.skipBlanks (c :: t) = RtspParser.skipBlanks t :=
        List.dropWhile_cons_of_pos hc
      have hblank : c = 32 ∨ c = 9 := by simpa using hc
      have hsep : isSeparator c = true ∧ decide (c = 44) = false := by
        rcases hblank with rfl | rfl <;> decide
      rw [hskip, ih.1, ih.2, transportParams, transportParams, parts_cons_sep hsep.1, profiles,
        profiles, firsts_cons_sep hsep.1 hsep.2]
      exact ⟨rfl, rfl⟩
    · have hskip : RtspParser.skipBlanks (c :: t) = c :: t := List.dropWhile_cons_of_neg hc
      rw [hskip]
      exact ⟨rfl, rfl⟩

theorem isPair_portPair (name : String) (a b : Nat) : IsPair name (portPair name a b) :=
  ⟨decimal a, decimal b, rfl, ⟨decimal_ne_nil a, fun _ => isDigit_of_mem_decimal⟩,
    decimal_ne_nil b, fun _ => isDigit_of_mem_decimal⟩

theorem not_mem_isPair {name : String} {param : Bytes} {x : UInt8} (h : IsPair name param)
    (hname : x ∉ ascii name) (hx : isDigit x = false) (hdash : x ≠ 45) : x ∉ param := by
  obtain ⟨first, second, rfl, ⟨-, hfirst⟩, -, hsecond⟩ := h
  intro hmem
  rcases List.mem_append.1 hmem with hmem | hmem
  · rcases List.mem_append.1 hmem with hmem | hmem
    · rcases List.mem_append.1 hmem with hmem | hmem
      · exact hname hmem
      · exact Bool.false_ne_true (hx.symm.trans (hfirst x hmem))
    · exact hdash (List.mem_singleton.1 hmem)
  · exact Bool.false_ne_true (hx.symm.trans (hsecond x hmem))

/-! ## What the expressions read -/

/-- The class of digits. -/
def digitClass : ByteClass := ⟨[(48, 57)], false⟩

/-- The class of the bytes of an address. -/
def addressClass : ByteClass := ⟨[(46, 46), (48, 57)], false⟩

/-- A name with a pair of numbers is read. -/
def readPair (name : String) : Reader :=
  readAll [readText (ascii name), readRun digitClass, readText (ascii "-"), readRun digitClass]

/-- A name with an address is read. -/
def readAddress (name : String) : Reader :=
  readAll [readText (ascii name), readRun addressClass]

variable {name : String} {p : Bytes}

theorem readText_bound {pat s : Bytes} {n : Nat} (h : readText pat s = some n) : n ≤ s.length := by
  obtain ⟨rfl, hpre⟩ := readText_le h
  exact hpre.length_le

theorem pair_bound : ∀ f ∈ [readRun digitClass, readText (ascii "-"), readRun digitClass],
    ∀ s n, f s = some n → n ≤ s.length :=
  List.forall_mem_cons.2 ⟨fun _ _ h => (readRun_le h).2.1, List.forall_mem_cons.2
    ⟨fun _ _ => readText_bound, List.forall_mem_singleton.2 fun _ _ h => (readRun_le h).2.1⟩⟩

theorem address_bound : ∀ f ∈ [readRun addressClass], ∀ s n, f s = some n → n ≤ s.length :=
  List.forall_mem_singleton.2 fun _ _ h => (readRun_le h).2.1

theorem scans_pairRe (hname : ascii name ≠ []) : Scans (pairRe name) (readPair name) :=
  scans_of_follows hname pair_bound (follows_text _ (follows_run
    (follows_text [45] (follows_run follows_nil (.inl rfl)))
    (.inr (@rejects_text digitClass [digits] 45 [] (by decide)))))

theorem scans_pairGroupsRe (hname : ascii name ≠ []) : Scans (pairGroupsRe name) (readPair name) :=
  scans_of_follows hname pair_bound (follows_text _ (follows_group
    (follows_text [45] (follows_group follows_nil (.inl rfl)))
    (.inr (@rejects_text digitClass [group 2 (ofTerms [digits])] 45 [] (by decide)))))

theorem scans_addressRe (hname : ascii name ≠ []) : Scans (addressRe name) (readAddress name) :=
  scans_of_follows hname address_bound (follows_text _ (follows_run follows_nil (.inl rfl)))

/-- What starts with a text is named by it. -/
theorem named_readAll {text : Bytes} {fs : List Reader} (htext : text ≠ [])
    (hfs : ∀ f ∈ fs, ∀ s n, f s = some n → n ≤ s.length) :
    Named text (readAll (readText text :: fs)) where
  ne_nil := htext
  le := by
    intro s n h
    refine ⟨?_, readAll_le (List.forall_mem_cons.2 ⟨fun _ _ => readText_bound, hfs⟩) h⟩
    obtain ⟨m, hm, hmore⟩ := Option.bind_eq_some_iff.1 h
    obtain ⟨i, -, rfl⟩ := Option.map_eq_some_iff.1 hmore
    rw [← (readText_le hm).1]
    exact Nat.le_add_right _ _
  prefix_of := by
    intro s n h
    obtain ⟨m, hm, -⟩ := Option.bind_eq_some_iff.1 h
    exact (readText_le hm).2

theorem named_readPair (hname : ascii name ≠ []) : Named (ascii name) (readPair name) :=
  named_readAll hname pair_bound

theorem named_readAddress (hname : ascii name ≠ []) : Named (ascii name) (readAddress name) :=
  named_readAll hname address_bound

theorem mem_digitClass_iff (b : UInt8) : digitClass.mem b = isDigit b := by
  simp [ByteClass.mem, digitClass, isDigit]

/-- A byte that separates parameters, or the parts of a profile. -/
structure Separates (x : UInt8) : Prop where
  no_digit : isDigit x = false
  no_dash : x ≠ 45
  no_dot : x ≠ 46

theorem separates_slash : Separates 47 := ⟨by decide, by decide, by decide⟩

theorem separates_of_isSeparator {x : UInt8} (h : isSeparator x = true) : Separates x := by
  simp only [isSeparator, Bool.or_eq_true, decide_eq_true_eq] at h
  rcases h with ((rfl | rfl) | rfl) | rfl <;> exact ⟨by decide, by decide, by decide⟩

theorem separates_comma {x : UInt8} (h : decide (x = 44) = true) : Separates x := by
  obtain rfl := of_decide_eq_true h
  exact ⟨by decide, by decide, by decide⟩

theorem blind_readPair {x : UInt8} (hname : x ∉ ascii name) (hx : Separates x) :
    Blind (readPair name) x := by
  have hdigits : Blind (readRun digitClass) x := blind_run ((mem_digitClass_iff x).trans hx.no_digit)
  refine blind_all (List.forall_mem_cons.2 ⟨fun _ _ => readText_bound, pair_bound⟩)
    (List.forall_mem_cons.2 ⟨blind_text hname, List.forall_mem_cons.2 ⟨hdigits, ?_⟩⟩)
  refine List.forall_mem_cons.2 ⟨blind_text fun hmem => ?_, List.forall_mem_singleton.2 hdigits⟩
  exact hx.no_dash (List.mem_singleton.1 hmem)

theorem blind_readAddress {x : UInt8} (hname : x ∉ ascii name) (hx : Separates x) :
    Blind (readAddress name) x := by
  have haddress : addressClass.mem x = false := by
    have hdigit : (⟨[(48, 57)], false⟩ : ByteClass).mem x = false :=
      (mem_digitClass_iff x).trans hx.no_digit
    have hdot : ¬(46 ≤ x ∧ x ≤ 46) := fun h => hx.no_dot (UInt8.le_antisymm h.2 h.1)
    simp only [ByteClass.mem, addressClass, List.any_cons, List.any_nil, Bool.or_false,
      Bool.bne_false, Bool.or_eq_false_iff] at hdigit ⊢
    exact ⟨by simpa using hdot, hdigit⟩
  exact blind_all (List.forall_mem_cons.2 ⟨fun _ _ => readText_bound, address_bound⟩)
    (List.forall_mem_cons.2 ⟨blind_text hname, List.forall_mem_singleton.2 (blind_run haddress)⟩)

theorem readRun_of_number {first rest : Bytes} (h : IsNumber first)
    (hrest : ∀ b ∈ rest.head?, isDigit b = false) :
    readRun digitClass (first ++ rest) = some first.length := by
  obtain ⟨hne, hall⟩ := h
  have htake : (first ++ rest).takeWhile digitClass.mem = first := by
    rw [List.takeWhile_append_of_pos fun b hb => (mem_digitClass_iff b).trans (hall b hb)]
    rcases rest with _ | ⟨b, rest⟩
    · exact List.append_nil _
    · rw [List.takeWhile_cons_of_neg, List.append_nil]
      rw [mem_digitClass_iff, hrest b rfl]
      exact Bool.false_ne_true
  rw [readRun, htake, if_neg (List.length_pos_iff.2 hne).ne']

/-- What is read of a run is a number. -/
theorem number_of_readRun {n : Nat} (h : readRun digitClass p = some n) :
    IsNumber (p.take n) := by
  obtain ⟨hpos, hle, hn⟩ := readRun_le h
  have htake : p.take n = p.takeWhile digitClass.mem :=
    hn ▸ (List.prefix_iff_eq_take.1 (List.takeWhile_prefix _)).symm
  refine ⟨fun hnil => ?_, fun b hb => ?_⟩
  · have hlen := congrArg List.length hnil
    rw [List.length_take, Nat.min_eq_left hle] at hlen
    exact absurd hlen hpos.ne'
  · rw [htake] at hb
    exact (mem_digitClass_iff b).symm.trans (List.mem_takeWhile_imp hb)

/-- What is read is a pair. -/
theorem isPair_of_readPair {n : Nat} (h : readPair name p = some n) : IsPair name (p.take n) := by
  obtain ⟨m, hm, hmore⟩ := Option.bind_eq_some_iff.1 h
  obtain ⟨i, hi, rfl⟩ := Option.map_eq_some_iff.1 hmore
  obtain ⟨n₁, h₁, hmore₁⟩ := Option.bind_eq_some_iff.1 hi
  obtain ⟨i₁, hi₁, rfl⟩ := Option.map_eq_some_iff.1 hmore₁
  obtain ⟨d, hd, hmore₂⟩ := Option.bind_eq_some_iff.1 hi₁
  obtain ⟨i₂, hi₂, rfl⟩ := Option.map_eq_some_iff.1 hmore₂
  obtain ⟨n₂, h₂, hmore₃⟩ := Option.bind_eq_some_iff.1 hi₂
  obtain ⟨i₃, hi₃, rfl⟩ := Option.map_eq_some_iff.1 hmore₃
  cases hi₃
  obtain ⟨rfl, rest, rfl⟩ := readText_le hm
  rw [List.drop_left] at h₁ hd h₂
  obtain ⟨rfl, second, hsecond⟩ := readText_le hd
  rw [← hsecond, List.drop_left] at h₂
  have hle₁ := (readRun_le h₁).2.1
  have hle₂ := (readRun_le h₂).2.1
  refine ⟨rest.take n₁, second.take n₂, ?_, number_of_readRun h₁, number_of_readRun h₂⟩
  have hwhole : ascii name ++ rest =
      ascii name ++ rest.take n₁ ++ ascii "-" ++ second.take n₂ ++ second.drop n₂ := by
    simp only [List.append_assoc]
    rw [List.take_append_drop, hsecond, List.take_append_drop]
  rw [hwhole]
  refine List.take_left' ?_
  simp only [List.length_append, List.length_take, Nat.min_eq_left hle₁, Nat.min_eq_left hle₂]
  omega

/-- A pair is what is read as a whole. -/
theorem isPair_iff : IsPair name p ↔ readPair name p = some p.length := by
  constructor
  · rintro ⟨first, second, rfl, hfirst, hsecond⟩
    have htext : ∀ pat rest : Bytes, readText pat (pat ++ rest) = some pat.length :=
      fun pat rest => if_pos (List.isPrefixOf_iff_prefix.2 (List.prefix_append pat rest))
    have hrun : readRun digitClass (first ++ (ascii "-" ++ second)) = some first.length :=
      readRun_of_number hfirst fun b hb => by
        obtain rfl : 45 = b := Option.some.inj hb
        rfl
    have hlast : readRun digitClass second = some second.length := by
      have hnil := @readRun_of_number second [] hsecond fun b hb => by cases hb
      rwa [List.append_nil] at hnil
    rw [readPair, List.append_assoc, List.append_assoc, readAll, htext, Option.bind_some,
      List.drop_left, readAll, hrun, Option.bind_some, List.drop_left, readAll, htext,
      Option.bind_some, List.drop_left, readAll, hlast]
    simp only [readAll, Option.bind_some, Option.map_some, List.length_append]
    rfl
  · intro h
    have hpair := isPair_of_readPair h
    rwa [List.take_length] at hpair

/-! ## A client that is sent datagrams -/

theorem not_mem_inetNtoa {x : UInt8} (hx : isDigit x = false) (hdot : x ≠ 46) (addr : Ipv4) :
    x ∉ inetNtoa addr := by
  have hdigits : ∀ n, x ∉ decimal n := fun n hmem =>
    Bool.false_ne_true (hx.symm.trans (isDigit_of_mem_decimal hmem))
  have hsep : x ∉ ascii "." := fun hmem => hdot (List.mem_singleton.1 hmem)
  simp only [inetNtoa, List.mem_append, hdigits, hsep, or_self, not_false_eq_true]

theorem not_mem_portPair {x : UInt8} (hname : x ∉ ascii name) (hx : isDigit x = false)
    (hdash : x ≠ 45) (a b : Nat) : x ∉ portPair name a b :=
  not_mem_isPair (isPair_portPair name a b) hname hx hdash

theorem prefix_portPair (name : String) (a b : Nat) : ascii name <+: portPair name a b := by
  rw [portPair, List.append_assoc, List.append_assoc]
  exact List.prefix_append _ _

/-- The parameter of the address of the proxy. -/
def sourceParam (s : RtspToRtspClient) : Bytes := ascii "source=" ++ inetNtoa s.localAddr.addr

/-- A parameter with the address of the proxy in place of that of the server. -/
def withSource (s : RtspToRtspClient) : Bytes → Bytes :=
  scan (readAddress "source=") s.sourceParam 0

/-- A parameter with a pair of ports in place of another. -/
def withPair (name : String) (a b : Nat) : Bytes → Bytes :=
  scan (readPair name) (portPair name a b) 0

variable {s : RtspToRtspClient} {t : Bytes} {a b : Nat}

theorem not_mem_sourceParam {x : UInt8} (hname : x ∉ ascii "source=") (hx : isDigit x = false)
    (hdot : x ≠ 46) : x ∉ s.sourceParam := fun hmem =>
  (List.mem_append.1 hmem).elim hname (not_mem_inetNtoa hx hdot _)

/-- An edit of each part of a transport, and of each part of a profile. -/
structure Edits (edit : Bytes → Bytes) : Prop where
  parts_of : ∀ t, transportParams (edit t) = (transportParams t).map edit
  profiles_of : ∀ t, profiles (edit t) = (profiles t).map edit
  slashes_of : ∀ t, (edit t).splitOn 47 = (t.splitOn 47).map edit
  /-- What has no equals sign comes from itself only. -/
  eq_iff : ∀ {p y}, 61 ∉ y → (edit p = y ↔ p = y)

/-- Replacing what a reader finds is such an edit. -/
theorem edits_scan {named new : Bytes} {f : Reader} (h : Named named f) (hnew : named <+: new)
    (hname : (61 : UInt8) ∈ named) (hblind : ∀ x, Separates x → x ∉ named → Blind f x)
    (hsep : ∀ x ∈ named, isSeparator x = false ∧ x ≠ 47)
    (hno : ∀ x, Separates x → x ∉ named → x ∉ new) : Edits (scan f new 0) := by
  have hne : new ≠ [] := fun hnil => h.ne_nil (List.prefix_nil.1 (hnil ▸ hnew))
  -- no match reaches over a separator, and none is written
  have hapart : ∀ {sep : UInt8 → Bool}, (∀ x, sep x = true → Separates x) →
      (∀ x, sep x = true → x ∉ named) → (∀ x, sep x = true → Blind f x) ∧
        ∀ x ∈ new, sep x = false := by
    intro sep hseps hnames
    refine ⟨fun x hx => hblind x (hseps x hx) (hnames x hx), fun x hx => ?_⟩
    exact Bool.eq_false_iff.2 fun htrue => hno x (hseps x htrue) (hnames x htrue) hx
  have hseparator := @hapart isSeparator (fun x => separates_of_isSeparator) fun x hx hmem =>
    Bool.false_ne_true ((hsep x hmem).1.symm.trans hx)
  have hcomma := @hapart (· = 44) (fun x => separates_comma) fun x hx hmem => by
    obtain rfl := of_decide_eq_true hx
    exact absurd (hsep 44 hmem).1 (by decide)
  have hslash := @hapart (· == 47) (fun x hx => eq_of_beq hx ▸ separates_slash) fun x hx hmem =>
    (hsep x hmem).2 (eq_of_beq hx)
  have hparts := parts_scan h hseparator.1 hseparator.2 hne
  refine ⟨hparts, fun t => ?_, fun t => ?_, fun hy => ?_⟩
  · rw [profiles, firsts, splitOnP_scan h hcomma.1 hcomma.2, List.map_map, profiles, firsts,
      List.map_map]
    refine List.map_congr_left fun spec _ => ?_
    rw [Function.comp_apply, Function.comp_apply, firstPart, hparts, firstPart]
    rcases parts isSeparator spec with _ | ⟨p, ps⟩ <;> rfl
  · rw [List.splitOn_eq_splitOnP, List.splitOn_eq_splitOnP]
    exact splitOnP_scan h hslash.1 hslash.2 t
  · exact scan_eq_iff_of_not_mem h hname (hnew.subset hname) hy

theorem Edits.comp {edit edit' : Bytes → Bytes} (h : Edits edit) (h' : Edits edit') :
    Edits fun t => edit (edit' t) where
  parts_of t := by rw [h.parts_of, h'.parts_of, List.map_map]; rfl
  profiles_of t := by rw [h.profiles_of, h'.profiles_of, List.map_map]; rfl
  slashes_of t := by rw [h.slashes_of, h'.slashes_of, List.map_map]; rfl
  eq_iff hy := (h.eq_iff hy).trans (h'.eq_iff hy)

/-- Whether a profile is over TCP is not edited. -/
theorem Edits.isTcp_iff {edit : Bytes → Bytes} (h : Edits edit) (p : Bytes) :
    isTcp (edit p) = isTcp p := by
  have hlower : ∀ y, lower y = ascii "tcp" → (61 : UInt8) ∉ y := by
    intro y hy hmem
    have hin : lowerByte 61 ∈ lower y := List.mem_map_of_mem hmem
    rw [hy] at hin
    exact absurd hin (by decide)
  rw [isTcp, isTcp, h.slashes_of, List.getElem?_map, decide_eq_decide, Option.map_map]
  rcases (p.splitOn 47)[2]? with _ | y
  · rfl
  · refine ⟨fun htcp => ?_, fun htcp => ?_⟩
    · have hy := hlower _ (Option.some.inj htcp)
      rw [Option.map_some, (h.eq_iff hy).1 rfl]
      exact htcp
    · have hy := hlower _ (Option.some.inj htcp)
      rw [Option.map_some, Function.comp_apply, (h.eq_iff hy).2 rfl]
      exact htcp

theorem Edits.forall_profiles_iff {edit : Bytes → Bytes} (h : Edits edit) (t : Bytes) :
    (∀ p ∈ profiles (edit t), isTcp p = false) ↔ ∀ p ∈ profiles t, isTcp p = false := by
  rw [h.profiles_of, List.forall_mem_map]
  exact forall₂_congr fun p _ => by rw [h.isTcp_iff]

theorem edits_withSource : Edits s.withSource := by
  refine edits_scan (named_readAddress (by decide)) (List.prefix_append _ _) (by decide)
    (fun x hx hname => blind_readAddress hname hx) (by decide +kernel) fun x hx hname => ?_
  exact not_mem_sourceParam hname hx.no_digit hx.no_dot

theorem edits_withPair (hname : (61 : UInt8) ∈ ascii name)
    (hsep : ∀ x ∈ ascii name, isSeparator x = false ∧ x ≠ 47) (a b : Nat) :
    Edits (withPair name a b) :=
  edits_scan (named_readPair (List.ne_nil_of_mem hname)) (prefix_portPair name a b) hname
    (fun _ hx hno => blind_readPair hno hx) hsep fun _ hx hno =>
      not_mem_portPair hno hx.no_digit hx.no_dash a b

theorem sourceRe_replace (t : Bytes) :
    sourceRe.replace (ascii "source=" ++ inetNtoa s.localAddr.addr) t = s.withSource t :=
  replace_eq_scan (scans_addressRe (by decide))
    (not_mem_sourceParam (by decide) (by decide) (by decide)) t

/-- What is done to a parameter for a client that is sent datagrams. -/
def udpParam (s : RtspToRtspClient) (param : Bytes) : Bytes :=
  s.withSource (withPair "server_port=" s.localRtpDsPort s.localRtcpDsPort
    (withPair "client_port=" s.clientRtpAddr.port s.clientRtcpAddr.port param))

theorem clientTransport_udp (h : s.isDownstreamTcp = false) (t : Bytes) :
    s.clientTransport t = s.udpParam t := by
  have hclient : clientPortRe.replace
      (portPair "client_port=" s.clientRtpAddr.port s.clientRtcpAddr.port) t =
      withPair "client_port=" s.clientRtpAddr.port s.clientRtcpAddr.port t :=
    replace_eq_scan (scans_pairRe (by decide))
      (not_mem_portPair (by decide) (by decide) (by decide) _ _) t
  have hserver : ∀ u, serverPortRe.replace
      (portPair "server_port=" s.localRtpDsPort s.localRtcpDsPort) u =
      withPair "server_port=" s.localRtpDsPort s.localRtcpDsPort u :=
    replace_eq_scan (scans_pairGroupsRe (by decide))
      (not_mem_portPair (by decide) (by decide) (by decide) _ _)
  rw [clientTransport, h]
  dsimp only
  rw [if_neg Bool.false_ne_true, hclient, hserver, sourceRe_replace]
  rfl

theorem edits_udpParam : Edits s.udpParam :=
  edits_withSource.comp ((edits_withPair (by decide) (by decide +kernel) _ _).comp
    (edits_withPair (by decide) (by decide +kernel) _ _))

/-- A parameter that becomes one is a pair. -/
theorem withPair_eq_iff (hname : ascii name ≠ []) :
    withPair name a b p = portPair name a b ↔ IsPair name p := by
  rw [isPair_iff]
  exact scan_eq_new_iff (named_readPair hname) (isPair_iff.1 (isPair_portPair name a b))

/-- A text without a byte of the name comes from itself only. -/
theorem withPair_eq_iff_of_not_mem {x : UInt8} {y : Bytes} (hx : x ∈ ascii name) (hy : x ∉ y) :
    withPair name a b p = y ↔ p = y :=
  scan_eq_iff_of_not_mem (named_readPair (List.ne_nil_of_mem hx)) hx
    ((prefix_portPair name a b).subset hx) hy

@[inherit_doc withPair_eq_iff_of_not_mem]
theorem withSource_eq_iff_of_not_mem {x : UInt8} {y : Bytes} (hx : x ∈ ascii "source=")
    (hy : x ∉ y) : s.withSource p = y ↔ p = y :=
  scan_eq_iff_of_not_mem (named_readAddress (List.ne_nil_of_mem hx)) hx
    (List.mem_append_left _ hx) hy

/-- A parameter of ports starts as before. -/
theorem prefix_withPair_iff {y : Bytes} (hname : ascii name ≠ [])
    (hy : y = ascii name ∨ ¬ascii name <:+: y) : y <+: withPair name a b p ↔ y <+: p :=
  prefix_scan_iff (named_readPair hname) (prefix_portPair name a b) hy

@[inherit_doc prefix_withPair_iff]
theorem prefix_withSource_iff {y : Bytes} (hy : y = ascii "source=" ∨ ¬ascii "source=" <:+: y) :
    y <+: s.withSource p ↔ y <+: p :=
  prefix_scan_iff (named_readAddress (by decide)) (List.prefix_append _ _) hy

theorem udpParam_client_iff : s.udpParam p =
    portPair "client_port=" s.clientRtpAddr.port s.clientRtcpAddr.port ↔
      IsPair "client_port=" p := by
  -- the pair has no `s`, of which the names of the other two parameters have one
  have hs : (115 : UInt8) ∉ portPair "client_port=" s.clientRtpAddr.port s.clientRtcpAddr.port :=
    not_mem_portPair (by decide) (by decide) (by decide) _ _
  rw [udpParam, withSource_eq_iff_of_not_mem (x := 115) (by decide) hs,
    withPair_eq_iff_of_not_mem (x := 115) (by decide) hs, withPair_eq_iff (by decide)]

theorem udpParam_server_iff : s.udpParam p =
    portPair "server_port=" s.localRtpDsPort s.localRtcpDsPort ↔ IsPair "server_port=" p := by
  have hu : (117 : UInt8) ∉ portPair "server_port=" s.localRtpDsPort s.localRtcpDsPort :=
    not_mem_portPair (by decide) (by decide) (by decide) _ _
  rw [udpParam, withSource_eq_iff_of_not_mem (x := 117) (by decide) hu, withPair_eq_iff (by decide)]
  -- a pair of server ports has no `c`
  constructor
  · intro hpair
    have hc := not_mem_isPair (x := 99) hpair (by decide) (by decide) (by decide)
    rw [(withPair_eq_iff_of_not_mem (x := 99) (by decide) hc).1 rfl]
    exact hpair
  · intro hpair
    have hc := not_mem_isPair (x := 99) hpair (by decide) (by decide) (by decide)
    rw [(withPair_eq_iff_of_not_mem (x := 99) (by decide) hc).2 rfl]
    exact hpair

theorem prefix_udpParam_iff {y : Bytes} (hclient : y = ascii "client_port=" ∨
      ¬ascii "client_port=" <:+: y) (hserver : y = ascii "server_port=" ∨
      ¬ascii "server_port=" <:+: y) (hsource : y = ascii "source=" ∨ ¬ascii "source=" <:+: y) :
    y <+: s.udpParam p ↔ y <+: p := by
  rw [udpParam, prefix_withSource_iff hsource, prefix_withPair_iff (by decide) hserver,
    prefix_withPair_iff (by decide) hclient]

/-- A transport that is shown describes how a client is sent datagrams from the ports of the
    relay, at its ports `a` and `b`. -/
structure UdpShown (s : RtspToRtspClient) (a b : Nat) (shown : Bytes) : Prop where
  delivered : s.isDownstreamTcp = false ∧ s.clientRtpAddr.port = a ∧ s.clientRtcpAddr.port = b
  profile : ∀ profile ∈ profiles shown, isTcp profile = false
  channels : ∀ param ∈ transportParams shown, ¬ascii "interleaved" <+: param
  client : NamesPair "client_port=" a b shown
  server : NamesPair "server_port=" s.localRtpDsPort s.localRtcpDsPort shown

/-- A transport of a server describes UDP, with the ports of both sides. -/
structure AnnouncesUdp (transport : Bytes) : Prop where
  profile : ∀ profile ∈ profiles transport, isTcp profile = false
  channels : ∀ param ∈ transportParams transport, ¬ascii "interleaved" <+: param
  client : HasPair "client_port=" transport
  server : HasPair "server_port=" transport

/-- Parameters are edited so that a pair is named, where there was one. -/
theorem namesPair_iff_hasPair {shown : Bytes} {edit : Bytes → Bytes}
    (hparams : transportParams shown = (transportParams t).map edit)
    (hpair : ∀ p, edit p = portPair name a b ↔ IsPair name p)
    (hstart : ∀ p, ascii name <+: edit p ↔ ascii name <+: p) :
    NamesPair name a b shown ↔ HasPair name t := by
  rw [NamesPair, HasPair, hparams, List.forall_mem_map]
  refine and_congr ?_ ?_
  · rw [List.mem_map]
    exact exists_congr fun p => and_congr_right fun _ => hpair p
  · exact forall₂_congr fun p _ => imp_congr (hstart p) (hpair p)

/-- What a client that is sent datagrams is shown describes that exactly if the transport of the
    server describes UDP, and the client is reached at the ports `a` and `b`. -/
theorem udpShown_clientTransport_iff (h : s.isDownstreamTcp = false) :
    s.UdpShown a b (s.clientTransport t) ↔
      (s.clientRtpAddr.port = a ∧ s.clientRtcpAddr.port = b) ∧ AnnouncesUdp t := by
  have hparams : transportParams (s.clientTransport t) = (transportParams t).map s.udpParam := by
    rw [clientTransport_udp h, edits_udpParam.parts_of]
  have hprofile : (∀ profile ∈ profiles (s.clientTransport t), isTcp profile = false) ↔
      ∀ profile ∈ profiles t, isTcp profile = false := by
    rw [clientTransport_udp h]
    exact edits_udpParam.forall_profiles_iff t
  have hchannels : (∀ param ∈ transportParams (s.clientTransport t),
      ¬ascii "interleaved" <+: param) ↔
      ∀ param ∈ transportParams t, ¬ascii "interleaved" <+: param := by
    rw [hparams, List.forall_mem_map]
    refine forall₂_congr fun p _ => not_congr (prefix_udpParam_iff ?_ ?_ ?_)
    all_goals exact .inr (by decide)
  have hclient := namesPair_iff_hasPair hparams (fun _ => udpParam_client_iff)
    fun _ => prefix_udpParam_iff (.inl rfl) (.inr (by decide)) (.inr (by decide))
  have hserver := namesPair_iff_hasPair hparams (fun _ => udpParam_server_iff)
    fun _ => prefix_udpParam_iff (.inr (by decide)) (.inl rfl) (.inr (by decide))
  constructor
  · rintro ⟨⟨-, rfl, rfl⟩, hp, hc, hcp, hsp⟩
    exact ⟨⟨rfl, rfl⟩, hprofile.1 hp, hchannels.1 hc, hclient.1 hcp, hserver.1 hsp⟩
  · rintro ⟨⟨rfl, rfl⟩, hp, hc, hcp, hsp⟩
    exact ⟨⟨h, rfl, rfl⟩, hprofile.2 hp, hchannels.2 hc, hclient.2 hcp, hserver.2 hsp⟩

/-! ## A client that is sent frames -/

/-- A text without pairs of a name. -/
def withoutPair (name : String) : Bytes → Bytes := scan (readPair name) [] 0

/-- A text without pairs of ports. -/
def withoutPorts (t : Bytes) : Bytes := withoutPair "server_port=" (withoutPair "client_port=" t)

/-- The first profile of datagrams is read as one of frames, unless there is one. -/
def overTcp (t : Bytes) : Bytes :=
  if contains (ascii "RTP/AVP/TCP") t then t
  else replaceFirst (ascii "RTP/AVP") (ascii "RTP/AVP/TCP") t

/-- What is left of a transport for a client that is sent frames. -/
def leftForFrames (t : Bytes) : Bytes := withoutPorts (overTcp t)

/-- The text without empty parameters in its middle and at its end. -/
def tidy (t : Bytes) : Bytes := dropSemicolon (collapseSemicolons t.length t)

/-- The channels of the client are named, unless some are already. -/
def withChannels (s : RtspToRtspClient) (t : Bytes) : Bytes :=
  if contains (ascii "interleaved=") t then t
  else t ++ ascii ";" ++ portPair "interleaved=" s.dsInterleavedRtp.toNat s.dsInterleavedRtcp.toNat

theorem clientTransport_tcp (h : s.isDownstreamTcp = true) (t : Bytes) :
    s.clientTransport t = s.withSource (s.withChannels (tidy (leftForFrames t))) := by
  have hclient : ∀ u, clientPortRe.replace [] u = withoutPair "client_port=" u :=
    replace_eq_scan (scans_pairRe (by decide)) List.not_mem_nil
  have hserver : ∀ u, serverPortRe.replace [] u = withoutPair "server_port=" u :=
    replace_eq_scan (scans_pairGroupsRe (by decide)) List.not_mem_nil
  rw [clientTransport, h]
  dsimp only
  rw [if_pos rfl, hclient, hserver, sourceRe_replace]
  rfl

/-! ### Parameters that are taken out and put in -/

theorem isSeparator_semicolon : isSeparator 59 = true := rfl

theorem append_sep (u w : Bytes) : u ++ ascii ";" ++ w = u ++ 59 :: w :=
  List.append_assoc u (ascii ";") w

theorem params_sep (u w : Bytes) :
    transportParams (u ++ 59 :: w) = transportParams u ++ transportParams w :=
  parts_append_sep isSeparator_semicolon u w

theorem params_dropSemicolon (t : Bytes) :
    transportParams (dropSemicolon t) = transportParams t := by
  rw [dropSemicolon]
  split
  case isTrue hlast =>
    obtain ⟨u, rfl⟩ := List.getLast?_eq_some_iff.1 hlast
    rw [List.dropLast_concat, params_sep]
    exact (List.append_nil _).symm
  case isFalse => rfl

/-- An occurrence that is found, and the text with something in place of it. -/
theorem replaceAt_of_find {pat text : Bytes} {i : Nat} (h : find pat text = some i) (new : Bytes) :
    ∃ u w, text = u ++ (pat ++ w) ∧ replaceAt text i pat.length new = u ++ (new ++ w) := by
  obtain ⟨-, ⟨w, hw⟩, -⟩ := find_eq_some_iff.1 h
  refine ⟨text.take i, w, ?_, ?_⟩
  · rw [hw, List.take_append_drop]
  · rw [replaceAt, ← List.drop_drop, ← hw, List.drop_left, List.append_assoc]

theorem params_collapseSemicolons (fuel : Nat) (t : Bytes) :
    transportParams (collapseSemicolons fuel t) = transportParams t := by
  induction fuel generalizing t with
  | zero => rfl
  | succ fuel ih =>
    rw [collapseSemicolons]
    rcases hi : find (ascii ";;") t with _ | i
    · rfl
    · obtain ⟨u, w, rfl, hreplace⟩ := replaceAt_of_find hi (ascii ";")
      have hreplace : replaceAt (u ++ (ascii ";;" ++ w)) i 2 (ascii ";") = u ++ 59 :: w := hreplace
      have htwo : u ++ (ascii ";;" ++ w) = u ++ 59 :: ([] ++ 59 :: w) := rfl
      dsimp only
      rw [hreplace, ih, htwo, params_sep, params_sep, params_sep]
      rfl

/-- Empty parameters are none. -/
theorem params_tidy (t : Bytes) : transportParams (tidy t) = transportParams t := by
  rw [tidy, params_dropSemicolon, params_collapseSemicolons]

theorem params_of_no_sep {u : Bytes} (h : ∀ x ∈ u, isSeparator x = false) (hne : u ≠ []) :
    transportParams u = [u] := parts_of_no_sep h hne

/-- A text that names no separators stands in one of the parameters. -/
theorem infix_iff_params {pat : Bytes} (hne : pat ≠ []) (hpat : ∀ x ∈ pat, isSeparator x = false)
    (t : Bytes) : pat <:+: t ↔ ∃ param ∈ transportParams t, pat <:+: param :=
  infix_iff_parts hne hpat t

theorem infix_channels_iff (t : Bytes) :
    ascii "interleaved=" <:+: t ↔ ∃ param ∈ transportParams t, ascii "interleaved=" <:+: param :=
  infix_iff_params (by decide) (by decide +kernel) t

theorem no_sep_portPair (hname : ∀ x ∈ ascii name, isSeparator x = false) (a b : Nat) :
    ∀ x ∈ portPair name a b, isSeparator x = false := by
  refine fun x hx => Bool.eq_false_iff.2 fun hsep => ?_
  have hseparates := separates_of_isSeparator hsep
  have hno : x ∉ ascii name := fun hmem =>
    Bool.false_ne_true ((hname x hmem).symm.trans hsep)
  exact not_mem_portPair hno hseparates.no_digit hseparates.no_dash a b hx

/-! ### What is shown -/

/-- A transport that is shown describes how a client is sent frames, on the channels `c` and `d`. -/
structure TcpShown (s : RtspToRtspClient) (c d : Nat) (shown : Bytes) : Prop where
  delivered : s.isDownstreamTcp = true ∧ s.dsInterleavedRtp.toNat = c ∧
    s.dsInterleavedRtcp.toNat = d
  profile : profileOf shown = ascii "RTP/AVP/TCP"
  channels : NamesPair "interleaved=" c d shown

/-- A transport of a server leaves the profile of frames, and no channels, or those of the client. -/
structure AnnouncesTcp (c d : Nat) (transport : Bytes) : Prop where
  profile : profileOf (leftForFrames transport) = ascii "RTP/AVP/TCP"
  channels : ¬ascii "interleaved=" <:+: leftForFrames transport ∨
    NamesPair "interleaved=" c d (leftForFrames transport)

theorem profileOf_congr {t u : Bytes} (h : transportParams t = transportParams u) :
    profileOf t = profileOf u := congrArg (List.headD · []) h

theorem namesPair_congr {t u : Bytes} (h : transportParams t = transportParams u) :
    NamesPair name a b t ↔ NamesPair name a b u := by
  rw [NamesPair, NamesPair, h]

theorem infix_congr {t u : Bytes} (h : transportParams t = transportParams u) :
    ascii "interleaved=" <:+: t ↔ ascii "interleaved=" <:+: u := by
  rw [infix_channels_iff, infix_channels_iff, h]

theorem profileOf_withChannels (t : Bytes) :
    profileOf (s.withChannels t) = ascii "RTP/AVP/TCP" ↔ profileOf t = ascii "RTP/AVP/TCP" := by
  rw [withChannels]
  split
  · rfl
  · rw [append_sep, profileOf, firstPart_append_sep isSeparator_semicolon]
    split
    case isTrue hnil =>
      -- with no profile at all, the channels come first
      have hno : profileOf t = [] := by rw [profileOf, firstPart, hnil, List.headD_nil]
      rw [hno, firstPart, parts_of_no_sep (no_sep_portPair (by decide +kernel) _ _)
        (fun h => absurd (h ▸ prefix_portPair _ _ _) (by decide))]
      refine iff_of_false (fun heq => ?_) (by decide)
      have hpre : ascii "interleaved=" <+: ascii "RTP/AVP/TCP" := heq ▸ prefix_portPair _ _ _
      exact absurd hpre (by decide)
    case isFalse => rfl

theorem namesPair_withChannels_iff {c d : Nat} (hc : s.dsInterleavedRtp.toNat = c)
    (hd : s.dsInterleavedRtcp.toNat = d) : NamesPair "interleaved=" c d (s.withChannels t) ↔
      ¬ascii "interleaved=" <:+: t ∨ NamesPair "interleaved=" c d t := by
  rw [withChannels, hc, hd]
  split
  case isTrue hin => rw [or_iff_right (not_not.2 (contains_iff.1 hin))]
  case isFalse hout =>
    have hno : ¬ascii "interleaved=" <:+: t := mt contains_iff.2 hout
    have hne : portPair "interleaved=" c d ≠ [] := fun h =>
      absurd (h ▸ prefix_portPair "interleaved=" c d) (by decide)
    have hparams : transportParams (t ++ ascii ";" ++ portPair "interleaved=" c d) =
        transportParams t ++ [portPair "interleaved=" c d] := by
      rw [append_sep, params_sep, params_of_no_sep (no_sep_portPair (by decide +kernel) c d) hne]
    refine iff_of_true ⟨?_, fun p hp hpre => ?_⟩ (.inl hno)
    · rw [hparams]
      exact List.mem_append_right _ (List.mem_singleton.2 rfl)
    · rw [hparams] at hp
      rcases List.mem_append.1 hp with hp | hp
      · exact absurd ((infix_channels_iff t).2 ⟨p, hp, hpre.isInfix⟩) hno
      · exact List.mem_singleton.1 hp

theorem namesPair_withSource_iff {c d : Nat} :
    NamesPair "interleaved=" c d (s.withSource t) ↔ NamesPair "interleaved=" c d t := by
  have hs : (115 : UInt8) ∉ portPair "interleaved=" c d :=
    not_mem_portPair (by decide) (by decide) (by decide) c d
  have hpair : ∀ p, s.withSource p = portPair "interleaved=" c d ↔ p = portPair "interleaved=" c d :=
    fun p => withSource_eq_iff_of_not_mem (x := 115) (by decide) hs
  have hstart : ∀ p, ascii "interleaved=" <+: s.withSource p ↔ ascii "interleaved=" <+: p :=
    fun p => prefix_withSource_iff (.inr (by decide))
  rw [NamesPair, NamesPair, edits_withSource.parts_of, List.forall_mem_map, List.mem_map]
  refine and_congr ⟨?_, fun hmem => ⟨_, hmem, (hpair _).2 rfl⟩⟩ ?_
  · rintro ⟨p, hp, heq⟩
    rwa [(hpair p).1 heq] at hp
  · exact forall₂_congr fun p _ => imp_congr (hstart p) (hpair p)

theorem profileOf_withSource (t : Bytes) :
    profileOf (s.withSource t) = ascii "RTP/AVP/TCP" ↔ profileOf t = ascii "RTP/AVP/TCP" := by
  have hsource : s.withSource [] = [] := rfl
  have hfirst : profileOf (s.withSource t) = s.withSource (profileOf t) := by
    have hparams : parts isSeparator (s.withSource t) = (parts isSeparator t).map s.withSource :=
      edits_withSource.parts_of t
    rw [profileOf, firstPart, hparams, profileOf, firstPart]
    rcases parts isSeparator t with _ | ⟨p, ps⟩ <;> rfl
  rw [hfirst]
  exact edits_withSource.eq_iff (by decide)

/-- What a client that is sent frames is shown describes that exactly if what is left of the
    transport of the server does, and the client is sent frames on the channels `c` and `d`. -/
theorem tcpShown_clientTransport_iff {c d : Nat} (h : s.isDownstreamTcp = true) :
    s.TcpShown c d (s.clientTransport t) ↔
      (s.dsInterleavedRtp.toNat = c ∧ s.dsInterleavedRtcp.toNat = d) ∧ AnnouncesTcp c d t := by
  have htidy := params_tidy (leftForFrames t)
  have hprofile : profileOf (s.clientTransport t) = ascii "RTP/AVP/TCP" ↔
      profileOf (leftForFrames t) = ascii "RTP/AVP/TCP" := by
    rw [clientTransport_tcp h, profileOf_withSource, profileOf_withChannels, profileOf_congr htidy]
  have hchannels : s.dsInterleavedRtp.toNat = c → s.dsInterleavedRtcp.toNat = d →
      (NamesPair "interleaved=" c d (s.clientTransport t) ↔
        ¬ascii "interleaved=" <:+: leftForFrames t ∨
          NamesPair "interleaved=" c d (leftForFrames t)) := by
    intro hc hd
    rw [clientTransport_tcp h, namesPair_withSource_iff, namesPair_withChannels_iff hc hd,
      infix_congr htidy, namesPair_congr htidy]
  constructor
  · rintro ⟨⟨-, hc, hd⟩, hp, hpair⟩
    exact ⟨⟨hc, hd⟩, hprofile.1 hp, (hchannels hc hd).1 hpair⟩
  · rintro ⟨⟨hc, hd⟩, hp, hpair⟩
    exact ⟨⟨h, hc, hd⟩, hprofile.2 hp, (hchannels hc hd).2 hpair⟩

end RtspToRtspClient
