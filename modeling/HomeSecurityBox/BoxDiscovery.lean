import HomeSecurityBox.Base.Datagrams
import HomeSecurityBox.Protocol

/-!
How a client finds the box. It broadcasts a probe and takes the sender of the first
datagram that comes back for a box, without a look at what it says. The box answers a
probe whose length field is the length of the datagram; it has one buffer for all
datagrams, so of a datagram shorter than a header it reads what the last ones left.
-/

namespace HomeSecurityBox.BoxDiscovery

open ByteMemory Protocol Datagrams Transitions

structure Endpoint where
  ip : UInt32
  port : UInt16
  deriving DecidableEq, Repr

def coreUdpListenPort : UInt16 := 18000

/-- What is sent, with its destination. -/
abbrev Outgoing := List (Endpoint × List UInt8)

def udpCmdValid (x : UInt16) : Bool :=
  x == HsbCmd.boxDiscover.code || x == HsbCmd.boxDiscoverResp.code

/-- Zero means accepted; `len` is what `recvfrom` returned. -/
def checkUdpPktValid (buf : Memory) (len : ℤ) : ℤ :=
  if len ≤ 0 then -1
  else if !udpCmdValid (get16 buf 0) then -2
  else if len ≠ (get16 buf 2).toNat then -3
  else 0

/-- Minor version 0 and major version 1, then the id of the box. -/
def replyBoxDiscover (buf : Memory) (bid : UInt16) : Frame :=
  let len := 8
  let buf := makeCmdHdr buf .boxDiscoverResp len
  let buf := set8 buf 4 0
  let buf := set8 buf 5 1
  ⟨len, set16 buf 6 bid⟩

/-- The return value and what is sent back. -/
def dealUdpPacket (buf : Memory) (len : ℤ) : ℤ × Option (List UInt8) :=
  let bid := 1
  if checkUdpPktValid buf len ≠ 0 then (-1, none)
  else
    let reply : Frame :=
      match HsbCmd.ofCode (get16 buf 0) with
      | some .boxDiscover => replyBoxDiscover zeros bid
      | _ => ⟨0, zeros⟩
    (0, if 0 < reply.len then some reply.bytes else none)

/-- The size of the buffer of `udp_listen_thread`. -/
def udpBufSize : ℕ := 1024

/-- One datagram in the loop of the thread: the buffer behind it and the reply. -/
def udpListen (buf : Memory) (bytes : List UInt8) : Memory × Option (List UInt8) :=
  let bytes := bytes.take udpBufSize
  let buf := load bytes buf
  (buf, (dealUdpPacket buf bytes.length).2)

/-- `probe_box`: before it, in `recvfrom_timeout`, and behind it with the address and the
fields that it prints or with its error. -/
inductive PadState
  | idle
  | waiting (recvline : Memory)
  | found (ip : UInt32) (cmd len bid : UInt16)
  | failed (ret : ℤ)

def sendline : Frame :=
  let sendLen := 8
  let buf := makeCmdHdr zeros .boxDiscover sendLen
  let buf := set8 buf 4 0
  let buf := set8 buf 5 1
  ⟨sendLen, set16 buf 6 1⟩

/-- The size of `recvline`. -/
def recvlineSize : ℕ := 16

/-- The end of `probe_box` with a datagram; an empty one is taken for a timeout. -/
def probeEnd (recvline : Memory) (src : Endpoint) (bytes : List UInt8) : PadState :=
  let bytes := bytes.take recvlineSize
  let n := bytes.length
  if n = 0 then .failed (-2)
  else
    let recvline := load bytes recvline
    .found src.ip (get16 recvline 0) (get16 recvline 2) (get16 recvline 6)

/-- Who listens at an endpoint: a box with its buffer and the source of the last datagram,
the socket of a client, or nobody. -/
inductive Party
  | box (buf : Memory) (cliaddr : Endpoint)
  | pad (state : PadState)
  | nobody

inductive Kind
  | box
  | pad
  | nobody
  deriving DecidableEq, Repr

def Party.kind : Party → Kind
  | .box .. => .box
  | .pad _ => .pad
  | .nobody => .nobody

/-- What a party does or meets by itself. The stack behind `recvline` is arbitrary. -/
inductive Event
  | probe (recvline : Memory)
  | noBroadcast
  | timedOut
  | recvFailed

def replies (src : Endpoint) (reply : Option (List UInt8)) : Outgoing :=
  reply.toList.map fun bytes => (src, bytes)

def receive : Party → Endpoint → List UInt8 → Party × Outgoing
  | .box buf _, src, bytes =>
      let heard := udpListen buf bytes
      (.box heard.1 src, replies src heard.2)
  | .pad (.waiting recvline), src, bytes => (.pad (probeEnd recvline src bytes), [])
  | p, _, _ => (p, [])

/-- `hosts` are the hosts that a broadcast reaches. -/
def act (hosts : List UInt32) : Party → Event → Option (Party × Outgoing)
  | .box buf cliaddr, .recvFailed =>
      some (.box buf cliaddr, replies cliaddr (dealUdpPacket buf (-1)).2)
  | .pad (.waiting _), .timedOut => some (.pad (.failed (-2)), [])
  | .pad (.waiting _), _ => none
  | .pad _, .probe recvline =>
      some (.pad (.waiting recvline), hosts.map fun ip =>
        (⟨ip, coreUdpListenPort⟩, sendline.bytes))
  | .pad _, .noBroadcast => some (.pad (.failed (-1)), [])
  | _, _ => none

def lan (hosts : List UInt32) : Behaviour Endpoint Party (List UInt8) Event where
  receive := receive
  act := act hosts

/-- A network before its first datagram. A client has another port than a box. -/
structure Started (s : Network Endpoint Party (List UInt8)) : Prop where
  box : ∀ e, (s.party e).kind = .box → e.port = coreUdpListenPort
  pad : ∀ e state, s.party e = .pad state → state = .idle ∧ e.port ≠ coreUdpListenPort
  flight : s.flight = []

/-- The one reply of a box. -/
def boxReply : Frame := replyBoxDiscover zeros 1

/-- A frame of eight bytes is read as it was written, wherever it is received. -/
theorem get16_received (frame : Frame) {size off : ℕ} (hlen : frame.len = 8) (hsize : 8 ≤ size)
    (hoff : off + 2 ≤ 8) (stale : Memory) :
    get16 (load (frame.bytes.take size) stale) off = get16 frame.buf off := by
  rw [List.take_of_length_le (by rw [Frame.bytes_length, hlen]; exact hsize)]
  exact (load_take_agree frame.buf stale frame.len).get16 (hlen ▸ hoff)

theorem boxReply_fields :
    get16 boxReply.buf 0 = HsbCmd.boxDiscoverResp.code ∧ get16 boxReply.buf 2 = 8 ∧
      get16 boxReply.buf 6 = 1 := by
  unfold boxReply replyBoxDiscover
  simp (disch := omega) only [get16_set16_other, get16_set8_other, get16_makeCmdHdr_cmd,
    get16_makeCmdHdr_len, get16_set16]
  decide

theorem sendline_fields :
    get16 sendline.buf 0 = HsbCmd.boxDiscover.code ∧ get16 sendline.buf 2 = 8 := by
  unfold sendline
  simp (disch := omega) only [get16_set16_other, get16_set8_other, get16_makeCmdHdr_cmd,
    get16_makeCmdHdr_len]
  decide

/-- The two lengths that a datagram is cut at leave room for a frame. -/
theorem eight_le_sizes : 8 ≤ udpBufSize ∧ 8 ≤ recvlineSize := by
  unfold udpBufSize recvlineSize
  omega

theorem dealUdpPacket_reply {buf : Memory} {len : ℤ} {reply : List UInt8}
    (h : (dealUdpPacket buf len).2 = some reply) :
    get16 buf 0 = HsbCmd.boxDiscover.code ∧ reply = boxReply.bytes := by
  unfold dealUdpPacket at h
  split at h
  · contradiction
  · cases hcode : HsbCmd.ofCode (get16 buf 0) with
    | none => simp [hcode] at h
    | some cmd =>
      cases cmd
      case boxDiscover =>
        refine ⟨(HsbCmd.ofCode_eq_some_iff _ _).mp hcode, ?_⟩
        rw [hcode] at h
        exact (Option.some.inj h).symm
      all_goals simp [hcode] at h

/-- A receive that failed is never answered, whatever the buffer holds. -/
theorem dealUdpPacket_failed (buf : Memory) : (dealUdpPacket buf (-1)).2 = none := by
  unfold dealUdpPacket checkUdpPktValid
  simp

theorem udpListen_reply {buf : Memory} {bytes reply : List UInt8}
    (h : (udpListen buf bytes).2 = some reply) :
    get16 (load (bytes.take udpBufSize) buf) 0 = HsbCmd.boxDiscover.code ∧
      reply = boxReply.bytes := by
  unfold udpListen at h
  exact dealUdpPacket_reply h

/-- No box answers the reply of a box. -/
theorem udpListen_boxReply (buf : Memory) : (udpListen buf boxReply.bytes).2 = none := by
  cases hreply : (udpListen buf boxReply.bytes).2 with
  | none => rfl
  | some reply =>
    have hcmd := (udpListen_reply hreply).1
    rw [get16_received boxReply rfl eight_le_sizes.1 (by omega), boxReply_fields.1] at hcmd
    exact absurd hcmd (by decide)

theorem udpListen_sendline (buf : Memory) :
    (udpListen buf sendline.bytes).2 = some boxReply.bytes := by
  have hlen : (sendline.bytes.take udpBufSize).length = 8 := by
    rw [List.length_take, Frame.bytes_length]
    exact Nat.min_eq_right eight_le_sizes.1
  have hcmd := get16_received sendline rfl eight_le_sizes.1
    (show 0 + 2 ≤ 8 by omega) buf
  have hsize := get16_received sendline rfl eight_le_sizes.1
    (show 2 + 2 ≤ 8 by omega) buf
  rw [sendline_fields.1] at hcmd
  rw [sendline_fields.2] at hsize
  have hvalid : checkUdpPktValid (load (sendline.bytes.take udpBufSize) buf) (8 : ℕ) = 0 := by
    unfold checkUdpPktValid
    rw [hcmd, hsize]
    decide
  simp only [udpListen, dealUdpPacket, hlen, hvalid, hcmd]
  rfl

theorem mem_sent_replies {src dst : Endpoint} {reply : Option (List UInt8)}
    {d : Datagram Endpoint (List UInt8)} (h : d ∈ sent src (replies dst reply)) :
    d.src = src ∧ d.dst = dst ∧ reply = some d.body := by
  obtain ⟨m, hm, rfl⟩ := mem_sent.mp h
  obtain ⟨bytes, hbytes, rfl⟩ := List.mem_map.mp hm
  exact ⟨rfl, rfl, Option.mem_toList.mp hbytes⟩

theorem probeEnd_boxReply (recvline : Memory) (src : Endpoint) :
    probeEnd recvline src boxReply.bytes =
      .found src.ip HsbCmd.boxDiscoverResp.code 8 1 := by
  have hlen : (boxReply.bytes.take recvlineSize).length = 8 := by
    rw [List.length_take, Frame.bytes_length]
    exact Nat.min_eq_right eight_le_sizes.2
  obtain ⟨hcmd, hsize, hbid⟩ := boxReply_fields
  simp only [probeEnd, hlen]
  rw [get16_received boxReply rfl eight_le_sizes.2 (by omega), hcmd,
    get16_received boxReply rfl eight_le_sizes.2 (by omega), hsize,
    get16_received boxReply rfl eight_le_sizes.2 (by omega), hbid]
  rfl

/-- Where boxes and clients are. -/
structure Sited (kind : Endpoint → Kind) : Prop where
  box : ∀ e, kind e = .box → e.port = coreUdpListenPort
  pad : ∀ e, kind e = .pad → e.port ≠ coreUdpListenPort

/-- A client that found something found a box. -/
def Right (kind : Endpoint → Kind) : Party → Prop
  | .pad (.found ip cmd len bid) =>
      kind ⟨ip, coreUdpListenPort⟩ = .box ∧ cmd = HsbCmd.boxDiscoverResp.code ∧ len = 8 ∧ bid = 1
  | _ => True

/-- What is on its way to a client is the reply of a box. -/
def ReplyToPad (kind : Endpoint → Kind) (d : Datagram Endpoint (List UInt8)) : Prop :=
  kind d.dst = .pad → kind d.src = .box ∧ d.body = boxReply.bytes

def Placed (kind : Endpoint → Kind) (e : Endpoint) (p : Party) : Prop :=
  p.kind = kind e ∧ Right kind p

theorem right_of_reply {kind : Endpoint → Kind} (hsited : Sited kind) (recvline : Memory)
    {src : Endpoint} (hsrc : kind src = .box) :
    Right kind (.pad (probeEnd recvline src boxReply.bytes)) := by
  have hport := hsited.box src hsrc
  have hsame : (⟨src.ip, coreUdpListenPort⟩ : Endpoint) = src := by rw [← hport]
  rw [probeEnd_boxReply]
  refine ⟨?_, rfl, rfl, rfl⟩
  rw [hsame]
  exact hsrc

theorem handsOn (hosts : List UInt32) {kind : Endpoint → Kind} (hsited : Sited kind) :
    HandsOn (lan hosts) (Placed kind) (ReplyToPad kind) where
  receive p d hp hd := by
    cases p with
    | box buf cliaddr =>
      refine ⟨⟨hp.1, trivial⟩, ?_⟩
      intro reply hreply _
      obtain ⟨hsrc, -, hbody⟩ := mem_sent_replies hreply
      rw [hsrc]
      exact ⟨hp.1.symm, (udpListen_reply hbody).2⟩
    | pad state =>
      cases state with
      | waiting recvline =>
        obtain ⟨hsrc, hbody⟩ := hd hp.1.symm
        refine ⟨⟨hp.1, ?_⟩, by simp [lan, receive, sent]⟩
        simp only [lan, receive, hbody]
        exact right_of_reply hsited recvline hsrc
      | idle | found _ _ _ _ | failed _ => exact ⟨hp, by simp [lan, receive, sent]⟩
    | nobody => exact ⟨hp, by simp [lan, receive, sent]⟩
  act e p event next hp hact := by
    have hquiet : ∀ d ∈ sent e ([] : Outgoing), ReplyToPad kind d := by simp [sent]
    cases p with
    | box buf cliaddr =>
      cases event with
      | recvFailed =>
        cases Option.some.inj hact
        refine ⟨hp, ?_⟩
        rw [dealUdpPacket_failed]
        exact hquiet
      | probe _ | noBroadcast | timedOut => contradiction
    | pad state =>
      have hprobes : ∀ d ∈ sent e (hosts.map fun ip =>
          ((⟨ip, coreUdpListenPort⟩ : Endpoint), sendline.bytes)), ReplyToPad kind d := by
        intro d hd hpad
        obtain ⟨m, hm, rfl⟩ := mem_sent.mp hd
        obtain ⟨ip, -, rfl⟩ := List.mem_map.mp hm
        exact absurd rfl (hsited.pad _ hpad)
      cases state with
      | waiting recvline =>
        cases event with
        | timedOut =>
          cases Option.some.inj hact
          exact ⟨⟨hp.1, trivial⟩, hquiet⟩
        | probe _ | noBroadcast | recvFailed => contradiction
      | idle | found _ _ _ _ | failed _ =>
        cases event with
        | probe recvline =>
          cases Option.some.inj hact
          exact ⟨⟨hp.1, trivial⟩, hprobes⟩
        | noBroadcast =>
          cases Option.some.inj hact
          exact ⟨⟨hp.1, trivial⟩, hquiet⟩
        | timedOut | recvFailed => contradiction
    | nobody => contradiction

theorem Started.sited {s : Network Endpoint Party (List UInt8)} (h : Started s) :
    Sited fun e => (s.party e).kind where
  box := h.box
  pad e hkind := by
    cases hparty : s.party e with
    | pad state => exact (h.pad e state hparty).2
    | box buf cliaddr | nobody =>
      simp only [hparty] at hkind
      contradiction

theorem Started.allGood {s : Network Endpoint Party (List UInt8)} (h : Started s) :
    AllGood (Placed fun e => (s.party e).kind) (ReplyToPad fun e => (s.party e).kind) s where
  party e := by
    refine ⟨rfl, ?_⟩
    cases hparty : s.party e with
    | pad state =>
      rw [(h.pad e state hparty).1]
      trivial
    | box buf cliaddr | nobody => trivial
  flight d hd := by
    rw [h.flight] at hd
    contradiction

/-- No stranger writes to a client. -/
def PadsSpared (s : Network Endpoint Party (List UInt8))
    (labels : List (NetStep Endpoint (List UInt8) Event)) : Prop :=
  ∀ d, NetStep.forge d ∈ labels → (s.party d.dst).kind ≠ .pad

theorem PadsSpared.guarded {s : Network Endpoint Party (List UInt8)}
    {labels : List (NetStep Endpoint (List UInt8) Event)} (h : PadsSpared s labels)
    (b : Behaviour Endpoint Party (List UInt8) Event)
    (s' : Network Endpoint Party (List UInt8)) :
    Guarded (netStep b) (ForgesGood (ReplyToPad fun e => (s.party e).kind)) s' labels := by
  apply guarded_of_forall
  intro a ha s''
  cases a with
  | forge d => exact fun hpad => absurd hpad (h d ha)
  | act _ _ | deliver _ | lose _ | copy _ => trivial

/-- In every run, whatever is lost, copied, delivered late or sent to the boxes by others,
an address that a client found is the address of a box. -/
theorem pads_find_boxes (hosts : List UInt32) (s t : Network Endpoint Party (List UInt8))
    (labels : List (NetStep Endpoint (List UInt8) Event)) (hs : Started s)
    (hspared : PadsSpared s labels) (hrun : run (netStep (lan hosts)) s labels = some t)
    (e : Endpoint) (ip : UInt32) (cmd len bid : UInt16)
    (hfound : t.party e = .pad (.found ip cmd len bid)) :
    (t.party ⟨ip, coreUdpListenPort⟩).kind = .box ∧
      cmd = HsbCmd.boxDiscoverResp.code ∧ len = 8 ∧ bid = 1 := by
  have hgood := run_invariant_guarded (handsOn hosts hs.sited).preserves labels s t hs.allGood
    (hspared.guarded (lan hosts) s) hrun
  have hright := (hgood.party e).2
  rw [hfound] at hright
  refine ⟨?_, hright.2⟩
  rw [(hgood.party ⟨ip, coreUdpListenPort⟩).1]
  exact hright.1

/-- A hall with two boxes and a client. A stranger makes one box answer the other. -/
def hallBox (ip : UInt32) : Endpoint := ⟨ip, coreUdpListenPort⟩

def hallPad : Endpoint := ⟨20, 40000⟩

def hall : Network Endpoint Party (List UInt8) where
  party e :=
    if e = hallBox 10 ∨ e = hallBox 11 then .box zeros e
    else if e = hallPad then .pad .idle
    else .nobody
  flight := []

def hallSearch : List (NetStep Endpoint (List UInt8) Event) :=
  [.act hallPad (.probe zeros), .forge ⟨hallBox 11, hallBox 10, sendline.bytes⟩, .deliver 0,
    .lose 0, .deliver 0, .deliver 0, .deliver 0]

theorem hall_started : Started hall where
  box e hkind := by
    by_cases hbox : e = hallBox 10 ∨ e = hallBox 11
    · rcases hbox with rfl | rfl <;> rfl
    · simp only [hall, if_neg hbox] at hkind
      split at hkind <;> contradiction
  pad e state hparty := by
    simp only [hall] at hparty
    split at hparty
    · contradiction
    · split at hparty
      · rename_i he
        cases hparty
        rw [he]
        exact ⟨rfl, by decide⟩
      · contradiction
  flight := rfl

theorem hall_spared : PadsSpared hall hallSearch := by
  intro d hd
  simp only [hallSearch, List.mem_cons, reduceCtorEq, NetStep.forge.injEq, false_or, or_false,
    List.not_mem_nil] at hd
  rw [hd]
  decide

theorem hall_run : ∃ t, run (netStep (lan [10, 11])) hall hallSearch = some t ∧
    t.party hallPad = .pad (.found 10 0x8802 8 1) ∧ t.flight = [] :=
  ⟨_, rfl, rfl, rfl⟩

theorem pads_find_boxes_hall : ∃ t, run (netStep (lan [10, 11])) hall hallSearch = some t ∧
    t.party hallPad = .pad (.found 10 0x8802 8 1) ∧
    (t.party ⟨10, coreUdpListenPort⟩).kind = .box := by
  obtain ⟨t, hrun, hfound, -⟩ := hall_run
  exact ⟨t, hrun, hfound, (pads_find_boxes [10, 11] hall t hallSearch hall_started hall_spared
    hrun hallPad 10 _ _ _ hfound).1⟩

/-- A reply is heard by a box and costs nothing more. -/
def replyWeight (d : Datagram Endpoint (List UInt8)) : ℕ :=
  if d.body = boxReply.bytes then 1 else 2

theorem replyWeight_bounds (d : Datagram Endpoint (List UInt8)) :
    0 < replyWeight d ∧ replyWeight d ≤ 2 := by
  unfold replyWeight
  split <;> omega

theorem lan_spends (hosts : List UInt32) : Spends (lan hosts) replyWeight := by
  intro p d
  have hpos := (replyWeight_bounds d).1
  cases p with
  | box buf cliaddr =>
    cases hreply : (udpListen buf d.body).2 with
    | none =>
      simp only [lan, receive, hreply, replies, Option.toList_none, List.map_nil, sent, weight]
      exact hpos
    | some reply =>
      have hbody : d.body ≠ boxReply.bytes := by
        intro hsame
        rw [hsame, udpListen_boxReply] at hreply
        contradiction
      simp only [lan, receive, hreply, replies, Option.toList_some, List.map_cons, List.map_nil,
        sent, weight, replyWeight, (udpListen_reply hreply).2, if_pos, if_neg hbody]
      omega
  | pad state => cases state <;> simpa [lan, receive, sent, weight] using hpos
  | nobody => simpa [lan, receive, sent, weight] using hpos

/-- Boxes never keep each other busy: whatever their buffers hold, all that is delivered
in a run is at most two datagrams for each one that was in flight at its start or that
somebody else than a box put into flight. -/
theorem no_reply_storm (hosts : List UInt32) (s t : Network Endpoint Party (List UInt8))
    (labels : List (NetStep Endpoint (List UInt8) Event))
    (hrun : run (netStep (lan hosts)) s labels = some t) :
    labels.countP NetStep.delivers + t.flight.length ≤
      2 * (s.flight.length +
        (collect (netStep (lan hosts)) (added (lan hosts)) s labels).length) := by
  have hbudget := (lan_spends hosts).run labels s t hrun
  have hend := length_le_weight (fun d => (replyWeight_bounds d).1) t.flight
  have hstart := weight_le (fun d => (replyWeight_bounds d).2) s.flight
  have hadded := weight_le (fun d => (replyWeight_bounds d).2)
    (collect (netStep (lan hosts)) (added (lan hosts)) s labels)
  omega

theorem no_reply_storm_hall : ∃ t, run (netStep (lan [10, 11])) hall hallSearch = some t ∧
    hallSearch.countP NetStep.delivers + t.flight.length ≤
      2 * (hall.flight.length +
        (collect (netStep (lan [10, 11])) (added (lan [10, 11])) hall hallSearch).length) := by
  obtain ⟨t, hrun, -⟩ := hall_run
  exact ⟨t, hrun, no_reply_storm [10, 11] hall t hallSearch hrun⟩

/-- The probe of a client on its way to a box, or the answer. -/
def Between (pad box : Endpoint) (d : Datagram Endpoint (List UInt8)) : Prop :=
  (d.src = pad ∧ d.dst = box ∧ d.body = sendline.bytes) ∨
    (d.src = box ∧ d.dst = pad ∧ d.body = boxReply.bytes)

instance (pad box : Endpoint) : DecidablePred (Between pad box) := fun d =>
  inferInstanceAs (Decidable ((d.src = pad ∧ d.dst = box ∧ d.body = sendline.bytes) ∨
    (d.src = box ∧ d.dst = pad ∧ d.body = boxReply.bytes)))

/-- The ways in which a client gives up. -/
def Event.quits : Event → Prop
  | .noBroadcast | .timedOut => True
  | _ => False

instance : DecidablePred Event.quits
  | .noBroadcast | .timedOut => inferInstanceAs (Decidable True)
  | .probe _ | .recvFailed => inferInstanceAs (Decidable False)

/-- The client is patient and nothing between it and the box is lost. -/
abbrev Undisturbed (pad box : Endpoint) :
    Network Endpoint Party (List UInt8) → NetStep Endpoint (List UInt8) Event → Prop :=
  Patient pad Event.quits (Between pad box)

def Party.Waits : Party → Prop
  | .pad (.waiting _) => True
  | _ => False

/-- A client that has probed and has not failed. -/
def Party.Searches : Party → Prop
  | .pad (.waiting _) | .pad (.found _ _ _ _) => True
  | _ => False

theorem receive_probe {p : Party} (hkind : p.kind = .box) (src : Endpoint) :
    (receive p src sendline.bytes).2 = [(src, boxReply.bytes)] := by
  cases p with
  | box buf cliaddr => simp only [receive, udpListen_sendline, replies, Option.toList_some,
      List.map_cons, List.map_nil]
  | pad _ | nobody => contradiction

theorem lan_owes {hosts : List UInt32} (kind : Endpoint → Kind) (pad : Endpoint) {ip : UInt32}
    (hbox : kind ⟨ip, coreUdpListenPort⟩ = .box) (hip : ip ∈ hosts) :
    Owes (lan hosts) (Placed kind) pad Event.quits Party.Waits
      (Between pad ⟨ip, coreUdpListenPort⟩) where
  receive p d hp htoken := by
    rcases htoken with ⟨hsrc, hdst, hbody⟩ | ⟨-, hdst, -⟩
    · left
      have hkind : p.kind = .box := hp.1.trans (hdst ▸ hbox)
      refine ⟨⟨d.dst, pad, boxReply.bytes⟩, ?_, Or.inr ⟨hdst, rfl, rfl⟩⟩
      refine mem_sent.mpr ⟨(pad, boxReply.bytes), ?_, rfl⟩
      rw [hsrc, hbody]
      simp only [lan, receive_probe hkind, List.mem_singleton]
    · right
      refine ⟨hdst, ?_⟩
      subst hdst
      cases p with
      | pad state =>
        cases state with
        | waiting recvline =>
          simp only [lan, receive, probeEnd]
          split <;> exact id
        | idle | found _ _ _ _ | failed _ => exact id
      | box _ _ | nobody => exact id
  stays p src bytes hp hwaits := by
    cases p with
    | pad state => cases state <;> first | exact trivial | exact hwaits
    | box _ _ | nobody => exact hwaits
  act p event next hp hquits hact hwaits := by
    cases p with
    | pad state =>
      cases state with
      | waiting recvline => exact Or.inl trivial
      | idle | found _ _ _ _ | failed _ =>
        cases event with
        | probe recvline =>
          cases Option.some.inj hact
          right
          refine ⟨⟨pad, ⟨ip, coreUdpListenPort⟩, sendline.bytes⟩, ?_, Or.inl ⟨rfl, rfl, rfl⟩⟩
          exact mem_sent.mpr ⟨_, List.mem_map.mpr ⟨ip, hip, rfl⟩, rfl⟩
        | noBroadcast => exact absurd trivial hquits
        | timedOut | recvFailed => contradiction
    | box buf cliaddr =>
      cases event with
      | recvFailed =>
        cases Option.some.inj hact
        exact absurd hwaits id
      | probe _ | noBroadcast | timedOut => contradiction
    | nobody => contradiction

/-- A search goes on: a client that is told of a box has found it. -/
theorem searches_step {hosts : List UInt32} {kind : Endpoint → Kind} {pad box : Endpoint}
    {s s' : Network Endpoint Party (List UInt8)} {a : NetStep Endpoint (List UInt8) Event}
    (hgood : AllGood (Placed kind) (ReplyToPad kind) s) (hsearch : (s.party pad).Searches)
    (hok : Undisturbed pad box s a) (hstep : netStep (lan hosts) s a = some s') :
    (s'.party pad).Searches := by
  cases netStep_effect hstep with
  | @acted addr event next hact =>
    by_cases haddr : addr = pad
    · subst addr
      have hquits := hok rfl
      simp only [Function.update_self]
      generalize s.party pad = p at hsearch hact
      cases p with
      | pad state =>
        cases state with
        | waiting recvline =>
          cases event with
          | timedOut => exact absurd trivial hquits
          | probe _ | noBroadcast | recvFailed => contradiction
        | found ip cmd len bid =>
          cases event with
          | probe recvline =>
            cases Option.some.inj hact
            trivial
          | noBroadcast => exact absurd trivial hquits
          | timedOut | recvFailed => contradiction
        | idle | failed _ => exact absurd hsearch id
      | box _ _ | nobody => exact absurd hsearch id
    · simpa only [Function.update_of_ne (Ne.symm haddr)] using hsearch
  | @delivered i d hflight =>
    by_cases hdst : pad = d.dst
    · subst hdst
      have hreply := hgood.flight d (List.mem_of_getElem? hflight)
      have hkind := (hgood.party d.dst).1
      simp only [Function.update_self]
      generalize s.party d.dst = p at hsearch hkind
      cases p with
      | pad state =>
        cases state with
        | waiting recvline =>
          simp only [lan, receive, (hreply hkind.symm).2, probeEnd_boxReply]
          trivial
        | found ip cmd len bid => trivial
        | idle | failed _ => exact absurd hsearch id
      | box _ _ | nobody => exact absurd hsearch id
    · simpa only [Function.update_of_ne hdst] using hsearch
  | forged d => exact hsearch
  | lost hflight => exact hsearch
  | copied hflight => exact hsearch

theorem run_searches {hosts : List UInt32} {kind : Endpoint → Kind} (hsited : Sited kind)
    {pad box : Endpoint} {recvline : Memory}
    {labels : List (NetStep Endpoint (List UInt8) Event)}
    (hprobe : NetStep.act pad (.probe recvline) ∈ labels) :
    ∀ {s t : Network Endpoint Party (List UInt8)}, AllGood (Placed kind) (ReplyToPad kind) s →
      Guarded (netStep (lan hosts)) (ForgesGood (ReplyToPad kind)) s labels →
      Guarded (netStep (lan hosts)) (Undisturbed pad box) s labels →
      run (netStep (lan hosts)) s labels = some t → (t.party pad).Searches := by
  induction labels with
  | nil => contradiction
  | cons a rest ih =>
    intro s t hs hforge hguard hrun
    obtain ⟨s', hs', hrest⟩ := run_cons_eq_some _ s t a rest hrun
    have hgood := (handsOn hosts hsited).preserves s a s' hs hforge.1 hs'
    rcases List.mem_cons.mp hprobe with rfl | hlater
    · -- From the probe on the search is an invariant of the rest of the run.
      have hstarted : (s'.party pad).Searches := by
        cases netStep_effect hs' with
        | @acted _ _ next hact =>
          simp only [Function.update_self]
          generalize s.party pad = p at hact
          cases p with
          | pad state =>
            cases state with
            | waiting _ => contradiction
            | idle | found _ _ _ _ | failed _ =>
              cases Option.some.inj hact
              trivial
          | box _ _ | nobody => contradiction
      have hkeep : Preserves (netStep (lan hosts))
          (fun s a => ForgesGood (ReplyToPad kind) s a ∧ Undisturbed pad box s a)
          (fun s => AllGood (Placed kind) (ReplyToPad kind) s ∧ (s.party pad).Searches) := by
        intro s a s' hs hok hstep
        exact ⟨(handsOn hosts hsited).preserves s a s' hs.1 hok.1 hstep,
          searches_step hs.1 hs.2 hok.2 hstep⟩
      exact (run_invariant_guarded hkeep rest s' t ⟨hgood, hstarted⟩
        ((hforge.2 s' hs').and (hguard.2 s' hs')) hrest).2
    · exact ih hlater hgood (hforge.2 s' hs') (hguard.2 s' hs') hrest

/-- A client that probes on a network with a box has found one when nothing is left on its
way between the two, in every run that loses nothing between them; other boxes, other
clients and strangers may do as they like. -/
theorem probe_completes (hosts : List UInt32) (s t : Network Endpoint Party (List UInt8))
    (labels : List (NetStep Endpoint (List UInt8) Event)) (hs : Started s)
    (hspared : PadsSpared s labels) (pad : Endpoint) (ip : UInt32) (hip : ip ∈ hosts)
    (hbox : (s.party ⟨ip, coreUdpListenPort⟩).kind = .box) (recvline : Memory)
    (hprobe : NetStep.act pad (.probe recvline) ∈ labels)
    (hguard : Guarded (netStep (lan hosts)) (Undisturbed pad ⟨ip, coreUdpListenPort⟩) s labels)
    (hrun : run (netStep (lan hosts)) s labels = some t)
    (hquiet : ∀ d ∈ t.flight, ¬Between pad ⟨ip, coreUdpListenPort⟩ d) :
    ∃ found, t.party pad = .pad (.found found HsbCmd.boxDiscoverResp.code 8 1) ∧
      (t.party ⟨found, coreUdpListenPort⟩).kind = .box := by
  have hforge := hspared.guarded (lan hosts) s
  have howes := lan_owes (fun e => (s.party e).kind) pad hbox hip
  have hidle : Backed pad Party.Waits (Between pad ⟨ip, coreUdpListenPort⟩) s := by
    intro hwaits
    cases hparty : s.party pad with
    | pad state =>
      rw [hparty, (hs.pad pad state hparty).1] at hwaits
      exact absurd hwaits id
    | box _ _ | nobody =>
      rw [hparty] at hwaits
      exact absurd hwaits id
  obtain ⟨hgood, hbacked⟩ :=
    (handsOn hosts hs.sited).run_backed howes hs.allGood hidle hforge hguard hrun
  have hsearch := run_searches hs.sited hprobe hs.allGood hforge hguard hrun
  have hright := (hgood.party pad).2
  cases hparty : t.party pad with
  | pad state =>
    cases state with
    | waiting _ =>
      obtain ⟨d, hd, htoken⟩ := hbacked (by rw [hparty]; trivial)
      exact absurd htoken (hquiet d hd)
    | found found cmd len bid =>
      rw [hparty] at hright
      obtain ⟨hkind, rfl, rfl, rfl⟩ := hright
      exact ⟨found, rfl, (hgood.party ⟨found, coreUdpListenPort⟩).1.trans hkind⟩
    | idle | failed _ =>
      rw [hparty] at hsearch
      exact absurd hsearch id
  | box _ _ | nobody =>
    rw [hparty] at hsearch
    exact absurd hsearch id

theorem probe_completes_hall : ∃ t, run (netStep (lan [10, 11])) hall hallSearch = some t ∧
    ∃ found, t.party hallPad = .pad (.found found HsbCmd.boxDiscoverResp.code 8 1) ∧
      (t.party ⟨found, coreUdpListenPort⟩).kind = .box := by
  obtain ⟨t, hrun, -, hflight⟩ := hall_run
  have hguard : Guarded (netStep (lan [10, 11])) (Undisturbed hallPad (hallBox 10)) hall
      hallSearch := by
    decide +kernel
  have hquiet : ∀ d ∈ t.flight, ¬Between hallPad (hallBox 10) d := by
    rw [hflight]
    exact fun _ hd => absurd hd List.not_mem_nil
  exact ⟨t, hrun, probe_completes [10, 11] hall t hallSearch hall_started hall_spared hallPad 10
    List.mem_cons_self rfl zeros List.mem_cons_self hguard hrun hquiet⟩

end HomeSecurityBox.BoxDiscovery
