import HomeSecurityBox.ClientRequests

/-!
Requests that arrive together against the same requests in reads of their own.
The induction runs over the requests; both sides serve the head request on
states that are equal by then, and the acts it queues show whether the pair
count of a SET_STATUS grew with the bytes behind it.
-/

namespace HomeSecurityBox.Coalescing

open ByteMemory CursorLoop Protocol DeviceData TcpPacket TcpClient ClientRequests

variable {ρ : Type}

/-- Every SET_STATUS request that another request follows carries eight pairs. -/
def Coalescable : List Request → Prop
  | [] => True
  | r :: rest =>
      (r.cmd = HsbCmd.setStatus.code → rest ≠ [] → r.bytes.length = 40) ∧ Coalescable rest

theorem getDevStatus_congr {buf buf' : Memory} {n : ℕ} (len len' : ℕ) (status : HsbStatus)
    (h : AgreeBelow n buf buf') (htotal : statusTotal len = statusTotal len')
    (hn : 8 + 4 * (statusTotal len').toNat ≤ n) :
    getDevStatus buf len status = getDevStatus buf' len' status := by
  unfold getDevStatus
  rw [htotal, readPairs_congr status (h.mono hn)]

theorem getDevStatus_num (buf : Memory) (len : ℕ) (status : HsbStatus) (h : 4 < len) :
    (getDevStatus buf len status).num.toNat = min 8 ((len - 8) / 4) := by
  have hle : min 8 ((len - 8) / 4) ≤ 8 := Nat.min_le_left _ _
  simp only [getDevStatus, statusTotal_of_lt len h, UInt32.ofInt, UInt32.toNat_ofNat']
  omega

/-- The total of a well-formed SET_STATUS request and of anything behind it. -/
theorem statusTotal_remaining_iff (r : Request) (rest : List Request)
    (hset : r.cmd = HsbCmd.setStatus.code) :
    statusTotal (r.bytes.length + (joined rest).length) = statusTotal r.bytes.length ↔
      (rest ≠ [] → r.bytes.length = 40) := by
  obtain ⟨n, hn, hn', hlen⟩ := r.pairs hset
  have hown : statusTotal r.bytes.length = (n : ℤ) := by
    rw [statusTotal_of_lt _ (by omega)]
    congr 1
    omega
  rw [hown, statusTotal_of_lt _ (by omega)]
  cases rest with
  | nil =>
    simp only [joined, List.map_nil, List.flatten_nil, List.length_nil]
    constructor
    · intro _ hne
      exact absurd rfl hne
    · intro _
      congr 1
      omega
  | cons next rest =>
    have hnext := next.length_ge
    rw [joined_cons, List.length_append]
    simp only [ne_eq, reduceCtorEq, not_false_eq_true, forall_const, Nat.cast_inj]
    omega

theorem serve_eq (r : Request) {buf buf' : Memory} (len : ℕ) (reply : ρ) (s : ClientState ρ)
    (h : r.At buf) (h' : r.At buf')
    (hcount : r.cmd = HsbCmd.setStatus.code → statusTotal len = statusTotal r.bytes.length) :
    r.serve buf len reply s = r.serve buf' r.bytes.length reply s := by
  have hagree : AgreeBelow r.bytes.length buf buf' := AgreeBelow.trans h (AgreeBelow.symm h')
  have hdispatch : dispatchCmd s.cb buf len reply r.cmd =
      dispatchCmd s.cb buf' r.bytes.length reply r.cmd := by
    apply dispatchCmd_congr s.cb len r.bytes.length reply r.cmd hagree r.layout
    intro hcmd
    have hset : r.cmd = HsbCmd.setStatus.code := (HsbCmd.ofCode_eq_some_iff _ _).mp hcmd
    obtain ⟨n, hn, hn', hlen⟩ := r.pairs hset
    rw [hagree.get32 (show 4 + 4 ≤ r.bytes.length by omega)]
    apply getDevStatus_congr len r.bytes.length _ hagree (hcount hset)
    rw [statusTotal_of_lt _ (by omega), Int.toNat_natCast]
    omega
  unfold Request.serve
  rw [hdispatch]

theorem serve_asyncQueue (r : Request) (buf : Memory) (len : ℕ) (reply : ρ)
    (s : ClientState ρ) :
    (r.serve buf len reply s).cb.asyncQueue =
      s.cb.asyncQueue ++ dispatchActs buf len reply r.cmd :=
  dispatchCmd_asyncQueue s.cb buf len reply r.cmd

theorem serveAll_asyncQueue (msg : Memory) (nread : ℕ) (reply : ρ) (reqs : List Request)
    (pos : ℕ) (s : ClientState ρ) :
    ∃ acts, (serveAll msg nread reply reqs pos s).cb.asyncQueue =
      s.cb.asyncQueue ++ acts := by
  induction reqs generalizing pos s with
  | nil => exact ⟨[], by simp [serveAll]⟩
  | cons r rest ih =>
    obtain ⟨acts, hacts⟩ := ih (pos + r.bytes.length)
      (r.serve (shift msg pos) (nread - pos) reply s)
    refine ⟨dispatchActs (shift msg pos) (nread - pos) reply r.cmd ++ acts, ?_⟩
    simp only [serveAll]
    rw [hacts, serve_asyncQueue, List.append_assoc]

theorem serveEach_asyncQueue (reply : ρ) (reqs : List Request) (reads : List SocketRead)
    (s : ClientState ρ) :
    ∃ acts, (serveEach reply reqs reads s).cb.asyncQueue = s.cb.asyncQueue ++ acts := by
  induction reqs generalizing reads s with
  | nil => exact ⟨[], by simp [serveEach]⟩
  | cons r rest ih =>
    cases reads with
    | nil => exact ⟨[], by simp [serveEach]⟩
    | cons read reads =>
      obtain ⟨acts, hacts⟩ := ih reads (r.serve read.msg r.bytes.length reply s)
      refine ⟨dispatchActs read.msg r.bytes.length reply r.cmd ++ acts, ?_⟩
      simp only [serveEach]
      rw [hacts, serve_asyncQueue, List.append_assoc]

/-- Equal first acts of a SET_STATUS request were read with equal totals. -/
theorem statusTotal_eq_of_acts (r : Request) (buf buf' : Memory) (len : ℕ) (reply : ρ)
    (acts acts' : List (HsbAct ρ)) (hset : r.cmd = HsbCmd.setStatus.code)
    (hlen : r.bytes.length ≤ len)
    (h : dispatchActs buf len reply r.cmd ++ acts =
      dispatchActs buf' r.bytes.length reply r.cmd ++ acts') :
    statusTotal len = statusTotal r.bytes.length := by
  obtain ⟨n, hn, hn', hsize⟩ := r.pairs hset
  simp only [dispatchActs, hset, HsbCmd.ofCode_code, List.cons_append, List.nil_append,
    List.cons.injEq, HsbAct.mk.injEq, HsbActBody.setStatus.injEq] at h
  have hnum := congrArg (fun status : HsbStatus => status.num.toNat) h.1.1
  simp only [getDevStatus_num buf len _ (by omega),
    getDevStatus_num buf' r.bytes.length _ (by omega)] at hnum
  rw [statusTotal_of_lt len (by omega), statusTotal_of_lt r.bytes.length (by omega), hnum]

theorem serveAll_eq_serveEach_iff (msg : Memory) (nread : ℕ) (reply : ρ)
    (reqs : List Request) (reads : List SocketRead) (pos : ℕ) (s : ClientState ρ)
    (hqueued : Queued reqs msg nread pos)
    (hreads : reads.map SocketRead.bytes = reqs.map Request.bytes) :
    serveAll msg nread reply reqs pos s = serveEach reply reqs reads s ↔
      Coalescable reqs := by
  induction reqs generalizing reads pos s with
  | nil => simp [serveAll, serveEach, Coalescable]
  | cons r rest ih =>
    cases reads with
    | nil => simp at hreads
    | cons read reads =>
      simp only [List.map_cons, List.cons.injEq] at hreads
      obtain ⟨hat, hlen⟩ := hqueued.head
      have hown : r.At read.msg := by
        unfold SocketRead.msg
        rw [hreads.1]
        exact r.at_load read.stale
      have hremaining : nread - pos = r.bytes.length + (joined rest).length := by
        have hend := hqueued.2
        rw [joined_cons, List.length_append] at hend
        omega
      have htail := ih reads (pos + r.bytes.length)
        (r.serve read.msg r.bytes.length reply s) hqueued.tail hreads.2
      have hsame : (r.cmd = HsbCmd.setStatus.code →
            statusTotal (nread - pos) = statusTotal r.bytes.length) →
          r.serve (shift msg pos) (nread - pos) reply s =
            r.serve read.msg r.bytes.length reply s :=
        serve_eq r (nread - pos) reply s hat hown
      simp only [serveAll, serveEach, Coalescable]
      constructor
      · intro heq
        have hcount : r.cmd = HsbCmd.setStatus.code →
            statusTotal (nread - pos) = statusTotal r.bytes.length := by
          intro hset
          obtain ⟨acts, hacts⟩ := serveAll_asyncQueue msg nread reply rest
            (pos + r.bytes.length) (r.serve (shift msg pos) (nread - pos) reply s)
          obtain ⟨acts', hacts'⟩ := serveEach_asyncQueue reply rest reads
            (r.serve read.msg r.bytes.length reply s)
          rw [heq, hacts', serve_asyncQueue, serve_asyncQueue, List.append_assoc,
            List.append_assoc] at hacts
          exact statusTotal_eq_of_acts r _ _ (nread - pos) reply _ _ hset hlen
            (List.append_cancel_left hacts).symm
        refine ⟨fun hset => ?_, ?_⟩
        · have htotal := hcount hset
          rw [hremaining] at htotal
          exact (statusTotal_remaining_iff r rest hset).mp htotal
        · rw [hsame hcount] at heq
          exact htail.mp heq
      · rintro ⟨hfull, hrest⟩
        rw [hsame]
        · exact htail.mpr hrest
        · intro hset
          rw [hremaining]
          exact (statusTotal_remaining_iff r rest hset).mpr (hfull hset)

/-- One read of all requests and one read for each of them leave the same
replies, device state and queued acts if and only if every SET_STATUS request
that another one follows carries eight pairs. -/
theorem coalescing_iff (reqs : List Request) (together : SocketRead)
    (apart : List SocketRead) (reply : ρ) (s : ClientState ρ)
    (htogether : together.bytes = joined reqs)
    (hapart : apart.map SocketRead.bytes = reqs.map Request.bytes) :
    (∃ s', HandlesReads reply [together] s s' ∧ HandlesReads reply apart s s') ↔
      Coalescable reqs := by
  have hsingle := handlesReads_single together reqs reply s htogether
  have heach := handlesReads_each reqs apart reply s hapart
  have hqueued : Queued reqs together.msg together.bytes.length 0 := by
    unfold SocketRead.msg
    rw [htogether]
    exact queued_load reqs together.stale
  rw [← serveAll_eq_serveEach_iff together.msg together.bytes.length reply reqs apart 0 s
    hqueued hapart]
  constructor
  · rintro ⟨s', h, h'⟩
    exact (h.unique hsingle).symm.trans (h'.unique heach)
  · intro heq
    exact ⟨_, hsingle, heq ▸ heach⟩

/-- SET_STATUS for device 1 with the pair (0, 1), followed by GET_DEVS. -/
def setStatusRequest : Request where
  bytes := [0x23, 0x88, 12, 0, 1, 0, 0, 0, 0, 0, 1, 0]
  valid := by decide
  size := by decide
  layout := by decide
  pairs := fun _ => ⟨1, by decide⟩

def getDevsRequest : Request where
  bytes := [0x11, 0x88, 4, 0]
  valid := by decide
  size := by decide
  layout := by decide
  pairs := fun h => absurd h (by decide)

def readOf (bytes : List UInt8) (hpos : 0 < bytes.length) (hfits : bytes.length ≤ 1024) :
    SocketRead := ⟨zeros, bytes, hpos, hfits⟩

def togetherRead : SocketRead :=
  readOf (setStatusRequest.bytes ++ getDevsRequest.bytes) (by decide) (by decide)

def apartReads : List SocketRead :=
  [readOf setStatusRequest.bytes (by decide) (by decide),
    readOf getDevsRequest.bytes (by decide) (by decide)]

/-- GET_DEVS first: the order in which the last request is the SET_STATUS. -/
theorem coalescing_getDevs_setStatus :
    (∃ s', HandlesReads 0
        [readOf (getDevsRequest.bytes ++ setStatusRequest.bytes) (by decide) (by decide)]
        ({ cb := {} } : ClientState ℕ) s' ∧
      HandlesReads 0
        [readOf getDevsRequest.bytes (by decide) (by decide),
          readOf setStatusRequest.bytes (by decide) (by decide)]
        ({ cb := {} } : ClientState ℕ) s') ↔
      Coalescable [getDevsRequest, setStatusRequest] :=
  coalescing_iff [getDevsRequest, setStatusRequest]
    (readOf (getDevsRequest.bytes ++ setStatusRequest.bytes) (by decide) (by decide))
    [readOf getDevsRequest.bytes (by decide) (by decide),
      readOf setStatusRequest.bytes (by decide) (by decide)]
    0 { cb := {} } rfl rfl

/-- The header of the GET_DEVS packet is queued as a second status pair. -/
theorem coalesced_status_differs :
    ¬ ∃ s', HandlesReads 0 [togetherRead] ({ cb := {} } : ClientState ℕ) s' ∧
      HandlesReads 0 apartReads ({ cb := {} } : ClientState ℕ) s' := by
  rintro ⟨s', htogether, hapart⟩
  have hsingle := handlesReads_single togetherRead [setStatusRequest, getDevsRequest] 0
    ({ cb := {} } : ClientState ℕ) rfl
  have heach := handlesReads_each [setStatusRequest, getDevsRequest] apartReads 0
    ({ cb := {} } : ClientState ℕ) rfl
  have heq := (htogether.unique hsingle).symm.trans (hapart.unique heach)
  have hacts := congrArg (fun s : ClientState ℕ => s.cb.asyncQueue) heq
  revert hacts
  decide

end HomeSecurityBox.Coalescing
