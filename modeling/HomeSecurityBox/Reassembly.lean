import HomeSecurityBox.ClientRequests

/-!
A request stream cut into reads at arbitrary bytes. Each read is dispatched on
its own, and the bytes of a read are its accepted frames followed by a rejected
remainder that is dropped. Counting bytes shows that all requests are
dispatched, in order and unaltered, exactly when no read ends inside a frame.
-/

namespace HomeSecurityBox.Reassembly

open ByteMemory CursorLoop Protocol DeviceData TcpPacket TcpClient ClientRequests

variable {ρ : Type}

def received (reads : List SocketRead) : List UInt8 := (reads.map SocketRead.bytes).flatten

theorem received_cons (read : SocketRead) (rest : List SocketRead) :
    received (read :: rest) = read.bytes ++ received rest := rfl

/-- Every read holds whole requests only. -/
def CutBetweenFrames (reqs : List Request) (reads : List SocketRead) : Prop :=
  ∃ groups : List (List Request), groups.flatten = reqs ∧
    reads.map SocketRead.bytes = groups.map joined

theorem handlerBody_dispatched_of_accepted (msg : Memory) (nread : ℕ) (reply : ρ) (pos : ℕ)
    (s : ClientState ρ) (h : AcceptedAt msg nread pos) :
    (handlerBody msg nread reply pos s).2.dispatched =
      s.dispatched ++ [take (shift msg pos) (usedAt msg nread pos)] := by
  unfold AcceptedAt at h
  unfold handlerBody
  simp only [dealTcpPacket_used, if_pos h, usedAt]

theorem handlerBody_dispatched_of_rejected (msg : Memory) (nread : ℕ) (reply : ρ) (pos : ℕ)
    (s : ClientState ρ) (h : ¬ AcceptedAt msg nread pos) :
    (handlerBody msg nread reply pos s).2.dispatched = s.dispatched := by
  unfold AcceptedAt at h
  unfold handlerBody
  simp only [if_neg h, List.append_nil]

/-- The dispatched frames of a read are a front part of its bytes. -/
theorem loop_dispatched (bytes : List UInt8) (stale : Memory) (reply : ρ) (fuel pos : ℕ)
    (s s' : ClientState ρ) (q : ℕ)
    (h : loop (handlerBody (load bytes stale) bytes.length reply) bytes.length fuel pos s =
      some (q, s')) :
    ∃ frames rest, bytes.drop pos = frames.flatten ++ rest ∧
      s'.dispatched = s.dispatched ++ frames := by
  induction fuel generalizing pos s with
  | zero =>
    by_cases hpos : pos < bytes.length
    · simp [loop, hpos] at h
    · rw [loop_of_le _ _ _ (Nat.le_of_not_lt hpos)] at h
      cases h
      exact ⟨[], bytes.drop q, rfl, by simp⟩
  | succ fuel ih =>
    by_cases hpos : pos < bytes.length
    · rw [loop_succ_of_lt _ _ _ hpos] at h
      obtain ⟨frames, rest, hbytes, hdispatched⟩ := ih _ _ h
      rw [handlerBody_used] at hbytes
      by_cases hacc : AcceptedAt (load bytes stale) bytes.length pos
      · have hused : usedAt (load bytes stale) bytes.length pos ≤ bytes.length - pos :=
          packetUsed_le _ _
        have hframe := take_shift_load bytes stale pos
          (usedAt (load bytes stale) bytes.length pos) (by omega)
        have hsplit := List.take_append_drop (usedAt (load bytes stale) bytes.length pos)
          (bytes.drop pos)
        rw [List.drop_drop, hbytes] at hsplit
        refine ⟨(bytes.drop pos).take (usedAt (load bytes stale) bytes.length pos) :: frames,
          rest, ?_, ?_⟩
        · rw [List.flatten_cons, List.append_assoc]
          exact hsplit.symm
        · rw [hdispatched, handlerBody_dispatched_of_accepted _ _ reply pos s hacc, hframe,
            List.append_assoc, List.singleton_append]
      · have hend : pos + usedAt (load bytes stale) bytes.length pos = bytes.length := by
          rw [usedAt_of_rejected _ _ pos hacc]
          omega
        rw [hend, List.drop_length] at hbytes
        have hnone : frames.flatten = [] := (List.append_eq_nil_iff.mp hbytes.symm).1
        refine ⟨frames, bytes.drop pos, ?_, ?_⟩
        · rw [hnone, List.nil_append]
        · rw [hdispatched, handlerBody_dispatched_of_rejected _ _ reply pos s hacc]
    · rw [loop_of_le _ _ _ (Nat.le_of_not_lt hpos)] at h
      cases h
      exact ⟨[], bytes.drop q, rfl, by simp⟩

/-- A read is its dispatched frames and a remainder that is dropped. -/
def SplitsInto (read : SocketRead) (frames : List (List UInt8)) : Prop :=
  ∃ rest, read.bytes = frames.flatten ++ rest

theorem handlesReads_dispatched (reply : ρ) (reads : List SocketRead) (s s' : ClientState ρ)
    (h : HandlesReads reply reads s s') :
    ∃ frames : List (List (List UInt8)), s'.dispatched = s.dispatched ++ frames.flatten ∧
      List.Forall₂ SplitsInto reads frames := by
  induction h with
  | nil s => exact ⟨[], by simp, List.Forall₂.nil⟩
  | @cons read rest s s₁ s₂ pos hread _ ih =>
    obtain ⟨fuel, hfuel⟩ := hread
    obtain ⟨frame, dropped, hbytes, hdispatched⟩ :=
      loop_dispatched read.bytes read.stale reply fuel 0 s s₁ pos hfuel
    obtain ⟨frames, hall, hsplit⟩ := ih
    refine ⟨frame :: frames, ?_, List.Forall₂.cons ⟨dropped, by simpa using hbytes⟩ hsplit⟩
    rw [hall, hdispatched, List.flatten_cons, List.append_assoc]

theorem dispatched_length_le (reads : List SocketRead) (frames : List (List (List UInt8)))
    (h : List.Forall₂ SplitsInto reads frames) :
    frames.flatten.flatten.length ≤ (received reads).length := by
  induction h with
  | nil => simp [received]
  | cons hread _ ih =>
    obtain ⟨rest, hrest⟩ := hread
    rw [received_cons, hrest, List.flatten_cons, List.flatten_append]
    simp only [List.length_append]
    omega

/-- When every received byte is dispatched, no read drops any. -/
theorem reads_eq_frames (reads : List SocketRead) (frames : List (List (List UInt8)))
    (h : List.Forall₂ SplitsInto reads frames)
    (hlen : (received reads).length = frames.flatten.flatten.length) :
    reads.map SocketRead.bytes = frames.map List.flatten := by
  induction h with
  | nil => rfl
  | cons hread hrest ih =>
    obtain ⟨rest, hbytes⟩ := hread
    have hle := dispatched_length_le _ _ hrest
    rw [received_cons, hbytes, List.flatten_cons, List.flatten_append] at hlen
    simp only [List.length_append] at hlen
    have hnone : rest = [] := List.length_eq_zero_iff.mp (by omega)
    subst hnone
    rw [List.map_cons, List.map_cons, ih (by omega), hbytes, List.append_nil]

/-- A split of the request frames into groups is a split of the requests. -/
theorem groups_of_frames (frames : List (List (List UInt8))) (reqs : List Request)
    (h : frames.flatten = reqs.map Request.bytes) :
    ∃ groups : List (List Request), groups.flatten = reqs ∧
      frames = groups.map (List.map Request.bytes) := by
  induction frames generalizing reqs with
  | nil =>
    refine ⟨[], ?_, rfl⟩
    simpa using h
  | cons frame frames ih =>
    rw [List.flatten_cons] at h
    obtain ⟨front, back, hreqs, hfront, hback⟩ := List.map_eq_append_iff.mp h.symm
    obtain ⟨groups, hgroups, hframes⟩ := ih back hback.symm
    refine ⟨front :: groups, ?_, ?_⟩
    · rw [List.flatten_cons, hgroups, hreqs]
    · rw [List.map_cons, hfront, hframes]

theorem handlesReads_groups (reply : ρ) (groups : List (List Request))
    (reads : List SocketRead) (s : ClientState ρ)
    (h : reads.map SocketRead.bytes = groups.map joined) :
    ∃ s', HandlesReads reply reads s s' ∧
      s'.dispatched = s.dispatched ++ groups.flatten.map Request.bytes := by
  induction groups generalizing reads s with
  | nil =>
    cases reads with
    | nil => exact ⟨s, HandlesReads.nil s, by simp⟩
    | cons read reads => simp at h
  | cons group groups ih =>
    cases reads with
    | nil => simp at h
    | cons read reads =>
      simp only [List.map_cons, List.cons.injEq] at h
      have hsingle := handlesReads_single read group reply s h.1
      obtain ⟨s', hrest, hdispatched⟩ := ih reads
        (serveAll read.msg read.bytes.length reply group 0 s) h.2
      cases hsingle with
      | cons hread hnil =>
        cases hnil
        refine ⟨s', HandlesReads.cons hread hrest, ?_⟩
        rw [hdispatched, serveAll_dispatched, List.flatten_cons, List.map_append,
          List.append_assoc]

/-- A stream of requests cut into reads is dispatched as exactly these requests,
in order, if and only if every read consists of whole requests. -/
theorem reassembly_iff (reqs : List Request) (reads : List SocketRead) (reply : ρ)
    (s : ClientState ρ) (hstream : received reads = joined reqs) :
    (∃ s', HandlesReads reply reads s s' ∧
        s'.dispatched = s.dispatched ++ reqs.map Request.bytes) ↔
      CutBetweenFrames reqs reads := by
  constructor
  · rintro ⟨s', hreads, hdispatched⟩
    obtain ⟨frames, hframes, hsplit⟩ := handlesReads_dispatched reply reads s s' hreads
    have hflat : frames.flatten = reqs.map Request.bytes :=
      List.append_cancel_left (hframes.symm.trans hdispatched)
    have hbytes : reads.map SocketRead.bytes = frames.map List.flatten := by
      apply reads_eq_frames reads frames hsplit
      rw [hstream, hflat]
      rfl
    obtain ⟨groups, hgroups, hmap⟩ := groups_of_frames frames reqs hflat
    refine ⟨groups, hgroups, ?_⟩
    rw [hbytes, hmap, List.map_map]
    rfl
  · rintro ⟨groups, hgroups, hbytes⟩
    obtain ⟨s', hreads, hdispatched⟩ := handlesReads_groups reply groups reads s hbytes
    rw [hgroups] at hdispatched
    exact ⟨s', hreads, hdispatched⟩

/-- GET_INFO for device 1. -/
def getInfoRequest : Request where
  bytes := [0x13, 0x88, 8, 0, 1, 0, 0, 0]
  valid := by decide
  size := by decide
  layout := by decide
  pairs := fun h => absurd h (by decide)

def wholeRead : SocketRead := ⟨zeros, getInfoRequest.bytes, by decide, by decide⟩

def headRead : SocketRead := ⟨zeros, [0x13, 0x88, 8, 0], by decide, by decide⟩

def tailRead : SocketRead := ⟨zeros, [1, 0, 0, 0], by decide, by decide⟩

theorem reassembly_two_whole_reads :
    (∃ s', HandlesReads 0 [wholeRead, wholeRead] ({ cb := {} } : ClientState ℕ) s' ∧
        s'.dispatched = [] ++ [getInfoRequest, getInfoRequest].map Request.bytes) ↔
      CutBetweenFrames [getInfoRequest, getInfoRequest] [wholeRead, wholeRead] :=
  reassembly_iff [getInfoRequest, getInfoRequest] [wholeRead, wholeRead] 0 { cb := {} } rfl

/-- A GET_INFO request cut behind its header is dropped, both halves of it. -/
theorem cut_request_dropped :
    received [headRead, tailRead] = joined [getInfoRequest] ∧
      ¬ ∃ s', HandlesReads 0 [headRead, tailRead] ({ cb := {} } : ClientState ℕ) s' ∧
        s'.dispatched = [getInfoRequest].map Request.bytes := by
  refine ⟨rfl, ?_⟩
  rintro ⟨s', hreads, hdispatched⟩
  have hhead : Returns (handlerBody headRead.msg 4 0) 4 0 ({ cb := {} } : ClientState ℕ)
      (4, { cb := {} }) := ⟨1, rfl⟩
  have htail : Returns (handlerBody tailRead.msg 4 0) 4 0 ({ cb := {} } : ClientState ℕ)
      (4, { cb := {} }) := ⟨1, rfl⟩
  have hdropped := hreads.unique
    (HandlesReads.cons hhead (HandlesReads.cons htail (HandlesReads.nil _)))
  rw [hdropped] at hdispatched
  contradiction

end HomeSecurityBox.Reassembly
