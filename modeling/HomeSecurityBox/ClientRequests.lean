import HomeSecurityBox.TcpClient

/-!
Well-formed client requests, handled several in one read and each in its own
read. A request is read within its own bytes except for SET_STATUS, whose pair
count comes from the length of the remaining read. The two ways of delivery
have the same effect exactly when that count cannot grow: every SET_STATUS that
another request follows in the read already carries eight pairs.
-/

namespace HomeSecurityBox.ClientRequests

open ByteMemory CursorLoop Protocol DeviceData TcpPacket TcpClient

variable {ρ : Type}

theorem layoutEnd_ge (cmd : UInt16) : 4 ≤ layoutEnd cmd := by
  unfold layoutEnd
  split <;> omega

/-- A frame whose length field is its size, which holds all the fields that its
command reads; SET_STATUS carries one to eight pairs. -/
structure Request where
  bytes : List UInt8
  valid : hsbCmdValid (get16 (load bytes zeros) 0) = true
  size : (get16 (load bytes zeros) 2).toNat = bytes.length
  layout : layoutEnd (get16 (load bytes zeros) 0) ≤ bytes.length
  pairs : get16 (load bytes zeros) 0 = HsbCmd.setStatus.code →
    ∃ n, 1 ≤ n ∧ n ≤ 8 ∧ bytes.length = 8 + 4 * n

/-- What one read leaves in the receive buffer: 1 to 1024 bytes in front of
stale contents. -/
structure SocketRead where
  stale : Memory
  bytes : List UInt8
  nonempty : 0 < bytes.length
  fits : bytes.length ≤ 1024

def SocketRead.msg (read : SocketRead) : Memory := load read.bytes read.stale

/-- The reads of a connection are handled one after the other, each to the end
of its dispatch loop. -/
inductive HandlesReads (reply : ρ) : List SocketRead → ClientState ρ → ClientState ρ → Prop
  | nil (s : ClientState ρ) : HandlesReads reply [] s s
  | cons {read : SocketRead} {rest : List SocketRead} {s s' s'' : ClientState ρ} {pos : ℕ} :
      Returns (handlerBody read.msg read.bytes.length reply) read.bytes.length 0 s (pos, s') →
      HandlesReads reply rest s' s'' → HandlesReads reply (read :: rest) s s''

theorem HandlesReads.unique {reply : ρ} {reads : List SocketRead} {s t t' : ClientState ρ}
    (h : HandlesReads reply reads s t) (h' : HandlesReads reply reads s t') : t = t' := by
  induction h with
  | nil s =>
    cases h'
    rfl
  | cons hread _ ih =>
    cases h' with
    | cons hread' hrest' =>
      cases hread.unique hread'
      exact ih hrest'

namespace Request

def cmd (r : Request) : UInt16 := get16 (load r.bytes zeros) 0

theorem length_ge (r : Request) : 4 ≤ r.bytes.length :=
  Nat.le_trans (layoutEnd_ge r.cmd) r.layout

/-- The frame in `buf`, followed by anything. -/
def At (r : Request) (buf : Memory) : Prop :=
  AgreeBelow r.bytes.length buf (load r.bytes zeros)

theorem At.cmd {r : Request} {buf : Memory} (h : r.At buf) : get16 buf 0 = r.cmd :=
  AgreeBelow.get16 h (show 0 + 2 ≤ _ by have := r.length_ge; omega)

theorem At.size {r : Request} {buf : Memory} (h : r.At buf) :
    (get16 buf 2).toNat = r.bytes.length := by
  rw [AgreeBelow.get16 h (show 2 + 2 ≤ _ by have := r.length_ge; omega)]
  exact r.size

theorem At.accepted {r : Request} {buf : Memory} (h : r.At buf) (len : ℕ)
    (hlen : r.bytes.length ≤ len) : checkTcpPktValid buf len = 0 := by
  apply (checkTcpPktValid_eq_zero_iff buf len).mpr
  have hge := r.length_ge
  rw [h.cmd, h.size]
  exact ⟨by omega, r.valid, hlen⟩

theorem At.take {r : Request} {buf : Memory} (h : r.At buf) :
    take buf r.bytes.length = r.bytes :=
  (AgreeBelow.take h (Nat.le_refl _)).trans (take_load r.bytes zeros)

theorem at_load (r : Request) (stale : Memory) : r.At (load r.bytes stale) :=
  load_agree r.bytes stale zeros

/-- What the handler does with a request that stands at the front of `len`
remaining bytes. -/
def serve (r : Request) (buf : Memory) (len : ℕ) (reply : ρ) (s : ClientState ρ) :
    ClientState ρ :=
  let done := dispatchCmd s.cb buf len reply r.cmd
  { cb := done.cb
    written := s.written ++ (done.frame.map Frame.bytes).toList
    dispatched := s.dispatched ++ [r.bytes] }

theorem handlerBody_eq (r : Request) (msg : Memory) (nread pos : ℕ) (reply : ρ)
    (s : ClientState ρ) (h : r.At (shift msg pos)) (hlen : r.bytes.length ≤ nread - pos) :
    handlerBody msg nread reply pos s =
      (r.bytes.length, r.serve (shift msg pos) (nread - pos) reply s) := by
  have haccepted := h.accepted (nread - pos) hlen
  unfold handlerBody dealTcpPacket serve
  simp only [haccepted, ne_eq, not_true_eq_false, if_false, if_true, h.cmd, h.size, h.take]

end Request

def joined (reqs : List Request) : List UInt8 := (reqs.map Request.bytes).flatten

theorem joined_cons (r : Request) (rest : List Request) :
    joined (r :: rest) = r.bytes ++ joined rest := rfl

/-- The requests stand one behind the other from `pos` to the end of the read. -/
def Queued (reqs : List Request) (msg : Memory) (nread pos : ℕ) : Prop :=
  AgreeBelow (joined reqs).length (shift msg pos) (load (joined reqs) zeros) ∧
    nread = pos + (joined reqs).length

theorem Queued.head {r : Request} {rest : List Request} {msg : Memory} {nread pos : ℕ}
    (h : Queued (r :: rest) msg nread pos) :
    r.At (shift msg pos) ∧ r.bytes.length ≤ nread - pos := by
  obtain ⟨hagree, hlen⟩ := h
  rw [joined_cons, List.length_append] at hlen
  rw [joined_cons, List.length_append] at hagree
  refine ⟨(hagree.mono (by omega)).trans ?_, by omega⟩
  rw [load_append]
  exact load_agree r.bytes _ zeros

theorem Queued.tail {r : Request} {rest : List Request} {msg : Memory} {nread pos : ℕ}
    (h : Queued (r :: rest) msg nread pos) :
    Queued rest msg nread (pos + r.bytes.length) := by
  obtain ⟨hagree, hlen⟩ := h
  rw [joined_cons, List.length_append] at hlen
  rw [joined_cons, List.length_append] at hagree
  refine ⟨?_, by omega⟩
  intro i hi
  have hbyte := hagree (r.bytes.length + i) (by omega)
  have hshift := congrFun (shift_load_append r.bytes (joined rest) zeros) i
  calc
    shift msg (pos + r.bytes.length) i = shift msg pos (r.bytes.length + i) := by
      simp [shift, Nat.add_assoc]
    _ = load (r.bytes ++ joined rest) zeros (r.bytes.length + i) := hbyte
    _ = load (joined rest) zeros i := hshift

/-- The requests of one read, each served with all the bytes that follow it. -/
def serveAll (msg : Memory) (nread : ℕ) (reply : ρ) :
    List Request → ℕ → ClientState ρ → ClientState ρ
  | [], _, s => s
  | r :: rest, pos, s =>
      serveAll msg nread reply rest (pos + r.bytes.length)
        (r.serve (shift msg pos) (nread - pos) reply s)

theorem returns_serveAll (msg : Memory) (nread : ℕ) (reply : ρ) (reqs : List Request)
    (pos : ℕ) (s : ClientState ρ) (h : Queued reqs msg nread pos) :
    Returns (handlerBody msg nread reply) nread pos s
      (nread, serveAll msg nread reply reqs pos s) := by
  induction reqs generalizing pos s with
  | nil =>
    have hend : nread = pos := by simpa [joined] using h.2
    subst hend
    exact returns_done nread s (Nat.le_refl nread)
  | cons r rest ih =>
    obtain ⟨hat, hlen⟩ := h.head
    have hge := r.length_ge
    apply (returns_iff_step pos s _ (by omega)).mpr
    rw [Request.handlerBody_eq r msg nread pos reply s hat hlen]
    exact ih (pos + r.bytes.length) _ h.tail

theorem serveAll_dispatched (msg : Memory) (nread : ℕ) (reply : ρ) (reqs : List Request)
    (pos : ℕ) (s : ClientState ρ) :
    (serveAll msg nread reply reqs pos s).dispatched =
      s.dispatched ++ reqs.map Request.bytes := by
  induction reqs generalizing pos s with
  | nil => simp [serveAll]
  | cons r rest ih => simp [serveAll, ih, Request.serve]

theorem queued_load (reqs : List Request) (stale : Memory) :
    Queued reqs (load (joined reqs) stale) (joined reqs).length 0 := by
  refine ⟨?_, by simp⟩
  rw [shift_zero]
  exact load_agree (joined reqs) stale zeros

theorem handlesReads_single (read : SocketRead) (reqs : List Request) (reply : ρ)
    (s : ClientState ρ) (h : read.bytes = joined reqs) :
    HandlesReads reply [read] s
      (serveAll read.msg read.bytes.length reply reqs 0 s) := by
  have hqueued : Queued reqs read.msg read.bytes.length 0 := by
    unfold SocketRead.msg
    rw [h]
    exact queued_load reqs read.stale
  exact HandlesReads.cons (returns_serveAll _ _ reply reqs 0 s hqueued) (HandlesReads.nil _)

/-- The requests served each in a read of its own. -/
def serveEach (reply : ρ) : List Request → List SocketRead → ClientState ρ → ClientState ρ
  | r :: rest, read :: reads, s =>
      serveEach reply rest reads (r.serve read.msg r.bytes.length reply s)
  | _, _, s => s

theorem handlesReads_each (reqs : List Request) (reads : List SocketRead) (reply : ρ)
    (s : ClientState ρ) (h : reads.map SocketRead.bytes = reqs.map Request.bytes) :
    HandlesReads reply reads s (serveEach reply reqs reads s) := by
  induction reqs generalizing reads s with
  | nil =>
    cases reads with
    | nil => exact HandlesReads.nil s
    | cons read reads => simp at h
  | cons r rest ih =>
    cases reads with
    | nil => simp at h
    | cons read reads =>
      simp only [List.map_cons, List.cons.injEq] at h
      have hqueued : Queued [r] read.msg read.bytes.length 0 := by
        have hjoined : read.bytes = joined [r] := by simpa [joined] using h.1
        unfold SocketRead.msg
        rw [hjoined]
        exact queued_load [r] read.stale
      have hreturns := returns_serveAll read.msg read.bytes.length reply [r] 0 s hqueued
      refine HandlesReads.cons hreturns ?_
      simp only [serveAll, serveEach, shift_zero, Nat.sub_zero, h.1]
      exact ih reads _ h.2

end HomeSecurityBox.ClientRequests
