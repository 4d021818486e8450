import HomeSecurityBox.Base.CursorLoop
import HomeSecurityBox.TcpPacket

/-!
The dispatch loop of a client connection over the bytes of one read. Each call
of the dispatcher reports how many bytes it used; the loop returns exactly when
no frame reached through the declared lengths has declared length zero.
-/

namespace HomeSecurityBox.TcpClient

open ByteMemory CursorLoop Protocol DeviceData TcpPacket

variable {ρ : Type}

/-- The control block with what the connection has seen so far: the frames
written to its socket and, for each accepted packet, its declared bytes. -/
structure ClientState (ρ : Type) where
  cb : HsbDeviceCb ρ
  written : List (List UInt8) := []
  dispatched : List (List UInt8) := []

/-- One call of `dealTcpPacket` at offset `nwrite` of the receive buffer. -/
def handlerBody (msg : Memory) (nread : ℕ) (reply : ρ) (nwrite : ℕ) (s : ClientState ρ) :
    ℕ × ClientState ρ :=
  let buf := shift msg nwrite
  let len := nread - nwrite
  let out := dealTcpPacket s.cb buf len reply
  (out.used,
    { cb := out.cb
      written := s.written ++ out.written.toList
      dispatched := s.dispatched ++
        if checkTcpPktValid buf len = 0 then [take buf out.used] else [] })

/-- The loop `while (nwrite < nread)` over one read, started at offset zero. -/
def handleRead (fuel : ℕ) (msg : Memory) (nread : ℕ) (reply : ρ) (s : ClientState ρ) :
    Option (ClientState ρ) :=
  (loop (handlerBody msg nread reply) nread fuel 0 s).map Prod.snd

def usedAt (msg : Memory) (nread pos : ℕ) : ℕ := packetUsed (shift msg pos) (nread - pos)

theorem handlerBody_used (msg : Memory) (nread : ℕ) (reply : ρ) (pos : ℕ)
    (s : ClientState ρ) : (handlerBody msg nread reply pos s).1 = usedAt msg nread pos :=
  dealTcpPacket_used s.cb (shift msg pos) (nread - pos) reply

def AcceptedAt (msg : Memory) (nread pos : ℕ) : Prop :=
  checkTcpPktValid (shift msg pos) (nread - pos) = 0

def declaredLength (msg : Memory) (pos : ℕ) : ℕ := (get16 (shift msg pos) 2).toNat

/-- The offsets reached from the first by adding up declared lengths of
accepted frames. -/
inductive FrameStart (msg : Memory) (nread : ℕ) : ℕ → ℕ → Prop
  | here (p : ℕ) : FrameStart msg nread p p
  | next {p q : ℕ} : p < nread → AcceptedAt msg nread p →
      FrameStart msg nread (p + declaredLength msg p) q → FrameStart msg nread p q

/-- No accepted frame of the read declares length zero. -/
def NoEmptyFrame (msg : Memory) (nread : ℕ) : Prop :=
  ∀ pos, FrameStart msg nread 0 pos → pos < nread → AcceptedAt msg nread pos →
    declaredLength msg pos ≠ 0

theorem usedAt_of_accepted (msg : Memory) (nread pos : ℕ) (h : AcceptedAt msg nread pos) :
    usedAt msg nread pos = declaredLength msg pos :=
  packetUsed_of_accepted (shift msg pos) (nread - pos) h

theorem usedAt_of_rejected (msg : Memory) (nread pos : ℕ) (h : ¬ AcceptedAt msg nread pos) :
    usedAt msg nread pos = nread - pos :=
  packetUsed_of_rejected (shift msg pos) (nread - pos) h

theorem visited_of_frameStart {msg : Memory} {nread p q : ℕ}
    (h : FrameStart msg nread p q) : Visited (usedAt msg nread) nread p q := by
  induction h with
  | here p => exact Visited.here p
  | next hp hacc _ ih =>
    apply Visited.next hp
    rw [usedAt_of_accepted msg nread _ hacc]
    exact ih

/-- A rejected packet ends the read, so the loop only calls at frame starts. -/
theorem frameStart_of_visited {msg : Memory} {nread p q : ℕ}
    (h : Visited (usedAt msg nread) nread p q) (hq : q < nread) :
    FrameStart msg nread p q := by
  induction h with
  | here p => exact FrameStart.here p
  | @next p q hp hrest ih =>
    by_cases hacc : AcceptedAt msg nread p
    · have hstart := ih hq
      rw [usedAt_of_accepted msg nread p hacc] at hstart
      exact FrameStart.next hp hacc hstart
    · rw [usedAt_of_rejected msg nread p hacc,
        show p + (nread - p) = nread by omega] at hrest
      cases hrest with
      | here => exact absurd hq (Nat.lt_irrefl nread)
      | next hlt => exact absurd hlt (Nat.lt_irrefl nread)

theorem usedAt_pos_of_noEmptyFrame {msg : Memory} {nread : ℕ}
    (h : NoEmptyFrame msg nread) (pos : ℕ)
    (hvisit : Visited (usedAt msg nread) nread 0 pos) (hpos : pos < nread) :
    0 < usedAt msg nread pos := by
  by_cases hacc : AcceptedAt msg nread pos
  · have hne := h pos (frameStart_of_visited hvisit hpos) hpos hacc
    rw [usedAt_of_accepted msg nread pos hacc]
    exact Nat.pos_of_ne_zero hne
  · rw [usedAt_of_rejected msg nread pos hacc]
    omega

/-- The loop over a read in which no accepted frame is empty ends at its end. -/
theorem returns_of_noEmptyFrame (msg : Memory) (nread : ℕ) (reply : ρ)
    (h : NoEmptyFrame msg nread) (s : ClientState ρ) :
    ∃ s', Returns (handlerBody msg nread reply) nread 0 s (nread, s') :=
  returns_of_progress (usedAt msg nread) (handlerBody_used msg nread reply)
    (fun p _ => packetUsed_le (shift msg p) (nread - p)) 0 (Nat.zero_le nread)
    (usedAt_pos_of_noEmptyFrame h) s

/-- An empty accepted frame is dispatched again and again. -/
theorem handleRead_none_of_empty (msg : Memory) (nread : ℕ) (reply : ρ) (pos : ℕ)
    (hstart : FrameStart msg nread 0 pos) (hpos : pos < nread)
    (hacc : AcceptedAt msg nread pos) (hempty : declaredLength msg pos = 0)
    (fuel : ℕ) (s : ClientState ρ) :
    loop (handlerBody msg nread reply) nread fuel 0 s = none :=
  loop_none_of_visited_stuck (usedAt msg nread) (handlerBody_used msg nread reply)
    (visited_of_frameStart hstart) hpos
    ((usedAt_of_accepted msg nread pos hacc).trans hempty) fuel s

/-- For every read and every device state, each call at an unread offset uses
at least one byte and no more than remain, and the loop ends at the end of the
read, if and only if no accepted frame of the read declares length zero. -/
theorem dispatch_loop_terminates_iff (bytes : List UInt8) (stale : Memory) (reply : ρ)
    (s : ClientState ρ) :
    ((∀ pos, Visited (usedAt (load bytes stale) bytes.length) bytes.length 0 pos →
        pos < bytes.length → ∀ cb : HsbDeviceCb ρ,
          1 ≤ (dealTcpPacket cb (shift (load bytes stale) pos)
            (bytes.length - pos) reply).used ∧
          (dealTcpPacket cb (shift (load bytes stale) pos)
            (bytes.length - pos) reply).used ≤ bytes.length - pos) ∧
      ∃ s', Returns (handlerBody (load bytes stale) bytes.length reply) bytes.length 0 s
        (bytes.length, s')) ↔
      NoEmptyFrame (load bytes stale) bytes.length := by
  constructor
  · rintro ⟨hused, -⟩ pos hstart hpos hacc hzero
    have hcall := (hused pos (visited_of_frameStart hstart) hpos s.cb).1
    rw [dealTcpPacket_used] at hcall
    have heq := usedAt_of_accepted (load bytes stale) bytes.length pos hacc
    unfold usedAt at heq
    omega
  · intro h
    refine ⟨?_, returns_of_noEmptyFrame _ _ reply h s⟩
    intro pos hvisit hpos cb
    rw [dealTcpPacket_used]
    exact ⟨usedAt_pos_of_noEmptyFrame h pos hvisit hpos, packetUsed_le _ _⟩

/-- Four bytes, GET_DEVS with declared length zero, keep the loop running. -/
theorem empty_frame_never_returns :
    (dealTcpPacket ({} : HsbDeviceCb ℕ) (load [0x11, 0x88, 0, 0] zeros) 4 0).used = 0 ∧
      ¬ ∃ r, Returns (handlerBody (load [0x11, 0x88, 0, 0] zeros) 4 0) 4 0
        ({ cb := {} } : ClientState ℕ) r := by
  constructor
  · rw [dealTcpPacket_used]
    decide
  · rintro ⟨r, fuel, hr⟩
    have hnone := handleRead_none_of_empty (load [0x11, 0x88, 0, 0] zeros) 4 0 0
      (FrameStart.here 0) (by decide) (by unfold AcceptedAt; decide) (by decide)
      fuel ({ cb := {} } : ClientState ℕ)
    rw [hnone] at hr
    contradiction

end HomeSecurityBox.TcpClient
