import HomeSecurityBox.ZigbeeLink

/-!
The monitor thread of the zigbee driver at the serial port. A frame is read in two
parts, its header and then as many bytes as the header declares; each part is read
chunk by chunk until it is complete, the second is over, or the port fails. The length
of the second part comes from the wire and is compared with nothing but the length of
a header.
-/

namespace HomeSecurityBox.UartMonitor

open ByteMemory Zigbee ZigbeeLink Transitions

/-- In `select`; in `read_timeout` with so many bytes of the header, or of what a
header of `cmdLen` declares behind it; or in `deal_recv_buf` in front of the lock. -/
inductive Stage
  | idle
  | header (total : ℕ)
  | body (cmdLen total : ℕ)
  | matched (len : ℕ)
  deriving DecidableEq, Repr

inductive Buffer
  | rbuf
  | recvBuf
  deriving DecidableEq, Repr

structure Write where
  buffer : Buffer
  off : ℕ
  len : ℕ
  deriving DecidableEq, Repr

/-- The thread, the part of the shared context that it looks at, and the histories of
the bytes it read, of its writes and of the bytes it passed to `deal_recv_buf`. -/
structure UartState where
  rbuf : Memory
  stage : Stage := .idle
  transId : UInt16 := 1
  isWaiting : Bool := false
  received : List UInt8 := []
  writes : List Write := []
  calls : List (List UInt8) := []

inductive UartStep
  | worker (transId : UInt16) (isWaiting : Bool)
  | notified (bytes : List UInt8)
  | readable
  | read (bytes : List UInt8) (expired : Bool)
  | ended
  | deliver
  deriving DecidableEq, Repr

/-- The bytes of a `read` land in the buffer. -/
def afterRead (s : UartState) (off : ℕ) (bytes : List UInt8) : UartState :=
  { s with
    rbuf := store bytes off s.rbuf
    received := s.received ++ bytes
    writes := s.writes ++ [⟨.rbuf, off, bytes.length⟩] }

/-- One `read` of `read_timeout (fd, rbuf + base, count)` behind `total` bytes. -/
def readChunk (s : UartState) (base total count : ℕ) (bytes : List UInt8) :
    Option UartState :=
  if bytes ≠ [] ∧ total + bytes.length ≤ count then some (afterRead s (base + total) bytes)
  else none

/-- What the thread makes of a complete header. -/
def afterHeader (rbuf : Memory) : Stage :=
  if get16 rbuf 0 ≠ czHeaderMagic then .idle
  else
    let cmdLen := (get16 rbuf 2).toNat
    if cmdLen ≤ czHeaderLen then .idle else .body cmdLen 0

/-- The call of `deal_recv_buf`, up to its lock. -/
def callDeal (s : UartState) (cmdLen : ℕ) : UartState :=
  { s with
    stage := if classify s.transId s.rbuf = .matched then .matched cmdLen else .idle
    calls := s.calls ++ [take s.rbuf cmdLen] }

/-- A part that is complete ends its `read_timeout`, whatever time is left. -/
def readStep (s : UartState) (bytes : List UInt8) (expired : Bool) : Option UartState :=
  match s.stage with
  | .header total =>
      (readChunk s 0 total czHeaderLen bytes).map fun s =>
        let total := total + bytes.length
        if total = czHeaderLen then { s with stage := afterHeader s.rbuf }
        else if expired then { s with stage := .idle }
        else { s with stage := .header total }
  | .body cmdLen total =>
      (readChunk s czHeaderLen total (cmdLen - czHeaderLen) bytes).map fun s =>
        let total := total + bytes.length
        if total = cmdLen - czHeaderLen then callDeal s cmdLen
        else if expired then { s with stage := .idle }
        else { s with stage := .body cmdLen total }
  | _ => none

/-- The datagram that asks for a write to the port lands in `rbuf` as well. A read that
times out, is interrupted or fails gives up the part that it has. -/
def uartStep (s : UartState) : UartStep → Option UartState
  | .worker transId isWaiting => some { s with transId := transId, isWaiting := isWaiting }
  | .notified bytes =>
      match s.stage with
      | .idle =>
          if bytes.length ≤ recvBufSize then
            some
              { s with
                rbuf := store bytes 0 s.rbuf
                writes := s.writes ++ [⟨.rbuf, 0, bytes.length⟩] }
          else none
      | _ => none
  | .readable =>
      match s.stage with
      | .idle => some { s with stage := .header 0 }
      | _ => none
  | .read bytes expired => readStep s bytes expired
  | .ended =>
      match s.stage with
      | .header _ | .body _ _ => some { s with stage := .idle }
      | _ => none
  | .deliver =>
      match s.stage with
      | .matched len =>
          if s.isWaiting then
            some { s with stage := .idle, writes := s.writes ++ [⟨.recvBuf, 0, len⟩] }
          else some { s with stage := .idle }
      | _ => none

def UartState.start (rbuf : Memory) : UartState := { rbuf := rbuf }

theorem readChunk_eq_some {s s' : UartState} {base total count : ℕ} {bytes : List UInt8}
    (h : readChunk s base total count bytes = some s') :
    bytes ≠ [] ∧ total + bytes.length ≤ count ∧ s' = afterRead s (base + total) bytes := by
  unfold readChunk at h
  split at h
  · rename_i hfits
    exact ⟨hfits.1, hfits.2, (Option.some.inj h).symm⟩
  · contradiction

theorem readChunk_of_fits (s : UartState) (base : ℕ) {total count : ℕ} {bytes : List UInt8}
    (hsome : bytes ≠ []) (hfits : total + bytes.length ≤ count) :
    readChunk s base total count bytes = some (afterRead s (base + total) bytes) :=
  if_pos ⟨hsome, hfits⟩

theorem callDeal_stage (s : UartState) (cmdLen : ℕ) :
    (callDeal s cmdLen).stage = .matched cmdLen ∨ (callDeal s cmdLen).stage = .idle := by
  unfold callDeal
  split
  · exact Or.inl rfl
  · exact Or.inr rfl

/-- A read completes its part, is one chunk of it, or comes when the time is over. -/
inductive ReadEffect (s : UartState) (bytes : List UInt8) (expired : Bool) : UartState → Prop
  | headerDone {total : ℕ} (hstage : s.stage = .header total)
      (hlen : total + bytes.length = czHeaderLen) :
      ReadEffect s bytes expired
        { afterRead s total bytes with stage := afterHeader (store bytes total s.rbuf) }
  | headerPart {total : ℕ} (hstage : s.stage = .header total)
      (hlen : total + bytes.length < czHeaderLen) (htime : expired = false) :
      ReadEffect s bytes expired
        { afterRead s total bytes with stage := .header (total + bytes.length) }
  | headerExpired {total : ℕ} (hstage : s.stage = .header total)
      (hlen : total + bytes.length < czHeaderLen) (htime : expired = true) :
      ReadEffect s bytes expired { afterRead s total bytes with stage := .idle }
  | bodyDone {cmdLen total : ℕ} (hstage : s.stage = .body cmdLen total)
      (hlen : czHeaderLen + total + bytes.length = cmdLen) :
      ReadEffect s bytes expired (callDeal (afterRead s (czHeaderLen + total) bytes) cmdLen)
  | bodyPart {cmdLen total : ℕ} (hstage : s.stage = .body cmdLen total)
      (hlen : czHeaderLen + total + bytes.length < cmdLen) (htime : expired = false) :
      ReadEffect s bytes expired
        { afterRead s (czHeaderLen + total) bytes with
          stage := .body cmdLen (total + bytes.length) }
  | bodyExpired {cmdLen total : ℕ} (hstage : s.stage = .body cmdLen total)
      (hlen : czHeaderLen + total + bytes.length < cmdLen) (htime : expired = true) :
      ReadEffect s bytes expired
        { afterRead s (czHeaderLen + total) bytes with stage := .idle }

theorem ReadEffect.received {s s' : UartState} {bytes : List UInt8} {expired : Bool}
    (h : ReadEffect s bytes expired s') : s'.received = s.received ++ bytes := by
  cases h <;> rfl

theorem readStep_effect {s s' : UartState} {bytes : List UInt8} {expired : Bool}
    (h : readStep s bytes expired = some s') :
    bytes ≠ [] ∧ ReadEffect s bytes expired s' := by
  unfold readStep at h
  split at h
  · rename_i total hstage
    obtain ⟨read, hread, hs'⟩ := Option.map_eq_some_iff.mp h
    obtain ⟨hsome, hfits, rfl⟩ := readChunk_eq_some hread
    rw [Nat.zero_add] at hs'
    refine ⟨hsome, ?_⟩
    rw [← hs']
    by_cases hdone : total + bytes.length = czHeaderLen
    · simp only [if_pos hdone]
      exact .headerDone hstage hdone
    · simp only [if_neg hdone]
      cases expired with
      | false => exact .headerPart hstage (by omega) rfl
      | true => exact .headerExpired hstage (by omega) rfl
  · rename_i cmdLen total hstage
    obtain ⟨read, hread, hs'⟩ := Option.map_eq_some_iff.mp h
    obtain ⟨hsome, hfits, rfl⟩ := readChunk_eq_some hread
    have hpos : 0 < bytes.length := List.length_pos_iff.mpr hsome
    refine ⟨hsome, ?_⟩
    rw [← hs']
    by_cases hdone : total + bytes.length = cmdLen - czHeaderLen
    · simp only [if_pos hdone]
      exact .bodyDone hstage (by omega)
    · simp only [if_neg hdone]
      cases expired with
      | false => exact .bodyPart hstage (by omega) rfl
      | true => exact .bodyExpired hstage (by omega) rfl
  · contradiction

/-- What each step asks for and what it does. -/
inductive StepEffect (s : UartState) : UartStep → UartState → Prop
  | worker (transId : UInt16) (isWaiting : Bool) :
      StepEffect s (.worker transId isWaiting)
        { s with transId := transId, isWaiting := isWaiting }
  | notified {bytes : List UInt8} (hidle : s.stage = .idle)
      (hroom : bytes.length ≤ recvBufSize) :
      StepEffect s (.notified bytes)
        { s with
          rbuf := store bytes 0 s.rbuf
          writes := s.writes ++ [⟨.rbuf, 0, bytes.length⟩] }
  | readable (hidle : s.stage = .idle) :
      StepEffect s .readable { s with stage := .header 0 }
  | read {bytes : List UInt8} {expired : Bool} {s' : UartState} (hsome : bytes ≠ [])
      (heffect : ReadEffect s bytes expired s') : StepEffect s (.read bytes expired) s'
  | ended (hreading : s.stage ≠ .idle ∧ ∀ len, s.stage ≠ .matched len) :
      StepEffect s .ended { s with stage := .idle }
  | delivered {len : ℕ} (hmatched : s.stage = .matched len) (hwaiting : s.isWaiting = true) :
      StepEffect s .deliver
        { s with stage := .idle, writes := s.writes ++ [⟨.recvBuf, 0, len⟩] }
  | dropped {len : ℕ} (hmatched : s.stage = .matched len) (hwaiting : s.isWaiting = false) :
      StepEffect s .deliver { s with stage := .idle }

theorem uartStep_effect {s s' : UartState} {a : UartStep} (h : uartStep s a = some s') :
    StepEffect s a s' := by
  cases a with
  | worker transId isWaiting =>
    rw [← Option.some.inj h]
    exact .worker transId isWaiting
  | notified bytes =>
    simp only [uartStep] at h
    split at h
    · rename_i hidle
      split at h
      · rename_i hroom
        rw [← Option.some.inj h]
        exact .notified hidle hroom
      · contradiction
    · contradiction
  | readable =>
    simp only [uartStep] at h
    split at h
    · rename_i hidle
      rw [← Option.some.inj h]
      exact .readable hidle
    · contradiction
  | read bytes expired =>
    obtain ⟨hsome, heffect⟩ := readStep_effect h
    exact .read hsome heffect
  | ended =>
    simp only [uartStep] at h
    split at h
    · rename_i total hheader
      rw [← Option.some.inj h]
      refine .ended ?_
      rw [hheader]
      exact ⟨Stage.noConfusion, fun _ => Stage.noConfusion⟩
    · rename_i cmdLen total hbody
      rw [← Option.some.inj h]
      refine .ended ?_
      rw [hbody]
      exact ⟨Stage.noConfusion, fun _ => Stage.noConfusion⟩
    · contradiction
  | deliver =>
    simp only [uartStep] at h
    split at h
    · rename_i len hmatched
      split at h
      · rename_i hwaiting
        rw [← Option.some.inj h]
        exact .delivered hmatched hwaiting
      · rename_i hwaiting
        rw [← Option.some.inj h]
        exact .dropped hmatched ((Bool.not_eq_true _).mp hwaiting)
    · contradiction

/-- Every write so far stayed inside the 256 bytes of its buffer. -/
def InBounds (s : UartState) : Prop := ∀ w ∈ s.writes, w.off + w.len ≤ recvBufSize

/-- A read behind a header that declares more than a buffer holds ends in time. -/
def Fits (s : UartState) : UartStep → Prop
  | .read bytes _ =>
      match s.stage with
      | .body cmdLen total => cmdLen ≤ recvBufSize ∨ total + bytes.length ≤ 244
      | _ => True
  | _ => True

/-- What is copied under the lock has been in `rbuf` as a whole. -/
structure Bounded (s : UartState) : Prop where
  writes : InBounds s
  matched : ∀ len, s.stage = .matched len → len ≤ recvBufSize

theorem inBounds_append {writes : List Write} {w : Write}
    (h : ∀ w ∈ writes, w.off + w.len ≤ recvBufSize) (hw : w.off + w.len ≤ recvBufSize) :
    ∀ w' ∈ writes ++ [w], w'.off + w'.len ≤ recvBufSize :=
  List.forall_mem_append.mpr ⟨h, List.forall_mem_singleton.mpr hw⟩

/-- Behind a header that fits, and behind one that does not, the read stays inside. -/
theorem body_room {s : UartState} {bytes : List UInt8} {expired : Bool} {cmdLen total : ℕ}
    (hfits : Fits s (.read bytes expired)) (hstage : s.stage = .body cmdLen total)
    (hlen : czHeaderLen + total + bytes.length ≤ cmdLen) :
    czHeaderLen + total + bytes.length ≤ recvBufSize := by
  simp only [Fits, hstage] at hfits
  simp only [czHeaderLen, recvBufSize] at hfits hlen ⊢
  omega

theorem afterHeader_ne_matched (rbuf : Memory) (len : ℕ) : afterHeader rbuf ≠ .matched len := by
  simp only [afterHeader]
  split
  · exact Stage.noConfusion
  · split
    · exact Stage.noConfusion
    · exact Stage.noConfusion

theorem read_bounded {s s' : UartState} {bytes : List UInt8} {expired : Bool}
    (heffect : ReadEffect s bytes expired s') (hfits : Fits s (.read bytes expired))
    (hs : Bounded s) : Bounded s' := by
  have hheader : ∀ {total}, total + bytes.length ≤ czHeaderLen →
      total + bytes.length ≤ recvBufSize := fun hlen => Nat.le_trans hlen (by decide)
  cases heffect with
  | headerDone hstage hlen =>
    exact ⟨inBounds_append hs.writes (hheader (Nat.le_of_eq hlen)),
      fun len hmatched => absurd hmatched (afterHeader_ne_matched _ len)⟩
  | headerPart hstage hlen =>
    exact ⟨inBounds_append hs.writes (hheader (Nat.le_of_lt hlen)), fun _ => Stage.noConfusion⟩
  | headerExpired hstage hlen =>
    exact ⟨inBounds_append hs.writes (hheader (Nat.le_of_lt hlen)), fun _ => Stage.noConfusion⟩
  | @bodyDone cmdLen total hstage hlen =>
    have hroom := body_room hfits hstage (Nat.le_of_eq hlen)
    refine ⟨inBounds_append hs.writes hroom, ?_⟩
    intro len hmatched
    rcases callDeal_stage (afterRead s (czHeaderLen + total) bytes) cmdLen with hcall | hcall
    · cases hcall.symm.trans hmatched
      exact hlen ▸ hroom
    · exact Stage.noConfusion (hcall.symm.trans hmatched)
  | bodyPart hstage hlen =>
    exact ⟨inBounds_append hs.writes (body_room hfits hstage (Nat.le_of_lt hlen)),
      fun _ => Stage.noConfusion⟩
  | bodyExpired hstage hlen =>
    exact ⟨inBounds_append hs.writes (body_room hfits hstage (Nat.le_of_lt hlen)),
      fun _ => Stage.noConfusion⟩

theorem uartStep_bounded : Preserves uartStep Fits Bounded := by
  intro s a s' hs hfits h
  cases uartStep_effect h with
  | worker transId isWaiting => exact ⟨hs.writes, hs.matched⟩
  | notified hidle hroom =>
    refine ⟨inBounds_append hs.writes ?_, hs.matched⟩
    rw [Nat.zero_add]
    exact hroom
  | readable hidle => exact ⟨hs.writes, fun _ => Stage.noConfusion⟩
  | read hsome heffect => exact read_bounded heffect hfits hs
  | ended hreading => exact ⟨hs.writes, fun _ => Stage.noConfusion⟩
  | delivered hmatched hwaiting =>
    refine ⟨inBounds_append hs.writes ?_, fun _ => Stage.noConfusion⟩
    rw [Nat.zero_add]
    exact hs.matched _ hmatched
  | dropped hmatched hwaiting => exact ⟨hs.writes, fun _ => Stage.noConfusion⟩

/-- A read that does not end in time leaves the buffer. -/
theorem not_inBounds_of_not_fits {s s' : UartState} {a : UartStep} (hlong : ¬ Fits s a)
    (h : uartStep s a = some s') : ¬ InBounds s' := by
  cases a with
  | read bytes expired =>
    obtain ⟨-, heffect⟩ := readStep_effect h
    have hlast : ∀ {cmdLen total}, s.stage = .body cmdLen total →
        ⟨.rbuf, czHeaderLen + total, bytes.length⟩ ∈ s'.writes → ¬ InBounds s' := by
      intro cmdLen total hstage hmem hbounds
      have hroom : czHeaderLen + total + bytes.length ≤ recvBufSize := hbounds _ hmem
      simp only [Fits, hstage] at hlong
      simp only [czHeaderLen, recvBufSize] at hlong hroom
      omega
    have hother : (∀ cmdLen total, s.stage ≠ .body cmdLen total) → ¬ InBounds s' := by
      intro hstage
      refine absurd ?_ hlong
      simp only [Fits]
    cases heffect with
    | headerDone hstage | headerPart hstage | headerExpired hstage =>
      exact hother fun _ _ hbody => Stage.noConfusion (hstage.symm.trans hbody)
    | bodyDone hstage | bodyPart hstage | bodyExpired hstage =>
      exact hlast hstage (List.mem_append_right _ List.mem_cons_self)
  | worker _ _ | notified _ | readable | ended | deliver => exact absurd trivial hlong

theorem bounded_start (rbuf : Memory) : Bounded (UartState.start rbuf) :=
  ⟨fun _ hw => absurd hw List.not_mem_nil, fun _ => Stage.noConfusion⟩

/-- Whatever arrives in whatever chunks, the writes stay inside both buffers exactly
while no read goes on behind a header that declares too much. -/
theorem writes_bounded_iff (rbuf : Memory) (steps : List UartStep) (t : UartState)
    (hrun : run uartStep (UartState.start rbuf) steps = some t) :
    Guarded uartStep Fits (UartState.start rbuf) steps ↔
      Throughout uartStep InBounds (UartState.start rbuf) steps :=
  guarded_iff_throughout (fun _ hs => hs.writes) uartStep_bounded
    (fun _ _ _ _ hlong h => not_inBounds_of_not_fits hlong h) steps _ t (bounded_start rbuf) hrun

/-- A header with the magic and the declared length `lo + 256 * hi`. -/
def headerBytes (lo hi : UInt8) : List UInt8 := [0xAA, 0x55, lo, hi, 0, 0, 1, 0, 10, 0, 0, 0]

/-- A frame of 16 bytes in three chunks. -/
def shortFrameSteps : List UartStep :=
  [.readable, .read ((headerBytes 16 0).take 5) false, .read ((headerBytes 16 0).drop 5) false,
    .read [0x41, 0x91, 4, 0] false]

theorem writes_bounded_iff_shortFrame :
    ∃ t, run uartStep (UartState.start zeros) shortFrameSteps = some t ∧
      t.calls = [headerBytes 16 0 ++ [0x41, 0x91, 4, 0]] ∧
      (Guarded uartStep Fits (UartState.start zeros) shortFrameSteps ↔
        Throughout uartStep InBounds (UartState.start zeros) shortFrameSteps) := by
  have hcalls : (run uartStep (UartState.start zeros) shortFrameSteps).map UartState.calls =
      some [headerBytes 16 0 ++ [0x41, 0x91, 4, 0]] := by decide +kernel
  obtain ⟨t, hrun, ht⟩ := Option.map_eq_some_iff.mp hcalls
  exact ⟨t, hrun, ht, writes_bounded_iff zeros shortFrameSteps t hrun⟩

/-- A header that declares 300 bytes and 245 of them in one chunk. -/
def longFrameSteps : List UartStep :=
  [.readable, .read (headerBytes 44 1) false, .read (List.replicate 245 0) false]

/-- The last of them is written behind `rbuf`. -/
theorem longFrame_overruns :
    ∃ t, run uartStep (UartState.start zeros) longFrameSteps = some t ∧ ¬ InBounds t := by
  have hwrites : (run uartStep (UartState.start zeros) longFrameSteps).map UartState.writes =
      some [⟨.rbuf, 0, 12⟩, ⟨.rbuf, 12, 245⟩] := by decide +kernel
  obtain ⟨t, hrun, ht⟩ := Option.map_eq_some_iff.mp hwrites
  refine ⟨t, hrun, ?_⟩
  intro hbounds
  have hlast := hbounds ⟨.rbuf, 12, 245⟩ (by rw [ht]; decide)
  exact absurd hlast (by decide)

end HomeSecurityBox.UartMonitor
