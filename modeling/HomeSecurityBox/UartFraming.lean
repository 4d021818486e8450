import HomeSecurityBox.UartMonitor

/-!
A stream of whole blocks at the serial port. However the port cuts it into chunks, as
long as no read is given up, the monitor thread hands over the frames of the stream,
each once and in order, and stays aligned behind the blocks that it skips.
-/

namespace HomeSecurityBox.UartFraming

open ByteMemory Zigbee ZigbeeLink UartMonitor Transitions

/-- The two fields of a header that the thread looks at. -/
def magicOf (bytes : List UInt8) : UInt16 := get16 (load bytes zeros) 0

def lengthOf (bytes : List UInt8) : ℕ := (get16 (load bytes zeros) 2).toNat

/-- A frame that fits the buffer. -/
structure FrameBlock where
  bytes : List UInt8
  magic : magicOf bytes = czHeaderMagic
  size : lengthOf bytes = bytes.length
  long : czHeaderLen < bytes.length
  fits : bytes.length ≤ recvBufSize

/-- A header that declares nothing behind it. -/
structure HeaderBlock where
  bytes : List UInt8
  magic : magicOf bytes = czHeaderMagic
  size : lengthOf bytes ≤ czHeaderLen
  exact : bytes.length = czHeaderLen

/-- Twelve bytes of something else. -/
structure NoiseBlock where
  bytes : List UInt8
  noMagic : magicOf bytes ≠ czHeaderMagic
  exact : bytes.length = czHeaderLen

inductive Block
  | frame (block : FrameBlock)
  | header (block : HeaderBlock)
  | noise (block : NoiseBlock)

def Block.bytes : Block → List UInt8
  | .frame block => block.bytes
  | .header block => block.bytes
  | .noise block => block.bytes

/-- What `deal_recv_buf` should get of a block. -/
def Block.frames : Block → List (List UInt8)
  | .frame block => [block.bytes]
  | _ => []

def stream (blocks : List Block) : List UInt8 := blocks.flatMap Block.bytes

/-- The frames among the blocks that end within the first `n` bytes of the stream. -/
def completed : List Block → ℕ → List (List UInt8)
  | [], _ => []
  | block :: rest, n =>
      if block.bytes.length ≤ n then
        block.frames ++ completed rest (n - block.bytes.length)
      else []

/-- With this chunk the part is complete. -/
def Completes (bytes : List UInt8) : Stage → Prop
  | .header total => total + bytes.length = czHeaderLen
  | .body cmdLen total => czHeaderLen + total + bytes.length = cmdLen
  | _ => True

instance (bytes : List UInt8) : (stage : Stage) → Decidable (Completes bytes stage)
  | .header total => inferInstanceAs (Decidable (total + bytes.length = czHeaderLen))
  | .body cmdLen total =>
      inferInstanceAs (Decidable (czHeaderLen + total + bytes.length = cmdLen))
  | .idle | .matched _ => inferInstanceAs (Decidable True)

/-- The port delivers the stream, and no read times out, fails or is interrupted before
it is complete. -/
def Delivers (blocks : List Block) (s : UartState) : UartStep → Prop
  | .read bytes expired =>
      s.received ++ bytes <+: stream blocks ∧ (expired = true → Completes bytes s.stage)
  | .ended => False
  | _ => True

instance (blocks : List Block) (s : UartState) : (a : UartStep) → Decidable (Delivers blocks s a)
  | .read bytes expired => inferInstanceAs (Decidable
      (s.received ++ bytes <+: stream blocks ∧ (expired = true → Completes bytes s.stage)))
  | .ended => inferInstanceAs (Decidable False)
  | .worker .. | .notified _ | .readable | .deliver => inferInstanceAs (Decidable True)

/-- Where the thread stands in front of the blocks `rest`, the first bytes `part` of
which it has read. -/
def StandsAt (s : UartState) (part : List UInt8) (rest : List Block) : Prop :=
  match s.stage with
  | .idle | .matched _ => part = []
  | .header total => part.length = total ∧ total < czHeaderLen ∧ take s.rbuf total = part
  | .body cmdLen total =>
      part.length = czHeaderLen + total ∧ czHeaderLen + total < cmdLen ∧
        take s.rbuf (czHeaderLen + total) = part ∧
        ∃ block later, rest = .frame block :: later ∧ block.bytes.length = cmdLen

/-- The blocks behind the thread are done, and their frames handed over. -/
def Aligned (blocks : List Block) (s : UartState) : Prop :=
  ∃ (done rest : List Block) (part : List UInt8), blocks = done ++ rest ∧
    s.received = stream done ++ part ∧ part <+: stream rest ∧
    s.calls = done.flatMap Block.frames ∧ StandsAt s part rest

theorem Block.length_ge (block : Block) : czHeaderLen ≤ block.bytes.length := by
  cases block with
  | frame block => exact Nat.le_of_lt block.long
  | header block => exact Nat.le_of_eq block.exact.symm
  | noise block => exact Nat.le_of_eq block.exact.symm

theorem stream_append (done rest : List Block) :
    stream (done ++ rest) = stream done ++ stream rest :=
  List.flatMap_append

theorem stream_cons (block : Block) (rest : List Block) :
    stream (block :: rest) = block.bytes ++ stream rest := List.flatMap_cons

/-- A part of the stream that is not empty is cut off its first block. -/
theorem exists_head_block {part : List UInt8} {rest : List Block} (hpart : part ≠ [])
    (hstarts : part <+: stream rest) :
    ∃ block later, rest = block :: later ∧ part <+: block.bytes ++ stream later := by
  cases rest with
  | nil => exact absurd (List.prefix_nil.mp hstarts) hpart
  | cons block later => exact ⟨block, later, rfl, by rwa [stream_cons] at hstarts⟩

/-- A part as long as the block is the block. -/
theorem eq_of_prefix_of_length {part bytes later : List UInt8}
    (hstarts : part <+: bytes ++ later) (hlength : part.length = bytes.length) : part = bytes := by
  have htake := List.prefix_iff_eq_take.mp hstarts
  rw [hlength, List.take_left] at htake
  exact htake

/-- The header of the first block is in the buffer when twelve bytes are. -/
theorem header_agree {rbuf : Memory} {part later : List UInt8} {block : Block}
    (hpart : take rbuf czHeaderLen = part) (hstarts : part <+: block.bytes ++ later) :
    AgreeBelow czHeaderLen rbuf (load block.bytes zeros) := by
  have hlength : part.length = czHeaderLen := by rw [← hpart, take_length]
  have hlong := block.length_ge
  intro i hi
  rw [agree_load_of_take hpart zeros i hi, load_lt part zeros i (by omega),
    load_lt block.bytes zeros i (by omega), hstarts.getElem (by omega),
    List.getElem_append_left (by omega)]

theorem afterHeader_congr {rbuf rbuf' : Memory} (h : AgreeBelow czHeaderLen rbuf rbuf') :
    afterHeader rbuf = afterHeader rbuf' := by
  simp only [afterHeader, h.get16 (show 0 + 2 ≤ czHeaderLen by decide),
    h.get16 (show 2 + 2 ≤ czHeaderLen by decide)]

theorem afterHeader_of_long {rbuf : Memory} {cmdLen : ℕ} (hmagic : get16 rbuf 0 = czHeaderMagic)
    (hsize : (get16 rbuf 2).toNat = cmdLen) (hlong : czHeaderLen < cmdLen) :
    afterHeader rbuf = .body cmdLen 0 := by
  simp only [afterHeader, hmagic, hsize, ne_eq, not_true_eq_false, if_false,
    if_neg (Nat.not_le.mpr hlong)]

theorem afterHeader_of_short {rbuf : Memory} (hsize : (get16 rbuf 2).toNat ≤ czHeaderLen) :
    afterHeader rbuf = .idle := by
  simp only [afterHeader, if_pos hsize, ite_self]

theorem afterHeader_of_no_magic {rbuf : Memory} (hmagic : get16 rbuf 0 ≠ czHeaderMagic) :
    afterHeader rbuf = .idle := if_pos hmagic

/-- What the thread does behind the header of a block. -/
theorem afterHeader_block (block : Block) :
    afterHeader (load block.bytes zeros) =
      match block with
      | .frame block => .body block.bytes.length 0
      | _ => .idle := by
  cases block with
  | frame block => exact afterHeader_of_long block.magic block.size block.long
  | header block => exact afterHeader_of_short block.size
  | noise block => exact afterHeader_of_no_magic block.noMagic

/-- What a complete header leads to. -/
theorem headerDone_standsAt {s : UartState} {part : List UInt8} {block : Block}
    {later : List Block} (hstage : s.stage = afterHeader s.rbuf)
    (hpart : take s.rbuf czHeaderLen = part) (hstarts : part <+: block.bytes ++ stream later) :
    (∃ f, block = .frame f ∧ StandsAt s part (block :: later)) ∨
      block.bytes = part ∧ block.frames = [] ∧ StandsAt s [] later := by
  have hlength : part.length = czHeaderLen := by rw [← hpart, take_length]
  rw [afterHeader_congr (header_agree hpart hstarts), afterHeader_block] at hstage
  cases block with
  | frame f =>
    refine Or.inl ⟨f, rfl, ?_⟩
    simp only [StandsAt, hstage]
    exact ⟨hlength, f.long, hpart, f, later, rfl, rfl⟩
  | header h =>
    refine Or.inr ⟨(eq_of_prefix_of_length hstarts (hlength.trans h.exact.symm)).symm, rfl, ?_⟩
    simp only [StandsAt, hstage]
  | noise n =>
    refine Or.inr ⟨(eq_of_prefix_of_length hstarts (hlength.trans n.exact.symm)).symm, rfl, ?_⟩
    simp only [StandsAt, hstage]

/-- What the last bytes of a body complete. -/
theorem bodyDone_frame {s : UartState} {part bytes : List UInt8} {block : Block}
    {later : List Block} {cmdLen total : ℕ} (hstage : s.stage = .body cmdLen total)
    (hlen : czHeaderLen + total + bytes.length = cmdLen)
    (hstands : StandsAt s part (block :: later))
    (hhead : part ++ bytes <+: block.bytes ++ stream later) :
    ∃ f, block = .frame f ∧ part ++ bytes = f.bytes ∧
      take (store bytes (czHeaderLen + total) s.rbuf) cmdLen = f.bytes := by
  simp only [StandsAt, hstage] at hstands
  obtain ⟨hlength, -, htake, f, later', hrest, hf⟩ := hstands
  obtain ⟨rfl, rfl⟩ := List.cons.inj hrest
  have hwhole : part ++ bytes = f.bytes := by
    apply eq_of_prefix_of_length hhead
    rw [List.length_append, hlength, hlen]
    exact hf.symm
  refine ⟨f, rfl, hwhole, ?_⟩
  rw [← hlen, take_store, htake, hwhole]

theorem callDeal_standsAt (s : UartState) (len : ℕ) (later : List Block) :
    StandsAt (callDeal s len) [] later := by
  rcases callDeal_stage s len with hcall | hcall
  · simp only [StandsAt, hcall]
  · simp only [StandsAt, hcall]

/-- A block is done. -/
theorem aligned_next {done later : List Block} {block : Block} {s : UartState}
    (hreceived : s.received = stream done ++ block.bytes)
    (hcalls : s.calls = done.flatMap Block.frames ++ block.frames)
    (hstands : StandsAt s [] later) : Aligned (done ++ block :: later) s := by
  refine ⟨done ++ [block], later, [], by simp, ?_, List.nil_prefix, ?_, hstands⟩
  · rw [hreceived, stream_append]
    simp [stream]
  · rw [hcalls, List.flatMap_append]
    simp

theorem read_aligned {blocks : List Block} {s s' : UartState} {bytes : List UInt8}
    {expired : Bool} (hsome : bytes ≠ []) (heffect : ReadEffect s bytes expired s')
    (hdelivers : Delivers blocks s (.read bytes expired)) (hs : Aligned blocks s) :
    Aligned blocks s' := by
  obtain ⟨done, rest, part, rfl, hreceived, -, hcalls, hstands⟩ := hs
  obtain ⟨hstarts, htime⟩ := hdelivers
  -- the new part is cut off the first of the blocks that are left
  have hpart : part ++ bytes <+: stream rest := by
    rw [hreceived, stream_append, List.append_assoc, List.prefix_append_right_inj] at hstarts
    exact hstarts
  have hnonempty : part ++ bytes ≠ [] := fun hnil => hsome (List.append_eq_nil_iff.mp hnil).2
  obtain ⟨block, later, rfl, hhead⟩ := exists_head_block hnonempty hpart
  have hnow : s.received ++ bytes = stream done ++ (part ++ bytes) := by
    rw [hreceived, List.append_assoc]
  cases heffect with
  | @headerDone total hstage hlen =>
    simp only [StandsAt, hstage] at hstands
    obtain ⟨hlength, -, htake⟩ := hstands
    have hread : take (store bytes total s.rbuf) czHeaderLen = part ++ bytes := by
      rw [← hlen, take_store, htake]
    rcases headerDone_standsAt (s := { afterRead s total bytes with
        stage := afterHeader (store bytes total s.rbuf) }) rfl hread hhead with
      ⟨f, rfl, hnext⟩ | ⟨hblock, hframes, hnext⟩
    · exact ⟨done, _, _, rfl, hnow, hpart, hcalls, hnext⟩
    · refine aligned_next ?_ ?_ hnext
      · rw [hblock]
        exact hnow
      · rw [hframes, List.append_nil]
        exact hcalls
  | @headerPart total hstage hlen hlate =>
    simp only [StandsAt, hstage] at hstands
    obtain ⟨hlength, -, htake⟩ := hstands
    refine ⟨done, _, part ++ bytes, rfl, hnow, hpart, hcalls, ?_⟩
    refine ⟨by rw [List.length_append, hlength], hlen, ?_⟩
    exact (take_store bytes total s.rbuf).trans (by rw [htake])
  | headerExpired hstage hlen hlate =>
    have hwhole := htime hlate
    simp only [Completes, hstage] at hwhole
    omega
  | @bodyDone cmdLen total hstage hlen =>
    obtain ⟨f, rfl, hwhole, hread⟩ := bodyDone_frame hstage hlen hstands hhead
    refine aligned_next ?_ ?_ (callDeal_standsAt _ _ later)
    · exact hnow.trans (congrArg (stream done ++ ·) hwhole)
    · show s.calls ++ [take _ cmdLen] = _
      rw [hcalls]
      exact congrArg (done.flatMap Block.frames ++ [·]) hread
  | @bodyPart cmdLen total hstage hlen hlate =>
    simp only [StandsAt, hstage] at hstands
    obtain ⟨hlength, -, htake, hfirst⟩ := hstands
    refine ⟨done, _, part ++ bytes, rfl, hnow, hpart, hcalls, ?_⟩
    refine ⟨by rw [List.length_append, hlength, Nat.add_assoc], by omega, ?_, hfirst⟩
    rw [← Nat.add_assoc]
    exact (take_store bytes (czHeaderLen + total) s.rbuf).trans (by rw [htake])
  | bodyExpired hstage hlen hlate =>
    have hwhole := htime hlate
    simp only [Completes, hstage] at hwhole
    omega

theorem uartStep_aligned (blocks : List Block) :
    Preserves uartStep (Delivers blocks) (Aligned blocks) := by
  intro s a s' hs hdelivers h
  have hkept : ∀ {s' : UartState}, s'.received = s.received → s'.calls = s.calls →
      (∀ part rest, StandsAt s part rest → StandsAt s' part rest) → Aligned blocks s' := by
    intro s' hreceived hcalls hstands
    obtain ⟨done, rest, part, hblocks, hr, hpart, hc, hst⟩ := hs
    exact ⟨done, rest, part, hblocks, hreceived.trans hr, hpart, hcalls.trans hc,
      hstands _ _ hst⟩
  cases uartStep_effect h with
  | worker transId isWaiting => exact hkept rfl rfl fun _ _ hst => hst
  | notified hidle hroom =>
    refine hkept rfl rfl fun part rest hst => ?_
    simp only [StandsAt, hidle] at hst ⊢
    exact hst
  | readable hidle =>
    refine hkept rfl rfl fun part rest hst => ?_
    simp only [StandsAt, hidle] at hst ⊢
    subst hst
    exact ⟨rfl, by decide, rfl⟩
  | read hsome heffect => exact read_aligned hsome heffect hdelivers hs
  | ended hreading => exact absurd hdelivers not_false
  | delivered hmatched hwaiting =>
    refine hkept rfl rfl fun part rest hst => ?_
    simp only [StandsAt, hmatched] at hst ⊢
    exact hst
  | dropped hmatched hwaiting =>
    refine hkept rfl rfl fun part rest hst => ?_
    simp only [StandsAt, hmatched] at hst ⊢
    exact hst

theorem aligned_start (blocks : List Block) (rbuf : Memory) :
    Aligned blocks (UartState.start rbuf) :=
  ⟨[], blocks, [], rfl, rfl, List.nil_prefix, rfl, rfl⟩

theorem completed_append (done rest : List Block) (n : ℕ) :
    completed (done ++ rest) ((stream done).length + n) =
      done.flatMap Block.frames ++ completed rest n := by
  induction done with
  | nil => simp [stream]
  | cons block done ih =>
    have hfits : block.bytes.length ≤ (stream (block :: done)).length + n := by
      rw [stream_cons, List.length_append]
      omega
    have hrest : (stream (block :: done)).length + n - block.bytes.length =
        (stream done).length + n := by
      rw [stream_cons, List.length_append]
      omega
    rw [List.cons_append, completed, if_pos hfits, hrest, ih, List.flatMap_cons,
      List.append_assoc]

/-- The thread has read less than the next block. -/
theorem StandsAt.short {s : UartState} {part : List UInt8} {block : Block}
    {later : List Block} (h : StandsAt s part (block :: later)) :
    part.length < block.bytes.length := by
  have hlong := block.length_ge
  unfold StandsAt at h
  simp only [czHeaderLen] at h hlong
  split at h
  · subst h
    simp only [List.length_nil]
    omega
  · subst h
    simp only [List.length_nil]
    omega
  · omega
  · obtain ⟨hlength, hless, -, f, later', hrest, hf⟩ := h
    obtain ⟨rfl, rfl⟩ := List.cons.inj hrest
    show part.length < f.bytes.length
    omega

theorem Aligned.calls_eq {blocks : List Block} {s : UartState} (h : Aligned blocks s) :
    s.calls = completed blocks s.received.length := by
  obtain ⟨done, rest, part, rfl, hreceived, -, hcalls, hstands⟩ := h
  have hnone : completed rest part.length = [] := by
    cases rest with
    | nil => rfl
    | cons block later => exact if_neg (Nat.not_le.mpr hstands.short)
  rw [hreceived, List.length_append, completed_append, hnone, List.append_nil, hcalls]

theorem completed_stream (blocks : List Block) :
    completed blocks (stream blocks).length = blocks.flatMap Block.frames := by
  have hall := completed_append blocks [] 0
  simpa [completed] using hall

theorem exists_next {xs ys : List UInt8} (hstarts : xs <+: ys) (hne : xs ≠ ys) :
    ∃ byte, xs ++ [byte] <+: ys := by
  obtain ⟨rest, rfl⟩ := hstarts
  cases rest with
  | nil => exact absurd (List.append_nil xs).symm hne
  | cons byte rest => exact ⟨byte, rest, by simp⟩

/-- In the middle of a part the next byte can be read. -/
theorem readStep_one {s : UartState} {part : List UInt8} {rest : List Block} (byte : UInt8)
    (hstands : StandsAt s part rest) (hidle : s.stage ≠ .idle)
    (hmatched : ∀ len, s.stage ≠ .matched len) :
    ∃ t, readStep s [byte] false = some t ∧ t.received = s.received ++ [byte] := by
  have hsome : ∃ t, readStep s [byte] false = some t := by
    unfold StandsAt at hstands
    unfold readStep
    cases hstage : s.stage with
    | idle => exact absurd hstage hidle
    | matched len => exact absurd hstage (hmatched len)
    | header total =>
      simp only [hstage] at hstands
      have hchunk := readChunk_of_fits s 0 (List.cons_ne_nil byte [])
        (show total + [byte].length ≤ czHeaderLen by rw [List.length_singleton]; omega)
      simp only [hchunk, Option.map_some]
      exact ⟨_, rfl⟩
    | body cmdLen total =>
      simp only [hstage] at hstands
      have hchunk := readChunk_of_fits s czHeaderLen (List.cons_ne_nil byte [])
        (show total + [byte].length ≤ cmdLen - czHeaderLen by rw [List.length_singleton]; omega)
      simp only [hchunk, Option.map_some]
      exact ⟨_, rfl⟩
  obtain ⟨t, ht⟩ := hsome
  exact ⟨t, ht, (readStep_effect ht).2.received⟩

/-- Some steps further the thread has read one byte more. -/
def Proceeds (blocks : List Block) (s : UartState) : Prop :=
  ∃ more t, Guarded uartStep (Delivers blocks) s more ∧ run uartStep s more = some t ∧
    t.received.length = s.received.length + 1

theorem proceeds_of_step {blocks : List Block} {s s' : UartState} {a : UartStep}
    (h : uartStep s a = some s') (hdelivers : Delivers blocks s a)
    (hreceived : s'.received = s.received) (hs' : Proceeds blocks s') : Proceeds blocks s := by
  obtain ⟨more, t, hguard, hrun, hlength⟩ := hs'
  refine ⟨a :: more, t, ⟨hdelivers, ?_⟩, ?_, hreceived ▸ hlength⟩
  · intro s'' hs''
    rw [← Option.some.inj (h.symm.trans hs'')]
    exact hguard
  · rw [run, h]
    exact hrun

theorem Aligned.proceeds {blocks : List Block} {s : UartState} (h : Aligned blocks s)
    (hleft : s.received ≠ stream blocks) : Proceeds blocks s := by
  have hread : ∀ {s : UartState}, Aligned blocks s → s.received ≠ stream blocks →
      s.stage ≠ .idle → (∀ len, s.stage ≠ .matched len) → Proceeds blocks s := by
    intro s hs hleft hidle hmatched
    obtain ⟨done, rest, part, rfl, hreceived, hpart, -, hstands⟩ := hs
    have hstarts : s.received <+: stream (done ++ rest) := by
      rw [hreceived, stream_append, List.prefix_append_right_inj]
      exact hpart
    obtain ⟨byte, hnext⟩ := exists_next hstarts hleft
    obtain ⟨t, ht, htreceived⟩ := readStep_one byte hstands hidle hmatched
    refine ⟨[.read [byte] false], t, ⟨⟨hnext, Bool.noConfusion⟩, fun _ _ => trivial⟩, ?_, ?_⟩
    · simp only [run, uartStep, ht, Option.bind_some]
    · rw [htreceived, List.length_append, List.length_singleton]
  have hidle : ∀ {s : UartState}, Aligned blocks s → s.received ≠ stream blocks →
      s.stage = .idle → Proceeds blocks s := by
    intro s hs hleft hstage
    have hstep : uartStep s .readable = some { s with stage := .header 0 } := by
      simp only [uartStep, hstage]
    refine proceeds_of_step hstep trivial rfl (hread ?_ hleft Stage.noConfusion
      fun _ => Stage.noConfusion)
    exact uartStep_aligned blocks s .readable _ hs trivial hstep
  cases hstage : s.stage with
  | idle => exact hidle h hleft hstage
  | header total =>
    exact hread h hleft (by rw [hstage]; exact Stage.noConfusion)
      (by rw [hstage]; exact fun _ => Stage.noConfusion)
  | body cmdLen total =>
    exact hread h hleft (by rw [hstage]; exact Stage.noConfusion)
      (by rw [hstage]; exact fun _ => Stage.noConfusion)
  | matched len =>
    have hstep : ∃ s', uartStep s .deliver = some s' ∧ s'.stage = .idle ∧
        s'.received = s.received := by
      simp only [uartStep, hstage]
      split
      · exact ⟨_, rfl, rfl, rfl⟩
      · exact ⟨_, rfl, rfl, rfl⟩
    obtain ⟨s', hs', hdone, hreceived⟩ := hstep
    refine proceeds_of_step hs' trivial hreceived (hidle ?_ (hreceived ▸ hleft) hdone)
    exact uartStep_aligned blocks s .deliver s' h trivial hs'

/-- However the stream is cut into chunks, the calls at any time are the frames that have
arrived as a whole, in order and each once; the thread can always read on, and at the
end of the stream all frames have been handed over and nothing else. -/
theorem frames_handed_over (blocks : List Block) (rbuf : Memory) (steps : List UartStep)
    (t : UartState)
    (hdelivers : Guarded uartStep (Delivers blocks) (UartState.start rbuf) steps)
    (hrun : run uartStep (UartState.start rbuf) steps = some t) :
    t.calls = completed blocks t.received.length ∧
      (t.received ≠ stream blocks → Proceeds blocks t) ∧
      (t.received = stream blocks → t.calls = blocks.flatMap Block.frames) := by
  have haligned := run_invariant_guarded (uartStep_aligned blocks) steps _ t
    (aligned_start blocks rbuf) hdelivers hrun
  refine ⟨haligned.calls_eq, haligned.proceeds, ?_⟩
  intro hall
  rw [haligned.calls_eq, hall, completed_stream]

/-- Noise, a keep alive and an empty header. -/
def mixedBlocks : List Block :=
  [.noise ⟨List.replicate 12 7, by decide, rfl⟩,
    .frame ⟨headerBytes 16 0 ++ [0x41, 0x91, 4, 0], by decide, by decide, by decide, by decide⟩,
    .header ⟨headerBytes 12 0, by decide, by decide, rfl⟩]

/-- The chunks end inside the blocks, and the last one when the time is just over. -/
def mixedSteps : List UartStep :=
  [.readable, .read (List.replicate 5 7) false, .read (List.replicate 7 7) false,
    .notified [1], .readable, .read (headerBytes 16 0) false, .read [0x41] false,
    .worker 3 true, .read [0x91, 4, 0] true, .readable, .read (headerBytes 12 0) true]

theorem frames_handed_over_mixed :
    ∃ t, run uartStep (UartState.start zeros) mixedSteps = some t ∧
      t.calls = [headerBytes 16 0 ++ [0x41, 0x91, 4, 0]] ∧
      t.calls = mixedBlocks.flatMap Block.frames := by
  have hcalls : (run uartStep (UartState.start zeros) mixedSteps).map
      (fun t => (t.calls, t.received)) =
        some ([headerBytes 16 0 ++ [0x41, 0x91, 4, 0]], stream mixedBlocks) := by decide +kernel
  have hguard : Guarded uartStep (Delivers mixedBlocks) (UartState.start zeros) mixedSteps := by
    decide +kernel
  obtain ⟨t, hrun, ht⟩ := Option.map_eq_some_iff.mp hcalls
  obtain ⟨hnow, hall⟩ := Prod.mk.inj ht
  exact ⟨t, hrun, hnow, (frames_handed_over mixedBlocks zeros mixedSteps t hguard hrun).2.2 hall⟩

/-- A frame in front of any stale bytes is one that the link's step accepts. -/
theorem recvFrame_of_block (s : LinkState) (f : FrameBlock) (stale : Memory)
    (hidle : s.monitor = .idle) : (recvFrame s (load f.bytes stale) f.bytes.length).isSome := by
  have hagree := load_agree f.bytes stale zeros
  have hlong : 12 < f.bytes.length := f.long
  have hmagic : get16 (load f.bytes stale) 0 = czHeaderMagic := by
    rw [hagree.get16 (by omega)]
    exact f.magic
  have hsize : (get16 (load f.bytes stale) 2).toNat = f.bytes.length := by
    rw [hagree.get16 (by omega)]
    exact f.size
  simp only [recvFrame, hidle, hmagic, hsize, f.fits, and_self, if_true, dif_pos f.long]
  split
  · rfl
  · rfl

end HomeSecurityBox.UartFraming
