import HomeSecurityBox.Base.ByteMemory

/-!
Reading a line byte by byte. The argument of the model is what the calls of `read` come back
with, in their order; the call itself has no result while it waits for one more.
-/

namespace HomeSecurityBox.Readline

open ByteMemory

inductive ReadOutcome
  | byte (c : UInt8)
  | eof
  | interrupted
  | failed
  deriving DecidableEq, Repr

def newline : UInt8 := 10

/-- The result, the memory at `vptr` and how far `ptr` has moved. -/
structure Returned where
  ret : ℤ
  buf : Memory
  stored : ℕ

def terminate (n ptr : ℕ) (buf : Memory) : Returned where
  ret := n
  buf := set8 buf ptr 0
  stored := ptr

/-- The loop at `n`. A retry does not change what the head of the loop compares. -/
def readLoop (maxlen n ptr : ℕ) (buf : Memory) (reads : List ReadOutcome) : Option Returned :=
  if n < maxlen then
    match reads with
    | [] => none
    | .byte c :: rest =>
        if c = newline then some (terminate n (ptr + 1) (set8 buf ptr c))
        else readLoop maxlen (n + 1) (ptr + 1) (set8 buf ptr c) rest
    | .eof :: _ =>
        if n = 1 then some { ret := 0, buf := buf, stored := ptr }
        else some (terminate n ptr buf)
    | .interrupted :: rest => readLoop maxlen n ptr buf rest
    | .failed :: _ => some { ret := -1, buf := buf, stored := ptr }
  else some (terminate n ptr buf)

def readline1 (reads : List ReadOutcome) (buf : Memory) (maxlen : ℕ) : Option Returned :=
  readLoop maxlen 1 0 buf reads

/-- The bytes of the stream, up to its end or an error. -/
def stream : List ReadOutcome → List UInt8
  | .byte c :: rest => c :: stream rest
  | .interrupted :: rest => stream rest
  | _ => []

/-- What comes behind the bytes. -/
def ending : List ReadOutcome → Option ReadOutcome
  | .byte _ :: rest => ending rest
  | .interrupted :: rest => ending rest
  | reads => reads.head?

theorem ending_cases {reads : List ReadOutcome} (h : ending reads ≠ none) :
    ending reads = some .eof ∨ ending reads = some .failed := by
  induction reads with
  | nil => contradiction
  | cons outcome rest ih =>
    cases outcome with
    | byte | interrupted => exact ih h
    | eof => exact Or.inl rfl
    | failed => exact Or.inr rfl

/-- Up to and including the first newline, and at most `limit` bytes. -/
def nextLine (limit : ℕ) (bytes : List UInt8) : List UInt8 :=
  (bytes.take (bytes.idxOf newline + 1)).take limit

inductive Exit
  | newline
  | full
  | eof
  | failed
  deriving DecidableEq, Repr

/-- Where the loop leaves when there is room for `limit` bytes. -/
def LeavesAt (limit : ℕ) (reads : List ReadOutcome) : Exit → Prop
  | .newline => newline ∈ (stream reads).take limit
  | .full => newline ∉ (stream reads).take limit ∧ limit ≤ (stream reads).length
  | .eof => newline ∉ (stream reads).take limit ∧ (stream reads).length < limit ∧
      ending reads = some .eof
  | .failed => newline ∉ (stream reads).take limit ∧ (stream reads).length < limit ∧
      ending reads = some .failed

/-- What each exit returns behind a line. -/
def returned (ptr : ℕ) (line : List UInt8) (buf : Memory) : Exit → Returned
  | .newline => terminate (ptr + line.length) (ptr + line.length) (store line ptr buf)
  | .full => terminate (ptr + line.length + 1) (ptr + line.length) (store line ptr buf)
  | .eof =>
      if ptr + line.length = 0 then { ret := 0, buf := buf, stored := 0 }
      else terminate (ptr + line.length + 1) (ptr + line.length) (store line ptr buf)
  | .failed => { ret := -1, buf := store line ptr buf, stored := ptr + line.length }

theorem nextLine_zero (bytes : List UInt8) : nextLine 0 bytes = [] := rfl

theorem nextLine_newline (limit : ℕ) (bytes : List UInt8) :
    nextLine (limit + 1) (newline :: bytes) = [newline] := by
  simp [nextLine]

theorem nextLine_byte (limit : ℕ) {c : UInt8} (hc : c ≠ newline) (bytes : List UInt8) :
    nextLine (limit + 1) (c :: bytes) = c :: nextLine limit bytes := by
  rw [nextLine, List.idxOf_cons_ne bytes hc, List.take_succ_cons, List.take_succ_cons,
    nextLine]

theorem nextLine_length_le (limit : ℕ) (bytes : List UInt8) :
    (nextLine limit bytes).length ≤ limit := by
  rw [nextLine]
  exact List.length_take_le _ _

theorem leavesAt_byte (limit : ℕ) {c : UInt8} (hc : c ≠ newline) (rest : List ReadOutcome)
    (e : Exit) : LeavesAt (limit + 1) (.byte c :: rest) e ↔ LeavesAt limit rest e := by
  have hmem : newline ∈ (stream (.byte c :: rest)).take (limit + 1) ↔
      newline ∈ (stream rest).take limit := by
    rw [stream, List.take_succ_cons, List.mem_cons]
    exact or_iff_right hc.symm
  have hlen : (stream (.byte c :: rest)).length = (stream rest).length + 1 := rfl
  cases e with
  | newline => exact hmem
  | full => simp only [LeavesAt, hmem, hlen, Nat.add_le_add_iff_right]
  | eof => simp only [LeavesAt, hmem, hlen, Nat.add_lt_add_iff_right, ending]
  | failed => simp only [LeavesAt, hmem, hlen, Nat.add_lt_add_iff_right, ending]

theorem returned_byte (ptr : ℕ) (c : UInt8) (line : List UInt8) (buf : Memory) (e : Exit) :
    returned ptr (c :: line) buf e = returned (ptr + 1) line (set8 buf ptr c) e := by
  have hlen : ptr + (c :: line).length = ptr + 1 + line.length := by
    rw [List.length_cons]
    omega
  cases e with
  | newline | full | failed => simp only [returned, hlen, store_cons]
  | eof =>
    have hsome : ptr + 1 + line.length ≠ 0 := by omega
    simp only [returned, hlen, store_cons, if_neg hsome]

theorem leavesAt_zero (reads : List ReadOutcome) (e : Exit) :
    LeavesAt 0 reads e ↔ e = .full := by
  cases e <;> simp [LeavesAt]

theorem leavesAt_newline (limit : ℕ) (rest : List ReadOutcome) (e : Exit) :
    LeavesAt (limit + 1) (.byte newline :: rest) e ↔ e = .newline := by
  cases e <;> simp [LeavesAt, stream]

theorem leavesAt_eof (limit : ℕ) (rest : List ReadOutcome) (e : Exit) :
    LeavesAt (limit + 1) (.eof :: rest) e ↔ e = .eof := by
  cases e <;> simp [LeavesAt, stream, ending]

theorem leavesAt_failed (limit : ℕ) (rest : List ReadOutcome) (e : Exit) :
    LeavesAt (limit + 1) (.failed :: rest) e ↔ e = .failed := by
  cases e <;> simp [LeavesAt, stream, ending]

theorem leavesAt_interrupted (limit : ℕ) (rest : List ReadOutcome) (e : Exit) :
    LeavesAt limit (.interrupted :: rest) e ↔ LeavesAt limit rest e := by
  cases e <;> rfl

theorem not_leavesAt_nil (limit : ℕ) (e : Exit) : ¬ LeavesAt (limit + 1) [] e := by
  cases e <;> simp [LeavesAt, stream, ending]

/-- A full buffer ends the loop in front of the next read. -/
theorem readLoop_full (ptr : ℕ) (buf : Memory) (reads : List ReadOutcome) :
    readLoop (ptr + 1) (ptr + 1) ptr buf reads = some (returned ptr [] buf .full) := by
  have hfull : ¬ ptr + 1 < ptr + 1 := Nat.lt_irrefl _
  rw [readLoop.eq_def, if_neg hfull, returned, store_nil]
  rfl

theorem readLoop_full_iff {maxlen ptr : ℕ} {buf : Memory} {reads : List ReadOutcome}
    {r : Returned} (hmax : maxlen = ptr + 1 + 0) :
    readLoop maxlen (ptr + 1) ptr buf reads = some r ↔
      ∃ e, LeavesAt 0 reads e ∧ returned ptr (nextLine 0 (stream reads)) buf e = r := by
  subst hmax
  simp only [Nat.add_zero, readLoop_full, leavesAt_zero, exists_eq_left, nextLine_zero,
    Option.some.injEq]

/-- The loop at `ptr`, with room for `limit` more bytes, has a result exactly if it can
leave, and the exit and the next line decide the result. -/
theorem readLoop_eq_some_iff {maxlen ptr limit : ℕ} {buf : Memory} {reads : List ReadOutcome}
    {r : Returned} (hmax : maxlen = ptr + 1 + limit) :
    readLoop maxlen (ptr + 1) ptr buf reads = some r ↔
      ∃ e, LeavesAt limit reads e ∧
        returned ptr (nextLine limit (stream reads)) buf e = r := by
  induction reads generalizing ptr limit buf with
  | nil =>
    cases limit with
    | zero => exact readLoop_full_iff hmax
    | succ limit =>
      have hroom : ptr + 1 < maxlen := by omega
      simp only [readLoop, if_pos hroom, not_leavesAt_nil, false_and, exists_false, reduceCtorEq]
  | cons outcome rest ih =>
    cases limit with
    | zero => exact readLoop_full_iff hmax
    | succ limit =>
      have hroom : ptr + 1 < maxlen := by omega
      cases outcome with
      | byte c =>
        by_cases hc : c = newline
        · subst hc
          simp only [readLoop, if_pos hroom, if_true, leavesAt_newline, exists_eq_left, stream,
            nextLine_newline, returned, Option.some.injEq, List.length_singleton, store_cons,
            store_nil]
        · have hnext := @ih (ptr + 1) limit (set8 buf ptr c) (by omega)
          simp only [readLoop, if_pos hroom, if_neg hc, hnext, leavesAt_byte limit hc, stream,
            nextLine_byte limit hc, returned_byte]
      | eof =>
        have hfirst : ptr + 1 = 1 ↔ ptr = 0 := by omega
        simp only [readLoop, if_pos hroom, leavesAt_eof, exists_eq_left, stream, returned, hfirst,
          nextLine, List.take_nil, List.length_nil, Nat.add_zero, store_nil]
        split
        · rename_i hzero
          rw [hzero]
          exact Option.some_inj
        · exact Option.some_inj
      | interrupted =>
        have hnext := @ih ptr (limit + 1) buf hmax
        simp only [readLoop, if_pos hroom, hnext, leavesAt_interrupted, stream]
      | failed =>
        simp only [readLoop, if_pos hroom, leavesAt_failed, exists_eq_left, stream, returned,
          nextLine, List.take_nil, List.length_nil, Nat.add_zero, store_nil, Option.some.injEq]

/-- Behind a byte the end of the stream is returned like the end of the buffer. -/
theorem returned_eof {line : List UInt8} (hsome : line ≠ []) (buf : Memory) :
    returned 0 line buf .eof = returned 0 line buf .full := by
  have hlen : 0 + line.length ≠ 0 := by
    rw [Nat.zero_add]
    exact fun hzero => hsome (List.eq_nil_of_length_eq_zero hzero)
  exact if_neg hlen

theorem returned_stored (line : List UInt8) (buf : Memory) (e : Exit) :
    (returned 0 line buf e).stored = line.length := by
  cases e with
  | newline | full | failed => exact Nat.zero_add _
  | eof =>
    by_cases hempty : line = []
    · subst hempty
      rfl
    · rw [returned_eof hempty]
      exact Nat.zero_add _

/-- The line is in the buffer, and behind its NUL nothing has been written. -/
theorem returned_buf (line : List UInt8) (buf : Memory) (e : Exit) :
    take (returned 0 line buf e).buf line.length = line ∧
      ∀ i, line.length < i → (returned 0 line buf e).buf i = buf i := by
  have hline : take (load line buf) line.length = line := take_load line buf
  have hnul : take (set8 (load line buf) line.length 0) line.length = line := by
    have hagree := (AgreeBelow.refl line.length (load line buf)).set8_above (Nat.le_refl _) 0
    exact (hagree.take (Nat.le_refl _)).trans hline
  have hpast : ∀ i, line.length < i → load line buf i = buf i :=
    fun i hi => load_ge _ _ _ (Nat.le_of_lt hi)
  have hpast' : ∀ i, line.length < i → set8 (load line buf) line.length 0 i = buf i := by
    intro i hi
    rw [set8_other _ _ _ _ (Nat.ne_of_gt hi)]
    exact hpast i hi
  have hfull : take (returned 0 line buf .full).buf line.length = line ∧
      ∀ i, line.length < i → (returned 0 line buf .full).buf i = buf i := by
    simpa only [returned, terminate, store_zero, Nat.zero_add] using ⟨hnul, hpast'⟩
  cases e with
  | newline | full => exact hfull
  | failed => simpa only [returned, store_zero] using ⟨hline, hpast⟩
  | eof =>
    by_cases hempty : line = []
    · subst hempty
      exact ⟨rfl, fun _ _ => rfl⟩
    · rw [returned_eof hempty]
      exact hfull

theorem returned_terminated (line : List UInt8) (buf : Memory) (e : Exit)
    (hpos : 0 < (returned 0 line buf e).ret) :
    (returned 0 line buf e).buf (returned 0 line buf e).stored = 0 := by
  cases e with
  | newline | full => exact set8_same _ _ _
  | failed => contradiction
  | eof =>
    by_cases hempty : line = []
    · subst hempty
      contradiction
    · rw [returned_eof hempty]
      exact set8_same _ _ _

/-- A result counts the bytes of the next line, they are in the buffer in front of a NUL,
and nothing is written beyond `maxlen` bytes. -/
structure LineRead (maxlen : ℕ) (reads : List ReadOutcome) (buf : Memory) (r : Returned) :
    Prop where
  count : 0 ≤ r.ret → r.ret = r.stored
  bytes : 0 ≤ r.ret → take r.buf r.stored = nextLine (maxlen - 1) (stream reads)
  terminated : 0 < r.ret → r.buf r.stored = 0
  bounded : ∀ i, maxlen ≤ i → r.buf i = buf i

/-- There is a newline within reach, or in front of the end of the buffer a read fails or
the stream ends without a byte. -/
def Delimited (maxlen : ℕ) (reads : List ReadOutcome) : Prop :=
  newline ∈ (stream reads).take (maxlen - 1) ∨
    (stream reads).length < maxlen - 1 ∧
      (ending reads = some .failed ∨ stream reads = [] ∧ ending reads = some .eof)

/-- The count of an exit is right at a newline and at the end of an empty stream; an error
has none. -/
theorem returned_count_iff (line : List UInt8) (buf : Memory) (e : Exit) :
    (0 ≤ (returned 0 line buf e).ret → (returned 0 line buf e).ret = line.length) ↔
      e = .newline ∨ e = .failed ∨ e = .eof ∧ line = [] := by
  have hfull : ¬ (0 ≤ (returned 0 line buf .full).ret →
      (returned 0 line buf .full).ret = line.length) := by
    simp only [returned, terminate]
    omega
  cases e with
  | newline => simp [returned, terminate]
  | failed => simp [returned]
  | full => simpa only [reduceCtorEq, false_or, false_and, iff_false] using hfull
  | eof =>
    by_cases hempty : line = []
    · subst hempty
      simp [returned]
    · rw [returned_eof hempty]
      simpa only [reduceCtorEq, false_or, hempty, and_false, iff_false] using hfull

theorem nextLine_eq_nil_iff {limit : ℕ} {bytes : List UInt8} (h : bytes.length < limit) :
    nextLine limit bytes = [] ↔ bytes = [] := by
  have hpos : limit ≠ 0 := by omega
  simp only [nextLine, List.take_eq_nil_iff, hpos, Nat.succ_ne_zero, false_or]

theorem delimited_iff {maxlen : ℕ} {reads : List ReadOutcome} {e : Exit}
    (h : LeavesAt (maxlen - 1) reads e) :
    Delimited maxlen reads ↔
      e = .newline ∨ e = .failed ∨ e = .eof ∧ nextLine (maxlen - 1) (stream reads) = [] := by
  cases e with
  | newline => exact iff_of_true (Or.inl h) (Or.inl rfl)
  | full =>
    obtain ⟨hnone, hlen⟩ := h
    have hnot : ¬ (stream reads).length < maxlen - 1 := by omega
    simp [Delimited, hnone, hnot]
  | eof =>
    obtain ⟨hnone, hlen, hend⟩ := h
    rw [nextLine_eq_nil_iff hlen]
    simp [Delimited, hnone, hlen, hend]
  | failed =>
    obtain ⟨hnone, hlen, hend⟩ := h
    exact iff_of_true (Or.inr ⟨hlen, Or.inl hend⟩) (Or.inr (Or.inl rfl))

/-- The call returns once there are enough bytes, a newline in reach, the end or an error;
interruptions do not count. -/
theorem readline1_returns_iff {reads : List ReadOutcome} {buf : Memory} {maxlen : ℕ}
    (hpos : 1 ≤ maxlen) :
    (∃ r, readline1 reads buf maxlen = some r) ↔
      maxlen - 1 ≤ (stream reads).length ∨ newline ∈ (stream reads).take (maxlen - 1) ∨
        ending reads ≠ none := by
  have hmax : maxlen = 0 + 1 + (maxlen - 1) := by omega
  constructor
  · rintro ⟨r, hret⟩
    obtain ⟨e, hleaves, -⟩ := (readLoop_eq_some_iff hmax).mp hret
    cases e with
    | newline => exact Or.inr (Or.inl hleaves)
    | full => exact Or.inl hleaves.2
    | eof | failed =>
      refine Or.inr (Or.inr ?_)
      rw [hleaves.2.2]
      exact Option.some_ne_none _
  · intro h
    have hleaves : ∃ e, LeavesAt (maxlen - 1) reads e := by
      by_cases hline : newline ∈ (stream reads).take (maxlen - 1)
      · exact ⟨.newline, hline⟩
      · rcases Nat.lt_or_ge (stream reads).length (maxlen - 1) with hroom | hfull
        · have hend : ending reads ≠ none := by
            rcases h with hfull | hmem | hend
            · omega
            · contradiction
            · exact hend
          rcases ending_cases hend with heof | hfailed
          · exact ⟨.eof, hline, hroom, heof⟩
          · exact ⟨.failed, hline, hroom, hfailed⟩
        · exact ⟨.full, hline, hfull⟩
    obtain ⟨e, he⟩ := hleaves
    exact ⟨_, (readLoop_eq_some_iff hmax).mpr ⟨e, he, rfl⟩⟩

/-- The result of a call that returns is right exactly if the line is delimited. -/
theorem line_read_iff {reads : List ReadOutcome} {buf : Memory} {maxlen : ℕ} {r : Returned}
    (hpos : 1 ≤ maxlen) (hret : readline1 reads buf maxlen = some r) :
    LineRead maxlen reads buf r ↔ Delimited maxlen reads := by
  have hmax : maxlen = 0 + 1 + (maxlen - 1) := by omega
  obtain ⟨e, hleaves, rfl⟩ := (readLoop_eq_some_iff hmax).mp hret
  have hbuf := returned_buf (nextLine (maxlen - 1) (stream reads)) buf e
  have hstored := returned_stored (nextLine (maxlen - 1) (stream reads)) buf e
  have hlen := nextLine_length_le (maxlen - 1) (stream reads)
  rw [delimited_iff hleaves, ← returned_count_iff _ buf]
  constructor
  · intro h hnonneg
    rw [h.count hnonneg, hstored]
  · intro hcount
    refine ⟨?_, ?_, returned_terminated _ _ _, ?_⟩
    · rw [hstored]
      exact hcount
    · intro _
      rw [hstored]
      exact hbuf.1
    · intro i hi
      exact hbuf.2 i (by omega)

/-- At the end of the stream one too many is returned, as in a full buffer. -/
theorem unfinished_line_miscounted :
    ∃ r, readline1 [.byte 97, .eof] zeros 80 = some r ∧
      ¬ LineRead 80 [.byte 97, .eof] zeros r :=
  ⟨terminate 2 1 (set8 zeros 0 97), rfl, fun h => absurd (h.count (by decide)) (by decide)⟩

theorem line_read_iff_interrupted :
    ∃ r, readline1 [.interrupted, .byte 97, .interrupted, .byte 10] zeros 80 = some r ∧
      LineRead 80 [.interrupted, .byte 97, .interrupted, .byte 10] zeros r :=
  ⟨terminate 2 2 (set8 (set8 zeros 0 97) 1 10), rfl,
    (line_read_iff (by decide) rfl).mpr (Or.inl (by decide))⟩

end HomeSecurityBox.Readline
