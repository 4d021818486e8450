import Mathlib.Data.List.Basic

/-!
One buffer that a producer overwrites and counted tokens that tell a consumer to
read it. Nothing is lost and nothing is read twice as long as the producer writes
either without tokens outstanding or what the buffer holds already.
-/

namespace HomeSecurityBox.SharedBuffer

/-- The buffer, the outstanding tokens and the histories of both sides. -/
structure Buffer (α : Type*) where
  content : α
  tokens : ℕ
  written : List α
  read : List α

namespace Buffer

variable {α : Type*}

def write (b : Buffer α) (a : α) : Buffer α where
  content := a
  tokens := b.tokens + 1
  written := b.written ++ [a]
  read := b.read

def consume (b : Buffer α) : Buffer α where
  content := b.content
  tokens := b.tokens - 1
  written := b.written
  read := b.read ++ [b.content]

/-- What is still to be read is the content, once for each token. -/
def Faithful (b : Buffer α) : Prop :=
  b.written = b.read ++ List.replicate b.tokens b.content

theorem Faithful.write {b : Buffer α} (h : b.Faithful) (a : α)
    (ha : b.tokens = 0 ∨ b.content = a) : (b.write a).Faithful := by
  unfold Faithful at h
  have htail : List.replicate b.tokens b.content ++ [a] = List.replicate (b.tokens + 1) a := by
    rcases ha with hnone | hsame
    · rw [hnone]
      rfl
    · rw [hsame]
      exact List.replicate_succ'.symm
  calc
    b.written ++ [a] = b.read ++ (List.replicate b.tokens b.content ++ [a]) := by
      rw [h, List.append_assoc]
    _ = b.read ++ List.replicate (b.tokens + 1) a := by rw [htail]

theorem Faithful.consume {b : Buffer α} (h : b.Faithful) (htokens : 0 < b.tokens) :
    b.consume.Faithful := by
  unfold Faithful at h
  obtain ⟨n, hn⟩ : ∃ n, b.tokens = n + 1 := ⟨b.tokens - 1, by omega⟩
  rw [hn] at h
  calc
    b.written = b.read ++ (b.content :: List.replicate n b.content) := h
    _ = (b.read ++ [b.content]) ++ List.replicate (b.tokens - 1) b.content := by
      rw [hn, Nat.add_sub_cancel, List.append_assoc, List.singleton_append]

theorem Faithful.read_prefix {b : Buffer α} (h : b.Faithful) : b.read <+: b.written :=
  ⟨_, h.symm⟩

theorem Faithful.all_read {b : Buffer α} (h : b.Faithful) (htokens : b.tokens = 0) :
    b.read = b.written := by
  unfold Faithful at h
  rw [h, htokens, List.replicate_zero, List.append_nil]

end Buffer

end HomeSecurityBox.SharedBuffer
