import HomeSecurityBox.Base.ByteMemory

/-!
Programs that read a memory byte by byte. Each read may depend on the bytes read
before it, so a program is a tree with one branch per byte value. `run` gives
its value on a memory and `offsets` the bytes it reads there, in order.
-/

namespace HomeSecurityBox.MemoryReads

open ByteMemory

inductive Reading (α : Type) where
  | done (value : α)
  | read (off : ℕ) (next : UInt8 → Reading α)

namespace Reading

variable {α β : Type}

def bind : Reading α → (α → Reading β) → Reading β
  | done value, f => f value
  | read off next, f => read off fun byte => (next byte).bind f

instance : Monad Reading where
  pure := done
  bind := bind

def run (m : Memory) : Reading α → α
  | done value => value
  | read off next => (next (m off)).run m

def offsets (m : Memory) : Reading α → List ℕ
  | done _ => []
  | read off next => off :: (next (m off)).offsets m

/-- Every byte read from `m` lies below `n`. -/
def Below (r : Reading α) (m : Memory) (n : ℕ) : Prop := ∀ off ∈ r.offsets m, off < n

@[simp] theorem run_pure (m : Memory) (value : α) : (pure value : Reading α).run m = value := rfl

@[simp] theorem run_bind (m : Memory) (r : Reading α) (f : α → Reading β) :
    (r >>= f).run m = (f (r.run m)).run m := by
  induction r with
  | done value => rfl
  | read off next ih => exact ih (m off)

theorem offsets_bind (m : Memory) (r : Reading α) (f : α → Reading β) :
    (r >>= f).offsets m = r.offsets m ++ (f (r.run m)).offsets m := by
  induction r with
  | done value => rfl
  | read off next ih =>
    have hrest : (next (m off) >>= f).offsets m =
        (next (m off)).offsets m ++ (f ((next (m off)).run m)).offsets m := ih (m off)
    exact congrArg (off :: ·) hrest

@[simp] theorem below_pure (m : Memory) (n : ℕ) (value : α) :
    (pure value : Reading α).Below m n ↔ True := by
  apply iff_true_intro
  intro off hoff
  cases hoff

@[simp] theorem below_bind (m : Memory) (n : ℕ) (r : Reading α) (f : α → Reading β) :
    (r >>= f).Below m n ↔ r.Below m n ∧ (f (r.run m)).Below m n := by
  unfold Below
  rw [offsets_bind]
  exact List.forall_mem_append

/-- A program cannot tell apart two memories that agree on the bytes it reads. -/
theorem run_congr {m m' : Memory} (r : Reading α) (h : ∀ off ∈ r.offsets m, m off = m' off) :
    r.run m = r.run m' := by
  induction r with
  | done value => rfl
  | read off next ih =>
    have hbyte : m off = m' off := h off List.mem_cons_self
    have hrest : (next (m off)).run m = (next (m off)).run m' :=
      ih (m off) fun i hi => h i (List.mem_cons_of_mem off hi)
    show (next (m off)).run m = (next (m' off)).run m'
    rw [← hbyte]
    exact hrest

theorem Below.run_congr {n : ℕ} {m m' : Memory} {r : Reading α} (h : r.Below m n)
    (hagree : AgreeBelow n m m') : r.run m = r.run m' :=
  Reading.run_congr r fun off hoff => hagree off (h off hoff)

end Reading

def read8 (off : ℕ) : Reading UInt8 := .read off .done

def read16 (off : ℕ) : Reading UInt16 := do
  let low ← read8 off
  let high ← read8 (off + 1)
  return UInt16.ofNat (low.toNat + 256 * high.toNat)

def read32 (off : ℕ) : Reading UInt32 := do
  let low ← read16 off
  let high ← read16 (off + 2)
  return UInt32.ofNat (low.toNat + 65536 * high.toNat)

@[simp] theorem run_read8 (m : Memory) (off : ℕ) : (read8 off).run m = get8 m off := rfl

@[simp] theorem run_read16 (m : Memory) (off : ℕ) : (read16 off).run m = get16 m off := rfl

@[simp] theorem run_read32 (m : Memory) (off : ℕ) : (read32 off).run m = get32 m off := rfl

@[simp] theorem below_read8 (m : Memory) (off n : ℕ) : (read8 off).Below m n ↔ off + 1 ≤ n := by
  simp only [Reading.Below, read8, Reading.offsets, List.mem_singleton, forall_eq]
  exact Iff.rfl

@[simp] theorem below_read16 (m : Memory) (off n : ℕ) :
    (read16 off).Below m n ↔ off + 2 ≤ n := by
  simp only [read16, Reading.below_bind, Reading.below_pure, below_read8, and_true]
  omega

@[simp] theorem below_read32 (m : Memory) (off n : ℕ) :
    (read32 off).Below m n ↔ off + 4 ≤ n := by
  simp only [read32, Reading.below_bind, Reading.below_pure, below_read16, and_true]
  omega

end HomeSecurityBox.MemoryReads
