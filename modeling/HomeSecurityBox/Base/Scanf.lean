import Mathlib.Data.List.TakeWhile

/-!
Reading numbers out of a line of text by a format, as C's `sscanf` does it: literal
characters, white space, decimal and hexadecimal integers. A line that is written by a
format is read back by it, and a format that first differs from it in a literal
character converts nothing.
-/

namespace HomeSecurityBox.Scanf

inductive Directive
  | space
  | lit (c : Char)
  | int (base : ℕ)
  deriving DecidableEq, Repr

/-- White space in the C locale. -/
def isSpace (c : Char) : Bool :=
  c == ' ' || c == '\t' || c == '\n' || c == '\x0b' || c == '\x0c' || c == '\r'

/-- `%d` and `%x`; a blank stands for any white space. -/
def directives : List Char → List Directive
  | '%' :: 'd' :: rest => .int 10 :: directives rest
  | '%' :: 'x' :: rest => .int 16 :: directives rest
  | c :: rest => (if isSpace c then .space else .lit c) :: directives rest
  | [] => []

/-- Sixteen and more is no digit. -/
def digitVal (c : Char) : ℕ :=
  if '0' ≤ c ∧ c ≤ '9' then c.toNat - '0'.toNat
  else if 'a' ≤ c ∧ c ≤ 'f' then c.toNat - 'a'.toNat + 10
  else if 'A' ≤ c ∧ c ≤ 'F' then c.toNat - 'A'.toNat + 10
  else 16

def isDigit (base : ℕ) (c : Char) : Bool := decide (digitVal c < base)

def value (base : ℕ) (digits : List Char) : ℕ :=
  digits.foldl (fun acc c => acc * base + digitVal c) 0

def splitSign : List Char → Bool × List Char
  | '-' :: rest => (true, rest)
  | '+' :: rest => (false, rest)
  | text => (false, text)

def skipHexPrefix : List Char → List Char
  | '0' :: 'x' :: rest => rest
  | '0' :: 'X' :: rest => rest
  | text => text

/-- The sign, the prefix of a hexadecimal number and as many digits as there are. -/
def scanInt (base : ℕ) (text : List Char) : Option (ℤ × List Char) :=
  let (negative, text) := splitSign (text.dropWhile isSpace)
  let text := if base = 16 then skipHexPrefix text else text
  let digits := text.takeWhile (isDigit base)
  if digits = [] then none
  else
    let n : ℤ := value base digits
    some (if negative then -n else n, text.dropWhile (isDigit base))

/-- The values that are converted up to the first directive that does not match. -/
def scan : List Directive → List Char → List ℤ
  | [], _ => []
  | .space :: fmt, text => scan fmt (text.dropWhile isSpace)
  | .lit _ :: _, [] => []
  | .lit c :: fmt, c' :: text => if c' = c then scan fmt text else []
  | .int base :: fmt, text =>
      match scanInt base text with
      | some (n, rest) => n :: scan fmt rest
      | none => []

def sscanf (text : List Char) (fmt : String) : List ℤ := scan (directives fmt.toList) text

def showInt (base : ℕ) (n : ℤ) : List Char :=
  if n < 0 then '-' :: Nat.toDigits base n.natAbs else Nat.toDigits base n.natAbs

/-- A missing value is written as zero. -/
def render : List Directive → List ℤ → List Char
  | [], _ => []
  | .space :: fmt, values => ' ' :: render fmt values
  | .lit c :: fmt, values => c :: render fmt values
  | .int base :: fmt, [] => showInt base 0 ++ render fmt []
  | .int base :: fmt, n :: values => showInt base n ++ render fmt values

/-- White space is written between words and numbers only, a number ends at white
space or at the end, and its base has digits. -/
def Clean : List Directive → Prop
  | [] => True
  | .space :: fmt => fmt.head? ≠ some .space ∧ Clean fmt
  | .lit c :: fmt => isSpace c = false ∧ Clean fmt
  | .int base :: fmt => (base = 10 ∨ base = 16) ∧
      (fmt = [] ∨ fmt.head? = some .space) ∧ Clean fmt

instance decidableClean : (fmt : List Directive) → Decidable (Clean fmt)
  | [] => inferInstanceAs (Decidable True)
  | .space :: fmt =>
      have := decidableClean fmt
      inferInstanceAs (Decidable (fmt.head? ≠ some .space ∧ Clean fmt))
  | .lit c :: fmt =>
      have := decidableClean fmt
      inferInstanceAs (Decidable (isSpace c = false ∧ Clean fmt))
  | .int base :: fmt =>
      have := decidableClean fmt
      inferInstanceAs (Decidable ((base = 10 ∨ base = 16) ∧
        (fmt = [] ∨ fmt.head? = some .space) ∧ Clean fmt))

/-- How many values a format takes. -/
def arity : List Directive → ℕ
  | [] => 0
  | .int _ :: fmt => arity fmt + 1
  | .space :: fmt | .lit _ :: fmt => arity fmt

/-- The formats agree up to a literal character in which they differ. -/
def Clash : List Directive → List Directive → Bool
  | .lit c :: fmt, .lit c' :: fmt' => c != c' || Clash fmt fmt'
  | .space :: fmt, .space :: fmt' => Clash fmt fmt'
  | _, _ => false

/-- Text that can follow a number. -/
def Ended : List Char → Prop
  | [] => True
  | c :: _ => isSpace c = true

instance : (text : List Char) → Decidable (Ended text)
  | [] => inferInstanceAs (Decidable True)
  | c :: _ => inferInstanceAs (Decidable (isSpace c = true))

theorem digitVal_digitChar {d : ℕ} (h : d < 16) : digitVal (Nat.digitChar d) = d := by
  have hall : ∀ d : Fin 16, digitVal (Nat.digitChar d.val) = d.val := by decide
  exact hall ⟨d, h⟩

theorem digitChar_not_special {d : ℕ} (h : d < 16) :
    isSpace (Nat.digitChar d) = false ∧ Nat.digitChar d ≠ '-' ∧ Nat.digitChar d ≠ '+' ∧
      Nat.digitChar d ≠ 'x' ∧ Nat.digitChar d ≠ 'X' := by
  have hall : ∀ d : Fin 16, isSpace (Nat.digitChar d.val) = false ∧
      Nat.digitChar d.val ≠ '-' ∧ Nat.digitChar d.val ≠ '+' ∧ Nat.digitChar d.val ≠ 'x' ∧
      Nat.digitChar d.val ≠ 'X' := by decide
  exact hall ⟨d, h⟩

/-- What the digits of a number have in common. -/
theorem mem_toDigits {base : ℕ} (hlow : 1 < base) (hhigh : base ≤ 16) (n : ℕ) :
    ∀ c ∈ Nat.toDigits base n, ∃ d, d < base ∧ c = Nat.digitChar d := by
  induction n using Nat.strongRecOn with
  | ind n ih =>
    intro c hc
    rw [Nat.toDigits_eq_if hlow] at hc
    split at hc
    · rename_i hn
      exact ⟨n, hn, List.mem_singleton.mp hc⟩
    · rename_i hn
      rcases List.mem_append.mp hc with hfront | hlast
      · exact ih (n / base) (Nat.div_lt_self (by omega) hlow) c hfront
      · exact ⟨n % base, Nat.mod_lt n (by omega), List.mem_singleton.mp hlast⟩

theorem isDigit_toDigits {base : ℕ} (hlow : 1 < base) (hhigh : base ≤ 16) (n : ℕ) :
    ∀ c ∈ Nat.toDigits base n, isDigit base c = true := by
  intro c hc
  obtain ⟨d, hd, rfl⟩ := mem_toDigits hlow hhigh n c hc
  rw [isDigit, digitVal_digitChar (by omega)]
  exact decide_eq_true hd

theorem value_toDigits {base : ℕ} (hlow : 1 < base) (hhigh : base ≤ 16) (n : ℕ) :
    value base (Nat.toDigits base n) = n := by
  induction n using Nat.strongRecOn with
  | ind n ih =>
    rw [Nat.toDigits_eq_if hlow]
    split
    · rename_i hn
      simp only [value, List.foldl_cons, List.foldl_nil, Nat.zero_mul, Nat.zero_add]
      exact digitVal_digitChar (by omega)
    · rename_i hn
      have hfront := ih (n / base) (Nat.div_lt_self (by omega) hlow)
      have hdigit : n % base < base := Nat.mod_lt n (by omega)
      unfold value at hfront ⊢
      rw [List.foldl_append, hfront, List.foldl_cons, List.foldl_nil,
        digitVal_digitChar (by omega)]
      exact Nat.div_add_mod' n base

/-- A number ends where its digits do. -/
theorem digits_append {base : ℕ} {digits rest : List Char}
    (hdigits : ∀ c ∈ digits, isDigit base c = true)
    (hrest : ∀ c, rest.head? = some c → isDigit base c = false) :
    (digits ++ rest).takeWhile (isDigit base) = digits ∧
      (digits ++ rest).dropWhile (isDigit base) = rest := by
  induction digits with
  | nil =>
    cases rest with
    | nil => exact ⟨rfl, rfl⟩
    | cons c rest =>
      have hc := hrest c rfl
      exact ⟨by simp [hc], by simp [hc]⟩
  | cons c digits ih =>
    obtain ⟨htake, hdrop⟩ := ih fun c' hc' => hdigits c' (List.mem_cons_of_mem c hc')
    have hc := hdigits c List.mem_cons_self
    exact ⟨by simp [hc, htake], by simp [hc, hdrop]⟩

theorem Ended.not_digit {rest : List Char} (h : Ended rest) (base : ℕ) (hbase : base ≤ 16) :
    ∀ c, rest.head? = some c → isDigit base c = false := by
  have hblank : ∀ c, isSpace c = true → isDigit base c = false := by
    intro c hc
    simp only [isSpace, Bool.or_eq_true, beq_iff_eq, or_assoc] at hc
    have hval : digitVal c = 16 := by
      rcases hc with rfl | rfl | rfl | rfl | rfl | rfl <;> decide
    rw [isDigit, hval]
    exact decide_eq_false (Nat.not_lt_of_le hbase)
  intro c hc
  cases rest with
  | nil => contradiction
  | cons c' rest =>
    rw [← Option.some.inj hc]
    exact hblank c' h

theorem splitSign_of_head {c : Char} {rest : List Char} (hminus : c ≠ '-') (hplus : c ≠ '+') :
    splitSign (c :: rest) = (false, c :: rest) := by
  unfold splitSign
  split
  · rename_i heq
    exact absurd (List.cons.inj heq).1 hminus
  · rename_i heq
    exact absurd (List.cons.inj heq).1 hplus
  · rfl

theorem skipHexPrefix_of_second {text : List Char}
    (h : ∀ c c' rest, text = c :: c' :: rest → c' ≠ 'x' ∧ c' ≠ 'X') :
    skipHexPrefix text = text := by
  unfold skipHexPrefix
  split
  · exact absurd rfl (h _ _ _ rfl).1
  · exact absurd rfl (h _ _ _ rfl).2
  · rfl

/-- The digits of a number are no sign, no blank and no prefix. -/
theorem toDigits_cons {base : ℕ} (hlow : 1 < base) (hhigh : base ≤ 16) (n : ℕ) :
    ∃ d digits, d < base ∧ Nat.toDigits base n = Nat.digitChar d :: digits := by
  cases hdigits : Nat.toDigits base n with
  | nil => exact absurd hdigits Nat.toDigits_ne_nil
  | cons c digits =>
    obtain ⟨d, hd, rfl⟩ := mem_toDigits hlow hhigh n c (by rw [hdigits]; exact List.mem_cons_self)
    exact ⟨d, digits, hd, rfl⟩

theorem skipHexPrefix_toDigits {base : ℕ} (hlow : 1 < base) (hhigh : base ≤ 16) (n : ℕ)
    {rest : List Char} (hrest : Ended rest) :
    skipHexPrefix (Nat.toDigits base n ++ rest) = Nat.toDigits base n ++ rest := by
  apply skipHexPrefix_of_second
  intro c c' tail htext
  cases hdigits : Nat.toDigits base n with
  | nil => exact absurd hdigits Nat.toDigits_ne_nil
  | cons first digits =>
    rw [hdigits] at htext
    cases digits with
    | nil =>
      obtain ⟨-, htail⟩ := List.cons.inj htext
      have hblank : rest = c' :: tail := htail
      subst hblank
      have hspace : isSpace c' = true := hrest
      constructor
      · rintro rfl
        exact absurd hspace (by decide)
      · rintro rfl
        exact absurd hspace (by decide)
    | cons second digits =>
      obtain ⟨d, hd, hsecond⟩ := mem_toDigits hlow hhigh n second
        (by rw [hdigits]; exact List.mem_cons_of_mem _ List.mem_cons_self)
      obtain ⟨-, -, -, hx, hX⟩ := digitChar_not_special (d := d) (by omega)
      rw [← (List.cons.inj (List.cons.inj htext).2).1, hsecond]
      exact ⟨hx, hX⟩

theorem dropWhile_of_head {c : Char} {rest : List Char} (h : isSpace c = false) :
    (c :: rest).dropWhile isSpace = c :: rest := by simp [h]

/-- A number that is written is read back, and reading stops behind it. -/
theorem scanInt_showInt {base : ℕ} (hbase : base = 10 ∨ base = 16) (n : ℤ) {rest : List Char}
    (hrest : Ended rest) : scanInt base (showInt base n ++ rest) = some (n, rest) := by
  have hlow : 1 < base := by omega
  have hhigh : base ≤ 16 := by omega
  obtain ⟨d, digits, hd, hdigits⟩ := toDigits_cons hlow hhigh n.natAbs
  obtain ⟨hspace, hminus, hplus, -, -⟩ := digitChar_not_special (d := d) (by omega)
  obtain ⟨htake, hdrop⟩ := digits_append (isDigit_toDigits hlow hhigh n.natAbs)
    (hrest.not_digit base hhigh)
  have hskip : (if base = 16 then skipHexPrefix (Nat.toDigits base n.natAbs ++ rest)
      else Nat.toDigits base n.natAbs ++ rest) = Nat.toDigits base n.natAbs ++ rest := by
    split
    · exact skipHexPrefix_toDigits hlow hhigh n.natAbs hrest
    · rfl
  have hsign : splitSign ((showInt base n ++ rest).dropWhile isSpace) =
      (decide (n < 0), Nat.toDigits base n.natAbs ++ rest) := by
    unfold showInt
    by_cases hneg : n < 0
    · rw [if_pos hneg, List.cons_append, dropWhile_of_head (by decide), decide_eq_true hneg]
      rfl
    · rw [if_neg hneg, hdigits, List.cons_append, dropWhile_of_head hspace,
        splitSign_of_head hminus hplus, decide_eq_false hneg]
  unfold scanInt
  simp only [hsign, hskip, htake, hdrop, value_toDigits hlow hhigh, Nat.toDigits_ne_nil, if_false,
    Option.some.injEq, Prod.mk.injEq, and_true]
  by_cases hneg : n < 0
  · simp only [hneg, decide_true, if_true]
    omega
  · simp only [hneg, decide_false, Bool.false_eq_true, if_false]
    omega

theorem render_head {fmt : List Directive} (hclean : Clean fmt) (hhead : fmt.head? ≠ some .space)
    (values : List ℤ) (rest : List Char) (hfmt : fmt ≠ []) :
    ∃ c tail, render fmt values ++ rest = c :: tail ∧ isSpace c = false := by
  have hint : ∀ (base : ℕ) (n : ℤ) (tail : List Char), base = 10 ∨ base = 16 →
      ∃ c tail', showInt base n ++ tail = c :: tail' ∧ isSpace c = false := by
    intro base n tail hbase
    have hlow : 1 < base := by omega
    obtain ⟨d, digits, hd, hdigits⟩ := toDigits_cons hlow (by omega) n.natAbs
    obtain ⟨hspace, -⟩ := digitChar_not_special (d := d) (by omega)
    unfold showInt
    by_cases hneg : n < 0
    · exact ⟨'-', _, by rw [if_pos hneg]; rfl, by decide⟩
    · exact ⟨_, digits ++ tail, by rw [if_neg hneg, hdigits]; rfl, hspace⟩
  match fmt, hclean, hhead, hfmt with
  | .lit c :: fmt, hclean, _, _ => exact ⟨c, render fmt values ++ rest, rfl, hclean.1⟩
  | .int base :: fmt, hclean, _, _ =>
    cases values with
    | nil =>
      rw [render, List.append_assoc]
      exact hint base 0 _ hclean.1
    | cons n values =>
      rw [render, List.append_assoc]
      exact hint base n _ hclean.1

theorem dropWhile_render {fmt : List Directive} (hclean : Clean (.space :: fmt))
    (hfmt : fmt ≠ []) (values : List ℤ) (rest : List Char) :
    (render (.space :: fmt) values ++ rest).dropWhile isSpace = render fmt values ++ rest := by
  obtain ⟨c, tail, htext, hspace⟩ := render_head hclean.2 hclean.1 values rest hfmt
  rw [render, List.cons_append, List.dropWhile_cons_of_pos (by decide), htext,
    dropWhile_of_head hspace]

/-- A line that is written by a format is read back by it. -/
theorem scan_render {fmt : List Directive} (hclean : Clean fmt) {values : List ℤ}
    (harity : values.length = arity fmt) {rest : List Char} (hrest : Ended rest) :
    scan fmt (render fmt values ++ rest) = values := by
  induction fmt generalizing values with
  | nil => exact (List.length_eq_zero_iff.mp harity).symm
  | cons directive fmt ih =>
    cases directive with
    | space =>
      by_cases hfmt : fmt = []
      · subst hfmt
        exact (List.length_eq_zero_iff.mp harity).symm
      · rw [scan, dropWhile_render hclean hfmt]
        exact ih hclean.2 harity
    | lit c =>
      rw [render, List.cons_append, scan, if_pos rfl]
      exact ih hclean.2 harity
    | int base =>
      obtain ⟨hbase, hnext, hclean'⟩ := hclean
      cases values with
      | nil => contradiction
      | cons n values =>
        have hended : Ended (render fmt values ++ rest) := by
          rcases hnext with rfl | hspace
          · exact hrest
          · obtain ⟨fmt', rfl⟩ := List.head?_eq_some_iff.mp hspace
            exact (by decide : isSpace ' ' = true)
        rw [render, List.append_assoc, scan, scanInt_showInt hbase n hended]
        exact congrArg (n :: ·) (ih hclean' (Nat.succ.inj harity))

/-- A format that differs in a literal converts nothing. -/
theorem scan_of_clash {fmt fmt' : List Directive} (hclash : Clash fmt fmt' = true)
    (hclean : Clean fmt') (values : List ℤ) (rest : List Char) :
    scan fmt (render fmt' values ++ rest) = [] := by
  induction fmt generalizing fmt' with
  | nil => exact absurd hclash (by simp [Clash])
  | cons directive fmt ih =>
    match directive, fmt', hclash, hclean with
    | .lit c, .lit c' :: fmt', hclash, hclean =>
      rw [render, List.cons_append, scan]
      by_cases hsame : c' = c
      · rw [if_pos hsame]
        apply ih ?_ hclean.2
        simpa [Clash, hsame] using hclash
      · rw [if_neg hsame]
    | .space, .space :: fmt', hclash, hclean =>
      by_cases hfmt : fmt' = []
      · subst hfmt
        cases fmt <;> simp [Clash] at hclash
      · rw [scan, dropWhile_render hclean hfmt]
        exact ih hclash hclean.2

/-- A line of a format does not begin with a word that differs from it in a literal. -/
theorem take_ne_of_clash {word : List Char} {fmt : List Directive}
    (hclash : Clash (word.map fun c => if isSpace c then .space else .lit c) fmt = true)
    (values : List ℤ) (rest : List Char) :
    (render fmt values ++ rest).take word.length ≠ word := by
  induction word generalizing fmt with
  | nil => exact absurd hclash (by simp [Clash])
  | cons c word ih =>
    rw [List.map_cons] at hclash
    by_cases hspace : isSpace c = true
    · rw [if_pos hspace] at hclash
      match fmt, hclash with
      | .space :: fmt, hclash =>
        intro htake
        exact ih hclash (List.cons.inj htake).2
    · rw [if_neg hspace] at hclash
      match fmt, hclash with
      | .lit c' :: fmt, hclash =>
        intro htake
        obtain ⟨hsame, htail⟩ := List.cons.inj htake
        subst hsame
        exact ih (by simpa [Clash] using hclash) htail

end HomeSecurityBox.Scanf
