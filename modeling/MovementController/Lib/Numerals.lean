import Mathlib.Algebra.Order.Ring.Rat
import Mathlib.Data.List.TakeDrop
import Mathlib.Data.List.TakeWhile

/-!
# Decimal numerals

Text that denotes a decimal number. Readers differ in what they let stand around and within the
numeral: `trim` takes the blanks from both ends of a text, `ungroup` the underscores from between its
digits. What is left is the same wherever two readers get to a numeral.
-/

namespace Numeral

/-! ### Characters -/

/-- Unicode's `White_Space`. -/
def isSpace (c : Char) : Bool :=
  let n := c.toNat
  (9 ≤ n && n ≤ 13) || n == 0x20 || n == 0x85 || n == 0xa0 || n == 0x1680 ||
    (0x2000 ≤ n && n ≤ 0x200a) || n == 0x2028 || n == 0x2029 || n == 0x202f || n == 0x205f || n == 0x3000

/-- The zeros of the decimal digits outside ASCII; the other nine follow each of them. -/
def zeros : List ℕ :=
  [0x660, 0x6f0, 0x7c0, 0x966, 0x9e6, 0xa66, 0xae6, 0xb66, 0xbe6, 0xc66, 0xce6, 0xd66, 0xde6, 0xe50,
    0xed0, 0xf20, 0x1040, 0x1090, 0x17e0, 0x1810, 0x1946, 0x19d0, 0x1a80, 0x1a90, 0x1b50, 0x1bb0,
    0x1c40, 0x1c50, 0xa620, 0xa8d0, 0xa900, 0xa9d0, 0xa9f0, 0xaa50, 0xabf0, 0xff10, 0x104a0, 0x10d30,
    0x11066, 0x110f0, 0x11136, 0x111d0, 0x112f0, 0x11450, 0x114d0, 0x11650, 0x116c0, 0x11730,
    0x118e0, 0x11950, 0x11c50, 0x11d50, 0x11da0, 0x16a60, 0x16ac0, 0x16b50, 0x1d7ce, 0x1d7d8,
    0x1d7e2, 0x1d7ec, 0x1d7f6, 0x1e140, 0x1e2f0, 0x1e950, 0x1fbf0]

/-- The value of a decimal digit outside ASCII. -/
def decimal (c : Char) : Option ℕ :=
  (zeros.find? fun n => n ≤ c.toNat && c.toNat < n + 10).map (c.toNat - ·)

theorem decimal_lt {c : Char} {d : ℕ} (h : decimal c = some d) : d < 10 := by
  obtain ⟨n, hn, rfl⟩ := Option.map_eq_some_iff.1 h
  have hrange := List.find?_some hn
  simp only [Bool.and_eq_true, decide_eq_true_eq] at hrange
  omega

/-- A character that a numeral can have. -/
def isMark (c : Char) : Bool := c.isDigit || c ∈ ['+', '-', '.', 'e', 'E']

/-! ### The value of a numeral -/

def sign : List Char → Int × List Char
  | '-' :: cs => (-1, cs)
  | '+' :: cs => (1, cs)
  | cs => (1, cs)

def natural (digits : List Char) : ℕ :=
  digits.foldl (fun n c => 10 * n + (c.toNat - '0'.toNat)) 0

/-- The exponent after its letter. -/
def exponent : List Char → Option Int
  | [] => some 0
  | _ :: cs =>
    let (sgn, digits) := sign cs
    if digits ≠ [] ∧ digits.all Char.isDigit then some (sgn * natural digits) else none

/-- A sign, digits with a point somewhere, and an exponent; only a digit has to be there. -/
def value (cs : List Char) : Option ℚ :=
  let (sgn, cs) := sign cs
  let (mantissa, e) := cs.span fun c => c ≠ 'e' && c ≠ 'E'
  let (whole, fraction) := mantissa.span (· ≠ '.')
  let digits := whole ++ fraction.tail
  if digits ≠ [] ∧ digits.all Char.isDigit then
    (exponent e).map fun (e : Int) => sgn * natural digits * 10 ^ (e - fraction.tail.length)
  else none

variable {cs : List Char}

theorem isMark_of_digit {c : Char} (h : c.isDigit = true) : isMark c = true := by simp [isMark, h]

theorem isMark_of_sign (h : ∀ c ∈ (sign cs).2, isMark c = true) : ∀ c ∈ cs, isMark c = true := by
  unfold sign at h
  split at h
  · exact List.forall_mem_cons.2 ⟨rfl, h⟩
  · exact List.forall_mem_cons.2 ⟨rfl, h⟩
  · exact h

/-- Of the characters from a first one that fails `p` on, that one comes first. -/
theorem forall_dropWhile {p P : Char → Bool} (hhead : ∀ c, p c = false → P c = true)
    (htail : ∀ c ∈ (cs.dropWhile p).tail, P c = true) : ∀ c ∈ cs.dropWhile p, P c = true := by
  have hnot := List.head?_dropWhile_not p cs
  cases hdrop : cs.dropWhile p with
  | nil => exact fun c hc => nomatch hc
  | cons c cs =>
    rw [hdrop] at hnot htail
    exact List.forall_mem_cons.2 ⟨hhead c (by simpa using hnot), htail⟩

theorem isMark_of_exponent {e : Int} (h : exponent cs = some e) :
    ∀ c ∈ cs.tail, isMark c = true := by
  cases cs with
  | nil => exact fun c hc => nomatch hc
  | cons letter cs =>
    simp only [exponent, Option.ite_none_right_eq_some, List.all_eq_true] at h
    exact isMark_of_sign fun c hc => isMark_of_digit (h.1.2 c hc)

theorem isMark_of_value {q : ℚ} (h : value cs = some q) : ∀ c ∈ cs, isMark c = true := by
  refine isMark_of_sign ?_
  unfold value at h
  simp only [List.span_eq_takeWhile_dropWhile, Option.ite_none_right_eq_some, List.all_eq_true,
    List.mem_append] at h
  generalize (sign cs).2 = unsigned at h ⊢
  set letter : Char → Bool := fun c => c ≠ 'e' && c ≠ 'E'
  obtain ⟨⟨-, hdigits⟩, h⟩ := h
  obtain ⟨e, he, -⟩ := Option.map_eq_some_iff.1 h
  have hpoint : ∀ c ∈ (unsigned.takeWhile letter).dropWhile (· ≠ '.'), isMark c = true := by
    refine forall_dropWhile (fun c hc => ?_) fun c hc => isMark_of_digit (hdigits c (.inr hc))
    obtain rfl : c = '.' := by simpa using hc
    rfl
  have hexponent : ∀ c ∈ unsigned.dropWhile letter, isMark c = true := by
    refine forall_dropWhile (fun c hc => ?_) (isMark_of_exponent he)
    have hletter : c = 'e' ∨ c = 'E' := by
      by_contra hnot
      simp_all [letter]
    rcases hletter with rfl | rfl <;> rfl
  intro c hc
  rw [← List.takeWhile_append_dropWhile (p := letter) (l := unsigned), List.mem_append] at hc
  rcases hc with hc | hc
  · rw [← List.takeWhile_append_dropWhile (p := (· ≠ '.')) (l := unsigned.takeWhile letter),
      List.mem_append] at hc
    rcases hc with hc | hc
    · exact isMark_of_digit (hdigits c (.inl hc))
    · exact hpoint c hc
  · exact hexponent c hc

/-! ### Blanks and underscores -/

/-- Takes what is blank from both ends. -/
def trim (blank : Char → Bool) (cs : List Char) : List Char :=
  ((cs.dropWhile blank).reverse.dropWhile blank).reverse

theorem filter_dropWhile (blank : Char → Bool) (cs : List Char) :
    (cs.dropWhile blank).filter (!blank ·) = cs.filter (!blank ·) := by
  induction cs with
  | nil => rfl
  | cons c cs ih =>
    rw [List.dropWhile_cons]
    split
    · next hc => rw [ih, List.filter_cons, if_neg (by simp [hc])]
    · rfl

theorem filter_trim (blank : Char → Bool) (cs : List Char) :
    (trim blank cs).filter (!blank ·) = cs.filter (!blank ·) := by
  rw [trim, List.filter_reverse, filter_dropWhile, List.filter_reverse, List.reverse_reverse,
    filter_dropWhile]

/-- What `trim` leaves, if nothing of it is blank. -/
theorem trim_eq_filter {blank : Char → Bool} (h : ∀ c ∈ trim blank cs, blank c = false) :
    trim blank cs = cs.filter (!blank ·) := by
  rw [← filter_trim]
  refine (List.filter_eq_self.2 fun c hc => ?_).symm
  rw [h c hc]
  rfl

/-- Takes out the underscores, each of which has to stand between two digits; `prev` is the character
before the text. -/
def ungroup (prev : Option Char) : List Char → Option (List Char)
  | [] => if prev = some '_' then none else some []
  | c :: cs =>
    if c = '_' then
      if prev.any Char.isDigit then ungroup (some c) cs else none
    else if prev = some '_' ∧ c.isDigit = false then none
    else (ungroup (some c) cs).map (c :: ·)

theorem ungroup_eq_filter {prev : Option Char} {digits : List Char}
    (h : ungroup prev cs = some digits) : digits = cs.filter (· ≠ '_') := by
  induction cs generalizing prev digits with
  | nil =>
    simp only [ungroup, Option.ite_none_left_eq_some, Option.some.injEq] at h
    exact h.2.symm
  | cons c cs ih =>
    rw [ungroup] at h
    split at h
    · next hc =>
      simp only [Option.ite_none_right_eq_some] at h
      rw [ih h.2, List.filter_cons, if_neg (by simp [hc])]
    · next hc =>
      simp only [Option.ite_none_left_eq_some] at h
      obtain ⟨rest, hrest, rfl⟩ := Option.map_eq_some_iff.1 h.2
      rw [ih hrest, List.filter_cons, if_pos (by simp [hc])]

end Numeral
