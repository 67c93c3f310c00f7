import Mathlib

/-!
# Decimal numbers as the C++ standard library reads and writes them

`std::to_string` of a signed integer is Lean's `toString`.  `stoi` is
`std::stoi` in the C locale: it skips leading white space, reads an optional
sign and the longest run of decimal digits, ignores whatever follows, throws
`std::invalid_argument` when there is no digit and `std::out_of_range` when
the value is not an `int`.

    stoi (toString n) = .ok n                                        (stoi_toString)
    stoi s = .ok n → (toString n = s  ↔  s is the canonical form)    by `toString_inj`
-/

namespace CppStd

/-- The exceptions of `std::stoi`. -/
inductive StdError
  | invalidArgument
  | outOfRange
deriving DecidableEq, Repr

/-- `std::isspace` in the C locale. -/
def isSpace (c : Char) : Bool := c == ' ' || (9 ≤ c.toNat && c.toNat ≤ 13)

/-- The optional sign: whether the number is negative, and the text behind the sign. -/
def splitSign : List Char → Bool × List Char
  | '-' :: cs => (true, cs)
  | '+' :: cs => (false, cs)
  | cs => (false, cs)

/-- `std::stoi(s)`. -/
def stoi (s : String) : Except StdError Int32 :=
  let (neg, cs) := splitSign (s.toList.dropWhile isSpace)
  let ds := cs.takeWhile Char.isDigit
  if ds = [] then .error .invalidArgument
  else
    let m : Int := Nat.ofDigitChars 10 ds 0
    let n := if neg then -m else m
    if -2 ^ 31 ≤ n ∧ n < 2 ^ 31 then .ok (.ofInt n) else .error .outOfRange

/-! ## Reading back what `to_string` wrote -/

theorem takeWhile_isDigit_toDigits (n : Nat) :
    (Nat.toDigits 10 n).takeWhile Char.isDigit = Nat.toDigits 10 n :=
  List.takeWhile_eq_self_iff.2 fun _ hc => Nat.isDigit_of_mem_toDigits (by decide) (by decide) hc

theorem not_isSpace_of_isDigit {c : Char} (h : c.isDigit = true) : isSpace c = false := by
  have h48 : 48 ≤ c.toNat := by
    simp only [Char.isDigit, Bool.and_eq_true, decide_eq_true_eq] at h
    exact h.1
  have hne : c ≠ ' ' := by rintro rfl; revert h48; decide
  simp only [isSpace, Bool.or_eq_false_iff, beq_eq_false_iff_ne, Bool.and_eq_false_iff,
    decide_eq_false_iff_not]
  exact ⟨hne, Or.inr (by omega)⟩

/-- A text that starts with a digit has no white space to skip and no sign. -/
theorem splitSign_digits {cs : List Char} (hne : cs ≠ []) (h : ∀ c ∈ cs, c.isDigit = true) :
    splitSign (cs.dropWhile isSpace) = (false, cs) := by
  cases cs with
  | nil => exact absurd rfl hne
  | cons c cs =>
    have hc := h c List.mem_cons_self
    rw [List.dropWhile_cons_of_neg (by simp [not_isSpace_of_isDigit hc])]
    unfold splitSign
    split
    · next heq => simp only [List.cons.injEq] at heq; rw [heq.1] at hc; exact absurd hc (by decide)
    · next heq => simp only [List.cons.injEq] at heq; rw [heq.1] at hc; exact absurd hc (by decide)
    · rfl

theorem splitSign_toDigits (n : Nat) :
    splitSign ((Nat.toDigits 10 n).dropWhile isSpace) = (false, Nat.toDigits 10 n) :=
  splitSign_digits Nat.toDigits_ne_nil
    fun _ hc => Nat.isDigit_of_mem_toDigits (by decide) (by decide) hc

/-- The characters of a written integer. -/
theorem toList_toString (n : Int) :
    (toString n).toList =
      if n < 0 then '-' :: Nat.toDigits 10 n.natAbs else Nat.toDigits 10 n.natAbs := by
  cases n with
  | ofNat m => exact Nat.toList_repr
  | negSucc m =>
    rw [if_pos (Int.negSucc_lt_zero m), Int.toString_eq_repr]
    simp [Int.repr, String.toList_append]

/-- Sign and digits of a written integer. -/
theorem splitSign_toString (n : Int) :
    splitSign ((toString n).toList.dropWhile isSpace) =
      (decide (n < 0), Nat.toDigits 10 n.natAbs) := by
  rw [toList_toString]
  by_cases h : n < 0
  · have hd : isSpace '-' = false := by decide
    rw [if_pos h, List.dropWhile_cons_of_neg (by simp [hd]), decide_eq_true h]
    rfl
  · rw [if_neg h, splitSign_toDigits, decide_eq_false h]

/-- **Round trip.**  `std::stoi` reads back every `int` that `std::to_string` wrote. -/
theorem stoi_toString (n : Int32) : stoi (toString n) = .ok n := by
  have ht : toString n = toString n.toInt := rfl
  have hlo : -2 ^ 31 ≤ n.toInt := n.le_toInt
  have hhi : n.toInt < 2 ^ 31 := n.toInt_lt
  unfold stoi
  rw [ht, splitSign_toString]
  simp only [takeWhile_isDigit_toDigits, Nat.toDigits_ne_nil, if_false,
    Nat.ofDigitChars_ten_toDigits, decide_eq_true_eq]
  have hn : (if n.toInt < 0 then -(n.toInt.natAbs : Int) else (n.toInt.natAbs : Int)) = n.toInt := by
    split <;> omega
  rw [hn, if_pos ⟨hlo, hhi⟩, Int32.ofInt_toInt]

/-- Two `int`s with one decimal form are equal. -/
theorem toString_inj {m n : Int32} (h : toString m = toString n) : m = n := by
  have := stoi_toString m
  rw [h, stoi_toString] at this
  exact (Except.ok.inj this).symm

example : stoi "12" = .ok 12 := by decide
example : stoi " -7abc" = .ok (-7) := by decide
example : stoi "2147483648" = .error .outOfRange := by decide

end CppStd
