import FormLetter.Decimal.Integer
import Mathlib.Tactic.SplitIfs

/-!
Whole numbers in signed 64-bit arithmetic. A reader that takes digits into a number which has to fit
after every operation reads the same numbers as one that forms the exact value first and compares it
with the bounds then: every digit makes the number larger, so what does not fit on the way does not
fit in the end. Negative numbers are taken below zero, where there is room for one more.
-/
namespace FormLetter.Decimal

/-- A signed number of 64 bits. -/
def IsSigned64 (n : Int) : Prop := minSigned64 ≤ n ∧ n ≤ maxSigned64

instance (n : Int) : Decidable (IsSigned64 n) := by
  unfold IsSigned64; infer_instance

/-- The result of an operation on signed numbers of 64 bits, which must not overflow. -/
def signed64? (n : Int) : Option Int :=
  if IsSigned64 n then some n else none

theorem signed64?_of_fits {n : Int} (fits : IsSigned64 n) : signed64? n = some n :=
  if_pos fits

theorem signed64?_of_not_fits {n : Int} (beyond : ¬ IsSigned64 n) : signed64? n = none :=
  if_neg beyond

/-- Takes digits into a number, which moves away from zero with the sign. -/
def gather? (sign : Int) : Int → List Char → Option Int
  | n, [] => some n
  | n, c :: cs =>
    if c.isDigit then do
      let tenfold ← signed64? (n * 10)
      let next ← signed64? (tenfold + sign * (c.toNat - 48 : Nat))
      gather? sign next cs
    else none

/-- The sign of a number and what stands behind it. -/
def splitSign : List Char → Int × List Char
  | '-' :: ds => (-1, ds)
  | '+' :: ds => (1, ds)
  | ds => (1, ds)

/-- A whole number of 64 bits that is read digit by digit. -/
def readGathered? (cs : List Char) : Option Int :=
  let (sign, ds) := splitSign cs
  if ds.isEmpty then none else gather? sign 0 ds

/-! ### Exact values -/

/-- The value of digits behind a number that is read already. -/
def valueBehind (n : Nat) (cs : List Char) : Nat :=
  cs.foldl (fun n c => n * 10 + (c.toNat - 48)) n

theorem valueBehind_cons (n : Nat) (c : Char) (cs : List Char) :
    valueBehind n (c :: cs) = valueBehind (n * 10 + (c.toNat - 48)) cs := by
  rw [valueBehind, valueBehind, List.foldl_cons]

theorem le_valueBehind (n : Nat) (cs : List Char) : n ≤ valueBehind n cs := by
  induction cs generalizing n with
  | nil => exact Nat.le_refl n
  | cons c cs ih =>
    have later := ih (n * 10 + (c.toNat - 48))
    rw [valueBehind_cons]
    omega

/-! ### Digit by digit -/

variable {sign : Int}

theorem IsSigned64.of_le {a b : Nat} (isSign : sign = 1 ∨ sign = -1) (le : a ≤ b)
    (fits : IsSigned64 (sign * b)) : IsSigned64 (sign * a) := by
  unfold IsSigned64 minSigned64 maxSigned64 at *
  obtain rfl | rfl := isSign <;> omega

/-- Digits are gathered exactly if all of them are digits and the number they make fits. -/
theorem gather?_eq (isSign : sign = 1 ∨ sign = -1) {n : Nat} (cs : List Char)
    (fits : IsSigned64 (sign * n)) :
    gather? sign (sign * n) cs =
      if cs.all Char.isDigit ∧ IsSigned64 (sign * valueBehind n cs) then
        some (sign * valueBehind n cs) else none := by
  induction cs generalizing n with
  | nil => simp [gather?, valueBehind, fits]
  | cons c cs ih =>
    by_cases digit : c.isDigit
    · have tenfold : sign * n * 10 = sign * (n * 10 : Nat) := by
        rw [Int.natCast_mul, Int.mul_assoc]
        rfl
      have next : sign * (n * 10 : Nat) + sign * (c.toNat - 48 : Nat) =
          sign * (n * 10 + (c.toNat - 48) : Nat) := by
        rw [← Int.mul_add, Int.natCast_add]
      have later := le_valueBehind (n * 10 + (c.toNat - 48)) cs
      simp only [gather?, digit, if_true, tenfold, List.all_cons, Bool.true_and, valueBehind_cons]
      by_cases room : IsSigned64 (sign * (n * 10 + (c.toNat - 48) : Nat))
      · have before := room.of_le isSign (Nat.le_add_right (n * 10) (c.toNat - 48))
        simp only [signed64?_of_fits before, Option.bind_eq_bind, Option.bind_some, next,
          signed64?_of_fits room]
        exact ih room
      · -- The number has left the bounds, and the digits behind do not bring it back.
        have never : ¬ IsSigned64 (sign * valueBehind (n * 10 + (c.toNat - 48)) cs) :=
          fun back => room (back.of_le isSign later)
        rw [if_neg (fun both => never both.2)]
        by_cases before : IsSigned64 (sign * (n * 10 : Nat))
        · simp only [signed64?_of_fits before, Option.bind_eq_bind, Option.bind_some, next,
            signed64?_of_not_fits room, Option.bind_none]
        · simp only [signed64?_of_not_fits before, Option.bind_eq_bind, Option.bind_none]
    · simp [gather?, digit]

theorem gather?_zero (isSign : sign = 1 ∨ sign = -1) (cs : List Char) :
    gather? sign 0 cs =
      if cs.all Char.isDigit ∧ IsSigned64 (sign * value cs) then some (sign * value cs)
      else none := by
  have fits : IsSigned64 (sign * (0 : Nat)) := by
    rw [Int.natCast_zero, Int.mul_zero]
    decide
  have gathered := gather?_eq isSign cs fits
  rwa [Int.natCast_zero, Int.mul_zero] at gathered

theorem isSign_splitSign (cs : List Char) :
    (splitSign cs).1 = 1 ∨ (splitSign cs).1 = -1 := by
  unfold splitSign
  split
  next => exact .inr rfl
  all_goals exact .inl rfl

theorem readInt?_eq (cs : List Char) :
    readInt? cs =
      if isDigits (splitSign cs).2 then some ((splitSign cs).1 * value (splitSign cs).2)
      else none := by
  unfold readInt? splitSign
  split <;> simp

/-- Reading digit by digit gives the exact value where it fits, and nothing else. -/
theorem readGathered?_eq (cs : List Char) :
    readGathered? cs = readWithin? minSigned64 maxSigned64 cs := by
  have isSign := isSign_splitSign cs
  rw [readGathered?, readWithin?, readInt?_eq]
  generalize splitSign cs = parts at isSign ⊢
  obtain ⟨sign, ds⟩ := parts
  simp only [gather?_zero isSign]
  cases ds with
  | nil => rfl
  | cons d ds =>
    by_cases digits : (d :: ds).all Char.isDigit
    · simp [isDigits, digits, IsSigned64]
    · simp [isDigits, digits]

end FormLetter.Decimal
