import FormLetter.Decimal.Integer

/-!
The digits of a number. They are the ones the library writes, so what is known of those holds here:
each of them is a digit, and read again they give the number.
-/
namespace FormLetter.Decimal

theorem digitChar_eq : ∀ d : Fin 10, Char.ofNat (48 + d.val) = Nat.digitChar d.val := by
  decide

theorem digits_eq_toDigits (n : Nat) : digits n = Nat.toDigits 10 n := by
  induction n using digits.induct with
  | case1 n small =>
    rw [digits, if_pos small, Nat.toDigits_of_lt_base small, digitChar_eq ⟨n, small⟩]
  | case2 n large ih =>
    have last := digitChar_eq ⟨n % 10, Nat.mod_lt n (by decide)⟩
    rw [digits, if_neg large, Nat.toDigits_eq_if (by decide), if_neg large, ih, last]

theorem ofNat_eq_toString (n : Nat) : ofNat n = toString n := by
  rw [ofNat, digits_eq_toDigits]
  rfl

theorem digits_ne_nil (n : Nat) : digits n ≠ [] := by
  unfold digits
  split <;> simp

theorem isDigit_of_mem_digits {n : Nat} {c : Char} (mem : c ∈ digits n) : c.isDigit := by
  rw [digits_eq_toDigits] at mem
  exact Nat.isDigit_of_mem_toDigits (by decide) (by decide) mem

theorem value_eq_ofDigitChars (cs : List Char) : value cs = Nat.ofDigitChars 10 cs 0 := by
  simp only [value, Nat.ofDigitChars, Nat.mul_comm 10]
  rfl

/-- Read again, the digits of a number give the number. -/
theorem value_digits (n : Nat) : value (digits n) = n := by
  calc value (digits n)
    _ = Nat.ofDigitChars 10 (digits n) 0 := value_eq_ofDigitChars (digits n)
    _ = Nat.ofDigitChars 10 (Nat.toDigits 10 n) 0 := by rw [digits_eq_toDigits]
    _ = n := Nat.ofDigitChars_ten_toDigits

end FormLetter.Decimal
