import FormLetter.Decimal.Shortest

/-!
Fractions with a fixed number of decimal places, positional or with a power of ten. A fraction
between two neighbours goes to the nearer one, and from the middle to the even one.
-/
namespace FormLetter.Decimal

/-- The whole number nearest to a fraction. -/
def nearest (n d : Nat) : Nat :=
  let below := n / d
  let left := 2 * (n % d)
  if left < d || (left == d && below % 2 == 0) then below else below + 1

/-- The digits with a point in front of the last `places` of them. -/
def pointed (places : Nat) (ds : List Char) : List Char :=
  if places == 0 then ds
  else ds.take (ds.length - places) ++ '.' :: ds.drop (ds.length - places)

/-- A fraction with so many places. -/
def fixed (places n d : Nat) : List Char :=
  pointed places (digitsFilled (places + 1) (nearest (n * tenTo places) d))

/-- A fraction with one digit in front of the point, so many behind it, and the power of ten. -/
def leadingDigits (places n d : Nat) : List Char × Int :=
  if n == 0 then (List.replicate (places + 1) '0', 0)
  else
    let top := magnitude n d
    let (m, e) := scaled n d (places - top)
    let ds := digits (nearest m e)
    if places + 1 < ds.length then (ds.take (places + 1), top + 1) else (ds, top)

/-- A fraction with so many places and a power of ten. -/
def exponential (letter : Char) (places n d : Nat) : List Char :=
  let (ds, e) := leadingDigits places n d
  pointed places ds ++ powerText letter e

/-- The text without zeros at the end of its places. -/
def withoutZeros (cs : List Char) : List Char :=
  if cs.contains '.' then Text.trimEndOf (· == '.') (Text.trimEndOf (· == '0') cs) else cs

/-- A fraction in so many digits, positional unless it is too small or too large for them. Zeros
at the end of the places are kept on request. -/
def general (letter : Char) (keepZeros : Bool) (count n d : Nat) : List Char :=
  let count := max count 1
  let (ds, e) := leadingDigits (count - 1) n d
  let shorten (cs : List Char) : List Char := if keepZeros then cs else withoutZeros cs
  if e < -4 ∨ (count : Int) ≤ e then shorten (pointed (count - 1) ds) ++ powerText letter e
  else shorten (fixed ((count : Int) - 1 - e).toNat n d)

/-- The size of a finite double as a fraction. -/
def fraction (x : Float) : Nat × Nat :=
  let b := Binary.ofFloat x
  if 0 ≤ b.exponent then (b.mantissa * twoTo b.exponent.toNat, 1)
  else (b.mantissa, twoTo (-b.exponent).toNat)

end FormLetter.Decimal
