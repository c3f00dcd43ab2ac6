import FormLetter.Decimal.Shortest
import FormLetter.Template.Value.Basic

/-!
Numbers: whole ones of up to 128 bits beside doubles. Values that have to meet in one operation
become numbers of one sort first.
-/
namespace FormLetter.Template

namespace Number

open Decimal (Binary twoTo signBit isFinite)

def minInt : Int := IntForm.signed128.low

def maxInt : Int := IntForm.signed128.high

/-- A whole number that operations can take or give. -/
def whole? (n : Int) : Option Int :=
  if minInt ≤ n ∧ n ≤ maxInt then some n else none

/-- The number that operations take for one of 128 bits without a sign: one beyond their bounds
counts as negative. -/
def wrapped (n : Int) : Int :=
  Int.bmod n (twoTo 128)

/-- The double nearest to a whole number. -/
def toFloat (n : Int) : Float :=
  let size := Float.ofScientific n.natAbs false 0
  if n < 0 then -size else size

/-- The whole part of a finite double. -/
def truncate (x : Float) : Int :=
  let b := Binary.ofFloat x
  let size : Nat := if 0 ≤ b.exponent then b.mantissa * twoTo b.exponent.toNat
    else b.mantissa / twoTo (-b.exponent).toNat
  if signBit x then -size else size

/-- The double `digits · 2 ^ power`, for few enough digits to be exact. -/
def scale (negative : Bool) (digits : Nat) (power : Int) : Float :=
  let size := (Float.ofScientific digits false 0).scaleB power
  if negative then -size else size

/-- What is left of the first when the second is taken from it as often as possible; it has the
sign of the first. -/
def remainder (x y : Float) : Float :=
  if x.isNaN || y.isNaN || !isFinite x || y == 0.0 then 0.0 / 0.0
  else if !isFinite y then x
  else
    let a := Binary.ofFloat x
    let b := Binary.ofFloat y
    let low := min a.exponent b.exponent
    let left := (a.mantissa * twoTo (a.exponent - low).toNat) %
      (b.mantissa * twoTo (b.exponent - low).toNat)
    scale (signBit x) left low

/-- The whole number of times that the second goes into the first so that what is left is not
negative. -/
def floorQuotient (x y : Float) : Float :=
  let exact := x / y
  let whole := if exact.isNaN || !isFinite exact then exact
    else if exact < 0.0 then exact.ceil else exact.floor
  if remainder x y < 0.0 then (if y > 0.0 then whole - 1.0 else whole + 1.0) else whole

/-- A double as a whole number within bounds; no number is zero. -/
def clamp (low high : Int) (x : Float) : Int :=
  if x.isNaN then 0
  else if !isFinite x then (if x < 0.0 then low else high)
  else max low (min high (truncate x))

/-- A double has this value, up to the bounds of the number's form. -/
def isExact (n : Int) (form : IntForm) : Bool :=
  clamp form.low form.high (toFloat n) == n

/-- The order of a whole number and a double. -/
def compareMixed (n : Int) (x : Float) : Ordering :=
  if !isFinite x then (if signBit x then .gt else .lt)
  else
    let b := Binary.ofFloat x
    let m : Int := if signBit x then -b.mantissa else b.mantissa
    if 0 ≤ b.exponent then compare n (m * twoTo b.exponent.toNat)
    else compare (n * twoTo (-b.exponent).toNat) m

end Number

namespace Value

/-- A whole number: a number without a fraction, or a truth value. -/
def whole? : Value → Option Int
  | .bool b => some (if b then 1 else 0)
  | .int n _ => some n
  | .float x =>
    let n := Number.clamp Decimal.minSigned64 Decimal.maxSigned64 x
    if Number.toFloat n == x then some n else Option.none
  | _ => Option.none

/-- A whole number of 128 bits. -/
def int128? (v : Value) : Option Int :=
  v.whole?.bind Number.whole?

/-- The value as a double; a whole number has to be exact unless rounding is allowed. -/
def float? (rounding : Bool) : Value → Option Float
  | .bool b => some (if b then 1.0 else 0.0)
  | .int n form =>
    if rounding || Number.isExact n form then some (Number.toFloat n) else Option.none
  | .float x => some x
  | _ => Option.none

def isFloat : Value → Bool
  | .float _ => true
  | _ => false

end Value

/-- Two values of one sort. -/
inductive Pairing where
  | ints (a b : Int)
  | floats (a b : Float)
  | texts (a b : String)

/-- The sort in which two values meet. -/
def Pairing.of? (rounding : Bool) (a b : Value) : Option Pairing :=
  match a, b with
  | .text s _, .text t _ => some (.texts s t)
  | .int m .unsigned128, .int n .unsigned128 => some (.ints (Number.wrapped m) (Number.wrapped n))
  | a, b =>
    if a.isFloat || b.isFloat then
      match a.float? rounding, b.float? rounding with
      | some x, some y => some (.floats x y)
      | _, _ => none
    else match a.int128?, b.int128? with
      | some m, some n => some (.ints m n)
      | _, _ => none

end FormLetter.Template
