import FormLetter.Decimal.Integer

/-!
The shortest decimal text of a double. A double is a whole number times a power of two; the reals
that round to it form an interval, closed when that whole number is even. Of the decimal grids
with one, two, … digits the first that meets the interval is taken, and on it the point nearest
to the value.
-/
namespace FormLetter.Decimal

/-! ### Doubles taken apart -/

/-- The size of a finite double, `mantissa · 2 ^ exponent`. -/
structure Binary where
  mantissa : Nat
  exponent : Int
  /-- The gap below is half as wide as the gap above. -/
  narrow : Bool
  deriving DecidableEq, Repr

/-- The sign bit of a double. -/
def signBit (x : Float) : Bool :=
  x.toBits.toNat / twoTo 63 == 1

/-- The bits of a double without its sign bit. -/
def sizeBits (x : Float) : Nat :=
  x.toBits.toNat % twoTo 63

/-- Whether a double is a number, and not an infinite one. -/
def isFinite (x : Float) : Bool :=
  sizeBits x / twoTo 52 != 2047

/-- The size of a finite double. -/
def Binary.ofFloat (x : Float) : Binary :=
  let biased := sizeBits x / twoTo 52
  let fraction := sizeBits x % twoTo 52
  if biased == 0 then ⟨fraction, -1074, false⟩
  else ⟨fraction + twoTo 52, (biased : Int) - 1075, fraction == 0 && 1 < biased⟩

/-! ### Decimal grids -/

/-- A decimal `coefficient · 10 ^ exponent`. -/
structure Scientific where
  coefficient : Nat
  exponent : Int
  deriving DecidableEq, Repr

/-- A fraction `n · 10 ^ e / d` as numerator and denominator. -/
def scaled (n d : Nat) (e : Int) : Nat × Nat :=
  if 0 ≤ e then (n * tenTo e.toNat, d) else (n, d * tenTo (-e).toNat)

/-- How often a fraction below one can be multiplied by ten until it reaches one. -/
def risesIn (fuel : Nat) (n d : Nat) : Nat :=
  match fuel with
  | 0 => 0
  | fuel + 1 => if d ≤ n then 0 else risesIn fuel (n * 10) d + 1

/-- The exponent of the leading decimal digit of `n / d`. -/
def magnitude (n d : Nat) : Int :=
  if d ≤ n then ((digits (n / d)).length : Int) - 1 else -(risesIn 400 n d : Int)

/-- The grid of `count` digits: its point in the interval nearest to the value, if any. All three
fractions have the denominator `den`. -/
def onGrid (low mid high den : Nat) (closed : Bool) (top : Int) (count : Nat) :
    Option Scientific :=
  let unit := top - count + 1
  let (n, d) := scaled mid den (-unit)
  let below := n / d
  let inside (p : Nat) : Bool :=
    let (pn, pd) := scaled p 1 unit
    let x := pn * den
    if closed then low * pd ≤ x && x ≤ high * pd else low * pd < x && x < high * pd
  let gapBelow := n - below * d
  let gapAbove := (below + 1) * d - n
  match inside below && 0 < below, inside (below + 1) with
  | true, true =>
    if gapBelow < gapAbove || (gapBelow == gapAbove && below % 2 == 0) then some ⟨below, unit⟩
    else some ⟨below + 1, unit⟩
  | true, false => some ⟨below, unit⟩
  | false, true => some ⟨below + 1, unit⟩
  | false, false => none

/-- The shortest decimal that rounds to the double. -/
def Binary.shortest (b : Binary) : Scientific :=
  let power := b.exponent - 2
  let (times, den) : Nat × Nat :=
    if 0 ≤ power then (twoTo power.toNat, 1) else (1, twoTo (-power).toNat)
  let mid := b.mantissa * 4 * times
  let low := (b.mantissa * 4 - (if b.narrow then 1 else 2)) * times
  let high := (b.mantissa * 4 + 2) * times
  let closed := b.mantissa % 2 == 0
  let top := magnitude mid den
  ((List.range 17).findSome? fun i => onGrid low mid high den closed top (i + 1)).getD ⟨0, 0⟩

/-- The digits without trailing zeros. -/
def Scientific.normal (s : Scientific) : Scientific :=
  let ds := digits s.coefficient
  let kept := Text.trimEndOf (· == '0') ds
  ⟨value kept, s.exponent + (ds.length - kept.length : Nat)⟩

/-- Positional notation, with at least one digit after the point. -/
def Scientific.positional (s : Scientific) : List Char :=
  let ds := digits s.coefficient
  if 0 ≤ s.exponent then ds ++ List.replicate s.exponent.toNat '0' ++ ['.', '0']
  else
    let places := (-s.exponent).toNat
    if places < ds.length then ds.take (ds.length - places) ++ ['.'] ++ ds.drop (ds.length - places)
    else ['0', '.'] ++ List.replicate (places - ds.length) '0' ++ ds

/-- One digit in front of the point and the power of ten behind an `e`; on request it has a sign
and at least two digits. -/
def Scientific.exponential (signed : Bool) (s : Scientific) : List Char :=
  match digits s.coefficient with
  | [] => []
  | d :: rest =>
    let point := if rest.isEmpty then [] else '.' :: rest
    let e := s.exponent + rest.length
    d :: point ++ if signed then powerText 'e' e else 'e' :: text e

/-- The exponent of the leading digit. -/
def Scientific.leading (s : Scientific) : Int :=
  s.exponent + (digits s.coefficient).length - 1

/-- How a float is written. -/
structure FloatFormat where
  /-- Leading exponents below this are written with a power of ten. -/
  positionalFrom : Option Int
  /-- Leading exponents from this on are written with a power of ten. -/
  positionalBelow : Option Int
  /-- A power of ten has a sign and at least two digits. -/
  signedPower : Bool

/-- A float shown on its own is always positional. -/
def FloatFormat.plain : FloatFormat := ⟨none, none, false⟩

/-- A float shown inside a listing takes a power of ten below 10^-4 and from 10^16 on. -/
def FloatFormat.listed : FloatFormat := ⟨some (-4), some 16, false⟩

def FloatFormat.usesPower (f : FloatFormat) (leading : Int) : Bool :=
  (match f.positionalFrom with | some e => leading < e | none => false) ||
    (match f.positionalBelow with | some e => e ≤ leading | none => false)

/-- The text of a float. -/
def floatText (f : FloatFormat) (x : Float) : List Char :=
  let sign := if signBit x then ['-'] else []
  if x.isNaN then ['N', 'a', 'N']
  else if x.isInf then sign ++ ['i', 'n', 'f']
  else if sizeBits x == 0 then sign ++ ['0', '.', '0']
  else
    let s := (Binary.ofFloat x).shortest.normal
    sign ++ (if f.usesPower s.leading then s.exponential f.signedPower else s.positional)

end FormLetter.Decimal
