import FormLetter.Decimal.Integer

/-!
Reading decimal fractions as doubles.
-/
namespace FormLetter.Decimal

/-- The double nearest to `digits · 10 ^ exponent`. Exponents beyond the range of doubles are
settled before any power is formed. -/
def toFloat (count : Nat) (digitsValue : Nat) (exponent : Int) : Float :=
  if digitsValue == 0 then 0.0
  else if 400 < (count : Int) + exponent then 1.0 / 0.0
  else if (count : Int) + exponent < -400 then 0.0
  else if 0 ≤ exponent then Float.ofScientific digitsValue false exponent.toNat
  else Float.ofScientific digitsValue true (-exponent).toNat

/-- Why a text is no float. -/
inductive FloatFault where
  | empty
  | invalid
  deriving DecidableEq

def FloatFault.message : FloatFault → String
  | .empty => "cannot parse float from empty string"
  | .invalid => "invalid float literal"

/-- The exponent behind an `e`, if the text is one. -/
def readExponent? : List Char → Option Int
  | [] => some 0
  | c :: cs => if c == 'e' || c == 'E' then readInt? cs else none

/-- An unsigned decimal fraction: digits with at most one point among or beside them, and an
optional power of ten. -/
def readFraction? (cs : List Char) : Option Float :=
  let whole := cs.takeWhile Char.isDigit
  let rest := cs.dropWhile Char.isDigit
  let (part, rest) := match rest with
    | '.' :: more => (more.takeWhile Char.isDigit, more.dropWhile Char.isDigit)
    | other => ([], other)
  if whole.isEmpty && part.isEmpty then none
  else (readExponent? rest).map fun e =>
    toFloat (whole.length + part.length) (value (whole ++ part)) (e - part.length)

/-- The names of the values that are no number, in any case. -/
def readNamed? (cs : List Char) : Option Float :=
  let name := String.ofList (cs.map Char.toLower)
  if name == "inf" || name == "infinity" then some (1.0 / 0.0)
  else if name == "nan" then some (0.0 / 0.0)
  else none

/-- A float with an optional sign. -/
def readFloat (cs : List Char) : Except FloatFault Float :=
  let unsigned (cs : List Char) : Option Float := (readFraction? cs).or (readNamed? cs)
  let found := match cs with
    | '-' :: rest => (unsigned rest).map fun x => -x
    | '+' :: rest => unsigned rest
    | _ => unsigned cs
  match found with
  | some x => .ok x
  | none => .error (if cs.isEmpty then .empty else .invalid)

end FormLetter.Decimal
