import FormLetter.Decimal.Reading
import FormLetter.Template.Operator
import FormLetter.Template.Value.Access
import FormLetter.Text.Width

/-!
Filters that compute numbers and truth values.
-/
namespace FormLetter.Template.Filter

/-- The product of `found` and a power of `base`, by squares of the base. -/
def timesPower (found base : Float) (n : Nat) : Float :=
  if n == 0 then found
  else timesPower (if n % 2 == 0 then found else found * base) (base * base) (n / 2)
termination_by n
decreasing_by rename_i h; simp only [beq_iff_eq] at h; omega

/-- A power of ten as a double. -/
def powerOfTen (n : Int) : Float :=
  let size := timesPower 1.0 10.0 n.natAbs
  if 0 ≤ n then size else 1.0 / size

/-- A double rounded to decimal places, halves away from zero. -/
def round : Callee :=
  Take.all do
    let v ← Take.value
    let places := (← Take.optional Value.asInt32).getD 0
    Take.done
    match v with
    | .int n form => return .int n form
    | .float x =>
      let scale := powerOfTen places
      return .float ((scale * x).round / scale)
    | v => throw (.of .invalidOperation s!"cannot round value ({v.kind.text})")

def abs : Callee :=
  Take.all do
    let v ← Take.value
    Take.done
    match v with
    | .int n form =>
      if n == Number.minInt then throw (.of .invalidOperation "overflow on abs")
      return if n < 0 then .ofInt (-n) else .int n form
    | .float x => return .float x.abs
    | _ => throw (.of .invalidOperation "cannot get absolute value")

/-- A double without its fraction. -/
def towardZero (x : Float) : Value :=
  .int (Number.clamp Number.minInt Number.maxInt x) .signed128

/-- The double that a text holds. -/
def doubleOf (s : String) : Except Error Float :=
  match Decimal.readFloat s.toList with
  | .ok x => .ok x
  | .error fault => invalid fault.message

/-- The value as a whole number. -/
def int : Callee :=
  Take.all do
    let v ← Take.value
    Take.done
    match v with
    | .undefined | .none => return .ofInt 0
    | .bool b => return .ofNat b.toNat
    | .int n form => return .int n form
    | .float x => return towardZero x
    | .text s _ =>
      match Decimal.readWithin? Number.minInt Number.maxInt s.toList with
      | some n => return .int n .signed128
      | none => return towardZero (← doubleOf s)
    | v => throw (.of .invalidOperation s!"cannot convert {v.kind.text} to integer")

/-- The value as a double. -/
def float : Callee :=
  Take.all do
    let v ← Take.value
    Take.done
    match v with
    | .undefined | .none => return .float 0.0
    | .text s _ => return .float (← doubleOf s)
    | v =>
      match v.float? true with
      | some x => return .float x
      | none => throw (.of .invalidOperation s!"cannot convert {v.kind.text} to float")

/-- The sum of numbers; what is missing does not count. -/
def sumOf (total : Value) : List Value → Except Error Value
  | [] => .ok total
  | v :: rest =>
    match v.kind with
    | .undefined => sumOf total rest
    | .number =>
      match total.add v with
      | .ok total => sumOf total rest
      | .error e => .error e
    | k => invalid s!"can only sum numbers, got {k.text}"

def sum : Callee :=
  Take.all do sumOf (.ofInt 0) (← Take.last Value.asItems)

def length : Callee :=
  Take.all do
    let v ← Take.value
    Take.done
    match v.count? with
    | some n => return .ofNat n
    | none =>
      throw (.of .invalidOperation s!"cannot calculate length of value of type {v.kind.text}")

def bool : Callee :=
  Take.all do return .bool (← Take.value).isTrue

/-- The columns that the text of a value takes. -/
def displayWidth : Callee :=
  Take.all do return .ofNat (Text.displayWidth (← Take.value).display.toList)

/-- The whole number that the text of a value holds, or zero. -/
def atoi : Callee :=
  Take.all do return .ofInt (Decimal.lenientInt (← Take.value).display.toList)

/-- The filters that compute numbers. -/
def onNumber : List (String × Callee) :=
  [("round", round), ("abs", abs), ("int", int), ("float", float), ("sum", sum),
   ("length", length), ("count", length), ("bool", bool), ("display_width", displayWidth),
   ("atoi", atoi)]

end FormLetter.Template.Filter
