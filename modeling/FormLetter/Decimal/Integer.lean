import FormLetter.Text.Blank

/-!
Whole numbers: powers of the two bases they are written in, the bounds of the fixed widths, their
decimal digits, and reading them within bounds.
-/
namespace FormLetter.Decimal

def twoTo (n : Nat) : Nat := Nat.pow 2 n

def tenTo (n : Nat) : Nat := Nat.pow 10 n

def maxUnsigned32 : Int := 4294967295

def minSigned32 : Int := -2147483648

def maxSigned32 : Int := 2147483647

def maxUnsigned64 : Int := 18446744073709551615

def minSigned64 : Int := -9223372036854775808

def maxSigned64 : Int := 9223372036854775807

/-- The decimal digits of a number, without leading zeros. -/
def digits (n : Nat) : List Char :=
  if n < 10 then [Char.ofNat (48 + n)] else digits (n / 10) ++ [Char.ofNat (48 + n % 10)]
termination_by n

/-- The decimal text of a number. -/
def text (n : Int) : List Char :=
  if n < 0 then '-' :: digits n.natAbs else digits n.natAbs

def ofInt (n : Int) : String :=
  String.ofList (text n)

def ofNat (n : Nat) : String :=
  String.ofList (digits n)

/-- The digits of a whole number, filled up with zeros in front. -/
def digitsFilled (count n : Nat) : List Char :=
  let ds := digits n
  List.replicate (count - ds.length) '0' ++ ds

/-- A power of ten behind its letter, with a sign and at least two digits. -/
def powerText (letter : Char) (e : Int) : List Char :=
  letter :: (if e < 0 then '-' else '+') :: digitsFilled 2 e.natAbs

/-- The value of a digit string of any length, leading zeros included. -/
def value (cs : List Char) : Nat :=
  cs.foldl (fun n c => n * 10 + (c.toNat - 48)) 0

/-- One or more ASCII digits. -/
def isDigits (cs : List Char) : Bool :=
  !cs.isEmpty && cs.all Char.isDigit

/-- A whole number: an optional sign and one or more digits, nothing else. -/
def readInt? : List Char → Option Int
  | '-' :: cs => if isDigits cs then some (-(value cs : Int)) else none
  | '+' :: cs => if isDigits cs then some (value cs) else none
  | cs => if isDigits cs then some (value cs) else none

/-- A whole number from `low` to `high`. -/
def readWithin? (low high : Int) (cs : List Char) : Option Int :=
  match readInt? cs with
  | some n => if low ≤ n ∧ n ≤ high then some n else none
  | none => none

/-- The signed 64-bit number a text holds between blanks, or zero. -/
def lenientInt (cs : List Char) : Int :=
  (readWithin? minSigned64 maxSigned64 (Text.trim cs)).getD 0

end FormLetter.Decimal
