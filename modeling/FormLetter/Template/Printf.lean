import FormLetter.Decimal.Fixed
import FormLetter.Template.Argument
import FormLetter.Template.Value.Access

/-!
Patterns with placeholders. A placeholder is a percent sign, an optional name in brackets, flags, a
width, a precision and a letter that says how its value is written. Refusals name a placeholder by
the number of bytes up to what follows its percent sign.
-/
namespace FormLetter.Template.Printf

/-- What stands between the percent sign and the letter of a placeholder. -/
structure Layout where
  name : Option (List Char)
  flags : List Char
  width : Nat
  precision : Option Nat
  /-- The number of bytes in front of it. -/
  offset : Nat

namespace Layout

def has (l : Layout) (flag : Char) : Bool :=
  l.flags.contains flag

/-- Spaces up to the width, on the right if the layout says so. -/
def pad (l : Layout) (cs : List Char) : List Char :=
  let fill := List.replicate (l.width - cs.length) ' '
  if l.has '-' then cs ++ fill else fill ++ cs

/-- The sign of a number. -/
def sign (l : Layout) (negative : Bool) : List Char :=
  if negative then ['-'] else if l.has '+' then ['+'] else if l.has ' ' then [' '] else []

/-- A sign, a mark and digits, with zeros or spaces up to the width. -/
def number (l : Layout) (negative : Bool) (mark ds : List Char) : List Char :=
  let lead := l.sign negative ++ mark
  if l.has '0' && !l.has '-' then
    lead ++ List.replicate (l.width - lead.length - ds.length) '0' ++ ds
  else l.pad (lead ++ ds)

end Layout

/-- The digits of a number in a base up to sixteen. -/
def digitsIn (base : Nat) (n : Nat) : List Char :=
  Nat.toDigits base n

/-- What a placeholder writes, as refusals call it. -/
def wants (letter : Char) : String :=
  match letter with
  | 'd' | 'i' => "decimal format ('d')"
  | 'o' => "octal format ('o')"
  | 'x' => "hex format ('x')"
  | 'X' => "hex format ('X')"
  | 'c' => "character format ('c')"
  | 'f' | 'F' => s!"float format ('{letter}')"
  | 'e' | 'E' => s!"exponent format ('{letter}')"
  | _ => s!"general format ('{letter}')"

/-- A value of this type cannot be written by the placeholder. -/
def unwritable {α : Type} (l : Layout) (letter : Char) (type : String) : Except Error α :=
  invalid (s!"invalid format spec at offset {Decimal.ofNat l.offset}; '{type}' cannot be " ++
    s!"formatted in {wants letter}")

/-- A whole number or a truth value. -/
def whole (l : Layout) (letter : Char) (v : Value) : Except Error Int :=
  match v with
  | .bool b => .ok b.toNat
  | .int n _ => .ok n
  | .float _ => unwritable l letter "float"
  | _ => unwritable l letter "string"

def double (l : Layout) (letter : Char) (v : Value) : Except Error Float :=
  match v.float? true with
  | some x => .ok x
  | none => unwritable l letter "string"

def wholeText (l : Layout) (letter : Char) (base : Nat) (mark : List Char) (v : Value) :
    Except Error (List Char) := do
  let n ← whole l letter v
  let ds := digitsIn base n.natAbs
  let ds := match l.precision with
    | some p => List.replicate (p - ds.length) '0' ++ ds
    | none => ds
  let cs := l.number (decide (n < 0)) (if l.has '#' then mark else []) ds
  .ok (if letter.isUpper then cs.map Char.toUpper else cs)

/-- A number with a point, which stands in front of a power of ten. -/
def withPoint (cs : List Char) : List Char :=
  let isPower (c : Char) : Bool := c == 'e' || c == 'E'
  if cs.contains '.' then cs
  else cs.takeWhile (!isPower ·) ++ '.' :: cs.dropWhile (!isPower ·)

def doubleText (l : Layout) (letter : Char) (write : Nat → Nat → Nat → List Char) (v : Value) :
    Except Error (List Char) := do
  let x ← double l letter v
  let negative := Decimal.signBit x
  if Decimal.isFinite x then
    let (n, d) := Decimal.fraction x
    let cs := write (l.precision.getD 6) n d
    .ok (l.number negative [] (if l.has '#' then withPoint cs else cs))
  else
    let name := if x.isNaN then "nan".toList else "inf".toList
    let name := if letter.isUpper then name.map Char.toUpper else name
    .ok (l.number (negative && !x.isNaN) [] name)

def plainText (l : Layout) (cs : List Char) : List Char :=
  l.pad (match l.precision with | some p => cs.take p | none => cs)

/-- One character: a text of that length, or its code. -/
def character (l : Layout) (v : Value) : Except Error (List Char) :=
  let coded (n : Int) : Except Error (List Char) :=
    if 0 ≤ n ∧ n.toNat.isValidChar then .ok [Char.ofNat n.toNat]
    else invalid "character format ('c') arg not in range(0x110000)"
  match v with
  | .bool b => coded b.toNat
  | .int n _ => coded n
  | .float _ => unwritable l 'c' "float"
  | v =>
    match v.display.toList with
    | [c] => .ok [c]
    | _ => invalid "character format ('c') requires integer or char"

/-- The text of a double where a placeholder asks for a text. -/
def doubleFormat : Decimal.FloatFormat := ⟨some (-4), some 16, true⟩

/-- A double as a text: in as few digits as tell it apart, or in as many as are asked for. -/
def doubleShown (l : Layout) (x : Float) : List Char :=
  match l.precision with
  | some p =>
    if Decimal.isFinite x then
      let (n, d) := Decimal.fraction x
      let cs := Decimal.general 'e' false p n d
      let cs := if cs.all Char.isDigit then cs ++ ".0".toList else cs
      l.pad (if Decimal.signBit x then '-' :: cs else cs)
    else l.pad (Decimal.floatText doubleFormat x)
  | none => l.pad (Decimal.floatText doubleFormat x)

/-- A value as a text. -/
def shown (escaping : Bool) (l : Layout) (v : Value) : List Char :=
  match v with
  | .float x => doubleShown l x
  | v => plainText l (v.output escaping).toList

/-- A value as its placeholder wants it. -/
def convert (escaping : Bool) (l : Layout) (letter : Char) (v : Value) :
    Except Error (List Char) :=
  match letter with
  | 's' => .ok (shown escaping l v)
  | 'r' | 'a' => .ok (plainText l v.listing.toList)
  | 'c' => (character l v).map (plainText l)
  | 'd' | 'i' => wholeText l letter 10 [] v
  | 'o' => wholeText l letter 8 ['0', 'o'] v
  | 'x' | 'X' => wholeText l letter 16 ['0', 'x'] v
  | 'f' | 'F' => doubleText l letter Decimal.fixed v
  | 'e' | 'E' => doubleText l letter (Decimal.exponential letter) v
  | 'g' => doubleText l letter (Decimal.general 'e' (l.has '#')) v
  | 'G' => doubleText l letter (Decimal.general 'E' (l.has '#')) v
  | c => invalid
      s!"invalid conversion type '{c}' in format spec at offset {Decimal.ofNat l.offset}"

/-- Part of a pattern. -/
inductive Piece where
  | text (cs : List Char)
  | percent
  | place (l : Layout) (letter : Char)
  | unfinished (offset : Nat)

def isModifier (c : Char) : Bool :=
  c == 'h' || c == 'l' || c == 'L'

/-- What stands behind a modifier of the size of a value, which counts for nothing. -/
def afterModifier (cs : List Char) : List Char :=
  if cs.head?.any isModifier then cs.tail else cs

/-- The layout behind a percent sign and what stands behind it. -/
def layout (offset : Nat) (cs : List Char) : Layout × List Char :=
  let (name, cs) := match cs with
    | '(' :: rest => (some (rest.takeWhile (· != ')')), (rest.dropWhile (· != ')')).drop 1)
    | cs => (none, cs)
  let isFlag (c : Char) : Bool := "-+ #0".toList.contains c
  let flags := cs.takeWhile isFlag
  let cs := cs.dropWhile isFlag
  let width := Decimal.value (cs.takeWhile Char.isDigit)
  let cs := cs.dropWhile Char.isDigit
  let (precision, cs) := match cs with
    | '.' :: rest =>
      (some (Decimal.value (rest.takeWhile Char.isDigit)), rest.dropWhile Char.isDigit)
    | cs => (none, cs)
  (⟨name, flags, width, precision, offset⟩, afterModifier cs)

/-- The number of bytes that a text takes. -/
def byteSize (cs : List Char) : Nat :=
  cs.foldl (fun n c => n + c.utf8Size) 0

/-- The pieces of a pattern behind so many bytes; every percent sign uses up some of it. -/
def pieces : Nat → Nat → List Char → List Piece
  | 0, _, _ => []
  | bound + 1, offset, cs =>
    match cs with
    | [] => []
    | '%' :: '%' :: rest => .percent :: pieces bound (offset + 2) rest
    | '%' :: rest =>
      match layout (offset + 1) rest with
      | (_, []) => [.unfinished (offset + 1)]
      | (l, letter :: more) =>
        let size := byteSize rest - byteSize more
        .place l letter :: pieces bound (offset + 1 + size) more
    | cs =>
      let front := cs.takeWhile (· != '%')
      .text front :: pieces bound (offset + byteSize front) (cs.dropWhile (· != '%'))

/-- The placeholder has no value. -/
def unfilled {α : Type} (l : Layout) : Except Error α :=
  invalid s!"missing an argument for format spec at offset '{Decimal.ofNat l.offset}'"

/-- Writes the pieces, taking values in order or by name. -/
def write (escaping : Bool) (find : String → Option Value) :
    List Piece → List Value → Except Error (List Char)
  | [], _ => .ok []
  | .text cs :: rest, vs => (write escaping find rest vs).map (cs ++ ·)
  | .percent :: rest, vs => (write escaping find rest vs).map ('%' :: ·)
  | .unfinished offset :: _, _ => invalid
      s!"incomplete format spec at offset {Decimal.ofNat offset}; missing conversion type"
  | .place l letter :: rest, vs => do
    let (found, vs) := match l.name with
      | some name => (find (String.ofList name), vs)
      | none => (vs.head?, vs.tail)
    match found with
    | none => unfilled l
    | some v =>
      let front ← convert escaping l letter v
      (write escaping find rest vs).map (front ++ ·)

/-- The text of a pattern whose placeholders are exchanged for values. Names stand for named
values, or for entries of the first value. -/
def format (escaping : Bool) (pattern : List Char) (vs : List Value)
    (named : List (String × Value)) : Except Error (List Char) :=
  let find (name : String) : Option Value :=
    (Named.get? named name).or (vs.head?.bind (Value.member? name))
  write escaping find (pieces (pattern.length + 1) 0 pattern) vs

end FormLetter.Template.Printf
