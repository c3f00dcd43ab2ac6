import FormLetter.Decimal.Reading
import FormLetter.Template.Error
import FormLetter.Template.Token

/-!
Tokens that hold a value: numbers and quoted texts.
-/
namespace FormLetter.Template

namespace Numeral

/-- The value of a hexadecimal digit. -/
def hexValue? (c : Char) : Option Nat :=
  if '0' ≤ c ∧ c ≤ '9' then some (c.toNat - 48)
  else if 'a' ≤ c ∧ c ≤ 'f' then some (c.toNat - 87)
  else if 'A' ≤ c ∧ c ≤ 'F' then some (c.toNat - 55)
  else none

/-- The base of a numeral and its first two characters, which name it. -/
def radix : List Char → Nat
  | '0' :: c :: _ =>
    if c == 'b' || c == 'B' then 2
    else if c == 'o' || c == 'O' then 8
    else if c == 'x' || c == 'X' then 16
    else 10
  | _ => 10

/-- The part of a numeral that is being read. -/
inductive Part where
  | whole
  | fraction
  | exponent
  | exponentDigits
  | otherBase (radix : Nat)
  deriving DecidableEq

/-- Behind a point, the text goes on with the digits of a fraction or with a power of ten. -/
def continues : List Char → Bool
  | [] => false
  | c :: rest => c.isDigit || ((c == 'e' || c == 'E') && rest.head?.any Char.isDigit)

/-- The part behind one more character, unless the numeral ends in front of it. -/
def Part.next? (part : Part) (c : Char) (rest : List Char) : Option Part :=
  if c.isDigit then some (if part = .exponent then .exponentDigits else part)
  else if c == '_' then some part
  else match part with
    | .whole =>
      if c == '.' then (if continues rest then some .fraction else none)
      else if c == 'e' || c == 'E' then some .exponent
      else none
    | .fraction => if c == 'e' || c == 'E' then some .exponent else none
    | .exponent => if c == '+' || c == '-' then some .exponentDigits else none
    | .otherBase 16 => if (hexValue? c).isSome then some part else none
    | _ => none

/-- The characters of a numeral, the part it ends in, and what follows. -/
def scan (part : Part) (taken : List Char) : List Char → List Char × Part × List Char
  | [] => (taken.reverse, part, [])
  | c :: rest =>
    match part.next? c rest with
    | some next => scan next (c :: taken) rest
    | none => (taken.reverse, part, c :: rest)

/-- The largest whole number that can be written. -/
def limit : Nat := Decimal.twoTo 128 - 1

/-- The value of digits in a base; nothing if there is none, or one is not of the base. -/
def valueIn? (radix : Nat) (cs : List Char) : Option Nat :=
  if cs.isEmpty then none
  else cs.foldlM (fun n c =>
    match hexValue? c with
    | some d => if d < radix then some (n * radix + d) else none
    | none => none) 0

/-- The number that starts a text, and what follows. -/
def read (cs : List Char) : Except String (Token × List Char) :=
  let base := radix cs
  let (taken, part, rest) :=
    if base = 10 then scan .whole [] cs else scan (.otherBase base) [] (cs.drop 2)
  if taken.getLast? == some '_' then .error "'_' may not occur at end of number"
  else
    let digits := taken.filter (· != '_')
    match part with
    | .fraction | .exponent | .exponentDigits =>
      match Decimal.readFloat digits with
      | .ok x => .ok (.float x, rest)
      | .error _ => .error "invalid float"
    | _ =>
      match valueIn? base digits with
      | some n =>
        if n ≤ limit then .ok (.whole n, rest) else .error "invalid integer (too large)"
      | none => .error "invalid integer (too large)"

end Numeral

namespace Quotation

/-- What stands between quotes, before its escapes are read: the characters up to the closing
quote, whether there is an escape among them, and what follows the quote. -/
def scan (quote : Char) (taken : List Char) (escapes : Bool) :
    List Char → Option (List Char × Bool × List Char)
  | [] => none
  | '\\' :: c :: rest => scan quote (c :: '\\' :: taken) true rest
  | c :: rest =>
    if c == quote then some (taken.reverse, escapes, rest)
    else scan quote (c :: taken) escapes rest

/-- A number of digits in a base; a sign in front of it is allowed. -/
def number? (radix : Nat) (cs : List Char) : Option Nat :=
  match cs with
  | '+' :: more => Numeral.valueIn? radix more
  | cs => Numeral.valueIn? radix cs

def isOctal (c : Char) : Bool := '0' ≤ c && c ≤ '7'

def isLead (n : Nat) : Bool := 0xD800 ≤ n && n ≤ 0xDBFF

def isSurrogate (n : Nat) : Bool := 0xD800 ≤ n && n ≤ 0xDFFF

/-- The character of an escape by its octal number, which has to fit a byte. -/
def octal (n : Nat) (rest : Option (List Char)) : Option (List Char) :=
  if n < 256 then rest.map (Char.ofNat n :: ·) else none

/-- The character of an escape by one letter. A letter that stands for nothing stays as it is
written, but the letters of numbers need their digits. -/
def simple? (c : Char) (rest : Option (List Char)) : Option (List Char) :=
  if c == '"' || c == '\\' || c == '/' || c == '\'' then rest.map (c :: ·)
  else if c == 'b' then rest.map ('\x08' :: ·)
  else if c == 'f' then rest.map ('\x0C' :: ·)
  else if c == 'n' then rest.map ('\n' :: ·)
  else if c == 'r' then rest.map ('\r' :: ·)
  else if c == 't' then rest.map ('\t' :: ·)
  else if c == 'u' || c == 'x' then none
  else rest.map fun cs => '\\' :: c :: cs

/-- The text without its escapes; `lead` is the first half of a pair that waits for the second. -/
def unescape (lead : Option Nat) : List Char → Option (List Char)
  | [] => if lead.isSome then none else some []
  | '\\' :: 'u' :: a :: b :: c :: d :: rest =>
    match number? 16 [a, b, c, d], lead with
    | none, _ => none
    | some n, none =>
      if isSurrogate n then unescape (some n) rest
      else (unescape none rest).map (Char.ofNat n :: ·)
    | some n, some first =>
      if isLead first && isSurrogate n && !isLead n then
        (unescape none rest).map
          (Char.ofNat (0x10000 + (first - 0xD800) * 0x400 + (n - 0xDC00)) :: ·)
      else none
  | '\\' :: 'x' :: a :: b :: rest =>
    if lead.isSome then none
    else match number? 16 [a, b] with
      | some n => (unescape none rest).map (Char.ofNat n :: ·)
      | none => none
  | '\\' :: c :: d :: e :: rest =>
    if lead.isSome then none
    else if isOctal c then
      if isOctal d then
        if isOctal e then
          octal (c.toNat * 64 + d.toNat * 8 + e.toNat - 48 * 73) (unescape none rest)
        else octal (c.toNat * 8 + d.toNat - 48 * 9) (unescape none (e :: rest))
      else octal (c.toNat - 48) (unescape none (d :: e :: rest))
    else simple? c (unescape none (d :: e :: rest))
  | ['\\', c, d] =>
    if lead.isSome then none
    else if isOctal c then
      if isOctal d then octal (c.toNat * 8 + d.toNat - 48 * 9) (some [])
      else octal (c.toNat - 48) (unescape none [d])
    else simple? c (unescape none [d])
  | ['\\', c] =>
    if lead.isSome then none
    else if isOctal c then octal (c.toNat - 48) (some [])
    else simple? c (some [])
  | ['\\'] => none
  | c :: rest => if lead.isSome then none else (unescape none rest).map (c :: ·)

end Quotation

end FormLetter.Template
