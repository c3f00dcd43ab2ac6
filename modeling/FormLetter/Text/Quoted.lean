import FormLetter.Text.Property.Extending
import FormLetter.Text.Property.Unprintable

/-!
Texts and characters between quotes, as messages and listings show them: the quote and the
backslash are escaped, and what has no printed form of its own appears by number.
-/
namespace FormLetter.Text.Quoted

def hexDigit (n : Nat) : Char :=
  if n < 10 then Char.ofNat (48 + n) else Char.ofNat (87 + n)

/-- The hexadecimal digits of a number, small letters, no leading zeros. -/
def hex (n : Nat) : List Char :=
  if n < 16 then [hexDigit n] else hex (n / 16) ++ [hexDigit (n % 16)]
termination_by n

def byNumber (c : Char) : List Char :=
  ['\\', 'u', '\x7b'] ++ hex c.toNat ++ ['\x7d']

/-- A letter that is never shown. -/
def isFiller (c : Char) : Bool :=
  inRanges [(0x115F, 0x1160), (0x3164, 0x3164), (0xFFA0, 0xFFA0)] c

/-- One character inside the given quotes. -/
def escape (quote : Char) (c : Char) : List Char :=
  if c == '\x00' then ['\\', '0']
  else if c == '\t' then ['\\', 't']
  else if c == '\r' then ['\\', 'r']
  else if c == '\n' then ['\\', 'n']
  else if c == '\\' then ['\\', '\\']
  else if c == quote then ['\\', quote]
  else if c.toNat < 0x7F && 0x20 ≤ c.toNat then [c]
  else if isExtendingMark c || isUnprintable c || isFiller c then byNumber c
  else [c]

/-- A text in double quotes. -/
def text (cs : List Char) : List Char :=
  ['"'] ++ cs.flatMap (escape '"') ++ ['"']

/-- A character in single quotes. -/
def char (c : Char) : List Char :=
  ['\''] ++ escape '\'' c ++ ['\'']

def ofString (s : String) : String :=
  String.ofList (text s.toList)

def ofChar (c : Char) : String :=
  String.ofList (char c)

end FormLetter.Text.Quoted
