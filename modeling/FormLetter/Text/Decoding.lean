import FormLetter.Text.Utf8

/-!
Text from bytes of unknown encoding: a byte-order mark decides; without one, UTF-8 is taken when
the bytes allow it, and the Western single-byte code page otherwise, so decoding never fails.
-/
namespace FormLetter.Text

inductive Encoding where
  | utf8
  | utf16le
  | utf16be
  | windows1252
  deriving DecidableEq, Repr

def Encoding.name : Encoding → String
  | .utf8 => "UTF-8"
  | .utf16le => "UTF-16LE"
  | .utf16be => "UTF-16BE"
  | .windows1252 => "windows-1252"

namespace Western

/-- The code page's characters for the bytes 0x80 to 0x9F; every other byte is its own code
point. -/
def upperControls : List Nat :=
  [0x20AC, 0x81, 0x201A, 0x192, 0x201E, 0x2026, 0x2020, 0x2021,
   0x2C6, 0x2030, 0x160, 0x2039, 0x152, 0x8D, 0x17D, 0x8F,
   0x90, 0x2018, 0x2019, 0x201C, 0x201D, 0x2022, 0x2013, 0x2014,
   0x2DC, 0x2122, 0x161, 0x203A, 0x153, 0x9D, 0x17E, 0x178]

def decodeByte (b : UInt8) : Char :=
  if 0x80 ≤ b ∧ b ≤ 0x9F then Char.ofNat (upperControls.getD (b.toNat - 0x80) 0)
  else Char.ofNat b.toNat

def decode (bytes : Bytes) : List Char :=
  bytes.map decodeByte

end Western

namespace Utf16

/-- The sixteen-bit units of the bytes, and whether a byte is left over. -/
def units (join : UInt8 → UInt8 → Nat) : Bytes → List Nat × Bool
  | [] => ([], false)
  | [_] => ([], true)
  | a :: b :: rest =>
    let (us, odd) := units join rest
    (join a b :: us, odd)

def littleEndian (a b : UInt8) : Nat := b.toNat * 256 + a.toNat

def bigEndian (a b : UInt8) : Nat := a.toNat * 256 + b.toNat

def isHigh (u : Nat) : Bool := 0xD800 ≤ u && u < 0xDC00

def isLow (u : Nat) : Bool := 0xDC00 ≤ u && u < 0xE000

def join (high low : Nat) : Char :=
  Char.ofNat (0x10000 + (high - 0xD800) * 1024 + (low - 0xDC00))

/-- Characters from units. A surrogate without its partner becomes one replacement character, and
so does an odd byte at the end, together with a high surrogate right before it. -/
def decodeUnits (odd : Bool) : List Nat → List Char
  | [] => if odd then [Utf8.replacement] else []
  | [u] =>
    if isHigh u then [Utf8.replacement]
    else if isLow u then Utf8.replacement :: decodeUnits odd []
    else Char.ofNat u :: decodeUnits odd []
  | u :: v :: rest =>
    if isHigh u then
      if isLow v then join u v :: decodeUnits odd rest
      else Utf8.replacement :: decodeUnits odd (v :: rest)
    else if isLow u then Utf8.replacement :: decodeUnits odd (v :: rest)
    else Char.ofNat u :: decodeUnits odd (v :: rest)

def decode (pair : UInt8 → UInt8 → Nat) (bytes : Bytes) : List Char :=
  let (us, odd) := units pair bytes
  decodeUnits odd us

/-- The sixteen-bit units of a character. -/
def charUnits (c : Char) : List Nat :=
  if c.toNat < 0x10000 then [c.toNat]
  else [0xD800 + (c.toNat - 0x10000) / 1024, 0xDC00 + (c.toNat - 0x10000) % 1024]

def encodeLittle (cs : List Char) : Bytes :=
  (cs.flatMap charUnits).flatMap fun u => [(u % 256).toUInt8, (u / 256).toUInt8]

def encodeBig (cs : List Char) : Bytes :=
  (cs.flatMap charUnits).flatMap fun u => [(u / 256).toUInt8, (u % 256).toUInt8]

end Utf16

/-- A decoded text and the encoding it was read as. -/
structure Decoded where
  text : List Char
  encoding : Encoding
  deriving DecidableEq

/-- A byte-order mark selects its encoding and is dropped; only one mark is. -/
def decode : Bytes → Decoded
  | 0xEF :: 0xBB :: 0xBF :: rest => ⟨Utf8.decodeLenient rest, .utf8⟩
  | 0xFF :: 0xFE :: rest => ⟨Utf16.decode Utf16.littleEndian rest, .utf16le⟩
  | 0xFE :: 0xFF :: rest => ⟨Utf16.decode Utf16.bigEndian rest, .utf16be⟩
  | bytes =>
    match Utf8.decode? bytes with
    | some cs => ⟨cs, .utf8⟩
    | none => ⟨Western.decode bytes, .windows1252⟩

/-- The text of some bytes. -/
def decodeText (bytes : Bytes) : String :=
  String.ofList (decode bytes).text

end FormLetter.Text
