/-!
UTF-8 as a byte automaton. `pieces` splits any byte string into characters and maximal malformed
stretches; the lenient and the strict reader are two views of that one split.
-/
namespace FormLetter.Text.Utf8

/-- The bytes of a text. -/
def encode (cs : List Char) : List UInt8 :=
  cs.flatMap String.utf8EncodeChar

@[simp] theorem encode_nil : encode [] = [] := rfl

@[simp] theorem encode_cons (c : Char) (cs : List Char) :
    encode (c :: cs) = String.utf8EncodeChar c ++ encode cs := rfl

@[simp] theorem encode_append (cs ds : List Char) : encode (cs ++ ds) = encode cs ++ encode ds := by
  simp [encode]

/-- A stretch of bytes: a character, bytes that start no character, or a character cut off by
the end of the input. The lengths count bytes. -/
inductive Piece where
  | char (c : Char)
  | malformed (length : Nat)
  | cut (length : Nat)
  deriving DecidableEq

/-- The state inside a character: how many bytes are owed, the range of the next one, the bits
read so far and the bytes they took. -/
structure Owing where
  owed : Nat
  low : UInt8
  high : UInt8
  bits : Nat
  seen : Nat
  deriving DecidableEq

/-- What a byte that stands first means. -/
inductive Lead where
  | ascii
  | opens (state : Owing)
  | invalid
  deriving DecidableEq

def lead (b : UInt8) : Lead :=
  if b ≤ 0x7F then .ascii
  else if b < 0xC2 then .invalid
  else if b ≤ 0xDF then .opens ⟨1, 0x80, 0xBF, b.toNat - 0xC0, 1⟩
  else if b = 0xE0 then .opens ⟨2, 0xA0, 0xBF, 0, 1⟩
  else if b = 0xED then .opens ⟨2, 0x80, 0x9F, 0xD, 1⟩
  else if b ≤ 0xEF then .opens ⟨2, 0x80, 0xBF, b.toNat - 0xE0, 1⟩
  else if b = 0xF0 then .opens ⟨3, 0x90, 0xBF, 0, 1⟩
  else if b ≤ 0xF3 then .opens ⟨3, 0x80, 0xBF, b.toNat - 0xF0, 1⟩
  else if b = 0xF4 then .opens ⟨3, 0x80, 0x8F, 4, 1⟩
  else .invalid

/-- A byte between two characters. -/
def start (b : UInt8) : List Piece × Option Owing :=
  match lead b with
  | .ascii => ([.char (Char.ofNat b.toNat)], none)
  | .opens state => ([], some state)
  | .invalid => ([.malformed 1], none)

/-- One byte. A byte that cannot continue the open character ends it as malformed and is read
again as a first byte. -/
def step : Option Owing → UInt8 → List Piece × Option Owing
  | none, b => start b
  | some s, b =>
    if s.low ≤ b ∧ b ≤ s.high then
      let bits := s.bits * 64 + (b.toNat - 0x80)
      if s.owed ≤ 1 then ([.char (Char.ofNat bits)], none)
      else ([], some ⟨s.owed - 1, 0x80, 0xBF, bits, s.seen + 1⟩)
    else
      let (found, next) := start b
      (.malformed s.seen :: found, next)

/-- The pieces of the bytes read from a state on. -/
def piecesFrom : Option Owing → List UInt8 → List Piece
  | none, [] => []
  | some s, [] => [.cut s.seen]
  | state, b :: rest =>
    let (found, next) := step state b
    found ++ piecesFrom next rest

def pieces (bytes : List UInt8) : List Piece :=
  piecesFrom none bytes

/-- The character that stands for what cannot be read. -/
def replacement : Char := '\uFFFD'

def Piece.lenient : Piece → Char
  | .char c => c
  | _ => replacement

/-- Reads any bytes; every malformed stretch becomes one replacement character. -/
def decodeLenient (bytes : List UInt8) : List Char :=
  (pieces bytes).map Piece.lenient

def Piece.char? : Piece → Option Char
  | .char c => some c
  | _ => none

/-- Reads well-formed bytes only. -/
def decode? (bytes : List UInt8) : Option (List Char) :=
  (pieces bytes).mapM Piece.char?

/-- Where bytes first stop being UTF-8, and the length of the malformed stretch, which is absent
when the input ends inside a character. -/
structure Fault where
  offset : Nat
  length : Option Nat
  deriving DecidableEq

def faultFrom (offset : Nat) : List Piece → Option Fault
  | [] => none
  | .char c :: rest => faultFrom (offset + c.utf8Size) rest
  | .malformed n :: _ => some ⟨offset, some n⟩
  | .cut _ :: _ => some ⟨offset, none⟩

def fault? (bytes : List UInt8) : Option Fault :=
  faultFrom 0 (pieces bytes)

def Fault.message (f : Fault) : String :=
  match f.length with
  | some n => s!"invalid utf-8 sequence of {n} bytes from index {f.offset}"
  | none => s!"incomplete utf-8 byte sequence from index {f.offset}"

end FormLetter.Text.Utf8

namespace FormLetter

/-- A byte string. -/
abbrev Bytes := List UInt8

/-- The UTF-8 bytes of a text. -/
def bytesOf (s : String) : Bytes :=
  Text.Utf8.encode s.toList

theorem bytesOf_append (s t : String) : bytesOf (s ++ t) = bytesOf s ++ bytesOf t := by
  simp [bytesOf]

end FormLetter
