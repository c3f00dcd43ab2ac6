import FormLetter.Csv.Reader
import FormLetter.Decimal.Integer
import FormLetter.Input.Error

/-!
Tables of named values. Loading is strict about quotes and lenient about shape: short rows are
padded, long rows cut, and every record gets its number as one more field.

The reader splits bytes. A separator outside ASCII is exchanged for an ASCII character that the
text does not use, so that every occurrence of that character in a value read stands for the
separator.
-/
namespace FormLetter

namespace Csv.StandIn

/-- The characters that may stand in, in the order they are tried. -/
def candidates : List Char :=
  ((List.range 127).map fun i => Char.ofNat (i + 1)).filter fun c =>
    c ≠ '"' ∧ c ≠ '\r' ∧ c ≠ '\n'

def isAscii (c : Char) : Bool :=
  c.toNat < 0x80

/-- The character to split on: the separator itself, or the first candidate that is free. -/
def choose? (separator : Char) (text : List Char) : Option Char :=
  if isAscii separator then some separator
  else candidates.find? fun c => !text.contains c

/-- Every `a` becomes `b`. -/
def exchange (a b : Char) (text : List Char) : List Char :=
  text.map fun c => if c = a then b else c

/-- The text with the separator exchanged for what stands in for it. -/
def prepare (separator standIn : Char) (text : List Char) : List Char :=
  if isAscii separator then text else exchange separator standIn text

/-- A value as it stands in the text. -/
def restore (separator standIn : Char) (value : List Char) : List Char :=
  if isAscii separator then value else exchange standIn separator value

end Csv.StandIn

/-- Ordered fields. A field keeps its place when its value is set again. -/
structure Record where
  fields : List (String × String)
  deriving DecidableEq, Repr

namespace Record

def empty : Record := ⟨[]⟩

def setIn (name value : String) : List (String × String) → List (String × String)
  | [] => [(name, value)]
  | (n, v) :: rest => if n = name then (n, value) :: rest else (n, v) :: setIn name value rest

def set (r : Record) (name value : String) : Record :=
  ⟨setIn name value r.fields⟩

def get? (r : Record) (name : String) : Option String :=
  (r.fields.find? (·.1 == name)).map (·.2)

def keys (r : Record) : List String :=
  r.fields.map (·.1)

end Record

/-- How a text is read as a table. -/
structure TableOptions where
  separator : Char
  hasHeader : Bool
  /-- The field that holds the number of a record. -/
  counter : String
  deriving DecidableEq, Repr

/-- The name of the counter unless another is chosen. -/
def defaultCounter : String := "_index_"

structure Table where
  headers : List String
  records : List Record
  deriving DecidableEq, Repr

namespace Table

/-- The bytes that are split, once it is settled what to split on. -/
def readerInput (separator standIn : Char) (text : List Char) : Bytes :=
  Csv.dropMark (Text.Utf8.encode (Csv.StandIn.prepare separator standIn text))

/-- The dialect in which they are split. -/
def readerDialect (standIn : Char) : Csv.Dialect UInt8 :=
  .ofByte (UInt8.ofNat standIn.toNat)

/-- The rows of a text whose quotes are in order, as characters. -/
def rows (separator : Char) (text : List Char) : Except InputError (List (List (List Char))) :=
  match Csv.StandIn.choose? separator text with
  | none => .error (.separatorUnavailable separator)
  | some standIn =>
    let found := Csv.Reader.records (readerDialect standIn) (readerInput separator standIn text)
    match found.mapM fun row => row.mapM Text.Utf8.decode? with
    | none => .error .unreadable
    | some found => .ok (found.map fun row => row.map (Csv.StandIn.restore separator standIn))

/-- The names of the columns when no row gives them. -/
def numberedHeaders (count : Nat) : List String :=
  (List.range count).map fun i => "C" ++ Decimal.ofNat (i + 1)

/-- The record of a row: a value for every header, then the number of the record. -/
def record (headers : List String) (counter : String) (number : Nat) (row : List String) :
    Record :=
  let named := headers.zipIdx.foldl (fun r (name, i) => r.set name (row.getD i "")) Record.empty
  named.set counter (Decimal.ofNat number)

/-- The table of some rows, which may differ in length. A row without fields makes no record and
takes no number. -/
def ofRows (options : TableOptions) : List (List String) → Except InputError Table
  | [] => .error .emptySource
  | first :: rest =>
    let headers := if options.hasHeader then first else numberedHeaders first.length
    let data := (if options.hasHeader then rest else first :: rest).filter (!·.isEmpty)
    .ok ⟨headers, data.zipIdx.map fun (row, i) => record headers options.counter (i + 1) row⟩

/-- Loads a table. Broken quoting is reported before anything else. -/
def load (text : List Char) (options : TableOptions) : Except InputError Table := do
  match Csv.Quoting.check options.separator text with
  | .error m => .error (.malformed m)
  | .ok () =>
    let found ← rows options.separator text
    ofRows options (found.map fun row => row.map String.ofList)

end Table

end FormLetter
