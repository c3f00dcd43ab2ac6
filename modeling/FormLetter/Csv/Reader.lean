import FormLetter.Text.Utf8

/-!
The permissive record reader, over any alphabet. One automaton turns symbols into events (a symbol
of a value, the end of a field, the end of a record), and the records are assembled from the
events. Line feed, carriage return and the two together end a record; lines without any symbol
are no records. The reader refuses nothing: a quote where none belongs is part of the value, and
records may differ in length.
-/
namespace FormLetter.Csv

/-- The symbols with a meaning. -/
structure Dialect (α : Type) where
  separator : α
  quote : α
  carriageReturn : α
  lineFeed : α

/-- The dialect over characters. -/
def Dialect.ofChar (separator : Char) : Dialect Char :=
  ⟨separator, '"', '\r', '\n'⟩

/-- The dialect over bytes. -/
def Dialect.ofByte (separator : UInt8) : Dialect UInt8 :=
  ⟨separator, 0x22, 0x0D, 0x0A⟩

namespace Reader

/-- Where the reader stands. -/
inductive Position where
  /-- Between records. -/
  | recordStart
  /-- Behind a carriage return that ended a record. -/
  | afterReturn
  | fieldStart
  /-- In a field without quotes, or behind the closing quote and more. -/
  | bare
  | quoted
  /-- Right behind a quote of a quoted field. -/
  | quoteInQuoted
  deriving DecidableEq, Repr

inductive Event (α : Type) where
  | symbol (a : α)
  | endField
  | endRecord
  deriving DecidableEq, Repr

variable {α : Type} [DecidableEq α]

/-- A symbol that may end the open field. -/
def inField (d : Dialect α) (a : α) : Position × List (Event α) :=
  if a = d.separator then (.fieldStart, [.endField])
  else if a = d.carriageReturn then (.afterReturn, [.endField, .endRecord])
  else if a = d.lineFeed then (.recordStart, [.endField, .endRecord])
  else (.bare, [.symbol a])

/-- The first symbol of a field. -/
def atFieldStart (d : Dialect α) (a : α) : Position × List (Event α) :=
  if a = d.quote then (.quoted, []) else inField d a

/-- The first symbol of a line; an empty line is skipped. -/
def atRecordStart (d : Dialect α) (a : α) : Position × List (Event α) :=
  if a = d.carriageReturn ∨ a = d.lineFeed then (.recordStart, []) else atFieldStart d a

def step (d : Dialect α) : Position → α → Position × List (Event α)
  | .recordStart, a => atRecordStart d a
  | .afterReturn, a => if a = d.lineFeed then (.recordStart, []) else atRecordStart d a
  | .fieldStart, a => atFieldStart d a
  | .bare, a => inField d a
  | .quoted, a => if a = d.quote then (.quoteInQuoted, []) else (.quoted, [.symbol a])
  | .quoteInQuoted, a => if a = d.quote then (.quoted, [.symbol a]) else inField d a

/-- The end of input ends an open field and its record. -/
def finish : Position → List (Event α)
  | .recordStart | .afterReturn => []
  | _ => [.endField, .endRecord]

def events (d : Dialect α) (p : Position) : List α → List (Event α)
  | [] => finish p
  | a :: rest =>
    let (next, found) := step d p a
    found ++ events d next rest

/-- The position after all symbols. -/
def run (d : Dialect α) (p : Position) (input : List α) : Position :=
  input.foldl (fun p a => (step d p a).1) p

/-- Puts an event in front of the records that follow it. The first field of the first record is
the one that the event belongs to. -/
def prepend (e : Event α) (records : List (List (List α))) : List (List (List α)) :=
  match e, records with
  | .endRecord, rs => [] :: rs
  | .endField, r :: rs => ([] :: r) :: rs
  | .symbol a, (f :: r) :: rs => ((a :: f) :: r) :: rs
  | _, rs => rs

def assemble (es : List (Event α)) : List (List (List α)) :=
  es.foldr prepend []

/-- The records of an input. -/
def records (d : Dialect α) (input : List α) : List (List (List α)) :=
  assemble (events d .recordStart input)

end Reader

/-- Drops one byte-order mark at the start. -/
def dropMark : Bytes → Bytes
  | 0xEF :: 0xBB :: 0xBF :: rest => rest
  | bytes => bytes

end FormLetter.Csv
