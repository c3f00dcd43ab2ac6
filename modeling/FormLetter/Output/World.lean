import FormLetter.Output.Destination
import FormLetter.Text.Utf8

/-!
All that a run can change: the file system and the two output streams. A stream may have room for
a number of bytes only; a write beyond it stores what fits and fails, and a stream may refuse to
be flushed.
-/
namespace FormLetter

/-! ### Output streams -/

structure Stream where
  written : Bytes
  /-- The bytes it still takes; none means any number. -/
  room : Option Nat
  flushFails : Bool
  deriving DecidableEq, Repr

namespace Stream

/-- A stream that takes everything. -/
def unlimited : Stream := ⟨[], none, false⟩

def limitReached : IoFault := .stopped "limit reached"

def flushFailed : IoFault := .stopped "flush failed"

/-- Writes all bytes, or as many as there is room for. -/
def write (s : Stream) (bytes : Bytes) : Stream × Except IoFault Unit :=
  match s.room with
  | none => ({ s with written := s.written ++ bytes }, .ok ())
  | some room =>
    ({ s with written := s.written ++ bytes.take room, room := some (room - bytes.length) },
      if bytes.length ≤ room then .ok () else .error limitReached)

def flush (s : Stream) : Except IoFault Unit :=
  if s.flushFails then .error flushFailed else .ok ()

end Stream

/-! ### The world of a run -/

structure World where
  files : FileTree
  stdout : Stream
  stderr : Stream
  deriving Repr

/-- An open destination. -/
inductive Sink where
  | stdout
  | file (spot : Location)
  deriving DecidableEq, Repr

namespace World

/-- Opens a destination. Standard output is always open. -/
def openSink (w : World) (d : Destination) (force : Bool) : World × Except SinkError Sink :=
  match d with
  | .stdout => (w, .ok .stdout)
  | .file path =>
    let (files, opened) := openPath w.files path force
    ({ w with files := files }, opened.map .file)

def write (w : World) (bytes : Bytes) : Sink → World × Except IoFault Unit
  | .stdout =>
    let (stdout, result) := w.stdout.write bytes
    ({ w with stdout := stdout }, result)
  | .file spot => ({ w with files := w.files.append spot bytes }, .ok ())

/-- What is still held back is handed over; files hold everything already. -/
def close (w : World) : Sink → Except IoFault Unit
  | .stdout => w.stdout.flush
  | .file _ => .ok ()

/-- Writes a text to standard output. -/
def print (w : World) (text : String) : World × Except IoFault Unit :=
  w.write (bytesOf text) .stdout

/-- Writes a text to standard error. -/
def complain (w : World) (text : String) : World × Except IoFault Unit :=
  let (stderr, result) := w.stderr.write (bytesOf text)
  ({ w with stderr := stderr }, result)

end World

end FormLetter
