import FormLetter.Files.Tree

/-!
Files that are written to through a buffer. Bytes are held back while there is room for them, and
reach the file when there is none, when the buffer is flushed, and when it is given up.
-/
namespace FormLetter

/-- An open file, and the bytes that it has not got yet. -/
structure BufferedFile where
  spot : Location
  held : Bytes
  deriving DecidableEq, Repr

/-- What is asked of a file while it is open. -/
inductive BufferedFile.Request where
  | write (bytes : Bytes)
  | flush
  deriving DecidableEq, Repr

namespace BufferedFile

/-- The room of a buffer, in bytes. -/
def capacity : Nat := 8192

/-- A file that was just opened. -/
def opened (spot : Location) : BufferedFile := ⟨spot, []⟩

/-- Hands over what is held back. -/
def flush (b : BufferedFile) (t : FileTree) : BufferedFile × FileTree :=
  ({ b with held := [] }, t.append b.spot b.held)

/-- Holds bytes back. What they find no room beside is handed over first, and bytes that fill a
whole buffer are not held back at all. -/
def write (b : BufferedFile) (t : FileTree) (bytes : Bytes) : BufferedFile × FileTree :=
  let (b, t) := if capacity < b.held.length + bytes.length then b.flush t else (b, t)
  if capacity ≤ bytes.length then (b, t.append b.spot bytes)
  else ({ b with held := b.held ++ bytes }, t)

def serve (b : BufferedFile) (t : FileTree) : Request → BufferedFile × FileTree
  | .write bytes => b.write t bytes
  | .flush => b.flush t

/-- Serves requests in order. -/
def serveAll (b : BufferedFile) (t : FileTree) : List Request → BufferedFile × FileTree
  | [] => (b, t)
  | request :: rest =>
    let (b, t) := b.serve t request
    b.serveAll t rest

/-- Gives the file up, which hands over what is still held back. -/
def drop (b : BufferedFile) (t : FileTree) : FileTree :=
  (b.flush t).2

/-- Flushes, and gives the file up then. -/
def close (b : BufferedFile) (t : FileTree) : FileTree :=
  let (b, t) := b.flush t
  b.drop t

end BufferedFile

end FormLetter
