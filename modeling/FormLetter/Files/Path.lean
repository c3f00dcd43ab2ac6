/-!
Paths as text: their names, and the path of the enclosing directory, which is a piece of the text;
and what the file system may report of one.
-/
namespace FormLetter

/-- Why the file system or a stream refuses. -/
inductive IoFault where
  | noSuchEntry
  | alreadyExists
  | notDirectory
  | isDirectory
  | nameTooLong
  | tooManyLinks
  /-- A null character in a path. -/
  | nullInPath
  /-- A stream's own report. -/
  | stopped (report : String)
  deriving DecidableEq, Repr

def IoFault.message : IoFault → String
  | .noSuchEntry => "No such file or directory (os error 2)"
  | .alreadyExists => "File exists (os error 17)"
  | .notDirectory => "Not a directory (os error 20)"
  | .isDirectory => "Is a directory (os error 21)"
  | .nameTooLong => "File name too long (os error 36)"
  | .tooManyLinks => "Too many levels of symbolic links (os error 40)"
  | .nullInPath => "file name contained an unexpected NUL byte"
  | .stopped report => report

/-- The pieces between slashes, empty ones included. -/
def splitSlashes : List Char → List (List Char)
  | [] => [[]]
  | c :: rest =>
    match splitSlashes rest with
    | [] => [[c]]
    | piece :: more => if c = '/' then [] :: piece :: more else (c :: piece) :: more

/-- A path as the file system follows it. -/
structure Path where
  absolute : Bool
  names : List String
  /-- A slash behind the last name. -/
  trailingSlash : Bool
  deriving DecidableEq, Repr

namespace Path

def parse (raw : String) : Path :=
  let cs := raw.toList
  let names := (splitSlashes cs).filter (!·.isEmpty)
  ⟨cs.head? == some '/', names.map String.ofList, cs.getLast? == some '/' && !names.isEmpty⟩

/-- The names to follow when the path stands for something that exists: a trailing slash asks for
a directory. -/
def wholeNames (p : Path) : List String :=
  if p.trailingSlash then p.names ++ ["."] else p.names

/-- Where the components of a path end, counted in characters. Empty pieces are no components, and
a single dot is one only at the start of a relative path. -/
def componentEnds (first : Bool) (position : Nat) : List (List Char) → List Nat
  | [] => []
  | piece :: rest =>
    let stop := position + piece.length
    let later := componentEnds false (stop + 1) rest
    if piece.isEmpty || (piece == ['.'] && !first) then later else stop :: later

/-- The text of the directory that encloses the last component; nothing for the root and for the
empty path. -/
def parent? (raw : String) : Option String :=
  let cs := raw.toList
  let absolute := cs.head? == some '/'
  let ends := componentEnds (!absolute) 0 (splitSlashes cs)
  match ends.reverse with
  | [] => none
  | _ :: before :: _ => some (String.ofList (cs.take before))
  | [_] => some (if absolute then "/" else "")

/-- The path and its enclosing directories, innermost first, without the empty path. The number
bounds how many are listed. -/
def ancestors (bound : Nat) (raw : String) : List String :=
  match bound with
  | 0 => []
  | bound + 1 =>
    if raw.isEmpty then []
    else match parent? raw with
      | some p => raw :: ancestors bound p
      | none => [raw]

end Path

end FormLetter
