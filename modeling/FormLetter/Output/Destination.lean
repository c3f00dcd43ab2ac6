import FormLetter.Files.Tree
import FormLetter.Input.Source

/-!
Destinations of output, and opening them. Missing directories are made first; an existing entry is
refused unless overwriting is allowed.
-/
namespace FormLetter

inductive Destination where
  | stdout
  | file (path : String)
  deriving DecidableEq, Repr

namespace Destination

/-- Empty or a dash is standard output, anything else a file. -/
def parse (raw : String) : Destination :=
  if raw = "" ∨ raw = stdioName then .stdout else .file raw

def display : Destination → String
  | .stdout => "stdout"
  | .file path => path

end Destination

/-- Why a destination could not be opened. -/
inductive SinkError where
  | exists (path : String)
  | unavailable (path : String) (cause : IoFault)
  | createDirectories (path : String) (cause : IoFault)
  | createFile (path : String) (cause : IoFault)
  deriving DecidableEq, Repr

namespace SinkError

def message : SinkError → String
  | .exists path => s!"output file {path} already exists (use --force to overwrite)"
  | .unavailable path cause => s!"inspect output file {path}: {cause.message}"
  | .createDirectories path cause => s!"create directories {path}: {cause.message}"
  | .createFile path cause => s!"create output file {path}: {cause.message}"

def causes : SinkError → List String
  | .exists _ => []
  | .unavailable _ cause | .createDirectories _ cause | .createFile _ cause => [cause.message]

end SinkError

/-- Makes the directories that enclose a path. -/
def makeParents (files : FileTree) (path : String) : FileTree × Except SinkError Unit :=
  match Path.parent? path with
  | none => (files, .ok ())
  | some parent =>
    match files.makeDirectories (Path.ancestors (parent.length + 1) parent) with
    | (files, .ok ()) => (files, .ok ())
    | (files, .error fault) => (files, .error (.createDirectories parent fault))

/-- Refuses a path that something exists at. -/
def refuseExisting (files : FileTree) (path : String) : Except SinkError Unit :=
  match files.locate path with
  | .ok _ => .error (.exists path)
  | .error .noSuchEntry => .ok ()
  | .error fault => .error (.unavailable path fault)

/-- Creates or empties the file of a path. -/
def createFile (files : FileTree) (path : String) (force : Bool) :
    Except SinkError (FileTree × Location) :=
  match files.openFile (if force then .over else .fresh) path with
  | .ok opened => .ok opened
  | .error .alreadyExists => .error (.exists path)
  | .error fault => .error (.createFile path fault)

/-- Opens a file for output; it is empty then. Directories made on the way stay. -/
def openPath (files : FileTree) (path : String) (force : Bool) :
    FileTree × Except SinkError Location :=
  match makeParents files path with
  | (files, .error e) => (files, .error e)
  | (files, .ok ()) =>
    match if force then .ok () else refuseExisting files path with
    | .error e => (files, .error e)
    | .ok () =>
      match createFile files path force with
      | .ok (files, spot) => (files, .ok spot)
      | .error e => (files, .error e)

end FormLetter
