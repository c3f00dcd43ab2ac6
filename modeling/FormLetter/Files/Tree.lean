import FormLetter.Files.Path
import FormLetter.Text.Utf8

/-!
A file system of files, directories and symbolic links. Entries are kept under their location, the
names from the root down. Operations take paths as text, follow links, and refuse in the order in
which a path is walked.
-/
namespace FormLetter

/-- The names from the root down to an entry. -/
abbrev Location := List String

inductive Entry where
  | file (content : Bytes)
  | directory
  | link (target : String)
  deriving DecidableEq, Repr

structure FileTree where
  entries : List (Location × Entry)
  /-- Where relative paths start. -/
  workingDirectory : Location
  deriving Repr

namespace FileTree

/-- The entry at a location. The root is always a directory. -/
def find? (t : FileTree) (spot : Location) : Option Entry :=
  if spot = [] then some .directory
  else (t.entries.find? (·.1 = spot)).map (·.2)

def putIn (spot : Location) (e : Entry) : List (Location × Entry) → List (Location × Entry)
  | [] => [(spot, e)]
  | (l, old) :: rest => if l = spot then (l, e) :: rest else (l, old) :: putIn spot e rest

/-- Sets the entry at a location. -/
def put (t : FileTree) (spot : Location) (e : Entry) : FileTree :=
  { t with entries := putIn spot e t.entries }

/-- The longest name an entry can have, in bytes. -/
def nameLimit : Nat := 255

/-- Paths of this many bytes or more are refused. -/
def pathLimit : Nat := 4096

/-- How many links may be followed on one path. -/
def linkLimit : Nat := 40

def isTooLong (name : String) : Bool :=
  nameLimit < (bytesOf name).length

/-- Refuses what no path can be. -/
def checkPath (raw : String) : Except IoFault Unit :=
  if raw.toList.contains '\x00' then .error .nullInPath
  else if pathLimit ≤ (bytesOf raw).length then .error .nameTooLong
  else if raw.isEmpty then .error .noSuchEntry
  else .ok ()

/-- Where a path starts, seen from a directory. -/
def startOf (p : Path) (here : Location) : Location :=
  if p.absolute then [] else here

/-- Follows names from a location, every one of which has to exist. A link is handed to `follow`
together with its directory and the names behind it; `left` is the number of links that may still
be followed. -/
def walkWith (t : FileTree) (left : Nat)
    (follow : Location → String → List String → Except IoFault (Location × Nat)) :
    Location → List String → Except IoFault (Location × Nat)
  | here, [] => .ok (here, left)
  | here, name :: rest =>
    match t.find? here with
    | some .directory =>
      if name = "." then walkWith t left follow here rest
      else if name = ".." then walkWith t left follow here.dropLast rest
      else if isTooLong name then .error .nameTooLong
      else match t.find? (here ++ [name]) with
        | none => .error .noSuchEntry
        | some (.link target) => follow here target rest
        | some _ => walkWith t left follow (here ++ [name]) rest
    | _ => .error .notDirectory

/-- Follows names and at most `left` links. -/
def walk (t : FileTree) : Nat → Location → List String → Except IoFault (Location × Nat)
  | 0 => walkWith t 0 fun _ _ _ => .error .tooManyLinks
  | left + 1 => walkWith t (left + 1) fun here target rest =>
      let p := Path.parse target
      walk t left (startOf p here) (p.wholeNames ++ rest)

/-- The location and the entry that a path leads to. -/
def locate (t : FileTree) (raw : String) : Except IoFault (Location × Entry) := do
  checkPath raw
  let p := Path.parse raw
  let (spot, _) ← walk t linkLimit (startOf p t.workingDirectory) p.wholeNames
  match t.find? spot with
  | some e => .ok (spot, e)
  | none => .error .noSuchEntry

def isDirectory (t : FileTree) (raw : String) : Bool :=
  match t.locate raw with
  | .ok (_, .directory) => true
  | _ => false

/-- The content of the file that a path leads to. -/
def read (t : FileTree) (raw : String) : Except IoFault Bytes := do
  match ← t.locate raw with
  | (_, .file content) => .ok content
  | _ => .error .isDirectory

/-- What a path stands for when its last name need not exist. -/
inductive Target where
  /-- The path ends in no name: it is the root, or ends in a dot or two. -/
  | existing
  /-- A name in a directory, and the number of links that may still be followed. -/
  | named (directory : Location) (name : String) (left : Nat)

/-- Walks to the directory of the last name of a path. -/
def target (t : FileTree) (left : Nat) (start : Location) (p : Path) : Except IoFault Target := do
  match p.names.getLast? with
  | none => .ok .existing
  | some last =>
    let (directory, left) ← walk t left start p.names.dropLast
    match t.find? directory with
    | some .directory =>
      .ok (if last = "." ∨ last = ".." then .existing else .named directory last left)
    | _ => .error .notDirectory

/-- Makes the directory that a path names. -/
def makeDirectory (t : FileTree) (raw : String) : Except IoFault FileTree := do
  checkPath raw
  let p := Path.parse raw
  match ← t.target linkLimit (startOf p t.workingDirectory) p with
  | .existing => .error .alreadyExists
  | .named directory name _ =>
    if isTooLong name then .error .nameTooLong
    else match t.find? (directory ++ [name]) with
      | some _ => .error .alreadyExists
      | none => .ok (t.put (directory ++ [name]) .directory)

/-- Makes the directories of a list, innermost first, where none exists: an outer one is made when
an inner one misses it. Directories made before a refusal stay. -/
def makeDirectories (t : FileTree) : List String → FileTree × Except IoFault Unit
  | [] => (t, .ok ())
  | raw :: outer =>
    let again (t : FileTree) : FileTree × Except IoFault Unit :=
      match t.makeDirectory raw with
      | .ok made => (made, .ok ())
      | .error fault => if t.isDirectory raw then (t, .ok ()) else (t, .error fault)
    match t.makeDirectory raw with
    | .ok made => (made, .ok ())
    | .error .noSuchEntry =>
      match makeDirectories t outer with
      | (t, .ok ()) => again t
      | (t, .error fault) => (t, .error fault)
    | .error fault => if t.isDirectory raw then (t, .ok ()) else (t, .error fault)

/-- Whether an existing file may be opened. -/
inductive Opening where
  /-- Nothing may be there yet, not even a link that leads nowhere. -/
  | fresh
  /-- A file that is there is emptied. -/
  | over
  deriving DecidableEq, Repr

/-- The refusal for something that is there and is no plain file. -/
def Opening.refusal : Opening → IoFault
  | .fresh => .alreadyExists
  | .over => .isDirectory

/-- Opens the file that a parsed path names for writing. A link in its last name that may be
followed is handed to `follow`, with the number of links that may still be followed. -/
def openWith (t : FileTree) (mode : Opening)
    (follow : Nat → Location → Path → Except IoFault (FileTree × Location))
    (left : Nat) (start : Location) (p : Path) : Except IoFault (FileTree × Location) := do
  match ← t.target left start p with
  | .existing => .error mode.refusal
  | .named directory name left =>
    let spot := directory ++ [name]
    if p.trailingSlash then .error .isDirectory
    else if isTooLong name then .error .nameTooLong
    else match t.find? spot with
      | none => .ok (t.put spot (.file []), spot)
      | some .directory => .error mode.refusal
      | some (.file _) =>
        match mode with
        | .fresh => .error .alreadyExists
        | .over => .ok (t.put spot (.file []), spot)
      | some (.link target) =>
        match mode with
        | .fresh => .error .alreadyExists
        | .over => follow left (startOf (Path.parse target) directory) (Path.parse target)

/-- Opens the file that a parsed path names, following at most `bound` links in last names. -/
def openAt (t : FileTree) (mode : Opening) :
    Nat → Nat → Location → Path → Except IoFault (FileTree × Location)
  | 0 => openWith t mode fun _ _ _ => .error .tooManyLinks
  | bound + 1 => openWith t mode fun left start p =>
      match left with
      | 0 => .error .tooManyLinks
      | left + 1 => openAt t mode bound left start p

/-- Opens a file for writing; it is empty then. -/
def openFile (t : FileTree) (mode : Opening) (raw : String) :
    Except IoFault (FileTree × Location) := do
  checkPath raw
  let p := Path.parse raw
  t.openAt mode linkLimit linkLimit (startOf p t.workingDirectory) p

/-- Adds bytes at the end of an open file. -/
def append (t : FileTree) (spot : Location) (bytes : Bytes) : FileTree :=
  match t.find? spot with
  | some (.file content) => t.put spot (.file (content ++ bytes))
  | _ => t

end FileTree

end FormLetter
