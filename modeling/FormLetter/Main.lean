import FormLetter.CommandLine.Program

/-!
The program on the files of the machine. A run works on a picture of those entries that were looked
at. When it changes a place that is not in the picture, the entry there is looked at and the run
starts over; once every change is in the picture, the changes are carried out and the output is
written.
-/
namespace FormLetter.Host

/-- The path of a location. -/
def pathOf (spot : Location) : String :=
  "/" ++ String.intercalate "/" spot

/-- The location that the names of a path lead to, links aside. -/
def locationOf (here : Location) (raw : String) : Location :=
  let p := Path.parse raw
  p.names.foldl (fun spot name =>
    if name == "." then spot else if name == ".." then spot.dropLast else spot ++ [name])
    (FileTree.startOf p here)

/-- The entry at a location; a link counts as what it leads to. -/
def entryAt (spot : Location) : IO (Option Entry) := do
  let path := (← IO.currentDir) / pathOf spot
  if ← path.isDir then return some .directory
  else if ← path.pathExists then return some (.file (← IO.FS.readBinFile path).toList)
  else return none

/-- Adds the entries on the way to a location to a picture. -/
def lookAt (files : FileTree) (spot : Location) : IO FileTree :=
  (List.range spot.length).foldlM (fun files i => do
    let place := spot.take (i + 1)
    match ← entryAt place with
    | some e => return files.put place e
    | none => return files) files

/-- The entries that a run has changed. -/
def changes (before after : FileTree) : List (Location × Entry) :=
  after.entries.filter fun (spot, e) => before.find? spot != some e

def carryOut : Location × Entry → IO Unit
  | (spot, .directory) => IO.FS.createDir (pathOf spot)
  | (spot, .file content) => IO.FS.writeBinFile (pathOf spot) ⟨content.toArray⟩
  | (_, .link _) => pure ()

/-- The arguments ask for standard input. -/
def readsStdin (files : FileTree) (arguments : List String) : Bool :=
  match CommandLine.readFlags arguments with
  | .error _ => false
  | .ok flags =>
    match Config.ofFlags files flags with
    | .ok config => config.csv.isStdin || config.template.isStdin
    | .error _ => false

partial def readAll (input : IO.FS.Stream) (found : ByteArray) : IO ByteArray := do
  let more ← input.read 65536
  if more.isEmpty then return found else readAll input (found ++ more)

def write (output : IO.FS.Stream) (bytes : Bytes) : IO Unit := do
  output.write ⟨bytes.toArray⟩
  output.flush

/-- Runs until every change is in the picture; `seen` holds the places looked at. -/
partial def runOn (argv : List String) (stdin : Stdin) (color : Bool) (files : FileTree)
    (seen : List Location) : IO UInt32 := do
  let (w, code) :=
    CommandLine.runProgram argv stdin color ⟨files, .unlimited, .unlimited⟩
  let changed := changes files w.files
  let unseen := (changed.map (·.1)).filter (!seen.contains ·)
  if unseen.isEmpty then
    changed.forM carryOut
    write (← IO.getStdout) w.stdout.written
    write (← IO.getStderr) w.stderr.written
    return UInt32.ofNat code
  else runOn argv stdin color (← unseen.foldlM lookAt files) (seen ++ unseen)

end FormLetter.Host

open FormLetter

/-- Looks at what the arguments name, then runs. -/
def main (arguments : List String) : IO UInt32 := do
  let here := (← IO.currentDir).components.filter (!·.isEmpty)
  let known := here :: arguments.map (Host.locationOf here)
  let files ← known.foldlM Host.lookAt ⟨[], here⟩
  let stdin : Stdin ← if Host.readsStdin files arguments then
      pure (.ok (← Host.readAll (← IO.getStdin) .empty).toList)
    else pure (.ok [])
  let color ← (← IO.getStderr).isTty
  Host.runOn (CommandLine.programName :: arguments) stdin color files known
