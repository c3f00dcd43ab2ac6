import FormLetter.Output.Buffer
import FormLetter.Proofs.Files.Changes
import FormLetter.Proofs.Files.Overwriting
import FormLetter.Proofs.Render.Unforced

/-!
What is in an output once its template was executed. A file holds the bytes that were emitted, all
of them and nothing else, also if the template has failed behind them, and however the bytes were
divided into writes.
-/
namespace FormLetter

/-! ### Through a buffer -/

namespace FileTree

theorem append_append (t : FileTree) (spot : Location) (xs ys : Bytes) :
    (t.append spot xs).append spot ys = t.append spot (xs ++ ys) := by
  by_cases file : ∃ content, t.find? spot = some (.file content)
  · obtain ⟨content, found⟩ := file
    have first := find?_append_self found xs
    simp only [append, found] at first ⊢
    simp [first, put_put]
  · -- Where there is no file, nothing is ever appended.
    have idle (bytes : Bytes) : t.append spot bytes = t := by
      unfold append
      split
      next content found => exact absurd ⟨content, found⟩ file
      next => rfl
    rw [idle, idle, idle]

theorem append_nil (t : FileTree) (spot : Location) : t.append spot [] = t := by
  unfold append
  split
  next content found =>
    rw [List.append_nil]
    exact put_self (ne_nil_of_file found) found
  next => rfl

end FileTree

namespace BufferedFile

def Request.bytes : Request → Bytes
  | .write bytes => bytes
  | .flush => []

/-- What a file that is open holds once it is given up. -/
def settled (state : BufferedFile × FileTree) : FileTree :=
  state.1.drop state.2

/-- Giving the file up and appending to it then comes to the same as asking the buffer. -/
theorem settled_serve (b : BufferedFile) (t : FileTree) (request : Request) :
    (b.serve t request).1.spot = b.spot ∧
      settled (b.serve t request) = (b.drop t).append b.spot request.bytes := by
  cases request with
  | flush =>
    simp [serve, settled, drop, flush, Request.bytes, FileTree.append_nil]
  | write bytes =>
    by_cases room : capacity < b.held.length + bytes.length
    · -- What was held is handed over, and the bytes are held or go the same way.
      by_cases whole : capacity ≤ bytes.length <;>
        simp [serve, write, settled, drop, flush, Request.bytes, room, whole,
          FileTree.append_nil]
    · by_cases whole : capacity ≤ bytes.length
      · -- Bytes that fill the buffer leave room for nothing beside them.
        have none : b.held = [] := List.length_eq_zero_iff.mp (by omega)
        have exactly : ¬ capacity < bytes.length := by omega
        simp [serve, write, settled, drop, flush, Request.bytes, whole, none, exactly,
          FileTree.append_nil]
      · simp [serve, write, settled, drop, flush, Request.bytes, room, whole,
          FileTree.append_append]

theorem settled_serveAll (b : BufferedFile) (t : FileTree) (requests : List Request) :
    settled (b.serveAll t requests) = (b.drop t).append b.spot (requests.flatMap Request.bytes) := by
  induction requests generalizing b t with
  | nil => simp [serveAll, settled, FileTree.append_nil]
  | cons request rest ih =>
    obtain ⟨spot, first⟩ := settled_serve b t request
    rw [settled] at first
    rw [serveAll, ih, spot, first, FileTree.append_append, List.flatMap_cons]

/-- Whichever way a file is given up, it holds all that was written to it. -/
theorem drop_serveAll (t : FileTree) (spot : Location) (requests : List Request) :
    let served := (opened spot).serveAll t requests
    served.1.drop served.2 = t.append spot (requests.flatMap Request.bytes) ∧
      served.1.close served.2 = t.append spot (requests.flatMap Request.bytes) := by
  have settled := settled_serveAll (opened spot) t requests
  have fresh : (opened spot).drop t = t := t.append_nil spot
  rw [fresh] at settled
  refine ⟨settled, ?_⟩
  -- A flush leaves nothing to hand over.
  exact (FileTree.append_nil _ _).trans settled

end BufferedFile

/-! ### Outputs -/

variable {σ : Type} {e : Engine σ} {force : Bool}

/-- An output was made for a path and holds just this content: its path leads to it, nothing else is
different but for directories made on the way, and a buffer that serves any requests for these bytes
leaves the same behind, whether it is given up as it is or flushed first. -/
structure Holds (before opened after : FileTree) (path : String) (spot : Location)
    (content : Bytes) : Prop where
  located : after.locate path = .ok (spot, .file content)
  differs : before.DiffersBy after [spot] (Path.Above · path)
  buffered : ∀ requests : List BufferedFile.Request,
    requests.flatMap BufferedFile.Request.bytes = content →
    let served := (BufferedFile.opened spot).serveAll opened requests
    served.1.drop served.2 = after ∧ served.1.close served.2 = after

theorem holds_of_openPath {files made : FileTree} {path : String} {spot : Location}
    (opened : openPath files path force = (made, .ok spot)) (content : Bytes) :
    Holds files made (made.append spot content) path spot content := by
  obtain ⟨between, differs, free, -, rfl, located⟩ := exists_of_openPath_ok opened
  have empty := between.find?_put_self free.below (.file [])
  have written := FileTree.append_of_empty empty content
  refine ⟨?_, ?_, fun requests same => ?_⟩
  · rw [written]
    exact FileTree.locate_put_file located content
  · rw [written, FileTree.put_put]
    exact differs.put_file free content
  · rw [← same]
    exact BufferedFile.drop_serveAll _ spot requests

/-- The content template was executed into a file. -/
theorem fill_file {s : Session σ} {engine : σ} {content : Bytes} {failure : Option RenderError}
    {context : Json} (spot : Location)
    (executed : e.execute s.engine contentTemplate context = (engine, ⟨content, failure⟩)) :
    s.fill e context (.file spot) =
      (⟨engine, { s.world with files := s.world.files.append spot content }⟩,
        e.outcome ⟨content, failure⟩ (.ok ())) := by
  rw [Session.fill, executed]
  rfl

section File

variable {s : Session σ} {path : String} {spot : Location} {made : FileTree} {engine : σ}
  {content : Bytes} {failure : Option RenderError}

theorem openSink_file {w : World} (opened : openPath w.files path force = (made, .ok spot)) :
    w.openSink (.file path) force = ({ w with files := made }, .ok (.file spot)) := by
  rw [World.openSink, opened]
  rfl

theorem renderSingle_file {table : Table}
    (opened : openPath s.world.files path force = (made, .ok spot))
    (executed : e.execute s.engine contentTemplate (singleContext table) =
      (engine, ⟨content, failure⟩)) :
    let filled : Session σ := ⟨engine, { s.world with files := made.append spot content }⟩
    renderSingle e table (.file path) force s =
      match failure with
      | some cause => (filled, .error (.executeTemplate cause))
      | none => filled.finish (.file spot) (savedMessage (.file path)) := by
  intro filled
  have ends := fill_file (s := { s with world := { s.world with files := made } }) spot executed
  rw [renderSingle, openSink_file opened]
  dsimp only
  rw [ends]
  cases failure <;> rfl

theorem renderRow_file {record : Record} {named : σ}
    (naming : e.executeToString s.engine outputTemplate (rowContext record) = (named, .ok path))
    (isFile : Destination.parse path = .file path)
    (opened : openPath s.world.files path force = (made, .ok spot))
    (executed : e.execute named contentTemplate (rowContext record) = (engine, ⟨content, failure⟩))
    (row : Nat) :
    let filled : Session σ := ⟨engine, { s.world with files := made.append spot content }⟩
    renderRow e force s row record =
      match failure with
      | some cause => (filled, .error (.renderContent path cause))
      | none =>
        let (last, done) := filled.finish (.file spot) (path ++ "\n")
        (last, done.map fun () => .written) := by
  intro filled
  have nonempty := Destination.ne_empty_of_parse isFile
  have sink : s.world.openSink (.parse path) force = _ := isFile ▸ openSink_file opened
  have ends := fill_file (s := ⟨named, { s.world with files := made }⟩) spot executed
  rw [renderRow_of_ok naming nonempty row sink, writeRow, ends]
  cases failure <;> rfl

end File

theorem renderRows_singleton (e : Engine σ) (s : Session σ) (row : Nat) (tally : Tally)
    (record : Record) :
    (renderRows e force s row tally [record]).1 = (renderRow e force s row record).1 := by
  rw [renderRows]
  split
  next ended => rw [ended]
  next ended =>
    rw [ended]
    rfl

/-- The verdict on a batch changes nothing. -/
theorem renderPerRow_fst (e : Engine σ) (records : List Record) (s : Session σ) :
    (renderPerRow e records force s).1 = (renderRows e force s 0 ⟨0, 0⟩ records).1 := by
  unfold renderPerRow
  split
  next ended => rw [ended]
  next ended =>
    rw [ended]
    split <;> rfl

/-- A template that is executed for a file leaves the file with exactly the bytes it has emitted,
whether it fails behind them or not, and everything else as it was but for directories made on the
way to the file. If it fails, then so does the one output or the batch, which names the output that
was to be written, and nothing is printed or reported. -/
theorem file_holds_emitted (e : Engine σ) (force : Bool) (s : Session σ) :
    (∀ table path made spot engine content failure,
      openPath s.world.files path force = (made, .ok spot) →
      e.execute s.engine contentTemplate (singleContext table) = (engine, ⟨content, failure⟩) →
      ∃ after, Holds s.world.files made after path spot content ∧
        (renderSingle e table (.file path) force s).1.world.files = after ∧
        ∀ cause, failure = some cause →
          renderSingle e table (.file path) force s =
            (⟨engine, { s.world with files := after }⟩, .error (.executeTemplate cause))) ∧
    (∀ before record later mid tally named name made spot engine content failure,
      renderRows e force s 0 ⟨0, 0⟩ before = (mid, .ok tally) →
      e.executeToString mid.engine outputTemplate (rowContext record) = (named, .ok name) →
      Destination.parse name = .file name →
      openPath mid.world.files name force = (made, .ok spot) →
      e.execute named contentTemplate (rowContext record) = (engine, ⟨content, failure⟩) →
      ∃ after, Holds mid.world.files made after name spot content ∧
        (renderPerRow e (before ++ [record]) force s).1.world.files = after ∧
        ∀ cause, failure = some cause →
          renderPerRow e (before ++ record :: later) force s =
            (⟨engine, { mid.world with files := after }⟩, .error (.renderContent name cause))) := by
  constructor
  · intro table path made spot engine content failure opened executed
    refine ⟨_, holds_of_openPath opened content, ?_, ?_⟩
    · rw [renderSingle_file opened executed]
      cases failure with
      | some cause => rfl
      | none => exact Session.files_finish ..
    · rintro cause rfl
      exact renderSingle_file opened executed
  · intro before record later mid tally named name made spot engine content failure ran naming isFile
      opened executed
    have rendered := renderRow_file naming isFile opened executed
    refine ⟨_, holds_of_openPath opened content, ?_, ?_⟩
    · rw [renderPerRow_fst, renderRows_append ran, renderRows_singleton, rendered]
      cases failure with
      | some cause => rfl
      | none => exact Session.files_finish ..
    · -- The rows behind the one that fails are not rendered.
      rintro cause rfl
      apply renderPerRow_eq_error
      rw [renderRows_append ran, renderRows, rendered]

/-- A row and a single output whose template stops behind its first bytes, over an older file. -/
theorem file_holds_emitted_over_older :
    let e : Engine Unit := { Engine.constant [] [] with
      execute := fun _ name _ => ((), if name = outputTemplate then ⟨bytesOf "a", none⟩
        else ⟨bytesOf "xy", some (.operation "stopped")⟩) }
    let s : Session Unit :=
      ⟨(), ⟨⟨[(["a"], .file (bytesOf "older"))], []⟩, .unlimited, .unlimited⟩⟩
    let made : FileTree := ⟨[(["a"], .file [])], []⟩
    (∃ after, Holds s.world.files made after "a" ["a"] (bytesOf "xy") ∧
      renderSingle e ⟨[], []⟩ (.file "a") true s = (⟨(), { s.world with files := after }⟩,
        .error (.executeTemplate (.operation "stopped")))) ∧
    ∃ after, Holds s.world.files made after "a" ["a"] (bytesOf "xy") ∧
      renderPerRow e [Record.empty, Record.empty] true s = (⟨(), { s.world with files := after }⟩,
        .error (.renderContent "a" (.operation "stopped"))) := by
  intro e s made
  have opened : openPath s.world.files "a" true = (made, .ok ["a"]) := rfl
  obtain ⟨single, rows⟩ := file_holds_emitted e true s
  constructor
  · obtain ⟨after, holds, -, fails⟩ := single ⟨[], []⟩ "a" made ["a"] () _ _ opened rfl
    exact ⟨after, holds, fails _ rfl⟩
  · obtain ⟨after, holds, -, fails⟩ := rows [] Record.empty [Record.empty] s ⟨0, 0⟩ () "a" made ["a"]
      () _ _ rfl rfl rfl opened rfl
    exact ⟨after, holds, fails _ rfl⟩

end FormLetter
