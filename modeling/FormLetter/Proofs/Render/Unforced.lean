import FormLetter.Proofs.Files.Opening
import FormLetter.Proofs.Render.Rows
import FormLetter.Run

/-!
Runs that may not overwrite. A file is only ever written to if it was made by the same row, so
everything that is there when a row starts is there unchanged when it ends, and so for the rows of
a batch and for a whole run, however they end.
-/
namespace FormLetter

/-- Writing to the sink cannot touch what is in a file system. -/
def Sink.Spares (files : FileTree) : Sink → Prop
  | .stdout => True
  | .file spot => files.find? spot = none

namespace World

variable {base : FileTree} {w : World} {sink : Sink}

theorem extends_openSink (w : World) (d : Destination) :
    w.files.Extends (w.openSink d false).1.files := by
  cases d with
  | stdout => exact .refl _
  | file path => exact extends_openPath w.files path

theorem exists_of_openSink {path : String} {later : World}
    (opened : w.openSink (.file path) false = (later, .ok sink)) :
    ∃ spot, sink = .file spot ∧ openPath w.files path false = (later.files, .ok spot) := by
  cases found : openPath w.files path false with
  | mk files result =>
    rw [openSink, found] at opened
    cases result with
    | error cause => cases opened
    | ok spot =>
      cases opened
      exact ⟨spot, rfl, rfl⟩

/-- An open sink spares what was there before it was opened. -/
theorem spares_of_openSink {d : Destination} {later : World}
    (opened : w.openSink d false = (later, .ok sink)) : sink.Spares w.files := by
  cases d with
  | stdout =>
    cases opened
    trivial
  | file path =>
    obtain ⟨spot, rfl, found⟩ := exists_of_openSink opened
    obtain ⟨made, parents, -, absent, -⟩ := exists_of_openPath found
    have grown := extends_makeParents w.files path
    rw [parents] at grown
    exact grown.absent absent

theorem extends_write (grown : base.Extends w.files) (spares : sink.Spares base) (bytes : Bytes) :
    base.Extends (w.write bytes sink).1.files := by
  cases sink with
  | stdout => exact grown
  | file spot => exact grown.append_of_absent spares bytes

end World

variable {σ : Type} {e : Engine σ}

namespace Session

theorem extends_fill {base : FileTree} {s : Session σ} {sink : Sink}
    (grown : base.Extends s.world.files) (spares : sink.Spares base) (context : Json) :
    base.Extends (s.fill e context sink).1.world.files :=
  World.extends_write grown spares _

theorem files_finish (s : Session σ) (sink : Sink) (announcement : String) :
    (s.finish sink announcement).1.world.files = s.world.files := by
  unfold finish
  split <;> rfl

end Session

/-! ### One output -/

theorem extends_renderSingle (e : Engine σ) (table : Table) (destination : Destination)
    (s : Session σ) :
    s.world.files.Extends (renderSingle e table destination false s).1.world.files := by
  have grown := s.world.extends_openSink destination
  unfold renderSingle
  cases opened : s.world.openSink destination false with
  | mk world result =>
    rw [opened] at grown
    cases result with
    | error cause => exact grown
    | ok sink =>
      have spares := World.spares_of_openSink opened
      have filled := Session.extends_fill (e := e) (s := { s with world := world }) grown spares
        (singleContext table)
      dsimp only
      split
      next same => rwa [same] at filled
      next same =>
        rw [same] at filled
        rwa [Session.files_finish]

/-! ### One output for every row -/

theorem files_skipRow (s : Session σ) (name : String) (cause : SinkError) :
    (skipRow s name cause).1.world.files = s.world.files := by
  unfold skipRow
  dsimp only
  split <;> rfl

theorem files_writeRow (e : Engine σ) (s : Session σ) (context : Json) (name : String) (sink : Sink) :
    (writeRow e s context name sink).1.world.files =
      (s.world.write (e.execute s.engine contentTemplate context).2.emitted sink).1.files := by
  have filled : (s.fill e context sink).1.world =
    (s.world.write (e.execute s.engine contentTemplate context).2.emitted sink).1 := rfl
  rw [← filled]
  unfold writeRow
  split
  next same => rw [same]
  next same =>
    rw [same]
    exact Session.files_finish ..

/-- Whatever a row does, it touches nothing that was there. -/
theorem extends_renderRow (e : Engine σ) (s : Session σ) (row : Nat) (record : Record) :
    s.world.files.Extends (renderRow e false s row record).1.world.files := by
  unfold renderRow
  dsimp only
  split
  next => exact .refl _
  next engine name named =>
    split
    next => exact .refl _
    next =>
      have grown := s.world.extends_openSink (.parse name)
      split
      next world cause refused =>
        rw [refused] at grown
        rwa [files_skipRow]
      next world sink opened =>
        -- The content goes where nothing was when the row started.
        rw [opened] at grown
        rw [files_writeRow]
        exact World.extends_write grown (World.spares_of_openSink opened) _

theorem extends_renderRows (e : Engine σ) (s : Session σ) (row : Nat) (tally : Tally)
    (records : List Record) :
    s.world.files.Extends (renderRows e false s row tally records).1.world.files := by
  induction records generalizing s row tally with
  | nil => exact .refl _
  | cons record rest ih =>
    have first := extends_renderRow e s row record
    rw [renderRows]
    split
    next ended => rwa [ended] at first
    next next ending ended =>
      rw [ended] at first
      exact first.trans (ih next (row + 1) (tally.count ending))

/-- What is there after some rows is there when the batch ends. -/
theorem extends_renderPerRow_of_append {s mid : Session σ} {tally : Tally} {before : List Record}
    (ran : renderRows e false s 0 ⟨0, 0⟩ before = (mid, .ok tally)) (after : List Record) :
    mid.world.files.Extends (renderPerRow e (before ++ after) false s).1.world.files := by
  -- The rows that are left start from there.
  have grown := extends_renderRows e mid (0 + before.length) tally after
  unfold renderPerRow
  rw [renderRows_append ran]
  split
  next ended => rwa [ended] at grown
  next ended =>
    rw [ended] at grown
    split <;> exact grown

theorem extends_renderPerRow (e : Engine σ) (records : List Record) (s : Session σ) :
    s.world.files.Extends (renderPerRow e records false s).1.world.files := by
  have started : renderRows e false s 0 ⟨0, 0⟩ [] = (s, .ok ⟨0, 0⟩) := rfl
  exact extends_renderPerRow_of_append started records

theorem extends_runWith (e : Engine σ) {config : Config} (unforced : config.force = false)
    (stdin : Stdin) (s : Session σ) :
    s.world.files.Extends (runWith e config stdin s).1.world.files := by
  unfold runWith
  split
  next => exact .refl _
  next table template _ =>
    dsimp only
    split
    next => exact .refl _
    next engine _ =>
      -- Sources are read and templates compiled without a change to the files.
      rw [unforced]
      split
      next destination _ => exact extends_renderSingle e table destination ⟨engine, s.world⟩
      next => exact extends_renderPerRow e table.records ⟨engine, s.world⟩

/-! ### Rows that lead to one place -/

/-- The output of a record is a file, and its name leads to a place. -/
structure Aims (e : Engine σ) (s : Session σ) (record : Record) (name : String) (spot : Location) :
    Prop where
  named : (e.executeToString s.engine outputTemplate (rowContext record)).2 = .ok name
  isFile : Destination.parse name = .file name
  reaches : Reaches s.world.files name spot

/-- The row is reported and nothing is written for it. -/
def Skips (e : Engine σ) (s : Session σ) (row : Nat) (record : Record) (name : String) : Prop :=
  ∃ engine files cause,
    renderRow e false s row record = skipRow ⟨engine, { s.world with files := files }⟩ name cause

theorem Destination.ne_empty_of_parse {name path : String} (isFile : parse name = .file path) :
    name ≠ "" := by
  rintro rfl
  simp [parse] at isFile

namespace Aims

variable {s : Session σ} {record : Record} {name : String} {spot : Location}

theorem exists_engine (aims : Aims e s record name spot) :
    ∃ engine, e.executeToString s.engine outputTemplate (rowContext record) = (engine, .ok name) :=
  ⟨_, Prod.ext rfl aims.named⟩

theorem skips {entry : Entry} (aims : Aims e s record name spot)
    (present : s.world.files.find? spot = some entry) (row : Nat) : Skips e s row record name := by
  obtain ⟨engine, named⟩ := aims.exists_engine
  obtain ⟨files, cause, refused⟩ := aims.reaches.exists_error present
  refine ⟨engine, files, cause, ?_⟩
  apply renderRow_of_error named (Destination.ne_empty_of_parse aims.isFile)
  rw [aims.isFile, World.openSink, refused]
  rfl

/-- A row that leads to a place where nothing is writes a new file there. -/
theorem writes {made : FileTree} (aims : Aims e s record name spot)
    (parents : makeParents s.world.files name = (made, .ok ())) (absent : made.find? spot = none)
    (row : Nat) :
    ∃ engine, renderRow e false s row record =
      writeRow e ⟨engine, { s.world with files := made.put spot (.file []) }⟩ (rowContext record)
        name (.file spot) := by
  obtain ⟨engine, named⟩ := aims.exists_engine
  refine ⟨engine, ?_⟩
  apply renderRow_of_ok named (Destination.ne_empty_of_parse aims.isFile)
  obtain ⟨made', parents', reached⟩ := aims.reaches
  rw [parents] at parents'
  cases parents'
  rcases reached with place | ⟨entry, located⟩
  · rw [aims.isFile, World.openSink, openPath_of_absent parents place absent]
    rfl
  · obtain ⟨-, -, -, present⟩ := FileTree.exists_of_locate located
    rw [absent] at present
    cases present

/-- Where a row has written there is a file. -/
theorem exists_file {next : Session σ} {row : Nat} (aims : Aims e s record name spot)
    (ran : renderRow e false s row record = (next, .ok .written)) :
    ∃ content, next.world.files.find? spot = some (.file content) := by
  obtain ⟨engine, other, world, named, -, skipped | ⟨sink, opened, wrote⟩⟩ := cases_of_renderRow ran
  · obtain ⟨cause, -, skipped⟩ := skipped
    unfold skipRow at skipped
    dsimp only at skipped
    split at skipped <;> cases skipped
  · -- The file is made empty where the name leads, and the content is appended to it.
    have same : other = name := by
      have first := aims.named
      rw [named] at first
      exact Except.ok.inj first
    subst same
    rw [aims.isFile] at opened
    obtain ⟨place, rfl, found⟩ := World.exists_of_openSink opened
    have same := aims.reaches.eq_of_openPath found
    subst same
    obtain ⟨made, -, -, absent, created⟩ := exists_of_openPath found
    have empty : world.files.find? place = some (.file []) := by
      rw [created]
      exact made.find?_put_self (FileTree.ne_nil_of_find?_eq_none absent) _
    have files := files_writeRow e ⟨engine, world⟩ (rowContext record) other (.file place)
    rw [wrote] at files
    have appended := FileTree.find?_append_self empty
      (e.execute engine contentTemplate (rowContext record)).2.emitted
    exact ⟨_, (congrArg (·.find? place) files).trans appended⟩

end Aims

/-- Without leave to overwrite, a run keeps every file as it is, every directory and every link,
however it ends: with one output, with one for every row, and from the configuration on. Within a
batch nothing that some rows have left is changed by later ones. Of the rows that lead to one place,
a row that finds nothing there writes it, and every row after that is skipped. -/
theorem unforced_run_keeps (e : Engine σ) (s : Session σ) :
    (∀ table destination,
      s.world.files.Extends (renderSingle e table destination false s).1.world.files) ∧
    (∀ records, s.world.files.Extends (renderPerRow e records false s).1.world.files) ∧
    (∀ config stdin, config.force = false →
      s.world.files.Extends (runWith e config stdin s).1.world.files) ∧
    (∀ before after mid tally, renderRows e false s 0 ⟨0, 0⟩ before = (mid, .ok tally) →
      mid.world.files.Extends (renderPerRow e (before ++ after) false s).1.world.files) ∧
    (∀ before first between later mid next last subtotal total name name' spot,
      renderRows e false s 0 ⟨0, 0⟩ before = (mid, .ok subtotal) →
      Aims e mid first name spot →
      renderRow e false mid before.length first = (next, .ok .written) →
      renderRows e false s 0 ⟨0, 0⟩ (before ++ first :: between) = (last, .ok total) →
      Aims e last later name' spot →
      Skips e last (before.length + 1 + between.length) later name') ∧
    (∀ row record name spot made, Aims e s record name spot →
      makeParents s.world.files name = (made, .ok ()) → made.find? spot = none →
      ∃ engine, renderRow e false s row record =
        writeRow e ⟨engine, { s.world with files := made.put spot (.file []) }⟩
          (rowContext record) name (.file spot)) := by
  refine ⟨fun table destination => extends_renderSingle e table destination s,
    fun records => extends_renderPerRow e records s,
    fun config stdin unforced => extends_runWith e unforced stdin s, ?_, ?_, ?_⟩
  · intro before after mid tally ran
    exact extends_renderPerRow_of_append ran after
  · intro before first between later mid next last subtotal total name name' spot ran aims wrote
      whole aims'
    -- The file of the first row is there when it ends, and still when the later row starts.
    obtain ⟨content, present⟩ := aims.exists_file wrote
    rw [renderRows_append ran, Nat.zero_add, renderRows_cons wrote] at whole
    have grown := extends_renderRows e next (before.length + 1) (subtotal.count .written) between
    rw [whole] at grown
    exact aims'.skips (grown.kept _ _ present) _
  · intro row record name spot made aims parents absent
    exact aims.writes parents absent row

/-- Two records whose outputs have one name: the first writes it and the second is skipped. -/
theorem unforced_run_keeps_one_name :
    let e := Engine.constant [] (bytesOf "a")
    let s : Session Unit := ⟨(), ⟨[(["b"], .link "a")], []⟩, .unlimited, .unlimited⟩
    (∃ engine, renderRow e false s 0 Record.empty =
      writeRow e ⟨engine, { s.world with files := s.world.files.put ["a"] (.file []) }⟩
        (rowContext Record.empty) "a" (.file ["a"])) ∧
    Skips e (renderRows e false s 0 ⟨0, 0⟩ [Record.empty]).1 1 Record.empty "a" := by
  intro e s
  obtain ⟨-, -, -, -, once, free⟩ := unforced_run_keeps e s
  have aims (entries : List (Location × Entry)) (stdout : Stream) :
      Aims e ⟨(), ⟨entries, []⟩, stdout, .unlimited⟩ Record.empty "a" ["a"] :=
    ⟨rfl, rfl, _, rfl, .inl rfl⟩
  have wrote : renderRow e false s 0 Record.empty =
      (⟨(), ⟨[(["b"], .link "a"), (["a"], .file (bytesOf "a"))], []⟩, _, .unlimited⟩,
        .ok .written) := rfl
  refine ⟨free 0 Record.empty "a" ["a"] s.world.files (aims _ _) rfl rfl, ?_⟩
  exact once [] Record.empty [] Record.empty s _ _ _ _ "a" "a" ["a"] rfl (aims _ _) wrote rfl
    (aims _ _)

end FormLetter
