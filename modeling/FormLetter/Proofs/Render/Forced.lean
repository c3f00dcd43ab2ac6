import FormLetter.Proofs.Render.Joined
import FormLetter.Proofs.Render.Settled

/-!
Batches that may overwrite. Every file that a row opens holds what the last row that opened it has
emitted, and the same batch run again, on what the first run has left, changes nothing: it opens and
skips the same rows, prints the same and ends in the same way.
-/
namespace FormLetter

variable {σ α : Type} {e : Engine σ}

/-! ### What a batch opens -/

/-- The file that a row opens, with what it emits into it. -/
def openedBy (e : Engine σ) (force : Bool) (s : Session σ) (record : Record) :
    List (Location × Bytes) :=
  match e.executeToString s.engine outputTemplate (rowContext record) with
  | (_, .error _) => []
  | (engine, .ok name) =>
    if name.isEmpty then []
    else match s.world.openSink (.parse name) force with
      | (_, .ok (.file spot)) =>
        [(spot, (e.execute engine contentTemplate (rowContext record)).2.emitted)]
      | _ => []

/-- The files that rows open, in order, up to the row that ends the batch. -/
def openings (e : Engine σ) (force : Bool) (s : Session σ) (row : Nat) :
    List Record → List (Location × Bytes)
  | [] => []
  | record :: rest =>
    openedBy e force s record ++
      match renderRow e force s row record with
      | (_, .error _) => []
      | (next, .ok _) => openings e force next (row + 1) rest

/-- How rows end, in order, up to the row that ends the batch. -/
def endings (e : Engine σ) (force : Bool) (s : Session σ) (row : Nat) : List Record → List RowEnd
  | [] => []
  | record :: rest =>
    match renderRow e force s row record with
    | (_, .error _) => []
    | (next, .ok ending) => ending :: endings e force next (row + 1) rest

/-! ### Sessions -/

/-- A step of a session on streams that take everything does what the outcome says, and leaves an
engine that answers as it did. -/
structure Shows (e : Engine σ) (engine : σ) (out err : Bytes)
    (run : Session σ × Except RunError α) (o : Outcome α) : Prop where
  engine : e.Alike run.1.engine engine
  world : run.1.world = ⟨o.files, ⟨out ++ o.printed, none, false⟩, ⟨err ++ o.reported, none, false⟩⟩
  result : run.2 = o.result

variable {engine current : σ}

/-- An engine without a memory answers as it did. -/
theorem exists_answer (steady : e.Steady) (alike : e.Alike current engine) (record : Record) :
    ∃ named filled, e.Alike named engine ∧ e.Alike filled engine ∧
      e.executeToString current outputTemplate (rowContext record) =
        (named, (e.answer engine record).name) ∧
      e.execute named contentTemplate (rowContext record) =
        (filled, (e.answer engine record).content) := by
  obtain ⟨-, name⟩ := alike.executeToString steady outputTemplate (rowContext record)
  have named : e.Alike (e.executeToString current outputTemplate (rowContext record)).1 engine := by
    rw [Engine.executeToString_fst]
    intro other context
    rw [steady current, alike]
  have filled := steady (e.executeToString current outputTemplate (rowContext record)).1
    contentTemplate (rowContext record)
  refine ⟨_, _, named, fun other context => (filled other context).trans (named other context), ?_,
    Prod.ext rfl (named _ _)⟩
  exact Prod.ext rfl name

section Row

variable {a : Answer} {named filled : σ} {context : Json} {record : Record}
  {files files' : FileTree} {out err : Bytes}

/-- Filling a sink that takes everything, and announcing it. -/
theorem shows_writeRow (executed : e.execute named contentTemplate context = (filled, a.content))
    (alike : e.Alike filled engine) {sink : Sink} {printed : Bytes}
    (wrote : (Session.onStreams named files out err).world.write a.content.emitted sink =
      ((Session.onStreams named files' (out ++ printed) err).world, .ok ()))
    (name : String) (opened : List (Location × Bytes)) :
    Shows e engine out err (writeRow e (.onStreams named files out err) context name sink)
      (a.filled name files' opened printed) := by
  have filling : (Session.onStreams named files out err).fill e context sink =
      (.onStreams filled files' (out ++ printed) err, e.outcome a.content (.ok ())) := by
    have executed : e.execute (Session.onStreams named files out err).engine contentTemplate
      context = (filled, a.content) := executed
    simp only [Session.fill, executed, wrote]
    rfl
  have finished : (Session.onStreams filled files' (out ++ printed) err).finish sink
      (name ++ "\n") =
        (.onStreams filled files' (out ++ printed ++ bytesOf (name ++ "\n")) err, .ok ()) := by
    cases sink <;> rfl
  unfold writeRow Answer.filled Answer.ends
  rw [filling, Engine.outcome]
  cases a.content.failure with
  | some cause => exact ⟨alike, by simp [Session.onStreams], rfl⟩
  | none =>
    dsimp only
    rw [finished]
    exact ⟨alike, by simp [Session.onStreams], rfl⟩

theorem shows_toFile (content : e.execute named contentTemplate (rowContext record) =
      (filled, a.content)) (alike : e.Alike named engine) (alike' : e.Alike filled engine)
    {name path : String}
    (naming : e.executeToString current outputTemplate (rowContext record) = (named, .ok name))
    (nonempty : name ≠ "") (destination : Destination.parse name = .file path) (row : Nat) :
    Shows e engine out err (renderRow e true (.onStreams current files out err) row record)
        (a.toFile name path files) ∧
      openedBy e true (.onStreams current files out err) record = (a.toFile name path files).opened := by
  have filledName : name.isEmpty = false := by simpa [String.isEmpty_iff] using nonempty
  unfold Answer.toFile
  cases opened : openPath files path true with
  | mk made result =>
    have sink : (Session.onStreams current files out err).world.openSink (.parse name) true =
        ((Session.onStreams current made out err).world, result.map .file) := by
      rw [destination]
      simp [Session.onStreams, World.openSink, opened]
    have naming : e.executeToString (Session.onStreams current files out err).engine outputTemplate
      (rowContext record) = (named, .ok name) := naming
    unfold openedBy
    rw [naming]
    simp only [filledName, sink]
    cases result with
    | error cause =>
      refine ⟨?_, rfl⟩
      rw [renderRow_of_error naming nonempty row sink, Session.onStreams_world, skipRow_onStreams]
      exact ⟨alike, by simp [Session.onStreams, RowReport.stderr, toString], rfl⟩
    | ok spot =>
      rw [renderRow_of_ok naming nonempty row sink, Session.onStreams_world]
      refine ⟨shows_writeRow content alike' ?_ name _, ?_⟩
      · simp [Session.onStreams, World.write]
      · rw [content]
        rfl

theorem shows_renderRow (steady : e.Steady) (alike : e.Alike current engine) (files : FileTree)
    (out err : Bytes) (row : Nat) (record : Record) :
    Shows e engine out err (renderRow e true (.onStreams current files out err) row record)
        ((e.answer engine record).outcome row files) ∧
      openedBy e true (.onStreams current files out err) record =
        ((e.answer engine record).outcome row files).opened := by
  obtain ⟨named, filled, alike', alike'', name, content⟩ := exists_answer steady alike record
  generalize e.answer engine record = a at name content
  have started : e.executeToString (Session.onStreams current files out err).engine outputTemplate
    (rowContext record) = (named, a.name) := name
  -- Both sides ask the same questions in the same order: for a name, that is not empty, and where
  -- it leads.
  unfold Answer.outcome
  cases naming : a.name with
  | error cause =>
    rw [naming] at started
    constructor
    · rw [renderRow, started]
      exact ⟨alike', by simp [Session.onStreams, Outcome.failed], rfl⟩
    · rw [openedBy, started]
      rfl
  | ok text =>
    rw [naming] at name started
    dsimp only
    by_cases empty : text.isEmpty = true
    · rw [if_pos empty]
      constructor
      · rw [renderRow, started]
        dsimp only
        rw [if_pos empty]
        exact ⟨alike', by simp [Session.onStreams, Outcome.failed], rfl⟩
      · rw [openedBy, started]
        dsimp only
        rw [if_pos empty]
        rfl
    · rw [if_neg empty]
      have nonempty : text ≠ "" := by simpa [String.isEmpty_iff] using empty
      cases destination : Destination.parse text with
      | stdout =>
        constructor
        · rw [renderRow_of_ok started nonempty row (by rw [destination]; rfl)]
          exact shows_writeRow content alike'' rfl text []
        · rw [openedBy, started]
          dsimp only
          rw [if_neg empty, destination]
          rfl
      | file path => exact shows_toFile content alike' alike'' name nonempty destination row

end Row

/-! ### Batches -/

theorem endings_outcome (a : Answer) (row : Nat) (files : FileTree) :
    (a.outcome row files).endings = match (a.outcome row files).result with
      | .ok ending => [ending]
      | .error _ => [] := by
  have ends (name : String) : (a.ends name).1 = match (a.ends name).2.2 with
      | .ok ending => [ending]
      | .error _ => [] := by
    unfold Answer.ends
    cases a.content.failure <;> rfl
  unfold Answer.outcome Answer.toFile
  split
  next => rfl
  next name _ =>
    split
    next => rfl
    next =>
      split
      next => exact ends name
      next =>
        split
        next => rfl
        next => exact ends name

theorem shows_renderRows (steady : e.Steady) (alike : e.Alike current engine) (files : FileTree)
    (out err : Bytes) (row : Nat) (tally : Tally) (records : List Record) :
    let start := Session.onStreams current files out err
    let o := outcomes row tally (records.map (e.answer engine)) files
    Shows e engine out err (renderRows e true start row tally records) o ∧
      openings e true start row records = o.opened ∧ endings e true start row records = o.endings := by
  intro start o
  induction records generalizing current files out err row tally with
  | nil =>
    refine ⟨⟨alike, ?_, rfl⟩, rfl, rfl⟩
    simp [start, o, renderRows, outcomes, Session.onStreams]
  | cons record rest ih =>
    obtain ⟨shows, opened⟩ := shows_renderRow steady alike files out err row record
    have ends := endings_outcome (e.answer engine record) row files
    simp only [start, o, renderRows, openings, endings, List.map_cons, outcomes, opened]
    generalize (e.answer engine record).outcome row files = first at shows ends ⊢
    generalize renderRow e true (.onStreams current files out err) row record = ran at shows ⊢
    obtain ⟨next, result⟩ := ran
    obtain ⟨alike', world, same⟩ := shows
    dsimp only at alike' world same
    subst same
    cases ended : first.result with
    | error cause =>
      rw [ended] at ends
      have stopped : first.andThen (fun ending => outcomes (row + 1) (tally.count ending)
          (rest.map (e.answer engine))) = { first with result := .error cause } := by
        simp [Outcome.andThen, ended]
      rw [stopped]
      exact ⟨⟨alike', world, rfl⟩, List.append_nil _, ends.symm⟩
    | ok ending =>
      rw [ended] at ends
      obtain ⟨engine', world'⟩ := next
      dsimp only at alike' world
      subst world
      -- The later rows start where this one ends.
      obtain ⟨⟨alike'', world, same⟩, opened', ends'⟩ :=
        ih alike' first.files (out ++ first.printed) (err ++ first.reported) (row + 1)
          (tally.count ending)
      simp only [Session.onStreams] at alike'' world same opened' ends'
      simp only [Outcome.andThen, ended]
      refine ⟨⟨alike'', ?_, same⟩, ?_, ?_⟩
      · simp [world]
      · rw [opened']
      · rw [ends', ends]
        rfl

theorem shows_renderPerRow (steady : e.Steady) (alike : e.Alike current engine)
    (files : FileTree) (out err : Bytes) (records : List Record) :
    let start := Session.onStreams current files out err
    let o := outcomes 0 ⟨0, 0⟩ (records.map (e.answer engine)) files
    e.Alike (renderPerRow e records true start).1.engine engine ∧
      (renderPerRow e records true start).1.world =
        ⟨o.files, ⟨out ++ o.printed, none, false⟩, ⟨err ++ o.reported, none, false⟩⟩ ∧
      (renderPerRow e records true start).2 = o.result.bind Tally.verdict := by
  intro start o
  obtain ⟨⟨alike', world, same⟩, -, -⟩ :=
    shows_renderRows steady alike files out err 0 ⟨0, 0⟩ records
  cases ran : renderRows e true start 0 ⟨0, 0⟩ records with
  | mk last result =>
    rw [ran] at alike' world same
    cases result with
    | error cause =>
      rw [renderPerRow_eq_error ran]
      exact ⟨alike', world, congrArg (Except.bind · Tally.verdict) same⟩
    | ok total =>
      rw [renderPerRow_eq_verdict ran]
      exact ⟨alike', world, congrArg (Except.bind · Tally.verdict) same⟩

/-- With leave to overwrite, the last row wins and another run changes nothing. For every engine
whose answers depend on the name and the data alone, every list of records and every file system
without links: when the batch has ended, however that was, every file that a row has opened holds
what the last row that opened it has emitted. The same batch run again on what is left then leaves
every file, every directory and every place as it is, skips the same rows, ends with the same result
and prints the same. -/
theorem renderPerRow_forced_again (e : Engine σ) (steady : e.Steady) (records : List Record)
    (engine : σ) {files : FileTree} (plain : files.Plain) (out err out' err' : Bytes) :
    let start := Session.onStreams engine files out err
    let first := renderPerRow e records true start
    let again := Session.onStreams first.1.engine first.1.world.files out' err'
    let second := renderPerRow e records true again
    (∀ before spot content after,
      openings e true start 0 records = before ++ (spot, content) :: after →
      spot ∉ after.map (·.1) →
      first.1.world.files.find? spot = some (.file content)) ∧
    second.1.world.files = first.1.world.files ∧
    endings e true again 0 records = endings e true start 0 records ∧
    second.2 = first.2 ∧
    ∃ printed, first.1.world.stdout.written = out ++ printed ∧
      second.1.world.stdout.written = out' ++ printed := by
  intro start first again second
  have alike : e.Alike engine engine := fun _ _ => rfl
  obtain ⟨-, opened, ends⟩ := shows_renderRows steady alike files out err 0 ⟨0, 0⟩ records
  obtain ⟨alike', world, result⟩ := shows_renderPerRow steady alike files out err records
  have settled := Settled.outcomes 0 ⟨0, 0⟩ (records.map (e.answer engine)) files plain
  -- The second run starts from what the first has left, where each file holds its last content.
  have repeated := settled.again _ settled.plain (.refl _)
  rw [settled.holds.overwrite_eq] at repeated
  have left : first.1.world.files =
      (outcomes 0 ⟨0, 0⟩ (records.map (e.answer engine)) files).files := congrArg World.files world
  rw [← left] at repeated
  obtain ⟨-, -, ends'⟩ :=
    shows_renderRows steady alike' first.1.world.files out' err' 0 ⟨0, 0⟩ records
  obtain ⟨-, world', result'⟩ :=
    shows_renderPerRow steady alike' first.1.world.files out' err' records
  rw [repeated] at ends' world' result'
  refine ⟨fun before spot content after split last => ?_, ?_, ends'.trans ends.symm,
    result'.trans result.symm, _, congrArg (·.stdout.written) world,
    congrArg (·.stdout.written) world'⟩
  · rw [left]
    exact settled.holds before spot content after (opened ▸ split) last
  · have same := congrArg World.files world'
    exact same

/-- The first field of a record is the name of its output, the second one the content. -/
def Engine.ofFields : Engine Unit where
  markers := []
  compile := fun _ _ _ => ((), .ok ())
  execute := fun _ template context => match context with
    | .object ((_, .string name) :: (_, .string content) :: _) =>
      ((), ⟨bytesOf (if template = outputTemplate then name else content), none⟩)
    | _ => ((), ⟨[], none⟩)
  has := fun _ _ => true
  refused := .io

/-- A file that two rows write, and between them a row whose output would have to lie below it. -/
theorem renderPerRow_forced_again_below_file :
    let records : List Record :=
      [⟨[("n", "a"), ("c", "1")]⟩, ⟨[("n", "a/b"), ("c", "2")]⟩, ⟨[("n", "a"), ("c", "3")]⟩]
    Engine.ofFields.Steady ∧ FileTree.Plain ⟨[], []⟩ ∧
      ∃ first second : Session Unit × Except RunError Nat,
        renderPerRow .ofFields records true (.onStreams () ⟨[], []⟩ [] []) = first ∧
        renderPerRow .ofFields records true
          (.onStreams first.1.engine first.1.world.files [] []) = second ∧
        first.1.world.files.find? ["a"] = some (.file (bytesOf "3")) ∧
        endings .ofFields true (.onStreams first.1.engine first.1.world.files [] []) 0 records =
          [.written, .skipped, .written] ∧
        second.1.world.files = first.1.world.files ∧ second.2 = first.2 := by
  intro records
  have steady : Engine.ofFields.Steady := fun _ _ _ _ _ => rfl
  have plain : FileTree.Plain ⟨[], []⟩ := by
    refine ⟨fun spot target found => ?_, fun spot name found => ?_, rfl⟩
    · cases spot <;> simp [FileTree.find?] at found
    · simp [FileTree.find?] at found
  have opened : openings .ofFields true (.onStreams () ⟨[], []⟩ [] []) 0 records =
    [(["a"], bytesOf "1"), (["a"], bytesOf "3")] := by decide +kernel +zetaReduce
  have ended : endings .ofFields true (.onStreams () ⟨[], []⟩ [] []) 0 records =
    [.written, .skipped, .written] := by decide +kernel +zetaReduce
  obtain ⟨holds, same, ends, result, -⟩ :=
    renderPerRow_forced_again .ofFields steady records () plain [] [] [] []
  exact ⟨steady, plain, _, _, rfl, rfl,
    holds [(["a"], bytesOf "1")] ["a"] (bytesOf "3") [] opened (by simp), ends.trans ended,
    same, result⟩

end FormLetter
