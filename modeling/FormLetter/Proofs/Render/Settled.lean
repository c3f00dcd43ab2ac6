import FormLetter.Proofs.Files.Overwriting
import FormLetter.Proofs.Files.Reopening
import FormLetter.Render.Output

/-!
Rows that may overwrite, as the answers of an engine and the files decide them. What a row does is
settled once it was done: done again later it writes the same file with the same content, or is
refused again, and makes nothing. Parts of a batch that are settled make up a whole that is.
-/
namespace FormLetter

variable {σ α β : Type}

/-! ### Outcomes -/

/-- What a part of a batch does, on streams that take everything. -/
structure Outcome (α : Type) where
  files : FileTree
  opened : List (Location × Bytes)
  endings : List RowEnd
  printed : Bytes
  reported : Bytes
  result : Except RunError α

namespace Outcome

/-- A part that ends the batch and touches nothing. -/
def failed (files : FileTree) (cause : RunError) : Outcome α :=
  ⟨files, [], [], [], [], .error cause⟩

/-- A part and, unless that has ended the batch, the part behind it. -/
def andThen (first : Outcome α) (next : α → FileTree → Outcome β) : Outcome β :=
  match first.result with
  | .error cause => { first with result := .error cause }
  | .ok a =>
    let second := next a first.files
    ⟨second.files, first.opened ++ second.opened, first.endings ++ second.endings,
      first.printed ++ second.printed, first.reported ++ second.reported, second.result⟩

end Outcome

/-- What an engine answers to a record: the name of its output, and the content. -/
structure Answer where
  name : Except RenderError String
  content : Execution

def Engine.answer (e : Engine σ) (s : σ) (record : Record) : Answer :=
  ⟨(e.executeToString s outputTemplate (rowContext record)).2,
    (e.execute s contentTemplate (rowContext record)).2⟩

namespace Answer

/-- How a row ends whose destination is open, and what it announces. -/
def ends (a : Answer) (name : String) : List RowEnd × Bytes × Except RunError RowEnd :=
  match a.content.failure with
  | some cause => ([], [], .error (.renderContent name cause))
  | none => ([.written], bytesOf (name ++ "\n"), .ok .written)

/-- A row whose destination is open. -/
def filled (a : Answer) (name : String) (files : FileTree) (opened : List (Location × Bytes))
    (printed : Bytes) : Outcome RowEnd :=
  ⟨files, opened, (a.ends name).1, printed ++ (a.ends name).2.1, [], (a.ends name).2.2⟩

/-- A row whose output is a file. -/
def toFile (a : Answer) (name path : String) (files : FileTree) : Outcome RowEnd :=
  match openPath files path true with
  | (made, .error cause) =>
    ⟨made, [], [.skipped], [], bytesOf s!"  {name}: {cause.message}\n", .ok .skipped⟩
  | (made, .ok spot) =>
    a.filled name (made.append spot a.content.emitted) [(spot, a.content.emitted)] []

/-- A row with leave to overwrite, as its answer and the files decide it. -/
def outcome (a : Answer) (row : Nat) (files : FileTree) : Outcome RowEnd :=
  match a.name with
  | .error cause => .failed files (.renderOutputName row cause)
  | .ok name =>
    if name.isEmpty then .failed files (.emptyOutputName row)
    else match Destination.parse name with
      | .stdout => a.filled name files [] a.content.emitted
      | .file path => a.toFile name path files

end Answer

/-- Rows in order; `row` is the number of the first. -/
def outcomes (row : Nat) (tally : Tally) : List Answer → FileTree → Outcome Tally
  | [], files => ⟨files, [], [], [], [], .ok tally⟩
  | a :: rest, files =>
    (a.outcome row files).andThen fun ending => outcomes (row + 1) (tally.count ending) rest

/-! ### Parts that are settled -/

/-- What a part of a batch does is settled once it was done. The files it has opened hold what they
were given last, and done again on what it has left, or on what that has grown to, it writes the
same files and does nothing else. -/
structure SettledOn (t : FileTree) (part : FileTree → Outcome α) : Prop where
  plain : (part t).files.Plain
  grown : t.GrowsTo (part t).files
  holds : (part t).files.HoldsLast (part t).opened
  spares : ∀ spot content, t.find? spot = some (.file content) →
    spot ∉ (part t).opened.map (·.1) → (part t).files.find? spot = some (.file content)
  again : ∀ later : FileTree, later.Plain → (part t).files.GrowsTo later →
    part later = { part t with
      files := later.overwrite (part t).opened
      reported := (part later).reported }

def Settled (part : FileTree → Outcome α) : Prop :=
  ∀ t : FileTree, t.Plain → SettledOn t part

namespace Settled

open FileTree

/-- A part that leaves the files alone. -/
theorem idle (endings : List RowEnd) (printed : Bytes) (result : Except RunError α) :
    Settled fun t => ⟨t, [], endings, printed, [], result⟩ := by
  intro t plain
  refine ⟨plain, .refl t, .nil t, fun _ _ found _ => found, fun later _ _ => rfl⟩

theorem andThen {part : FileTree → Outcome α} {next : α → FileTree → Outcome β}
    (first : Settled part) (second : ∀ a, Settled (next a)) :
    Settled fun t => (part t).andThen next := by
  intro t plain
  have done := first t plain
  cases ended : (part t).result with
  | error cause =>
    have stopped : (part t).andThen next = { part t with result := .error cause } := by
      simp [Outcome.andThen, ended]
    refine ⟨?_, ?_, ?_, ?_, ?_⟩
    · simpa [stopped] using done.plain
    · simpa [stopped] using done.grown
    · simpa [stopped] using done.holds
    · simpa [stopped] using done.spares
    · intro later plain' grown
      rw [stopped] at grown
      have again := done.again later plain' grown
      simp only [stopped]
      rw [Outcome.andThen, again]
      simp [ended]
  | ok a =>
    have done' := second a (part t).files done.plain
    have went : (part t).andThen next =
        ⟨(next a (part t).files).files, (part t).opened ++ (next a (part t).files).opened,
          (part t).endings ++ (next a (part t).files).endings,
          (part t).printed ++ (next a (part t).files).printed,
          (part t).reported ++ (next a (part t).files).reported,
          (next a (part t).files).result⟩ := by
      simp [Outcome.andThen, ended]
    refine ⟨?_, ?_, ?_, ?_, ?_⟩
    · simpa [went] using done'.plain
    · simpa [went] using done.grown.trans done'.grown
    · simpa [went] using done.holds.append done'.holds done'.spares
    · intro spot content found untouched
      simp only [went, List.map_append, List.mem_append, not_or] at untouched ⊢
      exact done'.spares spot content (done.spares spot content found untouched.1) untouched.2
    · intro later plain' grown
      rw [went] at grown
      dsimp only at grown
      -- The second part starts from the files that the first one has written again.
      have grown' := done'.grown.trans grown
      have again := done.again later plain' grown'
      have files := done.holds.hasFiles.mono grown' plain'
      obtain ⟨plain'', further⟩ := plain'.overwrite files
      have again' := done'.again _ plain'' (grown.trans further)
      rw [went, Outcome.andThen, again]
      simp only [ended]
      rw [again']
      simp [overwrite_append]

/-! ### One row -/

theorem toFile (a : Answer) (name path : String) : Settled (a.toFile name path) := by
  intro t plain
  unfold Answer.toFile
  cases opened : openPath t path true with
  | mk made result =>
    cases result with
    | error cause =>
      obtain ⟨plain', grown⟩ := plain.openPath_refused opened
      refine ⟨?_, ?_, ?_, ?_, ?_⟩
      · simpa [opened] using plain'
      · simpa [opened] using grown.growsTo
      · simpa [opened] using HoldsLast.nil made
      · intro spot content found _
        simpa [opened] using grown.kept spot _ found
      · intro later plain'' grown'
        simp only [opened] at grown' ⊢
        obtain ⟨cause', again⟩ := plain.openPath_refused_again opened plain'' grown'
        simp [again]
    | ok spot =>
      obtain ⟨plain', grown, empty, kept⟩ := plain.openPath_opened opened
      have below := ne_nil_of_file empty
      have appended := append_of_empty empty a.content.emitted
      have free : made.find? spot ≠ some .directory := by simp [empty]
      have written := GrowsTo.put_file below free a.content.emitted
      simp only [Answer.filled]
      refine ⟨?_, ?_, ?_, ?_, ?_⟩
      · simpa [opened, appended] using plain'.put_file empty _
      · simpa [opened, appended] using grown.trans written
      · simpa [opened, appended] using HoldsLast.single (made.find?_put_self below _)
      · intro other content found untouched
        have ne : other ≠ spot := by simpa [opened] using untouched
        simpa [opened, appended, find?_put_of_ne made ne] using kept other _ ne found
      · intro later plain'' grown'
        simp only [opened, appended] at grown' ⊢
        -- The file is emptied at the same place, and gets the same content.
        have again := plain.openPath_again opened plain'' (written.trans grown')
        have emptied := later.find?_put_self below (.file [])
        simp [again, append_of_empty emptied, put_put]

/-- A row does what it does ever after. -/
theorem outcome (a : Answer) (row : Nat) : Settled (a.outcome row) := by
  unfold Answer.outcome
  split
  next cause _ => exact idle _ _ _
  next name _ =>
    split
    next => exact idle _ _ _
    next =>
      split
      next => exact idle _ _ _
      next path _ => exact toFile a name path

theorem outcomes (row : Nat) (tally : Tally) (answers : List Answer) :
    Settled (outcomes row tally answers) := by
  induction answers generalizing row tally with
  | nil => exact idle _ _ _
  | cons a rest ih => exact (outcome a row).andThen fun ending => ih (row + 1) (tally.count ending)

end Settled

end FormLetter
