import FormLetter.Proofs.Render.Batch

/-!
Batches put one behind the other. An engine whose answers depend on the name and the data alone
cannot tell whether rows came before, and neither can a stream; so a batch of two parts is the
first part and then the second, on the files that the first has left. A failure that ends the first
part ends the whole there.
-/
namespace FormLetter

variable {σ : Type} {e : Engine σ}

/-! ### Engines without a memory -/

namespace Engine

/-- The two states answer alike. -/
def Alike (e : Engine σ) (s t : σ) : Prop :=
  ∀ name context, (e.execute s name context).2 = (e.execute t name context).2

/-- What the engine answers depends on the name and the data, and not on what it has executed. -/
def Steady (e : Engine σ) : Prop :=
  ∀ s name context, e.Alike (e.execute s name context).1 s

variable {s t : σ}

theorem Alike.execute (alike : e.Alike s t) (steady : e.Steady) (name : String) (context : Json) :
    e.Alike (e.execute s name context).1 (e.execute t name context).1 := by
  intro name' context'
  rw [steady s, steady t, alike]

theorem executeToString_fst (e : Engine σ) (s : σ) (name : String) (context : Json) :
    (e.executeToString s name context).1 = (e.execute s name context).1 := by
  unfold executeToString
  generalize e.execute s name context = executed
  obtain ⟨next, x⟩ := executed
  dsimp only
  split
  next => rfl
  next => split <;> rfl

/-- States that answer alike give the same text, and answer alike behind it. -/
theorem Alike.executeToString (alike : e.Alike s t) (steady : e.Steady) (name : String)
    (context : Json) :
    e.Alike (e.executeToString s name context).1 (e.executeToString t name context).1 ∧
      (e.executeToString s name context).2 = (e.executeToString t name context).2 := by
  constructor
  · rw [executeToString_fst, executeToString_fst]
    exact alike.execute steady name context
  · have same := alike name context
    unfold Engine.executeToString
    generalize e.execute s name context = left at same
    generalize e.execute t name context = right at same
    obtain ⟨_, x⟩ := left
    obtain ⟨_, y⟩ := right
    dsimp only at same
    subst same
    dsimp only
    split
    next => rfl
    next => split <;> rfl

end Engine

/-! ### Streams with something on them -/

/-- The stream as it is if more was written before. -/
def Stream.behind (earlier : Bytes) (s : Stream) : Stream :=
  { s with written := earlier ++ s.written }

theorem Stream.write_behind (earlier : Bytes) (s : Stream) (bytes : Bytes) :
    (s.behind earlier).write bytes = ((s.write bytes).1.behind earlier, (s.write bytes).2) := by
  obtain ⟨written, room, flushFails⟩ := s
  cases room with
  | none => simp [Stream.write, behind]
  | some room => simp [Stream.write, behind]

namespace World

variable (out err : Bytes)

/-- The world as it is if more was printed and reported before. -/
def behind (w : World) : World :=
  { w with stdout := w.stdout.behind out, stderr := w.stderr.behind err }

theorem openSink_behind (w : World) (d : Destination) (force : Bool) :
    (w.behind out err).openSink d force =
      ((w.openSink d force).1.behind out err, (w.openSink d force).2) := by
  cases d <;> rfl

theorem write_behind (w : World) (bytes : Bytes) (sink : Sink) :
    (w.behind out err).write bytes sink =
      ((w.write bytes sink).1.behind out err, (w.write bytes sink).2) := by
  cases sink with
  | file spot => rfl
  | stdout =>
    have wrote := w.stdout.write_behind out bytes
    simp only [World.write, behind, wrote]

theorem close_behind (w : World) (sink : Sink) : (w.behind out err).close sink = w.close sink := by
  cases sink <;> rfl

theorem complain_behind (w : World) (text : String) :
    (w.behind out err).complain text =
      ((w.complain text).1.behind out err, (w.complain text).2) := by
  have wrote := w.stderr.write_behind err (bytesOf text)
  simp only [complain, behind, wrote]

end World

/-! ### The same rows further on -/

/-- The error of a row that so many rows stand before. -/
def RunError.later (rows : Nat) : RunError → RunError
  | .renderOutputName row cause => .renderOutputName (row + rows) cause
  | .emptyOutputName row => .emptyOutputName (row + rows)
  | cause => cause

/-- One session goes on where another starts: it has printed and reported something before, and the
engine answers alike in both. -/
structure Session.Resumes (e : Engine σ) (out err : Bytes) (start further : Session σ) : Prop where
  engine : e.Alike start.engine further.engine
  world : further.world = start.world.behind out err

/-- What a step does to a session further on is what it does to the session it resumes; errors
count the rows before. -/
structure Resumed (e : Engine σ) (out err : Bytes) (rows : Nat) {α : Type}
    (result further : Session σ × Except RunError α) : Prop where
  session : Session.Resumes e out err result.1 further.1
  verdict : further.2 = result.2.mapError (.later rows)

variable {out err : Bytes} {start further : Session σ} {force : Bool}

namespace Session.Resumes

theorem outputs (resumes : Resumes e out err start further) :
    further.world.files = start.world.files ∧
      further.world.stdout.written = out ++ start.world.stdout.written ∧
      further.world.stderr.written = err ++ start.world.stderr.written := by
  rw [resumes.world]
  exact ⟨rfl, rfl, rfl⟩

theorem fill (resumes : Resumes e out err start further) (steady : e.Steady) (context : Json)
    (sink : Sink) :
    Resumes e out err (start.fill e context sink).1 (further.fill e context sink).1 ∧
      (further.fill e context sink).2 = (start.fill e context sink).2 := by
  obtain ⟨alike, world⟩ := resumes
  have same := alike contentTemplate context
  have wrote := World.write_behind out err start.world
    (e.execute start.engine contentTemplate context).2.emitted sink
  simp only [Session.fill, ← same, world, wrote]
  exact ⟨⟨alike.execute steady contentTemplate context, rfl⟩, trivial⟩

theorem finish (resumes : Resumes e out err start further) (sink : Sink) (announcement : String)
    (rows : Nat) :
    Resumed e out err rows (start.finish sink announcement) (further.finish sink announcement) := by
  obtain ⟨alike, world⟩ := resumes
  have printed := World.write_behind out err start.world (bytesOf announcement) .stdout
  unfold Session.finish
  rw [world, World.close_behind]
  cases start.world.close sink with
  | error fault => exact ⟨⟨alike, world⟩, rfl⟩
  | ok =>
    simp only [World.print, printed]
    -- A refused announcement names no row.
    refine ⟨⟨alike, rfl⟩, ?_⟩
    cases (start.world.write (bytesOf announcement) .stdout).2 <;> rfl

theorem skipRow (resumes : Resumes e out err start further) (name : String) (cause : SinkError)
    (rows : Nat) :
    Resumed e out err rows (FormLetter.skipRow start name cause)
      (FormLetter.skipRow further name cause) := by
  obtain ⟨alike, world⟩ := resumes
  have complained := World.complain_behind out err start.world s!"  {name}: {cause.message}\n"
  simp only [FormLetter.skipRow, world, complained]
  cases (start.world.complain s!"  {name}: {cause.message}\n").2 with
  | error fault => exact ⟨⟨alike, rfl⟩, rfl⟩
  | ok => exact ⟨⟨alike, rfl⟩, rfl⟩

theorem writeRow (resumes : Resumes e out err start further) (steady : e.Steady) (context : Json)
    (name : String) (sink : Sink) (rows : Nat) :
    Resumed e out err rows (FormLetter.writeRow e start context name sink)
      (FormLetter.writeRow e further context name sink) := by
  obtain ⟨filled, same⟩ := resumes.fill steady context sink
  unfold FormLetter.writeRow
  generalize start.fill e context sink = s at filled same
  generalize further.fill e context sink = t at filled same
  obtain ⟨s, result⟩ := s
  obtain ⟨t, result'⟩ := t
  dsimp only at filled same
  subst same
  cases result' with
  | error cause => exact ⟨filled, rfl⟩
  | ok =>
    obtain ⟨finished, verdict⟩ := filled.finish sink (name ++ "\n") rows
    refine ⟨finished, ?_⟩
    dsimp only
    rw [verdict]
    cases (s.finish sink (name ++ "\n")).2 <;> rfl

/-- One row, with rows before it or without. -/
theorem renderRow (resumes : Resumes e out err start further) (steady : e.Steady) (force : Bool)
    (row rows : Nat) (record : Record) :
    Resumed e out err rows (FormLetter.renderRow e force start row record)
      (FormLetter.renderRow e force further (row + rows) record) := by
  obtain ⟨alike, world⟩ := resumes
  obtain ⟨named, same⟩ := alike.executeToString steady outputTemplate (rowContext record)
  simp only [FormLetter.renderRow, world]
  generalize e.executeToString start.engine outputTemplate (rowContext record) = left at named same
  generalize e.executeToString further.engine outputTemplate (rowContext record) = right at named same
  obtain ⟨engine, result⟩ := left
  obtain ⟨engine', result'⟩ := right
  dsimp only at named same
  subst same
  cases result with
  | error cause => exact ⟨⟨named, rfl⟩, rfl⟩
  | ok name =>
    dsimp only
    split
    next => exact ⟨⟨named, rfl⟩, rfl⟩
    next =>
      -- What a destination is opened to does not depend on the streams.
      rw [World.openSink_behind]
      cases start.world.openSink (.parse name) force with
      | mk opened result =>
        have resumes : Resumes e out err ⟨engine, opened⟩ ⟨engine', opened.behind out err⟩ :=
          ⟨named, rfl⟩
        cases result with
        | error cause => exact resumes.skipRow name cause rows
        | ok sink => exact resumes.writeRow steady _ name sink rows

end Session.Resumes

namespace Tally

/-- The rows of two parts. -/
def add (a b : Tally) : Tally :=
  ⟨a.written + b.written, a.skipped + b.skipped⟩

theorem add_count (a b : Tally) (ending : RowEnd) : (a.add b).count ending = a.add (b.count ending) := by
  cases ending <;> rfl

end Tally

/-- Rows with others before them, which were counted already. -/
theorem Session.Resumes.renderRows (resumes : Session.Resumes e out err start further)
    (steady : e.Steady) (force : Bool) (row rows : Nat) (before tally : Tally)
    (records : List Record) :
    Resumed e out err rows
      ((renderRows e force start row tally records).map id (·.map before.add))
      (FormLetter.renderRows e force further (row + rows) (before.add tally) records) := by
  induction records generalizing start further row tally with
  | nil => exact ⟨resumes, rfl⟩
  | cons record rest ih =>
    obtain ⟨next, verdict⟩ := resumes.renderRow steady force row rows record
    unfold FormLetter.renderRows
    generalize FormLetter.renderRow e force start row record = s at next verdict
    generalize FormLetter.renderRow e force further (row + rows) record = t at next verdict
    obtain ⟨s, result⟩ := s
    obtain ⟨t, result'⟩ := t
    dsimp only at next verdict
    subst verdict
    cases result with
    | error cause => exact ⟨next, rfl⟩
    | ok ending =>
      have later := ih next (row + 1) (tally.count ending)
      rw [← Tally.add_count, Nat.add_right_comm] at later
      exact later

/-! ### Two parts -/

theorem RowRun.alike (steady : e.Steady) {record : Record} {engine next : σ} {files made : FileTree}
    {report : RowReport} (ran : RowRun e force record engine files report next made) :
    e.Alike engine next := by
  intro name context
  have named {named : σ} {text : String} (first : e.executeToString engine outputTemplate
      (rowContext record) = (named, .ok text)) : e.Alike named engine := by
    have same : (e.execute engine outputTemplate (rowContext record)).1 = named := by
      rw [← Engine.executeToString_fst, first]
    exact same ▸ steady engine outputTemplate (rowContext record)
  have filled {named filled : σ} {content : Bytes} (second : e.execute named contentTemplate
      (rowContext record) = (filled, ⟨content, none⟩)) : e.Alike filled named := by
    have same : (e.execute named contentTemplate (rowContext record)).1 = filled := by
      rw [second]
    exact same ▸ steady named contentTemplate (rowContext record)
  cases ran with
  | skipped first => rw [named first]
  | file first _ _ _ second => rw [filled second, named first]
  | dash first second => rw [filled second, named first]

namespace Batch

variable {engine last : σ} {files final : FileTree} {records : List Record}
  {reports : List RowReport}

theorem alike (steady : e.Steady)
    (batch : Batch e force engine files records reports last final) : e.Alike engine last := by
  intro name context
  induction batch with
  | done => rfl
  | row ran _ ih => rw [ran.alike steady, ih]

theorem renderRows_onStreams (batch : Batch e force engine files records reports last final)
    (out err : Bytes) (row : Nat) (tally : Tally) :
    ∃ total, renderRows e force (.onStreams engine files out err) row tally records =
      (.onStreams last final (out ++ reports.flatMap RowReport.stdout)
        (err ++ reports.flatMap RowReport.stderr), .ok total) := by
  have forgotten := @forget_renderRows _ force e (.onStreams (engine, []) files out err) row
    tally records
  rw [batch.renderRows_recorded] at forgotten
  exact ⟨_, forgotten⟩

end Batch

/-- After rows on streams that take everything, a session resumes one on empty streams. -/
theorem Session.resumes_of_renderRows (steady : e.Steady) {engine : σ} {files : FileTree}
    {row : Nat} {tally total : Tally} {records : List Record} {last : Session σ}
    (ran : renderRows e force (.onStreams engine files out err) row tally records =
      (last, .ok total)) :
    Resumes e last.world.stdout.written last.world.stderr.written
      (.onStreams engine last.world.files [] []) last := by
  obtain ⟨reports, next, final, batch⟩ := exists_batch ran
  obtain ⟨_, same⟩ := batch.renderRows_onStreams out err row tally
  rw [ran] at same
  cases same
  refine ⟨batch.alike steady, ?_⟩
  simp [onStreams, World.behind, Stream.behind]

/-- All rows of two parts do what the rows of the second do alone on what the first has left. -/
theorem resumed_renderRows_append (steady : e.Steady) {engine : σ} {files : FileTree}
    {xs : List Record} {mid : Session σ} {a : Tally}
    (ran : renderRows e force (.onStreams engine files out err) 0 ⟨0, 0⟩ xs = (mid, .ok a))
    (ys : List Record) :
    Resumed e mid.world.stdout.written mid.world.stderr.written xs.length
      ((renderRows e force (.onStreams engine mid.world.files [] []) 0 ⟨0, 0⟩ ys).map id
        (·.map a.add))
      (renderRows e force (.onStreams engine files out err) 0 ⟨0, 0⟩ (xs ++ ys)) := by
  have resumes := Session.resumes_of_renderRows steady ran
  have further := resumes.renderRows steady force 0 xs.length a ⟨0, 0⟩ ys
  rw [renderRows_append ran]
  exact further

/-- A batch of two parts. A failure that ends the first part is the end of the whole: no row behind
it has any effect, and none before it is taken back. Otherwise the whole does what the first part
does and then, on the files that are left, the second; a failure of the second counts the rows of
the first, and the rows that were written and skipped add up. -/
theorem renderPerRow_append (steady : e.Steady) (force : Bool) (xs ys : List Record) (engine : σ)
    (files : FileTree) (out err : Bytes) :
    let start := Session.onStreams engine files out err
    let first := renderPerRow e xs force start
    let whole := renderPerRow e (xs ++ ys) force start
    (∀ cause, cause.EndsBatch → first.2 = .error cause → whole = first) ∧
    ((∀ cause, cause.EndsBatch → first.2 ≠ .error cause) →
      let again := Session.onStreams engine first.1.world.files [] []
      let second := renderPerRow e ys force again
      whole.1.world.files = second.1.world.files ∧
      whole.1.world.stdout.written =
        first.1.world.stdout.written ++ second.1.world.stdout.written ∧
      whole.1.world.stderr.written =
        first.1.world.stderr.written ++ second.1.world.stderr.written ∧
      (∀ cause, cause.EndsBatch → second.2 = .error cause →
        whole.2 = .error (cause.later xs.length)) ∧
      ((∀ cause, cause.EndsBatch → second.2 ≠ .error cause) →
        ∃ a b : Tally,
          renderRows e force start 0 ⟨0, 0⟩ xs = (first.1, .ok a) ∧
          renderRows e force again 0 ⟨0, 0⟩ ys = (second.1, .ok b) ∧
          renderRows e force start 0 ⟨0, 0⟩ (xs ++ ys) = (whole.1, .ok (a.add b)) ∧
          first.2 = a.verdict ∧ second.2 = b.verdict ∧ whole.2 = (a.add b).verdict)) := by
  intro start first whole
  cases ran : renderRows e force start 0 ⟨0, 0⟩ xs with
  | mk mid result =>
    cases result with
    | error cause =>
      have ended : first = (mid, .error cause) := renderPerRow_eq_error ran
      have same : whole = first :=
        (renderPerRow_eq_error (renderRows_append_of_error ran ys)).trans ended.symm
      refine ⟨fun _ _ _ => same, fun survives => ?_⟩
      exact absurd (congrArg Prod.snd ended) (survives cause (endsBatch_of_renderRows ran))
    | ok a =>
      have ended : first = (mid, a.verdict) := renderPerRow_eq_verdict ran
      refine ⟨fun cause ends failed => ?_, fun _ => ?_⟩
      · exact absurd ((congrArg Prod.snd ended).symm.trans failed) (a.verdict_ne_error ends)
      rw [ended]
      intro again second
      obtain ⟨further, counted⟩ := resumed_renderRows_append steady ran ys
      -- How the second part ends is how the whole ends, with the first part counted in.
      generalize all : renderRows e force start 0 ⟨0, 0⟩ (xs ++ ys) = joined at further counted
      obtain ⟨final, result'⟩ := joined
      cases more : renderRows e force again 0 ⟨0, 0⟩ ys with
      | mk last result =>
        rw [more] at further counted
        dsimp only at further counted
        subst counted
        obtain ⟨left, printed, reported⟩ := further.outputs
        cases result with
        | error cause =>
          have ended' : second = (last, .error cause) := renderPerRow_eq_error more
          have joined : whole = (final, .error (cause.later xs.length)) := renderPerRow_eq_error all
          rw [ended', joined]
          refine ⟨left, printed, reported, ?_, fun survives => ?_⟩
          · intro cause' _ same
            cases same
            rfl
          · exact absurd rfl (survives cause (endsBatch_of_renderRows more))
        | ok b =>
          have ended' : second = (last, b.verdict) := renderPerRow_eq_verdict more
          have joined : whole = (final, (a.add b).verdict) := renderPerRow_eq_verdict all
          rw [ended', joined]
          refine ⟨left, printed, reported, ?_, fun _ => ⟨a, b, rfl, rfl, rfl, rfl, rfl, rfl⟩⟩
          intro cause ends failed
          exact absurd failed (b.verdict_ne_error ends)

/-- A row that is written, and behind it one whose name is empty; the name of an output is the
first field of its record. -/
theorem renderPerRow_append_empty_name :
    let e : Engine Unit := { Engine.constant [] [] with
      execute := fun _ _ context => match context with
        | .object ((_, .string value) :: _) => ((), ⟨bytesOf value, none⟩)
        | _ => ((), ⟨[], none⟩) }
    let whole := renderPerRow e ([⟨[("n", "a")]⟩] ++ [⟨[("n", "")]⟩]) false
      (.onStreams () ⟨[], []⟩ [] [])
    e.Steady ∧ whole.1.world.files.entries = [(["a"], .file (bytesOf "a"))] ∧
      whole.1.world.stdout.written = bytesOf "a\n" ∧ whole.2 = .error (.emptyOutputName 1) := by
  intro e whole
  have steady : e.Steady := fun _ _ _ _ _ => rfl
  obtain ⟨-, further⟩ :=
    renderPerRow_append steady false [⟨[("n", "a")]⟩] [⟨[("n", "")]⟩] () ⟨[], []⟩ [] []
  have first : renderPerRow e [⟨[("n", "a")]⟩] false (.onStreams () ⟨[], []⟩ [] []) =
      (.onStreams () ⟨[(["a"], .file (bytesOf "a"))], []⟩ (bytesOf "a\n") [], .ok 1) := rfl
  rw [first] at further
  obtain ⟨files, printed, -, failed, -⟩ := further (fun _ _ same => by cases same)
  refine ⟨steady, ?_, ?_, failed _ (.emptyOutputName 0) rfl⟩
  · exact congrArg FileTree.entries files
  · exact printed

end FormLetter
