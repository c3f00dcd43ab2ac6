import FormLetter.Run

/-!
Rendering put together from steps. Every step takes a session and either fails, which ends what it
is a part of, or hands a value to the step behind it.
-/
namespace FormLetter

variable {σ ε ε' α β : Type}

/-- A step that has ended and, unless it has failed, the next one; `failed` is what its failure
counts as. -/
def Session.andThen (first : Session σ × Except ε α) (failed : ε → ε')
    (next : Session σ → α → Session σ × Except ε' β) : Session σ × Except ε' β :=
  match first with
  | (s, .error cause) => (s, .error (failed cause))
  | (s, .ok a) => next s a

namespace Session

@[simp] theorem andThen_error (s : Session σ) (cause : ε) (failed : ε → ε')
    (next : Session σ → α → Session σ × Except ε' β) :
    andThen (s, .error cause) failed next = (s, .error (failed cause)) :=
  rfl

@[simp] theorem andThen_ok (s : Session σ) (a : α) (failed : ε → ε')
    (next : Session σ → α → Session σ × Except ε' β) :
    andThen (s, .ok a) failed next = next s a :=
  rfl

theorem andThen_pure (first : Session σ × Except ε α) (f : α → β) :
    andThen first id (fun s a => (s, .ok (f a))) = (first.1, first.2.map f) := by
  obtain ⟨s, result⟩ := first
  cases result <;> rfl

end Session

open Session

/-! ### One output -/

/-- Opens a destination. A refusal is handed on like an open sink. -/
def openStep (d : Destination) (force : Bool) (s : Session σ) :
    Session σ × Except RunError (Except SinkError Sink) :=
  ({ s with world := (s.world.openSink d force).1 }, .ok (s.world.openSink d force).2)

theorem renderSingle_eq (e : Engine σ) (table : Table) (d : Destination) (force : Bool)
    (s : Session σ) :
    renderSingle e table d force s = andThen (openStep d force s) id fun s opened =>
      match opened with
      | .error cause => (s, .error (.destination cause))
      | .ok sink => andThen (s.fill e (singleContext table) sink) .executeTemplate fun s _ =>
        s.finish sink (savedMessage d) := by
  unfold renderSingle openStep
  cases s.world.openSink d force with
  | mk world result =>
    cases result with
    | error cause => rfl
    | ok sink =>
      simp only [andThen_ok]
      cases fill e { s with world := world } (singleContext table) sink with
      | mk filled result => cases result <;> rfl

/-! ### One output for every row -/

/-- Asks for the name of a row's output. -/
def nameStep (e : Engine σ) (row : Nat) (record : Record) (s : Session σ) :
    Session σ × Except RunError String :=
  match e.executeToString s.engine outputTemplate (rowContext record) with
  | (engine, .error cause) => ({ s with engine := engine }, .error (.renderOutputName row cause))
  | (engine, .ok name) =>
    ({ s with engine := engine }, if name.isEmpty then .error (.emptyOutputName row) else .ok name)

theorem writeRow_eq (e : Engine σ) (s : Session σ) (context : Json) (name : String) (sink : Sink) :
    writeRow e s context name sink =
      andThen (s.fill e context sink) (.renderContent name) fun s _ =>
        andThen (s.finish sink (name ++ "\n")) id fun s _ => (s, .ok .written) := by
  unfold writeRow
  cases s.fill e context sink with
  | mk filled result =>
    cases result with
    | error cause => rfl
    | ok => exact (andThen_pure _ fun _ => RowEnd.written).symm

theorem renderRow_eq (e : Engine σ) (force : Bool) (s : Session σ) (row : Nat) (record : Record) :
    renderRow e force s row record = andThen (nameStep e row record s) id fun s name =>
      andThen (openStep (.parse name) force s) id fun s opened =>
        match opened with
        | .error cause => skipRow s name cause
        | .ok sink => writeRow e s (rowContext record) name sink := by
  unfold renderRow nameStep
  dsimp only
  cases e.executeToString s.engine outputTemplate (rowContext record) with
  | mk engine result =>
    cases result with
    | error cause => rfl
    | ok name =>
      by_cases empty : name.isEmpty = true
      · simp [empty]
      · simp only [empty, Bool.false_eq_true, if_false, andThen_ok, openStep]
        cases s.world.openSink (.parse name) force with
        | mk world opened => cases opened <;> rfl

theorem renderRows_cons_eq (e : Engine σ) (force : Bool) (s : Session σ) (row : Nat) (tally : Tally)
    (record : Record) (rest : List Record) :
    renderRows e force s row tally (record :: rest) =
      andThen (renderRow e force s row record) id fun s ending =>
        renderRows e force s (row + 1) (tally.count ending) rest := by
  rw [renderRows]
  cases renderRow e force s row record with
  | mk next result => cases result <;> rfl

theorem renderPerRow_eq (e : Engine σ) (records : List Record) (force : Bool) (s : Session σ) :
    renderPerRow e records force s =
      andThen (renderRows e force s 0 ⟨0, 0⟩ records) id fun s tally =>
        (s, if tally.skipped > 0 then .error (.filesNotWritten tally.skipped)
          else .ok tally.written) := by
  unfold renderPerRow
  cases renderRows e force s 0 ⟨0, 0⟩ records with
  | mk last result =>
    cases result with
    | error cause => rfl
    | ok tally => by_cases skipped : tally.skipped > 0 <;> simp [skipped]

/-! ### A whole run -/

/-- Reads the sources and compiles the templates. -/
def prepare (e : Engine σ) (config : Config) (stdin : Stdin) (s : Session σ) :
    Session σ × Except RunError Table :=
  match readSources config s.world.files stdin with
  | .error cause => (s, .error cause)
  | .ok (table, template) =>
    let (engine, compiled) :=
      compileTemplates e s.engine template (RenderMode.ofOut e config.out)
    ({ s with engine := engine }, compiled.map fun _ => table)

/-- Renders a table the way that the output option asks for. -/
def render (e : Engine σ) (config : Config) (table : Table) (s : Session σ) :
    Session σ × Except RunError Unit :=
  match RenderMode.ofOut e config.out with
  | .single destination => renderSingle e table destination config.force s
  | .perRow _ => andThen (renderPerRow e table.records config.force s) id fun s _ => (s, .ok ())

/-- A run prepares, and then renders. -/
theorem runWith_eq (e : Engine σ) (config : Config) (stdin : Stdin) (s : Session σ) :
    runWith e config stdin s =
      andThen (prepare e config stdin s) id fun s table => render e config table s := by
  unfold runWith prepare render
  generalize RenderMode.ofOut e config.out = mode
  cases readSources config s.world.files stdin with
  | error cause => rfl
  | ok read =>
    obtain ⟨table, template⟩ := read
    dsimp only
    cases compileTemplates e s.engine template mode with
    | mk engine compiled =>
      cases compiled with
      | error cause => rfl
      | ok =>
        cases mode with
        | single destination => rfl
        | perRow name => exact (andThen_pure _ fun _ => ()).symm

end FormLetter
