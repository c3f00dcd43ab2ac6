import FormLetter.Csv.Table
import FormLetter.Error
import FormLetter.Output.World
import FormLetter.Render.Engine

/-!
Rendering a table into one output, or into one output for every record. A destination that cannot
be opened only loses its own row; every other failure ends the rendering where it happens.
-/
namespace FormLetter

/-! ### What is rendered -/

/-- Whether one output is written or one for every row. -/
inductive RenderMode where
  | single (destination : Destination)
  /-- The template is executed for every row to name its destination. -/
  | perRow (nameTemplate : String)
  deriving DecidableEq, Repr

/-- Any marker of a template in the output value asks for one output per row. -/
def RenderMode.ofOut {σ : Type} (e : Engine σ) (out : String) : RenderMode :=
  if e.containsExpression out then .perRow out else .single (.parse out)

def Record.toJson (r : Record) : Json :=
  .object (r.fields.map fun (name, value) => (name, .string value))

def Table.toJson (t : Table) : Json :=
  .object
    [("headers", .array (t.headers.map .string)), ("rows", .array (t.records.map Record.toJson))]

/-- All records as `rows` and the column names as `headers`. -/
def singleContext (t : Table) : Json :=
  t.toJson

/-- Every field of the record, and the whole record as `row` unless a field has that name. -/
def rowContext (r : Record) : Json :=
  let fields := r.fields.map fun (name, value) => (name, Json.string value)
  if r.keys.contains "row" then .object fields
  else .object (fields ++ [("row", .object fields)])

/-! ### Executing and announcing -/

/-- The name the content template is compiled under. -/
def contentTemplate : String := "content"

/-- The name the output name template is compiled under. -/
def outputTemplate : String := "outfile"

/-- The state of an engine and the world around it. -/
structure Session (σ : Type) where
  engine : σ
  world : World

variable {σ : Type}

namespace Session

/-- Executes the content template into an open destination. -/
def fill (e : Engine σ) (s : Session σ) (context : Json) (sink : Sink) :
    Session σ × Except RenderError Unit :=
  let (engine, x) := e.execute s.engine contentTemplate context
  let (world, written) := s.world.write x.emitted sink
  (⟨engine, world⟩, e.outcome x written)

/-- Hands over what an open destination holds back, then announces it. -/
def finish (s : Session σ) (sink : Sink) (announcement : String) :
    Session σ × Except RunError Unit :=
  match s.world.close sink with
  | .error fault => (s, .error (.io fault))
  | .ok () =>
    let (world, printed) := s.world.print announcement
    ({ s with world := world }, printed.mapError .io)

end Session

/-! ### One output -/

/-- What is printed once a single output is complete. -/
def savedMessage : Destination → String
  | .stdout => ""
  | .file path => s!"result saved in {path}\n"

/-- Renders all records into one destination. -/
def renderSingle (e : Engine σ) (table : Table) (destination : Destination) (force : Bool)
    (s : Session σ) : Session σ × Except RunError Unit :=
  match s.world.openSink destination force with
  | (world, .error cause) => ({ s with world := world }, .error (.destination cause))
  | (world, .ok sink) =>
    match Session.fill e { s with world := world } (singleContext table) sink with
    | (s, .error cause) => (s, .error (.executeTemplate cause))
    | (s, .ok ()) => s.finish sink (savedMessage destination)

/-! ### One output for every record -/

/-- How a row ends that does not end the rendering. -/
inductive RowEnd where
  | written
  | skipped
  deriving DecidableEq, Repr

/-- Reports a destination that could not be opened. -/
def skipRow (s : Session σ) (name : String) (cause : SinkError) :
    Session σ × Except RunError RowEnd :=
  let (world, reported) := s.world.complain s!"  {name}: {cause.message}\n"
  match reported with
  | .ok () => ({ s with world := world }, .ok .skipped)
  | .error fault => ({ s with world := world }, .error (.io fault))

/-- Fills the destination of a row. -/
def writeRow (e : Engine σ) (s : Session σ) (context : Json) (name : String) (sink : Sink) :
    Session σ × Except RunError RowEnd :=
  match s.fill e context sink with
  | (s, .error cause) => (s, .error (.renderContent name cause))
  | (s, .ok ()) =>
    let (s, done) := s.finish sink (name ++ "\n")
    (s, done.map fun () => .written)

/-- Renders one record into the destination that its own data names. -/
def renderRow (e : Engine σ) (force : Bool) (s : Session σ) (row : Nat) (record : Record) :
    Session σ × Except RunError RowEnd :=
  let context := rowContext record
  match e.executeToString s.engine outputTemplate context with
  | (engine, .error cause) => ({ s with engine := engine }, .error (.renderOutputName row cause))
  | (engine, .ok name) =>
    if name.isEmpty then ({ s with engine := engine }, .error (.emptyOutputName row))
    else match s.world.openSink (.parse name) force with
      | (world, .error cause) => skipRow ⟨engine, world⟩ name cause
      | (world, .ok sink) => writeRow e ⟨engine, world⟩ context name sink

/-- How many rows ended in which way. -/
structure Tally where
  written : Nat
  skipped : Nat
  deriving DecidableEq, Repr

def Tally.count (t : Tally) : RowEnd → Tally
  | .written => { t with written := t.written + 1 }
  | .skipped => { t with skipped := t.skipped + 1 }

/-- Renders records in order; `row` is the number of the first. -/
def renderRows (e : Engine σ) (force : Bool) (s : Session σ) (row : Nat) (tally : Tally) :
    List Record → Session σ × Except RunError Tally
  | [] => (s, .ok tally)
  | record :: rest =>
    match renderRow e force s row record with
    | (s, .error err) => (s, .error err)
    | (s, .ok ending) => renderRows e force s (row + 1) (tally.count ending) rest

/-- Renders one output per record and gives the number of outputs written. -/
def renderPerRow (e : Engine σ) (records : List Record) (force : Bool) (s : Session σ) :
    Session σ × Except RunError Nat :=
  match renderRows e force s 0 ⟨0, 0⟩ records with
  | (s, .error err) => (s, .error err)
  | (s, .ok tally) =>
    if tally.skipped > 0 then (s, .error (.filesNotWritten tally.skipped))
    else (s, .ok tally.written)

end FormLetter
