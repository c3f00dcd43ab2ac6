import FormLetter.Render.Output

/-!
Engines that keep the list of their calls. Rows and batches go the same way with such an engine as
with the engine itself.
-/
namespace FormLetter

variable {σ : Type} {force : Bool}

theorem executeToString_recorded (e : Engine σ) (engine : σ) (calls : List Call) (name : String)
    (context : Json) :
    e.recorded.executeToString (engine, calls) name context =
      (((e.executeToString engine name context).1, calls ++ [.execute name context]),
        (e.executeToString engine name context).2) := by
  simp only [Engine.executeToString, Engine.recorded]
  split
  next => rfl
  next => split <;> rfl

/-- The session without the list of calls. -/
def Session.forget (s : Session (σ × List Call)) : Session σ :=
  ⟨s.engine.1, s.world⟩

theorem forget_finish (s : Session (σ × List Call)) (sink : Sink) (announcement : String) :
    s.forget.finish sink announcement =
      ((s.finish sink announcement).1.forget, (s.finish sink announcement).2) := by
  unfold Session.finish
  cases closed : s.world.close sink with
  | error fault => simp [Session.forget, closed]
  | ok => simp [Session.forget, closed]

theorem forget_fill (e : Engine σ) (s : Session (σ × List Call)) (context : Json) (sink : Sink) :
    s.forget.fill e context sink =
      ((s.fill e.recorded context sink).1.forget, (s.fill e.recorded context sink).2) :=
  rfl

theorem forget_skipRow (s : Session (σ × List Call)) (name : String) (cause : SinkError) :
    skipRow s.forget name cause = ((skipRow s name cause).1.forget, (skipRow s name cause).2) := by
  obtain ⟨engine, world⟩ := s
  simp only [skipRow, Session.forget]
  generalize world.complain _ = reported
  obtain ⟨world, result⟩ := reported
  cases result <;> rfl

theorem forget_writeRow (e : Engine σ) (s : Session (σ × List Call)) (context : Json)
    (name : String) (sink : Sink) :
    writeRow e s.forget context name sink =
      ((writeRow e.recorded s context name sink).1.forget,
        (writeRow e.recorded s context name sink).2) := by
  unfold writeRow
  rw [forget_fill]
  cases s.fill e.recorded context sink with
  | mk filled result =>
    cases result with
    | error cause => rfl
    | ok => simp [forget_finish]

/-- Recording the calls changes nothing else. -/
theorem forget_renderRow (e : Engine σ) (s : Session (σ × List Call)) (row : Nat) (record : Record) :
    renderRow e force s.forget row record =
      ((renderRow e.recorded force s row record).1.forget,
        (renderRow e.recorded force s row record).2) := by
  obtain ⟨⟨engine, calls⟩, world⟩ := s
  simp only [renderRow, Session.forget, executeToString_recorded]
  -- Both sides have the same name and destination from here on.
  cases e.executeToString engine outputTemplate (rowContext record) with
  | mk named result =>
    cases result with
    | error cause => rfl
    | ok name =>
      dsimp only
      split
      next => rfl
      next =>
        cases world.openSink (.parse name) force with
        | mk world opened =>
          cases opened with
          | error cause => exact forget_skipRow ⟨(named, _), world⟩ name cause
          | ok sink => exact forget_writeRow e ⟨(named, _), world⟩ _ name sink

theorem forget_renderRows (e : Engine σ) (s : Session (σ × List Call)) (row : Nat) (tally : Tally)
    (records : List Record) :
    renderRows e force s.forget row tally records =
      ((renderRows e.recorded force s row tally records).1.forget,
        (renderRows e.recorded force s row tally records).2) := by
  -- The calls that are kept so far are part of the session, so the induction is over it too.
  induction records generalizing s row tally with
  | nil => rfl
  | cons record rest ih =>
    rw [renderRows, renderRows, forget_renderRow]
    cases renderRow e.recorded force s row record with
    | mk next result =>
      cases result with
      | error cause => rfl
      | ok ending => exact ih next (row + 1) (tally.count ending)

theorem forget_renderPerRow (e : Engine σ) (records : List Record) (s : Session (σ × List Call)) :
    renderPerRow e records force s.forget =
      ((renderPerRow e.recorded records force s).1.forget,
        (renderPerRow e.recorded records force s).2) := by
  unfold renderPerRow
  rw [forget_renderRows]
  cases renderRows e.recorded force s 0 ⟨0, 0⟩ records with
  | mk last result =>
    cases result with
    | error cause => rfl
    | ok tally =>
      dsimp only
      split <;> rfl

end FormLetter
