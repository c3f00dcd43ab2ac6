import FormLetter.Render.Output

/-!
The rows of a batch, one after the other. A row with a name opens its destination and is then
skipped or written, or ends the batch; a batch of two parts is the first and then, unless that was
cut short, the second.
-/
namespace FormLetter

variable {σ : Type} {e : Engine σ} {force : Bool}

section Named

variable {s : Session σ} {record : Record} {engine : σ} {name : String} {world : World}
  (named : e.executeToString s.engine outputTemplate (rowContext record) = (engine, .ok name))
  (nonempty : name ≠ "") (row : Nat)

include named nonempty

theorem renderRow_of_error {cause : SinkError}
    (refused : s.world.openSink (.parse name) force = (world, .error cause)) :
    renderRow e force s row record = skipRow ⟨engine, world⟩ name cause := by
  have filled : name.isEmpty = false := by simpa [String.isEmpty_iff] using nonempty
  simp [renderRow, named, filled, refused]

theorem renderRow_of_ok {sink : Sink}
    (opened : s.world.openSink (.parse name) force = (world, .ok sink)) :
    renderRow e force s row record = writeRow e ⟨engine, world⟩ (rowContext record) name sink := by
  have filled : name.isEmpty = false := by simpa [String.isEmpty_iff] using nonempty
  simp [renderRow, named, filled, opened]

end Named

/-- What a row does that does not end the batch. -/
theorem cases_of_renderRow {s next : Session σ} {row : Nat} {record : Record} {ending : RowEnd}
    (ran : renderRow e force s row record = (next, .ok ending)) :
    ∃ engine name world,
      e.executeToString s.engine outputTemplate (rowContext record) = (engine, .ok name) ∧
      name ≠ "" ∧
      ((∃ cause, s.world.openSink (.parse name) force = (world, .error cause) ∧
          skipRow ⟨engine, world⟩ name cause = (next, .ok ending)) ∨
        ∃ sink, s.world.openSink (.parse name) force = (world, .ok sink) ∧
          writeRow e ⟨engine, world⟩ (rowContext record) name sink = (next, .ok ending)) := by
  unfold renderRow at ran
  dsimp only at ran
  split at ran
  next => cases ran
  next engine name named =>
    split at ran
    next => cases ran
    next filled =>
      have nonempty : name ≠ "" := by simpa [String.isEmpty_iff] using filled
      split at ran
      next world cause refused =>
        exact ⟨engine, name, world, named, nonempty, .inl ⟨cause, refused, ran⟩⟩
      next world sink opened =>
        exact ⟨engine, name, world, named, nonempty, .inr ⟨sink, opened, ran⟩⟩

theorem exists_io_of_finish {s next : Session σ} {sink : Sink} {announcement : String}
    {cause : RunError} (ended : s.finish sink announcement = (next, .error cause)) :
    ∃ fault, cause = .io fault := by
  unfold Session.finish at ended
  split at ended
  next fault _ =>
    cases ended
    exact ⟨fault, rfl⟩
  next =>
    cases printed : s.world.print announcement with
    | mk world result =>
      rw [printed] at ended
      cases result with
      | error fault =>
        cases ended
        exact ⟨fault, rfl⟩
      | ok => cases ended

/-- The failures of a row that end its batch. -/
inductive RunError.EndsBatch : RunError → Prop where
  | renderOutputName (row : Nat) (cause : RenderError) : EndsBatch (.renderOutputName row cause)
  | emptyOutputName (row : Nat) : EndsBatch (.emptyOutputName row)
  | renderContent (name : String) (cause : RenderError) : EndsBatch (.renderContent name cause)
  | io (cause : IoFault) : EndsBatch (.io cause)

theorem endsBatch_of_renderRow {s next : Session σ} {row : Nat} {record : Record} {cause : RunError}
    (ended : renderRow e force s row record = (next, .error cause)) : cause.EndsBatch := by
  unfold renderRow at ended
  dsimp only at ended
  split at ended
  next =>
    cases ended
    exact .renderOutputName ..
  next =>
    split at ended
    next =>
      cases ended
      exact .emptyOutputName ..
    next =>
      split at ended
      next =>
        -- A report that fails is a failure of its stream.
        unfold skipRow at ended
        dsimp only at ended
        split at ended
        next => cases ended
        next =>
          cases ended
          exact .io ..
      next =>
        unfold writeRow at ended
        split at ended
        next =>
          cases ended
          exact .renderContent ..
        next filled _ =>
          -- What is left is handing over and announcing.
          generalize finished : filled.finish _ _ = done at ended
          obtain ⟨later, result⟩ := done
          cases result with
          | ok => cases ended
          | error fault =>
            obtain ⟨fault, rfl⟩ := exists_io_of_finish finished
            cases ended
            exact .io ..

/-! ### Batches -/

theorem endsBatch_of_renderRows {s last : Session σ} {row : Nat} {tally : Tally}
    {records : List Record} {cause : RunError}
    (ended : renderRows e force s row tally records = (last, .error cause)) : cause.EndsBatch := by
  induction records generalizing s row tally with
  | nil => cases ended
  | cons record rest ih =>
    rw [renderRows] at ended
    split at ended
    next first =>
      cases ended
      exact endsBatch_of_renderRow first
    next => exact ih ended

/-- Only a whole batch can end for its skipped rows. -/
theorem renderRows_ne_filesNotWritten {s last : Session σ} {row : Nat} {tally : Tally}
    {records : List Record} {cause : RunError}
    (ended : renderRows e force s row tally records = (last, .error cause)) (count : Nat) :
    cause ≠ .filesNotWritten count := by
  rintro rfl
  cases endsBatch_of_renderRows ended

theorem renderRows_cons {s next : Session σ} {row : Nat} {tally : Tally} {record : Record}
    {ending : RowEnd} (first : renderRow e force s row record = (next, .ok ending))
    (rest : List Record) :
    renderRows e force s row tally (record :: rest) =
      renderRows e force next (row + 1) (tally.count ending) rest := by
  rw [renderRows, first]

theorem exists_of_renderRows_cons {s last : Session σ} {row : Nat} {tally total : Tally}
    {record : Record} {rest : List Record}
    (ran : renderRows e force s row tally (record :: rest) = (last, .ok total)) :
    ∃ next ending, renderRow e force s row record = (next, .ok ending) ∧
      renderRows e force next (row + 1) (tally.count ending) rest = (last, .ok total) := by
  rw [renderRows] at ran
  split at ran
  next => cases ran
  next next ending first => exact ⟨next, ending, first, ran⟩

/-- After a first part that was not cut short, the second part goes on where it ended. -/
theorem renderRows_append {s mid : Session σ} {row : Nat} {tally subtotal : Tally}
    {xs : List Record} (ran : renderRows e force s row tally xs = (mid, .ok subtotal))
    (ys : List Record) :
    renderRows e force s row tally (xs ++ ys) =
      renderRows e force mid (row + xs.length) subtotal ys := by
  induction xs generalizing s row tally with
  | nil =>
    cases ran
    rfl
  | cons record rest ih =>
    obtain ⟨next, ending, first, later⟩ := exists_of_renderRows_cons ran
    rw [List.cons_append, renderRows_cons first, ih later, List.length_cons]
    congr 1
    omega

/-- Nothing behind a first part that was cut short is rendered. -/
theorem renderRows_append_of_error {s last : Session σ} {row : Nat} {tally : Tally}
    {xs : List Record} {cause : RunError}
    (ended : renderRows e force s row tally xs = (last, .error cause)) (ys : List Record) :
    renderRows e force s row tally (xs ++ ys) = (last, .error cause) := by
  induction xs generalizing s row tally with
  | nil => cases ended
  | cons record rest ih =>
    rw [renderRows] at ended
    rw [List.cons_append, renderRows]
    split at ended
    next => exact ended
    next => exact ih ended

/-- The verdict on a batch that was not cut short. -/
def Tally.verdict (t : Tally) : Except RunError Nat :=
  if t.skipped = 0 then .ok t.written else .error (.filesNotWritten t.skipped)

/-- A verdict counts skipped rows and is no failure of a row. -/
theorem Tally.verdict_ne_error {cause : RunError} (ends : cause.EndsBatch) (t : Tally) :
    t.verdict ≠ .error cause := by
  intro same
  unfold verdict at same
  split at same
  next => cases same
  next =>
    cases same
    cases ends

theorem renderPerRow_eq_verdict {s last : Session σ} {tally : Tally} {records : List Record}
    (ran : renderRows e force s 0 ⟨0, 0⟩ records = (last, .ok tally)) :
    renderPerRow e records force s = (last, tally.verdict) := by
  rw [renderPerRow, ran, Tally.verdict]
  by_cases none : tally.skipped = 0
  · simp [none]
  · simp [none, Nat.pos_of_ne_zero none]

theorem renderPerRow_eq_error {s last : Session σ} {cause : RunError} {records : List Record}
    (ended : renderRows e force s 0 ⟨0, 0⟩ records = (last, .error cause)) :
    renderPerRow e records force s = (last, .error cause) := by
  rw [renderPerRow, ended]

end FormLetter
