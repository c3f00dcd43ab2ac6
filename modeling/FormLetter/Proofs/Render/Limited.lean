import FormLetter.Proofs.Render.Steps

/-!
Rendering on limited output. As long as what is printed fits, a session on output with room for a
limited number of bytes goes the way of one whose output takes everything. The first write that
does not fit leaves what fits, and the rendering has failed.
-/
namespace FormLetter

/-! ### Streams -/

namespace Stream

/-- The stream takes everything. -/
structure Open (s : Stream) : Prop where
  room : s.room = none
  flushes : s.flushFails = false

/-- The stream with room for so many bytes in all. -/
def limited (limit : Nat) (s : Stream) : Stream :=
  { s with room := some (limit - s.written.length) }

/-- The later stream takes everything too, and begins with what the earlier one holds. -/
structure Continues (earlier later : Stream) : Prop where
  isOpen : later.Open
  begins : earlier.written <+: later.written

variable {s later last : Stream} {limit : Nat}

theorem Continues.refl (isOpen : s.Open) : s.Continues s :=
  ⟨isOpen, List.prefix_refl _⟩

theorem Continues.trans (first : s.Continues later) (second : later.Continues last) :
    s.Continues last :=
  ⟨second.isOpen, first.begins.trans second.begins⟩

/-- What has gone beyond a limit stays beyond it, and has the same bytes in front of it. -/
theorem Continues.beyond (continued : s.Continues later) (long : limit < s.written.length) :
    limit < later.written.length ∧ later.written.take limit = s.written.take limit := by
  obtain ⟨more, written⟩ := continued.begins
  rw [← written]
  constructor
  · rw [List.length_append]
    omega
  · exact List.take_append_of_le_length (Nat.le_of_lt long)

theorem Open.write (isOpen : s.Open) (bytes : Bytes) :
    s.write bytes = ({ s with written := s.written ++ bytes }, .ok ()) := by
  simp only [Stream.write, isOpen.room]

theorem continues_write (isOpen : s.Open) (bytes : Bytes) : s.Continues (s.write bytes).1 := by
  rw [isOpen.write]
  exact ⟨⟨isOpen.room, isOpen.flushes⟩, List.prefix_append ..⟩

theorem write_limited_of_le {bytes : Bytes} (fits : (s.written ++ bytes).length ≤ limit) :
    (s.limited limit).write bytes =
      (({ s with written := s.written ++ bytes } : Stream).limited limit, .ok ()) := by
  rw [List.length_append] at fits
  have enough : bytes.length ≤ limit - s.written.length := by omega
  simp only [Stream.write, limited, if_pos enough, List.take_of_length_le enough,
    List.length_append, Nat.sub_sub]

theorem write_limited_of_lt {bytes : Bytes} (short : s.written.length ≤ limit)
    (long : limit < (s.written ++ bytes).length) :
    ∃ full, (s.limited limit).write bytes = (full, .error limitReached) ∧
      full.written = (s.written ++ bytes).take limit := by
  rw [List.length_append] at long
  have tooMany : ¬ bytes.length ≤ limit - s.written.length := by omega
  simp only [Stream.write, limited, if_neg tooMany]
  refine ⟨_, rfl, ?_⟩
  rw [List.take_append, List.take_of_length_le short]

end Stream

/-! ### Sessions -/

variable {σ ε ε' α β : Type}

def World.limited (limit : Nat) (w : World) : World :=
  { w with stdout := w.stdout.limited limit }

namespace Session

/-- The session with room for so many bytes on standard output in all. -/
def limited (limit : Nat) (s : Session σ) : Session σ :=
  { s with world := s.world.limited limit }

/-- How a step ends on limited output, beside how it ends on output that takes everything. -/
inductive Follows (limit : Nat) : Session σ × Except ε α → Session σ × Except ε α → Prop
  /-- All that was printed fits, and nothing is different. -/
  | fits {s : Session σ} {result : Except ε α} (isOpen : s.world.stdout.Open)
      (short : s.world.stdout.written.length ≤ limit) :
      Follows limit (s, result) (s.limited limit, result)
  /-- More was printed than fits, and the step has failed. -/
  | exceeds {s t : Session σ} {result : Except ε α} {cause : ε} (isOpen : s.world.stdout.Open)
      (long : limit < s.world.stdout.written.length)
      (first : t.world.stdout.written = s.world.stdout.written.take limit) :
      Follows limit (s, result) (t, .error cause)

/-- A step that does the same on limited output, until that is full. -/
structure Paced (f : Session σ → Session σ × Except ε α) : Prop where
  continues : ∀ s : Session σ, s.world.stdout.Open → s.world.stdout.Continues (f s).1.world.stdout
  follows : ∀ limit, ∀ s : Session σ, s.world.stdout.Open → s.world.stdout.written.length ≤ limit →
    Follows limit (f s) (f (s.limited limit))

/-- A step that prints nothing. -/
theorem paced_of_silent {f : Session σ → Session σ × Except ε α}
    (silent : ∀ s, (f s).1.world.stdout = s.world.stdout)
    (same : ∀ limit s, f (s.limited limit) = ((f s).1.limited limit, (f s).2)) : Paced f := by
  constructor
  · intro s isOpen
    rw [silent]
    exact .refl isOpen
  · intro limit s isOpen short
    rw [same]
    exact .fits (by rwa [silent]) (by rwa [silent])

theorem paced_pure (result : Except ε α) : Paced fun s : Session σ => (s, result) :=
  paced_of_silent (fun _ => rfl) fun _ _ => rfl

/-- Two steps. If the first has gone beyond the limit, the second can only add to that. -/
theorem Paced.andThen {f : Session σ → Session σ × Except ε α} (first : Paced f) (failed : ε → ε')
    {next : Session σ → α → Session σ × Except ε' β} (second : ∀ a, Paced fun s => next s a) :
    Paced fun s => Session.andThen (f s) failed next := by
  constructor
  · intro s isOpen
    have continued := first.continues s isOpen
    cases ended : f s with
    | mk t result =>
      rw [ended] at continued
      cases result with
      | error cause => exact continued
      | ok a => exact continued.trans ((second a).continues t continued.isOpen)
  · intro limit s isOpen short
    have followed := first.follows limit s isOpen short
    generalize f s = full at followed
    generalize f (s.limited limit) = cut at followed
    cases followed with
    | @fits t result isOpen short =>
      cases result with
      | error cause => exact .fits isOpen short
      | ok a => exact (second a).follows limit t isOpen short
    | @exceeds t _ result cause isOpen long start =>
      cases result with
      | error cause => exact .exceeds isOpen long start
      | ok a =>
        have continued := (second a).continues t isOpen
        obtain ⟨longer, same⟩ := continued.beyond long
        exact .exceeds continued.isOpen longer (start.trans same.symm)

/-! ### Steps of a rendering -/

/-- Writing to a sink, whatever the outcome is taken for. -/
theorem paced_write (bytes : Bytes) (sink : Sink) (engine : σ → σ)
    (outcome : Except IoFault Unit → Except ε α)
    (fails : ∀ fault, ∃ cause, outcome (.error fault) = .error cause) :
    Paced fun s : Session σ =>
      (⟨engine s.engine, (s.world.write bytes sink).1⟩, outcome (s.world.write bytes sink).2) := by
  cases sink with
  | file spot => exact paced_of_silent (fun _ => rfl) fun _ _ => rfl
  | stdout =>
    constructor
    · intro s isOpen
      exact Stream.continues_write isOpen bytes
    · intro limit s isOpen short
      have continued := Stream.continues_write isOpen bytes
      simp only [World.write, isOpen.write] at continued ⊢
      by_cases fits : (s.world.stdout.written ++ bytes).length ≤ limit
      · simp only [limited, World.limited, Stream.write_limited_of_le fits]
        exact .fits continued.isOpen fits
      · obtain ⟨full, wrote, first⟩ := Stream.write_limited_of_lt short (Nat.lt_of_not_le fits)
        obtain ⟨cause, failed⟩ := fails Stream.limitReached
        simp only [limited, World.limited, wrote, failed]
        exact .exceeds continued.isOpen (Nat.lt_of_not_le fits) first

theorem exists_outcome_error (e : Engine σ) (x : Execution) (fault : IoFault) :
    ∃ cause, e.outcome x (.error fault) = .error cause :=
  ⟨_, rfl⟩

theorem paced_fill (e : Engine σ) (context : Json) (sink : Sink) :
    Paced fun s : Session σ => s.fill e context sink := by
  -- What is emitted depends on the engine, which no limit changes.
  constructor
  · intro s isOpen
    exact (paced_write (e.execute s.engine contentTemplate context).2.emitted sink
      (fun _ => (e.execute s.engine contentTemplate context).1) _
      (exists_outcome_error e _)).continues s isOpen
  · intro limit s isOpen short
    exact (paced_write (e.execute s.engine contentTemplate context).2.emitted sink
      (fun _ => (e.execute s.engine contentTemplate context).1) _
      (exists_outcome_error e _)).follows limit s isOpen short

theorem close_limited (limit : Nat) (w : World) (sink : Sink) :
    (w.limited limit).close sink = w.close sink := by
  cases sink <;> rfl

theorem openSink_limited (limit : Nat) (w : World) (d : Destination) (force : Bool) :
    (w.limited limit).openSink d force =
      ((w.openSink d force).1.limited limit, (w.openSink d force).2) := by
  cases d <;> rfl

theorem stdout_openSink (w : World) (d : Destination) (force : Bool) :
    (w.openSink d force).1.stdout = w.stdout := by
  cases d <;> rfl

/-- Hands over what a sink holds back. -/
def closeStep (sink : Sink) (s : Session σ) : Session σ × Except RunError Unit :=
  (s, (s.world.close sink).mapError .io)

/-- Prints a text. -/
def printStep (text : String) (s : Session σ) : Session σ × Except RunError Unit :=
  (⟨s.engine, (s.world.print text).1⟩, (s.world.print text).2.mapError .io)

theorem finish_eq (s : Session σ) (sink : Sink) (announcement : String) :
    s.finish sink announcement =
      Session.andThen (closeStep sink s) id fun s _ => printStep announcement s := by
  unfold finish closeStep
  cases s.world.close sink <;> rfl

theorem paced_finish (sink : Sink) (announcement : String) :
    Paced fun s : Session σ => s.finish sink announcement := by
  have closing : Paced fun s : Session σ => closeStep sink s :=
    paced_of_silent (fun _ => rfl) fun limit s => by
      simp only [closeStep, limited, close_limited]
  have printing : Paced fun s : Session σ => printStep announcement s :=
    paced_write (bytesOf announcement) .stdout id _ fun fault => ⟨.io fault, rfl⟩
  simp only [finish_eq]
  exact closing.andThen id fun _ => printing

theorem paced_openStep (d : Destination) (force : Bool) :
    Paced fun s : Session σ => openStep d force s := by
  refine paced_of_silent (fun s => stdout_openSink ..) fun limit s => ?_
  simp only [openStep, limited, openSink_limited]

theorem paced_skipRow (name : String) (cause : SinkError) :
    Paced fun s : Session σ => skipRow s name cause := by
  refine paced_of_silent (fun s => ?_) fun limit s => ?_
  · unfold skipRow
    dsimp only
    split <;> rfl
  · have same : (s.limited limit).world.complain s!"  {name}: {cause.message}\n" =
        ((s.world.complain s!"  {name}: {cause.message}\n").1.limited limit,
          (s.world.complain s!"  {name}: {cause.message}\n").2) := rfl
    simp only [skipRow, same]
    cases (s.world.complain s!"  {name}: {cause.message}\n").2 <;> rfl

theorem paced_nameStep (e : Engine σ) (row : Nat) (record : Record) :
    Paced fun s : Session σ => nameStep e row record s := by
  refine paced_of_silent (fun s => ?_) fun limit s => ?_
  · unfold nameStep
    split <;> rfl
  · simp only [nameStep, limited]
    cases e.executeToString s.engine outputTemplate (rowContext record) with
    | mk engine result => cases result <;> rfl

theorem paced_writeRow (e : Engine σ) (context : Json) (name : String) (sink : Sink) :
    Paced fun s : Session σ => writeRow e s context name sink := by
  simp only [writeRow_eq]
  refine (paced_fill e context sink).andThen _ fun _ => ?_
  exact (paced_finish sink (name ++ "\n")).andThen id fun _ => paced_pure _

theorem paced_renderRow (e : Engine σ) (force : Bool) (row : Nat) (record : Record) :
    Paced fun s => renderRow e force s row record := by
  simp only [renderRow_eq]
  refine (paced_nameStep e row record).andThen id fun name => ?_
  refine (paced_openStep (.parse name) force).andThen id fun opened => ?_
  cases opened with
  | error cause => exact paced_skipRow name cause
  | ok sink => exact paced_writeRow e _ name sink

theorem paced_renderRows (e : Engine σ) (force : Bool) (row : Nat) (tally : Tally)
    (records : List Record) : Paced fun s => renderRows e force s row tally records := by
  induction records generalizing row tally with
  | nil => exact paced_pure _
  | cons record rest ih =>
    simp only [renderRows_cons_eq]
    exact (paced_renderRow e force row record).andThen id fun ending =>
      ih (row + 1) (tally.count ending)

theorem paced_renderPerRow (e : Engine σ) (records : List Record) (force : Bool) :
    Paced fun s => renderPerRow e records force s := by
  simp only [renderPerRow_eq]
  exact (paced_renderRows e force 0 ⟨0, 0⟩ records).andThen id fun _ => paced_pure _

theorem paced_renderSingle (e : Engine σ) (table : Table) (d : Destination) (force : Bool) :
    Paced fun s => renderSingle e table d force s := by
  simp only [renderSingle_eq]
  refine (paced_openStep d force).andThen id fun opened => ?_
  cases opened with
  | error cause => exact paced_pure _
  | ok sink =>
    exact (paced_fill e (singleContext table) sink).andThen _ fun _ =>
      paced_finish sink (savedMessage d)

theorem paced_prepare (e : Engine σ) (config : Config) (stdin : Stdin) :
    Paced fun s => prepare e config stdin s := by
  refine paced_of_silent (fun s => ?_) fun limit s => ?_
  · unfold prepare
    split <;> rfl
  · have same : (s.limited limit).world.files = s.world.files := rfl
    unfold prepare
    rw [same]
    split <;> rfl

/-- A whole run, with one output or with one for every row. -/
theorem paced_runWith (e : Engine σ) (config : Config) (stdin : Stdin) :
    Paced fun s => runWith e config stdin s := by
  simp only [runWith_eq]
  refine (paced_prepare e config stdin).andThen id fun table => ?_
  unfold render
  split
  next destination _ => exact paced_renderSingle e table destination config.force
  next =>
    exact (paced_renderPerRow e table.records config.force).andThen id fun _ => paced_pure _

end Session

end FormLetter
