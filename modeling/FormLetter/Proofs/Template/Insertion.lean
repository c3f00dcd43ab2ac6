import FormLetter.Proofs.Template.Reading
import FormLetter.Render.Output

/-!
Letters put out their fields as they are. What a letter renders to is its texts with the values of
its fields between them, whatever the values hold, for one record or in a loop for all of them.
-/
namespace FormLetter.Template

open Lexer Eval

variable {origin : Origin} {value : String → String} {m : Machine}

/-! ### Values of fields -/

/-- Where nothing is escaped the value comes out as this text. -/
inductive Value.Appears : Value → String → Prop
  | text (s : String) : Appears (.text s false) s
  | missing : Appears .undefined ""

theorem Value.Appears.valid {v : Value} {s : String} (appears : v.Appears s) : v.valid = .ok v := by
  cases appears <;> rfl

/-- Text goes out where nothing keeps or drops it, and nothing is escaped. -/
structure Machine.Open (m : Machine) : Prop where
  uncaptured : m.captures = []
  plain : m.escaping = false

theorem put_of_appears {v : Value} {s : String} (appears : v.Appears s) (isOpen : m.Open) :
    put v m = .ok () { m with emitted := m.emitted ++ s } := by
  have out : (m.settled v).output m.escaping = s := by
    rw [isOpen.plain]
    cases appears <;> rfl
  calc put v m
    _ = .ok () (m.emit ((m.settled v).output m.escaping)) := rfl
    _ = .ok () { m with emitted := m.emitted ++ s } := by
      rw [out, Machine.emit, isOpen.uncaptured]

/-- The value that a field has in the machine comes out as this text. -/
def Origin.Gives : Origin → Machine → String → String → Prop
  | .data, m, name, s => ((m.lookup? name).getD .undefined).Appears s
  | .entry owner, m, name, s =>
    ∃ entries, m.lookup? owner = some (.map entries) ∧
      (((Value.map entries).member? name).getD .undefined).Appears s

theorem eval_of_gives (run : Runner) {e : Expr} {name s : String} (isExpr : origin.IsExpr name e)
    (gives : origin.Gives m name s) : ∃ v : Value, v.Appears s ∧ e.eval run .undefined m = .ok v m := by
  cases origin with
  | data =>
    obtain ⟨line, rfl⟩ := isExpr
    exact ⟨_, gives, rfl⟩
  | entry owner =>
    obtain ⟨line, here, rfl⟩ := isExpr
    obtain ⟨entries, found, appears⟩ := gives
    have owned : nameValue owner m = .ok (.map entries) m := by
      calc nameValue owner m
        _ = .ok ((m.lookup? owner).getD .undefined) m := rfl
        _ = .ok (.map entries) m := by rw [found]; rfl
    refine ⟨_, appears, ?_⟩
    calc (Expr.attribute line (.name here owner) name).eval run .undefined m
      _ = locate line (propertyOf (.map entries) name) m := Eval.bind_of_ok owned
      _ = .ok _ m := by
        simp only [locate, propertyOf, Value.property, Value.part, appears.valid]
        rfl

/-! ### Letters -/

/-- What the letter's fields are in the machine. -/
def GivesAll (origin : Origin) (m : Machine) (value : String → String) (parts : List Part) : Prop :=
  ∀ name, .field name ∈ parts → origin.Gives m name (value name)

theorem exec_part (run : Runner) {part : Part} {stmt : Stmt} (isStmt : part.IsStmt origin stmt) (isOpen : m.Open)
    (gives : ∀ name, part = .field name → origin.Gives m name (value name)) :
    stmt.exec run m = .ok () { m with emitted := m.emitted ++ part.filled value } := by
  cases part with
  | text s =>
    obtain ⟨line, rfl⟩ := isStmt
    calc (Stmt.raw line s).exec run m
      _ = .ok () (m.emit s) := rfl
      _ = .ok () { m with emitted := m.emitted ++ s } := by rw [Machine.emit, isOpen.uncaptured]
  | field name =>
    obtain ⟨line, e, isExpr, rfl⟩ := isStmt
    obtain ⟨v, appears, evaluated⟩ := eval_of_gives run isExpr (gives name rfl)
    have plain : (Stmt.emit line e).exec run m = (e.eval run .undefined >>= put) m := by
      cases origin with
      | data =>
        obtain ⟨here, rfl⟩ := isExpr
        rfl
      | entry owner =>
        obtain ⟨here, there, rfl⟩ := isExpr
        rfl
    rw [plain, Eval.bind_of_ok evaluated]
    exact put_of_appears appears isOpen

theorem execAll_letter (run : Runner) {parts : List Part} {body : List Stmt}
    (same : List.Forall₂ (Part.IsStmt origin) parts body) (isOpen : m.Open)
    (gives : GivesAll origin m value parts) :
    execAll run body m = .ok () { m with emitted := m.emitted ++ filledParts value parts } := by
  induction same generalizing m with
  | nil =>
    rw [filledParts, String.append_empty]
    rfl
  | @cons part stmt parts body isStmt _ ih =>
    have first := exec_part run isStmt isOpen
      fun name same => gives name (same ▸ List.mem_cons_self)
    -- What goes out changes no name, so the other fields are what they were.
    have later := @ih { m with emitted := m.emitted ++ part.filled value }
      ⟨isOpen.uncaptured, isOpen.plain⟩ fun name mem => by
        have before := gives name (List.mem_cons_of_mem _ mem)
        cases origin <;> exact before
    calc execAll run (stmt :: body) m
      _ = execAll run body { m with emitted := m.emitted ++ part.filled value } :=
        Eval.bind_of_ok first
      _ = _ := by
        rw [later, filledParts, ← String.append_assoc]

/-! ### Loops over records -/

/-- All that a part of a template has done is to put text out; names of its own frame are its own. -/
structure Machine.Prints (m : Machine) (text : String) (after : Machine) : Prop where
  emitted : after.emitted = m.emitted ++ text
  captures : after.captures = m.captures
  escaping : after.escaping = m.escaping
  parent : after.parent = m.parent
  outer : after.frames.tail = m.frames.tail
  own : after.frames.isEmpty = m.frames.isEmpty

namespace Machine.Prints

variable {after last : Machine} {text more : String}

theorem refl (m : Machine) : m.Prints "" m :=
  ⟨String.append_empty.symm, rfl, rfl, rfl, rfl, rfl⟩

theorem trans (first : m.Prints text after) (second : after.Prints more last) :
    m.Prints (text ++ more) last where
  emitted := by rw [second.emitted, first.emitted, String.append_assoc]
  captures := second.captures.trans first.captures
  escaping := second.escaping.trans first.escaping
  parent := second.parent.trans first.parent
  outer := second.outer.trans first.outer
  own := second.own.trans first.own

theorem isOpen (printed : m.Prints text after) (isOpen : m.Open) : after.Open :=
  ⟨printed.captures.trans isOpen.uncaptured, printed.escaping.trans isOpen.plain⟩

theorem ne_nil (printed : m.Prints text after) (inside : m.frames ≠ []) : after.frames ≠ [] := by
  intro none
  have empty := printed.own
  rw [none] at empty
  exact inside (List.isEmpty_iff.mp empty.symm)

theorem moveLoop (m : Machine) (n index : Nat) (previous : Value) (ahead : List Value) :
    m.Prints "" (m.moveLoop n index previous ahead) := by
  unfold Machine.moveLoop
  split
  next => exact refl m
  next => exact ⟨String.append_empty.symm, rfl, rfl, rfl, rfl, rfl⟩

theorem mapFrame (m : Machine) (f : Frame → Frame) : m.Prints "" (m.mapFrame f) := by
  unfold Machine.mapFrame
  split
  next => exact refl m
  next frames => exact ⟨String.append_empty.symm, rfl, rfl, rfl, by rw [frames]; rfl,
    by rw [frames]; rfl⟩

theorem emit (m : Machine) (text : String) :
    m.Prints text { m with emitted := m.emitted ++ text } :=
  ⟨rfl, rfl, rfl, rfl, rfl, rfl⟩

end Machine.Prints

/-- The value of a field of a record; a field that it does not have is empty. -/
def recordValue (r : Record) (name : String) : String :=
  (r.get? name).getD ""

/-- The entries of a record as a value. -/
def recordEntries (r : Record) : List (Value × Value) :=
  Value.ofJsonMembers (r.fields.map fun (name, value) => (name, .string value))

theorem member?_recordEntries (r : Record) (name : String) :
    (Value.map (recordEntries r)).member? name =
      (r.get? name).map fun s => .text s false := by
  obtain ⟨fields⟩ := r
  unfold recordEntries Record.get? Value.member?
  dsimp only
  induction fields with
  | nil => rfl
  | cons field rest ih =>
    obtain ⟨key, s⟩ := field
    have same : ((Value.ofString key).text? == some name) = (key == name) := rfl
    simp only [List.map_cons, Value.ofJsonMembers, List.find?_cons, same]
    cases key == name with
    | true => rfl
    | false => exact ih

theorem appears_of_record (r : Record) (name : String) :
    (((r.get? name).map fun s => Value.text s false).getD .undefined).Appears
      (recordValue r name) := by
  unfold recordValue
  cases r.get? name with
  | none => exact .missing
  | some s => exact .text s

/-- One turn of a loop: its name is given the value, then the body is run. -/
def loopTurn (run : Runner) (owner : String) (body : List Stmt) (v : Value) : Eval Unit := do
  Target.assign run (.name owner) v
  execAll run body

theorem turn_of_letter (run : Runner) {owner : String} {parts : List Part} {body : List Stmt}
    (same : List.Forall₂ (Part.IsStmt (.entry owner)) parts body) (r : Record) (isOpen : m.Open)
    {top : Frame} {outer : List Frame} (frames : m.frames = top :: outer)
    (fresh : top.locals = []) (unclosed : top.closure = none) :
    ∃ after, loopTurn run owner body (.map (recordEntries r)) m = .ok () after ∧
      m.Prints (filledParts (recordValue r) parts) after := by
  let assigned := m.assign owner (.map (recordEntries r))
  have known : assigned = { m with
      frames := { top with locals := [(owner, .map (recordEntries r))] } :: outer } := by
    simp only [assigned, Machine.assign, frames, unclosed, fresh, Names.put]
  have found : assigned.lookup? owner = some (.map (recordEntries r)) := by
    rw [known]
    simp [Machine.lookup?, Machine.findIn]
  have gives : GivesAll (.entry owner) assigned (recordValue r) parts := by
    intro name _
    refine ⟨recordEntries r, found, ?_⟩
    rw [member?_recordEntries]
    exact appears_of_record r name
  have still : assigned.Open := by
    rw [known]
    exact ⟨isOpen.uncaptured, isOpen.plain⟩
  have start : m.Prints "" assigned := by
    rw [known]
    exact ⟨String.append_empty.symm, rfl, rfl, rfl, by rw [frames]; rfl, by rw [frames]; rfl⟩
  refine ⟨_, execAll_letter run same still gives, ?_⟩
  have whole := start.trans (.emit assigned (filledParts (recordValue r) parts))
  rwa [String.empty_append] at whole

/-- A letter filled in for one record after the other. -/
def filledAll (parts : List Part) : List Record → String
  | [] => ""
  | r :: rest => filledParts (recordValue r) parts ++ filledAll parts rest

theorem eachItem_letter (run : Runner) {owner : String} {parts : List Part} {body : List Stmt}
    (same : List.Forall₂ (Part.IsStmt (.entry owner)) parts body) (n index : Nat)
    (previous : Value) (records : List Record) (isOpen : m.Open) (inside : m.frames ≠ []) :
    ∃ after, eachItem (loopTurn run owner body) n index previous
        (records.map fun r => .map (recordEntries r)) m = .ok () after ∧
      m.Prints (filledAll parts records) after := by
  induction records generalizing m index previous with
  | nil => exact ⟨_, rfl, .moveLoop m n index previous []⟩
  | cons r rest ih =>
    let ahead := rest.map fun r => Value.map (recordEntries r)
    let turn := loopTurn run owner body
    let moved := (m.moveLoop n index previous ahead).mapFrame fun _ => Frame.ofLoop n
    have start : m.Prints "" moved :=
      (Machine.Prints.moveLoop m n index previous _).trans (.mapFrame _ _)
    obtain ⟨outer, frames⟩ : ∃ outer, moved.frames = Frame.ofLoop n :: outer := by
      obtain ⟨top, outer, before⟩ := List.exists_cons_of_ne_nil inside
      have kept : (m.moveLoop n index previous ahead).frames = m.frames := by
        unfold Machine.moveLoop
        split <;> rfl
      exact ⟨outer, by simp only [moved, Machine.mapFrame, kept, before]⟩
    obtain ⟨turned, ran, printed⟩ := turn_of_letter run same r (start.isOpen isOpen) frames
      rfl rfl
    have further := start.trans printed
    rw [String.empty_append] at further
    obtain ⟨after, went, printedAll⟩ := ih (index + 1) (.map (recordEntries r))
      (further.isOpen isOpen) (further.ne_nil inside)
    refine ⟨after, ?_, further.trans printedAll⟩
    calc eachItem turn n index previous (.map (recordEntries r) :: ahead) m
      _ = (turn (.map (recordEntries r)) >>= fun _ =>
            eachItem turn n (index + 1) (.map (recordEntries r)) ahead) moved := rfl
      _ = eachItem turn n (index + 1) (.map (recordEntries r)) ahead turned := Eval.bind_of_ok ran
      _ = .ok () after := went

/-- What puts text out in a frame of its own has put it out once the frame is gone. -/
theorem inFrame_of_prints {x : Eval Unit} {f : Frame} {text : String} {after : Machine}
    (shallow : m.depth ≤ depthLimit) (ran : x { m with frames := f :: m.frames } = .ok () after)
    (printed : Machine.Prints { m with frames := f :: m.frames } text after) :
    inFrame f x m = .ok () { after with frames := m.frames } := by
  have checked : checkDepth m = .ok () m := by
    calc checkDepth m
      _ = (if depthLimit < m.depth then refuse .invalidOperation "recursion limit exceeded"
            else pure ()) m := rfl
      _ = .ok () m := by rw [if_neg (Nat.not_lt_of_le shallow)]; rfl
  have tail : after.frames.tail = m.frames := printed.outer
  have pushed : pushFrame f m = .ok () { m with frames := f :: m.frames } :=
    Eval.bind_of_ok checked
  calc inFrame f x m
    _ = (x >>= fun _ => popFrame >>= fun _ => pure ()) { m with frames := f :: m.frames } :=
      Eval.bind_of_ok pushed
    _ = .ok () { after with frames := after.frames.tail } := Eval.bind_of_ok ran
    _ = .ok () { after with frames := m.frames } := by rw [tail]

/-- How deep a loop that starts now is in a recursive one. -/
def loopDepth (m : Machine) : Nat :=
  match m.currentLoop? with
  | some l => if l.plan.recursive then l.depth + 1 else 0
  | none => 0

/-- A loop over records whose body is a letter puts the letter out for every record. -/
theorem exec_letterLoop (run : Runner) {owner items : String} {parts : List Part} {body : List Stmt}
    (same : List.Forall₂ (Part.IsStmt (.entry owner)) parts body) (line here : Nat)
    (records : List Record) (isOpen : m.Open) (shallow : m.depth ≤ depthLimit)
    (found : m.lookup? items = some (.list (records.map fun r => .map (recordEntries r)))) :
    ∃ after, (Stmt.loop line (.name owner) (.name here items) none false body []).exec run m =
        .ok () after ∧ m.Prints (filledAll parts records) after := by
  let values := records.map fun r => Value.map (recordEntries r)
  let turn := loopTurn run owner body
  let plan : LoopPlan := ⟨Expr.lastOf line [.name here items], .name owner, body, false⟩
  have named : nameValue items m = .ok (.list values) m := by
    calc nameValue items m
      _ = .ok ((m.lookup? items).getD .undefined) m := rfl
      _ = .ok (.list values) m := by rw [found]; rfl
  let n := m.cells.size
  let ready := m.setCell n
    (.loop ⟨plan, 0, .undefined, values, some values.length, loopDepth m, none⟩)
  obtain ⟨after, ran, printed⟩ := eachItem_letter run same n 0 .undefined records
    (m := { ready with frames := Frame.ofLoop n :: ready.frames })
    ⟨isOpen.uncaptured, isOpen.plain⟩ (List.cons_ne_nil _ _)
  -- The loop's frame is gone afterwards, with the name that each turn has assigned in it.
  have framed := inFrame_of_prints (m := ready) shallow ran printed
  have looped : runLoop plan values (some values.length) turn m =
      .ok () { after with frames := m.frames } := by
    calc runLoop plan values (some values.length) turn m
      _ = locate plan.line (inFrame (Frame.ofLoop n) (eachItem turn n 0 .undefined values)) ready :=
        rfl
      _ = .ok () { after with frames := m.frames } := by
        rw [locate, framed]
        rfl
  have whole : m.Prints (filledAll parts records) { after with frames := m.frames } :=
    ⟨printed.emitted, printed.captures, printed.escaping, printed.parent, rfl, rfl⟩
  refine ⟨_, ?_, whole⟩
  calc (Stmt.loop line (.name owner) (.name here items) none false body []).exec run m
    _ = _ := Eval.bind_of_ok named
    _ = (runLoop plan values (some values.length) turn >>= fun _ =>
          if values.isEmpty then execAll run [] else pure ()) m := rfl
    _ = (if values.isEmpty then execAll run [] else pure () : Eval Unit)
          { after with frames := m.frames } := Eval.bind_of_ok looped
    _ = .ok () { after with frames := m.frames } := by split <;> rfl

/-! ### Templates -/

/-- A template whose body only puts text out emits that text. -/
theorem run_of_prints {templates : List Template} {t : Template} {data : Value} {text : String}
    (prints : ∀ run, ∃ after, execAll run t.body (Machine.start templates t data) = .ok () after ∧
      (Machine.start templates t data).Prints text after) :
    t.run templates data = (text, none) := by
  obtain ⟨bound, limit⟩ : ∃ bound, jumpLimit templates = bound + 1 :=
    Nat.exists_eq_add_one.mpr (by rw [jumpLimit, depthLimit]; omega)
  let start := Machine.start templates t data
  obtain ⟨after, ran, printed⟩ := prints (jump bound)
  let close : Eval Unit := do
    runParent (jump bound)
    modify fun n => { n with parent := start.parent }
  have alone : after.parent = none := printed.parent
  have ended : close after = .ok () { after with parent := none } := by
    have read : (get : Eval Machine) after = .ok after after := rfl
    have none : runParent (jump bound) after = .ok () after := by
      rw [runParent, Eval.bind_of_ok read, alone]
      rfl
    exact Eval.bind_of_ok none
  have jumped : jump (bound + 1) (.body [] t.body) start = .ok () { after with parent := none } := by
    calc jump (bound + 1) (.body [] t.body) start
      _ = (execAll (jump bound) t.body >>= fun _ => close) start := rfl
      _ = close after := Eval.bind_of_ok ran
      _ = .ok () { after with parent := none } := ended
  have emitted : after.emitted = text := printed.emitted.trans String.empty_append
  rw [run, limit, jumped]
  simp only [emitted]

/-- A source compiles, and what it compiled to emits this text and ends well. -/
def RendersTo (s : Store) (name source : String) (context : Json) (text : String) : Prop :=
  let (compiled, result) := engine.compile s name source
  result = .ok () ∧ (engine.execute compiled name context).2 = ⟨bytesOf text, none⟩

theorem rendersTo_of_prints (s : Store) {name source : String} {context : Json} {text : String}
    {t : Template} (named : t.name = name) (parsed : read name source = .ok t)
    (prints : ∀ run, ∃ after,
      execAll run t.body (Machine.start (s.insert t) t (.ofJson context)) = .ok () after ∧
        (Machine.start (s.insert t) t (.ofJson context)).Prints text after) :
    RendersTo s name source context text := by
  have found : (s.insert t).find? name = some t := named ▸ find?_insert_self s t
  have compiled : engine.compile s name source = (s.insert t, .ok ()) := by
    simp only [engine, Store.compile, parsed]
  have ran := run_of_prints prints
  have executed : (engine.execute (s.insert t) name context).2 = ⟨bytesOf text, none⟩ := by
    simp only [engine, Store.execute, found, ran, Option.map_none]
  simp only [RendersTo, compiled, executed, true_and]

/-! ### Letters for one record -/

theorem lookup?_start (templates : List Template) (t : Template) (r : Record) (name : String) :
    (Machine.start templates t (.ofJson r.toJson)).lookup? name =
      ((r.get? name).map fun s => Value.text s false).or
        ((Builtin.find? name).map .builtin) := by
  rw [← member?_recordEntries]
  have base : (Machine.start templates t (.ofJson r.toJson)).findIn name
      ⟨[], none, none, .map (recordEntries r)⟩ = (Value.map (recordEntries r)).member? name := rfl
  have frames : (Machine.start templates t (.ofJson r.toJson)).frames =
      [⟨[], none, none, .map (recordEntries r)⟩] := rfl
  rw [Machine.lookup?, frames, List.findSome?_cons, base]
  cases (Value.map (recordEntries r)).member? name <;> rfl

theorem lexes_sourceOf {pieces : List Piece} (letter : ∀ piece ∈ pieces, piece.Fits) :
    Lexes (.text .keep) (sourceOf .data pieces).toList (tokensOf .data (partsOf [] pieces))
      (.text .keep) [] := by
  have fits : Origin.data.Fits := trivial
  have closes (front : List Char) (clean : Clean front) :
      Lexes (.text .keep) (front ++ []) (dataTokens front ++ []) (.text .keep) [] := by
    rw [List.append_nil, List.append_nil]
    exact lexes_end clean
  have whole := lexes_letter fits closes letter clean_nil
  rwa [List.append_nil, List.append_nil] at whole

theorem reads_sourceOf {pieces : List Piece} (letter : ∀ piece ∈ pieces, piece.Fits) :
    Reads (StmtGrammar.bodyAt ExprGrammar.depthLimit fun _ => false)
      (tokensOf .data (partsOf [] pieces)) []
      (List.Forall₂ (Part.IsStmt .data) (partsOf [] pieces)) := by
  have fits : Origin.data.Fits := trivial
  have whole : Reads (StmtGrammar.bodyAt (148 + 2) fun _ => false) (_ ++ []) _ _ :=
    StmtGrammar.reads_body fits (fits_of_mem_partsOf letter []) 148
      fun statement bound found => StmtGrammar.reads_end bound found
  rwa [List.append_nil] at whole

/-- A letter for the fields of one record, none of which is missing under the name of a function. -/
theorem rendersTo_letter (s : Store) (name : String) {pieces : List Piece}
    (letter : ∀ piece ∈ pieces, piece.Fits) (r : Record)
    (known : ∀ field, .field field ∈ partsOf [] pieces → r.get? field = none →
      Builtin.find? field = none) :
    RendersTo s name (sourceOf .data pieces) r.toJson (filled (recordValue r) pieces) := by
  obtain ⟨body, same, parsed⟩ :=
    read_of_reads name (lexes_sourceOf letter) (reads_sourceOf letter)
  refine rendersTo_of_prints s rfl parsed fun run => ?_
  let t : Template := ⟨name, body, blocksOf body⟩
  have gives : GivesAll .data (Machine.start (s.insert t) t (.ofJson r.toJson)) (recordValue r)
      (partsOf [] pieces) := by
    intro field mem
    have appears := appears_of_record r field
    rw [Origin.Gives, lookup?_start]
    -- What the record does not have is asked for among the functions.
    cases found : r.get? field with
    | some v => rwa [found] at appears
    | none =>
      rw [known field mem found]
      rwa [found] at appears
  refine ⟨_, execAll_letter run same ⟨rfl, rfl⟩ gives, ?_⟩
  have text : filledParts (recordValue r) (partsOf [] pieces) = filled (recordValue r) pieces := by
    rw [filledParts_partsOf]
    exact String.empty_append
  rw [text]
  exact .emit _ _

/-! ### Letters for all records -/

/-- A letter in a loop over all records. -/
def loopSource (pieces : List Piece) : String :=
  "\x7b% for r in rows %\x7d" ++ sourceOf (.entry "r") pieces ++ "\x7b% endfor %\x7d"

theorem toList_loopSource (pieces : List Piece) :
    (loopSource pieces).toList = statementOf ["for", "r", "in", "rows"] ++
      ((sourceOf (.entry "r") pieces).toList ++ statementOf ["endfor"]) := by
  have opening : "\x7b% for r in rows %\x7d".toList = statementOf ["for", "r", "in", "rows"] := by
    decide
  have closing : "\x7b% endfor %\x7d".toList = statementOf ["endfor"] := by decide
  have front := String.toList_append.trans
    (congrArg (· ++ (sourceOf (.entry "r") pieces).toList) opening)
  exact (String.toList_append.trans (congrArg₂ (· ++ ·) front closing)).trans
    (List.append_assoc ..)

theorem lexes_loopSource {pieces : List Piece} (letter : ∀ piece ∈ pieces, piece.Fits) :
    Lexes (.text .keep) (loopSource pieces).toList
      (.blockStart :: .name "for" :: .name "r" :: .name "in" :: .name "rows" :: .blockEnd ::
        (tokensOf (.entry "r") (partsOf [] pieces) ++ [.blockStart, .name "endfor", .blockEnd]))
      (.text .keep) [] := by
  have owner : FieldName "r" := by decide
  have words : ∀ w ∈ ["for", "r", "in", "rows"], Word w := by decide
  have last : ∀ w ∈ ["endfor"], Word w := by decide
  have closes (front : List Char) (clean : Clean front) :
      Lexes (.text .keep) (front ++ statementOf ["endfor"])
        (dataTokens front ++ [.blockStart, .name "endfor", .blockEnd]) (.text .keep) [] := by
    have whole : Lexes _ (front ++ (statementOf ["endfor"] ++ [])) _ _ _ :=
      lexes_statement last rfl rfl clean
    rwa [List.append_nil] at whole
  have fits : (Origin.entry "r").Fits := owner
  have body := lexes_letter fits closes letter clean_nil
  have head : Lexes _ ([] ++ (statementOf ["for", "r", "in", "rows"] ++
      ((sourceOf (.entry "r") pieces).toList ++ statementOf ["endfor"]))) _ _ _ :=
    lexes_statement words rfl rfl clean_nil
  rewrite [toList_loopSource]
  exact head.trans body

theorem ofJsonItems_records (records : List Record) :
    Value.ofJsonItems (records.map Record.toJson) =
      records.map fun r => .map (recordEntries r) := by
  induction records with
  | nil => rfl
  | cons r rest ih => exact congrArg (Value.map (recordEntries r) :: ·) ih

theorem filledAll_partsOf (pieces : List Piece) (records : List Record) :
    filledAll (partsOf [] pieces) records =
      String.join (records.map fun r => filled (recordValue r) pieces) := by
  induction records with
  | nil => rfl
  | cons r rest ih =>
    rw [filledAll, filledParts_partsOf, ih, List.map_cons, String.join_cons]
    exact congrArg (· ++ _) String.empty_append

/-- A letter for all records of a table. -/
theorem rendersTo_letterLoop (s : Store) (name : String) {pieces : List Piece}
    (letter : ∀ piece ∈ pieces, piece.Fits) (t : Table) :
    RendersTo s name (loopSource pieces) (singleContext t)
      (String.join (t.records.map fun r => filled (recordValue r) pieces)) := by
  have owner : FieldName "r" := by decide
  have items : FieldName "rows" := by decide
  have reads := StmtGrammar.reads_letterLoop (by decide) (by decide) owner items
    (fits_of_mem_partsOf letter []) 147
  obtain ⟨body, ⟨line, here, stmts, same, rfl⟩, parsed⟩ :=
    read_of_reads name (lexes_loopSource letter) reads
  refine rendersTo_of_prints s rfl parsed fun run => ?_
  let loop : Stmt := .loop line (.name "r") (.name here "rows") none false stmts []
  let found : Template := ⟨name, [loop], blocksOf [loop]⟩
  let start := Machine.start (s.insert found) found (.ofJson (singleContext t))
  have rows : start.lookup? "rows" = some (.list (t.records.map fun r => .map (recordEntries r))) := by
    rw [← ofJsonItems_records]
    rfl
  have shallow : start.depth ≤ depthLimit := Nat.le_of_ble_eq_true rfl
  have isOpen : start.Open := ⟨rfl, rfl⟩
  obtain ⟨after, ran, printed⟩ := exec_letterLoop run same line here t.records isOpen shallow rows
  rw [filledAll_partsOf] at printed
  exact ⟨after, Eval.bind_of_ok ran, printed⟩

/-! ### Letters -/

theorem exists_of_mem_partsOf {pieces : List Piece} {front : List Char} {name : String}
    (mem : .field name ∈ partsOf front pieces) :
    ∃ before behind, .field before name behind ∈ pieces := by
  have other (front : List Char) : ¬ .field name ∈ textPart front := by
    unfold textPart
    split <;> simp
  induction pieces generalizing front with
  | nil => exact absurd mem (other front)
  | cons piece rest ih =>
    cases piece with
    | text s =>
      obtain ⟨before, behind, later⟩ := ih mem
      exact ⟨before, behind, List.mem_cons_of_mem _ later⟩
    | field before n behind =>
      rcases List.mem_append.mp mem with mem | mem
      · exact absurd mem (other front)
      · cases mem with
        | head => exact ⟨before, behind, List.mem_cons_self⟩
        | tail _ mem =>
          obtain ⟨before, behind, later⟩ := ih mem
          exact ⟨before, behind, List.mem_cons_of_mem _ later⟩

/-- A letter renders to its texts with the values of its fields between them, whatever characters
the values hold: for the fields of one record, where a field that is missing must not be the name of
a function, and in a loop for one record of a table after the other. -/
theorem letter_rendersTo_filled (s : Store) (name : String) (pieces : List Piece)
    (letter : ∀ piece ∈ pieces, piece.Fits) :
    (∀ r : Record,
      (∀ before field behind, .field before field behind ∈ pieces → r.get? field = none →
        Builtin.find? field = none) →
      RendersTo s name (sourceOf .data pieces) r.toJson (filled (recordValue r) pieces)) ∧
    ∀ t : Table, RendersTo s name (loopSource pieces) (singleContext t)
      (String.join (t.records.map fun r => filled (recordValue r) pieces)) := by
  refine ⟨fun r known => ?_, fun t => rendersTo_letterLoop s name letter t⟩
  refine rendersTo_letter s name letter r fun field mem missing => ?_
  obtain ⟨before, behind, within⟩ := exists_of_mem_partsOf mem
  exact known before field behind within missing

theorem letter_rendersTo_filled_markup :
    let pieces : List Piece := [.text "<b>", .field " " "name" " ", .text "</b>\n"]
    let r : Record := ⟨[("name", "\x7b\x7b r \x7d\x7d & \"\n")]⟩
    sourceOf .data pieces = "<b>\x7b\x7b name \x7d\x7d</b>\n" ∧
      filled (recordValue r) pieces = "<b>\x7b\x7b r \x7d\x7d & \"\n</b>\n" ∧
      RendersTo emptyStore "content" (sourceOf .data pieces) r.toJson
        (filled (recordValue r) pieces) ∧
      RendersTo emptyStore "content" (loopSource pieces) (singleContext ⟨["name"], [r, .empty]⟩)
        (String.join ([r, .empty].map fun r => filled (recordValue r) pieces)) := by
  intro pieces r
  have letter : ∀ piece ∈ pieces, piece.Fits := by
    intro piece mem
    simp only [pieces, List.mem_cons, List.not_mem_nil, or_false] at mem
    rcases mem with rfl | rfl | rfl
    · exact clean_of_not_mem (by decide)
    · exact ⟨isPlainBlank_of_mem_space, by decide, isPlainBlank_of_mem_space⟩
    · exact clean_of_not_mem (by decide)
  obtain ⟨one, all⟩ := letter_rendersTo_filled emptyStore "content" pieces letter
  refine ⟨by decide, by decide, one r fun before field behind mem missing => ?_, all _⟩
  simp only [pieces, List.mem_cons, List.not_mem_nil, or_false, reduceCtorEq, false_or,
    Piece.field.injEq] at mem
  obtain ⟨-, rfl, -⟩ := mem
  rfl

end FormLetter.Template
