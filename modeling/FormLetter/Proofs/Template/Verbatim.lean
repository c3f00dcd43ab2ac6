import FormLetter.Proofs.Template.Text
import FormLetter.Proofs.Text.Utf8
import FormLetter.Template.Engine

/-!
Templates that are nothing but text. Pieces of text are read as statements that put them out, one
after the other, so what a text without expressions and statements renders to is what its comments
leave of it.
-/
namespace FormLetter.Template

open Lexer

/-- The statements that put pieces of text out. -/
def textStmts (pieces : List (Nat × String)) : List Stmt :=
  pieces.map fun (line, text) => .raw line text

/-! ### Reading -/

theorem Parse.bind_of_ok {α β : Type} {x : Parse α} {f : α → Parse β} {c after : Cursor} {a : α}
    (ran : x c = .ok (a, after)) : (x >>= f) c = f a after := by
  simp [bind, StateT.bind, Except.bind, ran]

theorem Parse.bind_of_error {α β : Type} {x : Parse α} {f : α → Parse β} {c : Cursor}
    {fault : GrammarFault} (ran : x c = .error fault) : (x >>= f) c = .error fault := by
  simp [bind, StateT.bind, Except.bind, ran]

theorem next_of_cons {c : Cursor} {t : Located} {rest : List Located} (tokens : c.rest = t :: rest) :
    Parse.next c = .ok (some t.token, { c with rest := rest, line := t.line }) := by
  obtain ⟨_, fault, line, inRoutine, blocks, bound⟩ := c
  cases tokens
  rfl

theorem next_of_end {c : Cursor} (tokens : c.rest = []) (sound : c.fault = none) :
    Parse.next c = .ok (none, c) := by
  obtain ⟨_, _, line, inRoutine, blocks, bound⟩ := c
  cases tokens
  cases sound
  rfl

theorem next_of_fault {c : Cursor} {fault : LexFault} (tokens : c.rest = [])
    (broken : c.fault = some fault) :
    Parse.next c = .error ⟨fault.kind, fault.detail, fault.line.getD c.line⟩ := by
  obtain ⟨_, _, line, inRoutine, blocks, bound⟩ := c
  cases tokens
  cases broken
  rfl

/-- A body of text is read as its pieces, unless the tokens end with a fault. -/
theorem bodyUpTo_textTokens (expression : Parse Expr) (statement : Parse Stmt) (isEnd : Token → Bool)
    {pieces : List (Nat × String)} {bound : Nat} (enough : pieces.length < bound)
    (found : List Stmt) {c : Cursor} (tokens : c.rest = textTokens pieces) :
    (c.fault = none ∧ ∃ after, StmtGrammar.bodyUpTo expression statement isEnd bound found c =
      .ok (found.reverse ++ textStmts pieces, after)) ∨
    (c.fault ≠ none ∧ ∃ fault,
      StmtGrammar.bodyUpTo expression statement isEnd bound found c = .error fault) := by
  -- A fault is met behind the last piece only, so it is the base case that tells the two apart.
  induction pieces generalizing bound found c with
  | nil =>
    obtain ⟨bound, rfl⟩ := Nat.exists_eq_add_one.mpr enough
    cases sound : c.fault with
    | none =>
      refine .inl ⟨rfl, c, ?_⟩
      rw [StmtGrammar.bodyUpTo, Parse.bind_of_ok (next_of_end tokens sound), textStmts,
        List.map_nil, List.append_nil]
      rfl
    | some fault =>
      refine .inr ⟨by simp, ⟨fault.kind, fault.detail, fault.line.getD c.line⟩, ?_⟩
      rw [StmtGrammar.bodyUpTo, Parse.bind_of_error (next_of_fault tokens sound)]
  | cons piece rest ih =>
    obtain ⟨bound, rfl⟩ := Nat.exists_eq_add_one.mpr (Nat.zero_lt_of_lt enough)
    obtain ⟨line, text⟩ := piece
    have read : StmtGrammar.bodyUpTo expression statement isEnd (bound + 1) found c =
        StmtGrammar.bodyUpTo expression statement isEnd bound (.raw line text :: found)
          { c with rest := textTokens rest, line := line } := by
      rw [StmtGrammar.bodyUpTo, Parse.bind_of_ok (next_of_cons tokens)]
      rfl
    have shorter : rest.length < bound := Nat.lt_of_succ_lt_succ enough
    rw [read]
    have split := ih shorter (.raw line text :: found)
      (c := { c with rest := textTokens rest, line := line }) rfl
    simpa [textStmts] using split

theorem bodyAt_textTokens (depth : Nat) (isEnd : Token → Bool) {pieces : List (Nat × String)}
    {c : Cursor} (enough : pieces.length < c.bound) (tokens : c.rest = textTokens pieces) :
    (c.fault = none ∧ ∃ after, StmtGrammar.bodyAt depth isEnd c = .ok (textStmts pieces, after)) ∨
    (c.fault ≠ none ∧ ∃ fault, StmtGrammar.bodyAt depth isEnd c = .error fault) := by
  cases depth with
  | zero => exact bodyUpTo_textTokens _ _ isEnd enough [] tokens
  | succ depth => exact bodyUpTo_textTokens _ _ isEnd enough [] tokens

theorem blocksOf_textStmts (pieces : List (Nat × String)) : blocksOf (textStmts pieces) = [] := by
  induction pieces with
  | nil => rfl
  | cons piece rest ih => exact ih

/-- A source of which only text is left is a template of that text, unless it cannot be cut into
tokens to its end. -/
theorem read_of_textTokens (name : String) {source : String} {pieces : List (Nat × String)}
    (tokens : (tokenize source).tokens = textTokens pieces) :
    ((tokenize source).fault = none ∧ read name source = .ok ⟨name, textStmts pieces, []⟩) ∨
    ((tokenize source).fault ≠ none ∧ ∃ e, read name source = .error e) := by
  have enough : pieces.length < (Cursor.ofStream (tokenize source)).bound := by
    simp [Cursor.ofStream, tokens, textTokens]
  rw [read]
  obtain ⟨sound, after, parsed⟩ | ⟨broken, fault, parsed⟩ :=
    bodyAt_textTokens ExprGrammar.depthLimit (fun _ => false) enough tokens
  · exact .inl ⟨sound, by rw [parsed]; simp only [blocksOf_textStmts]⟩
  · exact .inr ⟨broken, ⟨fault.kind, fault.detail, some ⟨name, fault.line⟩⟩, by rw [parsed]⟩

/-! ### Running -/

/-- Text goes out as it is where nothing keeps or drops it. -/
theorem execAll_textStmts (run : Runner) (pieces : List (Nat × String)) {m : Machine}
    (uncaptured : m.captures = []) :
    execAll run (textStmts pieces) m =
      .ok () { m with emitted := m.emitted ++ textOf pieces } := by
  induction pieces generalizing m with
  | nil =>
    rw [textOf, String.append_empty]
    rfl
  | cons piece rest ih =>
    obtain ⟨line, text⟩ := piece
    have first : m.emit text = { m with emitted := m.emitted ++ text } := by
      rw [Machine.emit, uncaptured]
    calc execAll run (textStmts ((line, text) :: rest)) m
      _ = execAll run (textStmts rest) (m.emit text) := rfl
      _ = execAll run (textStmts rest) { m with emitted := m.emitted ++ text } :=
        congrArg (execAll run (textStmts rest)) first
      _ = .ok () { m with emitted := m.emitted ++ text ++ textOf rest } := ih uncaptured
      _ = .ok () { m with emitted := m.emitted ++ textOf ((line, text) :: rest) } := by
        rw [textOf, String.append_assoc]

theorem Eval.bind_of_ok {α β : Type} {x : Eval α} {f : α → Eval β} {m after : Machine} {a : α}
    (ran : x m = .ok a after) : (x >>= f) m = f a after := by
  simp only [bind, EStateM.bind, ran]

/-- A body of text puts its text out and inherits from nothing. -/
theorem jump_textStmts (bound : Nat) (pieces : List (Nat × String)) {m : Machine}
    (uncaptured : m.captures = []) :
    Eval.jump (bound + 1) (.body [] (textStmts pieces)) m =
      .ok () { m with emitted := m.emitted ++ textOf pieces } := by
  let texts := execAll (Eval.jump bound) (textStmts pieces)
  let close : Eval Unit := do
    Eval.runParent (Eval.jump bound)
    modify fun n => { n with parent := m.parent }
  have ran : texts { m with parent := none } =
      .ok () { m with emitted := m.emitted ++ textOf pieces, parent := none } :=
    execAll_textStmts _ pieces uncaptured
  calc Eval.jump (bound + 1) (.body [] (textStmts pieces)) m
    _ = (texts >>= fun _ => close) { m with parent := none } := rfl
    _ = close { m with emitted := m.emitted ++ textOf pieces, parent := none } :=
      Eval.bind_of_ok ran
    _ = .ok () { m with emitted := m.emitted ++ textOf pieces } := rfl

theorem run_textStmts (templates : List Template) (name : String) (pieces : List (Nat × String))
    (data : Value) :
    run templates ⟨name, textStmts pieces, []⟩ data = (textOf pieces, none) := by
  obtain ⟨bound, limit⟩ : ∃ bound, Eval.jumpLimit templates = bound + 1 :=
    Nat.exists_eq_add_one.mpr (by rw [Eval.jumpLimit, depthLimit]; omega)
  have texts := jump_textStmts bound pieces
    (m := Machine.start templates ⟨name, textStmts pieces, []⟩ data) rfl
  have emitted : "" ++ textOf pieces = textOf pieces := String.empty_append
  rw [run, limit, texts, Machine.start, emitted]

/-! ### Text that renders to itself -/

/-- A text compiles, and what it compiled to emits the text, whatever the data. -/
def RendersItself (s : Store) (name text : String) (context : Json) : Prop :=
  let (compiled, result) := engine.compile s name text
  result = .ok () ∧ (engine.execute compiled name context).2 = ⟨bytesOf text, none⟩

theorem unmarked_of_containsExpression {text : String}
    (plain : engine.containsExpression text = false) : Unmarked text.toList := by
  simp only [Engine.containsExpression, engine, markers, List.any_cons, List.any_nil,
    Bool.or_false, Bool.or_eq_false_iff] at plain
  exact ⟨fun found => by simp [Text.occursIn_iff.mpr found] at plain,
    fun found => by simp [Text.occursIn_iff.mpr found] at plain⟩

theorem find?_insert_self (s : Store) (t : Template) : (s.insert t).find? t.name = some t := by
  simp [Store.insert, Store.find?]

/-- A source of which only text is left renders to itself if nothing was taken from it and it could
be cut into tokens to its end. -/
theorem rendersItself_iff_of_textTokens (s : Store) (name : String) (context : Json)
    {source : String} {pieces : List (Nat × String)}
    (tokens : (tokenize source).tokens = textTokens pieces) :
    RendersItself s name source context ↔
      (tokenize source).fault = none ∧ textOf pieces = source := by
  obtain ⟨sound, parsed⟩ | ⟨broken, e, parsed⟩ := read_of_textTokens name tokens
  · have found := find?_insert_self s ⟨name, textStmts pieces, []⟩
    simp only at found
    have ran := run_textStmts (s.insert ⟨name, textStmts pieces, []⟩) name pieces (.ofJson context)
    have compiled : engine.compile s name source =
        (s.insert ⟨name, textStmts pieces, []⟩, .ok ()) := by
      simp only [engine, Store.compile, parsed]
    have executed : (engine.execute (s.insert ⟨name, textStmts pieces, []⟩) name context).2 =
        ⟨bytesOf (textOf pieces), none⟩ := by
      simp only [engine, Store.execute, found, ran, Option.map_none]
    simp only [RendersItself, compiled, executed, true_and, sound, Execution.mk.injEq, and_true]
    exact ⟨bytesOf_injective, congrArg bytesOf⟩
  · have compiled : (engine.compile s name source).2 = .error (.ofTemplate e) := by
      simp only [engine, Store.compile, parsed]
    refine ⟨fun rendered => ?_, fun whole => absurd whole.1 broken⟩
    simp [RendersItself, compiled] at rendered

/-- Comments do not come out again. -/
theorem not_rendersItself_of_commented (s : Store) (name : String) (context : Json)
    {text : String} (unmarked : Unmarked text.toList) (commented : Commented text.toList) :
    ¬ RendersItself s name text context := by
  obtain ⟨pieces, tokens, -, less⟩ :=
    exists_textTokens_of_unmarked (text.toList.length + 1) .keep 0 1 unmarked
  intro rendered
  have same := ((rendersItself_iff_of_textTokens s name context tokens).mp rendered).2
  have shorter : (textOf pieces).length < text.toList.length := less commented
  rw [same, String.length_toList] at shorter
  exact Nat.lt_irrefl _ shorter

/-- Text without the marks of expressions and statements renders to itself exactly if no comment
opens in it either. -/
theorem rendersItself_iff (s : Store) (name text : String) (context : Json)
    (plain : engine.containsExpression text = false) :
    RendersItself s name text context ↔ Text.occursIn ['\x7b', '#'] text.toList = false := by
  have unmarked := unmarked_of_containsExpression plain
  rw [← Bool.not_eq_true, Text.occursIn_iff]
  constructor
  · intro rendered commented
    exact not_rendersItself_of_commented s name context unmarked commented rendered
  · intro uncommented
    obtain ⟨pieces, tokens, sound, whole⟩ :=
      exists_textTokens_of_markFree (unmarked.markFree uncommented)
    exact (rendersItself_iff_of_textTokens s name context tokens).mpr ⟨sound, whole⟩

theorem rendersItself_iff_lone_brace :
    engine.containsExpression "a \x7b b" = false ∧
      (RendersItself emptyStore "content" "a \x7b b" .null ↔
        Text.occursIn ['\x7b', '#'] "a \x7b b".toList = false) :=
  ⟨by decide, rendersItself_iff emptyStore "content" "a \x7b b" .null (by decide)⟩

/-- A comment is no expression to the marks, and yet it does not come out. -/
theorem comment_without_marker_not_rendersItself :
    ¬ ∀ (s : Store) (name text : String) (context : Json),
      engine.containsExpression text = false → RendersItself s name text context := by
  intro always
  have plain : engine.containsExpression "\x7b# c #\x7d" = false := by decide
  have commented : Commented "\x7b# c #\x7d".toList := ⟨[], " c #\x7d".toList, by decide⟩
  exact not_rendersItself_of_commented emptyStore "content" (.object [])
    (unmarked_of_containsExpression plain) commented (always _ _ _ _ plain)

end FormLetter.Template
