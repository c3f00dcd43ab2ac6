import FormLetter.Proofs.Template.Pieces
import FormLetter.Proofs.Template.Verbatim
import Mathlib.Data.List.Forall2

/-!
Reading letters. What a reader does with the tokens ahead is said once for every reader; a letter is
then read as one statement for each of its parts.
-/
namespace FormLetter.Template

open Lexer Parse

variable {α β : Type}

/-! ### Readers -/

/-- The tokens that are still to be read, with no fault behind them. -/
structure Cursor.Ahead (c : Cursor) (tokens : List Token) : Prop where
  located : c.rest.map (·.token) = tokens
  sound : c.fault = none
  room : tokens.length < c.bound

/-- Of these tokens the reader leaves the rest, wherever they stand, and what it gives is right. -/
def Reads (p : Parse α) (tokens rest : List Token) (right : α → Prop) : Prop :=
  ∀ c : Cursor, c.Ahead tokens → ∃ a after, p c = .ok (a, after) ∧ after.Ahead rest ∧ right a

namespace Reads

variable {p : Parse α} {tokens middle rest : List Token} {right : α → Prop} {good : β → Prop}

protected theorem pure {a : α} (holds : right a) : Reads (pure a) tokens tokens right :=
  fun c ahead => ⟨a, c, rfl, ahead, holds⟩

protected theorem bind {f : α → Parse β} (first : Reads p tokens middle right)
    (second : ∀ a, right a → Reads (f a) middle rest good) : Reads (p >>= f) tokens rest good := by
  intro c ahead
  obtain ⟨a, mid, ran, still, holds⟩ := first c ahead
  obtain ⟨b, after, ran', left, well⟩ := second a holds mid still
  exact ⟨b, after, (Parse.bind_of_ok ran).trans ran', left, well⟩

theorem weaken {wider : α → Prop} (reads : Reads p tokens rest right)
    (wide : ∀ a, right a → wider a) : Reads p tokens rest wider := by
  intro c ahead
  obtain ⟨a, after, ran, left, holds⟩ := reads c ahead
  exact ⟨a, after, ran, left, wide a holds⟩

theorem get : Reads MonadState.get tokens tokens fun c : Cursor => tokens.length < c.bound :=
  fun c ahead => ⟨c, c, rfl, ahead, ahead.room⟩

/-- A reader that asks for the bound finds room for the tokens ahead. -/
theorem of_bound {q : Nat → Parse α}
    (reads : ∀ bound, tokens.length < bound → Reads (q bound) tokens rest right) :
    Reads (fun c => q c.bound c) tokens rest right :=
  fun c ahead => reads c.bound ahead.room c ahead

theorem peekLocated :
    Reads Parse.peekLocated tokens tokens fun t => t.map (·.token) = tokens.head? := by
  intro c ahead
  refine ⟨c.rest.head?, c, ?_, ahead, ?_⟩
  · obtain ⟨ahead, sound, -⟩ := ahead
    obtain ⟨_ | ⟨t, more⟩, _, line, inRoutine, blocks, bound⟩ := c
    · cases sound
      rfl
    · rfl
  · rw [← ahead.located, List.head?_map]

theorem peek : Reads Parse.peek tokens tokens (· = tokens.head?) :=
  peekLocated.bind fun _ same => .pure same

theorem peekLine : Reads Parse.peekLine tokens tokens fun _ => True := by
  intro c ahead
  obtain ⟨_ | ⟨t, more⟩, fault, line, inRoutine, blocks, bound⟩ := c
  · exact ⟨line, _, rfl, ahead, trivial⟩
  · exact ⟨t.line, _, rfl, ahead, trivial⟩

theorem next : Reads Parse.next tokens tokens.tail (· = tokens.head?) := by
  intro c ahead
  obtain ⟨ahead, sound, room⟩ := ahead
  obtain ⟨_ | ⟨t, more⟩, fault, line, inRoutine, blocks, bound⟩ := c
  · cases ahead
    cases sound
    exact ⟨none, _, rfl, ⟨rfl, rfl, room⟩, rfl⟩
  · cases ahead
    exact ⟨some t.token, _, rfl, ⟨rfl, sound, Nat.lt_of_succ_lt room⟩, rfl⟩

theorem nextIs (p : Token → Bool) :
    Reads (Parse.nextIs p) tokens tokens (· = tokens.head?.any p) :=
  peek.bind fun t same => .pure (by rw [same])

/-- A token that is looked for and not there is left alone. -/
theorem skipIf_other {p : Token → Bool} (other : tokens.head?.any p = false) :
    Reads (Parse.skipIf p) tokens tokens (· = false) := by
  refine (nextIs p).bind fun found same => ?_
  rw [same, other]
  exact .pure rfl

theorem expect {p : Token → Bool} {t : Token} (passes : p t = true) (expectation : String) :
    Reads (Parse.expect p expectation) (t :: rest) rest fun _ => True := by
  refine next.bind fun found same => ?_
  have yes : found.any p = true := by
    rw [same]
    exact passes
  rw [if_pos yes]
  exact .pure trivial

theorem identifier (n : String) : Reads Parse.identifier (.name n :: rest) rest (· = n) := by
  refine next.bind fun found same => ?_
  rw [same]
  exact .pure rfl

end Reads

/-! ### Expressions -/

/-- An expression ends here: its closing mark follows. -/
def Stops (tokens : List Token) : Prop :=
  tokens.head? = some .variableEnd ∨ tokens.head? = some .blockEnd

/-- What a field is read as. -/
def Origin.IsExpr : Origin → String → Expr → Prop
  | .data, name, e => ∃ line, e = .name line name
  | .entry owner, name, e => ∃ line here, e = .attribute line (.name here owner) name

namespace ExprGrammar

variable {operand : Parse Expr} {tokens rest : List Token} {right : Expr → Prop}

theorem reads_row {operator? : Token → Option Operator} (other : rest.head?.bind operator? = none)
    (start bound : Nat) (left : Expr) :
    Reads (row operand operator? start bound left) rest rest (· = left) := by
  cases bound with
  | zero => exact .pure rfl
  | succ bound =>
    refine Reads.peek.bind fun t same => ?_
    rw [same, other]
    exact .pure rfl

/-- Without an operator behind it an operand stands for itself. -/
theorem reads_level {operator? : Token → Option Operator}
    (other : rest.head?.bind operator? = none) (reads : Reads operand tokens rest right) :
    Reads (level operator? operand) tokens rest right := by
  refine Reads.peekLine.bind fun start _ => reads.bind fun left holds => Reads.get.bind fun c _ => ?_
  exact (reads_row other start c.bound left).weaken fun _ same => same ▸ holds

theorem reads_comparisonRow (other : ∀ t, rest.head? = some t →
      t.isName "not" = false ∧ comparison? t = none) (bound line : Nat) :
    Reads (comparisonRow operand bound line) rest rest (· = []) := by
  cases bound with
  | zero => exact .pure rfl
  | succ bound =>
    refine Reads.peek.bind fun t same => ?_
    cases t with
    | none => exact .pure rfl
    | some t =>
      obtain ⟨plain, none⟩ := other t same.symm
      simp only [plain, none, Bool.false_eq_true, if_false]
      exact .pure rfl

theorem reads_comparisons (other : ∀ t, rest.head? = some t →
      t.isName "not" = false ∧ comparison? t = none) (reads : Reads operand tokens rest right) :
    Reads (comparisons operand) tokens rest right := by
  refine Reads.peekLine.bind fun start _ => reads.bind fun left holds => Reads.get.bind fun c _ => ?_
  refine (reads_comparisonRow other _ _).bind fun links none => ?_
  rw [none]
  exact .pure holds

theorem reads_negations (other : tokens.head?.any (·.isName "not") = false)
    (reads : Reads operand tokens rest right) : Reads (negations operand) tokens rest right := by
  have none (bound : Nat) :
      Reads (repeated (·.isName "not") bound) tokens tokens (· = 0) := by
    cases bound with
    | zero => exact .pure rfl
    | succ bound =>
      refine (Reads.skipIf_other other).bind fun _ same => ?_
      rw [same]
      exact .pure rfl
  refine Reads.get.bind fun c _ => (none c.bound).bind fun count zero => ?_
  rw [zero]
  exact reads.bind fun e holds => .pure holds

theorem reads_joined {word : String} {join : Expr → Expr → Expr}
    (other : rest.head?.any (·.isName word) = false) (reads : Reads operand tokens rest right) :
    Reads (joined word join operand) tokens rest right := by
  refine reads.bind fun left holds => Reads.get.bind fun c _ => ?_
  cases c.bound with
  | zero => exact .pure holds
  | succ bound =>
    refine (Reads.skipIf_other other).bind fun _ same => ?_
    rw [same]
    exact .pure holds

theorem reads_chosen (other : rest.head?.any (·.isName "if") = false)
    (reads : Reads operand tokens rest right) : Reads (chosen operand) tokens rest right := by
  refine Reads.of_bound fun bound _ => ?_
  cases bound with
  | zero => exact reads
  | succ bound =>
    refine reads.bind fun first holds => Reads.get.bind fun c _ => ?_
    cases c.bound with
    | zero => exact .pure holds
    | succ bound =>
      refine (Reads.skipIf_other other).bind fun _ same => ?_
      rw [same]
      exact .pure holds

/-- An operand that ends an expression is the expression. -/
theorem reads_disjunction (stops : Stops rest)
    (other : tokens.head?.any (·.isName "not") = false) (reads : Reads operand tokens rest right) :
    Reads (disjunction operand) tokens rest right := by
  have bare {operator? : Token → Option Operator} (variableEnd : operator? .variableEnd = none)
      (blockEnd : operator? .blockEnd = none) : rest.head?.bind operator? = none := by
    rcases stops with same | same <;> rw [same] <;> assumption
  have plain (word : String) : rest.head?.any (·.isName word) = false := by
    rcases stops with same | same <;> rw [same] <;> rfl
  have single : ∀ t, rest.head? = some t → t.isName "not" = false ∧ comparison? t = none := by
    intro t ahead
    rcases stops with same | same <;> rw [same] at ahead <;> cases ahead <;> exact ⟨rfl, rfl⟩
  refine reads_joined (plain "or") <| reads_joined (plain "and") <| reads_negations other <|
    reads_comparisons single ?_
  exact reads_level (bare rfl rfl) <| reads_level (bare rfl rfl) <| reads_level (bare rfl rfl) <|
    reads_level (bare rfl rfl) reads

theorem reads_signed {primary : Parse Expr}
    (other : tokens.head?.any (·.isSymbol .minus) = false) (reads : Reads primary tokens rest right)
    (bound : Nat) : Reads (signed primary bound) tokens rest right := by
  cases bound with
  | zero => exact reads
  | succ bound =>
    refine Reads.peekLine.bind fun line _ => (Reads.skipIf_other other).bind fun _ same => ?_
    rw [same]
    exact reads

theorem reads_postfixes {inner value : Parse Expr} (stops : Stops rest) (bound line : Nat)
    (e : Expr) : Reads (postfixes inner value bound line e) rest rest (· = e) := by
  cases bound with
  | zero => exact .pure rfl
  | succ bound =>
    refine Reads.peekLine.bind fun here _ => Reads.peek.bind fun t same => ?_
    rcases stops with stop | stop <;> rw [same, stop] <;> exact .pure rfl

/-- One name behind a point is an attribute. -/
theorem reads_postfixes_dot {inner value : Parse Expr} (stops : Stops rest) (n : String)
    (bound line : Nat) (e : Expr) :
    Reads (postfixes inner value (bound + 1) line e) (.symbol .dot :: .name n :: rest) rest
      fun found => ∃ line, found = .attribute line e n := by
  refine Reads.peekLine.bind fun here _ => Reads.peek.bind fun t same => ?_
  rw [same]
  refine Reads.next.bind fun _ _ => Reads.peekLine.bind fun _ _ => Reads.next.bind fun t same => ?_
  rw [same]
  exact (reads_postfixes stops bound here _).weaken fun found whole => ⟨_, whole⟩

theorem reads_filters {primary inner value : Parse Expr} (stops : Stops rest) (bound : Nat)
    (e : Expr) : Reads (filters primary inner value bound e) rest rest (· = e) := by
  cases bound with
  | zero => exact .pure rfl
  | succ bound =>
    refine Reads.peek.bind fun t same => ?_
    rcases stops with stop | stop <;> rw [same, stop] <;> exact .pure rfl

theorem wordLiteral?_of_not_mem {n : String} (unreserved : n ∉ valueWords) :
    wordLiteral? n = none := by
  simp only [valueWords, List.mem_cons, List.not_mem_nil, or_false, not_or] at unreserved
  simp [wordLiteral?, unreserved]

theorem reads_primary {inner : Parse Expr} {n : String} (field : FieldName n) :
    Reads (primary inner) (.name n :: rest) rest fun e => ∃ line, e = .name line n := by
  refine Reads.peekLine.bind fun line _ => Reads.next.bind fun t same => ?_
  rw [same]
  simp only [List.head?_cons, wordLiteral?_of_not_mem field.unreserved]
  exact .pure ⟨line, rfl⟩

/-- A field with what may stand behind it. -/
theorem reads_operand {inner outer value : Parse Expr} {origin : Origin} (fits : origin.Fits)
    {name : String} (field : FieldName name) (stops : Stops rest) :
    Reads (ExprGrammar.operand (primary inner) outer value) (origin.tokens name ++ rest) rest
      (origin.IsExpr name) := by
  have bare : Reads (suffixed (primary inner) outer value) (origin.tokens name ++ rest) rest
      (origin.IsExpr name) := by
    refine Reads.peekLine.bind fun line _ => Reads.get.bind fun c _ => ?_
    cases origin with
    | data =>
      refine (reads_signed rfl (reads_primary field) c.bound).bind fun e named => ?_
      refine Reads.get.bind fun c _ => (reads_postfixes stops c.bound line e).weaken ?_
      exact fun found same => same ▸ named
    | entry owner =>
      refine (reads_signed rfl (reads_primary fits) c.bound).bind fun e ⟨here, named⟩ => ?_
      refine Reads.get.bind fun c room => ?_
      obtain ⟨bound, enough⟩ := Nat.exists_eq_add_one.mpr (Nat.zero_lt_of_lt room)
      rw [enough, named]
      refine (reads_postfixes_dot stops name bound line _).weaken ?_
      exact fun found ⟨line, same⟩ => ⟨line, here, same⟩
  refine bare.bind fun e right => Reads.get.bind fun c _ => ?_
  exact (reads_filters stops c.bound e).weaken fun found same => same ▸ right

theorem first_of_fits {origin : Origin} (fits : origin.Fits) {name : String}
    (field : FieldName name) :
    (origin.tokens name ++ rest).head?.any (·.isName "not") = false := by
  have plain {n : String} (field : FieldName n) : (n == "not") = false := by
    refine beq_eq_false_iff_ne.mpr ?_
    rintro rfl
    exact field.unreserved (by decide)
  cases origin with
  | data => exact plain field
  | entry owner => exact plain fits

theorem reads_disjunctionAt {origin : Origin} (fits : origin.Fits) {name : String}
    (field : FieldName name) (stops : Stops rest) (depth : Nat) :
    Reads (disjunctionAt (depth + 1)) (origin.tokens name ++ rest) rest (origin.IsExpr name) := by
  cases depth with
  | zero => exact reads_disjunction stops (first_of_fits fits field) (reads_operand fits field stops)
  | succ depth =>
    exact reads_disjunction stops (first_of_fits fits field) (reads_operand fits field stops)

/-- A field is an expression. -/
theorem reads_expr {origin : Origin} (fits : origin.Fits) {name : String}
    (field : FieldName name) (stops : Stops rest) (depth : Nat) :
    Reads (expr (depth + 2)) (origin.tokens name ++ rest) rest (origin.IsExpr name) := by
  have other : rest.head?.any (·.isName "if") = false := by
    rcases stops with stop | stop <;> rw [stop] <;> rfl
  exact reads_chosen other (reads_disjunctionAt fits field stops depth)

end ExprGrammar

/-! ### Bodies -/

/-- What a part of a letter is read as. -/
def Part.IsStmt (origin : Origin) : Part → Stmt → Prop
  | .text s, stmt => ∃ line, stmt = .raw line s
  | .field name, stmt => ∃ line e, origin.IsExpr name e ∧ stmt = .emit line e

def Part.Fits : Part → Prop
  | .text _ => True
  | .field name => FieldName name

theorem fits_of_mem_partsOf {pieces : List Piece} (letter : ∀ piece ∈ pieces, piece.Fits)
    (front : List Char) : ∀ part ∈ partsOf front pieces, part.Fits := by
  have text (front : List Char) : ∀ part ∈ textPart front, part.Fits := by
    intro part mem
    unfold textPart at mem
    split at mem
    next => cases mem
    next =>
      cases List.mem_singleton.mp mem
      trivial
  induction pieces generalizing front with
  | nil => exact text front
  | cons piece rest ih =>
    have first := letter piece List.mem_cons_self
    have later := ih fun piece mem => letter piece (List.mem_cons_of_mem _ mem)
    cases piece with
    | text s => exact later (front ++ s.toList)
    | field before name behind =>
      intro part mem
      rcases List.mem_append.mp mem with mem | mem
      · exact text front part mem
      · cases mem with
        | head => exact first.2.1
        | tail _ mem => exact later [] part mem

namespace StmtGrammar

variable {origin : Origin} {statement : Parse Stmt} {isEnd : Token → Bool} {more rest : List Token}

/-- A part of a letter is read as one statement. -/
theorem reads_part (fits : origin.Fits) {part : Part} (proper : part.Fits) (depth bound : Nat)
    (found : List Stmt) {right : List Stmt → Prop}
    (behind : ∀ stmt, part.IsStmt origin stmt →
      Reads (bodyUpTo (ExprGrammar.expr (depth + 2)) statement isEnd bound (stmt :: found)) more rest
        right) :
    Reads (bodyUpTo (ExprGrammar.expr (depth + 2)) statement isEnd (bound + 1) found)
      (part.tokens origin ++ more) rest right := by
  refine Reads.next.bind fun t same => ?_
  rw [same]
  cases part with
  | text s => exact Reads.get.bind fun c _ => behind _ ⟨c.line, rfl⟩
  | field name =>
    have ends : Stops (.variableEnd :: more) := .inl rfl
    have whole : origin.tokens name ++ [.variableEnd] ++ more =
        origin.tokens name ++ .variableEnd :: more := by rw [List.append_assoc]; rfl
    refine Reads.get.bind fun c _ => ?_
    have read := ExprGrammar.reads_expr fits proper ends depth
    rw [← whole] at read
    refine Reads.bind read fun e isExpr => ?_
    exact (Reads.expect rfl _).bind fun _ _ => behind _ ⟨c.line, e, isExpr, rfl⟩

/-- The parts of a letter are read one after the other, and then what stands behind them. -/
theorem reads_parts (fits : origin.Fits) {parts : List Part} (proper : ∀ part ∈ parts, part.Fits)
    (depth bound : Nat) (found : List Stmt) {right : List Stmt → Prop}
    (behind : ∀ body, List.Forall₂ (Part.IsStmt origin) parts body →
      Reads (bodyUpTo (ExprGrammar.expr (depth + 2)) statement isEnd bound (body.reverse ++ found))
        more rest right) :
    Reads (bodyUpTo (ExprGrammar.expr (depth + 2)) statement isEnd (parts.length + bound) found)
      (tokensOf origin parts ++ more) rest right := by
  induction parts generalizing found with
  | nil =>
    rw [List.length_nil, Nat.zero_add]
    exact behind [] .nil
  | cons part parts ih =>
    have tokens : tokensOf origin (part :: parts) ++ more =
        part.tokens origin ++ (tokensOf origin parts ++ more) := List.append_assoc ..
    rw [tokens, List.length_cons, Nat.add_right_comm]
    refine reads_part fits (proper part List.mem_cons_self) depth _ found fun stmt isStmt => ?_
    refine ih (fun part mem => proper part (List.mem_cons_of_mem _ mem)) _ fun body same => ?_
    have whole := behind (stmt :: body) (.cons isStmt same)
    rwa [List.reverse_cons, List.append_assoc] at whole

theorem reads_end {expression : Parse Expr} (bound : Nat) (found : List Stmt) :
    Reads (bodyUpTo expression statement isEnd (bound + 1) found) [] [] (· = found.reverse) := by
  refine Reads.next.bind fun t same => ?_
  rw [same]
  exact .pure rfl

/-- A statement that ends the body is left to what is around it. -/
theorem reads_endMark {expression : Parse Expr} {t : Token} (ends : isEnd t = true) (bound : Nat)
    (found : List Stmt) :
    Reads (bodyUpTo expression statement isEnd (bound + 1) found) (.blockStart :: t :: rest)
      (t :: rest) (· = found.reverse) := by
  refine Reads.next.bind fun _ same => ?_
  rw [same]
  refine Reads.peek.bind fun _ same => ?_
  rw [same]
  simp only [List.tail_cons, List.head?_cons, ends, if_true]
  exact .pure rfl

/-- What the statements at a depth are made of. -/
def partsAt (depth : Nat) : Parts where
  expression := ExprGrammar.expr depth
  value := ExprGrammar.disjunctionAt depth
  body := fun words => bodyAt depth fun
    | .name n => words.contains n
    | _ => false

/-- A body is read where there is room for its tokens. -/
theorem reads_bodyAt {tokens : List Token} {right : List Stmt → Prop} {depth : Nat}
    (reads : ∀ bound, tokens.length < bound →
      Reads (bodyUpTo (ExprGrammar.expr (depth + 1)) (StmtGrammar.statement (partsAt depth)) isEnd
        bound []) tokens rest right) :
    Reads (bodyAt (depth + 1) isEnd) tokens rest right :=
  Reads.of_bound reads

theorem length_le_tokensOf (origin : Origin) (parts : List Part) :
    parts.length ≤ (tokensOf origin parts).length := by
  induction parts with
  | nil => exact Nat.zero_le _
  | cons part rest ih =>
    have some : 1 ≤ (part.tokens origin).length := by cases part <;> exact Nat.le_add_left 1 _
    simp only [tokensOf, List.flatMap_cons, List.length_append, List.length_cons] at *
    omega

/-- A body that is a letter. -/
theorem reads_body (fits : origin.Fits) {parts : List Part} (proper : ∀ part ∈ parts, part.Fits)
    (depth : Nat) (closes : ∀ (statement : Parse Stmt) (bound : Nat) (found : List Stmt),
      Reads (bodyUpTo (ExprGrammar.expr (depth + 2)) statement isEnd (bound + 1) found) more rest
        (· = found.reverse)) :
    Reads (bodyAt (depth + 2) isEnd) (tokensOf origin parts ++ more) rest
      fun body => List.Forall₂ (Part.IsStmt origin) parts body := by
  refine reads_bodyAt fun bound room => ?_
  rw [List.length_append] at room
  have enough := length_le_tokensOf origin parts
  obtain ⟨left, split⟩ : ∃ left, bound = parts.length + (left + 1) :=
    ⟨bound - parts.length - 1, by omega⟩
  rw [split]
  refine reads_parts fits proper depth _ [] fun body same => ?_
  refine (closes _ left (body.reverse ++ [])).weaken fun found whole => ?_
  rw [whole, List.append_nil, List.reverse_reverse]
  exact same

/-! ### Loops -/

theorem reads_assignedPlace {n : String} (free : n ∉ reserved) :
    Reads (assignedPlace false) (.name n :: rest) rest (· = .name n) := by
  have named : Reads assignedName (.name n :: rest) rest (· = n) := by
    refine (Reads.identifier n).bind fun m same => ?_
    have unreserved : reserved.contains m = false := by
      rw [same]
      simpa using free
    simp only [unreserved, Bool.false_eq_true, if_false]
    exact .pure same
  refine Reads.peekLine.bind fun line _ => named.bind fun m same => ?_
  exact .pure (congrArg Target.name same)

/-- A name without a comma behind it is one target. -/
theorem reads_target {n : String} (free : n ∉ reserved) (plain : n ≠ "in") {t : Token}
    (single : t.isSymbol .comma = false) (depth : Nat) :
    Reads (target false (depth + 1)) (.name n :: t :: rest) (t :: rest) (· = .name n) := by
  have more : endsTargets (.name n) = false := beq_eq_false_iff_ne.mpr plain
  have one (bound : Nat) : Reads (targets.go false (target false depth) (bound + 1) [])
      (.name n :: t :: rest) (t :: rest) (· = ([.name n], false)) := by
    refine (Reads.nextIs endsTargets).bind fun found same => ?_
    rw [same, List.head?_cons, Option.any_some, more]
    refine (Reads.skipIf_other rfl).bind fun _ same => ?_
    rw [same]
    refine (reads_assignedPlace free).bind fun place same => ?_
    refine (Reads.nextIs _).bind fun _ other => ?_
    rw [other, List.head?_cons, Option.any_some, single, same]
    exact .pure rfl
  refine Reads.peekLine.bind fun line _ => Reads.get.bind fun c room => ?_
  obtain ⟨bound, enough⟩ := Nat.exists_eq_add_one.mpr (Nat.zero_lt_of_lt room)
  rw [enough]
  refine (one bound).bind fun found same => ?_
  rw [same]
  exact .pure rfl

/-- A loop over a field whose body ends at once with it. -/
theorem reads_loop {p : Parts} {n items : String} (free : n ∉ reserved) (plain : n ≠ "in")
    (field : FieldName items) (depth line : Nat) {tokens : List Token} {right : List Stmt → Prop}
    (value : p.value = ExprGrammar.disjunctionAt (depth + 1))
    (body : Reads (p.body ["endfor", "else"]) tokens (.name "endfor" :: rest) right) :
    Reads (loop p line) (.name n :: .name "in" :: .name items :: .blockEnd :: tokens) rest
      fun s => ∃ here stmts, right stmts ∧
        s = .loop line (.name n) (.name here items) none false stmts [] := by
  have origin : Origin.data.Fits := trivial
  have stops : Stops (.blockEnd :: tokens) := .inr rfl
  have itemsRead := ExprGrammar.reads_disjunctionAt origin field stops depth
  rw [← value] at itemsRead
  refine (reads_target free plain rfl _).bind fun place same => ?_
  refine (Reads.expect (by decide) _).bind fun _ _ => ?_
  refine Reads.bind itemsRead fun e ⟨here, named⟩ => ?_
  refine (Reads.skipIf_other rfl).bind fun _ none => ?_
  rw [none]
  refine Reads.bind (.pure rfl) fun condition none => ?_
  refine (Reads.skipIf_other rfl).bind fun recursive no => ?_
  refine (Reads.expect rfl _).bind fun _ _ => body.bind fun stmts holds => ?_
  have last : (Token.name "endfor" :: rest).head?.any (·.isName "else") = false := rfl
  refine (Reads.skipIf_other last).bind fun _ other => ?_
  rw [other]
  refine Reads.bind (.pure rfl) fun otherwise none' => Reads.next.bind fun _ _ => ?_
  refine .pure ⟨here, stmts, holds, ?_⟩
  rw [same, named, none, no, none']

theorem reads_for {p : Parts} {n items : String} (free : n ∉ reserved) (plain : n ≠ "in")
    (field : FieldName items) (depth : Nat) {tokens : List Token} {right : List Stmt → Prop}
    (value : p.value = ExprGrammar.disjunctionAt (depth + 1))
    (body : Reads (p.body ["endfor", "else"]) tokens (.name "endfor" :: rest) right) :
    Reads (StmtGrammar.statement p)
      (.name "for" :: .name n :: .name "in" :: .name items :: .blockEnd :: tokens) rest
      fun s => ∃ line here stmts, right stmts ∧
        s = .loop line (.name n) (.name here items) none false stmts [] := by
  refine Reads.next.bind fun _ same => ?_
  rw [same]
  refine Reads.get.bind fun c _ => ?_
  exact (reads_loop free plain field depth c.line value body).weaken fun s found => ⟨c.line, found⟩

/-- A loop over a field whose body is a letter, with nothing around it. -/
theorem reads_letterLoop {n items : String} (free : n ∉ reserved) (plain : n ≠ "in")
    (owner : FieldName n) (field : FieldName items) {parts : List Part}
    (proper : ∀ part ∈ parts, part.Fits) (depth : Nat) :
    Reads (bodyAt (depth + 3) fun _ => false)
      (.blockStart :: .name "for" :: .name n :: .name "in" :: .name items :: .blockEnd ::
        (tokensOf (.entry n) parts ++ [.blockStart, .name "endfor", .blockEnd])) []
      fun body => ∃ line here stmts, List.Forall₂ (Part.IsStmt (.entry n)) parts stmts ∧
        body = [.loop line (.name n) (.name here items) none false stmts []] := by
  have fits : (Origin.entry n).Fits := owner
  have inner : Reads ((partsAt (depth + 2)).body ["endfor", "else"])
      (tokensOf (.entry n) parts ++ [.blockStart, .name "endfor", .blockEnd])
      [.name "endfor", .blockEnd] (List.Forall₂ (Part.IsStmt (.entry n)) parts) :=
    reads_body fits proper depth fun statement bound found => reads_endMark (by decide) bound found
  have outer (bound : Nat) : Reads
      (bodyUpTo (ExprGrammar.expr (depth + 3)) (statement (partsAt (depth + 2))) (fun _ => false)
        (bound + 2) [])
      (.blockStart :: .name "for" :: .name n :: .name "in" :: .name items :: .blockEnd ::
        (tokensOf (.entry n) parts ++ [.blockStart, .name "endfor", .blockEnd])) []
      fun body => ∃ line here stmts, List.Forall₂ (Part.IsStmt (.entry n)) parts stmts ∧
        body = [.loop line (.name n) (.name here items) none false stmts []] := by
    refine Reads.next.bind fun _ same => ?_
    rw [same]
    refine Reads.peek.bind fun _ same => ?_
    rw [same]
    refine (reads_for free plain field (depth + 1) rfl inner).bind fun s found => ?_
    obtain ⟨line, here, stmts, same, whole⟩ := found
    refine (Reads.expect rfl _).bind fun _ _ => (reads_end bound [s]).weaken fun body only => ?_
    exact ⟨line, here, stmts, same, by rw [only, whole]; rfl⟩
  refine reads_bodyAt fun bound room => ?_
  obtain ⟨left, split⟩ : ∃ left, bound = left + 2 :=
    ⟨bound - 2, by simp only [List.length_cons] at room; omega⟩
  rw [split]
  exact outer left

end StmtGrammar

/-- A source that is cut into the tokens of a body is a template of that body. -/
theorem read_of_reads (name : String) {source : String} {tokens : List Token} {right : List Stmt → Prop}
    (cut : Lexes (.text .keep) source.toList tokens (.text .keep) [])
    (reads : Reads (StmtGrammar.bodyAt ExprGrammar.depthLimit fun _ => false) tokens [] right) :
    ∃ body, right body ∧ read name source = .ok ⟨name, body, blocksOf body⟩ := by
  obtain ⟨same, sound⟩ := cut.tokenize
  have room : tokens.length < (Cursor.ofStream (tokenize source)).bound := by
    simp [Cursor.ofStream, ← same]
  obtain ⟨body, after, parsed, -, holds⟩ := reads (.ofStream (tokenize source)) ⟨same, sound, room⟩
  exact ⟨body, holds, by rw [read, parsed]⟩

end FormLetter.Template
