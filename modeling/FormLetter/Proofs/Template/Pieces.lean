import FormLetter.Proofs.Template.Text
import FormLetter.Template.Expr.Grammar

/-!
Letters: texts that stand for themselves with fields between them. A letter is cut into the tokens
of its texts and of its fields, whatever the texts are, so long as none of them opens a mark.
-/
namespace FormLetter.Template

open Lexer

/-! ### Letters -/

/-- A part of a letter. Blanks may stand around the name of a field. -/
inductive Piece where
  | text (s : String)
  | field (before : String) (name : String) (behind : String)

/-- The words that mean something else where a value is asked for. -/
def valueWords : List String :=
  ["true", "True", "false", "False", "none", "None", "not"]

/-- What reads as a name. -/
structure Word (w : String) : Prop where
  start : w.toList.head?.any isNameStart = true
  chars : ∀ c ∈ w.toList, isNameChar c = true

instance (w : String) : Decidable (Word w) :=
  decidable_of_iff (w.toList.head?.any isNameStart = true ∧ w.toList.all isNameChar = true)
    ⟨fun ⟨start, chars⟩ => ⟨start, List.all_eq_true.mp chars⟩,
      fun word => ⟨word.start, List.all_eq_true.mpr word.chars⟩⟩

theorem Word.exists_cons {w : String} (word : Word w) :
    ∃ c rest, w.toList = c :: rest ∧ isNameStart c = true := by
  have start := word.start
  cases letters : w.toList with
  | nil =>
    rw [letters] at start
    cases start
  | cons c rest =>
    rw [letters] at start
    exact ⟨c, rest, rfl, start⟩

/-- What can stand for a field. -/
structure FieldName (name : String) : Prop extends Word name where
  unreserved : name ∉ valueWords

instance (name : String) : Decidable (FieldName name) :=
  decidable_of_iff (Word name ∧ name ∉ valueWords)
    ⟨fun ⟨word, unreserved⟩ => ⟨word, unreserved⟩, fun field => ⟨field.toWord, field.unreserved⟩⟩

/-- A text that neither opens a mark nor ends in what could open one. -/
structure Clean (cs : List Char) : Prop where
  markFree : MarkFree cs
  last : cs.getLast? ≠ some '\x7b'

def Piece.Fits : Piece → Prop
  | .text s => Clean s.toList
  | .field before name behind =>
    (∀ c ∈ before.toList, Text.isPlainBlank c = true) ∧ FieldName name ∧
      ∀ c ∈ behind.toList, Text.isPlainBlank c = true

/-- Where a letter takes its fields from: from the data itself, or from a name's value. -/
inductive Origin where
  | data
  | entry (owner : String)

/-- How a field is written. -/
def Origin.spell : Origin → String → String
  | .data, name => name
  | .entry owner, name => owner ++ "." ++ name

def Origin.tokens : Origin → String → List Token
  | .data, name => [.name name]
  | .entry owner, name => [.name owner, .symbol .dot, .name name]

/-- The name that stands for the origin can be written. -/
def Origin.Fits : Origin → Prop
  | .data => True
  | .entry owner => FieldName owner

/-- The source of a part of a letter. -/
def Piece.source (origin : Origin) : Piece → String
  | .text s => s
  | .field before name behind =>
    "\x7b\x7b" ++ before ++ origin.spell name ++ behind ++ "\x7d\x7d"

/-- The source of a letter. -/
def sourceOf (origin : Origin) : List Piece → String
  | [] => ""
  | piece :: rest => piece.source origin ++ sourceOf origin rest

/-- A letter with its fields filled in. -/
def filled (value : String → String) : List Piece → String
  | [] => ""
  | .text s :: rest => s ++ filled value rest
  | .field _ name _ :: rest => value name ++ filled value rest

/-! ### What is left of a letter once it is cut -/

/-- A text as long as it gets, or a field. -/
inductive Part where
  | text (s : String)
  | field (name : String)

def Part.tokens (origin : Origin) : Part → List Token
  | .text s => [.data s]
  | .field name => .variableStart :: (origin.tokens name ++ [.variableEnd])

def Part.filled (value : String → String) : Part → String
  | .text s => s
  | .field name => value name

/-- Text as a part; no text is none. -/
def textPart (cs : List Char) : List Part :=
  if cs.isEmpty then [] else [.text (String.ofList cs)]

/-- The parts of a letter; `front` is text that stands in front of it. -/
def partsOf (front : List Char) : List Piece → List Part
  | [] => textPart front
  | .text s :: rest => partsOf (front ++ s.toList) rest
  | .field _ name _ :: rest => textPart front ++ .field name :: partsOf [] rest

def filledParts (value : String → String) : List Part → String
  | [] => ""
  | part :: rest => part.filled value ++ filledParts value rest

theorem filledParts_append (value : String → String) (front behind : List Part) :
    filledParts value (front ++ behind) = filledParts value front ++ filledParts value behind := by
  induction front with
  | nil => exact String.empty_append.symm
  | cons part rest ih => rw [List.cons_append, filledParts, ih, filledParts, String.append_assoc]

theorem filledParts_textPart (value : String → String) (cs : List Char) :
    filledParts value (textPart cs) = String.ofList cs := by
  cases cs with
  | nil => rfl
  | cons c rest => exact String.append_empty

/-- Cutting a letter into parts loses nothing. -/
theorem filledParts_partsOf (value : String → String) (front : List Char) (pieces : List Piece) :
    filledParts value (partsOf front pieces) = String.ofList front ++ filled value pieces := by
  induction pieces generalizing front with
  | nil => rw [partsOf, filledParts_textPart, filled, String.append_empty]
  | cons piece rest ih =>
    cases piece with
    | text s =>
      rw [partsOf, ih, String.ofList_append, String.ofList_toList, filled, String.append_assoc]
    | field before name behind =>
      rw [partsOf, filledParts_append, filledParts_textPart, filledParts, ih, filled]
      exact congrArg _ (congrArg _ String.empty_append)

/-! ### Clean texts -/

/-- Text without an opening brace is clean. -/
theorem clean_of_not_mem {cs : List Char} (unbraced : '\x7b' ∉ cs) : Clean cs where
  markFree := fun _ _ _ found => unbraced (found.subset List.mem_cons_self)
  last := fun ends => unbraced (List.mem_of_getLast? ends)

theorem clean_nil : Clean [] :=
  clean_of_not_mem List.not_mem_nil

theorem Clean.tail {c : Char} {cs : List Char} (clean : Clean (c :: cs)) : Clean cs where
  markFree := fun d opening opens found =>
    clean.markFree d opening opens (found.trans (List.suffix_cons c cs).isInfix)
  last := fun ends => clean.last (by rw [List.getLast?_cons, ends]; rfl)

/-- A brace in a clean text has a character behind it that makes it no mark. -/
theorem Clean.opens_none {cs : List Char} (clean : Clean ('\x7b' :: cs)) :
    ∃ d rest, cs = d :: rest ∧ Opening.ofChar? d = none := by
  cases cs with
  | nil => exact absurd rfl clean.last
  | cons d rest =>
    refine ⟨d, rest, rfl, ?_⟩
    cases opens : Opening.ofChar? d with
    | none => rfl
    | some opening => exact absurd ⟨[], rest, rfl⟩ (clean.markFree d opening opens)

theorem Clean.cons {c : Char} {cs : List Char} (clean : Clean cs)
    (first : c = '\x7b' → ∃ d rest, cs = d :: rest ∧ Opening.ofChar? d = none) :
    Clean (c :: cs) where
  markFree := by
    intro d opening opens found
    cases List.infix_cons_iff.mp found with
    | inl starts =>
      obtain ⟨rfl, within⟩ := List.cons_prefix_cons.mp starts
      obtain ⟨e, rest, rfl, plain⟩ := first rfl
      rw [(List.cons_prefix_cons.mp within).1, plain] at opens
      cases opens
    | inr within => exact clean.markFree d opening opens within
  last := by
    intro ends
    cases cs with
    | nil =>
      obtain ⟨d, rest, missing, -⟩ := first (Option.some.inj ends)
      cases missing
    | cons d rest => exact clean.last (by rwa [List.getLast?_cons_cons] at ends)

/-- Texts put together make no mark that neither of them has. -/
theorem Clean.append {front behind : List Char} (clean : Clean front) (more : Clean behind) :
    Clean (front ++ behind) := by
  induction front with
  | nil => exact more
  | cons c rest ih =>
    refine (ih clean.tail).cons fun brace => ?_
    subst brace
    obtain ⟨d, rest, rfl, plain⟩ := clean.opens_none
    exact ⟨d, rest ++ behind, rfl, plain⟩

/-- The first mark behind a clean text is the first of all. -/
theorem findOpening_of_clean {cs : List Char} (clean : Clean cs) {d : Char} {opening : Opening}
    (opens : Opening.ofChar? d = some opening) (front rest : List Char) :
    findOpening front (cs ++ '\x7b' :: d :: rest) = (front.reverse ++ cs, some (opening, rest)) := by
  induction cs generalizing front with
  | nil => simp [findOpening, opens]
  | cons c cs ih =>
    have later := ih clean.tail (c :: front)
    rw [List.reverse_cons, List.append_assoc] at later
    by_cases brace : c = '\x7b'
    · subst brace
      obtain ⟨e, more, rfl, plain⟩ := clean.opens_none
      simpa [findOpening, plain] using later
    · cases cs with
      | nil => simpa [findOpening, brace] using later
      | cons e more => simpa [findOpening, brace] using later

theorem findOpening_of_markFree {cs : List Char} (free : MarkFree cs) :
    findOpening [] cs = (cs, none) := by
  have divided := divided_findOpening [] cs
  generalize findOpening [] cs = result at *
  cases divided with
  | whole => rfl
  | mark before d opening rest opens cut =>
    exact absurd ⟨before, rest, by simp [cut]⟩ (free d opening opens)

/-! ### Cutting a text step by step -/

/-- The stream with tokens in front of it. -/
def pushAll (located : List Located) (stream : TokenStream) : TokenStream :=
  { stream with tokens := located ++ stream.tokens }

/-- Cutting a text gives these tokens and then goes on with the rest, wherever the text stands. -/
def Lexes (mode : Mode) (cs : List Char) (tokens : List Token) (next : Mode)
    (rest : List Char) : Prop :=
  ∀ bound line, cs.length < bound → ∃ located left later, rest.length < left ∧
    located.map (·.token) = tokens ∧
    lex bound mode 0 line cs = pushAll located (lex left next 0 later rest)

namespace Lexes

variable {mode next last : Mode} {cs rest behind : List Char} {tokens more : List Token}

theorem trans (first : Lexes mode cs tokens next rest) (second : Lexes next rest more last behind) :
    Lexes mode cs (tokens ++ more) last behind := by
  intro bound line enough
  obtain ⟨located, left, later, still, cut, read⟩ := first bound line enough
  obtain ⟨further, left, later, still, cut', read'⟩ := second left later still
  refine ⟨located ++ further, left, later, still, ?_, ?_⟩
  · rw [List.map_append, cut, cut']
  · rw [read, read', pushAll, pushAll, pushAll, List.append_assoc]

/-- One step that makes one token. -/
theorem of_push {t : Token} (shorter : rest.length < cs.length)
    (read : ∀ bound line, ∃ here later,
      lex (bound + 1) mode 0 line cs = (lex bound next 0 later rest).push t here) :
    Lexes mode cs [t] next rest := by
  intro bound line enough
  obtain ⟨bound, rfl⟩ := Nat.exists_eq_add_one.mpr (Nat.zero_lt_of_lt enough)
  obtain ⟨here, later, cut⟩ := read bound line
  exact ⟨[⟨t, here⟩], bound, later, by omega, rfl, cut⟩

/-- A template that is cut to its end. -/
theorem tokenize {source : String} (cut : Lexes (.text .keep) source.toList tokens (.text .keep) []) :
    (Lexer.tokenize source).tokens.map (·.token) = tokens ∧
      (Lexer.tokenize source).fault = none := by
  obtain ⟨located, left, later, still, read, whole⟩ := cut (source.toList.length + 1) 1 (by omega)
  obtain ⟨left, rfl⟩ := Nat.exists_eq_add_one.mpr still
  rw [Lexer.tokenize, whole]
  exact ⟨by rw [← read]; exact congrArg _ (List.append_nil located), rfl⟩

end Lexes

/-- A clean text as tokens. -/
def dataTokens (cs : List Char) : List Token :=
  if cs.isEmpty then [] else [.data (String.ofList cs)]

theorem exists_pushData (cs : List Char) (line : Nat) (stream : TokenStream) :
    ∃ located, located.map Located.token = dataTokens cs ∧
      pushData cs line stream = pushAll located stream := by
  cases cs with
  | nil => exact ⟨[], rfl, rfl⟩
  | cons c rest => exact ⟨[⟨.data (String.ofList (c :: rest)), line⟩], rfl, rfl⟩

/-- Text at the end of a template. -/
theorem lexes_end {cs : List Char} (clean : Clean cs) :
    Lexes (.text .keep) cs (dataTokens cs) (.text .keep) [] := by
  intro bound line enough
  obtain ⟨bound, rfl⟩ := Nat.exists_eq_add_one.mpr (Nat.zero_lt_of_lt enough)
  obtain ⟨located, read, pushed⟩ := exists_pushData cs (linesAfter line []) .done
  refine ⟨located, 1, 0, Nat.one_pos, read, ?_⟩
  have rest : lex 1 (.text .keep) 0 0 [] = .done := rfl
  rw [rest, ← pushed]
  simp only [lex, Trim.atStart, Trim.removed, findOpening_of_markFree clean.markFree]

/-- What may follow an opening mark: no sign of trimming. -/
def Unsigned (cs : List Char) : Prop :=
  trimSign cs = (.keep, cs)

/-- The token of an opening mark, and what is read behind it. -/
inductive Marks (rest : List Char) : Char → Token → Mode → Prop
  | variable : Marks rest '\x7b' .variableStart .variable
  | block : wordBlock? "raw" rest = none → Marks rest '%' .blockStart .block

/-- Text up to an opening mark. -/
theorem lexes_mark {cs rest : List Char} (clean : Clean cs) (plain : Unsigned rest) {d : Char}
    {t : Token} {mode : Mode} (marks : Marks rest d t mode) :
    Lexes (.text .keep) (cs ++ '\x7b' :: d :: rest) (dataTokens cs ++ [t]) mode rest := by
  intro bound line enough
  obtain ⟨bound, rfl⟩ := Nat.exists_eq_add_one.mpr (Nat.zero_lt_of_lt enough)
  let here := linesAfter (linesAfter line []) cs
  obtain ⟨located, read, pushed⟩ := exists_pushData cs (linesAfter line [])
    ((lex bound mode 0 here rest).push t here)
  refine ⟨located ++ [⟨t, here⟩], bound, here, ?_, ?_, ?_⟩
  · simp only [List.length_append, List.length_cons] at enough
    omega
  · rw [List.map_append, read]
    rfl
  · have signs : trimSign rest = (.keep, rest) := plain
    have split : pushAll (located ++ [⟨t, here⟩]) (lex bound mode 0 here rest) =
        pushAll located ((lex bound mode 0 here rest).push t here) := by
      rw [pushAll, List.append_assoc]
      rfl
    rw [split, ← pushed]
    cases marks with
    | «variable» =>
      have opened := findOpening_of_clean clean (d := '\x7b') rfl [] rest
      simp only [lex, Trim.atStart, Trim.removed, opened, signs, Trim.atEnd, List.reverse_nil,
        List.nil_append, here]
    | block unraw =>
      have opened := findOpening_of_clean clean (d := '%') rfl [] rest
      simp only [lex, Trim.atStart, Trim.removed, opened, signs, Trim.atEnd, List.reverse_nil,
        List.nil_append, unraw, here]

/-! ### Names between marks -/

/-- Between marks. -/
def Inside (mode : Mode) : Prop :=
  mode = .variable ∨ mode = .block

theorem beq_of_isNameStart {c d : Char} (start : isNameStart c = true)
    (other : isNameStart d = false) : (c == d) = false := by
  refine beq_eq_false_iff_ne.mpr ?_
  rintro rfl
  rw [start] at other
  cases other

theorem ofChar?_of_isNameStart {c : Char} (start : isNameStart c = true) :
    Symbol.ofChar? c = none := by
  simp (disch := first | exact start | decide) only
    [Symbol.ofChar?, beq_of_isNameStart, Bool.false_eq_true, if_false]

theorem ofPair?_of_isNameStart {c : Char} (start : isNameStart c = true) (d : Char) :
    Symbol.ofPair? c d = none := by
  simp (disch := first | exact start | decide) only
    [Symbol.ofPair?, beq_of_isNameStart, Bool.false_and, Bool.false_eq_true, if_false]

theorem isDigit_of_isNameStart {c : Char} (start : isNameStart c = true) : c.isDigit = false := by
  simp only [isNameStart, Bool.or_eq_true, beq_iff_eq] at start
  rcases start with letter | rfl
  · -- The codes of letters lie above those of digits.
    have above : 'A'.val ≤ c.val := by
      rcases Bool.or_eq_true_iff.mp letter with upper | lower
      · exact (of_decide_eq_true upper).1
      · have small := of_decide_eq_true (Bool.and_eq_true_iff.mp lower).1
        grind
    have beyond : ¬ c.val ≤ '9'.val := by grind
    exact Bool.and_eq_false_imp.mpr fun _ => decide_eq_false beyond
  · rfl

theorem isPlainBlank_of_isNameStart {c : Char} (start : isNameStart c = true) :
    Text.isPlainBlank c = false := by
  simp (disch := first | exact start | decide) only
    [Text.isPlainBlank, beq_of_isNameStart, Bool.or_false]

theorem isNameChar_of_isPlainBlank {c : Char} (blank : Text.isPlainBlank c = true) :
    isNameChar c = false := by
  simp only [Text.isPlainBlank, Bool.or_eq_true, beq_iff_eq] at blank
  rcases blank with (((rfl | rfl) | rfl) | rfl) | rfl <;> decide

/-- A name cannot go on here. -/
def Ends (rest : List Char) : Prop :=
  ∀ c, rest.head? = some c → isNameChar c = false

theorem takeWhile_of_ends {w : List Char} (chars : ∀ c ∈ w, isNameChar c = true) {rest : List Char}
    (ends : Ends rest) :
    (w ++ rest).takeWhile isNameChar = w ∧ (w ++ rest).dropWhile isNameChar = rest := by
  rw [List.takeWhile_append_of_pos chars, List.dropWhile_append_of_pos chars]
  cases rest with
  | nil => simp
  | cons c rest => simp [ends c rfl]

theorem token_word {w : String} (word : Word w) {rest : List Char} (ends : Ends rest) (line : Nat) :
    token line (w.toList ++ rest) = .ok (.name w, 0, rest) := by
  obtain ⟨c, more, letters, start⟩ := word.exists_cons
  obtain ⟨taken, dropped⟩ := takeWhile_of_ends word.chars ends
  have quote := beq_of_isNameStart start (d := '\'') rfl
  have mark := beq_of_isNameStart start (d := '"') rfl
  rw [letters] at taken dropped
  rw [letters]
  -- No symbol begins like a name, not even one of two characters.
  cases behind : more ++ rest with
  | nil =>
    simp only [List.cons_append, behind] at taken dropped ⊢
    simp only [token, ofChar?_of_isNameStart start, quote, mark, isDigit_of_isNameStart start,
      start, taken, dropped, Bool.or_self, Bool.false_eq_true, if_false, if_true, ← letters,
      String.ofList_toList]
  | cons d tail =>
    simp only [List.cons_append, behind] at taken dropped ⊢
    simp only [token, ofPair?_of_isNameStart start, Option.map_none, ofChar?_of_isNameStart start,
      quote, mark, isDigit_of_isNameStart start, start, taken, dropped, Bool.or_self,
      Bool.false_eq_true, if_false, if_true, ← letters, String.ofList_toList]

/-- Blanks between marks are no tokens. -/
theorem lexes_blanks {mode : Mode} (inside : Inside mode) {blanks : List Char}
    (blank : ∀ c ∈ blanks, Text.isPlainBlank c = true) (cs : List Char) :
    Lexes mode (blanks ++ cs) [] mode cs := by
  intro bound line enough
  obtain ⟨bound, rfl⟩ := Nat.exists_eq_add_one.mpr (Nat.zero_lt_of_lt enough)
  refine ⟨[], bound + 1, linesAfter line blanks, ?_, rfl, ?_⟩
  · rw [List.length_append] at enough
    omega
  · have lines (w : List Char) : linesAfter line (blanks ++ w) =
        linesAfter (linesAfter line blanks) w := by
      simp only [linesAfter, lineAfter, List.count_append]
      omega
    have kept : Text.trimStartOf Text.isPlainBlank (blanks ++ cs) =
        Text.trimStartOf Text.isPlainBlank cs := List.dropWhile_append_of_pos blank
    have taken : (blanks ++ cs).takeWhile Text.isPlainBlank = _ :=
      List.takeWhile_append_of_pos blank
    rcases inside with rfl | rfl <;> simp only [lex, kept, taken, lines] <;> rfl

/-- One token between marks that is a name or a point. -/
theorem lexes_token {mode : Mode} (inside : Inside mode) {c : Char} {cs rest : List Char} {t : Token}
    (flat : t = .symbol .dot ∨ ∃ n, t = .name n) (solid : Text.isPlainBlank c = false)
    (inner : closing? mode (c :: cs) = none) (read : ∀ line, token line (c :: cs) = .ok (t, 0, rest))
    (shorter : rest.length < (c :: cs).length) : Lexes mode (c :: cs) [t] mode rest := by
  refine .of_push shorter fun bound line => ⟨linesAfter line [], lineAfter (linesAfter line []) 0, ?_⟩
  have kept : Text.trimStartOf Text.isPlainBlank (c :: cs) = c :: cs := by
    simp [Text.trimStartOf, solid]
  have taken : (c :: cs).takeWhile Text.isPlainBlank = [] := by simp [solid]
  have level : (0 : Int) + Symbol.dot.balance = 0 := rfl
  have flatter : (0 : Int) + 0 = 0 := rfl
  rcases flat with rfl | ⟨n, rfl⟩ <;> rcases inside with rfl | rfl <;>
    simp only [lex, kept, taken, inner, read, List.isEmpty_cons, Bool.false_eq_true, if_false,
      if_true, level, flatter]

/-- Nothing that begins like a name closes a mark. -/
theorem closing?_of_isNameStart {c : Char} (start : isNameStart c = true) {mode : Mode}
    (inside : Inside mode) (cs : List Char) : closing? mode (c :: cs) = none := by
  have other {d : Char} (no : isNameStart d = false) : c ≠ d :=
    beq_eq_false_iff_ne.mp (beq_of_isNameStart start no)
  have signs : trimSign (c :: cs) = (.keep, c :: cs) := by
    unfold trimSign
    split
    next same => exact absurd (List.cons.inj same).1 (other rfl)
    next same => exact absurd (List.cons.inj same).1 (other rfl)
    next => rfl
  unfold closing?
  rw [signs]
  dsimp only
  split
  next same => exact absurd (List.cons.inj same).1 (other rfl)
  next same => exact absurd (List.cons.inj same).1 (other rfl)
  next => rfl

theorem lexes_word {mode : Mode} (inside : Inside mode) {w : String} (word : Word w)
    {rest : List Char} (ends : Ends rest) :
    Lexes mode (w.toList ++ rest) [.name w] mode rest := by
  have read := token_word word ends
  obtain ⟨c, more, letters, start⟩ := word.exists_cons
  rw [letters, List.cons_append] at read ⊢
  have shorter : rest.length < (c :: (more ++ rest)).length := by
    simp only [List.length_cons, List.length_append]
    omega
  exact lexes_token inside (.inr ⟨w, rfl⟩) (isPlainBlank_of_isNameStart start)
    (closing?_of_isNameStart start inside _) read shorter

/-- A point in front of a name. -/
theorem lexes_dot {mode : Mode} (inside : Inside mode) (rest : List Char) :
    Lexes mode ('.' :: rest) [.symbol .dot] mode rest := by
  have inner : closing? mode ('.' :: rest) = none := by
    rcases inside with rfl | rfl <;> rfl
  refine lexes_token inside (.inl rfl) rfl inner (fun line => ?_) (by simp)
  cases rest with
  | nil => rfl
  | cons d tail => rfl

/-- A closing mark. -/
theorem lexes_close {mode : Mode} {c : Char} {cs rest : List Char} {t : Token}
    (inside : Inside mode) (solid : Text.isPlainBlank c = false)
    (closes : closing? mode (c :: cs) = some (t, .keep, rest))
    (shorter : rest.length < (c :: cs).length) :
    Lexes mode (c :: cs) [t] (.text .keep) rest := by
  refine .of_push shorter fun bound line => ⟨linesAfter line [], linesAfter line [], ?_⟩
  have kept : Text.trimStartOf Text.isPlainBlank (c :: cs) = c :: cs := by
    simp [Text.trimStartOf, solid]
  have taken : (c :: cs).takeWhile Text.isPlainBlank = [] := by simp [solid]
  rcases inside with rfl | rfl <;>
    simp only [lex, kept, taken, closes, List.isEmpty_cons, Bool.false_eq_true, if_false, if_true]

theorem lexes_variableEnd (rest : List Char) :
    Lexes .variable ('\x7d' :: '\x7d' :: rest) [.variableEnd] (.text .keep) rest :=
  lexes_close (.inl rfl) rfl rfl (Nat.lt_add_of_pos_right Nat.two_pos)

theorem lexes_blockEnd (rest : List Char) :
    Lexes .block ('%' :: '\x7d' :: rest) [.blockEnd] (.text .keep) rest :=
  lexes_close (.inr rfl) rfl rfl (Nat.lt_add_of_pos_right Nat.two_pos)

/-! ### Letters as tokens -/

/-- The tokens of some parts. -/
def tokensOf (origin : Origin) (parts : List Part) : List Token :=
  parts.flatMap (Part.tokens origin)

theorem tokensOf_append (origin : Origin) (front behind : List Part) :
    tokensOf origin (front ++ behind) = tokensOf origin front ++ tokensOf origin behind :=
  List.flatMap_append

theorem tokensOf_textPart (origin : Origin) (cs : List Char) :
    tokensOf origin (textPart cs) = dataTokens cs := by
  unfold textPart dataTokens
  split <;> rfl

theorem unsigned_of_isPlainBlank {c : Char} (blank : Text.isPlainBlank c = true)
    (rest : List Char) : Unsigned (c :: rest) := by
  simp only [Text.isPlainBlank, Bool.or_eq_true, beq_iff_eq] at blank
  rcases blank with (((rfl | rfl) | rfl) | rfl) | rfl <;> rfl

theorem Word.unsigned {w : String} (word : Word w) (rest : List Char) :
    Unsigned (w.toList ++ rest) := by
  obtain ⟨c, more, letters, start⟩ := word.exists_cons
  rw [letters, List.cons_append, Unsigned]
  unfold trimSign
  split
  next same => rw [(List.cons.inj same).1] at start; cases start
  next same => rw [(List.cons.inj same).1] at start; cases start
  next => rfl

theorem Word.unsigned_of_blanks {w : String} (word : Word w) {blanks : List Char}
    (blank : ∀ c ∈ blanks, Text.isPlainBlank c = true) (rest : List Char) :
    Unsigned (blanks ++ (w.toList ++ rest)) := by
  cases blanks with
  | nil => exact word.unsigned rest
  | cons c more => exact unsigned_of_isPlainBlank (blank c List.mem_cons_self) _

/-- A field as it is written starts with a name. -/
theorem Origin.exists_word {origin : Origin} (fits : origin.Fits) {name : String}
    (field : FieldName name) :
    ∃ w behind, Word w ∧ (origin.spell name).toList = w.toList ++ behind := by
  cases origin with
  | data => exact ⟨name, [], field.toWord, (List.append_nil _).symm⟩
  | entry owner =>
    exact ⟨owner, '.' :: name.toList, FieldName.toWord fits, by simp [Origin.spell]⟩

theorem lexes_origin {origin : Origin} (fits : origin.Fits) {name : String}
    (field : FieldName name) {rest : List Char} (ends : Ends rest) :
    Lexes .variable ((origin.spell name).toList ++ rest) (origin.tokens name) .variable rest := by
  have last := lexes_word (.inl rfl) field.toWord ends
  cases origin with
  | data => exact last
  | entry owner =>
    have point : Ends ('.' :: (name.toList ++ rest)) := by
      rintro c same
      cases same
      rfl
    have split : (Origin.spell (.entry owner) name).toList ++ rest =
        owner.toList ++ '.' :: (name.toList ++ rest) := by simp [Origin.spell]
    rw [split]
    exact (lexes_word (.inl rfl) (FieldName.toWord fits) point).trans
      ((lexes_dot (.inl rfl) _).trans last)

theorem ends_of_isPlainBlank {blanks : List Char}
    (blank : ∀ c ∈ blanks, Text.isPlainBlank c = true) {rest : List Char} (ends : Ends rest) :
    Ends (blanks ++ rest) := by
  cases blanks with
  | nil => exact ends
  | cons c more =>
    rintro d same
    cases same
    exact isNameChar_of_isPlainBlank (blank c List.mem_cons_self)

/-- A field with text in front of it. -/
theorem lexes_field {origin : Origin} (fits : origin.Fits) {before name behind : String}
    (field : Piece.Fits (.field before name behind)) {front : List Char} (clean : Clean front)
    (rest : List Char) :
    Lexes (.text .keep) (front ++ ((Piece.source origin (.field before name behind)).toList ++ rest))
      (dataTokens front ++ Part.tokens origin (.field name)) (.text .keep) rest := by
  obtain ⟨blankBefore, isField, blankBehind⟩ := field
  obtain ⟨w, more, word, spelled⟩ := Origin.exists_word fits isField
  let close := '\x7d' :: '\x7d' :: rest
  let inside := (origin.spell name).toList ++ (behind.toList ++ close)
  have split : front ++ ((Piece.source origin (.field before name behind)).toList ++ rest) =
      front ++ '\x7b' :: '\x7b' :: (before.toList ++ inside) := by
    simp [Piece.source, inside, close]
  have plain : Unsigned (before.toList ++ inside) := by
    simp only [inside, spelled, List.append_assoc]
    exact word.unsigned_of_blanks blankBefore _
  have ends : Ends (behind.toList ++ close) := by
    refine ends_of_isPlainBlank blankBehind ?_
    rintro c same
    cases same
    rfl
  have tokens : dataTokens front ++ Part.tokens origin (.field name) =
      (dataTokens front ++ [.variableStart]) ++
        ([] ++ (origin.tokens name ++ ([] ++ [.variableEnd]))) := by
    simp [Part.tokens]
  rw [split, tokens]
  refine (lexes_mark clean plain .variable).trans ((lexes_blanks (.inl rfl) blankBefore _).trans ?_)
  refine (lexes_origin fits isField ends).trans ?_
  exact (lexes_blanks (.inl rfl) blankBehind _).trans (lexes_variableEnd rest)

/-- A letter is cut into the tokens of its parts, up to what closes it. -/
theorem lexes_letter {origin : Origin} (fits : origin.Fits) {tail rest : List Char} {next : Mode}
    {more : List Token}
    (closes : ∀ front, Clean front →
      Lexes (.text .keep) (front ++ tail) (dataTokens front ++ more) next rest)
    {pieces : List Piece} (letter : ∀ piece ∈ pieces, piece.Fits) {front : List Char}
    (clean : Clean front) :
    Lexes (.text .keep) (front ++ ((sourceOf origin pieces).toList ++ tail))
      (tokensOf origin (partsOf front pieces) ++ more) next rest := by
  induction pieces generalizing front with
  | nil =>
    rw [partsOf, tokensOf_textPart]
    exact closes front clean
  | cons piece others ih =>
    have first := letter piece List.mem_cons_self
    have later (front : List Char) (clean : Clean front) :=
      ih (fun piece mem => letter piece (List.mem_cons_of_mem _ mem)) clean
    rw [sourceOf, String.toList_append, List.append_assoc]
    cases piece with
    | text s =>
      rw [partsOf, Piece.source, ← List.append_assoc]
      exact later (front ++ s.toList) (clean.append first)
    | field before name behind =>
      have parts : tokensOf origin (partsOf front (.field before name behind :: others)) ++ more =
          (dataTokens front ++ Part.tokens origin (.field name)) ++
            (tokensOf origin (partsOf [] others) ++ more) := by
        rw [partsOf, tokensOf_append, tokensOf_textPart, tokensOf, List.flatMap_cons, ← tokensOf]
        simp only [List.append_assoc]
      rw [parts]
      exact (lexes_field fits first clean _).trans (later [] clean_nil)

/-! ### Statements of words -/

/-- Words with a blank in front of each. -/
def spaced (words : List String) : List Char :=
  words.flatMap fun w => ' ' :: w.toList

/-- The source of a statement that is some words. -/
def statementOf (words : List String) : List Char :=
  '\x7b' :: '%' :: (spaced words ++ [' ', '%', '\x7d'])

theorem isPlainBlank_of_mem_space : ∀ c ∈ [' '], Text.isPlainBlank c = true :=
  List.forall_mem_singleton.mpr rfl

theorem lexes_spaced {words : List String} (proper : ∀ w ∈ words, Word w) {rest : List Char}
    (ends : Ends rest) :
    Lexes .block (spaced words ++ rest) (words.map .name) .block rest := by
  induction words with
  | nil =>
    have blank : ∀ c ∈ ([] : List Char), Text.isPlainBlank c = true := fun _ mem => nomatch mem
    exact lexes_blanks (.inr rfl) blank rest
  | cons w words ih =>
    have more : Ends (spaced words ++ rest) := by
      cases words with
      | nil => exact ends
      | cons v words =>
        rintro c same
        cases same
        rfl
    have split : spaced (w :: words) ++ rest = [' '] ++ (w.toList ++ (spaced words ++ rest)) := by
      simp [spaced]
    rw [split]
    exact (lexes_blanks (.inr rfl) isPlainBlank_of_mem_space _).trans
      ((lexes_word (.inr rfl) (proper w List.mem_cons_self) more).trans
        (ih fun v mem => proper v (List.mem_cons_of_mem _ mem)))

/-- A statement with text in front of it. -/
theorem lexes_statement {words : List String} (proper : ∀ w ∈ words, Word w) {rest : List Char}
    (unraw : wordBlock? "raw" (spaced words ++ ' ' :: '%' :: '\x7d' :: rest) = none)
    (plain : Unsigned (spaced words ++ ' ' :: '%' :: '\x7d' :: rest)) {front : List Char}
    (clean : Clean front) :
    Lexes (.text .keep) (front ++ (statementOf words ++ rest))
      (dataTokens front ++ .blockStart :: (words.map .name ++ [.blockEnd])) (.text .keep) rest := by
  have ends : Ends (' ' :: '%' :: '\x7d' :: rest) := by
    rintro c same
    cases same
    rfl
  have split : front ++ (statementOf words ++ rest) =
      front ++ '\x7b' :: '%' :: (spaced words ++ ' ' :: '%' :: '\x7d' :: rest) := by
    simp [statementOf]
  have tokens : dataTokens front ++ Token.blockStart :: (words.map .name ++ [.blockEnd]) =
      (dataTokens front ++ [.blockStart]) ++ (words.map .name ++ ([] ++ [.blockEnd])) := by simp
  rw [split, tokens]
  refine (lexes_mark clean plain (.block unraw)).trans ((lexes_spaced proper ends).trans ?_)
  exact (lexes_blanks (.inr rfl) isPlainBlank_of_mem_space ('%' :: '\x7d' :: rest)).trans
    (lexes_blockEnd rest)

end FormLetter.Template
