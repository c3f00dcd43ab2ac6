import FormLetter.Template.Token.Lexer
import FormLetter.Text.Search

/-!
Text in front of, between and behind the marks of a template. A text without an opening mark is one
token; of a text whose only marks are comments nothing but text is left, and less than there was.
-/
namespace FormLetter.Template.Lexer

/-- No mark opens anywhere in the text. -/
def MarkFree (cs : List Char) : Prop :=
  ∀ d opening, Opening.ofChar? d = some opening → ¬ ['\x7b', d] <:+: cs

/-- A text at its first opening mark; `front` is what stands before the text, last character
first. -/
inductive Divided (front cs : List Char) : List Char × Option (Opening × List Char) → Prop
  | whole (free : MarkFree cs) : Divided front cs (front.reverse ++ cs, none)
  | mark (before : List Char) (d : Char) (opening : Opening) (rest : List Char)
      (opens : Opening.ofChar? d = some opening) (cut : cs = before ++ '\x7b' :: d :: rest) :
      Divided front cs (front.reverse ++ before, some (opening, rest))

/-- The first mark of a text is still the first with a character in front that begins none. -/
theorem Divided.cons {c : Char} {front cs : List Char}
    {result : List Char × Option (Opening × List Char)} (divided : Divided (c :: front) cs result)
    (first : ∀ d opening, Opening.ofChar? d = some opening → ¬ ['\x7b', d] <+: c :: cs) :
    Divided front (c :: cs) result := by
  cases divided with
  | whole free =>
    rw [List.reverse_cons, List.append_assoc]
    refine .whole fun d opening opens found => ?_
    cases List.infix_cons_iff.mp found with
    | inl starts => exact first d opening opens starts
    | inr within => exact free d opening opens within
  | mark before d opening rest opens cut =>
    rw [List.reverse_cons, List.append_assoc]
    exact .mark (c :: before) d opening rest opens (by rw [cut, List.cons_append])

theorem markFree_of_length {cs : List Char} (short : cs.length < 2) : MarkFree cs :=
  fun _ _ _ found => Nat.not_le_of_lt short found.length_le

theorem divided_findOpening (front cs : List Char) : Divided front cs (findOpening front cs) := by
  fun_induction findOpening front cs with
  | case1 front => simpa using @Divided.whole front [] (markFree_of_length (by simp))
  | case2 front c =>
    simpa using @Divided.whole front [c] (markFree_of_length (by simp))
  | case3 front c d rest brace opening opens =>
    simpa using
      @Divided.mark front _ [] d opening rest opens (by rw [eq_of_beq brace, List.nil_append])
  | case4 front c d rest brace none ih =>
    -- The brace is there, and the character behind it makes it no mark.
    refine ih.cons fun e opening opens starts => ?_
    have same : e = d := (List.cons_prefix_cons.mp (List.cons_prefix_cons.mp starts).2).1
    rw [same, none] at opens
    cases opens
  | case5 front c d rest other ih =>
    refine ih.cons fun e opening opens starts => other ?_
    exact beq_iff_eq.mpr (List.cons_prefix_cons.mp starts).1.symm

/-- The only opening marks are those of comments. -/
structure Unmarked (cs : List Char) : Prop where
  expression : ¬ ['\x7b', '\x7b'] <:+: cs
  statement : ¬ ['\x7b', '%'] <:+: cs

def Commented (cs : List Char) : Prop :=
  ['\x7b', '#'] <:+: cs

theorem Unmarked.of_suffix {cs rest : List Char} (unmarked : Unmarked cs) (suffix : rest <:+ cs) :
    Unmarked rest :=
  ⟨fun found => unmarked.expression (found.trans suffix.isInfix),
    fun found => unmarked.statement (found.trans suffix.isInfix)⟩

/-- The character behind the brace of an opening mark. -/
def Opening.char : Opening → Char
  | .variable => '\x7b'
  | .block => '%'
  | .comment => '#'

theorem Opening.eq_char_of_ofChar? {d : Char} {opening : Opening}
    (opens : Opening.ofChar? d = some opening) : d = opening.char := by
  simp only [ofChar?, beq_iff_eq] at opens
  split at opens
  next same => rw [same, ← Option.some.inj opens, char]
  next =>
    split at opens
    next same => rw [same, ← Option.some.inj opens, char]
    next =>
      split at opens
      next same => rw [same, ← Option.some.inj opens, char]
      next => cases opens

/-- A mark of a text with no other marks opens a comment. -/
theorem Unmarked.eq_comment {cs : List Char} {opening : Opening} (unmarked : Unmarked cs)
    (found : ['\x7b', opening.char] <:+: cs) : opening = .comment := by
  cases opening with
  | «variable» => exact absurd found unmarked.expression
  | block => exact absurd found unmarked.statement
  | comment => rfl

/-- Without comments nothing opens. -/
theorem Unmarked.markFree {cs : List Char} (unmarked : Unmarked cs) (plain : ¬ Commented cs) :
    MarkFree cs := by
  intro d opening opens found
  rw [Opening.eq_char_of_ofChar? opens] at found
  rw [unmarked.eq_comment found] at found
  exact plain found

/-! ### What marks leave of a text -/

theorem Trim.atStart_suffix (trim : Trim) (cs : List Char) : trim.atStart cs <:+ cs := by
  cases trim with
  | keep => exact List.suffix_refl cs
  | remove => exact List.dropWhile_suffix Text.isBlank

theorem Trim.length_atEnd_le (trim : Trim) (cs : List Char) :
    (trim.atEnd cs).length ≤ cs.length := by
  cases trim with
  | keep => exact Nat.le_refl _
  | remove =>
    simp only [atEnd, Text.trimEndOf, List.length_reverse]
    have kept := (List.dropWhile_suffix Text.isBlank (l := cs.reverse)).length_le
    rwa [List.length_reverse] at kept

theorem trimSign_suffix (cs : List Char) : (trimSign cs).2 <:+ cs := by
  unfold trimSign
  split
  next rest => exact List.suffix_cons _ rest
  next rest => exact List.suffix_cons _ rest
  next => exact List.suffix_refl cs

theorem commentEnd?_suffix {front cs content rest : List Char}
    (ended : commentEnd? front cs = some (content, rest)) : rest <:+ cs := by
  fun_induction commentEnd? front cs with
  | case1 front behind =>
    obtain ⟨-, rfl⟩ := Prod.mk.inj (Option.some.inj ended)
    exact (List.suffix_cons _ _).trans (List.suffix_cons _ _)
  | case2 front c behind _ ih => exact (ih ended).trans (List.suffix_cons _ _)
  | case3 front => cases ended

/-! ### Tokens -/

/-- Pieces of text with the lines they start on, as tokens. -/
def textTokens (pieces : List (Nat × String)) : List Located :=
  pieces.map fun (line, text) => ⟨.data text, line⟩

/-- The pieces in a row. -/
def textOf : List (Nat × String) → String
  | [] => ""
  | (_, text) :: rest => text ++ textOf rest

/-- A piece of text in front of other pieces is one more piece, or none if it is empty. -/
theorem textTokens_pushData {pieces : List (Nat × String)} {stream : TokenStream}
    (texts : stream.tokens = textTokens pieces) (cs : List Char) (line : Nat) :
    ∃ more, (pushData cs line stream).tokens = textTokens more ∧
      textOf more = String.ofList cs ++ textOf pieces := by
  unfold pushData
  split
  next empty => exact ⟨pieces, texts, by simp [List.isEmpty_iff.mp empty]⟩
  next =>
    refine ⟨(line, String.ofList cs) :: pieces, ?_, rfl⟩
    simp [TokenStream.push, texts, textTokens]

/-- Text that a mark has trimmed is no longer than it was, with or without pieces behind it. -/
theorem textTokens_pushData_atEnd {pieces : List (Nat × String)} {stream : TokenStream}
    (texts : stream.tokens = textTokens pieces) {limit : Nat}
    (short : (textOf pieces).length ≤ limit) (trim : Trim) (before : List Char) (line : Nat) :
    ∃ more, (pushData (trim.atEnd before) line stream).tokens = textTokens more ∧
      (textOf more).length ≤ before.length + limit := by
  obtain ⟨more, tokens, whole⟩ := textTokens_pushData texts (trim.atEnd before) line
  have sum := congrArg String.length whole
  rw [String.length_append, String.length_ofList] at sum
  have less := trim.length_atEnd_le before
  exact ⟨more, tokens, by omega⟩

theorem fault_pushData (cs : List Char) (line : Nat) (stream : TokenStream) :
    (pushData cs line stream).fault = stream.fault := by
  unfold pushData
  split
  next => rfl
  next => rfl

/-- Of a text whose only marks are comments there is nothing but text, and less if there are
comments. -/
theorem exists_textTokens_of_unmarked (bound : Nat) (trim : Trim) (depth : Int) (line : Nat)
    {cs : List Char} (unmarked : Unmarked cs) :
    ∃ pieces, (lex bound (.text trim) depth line cs).tokens = textTokens pieces ∧
      (textOf pieces).length ≤ (trim.atStart cs).length ∧
      (Commented (trim.atStart cs) → (textOf pieces).length < (trim.atStart cs).length) := by
  -- Tokens cut short by the bound are fewer still, so no bound is asked for.
  induction bound generalizing trim line cs with
  | zero =>
    refine ⟨[], rfl, Nat.zero_le _, fun commented => ?_⟩
    exact Nat.lt_of_lt_of_le (by decide) commented.length_le
  | succ bound ih =>
    have kept := unmarked.of_suffix (trim.atStart_suffix cs)
    have divided := divided_findOpening [] (trim.atStart cs)
    rw [lex]
    generalize trim.atStart cs = text at *
    generalize findOpening [] text = result at *
    cases divided with
    | whole free =>
      obtain ⟨pieces, texts, whole⟩ := @textTokens_pushData [] .done rfl text
        (linesAfter line (trim.removed cs))
      refine ⟨pieces, texts, by simp [whole, textOf], fun commented => ?_⟩
      exact absurd commented (free '#' .comment rfl)
    | mark before d opening rest opens cut =>
      have within : ['\x7b', opening.char] <:+: text :=
        ⟨before, rest, by simp [cut, Opening.eq_char_of_ofChar? opens]⟩
      obtain rfl := kept.eq_comment within
      have inside : (trimSign rest).2 <:+ text := by
        refine (trimSign_suffix rest).trans ⟨before ++ ['\x7b', d], ?_⟩
        simp [cut]
      have total : text.length = before.length + (rest.length + 2) := by simp [cut]
      simp only [List.reverse_nil, List.nil_append]
      -- At least the two characters of the mark are gone, and what the comment holds with them.
      split
      next =>
        obtain ⟨pieces, texts, short⟩ := @textTokens_pushData_atEnd [] (.broken _ _) rfl 0
          (Nat.le_refl 0) (trimSign rest).1 before (linesAfter line (trim.removed cs))
        exact ⟨pieces, texts, by omega, fun _ => by omega⟩
      next content behind ended =>
        have shorter := commentEnd?_suffix ended
        generalize (if content.getLast? == some '-' then Trim.remove else .keep) = first
        obtain ⟨pieces, texts, length, -⟩ := ih first
          (linesAfter (linesAfter (linesAfter line (trim.removed cs)) before) content)
          (kept.of_suffix (shorter.trans inside))
        have left : (first.atStart behind).length ≤ rest.length :=
          ((first.atStart_suffix behind).trans (shorter.trans (trimSign_suffix rest))).length_le
        obtain ⟨more, tokens, short⟩ := textTokens_pushData_atEnd texts
          (Nat.le_trans length left) (trimSign rest).1 before (linesAfter line (trim.removed cs))
        exact ⟨more, tokens, by omega, fun _ => by omega⟩

/-- Text in which no mark opens is left whole. -/
theorem exists_textTokens_of_markFree {source : String} (free : MarkFree source.toList) :
    ∃ pieces, (tokenize source).tokens = textTokens pieces ∧ (tokenize source).fault = none ∧
      textOf pieces = source := by
  have one : tokenize source = pushData source.toList 1 .done := by
    have divided := divided_findOpening [] source.toList
    have line : linesAfter 1 [] = 1 := rfl
    simp only [tokenize, lex, Trim.atStart, Trim.removed, line]
    generalize findOpening [] source.toList = result at *
    cases divided with
    | whole => rfl
    | mark before d opening rest opens cut =>
      exact absurd ⟨before, rest, by simp [cut]⟩ (free d opening opens)
  obtain ⟨pieces, texts, whole⟩ := @textTokens_pushData [] .done rfl source.toList 1
  refine ⟨pieces, one ▸ texts, ?_, ?_⟩
  · rw [one, fault_pushData]
    rfl
  · rw [whole, textOf, String.append_empty, String.ofList_toList]

end FormLetter.Template.Lexer
