import FormLetter.Proofs.Template.Shown
import FormLetter.Proofs.Text.Width

/-!
Padding reaches its width. A space takes one column whatever stands around it: behind a text it
leaves the machine as it starts, and in front of one it is joined by nothing. What is left to show
is that the columns of a text never add up to less than none, although some letters take back a
column that was given for what they join: such a column has always been given before.
-/
namespace FormLetter.Text

/-! ### Columns that are taken back -/

/-- The columns that a letter in front of this one may take back. -/
def Ligature.revocable : Ligature → Int
  | .coengLetter | .tifinaghMark => 1
  | _ => 0

/-- The columns that the next character may take back. -/
def Ahead.revocable : Ahead → Int
  | .letter l _ _ => l.revocable
  | .joinedFlag .one | .joinedFlag .odd => 1
  | _ => 0

namespace Ahead

theorem revocable_nonneg (a : Ahead) : 0 ≤ a.revocable := by
  unfold revocable
  split
  next l _ _ => cases l <;> decide
  all_goals decide

theorem revocable_selectEmoji (a : Ahead) : a.selectEmoji.revocable ≤ a.revocable := by
  cases a <;> first | exact Int.le_refl _ | exact revocable_nonneg _

theorem revocable_selectText (a : Ahead) : a.selectText.revocable ≤ a.revocable := by
  cases a <;> first | exact Int.le_refl _ | exact revocable_nonneg _

theorem revocable_withoutEmojiStyle (a : Ahead) : a.withoutEmojiStyle.revocable = a.revocable := by
  unfold withoutEmojiStyle; split <;> rfl

theorem revocable_withoutTextStyle (a : Ahead) : a.withoutTextStyle.revocable = a.revocable := by
  unfold withoutTextStyle; split <;> rfl

theorem revocable_behindLooseMark {c : Char} {a next : Ahead}
    (mark : a.behindLooseMark? c = some next) : next.revocable = a.revocable := by
  unfold behindLooseMark? at mark
  split at mark
  next => cases mark
  next => split_ifs at mark <;> cases mark <;> rfl
  next => cases mark

theorem revocable_ofChar {c : Char} (other : ¬ isCoengLetter c) : (ofChar c).revocable = 0 := by
  simp only [ofChar, apply_ite revocable]
  simp [revocable, ofLigature, Ligature.revocable, other]

theorem revocable_le_one (a : Ahead) : a.revocable ≤ 1 := by
  unfold revocable
  split
  next l _ _ => cases l <;> decide
  all_goals decide

end Ahead

/-- A Khmer letter that can be written below another one takes a column. -/
theorem charWidth_pos_of_coengLetter {c : Char} (letter : isCoengLetter c) : 1 ≤ charWidth c :=
  charWidth_pos_of_disjoint (by decide +kernel) letter

theorem revocable_measureAlone (c : Char) :
    (measureAlone c).2.revocable ≤ (measureAlone c).1 := by
  have shown : ((measureAlone c).1 : Int) ≥ charWidth c := by
    unfold measureAlone charWidth
    split_ifs <;> simp
  change (Ahead.ofChar c).revocable ≤ _
  by_cases letter : isCoengLetter c
  · have wide := charWidth_pos_of_coengLetter letter
    have most := (Ahead.ofChar c).revocable_le_one
    omega
  · rw [Ahead.revocable_ofChar letter]
    omega

theorem revocable_joinLetter? {c : Char} {joined : Bool} {l : Ligature} {r : Int × Ahead}
    (joins : joinLetter? c joined l = some r) : r.2.revocable ≤ r.1 + l.revocable := by
  cases l <;> simp only [joinLetter?] at joins <;> split_ifs at joins <;> cases joins <;> decide

theorem revocable_joinSequence? {c : Char} {r : Int × Ahead} (joins : joinSequence? c = some r) :
    r.2.revocable ≤ r.1 := by
  simp only [joinSequence?] at joins
  split_ifs at joins <;> cases joins <;> decide

theorem revocable_joinTags? {c : Char} {letters digits : Nat} {r : Int × Ahead}
    (joins : joinTags? c letters digits = some r) : r.2.revocable ≤ r.1 := by
  simp only [joinTags?] at joins
  split_ifs at joins <;> cases joins <;> exact Int.le_refl 0

theorem revocable_joinKiratRai? {c : Char} {a : Ahead} {r : Int × Ahead}
    (joins : joinKiratRai? c a = some r) : r.2.revocable ≤ r.1 := by
  unfold joinKiratRai? at joins
  split at joins <;> cases joins <;> decide

/-- What a character takes back when it joins what stands behind it, and what the next one may take
back then, has been given before. -/
theorem revocable_join? {c : Char} {a : Ahead} {r : Int × Ahead} (joins : join? c a = some r) :
    r.2.revocable ≤ r.1 + a.revocable := by
  -- Where the state behind has nothing to take back, only what is new needs to be paid for.
  have nonneg := a.revocable_nonneg
  have within : ∀ {n k : Int}, n ≤ k → n ≤ k + a.revocable := by omega
  have joiner : ∀ {r : Int × Ahead},
      (if c.toNat == 0x200D then some (0, Ahead.joiner false) else none) = some r →
      r.2.revocable ≤ r.1 + a.revocable := by
    intro r isJoiner
    split at isJoiner <;> cases isJoiner
    exact within (Int.le_refl 0)
  unfold join? at joins
  dsimp only at joins
  split at joins
  case h_1 => exact revocable_joinLetter? joins
  case h_2 =>
    split at joins
    next => cases joins; decide
    next => exact joiner joins
  case h_3 =>
    split at joins
    next => cases joins; exact Int.zero_le_ofNat 1
    next =>
      split at joins
      next => exact joiner joins
      next => cases joins
  case h_4 => exact joiner joins
  case h_5 => exact within (revocable_joinSequence? joins)
  case h_6 =>
    split at joins
    next => cases joins; decide
    next => exact joiner joins
  case h_7 letters odd =>
    split at joins <;> cases joins
    -- The column of the first letter is taken back, and two are left to give.
    cases letters with
    | even => exact absurd rfl odd
    | one => decide
    | odd => decide
  case h_8 => exact within (revocable_joinTags? joins)
  case h_9 => exact within (revocable_joinKiratRai? joins)

theorem revocable_measureGlyph (c : Char) (a : Ahead) :
    (measureGlyph c a).2.revocable ≤ (measureGlyph c a).1 + a.revocable := by
  have nonneg := a.revocable_nonneg
  have alone := revocable_measureAlone c
  unfold measureGlyph
  dsimp only
  split_ifs with nothing emojiSelector textSelector asText
  · omega
  · simpa using a.revocable_selectEmoji
  · simpa using a.revocable_selectText
  · change 0 ≤ 1 + a.revocable
    omega
  · split
    next next mark =>
      rw [Ahead.revocable_behindLooseMark mark, Ahead.revocable_withoutTextStyle]
      omega
    next =>
      cases joins : join? c a.withoutTextStyle with
      | none => exact Int.le_trans alone (Int.le_add_of_nonneg_right nonneg)
      | some r => simpa [Ahead.revocable_withoutTextStyle] using revocable_join? joins

theorem revocable_measure (c : Char) (a : Ahead) :
    (measure c a).2.revocable ≤ (measure c a).1 + a.revocable := by
  have nonneg := a.revocable_nonneg
  unfold measure
  split
  next columns selected _ =>
    have given : 0 ≤ columns := by
      unfold Ahead.emojiColumns? at selected
      split at selected <;> cases selected <;> decide
    change 0 ≤ columns + a.revocable
    omega
  next =>
    dsimp only
    rw [← a.revocable_withoutEmojiStyle]
    split_ifs with low lineBreak
    · change 0 ≤ 0 + _
      rw [a.revocable_withoutEmojiStyle]
      omega
    · have alone := revocable_measureAlone c
      rw [a.revocable_withoutEmojiStyle]
      omega
    · exact revocable_measureGlyph c a.withoutEmojiStyle

/-- What may still be taken back from a text is among its columns. -/
theorem revocable_measured_le (cs : List Char) : (measured cs).2.revocable ≤ (measured cs).1 := by
  -- The machine reads from the end, so the text behind comes first.
  induction cs with
  | nil => decide
  | cons c rest ih =>
    have step := revocable_measure c (measured rest).2
    rw [measured_cons]
    dsimp only
    omega

/-- The columns of a text never add up to less than none. -/
theorem displayWidth_eq (cs : List Char) : (displayWidth cs : Int) = (measured cs).1 := by
  have given := revocable_measured_le cs
  have nonneg := (measured cs).2.revocable_nonneg
  unfold displayWidth
  omega

/-! ### Spaces -/

theorem measure_space (a : Ahead) : measure ' ' a = (1, .nothing) := by
  have plain : isSelectable ' ' = false := by decide +kernel
  unfold measure
  rw [plain]
  split
  next => contradiction
  next => rfl

theorem measured_space_cons (cs : List Char) :
    measured (' ' :: cs) = ((measured cs).1 + 1, .nothing) := by
  rw [measured_cons, measure_space]

theorem columns_spaces_append (front : Nat) (cs : List Char) :
    (measured (spaces front ++ cs)).1 = front + (measured cs).1 := by
  induction front with
  | zero => simp [spaces]
  | succ n ih =>
    have first : spaces (n + 1) ++ cs = ' ' :: (spaces n ++ cs) := rfl
    rw [first, measured_space_cons]
    simp only [ih]
    omega

/-- Behind a text, spaces leave the machine as it starts. -/
theorem measured_append_spaces (cs : List Char) (back : Nat) :
    measured (cs ++ spaces back) = ((measured cs).1 + back, (measured cs).2) := by
  induction cs with
  | nil =>
    -- The first space forgets the ones behind it, so the state is as it was without any.
    cases back with
    | zero => rfl
    | succ n =>
      have columns := columns_spaces_append n []
      have first : [] ++ spaces (n + 1) = ' ' :: (spaces n ++ []) := by simp [spaces, List.replicate]
      rw [first, measured_space_cons, columns]
      simp [measured]
  | cons c rest ih =>
    rw [List.cons_append, measured_cons, measured_cons, ih]
    ext1
    · dsimp only
      omega
    · rfl

/-- Each space adds one column to a text, in front of it and behind it. -/
theorem displayWidth_spaces_append_spaces (front : Nat) (cs : List Char) (back : Nat) :
    displayWidth (spaces front ++ cs ++ spaces back) = front + displayWidth cs + back := by
  have columns : (measured (spaces front ++ cs ++ spaces back)).1 =
      front + (measured cs).1 + back := by
    rw [measured_append_spaces, columns_spaces_append]
  -- Widths are cut off at zero; that they are the columns makes the sum one of widths.
  rw [← displayWidth_eq, ← displayWidth_eq] at columns
  omega

/-! ### Padding -/

/-- The ways to pad a text, by name. -/
def paddings : List (String × (List Char → Nat → List Char)) :=
  [("pad_left", padLeft), ("pad_right", padRight), ("pad_center", padCenter)]

variable {way : String × (List Char → Nat → List Char)}

/-- A padded text is the text with as many spaces around it as it lacks columns. -/
theorem exists_spaces_of_padding (isWay : way ∈ paddings) (cs : List Char) (width : Nat) :
    ∃ front back, front + back = width - displayWidth cs ∧
      way.2 cs width = spaces front ++ cs ++ spaces back := by
  simp only [paddings, List.mem_cons, List.not_mem_nil, or_false] at isWay
  obtain rfl | rfl | rfl := isWay
  · exact ⟨width - displayWidth cs, 0, rfl, by simp [padLeft, spaces]⟩
  · exact ⟨0, width - displayWidth cs, by omega, by simp [padRight, spaces]⟩
  · exact ⟨_, _, by omega, rfl⟩

theorem displayWidth_padding (isWay : way ∈ paddings) (cs : List Char) (width : Nat) :
    displayWidth (way.2 cs width) = max width (displayWidth cs) := by
  obtain ⟨front, back, lacking, padded⟩ := exists_spaces_of_padding isWay cs width
  rw [padded, displayWidth_spaces_append_spaces]
  omega

/-- The filter of that name pads the text that is shown for a value. -/
theorem apply_padding (isWay : way ∈ paddings) (escaping : Bool) (v : Template.Value)
    {w : Template.Value} {width : Nat} (size : w.asSize = .ok width) :
    Template.Filter.apply escaping way.1 [v, w] =
      .ok (.ofChars (way.2 v.display.toList width)) := by
  have pads : Template.Filter.apply escaping way.1 [v, w] =
      Template.Filter.ofWidth way.2 [v, w] := by
    simp only [paddings, List.mem_cons, List.not_mem_nil, or_false] at isWay
    obtain rfl | rfl | rfl := isWay <;> rfl
  rw [pads, Template.Filter.ofWidth_of_size way.2 v size]

/-- Each way to pad a text puts as many spaces around it as it lacks columns, on the left, on the
right or on both sides, where an odd one goes right; so it takes the width then, or its own width
where that is more. Spaces around a text never change the columns of the text itself. The filters
of these names do the same with the text of a value. -/
theorem displayWidth_padded (cs : List Char) (width : Nat) :
    padLeft cs width = spaces (width - displayWidth cs) ++ cs ∧
      padRight cs width = cs ++ spaces (width - displayWidth cs) ∧
      (∃ left right, left + right = width - displayWidth cs ∧ (right = left ∨ right = left + 1) ∧
        padCenter cs width = spaces left ++ cs ++ spaces right) ∧
      (∀ way ∈ paddings, displayWidth (way.2 cs width) = max width (displayWidth cs)) ∧
      (∀ front back,
        displayWidth (spaces front ++ cs ++ spaces back) = front + displayWidth cs + back) ∧
      ∀ way ∈ paddings, ∀ (escaping : Bool) (v w : Template.Value), v.display.toList = cs →
        w.whole? = some (width : Int) → (width : Int) ≤ Decimal.maxUnsigned64 →
        Template.Filter.apply escaping way.1 [v, w] = .ok (.ofChars (way.2 cs width)) := by
  refine ⟨rfl, rfl, ⟨_, _, ?_, ?_, rfl⟩, ?_, ?_, ?_⟩
  · omega
  · omega
  · exact fun way isWay => displayWidth_padding isWay cs width
  · exact fun front back => displayWidth_spaces_append_spaces front cs back
  · intro way isWay escaping v w shown held fits
    rw [apply_padding isWay escaping v (Template.Value.asSize_of_whole? held fits), shown]

/-- A text that starts with a joining mark and ends in a selector, padded to nine columns. -/
theorem displayWidth_padded_selector :
    displayWidth (padCenter "\u0301❤\uFE0F".toList 9) = 9 ∧
      Template.Filter.apply false "pad_center"
          [.ofString "\u0301❤\uFE0F", .ofNat 9] =
        .ok (.ofChars (padCenter "\u0301❤\uFE0F".toList 9)) := by
  obtain ⟨-, -, -, widths, -, filters⟩ := displayWidth_padded "\u0301❤\uFE0F".toList 9
  have center : ("pad_center", padCenter) ∈ paddings := by simp [paddings]
  constructor
  · have narrow : displayWidth "\u0301❤\uFE0F".toList ≤ 9 := by decide +kernel
    rw [widths _ center]
    omega
  · exact filters _ center false _ _ rfl rfl (by decide)

end FormLetter.Text
