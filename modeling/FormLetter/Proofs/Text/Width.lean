import FormLetter.Text.Width
import Mathlib.Tactic.SplitIfs

/-!
Columns of a text against columns of its characters. The machine that reads a text from its end
gives some sequences fewer columns than their characters take alone, and a few characters one column
more. What it has taken back and may still give is owed by its state: with that counted, a step never
gives more than the character, and so a text is no wider than its characters together, and as many
columns more as it has characters of the second kind.
-/
namespace FormLetter.Text

/-- The columns of the characters of a text, each measured alone. -/
def cost : List Char → Nat
  | [] => 0
  | c :: rest => charWidth c + cost rest

/-- In front of these characters, this one may take a column more than alone: a control character
that is not the return of a line break, a narrow sign that is shown as an emoji, or the joining mark
of Tifinagh. -/
def IsUnderstated (c : Char) (behind : List Char) : Prop :=
  (isControl c ∧ ¬ (c = '\r' ∧ behind.head? = some '\n')) ∨
    (isSelectable c ∧ charWidth c = 1 ∧ behind.head? = some '\uFE0F') ∨ c.toNat = 0x2D7F

instance (c : Char) (behind : List Char) : Decidable (IsUnderstated c behind) := by
  unfold IsUnderstated; infer_instance

/-- How many characters of a text may take a column more than alone. -/
def understated : List Char → Nat
  | [] => 0
  | c :: behind => (if IsUnderstated c behind then 1 else 0) + understated behind

/-! ### The tables -/

/-- Every range of one table lies in a range of the other one. -/
def withinRanges (inner outer : List (Nat × Nat)) : Bool :=
  inner.all fun (low, high) => outer.any fun (low', high') => low' ≤ low && high ≤ high'

/-- Two tables have no character in common. -/
def disjointRanges (left right : List (Nat × Nat)) : Bool :=
  left.all fun (low, high) => right.all fun (low', high') => high < low' || high' < low

theorem inRanges_of_within {inner outer : List (Nat × Nat)} {c : Char}
    (within : withinRanges inner outer) (inInner : inRanges inner c) : inRanges outer c := by
  obtain ⟨i, memInner, bounds⟩ := List.any_eq_true.mp inInner
  obtain ⟨o, memOuter, around⟩ := List.any_eq_true.mp (List.all_eq_true.mp within i memInner)
  refine List.any_eq_true.mpr ⟨o, memOuter, ?_⟩
  simp only [Bool.and_eq_true, decide_eq_true_eq] at bounds around ⊢
  omega

theorem not_inRanges_of_disjoint {left right : List (Nat × Nat)} {c : Char}
    (apart : disjointRanges left right) (inLeft : inRanges left c) : ¬ inRanges right c := by
  intro inRight
  obtain ⟨l, memLeft, boundsLeft⟩ := List.any_eq_true.mp inLeft
  obtain ⟨r, memRight, boundsRight⟩ := List.any_eq_true.mp inRight
  have noMeet := List.all_eq_true.mp (List.all_eq_true.mp apart l memLeft) r memRight
  simp only [Bool.and_eq_true, decide_eq_true_eq, Bool.or_eq_true] at boundsLeft boundsRight noMeet
  omega

/-- The ranges of characters that take no column when they are measured alone. -/
def columnlessRanges : List (Nat × Nat) :=
  (0, 0x1F) :: (0x7F, 0x9F) :: zeroWidthRanges

/-- Stretches between those. -/
def columnRanges : List (Nat × Nat) :=
  [(0x20, 0x7E), (0xA0, 0xAC), (0xAE, 0x2FF), (0x202F, 0x205F), (0x20F1, 0x2CEE), (0x3030, 0x3098),
   (0x3165, 0xA66E), (0x16B37, 0x16F4E), (0x1E94B, 0xDFFFF)]

theorem inRanges_columnless (c : Char) :
    inRanges columnlessRanges c = (isControl c || isZeroWidth c) := by
  have below : (c.toNat ≤ 0x1F) = (c.toNat < 0x20) := by simp [Nat.lt_succ_iff]
  have between : (c.toNat ≤ 0x9F) = (c.toNat < 0xA0) := by simp [Nat.lt_succ_iff]
  simp [columnlessRanges, inRanges, isControl, isZeroWidth, below, between, Bool.or_assoc]

theorem disjointRanges_column_columnless : disjointRanges columnRanges columnlessRanges := by
  decide +kernel

theorem glyphWidth_pos {c : Char} (shown : ¬ isZeroWidth c) : 1 ≤ glyphWidth c := by
  unfold glyphWidth
  split_ifs <;> simp_all

theorem charWidth_pos_of_disjoint {ranges : List (Nat × Nat)} {c : Char}
    (apart : disjointRanges ranges columnlessRanges) (inside : inRanges ranges c) :
    1 ≤ charWidth c := by
  have outside := not_inRanges_of_disjoint apart inside
  simp only [inRanges_columnless, Bool.or_eq_true, not_or] at outside
  simpa [charWidth, outside.1] using glyphWidth_pos outside.2

theorem charWidth_pos {ranges : List (Nat × Nat)} {c : Char}
    (within : withinRanges ranges columnRanges) (inside : inRanges ranges c) :
    1 ≤ charWidth c :=
  charWidth_pos_of_disjoint disjointRanges_column_columnless (inRanges_of_within within inside)

/-- A sign that a selector can change takes a column of its own. -/
theorem charWidth_pos_of_selectable {c : Char} (sign : isSelectable c) : 1 ≤ charWidth c :=
  charWidth_pos (by decide +kernel) sign

theorem charWidth_pos_of_flagLetter {c : Char} (letter : isFlagLetter c) : 1 ≤ charWidth c := by
  have inside : inRanges [(0x1F1E6, 0x1F1FF)] c := by simpa [inRanges, isFlagLetter] using letter
  exact charWidth_pos (by decide) inside

theorem charWidth_pos_of_kiratRaiAi {c : Char} (vowel : c.toNat = 0x16D68) : 1 ≤ charWidth c := by
  have inside : inRanges [(0x16D68, 0x16D68)] c := by simp [inRanges, vowel]
  exact charWidth_pos (by decide) inside

/-! ### One character -/

/-- The columns a state may still give beyond those of the characters in front of it. -/
def Ahead.owed : Ahead → Int
  -- The second letter of a flag has taken back its column and that of the first.
  | .joinedFlag .even => 2
  | _ => 0

namespace Ahead

theorem owed_nonneg (a : Ahead) : 0 ≤ a.owed := by
  unfold owed; split <;> decide

theorem owed_ofChar (c : Char) : (ofChar c).owed = 0 := by
  simp only [ofChar, apply_ite owed]
  simp [owed, ofLigature]

theorem owed_selectEmoji (a : Ahead) : a.selectEmoji.owed = 0 := by
  cases a <;> rfl

theorem owed_selectText (a : Ahead) : a.selectText.owed = 0 := by
  cases a <;> rfl

theorem owed_withoutEmojiStyle (a : Ahead) : a.withoutEmojiStyle.owed = a.owed := by
  unfold withoutEmojiStyle; split <;> rfl

theorem owed_withoutTextStyle (a : Ahead) : a.withoutTextStyle.owed = a.owed := by
  unfold withoutTextStyle; split <;> rfl

theorem owed_behindLooseMark {c : Char} {a next : Ahead} (mark : a.behindLooseMark? c = some next) :
    next.owed = 0 := by
  unfold behindLooseMark? at mark
  split at mark
  · cases mark
  · split_ifs at mark <;> cases mark <;> rfl
  · cases mark

end Ahead

theorem measureAlone_le (c : Char) :
    (measureAlone c).1 + (measureAlone c).2.owed ≤
      charWidth c + (if isControl c then 1 else 0) := by
  unfold measureAlone charWidth
  rw [Ahead.owed_ofChar]
  split_ifs <;> simp

/-- The most columns of a character that joins what stands behind it. -/
def joinedWidth (c : Char) : Int :=
  charWidth c + if c.toNat = 0x2D7F then 1 else 0

theorem joinedWidth_nonneg (c : Char) : 0 ≤ joinedWidth c := by
  unfold joinedWidth; split <;> omega

theorem joinLetter?_le {c : Char} {joined : Bool} {l : Ligature} {r : Int × Ahead}
    (joins : joinLetter? c joined l = some r) : r.1 + r.2.owed ≤ joinedWidth c := by
  have nonneg := joinedWidth_nonneg c
  have within : ∀ {n : Int}, n ≤ 0 → n ≤ joinedWidth c := fun free => Int.le_trans free nonneg
  cases l with
  | tifinagh =>
    simp only [joinLetter?] at joins
    split_ifs at joins with isMark <;> cases joins
    · -- The joining mark is the only character that takes a column where it joins a letter.
      have mark : c.toNat = 0x2D7F := by simpa using isMark
      change 1 + 0 ≤ joinedWidth c
      rw [joinedWidth, if_pos mark]
      omega
    · exact nonneg
  -- The others take none, or one back.
  | alef | lamed | coengLetter | bugineseYa | bugineseVowel | tifinaghMark | lisuTone
  | turkicLetter =>
    simp only [joinLetter?] at joins
    split_ifs at joins <;> cases joins <;> exact within (by decide)

theorem joinSequence?_le {c : Char} {r : Int × Ahead} (joins : joinSequence? c = some r) :
    r.1 + r.2.owed ≤ joinedWidth c := by
  have nonneg := joinedWidth_nonneg c
  have letter := @charWidth_pos_of_flagLetter c
  simp only [joinSequence?] at joins
  split_ifs at joins <;> cases joins <;> simp_all [Ahead.owed, joinedWidth]
  -- A flag letter takes one.
  omega

theorem joinTags?_le {c : Char} {letters digits : Nat} {r : Int × Ahead}
    (joins : joinTags? c letters digits = some r) : r.1 + r.2.owed ≤ joinedWidth c := by
  have nonneg := joinedWidth_nonneg c
  simp only [joinTags?] at joins
  split_ifs at joins <;> cases joins <;> simpa [Ahead.owed] using nonneg

theorem joinKiratRai?_le {c : Char} {a : Ahead} {r : Int × Ahead}
    (joins : joinKiratRai? c a = some r) : r.1 + r.2.owed ≤ joinedWidth c := by
  have nonneg := joinedWidth_nonneg c
  unfold joinKiratRai? at joins
  split at joins
  next => cases joins; exact nonneg
  next => cases joins; exact nonneg
  next => cases joins; exact nonneg
  next => cases joins; exact nonneg
  next code =>
    have vowel := charWidth_pos_of_kiratRaiAi code
    cases joins
    simp only [Ahead.owed, joinedWidth]
    split <;> omega
  next => cases joins

/-- A character that joins what stands behind it takes no more than its own columns, and what is
owed to it. -/
theorem join?_le {c : Char} {a : Ahead} {r : Int × Ahead} (joins : join? c a = some r) :
    r.1 + r.2.owed ≤ joinedWidth c + a.owed := by
  have nonneg := joinedWidth_nonneg c
  have owed := a.owed_nonneg
  have letter : isFlagLetter c → 1 ≤ joinedWidth c := by
    intro isLetter
    have := charWidth_pos_of_flagLetter isLetter
    unfold joinedWidth
    split <;> omega
  have within : ∀ {n : Int}, n ≤ joinedWidth c → n ≤ joinedWidth c + a.owed := by omega
  -- The joiner itself takes no column.
  have joiner : ∀ {r : Int × Ahead},
      (if c.toNat == 0x200D then some (0, Ahead.joiner false) else none) = some r →
      r.1 + r.2.owed ≤ joinedWidth c + a.owed := by
    intro r isJoiner
    split at isJoiner <;> cases isJoiner
    exact within nonneg
  unfold join? at joins
  dsimp only at joins
  split at joins
  case h_1 => exact within (joinLetter?_le joins)
  case h_2 =>
    split at joins
    next => cases joins; exact within nonneg
    next => exact joiner joins
  case h_3 =>
    split at joins
    next isLetter => cases joins; exact within (letter isLetter)
    next =>
      split at joins
      next => exact joiner joins
      next => cases joins
  case h_4 => exact joiner joins
  case h_5 => exact within (joinSequence?_le joins)
  case h_6 =>
    split at joins
    next isLetter =>
      cases joins
      have := letter isLetter
      change 3 + 0 ≤ joinedWidth c + 2
      omega
    next => exact joiner joins
  case h_7 =>
    split at joins <;> cases joins
    next isLetter =>
      have := letter isLetter
      change -1 + 2 ≤ joinedWidth c + _
      omega
  case h_8 => exact within (joinTags?_le joins)
  case h_9 => exact within (joinKiratRai?_le joins)

/-- A character beyond the controls takes no more than its own columns, and what is owed to it. -/
theorem measureGlyph_le {c : Char} (printed : ¬ isControl c) (a : Ahead) :
    (measureGlyph c a).1 + (measureGlyph c a).2.owed ≤ joinedWidth c + a.owed := by
  have nonneg := joinedWidth_nonneg c
  have owed := a.owed_nonneg
  have width : (charWidth c : Int) ≤ joinedWidth c := by
    unfold joinedWidth; split <;> omega
  have alone : (measureAlone c).1 + (measureAlone c).2.owed ≤ joinedWidth c + a.owed := by
    have bound := measureAlone_le c
    rw [if_neg printed] at bound
    omega
  have within : ∀ {n : Int}, n ≤ joinedWidth c → n ≤ joinedWidth c + a.owed := by omega
  unfold measureGlyph
  dsimp only
  split_ifs with nothing emojiSelector textSelector asText
  · exact alone
  · exact within (by simpa [Ahead.owed_selectEmoji] using nonneg)
  · exact within (by simpa [Ahead.owed_selectText] using nonneg)
  · have sign : isSelectable c := by simp_all [isNarrowAsText]
    have := charWidth_pos_of_selectable sign
    change 1 + 0 ≤ _
    omega
  · split
    next next mark =>
      have := Ahead.owed_behindLooseMark mark
      simp only [this]
      exact within nonneg
    next =>
      cases joins : join? c a.withoutTextStyle with
      | none => exact alone
      | some r => simpa [Ahead.owed_withoutTextStyle] using join?_le joins

/-! ### The selector in front of a text

A sign takes two columns when the state behind it asks for an emoji, and that happens behind an
emoji selector only. -/

theorem toNat_of_emojiColumns?_ofChar {c : Char}
    (selects : (Ahead.ofChar c).emojiColumns? = some 2) :
    c.toNat = 0xFE0F := by
  simp only [Ahead.ofChar, apply_ite Ahead.emojiColumns?] at selects
  have found : ¬ c.toNat = 0x0A ∧ 0x300 ≤ c.toNat ∧ c.toNat = 0xFE0F := by
    simpa [Ahead.emojiColumns?, Ahead.ofLigature] using selects
  exact found.2.2

theorem emojiColumns?_join? {c : Char} {a : Ahead} {r : Int × Ahead} (joins : join? c a = some r) :
    r.2.emojiColumns? = none := by
  unfold join? joinLetter? joinSequence? joinTags? joinKiratRai? at joins
  dsimp only at joins
  (repeat' split at joins) <;> cases joins <;> rfl

theorem emojiColumns?_letter (l l' : Ligature) (joined joined' : Bool) (style : Option Style) :
    (Ahead.letter l joined style).emojiColumns? =
      (Ahead.letter l' joined' style).emojiColumns? := by
  rcases style with _ | _ | _ <;> rfl

theorem emojiColumns?_behindLooseMark {c : Char} {a next : Ahead}
    (unselected : a.emojiColumns? = none) (mark : a.behindLooseMark? c = some next) :
    next.emojiColumns? = none := by
  unfold Ahead.behindLooseMark? at mark
  split at mark
  next => cases mark
  next =>
    split_ifs at mark <;> cases mark <;> exact (emojiColumns?_letter ..).trans unselected
  next => cases mark

theorem emojiColumns?_withoutEmojiStyle (a : Ahead) :
    a.withoutEmojiStyle.emojiColumns? = none := by
  unfold Ahead.withoutEmojiStyle
  split
  next => rfl
  next => rfl
  next => rfl
  next => rfl
  next => unfold Ahead.emojiColumns?; split <;> simp_all

theorem emojiColumns?_withoutTextStyle {a : Ahead} (unselected : a.emojiColumns? = none) :
    a.withoutTextStyle.emojiColumns? = none := by
  unfold Ahead.withoutTextStyle
  split
  next => rfl
  next => rfl
  next => exact unselected

theorem toNat_of_emojiColumns?_measureGlyph {c : Char} {a : Ahead}
    (unselected : a.emojiColumns? = none)
    (selects : (measureGlyph c a).2.emojiColumns? = some 2) : c.toNat = 0xFE0F := by
  unfold measureGlyph at selects
  dsimp only at selects
  split_ifs at selects with nothing emojiSelector textSelector asText
  · exact toNat_of_emojiColumns?_ofChar selects
  · simpa using emojiSelector
  · cases a <;> cases selects
  · cases selects
  · split at selects
    next next mark =>
      rw [emojiColumns?_behindLooseMark (emojiColumns?_withoutTextStyle unselected) mark] at selects
      cases selects
    next =>
      cases joins : join? c a.withoutTextStyle with
      | none => exact toNat_of_emojiColumns?_ofChar (by simpa [joins, measureAlone] using selects)
      | some r => simp [joins, emojiColumns?_join? joins] at selects

theorem toNat_of_emojiColumns?_measure {c : Char} {a : Ahead}
    (selects : (measure c a).2.emojiColumns? = some 2) : c.toNat = 0xFE0F := by
  unfold measure at selects
  split at selects
  next => cases selects
  next =>
    dsimp only at selects
    split_ifs at selects
    · cases selects
    · exact toNat_of_emojiColumns?_ofChar selects
    · exact toNat_of_emojiColumns?_measureGlyph (emojiColumns?_withoutEmojiStyle a) selects

/-- What the state in front of a text says of its first character. -/
structure Ahead.Heads (a : Ahead) (behind : List Char) : Prop where
  selector : a.emojiColumns? = some 2 → behind.head? = some '\uFE0F'
  lineFeed : behind.head? = some '\n' → a = .lineFeed

theorem measured_cons (c : Char) (behind : List Char) :
    measured (c :: behind) =
      ((measured behind).1 + (measure c (measured behind).2).1,
        (measure c (measured behind).2).2) :=
  rfl

theorem heads_measured (cs : List Char) : (measured cs).2.Heads cs := by
  cases cs with
  | nil => exact ⟨nofun, nofun⟩
  | cons c behind =>
    refine ⟨fun selects => ?_, fun lineFeed => ?_⟩
    · have isSelector := toNat_of_emojiColumns?_measure selects
      exact congrArg some (Char.toNat_inj.mp isSelector)
    · cases lineFeed
      have plain : isSelectable '\n' = false := by decide +kernel
      rw [measured_cons]
      simp [measure, plain, measureAlone, Ahead.ofChar]

/-! ### A text -/

/-- A character takes no more than its own columns, one more if it is understated, and what is owed
to it. -/
theorem measure_le {c : Char} {a : Ahead} {behind : List Char} (heads : a.Heads behind) :
    (measure c a).1 + (measure c a).2.owed ≤
      (charWidth c + if IsUnderstated c behind then 1 else 0 : Nat) + a.owed := by
  have owed := a.owed_nonneg
  have more : IsUnderstated c behind → (if IsUnderstated c behind then 1 else 0) = 1 :=
    fun understates => if_pos understates
  generalize (if IsUnderstated c behind then 1 else 0) = extra at more ⊢
  unfold measure
  split
  next columns selected sign =>
    have pos := charWidth_pos_of_selectable sign
    have known : columns = 0 ∨ columns = 2 := by
      unfold Ahead.emojiColumns? at selected
      split at selected <;> cases selected <;> simp
    obtain rfl | rfl := known
    · change 0 + 0 ≤ _
      omega
    -- Two columns are more than a narrow sign has alone.
    · have shown : charWidth c = 1 → extra = 1 := fun narrow =>
        more (.inr (.inl ⟨sign, narrow, heads.selector selected⟩))
      change 2 + 0 ≤ _
      omega
  next =>
    dsimp only
    split_ifs with low lineBreak
    · change 0 + 0 ≤ _
      omega
    -- A control character has no column alone; the return of a line break was the case before.
    · have bound := measureAlone_le c
      have control : isControl c → extra = 1 := by
        refine fun control => more (.inl ⟨control, fun ⟨isReturn, head⟩ => lineBreak ?_⟩)
        simp [isReturn, heads.lineFeed head, Ahead.withoutEmojiStyle]
      split at bound
      next isControl => have := control isControl; omega
      next => omega
    · have printed : ¬ isControl c := by
        simp only [isControl, Bool.or_eq_true, Bool.and_eq_true, decide_eq_true_eq]
        omega
      have bound := measureGlyph_le printed a.withoutEmojiStyle
      rw [Ahead.owed_withoutEmojiStyle] at bound
      have room : joinedWidth c ≤ charWidth c + extra := by
        unfold joinedWidth
        split
        next mark => have := more (.inr (.inr mark)); omega
        next => omega
      omega

/-- A text is never wider than its characters are and those of them are many that may take a column
more. -/
theorem displayWidth_le (cs : List Char) : displayWidth cs ≤ cost cs + understated cs := by
  have bound : (measured cs).1 + (measured cs).2.owed ≤ (cost cs + understated cs : Nat) := by
    induction cs with
    | nil => simp [measured, cost, understated, Ahead.owed]
    | cons c rest ih =>
      have step := measure_le (c := c) (heads_measured rest)
      simp only [measured_cons, cost, understated] at *
      omega
  have owed := (measured cs).2.owed_nonneg
  unfold displayWidth
  omega

end FormLetter.Text
