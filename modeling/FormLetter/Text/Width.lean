import FormLetter.Text.Property.Wide
import FormLetter.Text.Width.Ahead

/-!
Display width in terminal columns. A text is measured from its end, one character at a time; what
follows a character is remembered as an `Ahead`, so that emoji sequences and joined letters count
once. A character that joins what follows may take back columns that were counted for it.
-/
namespace FormLetter.Text

/-- The columns of a character that is not a control character. -/
def glyphWidth (c : Char) : Nat :=
  if c.toNat < 0x7F then 1
  else if c.toNat == 0x17D8 then 3
  else if isZeroWidth c then 0
  else if isWide c then 2
  else 1

/-- The columns of a single character; a control character takes none. -/
def charWidth (c : Char) : Nat :=
  if isControl c then 0 else glyphWidth c

/-- A character that nothing behind it joins; there a control character takes one column. -/
def measureAlone (c : Char) : Int × Ahead :=
  (if isControl c then 1 else glyphWidth c, .ofChar c)

/-- A character in front of a letter that it may be joined to. -/
def joinLetter? (c : Char) (joined : Bool) : Ligature → Option (Int × Ahead)
  | .alef =>
    if isLam c then some (0, .nothing)
    else if isTransparent c then some (0, .ofLigature .alef)
    else none
  | .lamed => if joined && c.toNat == 0x5D0 then some (0, .nothing) else none
  | .coengLetter => if c.toNat == 0x17D2 then some (-1, .nothing) else none
  | .bugineseYa =>
    if joined && c.toNat == 0x1A17 then some (0, .ofLigature .bugineseVowel) else none
  | .bugineseVowel => if c.toNat == 0x1A15 then some (0, .nothing) else none
  | .tifinagh =>
    if c.toNat == 0x2D7F then some (1, .ofLigature .tifinaghMark)
    else if joined && isTifinaghLetter c then some (0, .nothing)
    else none
  | .tifinaghMark => if isTifinaghLetter c then some (-1, .nothing) else none
  | .lisuTone => if 0xA4F8 ≤ c.toNat && c.toNat ≤ 0xA4FB then some (0, .nothing) else none
  | .turkicLetter => if joined && c.toNat == 0x10C32 then some (0, .nothing) else none

/-- A character in front of the joiner of an emoji sequence. -/
def joinSequence? (c : Char) : Option (Int × Ahead) :=
  if c.toNat == 0x20E3 then some (0, .keycap false)
  else if isFlagLetter c then some (1, .joinedFlag .one)
  else if isSkinTone c then some (0, .skinTone)
  else if c.toNat == 0xE007F then some (0, .tags 0 0)
  else if isWholeEmoji c then some (0, .emoji)
  else none

/-- A character in front of tags. -/
def joinTags? (c : Char) (letters digits : Nat) : Option (Int × Ahead) :=
  if isTagLetter c && digits == 0 && letters < 6 then some (0, .tags (letters + 1) 0)
  else if isTagDigit c && (if digits == 0 then letters < 5 else digits < 3) then
    some (0, .tags 0 (digits + 1))
  else if c.toNat == 0x1F3F4 && (3 ≤ letters || digits == 3) then some (0, .emoji)
  else none

/-- A vowel sign of Kirat Rai in front of another one. -/
def joinKiratRai? (c : Char) (ahead : Ahead) : Option (Int × Ahead) :=
  match ahead, c.toNat with
  | .kiratRaiE, 0x16D63 | .kiratRaiE, 0x16D69 | .kiratRaiAi, 0x16D63 => some (0, .nothing)
  | .kiratRaiE, 0x16D67 => some (0, .kiratRaiAi)
  | .kiratRaiE, 0x16D68 => some (1, .kiratRaiE)
  | _, _ => none

/-- A character that joins what stands behind it: its columns, and the state in front of it. -/
def join? (c : Char) (ahead : Ahead) : Option (Int × Ahead) :=
  let joiner : Option (Int × Ahead) := if c.toNat == 0x200D then some (0, .joiner false) else none
  match ahead with
  | .letter l joined _ => joinLetter? c joined l
  | .skinTone => if isModifierBase c then some (0, .emoji) else joiner
  | .flag several =>
    if isFlagLetter c then some (1, .flag true) else if several then joiner else none
  | .emoji => joiner
  | .joiner _ => joinSequence? c
  | .joinedFlag .even => if isFlagLetter c then some (3, .joinedFlag .odd) else joiner
  | .joinedFlag _ => if isFlagLetter c then some (-1, .joinedFlag .even) else none
  | .tags letters digits => joinTags? c letters digits
  | ahead => joinKiratRai? c ahead

/-- A character beyond the controls, behind which no emoji selector stands. -/
def measureGlyph (c : Char) (ahead : Ahead) : Int × Ahead :=
  if ahead = .nothing then measureAlone c
  else if c.toNat == 0xFE0F then (0, ahead.selectEmoji)
  else if c.toNat == 0xFE0E then (0, ahead.selectText)
  else if ahead.wantsText && isNarrowAsText c then (1, .nothing)
  else
    let ahead := ahead.withoutTextStyle
    match ahead.behindLooseMark? c with
    | some next => (0, next)
    | none => (join? c ahead).getD (measureAlone c)

/-- The columns a character adds in front of what follows, and the state it leaves behind. -/
def measure (c : Char) (ahead : Ahead) : Int × Ahead :=
  match ahead.emojiColumns?, isSelectable c with
  | some columns, true => (columns, .emoji)
  | _, _ =>
    let ahead := ahead.withoutEmojiStyle
    if c.toNat ≤ 0xA0 then
      if c == '\r' && ahead = .lineFeed then (0, .nothing) else measureAlone c
    else measureGlyph c ahead

/-- The columns of a text, and the state in front of it. -/
def measured (cs : List Char) : Int × Ahead :=
  cs.foldr (fun c (total, ahead) =>
    let (columns, next) := measure c ahead
    (total + columns, next)) (0, .nothing)

/-- The display width of a text. -/
def displayWidth (cs : List Char) : Nat :=
  (measured cs).1.toNat

end FormLetter.Text
