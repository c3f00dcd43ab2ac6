import FormLetter.Text.Property.Emoji
import FormLetter.Text.Property.ZeroWidth

/-!
What a text that is measured from its end holds behind the character to be measured next: the start
of a sequence that the character may join without taking columns of its own.
-/
namespace FormLetter.Text

/-- Letters that some letters in front of them are joined to. -/
inductive Ligature where
  | alef
  | lamed
  | coengLetter
  | bugineseYa
  | bugineseVowel
  | tifinagh
  /-- The joining mark of Tifinagh in front of a letter. -/
  | tifinaghMark
  | lisuTone
  | turkicLetter
  deriving DecidableEq

/-- What a selector asks for. -/
inductive Style where
  | emoji
  | text
  deriving DecidableEq

/-- How many flag letters stand in front of a joiner. -/
inductive FlagLetters where
  | one
  | even
  | odd
  deriving DecidableEq

/-- What stands right behind the character about to be measured. -/
inductive Ahead where
  | nothing
  | lineFeed
  | selector (style : Style)
  /-- A letter, with a joiner in front of it or not, and with a selector or without. -/
  | letter (l : Ligature) (joined : Bool) (style : Option Style)
  | skinTone
  /-- One letter of a flag, or several. -/
  | flag (several : Bool)
  /-- A complete emoji, counted already. -/
  | emoji
  /-- A joiner in front of a complete emoji, with an emoji selector or without. -/
  | joiner (selected : Bool)
  /-- The frame of a keycap in front of such a joiner. -/
  | keycap (selected : Bool)
  | joinedFlag (letters : FlagLetters)
  /-- The end of a flag that is spelled in tags: so many letters, or so many digits. -/
  | tags (letters digits : Nat)
  | kiratRaiE
  | kiratRaiAi
  deriving DecidableEq

def isSkinTone (c : Char) : Bool := 0x1F3FB ≤ c.toNat && c.toNat ≤ 0x1F3FF

def isFlagLetter (c : Char) : Bool := 0x1F1E6 ≤ c.toNat && c.toNat ≤ 0x1F1FF

def isTagLetter (c : Char) : Bool := 0xE0061 ≤ c.toNat && c.toNat ≤ 0xE007A

def isTagDigit (c : Char) : Bool := 0xE0030 ≤ c.toNat && c.toNat ≤ 0xE0039

/-- An emoji unless text style is asked for, and neither a skin tone nor part of a flag. -/
def isWholeEmoji (c : Char) : Bool :=
  isEmojiByDefault c && !isSkinTone c && !isFlagLetter c

/-- A sign that takes one column in text style. -/
def isNarrowAsText (c : Char) : Bool :=
  isSelectable c && !(0x1F200 ≤ c.toNat && c.toNat ≤ 0x1F2FF)

def isLam (c : Char) : Bool :=
  inRanges [(0x644, 0x644), (0x6B5, 0x6B8), (0x76A, 0x76A), (0x8A6, 0x8A6), (0x8C7, 0x8C7)] c

def isAlef (c : Char) : Bool :=
  inRanges [(0x622, 0x623), (0x625, 0x625), (0x627, 0x627), (0x671, 0x673), (0x675, 0x675),
    (0x773, 0x774), (0x870, 0x882)] c

def isCoengLetter (c : Char) : Bool :=
  inRanges [(0x1780, 0x1782), (0x1784, 0x1787), (0x1789, 0x178C), (0x178E, 0x1793),
    (0x1795, 0x1798), (0x179B, 0x179D), (0x17A0, 0x17A0), (0x17A2, 0x17A2), (0x17A7, 0x17A7),
    (0x17AB, 0x17AC), (0x17AF, 0x17AF)] c

def isTifinaghLetter (c : Char) : Bool :=
  inRanges [(0x2D31, 0x2D65), (0x2D6F, 0x2D6F)] c

/-- A mark that is never shown, or the joiner; letters other than Arabic ones are joined across
it. -/
def isLooseMark (c : Char) : Bool :=
  inRanges [(0x34F, 0x34F), (0x17B4, 0x17B5), (0x180B, 0x180D), (0x180F, 0x180F),
    (0x200D, 0x200D), (0xFE00, 0xFE0F), (0xE0100, 0xE01EF)] c

namespace Ahead

def ofLigature (l : Ligature) : Ahead := .letter l false none

/-- What a character is for the one in front of it if nothing behind joins it. -/
def ofChar (c : Char) : Ahead :=
  let n := c.toNat
  if n == 0x0A then .lineFeed
  else if n < 0x300 then .nothing
  else if n == 0xFE0F then .selector .emoji
  else if n == 0xFE0E then .selector .text
  else if isSkinTone c then .skinTone
  else if isFlagLetter c then .flag false
  else if isAlef c then ofLigature .alef
  else if n == 0x5DC then ofLigature .lamed
  else if isCoengLetter c then ofLigature .coengLetter
  else if n == 0xA4FC || n == 0xA4FD then ofLigature .lisuTone
  else if n == 0x10C03 then ofLigature .turkicLetter
  else if n == 0x1A10 then ofLigature .bugineseYa
  else if isTifinaghLetter c then ofLigature .tifinagh
  else if n == 0x16D67 then .kiratRaiE
  else if n == 0x16D68 then .kiratRaiAi
  else if isEmojiByDefault c then .emoji
  else .nothing

/-- A selector of emoji style stands in front; what waits for a letter does not forget it. -/
def selectEmoji : Ahead → Ahead
  | .letter l joined _ => .letter l joined (some .emoji)
  | .joiner _ => .joiner true
  | .keycap _ => .keycap true
  | _ => .selector .emoji

/-- A selector of text style stands in front. -/
def selectText : Ahead → Ahead
  | .letter l joined _ => .letter l joined (some .text)
  | _ => .selector .text

/-- The columns of a sign that an emoji selector stands behind: none in a sequence that goes on. -/
def emojiColumns? : Ahead → Option Int
  | .selector .emoji | .letter _ _ (some .emoji) => some 2
  | .joiner true | .keycap true => some 0
  | _ => none

/-- The emoji selector has nothing in front of it to change. -/
def withoutEmojiStyle : Ahead → Ahead
  | .letter l joined (some .emoji) => .letter l joined none
  | .selector .emoji | .joiner true | .keycap true => .nothing
  | a => a

def wantsText : Ahead → Bool
  | .selector .text | .letter _ _ (some .text) => true
  | _ => false

/-- The text selector has nothing in front of it to change. -/
def withoutTextStyle : Ahead → Ahead
  | .letter l joined (some .text) => .letter l joined none
  | .selector .text => .nothing
  | a => a

/-- A joiner or another loose mark stands in front of a letter that stays joinable. -/
def behindLooseMark? (c : Char) : Ahead → Option Ahead
  | .letter .alef _ _ => none
  | .letter l joined style =>
    if c.toNat == 0x200D then some (.letter l true style)
    else if isLooseMark c then some (.letter l joined style)
    else none
  | _ => none

end Ahead

end FormLetter.Text
