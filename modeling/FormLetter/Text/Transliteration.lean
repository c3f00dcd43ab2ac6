import FormLetter.Text.Transliteration.Letters
import FormLetter.Text.Transliteration.Signs
import FormLetter.Text.Transliteration.Words

/-!
ASCII spellings of texts. Each character is spelled on its own; a spelling that ends in a space,
such as a Chinese reading, loses it at the end of the text and in front of another space.

The tables hold the scripts, signs and pictures that are met most often, and of the Chinese characters
the common ones only. A character that none of them holds, such as an Armenian letter or a rare
Chinese character, has no spelling here and is written as `[?]`. No result about texts that are spelled
in ASCII depends on the entries: those on slugs hold for any table.
-/
namespace FormLetter.Text.Transliteration

/-- Consecutive code points from `first` on, each with its spelling. -/
structure Block where
  first : Nat
  spellings : List String

def Block.find? (b : Block) (code : Nat) : Option String :=
  if b.first ≤ code then b.spellings[code - b.first]? else none

def blocks : List Block :=
  [⟨0x80, List.replicate 32 ""⟩, ⟨0xA0, latinSupplement⟩, ⟨0x100, latinExtended⟩,
   ⟨0x300, List.replicate 112 ""⟩, ⟨0x370, greek⟩, ⟨0x400, cyrillic⟩, ⟨0x5D0, hebrew⟩,
   ⟨0x600, arabic⟩, ⟨0x900, devanagari⟩, ⟨0xE00, thai⟩, ⟨0x1E00, latinAdditional⟩,
   ⟨0x1F00, greekExtended⟩, ⟨0x2000, punctuation⟩, ⟨0x2460, enclosed⟩, ⟨0x2500, boxes⟩,
   ⟨0x3000, cjkMarks⟩, ⟨0x3041, hiragana⟩, ⟨0x30A0, katakana⟩, ⟨0xFB00, ligatures⟩,
   ⟨0xFE00, List.replicate 16 ""⟩, ⟨0xFEFF, [""]⟩, ⟨0xFF61, halfKatakana⟩]

def hangulInitials : List String :=
  ["g", "gg", "n", "d", "dd", "r", "m", "b", "bb", "s", "ss", "", "j", "jj", "c", "k", "t", "p",
   "h"]

def hangulVowels : List String :=
  ["a", "ae", "ya", "yae", "eo", "e", "yeo", "ye", "o", "wa", "wae", "oe", "yo", "u", "weo", "we",
   "wi", "yu", "eu", "yi", "i"]

def hangulFinals : List String :=
  ["", "g", "gg", "gs", "n", "nj", "nh", "d", "l", "lg", "lm", "lb", "ls", "lt", "lp", "lh", "m",
   "b", "bs", "s", "ss", "ng", "j", "c", "k", "t", "p", "h"]

/-- A Korean syllable is spelled by its initial, its vowel and its final. -/
def hangul? (code : Nat) : Option String :=
  if 0xAC00 ≤ code && code < 0xAC00 + 11172 then
    let n := code - 0xAC00
    some (hangulInitials.getD (n / 588) "" ++ hangulVowels.getD (n % 588 / 28) "" ++
      hangulFinals.getD (n % 28) "")
  else none

/-- Full-width forms and mathematical alphabets are styles of ASCII characters. -/
def styled? (code : Nat) : Option String :=
  if 0xFF01 ≤ code && code ≤ 0xFF5E then some (Char.ofNat (code - 0xFEE0)).toString
  else if 0x1D400 ≤ code && code < 0x1D400 + 676 then
    let n := (code - 0x1D400) % 52
    some (Char.ofNat (if n < 26 then 65 + n else 71 + n)).toString
  else if 0x1D7CE ≤ code && code ≤ 0x1D7FF then
    some (Char.ofNat (48 + (code - 0x1D7CE) % 10)).toString
  else none

def paired? (code : Nat) : Option String :=
  ((letterlike ++ mathematical).find? fun (c, _) => c == code).map (·.2)

/-- Words are followed by a space. -/
def word? (c : Char) : Option String :=
  match han.find? fun (_, cs) => cs.toList.contains c with
  | some (reading, _) => some (reading ++ " ")
  | none => (pictures.find? fun (p, _) => p.toList == [c]).map fun (_, name) => name ++ " "

/-- The spelling of a character, if it has one. -/
def spelling? (c : Char) : Option (List Char) :=
  let code := c.toNat
  if code < 0x80 then some [c]
  else
    let found := (blocks.findSome? (·.find? code)).or
      ((hangul? code).or ((styled? code).or ((paired? code).or (word? c))))
    found.map String.toList

/-- What stands for a character without a spelling. -/
def unknown : List Char := ['[', '?', ']']

/-- Drops the space after a word that ends the text or precedes another space. -/
def joined : List (Option (List Char)) → List (List Char)
  | [] => []
  | none :: rest => unknown :: joined rest
  | some cs :: rest =>
    let spaceFollows := match rest with
      | [] => true
      | some (d :: _) :: _ => d == ' '
      | _ => false
    (if 1 < cs.length && cs.getLast? == some ' ' && spaceFollows then cs.dropLast else cs)
      :: joined rest

/-- The ASCII spelling of a text. -/
def ascii (cs : List Char) : List Char :=
  (joined (cs.map spelling?)).flatten

end FormLetter.Text.Transliteration
