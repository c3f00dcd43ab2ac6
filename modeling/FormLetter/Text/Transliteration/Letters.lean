/-!
ASCII spellings of the letters of some scripts, each list in the order of the code points. A
character with an empty spelling is dropped.
-/
namespace FormLetter.Text.Transliteration

/-! ### Latin -/

/-- The signs and letters from U+00A0 on. -/
def latinSupplement : List String :=
  [" ", "!", "C/", "PS", "$?", "Y=", "|", "SS", "\"", "(c)", "a", "<<", "!", "", "(r)", "-",
   "deg", "+-", "2", "3", "'", "u", "P", "*", ",", "1", "o", ">>", "1/4", "1/2", "3/4", "?", "A",
   "A", "A", "A", "A", "A", "AE", "C", "E", "E", "E", "E", "I", "I", "I", "I", "D", "N", "O",
   "O", "O", "O", "O", "x", "O", "U", "U", "U", "U", "Y", "Th", "ss", "a", "a", "a", "a", "a",
   "a", "ae", "c", "e", "e", "e", "e", "i", "i", "i", "i", "d", "n", "o", "o", "o", "o", "o",
   "/", "o", "u", "u", "u", "u", "y", "th", "y"]

/-- The letters from U+0100 on. -/
def latinExtended : List String :=
  ["A", "a", "A", "a", "A", "a", "C", "c", "C", "c", "C", "c", "C", "c", "D", "d", "D", "d", "E",
   "e", "E", "e", "E", "e", "E", "e", "E", "e", "G", "g", "G", "g", "G", "g", "G", "g", "H", "h",
   "H", "h", "I", "i", "I", "i", "I", "i", "I", "i", "I", "i", "IJ", "ij", "J", "j", "K", "k",
   "k", "L", "l", "L", "l", "L", "l", "L", "l", "L", "l", "N", "n", "N", "n", "N", "n", "'n",
   "NG", "ng", "O", "o", "O", "o", "O", "o", "OE", "oe", "R", "r", "R", "r", "R", "r", "S", "s",
   "S", "s", "S", "s", "S", "s", "T", "t", "T", "t", "T", "t", "U", "u", "U", "u", "U", "u", "U",
   "u", "U", "u", "U", "u", "W", "w", "Y", "y", "Y", "Z", "z", "Z", "z", "Z", "z", "s", "b", "B",
   "B", "b", "6", "6", "O", "C", "c", "D", "D", "D", "d", "d", "3", "@", "E", "F", "f", "G", "G",
   "hv", "I", "I", "K", "k", "l", "l", "W", "N", "n", "O", "O", "o", "OI", "oi", "P", "p", "YR",
   "2", "2", "SH", "sh", "t", "T", "t", "T", "U", "u", "Y", "V", "Y", "y", "Z", "z", "ZH", "ZH",
   "zh", "zh", "2", "5", "5", "ts", "w", "|", "||", "|=", "!", "DZ", "Dz", "dz", "LJ", "Lj",
   "lj", "NJ", "Nj", "nj", "A", "a", "I", "i", "O", "o", "U", "u", "U", "u", "U", "u", "U", "u",
   "U", "u", "@", "A", "a", "A", "a", "AE", "ae", "G", "g", "G", "g", "K", "k", "O", "o", "O",
   "o", "ZH", "zh", "j", "DZ", "Dz", "dz", "G", "g", "HV", "W", "N", "n", "A", "a", "AE", "ae",
   "O", "o", "A", "a", "A", "a", "E", "e", "E", "e", "I", "i", "I", "i", "O", "o", "O", "o", "R",
   "r", "R", "r", "U", "u", "U", "u", "S", "s", "T", "t", "Y", "y", "H", "h", "N", "d", "OU",
   "ou", "Z", "z", "A", "a", "E", "e", "O", "o", "O", "o", "O", "o", "O", "o", "Y", "y", "l",
   "n", "t", "j", "db", "qp", "A", "C", "c", "L", "T", "s", "z", "?", "?", "B", "U", "V", "E",
   "e", "J", "j", "", "q", "R", "r", "Y", "y"]

/-- The letters from U+1E00 on. -/
def latinAdditional : List String :=
  ["A", "a", "B", "b", "B", "b", "B", "b", "C", "c", "D", "d", "D", "d", "D", "d", "D", "d", "D",
   "d", "E", "e", "E", "e", "E", "e", "E", "e", "E", "e", "F", "f", "G", "g", "H", "h", "H", "h",
   "H", "h", "H", "h", "H", "h", "I", "i", "I", "i", "K", "k", "K", "k", "K", "k", "L", "l", "L",
   "l", "L", "l", "L", "l", "M", "m", "M", "m", "M", "m", "N", "n", "N", "n", "N", "n", "N", "n",
   "O", "o", "O", "o", "O", "o", "O", "o", "P", "p", "P", "p", "R", "r", "R", "r", "R", "r", "R",
   "r", "S", "s", "S", "s", "S", "s", "S", "s", "S", "s", "T", "t", "T", "t", "T", "t", "T", "t",
   "U", "u", "U", "u", "U", "u", "U", "u", "U", "u", "V", "v", "V", "v", "W", "w", "W", "w", "W",
   "w", "W", "w", "W", "w", "X", "x", "X", "x", "Y", "y", "Z", "z", "Z", "z", "Z", "z", "h", "t",
   "w", "y", "a", "s", "s", "s", "Ss", "d", "A", "a", "A", "a", "A", "a", "A", "a", "A", "a",
   "A", "a", "A", "a", "A", "a", "A", "a", "A", "a", "A", "a", "A", "a", "E", "e", "E", "e", "E",
   "e", "E", "e", "E", "e", "E", "e", "E", "e", "E", "e", "I", "i", "I", "i", "O", "o", "O", "o",
   "O", "o", "O", "o", "O", "o", "O", "o", "O", "o", "O", "o", "O", "o", "O", "o", "O", "o", "O",
   "o", "U", "u", "U", "u", "U", "u", "U", "u", "U", "u", "U", "u", "U", "u", "Y", "y", "Y", "y",
   "Y", "y", "Y", "y", "LL", "ll", "V", "v", "Y", "y"]

/-! ### Greek -/

/-- The letters from U+0370 on. -/
def greek : List String :=
  ["", "", "", "", "'", ",", "", "", "", "", "", "", "", "", "?", "", "", "", "", "", "'", "'",
   "A", ";", "E", "E", "I", "", "O", "", "U", "O", "I", "A", "B", "G", "D", "E", "Z", "E", "Th",
   "I", "K", "L", "M", "N", "X", "O", "P", "R", "", "S", "T", "U", "Ph", "Kh", "Ps", "O", "I",
   "U", "a", "e", "e", "i", "u", "a", "b", "g", "d", "e", "z", "e", "th", "i", "k", "l", "m",
   "n", "x", "o", "p", "r", "s", "s", "t", "u", "ph", "kh", "ps", "o", "i", "u", "o", "u", "o",
   "&"]

/-- The letters with breathings and accents from U+1F00 on. -/
def greekExtended : List String :=
  ["a", "a", "a", "a", "a", "a", "a", "a", "A", "A", "A", "A", "A", "A", "A", "A", "e", "e", "e",
   "e", "e", "e", "", "", "E", "E", "E", "E", "E", "E", "", "", "e", "e", "e", "e", "e", "e",
   "e", "e", "E", "E", "E", "E", "E", "E", "E", "E", "i", "i", "i", "i", "i", "i", "i", "i", "I",
   "I", "I", "I", "I", "I", "I", "I", "o", "o", "o", "o", "o", "o", "", "", "O", "O", "O", "O",
   "O", "O", "", "", "u", "u", "u", "u", "u", "u", "u", "u", "", "U", "", "U", "", "U", "", "U",
   "o", "o", "o", "o", "o", "o", "o", "o", "O", "O", "O", "O", "O", "O", "O", "O", "a", "a", "e",
   "e", "e", "e", "i", "i", "o", "o", "u", "u", "o", "o", "", "", "a", "a", "a", "a", "a", "a",
   "a", "a", "A", "A", "A", "A", "A", "A", "A", "A", "e", "e", "e", "e", "e", "e", "e", "e", "E",
   "E", "E", "E", "E", "E", "E", "E", "o", "o", "o", "o", "o", "o", "o", "o", "O", "O", "O", "O",
   "O", "O", "O", "O", "a", "a", "a", "a", "a", "", "a", "a", "A", "A", "A", "A", "A", "", "i",
   "", "", "", "e", "e", "e", "", "e", "e", "E", "E", "E", "E", "E", "", "", "", "i", "i", "i",
   "i", "", "", "i", "i", "I", "I", "I", "I", "", "", "", "", "u", "u", "u", "u", "r", "r", "u",
   "u", "U", "U", "U", "U", "R", "", "", "", "", "", "o", "o", "o", "", "o", "o", "O", "O", "O",
   "O", "O", "", "", ""]

/-! ### Cyrillic -/

/-- The letters from U+0400 on. -/
def cyrillic : List String :=
  ["Ie", "Io", "Dj", "Gj", "Ie", "Dz", "I", "Yi", "J", "Lj", "Nj", "Tsh", "Kj", "I", "U", "Dzh",
   "A", "B", "V", "G", "D", "E", "Zh", "Z", "I", "I", "K", "L", "M", "N", "O", "P", "R", "S",
   "T", "U", "F", "Kh", "Ts", "Ch", "Sh", "Shch", "'", "Y", "'", "E", "Iu", "Ia", "a", "b", "v",
   "g", "d", "e", "zh", "z", "i", "i", "k", "l", "m", "n", "o", "p", "r", "s", "t", "u", "f",
   "kh", "ts", "ch", "sh", "shch", "'", "y", "'", "e", "iu", "ia", "ie", "io", "dj", "gj", "ie",
   "dz", "i", "yi", "j", "lj", "nj", "tsh", "kj", "i", "u", "dzh", "", "", "", "", "", "", "",
   "", "", "", "", "", "", "", "", "", "", "", "", "", "", "", "", "", "", "", "", "", "", "",
   "", "", "", "", "", "", "", "", "", "", "", "", "", "", "", "", "", "", "G", "g", "G", "g",
   "", "", "Zh", "zh", "", "", "K", "k", "", "", "", "", "", "", "N", "n", "", "", "", "", "",
   "", "", "", "", "", "U", "u", "U", "u", "Kh", "kh", "", "", "", "", "", "", "H", "h", "", "",
   "", "", "", "", "", "", "", "", "", "", "", "", "", "", "", "", "", "", "", "", "", "", "",
   "", "", "", "@", "@", "", "", "", "", "", "", "", "", "", "", "", "", "", "", "O", "o", "",
   "", "", "", "", ""]

/-! ### Hebrew, Arabic, Devanagari and Thai -/

/-- The letters from U+05D0 on. -/
def hebrew : List String :=
  ["", "b", "g", "d", "h", "v", "z", "kh", "t", "y", "k", "k", "l", "m", "m", "n", "n", "s", "`",
   "p", "p", "ts", "ts", "q", "r", "sh", "t"]

/-- The letters from U+0600 on. -/
def arabic : List String :=
  ["", "", "", "", "", "", "", "", "", "", "", "", ",", "", "", "", "", "", "", "", "", "", "",
   "", "", "", "", ";", "", "", "", "?", "", "", "a", "'", "w'", "", "y'", "", "b", "@", "t",
   "th", "j", "H", "kh", "d", "dh", "r", "z", "s", "sh", "S", "D", "T", "Z", "`", "G", "", "",
   "", "", "", "", "f", "q", "k", "l", "m", "n", "h", "w", "~", "y", "an", "un", "in", "a", "u",
   "i", "W", "", "", "", "", "", "", "", "", "", "", "", "", "", "", "0", "1", "2", "3", "4",
   "5", "6", "7", "8", "9", "", "", "", "", "", "", "", "", "", "", "", "", "", "", "", "", "",
   "", "", "", "p", "", "", "", "", "", "", "", "ch", "", "", "", "", "", "", "", "", "", "", "",
   "", "", "", "", "", "", "zh", "", "", "", "", "", "", "", "", "", "", "", "", "", "", "", "",
   "k", "", "", "", "", "", "g", "", "", "", "", "", "", "", "", "", "", "", "", "", "", "", "",
   "", "", "", "", "", "", "", "", "", "", "", "", "y", "", "", "", "", "", "", "", "", "", "",
   "", "", "", "", "", "", "", "", "", "", "", "", "", "", "", "", "", "", "", "", "", "", "",
   "", "", "0", "1", "2", "3", "4", "5", "6", "7", "8", "9", "", "", "", "", "", ""]

/-- The letters from U+0900 on. -/
def devanagari : List String :=
  ["", "N", "N", "H", "", "a", "aa", "i", "ii", "u", "uu", "R", "", "", "", "e", "ai", "", "",
   "o", "au", "k", "kh", "g", "gh", "ng", "c", "ch", "j", "jh", "ny", "tt", "tth", "dd", "ddh",
   "nn", "t", "th", "d", "dh", "n", "nnn", "p", "ph", "b", "bh", "m", "y", "r", "rr", "l", "l",
   "lll", "v", "sh", "ss", "s", "h", "", "", "'", "'", "aa", "i", "ii", "u", "uu", "R", "", "",
   "", "e", "ai", "", "", "o", "au", "", "", "", "AUM", "", "", "", "", "", "", "", "", "", "",
   "", "", "", "", "", "", "", "", "", " / ", " // ", "0", "1", "2", "3", "4", "5", "6", "7",
   "8", "9", "", "", "", "", "", "", "", "", "", "", "", "", "", "", "", ""]

/-- The letters from U+0E00 on. -/
def thai : List String :=
  ["", "k", "kh", "kh", "kh", "kh", "kh", "ng", "cch", "ch", "ch", "ch", "ch", "y", "d", "t",
   "th", "th", "th", "d", "t", "th", "th", "th", "n", "b", "p", "ph", "f", "ph", "f", "ph", "m",
   "y", "r", "R", "l", "L", "w", "s", "s", "s", "h", "l", "`", "h", "~", "a", "a", "aa", "am",
   "i", "ii", "ue", "uue", "u", "uu", "'", "", "", "", "", "Bh.", "e", "ae", "o", "ai", "ai",
   "ao", "+", "", "", "", "", "", "", "M", "", " * ", "0", "1", "2", "3", "4", "5", "6", "7",
   "8", "9", " // ", " /// "]

/-! ### Japanese -/

/-- The marks from U+3000 on. -/
def cjkMarks : List String :=
  [" ", ", ", ". ", "\"", "[JIS]", "\"", "/", "0", "<", "> ", "<<", ">> ", "[", "] ", "\x7b",
   "\x7d ", "[(", ")] ", "@", "X ", "[", "]", "[[", "]] ", "((", ")) ", "[[", "]] ", "~ ", "``",
   "''", ",,", "@", "1", "2", "3", "4", "5", "6", "7", "8", "9", "", "", "", "", "", "", "~",
   "+", "+", "+", "+", "", "@", " // ", "+10+", "+20+", "+30+", "", "", "", "", "", ""]

/-- The syllables from U+3041 on. -/
def hiragana : List String :=
  ["a", "a", "i", "i", "u", "u", "e", "e", "o", "o", "ka", "ga", "ki", "gi", "ku", "gu", "ke",
   "ge", "ko", "go", "sa", "za", "shi", "ji", "su", "zu", "se", "ze", "so", "zo", "ta", "da",
   "chi", "ji", "tsu", "tsu", "zu", "te", "de", "to", "do", "na", "ni", "nu", "ne", "no", "ha",
   "ba", "pa", "hi", "bi", "pi", "fu", "bu", "pu", "he", "be", "pe", "ho", "bo", "po", "ma",
   "mi", "mu", "me", "mo", "ya", "ya", "yu", "yu", "yo", "yo", "ra", "ri", "ru", "re", "ro",
   "wa", "wa", "wi", "we", "wo", "n", "vu", "ka", "ke", "", "", "", "", "\"", "\"", "\"", "\"",
   ""]

/-- The syllables from U+30A0 on. -/
def katakana : List String :=
  ["=", "a", "a", "i", "i", "u", "u", "e", "e", "o", "o", "ka", "ga", "ki", "gi", "ku", "gu",
   "ke", "ge", "ko", "go", "sa", "za", "shi", "ji", "su", "zu", "se", "ze", "so", "zo", "ta",
   "da", "chi", "ji", "tsu", "tsu", "zu", "te", "de", "to", "do", "na", "ni", "nu", "ne", "no",
   "ha", "ba", "pa", "hi", "bi", "pi", "fu", "bu", "pu", "he", "be", "pe", "ho", "bo", "po",
   "ma", "mi", "mu", "me", "mo", "ya", "ya", "yu", "yu", "yo", "yo", "ra", "ri", "ru", "re",
   "ro", "wa", "wa", "wi", "we", "wo", "n", "vu", "ka", "ke", "va", "vi", "ve", "vo", "*", "-",
   "\"", "\"", ""]

/-- The narrow forms from U+FF61 on. -/
def halfKatakana : List String :=
  [".", "[", "]", ",", "*", "wo", "a", "i", "u", "e", "o", "ya", "yu", "yo", "tsu", "-", "a",
   "i", "u", "e", "o", "ka", "ki", "ku", "ke", "ko", "sa", "shi", "su", "se", "so", "ta", "chi",
   "tsu", "te", "to", "na", "ni", "nu", "ne", "no", "ha", "hi", "fu", "he", "ho", "ma", "mi",
   "mu", "me", "mo", "ya", "yu", "yo", "ra", "ri", "ru", "re", "ro", "wa", "n", ":", ";"]

end FormLetter.Text.Transliteration
