/-!
ASCII spellings of punctuation, letter-like signs, numerals and presentation forms.
-/
namespace FormLetter.Text.Transliteration

/-- The marks from U+2000 on, with small figures and currencies. -/
def punctuation : List String :=
  [" ", " ", " ", " ", " ", " ", " ", " ", " ", " ", " ", " ", "", "", "", "", "-", "-", "-",
   "-", "--", "--", "||", "_", "'", "'", ",", "'", "\"", "\"", ",,", "\"", "+", "++", "*", "*>",
   ".", "..", "...", ".", "\n", "\n\n", "", "", "", "", "", " ", "%0", "%00", "'", "''", "'''",
   "`", "``", "```", "^", "<", ">", "*", "!!", "!?", "-", "_", "-", "^", "***", "--", "/", "-[",
   "]-", "??", "?!", "!?", "7", "PP", "(]", "[)", "*", "", "", "", "", "", "", "", "", "", "",
   "", "", "", "", "", "", " ", "", "", "", "", "", "", "", "", "", "", "", "", "", "", "", "",
   "0", "i", "", "", "4", "5", "6", "7", "8", "9", "+", "-", "=", "(", ")", "n", "0", "1", "2",
   "3", "4", "5", "6", "7", "8", "9", "+", "-", "=", "(", ")", "", "a", "e", "o", "x", "@", "h",
   "k", "l", "m", "n", "p", "s", "t", "", "", "", "CE", "C/", "Cr", "Fr.", "L.", "mil", "N",
   "Pts", "Rs", "W", "NS", "D", "EUR", "K", "T", "Dr", "Pf", "P", "G", "A", "UAH", "C|", "L",
   "Sm", "T", "Rs", "L", "M", "m", "R", "l", "BTC"]

/-- Letter-like signs, fractions, Roman numerals and arrows. -/
def letterlike : List (Nat × String) :=
  [(0x2100, "a/c"), (0x2101, "a/s"), (0x2102, "C"), (0x2103, "degC"), (0x2105, "c/o"),
   (0x2106, "c/u"), (0x2109, "degF"), (0x210A, "g"), (0x210B, "H"), (0x210C, "H"), (0x210D, "H"),
   (0x210E, "h"), (0x210F, "h"), (0x2110, "I"), (0x2111, "I"), (0x2112, "L"), (0x2113, "l"),
   (0x2115, "N"), (0x2116, "No"), (0x2117, "(p)"), (0x2118, "P"), (0x2119, "P"), (0x211A, "Q"),
   (0x211B, "R"), (0x211C, "R"), (0x211D, "R"), (0x211E, "Rx"), (0x2120, "(sm)"),
   (0x2121, "TEL"), (0x2122, "(tm)"), (0x2124, "Z"), (0x2126, "ohm"), (0x2128, "Z"),
   (0x212A, "K"), (0x212B, "A"), (0x212C, "B"), (0x212D, "C"), (0x212E, "e"), (0x212F, "e"),
   (0x2130, "E"), (0x2131, "F"), (0x2133, "M"), (0x2134, "o"), (0x2139, "i"), (0x2150, " 1/7 "),
   (0x2151, " 1/9 "), (0x2152, " 1/10 "), (0x2153, " 1/3 "), (0x2154, " 2/3 "),
   (0x2155, " 1/5 "), (0x2156, " 2/5 "), (0x2157, " 3/5 "), (0x2158, " 4/5 "), (0x2159, " 1/6 "),
   (0x215A, " 5/6 "), (0x215B, " 1/8 "), (0x215C, " 3/8 "), (0x215D, " 5/8 "), (0x215E, " 7/8 "),
   (0x215F, " 1/"), (0x2160, "I"), (0x2161, "II"), (0x2162, "III"), (0x2163, "IV"),
   (0x2164, "V"), (0x2165, "VI"), (0x2166, "VII"), (0x2167, "VIII"), (0x2168, "IX"),
   (0x2169, "X"), (0x216A, "XI"), (0x216B, "XII"), (0x216C, "L"), (0x216D, "C"), (0x216E, "D"),
   (0x216F, "M"), (0x2170, "i"), (0x2171, "ii"), (0x2172, "iii"), (0x2173, "iv"), (0x2174, "v"),
   (0x2175, "vi"), (0x2176, "vii"), (0x2177, "viii"), (0x2178, "ix"), (0x2179, "x"),
   (0x217A, "xi"), (0x217B, "xii"), (0x217C, "l"), (0x217D, "c"), (0x217E, "d"), (0x217F, "m"),
   (0x2190, "<-"), (0x2191, "^"), (0x2192, "->"), (0x2193, "v"), (0x2194, "<->"), (0x21D0, "<="),
   (0x21D2, "=>"), (0x21D4, "<=>")]

/-- Mathematical operators. -/
def mathematical : List (Nat × String) :=
  [(0x2200, "for all"), (0x2202, "d"), (0x2205, "O"), (0x2206, "D"), (0x220F, "prod"),
   (0x2211, "sum"), (0x2212, "-"), (0x2213, "-+"), (0x2215, "/"), (0x2216, "\\"), (0x2217, "*"),
   (0x2218, "*"), (0x2219, "*"), (0x221A, "sqrt"), (0x221E, "inf"), (0x2223, "|"),
   (0x2225, "||"), (0x2227, "and"), (0x2228, "or"), (0x222B, "S"), (0x2236, ":"), (0x223C, "~"),
   (0x2248, "~"), (0x2260, "!="), (0x2261, "=="), (0x2264, "<="), (0x2265, ">=")]

/-- The circled and bracketed figures and letters from U+2460 on. -/
def enclosed : List String :=
  ["1", "2", "3", "4", "5", "6", "7", "8", "9", "10", "11", "12", "13", "14", "15", "16", "17",
   "18", "19", "20", "(1)", "(2)", "(3)", "(4)", "(5)", "(6)", "(7)", "(8)", "(9)", "(10)",
   "(11)", "(12)", "(13)", "(14)", "(15)", "(16)", "(17)", "(18)", "(19)", "(20)", "1.", "2.",
   "3.", "4.", "5.", "6.", "7.", "8.", "9.", "10.", "11.", "12.", "13.", "14.", "15.", "16.",
   "17.", "18.", "19.", "20.", "(a)", "(b)", "(c)", "(d)", "(e)", "(f)", "(g)", "(h)", "(i)",
   "(j)", "(k)", "(l)", "(m)", "(n)", "(o)", "(p)", "(q)", "(r)", "(s)", "(t)", "(u)", "(v)",
   "(w)", "(x)", "(y)", "(z)", "A", "B", "C", "D", "E", "F", "G", "H", "I", "J", "K", "L", "M",
   "N", "O", "P", "Q", "R", "S", "T", "U", "V", "W", "X", "Y", "Z", "a", "b", "c", "d", "e", "f",
   "g", "h", "i", "j", "k", "l", "m", "n", "o", "p", "q", "r", "s", "t", "u", "v", "w", "x", "y",
   "z", "0"]

/-- The box lines from U+2500 on. -/
def boxes : List String :=
  ["-", "-", "|", "|", "-", "-", "|", "|", "-", "-", "|", "|", "+", "+", "+", "+", "+", "+", "+",
   "+", "+", "+", "+", "+", "+", "+", "+", "+", "+", "+", "+", "+", "+", "+", "+", "+", "+", "+",
   "+", "+", "+", "+", "+", "+", "+", "+", "+", "-", "-", "+", "+", "+", "+", "+", "+", "-", "-",
   "+", "+", "+", "+", "+", "+", "+", "-", "-", "+", "+", "+", "+", "+", "-", "-", "+", "+", "+",
   "-", "-", "|", "|", "-", "|", "+", "+", "+", "+", "+", "+", "+", "+", "+", "+", "+", "+", "+",
   "+", "+", "+", "+", "+", "+", "+", "+", "+", "+", "+", "+", "+", "+", "+", "+", "+", "+", "+",
   "+", "+", "+", "+", "+", "+", "+", "+", "+", "+", "+", "+", "+", "+"]

/-- The joined letters from U+FB00 on. -/
def ligatures : List String :=
  ["ff", "fi", "fl", "ffi", "ffl", "st", "st"]

end FormLetter.Text.Transliteration
