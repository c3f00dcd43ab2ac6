/-!
Blank characters, and texts without them at either end.
-/
namespace FormLetter.Text

/-- The characters with the white-space property. -/
def isBlank (c : Char) : Bool :=
  let n := c.toNat
  (0x09 ≤ n && n ≤ 0x0D) || n == 0x20 || n == 0x85 || n == 0xA0 || n == 0x1680 ||
    (0x2000 ≤ n && n ≤ 0x200A) || n == 0x2028 || n == 0x2029 || n == 0x202F || n == 0x205F ||
    n == 0x3000

/-- The blanks of ASCII that separate words in markup. -/
def isPlainBlank (c : Char) : Bool :=
  c == ' ' || c == '\t' || c == '\n' || c == '\r' || c == '\x0C'

theorem isBlank_of_isPlainBlank {c : Char} (h : isPlainBlank c = true) : isBlank c = true := by
  simp only [isPlainBlank, Bool.or_eq_true, beq_iff_eq] at h
  rcases h with (((rfl | rfl) | rfl) | rfl) | rfl <;> decide

/-- The text from its first character outside the class on. -/
def trimStartOf (p : Char → Bool) (cs : List Char) : List Char :=
  cs.dropWhile p

/-- The text up to its last character outside the class. -/
def trimEndOf (p : Char → Bool) (cs : List Char) : List Char :=
  (cs.reverse.dropWhile p).reverse

def trimOf (p : Char → Bool) (cs : List Char) : List Char :=
  trimEndOf p (trimStartOf p cs)

/-- The text without blanks at its ends. -/
def trim (cs : List Char) : List Char :=
  trimOf isBlank cs

/-- The maximal stretches without a blank. -/
def words (cs : List Char) : List (List Char) :=
  let close (current : List Char) (found : List (List Char)) :=
    if current.isEmpty then found else current.reverse :: found
  let (current, found) := cs.foldl (fun (current, found) c =>
    if isBlank c then ([], close current found) else (c :: current, found)) ([], [])
  (close current found).reverse

end FormLetter.Text
