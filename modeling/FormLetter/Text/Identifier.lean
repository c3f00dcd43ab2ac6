import FormLetter.Text.LetterCase
import FormLetter.Text.Property.Extending

/-!
Identifiers in the usual spellings. A text is cut into words at underscores, hyphens, spaces and
changes between lower case, upper case and digits, and the words are joined in the spelling.
-/
namespace FormLetter.Text.Identifier

/-- Two neighbours belong together: a mark to what it stands behind, and a sign to what it stands in
front of. -/
def belong (c d : Char) : Bool :=
  isExtending d || isSpacingMark d || d == '\u200D' || (isPrepended c && !isControl d)

/-- Characters with the marks and signs that belong to them. -/
def clusters : List Char → List (List Char)
  | [] => []
  | c :: rest =>
    match rest, clusters rest with
    | d :: _, next :: more =>
      if belong c d then (c :: next) :: more else [c] :: next :: more
    | _, found => [c] :: found

/-- The kinds of character that word boundaries look at. -/
inductive Kind where
  | upper
  | lower
  | digit
  | delimiter
  | other
  deriving DecidableEq

def kind (cluster : List Char) : Kind :=
  let up := upperCase cluster
  let low := lowerCase cluster
  if cluster == [' '] || cluster == ['-'] || cluster == ['_'] then .delimiter
  else if cluster.all Char.isDigit then .digit
  else if up != low && cluster == up then .upper
  else if up != low && cluster == low then .lower
  else .other

/-- A word starts between two neighbours of these kinds. -/
def startsBetween : Kind → Kind → Bool
  | .lower, .upper => true
  | .upper, .digit => true
  | .digit, .upper => true
  | .digit, .lower => true
  | .lower, .digit => true
  | _, _ => false

/-- The second of two capitals starts a word if a small letter follows. -/
def endsAcronym : Kind → Kind → Option Kind → Bool
  | .upper, .upper, some .lower => true
  | _, _, _ => false

/-- The words of a cluster list; `current` is the open word in reverse, `last` the kind before. -/
def wordsFrom (last : Option Kind) (current : List Char) : List (List Char) → List (List Char)
  | [] => [current.reverse]
  | c :: rest =>
    let k := kind c
    if k = .delimiter then current.reverse :: wordsFrom (some k) [] rest
    else
      let splits := match last with
        | some l => startsBetween l k || endsAcronym l k ((rest.head?).map kind)
        | none => false
      if splits then current.reverse :: wordsFrom (some k) c.reverse rest
      else wordsFrom (some k) (c.reverse ++ current) rest

def words (cs : List Char) : List (List Char) :=
  (wordsFrom none [] (clusters cs)).filter (!·.isEmpty)

def snake (cs : List Char) : List Char :=
  ['_'].intercalate ((words cs).map lowerCase)

def kebab (cs : List Char) : List Char :=
  ['-'].intercalate ((words cs).map lowerCase)

def pascal (cs : List Char) : List Char :=
  (words cs).flatMap capitalize

def camel (cs : List Char) : List Char :=
  match words cs with
  | [] => []
  | first :: rest => lowerCase first ++ rest.flatMap capitalize

end FormLetter.Text.Identifier
