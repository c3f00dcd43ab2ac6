/-!
Similarity of two texts by shared characters near the same place, as a double from zero to one.
Characters match when they are equal and no farther apart than half the longer text; matches in a
different order count as transpositions.
-/
namespace FormLetter.Text.Similarity

/-- How far apart two matching characters may stand. -/
def reach (a b : List Char) : Nat :=
  max a.length b.length / 2 - 1

/-- Finds a free equal character in the window and takes it. The list holds the characters of the
second text with their state; `position` is the place of its head. -/
def take? (c : Char) (low high position : Nat) : List (Char × Bool) → Option (List (Char × Bool))
  | [] => none
  | (d, used) :: rest =>
    if low ≤ position && position < high && d == c && !used then some ((d, true) :: rest)
    else (take? c low high (position + 1) rest).map ((d, used) :: ·)

/-- The matched characters of the first text, and the second text with its matches marked. -/
def matchesFrom (span position : Nat) (second : List (Char × Bool)) :
    List Char → List Char × List (Char × Bool)
  | [] => ([], second)
  | c :: rest =>
    match take? c (position - span) (position + span + 1) 0 second with
    | some marked =>
      let (found, final) := matchesFrom span (position + 1) marked rest
      (c :: found, final)
    | none => matchesFrom span (position + 1) second rest

/-- The mean of three shares: of the matches in either text, and of those in the right order. -/
def mean (matched moved first second : Nat) : Float :=
  let m := Float.ofNat matched
  (m / Float.ofNat first + m / Float.ofNat second + Float.ofNat (matched - moved) / m) / 3.0

def similarity (a b : List Char) : Float :=
  if a.isEmpty && b.isEmpty then 1.0
  else
    let (found, marked) := matchesFrom (reach a b) 0 (b.map fun c => (c, false)) a
    let others := (marked.filter (·.2)).map (·.1)
    if found.isEmpty then 0.0
    else
      let moved := ((found.zip others).filter fun (c, d) => c != d).length / 2
      mean found.length moved a.length b.length

/-- The similarity of `a` and `b` exceeds seven tenths. -/
def isClose (a b : List Char) : Bool :=
  similarity a b > 0.7

/-- `a` is at least as similar to the text as `b` is. -/
def atLeast (text a b : List Char) : Bool :=
  similarity text a ≥ similarity text b

/-- The candidate most similar to the text, if one is close; of equals the last. -/
def suggest? (text : List Char) (candidates : List (List Char)) : Option (List Char) :=
  (candidates.filter (isClose text)).foldl (fun best c =>
    match best with
    | some b => if atLeast text c b then some c else best
    | none => some c) none

end FormLetter.Text.Similarity
