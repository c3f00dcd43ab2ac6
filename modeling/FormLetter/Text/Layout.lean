import FormLetter.Text.Width

/-!
Padding to a display width and shortening to one. A shortened text carries an ellipsis where the
rest was cut.
-/
namespace FormLetter.Text

def spaces (n : Nat) : List Char :=
  List.replicate n ' '

/-- Spaces on the left up to the width. -/
def padLeft (cs : List Char) (width : Nat) : List Char :=
  spaces (width - displayWidth cs) ++ cs

/-- Spaces on the right up to the width. -/
def padRight (cs : List Char) (width : Nat) : List Char :=
  cs ++ spaces (width - displayWidth cs)

/-- Spaces on both sides up to the width; an odd one goes right. -/
def padCenter (cs : List Char) (width : Nat) : List Char :=
  let pad := width - displayWidth cs
  spaces (pad / 2) ++ cs ++ spaces (pad - pad / 2)

/-- The longest start whose characters, each measured alone, fit the budget. -/
def takeWidth (budget : Nat) : List Char → List Char
  | [] => []
  | c :: rest =>
    if charWidth c ≤ budget then c :: takeWidth (budget - charWidth c) rest else []

/-- The longest end whose characters fit the budget. -/
def takeWidthEnd (budget : Nat) (cs : List Char) : List Char :=
  (takeWidth budget cs.reverse).reverse

/-- Keeps the start of a text that is too wide. -/
def truncateEnd (cs : List Char) (width : Nat) (ellipsis : List Char) : List Char :=
  if displayWidth cs ≤ width then cs
  else takeWidth (width - displayWidth ellipsis) cs ++ ellipsis

/-- Keeps the end of a text that is too wide. -/
def truncateStart (cs : List Char) (width : Nat) (ellipsis : List Char) : List Char :=
  if displayWidth cs ≤ width then cs
  else ellipsis ++ takeWidthEnd (width - displayWidth ellipsis) cs

/-- Keeps both ends of a text that is too wide; an odd column goes to the start. -/
def truncateMiddle (cs : List Char) (width : Nat) (ellipsis : List Char) : List Char :=
  if displayWidth cs ≤ width then cs
  else
    let budget := width - displayWidth ellipsis
    takeWidth (budget - budget / 2) cs ++ ellipsis ++ takeWidthEnd (budget / 2) cs

end FormLetter.Text
