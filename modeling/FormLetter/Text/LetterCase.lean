import FormLetter.Text.Property.Cased
import FormLetter.Text.Property.CaseMap
import FormLetter.Text.Blank

/-!
Upper and lower case of whole texts, and titles.
-/
namespace FormLetter.Text

/-- Every character in upper case; one character may become several. -/
def upperCase (cs : List Char) : List Char :=
  cs.flatMap upperOf

/-- The next character that case rules do not look through has case. -/
def casedNext (cs : List Char) : Bool :=
  match cs.find? fun c => !isCaseIgnorable c with
  | some c => isCased c
  | none => false

/-- A capital sigma that ends a word becomes the final form of the letter. -/
def lowerIn (before : List Char) (c : Char) (after : List Char) : List Char :=
  if c == 'Σ' then
    if casedNext before && !casedNext after then ['ς'] else ['σ']
  else lowerOf c

/-- Lower case of the rest of a text, given what stands before it in reverse. -/
def lowerCaseFrom (before : List Char) : List Char → List Char
  | [] => []
  | c :: rest => lowerIn before c rest ++ lowerCaseFrom (c :: before) rest

def lowerCase (cs : List Char) : List Char :=
  lowerCaseFrom [] cs

/-- The first character in upper case, the rest in lower case. -/
def capitalize : List Char → List Char
  | [] => []
  | c :: rest => upperOf c ++ lowerCase rest

/-- The ASCII marks that are neither letters, digits, blanks nor controls. -/
def isPunctuation (c : Char) : Bool :=
  0x21 ≤ c.toNat && c.toNat ≤ 0x7E && !c.isAlphanum

/-- Capitals at the start and after every blank or mark, lower case elsewhere. -/
def titleFrom (capital : Bool) : List Char → List Char
  | [] => []
  | c :: rest =>
    if isPunctuation c || isBlank c then c :: titleFrom true rest
    else (if capital then upperOf c else lowerOf c) ++ titleFrom false rest

def title (cs : List Char) : List Char :=
  titleFrom true cs

end FormLetter.Text
