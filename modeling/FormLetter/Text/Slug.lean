import FormLetter.Text.Transliteration

/-!
Slugs: small ASCII letters, digits and single hyphens, never a hyphen at either end.
-/
namespace FormLetter.Text.Slug

/-- The characters that a slug keeps. -/
def isKept (c : Char) : Bool :=
  c.isAlphanum

/-- Kept characters in lower case; every stretch of others becomes one hyphen if a kept character
stands before it. -/
def joinFrom (afterHyphen : Bool) : List Char → List Char
  | [] => []
  | c :: rest =>
    if isKept c then c.toLower :: joinFrom false rest
    else if afterHyphen then joinFrom true rest
    else '-' :: joinFrom true rest

/-- Drops one hyphen at the end. -/
def dropHyphen (cs : List Char) : List Char :=
  if cs.getLast? == some '-' then cs.dropLast else cs

/-- The slug of a text under a table of spellings; a character without a spelling separates. -/
def slugWith (spelling? : Char → Option (List Char)) (cs : List Char) : List Char :=
  dropHyphen (joinFrom true (cs.flatMap fun c =>
    if c.toNat < 0x80 then [c] else (spelling? c).getD ['-']))

def slug (cs : List Char) : List Char :=
  slugWith Transliteration.spelling? cs

end FormLetter.Text.Slug
