import FormLetter.Template.Printf
import FormLetter.Text.Identifier
import FormLetter.Text.Layout
import FormLetter.Text.Search
import FormLetter.Text.Slug
import FormLetter.Text.Transliteration

/-!
Filters on texts. Those that lay out, spell or cut a text take any value and work on the text that
output shows for it.
-/
namespace FormLetter.Template.Filter

/-- The next argument as a text, and whether it is safe. -/
def kept : Take (List Char × Bool) := do
  let v ← Take.value
  return ((← v.asText).toList, v.isSafe)

/-- A text that is safe where what it was made from is. -/
def textOf (safe : Bool) (cs : List Char) : Value :=
  .text (String.ofList cs) safe

/-- The filter that exchanges a text for another, which is as safe. -/
def ofText (f : List Char → List Char) : Callee :=
  Take.all do
    let (cs, safe) ← kept
    return textOf safe (f cs)

/-- The characters that output shows for a value. -/
def shown : Take (List Char) := do
  return (← Take.value).display.toList

/-- The filter that exchanges the text of a value for another. -/
def ofShown (f : List Char → List Char) : Callee :=
  Take.all do return .ofChars (f (← shown))

/-- The filter that lays the text of a value out in a number of columns. -/
def ofWidth (f : List Char → Nat → List Char) : Callee :=
  Take.all do
    let cs ← shown
    return .ofChars (f cs (← Take.as Value.asSize))

def truncateAt : Callee :=
  Take.all do
    let cs ← shown
    let width ← Take.as Value.asSize
    let place ← Take.optional Value.asText
    let ellipsis := (((← Take.optional Value.asText).getD "…")).toList
    return .ofChars <| match place with
      | some "start" => Text.truncateStart cs width ellipsis
      | some "middle" => Text.truncateMiddle cs width ellipsis
      | _ => Text.truncateEnd cs width ellipsis

/-- The most bytes that repetition gives. -/
def repeatLimit : Nat := 64 * 1024 * 1024

/-- The text so often in a row, or a refusal when it becomes too long. -/
def repeatText (s : String) (count : Nat) : Except Error String :=
  if s.utf8ByteSize * count ≤ repeatLimit then .ok (Text.copies s count)
  else invalid s!"repeat count {Decimal.ofNat count} is too large"

def repeated : Callee :=
  Take.all do
    let v ← Take.value
    let count ← Take.as Value.asSize
    Take.done
    return .ofString (← repeatText v.display count)

/-- The characters between two offsets; a negative one counts from the end. -/
def substr : Callee :=
  Take.all do
    let cs ← shown
    let start ← Take.as Value.asInt64
    let stop ← Take.optional Value.asInt64
    return .ofChars (Text.excerpt cs start stop)

/-- The filter that looks for a text in the text of a value. -/
def ofSearch (found : List Char → List Char → Bool) : Callee :=
  Take.all do
    let cs ← shown
    return .bool (found (← Take.chars) cs)

def trim : Callee :=
  Take.all do
    let (cs, safe) ← kept
    return textOf safe <| match ← Take.optional Value.asText with
      | some set => Text.trimOf set.toList.contains cs
      | none => Text.trim cs

def replace : Callee :=
  Take.all do
    let (cs, safe) ← kept
    let needle ← Take.chars
    return textOf safe (Text.replaceText needle (← Take.chars) cs)

/-- The words of a text; after so many cuts what is left is one part. -/
def wordsUpTo : Nat → List Char → List (List Char)
  | 0, cs =>
    let cs := cs.dropWhile Text.isBlank
    if cs.isEmpty then [] else [cs]
  | cuts + 1, cs =>
    let cs := cs.dropWhile Text.isBlank
    if cs.isEmpty then []
    else cs.takeWhile (!Text.isBlank ·) :: wordsUpTo cuts (cs.dropWhile (!Text.isBlank ·))

/-- The next argument, which has to be a text, and whether it is safe. -/
def keptString : Take (List Char × Bool) := do
  let v ← Take.value
  return ((← v.asString).toList, v.isSafe)

/-- The parts of a text between separators, or its words. -/
def split : Callee :=
  Take.all do
    let (cs, safe) ← keptString
    let separator ← Take.optional Value.asString
    let most := ((← Take.optional Value.asInt64).filter (0 ≤ ·)).map Int.toNat
    let parts := match separator, most with
      | some s, most => Text.splitText s.toList most cs
      | none, none => Text.words cs
      | none, some cuts => wordsUpTo cuts cs
    return .list (parts.map (textOf safe))

/-- The lines of a text without their ends; `line` is the open line in reverse. -/
def linesFrom (line : List Char) : List Char → List (List Char)
  | [] => if line.isEmpty then [] else [line.reverse]
  | '\n' :: rest =>
    (if line.head? = some '\r' then line.tail else line).reverse :: linesFrom [] rest
  | c :: rest => linesFrom (c :: line) rest

def lines : Callee :=
  Take.all do
    let (cs, safe) ← keptString
    return .list ((linesFrom [] cs).map (textOf safe))

def withoutLineEnd (cs : List Char) : List Char :=
  let cs := if cs.getLast? = some '\n' then cs.dropLast else cs
  if cs.getLast? = some '\r' then cs.dropLast else cs

/-- An argument that has been given in its place, or else by its name; and the name, if it was
looked for. -/
def placedOrNamed {α : Type} (placed : Option α) (named : List (String × Value)) (name : String)
    (convert : Value → Except Error α) : Except Error (Option α × List String) :=
  match placed with
  | some a => .ok (some a, [])
  | none => do return (← Named.optional named name convert, [name])

/-- The spaces that lines get when no number is given. -/
def usualIndent : Nat := 4

/-- Spaces in front of the lines; the first line and blank ones get them on request. -/
def indent : Callee :=
  Take.all do
    let named ← Take.named
    let (cs, safe) ← kept
    let width ← Take.optional Value.asSize
    let first ← Take.optional Value.asBool
    let blank ← Take.optional Value.asBool
    Take.done
    let (width, byWidth) ← placedOrNamed width named "width" Value.asSize
    let (first, byFirst) ← placedOrNamed first named "first" Value.asBool
    let (blank, byBlank) ← placedOrNamed blank named "blank" Value.asBool
    Named.only named (byWidth ++ byFirst ++ byBlank)
    let fill := Text.spaces (width.getD usualIndent)
    let deeper (p : List Char) : List Char :=
      if p.isEmpty then (if blank.getD false then fill else []) else fill ++ p
    let parts := Text.splitText ['\n'] none (withoutLineEnd cs)
    let parts := match first.getD false, parts with
      | false, p :: rest => p :: rest.map deeper
      | _, parts => parts.map deeper
    return textOf safe (withoutLineEnd (parts.flatMap (· ++ ['\n'])))

/-- The value as a text; a text stays as safe as it is. -/
def string : Callee :=
  Take.all do
    match ← Take.value with
    | .text s safe => return .text s safe
    | v => return .ofString v.display

def safe : Callee :=
  Take.all do return .text (← Take.text) true

/-- The text with everything escaped that marks up text, once. -/
def escape : Callee :=
  Take.all do
    let v ← Take.value
    return .text v.displayEscaped true

/-- A pattern with values in place of its placeholders; a safe pattern escapes them. -/
def format : Callee :=
  Take.all do
    let named ← Take.named
    let (pattern, safe) ← kept
    return textOf safe (← Printf.format safe pattern (← Take.rest) named)

def pprint : Callee :=
  Take.all do return .ofString ((← Take.value).spreadListing 0)

/-- The filters on texts. -/
def onText : List (String × Callee) :=
  [("upper", ofText Text.upperCase), ("lower", ofText Text.lowerCase),
   ("title", ofText Text.title), ("capitalize", ofText Text.capitalize), ("trim", trim),
   ("replace", replace), ("split", split), ("lines", lines), ("indent", indent),
   ("string", string), ("safe", safe), ("escape", escape), ("e", escape), ("format", format),
   ("pprint", pprint), ("nl", ofShown (· ++ ['\n'])), ("pad_left", ofWidth Text.padLeft),
   ("pad_right", ofWidth Text.padRight), ("pad_center", ofWidth Text.padCenter),
   ("truncate_at", truncateAt), ("snakecase", ofShown Text.Identifier.snake),
   ("kebabcase", ofShown Text.Identifier.kebab), ("camelcase", ofShown Text.Identifier.camel),
   ("pascalcase", ofShown Text.Identifier.pascal), ("ascii", ofShown Text.Transliteration.ascii),
   ("slugify", ofShown Text.Slug.slug), ("repeat", repeated), ("substr", substr),
   ("has_prefix", ofSearch List.isPrefixOf), ("has_suffix", ofSearch List.isSuffixOf),
   ("contains", ofSearch Text.occursIn)]

end FormLetter.Template.Filter
