import FormLetter.Decimal.Shortest
import FormLetter.Template.Value.Basic
import FormLetter.Text.Quoted

/-!
The texts of values: as output shows them, as listings show what is inside a list or a map, and
spread over lines.
-/
namespace FormLetter.Template.Value

def boolText (b : Bool) : String :=
  if b then "True" else "False"

/-- The text between brackets. -/
def enclose (front close : String) (parts : List String) : String :=
  front ++ String.intercalate ", " parts ++ close

def spaces (n : Nat) : String :=
  String.ofList (List.replicate n ' ')

/-- One line for every part, indented deeper than the brackets. -/
def spread (front close : String) (indent : Nat) (parts : List String) : String :=
  if parts.isEmpty then front ++ close
  else
    front ++ "\n" ++ String.join (parts.map fun p => spaces (indent + 4) ++ p ++ ",\n") ++
      spaces indent ++ close

/-- What output shows for a function. -/
def builtinText (b : Builtin) : String :=
  "minijinja::functions::builtins::" ++ match b with
    | .range => "range"
    | .dict => "dict"
    | .debug => "debug"
    | .newNamespace => "namespace"

/-- The text of what is no list and no map, inside a listing. -/
def atomListing : Value → String
  | .undefined => "undefined"
  | .none => "None"
  | .bool b => boolText b
  | .int n _ => Decimal.ofInt n
  | .float x => String.ofList (Decimal.floatText .listed x)
  | .text s _ => Text.Quoted.ofString s
  | .routine r => "<macro " ++ r.name ++ ">"
  | .builtin b => builtinText b
  | .broken e => "<invalid value: " ++ e.message ++ ">"
  | .stream .. => "<iterator>"
  | _ => ""

mutual

/-- The value as listings show it. -/
def listing : Value → String
  | .list items | .stream items true _ => enclose "[" "]" (listingItems items)
  | .view entries form => form.shown.getD (enclose "\x7b" "\x7d" (listingEntries entries))
  | .map entries => enclose "\x7b" "\x7d" (listingEntries entries)
  | .named entries => enclose "\x7b" "\x7d" (listingNamed entries)
  | .group key members =>
    enclose "[" "]" [listing key, enclose "[" "]" (listingItems members)]
  | v => atomListing v

def listingItems : List Value → List String
  | [] => []
  | v :: rest => listing v :: listingItems rest

def listingEntries : List (Value × Value) → List String
  | [] => []
  | (k, v) :: rest => (listing k ++ ": " ++ listing v) :: listingEntries rest

def listingNamed : List (String × Value) → List String
  | [] => []
  | (k, v) :: rest => (Text.Quoted.ofString k ++ ": " ++ listing v) :: listingNamed rest

end

mutual

/-- The value over several lines, as listings show it. -/
def spreadListing (indent : Nat) : Value → String
  | .list items | .stream items true _ => spread "[" "]" indent (spreadItems (indent + 4) items)
  | .view entries form =>
    form.shown.getD (spread "\x7b" "\x7d" indent (spreadEntries (indent + 4) entries))
  | .map entries => spread "\x7b" "\x7d" indent (spreadEntries (indent + 4) entries)
  | .named entries => spread "\x7b" "\x7d" indent (spreadNamed (indent + 4) entries)
  | .group key members =>
    spread "[" "]" indent [spreadListing (indent + 4) key,
      spread "[" "]" (indent + 4) (spreadItems (indent + 8) members)]
  | v => atomListing v

def spreadItems (indent : Nat) : List Value → List String
  | [] => []
  | v :: rest => spreadListing indent v :: spreadItems indent rest

def spreadEntries (indent : Nat) : List (Value × Value) → List String
  | [] => []
  | (k, v) :: rest =>
    (spreadListing indent k ++ ": " ++ spreadListing indent v) :: spreadEntries indent rest

def spreadNamed (indent : Nat) : List (String × Value) → List String
  | [] => []
  | (k, v) :: rest =>
    (Text.Quoted.ofString k ++ ": " ++ spreadListing indent v) :: spreadNamed indent rest

end

/-- The value as output shows it. -/
def display : Value → String
  | .undefined => ""
  | .text s _ => s
  | .float x => String.ofList (Decimal.floatText .plain x)
  | v => v.listing

/-- A character that marks up text, written so that it does not. -/
def escapeChar (c : Char) : List Char :=
  if c == '<' then "&lt;".toList
  else if c == '>' then "&gt;".toList
  else if c == '&' then "&amp;".toList
  else if c == '"' then "&quot;".toList
  else if c == '\'' then "&#x27;".toList
  else if c == '/' then "&#x2f;".toList
  else [c]

def escapeText (s : String) : String :=
  String.ofList (s.toList.flatMap escapeChar)

/-- The value as output shows it where escaping is on. -/
def displayEscaped (v : Value) : String :=
  match v with
  | .text s true => s
  | .undefined | .none | .bool _ | .int .. | .float _ => v.display
  | v => escapeText v.display

/-- The value as output shows it. -/
def output (escaping : Bool) (v : Value) : String :=
  if escaping then v.displayEscaped else v.display

end FormLetter.Template.Value
