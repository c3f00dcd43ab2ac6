import FormLetter.Decimal.Integer
import FormLetter.Template.Error
import FormLetter.Template.Value.Order
import FormLetter.Text.Search

/-!
Looking into values: attributes by name, items by position or key, and paths that mix both.
-/
namespace FormLetter.Template.Value

/-- The number of characters, items or entries, where it is known. -/
def count? : Value → Option Nat
  | .text s _ => some s.length
  | .list items | .stream items true _ => some items.length
  | .map entries | .view entries _ => some entries.length
  | .named entries => some entries.length
  | .routine r => some (routineEntries r).length
  | .group .. => some 2
  | _ => Option.none

/-- The number of turns of a loop over the value, where it is known before the loop runs; that of
a text is not. -/
def turns? (v : Value) : Option Nat :=
  match v with
  | .text .. => Option.none
  | v => v.count?

/-- What stands under a name. -/
def member? (name : String) : Value → Option Value
  | .map entries | .view entries _ =>
    (entries.find? fun (k, _) => k.text? == some name).map (·.2)
  | .named entries => (entries.find? fun (k, _) => k == name).map (·.2)
  | .group key members =>
    if name == "grouper" then some key
    else if name == "list" then some (ofItems members)
    else Option.none
  | .routine r => ((routineEntries r).find? fun (k, _) => k.text? == some name).map (·.2)
  | _ => Option.none

/-- A position from the front; a negative one counts from the end, where that is known. -/
def position? (key : Value) (count : Option Nat) : Option Nat :=
  match key.whole? with
  | some n =>
    if n < Decimal.minSigned64 ∨ Decimal.maxSigned64 < n then Option.none
    else if 0 ≤ n then some n.toNat
    else count.bind fun c => if n.natAbs ≤ c then some (c - n.natAbs) else Option.none
  | Option.none => Option.none

/-- What stands under a key or at a position. -/
def item? (key : Value) : Value → Option Value
  | .text s safe =>
    (key.position? (count? (.text s safe))).bind fun i =>
      (s.toList[i]?).map fun c => ofString (String.singleton c)
  | .map entries | .view entries _ => (entryAt? entries key).map (·.2)
  | v =>
    match v.sequence?, key.text? with
    | some items, _ =>
      match key.position? v.count? with
      | some i => items[i]?
      | Option.none => key.text?.bind v.member?
    | Option.none, some name => v.member? name
    | Option.none, Option.none => Option.none

/-- The value, unless it stands for what could not be given. -/
def valid : Value → Except Error Value
  | .broken e => .error e
  | v => .ok v

/-- What is not there has no parts; all else has the parts it has. -/
def part (found : Value → Option Value) (v : Value) : Except Error Value :=
  match v with
  | .undefined => .error (.plain .undefinedValue)
  | v => ((found v).getD .undefined).valid

/-- The attribute of a value; one that it does not have is undefined. -/
def property (v : Value) (name : String) : Except Error Value :=
  v.part (member? name)

/-- The item of a value; one that it does not have is undefined. -/
def item (v key : Value) : Except Error Value :=
  v.part (item? key)

/-- One step of a path: a number is a position, all else a name. -/
def step (v : Value) (part : List Char) : Except Error Value :=
  match Decimal.readWithin? 0 Decimal.maxUnsigned64 part with
  | some n => if part.head? == some '-' then v.property (String.ofList part) else v.item (ofInt n)
  | Option.none => v.property (String.ofList part)

/-- What a path of names and positions between points leads to. -/
def path (v : Value) (p : String) : Except Error Value :=
  (Text.splitText ['.'] Option.none p.toList).foldlM step v

/-- What a path leads to, or what stands under a key that is no text. -/
def select (v key : Value) : Except Error Value :=
  match key with
  | .text p _ => v.path p
  | key => v.item key

end FormLetter.Template.Value
