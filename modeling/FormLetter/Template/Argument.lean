import FormLetter.Template.Error
import FormLetter.Template.Value.Display
import FormLetter.Template.Value.Number

/-!
What callees take from their arguments. Each taker reads the arguments that are left from the
front and converts the value it needs; arguments left over at the end are refused.
-/
namespace FormLetter.Template

/-- Refuses an operation. -/
def invalid {α : Type} (detail : String) : Except Error α :=
  .error (.of .invalidOperation detail)

namespace Value

/-- The value cannot stand for a value of that type. -/
def unsuited {α : Type} (v : Value) (type : String) : Except Error α :=
  invalid s!"cannot convert {v.kind.text} to {type}"

/-- Every value has a text, but named arguments are not meant to be shown. -/
def asText : Value → Except Error String
  | .named _ => invalid "cannot convert kwargs to string"
  | v => .ok v.display

/-- A value that is a text. -/
def asString : Value → Except Error String
  | .text s _ => .ok s
  | _ => invalid "value is not a string"

def asBool : Value → Except Error Bool
  | .bool b => .ok b
  | v => v.unsuited "bool"

/-- A whole number within the bounds of a type. -/
def asIntWithin (type : String) (low high : Int) (v : Value) : Except Error Int :=
  match v.whole? with
  | some n => if low ≤ n ∧ n ≤ high then .ok n else v.unsuited type
  | Option.none => v.unsuited type

def asSize (v : Value) : Except Error Nat :=
  (v.asIntWithin "usize" 0 Decimal.maxUnsigned64).map Int.toNat

/-- A bound or step of counting, which may be negative. -/
def asOffset : Value → Except Error Int :=
  asIntWithin "isize" Decimal.minSigned64 Decimal.maxSigned64

def asInt64 : Value → Except Error Int :=
  asIntWithin "i64" Decimal.minSigned64 Decimal.maxSigned64

def asInt32 : Value → Except Error Int :=
  asIntWithin "i32" Decimal.minSigned32 Decimal.maxSigned32

/-- A value that is missing or none counts as not given. -/
def optionally {α : Type} (convert : Value → Except Error α) :
    Value → Except Error (Option α)
  | .undefined | .none => .ok Option.none
  | v => (convert v).map some

/-- What iteration meets, or a refusal. -/
def asItems (v : Value) : Except Error (List Value) :=
  match v.items? with
  | some items => .ok items
  | Option.none => invalid s!"{v.kind.text} is not iterable"

/-- What iteration meets, for callees that turn values into lists. -/
def asList (v : Value) : Except Error (List Value) :=
  match v.items? with
  | some items => .ok items
  | Option.none => invalid "cannot convert value to list"

end Value

/-- What is called with arguments; a filter gets the value it is applied to first. -/
abbrev Callee := List Value → Except Error Value

/-- A reader of arguments. -/
abbrev Take (α : Type) := StateT (List Value) (Except Error) α

namespace Take

variable {α : Type}

/-- The next argument as it is. -/
def value : Take Value := do
  match ← get with
  | v :: rest => set rest; pure v
  | [] => throw (.plain .missingArgument)

/-- The next argument converted. -/
def as (convert : Value → Except Error α) : Take α := do
  convert (← value)

/-- The next argument converted, if there is one that is neither missing nor none. -/
def optional (convert : Value → Except Error α) : Take (Option α) := do
  match ← get with
  | v :: rest => set rest; v.optionally convert
  | [] => pure none

def text : Take String := as Value.asText

def chars : Take (List Char) := String.toList <$> text

/-- All arguments that are left. -/
def rest : Take (List Value) := do
  let vs ← get
  set ([] : List Value)
  pure vs

/-- The named arguments, which stand behind all others; none if there are none. -/
def named : Take (List (String × Value)) := do
  let vs ← get
  match vs.getLast? with
  | some (.named entries) => set vs.dropLast; pure entries
  | _ => pure []

/-- Refuses arguments that are left. Callees ask for this before they look into what they took. -/
def done : Take Unit := do
  match ← get with
  | [] => pure ()
  | _ :: _ => throw (.plain .tooManyArguments)

/-- The last argument converted; arguments behind it are refused before that. -/
def last (convert : Value → Except Error α) : Take α := do
  let v ← value
  done
  convert v

/-- Runs a reader that has to take all arguments. -/
def all (take : Take α) (arguments : List Value) : Except Error α :=
  (do let a ← take; done; pure a : Take α).run' arguments

end Take

namespace Named

variable {α : Type}

/-- The named argument, if it is given. -/
def get? (entries : List (String × Value)) (name : String) : Option Value :=
  (entries.find? (·.1 == name)).map (·.2)

/-- A named argument that has to be given. -/
def required (entries : List (String × Value)) (name : String)
    (convert : Value → Except Error α) : Except Error α :=
  match get? entries name with
  | some v => convert v
  | none => .error (.of .missingArgument s!"missing keyword argument '{name}'")

/-- The named argument converted, if it is given and neither missing nor none. -/
def optional (entries : List (String × Value)) (name : String)
    (convert : Value → Except Error α) : Except Error (Option α) :=
  match get? entries name with
  | some v => v.optionally convert
  | none => .ok none

/-- Refuses names that nothing asks for. -/
def only (entries : List (String × Value)) (known : List String) : Except Error Unit :=
  match entries.find? fun (name, _) => !known.contains name with
  | some (name, _) => .error (.of .tooManyArguments s!"unknown keyword argument '{name}'")
  | none => .ok ()

end Named

end FormLetter.Template
