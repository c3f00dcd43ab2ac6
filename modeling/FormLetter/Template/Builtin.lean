import FormLetter.Template.Filter.Items

/-!
The functions that every template can call. A new namespace only needs its first names here; the
machine gives it a cell.
-/
namespace FormLetter.Template.Builtin

/-- The most numbers a range may have. -/
def rangeLimit : Nat := 100000

/-- So many numbers in equal steps. -/
def numbers (start step : Int) (count : Nat) : List Value :=
  (List.range count).map fun (i : Nat) => .ofInt (start + step * (i : Int))

/-- How many numbers in equal steps lie before a bound; the step is not zero. -/
def stepCount (start stop step : Int) : Nat :=
  if 0 < step then ((stop - start + step - 1) / step).toNat
  else ((start - stop - step - 1) / (-step)).toNat

/-- The whole numbers from one bound up or down to another, which is left out. -/
def callRange : Callee :=
  Take.all do
    let lower ← Take.as Value.asOffset
    let upper ← Take.optional Value.asOffset
    let step := (← Take.optional Value.asOffset).getD 1
    Take.done
    let (start, stop) := match upper with
      | some u => (lower, u)
      | none => (0, lower)
    if step == 0 then throw (.of .invalidOperation "cannot create range with step of 0")
    let count := stepCount start stop step
    if rangeLimit < count then throw (.of .invalidOperation "range has too many elements")
    return .ofItems (numbers start step count)

/-- A map of another one's entries and the named arguments. -/
def callDict : Callee :=
  Take.all do
    let named ← Take.named
    let given ← Take.optional pure
    Take.done
    let entries ← match given with
      | none => pure []
      | some v =>
        match v.entries? with
        | some entries => pure entries
        | none => throw (.plain .invalidOperation)
    return .map (named.foldl (fun found (name, v) =>
      Filter.insertEntry found (.ofString name) v) entries)

/-- The values spread over lines. -/
def callDebug : Callee := fun arguments =>
  .ok <| .ofString <| match arguments with
    | [] => "State"
    | [v] => v.spreadListing 0
    | vs => (Value.list vs).spreadListing 0

/-- The first names of a namespace. -/
def namespaceNames (arguments : List Value) : Except Error (List (String × Value)) :=
  Take.all (do
    let given ← Take.optional pure
    Take.done
    match given with
    | none => return []
    | some v =>
      match v.entries? with
      | some entries => return entries.filterMap fun (k, v) => k.text?.map (·, v)
      | none => throw (.of .invalidOperation
          s!"expected object or keyword arguments, got {v.kind.text}")) arguments

end FormLetter.Template.Builtin
