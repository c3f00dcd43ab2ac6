import FormLetter.Template.Value.Display
import FormLetter.Template.Value.Number

/-!
When values are equal, and in which order they are sorted. Numbers compare across their sorts,
lists item by item, and values that have nothing in common by their kinds.
-/
namespace FormLetter.Template.Value

/-- The order of all doubles: negative before positive, and what is no number at the ends. -/
def floatRank (x : Float) : Int :=
  let size := Decimal.sizeBits x
  if Decimal.signBit x then -(size : Int) - 1 else size

def compareChars : List Char → List Char → Ordering
  | [], [] => .eq
  | [], _ => .lt
  | _, [] => .gt
  | a :: as, b :: bs => (compare a.toNat b.toNat).then (compareChars as bs)

def compareTexts (a b : String) : Ordering :=
  compareChars a.toList b.toList

/-- The order of doubles; zeros of both signs are equal. -/
def compareFloats (x y : Float) : Ordering :=
  if x == y then .eq else compare (floatRank x) (floatRank y)

/-- Equality of what is no list and no map. Truth values are equal to the numbers zero and one. -/
def sameAtom (a b : Value) : Bool :=
  match a, b with
  | .undefined, .undefined | .none, .none => true
  | .text s _, .text t _ => s == t
  | .builtin f, .builtin g => f == g
  | a, b =>
    if a.isFloat || b.isFloat then
      match a.float? false, b.float? false with
      | some x, some y => x == y
      | _, _ => false
    else match a.whole?, b.whole? with
      | some m, some n => m == n
      | _, _ => false

/-- The order of what is no list and no map: by kinds first. -/
def compareAtoms (a b : Value) : Ordering :=
  (compare a.kind.rank b.kind.rank).then <|
    match a, b with
    | .text s _, .text t _ => compareTexts s t
    | .float x, .float y => compareFloats x y
    | .float x, .int n _ => (Number.compareMixed n x).swap
    | .int n _, .float x => Number.compareMixed n x
    | .builtin f, .builtin g => compareTexts (builtinText f) (builtinText g)
    | a, b =>
      match a.whole?, b.whole? with
      | some m, some n => compare m n
      | _, _ => .eq

/-- Keys that can be the same key: a truth value stands for no number where a map has several
entries. -/
def alike (a b : Value) : Bool :=
  (a.kind == .bool) == (b.kind == .bool)

/-- The texts of a list of texts are those of a routine's parameters. -/
def sameTexts (ts : List String) (vs : List Value) : Bool :=
  vs.map text? == ts.map some

/-- The entries are those that a routine has. -/
def sameRoutine (r : Routine) (others : List (Value × Value)) : Bool :=
  let found (name : String) : Value :=
    ((others.find? fun (k, _) => k.text? == some name).map (·.2)).getD .undefined
  others.length == 3 && (found "name").text? == some r.name &&
    sameAtom (found "caller") (.bool r.wantsCaller) &&
    (found "arguments").sequence?.any (sameTexts (r.parameters.map (·.name)))

mutual

def same : Value → Value → Bool
  | .list items, b | .stream items .., b =>
    match b.sequence? with
    | some others => sameItems items others
    | Option.none => false
  | .group key members, b =>
    match b.sequence? with
    | some [k, m] => same key k && (match m.sequence? with
        | some others => sameItems members others
        | Option.none => false)
    | _ => false
  | .map entries, b | .view entries _, b =>
    match b.entries? with
    | some others => entries.length == others.length && sameEntries entries others
    | Option.none => false
  | .named entries, b =>
    match b.entries? with
    | some others => entries.length == others.length && sameNamed entries others
    | Option.none => false
  | .routine r, b =>
    match b.entries? with
    | some others => sameRoutine r others
    | Option.none => false
  | a, b => sameAtom a b

def sameItems : List Value → List Value → Bool
  | [], [] => true
  | a :: as, b :: bs => same a b && sameItems as bs
  | _, _ => false

/-- Every entry has its like among the others. -/
def sameEntries : List (Value × Value) → List (Value × Value) → Bool
  | [], _ => true
  | (k, v) :: rest, others =>
    (others.any fun (l, w) => (alike k l || others.length == 1) && same k l && same v w) &&
      sameEntries rest others

def sameNamed : List (String × Value) → List (Value × Value) → Bool
  | [], _ => true
  | (k, v) :: rest, others =>
    (others.any fun (l, w) => l.text? == some k && same v w) && sameNamed rest others

end

/-- Two keys are one key of a map with several entries. -/
def sameKey (a b : Value) : Bool :=
  alike a b && same a b

/-- The entry under a key. A map with a single entry only asks whether the keys are equal. -/
def entryAt? (entries : List (Value × Value)) (key : Value) : Option (Value × Value) :=
  entries.find? fun (k, _) => (alike k key || entries.length == 1) && same k key

/-- The order of lists whose items are neither lists nor maps. -/
def compareAtomLists : List Value → List Value → Ordering
  | [], [] => .eq
  | [], _ => .lt
  | _, [] => .gt
  | a :: as, b :: bs => (compareAtoms a b).then (compareAtomLists as bs)

/-- The order of entries whose values are at most lists of texts. -/
def orderFlat : List (Value × Value) → List (Value × Value) → Ordering
  | [], [] => .eq
  | [], _ => .lt
  | _, [] => .gt
  | (k, v) :: as, (l, w) :: bs =>
    let values := match v, w with
      | .list vs, .list ws => compareAtomLists vs ws
      | v, w => compareAtoms v w
    ((compareAtoms k l).then values).then (orderFlat as bs)

mutual

/-- The order of values: by kinds, then item by item. -/
def order : Value → Value → Ordering
  | .list items, b =>
    match b with
    | .stream .. => .lt
    | b =>
      match b.sequence? with
      | some others => orderItems items others
      | Option.none => compareAtoms (.list []) b
  | .stream items .., b =>
    match b with
    | .stream others .. => orderItems items others
    | b => compareAtoms (ofItems []) b
  | .group key members, b =>
    match b with
    | .stream .. => .lt
    | b =>
      match b.sequence? with
      | some [] => .gt
      | some (k :: more) =>
        (order key k).then (match more with
          | [] => .gt
          | m :: rest => (match m with
              | .stream others .. => orderItems members others
              | m => compareAtoms (ofItems []) m).then
                (if rest.isEmpty then .eq else .lt))
      | Option.none => compareAtoms (.list []) b
  | .map entries, b | .view entries _, b =>
    match b.entries? with
    | some others => orderEntries entries others
    | Option.none => compareAtoms (.map []) b
  | .named entries, b =>
    match b.entries? with
    | some others => orderNamed entries others
    | Option.none => compareAtoms (.map []) b
  | .routine r, b =>
    match b.entries? with
    | some others => orderFlat (routineEntries r) others
    | Option.none => compareAtoms (.map []) b
  | a, b => compareAtoms a b

def orderItems : List Value → List Value → Ordering
  | [], [] => .eq
  | [], _ => .lt
  | _, [] => .gt
  | a :: as, b :: bs => (order a b).then (orderItems as bs)

def orderEntries : List (Value × Value) → List (Value × Value) → Ordering
  | [], [] => .eq
  | [], _ => .lt
  | _, [] => .gt
  | (k, v) :: as, (l, w) :: bs => ((order k l).then (order v w)).then (orderEntries as bs)

def orderNamed : List (String × Value) → List (Value × Value) → Ordering
  | [], [] => .eq
  | [], _ => .lt
  | _, [] => .gt
  | (k, v) :: as, (l, w) :: bs =>
    ((compareAtoms (ofString k) l).then (order v w)).then (orderNamed as bs)

end

/-- The order that sorting uses: texts without regard to ASCII case, unless case counts. -/
def sortOrder (caseCounts : Bool) (a b : Value) : Ordering :=
  match a, b with
  | .text s _, .text t _ =>
    if caseCounts then compareTexts s t
    else compareChars (s.toList.map Char.toLower) (t.toList.map Char.toLower)
  | a, b => order a b

/-- Values in order; equal ones keep their places. -/
def sorted (cmp : Value → Value → Ordering) (vs : List Value) : List Value :=
  vs.mergeSort fun a b => cmp a b != .gt

end FormLetter.Template.Value
