import FormLetter.Template.Operator
import FormLetter.Template.Value.Access
import FormLetter.Text.LetterCase

/-!
Filters on lists and maps. Whatever can be iterated over counts as a list; missing values and none
count as empty.
-/
namespace FormLetter.Template.Filter

/-- Puts an entry under its key, in place of one that is there already. -/
def insertEntry (entries : List (Value × Value)) (key v : Value) : List (Value × Value) :=
  match entries with
  | [] => [(key, v)]
  | (k, w) :: rest =>
    if k.sameKey key then (k, v) :: rest else (k, w) :: insertEntry rest key v

/-- The first character or item; an empty value has none. -/
def first : Callee :=
  Take.all do
    let v ← Take.value
    Take.done
    match v with
    | .text s _ =>
      return match s.toList with
        | [] => .undefined
        | c :: _ => .ofChars [c]
    | v =>
      match v.objectItems? with
      | some items => return items.headD .undefined
      | none => throw (.of .invalidOperation "cannot get first item from value")

/-- The last character or item. -/
def last : Callee :=
  Take.all do
    let v ← Take.value
    Take.done
    match v with
    | .text s _ =>
      return match s.toList.getLast? with
        | none => .undefined
        | some c => .ofChars [c]
    | v =>
      match v.sequence? with
      | some items => return items.getLastD .undefined
      | none => throw (.of .invalidOperation "cannot get last item from value")

/-- The items from the last to the first; maps keep their keys in their order, unless they are
made up when they are looked at. -/
def reverse : Callee :=
  Take.all do
    let v ← Take.value
    Take.done
    match v with
    | .undefined => return .undefined
    | .none => return .none
    | .text s safe => return .text (String.ofList s.toList.reverse) safe
    | .map entries | .view entries ⟨_, false, _⟩ => return .ofItems (entries.map (·.1))
    | .named entries => return .ofItems (entries.map fun (name, _) => .ofString name)
    | v =>
      match v.objectItems? with
      | some items => return .ofItems items.reverse
      | none => throw (.of .invalidOperation s!"cannot reverse values of type {v.kind.text}")

def list : Callee :=
  Take.all do return .list (← Take.last Value.asList)

/-- The pairs of keys and values of a map; a refusal says what they were wanted as. -/
def pairs (wanted : String) (v : Value) : Except Error (List (Value × Value)) :=
  match v.entries? with
  | some entries => .ok entries
  | none => invalid s!"cannot convert value into {wanted}"

def pairList (entries : List (Value × Value)) : List Value :=
  entries.map fun (k, v) => .list [k, v]

def items : Callee :=
  Take.all do return .ofItems (pairList (← Take.last (pairs "pairs")))

/-- A named argument that switches something on. -/
def switch (named : List (String × Value)) (name : String) : Except Error Bool :=
  (Named.optional named name Value.asBool).map (·.getD false)

/-- The order from behind; what is equal stays equal, and so keeps its place. -/
def directed {α : Type} (backward : Bool) (cmp : α → α → Ordering) (a b : α) : Ordering :=
  if backward then (cmp a b).swap else cmp a b

def dictsort : Callee :=
  Take.all do
    let named ← Take.named
    let entries ← Take.last (pairs "pair list")
    let byValue := (← Named.optional named "by" Value.asString) == some "value"
    let caseCounts ← switch named "case_sensitive"
    let backward ← switch named "reverse"
    Named.only named ["by", "case_sensitive", "reverse"]
    let key (e : Value × Value) : Value := if byValue then e.2 else e.1
    let cmp := directed backward fun a b => Value.sortOrder caseCounts (key a) (key b)
    return .list (pairList (entries.mergeSort fun a b => cmp a b != .gt))

/-- The texts of items with a joiner between them. Where escaping is on, one safe part makes the
whole safe, and escapes all others. -/
def joinItems (escaping : Bool) (joiner : Value) (items : List Value) : Value :=
  let safe := escaping && (joiner.isSafe || items.any Value.isSafe)
  .text (String.intercalate (joiner.output safe) (items.map (Value.output safe))) safe

def join (escaping : Bool) : Callee :=
  Take.all do
    let v ← Take.value
    let joiner ← Take.optional fun j =>
      match j with
      | .text .. => .ok j
      | j => j.asText.map Value.ofString
    Take.done
    match v.items? with
    | some items => return joinItems escaping (joiner.getD (.ofString "")) items
    | none => throw (.of .invalidOperation s!"cannot join value of type {v.kind.text}")

/-- Another value in place of what is missing, or of all that is not true. -/
def default : Callee :=
  Take.all do
    let v ← Take.value
    let other := (← Take.optional pure).getD (.ofString "")
    let lax := (← Take.optional pure).any Value.isTrue
    return if v.isUndefined || (lax && !v.isTrue) then other else v

def attr : Callee :=
  Take.all do
    let v ← Take.value
    Take.last v.item

/-- The first of the items that no other one is in front of in an order. -/
def foremost (isBefore : Value → Value → Bool) : List Value → Value
  | [] => .undefined
  | v :: rest => rest.foldl (fun found w => if isBefore w found then w else found) v

def min : Callee :=
  Take.all do
    return foremost (fun a b => a.order b == .lt) (← Take.last Value.asList)

def max : Callee :=
  Take.all do
    return foremost (fun a b => a.order b != .lt) (← Take.last Value.asList)

/-- What a path leads to, or a stand-in for what is missing. -/
def pathOr (other : Value) (p : String) (v : Value) : Value :=
  match v.path p with
  | .ok .undefined | .error _ => other
  | .ok found => found

/-- The order of what a path leads to; items that it leads nowhere from are equal to all. -/
def pathOrder (caseCounts : Bool) (p : String) (a b : Value) : Ordering :=
  match a.path p, b.path p with
  | .ok x, .ok y => Value.sortOrder caseCounts x y
  | _, _ => .eq

/-- The order by several paths, each of which counts where all before it are equal. -/
def pathsOrder (caseCounts : Bool) (ps : List String) (a b : Value) : Ordering :=
  ps.foldl (fun found p => found.then (pathOrder caseCounts p a b)) .eq

/-- The order by an attribute: a key, or paths between commas. -/
def attributeOrder (caseCounts : Bool) (key : Value) : Value → Value → Ordering :=
  match key with
  | .text p _ =>
    pathsOrder caseCounts ((Text.splitText [','] none p.toList).map String.ofList)
  | key => fun a b =>
    match a.item key, b.item key with
    | .ok x, .ok y => Value.sortOrder caseCounts x y
    | _, _ => .eq

def sort : Callee :=
  Take.all do
    let named ← Take.named
    let items ← Take.last Value.asList
    let caseCounts ← switch named "case_sensitive"
    let backward ← switch named "reverse"
    let key ← Named.optional named "attribute" pure
    Named.only named ["case_sensitive", "attribute", "reverse"]
    let cmp := match key with
      | some key => attributeOrder caseCounts key
      | none => Value.sortOrder caseCounts
    return .list (Value.sorted (directed backward cmp) items)

/-- Neighbours with one key are reduced to the first of them. -/
def firstOfEach : List (Value × Value × Nat) → List (Value × Value × Nat)
  | [] => []
  | [a] => [a]
  | a :: b :: rest =>
    if a.1.order b.1 == .eq then firstOfEach (a :: rest) else a :: firstOfEach (b :: rest)

/-- Items without those whose key came before. Sorted by their keys, items with one key are
neighbours, the first of them in front. -/
def uniqueBy (key : Value → Value) (items : List Value) : List Value :=
  let keyed := items.zipIdx.map fun (v, i) => (key v, v, i)
  let firsts := firstOfEach (keyed.mergeSort fun a b => a.1.order b.1 != .gt)
  (firsts.mergeSort fun a b => a.2.2 ≤ b.2.2).map (·.2.1)

def unique : Callee :=
  Take.all do
    let named ← Take.named
    let v ← Take.value
    Take.done
    let path ← Named.optional named "attribute" Value.asString
    let caseCounts ← switch named "case_sensitive"
    Named.only named ["attribute", "case_sensitive"]
    let key (v : Value) : Value :=
      let found := match path with
        | some p => pathOr .undefined p v
        | none => v
      match found, caseCounts with
      | .text s _, false => .ofChars (Text.lowerCase s.toList)
      | found, _ => found
    return .list (uniqueBy key (← v.asItems))

/-- Lists of so many items; a filler completes the last one. -/
def batches (size : Nat) (filler : Option Value) (items : List Value) : List Value :=
  match items with
  | [] => []
  | v :: rest =>
    let chunk := v :: rest.take (size - 1)
    let fill := match filler with
      | some f => List.replicate (size - chunk.length) f
      | none => []
    .list (chunk ++ fill) :: batches size filler (rest.drop (size - 1))
termination_by items.length
decreasing_by simp only [List.length_cons, List.length_drop]; omega

def batch : Callee :=
  Take.all do
    let v ← Take.value
    let size ← Take.as Value.asSize
    let filler ← Take.optional pure
    Take.done
    if size == 0 then throw (.of .invalidOperation "count cannot be 0")
    return .list (batches size filler (← v.asItems))

/-- So many lists of the same size, the first `longer` of them with one item more; a filler makes
up for it in the others. -/
def sliceItems (size longer : Nat) (filler : Option Value) : Nat → List Value → List Value
  | 0, _ => []
  | count + 1, items =>
    if longer == 0 then
      .list (items.take size ++ filler.toList) ::
        sliceItems size 0 filler count (items.drop size)
    else
      .list (items.take (size + 1)) ::
        sliceItems size (longer - 1) filler count (items.drop (size + 1))

def slice : Callee :=
  Take.all do
    let v ← Take.value
    let count ← Take.as Value.asSize
    let filler ← Take.optional pure
    Take.done
    if count == 0 then throw (.of .invalidOperation "count cannot be 0")
    let items ← v.asItems
    return .list (sliceItems (items.length / count) (items.length % count) filler count items)

/-- Neighbours that agree in their keys; a group has the key of its last member. -/
def groupsOf (caseCounts : Bool) (key : Value → Value) : List Value → List (Value × List Value)
  | [] => []
  | v :: rest =>
    match groupsOf caseCounts key rest with
    | [] => [(key v, [v])]
    | (k, members) :: more =>
      let next := match members with
        | w :: _ => key w
        | [] => k
      if Value.sortOrder caseCounts (key v) next == .eq then (k, v :: members) :: more
      else (key v, [v]) :: (k, members) :: more

def groupby : Callee :=
  Take.all do
    let named ← Take.named
    let v ← Take.value
    let path ← Take.optional Value.asString
    Take.done
    let other := (← Named.optional named "default" pure).getD .undefined
    let caseCounts ← switch named "case_sensitive"
    let (path, known) ← match path with
      | some p => pure (p, ["default", "case_sensitive"])
      | none => pure (← Named.required named "attribute" Value.asString,
          ["default", "case_sensitive", "attribute"])
    let items ← v.asItems
    Named.only named known
    let key := pathOr other path
    let sorted := Value.sorted (fun a b => Value.sortOrder caseCounts (key a) (key b)) items
    return .list ((groupsOf caseCounts key sorted).map fun (k, members) => .group k members)

/-- Maps laid over each other, with their keys in order. -/
def overlay (maps : List (List (Value × Value))) : Value :=
  let entries := maps.flatten.foldl (fun found (k, v) => insertEntry found k v) []
  .view (entries.mergeSort fun a b => a.1.order b.1 != .gt) ⟨none, true, none⟩

/-- The items of a value, or one that stands for the refusal to iterate over it. -/
def itemsOrBroken (v : Value) : List Value :=
  match v.asItems with
  | .ok items => items
  | .error e => [.broken e]

/-- Lists one behind the other, maps laid over each other. -/
def chain : Callee :=
  Take.all do
    let all ← Take.rest
    match all.mapM Value.entries? with
    | some maps => return overlay maps
    | none =>
      let items := all.flatMap itemsOrBroken
      return if all.all (·.kind == .sequence) then .list items else .stream items false 0

/-- The items at the same places of lists, as long as all have one. -/
def zipLists : Nat → List (List Value) → List Value
  | 0, _ => []
  | count + 1, lists =>
    match lists.mapM List.head? with
    | some heads => .list heads :: zipLists count (lists.map List.tail)
    | none => []

def zip : Callee :=
  Take.all do
    let lists ← (← Take.rest).mapM fun v =>
      match v.items? with
      | some items => pure items
      | none => throw (.of .invalidOperation
          s!"zip filter argument must be iterable, got {v.kind.text}")
    return .stream (zipLists ((lists.map List.length).foldl Nat.max 0) lists) false 0

/-- The filters on lists and maps. -/
def onItems : List (String × Callee) :=
  [("first", first), ("last", last), ("reverse", reverse), ("list", list), ("items", items),
   ("dictsort", dictsort), ("default", default), ("d", default), ("attr", attr),
   ("min", min), ("max", max), ("sort", sort), ("unique", unique), ("batch", batch),
   ("slice", slice), ("groupby", groupby), ("chain", chain), ("zip", zip)]

end FormLetter.Template.Filter
