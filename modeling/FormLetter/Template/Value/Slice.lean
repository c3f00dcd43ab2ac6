import FormLetter.Template.Argument
import FormLetter.Template.Value.Access

/-!
Slices of texts and lists. A negative bound counts from the end, and one that lies before the front
means the front.
-/
namespace FormLetter.Template

/-- Which items of a whole a slice takes. -/
structure Cut where
  start : Option Int
  stop : Option Int
  step : Int

namespace Cut

/-- A bound as a number of items from the front. -/
def bound (count : Nat) (n : Int) : Nat :=
  if 0 ≤ n then n.toNat else count - n.natAbs

/-- Every item at a multiple of the step, the first one included. -/
def everyFrom {α : Type} (step : Nat) (due : Nat) : List α → List α
  | [] => []
  | x :: rest =>
    if due == 0 then x :: everyFrom step (step - 1) rest else everyFrom step (due - 1) rest

def every {α : Type} (step : Nat) (xs : List α) : List α :=
  everyFrom step 0 xs

/-- The first bound of a step forward, and how many items lie between both; `count` is the length
that they refer to. -/
def span (c : Cut) (count : Nat) : Nat × Nat :=
  let start := bound count (c.start.getD 0)
  let stop := match c.stop with
    | none => count
    | some n => bound count n
  (start, stop - start)

/-- The items a step forward takes. -/
def forward {α : Type} (c : Cut) (count : Nat) (xs : List α) : List α :=
  let (start, size) := c.span count
  every c.step.toNat ((xs.drop start).take size)

/-- The items a step backward takes: from the start down to the stop, which is left out unless it
is the front. -/
def backward {α : Type} (c : Cut) (xs : List α) : List α :=
  let count := xs.length
  let start := match c.start with
    | none => count - 1
    | some n =>
      if (count : Int) ≤ n then count - 1 else if 0 ≤ n then n.toNat else (count + n).toNat
  let stop := match c.stop with
    | none => 0
    | some n => if 0 ≤ n then n.toNat else (count + n).toNat
  let reach := if stop == 0 then start + 1 else start - stop
  every c.step.natAbs (((xs.take (start + 1)).reverse).take reach)

/-- The items of a whole of known length. -/
def items {α : Type} (c : Cut) (xs : List α) : List α :=
  if 0 < c.step then c.forward xs.length xs else c.backward xs

/-- The items of a whole whose length is not known, and whether their number is. -/
def uncounted {α : Type} (c : Cut) (xs : List α) : List α × Bool :=
  if 0 < c.step then (c.forward 0 xs, (c.span 0).2 == 0) else (c.backward xs, true)

/-- The cut that three values stand for; none stands for a bound or a step that is not given. -/
def of (start stop step : Value) : Except Error Cut := do
  let bound (v : Value) : Except Error (Option Int) :=
    if v.isNone then .ok none else v.asInt64.map some
  let start ← bound start
  let stop ← bound stop
  let step := (← bound step).getD 1
  if step == 0 then invalid "cannot slice by step size of 0" else .ok ⟨start, stop, step⟩

end Cut

namespace Value

def slice (v start stop step : Value) : Except Error Value := do
  let c ← Cut.of start stop step
  match v with
  | .text s _ => .ok (ofChars (c.items s.toList))
  | .undefined | .none => .ok (.list [])
  | v =>
    match v.sequence? with
    | some items =>
      if v.count?.isSome then .ok (ofItems (c.items items))
      else
        let (items, counted) := c.uncounted items
        .ok (.stream items counted 0)
    | Option.none => invalid s!"value of type {v.kind.text} cannot be sliced"

end Value

end FormLetter.Template
