import FormLetter.Template.Error
import FormLetter.Template.Value.Access
import Std.Data.TreeMap

/-!
The state of a template that runs: the names it knows, what it has put out, and where it stands.
Names are looked up from the innermost frame outward.
-/
namespace FormLetter.Template

/-- Names with their values, in the order of the names. -/
abbrev Names := List (String × Value)

/-- Gives a name a value, in place of one it has. -/
def Names.put (name : String) (v : Value) : Names → Names
  | [] => [(name, v)]
  | (n, w) :: rest =>
    if n == name then (n, v) :: rest
    else if Value.compareTexts name n == .lt then (name, v) :: (n, w) :: rest
    else (n, w) :: Names.put name v rest

/-- What a loop does for every item. -/
structure LoopPlan where
  line : Nat
  target : Target
  body : List Stmt
  recursive : Bool

/-- A loop at one of its items. -/
structure LoopState where
  plan : LoopPlan
  /-- The number of items before the current one; of all items once the loop has ended. -/
  index : Nat
  previous : Value
  ahead : List Value
  /-- The number of all items, where it is known. -/
  count : Option Nat
  /-- The number of recursive loops around this one. -/
  depth : Nat
  /-- The arguments that were last asked about for a change. -/
  watched : Option (List Value)

/-- What changes while a template runs. -/
inductive Cell where
  | names (ns : Names)
  | loop (l : LoopState)

/-- Names that end together. -/
structure Frame where
  locals : Names
  /-- The cell of the loop that the frame belongs to. -/
  loop : Option Nat
  /-- The cell that routines defined in the frame remember. -/
  closure : Option Nat
  /-- The names that were there before. -/
  base : Value

def Frame.empty : Frame := ⟨[], none, none, .undefined⟩

/-- The frame of a loop, given the loop's cell. -/
def Frame.ofLoop (n : Nat) : Frame := { Frame.empty with loop := some n }

/-- The bodies of a named block, those of heirs first, and which of them is being run. -/
structure BlockStack where
  name : String
  /-- Bodies with the templates they stand in. -/
  versions : List (String × List Stmt)
  level : Nat

structure Machine where
  templates : List Template
  frames : List Frame
  /-- The depth that calls and inclusions around the frames count for. -/
  outerDepth : Nat
  /-- Cells by their numbers, which count from zero without gaps. -/
  cells : Std.TreeMap Nat Cell
  /-- What has gone out. -/
  emitted : String
  /-- Texts that are kept instead of going out, the innermost first; nothing is kept where what
  goes out is dropped. -/
  captures : List (Option String)
  escaping : Bool
  /-- The template that the current statement stands in. -/
  template : String
  blocks : List BlockStack
  currentBlock : Option String
  /-- The templates that inherit from each other. -/
  loaded : List String
  /-- The template to go on with when the current body ends. -/
  parent : Option Template

/-- A computation of a running template. What has gone out stays out when it fails. -/
abbrev Eval := EStateM Error Machine

/-- The deepest that frames, calls and inclusions may be nested. -/
def depthLimit : Nat := 500

namespace Builtin

/-- The functions by name. -/
def find? (name : String) : Option Builtin :=
  [("range", .range), ("dict", .dict), ("debug", .debug),
    ("namespace", .newNamespace)].lookup name

end Builtin

namespace LoopState

/-- What templates can ask a loop for. -/
def parts (l : LoopState) : List (String × Value) :=
  let counted (f : Nat → Value) : Value := (l.count.map f).getD .undefined
  [("index0", .ofNat l.index), ("index", .ofNat (l.index + 1)), ("length", counted .ofNat),
   ("revindex", counted fun n => .ofNat (n - l.index)),
   ("revindex0", counted fun n => .ofNat (n - l.index - 1)), ("first", .bool (l.index == 0)),
   ("last", .bool (l.count.any fun n => n == 0 || l.index + 1 == n)),
   ("depth", .ofNat (l.depth + 1)), ("depth0", .ofNat l.depth), ("previtem", l.previous),
   ("nextitem", l.ahead.headD .undefined)]

def member? (l : LoopState) (name : String) : Option Value :=
  l.parts.lookup name

/-- What output shows for a loop. -/
def shown (l : LoopState) : String :=
  let count := match l.count with
    | some n => Decimal.ofNat n
    | none => "?"
  s!"<loop {Decimal.ofNat l.index}/{count}>"

end LoopState

namespace Value

mutual

/-- The value with some of its parts exchanged; parts of what was exchanged stay as they are. -/
def exchange (f : Value → Option Value) : Value → Value
  | .list items => .list (exchangeAll f items)
  | .stream items counted depth => .stream (exchangeAll f items) counted depth
  | .map entries => .map (exchangeEntries f entries)
  | .view entries form =>
    (f (.view entries form)).getD (.view (exchangeEntries f entries) form)
  | .named entries => .named (exchangeNamed f entries)
  | .group key members => .group (exchange f key) (exchangeAll f members)
  | v => (f v).getD v

def exchangeAll (f : Value → Option Value) : List Value → List Value
  | [] => []
  | v :: rest => exchange f v :: exchangeAll f rest

def exchangeEntries (f : Value → Option Value) : List (Value × Value) → List (Value × Value)
  | [] => []
  | (k, v) :: rest => (exchange f k, exchange f v) :: exchangeEntries f rest

def exchangeNamed (f : Value → Option Value) : List (String × Value) → List (String × Value)
  | [] => []
  | (k, v) :: rest => (k, exchange f v) :: exchangeNamed f rest

end

/-- The value with every cell exchanged for what it holds. -/
def settle (content : Nat → Value) : Value → Value :=
  exchange fun
    | .cell n | .loop n => some (content n)
    | _ => Option.none

end Value

namespace Machine

def depth (m : Machine) : Nat :=
  m.outerDepth + m.frames.length

/-- The names that a cell holds. -/
def namesAt (m : Machine) (n : Nat) : Names :=
  match m.cells[n]? with
  | some (.names ns) => ns
  | _ => []

def loopAt? (m : Machine) (n : Nat) : Option LoopState :=
  match m.cells[n]? with
  | some (.loop l) => some l
  | _ => none

/-- What stands under a name. -/
def member? (m : Machine) (name : String) : Value → Option Value
  | .cell n => (m.namesAt n).lookup name
  | .loop n => (m.loopAt? n).bind (·.member? name)
  | v => v.member? name

/-- A name in a frame: first the frame's own, then its loop, then what came before. -/
def findIn (m : Machine) (name : String) (f : Frame) : Option Value :=
  match f.locals.lookup name with
  | some v => some v
  | none =>
    match f.loop, name with
    | some n, "loop" => some (.loop n)
    | _, _ => ((f.closure.bind fun n => (m.namesAt n).lookup name)).or (m.member? name f.base)

/-- The value of a name. -/
def lookup? (m : Machine) (name : String) : Option Value :=
  (m.frames.findSome? (m.findIn name)).or ((Builtin.find? name).map .builtin)

/-- What a cell holds, given how deep cells may hold cells. -/
def contentAt (m : Machine) : Nat → Nat → Value
  | 0, _ => .undefined
  | bound + 1, n =>
    match m.cells[n]? with
    | some (.names ns) =>
      .view (ns.map fun (name, v) => (.ofString name, v.settle (m.contentAt bound)))
        ⟨none, false, some n⟩
    | some (.loop l) =>
      .view (l.parts.map fun (name, v) => (.ofString name, v.settle (m.contentAt bound)))
        ⟨some l.shown, true, some n⟩
    | none => .undefined

/-- The value as it is now. -/
def settled (m : Machine) (v : Value) : Value :=
  v.settle (m.contentAt (m.cells.size + 1))

/-- The value with every content of a cell exchanged for the cell, so that it changes with it. -/
def attached (m : Machine) (v : Value) : Value :=
  v.exchange fun
    | .view _ ⟨_, _, some n⟩ => some (if (m.loopAt? n).isSome then .loop n else .cell n)
    | _ => none

/-- Puts text out, or keeps or drops it. -/
def emit (m : Machine) (s : String) : Machine :=
  match m.captures with
  | [] => { m with emitted := m.emitted ++ s }
  | none :: _ => m
  | some kept :: rest => { m with captures := some (kept ++ s) :: rest }

def isDropping (m : Machine) : Bool :=
  match m.captures with
  | none :: _ => true
  | _ => false

/-- Puts something else into a cell. -/
def setCell (m : Machine) (n : Nat) (c : Cell) : Machine :=
  { m with cells := m.cells.insert n c }

/-- Changes the innermost frame. -/
def mapFrame (m : Machine) (f : Frame → Frame) : Machine :=
  match m.frames with
  | [] => m
  | top :: rest => { m with frames := f top :: rest }

/-- Gives a name a value in the innermost frame. Routines defined in the frame learn of it. -/
def assign (m : Machine) (name : String) (v : Value) : Machine :=
  match m.frames with
  | [] => m
  | top :: rest =>
    let m := match top.closure with
      | none => m
      | some n => m.setCell n (.names ((m.namesAt n).put name v))
    { m with frames := { top with locals := top.locals.put name v } :: rest }

/-- A new cell. -/
def allocate (m : Machine) (c : Cell) : Nat × Machine :=
  (m.cells.size, m.setCell m.cells.size c)

/-- Moves a loop on to an item. -/
def moveLoop (m : Machine) (n : Nat) (index : Nat) (previous : Value) (ahead : List Value) :
    Machine :=
  match m.loopAt? n with
  | none => m
  | some l => m.setCell n (.loop { l with index := index, previous := previous, ahead := ahead })

/-- The template of that name. -/
def template? (m : Machine) (name : String) : Option Template :=
  m.templates.find? (·.name == name)

/-- The loop that the current statement is in. -/
def currentLoop? (m : Machine) : Option LoopState :=
  (m.frames.findSome? (·.loop)).bind m.loopAt?

end Machine

namespace Eval

variable {α : Type}

def refuse (kind : ErrorKind) (detail : String) : Eval α :=
  throw (.of kind detail)

def attempt : Except Error α → Eval α
  | .ok a => pure a
  | .error e => throw e

/-- Gives failures of a computation their line in the current template. -/
def locate (line : Nat) (x : Eval α) : Eval α := fun m =>
  match x m with
  | .ok a m' => .ok a m'
  | .error e m' => .error (e.within m.template line) m'

/-- The value as it is now. -/
def settled (v : Value) : Eval Value := do
  return (← get).settled v

/-- The result of a callee that was given values as they are now. -/
def attached (v : Value) : Eval Value := do
  return (← get).attached v

def emit (s : String) : Eval Unit :=
  modify (·.emit s)

/-- A cell by what it holds now, all else as it is. -/
def opened (v : Value) : Eval Value := do
  match v with
  | .cell _ | .loop _ => settled v
  | v => return v

/-- Puts a value out. -/
def put (v : Value) : Eval Unit := do
  let m ← get
  emit ((m.settled v).output m.escaping)

/-- Refuses to go deeper than the limit. -/
def checkDepth : Eval Unit := do
  if depthLimit < (← get).depth then refuse .invalidOperation "recursion limit exceeded"

def pushFrame (f : Frame) : Eval Unit := do
  checkDepth
  modify fun m => { m with frames := f :: m.frames }

def popFrame : Eval Unit :=
  modify fun m => { m with frames := m.frames.tail }

/-- Runs a computation with names of its own. -/
def inFrame (f : Frame) (x : Eval α) : Eval α := do
  pushFrame f
  let a ← x
  popFrame
  return a

/-- Text that was put out where escaping is on is safe. -/
def keptText (s : String) : Eval Value := do
  return .text s (← get).escaping

/-- Runs a computation and takes the text that it puts out. -/
def capture (x : Eval α) : Eval String := do
  modify fun m => { m with captures := some "" :: m.captures }
  let _ ← x
  let m ← get
  set { m with captures := m.captures.tail }
  match m.captures with
  | some kept :: _ => return kept
  | _ => return ""

/-- Runs a computation and drops the text that it puts out. -/
def discard (x : Eval α) : Eval α := do
  modify fun m => { m with captures := none :: m.captures }
  let a ← x
  modify fun m => { m with captures := m.captures.tail }
  return a

end Eval

end FormLetter.Template
