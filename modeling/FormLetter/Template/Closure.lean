import FormLetter.Template.Stmt

/-!
The names that a routine uses without having assigned to them: what it has to remember from the
place where it is defined. Names are followed in the order in which a routine reads and assigns
them.
-/
namespace FormLetter.Template

/-- What has been seen of a routine so far. -/
structure Trail where
  /-- Names that belong to the routine from here on. -/
  own : List String
  /-- Names used before they were its own. -/
  free : List String

namespace Trail

def start : Trail := ⟨[], []⟩

def assign (name : String) (t : Trail) : Trail :=
  { t with own := name :: t.own }

def use (name : String) (t : Trail) : Trail :=
  if t.own.contains name || t.free.contains name then t else { t with free := name :: t.free }

/-- Follows a part whose own names end with it. -/
def within (part : Trail → Trail) (t : Trail) : Trail :=
  { part t with own := t.own }

end Trail

mutual

/-- Follows an expression. -/
def Expr.trail : Expr → Trail → Trail
  | .literal .., t => t
  | .name _ n, t => t.use n
  | .list _ items, t => trailAll items t
  | .map _ entries, t => trailEntries entries t
  | .negate _ e, t | .not e, t => e.trail t
  | .chain first links, t => trailLinks links (first.trail t)
  | .both l r, t | .either l r, t | .operate _ _ l r, t => r.trail (l.trail t)
  | .choose c yes no, t => trailOption no (yes.trail (c.trail t))
  | .attribute _ e _, t => e.trail t
  | .item _ e key, t => key.trail (e.trail t)
  | .slice _ e start stop step, t =>
    trailOption step (trailOption stop (trailOption start (e.trail t)))
  | .call _ callee arguments, t => trailArguments arguments (callee.trail t)
  | .filter _ _ e arguments, t => trailArguments arguments (trailOption e t)
  | .test _ _ e arguments, t => trailArguments arguments (e.trail t)

def trailAll : List Expr → Trail → Trail
  | [], t => t
  | e :: rest, t => trailAll rest (e.trail t)

def trailOption : Option Expr → Trail → Trail
  | none, t => t
  | some e, t => e.trail t

def Entry.trail : Entry → Trail → Trail
  | .mk key value, t => value.trail (key.trail t)

def trailEntries : List Entry → Trail → Trail
  | [], t => t
  | e :: rest, t => trailEntries rest (e.trail t)

def Link.trail : Link → Trail → Trail
  | .mk _ _ _ right, t => right.trail t

def trailLinks : List Link → Trail → Trail
  | [], t => t
  | l :: rest, t => trailLinks rest (l.trail t)

def Argument.trail : Argument → Trail → Trail
  | .positional e, t | .spread e, t | .named _ e, t | .spreadNamed e, t => e.trail t

def trailArguments : List Argument → Trail → Trail
  | [], t => t
  | a :: rest, t => trailArguments rest (a.trail t)

end

mutual

/-- Follows an assignment. -/
def Target.trail : Target → Trail → Trail
  | .name n, t => t.assign n
  | .attribute owner _, t => owner.trail t
  | .tuple _ parts, t => trailTargets parts t

def trailTargets : List Target → Trail → Trail
  | [], t => t
  | p :: rest, t => trailTargets rest (p.trail t)

end

def trailBindings : List (Target × Expr) → Trail → Trail
  | [], t => t
  | (place, e) :: rest, t => trailBindings rest (e.trail (place.trail t))

/-- Follows parameters: all of them are assigned before the first default is read. -/
def trailParameters (params : List Parameter) (t : Trail) : Trail :=
  let t := params.foldl (fun t p => t.assign p.name) t
  params.foldl (fun t p => trailOption p.default t) t

mutual

/-- Follows a statement. -/
def Stmt.trail : Stmt → Trail → Trail
  | .raw .., t | .inherit .., t | .insert .., t => t
  | .emit _ e, t => e.trail t
  | .loop _ target items condition _ body otherwise, t =>
    let t := Trail.within (fun t =>
      trailBody body (trailOption condition (target.trail (items.trail (t.assign "loop"))))) t
    Trail.within (trailBody otherwise) t
  | .branch _ condition yes no, t =>
    Trail.within (trailBody no) (Trail.within (trailBody yes) (condition.trail t))
  | .scope _ bindings body, t =>
    Trail.within (fun t => trailBody body (trailBindings bindings t)) t
  | .assign _ target e, t => e.trail (target.trail t)
  | .assignText _ target _ body, t => Trail.within (trailBody body) (target.trail t)
  | .escaping _ _ body, t | .filtered _ _ body, t => Trail.within (trailBody body) t
  | .block _ _ body, t => Trail.within (fun t => trailBody body (t.assign "super")) t
  | .load _ _ target, t => target.trail t
  | .loadNames _ _ names, t => names.foldl (fun t (_, here) => t.assign here) t
  | .define _ name params body, t => trailBody body (trailParameters params (t.assign name))
  | .callWith _ callee arguments params body, t =>
    trailBody body (trailParameters params (trailArguments arguments (callee.trail t)))
  | .perform _ callee arguments, t => trailArguments arguments (callee.trail t)

def trailBody : List Stmt → Trail → Trail
  | [], t => t
  | s :: rest, t => trailBody rest (s.trail t)

end

/-- The names that a routine does not assign before it uses them. -/
def freeNames (params : List Parameter) (body : List Stmt) : List String :=
  (trailBody body (trailParameters params .start)).free

end FormLetter.Template
