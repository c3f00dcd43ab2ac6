import FormLetter.Template.Expr

/-!
Statements of the template language.
-/
namespace FormLetter
namespace Template

/-- What a value can be assigned to. -/
inductive Target where
  | name (n : String)
  | attribute (owner : Expr) (name : String)
  /-- The items of the value, one for each part. -/
  | tuple (line : Nat) (parts : List Target)

/-- A parameter of a routine and the value it has when none is passed. -/
structure Parameter where
  name : String
  default : Option Expr

inductive Stmt where
  | raw (line : Nat) (text : String)
  | emit (line : Nat) (e : Expr)
  | loop (line : Nat) (target : Target) (items : Expr) (condition : Option Expr) (recursive : Bool)
      (body otherwise : List Stmt)
  | branch (line : Nat) (condition : Expr) (yes no : List Stmt)
  | scope (line : Nat) (bindings : List (Target × Expr)) (body : List Stmt)
  | assign (line : Nat) (target : Target) (e : Expr)
  /-- Assigns the text of a body, filtered if there is a filter. -/
  | assignText (line : Nat) (target : Target) (filter : Option Expr) (body : List Stmt)
  | escaping (line : Nat) (e : Expr) (body : List Stmt)
  | filtered (line : Nat) (filter : Expr) (body : List Stmt)
  | block (line : Nat) (name : String) (body : List Stmt)
  | inherit (line : Nat) (e : Expr)
  | insert (line : Nat) (e : Expr) (ignoreMissing : Bool)
  | load (line : Nat) (e : Expr) (target : Target)
  /-- Names of another template, each under the name it gets here. -/
  | loadNames (line : Nat) (e : Expr) (names : List (String × String))
  | define (line : Nat) (name : String) (parameters : List Parameter) (body : List Stmt)
  /-- A call whose callee gets the body as a routine. -/
  | callWith (line : Nat) (callee : Expr) (arguments : List Argument)
      (parameters : List Parameter) (body : List Stmt)
  | perform (line : Nat) (callee : Expr) (arguments : List Argument)

/-- A named block of a template. -/
structure Block where
  name : String
  body : List Stmt

end Template

/-- A compiled template. -/
structure Template where
  name : String
  body : List Template.Stmt
  blocks : List Template.Block

namespace Template

mutual

/-- The named blocks in a statement, inner ones first. -/
def Stmt.blocks : Stmt → List Block
  | .block _ name body => blocksOf body ++ [⟨name, body⟩]
  | .loop _ _ _ _ _ body otherwise => blocksOf body ++ blocksOf otherwise
  | .branch _ _ yes no => blocksOf yes ++ blocksOf no
  | .scope _ _ body | .assignText _ _ _ body | .escaping _ _ body | .filtered _ _ body
  | .define _ _ _ body | .callWith _ _ _ _ body => blocksOf body
  | _ => []

def blocksOf : List Stmt → List Block
  | [] => []
  | s :: rest => s.blocks ++ blocksOf rest

end

end Template
end FormLetter
