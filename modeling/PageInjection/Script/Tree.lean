import PageInjection.Script.Spot
import PageInjection.Script.Value

/-!
# Script trees

What a script says, as a tree of statements and expressions.  A chain is a root
followed by links: properties, indices and method calls.
-/

namespace PageInjection.Script

mutual

/-- A part of a script that has a value. -/
inductive Expr where
  | literal (value : Value) (spot : Spot)
  | template (parts : List Expr) (spot : Spot)
  | list (items : List Expr) (spot : Spot)
  | map (members : List (String × Expr)) (spot : Spot)
  | reference (name : String) (spot : Spot)
  | this (spot : Spot)
  | call (name : String) (isOperator : Bool) (arguments : List Expr) (spot : Spot)
  | both (left right : Expr) (spot : Spot)
  | either (left right : Expr) (spot : Spot)
  | coalesce (left right : Expr) (spot : Spot)
  | chain (root : Expr) (links : List Link)
  | closure (name : String) (captured : List (String × Spot)) (spot : Spot)
  | block (body : Block)

/-- A step from a value to a part of it.  A link that is optional yields nothing
when the value before it is the unit value. -/
inductive Link where
  | property (isOptional : Bool) (name : String) (mark spot : Spot)
  | index (isOptional : Bool) (index : Expr) (mark : Spot)
  | method (isOptional : Bool) (name : String) (arguments : List Expr) (mark spot : Spot)

/-- A part of a script that is carried out. -/
inductive Stmt where
  | nothing (spot : Spot)
  | expression (value : Expr)
  | assign (target : Expr) (operator : Option String) (value : Expr) (spot : Spot)
  | declare (isConstant : Bool) (name : String) (value : Expr) (spot : Spot)
  | branch (condition : Expr) (body other : Block) (spot : Spot)
  | choose (subject : Expr) (cases : List Case) (spot : Spot)
  | loop (condition : Option Expr) (body : Block) (spot : Spot)
  | repeat (body : Block) (condition : Expr) (ends : Bool) (spot : Spot)
  | each (name : String) (counter : Option String) (source : Expr) (body : Block) (spot : Spot)
  | exit (breaks : Bool) (value : Option Expr) (spot : Spot)
  | leave (throws : Bool) (value : Option Expr) (spot : Spot)
  | attempt (body : Block) (name : Option String) (handler : Block) (spot : Spot)
  | block (body : Block)

/-- One case of a choice; no labels stand for the default. -/
inductive Case where
  | of (labels : List Value) (condition : Option Expr) (body : Expr)

/-- Statements in curly brackets. -/
inductive Block where
  | of (statements : List Stmt) (spot : Spot)

end

instance : Inhabited Expr := ⟨.literal .unit .start⟩

instance : Inhabited Block := ⟨.of [] .start⟩

instance : Inhabited Stmt := ⟨.nothing .start⟩

def Block.statements : Block → List Stmt
  | .of statements _ => statements

def Block.spot : Block → Spot
  | .of _ spot => spot

def Link.mark : Link → Spot
  | .property _ _ mark _ | .index _ _ mark | .method _ _ _ mark _ => mark

namespace Expr

/-- The spot that stands for an expression in messages. -/
def spot : Expr → Spot
  | literal _ spot | template _ spot | list _ spot | map _ spot | reference _ spot | this spot
  | call _ _ _ spot | both _ _ spot | either _ _ spot | coalesce _ _ spot
  | closure _ _ spot => spot
  | chain root links => (links.head?.map Link.mark).getD root.spot
  | block body => body.spot

def first : Expr → Spot
  | both left _ _ | either left _ _ | coalesce left _ _ => left.first
  | chain root _ => root.first
  | call name true (left :: _ :: _) spot => if name == "contains" then spot else left.first
  | other => other.spot

mutual

/-- The value of a literal; a list or map of literals is one. -/
def value? : Expr → Option Value
  | literal value _ => some value
  | list items _ => (values? items).map fun values => .list values.toArray
  | map members _ => (memberValues? members).map fun values =>
      .map (values.foldl (fun map (name, value) => Value.putMember name value map) [])
  | _ => none

def values? : List Expr → Option (List Value)
  | [] => some []
  | item :: items => do return (← value? item) :: (← values? items)

def memberValues? : List (String × Expr) → Option (List (String × Value))
  | [] => some []
  | (name, item) :: members => do return (name, ← value? item) :: (← memberValues? members)

end

end Expr

namespace Stmt

/-- The spot that stands for a statement in messages. -/
def spot : Stmt → Spot
  | expression value => match value with
      | .call _ _ _ spot => spot
      | other => other.first
  | nothing spot | assign _ _ _ spot | declare _ _ _ spot | branch _ _ _ spot | choose _ _ spot
  | loop _ _ spot | .repeat _ _ _ spot | each _ _ _ _ spot | exit _ _ spot | leave _ _ spot
  | attempt _ _ _ spot => spot
  | block body => body.spot

def isNothing : Stmt → Bool
  | nothing _ => true
  | _ => false

end Stmt

/-- How the names of functions without a name of their own begin. -/
def closureMark : String := "anon$"

/-- A function of a script. -/
structure Function where
  name : String
  parameters : List String
  body : Block
deriving Inhabited

/-- A script that was read. -/
structure Program where
  statements : List Stmt
  functions : List Function
deriving Inhabited

end PageInjection.Script
