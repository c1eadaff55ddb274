import PageInjection.Sandbox.Limits
import PageInjection.Script.Operator
import PageInjection.Script.Tree

/-!
# Simplifying a script before it runs

A script is simplified before it is carried out: constants are put in place of
their names, operators on literals are evaluated, branches with a known condition
are decided, and statements without an effect are dropped.  This is part of the
meaning of a script: a dropped statement cannot fail, and a place that became a
literal can no longer be assigned to.
-/

namespace PageInjection.Script

/-- What is known of the names in scope, latest first: the value of a constant,
or nothing for a variable. -/
abbrev Known := List (String × Option Value)

/-- The value of a name that is known to be constant. -/
def Known.value? (known : Known) (name : String) : Option Value :=
  (known.lookup name).join

namespace Expr

def isLiteral (expr : Expr) : Bool := expr.value?.isSome

end Expr

mutual

/-- Whether the value of an expression is all it does. -/
def Expr.isPure : Expr → Bool
  | .literal _ _ | .reference _ _ | .this _ => true
  | .template parts _ => Expr.arePure parts
  | .list items _ => Expr.arePure items
  | .map members _ => Expr.memberArePure members
  | .both left right _ | .either left right _ | .coalesce left right _ =>
      left.isPure && right.isPure
  | .block body => body.isPure
  | .call _ _ _ _ | .chain _ _ | .closure _ _ _ => false

/-- Whether all expressions of a list are pure. -/
def Expr.arePure : List Expr → Bool
  | [] => true
  | expr :: rest => expr.isPure && Expr.arePure rest

def Expr.memberArePure : List (String × Expr) → Bool
  | [] => true
  | (_, expr) :: rest => expr.isPure && Expr.memberArePure rest

/-- Whether carrying out a statement does nothing. -/
def Stmt.isPure : Stmt → Bool
  | .nothing _ => true
  | .expression value => value.isPure
  | .branch condition body other _ => condition.isPure && body.isPure && other.isPure
  | .choose subject cases _ => subject.isPure && Stmt.casesArePure cases
  | .each _ _ source body _ => source.isPure && body.isPure
  | .attempt body _ handler _ => body.isPure && handler.isPure
  | .block body => body.isPure
  | .assign _ _ _ _ | .declare _ _ _ _ | .loop _ _ _ | .repeat _ _ _ _ | .exit _ _ _
  | .leave _ _ _ => false

def Stmt.casesArePure : List Case → Bool
  | [] => true
  | .of _ none body :: rest => body.isPure && Stmt.casesArePure rest
  | .of _ (some condition) body :: rest =>
      condition.isPure && body.isPure && Stmt.casesArePure rest

/-- Whether all statements of a list are pure. -/
def Stmt.arePure : List Stmt → Bool
  | [] => true
  | statement :: rest => statement.isPure && Stmt.arePure rest

/-- Whether carrying out a block does nothing. -/
def Block.isPure : Block → Bool
  | .of statements _ => Stmt.arePure statements

end

mutual

/-- Whether a statement does nothing that can be seen outside its block. -/
def Stmt.isInwardPure : Stmt → Bool
  | .declare _ _ value _ => value.isPure
  | .block (.of statements _) => Stmt.areInwardPure statements
  | other => other.isPure

/-- Whether all statements of a list do nothing that can be seen outside. -/
def Stmt.areInwardPure : List Stmt → Bool
  | [] => true
  | statement :: rest => statement.isInwardPure && Stmt.areInwardPure rest

end

namespace Stmt

/-- Whether a statement declares something for its block. -/
def declares : Stmt → Bool
  | .declare _ _ _ _ => true
  | _ => false

/-- Whether nothing behind a statement in its block is reached. -/
def leaves : Stmt → Bool
  | .exit _ _ _ | .leave _ _ _ => true
  | _ => false

def hasValue : Stmt → Bool
  | .branch _ _ _ _ | .choose _ _ _ | .block _ | .expression _ => true
  | _ => false

/-- Put the statements of inner blocks that declare nothing in their place. -/
def flattened (statements : List Stmt) : List Stmt :=
  statements.flatMap fun statement =>
    match statement with
    | .block (.of inner _) => if inner.any declares then [statement] else inner
    | other => [other]

def reached : List Stmt → List Stmt
  | [] => []
  | statement :: rest => if statement.leaves then [statement] else statement :: reached rest

/-- Whether a statement, although it may do nothing, holds back the dropping of
declarations before it. -/
def holds (isPure : Stmt → Bool) : Stmt → Bool
  | .declare isConstant name value spot =>
      !isPure (.declare isConstant name value spot) || value.isLiteral
  | .expression value => !isPure (.expression value) || !value.isLiteral
  | other => !isPure other

/-- Drop statements that do nothing; `keeps` tells whether the value of the last
one is wanted. -/
def pruned (keeps : Bool) (isPure : Stmt → Bool) (statements : List Stmt) : List Stmt :=
  let indexed := statements.zipIdx
  let last := (indexed.filter fun (statement, _) => statement.holds isPure).getLast?
  let bound := (last.map (·.2)).getD 0
  (indexed.filter fun (statement, index) =>
    (keeps && index + 1 == statements.length) ||
      !(statement.isPure || (isPure statement && index ≥ bound))).map (·.1)

/-- Shorten the end of a block whose value is wanted; statements come last
first. -/
def shortenedKeeping (reduces : Bool) : (fuel : Nat) → List Stmt → List Stmt
  | 0, statements => statements
  | fuel + 1, statements =>
      match statements with
      | [.leave false none spot] => if reduces then [] else [.leave false none spot]
      | [only] =>
          match only with
          | .leave false (some value) _ => if reduces then [.expression value] else [only]
          | _ => if !only.hasValue && only.isPure then [] else [only]
      | .leave false none spot :: second :: rest =>
          if reduces then
            if second.hasValue then .nothing spot :: second :: rest
            else shortenedKeeping reduces fuel (second :: rest)
          else statements
      | .leave false (some value) spot :: rest =>
          if reduces then shortenedKeeping reduces fuel (.expression value :: rest)
          else .leave false (some value) spot :: rest
      | last :: second :: rest =>
          if last.isNothing && second.hasValue then statements
          else if !last.hasValue && last.isPure then
            if second.hasValue then .nothing last.spot :: second :: rest
            else shortenedKeeping reduces fuel (second :: rest)
          else statements
      | [] => []

/-- Shorten the end of a block whose value is not wanted; statements come last
first. -/
def shortenedDropping (reduces : Bool) : List Stmt → List Stmt
  | [] => []
  | last :: rest =>
      let isDropped := last.isPure || (reduces && match last with
        | .leave false none _ => !rest.isEmpty
        | .leave false (some value) _ => value.isPure && !rest.isEmpty
        | _ => false)
      if isDropped then shortenedDropping reduces rest else last :: rest

def tidied (keeps isInner reduces : Bool) (statements : List Stmt) : List Stmt :=
  let statements := reached (flattened statements)
  let statements := pruned keeps (if isInner then isInwardPure else isPure) statements
  let backwards := statements.reverse
  (if keeps then shortenedKeeping reduces (statements.length + 1) backwards
    else shortenedDropping reduces backwards).reverse

end Stmt

/-- Join neighbouring parts of a text that are known. -/
def joinedParts : List Expr → List Expr
  | .literal (.text left) spot :: rest =>
      match joinedParts rest with
      | .literal (.text right) _ :: others => .literal (.text (left ++ right)) spot :: others
      | others => if left.isEmpty then others else .literal (.text left) spot :: others
  | part :: rest => part :: joinedParts rest
  | [] => []

/-- A literal in place of an expression on literals, as far as limits allow. -/
def folded? (limits : Limits) (name : String) (arguments : List Expr) : Option Value :=
  match arguments with
  | [left, right] => do
      match Operator.plain? name (← left.value?) (← right.value?) with
      | some (.ok (.text value)) =>
          if limits.stringBytes == 0 || value.utf8ByteSize ≤ limits.stringBytes.toNat then
            some (.text value)
          else none
      | some (.ok value) => some value
      | _ => none
  | _ => none

/-- The part of a constant that a single link with a literal key leads to. -/
def partOf? (value : Value) : Link → Option Value
  | .property _ name _ _ =>
      match value with
      | .map members => some ((Value.memberOf? name members).getD .unit)
      | _ => none
  | .index _ (.literal (.text name) _) _ =>
      match value with
      | .map members => some ((Value.memberOf? name members).getD .unit)
      | _ => none
  | .index _ (.literal (.int index) _) _ =>
      match value with
      | .list items =>
          let place := if index < 0 then index + items.size else index
          if place < 0 then none else items[place.toNat]?
      | _ => none
  | _ => none

/-- The chain, or the literal it stands for. -/
def chained (known : Known) (root : Expr) (links : List Link) : Expr :=
  match root, links with
  | .reference name spot, [link] =>
      match (known.value? name).bind (partOf? · link) with
      | some value => .literal value spot
      | none => .chain root links
  | .literal value spot, [link] =>
      match partOf? value link with
      | some value => .literal value spot
      | none => .chain root links
  | _, _ => .chain root links

mutual

def Expr.simplified (limits : Limits) (known : Known) : Expr → Expr
  | .literal value spot => .literal value spot
  | .template parts spot =>
      match joinedParts (Expr.allSimplified limits known parts) with
      | [] => .literal (.text "") spot
      | parts => .template parts spot
  | .list items spot =>
      let expr := Expr.list (Expr.allSimplified limits known items) spot
      (expr.value?.map (.literal · spot)).getD expr
  | .map members spot =>
      let expr := Expr.map (Expr.membersSimplified limits known members) spot
      (expr.value?.map (.literal · spot)).getD expr
  | .reference name spot =>
      match known.value? name with
      | some value => .literal value spot
      | none => .reference name spot
  | .this spot => .this spot
  | .call name isOperator arguments spot =>
      let arguments := Expr.allSimplified limits known arguments
      match if isOperator then folded? limits name arguments else none with
      | some value => .literal value spot
      | none => .call name isOperator arguments spot
  | .both left right spot =>
      match left.simplified limits known, right.simplified limits known with
      | .literal (.bool true) _, right => right
      | .literal (.bool false) place, _ => .literal (.bool false) place
      | left, .literal (.bool true) _ => left
      | left, right => .both left right spot
  | .either left right spot =>
      match left.simplified limits known, right.simplified limits known with
      | .literal (.bool false) _, right => right
      | .literal (.bool true) place, _ => .literal (.bool true) place
      | left, .literal (.bool false) _ => left
      | left, right => .either left right spot
  | .coalesce left right spot =>
      match left.simplified limits known, right.simplified limits known with
      | .literal .unit _, right => right
      | .literal value place, _ => .literal value place
      | left, right => .coalesce left right spot
  | .chain (.reference name spot) links =>
      chained known (.reference name spot) (Expr.linksSimplified limits known links)
  | .chain root links =>
      chained known (root.simplified limits known) (Expr.linksSimplified limits known links)
  | .closure name captured spot => .closure name captured spot
  | .block (.of statements spot) =>
      match Stmt.tidied true true false (Stmt.allSimplified limits true known statements) with
      | [] => .literal .unit spot
      | [.expression (.call name isOperator arguments place)] =>
          .block (.of [.expression (.call name isOperator arguments place)] spot)
      | [.expression value] => value
      | statements => .block (.of statements spot)

def Expr.allSimplified (limits : Limits) (known : Known) : List Expr → List Expr
  | [] => []
  | expr :: rest => expr.simplified limits known :: Expr.allSimplified limits known rest

def Expr.membersSimplified (limits : Limits) (known : Known) :
    List (String × Expr) → List (String × Expr)
  | [] => []
  | (name, expr) :: rest =>
      (name, expr.simplified limits known) :: Expr.membersSimplified limits known rest

def Expr.linksSimplified (limits : Limits) (known : Known) : List Link → List Link
  | [] => []
  | .property isOptional name mark spot :: rest =>
      .property isOptional name mark spot :: Expr.linksSimplified limits known rest
  | .index isOptional index mark :: rest =>
      .index isOptional (index.simplified limits known) mark ::
        Expr.linksSimplified limits known rest
  | .method isOptional name arguments mark spot :: rest =>
      .method isOptional name (Expr.allSimplified limits known arguments) mark spot ::
        Expr.linksSimplified limits known rest

/-- A statement made simpler; `keeps` tells whether its value may be wanted. -/
def Stmt.simplified (limits : Limits) (keeps : Bool) (known : Known) : Stmt → Stmt
  | .nothing spot => .nothing spot
  | .expression value =>
      match value.simplified limits known with
      | .block body => .block body
      | value => .expression value
  | .assign (.reference name place) none (.call symbol true [.reference other first, right] inner)
      spot =>
      let right := right.simplified limits known
      if name == other && ["+", "-", "*", "/", "**", "%", "<<", ">>", "&", "|", "^"].contains symbol
      then .assign (.reference name place) (some symbol) right inner
      else
        let first :=
          (known.value? other |>.map (Expr.literal · first)).getD (.reference other first)
        .assign (.reference name place) none (.call symbol true [first, right] inner) spot
  | .assign (.reference name place) operator value spot =>
      .assign (.reference name place) operator (value.simplified limits known) spot
  | .assign target operator value spot =>
      .assign (target.simplified limits known) operator (value.simplified limits known) spot
  | .declare isConstant name value spot =>
      .declare isConstant name (value.simplified limits known) spot
  | .branch condition body other spot =>
      let condition := condition.simplified limits known
      let body := body.simplified limits keeps known
      let other := other.simplified limits keeps known
      match condition with
      | .literal (.bool true) _ => .block body
      | .literal (.bool false) _ => .block other
      | condition =>
          if body.statements.isEmpty && other.statements.isEmpty then
            if keeps then .block (.of [.expression condition, .nothing spot] spot)
            else .expression condition
          else .branch condition body other spot
  | .choose subject cases spot =>
      .choose (subject.simplified limits known) (Stmt.casesSimplified limits known cases) spot
  | .loop none body spot => .loop none (body.simplified limits false known) spot
  | .loop (some condition) body spot =>
      let body := body.simplified limits false known
      match condition.simplified limits known with
      | .literal (.bool true) _ => .loop none body spot
      | .literal (.bool false) place => .nothing place
      | condition => .loop (some condition) body spot
  | .repeat body condition ends spot =>
      .repeat (body.simplified limits false known) (condition.simplified limits known) ends spot
  | .each name counter source body spot =>
      .each name counter (source.simplified limits known) (body.simplified limits false known) spot
  | .exit breaks none spot => .exit breaks none spot
  | .exit breaks (some value) spot => .exit breaks (some (value.simplified limits known)) spot
  | .leave throws none spot => .leave throws none spot
  | .leave throws (some value) spot => .leave throws (some (value.simplified limits known)) spot
  | .attempt body name handler spot =>
      let tried := body.simplified limits false known
      if body.isPure then .block tried
      else .attempt tried name (handler.simplified limits false known) spot
  | .block body =>
      let body := body.simplified limits keeps known
      match body.statements with
      | [] => .nothing body.spot
      | [only] => if only.declares then .block body else only
      | _ => .block body

def Stmt.casesSimplified (limits : Limits) (known : Known) : List Case → List Case
  | [] => []
  | .of labels none body :: rest =>
      .of labels none (body.simplified limits known) :: Stmt.casesSimplified limits known rest
  | .of labels (some condition) body :: rest =>
      .of labels (some (condition.simplified limits known)) (body.simplified limits known) ::
        Stmt.casesSimplified limits known rest

/-- Statements made simpler, each with what the ones before it made known. -/
def Stmt.allSimplified (limits : Limits) (keeps : Bool) (known : Known) : List Stmt → List Stmt
  | [] => []
  | statement :: rest =>
      let statement := statement.simplified limits keeps known
      let known := match statement with
        | .declare isConstant name value _ =>
            (name, if isConstant then value.value? else none) :: known
        | _ => known
      statement :: Stmt.allSimplified limits keeps known rest

def Block.simplified (limits : Limits) (keeps : Bool) (known : Known) : Block → Block
  | .of statements spot =>
      .of (Stmt.tidied keeps true false (Stmt.allSimplified limits keeps known statements)) spot

end

/-- The statements of a script or of a function made simpler. -/
def simplifiedBody (limits : Limits) (known : Known) (statements : List Stmt) : List Stmt :=
  Stmt.tidied true false true (Stmt.allSimplified limits true known statements)

/-- How often a script is gone through; every round finds what the one before it
made possible. -/
def simplifyingRounds : Nat := 6

/-- A script made simpler, given the constants it is run with. -/
def Program.simplified (limits : Limits) (known : Known) (program : Program) : Program :=
  simplifyingRounds.fold (fun _ _ program =>
    { statements := simplifiedBody limits known program.statements
      functions := program.functions.map fun function =>
        { function with
          body := .of (simplifiedBody limits known function.body.statements)
            function.body.spot } }) program

end PageInjection.Script
