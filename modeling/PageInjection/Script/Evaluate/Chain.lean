import PageInjection.Script.Evaluate.Call

/-!
# Chains

How properties, indices and method calls lead from a value to its parts, and how
a changed part changes the value it belongs to.
-/

namespace PageInjection.Script

/-- A link whose index and arguments are known. -/
inductive Step where
  | property (isOptional : Bool) (name : String) (mark spot : Spot)
  | index (isOptional : Bool) (index : Value) (mark spot : Spot)
  | method (isOptional : Bool) (name : String) (arguments : List Value) (mark spot : Spot)

/-- Whether a step yields nothing from the unit value. -/
def Step.isOptional : Step → Bool
  | .property isOptional _ _ _ | .index isOptional _ _ _ | .method isOptional _ _ _ _ => isOptional

/-- What is assigned at the end of a chain; the name and spot are those of its
root. -/
structure Assignment where
  operator : Option String
  value : Value
  spot : Spot
  name : String
  rootSpot : Spot

/-- The properties that values other than maps have. -/
def hasProperty (value : Value) (name : String) : Bool :=
  match value with
  | .text _ => ["len", "bytes", "is_empty", "chars"].contains name
  | .list _ => ["len", "is_empty"].contains name
  | .int _ => ["is_zero", "is_odd", "is_even"].contains name
  | .float _ =>
      ["floor", "ceiling", "round", "int", "fraction", "is_nan", "is_finite", "is_infinite",
        "is_zero"].contains name
  | .range _ _ _ => ["start", "end", "is_empty", "is_inclusive", "is_exclusive"].contains name
  | .steps _ _ _ => ["start", "end", "step"].contains name
  | .function _ _ => ["name", "is_anonymous"].contains name
  | _ => false

/-- The place in a sequence that an index stands for. -/
def placeIn? (length : Nat) (index : Int) : Option Nat :=
  let place := if index < 0 then index + length else index
  if 0 ≤ place ∧ place < length then some place.toNat else none

def withBit (number : Int) (place : Nat) (bit : Bool) : Int :=
  let mask := Int64.ofInt 1 <<< Int64.ofInt place
  let word := Int64.ofInt number
  (if bit then word ||| mask else word &&& ~~~mask).toInt

namespace Interpreter

open Run

variable (self : Interpreter)

/-- The new value of a place that is assigned to. -/
def assigned (assignment : Assignment) (isConstant : Bool) (old : Value) : Run Value := do
  if isConstant then fail (.constant assignment.name) assignment.rootSpot
  match assignment.operator with
  | none => return assignment.value
  | some symbol => self.operateInPlace symbol old assignment.value assignment.spot

/-- The part of a value under an index, and how the value looks with another part
there. -/
def partAt (target index : Value) (mark spot : Spot) : Run (Value × (Value → Run Value)) := do
  let unavailable : Run (Value × (Value → Run Value)) :=
    fail (.noIndexer (target.typeName ++ " [" ++ index.typeName ++ "]")) mark
  match target, index with
  | .list items, .int index =>
      match placeIn? items.size index with
      | some place =>
          return (items.getD place .unit, fun new => pure (.list (items.setIfInBounds place new)))
      | none => fail (.listBounds items.size index) spot
  | .list _, other => fail (.wrongType other.typeName "i64") spot
  | .map members, .text name =>
      return ((Value.memberOf? name members).getD .unit,
        fun new => pure (.map (Value.putMember name new members)))
  | .map _, other => fail (.wrongType other.typeName "string") spot
  | .text text, .int index =>
      let letters := text.toList
      match placeIn? letters.length index with
      | some place =>
          return (.char (letters.getD place ' '), fun new => do
            match new with
            | .char c => return .text (String.ofList (letters.set place c))
            | other => fail (.wrongType other.typeName "char") spot)
      | none => fail (.textBounds letters.length index) spot
  | .text text, .range first last isInclusive =>
      let (start, count) := Library.spanOf first last isInclusive
      return (Library.ofLetters (Library.lettersFrom text.toList start count),
        fun _ => fail (.noIndexer (target.typeName ++ " [" ++ index.typeName ++ "]")) mark)
  | .text _, other => fail (.wrongType other.typeName "i64") spot
  | .int number, .int index =>
      match placeIn? 64 index with
      | some place =>
          let bits := (Int64.ofInt number >>> Int64.ofInt place) &&& Int64.ofInt 1
          return (.bool (bits.toInt != 0), fun new => do
            match new with
            | .bool bit => return .int (withBit number place bit)
            | other => fail (.wrongType other.typeName "bool") spot)
      | none => fail (.bitBounds index) spot
  | _, _ => unavailable

/-- The part of a value under a name, and how the value looks with another part
there. -/
def partNamed (target : Value) (name : String) (spot : Spot) :
    Run (Value × (Value → Run Value)) := do
  match target with
  | .map members =>
      return ((Value.memberOf? name members).getD .unit,
        fun new => pure (.map (Value.putMember name new members)))
  | other =>
      if hasProperty other name then
        return ((← self.callNative name [other] spot).1, fun new =>
          fail (.noSetter name other.typeName new.typeName) spot)
      else fail (.noGetter name other.typeName) spot

/-- Go through the steps of a chain.  The second result is the new content of
the value when a part of it changed. -/
def walk (assignment : Option Assignment) :
    List Step → (isConstant : Bool) → Value → Run (Value × Option Value)
  | [], _, target => return (target, none)
  | step :: steps, isConstant, target => do
      if step.isOptional && target matches .unit then return (.unit, none)
      let into (part : Value) (renewed : Value → Run Value) : Run (Value × Option Value) := do
        match steps, assignment with
        | [], some assignment =>
            let new ← renewed (← self.assigned assignment isConstant part)
            checkSize new assignment.spot
            return (.unit, some new)
        | _, _ =>
            let (result, changed) ← walk assignment steps isConstant part
            match changed with
            | some part => return (result, some (← renewed part))
            | none => return (result, none)
      match step with
      | .property _ name _ spot =>
          match steps, assignment, target with
          | [], some ⟨none, value, _, _, _⟩, target =>
              if target matches .map _ then
                let (part, renewed) ← self.partNamed target name spot
                into part renewed
              else fail (.noSetter name target.typeName value.typeName) spot
          | _, _, _ =>
              let (part, renewed) ← self.partNamed target name spot
              match part, target with
              | part, .map _ => into part renewed
              | part, _ =>
                  if steps.isEmpty then into part renewed
                  else return ((← walk assignment steps false part).1, none)
      | .index _ index mark spot =>
          let (part, renewed) ← partAt target index mark spot
          into part renewed
      | .method _ name arguments _ spot =>
          let (result, changed) ← self.callMethod name target isConstant arguments spot
          return ((← walk assignment steps false result).1, changed)

/-- The steps of a chain: indices and arguments are evaluated from left to
right. -/
def stepsOf : List Link → Run (List Step)
  | [] => return []
  | link :: links => do
      let isLast := links.isEmpty
      if let some next := links.head? then tick next.mark
      let step ← match link with
        | .property isOptional name mark spot => do
            if isLast then tick spot
            pure (Step.property isOptional name mark spot)
        | .index isOptional index mark => do
            if isLast then tick index.spot
            pure (Step.index isOptional (← flat (← self.expression index)) mark index.spot)
        | .method isOptional name arguments mark spot => do
            if isLast then tick spot
            let values ← arguments.mapM fun argument => do flat (← self.expression argument)
            pure (Step.method isOptional name values mark spot)
      return step :: (← stepsOf links)

/-- The steps of a chain; a single simple link takes no counting. -/
def stepsOfAll : List Link → Run (List Step)
  | [.property isOptional name mark spot] => return [.property isOptional name mark spot]
  | [.index isOptional (.literal value spot) mark] => return [.index isOptional value mark spot]
  | [.method isOptional name [] mark spot] => return [.method isOptional name [] mark spot]
  | links => self.stepsOf links

/-- What an assignment at the end of a chain says, without its root. -/
structure Assigning where
  operator : Option String
  value : Value
  spot : Spot

/-- Evaluate a chain, or assign to what it leads to. -/
def chain (root : Expr) (links : List Link) (assigning : Option Assigning) : Run Value := do
  let steps ← self.stepsOfAll links
  let assignment (name : String) (spot : Spot) : Option Assignment :=
    assigning.map fun ⟨operator, value, place⟩ => ⟨operator, value, place, name, spot⟩
  match root with
  | .reference name spot =>
      tick spot
      match ← find? name with
      | some place =>
          let entry ← variableAt place
          let target ← flat entry.value
          let (result, changed) ← self.walk (assignment name spot) steps entry.isConstant target
          if let some new := changed then store place new
          flat result
      | none =>
          if (← read).functions.any fun function => function.name == name then
            return (← self.walk (assignment name spot) steps false (.function name [])).1
          else fail (.noVariable name) spot
  | .this spot =>
      tick spot
      match (← get).this with
      | some target =>
          let (result, changed) ← self.walk (assignment "this" spot) steps false target
          if changed.isSome then modify fun machine => { machine with this := changed }
          flat result
      | none => fail .noThis spot
  | other =>
      let target ← flat (← self.expression other)
      flat (← self.walk (assignment "" other.spot) steps false target).1

end Interpreter

end PageInjection.Script
