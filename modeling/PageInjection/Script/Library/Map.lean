import PageInjection.Script.Library.List

/-!
# The library of maps, functions and output

Functions on maps and on function values, printing, and the joining of texts with
other values.  `native?` is the whole library.
-/

namespace PageInjection.Script.Library

variable (self : Interpreter)

/-- The members of two maps; the latter wins. -/
def merged (left right : List (String × Value)) : List (String × Value) :=
  right.foldl (fun map (name, value) => Value.putMember name value map) left

def readMap (name : String) (members : List (String × Value)) (rest : List Value) (spot : Spot) :
    Option Native :=
  match name, rest with
  | "len", [] => value (.int members.length)
  | "is_empty", [] => value (.bool members.isEmpty)
  | "contains", [.text name] => value (.bool (Value.memberOf? name members).isSome)
  | "get", [.text name] => value ((Value.memberOf? name members).getD .unit)
  | "keys", [] => value (.list (members.map fun (name, _) => Value.text name).toArray)
  | "values", [] => value (.list (members.map (·.2)).toArray)
  | "+", [.map other] => value (.map (merged members other))
  | "==", [.map other] =>
      value (.bool (Operator.same Operator.depth (.map members) (.map other)))
  | "!=", [.map other] =>
      value (.bool !(Operator.same Operator.depth (.map members) (.map other)))
  | "to_json", [] => some <| .reads do
      return .text (Value.asJson (← get).cells Value.displayDepth (.map members))
  | "filter", [function] => do
      let function ← function? function
      some <| .reads do
        let found ← members.filterM fun (name, value) => do
          return isTrue (← apply self function [.text name] value [] spot)
        return .map found
  | _, _ => none

def writeMap (name : String) (members : List (String × Value)) (rest : List Value) (spot : Spot) :
    Option Native :=
  let become (members : List (String × Value)) : Option Native := change .unit (.map members)
  let parted (takes : Bool) (function : Value) : Option Native := do
    let function ← function? function
    some <| .writes do
      let found ← members.mapM fun (name, value) => do
        return ((name, value), isTrue (← apply self function [.text name] value [] spot))
      let (taken, kept) := found.partition (·.2 == takes)
      return (.map (taken.map (·.1)), .map (kept.map (·.1)))
  match name, rest with
  | "clear", [] => become []
  | "set", [.text name, value] => become (Value.putMember name value members)
  | "remove", [.text name] =>
      change ((Value.memberOf? name members).getD .unit) (.map (Value.dropMember name members))
  | "mixin", [.map other] | "+=", [.map other] => become (merged members other)
  | "fill_with", [.map other] => become (merged other members)
  | "drain", [function] => parted true function
  | "retain", [function] => parted false function
  | _, _ => none

def functions (name : String) (arguments : List Value) : Option Native :=
  match name, arguments with
  | "name", [.function name _] => value (.text name)
  | "is_anonymous", [.function name _] => value (.bool (name.startsWith closureMark))
  | "curry", .function name bound :: rest => value (.function name (bound ++ rest))
  | _, _ => none

def general (name : String) (arguments : List Value) (spot : Spot) : Option Native :=
  match name, arguments with
  | "echo", [value] => some <| .reads do
      Run.print (.echo (← Run.display value))
      return .unit
  | "print", [] => some <| .reads do
      Run.print (.print "")
      return .unit
  | "print", [value] => some <| .reads do
      Run.print (.print (← Run.display value))
      return .unit
  | "debug", [] => some <| .reads do
      Run.remark ⟨"", spot⟩
      return .unit
  | "debug", [value] => some <| .reads do
      Run.remark ⟨Value.quoted (← get).cells Value.displayDepth value, spot⟩
      return .unit
  | "to_string", [value] => some (.reads (Value.text <$> Run.display value))
  | "to_debug", [value] => some <| .reads do
      return .text (Value.quoted (← get).cells Value.displayDepth value)
  | "type_of", [value] => Library.value (.text value.typeName)
  | "is_shared", [_] => value (.bool false)
  | "+", [.text text, other] => some <| .reads do
      return .text (text ++ (← Run.display other))
  | "+", [other, .text text] => some <| .reads do
      return .text ((← Run.display other) ++ text)
  | "+=", [.text text, other] => some <| .writes do
      return (.unit, .text (text ++ (← Run.display other)))
  | _, _ => none

/-- The library: what a name stands for, given the arguments. -/
def native? (name : String) (arguments : List Value) (spot : Spot) : Option Native :=
  match arguments with
  | .list items :: rest => lists self name (.list items :: rest) spot <|>
      general name (.list items :: rest) spot
  | .map members :: rest =>
      readMap self name members rest spot <|> writeMap self name members rest spot <|>
        general name (.map members :: rest) spot
  | _ =>
      general name arguments spot <|> texts name arguments <|> numbers name arguments spot <|>
        functions name arguments

end PageInjection.Script.Library
