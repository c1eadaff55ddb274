import PageInjection.Script.Library.Callback

/-!
# The library of lists

Functions on lists.  Places are counted from zero, and from the end when they are
negative.
-/

namespace PageInjection.Script.Library

variable (self : Interpreter)

def placed (items : Array Value) : List (Value × Nat) :=
  items.toList.zipIdx

def asked (function : Value) (items : Array Value) (spot : Spot) : Run (List (Value × Bool)) :=
  (placed items).mapM fun (item, place) => do
    return (item, isTrue (← apply self function [] item [.int place] spot))

/-- The first item, from a place on, that a function says yes to, with its place. -/
def firstAsked (function : Value) (items : Array Value) (start : Nat) (spot : Spot) :
    Run (Option (Value × Nat)) :=
  firstOf (fun (item, place) => do
    return if isTrue (← apply self function [] item [.int place] spot) then some (item, place)
      else none)
    ((placed items).drop start)

/-- A place from the start or, when negative, from the end; at least zero and at
most the length. -/
def offset (length : Nat) (place : Int) : Nat :=
  if place < 0 then length - (-place).toNat else min place.toNat length

/-- The items from a place on, at most `count` of them: where they start and where
they stop. -/
def sliceOf (length : Nat) (start count : Int) : Nat × Nat :=
  let start := offset length start
  (start, min (start + count.toNat) length)

/-- The items of a range of places: where they start and where they stop. -/
def sliceOfRange (length : Nat) (first last : Int) (isInclusive : Bool) : Nat × Nat :=
  let (start, count) := spanOf first last isInclusive
  sliceOf length start count

/-- Whether values can be sorted on their own, and which comes first. -/
def isBefore (left right : Value) : Bool :=
  match Operator.plain? "<" left right with
  | some (.ok (.bool isLess)) => isLess
  | _ => false

/-- Put an item into its place in a sorted list, behind items that it does not
come before. -/
def insertBy (isLess : Value → Value → Run Bool) (item : Value) :
    List Value → Run (List Value)
  | [] => return [item]
  | head :: tail => do
      if ← isLess item head then return item :: head :: tail
      else return head :: (← insertBy isLess item tail)

/-- Sort, keeping the order of what counts as the same. -/
def sortBy (isLess : Value → Value → Run Bool) (items : List Value) : Run (List Value) :=
  items.foldlM (fun sorted item => do
    return (← insertBy (fun a b => isLess b a) item sorted.reverse).reverse) []

def sortedItems (items : Array Value) : List Value :=
  items.toList.mergeSort fun left right => !isBefore right left

def haveOneType (items : Array Value) : Bool :=
  items.all fun item => item.typeName == (items[0]?.map Value.typeName).getD ""

def withoutRepeats : List Value → List Value
  | [] => []
  | first :: rest =>
      match withoutRepeats rest with
      | [] => [first]
      | next :: others =>
          if Operator.same Operator.depth first next then first :: others
          else first :: next :: others

def placeIn (items : Array Value) (item : Value) (start : Nat) : Value :=
  let found := (placed items).find? fun (other, place) =>
    place ≥ start && Operator.same Operator.depth other item
  .int ((found.map fun (_, place) => Int.ofNat place).getD (-1))

/-- Functions that read a list and call nothing back. -/
def readList (name : String) (items : Array Value) (rest : List Value) : Option Native :=
  let slice (span : Nat × Nat) : Option Native := value (.list (items.extract span.1 span.2))
  match name, rest with
  | "len", [] => value (.int items.size)
  | "is_empty", [] => value (.bool items.isEmpty)
  | "get", [.int place] => value ((items[offset items.size place]?).getD .unit)
  | "contains", [item] =>
      value (.bool (items.any fun other => Operator.same Operator.depth other item))
  | "index_of", [item] => value (placeIn items item 0)
  | "index_of", [item, .int start] => value (placeIn items item (offset items.size start))
  | "extract", [.int start] => slice (offset items.size start, items.size)
  | "extract", [.int start, .int count] => slice (sliceOf items.size start count)
  | "extract", [.range first last isInclusive] =>
      slice (sliceOfRange items.size first last isInclusive)
  | "+", [.list other] => value (.list (items ++ other))
  | "==", [.list other] =>
      value (.bool (Operator.same Operator.depth (.list items) (.list other)))
  | "!=", [.list other] =>
      value (.bool !(Operator.same Operator.depth (.list items) (.list other)))
  | "order", [] => value (.list (sortedItems items).toArray)
  | "order_desc", [] => value (.list (sortedItems items).reverse.toArray)
  | _, _ => none

/-- Join the items of a list into one value, with their places. -/
def reduced (function start : Value) (items : List (Value × Nat)) (spot : Spot) : Option Native :=
  some <| .reads <| items.foldlM (fun result (item, place) =>
    apply self function [result] item [.int place] spot) start

/-- Functions that ask a function of the script about the items of a list. -/
def askList (name : String) (items : Array Value) (rest : List Value) (spot : Spot) :
    Option Native :=
  let indexOf (function : Value) (start : Nat) : Option Native := some <| .reads do
    let found ← firstAsked self function items start spot
    return .int ((found.map fun (_, place) => Int.ofNat place).getD (-1))
  let find (function : Value) (start : Nat) : Option Native := some <| .reads do
    return ((← firstAsked self function items start spot).map (·.1)).getD .unit
  let findMap (function : Value) (start : Nat) : Option Native := some <| .reads do
    let found ← firstOf (fun (item, place) => do
      match ← apply self function [] item [.int place] spot with
      | .unit => return none
      | other => return some other) ((placed items).drop start)
    return found.getD .unit
  match name, rest with
  | "map", [function] => do
      let function ← named? function
      some <| .reads do
        let values ← (placed items).mapM fun (item, place) =>
          apply self function [] item [.int place] spot
        return .list values.toArray
  | "filter", [function] => do
      let function ← named? function
      some <| .reads do
        let found ← asked self function items spot
        return .list ((found.filter (·.2)).map (·.1)).toArray
  | "index_of", [function] => do indexOf (← named? function) 0
  | "index_of", [function, .int start] => do
      indexOf (← named? function) (offset items.size start)
  | "find", [function] => do find (← function? function) 0
  | "find", [function, .int start] => do find (← function? function) (offset items.size start)
  | "find_map", [function] => do findMap (← function? function) 0
  | "find_map", [function, .int start] => do
      findMap (← function? function) (offset items.size start)
  | "some", [function] => do
      let function ← named? function
      some <| .reads do
        return .bool (← firstAsked self function items 0 spot).isSome
  | "all", [function] => do
      let function ← named? function
      some <| .reads do
        let found ← firstOf (fun (item, place) => do
          return if isTrue (← apply self function [] item [.int place] spot) then none
            else some ()) (placed items)
        return .bool found.isNone
  | "reduce", [function] => do reduced self (← named? function) .unit (placed items) spot
  | "reduce", [function, start] => do reduced self (← named? function) start (placed items) spot
  | "reduce_rev", [function] => do
      reduced self (← named? function) .unit (placed items).reverse spot
  | "reduce_rev", [function, start] => do
      reduced self (← named? function) start (placed items).reverse spot
  | "order", [function] => do
      let function ← function? function
      some <| .reads do
        return .list (← sortBy (ordered self function spot) items.toList).toArray
  | "zip", [.list others, function] => do
      let function ← function? function
      some <| .reads do
        let values ← (items.toList.zip others.toList).zipIdx.mapM fun ((left, right), place) =>
          apply self function [left] right [.int place] spot
        return .list values.toArray
  | _, _ => none

/-- Functions that give a list a new value and call nothing back. -/
def writeList (name : String) (items : Array Value) (rest : List Value) (spot : Spot) :
    Option Native :=
  let become (items : Array Value) : Option Native := change .unit (.list items)
  let outer (span : Nat × Nat) : Array Value :=
    items.extract 0 span.1 ++ items.extract span.2 items.size
  let inner (span : Nat × Nat) : Array Value := items.extract span.1 span.2
  let removed (span : Nat × Nat) : Option Native := change (.list (inner span)) (.list (outer span))
  let kept (span : Nat × Nat) : Option Native :=
    if span.2 ≤ span.1 then change (.list #[]) (.list items)
    else change (.list (outer span)) (.list (inner span))
  let spliced (span : Nat × Nat) (other : Array Value) : Option Native :=
    become (items.extract 0 span.1 ++ other ++ items.extract span.2 items.size)
  match name, rest with
  | "push", [item] => become (items.push item)
  | "append", [.list other] | "+=", [.list other] => become (items ++ other)
  | "+=", [item] => become (items.push item)
  | "insert", [.int place, item] =>
      let place := offset items.size place
      become (items.extract 0 place ++ #[item] ++ items.extract place items.size)
  | "pop", [] => change (items.back?.getD .unit) (.list items.pop)
  | "shift", [] => change (items[0]?.getD .unit) (.list (items.extract 1 items.size))
  | "remove", [.int place] =>
      let place := if place < 0 then place + items.size else place
      if place < 0 then change .unit (.list items)
      else change ((items[place.toNat]?).getD .unit) (.list (outer (place.toNat, place.toNat + 1)))
  | "set", [.int place, item] => become (items.setIfInBounds (offset items.size place) item)
  | "pad", [.int length, item] =>
      become (items ++ (List.replicate (length.toNat - items.size) item).toArray)
  | "truncate", [.int count] => become (items.extract 0 count.toNat)
  | "chop", [.int count] => become (items.extract (items.size - count.toNat) items.size)
  | "clear", [] => become #[]
  | "reverse", [] => become items.reverse
  | "sort", [] | "sort_desc", [] =>
      if haveOneType items then
        let sorted := sortedItems items
        become (if name == "sort" then sorted else sorted.reverse).toArray
      else some <| .writes <| Run.fail
        (.noFunction (name ++ "() cannot be called with elements of different types")) spot
  | "dedup", [] => become (withoutRepeats items.toList).toArray
  | "split", [.int place] =>
      let place := offset items.size place
      change (.list (items.extract place items.size)) (.list (items.extract 0 place))
  | "drain", [.int start, .int count] => removed (sliceOf items.size start count)
  | "drain", [.range first last isInclusive] =>
      removed (sliceOfRange items.size first last isInclusive)
  | "retain", [.int start, .int count] => kept (sliceOf items.size start count)
  | "retain", [.range first last isInclusive] =>
      kept (sliceOfRange items.size first last isInclusive)
  | "splice", [.int start, .int count, .list other] =>
      spliced (sliceOf items.size start count) other
  | "splice", [.range first last isInclusive, .list other] =>
      spliced (sliceOfRange items.size first last isInclusive) other
  | _, _ => none

/-- Items without those that a function says are like the last one kept before. -/
def withoutAlike (function : Value) (spot : Spot) : List Value → Run (List Value)
  | [] => return []
  | first :: rest => do
      let kept ← rest.foldlM (fun (kept : List Value × Value) item => do
        let isAlike ← isTrue <$> Prod.fst <$> invoke self function none [kept.2, item] spot
        return if isAlike then kept else (kept.2 :: kept.1, item)) ([], first)
      return (kept.2 :: kept.1).reverse

/-- Functions that give a list a new value as a function of the script says. -/
def shapeList (name : String) (items : Array Value) (rest : List Value) (spot : Spot) :
    Option Native :=
  let parted (test : Value × Bool → Bool) (function : Value) : Option Native :=
    some <| .writes do
      let (taken, kept) := (← asked self function items spot).partition test
      return (.list (taken.map (·.1)).toArray, .list (kept.map (·.1)).toArray)
  match name, rest with
  | "for_each", [function] => do
      let function ← function? function
      some <| .writes do
        let items ← (placed items).mapM fun (item, place) => do
          return ((← visit self function [] item [.int place] spot).2).getD item
        return (.unit, .list items.toArray)
  | "sort", [function] => do
      let function ← named? function
      some <| .writes do
        return (.unit, .list (← sortBy (ordered self function spot) items.toList).toArray)
  | "dedup", [function] => do
      let function ← named? function
      some <| .writes do
        return (.unit, .list (← withoutAlike self function spot items.toList).toArray)
  | "drain", [function] => do parted (·.2) (← named? function)
  | "retain", [function] => do parted (!·.2) (← named? function)
  | _, _ => none

def lists (name : String) (arguments : List Value) (spot : Spot) : Option Native :=
  match arguments with
  | .list items :: rest =>
      askList self name items rest spot <|> readList name items rest <|>
        shapeList self name items rest spot <|> writeList name items rest spot
  | _ => none

end PageInjection.Script.Library
