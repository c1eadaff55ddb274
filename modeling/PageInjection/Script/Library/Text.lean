import PageInjection.Script.Library.Number
import PageInjection.Text.Case
import PageInjection.Text.Separated
import PageInjection.Text.Utf8

/-!
# The library of texts

Functions on texts and letters.  Places in a text are counted in letters, and from
the end when they are negative.
-/

namespace PageInjection.Script.Library

def ofLetters (letters : List Char) : Value :=
  .text (String.ofList letters)

def letters? : Value → Option (List Char)
  | .text text => some text.toList
  | .char c => some [c]
  | _ => none

/-- Where a part first stands in a text from a place on. -/
def placeOf? (part : List Char) : (place : Nat) → List Char → Option Nat
  | place, [] => if part.isEmpty then some place else none
  | place, c :: text =>
      if part.isPrefixOf (c :: text) then some place else placeOf? part (place + 1) text

/-- Where a part first stands in a text from a place on; nothing stands in the empty
text or behind the last letter. -/
def foundAt (part text : List Char) (start : Int) : Value :=
  let offset : Nat := if start < 0 then text.length - (-start).toNat else start.toNat
  if offset ≥ text.length then .int (-1)
  else .int (((placeOf? part offset (text.drop offset)).map Int.ofNat).getD (-1))

/-- The parts of a text between separators, at most `count` of them. -/
def splitBy (separator : List Char) : (fuel count : Nat) → (part : List Char) → List Char →
    List (List Char)
  | 0, _, part, text => [part.reverse ++ text]
  | _, _, part, [] => [part.reverse]
  | fuel + 1, count, part, c :: text =>
      if count ≤ 1 then [part.reverse ++ c :: text]
      else if !separator.isEmpty && separator.isPrefixOf (c :: text) then
        part.reverse ::
          splitBy separator fuel (count - 1) [] ((c :: text).drop separator.length)
      else splitBy separator fuel count (c :: part) text

def splitText (separator text : List Char) (count : Nat) : Value :=
  let parts :=
    if separator.isEmpty then
      let letters := text.map fun c => [c]
      if letters.length + 2 ≤ count then [] :: letters ++ [[]]
      else
        let whole := [] :: (letters.take (count - 2))
        if count ≤ 1 then [text] else whole ++ [(letters.drop (count - 2)).flatten]
    else splitBy separator (text.length + 1) count [] text
  .list (parts.map ofLetters).toArray

/-- The parts of a text between separators, the last one first; what is left beyond
`count` parts stays together. -/
def splitBackwards (separator text : List Char) (count : Nat) : Value :=
  match splitText separator.reverse text.reverse count with
  | .list parts => .list (parts.map fun part => ofLetters ((letters? part).getD []).reverse)
  | other => other

def lettersOf (letters : List Char) : Value :=
  .list (letters.map Value.char).toArray

def words (text : List Char) : List (List Char) :=
  (text.splitBy fun a b => Text.isBlank a == Text.isBlank b).filter fun word =>
    !(word.head?.any Text.isBlank)

/-- The letters from a place on, at most `count` of them. -/
def lettersFrom (text : List Char) (start count : Int) : List Char :=
  if count ≤ 0 then []
  else
    let offset : Nat :=
      if start < 0 then text.length - (-start).toNat else start.toNat
    (text.drop offset).take count.toNat

/-- The start and the length of a range of places. -/
def spanOf (first last : Int) (isInclusive : Bool) : Int × Int :=
  let start := max first 0
  let stop := max (if isInclusive then last + 1 else last) start
  (start, stop - start)

/-- A text with every place of a part replaced. -/
def replaced (part other : List Char) : (fuel : Nat) → List Char → List Char
  | 0, text => text
  | _, [] => if part.isEmpty then other else []
  | fuel + 1, c :: text =>
      if part.isEmpty then other ++ c :: replaced part other fuel text
      else if part.isPrefixOf (c :: text) then
        other ++ replaced part other fuel ((c :: text).drop part.length)
      else c :: replaced part other fuel text

def repeated (filler : List Char) : (fuel : Nat) → (length : Nat) → List Char
  | 0, _ => []
  | fuel + 1, length =>
      if length = 0 || filler.isEmpty then []
      else filler.take length ++ repeated filler fuel (length - filler.length)

/-- A text cut at a place, into two. -/
def cutAt (text : List Char) (place : Int) : Value :=
  let count : Nat := if place ≤ 0 then text.length - (-place).toNat else place.toNat
  .list #[ofLetters (text.take count), ofLetters (text.drop count)]

def readText (name : String) (text : String) (rest : List Value) : Option Native :=
  let letters := text.toList
  match name, rest with
  | "len", [] => value (.int letters.length)
  | "bytes", [] => value (.int text.utf8ByteSize)
  | "is_empty", [] => value (.bool text.isEmpty)
  | "to_upper", [] => value (ofLetters (Text.toUpper letters))
  | "to_lower", [] => value (ofLetters (Text.toLower letters))
  | "contains", [part] => do
      value (.bool (placeOf? (← letters? part) 0 letters).isSome)
  | "starts_with", [.text part] => value (.bool (part.toList.isPrefixOf letters))
  | "ends_with", [.text part] => value (.bool (part.toList.isSuffixOf letters))
  | "index_of", [part] => do value (foundAt (← letters? part) letters 0)
  | "index_of", [part, .int start] => do value (foundAt (← letters? part) letters start)
  | "sub_string", [.int start] => value (ofLetters (lettersFrom letters start letters.length))
  | "sub_string", [.int start, .int count] => value (ofLetters (lettersFrom letters start count))
  | "sub_string", [.range first last isInclusive] =>
      let (start, count) := spanOf first last isInclusive
      value (ofLetters (lettersFrom letters start count))
  | "split", [] => value (.list ((words letters).map ofLetters).toArray)
  | "split", [.int place] => value (cutAt letters place)
  | "split", [separator] => do
      value (splitText (← letters? separator) letters (letters.length + 2))
  | "split", [separator, .int count] => do
      value (splitText (← letters? separator) letters (max count 1).toNat)
  | "split_rev", [separator] => do
      value (splitBackwards (← letters? separator) letters (letters.length + 2))
  | "split_rev", [separator, .int count] => do
      value (splitBackwards (← letters? separator) letters (max count 1).toNat)
  | "chars", [.int start] => value (lettersOf (lettersFrom letters start letters.length))
  | "chars", [.int start, .int count] => value (lettersOf (lettersFrom letters start count))
  | "chars", [.range first last isInclusive] =>
      let (start, count) := spanOf first last isInclusive
      value (lettersOf (lettersFrom letters start count))
  | "chars", [] | "to_chars", [] => value (lettersOf letters)
  | "get", [.int place] =>
      let place := if place < 0 then place + letters.length else place
      value (if place < 0 then .unit else ((letters[place.toNat]?).map Value.char).getD .unit)
  | _, _ => none

def writeText (name : String) (text : String) (rest : List Value) : Option Native :=
  let letters := text.toList
  let become (letters : List Char) : Option Native := change .unit (ofLetters letters)
  match name, rest with
  | "trim", [] => become (Text.trim letters)
  | "clear", [] => become []
  | "make_upper", [] => become (Text.toUpper letters)
  | "make_lower", [] => become (Text.toLower letters)
  | "truncate", [.int count] => become (letters.take count.toNat)
  | "crop", [.int start] => become (lettersFrom letters start letters.length)
  | "crop", [.int start, .int count] => become (lettersFrom letters start count)
  | "crop", [.range first last isInclusive] =>
      let (start, count) := spanOf first last isInclusive
      become (lettersFrom letters start count)
  | "replace", [part, other] => do
      become (replaced (← letters? part) (← letters? other) (letters.length + 1) letters)
  | "remove", [part] => do
      become (Operator.without (← letters? part) (letters.length + 1) letters)
  | "pad", [.int length, filler] => do
      let filler ← letters? filler
      let missing := length.toNat - letters.length
      become (letters ++ repeated filler missing missing)
  | "pop", [] =>
      change ((letters.getLast?.map Value.char).getD .unit) (ofLetters letters.dropLast)
  | "pop", [.int count] =>
      let kept := letters.length - count.toNat
      change (ofLetters (letters.drop kept)) (ofLetters (letters.take kept))
  | "append", [.text other] => change .unit (.text (text ++ other))
  | "append", [.char other] => change .unit (.text (text.push other))
  | "set", [.int place, .char c] =>
      let place := if place < 0 then place + letters.length else place
      if place < 0 then become letters else become (letters.set place.toNat c)
  | _, _ => none

def ofLetter (name : String) (c : Char) : Option Native :=
  match name with
  | "to_upper" => value (match Text.upperChar c with
      | [upper] => .char upper
      | _ => .char c)
  | "to_lower" => value (match Text.lowerChar c with
      | [lower] => .char lower
      | _ => .char c)
  | "to_int" => value (.int c.toNat)
  | "make_upper" => change .unit (match Text.upperChar c with
      | [upper] => .char upper
      | _ => .char c)
  | "make_lower" => change .unit (match Text.lowerChar c with
      | [lower] => .char lower
      | _ => .char c)
  | _ => none

def texts (name : String) (arguments : List Value) : Option Native :=
  match arguments with
  | .text text :: rest => readText name text rest <|> writeText name text rest
  | [.char c] => ofLetter name c
  | _ => none

end PageInjection.Script.Library
