import PageInjection.Json

/-!
# Writing JSON

The compact form on one line, and the form with two blanks of indentation per
level.  Of the characters of a text only quotes, backslashes and control
characters are escaped.
-/

namespace PageInjection.Json

def escapeChar (c : Char) : List Char :=
  if c = '"' then ['\\', '"']
  else if c = '\\' then ['\\', '\\']
  else if c = '\n' then ['\\', 'n']
  else if c = '\r' then ['\\', 'r']
  else if c = '\t' then ['\\', 't']
  else if c.toNat = 8 then ['\\', 'b']
  else if c.toNat = 12 then ['\\', 'f']
  else if c.toNat < 32 then '\\' :: 'u' :: Text.hexadecimal 4 c.toNat
  else [c]

def quote (text : String) : String :=
  "\"" ++ String.ofList (text.toList.flatMap escapeChar) ++ "\""

mutual

/-- The form on one line, without blanks. -/
def compact : Json → String
  | .null => "null"
  | .bool value => if value then "true" else "false"
  | .integer value => toString value
  | .real value => realText value
  | .text value => quote value
  | .list items => "[" ++ compactItems items ++ "]"
  | .object members => "\x7b" ++ compactMembers members ++ "\x7d"

/-- The items of a list with commas between them. -/
def compactItems : List Json → String
  | [] => ""
  | [item] => compact item
  | item :: items => compact item ++ "," ++ compactItems items

/-- The members of an object with commas between them. -/
def compactMembers : List (String × Json) → String
  | [] => ""
  | [(name, value)] => quote name ++ ":" ++ compact value
  | (name, value) :: members => quote name ++ ":" ++ compact value ++ "," ++ compactMembers members

end

def lineStart (level : Nat) : String :=
  "\n" ++ String.ofList (List.replicate (2 * level) ' ')

mutual

/-- The form with one item or member on a line. -/
def pretty (level : Nat) : Json → String
  | .list [] => "[]"
  | .list items => "[" ++ prettyItems (level + 1) items ++ lineStart level ++ "]"
  | .object [] => "\x7b\x7d"
  | .object members => "\x7b" ++ prettyMembers (level + 1) members ++ lineStart level ++ "\x7d"
  | .null => "null"
  | .bool value => if value then "true" else "false"
  | .integer value => toString value
  | .real value => realText value
  | .text value => quote value

/-- The items of a list, each on a line of its own. -/
def prettyItems (level : Nat) : List Json → String
  | [] => ""
  | [item] => lineStart level ++ pretty level item
  | item :: items => lineStart level ++ pretty level item ++ "," ++ prettyItems level items

/-- The members of an object, each on a line of its own. -/
def prettyMembers (level : Nat) : List (String × Json) → String
  | [] => ""
  | [(name, value)] => lineStart level ++ quote name ++ ": " ++ pretty level value
  | (name, value) :: members =>
      lineStart level ++ quote name ++ ": " ++ pretty level value ++ "," ++
        prettyMembers level members

end

end PageInjection.Json
