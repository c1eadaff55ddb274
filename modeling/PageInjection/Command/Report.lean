import PageInjection.Digest
import PageInjection.Injection
import PageInjection.Json.Write
import PageInjection.Timestamp

/-!
# What commands answer

The texts an operator gets from commands that end well.
-/

namespace PageInjection.Report

/-- The answer of a command that renders, with the failures of scripts behind the
markup when they are wanted. -/
def rendered (point : RenderedPoint) (showErrors : Bool) : String :=
  if showErrors && !point.errors.isEmpty then
    (if point.markup.isEmpty then "" else point.markup ++ "\n\n") ++
      "Errors (" ++ toString point.errors.length ++ "):" ++
      String.join (point.errors.map ("\n  - " ++ ·))
  else point.markup

/-- The answer of a command that checks rules against a request. -/
def checked (rules : RuleSet) (context : RequestContext) : String :=
  if rules.rules.isEmpty then "No condition rules set; global fragments are not injected."
  else
    "Rules: " ++ ", ".intercalate (rules.rules.map (·.token)) ++ "\nResult: " ++
      if context.isAdmin then "skipped (admin request)"
      else
        match rules.firstMatch context with
        | some rule => "inject (matched '" ++ rule.token ++ "')"
        | none => "skip (no rule matched)"

/-- The answer of a command that sets a slot, with what is in it now. -/
def stored (slot : Slot) : Option StoredFragment → String
  | some record =>
      "Stored " ++ slot.scope.name ++ " " ++ slot.kind.name ++ " (" ++
        toString record.fragment.content.utf8ByteSize ++ " bytes, digest " ++
        record.fragment.digest ++ ")"
  | none => "Cleared " ++ slot.scope.name ++ " " ++ slot.kind.name

/-- The answer of the command that sets the rules. -/
def storedRules (text : String) : String :=
  "Stored condition rules (" ++ toString (RuleSet.parse text).rules.length ++ " rules)"

def globalLabel : FragmentKind → String
  | .style => "global style"
  | .clientScript => "global client script"
  | .serverScript => "global server script"

/-- The answer of a command that clears something. -/
def cleared (label : String) (wasSet : Bool) : String :=
  if wasSet then "Removed " ++ label else "Nothing stored for " ++ label

/-- The answer of the command that clears the script of a resource. -/
def clearedResource (id : ResourceId) (wasSet : Bool) : String :=
  let id := String.ofList (Text.decimal id.toNat)
  if wasSet then "Removed server script for resource " ++ id
  else "Nothing stored for resource " ++ id

def time (milliseconds : Int64) : String :=
  (Timestamp.text? milliseconds.toInt).getD "-"

def columns : List String := ["Scope", "Kind", "Bytes", "Digest", "Updated"]

def row (record : StoredFragment) : List String :=
  let fragment := record.fragment
  [fragment.scope.name, fragment.kind.name, toString fragment.content.utf8ByteSize,
    fragment.digest, time record.updatedAt]

def widths (rows : List (List String)) : List Nat :=
  rows.foldl (fun widths row => widths.zipWith (fun width cell => max width cell.length) row)
    (columns.map (·.length))

/-- A line of cells, each filled up to its width. -/
def line (widths : List Nat) (cells : List String) : String :=
  let filled := cells.zipWith
    (fun cell width =>
      " " ++ cell ++ String.ofList (List.replicate (width - cell.length) ' ') ++ " ")
    widths
  "│" ++ " ".intercalate filled ++ "│"

def rule (widths : List Nat) (first : String) (stroke : Char) (last : String) : String :=
  let length := widths.foldl (fun total width => total + width + 2) (widths.length - 1)
  first ++ String.ofList (List.replicate length stroke) ++ last

def table (records : List StoredFragment) : String :=
  let rows := records.map row
  let widths := widths rows
  "\n".intercalate (
    [rule widths "┌" '─' "┐", line widths columns, rule widths "╞" '═' "╡"] ++
    rows.map (line widths) ++ [rule widths "└" '─' "┘"])

/-- The answer of the command that lists fragments, for reading. -/
def listed (records : List StoredFragment) : String :=
  if records.isEmpty then "No fragments stored.\n\nUse 'codeweave set' to add one."
  else table records ++ "\n\nTotal: " ++ toString records.length ++ " fragment(s)"

def recordJson (record : StoredFragment) : Json :=
  let fragment := record.fragment
  .object [
    ("bytes", .integer fragment.content.utf8ByteSize),
    ("content", .text fragment.content),
    ("digest", .text fragment.digest),
    ("kind", .text fragment.kind.name),
    ("scope", .text fragment.scope.name),
    ("updated_at", .text (time record.updatedAt))]

/-- The answer of the command that lists fragments, for programs. -/
def listedJson (records : List StoredFragment) : String :=
  (Json.object [("fragments", .list (records.map recordJson)),
    ("total", .integer records.length)]).pretty 0

end PageInjection.Report
