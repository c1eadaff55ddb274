import PageInjection.Text.Blank
import PageInjection.Text.Separated

/-!
# Accounts

The list of accounts has a line for each, with colons between its parts: the
third is the number of the account, the sixth its home folder.
-/

namespace PageInjection.Account

def lines (text : String) : List (List Char) :=
  Text.splitOn '\n' text.toList

/-- The number of the account a process belongs to, by the description of the
process. -/
def owner? (status : String) : Option (List Char) := do
  let line ← (lines status).find? (fun line => (Text.dropLead? "Uid:".toList line).isSome)
  let numbers := Text.trim (line.drop 4)
  let number := numbers.takeWhile Char.isDigit
  guard (!number.isEmpty)
  return number

/-- The home folder of an account, by the list of accounts. -/
def home? (number : List Char) (accounts : String) : Option String :=
  (lines accounts).findSome? fun line =>
    match Text.splitOn ':' line with
    | _ :: _ :: found :: _ :: _ :: home :: _ =>
        if found = number then some (String.ofList home) else none
    | _ => none

end PageInjection.Account
