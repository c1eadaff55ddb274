import PageInjection.Text.Blank

/-!
# Taking markup out of a text

A pattern tells how much of the text in front it takes.  `removeMatches`
deletes the leftmost matches of a pattern that do not overlap, in one pass.
`strip` does so for script elements, style elements, comments and tags, one
after the other, and trims what is left.
-/

namespace PageInjection.Markup

/-- What follows the match at the front of a text, if the pattern matches. -/
abbrev Pattern := List Char → Option (List Char)

/-- Delete the matches of a pattern; `skip` characters still belong to the
match found last. -/
def removeFrom (pattern : Pattern) : (skip : Nat) → List Char → List Char
  | _, [] => []
  | skip + 1, _ :: rest => removeFrom pattern skip rest
  | 0, c :: rest =>
      match pattern (c :: rest) with
      | some after => removeFrom pattern (rest.length - after.length) rest
      | none => c :: removeFrom pattern 0 rest

/-- Delete the leftmost matches that do not overlap. -/
def removeMatches (pattern : Pattern) (text : List Char) : List Char :=
  removeFrom pattern 0 text

/-- Whether a character is a lower-case letter, up to simple case folding.  The
long s folds to `s`. -/
def foldsTo (letter c : Char) : Bool :=
  c.toLower == letter || (letter == 's' && c == 'ſ')

def word : (letters : List Char) → Pattern
  | [], text => some text
  | _ :: _, [] => none
  | letter :: letters, c :: rest => if foldsTo letter c then word letters rest else none

/-- Everything up to and including the next `>`. -/
def throughClose : Pattern
  | [] => none
  | c :: rest => if c = '>' then some rest else throughClose rest

/-- Everything up to and including the next `>`, or all when there is none. -/
def throughCloseOrEnd : List Char → List Char
  | [] => []
  | c :: rest => if c = '>' then rest else throughCloseOrEnd rest

/-- A closing tag of the named element, with blanks before its `>`. -/
def closingTag (name : List Char) : Pattern
  | '<' :: '/' :: rest => do
      let rest ← word name rest
      match rest.dropWhile Text.isBlank with
      | '>' :: rest => some rest
      | _ => none
  | _ => none

/-- Everything through the next closing tag of the named element. -/
def throughClosingTag (name : List Char) : Pattern
  | [] => none
  | c :: rest =>
      match closingTag name (c :: rest) with
      | some after => some after
      | none => throughClosingTag name rest

/-- A whole element: an opening tag and everything through its closing tag. -/
def element (name : List Char) : Pattern
  | '<' :: rest => do
      let rest ← word name rest
      let rest ← throughClose rest
      throughClosingTag name rest
  | _ => none

/-- Everything through the end of a comment, or all when it does not end. -/
def throughCommentEnd : List Char → List Char
  | [] => []
  | '-' :: '-' :: '>' :: rest => rest
  | _ :: rest => throughCommentEnd rest

/-- A comment; one that does not end runs to the end of the text. -/
def comment : Pattern
  | '<' :: '!' :: '-' :: '-' :: rest => some (throughCommentEnd rest)
  | _ => none

/-- The characters that make a tag when they follow `<`. -/
def opensTag (c : Char) : Bool :=
  c.isAlpha || c == '/' || c == '!' || c == '?'

/-- A tag; one that does not end runs to the end of the text. -/
def tag : Pattern
  | '<' :: c :: rest => if opensTag c then some (throughCloseOrEnd rest) else none
  | _ => none

def scriptName : List Char := ['s', 'c', 'r', 'i', 'p', 't']

def styleName : List Char := ['s', 't', 'y', 'l', 'e']

/-- Remove nested markup: script and style elements with their content, then
comments, then tags; and trim. -/
def strip (text : List Char) : List Char :=
  Text.trim <|
    removeMatches tag <|
    removeMatches comment <|
    removeMatches (element styleName) <|
    removeMatches (element scriptName) text

def styleBlock (css : String) : String :=
  "<style>" ++ String.ofList (strip css.toList) ++ "</style>"

def scriptBlock (js : String) : String :=
  "<script>" ++ String.ofList (strip js.toList) ++ "</script>"

end PageInjection.Markup
