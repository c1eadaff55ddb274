import PageInjection.Text.Numeral
import PageInjection.Text.Separated

/-!
# The words of a TOML document

Blanks, comments, line ends, texts and names.  Every step takes what is left of
the document and returns what it leaves; a fault says how much was left where
the document went wrong.
-/

namespace PageInjection.Toml

/-- Where a document goes wrong: how many characters are left there. -/
structure Fault where
  remaining : Nat
deriving DecidableEq, Repr

/-- The document goes wrong in front of the rest. -/
def faultAt (rest : List Char) : Except Fault α :=
  .error ⟨rest.length⟩

/-- The characters between the words of a line. -/
def isSpace (c : Char) : Bool := c == ' ' || c == '\t'

def isCommentChar (c : Char) : Bool :=
  c == '\t' || (0x20 ≤ c.toNat && c.toNat != 0x7F)

/-- The characters that stand for themselves in double quotes. -/
def isQuotedChar (c : Char) : Bool :=
  isCommentChar c && c != '"' && c != '\\'

/-- The characters a text in single quotes may hold. -/
def isLiteralChar (c : Char) : Bool :=
  isCommentChar c && c != '\''

def isNameChar (c : Char) : Bool :=
  c.isAlphanum || c == '-' || c == '_'

def skipSpaces (source : List Char) : List Char :=
  source.dropWhile isSpace

/-- Skip a comment up to the end of its line. -/
def skipComment : List Char → List Char
  | '#' :: rest => rest.dropWhile isCommentChar
  | rest => rest

def afterNewline? : List Char → Option (List Char)
  | '\n' :: rest => some rest
  | '\r' :: '\n' :: rest => some rest
  | _ => none

def skipSpacedLines : List Char → List Char
  | '\r' :: '\n' :: rest => skipSpacedLines rest
  | c :: rest => if isSpace c || c == '\n' then skipSpacedLines rest else c :: rest
  | [] => []

/-- The end of a line, or of the document. -/
def endLine (source : List Char) : Except Fault (List Char) :=
  match source with
  | [] => .ok []
  | _ =>
      match afterNewline? source with
      | some rest => .ok rest
      | none => faultAt source

/-- The end of a line with a statement: spaces and a comment may come first. -/
def endStatement (source : List Char) : Except Fault (List Char) :=
  endLine (skipComment (skipSpaces source))

/-- The character with a code point written as `width` hexadecimal digits. -/
def takeCodePoint (width : Nat) (source : List Char) : Except Fault (Char × List Char) :=
  let digits := source.take width
  let code := digits.foldlM (fun code c => do return code * 16 + (← Text.hexValue? c)) 0
  match code with
  | some code =>
      if digits.length = width ∧ Nat.isValidChar code then
        .ok (Char.ofNat code, source.drop width)
      else faultAt source
  | none => faultAt source

/-- The character an escape stands for, after its backslash. -/
def takeEscape : List Char → Except Fault (Char × List Char)
  | 'b' :: rest => .ok (Char.ofNat 8, rest)
  | 't' :: rest => .ok ('\t', rest)
  | 'n' :: rest => .ok ('\n', rest)
  | 'f' :: rest => .ok (Char.ofNat 12, rest)
  | 'r' :: rest => .ok ('\r', rest)
  | '"' :: rest => .ok ('"', rest)
  | '\\' :: rest => .ok ('\\', rest)
  | 'u' :: rest => takeCodePoint 4 rest
  | 'U' :: rest => takeCodePoint 8 rest
  | rest => faultAt (rest.drop 1)

/-- The rest of a text in double quotes; `done` is what was read, last character
first. -/
def takeQuoted : (fuel : Nat) → (done : List Char) → List Char →
    Except Fault (String × List Char)
  | 0, _, rest => faultAt rest
  | fuel + 1, done, source =>
      match source with
      | '"' :: rest => .ok (String.ofList done.reverse, rest)
      | ['\\'] => faultAt source
      | '\\' :: rest => do
          let (c, rest) ← takeEscape rest
          takeQuoted fuel (c :: done) rest
      | c :: rest => if isQuotedChar c then takeQuoted fuel (c :: done) rest else faultAt source
      | [] => faultAt []

def takeLiteral (source : List Char) : Except Fault (String × List Char) :=
  let (value, rest) := source.span isLiteralChar
  match rest with
  | '\'' :: rest => .ok (String.ofList value, rest)
  | _ => faultAt rest

/-- How many quotes a run of three or more leaves to the text: three close it,
and up to two may stand before them. -/
def quotesBeforeEnd (run : Nat) : Nat := min (run - 3) 2

/-- What follows a backslash that hides a line end, with all the blank space
after it. -/
def afterHiddenNewline? (source : List Char) : Option (List Char) :=
  (afterNewline? (skipSpaces source)).map skipSpacedLines

/-- Whether a text of several lines goes on after one or two quotes. -/
def goesOn : List Char → Bool
  | ['\\'] => false
  | c :: rest => c == '\\' || isQuotedChar c || (afterNewline? (c :: rest)).isSome
  | [] => false

/-- The rest of a text between three double quotes. -/
def takeQuotedLines : (fuel : Nat) → (done : List Char) → List Char →
    Except Fault (String × List Char)
  | 0, _, rest => faultAt rest
  | fuel + 1, done, source =>
      match source with
      | [] => faultAt []
      | ['\\'] => faultAt source
      | '\\' :: rest =>
          match afterHiddenNewline? rest with
          | some rest => takeQuotedLines fuel done rest
          | none => do
              let (c, rest) ← takeEscape rest
              takeQuotedLines fuel (c :: done) rest
      | '"' :: _ =>
          let (quotes, rest) := source.span (· == '"')
          if quotes.length ≥ 3 then
            let kept := quotesBeforeEnd quotes.length
            .ok (String.ofList (done.reverse ++ quotes.take kept), source.drop (kept + 3))
          else if goesOn rest then takeQuotedLines fuel (quotes ++ done) rest
          else faultAt source
      | c :: rest =>
          match afterNewline? source with
          | some rest => takeQuotedLines fuel ('\n' :: done) rest
          | none =>
              if isQuotedChar c then takeQuotedLines fuel (c :: done) rest else faultAt source

/-- The rest of a text between three single quotes. -/
def takeLiteralLines : (fuel : Nat) → (done : List Char) → List Char →
    Except Fault (String × List Char)
  | 0, _, rest => faultAt rest
  | fuel + 1, done, source =>
      match source with
      | [] => faultAt []
      | '\'' :: _ =>
          let (quotes, rest) := source.span (· == '\'')
          let continues := match rest with
            | c :: _ => isLiteralChar c || (afterNewline? rest).isSome
            | [] => false
          if quotes.length ≥ 3 then
            let kept := quotesBeforeEnd quotes.length
            .ok (String.ofList (done.reverse ++ quotes.take kept), source.drop (kept + 3))
          else if continues then takeLiteralLines fuel (quotes ++ done) rest
          else faultAt source
      | c :: rest =>
          match afterNewline? source with
          | some rest => takeLiteralLines fuel ('\n' :: done) rest
          | none =>
              if isLiteralChar c then takeLiteralLines fuel (c :: done) rest else faultAt source

def dropNewline (source : List Char) : List Char :=
  (afterNewline? source).getD source

def takeText (source : List Char) : Except Fault (String × List Char) :=
  let fuel := source.length + 1
  match source with
  | '"' :: '"' :: '"' :: rest => takeQuotedLines fuel [] (dropNewline rest)
  | '"' :: rest => takeQuoted fuel [] rest
  | '\'' :: '\'' :: '\'' :: rest => takeLiteralLines fuel [] (dropNewline rest)
  | '\'' :: rest => takeLiteral rest
  | rest => faultAt rest

/-- One name of a dotted name, if there is one. -/
def takeName (source : List Char) : Except Fault (Option (String × List Char)) :=
  match source with
  | '"' :: rest => do return some (← takeQuoted (source.length + 1) [] rest)
  | '\'' :: rest => do return some (← takeLiteral rest)
  | _ =>
      let (name, rest) := source.span isNameChar
      .ok (if name.isEmpty then none else some (String.ofList name, rest))

/-- The names after the first one; a point without a name behind it is left. -/
def takeMoreNames : (fuel : Nat) → List Char → Except Fault (List String × List Char)
  | 0, rest => .ok ([], rest)
  | fuel + 1, source =>
      let source := skipSpaces source
      match source with
      | '.' :: rest => do
          match ← takeName (skipSpaces rest) with
          | some (name, rest) =>
              let (names, rest) ← takeMoreNames fuel rest
              return (name :: names, rest)
          | none => return ([], source)
      | rest => .ok ([], rest)

/-- How many names a dotted name may have, and how deep values may be nested. -/
def greatestDepth : Nat := 79

/-- A dotted name, if there is one: its leading names and its last. -/
def takeKey? (source : List Char) :
    Except Fault (Option ((String × List String) × List Char)) := do
  match ← takeName (skipSpaces source) with
  | none => return none
  | some (first, rest) =>
      let (names, rest) ← takeMoreNames source.length rest
      if names.length ≥ greatestDepth then faultAt source
      return some ((first, names), rest)

end PageInjection.Toml
