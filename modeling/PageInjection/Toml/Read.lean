import PageInjection.Text.Utf8
import PageInjection.Toml.Number

/-!
# Reading TOML

`Toml.read` takes a whole document and returns its members.  A document that is
wrong is refused with the line and the column of its first fault.
-/

namespace PageInjection.Toml

/-- Skip blank space and comments between the items of a list. -/
def skipFiller : (fuel : Nat) → List Char → List Char
  | 0, rest => rest
  | fuel + 1, source =>
      match skipSpacedLines source with
      | '#' :: rest => skipFiller fuel (skipComment ('#' :: rest))
      | rest => rest

def takeWord (word : String) (value : Toml) (source : List Char) :
    Except Fault (Toml × List Char) :=
  match Text.dropLead? word.toList source with
  | some rest => .ok (value, rest)
  | none => faultAt source

/-- The table between braces with the given members. -/
def ofPairs (pairs : List ((String × List String) × Toml)) : Option Members :=
  pairs.foldlM (fun members ((first, more), value) =>
    let (path, name) := splitLast first more
    define value path name members) []

mutual

/-- A value; `depth` is how many brackets may still be opened. -/
def takeValue : (fuel depth : Nat) → List Char → Except Fault (Toml × List Char)
  | 0, _, rest => faultAt rest
  | fuel + 1, depth, source =>
      match source with
      | '"' :: _ => do let (value, rest) ← takeText source; return (.text value, rest)
      | '\'' :: _ => do let (value, rest) ← takeText source; return (.text value, rest)
      | '[' :: rest =>
          match depth with
          | 0 => faultAt source
          | depth + 1 => do
              let (items, rest) ← takeItems fuel depth rest
              return (.list false items, rest)
      | '\x7b' :: rest =>
          match depth with
          | 0 => faultAt source
          | depth + 1 => do
              let (pairs, after) ← takePairs fuel depth rest
              match ofPairs pairs, skipSpaces after with
              | none, _ => faultAt rest
              | some members, '\x7d' :: rest => return (.table .closed members, rest)
              | some _, rest => faultAt rest
      | 't' :: _ => takeWord "true" (.flag true) source
      | 'f' :: _ => takeWord "false" (.flag false) source
      | 'i' :: _ => takeWord "inf" (.real (1.0 / 0.0)) source
      | 'n' :: _ => takeWord "nan" (.real (0.0 / 0.0)) source
      | c :: _ => if c = '+' ∨ c = '-' ∨ c.isDigit then takeNumber source else faultAt source
      | [] => faultAt []

/-- The items of a list, up to its closing bracket. -/
def takeItems : (fuel depth : Nat) → List Char → Except Fault (List Toml × List Char)
  | 0, _, rest => faultAt rest
  | fuel + 1, depth, source =>
      match skipFiller source.length source with
      | ']' :: rest => .ok ([], rest)
      | item =>
          if isLoneSign item then faultAt item
          else do
            let (value, rest) ← takeValue fuel depth item
            match skipFiller rest.length rest with
            | ',' :: rest =>
                let (items, rest) ← takeItems fuel depth rest
                return (value :: items, rest)
            | ']' :: rest => return ([value], rest)
            | rest => faultAt rest

/-- The members between braces; a comma without a member behind it is left. -/
def takePairs : (fuel depth : Nat) → List Char →
    Except Fault (List ((String × List String) × Toml) × List Char)
  | 0, _, rest => faultAt rest
  | fuel + 1, depth, source => do
      match ← takeKey? source with
      | none => return ([], source)
      | some (key, rest) =>
          let rest ← requireChar '=' rest
          let (value, rest) ← takeValue fuel depth (skipSpaces rest)
          let rest := skipSpaces rest
          match rest with
          | ',' :: more =>
              match ← takePairs fuel depth more with
              | ([], _) => return ([(key, value)], rest)
              | (pairs, rest) => return ((key, value) :: pairs, rest)
          | _ => return ([(key, value)], rest)

end

/-- What was read of a document: its members, and the path of the last header. -/
structure Reading where
  members : Members := []
  path : List String := []

def requireKey (source : List Char) : Except Fault ((String × List String) × List Char) := do
  match ← takeKey? source with
  | some found => return found
  | none => faultAt (skipSpaces source)

/-- A change of the document that must not define anything twice. -/
def settle (statement : List Char) : Option Members → Except Fault Members
  | some members => .ok members
  | none => faultAt statement

/-- A definition such as `name = value`. -/
def takeDefinition (reading : Reading) (source : List Char) :
    Except Fault (Reading × List Char) := do
  let ((first, more), rest) ← requireKey source
  let rest ← requireChar '=' rest
  let (value, rest) ← takeValue (2 * source.length + 2) greatestDepth (skipSpaces rest)
  let rest ← endStatement rest
  let (path, name) := splitLast first more
  let members ← settle source (within reading.path (define value path name) reading.members)
  return ({ reading with members }, rest)

/-- A header such as `[name]`, or `[[name]]` for the next table of a list. -/
def takeHeader (reading : Reading) (source : List Char) : Except Fault (Reading × List Char) := do
  match source with
  | '[' :: '[' :: rest =>
      let ((first, more), rest) ← requireKey rest
      match rest with
      | ']' :: ']' :: rest =>
          let rest ← endStatement rest
          let (path, name) := splitLast first more
          let members ← settle source (within path (openItem name) reading.members)
          return (⟨members, first :: more⟩, rest)
      | rest => faultAt rest
  | ['['] => faultAt source
  | _ :: rest =>
      let ((first, more), rest) ← requireKey rest
      let rest ← requireChar ']' rest
      let rest ← endStatement rest
      let (path, name) := splitLast first more
      let members ← settle source (within path (openTable name) reading.members)
      return (⟨members, first :: more⟩, rest)
  | [] => faultAt []

def takeStatements : (fuel : Nat) → Reading → List Char → Except Fault Members
  | 0, _, rest => faultAt rest
  | fuel + 1, reading, source =>
      match skipSpaces source with
      | [] => .ok reading.members
      | '#' :: rest => do
          let rest ← endLine (skipComment ('#' :: rest))
          takeStatements fuel reading rest
      | '[' :: rest => do
          let (reading, rest) ← takeHeader reading ('[' :: rest)
          takeStatements fuel reading rest
      | c :: rest =>
          if c = '\n' ∨ c = '\r' then do
            takeStatements fuel reading (← endLine (c :: rest))
          else do
            let (reading, rest) ← takeDefinition reading (c :: rest)
            takeStatements fuel reading rest

/-- The line and the column of a place, both counted from one.  Columns count
characters; in front of a character beyond ASCII they count bytes. -/
def lineAndColumn (before : List Char) (next : Option Char) : Nat × Nat :=
  let line := (before.filter (· == '\n')).length + 1
  let current := (before.reverse.takeWhile (· != '\n')).reverse
  let column := match next with
    | some c => if c.toNat < 0x80 then current.length else (Text.encode current).length
    | none => current.length
  (line, column + 1)

/-- The place of a fault.  The end of the document is the place after its last
character, on the line of that character. -/
def placeOf (source : List Char) (fault : Fault) : Nat × Nat :=
  match source.drop (source.length - fault.remaining) with
  | next :: rest => lineAndColumn (source.take (source.length - rest.length - 1)) (some next)
  | [] =>
      let (line, column) := lineAndColumn source.dropLast none
      (line, column + 1)

/-- The mark of byte order, which may start a document. -/
def dropMark : List Char → List Char
  | c :: rest => if c.toNat = 0xFEFF then rest else c :: rest
  | [] => []

def read (text : String) : Except String Members :=
  let source := text.toList
  match takeStatements (source.length + 1) {} (dropMark source) with
  | .ok members => .ok members
  | .error fault =>
      let (line, column) := placeOf source fault
      .error ("TOML parse error at line " ++ toString line ++ ", column " ++ toString column)

end PageInjection.Toml
