/-!
# Places in a script

A spot is a line and a column, both counted from one.  Messages name it in
round brackets.
-/

namespace PageInjection.Script

/-- A place in a script. -/
structure Spot where
  line : Nat
  column : Nat
deriving DecidableEq, Repr, Inhabited

namespace Spot

def start : Spot := ⟨1, 0⟩

def after (spot : Spot) (c : Char) : Spot :=
  if c = '\n' then ⟨spot.line + 1, 0⟩ else ⟨spot.line, spot.column + 1⟩

def next (spot : Spot) : Spot :=
  ⟨spot.line, spot.column + 1⟩

def words (spot : Spot) : String :=
  "line " ++ toString spot.line ++ ", position " ++ toString spot.column

def suffix (spot : Spot) : String :=
  " (" ++ spot.words ++ ")"

def short (spot : Spot) : String :=
  toString spot.line ++ ":" ++ toString spot.column

end Spot

end PageInjection.Script
