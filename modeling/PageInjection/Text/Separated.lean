/-!
# Texts in pieces

Cutting a text at every separator, and writing pieces with a separator between
them.  Cutting never returns an empty list: the empty text is one empty piece.
-/

namespace PageInjection.Text

/-- The pieces between the separators, in order. -/
def splitOn (separator : Char) : List Char → List (List Char)
  | [] => [[]]
  | c :: rest =>
      if c = separator then [] :: splitOn separator rest
      else
        match splitOn separator rest with
        | [] => [[c]]
        | piece :: pieces => (c :: piece) :: pieces

/-- Write the pieces with the separator between neighbours. -/
def joinWith (separator : List Char) : List (List Char) → List Char
  | [] => []
  | [piece] => piece
  | piece :: pieces => piece ++ separator ++ joinWith separator pieces

theorem splitOn_ne_nil (separator : Char) (text : List Char) :
    splitOn separator text ≠ [] := by
  cases text with
  | nil => simp [splitOn]
  | cons c rest =>
      unfold splitOn
      split
      · simp
      · split <;> simp

/-- Whether the text starts with the given letters; what follows them if so. -/
def dropLead? : (lead text : List Char) → Option (List Char)
  | [], text => some text
  | _ :: _, [] => none
  | c :: lead, d :: text => if c = d then dropLead? lead text else none

theorem dropLead?_eq_some_iff {lead text rest : List Char} :
    dropLead? lead text = some rest ↔ text = lead ++ rest := by
  induction lead generalizing text with
  | nil => simp [dropLead?, eq_comm]
  | cons c lead ih =>
      cases text with
      | nil => simp [dropLead?]
      | cons d text =>
          by_cases same : c = d
          · subst same
            simp [dropLead?, ih]
          · have different : ¬ d = c := fun equality => same equality.symm
            simp [dropLead?, same, different]

end PageInjection.Text
