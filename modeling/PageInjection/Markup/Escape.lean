/-!
# Character entities

The five characters that HTML text, attributes and comments cannot hold are
written as entities.  `unescape` reads them back from left to right and leaves
everything else as it is.
-/

namespace PageInjection.Markup

/-- The entity of a character, or the character itself. -/
def entity (c : Char) : List Char :=
  if c = '&' then ['&', 'a', 'm', 'p', ';']
  else if c = '<' then ['&', 'l', 't', ';']
  else if c = '>' then ['&', 'g', 't', ';']
  else if c = '"' then ['&', 'q', 'u', 'o', 't', ';']
  else if c = '\'' then ['&', '#', '0', '3', '9', ';']
  else [c]

def escape (text : List Char) : List Char :=
  text.flatMap entity

def unescape : List Char → List Char
  | [] => []
  | '&' :: 'a' :: 'm' :: 'p' :: ';' :: rest => '&' :: unescape rest
  | '&' :: 'l' :: 't' :: ';' :: rest => '<' :: unescape rest
  | '&' :: 'g' :: 't' :: ';' :: rest => '>' :: unescape rest
  | '&' :: 'q' :: 'u' :: 'o' :: 't' :: ';' :: rest => '"' :: unescape rest
  | '&' :: '#' :: '0' :: '3' :: '9' :: ';' :: rest => '\'' :: unescape rest
  | c :: rest => c :: unescape rest

/-- A comment with a label and a message that cannot close it. -/
def diagnosticComment (label message : String) : String :=
  "<!-- " ++ label ++ ": " ++ String.ofList (escape message.toList) ++ " -->"

end PageInjection.Markup
