import PageInjection.Script.Spot

/-!
# Tokens

The words of the script language: literals, names, and marks.  A mark is a
keyword or a symbol.  A text with embedded code is cut into parts: a `textPart`
is followed by the tokens of a block, and then by the next part.
-/

namespace PageInjection.Script

/-- A character sequence that is no token. -/
inductive TokenFault where
  | unexpected (text : String)
  | openText
  | badEscape (text : String)
  | badNumber (text : String)
  | badChar (text : String)
  | badName (text : String)
  | improper (message : String)
  | textTooLong (limit : Nat)
deriving DecidableEq, Repr

def TokenFault.message : TokenFault → String
  | .unexpected text => "Unexpected '" ++ text ++ "'"
  | .openText => "Open string is not terminated"
  | .badEscape text => "Invalid escape sequence: '" ++ text ++ "'"
  | .badNumber text => "Invalid number: '" ++ text ++ "'"
  | .badChar text => "Invalid character: '" ++ text ++ "'"
  | .badName text => "Variable name is not proper: '" ++ text ++ "'"
  | .improper message => message
  | .textTooLong limit =>
      "Length of string exceeds the maximum limit (" ++ toString limit ++ ")"

/-- A word of the script language. -/
inductive Token where
  | integer (value : Int)
  | float (value : Float)
  | char (value : Char)
  | text (value : String)
  | textPart (value : String)
  | name (text : String)
  | mark (text : String)
  | reserved (text : String)
  | fault (reason : TokenFault)
  | finish
deriving Inhabited

namespace Token

def keywords : List String :=
  ["true", "false", "let", "const", "if", "else", "switch", "do", "while", "until", "loop",
    "for", "in", "continue", "break", "return", "throw", "try", "catch", "fn", "private",
    "import", "export", "as"]

/-- Words kept for later use; they cannot be names. -/
def reservedWords : List String :=
  ["var", "static", "shared", "goto", "match", "case", "public", "protected", "new", "use",
    "with", "is", "module", "package", "super", "thread", "spawn", "go", "sync", "async",
    "await", "yield", "default", "void", "null", "nil", "begin", "end", "each", "then", "unless"]

/-- Reserved words that can be called like functions. -/
def callableWords : List String :=
  ["print", "debug", "type_of", "eval", "Fn", "call", "curry", "is_shared", "is_def_var",
    "is_def_fn"]

/-- Symbols with a meaning, longest first. -/
def symbols : List String :=
  ["<<=", ">>=", "**=", "..=", "...",
    "=>", "==", "!=", "<=", ">=", "&&", "||", "**", "<<", ">>", "+=", "-=", "*=", "/=", "%=",
    "&=", "|=", "^=", "..", "??", "?.", "?[", "::", "#\x7b",
    "\x7b", "\x7d", "(", ")", "[", "]", ";", ":", ",", ".", "=", "<", ">", "+", "-", "*", "/",
    "%", "&", "|", "^", "!"]

/-- Symbols without a meaning that are taken as one, longest first. -/
def strangeSymbols : List String :=
  ["===", "!==", "::<", "->", "<-", ":=", ":;", "(*", "*)", "++", "--", "#!", "!.", "<|", "|>",
    "~", "@", "$", "?", "#"]

/-- What a familiar symbol of another language is answered with. -/
def strangeMessage? : String → Option String
  | "===" => some
      "'===' is not a valid operator. This is not JavaScript! Should it be '=='?"
  | "!==" => some
      "'!==' is not a valid operator. This is not JavaScript! Should it be '!='?"
  | "->" => some "'->' is not a valid symbol. This is not C or C++!"
  | "<-" => some "'<-' is not a valid symbol. This is not Go! Should it be '<='?"
  | ":=" => some
      ("':=' is not a valid assignment operator. This is not Go or Pascal! " ++
        "Should it be simply '='?")
  | "::<" => some "'::<' is not a valid symbol. This is not Rust! Should it be '::'?"
  | "(*" => some
      ("'(* .. *)' is not a valid comment format. This is not Pascal! " ++
        "Should it be '/* .. */'?")
  | "*)" => some
      ("'(* .. *)' is not a valid comment format. This is not Pascal! " ++
        "Should it be '/* .. */'?")
  | "#" => some "'#' is not a valid symbol. Should it be '#\x7b'?"
  | _ => none

/-- Whether a minus sign after this token belongs to a number that follows. -/
def allowsSign : Token → Bool
  | .integer _ | .float _ | .char _ | .text _ | .name _ | .reserved _ => false
  | .mark word => !(["true", "false", ")", "]", "\x7d"].contains word)
  | _ => true

/-- The token as it is written, for messages. -/
def written : Token → String
  | .integer value => toString value
  | .float _ => "number"
  | .char value => String.singleton value
  | .text _ => "string"
  | .textPart _ => "string"
  | .name word => word
  | .mark word => word
  | .reserved word => word
  | .fault reason => reason.message
  | .finish => "\x7bEOF\x7d"

end Token

/-- A token and where it starts. -/
structure Lexeme where
  token : Token
  spot : Spot
deriving Inhabited

end PageInjection.Script
