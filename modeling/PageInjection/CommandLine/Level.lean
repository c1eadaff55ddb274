import PageInjection.CommandLine.Fault
import PageInjection.Text.Separated

/-!
# One level of a command line

A level is a command with its options, up to the word that names the next
command.  What is read becomes a draft, option by option.  The value of an option
may follow as a word of its own; it is taken only when the next option, the next
free word or the end is reached, so a fault in it comes after some others.
-/

namespace PageInjection

/-- Why the value of an option cannot be taken. -/
inductive ValueFault where
  | missing
  | wrong (reason : String)
deriving DecidableEq, Repr

/-- An option of a level with drafts `δ`.  An option with the name of a value takes
one; any other is a switch. -/
structure OptionShape (δ : Type) where
  name : String
  value : Option String := none
  repeats : Bool := false
  take : String → δ → Except ValueFault δ

namespace OptionShape

/-- The option as it is written in a description. -/
def written (option : OptionShape δ) : String :=
  "--" ++ option.name ++
    match option.value with
    | some value => " <" ++ value ++ ">"
    | none => ""

/-- The option for drafts that contain a draft. -/
def onPart (get : ε → δ) (put : δ → ε → ε) (option : OptionShape δ) : OptionShape ε where
  name := option.name
  value := option.value
  repeats := option.repeats
  take text draft := (option.take text (get draft)).map fun part => put part draft

end OptionShape

/-- A level: what can be said in it. -/
structure Level (δ : Type) where
  options : List (OptionShape δ)
  freeWord : Option (String → δ → δ) := none
  commands : List String := []

/-- What was read of a level: the draft, the names of the options given so far,
the latest option whose value is not taken yet, and whether there was a free
word. -/
structure LevelReading (δ : Type) where
  draft : δ
  given : List String := []
  pending : Option (OptionShape δ × Option String) := none
  hasFreeWord : Bool := false

namespace LevelReading

def give (reading : LevelReading δ) (option : OptionShape δ) (value : String) :
    Except UsageFault (LevelReading δ) :=
  if reading.given.contains option.name && !option.repeats then
    .error (.repeated option.written)
  else
    match option.take value reading.draft with
    | .ok draft => .ok { reading with draft, given := reading.given ++ [option.name] }
    | .error .missing => .error (.missingValue option.written)
    | .error (.wrong reason) => .error (.wrongValue value option.written reason)

def settle (reading : LevelReading δ) : Except UsageFault (LevelReading δ) :=
  match reading.pending with
  | none => .ok reading
  | some (option, none) => .error (.missingValue option.written)
  | some (option, some value) => { reading with pending := none }.give option value

/-- Whether the next word is the value of an option. -/
def awaitsValue (reading : LevelReading δ) : Bool :=
  match reading.pending with
  | some (_, none) => true
  | _ => false

end LevelReading

namespace Level

/-- The word that asks for help about a command. -/
def helpWord : String := "help"

/-- Whether a word names a command of a level. -/
def namesCommand (level : Level δ) (word : String) : Bool :=
  level.commands.contains word || (word == helpWord && !level.commands.isEmpty)

/-- The name and the attached value of a long option, after its two lines. -/
def splitValue (text : List Char) : String × Option String :=
  match text.span (· != '=') with
  | (name, _ :: value) => (String.ofList name, some (String.ofList value))
  | (name, []) => (String.ofList name, none)

def takeLong (level : Level δ) (reading : LevelReading δ) (text : List Char) :
    Except UsageFault (LevelReading δ) :=
  let (name, value) := splitValue text
  if name = helpWord then
    match value with
    | some value => .error (.unexpectedValue value ("--" ++ helpWord))
    | none => do
        let _ ← reading.settle
        throw .help
  else
    match level.options.find? (·.name == name) with
    | none => .error (.unknownArgument ("--" ++ name))
    | some option =>
        match option.value, value with
        | none, some value => .error (.unexpectedValue value option.written)
        | none, none => do (← reading.settle).give option ""
        | some _, some value => do (← reading.settle).give option value
        | some _, none => do
            return { ← reading.settle with pending := some (option, none) }

/-- A word with short options; only the one for help is known. -/
def takeShort (reading : LevelReading δ) (c : Char) : Except UsageFault (LevelReading δ) :=
  if c = 'h' then do
    let _ ← reading.settle
    throw .help
  else .error (.unknownArgument ("-" ++ String.singleton c))

def takeFree (level : Level δ) (reading : LevelReading δ) (isTrailing : Bool) (word : String) :
    Except UsageFault (LevelReading δ) :=
  match level.freeWord, reading.hasFreeWord with
  | some take, false => do
      let reading ← reading.settle
      return { reading with draft := take word reading.draft, hasFreeWord := true }
  | _, _ =>
      if isTrailing && level.namesCommand word then .error (.unknownArgument word)
      else if level.commands.isEmpty then .error (.unknownArgument word)
      else .error (.unknownCommand word)

/-- Read the words of a level, up to the name of the next command; returns that
name and the words behind it.  Behind two lines all words are free words. -/
def readWords (level : Level δ) :
    (reading : LevelReading δ) → (isTrailing : Bool) → List String →
      Except UsageFault (LevelReading δ × Option (String × List String))
  | reading, _, [] => .ok (reading, none)
  | reading, true, word :: words => do
      level.readWords (← level.takeFree reading true word) true words
  | reading, false, word :: words =>
      if !reading.awaitsValue && level.namesCommand word then
        .ok (reading, some (word, words))
      else
        match word.toList with
        | ['-', '-'] => level.readWords reading true words
        | '-' :: '-' :: text => do
            level.readWords (← level.takeLong reading text) false words
        | '-' :: c :: _ => do
            level.readWords (← takeShort reading c) false words
        | _ =>
            match reading.pending with
            | some (option, none) =>
                level.readWords { reading with pending := some (option, some word) } false words
            | _ => do
                level.readWords (← level.takeFree reading false word) false words

/-- Read a level that no other command follows. -/
def readAll (level : Level δ) (draft : δ) (words : List String) :
    Except UsageFault (LevelReading δ) := do
  let (reading, _) ← level.readWords { draft } false words
  reading.settle

end Level

end PageInjection
