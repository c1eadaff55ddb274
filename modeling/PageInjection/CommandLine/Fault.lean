/-!
# Wrong command lines

Why a command line is not carried out.  A request for help is among them: it is
answered instead of the command.
-/

namespace PageInjection

/-- Why a command line is not carried out.  Options are given as they are written
in a description, such as `--store <STORE>`. -/
inductive UsageFault where
  | help
  | helpForMissing (about : String)
  | unknownArgument (written : String)
  | unknownCommand (word : String)
  | missingCommand
  | missingValue (option : String)
  | wrongValue (value option reason : String)
  | unexpectedValue (value option : String)
  | repeated (option : String)
  | conflict (first second : String)
  | missingRequired
deriving DecidableEq, Repr

namespace UsageFault

/-- The first line of the fault in words; a request for help has none. -/
def message : UsageFault → String
  | .help => ""
  | .helpForMissing _ => ""
  | .unknownArgument written => "error: unexpected argument '" ++ written ++ "' found"
  | .unknownCommand word => "error: unrecognized subcommand '" ++ word ++ "'"
  | .missingCommand => "error: 'codeweave' requires a subcommand but one was not provided"
  | .missingValue option =>
      "error: a value is required for '" ++ option ++ "' but none was supplied"
  | .wrongValue value option reason =>
      "error: invalid value '" ++ value ++ "' for '" ++ option ++ "': " ++ reason
  | .unexpectedValue value option =>
      "error: unexpected value '" ++ value ++ "' for '" ++ option ++
        "' found; no more were expected"
  | .repeated option => "error: the argument '" ++ option ++ "' cannot be used multiple times"
  | .conflict first second =>
      "error: the argument '" ++ first ++ "' cannot be used with '" ++ second ++ "'"
  | .missingRequired => "error: the following required arguments were not provided:"

end UsageFault

end PageInjection
