/-!
# Failures

What can go wrong outside a page: the store, a script, or an operator's command.
Each failure has one wording.
-/

namespace PageInjection

/-- A failure of the fragment store. -/
inductive StoreFault where
  | encoding (reason : String)
  | backend (reason : String)
  | io (reason : String)
deriving DecidableEq, Repr

def StoreFault.message : StoreFault → String
  | .encoding reason => "Failed to encode stored fragment: " ++ reason
  | .backend reason => "Storage backend error: " ++ reason
  | .io reason => "Storage I/O error: " ++ reason

/-- The failure of one script run. -/
inductive ScriptFault where
  | compile (reason : String)
  | runtime (reason : String)
  | limitExceeded (reason : String)
  | crashed (reason : String)
deriving DecidableEq, Repr

def ScriptFault.message : ScriptFault → String
  | .compile reason => reason
  | .runtime reason => reason
  | .limitExceeded reason => reason
  | .crashed reason => "script engine panicked: " ++ reason

/-- The failure of an operator's command. -/
inductive CommandFault where
  | store (fault : StoreFault)
  | configuration (reason : String)
  | invalidArgument (reason : String)
  | scriptFailed (reason : String)
deriving DecidableEq, Repr

namespace CommandFault

def message : CommandFault → String
  | .store fault => "Storage error: " ++ fault.message
  | .configuration reason => "Configuration error: " ++ reason
  | .invalidArgument reason => "Invalid argument: " ++ reason
  | .scriptFailed reason => "Script failed: " ++ reason

def report : CommandFault → String
  | .scriptFailed reason => "Script error: " ++ reason
  | fault => fault.message

end CommandFault

end PageInjection
