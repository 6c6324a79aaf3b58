import SdkGen.Error

/-!
# Faults of a configuration

`ConfigFault.message` words each; `ConfigFault.toError` makes it an error of the program.
-/

namespace SdkGen

/-- Why a configuration is not valid. -/
inductive ConfigFault
  /-- A setting that has to say something says nothing. -/
  | empty (key : String)
  /-- An entry of the type table lacks one of its types. -/
  | incompleteOverride (go typescript : String)
  /-- A route for a name that is no handler's. -/
  | handlerName (handler : String)
  /-- A route with an unknown method. -/
  | method (handler method : String)
  /-- A route whose path is not absolute. -/
  | path (handler path : String)
  /-- Two routes for one handler. -/
  | duplicateRoute (handler : String)
  /-- A text that is no document. -/
  | malformed (report : String)
  /-- A document that is no configuration. -/
  | document (report : String)
  deriving DecidableEq, Repr, Inhabited

/-- The error of an unknown method. -/
def unsupportedMethod (method : String) : Error :=
  .invalidArgument s!"unsupported HTTP method: '{method}'"

namespace ConfigFault

/-- The wording of the fault. -/
def message : ConfigFault → String
  | empty key => s!"'{key}' cannot be empty"
  | incompleteOverride go typescript =>
    s!"type override '{go}' = '{typescript}' must name both types"
  | handlerName handler => s!"route handler '{handler}' must be named handle<Name>"
  | method handler m => s!"route '{handler}': {(unsupportedMethod m).message}"
  | path handler p => s!"route '{handler}': path '{p}' must start with '/'"
  | duplicateRoute handler => s!"route for '{handler}' is declared more than once"
  | malformed report => s!"invalid tsgen.toml: {report}"
  | document report => s!"invalid tsgen.toml: {report}"

/-- The fault as an error of the program. -/
def toError (f : ConfigFault) : Error := .config f.message

end ConfigFault

end SdkGen
