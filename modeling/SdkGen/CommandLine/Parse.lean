import SdkGen.CommandLine.Basic
import SdkGen.CommandLine.Usage

/-!
# Reading a command line

Options are looked up in the scope of a command. A command that is named opens a scope of its own
for the arguments after it. The value of an option may come with the next argument; it counts when
the next option, or the end of the scope, is reached, and so a fault in it shows only then.

* `Scope`: the options and values that a command takes.
* `Reading`: what has been read in a scope.
* `parse`: the invocation of a command line, or the first fault.
-/

namespace SdkGen.CommandLine

/-- Where an argument is read. -/
inductive Scope
  | program
  | generate
  | inspect
  | completions
  deriving DecidableEq, Repr

/-- Options with a value, and the value of `completions`. -/
inductive Setting
  | format
  | source
  | typesOut
  | clientOut
  | baseUrl
  | config
  | shell
  deriving DecidableEq, Repr

/-- Options without a value. -/
inductive Flag
  | verbose
  | help
  | version
  deriving DecidableEq, Repr

namespace Scope

/-- The options with a value, by their long names. -/
def settings : Scope → List (String × Setting)
  | program => [("format", .format)]
  | generate => [("format", .format), ("source", .source), ("types-out", .typesOut),
      ("client-out", .clientOut), ("base-url", .baseUrl), ("config", .config)]
  | inspect => [("format", .format), ("source", .source), ("config", .config)]
  | completions => [("format", .format)]

/-- The options without a value, by their short and long names. -/
def flags : Scope → List (Char × String × Flag)
  | program => [('v', "verbose", .verbose), ('h', "help", .help), ('V', "version", .version)]
  | _ => [('v', "verbose", .verbose), ('h', "help", .help)]

/-- The scope that a command opens. -/
def ofCommand? (name : String) : Option Scope :=
  [("generate", generate), ("inspect", inspect), ("completions", completions)].lookup name

/-- The flag of a long name. -/
def longFlag? (s : Scope) (name : String) : Option Flag :=
  (s.flags.find? fun f => f.2.1 = name).map fun f => f.2.2

/-- The flag of a short name. -/
def shortFlag? (s : Scope) (c : Char) : Option Flag :=
  (s.flags.find? fun f => f.1 = c).map fun f => f.2.2

end Scope

namespace Setting

/-- Whether a value will do: paths must not be empty, and a shell must be known. -/
def admits (s : Setting) (value : String) : Bool :=
  match s with
  | format => true
  | baseUrl => true
  | shell => (Shell.parse? value).isSome
  | source => value ≠ ""
  | typesOut => value ≠ ""
  | clientOut => value ≠ ""
  | config => value ≠ ""

end Setting

/-- What has been read in a scope. -/
structure Reading where
  verbose : Bool := false
  values : List (Setting × String) := []
  /-- An option or value that does not count yet. -/
  pending : Option (Setting × Option String) := none
  deriving DecidableEq, Repr

namespace Reading

/-- The value of a setting. -/
def value? (r : Reading) (s : Setting) : Option String := r.values.lookup s

/-- Lets a value count; no setting has two. -/
def assign (r : Reading) (s : Setting) (value : String) : Except UsageFault Reading :=
  if (r.value? s).isSome then .error .argumentConflict
  else if s.admits value then .ok { r with values := (s, value) :: r.values }
  else .error .invalidValue

/-- Lets what is pending count. -/
def settle (r : Reading) : Except UsageFault Reading :=
  match r.pending with
  | none => .ok r
  | some (_, none) => .error .invalidValue
  | some (s, some value) => { r with pending := none }.assign s value

/-- An option without a value. -/
def flag (r : Reading) (f : Flag) : Except UsageFault Reading := do
  let r ← r.settle
  match f with
  | .help => .error .displayHelp
  | .version => .error .displayVersion
  | .verbose => if r.verbose then .error .argumentConflict else .ok { r with verbose := true }

/-- An option of a long name, with the value after an equals sign, if there is one. -/
def long (r : Reading) (scope : Scope) (name : String) (value : Option String) :
    Except UsageFault Reading :=
  match scope.settings.lookup name, scope.longFlag? name, value with
  | some s, _, some v => do (← r.settle).assign s v
  | some s, _, none => do return { ← r.settle with pending := some (s, none) }
  | none, some f, none => r.flag f
  | none, some _, some _ => .error .tooManyValues
  | none, none, _ => .error .unknownArgument

/-- Options of short names. -/
def short (r : Reading) (scope : Scope) : List Char → Except UsageFault Reading
  | [] => .ok r
  | c :: cs =>
    match scope.shortFlag? c with
    | some f => do (← r.flag f).short scope cs
    | none => .error .unknownArgument

/-- Whether the next argument is the value of an option. -/
def awaitsValue (r : Reading) : Bool :=
  match r.pending with
  | some (_, none) => true
  | _ => false

/-- The argument as the value of the option that awaits one. -/
def take (r : Reading) (value : String) : Reading :=
  { r with pending := r.pending.map fun p => (p.1, some value) }

end Reading

/-- The forms of an argument. -/
inductive Form
  /-- The mark after which all arguments are values. -/
  | divider
  | long (name : String) (value : Option String)
  | short (names : List Char)
  | plain
  deriving DecidableEq, Repr

/-- The form of an argument. -/
def Form.of (arg : String) : Form :=
  match arg.toList with
  | ['-', '-'] => .divider
  | '-' :: '-' :: cs =>
    let name := String.ofList (cs.takeWhile (· ≠ '='))
    match cs.dropWhile (· ≠ '=') with
    | [] => .long name none
    | _ :: value => .long name (some (String.ofList value))
  | '-' :: c :: cs => .short (c :: cs)
  | _ => .plain

/-- An argument that is no option, and for which the scope has no place. -/
def surplus (scope : Scope) (afterDivider : Bool) (arg : String) : UsageFault :=
  if scope ≠ .program then .unknownArgument
  else if afterDivider && (arg = "help" || (Scope.ofCommand? arg).isSome) then .unknownArgument
  else .invalidSubcommand

/-- An argument that is no option. Only `completions` takes one, and only one. -/
def positional (scope : Scope) (r : Reading) (afterDivider : Bool) (arg : String) :
    Except UsageFault Reading :=
  let given := (r.value? .shell).isSome || (r.pending.map Prod.fst) = some .shell
  if scope = .completions && !given then do
    return { ← r.settle with pending := some (.shell, some arg) }
  else .error (surplus scope afterDivider arg)

/-- Arguments after the divider. -/
def readPlain (scope : Scope) (r : Reading) : List String → Except UsageFault Reading
  | [] => .ok r
  | arg :: args => do readPlain scope (← positional scope r true arg) args

/-- What `help` answers to the names after it. -/
def helpFault (names : List String) : UsageFault :=
  match names with
  | [] => .displayHelp
  | [name] =>
    if name = "help" || (Scope.ofCommand? name).isSome then .displayHelp else .invalidSubcommand
  | _ => .invalidSubcommand

/-- Reads arguments up to the end, or up to the name of a command, with what comes after it. -/
def readScope (scope : Scope) (r : Reading) :
    List String → Except UsageFault (Reading × Option (Scope × List String))
  | [] => .ok (r, none)
  | arg :: args =>
    match Form.of arg with
    | .divider => do return (← readPlain scope r args, none)
    | .long name value => do readScope scope (← r.long scope name value) args
    | .short names => do readScope scope (← r.short scope names) args
    | .plain =>
      if r.awaitsValue then readScope scope (r.take arg) args
      else if scope ≠ .program then do readScope scope (← positional scope r false arg) args
      else if arg = "help" then .error (helpFault args)
      else match Scope.ofCommand? arg with
        | some inner => .ok (r, some (inner, args))
        | none => .error .invalidSubcommand

/-- The command that has been read in its scope. -/
def commandOf (scope : Scope) (r : Reading) : Except UsageFault (Option Command) :=
  match scope with
  | .program => .ok none
  | .generate => .ok (some (.generate ⟨r.value? .source, r.value? .typesOut, r.value? .clientOut,
      r.value? .baseUrl, r.value? .config⟩))
  | .inspect => .ok (some (.inspect (r.value? .source) (r.value? .config)))
  | .completions =>
    match (r.value? .shell).bind Shell.parse? with
    | some shell => .ok (some (.completions shell))
    | none => .error .missingRequiredArgument

/-- The output format of a command line that names none. -/
def defaultFormat : String := "pretty"

/-- The invocation of a command line, or the first fault. The settings of a command win over
those before it. -/
def parse (args : List String) : Except UsageFault Invocation := do
  let (outer, inner) ← readScope .program {} args
  match inner with
  | none =>
    let outer ← outer.settle
    return ⟨outer.verbose, (outer.value? .format).getD defaultFormat, none⟩
  | some (scope, rest) =>
    let (r, _) ← readScope scope {} rest
    let r ← r.settle
    let command ← commandOf scope r
    let outer ← outer.settle
    let format := (r.value? .format).getD ((outer.value? .format).getD defaultFormat)
    return ⟨outer.verbose || r.verbose, format, command⟩

end SdkGen.CommandLine
