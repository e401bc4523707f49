import Headroom.Decimal.Whole

/-!
# Arguments

The command line: options of the program, then a command with its own options and
operands.  An argument is first looked at as a command's name, then as an option,
then as the value that an option is waiting for, then as an operand.  The value of
an option is judged when the next option is met or the arguments end.
-/

namespace Headroom.Operator

/-- Why arguments are not carried out. -/
inductive UsageNote where
  | unknownArgument
  | invalidValue
  | valueValidation
  | missingRequiredArgument
  | missingSubcommand
  | invalidSubcommand
  | argumentConflict
  | tooManyValues
  | displayHelp
  | displayHelpOnMissingCommand
  | displayVersion
  deriving DecidableEq, Repr

/-- What a command prints. -/
inductive Format where
  | table
  | json
  deriving DecidableEq, Repr

/-- What the program is told to do. -/
inductive Command where
  | nodes (category : Option String)
  | node (id : String)
  | containers
  | transitions (node : Option String) (limit : Nat)
  | register (id : String) (name image : Option String)
  | decommission (id : String)
  | status
  deriving DecidableEq, Repr

/-- A complete command line. -/
structure Invocation where
  apiUrl : Option String
  format : Option Format
  verbose : Bool
  command : Command
  deriving DecidableEq, Repr

def Format.all : List (String × Format) := [("table", .table), ("json", .json)]

def Format.ofWord? (word : String) : Option Format := Format.all.lookup word

/-- The format with the given word, whatever the case of ASCII letters. -/
def Format.ofWordAnyCase? (word : String) : Option Format := ofWord? (word.map Char.toLower)

/-- What an option does. -/
inductive OptionKind where
  /-- Takes a value, which must pass a check. -/
  | value (check : String → Except UsageNote Unit)
  | switch
  /-- Ends the program with a text. -/
  | display (usage : UsageNote)

/-- An option with its long name, which identifies it, and its letter. -/
structure OptionSpec where
  name : String
  letter : Option Char
  kind : OptionKind

/-- What a command line may hold. -/
structure Grammar where
  options : List OptionSpec
  operands : List String
  commands : List String

/-- What was read so far. -/
structure Progress where
  /-- Options and operands with their values. -/
  found : List (String × String)
  /-- An option whose value is still to be judged, or to come. -/
  pending : Option (OptionSpec × Option String)
  /-- Whether everything that follows is an operand. -/
  operandsOnly : Bool
  operandCount : Nat

namespace Progress

def start : Progress := ⟨[], none, false, 0⟩

def awaitsValue (progress : Progress) : Bool :=
  match progress.pending with
  | some (_, none) => true
  | _ => false

def value? (progress : Progress) (name : String) : Option String := progress.found.lookup name

/-- Takes a value for an option that was not given before. -/
def take (progress : Progress) (name value : String) (check : String → Except UsageNote Unit) :
    Except UsageNote Progress :=
  if (progress.value? name).isSome then .error .argumentConflict
  else do
    check value
    .ok { progress with found := progress.found ++ [(name, value)] }

def settle (progress : Progress) : Except UsageNote Progress :=
  match progress.pending with
  | none => .ok progress
  | some (_, none) => .error .invalidValue
  | some (option, some value) =>
    let clear := { progress with pending := none }
    match option.kind with
    | .value check => clear.take option.name value check
    | _ => .ok clear

end Progress

namespace OptionSpec

def meet (option : OptionSpec) (progress : Progress) : Except UsageNote Progress := do
  let settled ← progress.settle
  match option.kind with
  | .display usage => .error usage
  | _ => settled.take option.name "true" fun _ => .ok ()

/-- Meets an option that takes a value, which may be attached to it. -/
def meetValue (option : OptionSpec) (check : String → Except UsageNote Unit)
    (attached : Option String) (progress : Progress) : Except UsageNote Progress := do
  let settled ← progress.settle
  match attached with
  | some value => settled.take option.name value check
  | none => .ok { settled with pending := some (option, none) }

end OptionSpec

namespace Grammar

/-- Meets a long option, with the value after its equals sign. -/
def meetLong (grammar : Grammar) (progress : Progress) (name : String)
    (attached : Option String) : Except UsageNote Progress :=
  match grammar.options.find? fun option => option.name == name with
  | none => .error .unknownArgument
  | some option =>
    match option.kind with
    | .value check => option.meetValue check attached progress
    | _ => if attached.isSome then .error .tooManyValues else option.meet progress

/-- Meets a cluster of letters.  The first one that takes a value has the rest for it. -/
def meetLetters (grammar : Grammar) (progress : Progress) : List Char → Except UsageNote Progress
  | [] => .ok progress
  | letter :: rest =>
    match grammar.options.find? fun option => option.letter == some letter with
    | none => .error .unknownArgument
    | some option =>
      match option.kind with
      | .value check =>
        let attached :=
          match rest with
          | [] => none
          | '=' :: value => some (String.ofList value)
          | value => some (String.ofList value)
        option.meetValue check attached progress
      | _ => do
        let next ← option.meet progress
        grammar.meetLetters next rest

/-- The fault of an argument that has no place. -/
def stray (grammar : Grammar) (progress : Progress) (argument : String) : UsageNote :=
  if grammar.commands.isEmpty then .unknownArgument
  else if progress.operandsOnly && grammar.commands.contains argument then .unknownArgument
  else .invalidSubcommand

def takeOperand (grammar : Grammar) (progress : Progress) (argument : String) :
    Except UsageNote Progress :=
  match grammar.operands[progress.operandCount]? with
  | none => .error (grammar.stray progress argument)
  | some name => do
    let settled ← progress.settle
    let taken ← settled.take name argument fun _ => .ok ()
    .ok { taken with operandCount := progress.operandCount + 1 }

/-- Splits the text of a long option at its first equals sign. -/
def splitLong (text : List Char) : String × Option String :=
  let name := String.ofList (text.takeWhile (· != '='))
  match text.dropWhile (· != '=') with
  | [] => (name, none)
  | _ :: value => (name, some (String.ofList value))

def takeArgument (grammar : Grammar) (progress : Progress) (argument : String) :
    Except UsageNote Progress :=
  let asValue :=
    match progress.pending with
    | some (option, none) => .ok { progress with pending := some (option, some argument) }
    | _ => grammar.takeOperand progress argument
  if progress.operandsOnly then grammar.takeOperand progress argument
  else
    match argument.toList with
    | ['-', '-'] => .ok { progress with operandsOnly := true }
    | '-' :: '-' :: text =>
      let (name, attached) := splitLong text
      grammar.meetLong progress name attached
    | '-' :: letter :: rest => grammar.meetLetters progress (letter :: rest)
    | _ => asValue

/-- Takes arguments up to a command's name.  Returns what was read, and the command with
the arguments after it. -/
def takeAll (grammar : Grammar) (progress : Progress) :
    List String → Except UsageNote (Progress × Option (String × List String))
  | [] => .ok (progress, none)
  | argument :: rest =>
    if !progress.operandsOnly && !progress.awaitsValue && grammar.commands.contains argument then
      .ok (progress, some (argument, rest))
    else
      match grammar.takeArgument progress argument with
      | .error usage => .error usage
      | .ok next => grammar.takeAll next rest

end Grammar

def anyValue : String → Except UsageNote Unit := fun _ => .ok ()

def formatValue (value : String) : Except UsageNote Unit :=
  if (Format.ofWord? value).isSome then .ok () else .error .invalidValue

def limit? (value : String) : Option Nat := Decimal.natural? UInt64.size value

def limitValue (value : String) : Except UsageNote Unit :=
  if (limit? value).isSome then .ok () else .error .valueValidation

def OptionSpec.valued (name : String) (letter : Option Char)
    (check : String → Except UsageNote Unit) : OptionSpec :=
  ⟨name, letter, .value check⟩

def helpOption : OptionSpec := ⟨"help", some 'h', .display .displayHelp⟩

def commandNames : List String :=
  ["nodes", "node", "containers", "transitions", "register", "decommission", "status"]

def helpCommand : String := "help"

def programGrammar : Grammar where
  options := [.valued "api-url" none anyValue, .valued "format" (some 'f') formatValue,
    ⟨"verbose", some 'v', .switch⟩, helpOption, ⟨"version", some 'V', .display .displayVersion⟩]
  operands := []
  commands := commandNames ++ [helpCommand]

def commandGrammar (name : String) : Grammar :=
  let options :=
    match name with
    | "nodes" => [.valued "category" (some 'c') anyValue]
    | "transitions" => [.valued "node" (some 'n') anyValue, .valued "limit" none limitValue]
    | "register" => [.valued "name" none anyValue, .valued "image" none anyValue]
    | _ => []
  let operands := if name = "node" ∨ name = "register" ∨ name = "decommission" then ["id"] else []
  ⟨options ++ [helpOption], operands, []⟩

/-- The number of transitions shown when no limit is given. -/
def defaultLimit : Nat := 20

def requiredId (progress : Progress) : Except UsageNote String :=
  match progress.value? "id" with
  | some id => .ok id
  | none => .error .missingRequiredArgument

/-- Reads a command from the arguments after its name. -/
def parseCommand (name : String) (arguments : List String) : Except UsageNote Command := do
  let (read, _) ← (commandGrammar name).takeAll .start arguments
  let progress ← read.settle
  match name with
  | "nodes" => .ok (.nodes (progress.value? "category"))
  | "node" => .ok (.node (← requiredId progress))
  | "containers" => .ok .containers
  | "transitions" =>
    .ok (.transitions (progress.value? "node")
      (((progress.value? "limit").bind limit?).getD defaultLimit))
  | "register" =>
    .ok (.register (← requiredId progress) (progress.value? "name") (progress.value? "image"))
  | "decommission" => .ok (.decommission (← requiredId progress))
  | _ => .ok .status

/-- The outcome of asking for help on a command, or on all. -/
def helpOutcome : List String → UsageNote
  | [] => .displayHelp
  | [name] => if programGrammar.commands.contains name then .displayHelp else .invalidSubcommand
  | _ => .invalidSubcommand

/-- Reads a command line.  The address of the service may also come from the environment. -/
def parseArguments (environmentUrl : Option String) (arguments : List String) :
    Except UsageNote Invocation := do
  let (read, command) ← programGrammar.takeAll .start arguments
  match command with
  | none =>
    let progress ← read.settle
    .error (if progress.found.isEmpty && environmentUrl.isNone then .displayHelpOnMissingCommand
      else .missingSubcommand)
  | some (name, rest) =>
    if name = helpCommand then .error (helpOutcome rest)
    else
      let command ← parseCommand name rest
      let progress ← read.settle
      .ok { apiUrl := (progress.value? "api-url").orElse fun _ => environmentUrl
            format := (progress.value? "format").bind Format.ofWord?
            verbose := (progress.value? "verbose").isSome
            command := command }

end Headroom.Operator
