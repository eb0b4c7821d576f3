import CrossDriver.CommandLine.Usage

namespace CrossDriver.CommandLine

inductive Command where
  | link
  | cc1
  | paths
  deriving DecidableEq, Repr

inductive Directive where
  | help
  | version
  | verbose
  | debug
  | config (file : Option String)
  | json
  | explain
  | cxx
  | sysroot (directory : Option String)
  | target (triple : Option String)
  deriving DecidableEq, Repr

structure Request where
  verbose : Bool := false
  debug : Bool := false
  config : Option (Option String) := none
  json : Bool := false
  explain : Bool := false
  cxx : Bool := false
  sysroot : Option String := none
  target : Option String := none
  arguments : List String := []
  deriving DecidableEq, Repr

def Request.add (r : Request) : Directive → Request
  | .help | .version => r
  | .verbose => { r with verbose := true }
  | .debug => { r with debug := true }
  | .config file => { r with config := some file }
  | .json => { r with json := true }
  | .explain => { r with explain := true }
  | .cxx => { r with cxx := true }
  | .sysroot directory => { r with sysroot := directory }
  | .target triple => { r with target := triple }

def programName : String := "kushtc"

def versionText : String := "kushtc 0.1.0"

def plainOption (names : List String) (help : String) (directive : Directive) :
    ProgramOption Directive :=
  { names, help, act := fun _ => directive }

def helpOption : ProgramOption Directive :=
  plainOption ["-h", "--help"] "show this help message and exit" .help

def commonOptions : List (ProgramOption Directive) := [
  helpOption,
  plainOption ["-v", "--verbose"] "Verbose output" .verbose,
  plainOption ["--debug"] "Debug output" .debug,
  ⟨["-c", "--config"], some "FILE", "Toolchain settings file (JSON)", .config⟩]

def cxxOption : ProgramOption Directive :=
  plainOption ["--cxx"] "Run the driver in C++ mode (clang++)" .cxx

def driverArguments : Operands :=
  .many "ARG" "Compiler driver arguments (put them after '--')"

namespace Command

def name : Command → String
  | .link => "link"
  | .cc1 => "cc1"
  | .paths => "paths"

def help : Command → String
  | .link => "Print the linker command"
  | .cc1 => "Print target compile options and include arguments"
  | .paths => "Print search paths"

def all : List Command := [.link, .cc1, .paths]

def ofName? (s : String) : Option Command :=
  all.find? (·.name = s)

def grammar (command : Command) (keepsMark : Bool := false) : Grammar Directive where
  program := programName ++ " " ++ command.name
  options := commonOptions ++
    match command with
    | .link => [
      plainOption ["--json"] "Print the command as JSON" .json,
      plainOption ["--explain"] "Print the rules that fired to stderr" .explain,
      cxxOption]
    | .cc1 => [cxxOption]
    | .paths => [
      ⟨["--sysroot"], some "DIR", "Target SDK root", .sysroot⟩,
      ⟨["--target"], some "TRIPLE", "Target triple", .target⟩]
  operands :=
    match command with
    | .link | .cc1 => driverArguments
    | .paths => .none
  keepsMark

theorem ofName?_name (command : Command) : ofName? command.name = some command := by
  cases command <;> decide

end Command

def mainGrammar : Grammar Directive where
  program := programName
  options := [helpOption,
    plainOption ["--version"] "show program's version number and exit" .version]
  operands := .command (Command.all.map fun command => (command.name, command.help))

def mainHelp : String :=
  mainGrammar.helpText "Compose linker commands and search paths for the Kush target."
    "Run 'kushtc <command> --help' for command-specific help."

inductive Invocation where
  | display (text : String)
  | nothing
  | misuse (usage message : String)
  | run (command : Command) (request : Request)
  deriving DecidableEq, Repr

def misuseOf (g : Grammar Directive) (message : String) : Invocation :=
  .misuse g.usage (g.program ++ ": error: " ++ message ++ "\n")

def Command.collect (command : Command) (request : Request) (leftOver : List String) :
    List (Item Directive) → Except Invocation (Request × List String)
  | [] => .ok (request, leftOver)
  | .act .help :: _ => .error (.display (command.grammar.helpText "" ""))
  | .act directive :: rest => command.collect (request.add directive) leftOver rest
  | .operands texts :: rest => command.collect { request with arguments := texts } leftOver rest
  | .leftOver arg :: rest => command.collect request (leftOver ++ [arg]) rest
  | .misuse message :: _ => .error (misuseOf command.grammar message)

def Command.request (command : Command) (args : List String) (keepsMark : Bool := false) :
    Except Invocation (Request × List String) :=
  command.collect {} [] ((command.grammar keepsMark).read args)

def chooseCommand (name : String) : Except Invocation Command :=
  match Command.ofName? name with
  | some command => .ok command
  | none =>
    .error (misuseOf mainGrammar ("argument command: invalid choice: " ++ Text.quoted name ++
      " (choose from " ++ Text.join ", " (Command.all.map fun c => Text.quoted c.name) ++ ")"))

def conclude (chosen : Option (Command × Request)) (leftOver : List String) : Invocation :=
  if leftOver ≠ [] then
    misuseOf mainGrammar ("unrecognized arguments: " ++ Text.join " " leftOver)
  else match chosen with
    | some (command, request) => .run command request
    | none => .nothing

def Invocation.ofItems (keepsMark : Bool) (chosen : Option (Command × Request))
    (leftOver : List String) : List (Item Directive) → Invocation
  | [] => conclude chosen leftOver
  | .act .help :: _ => .display mainHelp
  | .act .version :: _ => .display (versionText ++ "\n")
  | .act _ :: rest => ofItems keepsMark chosen leftOver rest
  | .leftOver arg :: rest => ofItems keepsMark chosen (leftOver ++ [arg]) rest
  | .misuse message :: _ => misuseOf mainGrammar message
  | .operands [] :: rest => ofItems keepsMark chosen leftOver rest
  | .operands (name :: args) :: rest =>
    let chosen := do
      let command ← chooseCommand name
      let (request, more) ← command.request args keepsMark
      return (command, request, more)
    match chosen with
    | .error invocation => invocation
    | .ok (command, request, more) =>
      ofItems keepsMark (some (command, request)) (leftOver ++ more) rest

def Invocation.ofArgs (args : List String) (keepsMark : Bool := false) : Invocation :=
  ofItems keepsMark none [] (mainGrammar.read args)

end CrossDriver.CommandLine
