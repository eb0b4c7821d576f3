import CrossDriver.CommandLine.Request
import CrossDriver.DriverOption.Parser
import CrossDriver.Link.Linker
import CrossDriver.Platform
import CrossDriver.Settings.File

/-!
# Runs of the program

What the program writes and how it ends, for a command line and the surroundings that it looks at.

A run hands its texts over to the standard output one after the other. It is over where this does
not take one of them; what stands in the log is always written.
-/

namespace CrossDriver.CommandLine

/-! ## Surroundings and outcomes -/

structure World where
  files : FileView
  environment : Table String
  present : String → Bool
  system : String
  limits : Json.Limits := {}
  keepsMark : Bool := false
  /-- The texts that the standard output takes. -/
  encodes : String → Bool := fun _ => true

inductive Ending where
  | exit (code : Nat)
  | uncaught (fault : Fault)
  deriving DecidableEq, Repr

structure Outcome where
  ending : Ending
  printed : List String
  log : String
  deriving DecidableEq, Repr

def Outcome.output (o : Outcome) : String :=
  Text.join "" o.printed

def isCaught : Fault → Bool
  | .settingsMissing _ => true
  | fault => fault.family = .configuration

theorem isCaught_of_configuration {fault : Fault} (h : fault.family = .configuration) :
    isCaught fault = true := by
  cases fault <;> simp_all [isCaught, Fault.family]

/-! ## The log -/

def Request.threshold (r : Request) : Level :=
  if r.debug then .debug else if r.verbose then .info else .warning

def Request.logLine (r : Request) (event : Event) : String :=
  if event.level.rank < r.threshold.rank then ""
  else
    let source := if r.debug then event.source ++ ": " else ""
    event.level.name ++ ": " ++ source ++ event.text ++ "\n"

def Request.logText (r : Request) (events : List Event) : String :=
  Text.join "" (events.map r.logLine)

/-! ## Commands -/

def engine : Engine := 0

def withTarget (settings : Settings) (c : Config) : Config :=
  if c.triple = some Triple.defaultText ∧ settings.triple ≠ some Triple.defaultText then
    { c with triple := settings.triple }
  else c

def loadSettings (world : World) (r : Request) : Traced Settings :=
  match r.config with
  | none => Settings.load world.files none world.environment world.limits
  | some none => Traced.fail .absentPath
  | some (some path) => Settings.load world.files (some path) world.environment world.limits

def prepare (world : World) (r : Request) : Traced (Config × Toolchain) := do
  let settings ← loadSettings world r
  let parsed ← Config.parse r.arguments r.cxx false (some engine)
  let c := withTarget settings parsed
  let toolchain ← Toolchain.find c settings world.present (some engine)
  return (c, toolchain)

def programCandidates (world : World) (r : Request) : List String :=
  match (prepare { world with present := fun _ => false } r).result with
  | .ok (c, toolchain) =>
    match toolchain.findLinker c with
    | .ok found => found.probed
    | .error _ => []
  | .error _ => []

def withLineEnd (text : String) : String :=
  text ++ "\n"

def commandData (command : LinkCommand) : Json :=
  .object [("executable", .text command.executable),
    ("args", .array (command.args.map .text))]

def exitCode (ds : Diagnostics) : Nat :=
  if ds.hasErrors then 1 else 0

def giveUp (r : Request) (events : List Event) (fault : Fault) : Outcome :=
  if isCaught fault then ⟨.exit 1, [], r.logText (events ++ [.failed fault])⟩
  else ⟨.uncaught fault, [], r.logText events⟩

def linkJob (world : World) (r : Request) : Traced (Config × Linker × LinkCommand) := do
  let (c, toolchain) ← prepare world r
  let linker : Linker := { toolchain }
  let command ← linker.command c
  return (c, linker, command)

def explanation (names : List String) : String :=
  "rules: " ++ Text.join ", " names ++ "\n"

def commandText (world : World) (r : Request) (command : LinkCommand) : String :=
  withLineEnd (if r.json then (commandData command).write
    else (Shell.ofSystem world.system).line command.argv)

def runLink (world : World) (r : Request) : Outcome :=
  let job := linkJob world r
  match job.result with
  | .error fault => giveUp r job.events fault
  | .ok (c, linker, command) =>
    let log := r.logText job.events
    let fired : Traced (List String) := if r.explain then linker.firedRules c else pure []
    let code := exitCode (job.reportsTo engine ++ fired.reportsTo engine)
    match fired.result with
    | .error fault => ⟨.uncaught fault, [], log ++ r.logText fired.events⟩
    | .ok names =>
      ⟨.exit code, [commandText world r command],
        log ++ r.logText fired.events ++ if r.explain then explanation names else ""⟩

def compileJob (world : World) (r : Request) : Traced (List String) := do
  let (c, toolchain) ← prepare world r
  toolchain.compileArgs c

def runCompile (world : World) (r : Request) : Outcome :=
  let job := compileJob world r
  match job.result with
  | .error fault => giveUp r job.events fault
  | .ok args =>
    ⟨.exit (exitCode (job.reportsTo engine)),
      [withLineEnd ((Shell.ofSystem world.system).line args)], r.logText job.events⟩

def pathsConfig (settings : Settings) (r : Request) : Config where
  sysroot := r.sysroot.getD ""
  triple := (Settings.nonEmpty? r.target).or settings.triple
  cxx := true

def pathsJob (world : World) (r : Request) : Traced (SearchPaths × List String) := do
  let settings ← loadSettings world r
  let c := pathsConfig settings r
  let toolchain ← Toolchain.find c settings world.present (some engine)
  let cxx ← toolchain.cxxHeaders c
  let system ← Traced.ofExcept (toolchain.systemHeaders c)
  return (toolchain.paths, cxx ++ system)

def directoryLines (title : String) (directories : List (Option String)) : List String :=
  withLineEnd (title ++ ":") ::
    directories.map fun directory => withLineEnd ("  " ++ directory.getD "None")

def runPaths (world : World) (r : Request) : Outcome :=
  let job := pathsJob world r
  match job.result with
  | .error fault => giveUp r job.events fault
  | .ok (paths, headers) =>
    let lines := directoryLines "programs" paths.programs ++
      directoryLines "libraries" (paths.libraries.map some) ++
      directoryLines "includes" (headers.map some)
    ⟨.exit 0, lines, r.logText job.events⟩

def Command.run (command : Command) (world : World) (r : Request) : Outcome :=
  match command with
  | .link => runLink world r
  | .cc1 => runCompile world r
  | .paths => runPaths world r

/-! ## The program -/

def Invocation.perform (world : World) : Invocation → Outcome
  | .display text => ⟨.exit 0, [text], ""⟩
  | .nothing => ⟨.exit 1, [mainHelp], ""⟩
  | .misuse usage message => ⟨.exit 2, [], usage ++ message⟩
  | .run command request => command.run world request

def run (world : World) (args : List String) : Outcome :=
  (Invocation.ofArgs args world.keepsMark).perform world

/-! ## The standard output -/

/-- How a run is over: it comes to its ending, or to a text that the standard output does not
take. -/
inductive Close where
  | ended (ending : Ending)
  | unencodable (text : String)
  deriving DecidableEq, Repr

structure Written where
  close : Close
  output : String
  log : String
  deriving DecidableEq, Repr

def Outcome.written (o : Outcome) (encodes : String → Bool) : Written :=
  match o.printed.find? (!encodes ·) with
  | none => ⟨.ended o.ending, o.output, o.log⟩
  | some text => ⟨.unencodable text, Text.join "" (o.printed.takeWhile encodes), o.log⟩

def written (world : World) (args : List String) : Written :=
  (run world args).written world.encodes

end CrossDriver.CommandLine
