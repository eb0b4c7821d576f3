import CrossDriver.DriverOption.Parser
import CrossDriver.Link.Linker
import CrossDriver.Platform

/-!
# Sessions

A toolchain, a configuration and a command are taken in hand, worked with and exchanged, step after
step. There may be any number of engines. The one in hand is given to whatever asks for one, and a
toolchain keeps the one that it was made with. A step that fails changes nothing but what is held by
the engines.
-/

namespace CrossDriver

abbrev Engines := Engine → Diagnostics

namespace Engines

def add (engines : Engines) (e : Engine) (ds : Diagnostics) : Engines := fun other =>
  if other = e then engines other ++ ds else engines other

def clear (engines : Engines) (e : Engine) : Engines := fun other =>
  if other = e then [] else engines other

def collect {α : Type} (engines : Engines) (job : Traced α) : Engines := fun e =>
  engines e ++ job.reportsTo e

end Engines

structure Session where
  toolchain : Toolchain
  config : Config := {}
  command : LinkCommand := ⟨"none", []⟩
  engines : Engines := fun _ => []
  engine : Engine := toolchain.engine
  fresh : Engine := toolchain.engine + 1

namespace Session

def diagnostics (s : Session) : Diagnostics :=
  s.engines s.engine

inductive Query where
  | compileArgs
  | targetOptions
  | systemHeaders
  | cxxHeaders
  | cxxHeaderArgs
  | cxxLibraryArgs
  | runtimeArgs
  | runtimeLibrary
  | cxxLibrary
  | linker
  | firedRules
  deriving DecidableEq, Repr

/-- A step that takes an engine, if it likes, shares the one in hand or gets one of its own. -/
inductive Step where
  | report (d : Diagnostic)
  | clear
  | take (engine : Engine)
  | use (toolchain : Toolchain)
  | parse (argv : List String) (cxx pieDefault : Bool) (shared : Bool := true)
  | configure (c : Config)
  | link (rules : List LinkRule)
  | setCommand (command : LinkCommand)
  | withSysroot (sysroot : String)
  | ofConfig (shared : Bool := true)
  | find (shared : Bool := true)
  | ask (query : Query)

inductive Answer where
  | nothing
  | reported (d : Diagnostic)
  | config (c : Config)
  | command (command : LinkCommand)
  | toolchain (t : Toolchain)
  | word (text : String)
  | words (texts : List String)

def perform {α : Type} (s : Session) (job : Traced α) (next : Session → α → Session × Answer) :
    Session × Except Fault Answer :=
  let s := { s with engines := s.engines.collect job }
  match job.result with
  | .ok a =>
    let (s, answer) := next s a
    (s, .ok answer)
  | .error fault => (s, .error fault)

def answer (t : Toolchain) (c : Config) : Query → Traced Answer
  | .compileArgs => .words <$> t.compileArgs c
  | .targetOptions => pure (.words (CrossDriver.targetOptions c))
  | .systemHeaders => .words <$> Traced.ofExcept (t.systemHeaders c)
  | .cxxHeaders => .words <$> t.cxxHeaders c
  | .cxxHeaderArgs => (.words ∘ headerArgs) <$> t.cxxHeaders c
  | .cxxLibraryArgs => .words <$> t.cxxLibraryArgs c
  | .runtimeArgs => .words <$> t.runtimeArgs c
  | .runtimeLibrary => (.word ∘ RuntimeLibrary.name) <$> chooseRuntime t.engine c
  | .cxxLibrary => (.word ∘ CxxLibrary.name) <$> chooseCxx t.engine c
  | .linker => (.word ∘ ProgramSearch.path) <$> Traced.ofExcept (t.findLinker c)
  | .firedRules => .words <$> Linker.firedRules { toolchain := t } c

def takeToolchain (s : Session) (t : Toolchain) : Session × Answer :=
  ({ s with toolchain := t }, .toolchain t)

def takeConfig (s : Session) (c : Config) : Session × Answer :=
  ({ s with config := c }, .config c)

def takeCommand (s : Session) (command : LinkCommand) : Session × Answer :=
  ({ s with command }, .command command)

def offered (s : Session) (shared : Bool) : Option Engine :=
  if shared then some s.engine else none

/-- An engine that was new is not new a second time. -/
def spent (s : Session) (shared : Bool) : Session :=
  if shared then s else { s with fresh := s.fresh + 1 }

def step (s : Session) : Step → Session × Except Fault Answer
  | .report d => s.perform (Traced.report s.engine d) fun s _ => (s, .reported d)
  | .clear => ({ s with engines := s.engines.clear s.engine }, .ok .nothing)
  | .take engine => ({ s with engine }, .ok .nothing)
  | .use toolchain => s.perform (pure toolchain) takeToolchain
  | .parse argv cxx pieDefault shared =>
    (s.spent shared).perform (Config.parse argv cxx pieDefault (s.offered shared) s.fresh)
      takeConfig
  | .configure c => s.perform (pure c) takeConfig
  | .link rules => s.perform (Linker.command ⟨s.toolchain, rules⟩ s.config) takeCommand
  | .setCommand command => s.perform (pure command) takeCommand
  | .withSysroot sysroot => s.perform (s.toolchain.withSysroot sysroot s.fresh) takeToolchain
  | .ofConfig shared =>
    (s.spent shared).perform (Toolchain.ofConfig s.config s.toolchain.settings s.toolchain.present
      (s.offered shared) s.fresh) takeToolchain
  | .find shared =>
    (s.spent shared).perform (Toolchain.find s.config s.toolchain.settings s.toolchain.present
      (s.offered shared) s.fresh) takeToolchain
  | .ask query => s.perform (answer s.toolchain s.config query) fun s a => (s, a)

def run (s : Session) : List Step → Session
  | [] => s
  | first :: rest => (s.step first).1.run rest

theorem perform_of_error {α : Type} (s : Session) {job : Traced α} {fault : Fault}
    (h : job.result = .error fault) (next : Session → α → Session × Answer) :
    s.perform job next = ({ s with engines := s.engines.collect job }, .error fault) := by
  simp [perform, h]

theorem perform_of_ok {α : Type} (s : Session) {job : Traced α} {a : α} (h : job.result = .ok a)
    (next : Session → α → Session × Answer) :
    s.perform job next =
      ((next { s with engines := s.engines.collect job } a).1,
        .ok (next { s with engines := s.engines.collect job } a).2) := by
  simp [perform, h]

end Session

end CrossDriver
