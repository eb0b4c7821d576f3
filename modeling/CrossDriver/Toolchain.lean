import CrossDriver.Headers
import CrossDriver.LibraryChoice
import CrossDriver.SearchPaths
import CrossDriver.Settings.Basic

namespace CrossDriver

structure Toolchain where
  settings : Settings
  triple : Triple
  sysroot : String
  present : String → Bool
  engine : Engine

namespace Toolchain

def name : String := "kush"

/-- A toolchain reports to the engine that is given, be it empty or not, or else to a new one. -/
def create (settings : Settings) (triple : Triple) (sysroot : String) (present : String → Bool)
    (given : Option Engine := none) (fresh : Engine := 0) : Traced Toolchain := do
  Traced.emit (.createdToolchain triple sysroot)
  return { settings, triple, sysroot, present, engine := given.getD fresh }

def withSysroot (t : Toolchain) (sysroot : String) (fresh : Engine := 0) : Traced Toolchain :=
  create t.settings t.triple sysroot t.present (some t.engine) fresh

def ofConfig (c : Config) (settings : Settings) (present : String → Bool)
    (given : Option Engine := none) (fresh : Engine := 0) : Traced Toolchain := do
  let triple ← Traced.ofExcept c.target
  create settings triple c.sysroot present given fresh

def paths (t : Toolchain) : SearchPaths :=
  .resolve t.settings.installDir t.settings.driverDirectory t.sysroot

def resourceDir (t : Toolchain) : Except Fault String :=
  t.settings.resourceDirectory

def text (t : Toolchain) : String :=
  "KushToolchain(" ++ Text.quoted name ++ ", triple=" ++ Text.quoted t.triple.text ++
    ", sysroot=" ++ Text.quoted t.sysroot ++ ")"

theorem result_withSysroot (t : Toolchain) (sysroot : String) (fresh : Engine) :
    (t.withSysroot sysroot fresh).result = .ok { t with sysroot } := rfl

def requestedLinker (t : Toolchain) (c : Config) : Option String :=
  match Settings.nonEmpty? c.fuseLd with
  | some name => some (if name = "lld" then "ld.lld" else name)
  | none => t.settings.linker

def findLinker (t : Toolchain) (c : Config) : Except Fault ProgramSearch :=
  match t.requestedLinker c with
  | none => .error .absentPath
  | some linker =>
    if Path.isAbsolute linker then .ok ⟨linker, []⟩
    else t.paths.findProgram t.present linker

def linksCxx (c : Config) : Bool :=
  !(c.noStdlib || c.noDefaultLibs || c.noCxxStdlib)

def cxxLibraryArgs (t : Toolchain) (c : Config) : Traced (List String) := do
  let kind ← chooseCxx t.engine c
  Traced.ofExcept (CrossDriver.cxxLibraryArgs kind c)

def runtimeArgs (t : Toolchain) (c : Config) : Traced (List String) := do
  let kind ← chooseRuntime t.engine c
  let resourceDir ← Traced.ofExcept t.resourceDir
  Traced.ofExcept (runtimeLibraryArgs kind resourceDir t.triple)

def systemHeaders (t : Toolchain) (c : Config) : Except Fault (List String) := do
  let resourceDir ← t.resourceDir
  return CrossDriver.systemHeaders c resourceDir

/-- The directories of C++ headers. Where they are suppressed, the choice of a library is not even
looked at. -/
def cxxHeaders (t : Toolchain) (c : Config) : Traced (List String) :=
  if c.noStdInc || c.noStdlibInc || c.noCxxInc then pure []
  else do
    let kind ← chooseCxx t.engine c
    Traced.ofExcept (CrossDriver.cxxHeaders c kind)

def compileArgs (t : Toolchain) (c : Config) : Traced (List String) := do
  let cxx ← if c.cxx then t.cxxHeaders c else pure []
  let system ← Traced.ofExcept (t.systemHeaders c)
  return ["-triple", t.triple.text] ++ targetOptions c ++ headerArgs cxx ++ headerArgs system

end Toolchain

end CrossDriver
