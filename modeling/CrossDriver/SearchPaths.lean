import CrossDriver.Fault
import CrossDriver.Path

namespace CrossDriver

def underSysroot (sysroot : String) (parts : List String) : String :=
  if sysroot = "" then "" else (Path.ofParts sysroot parts).text

def systemLibraries : List String := ["System", "Libraries"]

def localLibraries : List String := ["Local", "Libraries"]

def systemIncludes : List String := ["System", "Includes"]

def localIncludes : List String := ["Local", "Includes"]

def cxxIncludes : List String := ["System", "Includes", "c++", "v1"]

theorem underSysroot_empty (parts : List String) : underSysroot "" parts = "" := rfl

/-- The directories that a toolchain searches, in order. A program directory is absent where the
setting for it is. -/
structure SearchPaths where
  programs : List (Option String)
  libraries : List String
  deriving DecidableEq, Repr

structure ProgramSearch where
  path : String
  probed : List String
  deriving DecidableEq, Repr

namespace SearchPaths

def resolve (installDir driverDir : Option String) (sysroot : String) : SearchPaths where
  programs :=
    if driverDir.any (· ≠ "") ∧ driverDir ≠ installDir then [installDir, driverDir]
    else [installDir]
  libraries :=
    if sysroot = "" then []
    else [underSysroot sysroot systemLibraries, underSysroot sysroot localLibraries]

/-- Where a file of the first library directory is; without one its bare name, which leaves the
search to the linker. -/
def file (paths : SearchPaths) (name : String) : String :=
  match paths.libraries with
  | [] => name
  | first :: _ => ((Path.ofString first).join name).text

def candidate (directory name : String) : String :=
  ((Path.ofString directory).join name).text

def search (present : String → Bool) (name : String) :
    List (Option String) → Except Fault ProgramSearch
  | [] => .ok ⟨name, []⟩
  | none :: _ => .error .absentPath
  | some directory :: rest =>
    let place := candidate directory name
    if present place then .ok ⟨place, [place]⟩
    else (search present name rest).map fun found =>
      { found with probed := place :: found.probed }

def findProgram (paths : SearchPaths) (present : String → Bool) (name : String) :
    Except Fault ProgramSearch :=
  search present name paths.programs

end SearchPaths

end CrossDriver
