import CrossDriver.Path
import CrossDriver.Traced

namespace CrossDriver

def chooseRuntime (engine : Engine) (c : Config) : Traced RuntimeLibrary :=
  match c.rtlib with
  | none => pure RuntimeLibrary.default
  | some name => do
    if name ≠ RuntimeLibrary.default.name then
      Traced.report engine
        ⟨.error, "invalid runtime library name in argument '-rtlib=" ++ name ++ "'"⟩
    return RuntimeLibrary.default

def chooseCxx (engine : Engine) (c : Config) : Traced CxxLibrary :=
  match c.cxxStdlib with
  | none => pure CxxLibrary.default
  | some name =>
    match CxxLibrary.ofName? name with
    | some kind => pure kind
    | none => do
      Traced.report engine
        ⟨.error, "invalid library name in argument '-stdlib=" ++ name ++ "'"⟩
      return CxxLibrary.default

theorem chooseRuntime_result (engine : Engine) (c : Config) :
    (chooseRuntime engine c).result = .ok RuntimeLibrary.default := by
  unfold chooseRuntime
  split
  · rfl
  · split <;> rfl

def cxxLibraryArgs (kind : CxxLibrary) (c : Config) : Except Fault (List String) :=
  match kind with
  | .libcxx => .ok (["-lc++abi", "-lc++"] ++ if c.isStatic then [] else ["-lunwind"])
  | .libstdcxx => .error (.unsupportedCxxLibrary kind)

def runtimeArchive (triple : Triple) : String :=
  "libclang_rt.builtins-" ++ triple.archiveArch ++ ".a"

def runtimeLibraryArgs (kind : RuntimeLibrary) (resourceDir : String) (triple : Triple) :
    Except Fault (List String) :=
  match kind with
  | .compilerRt =>
    .ok [(Path.ofParts resourceDir ["lib", triple.os, runtimeArchive triple]).text]
  | .libgcc => .error (.unsupportedRuntime kind)

end CrossDriver
