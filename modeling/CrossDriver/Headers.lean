import CrossDriver.Config
import CrossDriver.SearchPaths

namespace CrossDriver

def targetOptions (c : Config) : List String :=
  (if c.useInitArray = some false then ["-fno-use-init-array"] else []) ++
    ["-ffunction-sections", "-fdata-sections"]

def systemHeaders (c : Config) (resourceDir : String) : List String :=
  if c.noStdInc then []
  else
    (if c.noBuiltinInc then [] else [(Path.ofParts resourceDir ["include"]).text]) ++
      (if c.noStdlibInc ∨ c.sysroot = "" then []
        else [underSysroot c.sysroot systemIncludes, underSysroot c.sysroot localIncludes])

def cxxHeaders (c : Config) (kind : CxxLibrary) : Except Fault (List String) :=
  match kind with
  | .libcxx => .ok (if c.sysroot = "" then [] else [underSysroot c.sysroot cxxIncludes])
  | .libstdcxx => .error (.unsupportedCxxLibrary kind)

def headerArgs (directories : List String) : List String :=
  directories.flatMap fun directory => ["-internal-isystem", directory]

end CrossDriver
