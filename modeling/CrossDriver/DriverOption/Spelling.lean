import CrossDriver.DriverOption.Parser

namespace CrossDriver.Config

def flagIf (spelling : String) (on : Bool) : List String :=
  if on then [spelling] else []

def joinedValue (spelling : String) (value : Option String) : List String :=
  match value with
  | some value => [spelling ++ value]
  | none => []

def outputSpelling (c : Config) : List String :=
  flagIf "-static" c.isStatic ++ flagIf "-shared" c.shared ++ flagIf "-pie" c.pie ++
    flagIf "-rdynamic" c.rdynamic ++ flagIf "-s" c.strip ++
    flagIf "-static-libstdc++" c.staticCxxStdlib ++ ["-o", c.output]

def choiceSpelling (c : Config) : List String :=
  ["--sysroot=" ++ c.sysroot] ++ joinedValue "--target=" c.triple ++
    (match c.lto with
      | .none => []
      | .thin => ["-flto=thin"]
      | .full => ["-flto=full"]) ++
    joinedValue "-flto-jobs=" c.ltoJobs ++ joinedValue "-O" c.optLevel ++
    joinedValue "-rtlib=" c.rtlib ++ joinedValue "-stdlib=" c.cxxStdlib ++
    joinedValue "-fuse-ld=" c.fuseLd ++
    (match c.useInitArray with
      | some true => ["-fuse-init-array"]
      | some false => ["-fno-use-init-array"]
      | none => [])

def omissionSpelling (c : Config) : List String :=
  flagIf "-nostdlib" c.noStdlib ++ flagIf "-nostartfiles" c.noStartFiles ++
    flagIf "-nodefaultlibs" c.noDefaultLibs ++ flagIf "-nolibc" c.noLibc ++
    flagIf "-nostdinc" c.noStdInc ++ flagIf "-nobuiltininc" c.noBuiltinInc ++
    flagIf "-nostdlibinc" c.noStdlibInc ++ flagIf "-nostdinc++" c.noCxxInc ++
    flagIf "-nostdlib++" c.noCxxStdlib ++ flagIf "-g" c.debug ++
    flagIf "-emit-llvm" c.emitLlvm ++ flagIf "-w" c.suppressWarnings

def spelling (c : Config) : List String :=
  c.outputSpelling ++ c.choiceSpelling ++ c.omissionSpelling ++
    c.libraryPaths.flatMap (fun path => ["-L", path]) ++
    c.undefined.flatMap (fun symbol => ["-u", symbol]) ++ "--" :: c.inputs

end CrossDriver.Config
