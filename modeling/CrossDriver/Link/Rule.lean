import CrossDriver.Toolchain

namespace CrossDriver

structure LinkContext where
  config : Config
  toolchain : Toolchain
  linker : String

inductive LinkRule where
  | claim
  | relro
  | sysroot
  | pie
  | strip
  | staticBinding
  | dynamicBinding
  | output
  | startFiles
  | searchArgs
  | libraryPaths
  | lto
  | inputs
  | defaultLibs
  deriving DecidableEq, Repr

namespace LinkRule

def name : LinkRule → String
  | .claim => "claim"
  | .relro => "relro"
  | .sysroot => "sysroot"
  | .pie => "pie"
  | .strip => "strip"
  | .staticBinding => "static-binding"
  | .dynamicBinding => "dynamic-binding"
  | .output => "output"
  | .startFiles => "startfiles"
  | .searchArgs => "search-args"
  | .libraryPaths => "library-paths"
  | .lto => "lto"
  | .inputs => "inputs"
  | .defaultLibs => "default-libs"

def standard : List LinkRule :=
  [.claim, .relro, .sysroot, .pie, .strip, .staticBinding, .dynamicBinding, .output, .startFiles,
    .searchArgs, .libraryPaths, .lto, .inputs, .defaultLibs]

def ofName? (s : String) : Option LinkRule :=
  standard.find? (·.name = s)

theorem ofName?_name (rule : LinkRule) : ofName? rule.name = some rule := by
  cases rule <;> decide +kernel

def applies (c : Config) : LinkRule → Bool
  | .claim | .relro | .output | .searchArgs | .libraryPaths | .inputs => true
  | .sysroot => c.sysroot ≠ ""
  | .pie => c.isPie
  | .strip => c.strip
  | .staticBinding => c.isStatic
  | .dynamicBinding => !c.isStatic
  | .startFiles => !(c.noStdlib || c.noStartFiles)
  | .lto => c.usesLto
  | .defaultLibs => !(c.noStdlib || c.noDefaultLibs)

def claimedFlags (c : Config) : List String :=
  [("-g", c.debug), ("-emit-llvm", c.emitLlvm), ("-w", c.suppressWarnings)].filterMap
    fun (flag, given) => if given then some flag else none

def loader : String := "/sbin/ldyldo"

def dynamicTokens (c : Config) : List String :=
  (if c.rdynamic then ["-export-dynamic"] else []) ++
    (if c.shared then ["-Bshareable"] else ["-dynamic-linker", loader]) ++
    ["--enable-new-dtags"]

def startObject (c : Config) : String :=
  if c.isStatic then "crt0T.o"
  else if c.shared || c.isPie then "crt0S.o"
  else "crt0.o"

def startTokens (c : Config) (t : Toolchain) : List String :=
  t.paths.file (startObject c) :: if c.isStatic then [t.paths.file "crti.o"] else []

def searchTokens (c : Config) : List String :=
  c.libraryPaths.map ("-L" ++ ·) ++ c.undefined.flatMap fun symbol => ["-u", symbol]

def ltoLevel : Option String → String
  | none => "2"
  | some level =>
    if level = "0" ∨ level = "1" ∨ level = "2" ∨ level = "3" then level
    else if level = "s" ∨ level = "z" ∨ level = "g" then "2"
    else "3"

def isLld (linker : String) : Bool :=
  let stem := (Path.ofString linker).name
  stem = "lld" || (Text.dropStart? "ld.lld".toList stem.toList).isSome

def pluginTokens (ctx : LinkContext) : Except Fault (List String) :=
  if isLld ctx.linker then .ok []
  else do
    let base ← ctx.toolchain.settings.besideInstallation
    return ["-plugin", ((base.join "lib").join "LLVMgold.so").text]

def ltoOptions (c : Config) : List String :=
  ["-plugin-opt=O" ++ ltoLevel c.optLevel] ++
    (if c.lto = .thin then
      ["-plugin-opt=thinlto"] ++
        (match Settings.nonEmpty? c.ltoJobs with
          | some jobs => ["-plugin-opt=jobs=" ++ jobs]
          | none => [])
    else [])

def cxxTokens (c : Config) (t : Toolchain) : Traced (List String) :=
  if c.cxx && Toolchain.linksCxx c then do
    let onlyCxxStatic := c.staticCxxStdlib && !c.isStatic
    let libraries ← t.cxxLibraryArgs c
    return ["--push-state", "--as-needed"] ++ (if onlyCxxStatic then ["-Bstatic"] else []) ++
      libraries ++ (if onlyCxxStatic then ["-Bdynamic"] else []) ++ ["-lopenlibm", "--pop-state"]
  else pure []

def defaultTokens (c : Config) (t : Toolchain) : Traced (List String) := do
  let cxx ← cxxTokens c t
  let runtime ← t.runtimeArgs c
  return (if c.isStatic then ["-Bstatic"] else []) ++ cxx ++ runtime ++
    if c.noLibc then [] else ["-lc"]

def emit (ctx : LinkContext) : LinkRule → Traced (List String)
  | .claim => do
    let flags := claimedFlags ctx.config
    if flags ≠ [] then Traced.emit (.ignoredFlags flags)
    return []
  | .relro => pure ["-znorelro"]
  | .sysroot => pure ["--sysroot=" ++ ctx.config.sysroot]
  | .pie => pure ["-pie"]
  | .strip => pure ["-s"]
  | .staticBinding => pure ["-Bstatic"]
  | .dynamicBinding => pure (dynamicTokens ctx.config)
  | .output => pure ["-o", ctx.config.output]
  | .startFiles => pure (startTokens ctx.config ctx.toolchain)
  | .searchArgs => pure (searchTokens ctx.config)
  | .libraryPaths => pure (ctx.toolchain.paths.libraries.map ("-L" ++ ·))
  | .lto => do
    let plugin ← Traced.ofExcept (pluginTokens ctx)
    return plugin ++ ltoOptions ctx.config
  | .inputs => pure ctx.config.inputs
  | .defaultLibs => defaultTokens ctx.config ctx.toolchain

end LinkRule

end CrossDriver
