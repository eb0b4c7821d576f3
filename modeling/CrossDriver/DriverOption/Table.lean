import CrossDriver.Config
import CrossDriver.Diagnostic

namespace CrossDriver

inductive OptionKind where
  | flag
  | joined
  | separate
  | joinedOrSeparate
  deriving DecidableEq, Repr

def OptionKind.name : OptionKind → String
  | .flag => "flag"
  | .joined => "joined"
  | .separate => "separate"
  | .joinedOrSeparate => "joined_or_separate"

def OptionKind.isExact : OptionKind → Bool
  | .flag | .separate => true
  | .joined | .joinedOrSeparate => false

inductive OptionAction where
  | assign (assignment : Assignment)
  | word (field : Word)
  | optLevel
  | lto
  | input
  | library
  | linkerArgs
  | libraryPath
  | undefined
  deriving DecidableEq, Repr

structure DriverOption where
  spelling : String
  kind : OptionKind
  action : OptionAction
  deriving DecidableEq, Repr

inductive ArgItem where
  | edit (e : Edit)
  | report (d : Diagnostic)
  | missingValue (option : String)
  deriving DecidableEq, Repr

namespace OptionAction

def apply (value : String) : OptionAction → List ArgItem
  | .assign assignment => [.edit (.assign assignment)]
  | .word field => [.edit (.assign (.word field value))]
  | .optLevel => [.edit (.assign (.word .optLevel (if value = "" then "1" else value)))]
  | .lto =>
    match LtoMode.ofFlag? value with
    | some mode => [.edit (.assign (.lto mode))]
    | none => [.report ⟨.error, "unsupported argument '" ++ value ++ "' to option '-flto='"⟩]
  | .input => [.edit (.input value)]
  | .library => [.edit (.input ("-l" ++ value))]
  | .linkerArgs =>
    ((Text.pieces ',' value.toList).filter (· ≠ [])).map fun piece =>
      .edit (.input (String.ofList piece))
  | .libraryPath => [.edit (.libraryPath value)]
  | .undefined => [.edit (.undefined value)]

end OptionAction

namespace DriverOption

def switchOn (spelling : String) (field : Switch) : DriverOption :=
  ⟨spelling, .flag, .assign (.switch field true)⟩

def table : List DriverOption := [
  -- Binding and kind of output
  ⟨"-static", .flag, .assign (.linkMode .static)⟩,
  switchOn "-shared" .shared,
  switchOn "-pie" .pie,
  ⟨"-no-pie", .flag, .assign (.switch .pie false)⟩,
  ⟨"-nopie", .flag, .assign (.switch .pie false)⟩,
  switchOn "-rdynamic" .rdynamic,
  switchOn "-s" .strip,
  switchOn "-static-libstdc++" .staticCxxStdlib,
  -- Target
  ⟨"--sysroot=", .joined, .word .sysroot⟩,
  ⟨"--sysroot", .separate, .word .sysroot⟩,
  ⟨"-target", .separate, .word .triple⟩,
  ⟨"--target=", .joined, .word .triple⟩,
  -- Optimisation
  ⟨"-flto", .flag, .assign (.lto .full)⟩,
  ⟨"-flto=", .joined, .lto⟩,
  ⟨"-fno-lto", .flag, .assign (.lto .none)⟩,
  ⟨"-flto-jobs=", .joined, .word .ltoJobs⟩,
  ⟨"-O", .joined, .optLevel⟩,
  -- Choice of libraries and linker
  ⟨"-rtlib=", .joined, .word .rtlib⟩,
  ⟨"--rtlib=", .joined, .word .rtlib⟩,
  ⟨"--rtlib", .separate, .word .rtlib⟩,
  ⟨"-stdlib=", .joined, .word .cxxStdlib⟩,
  ⟨"--stdlib=", .joined, .word .cxxStdlib⟩,
  ⟨"--stdlib", .separate, .word .cxxStdlib⟩,
  ⟨"-fuse-ld=", .joined, .word .fuseLd⟩,
  -- What to leave out
  switchOn "-nostdlib" .noStdlib,
  switchOn "-nostartfiles" .noStartFiles,
  switchOn "-nodefaultlibs" .noDefaultLibs,
  switchOn "-nolibc" .noLibc,
  switchOn "-nostdinc" .noStdInc,
  switchOn "-nobuiltininc" .noBuiltinInc,
  switchOn "-nostdlibinc" .noStdlibInc,
  switchOn "-nostdinc++" .noCxxInc,
  switchOn "-nostdlib++" .noCxxStdlib,
  -- Initialisers
  ⟨"-fuse-init-array", .flag, .assign (.useInitArray true)⟩,
  ⟨"-fno-use-init-array", .flag, .assign (.useInitArray false)⟩,
  -- Output, search paths and arguments for the linker
  ⟨"-o", .joinedOrSeparate, .word .output⟩,
  ⟨"-L", .joinedOrSeparate, .libraryPath⟩,
  ⟨"-u", .joinedOrSeparate, .undefined⟩,
  ⟨"-l", .joinedOrSeparate, .library⟩,
  ⟨"-Wl,", .joined, .linkerArgs⟩,
  ⟨"-Xlinker", .separate, .input⟩,
  -- Without effect on a link
  switchOn "-emit-llvm" .emitLlvm,
  switchOn "-w" .suppressWarnings,
  ⟨"-g", .joined, .assign (.switch .debug true)⟩]

theorem spellings_nodup : (table.map DriverOption.spelling).Nodup := by
  decide +kernel

end DriverOption

end CrossDriver
