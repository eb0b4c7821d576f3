import CrossDriver.DriverOption.Arguments
import CrossDriver.Shell

namespace CrossDriver

inductive Event where
  | reported (engine : Engine) (d : Diagnostic)
  | parsedArguments (count : Nat) (assignments : List Assignment)
  | createdToolchain (triple : Triple) (sysroot : String)
  | ignoredFlags (flags : List String)
  | builtCommand (argv : List String)
  | loadedSettings (path : String)
  | ignoredSetting (key : String)
  | overriddenSetting (name value : String)
  | failed (fault : Fault)
  deriving DecidableEq, Repr

inductive Level where
  | debug
  | info
  | warning
  | error
  deriving DecidableEq, Repr

def Level.rank : Level → Nat
  | .debug => 0
  | .info => 1
  | .warning => 2
  | .error => 3

def Level.name : Level → String
  | .debug => "DEBUG"
  | .info => "INFO"
  | .warning => "WARNING"
  | .error => "ERROR"

namespace Event

def level : Event → Level
  | .reported _ ⟨.warning, _⟩ => .warning
  | .reported _ ⟨.error, _⟩ | .failed _ => .error
  | .loadedSettings _ => .info
  | .parsedArguments .. | .createdToolchain .. | .ignoredFlags _ | .builtCommand _
  | .ignoredSetting _ | .overriddenSetting .. => .debug

def source : Event → String
  | .reported .. => "kushtc.core.diagnostics"
  | .parsedArguments .. => "kushtc.core.options"
  | .createdToolchain .. => "kushtc.tools.toolchain"
  | .ignoredFlags _ | .builtCommand _ => "kushtc.toolchains.linker"
  | .loadedSettings _ | .ignoredSetting _ | .overriddenSetting .. => "kushtc.configure.config"
  | .failed _ => "kushtc"

def text : Event → String
  | .reported _ d => d.message
  | .parsedArguments count assignments =>
    "Parsed " ++ toString count ++ " driver arguments: " ++ Assignment.listText assignments
  | .createdToolchain triple sysroot =>
    "Created kush toolchain for " ++ triple.text ++ " (sysroot=" ++ Text.quoted sysroot ++ ")"
  | .ignoredFlags flags => "Ignoring " ++ Text.join ", " flags ++ " at link time"
  | .builtCommand argv => "Link command: " ++ Shell.bash.line argv
  | .loadedSettings path => "Loaded settings from " ++ path
  | .ignoredSetting key => "Ignoring unknown settings key: " ++ key
  | .overriddenSetting name value => "  " ++ name ++ "=" ++ value
  | .failed fault => fault.message

def diagnostic? : Event → Option Diagnostic
  | .reported _ d => some d
  | _ => none

def reportTo? (engine : Engine) : Event → Option Diagnostic
  | .reported other d => if other = engine then some d else none
  | _ => none

end Event

end CrossDriver
