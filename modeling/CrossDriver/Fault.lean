import CrossDriver.Json.Reader
import CrossDriver.Library
import CrossDriver.Mode
import CrossDriver.Triple

namespace CrossDriver

inductive FileObstacle where
  | fileInTheWay
  | notADirectory
  | isADirectory
  | missing
  | nameTooLong
  | nulInName
  deriving DecidableEq, Repr

inductive Unreadable where
  | isADirectory
  | notPermitted
  | hidden
  | malformed (problem : Json.Problem) (offset line column : Nat)
  deriving DecidableEq, Repr

inductive Vocabulary where
  | linkMode
  | ltoMode
  | runtimeLibrary
  | cxxLibrary
  | severity
  deriving DecidableEq, Repr

inductive Fault where
  | missingValue (option : String)
  | unsupportedTarget (triple : Triple)
  | nothingToOptimise (mode : LtoMode)
  | settingsMissing (path : String)
  | settingsUnreadable (path : String) (reason : Unreadable)
  | settingsNotAnObject (path : String)
  | settingsNotText
  | settingsLongInteger (excess : Json.LongInteger)
  | settingsTooDeep
  | unsupportedRuntime (kind : RuntimeLibrary)
  | unsupportedCxxLibrary (kind : CxxLibrary)
  | unsupportedShell (name : String)
  | invalidLtoFlag (name : String)
  | notInVocabulary (vocabulary : Vocabulary) (shown : String)
  | absentPath
  | absentTriple
  | file (obstacle : FileObstacle)
  deriving DecidableEq, Repr

inductive Fault.Family where
  | configuration
  | internal
  | plain
  deriving DecidableEq, Repr

def Vocabulary.title : Vocabulary → String
  | .linkMode => "LinkMode"
  | .ltoMode => "LTOMode"
  | .runtimeLibrary => "RuntimeLibType"
  | .cxxLibrary => "CXXStdlibType"
  | .severity => "Severity"

def Unreadable.message (path : String) : Unreadable → String
  | .isADirectory => "[Errno 21] Is a directory: " ++ Text.quoted path
  | .notPermitted | .hidden => "[Errno 13] Permission denied: " ++ Text.quoted path
  | .malformed problem offset line column =>
    Json.ReadError.message (.malformed problem offset line column)

namespace Fault

def family : Fault → Family
  | .settingsUnreadable _ .hidden => .plain
  | .missingValue _ | .unsupportedTarget _ | .nothingToOptimise _ | .settingsUnreadable ..
  | .settingsNotAnObject _ => .configuration
  | .unsupportedRuntime _ | .unsupportedCxxLibrary _ => .internal
  | _ => .plain

/-- The fault in words; a fault that has no wording of its own gives none. -/
def message? : Fault → Option String
  | .missingValue option =>
    some ("argument to '" ++ option ++ "' is missing (expected 1 value)")
  | .unsupportedTarget triple => some ("unsupported target triple: " ++ triple.text)
  | .nothingToOptimise mode => some (mode.name ++ " LTO requires at least one input file")
  | .settingsMissing path => some ("Config file not found: " ++ path)
  | .settingsUnreadable path .hidden => some (Unreadable.hidden.message path)
  | .settingsUnreadable path reason =>
    some ("cannot read settings file " ++ path ++ ": " ++ reason.message path)
  | .settingsNotAnObject path => some ("settings file " ++ path ++ " must contain a JSON object")
  | .settingsLongInteger excess => some (Json.ReadError.message (.longInteger excess))
  | .unsupportedRuntime kind => some ("unsupported runtime library: " ++ kind.name)
  | .unsupportedCxxLibrary kind => some ("unsupported C++ standard library: " ++ kind.name)
  | .unsupportedShell name => some ("unsupported shell: " ++ name)
  | .invalidLtoFlag name => some ("invalid LTO mode: " ++ name)
  | .notInVocabulary vocabulary shown => some (shown ++ " is not a valid " ++ vocabulary.title)
  | .file .nulInName => some "embedded null byte"
  | .settingsNotText | .settingsTooDeep | .absentPath | .absentTriple | .file _ => none

def message (f : Fault) : String :=
  f.message?.getD ""

theorem isSome_message?_of_family {f : Fault} (h : f.family ≠ .plain) : f.message?.isSome := by
  cases f with
  | settingsUnreadable path reason => cases reason <;> rfl
  | _ => simp_all [family, message?]

end Fault

end CrossDriver
