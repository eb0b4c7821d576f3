namespace CrossDriver

inductive Severity where
  | warning
  | error
  deriving DecidableEq, Repr

namespace Severity

def name : Severity → String
  | .warning => "warning"
  | .error => "error"

def ofName? (s : String) : Option Severity :=
  [Severity.warning, .error].find? (·.name = s)

theorem ofName?_name (severity : Severity) : ofName? severity.name = some severity := by
  cases severity <;> decide

end Severity

structure Diagnostic where
  severity : Severity
  message : String
  deriving DecidableEq, Repr

def Diagnostic.text (d : Diagnostic) : String :=
  d.severity.name ++ ": " ++ d.message

abbrev Diagnostics := List Diagnostic

/-- A collection of diagnostics that jobs report to, by its number. -/
abbrev Engine := Nat

namespace Diagnostics

def errors (ds : Diagnostics) : Diagnostics :=
  ds.filter (·.severity = .error)

def warnings (ds : Diagnostics) : Diagnostics :=
  ds.filter (·.severity = .warning)

def hasErrors (ds : Diagnostics) : Bool :=
  ds.any (·.severity = .error)

def summary (ds : Diagnostics) : String :=
  "DiagnosticEngine(errors=" ++ toString ds.errors.length ++ ", warnings=" ++
    toString ds.warnings.length ++ ")"

theorem hasErrors_iff (ds : Diagnostics) : ds.hasErrors = true ↔ ds.errors ≠ [] := by
  simp [hasErrors, errors]

theorem hasErrors_append (first second : Diagnostics) :
    hasErrors (first ++ second) = (hasErrors first || hasErrors second) :=
  List.any_append

end Diagnostics

end CrossDriver
