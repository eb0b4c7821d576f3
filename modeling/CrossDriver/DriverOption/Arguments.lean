import CrossDriver.DriverOption.Table

/-!
# Driver arguments

Driver arguments read from left to right. An argument is an option where its whole text is the
spelling of one, or else where it begins with the longest spelling of an option that carries its
value along; everything behind `--`, and every argument that looks like no option, is handed to
the linker.
-/

namespace CrossDriver

def DriverOption.longest? : List DriverOption → Option DriverOption
  | [] => none
  | option :: rest =>
    match longest? rest with
    | some other =>
      if option.spelling.length < other.spelling.length then some other else some option
    | none => some option

theorem DriverOption.longest?_mem {options : List DriverOption} {option : DriverOption}
    (h : longest? options = some option) : option ∈ options := by
  induction options generalizing option with
  | nil => cases h
  | cons first rest ih =>
    rw [longest?] at h
    split at h
    · rename_i other hr
      split at h
      · cases h
        exact .tail _ (ih hr)
      · cases h
        exact .head _
    · cases h
      exact .head _

structure OptionLookup where
  /-- Options that are the whole argument; of two with one spelling the first counts. -/
  exact : List DriverOption
  leading : List DriverOption

namespace OptionLookup

def ofTable (table : List DriverOption) : OptionLookup where
  exact := (table.filter (·.kind.isExact)).reverse
  leading := table.filter (!·.kind.isExact)

inductive Match where
  | complete (option : DriverOption) (value : String)
  | awaiting (option : DriverOption)
  | unknown
  | input

def matchExact? (l : OptionLookup) (arg : String) : Option Match :=
  (l.exact.find? (·.spelling = arg)).map fun option =>
    if option.kind = .separate then .awaiting option else .complete option ""

def matchLeading? (l : OptionLookup) (arg : String) : Option Match := do
  let fitting := l.leading.filter fun option => option.spelling.toList.isPrefixOf arg.toList
  let option ← DriverOption.longest? fitting
  let value := arg.toList.drop option.spelling.length
  return if value = [] ∧ option.kind = .joinedOrSeparate then .awaiting option
    else .complete option (String.ofList value)

def looksLikeOption (arg : String) : Bool :=
  arg ≠ "-" && arg.toList.head? = some '-'

def matchArg (l : OptionLookup) (arg : String) : Match :=
  ((l.matchExact? arg).or (l.matchLeading? arg)).getD
    (if looksLikeOption arg then .unknown else .input)

def unusedArgument (arg : String) : Diagnostic :=
  ⟨.warning, "argument unused during compilation: '" ++ arg ++ "'"⟩

def scan (l : OptionLookup) : List String → List ArgItem
  | [] => []
  | arg :: rest =>
    if arg = "--" then rest.map fun token => .edit (.input token)
    else match l.matchArg arg with
      | .complete option value => option.action.apply value ++ scan l rest
      | .awaiting option =>
        match rest with
        | [] => [.missingValue arg]
        | value :: rest => option.action.apply value ++ scan l rest
      | .unknown => .report (unusedArgument arg) :: scan l rest
      | .input => .edit (.input arg) :: scan l rest

theorem scan_terminator (l : OptionLookup) (rest : List String) :
    l.scan ("--" :: rest) = rest.map fun token => .edit (.input token) := by
  simp [scan]

def standard : OptionLookup :=
  ofTable DriverOption.table

end OptionLookup

namespace ArgItem

def edit? : ArgItem → Option Edit
  | .edit e => some e
  | _ => none

def diagnostic? : ArgItem → Option Diagnostic
  | .report d => some d
  | _ => none

def missingValue? : ArgItem → Option String
  | .missingValue option => some option
  | _ => none

end ArgItem

def Edit.assignment? : Edit → Option Assignment
  | .assign a => some a
  | _ => none

end CrossDriver
