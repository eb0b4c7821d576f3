import CrossDriver.CommandLine.Grammar

namespace CrossDriver.CommandLine

variable {α : Type}

def lineWidth : Nat := 78

def maxHelpColumn : Nat := 24

def blanks (n : Nat) : String :=
  String.ofList (List.replicate n ' ')

def ProgramOption.brief (o : ProgramOption α) : String :=
  let name := o.names.headD ""
  "[" ++ (match o.placeholder with
    | some value => name ++ " " ++ value
    | none => name) ++ "]"

def choiceList (choices : List (String × String)) : String :=
  "\x7b" ++ Text.join "," (choices.map (·.1)) ++ "\x7d"

def Operands.brief : Operands → List String
  | .none => []
  | .many placeholder _ => ["[" ++ placeholder ++ " ...]"]
  | .command choices => [choiceList choices, "..."]

def fillLines (used indent : Nat) (line : List String) : List String → List (List String)
  | [] => if line.isEmpty then [] else [line]
  | part :: rest =>
    if lineWidth < used + 1 + part.length ∧ !line.isEmpty then
      line :: fillLines (indent + 1 + part.length) indent [part] rest
    else fillLines (used + 1 + part.length) indent (line ++ [part]) rest

namespace Grammar

def usage (g : Grammar α) : String :=
  let opening := "usage: "
  let options := g.options.map ProgramOption.brief
  let whole := Text.join " " (g.program :: options ++ g.operands.brief)
  if (opening ++ whole).length ≤ lineWidth then opening ++ whole ++ "\n"
  else
    let indent := (opening ++ g.program).length + 1
    let first := fillLines (opening.length - 1) (indent - 1) [] (g.program :: options)
    let others := fillLines (indent - 1) (indent - 1) [] g.operands.brief
    let lines := (first ++ others).map (Text.join " ")
    opening ++ Text.join ("\n" ++ blanks indent) lines ++ "\n"

end Grammar

structure HelpEntry where
  level : Nat
  title : String
  help : String

def ProgramOption.entry (o : ProgramOption α) : HelpEntry where
  level := 2
  title := Text.join ", " (o.names.map fun name =>
    match o.placeholder with
    | some value => name ++ " " ++ value
    | none => name)
  help := o.help

def Operands.entries : Operands → List HelpEntry
  | .none => []
  | .many placeholder help => [⟨2, placeholder, help⟩]
  | .command choices =>
    ⟨2, choiceList choices, "Commands"⟩ :: choices.map fun (name, help) => ⟨4, name, help⟩

def HelpEntry.line (column : Nat) (e : HelpEntry) : String :=
  let title := blanks e.level ++ e.title
  if title.length + 2 ≤ column then title ++ blanks (column - title.length) ++ e.help ++ "\n"
  else title ++ "\n" ++ blanks column ++ e.help ++ "\n"

def helpSection (column : Nat) (heading : String) (entries : List HelpEntry) : String :=
  if entries.isEmpty then ""
  else "\n" ++ heading ++ ":\n" ++ Text.join "" (entries.map (HelpEntry.line column))

def paragraph (text : String) : String :=
  if text = "" then "" else "\n" ++ text ++ "\n"

def Grammar.helpText (g : Grammar α) (description closing : String) : String :=
  let operands := g.operands.entries
  let options := g.options.map ProgramOption.entry
  let widest := (operands ++ options).foldl (fun n e => max n (e.level + e.title.length)) 0
  let column := min (widest + 2) maxHelpColumn
  g.usage ++ paragraph description ++ helpSection column "positional arguments" operands ++
    helpSection column "options" options ++ paragraph closing

end CrossDriver.CommandLine
