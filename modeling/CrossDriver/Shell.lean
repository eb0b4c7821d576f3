import CrossDriver.Fault

namespace CrossDriver

inductive Shell where
  | bash
  | cmd
  deriving DecidableEq, Repr

namespace Shell

def bashSpecial : List Char :=
  [' ', '\t', '\n', '"', '\'', '\\', '$', '\x60', '!', '*', '?', '[', ']', '(', ')', '\x7b', '\x7d',
    '|', '&', ';', '<', '>']

def cmdSpecial : List Char :=
  [' ', '\t', '"', '^', '&', '|', '<', '>', '(', ')', '%', '!']

/-- Characters that keep a meaning between double quotes of `bash`, in the order in which they are
escaped: the backslash comes first, so that no backslash of an escape is escaped again. -/
def bashActive : List Char := ['\\', '"', '$', '\x60']

def escapeBash (cs : List Char) : List Char :=
  bashActive.foldl (fun cs mark => Text.replaceChar mark ['\\', mark] cs) cs

def quoteBash (cs : List Char) : List Char :=
  if cs = [] then ['\'', '\'']
  else if !cs.any bashSpecial.contains then cs
  else if !cs.contains '\'' then '\'' :: cs ++ ['\'']
  else '"' :: escapeBash cs ++ ['"']

def quoteCmd (cs : List Char) : List Char :=
  if cs ≠ [] ∧ !cs.any cmdSpecial.contains then cs
  else '"' :: Text.replaceChar '"' ['"', '"'] cs ++ ['"']

def quote : Shell → List Char → List Char
  | .bash => quoteBash
  | .cmd => quoteCmd

def lineChars (shell : Shell) (tokens : List String) : List Char :=
  Text.joined [' '] (tokens.map fun token => shell.quote token.toList)

def line (shell : Shell) (tokens : List String) : String :=
  String.ofList (shell.lineChars tokens)

def ofSystem (system : String) : Shell :=
  if system = "Windows" then .cmd else .bash

def ofName (system name : String) : Except Fault Shell :=
  if name = "auto" then .ok (ofSystem system)
  else if name = "bash" then .ok .bash
  else if name = "cmd" then .ok .cmd
  else .error (.unsupportedShell name)

theorem quoteBash_of_plain {cs : List Char} (h : cs ≠ []) (plain : ∀ c ∈ cs, c ∉ bashSpecial) :
    quoteBash cs = cs := by
  have : cs.any bashSpecial.contains = false := by simpa using plain
  simp [quoteBash, h, this]

end Shell

end CrossDriver
