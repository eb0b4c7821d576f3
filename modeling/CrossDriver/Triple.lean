import CrossDriver.Text.Blank
import CrossDriver.Text.Lowercase
import CrossDriver.Text.Split

namespace CrossDriver

structure Triple where
  arch : String
  vendor : String := "unknown"
  os : String := "unknown"
  environment : String := ""
  deriving DecidableEq, Repr

namespace Triple

def defaultText : String := "x86_64-unknown-kush"

def orUnknown (component : List Char) : String :=
  if component.isEmpty then "unknown" else String.ofList component

def ofComponents : List (List Char) → Triple
  | [] => { arch := "unknown" }
  | [arch] => { arch := orUnknown arch }
  | [arch, os] => { arch := orUnknown arch, os := orUnknown os }
  | [arch, vendor, os] =>
    { arch := orUnknown arch, vendor := orUnknown vendor, os := orUnknown os }
  | arch :: vendor :: os :: environment :: _ =>
    { arch := orUnknown arch, vendor := orUnknown vendor, os := orUnknown os,
      environment := String.ofList environment }

/-- The components of a text: without blanks around it, in lower case, cut at its first three
dashes. -/
def components (s : String) : List (List Char) :=
  Text.firstPieces '-' 3 (Text.lower (Text.strip s)).toList

def parse (s : String) : Triple :=
  ofComponents (components s)

def text (t : Triple) : String :=
  let base := t.arch ++ "-" ++ t.vendor ++ "-" ++ t.os
  if t.environment = "" then base else base ++ "-" ++ t.environment

/-- Whether a name stands for a 32-bit x86 processor: `i386` to `i686`, a line feed at the end
included. -/
def isX86 : List Char → Bool
  | ['i', d, '8', '6'] | ['i', d, '8', '6', '\n'] => d = '3' || d = '4' || d = '5' || d = '6'
  | _ => false

def archiveArch (t : Triple) : String :=
  if isX86 t.arch.toList then "i386"
  else if (Text.dropStart? "armv".toList t.arch.toList).isSome || t.arch = "arm" then "arm"
  else t.arch

end Triple

end CrossDriver
