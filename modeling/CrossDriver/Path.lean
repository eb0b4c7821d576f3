import CrossDriver.Text.Split

/-!
# Paths

File names by their components, without any look at a file system. Empty components and `.` say
nothing and are dropped, `..` is kept, and a path that starts with exactly two slashes is told from
one that starts with one.
-/

namespace CrossDriver

inductive Path.Start where
  | here
  | root
  | doubleRoot
  deriving DecidableEq, Repr

structure Path where
  start : Path.Start
  names : List String
  deriving DecidableEq, Repr

namespace Path

def startOf : List Char → Start
  | '/' :: '/' :: '/' :: _ => .root
  | '/' :: '/' :: _ => .doubleRoot
  | '/' :: _ => .root
  | _ => .here

def namesOf (cs : List Char) : List String :=
  ((Text.pieces '/' cs).filter fun name => name ≠ [] && name ≠ ['.']).map String.ofList

def ofString (s : String) : Path :=
  ⟨startOf s.toList, namesOf s.toList⟩

def join (p : Path) (next : String) : Path :=
  let q := ofString next
  if q.start = .here then ⟨p.start, p.names ++ q.names⟩ else q

def ofParts (first : String) (parts : List String) : Path :=
  parts.foldl join (ofString first)

def Start.text : Start → String
  | .here => ""
  | .root => "/"
  | .doubleRoot => "//"

def text (p : Path) : String :=
  if p.start = .here ∧ p.names = [] then "."
  else p.start.text ++ Text.join "/" p.names

/-- The directory that holds the path's end; a bare start is its own. -/
def parent (p : Path) : Path :=
  ⟨p.start, p.names.dropLast⟩

def name (p : Path) : String :=
  p.names.getLast?.getD ""

def isAbsolute (s : String) : Bool :=
  (ofString s).start ≠ .here

end Path

end CrossDriver
