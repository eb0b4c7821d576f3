import CrossDriver.Fault
import CrossDriver.Path

/-!
# File trees

A tree of files and directories, without links, and the directory in which the program works. Names
are given from the root; one more level up from the root is the root again.
-/

namespace CrossDriver

/-- What there is at a path. What is `locked` is known to be there but may not be opened, and of
what is `hidden` not even this is told. -/
inductive Found where
  | file (bytes : ByteArray)
  | directory
  | missing
  | nameTooLong
  | locked
  | hidden

abbrev FileView := Path → Found

structure FileTree where
  files : List (List String × ByteArray)
  directories : List (List String)
  home : List String := []

inductive Arrival where
  | directory (names : List String)
  | file (bytes : ByteArray)
  | missing
  | behindFile
  | nameTooLong

def maxNameBytes : Nat := 255

def maxPathBytes : Nat := 4095

namespace FileTree

def file? (tree : FileTree) (names : List String) : Option ByteArray :=
  (tree.files.find? (·.1 = names)).map (·.2)

def isDirectory (tree : FileTree) (names : List String) : Bool :=
  names.isPrefixOf tree.home || tree.directories.any names.isPrefixOf ||
    tree.files.any fun file => names.isPrefixOf file.1 && names ≠ file.1

def step (tree : FileTree) (name : String) (names : List String) : Arrival :=
  if name = ".." then .directory names.dropLast
  else if maxNameBytes < name.utf8ByteSize then .nameTooLong
  else
    let names := names ++ [name]
    match tree.file? names with
    | some bytes => .file bytes
    | none => if tree.isDirectory names then .directory names else .missing

def walk (tree : FileTree) : Arrival → List String → Arrival
  | here, [] => here
  | .directory names, name :: rest => walk tree (tree.step name names) rest
  | .file _, _ :: _ => .behindFile
  | here, _ :: _ => here

def startAt (tree : FileTree) (p : Path) : Arrival :=
  .directory (if p.start = .here then tree.home else [])

def arrive (tree : FileTree) (p : Path) : Arrival :=
  if maxPathBytes < p.text.utf8ByteSize then .nameTooLong
  else tree.walk (tree.startAt p) p.names

def holdsNul (p : Path) : Bool :=
  p.text.toList.contains '\x00'

def find (tree : FileTree) : FileView := fun p =>
  if holdsNul p then .missing
  else match tree.arrive p with
    | .directory _ => .directory
    | .file bytes => .file bytes
    | .missing | .behindFile => .missing
    | .nameTooLong => .nameTooLong

/-- Makes the directory at the end of a way, and those on the way to it. The way is given from its
end. -/
def makeDirectory (tree : FileTree) (start : Arrival) :
    (fromEnd : List String) → Except FileObstacle FileTree
  | [] => .ok tree
  | name :: before =>
    match tree.walk start (name :: before).reverse with
    | .directory _ => .ok tree
    | .file _ => .error .fileInTheWay
    | .behindFile => .error .notADirectory
    | .nameTooLong => .error .nameTooLong
    | .missing => do
      let tree ← tree.makeDirectory start before
      match tree.walk start before.reverse with
      | .directory names =>
        match tree.step name names with
        | .directory _ => return tree
        | .file _ => .error .fileInTheWay
        | .missing => return { tree with directories := tree.directories ++ [names ++ [name]] }
        | .nameTooLong => .error .nameTooLong
        | .behindFile => .error .missing
      | .file _ | .behindFile => .error .notADirectory
      | .missing => .error .missing
      | .nameTooLong => .error .nameTooLong

def put (tree : FileTree) (names : List String) (bytes : ByteArray) : FileTree :=
  { tree with files := tree.files.filter (·.1 ≠ names) ++ [(names, bytes)] }

def write (tree : FileTree) (p : Path) (bytes : ByteArray) : Except FileObstacle FileTree := do
  if holdsNul p then .error .nulInName
  else if maxPathBytes < p.text.utf8ByteSize then .error .nameTooLong
  else
    let tree ← tree.makeDirectory (tree.startAt p) p.parent.names.reverse
    match tree.walk (tree.startAt p) p.parent.names, p.names.getLast? with
    | .directory names, some name =>
      match tree.step name names with
      | .directory _ => .error .isADirectory
      | .nameTooLong => .error .nameTooLong
      | _ => return tree.put (names ++ [name]) bytes
    | .directory _, none => .error .isADirectory
    | .nameTooLong, _ => .error .nameTooLong
    | .missing, _ => .error .missing
    | _, _ => .error .notADirectory

theorem file?_put (tree : FileTree) (names : List String) (bytes : ByteArray) :
    (tree.put names bytes).file? names = some bytes := by
  have : (tree.files.filter (·.1 ≠ names)).find? (·.1 = names) = none := by
    simp [List.find?_eq_none]
  simp only [put, file?, List.find?_append, this]
  simp

end FileTree

end CrossDriver
