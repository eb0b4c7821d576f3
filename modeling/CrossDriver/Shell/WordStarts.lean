import CrossDriver.Shell.Words

namespace CrossDriver.Shell

inductive CommandState where
  | reading (state : BashState)
  | comment
  deriving DecidableEq, Repr

def commandNext? : CommandState → Char → Option (CommandState × List Letter)
  | .comment, c => if c = '\n' then none else some (.comment, [])
  | .reading s, c =>
    if s = .betweenWords ∧ c = '#' then some (.comment, [])
    else if s = .betweenWords ∧ c = '~' then none
    else (bashNext? s c).map fun (t, letters) => (.reading t, letters)

def commandReader : WordReader CommandState Letter where
  start := .reading .betweenWords
  inWord
    | .reading s => bashReader.inWord s
    | .comment => false
  next? := commandNext?
  finish?
    | .reading s => bashReader.finish? s
    | .comment => some []

/-- The words of the command that a line holds, with none where the shell puts in a directory or goes
on to another line behind a comment. A history, variables and reserved words are left out. -/
def bashCommand? (cs : List Char) : Option (List (List Char)) :=
  (commandReader.words? cs).map fun words => words.map fun word => word.map Letter.char

theorem commandNext?_of_inWord {s t : BashState} {c : Char} {letters : List Letter}
    (inside : bashReader.inWord s = true) (next : bashReader.next? s c = some (t, letters)) :
    commandReader.next? (.reading s) c = some (.reading t, letters) := by
  have within : s ≠ .betweenWords := by simpa [bashReader] using inside
  have taken : bashNext? s c = some (t, letters) := next
  simp [commandReader, commandNext?, within, taken]

end CrossDriver.Shell
