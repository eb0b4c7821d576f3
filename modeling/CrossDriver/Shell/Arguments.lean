import CrossDriver.Shell.Words

/-!
# Arguments of a program behind `cmd`

The shell `cmd` hands a program its whole line, and the program cuts it into arguments by a rule of
its own, in which backslashes before a double quote count: two stand for one, and one that is left
over makes the quote plain text.
-/

namespace CrossDriver.Shell

/-- Where a program stands in its line, with the number of backslashes just before. -/
structure ArgState where
  place : CmdState
  backslashes : Nat := 0
  deriving DecidableEq, Repr

def backslashText (count : Nat) : List Char :=
  List.replicate count '\\'

def quoteNext (s : ArgState) : ArgState × List Char :=
  match s.place with
  | .quoted => (⟨.closing, 0⟩, backslashText (s.backslashes / 2))
  | .closing => (⟨.quoted, 0⟩, ['"'])
  | _ => (⟨.quoted, 0⟩, backslashText (s.backslashes / 2))

def textPlace (place : CmdState) : CmdState :=
  if place = .quoted then .quoted else .bare

def argNext (s : ArgState) (c : Char) : ArgState × List Char :=
  if c = '\\' then (⟨textPlace s.place, s.backslashes + 1⟩, [])
  else if c = '"' then
    if s.backslashes % 2 = 1 then
      (⟨textPlace s.place, 0⟩, backslashText (s.backslashes / 2) ++ ['"'])
    else quoteNext s
  else if isGap c ∧ s.place ≠ .quoted then
    (⟨.betweenWords, 0⟩, backslashText s.backslashes)
  else (⟨textPlace s.place, 0⟩, backslashText s.backslashes ++ [c])

def argReader : WordReader ArgState Char where
  start := ⟨.betweenWords, 0⟩
  inWord s := s.place ≠ .betweenWords
  next? s c := some (argNext s c)
  finish? s := some (backslashText s.backslashes)

def programArgs (cs : List Char) : List (List Char) :=
  (argReader.words? cs).getD []

end CrossDriver.Shell
