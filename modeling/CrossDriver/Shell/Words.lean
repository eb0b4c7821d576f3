import CrossDriver.Shell
import CrossDriver.Shell.WordReader

namespace CrossDriver.Shell

def isGap (c : Char) : Bool :=
  c = ' ' || c = '\t'

structure Letter where
  char : Char
  quoted : Bool
  deriving DecidableEq, Repr

inductive BashState where
  | betweenWords
  | bare
  | escape
  | single
  | double
  | doubleEscape
  deriving DecidableEq, Repr

/-- Unquoted characters by which a text is more than a word: ends of commands, operators, patterns
and expansions. -/
def isActive (c : Char) : Bool :=
  ['\n', '|', '&', ';', '<', '>', '(', ')', '*', '?', '[', ']', '\x7b', '\x7d', '!', '$',
    '\x60'].contains c

def isEscapable (c : Char) : Bool :=
  ['$', '\x60', '"', '\\', '\n'].contains c

def bashOutside? (c : Char) : Option (BashState × List Letter) :=
  if isGap c then some (.betweenWords, [])
  else if c = '\'' then some (.single, [])
  else if c = '"' then some (.double, [])
  else if c = '\\' then some (.escape, [])
  else if isActive c then none
  else some (.bare, [⟨c, false⟩])

def bashNext? : BashState → Char → Option (BashState × List Letter)
  | .betweenWords, c => bashOutside? c
  | .bare, c => bashOutside? c
  | .escape, c => some (.bare, [⟨c, true⟩])
  | .single, c => some (if c = '\'' then (.bare, []) else (.single, [⟨c, true⟩]))
  | .double, c =>
    if c = '"' then some (.bare, [])
    else if c = '\\' then some (.doubleEscape, [])
    else if c = '$' ∨ c = '\x60' then none
    else some (.double, [⟨c, true⟩])
  | .doubleEscape, c =>
    some (.double, if isEscapable c then [⟨c, true⟩] else [⟨'\\', true⟩, ⟨c, true⟩])

def bashReader : WordReader BashState Letter where
  start := .betweenWords
  inWord s := s ≠ .betweenWords
  next? := bashNext?
  finish? s := if s = .betweenWords ∨ s = .bare then some [] else none

def bashLetters? (cs : List Char) : Option (List (List Letter)) :=
  bashReader.words? cs

def bashWords? (cs : List Char) : Option (List (List Char)) :=
  (bashLetters? cs).map fun words => words.map fun word => word.map Letter.char

inductive CmdState where
  | betweenWords
  | bare
  | quoted
  | closing
  deriving DecidableEq, Repr

def cmdOutside (c : Char) : CmdState × List Char :=
  if isGap c then (.betweenWords, [])
  else if c = '"' then (.quoted, [])
  else (.bare, [c])

/-- What a character does; of two double quotes within quotes one is text. -/
def cmdNext : CmdState → Char → CmdState × List Char
  | .betweenWords, c => cmdOutside c
  | .bare, c => cmdOutside c
  | .quoted, c => if c = '"' then (.closing, []) else (.quoted, [c])
  | .closing, c => if c = '"' then (.quoted, ['"']) else cmdOutside c

def cmdReader : WordReader CmdState Char where
  start := .betweenWords
  inWord s := s ≠ .betweenWords
  next? s c := some (cmdNext s c)
  finish? s := if s = .quoted then none else some []

def cmdWords? (cs : List Char) : Option (List (List Char)) :=
  cmdReader.words? cs

/-- The characters between double quotes where every double quote flips the switch, marked by
whether the switch is on. -/
def quotation (on : Bool) : List Char → List (Char × Bool)
  | [] => []
  | c :: rest => if c = '"' then quotation (!on) rest else (c, on) :: quotation on rest

def switchAfter (on : Bool) : List Char → Bool
  | [] => on
  | c :: rest => switchAfter (if c = '"' then !on else on) rest

theorem quotation_append (on : Bool) (first second : List Char) :
    quotation on (first ++ second) =
      quotation on first ++ quotation (switchAfter on first) second := by
  induction first generalizing on with
  | nil => rfl
  | cons c rest ih => by_cases h : c = '"' <;> simp [quotation, switchAfter, h, ih]

end CrossDriver.Shell
