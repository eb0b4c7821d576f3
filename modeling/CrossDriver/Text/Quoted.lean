import CrossDriver.Text.CodeUnit
import CrossDriver.Text.Hex
import CrossDriver.Text.Printable

namespace CrossDriver.Text

def quoteMark (cs : List Char) : Char :=
  if cs.contains '\'' && !cs.contains '"' then '"' else '\''

def escapeCode (n : Nat) : List Char :=
  if n < 0x100 then '\\' :: 'x' :: hex 2 n
  else if n < 0x10000 then '\\' :: 'u' :: hex 4 n
  else '\\' :: 'U' :: hex 8 n

def quoteChar (mark c : Char) : List Char :=
  if c = mark ∨ c = '\\' then ['\\', c]
  else if c = '\t' then ['\\', 't']
  else if c = '\n' then ['\\', 'n']
  else if c = '\r' then ['\\', 'r']
  else if isPrintable c then [c]
  else escapeCode c.toNat

def quoteCode (mark : Char) (code : Nat) : List Char :=
  if isHalf code then escapeCode code else quoteChar mark (Char.ofNat code)

def quoted (s : String) : String :=
  let cs := s.toList
  let mark := quoteMark cs
  String.ofList (mark :: (codePoints cs).flatMap (quoteCode mark) ++ [mark])

end CrossDriver.Text
