import CrossDriver.Json.Value

namespace CrossDriver.Json

def unitEscape (n : Nat) : List Char :=
  '\\' :: 'u' :: Text.hex 4 n

def writeChar (c : Char) : List Char :=
  if c = '"' ∨ c = '\\' then ['\\', c]
  else if c = '\n' then ['\\', 'n']
  else if c = '\r' then ['\\', 'r']
  else if c = '\t' then ['\\', 't']
  else if c = '\x0c' then ['\\', 'f']
  else if c = '\x08' then ['\\', 'b']
  else if 0x20 ≤ c.toNat ∧ c.toNat ≤ 0x7e then [c]
  else if Text.codeOf c < 0x10000 then unitEscape (Text.codeOf c)
  else unitEscape (Text.halves c.toNat).1 ++ unitEscape (Text.halves c.toNat).2

def writeText (s : String) : List Char :=
  '"' :: s.toList.flatMap writeChar ++ ['"']

def writeReal : Number.Binary64 → List Char
  | .nan => "NaN".toList
  | .infinite negative => (if negative then "-Infinity" else "Infinity").toList
  | x => x.text.toList

def newLine (level : Nat) : List Char :=
  '\n' :: List.replicate (2 * level) ' '

mutual

def writeAt (level : Nat) : Json → List Char
  | .null => "null".toList
  | .bool b => (if b then "true" else "false").toList
  | .integer n => integerChars n
  | .real x => writeReal x
  | .text s => writeText s
  | .array [] => ['[', ']']
  | .array (item :: items) =>
    '[' :: newLine (level + 1) ++ writeAt (level + 1) item ++ writeItems level items
  | .object [] => ['\x7b', '\x7d']
  | .object ((key, value) :: members) =>
    '\x7b' :: newLine (level + 1) ++ writeText key ++ ':' :: ' ' :: writeAt (level + 1) value ++
      writeMembers level members

def writeItems (level : Nat) : List Json → List Char
  | [] => newLine level ++ [']']
  | item :: items =>
    ',' :: newLine (level + 1) ++ writeAt (level + 1) item ++ writeItems level items

def writeMembers (level : Nat) : List (String × Json) → List Char
  | [] => newLine level ++ ['\x7d']
  | (key, value) :: members =>
    ',' :: newLine (level + 1) ++ writeText key ++ ':' :: ' ' :: writeAt (level + 1) value ++
      writeMembers level members

end

def write (value : Json) : String :=
  String.ofList (value.writeAt 0)

end CrossDriver.Json
