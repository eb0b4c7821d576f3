import CrossDriver.Json.Value
import CrossDriver.Text.Lines

/-!
# Reading data files

A reader for data files that names the first thing it cannot read and the place of it. Beside the
standard grammar it knows the numbers `NaN`, `Infinity` and `-Infinity`; of members with one name
the last counts. Lists and objects may be nested in each other up to a number of levels.

Reading goes over the characters that remain. A place is remembered by how many characters remain
there, so that only the end of reading needs the length of the whole text.
-/

namespace CrossDriver.Json

/-! ## Errors -/

inductive Problem where
  | byteOrderMark
  | missingValue
  | missingName
  | missingColon
  | missingComma
  | extraData
  | unterminatedText
  | controlCharacter
  | unknownEscape
  | brokenCodeEscape
  deriving DecidableEq, Repr

/-- How far data is read: how many levels may be opened, and how many digits an integer may have.
Both are set by what surrounds the reader. -/
structure Limits where
  levels : Nat := 985
  digits : Nat := 4300
  deriving DecidableEq, Repr

def Limits.inner (l : Limits) : Limits :=
  { l with levels := l.levels - 1 }

theorem Limits.levels_inner (l : Limits) : l.inner.levels = l.levels - 1 := rfl

structure LongInteger where
  digits : Nat
  limit : Nat
  deriving DecidableEq, Repr

inductive Stop where
  | found (problem : Problem) (remaining : Nat)
  | longInteger (excess : LongInteger)
  | tooDeep
  deriving DecidableEq, Repr

/-- Why a text is no data file: a problem at an offset, line and column, or an integer of more
digits, or a list or object on a deeper level, than are read. -/
inductive ReadError where
  | malformed (problem : Problem) (offset line column : Nat)
  | longInteger (excess : LongInteger)
  | tooDeep
  deriving DecidableEq, Repr

def Problem.text : Problem → String
  | .byteOrderMark => "Unexpected UTF-8 BOM (decode using utf-8-sig)"
  | .missingValue => "Expecting value"
  | .missingName => "Expecting property name enclosed in double quotes"
  | .missingColon => "Expecting ':' delimiter"
  | .missingComma => "Expecting ',' delimiter"
  | .extraData => "Extra data"
  | .unterminatedText => "Unterminated string starting at"
  | .controlCharacter => "Invalid control character at"
  | .unknownEscape => "Invalid \\escape"
  | .brokenCodeEscape => "Invalid \\uXXXX escape"

def ReadError.message : ReadError → String
  | .malformed problem offset line column =>
    problem.text ++ ": line " ++ toString line ++ " column " ++ toString column ++
      " (char " ++ toString offset ++ ")"
  | .longInteger excess =>
    "Exceeds the limit (" ++ toString excess.limit ++
      " digits) for integer string conversion: value has " ++ toString excess.digits ++
      " digits; use sys.set_int_max_str_digits() to increase the limit"
  | .tooDeep => "Nested in too many levels"

def stopAt {α : Type} (problem : Problem) (rest : List Char) : Except Stop α :=
  .error (.found problem rest.length)

/-! ## Blanks, words and numbers -/

def isSpace (c : Char) : Bool :=
  c = ' ' || c = '\t' || c = '\n' || c = '\r'

def skipSpace (cs : List Char) : List Char :=
  cs.dropWhile isSpace

def words : List (List Char × Json) := [
  (['n', 'u', 'l', 'l'], .null),
  (['t', 'r', 'u', 'e'], .bool true),
  (['f', 'a', 'l', 's', 'e'], .bool false),
  (['N', 'a', 'N'], .real .nan),
  (['I', 'n', 'f', 'i', 'n', 'i', 't', 'y'], .real (.infinite false)),
  (['-', 'I', 'n', 'f', 'i', 'n', 'i', 't', 'y'], .real (.infinite true))]

def readWord (cs : List Char) : Option (Json × List Char) :=
  words.findSome? fun (word, value) =>
    if word.isPrefixOf cs then some (value, cs.drop word.length) else none

def digits (cs : List Char) : List Char × List Char :=
  (cs.takeWhile Char.isDigit, cs.dropWhile Char.isDigit)

def natOf (ds : List Char) : Nat :=
  ds.foldl (fun n d => 10 * n + (d.toNat - 48)) 0

def wholeDigits : List Char → List Char × List Char
  | '0' :: rest => (['0'], rest)
  | cs => digits cs

def fractionDigits (cs : List Char) : Option (List Char × List Char) :=
  match cs with
  | '.' :: rest => if (digits rest).1.isEmpty then none else some (digits rest)
  | _ => none

def exponentPart (cs : List Char) : Option (Int × List Char) :=
  match cs with
  | mark :: rest =>
    if mark = 'e' ∨ mark = 'E' then
      let (negative, rest) := match rest with
        | '-' :: r => (true, r)
        | '+' :: r => (false, r)
        | r => (false, r)
      if (digits rest).1.isEmpty then none
      else
        let size : Int := natOf (digits rest).1
        some (if negative then -size else size, (digits rest).2)
    else none
  | [] => none

def readNumber (room : Limits) (cs : List Char) : Except Stop (Json × List Char) :=
  let (negative, unsigned) := match cs with
    | '-' :: r => (true, r)
    | r => (false, r)
  let (whole, rest) := wholeDigits unsigned
  if whole.isEmpty then stopAt .missingValue cs
  else
    let fraction := fractionDigits rest
    let rest := (fraction.map Prod.snd).getD rest
    let exponent := exponentPart rest
    let rest := (exponent.map Prod.snd).getD rest
    match fraction, exponent with
    | none, none =>
      if room.digits < whole.length then .error (.longInteger ⟨whole.length, room.digits⟩)
      else
        let n : Int := natOf whole
        .ok (.integer (if negative then -n else n), rest)
    | _, _ =>
      let ds := (fraction.map Prod.fst).getD []
      let power := (exponent.map Prod.fst).getD 0
      .ok (.real (.ofDecimal negative (natOf (whole ++ ds)) (whole ++ ds).length
        (power - ds.length)), rest)

/-! ## Texts -/

def plainEscape : Char → Option Char
  | '"' => some '"'
  | '\\' => some '\\'
  | '/' => some '/'
  | 'b' => some '\x08'
  | 'f' => some '\x0c'
  | 'n' => some '\n'
  | 'r' => some '\r'
  | 't' => some '\t'
  | _ => none

def codeUnit? (a b c d : Char) : Option Nat :=
  match Text.hexValue? a, Text.hexValue? b, Text.hexValue? c, Text.hexValue? d with
  | some a, some b, some c, some d => some (((a * 16 + b) * 16 + c) * 16 + d)
  | _, _, _, _ => none

/-- What a code escape stands for, given what follows its letter `u`. A first half takes a second
half that follows at once, provided that more of the text follows. -/
def codeEscape : List Char → Except Stop (List Char × List Char)
  | a :: b :: c :: d :: next :: more =>
    match codeUnit? a b c d with
    | none => stopAt .brokenCodeEscape ('u' :: a :: b :: c :: d :: next :: more)
    | some unit =>
      if Text.isHighHalf unit then
        match next, more with
        | '\\', 'u' :: e :: f :: g :: h :: last :: rest =>
          match codeUnit? e f g h with
          | none => stopAt .brokenCodeEscape ('u' :: e :: f :: g :: h :: last :: rest)
          | some low =>
            if Text.isLowHalf low then
              .ok (Text.holdChar (Char.ofNat (Text.pairCode unit low)), last :: rest)
            else .ok (Text.unitText unit, next :: more)
        | _, _ => .ok (Text.unitText unit, next :: more)
      else .ok (Text.unitText unit, next :: more)
  | cs => stopAt .brokenCodeEscape ('u' :: cs)

def readText (opened : Nat) : (fuel : Nat) → List Char → Except Stop (List Char × List Char)
  | 0, _ => .error (.found .unterminatedText opened)
  | _, [] => .error (.found .unterminatedText opened)
  | fuel + 1, c :: rest =>
    if c = '"' then .ok ([], rest)
    else if c = '\\' then
      match rest with
      | [] => .error (.found .unterminatedText opened)
      | 'u' :: more => do
        let (first, rest) ← codeEscape more
        let (chars, rest) ← readText opened fuel rest
        return (first ++ chars, rest)
      | mark :: more =>
        match plainEscape mark with
        | none => stopAt .unknownEscape (c :: rest)
        | some char => do
          let (chars, rest) ← readText opened fuel more
          return (char :: chars, rest)
    else if c.toNat ≤ 0x1f then stopAt .controlCharacter (c :: rest)
    else do
      let (chars, rest) ← readText opened fuel rest
      return (Text.holdChar c ++ chars, rest)

def readTextBehind (rest : List Char) : Except Stop (String × List Char) := do
  let (chars, rest) ← readText (rest.length + 1) (rest.length + 1) rest
  return (String.ofList chars, rest)

/-! ## Values -/

mutual

/-- The value at the start of the text; `fuel` bounds the number of steps, and `room` is what is left
of the limits. -/
def readValue : (room : Limits) → (fuel : Nat) → List Char → Except Stop (Json × List Char)
  | _, 0, cs => stopAt .missingValue cs
  | room, fuel + 1, cs =>
    match cs with
    | '"' :: rest => do
      let (s, rest) ← readTextBehind rest
      return (.text s, rest)
    | '\x7b' :: rest =>
      if room.levels = 0 then .error .tooDeep
      else match skipSpace rest with
      | '\x7d' :: rest => .ok (.object [], rest)
      | rest => do
        let (members, rest) ← readMembers room.inner fuel rest
        return (.object (Table.ofList members), rest)
    | '[' :: rest =>
      if room.levels = 0 then .error .tooDeep
      else match skipSpace rest with
      | ']' :: rest => .ok (.array [], rest)
      | rest => do
        let (items, rest) ← readItems room.inner fuel rest
        return (.array items, rest)
    | cs =>
      match readWord cs with
      | some found => .ok found
      | none => readNumber room cs

def readItems : (room : Limits) → (fuel : Nat) → List Char → Except Stop (List Json × List Char)
  | _, 0, cs => stopAt .missingValue cs
  | room, fuel + 1, cs => do
    let (item, rest) ← readValue room fuel cs
    match skipSpace rest with
    | ']' :: rest => return ([item], rest)
    | ',' :: rest => do
      let (items, rest) ← readItems room fuel (skipSpace rest)
      return (item :: items, rest)
    | rest => stopAt .missingComma rest

def readMembers : (room : Limits) → (fuel : Nat) → List Char →
    Except Stop (List (String × Json) × List Char)
  | _, 0, cs => stopAt .missingName cs
  | room, fuel + 1, cs =>
    match cs with
    | '"' :: rest => do
      let (key, rest) ← readTextBehind rest
      match skipSpace rest with
      | ':' :: rest => do
        let (value, rest) ← readValue room fuel (skipSpace rest)
        match skipSpace rest with
        | '\x7d' :: rest => return ([(key, value)], rest)
        | ',' :: rest => do
          let (members, rest) ← readMembers room fuel (skipSpace rest)
          return ((key, value) :: members, rest)
        | rest => stopAt .missingComma rest
      | rest => stopAt .missingColon rest
    | cs => stopAt .missingName cs

end

def readWhole (room : Limits) (cs : List Char) : Except Stop Json := do
  if cs.head? = some '\uFEFF' then stopAt .byteOrderMark cs
  else
    let (value, rest) ← readValue room (2 * cs.length + 1) (skipSpace cs)
    let rest := skipSpace rest
    if rest.isEmpty then return value else stopAt .extraData rest

def Stop.toError (cs : List Char) : Stop → ReadError
  | .found problem remaining =>
    let offset := cs.length - remaining
    let (line, column) := Text.lineAndColumn (cs.take offset)
    .malformed problem offset line column
  | .longInteger excess => .longInteger excess
  | .tooDeep => .tooDeep

def read (cs : List Char) (room : Limits := {}) : Except ReadError Json :=
  (readWhole room cs).mapError (Stop.toError cs)

end CrossDriver.Json
