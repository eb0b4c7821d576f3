import CrossDriver.Number.Text
import CrossDriver.Table
import CrossDriver.Text.Quoted

namespace CrossDriver

inductive Json where
  | null
  | bool (b : Bool)
  | integer (n : Int)
  | real (x : Number.Binary64)
  | text (s : String)
  | array (items : List Json)
  | object (members : List (String × Json))
  deriving Repr

namespace Json

def integerChars (n : Int) : List Char :=
  (if n < 0 then ['-'] else []) ++ Number.digitsOf n.natAbs

mutual

def shown : Json → List Char
  | .null => "None".toList
  | .bool b => (if b then "True" else "False").toList
  | .integer n => integerChars n
  | .real x => x.text.toList
  | .text s => (Text.quoted s).toList
  | .array items => '[' :: shownItems items
  | .object members => '\x7b' :: shownMembers members

def shownItems : List Json → List Char
  | [] => [']']
  | [item] => shown item ++ [']']
  | item :: rest => shown item ++ ',' :: ' ' :: shownItems rest

def shownMembers : List (String × Json) → List Char
  | [] => ['\x7d']
  | [(key, value)] => (Text.quoted key).toList ++ ':' :: ' ' :: shown value ++ ['\x7d']
  | (key, value) :: rest =>
    (Text.quoted key).toList ++ ':' :: ' ' :: shown value ++ ',' :: ' ' :: shownMembers rest

end

def asText : Json → String
  | .text s => s
  | value => String.ofList value.shown

end Json

end CrossDriver
