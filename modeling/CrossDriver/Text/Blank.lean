import CrossDriver.Text.CharClass

namespace CrossDriver.Text

def blank : CharClass where
  boundaries := [
    9, 14, 28, 33, 133, 134, 160, 161, 5760, 5761, 8192, 8203, 8232, 8234, 8239, 8240, 8287,
    8288, 12288, 12289]

def isBlank (c : Char) : Bool :=
  blank.contains c

def trimBlank (cs : List Char) : List Char :=
  ((cs.dropWhile isBlank).reverse.dropWhile isBlank).reverse

def strip (s : String) : String :=
  String.ofList (trimBlank s.toList)

end CrossDriver.Text
