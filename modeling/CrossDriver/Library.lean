namespace CrossDriver

inductive RuntimeLibrary where
  | compilerRt
  | libgcc
  deriving DecidableEq, Repr

namespace RuntimeLibrary

def name : RuntimeLibrary → String
  | .compilerRt => "compiler-rt"
  | .libgcc => "libgcc"

def ofName? (s : String) : Option RuntimeLibrary :=
  [RuntimeLibrary.compilerRt, .libgcc].find? (·.name = s)

def default : RuntimeLibrary := .compilerRt

theorem ofName?_name (kind : RuntimeLibrary) : ofName? kind.name = some kind := by
  cases kind <;> decide

end RuntimeLibrary

inductive CxxLibrary where
  | libcxx
  | libstdcxx
  deriving DecidableEq, Repr

namespace CxxLibrary

def name : CxxLibrary → String
  | .libcxx => "libc++"
  | .libstdcxx => "libstdc++"

def ofName? (s : String) : Option CxxLibrary :=
  [CxxLibrary.libcxx, .libstdcxx].find? (·.name = s)

def default : CxxLibrary := .libcxx

theorem ofName?_name (kind : CxxLibrary) : ofName? kind.name = some kind := by
  cases kind <;> decide

end CxxLibrary

end CrossDriver
