namespace CrossDriver

inductive LinkMode where
  | static
  | dynamic
  deriving DecidableEq, Repr

namespace LinkMode

def name : LinkMode → String
  | .static => "static"
  | .dynamic => "dynamic"

def ofName? (s : String) : Option LinkMode :=
  [LinkMode.static, .dynamic].find? (·.name = s)

theorem ofName?_name (m : LinkMode) : ofName? m.name = some m := by
  cases m <;> decide

end LinkMode

inductive LtoMode where
  | none
  | thin
  | full
  deriving DecidableEq, Repr

namespace LtoMode

def name : LtoMode → String
  | .none => "none"
  | .thin => "thin"
  | .full => "full"

def ofName? (s : String) : Option LtoMode :=
  [LtoMode.none, .thin, .full].find? (·.name = s)

def ofFlag? (s : String) : Option LtoMode :=
  [LtoMode.thin, .full].find? (·.name = s)

theorem ofName?_name (m : LtoMode) : ofName? m.name = some m := by
  cases m <;> decide

end LtoMode

end CrossDriver
