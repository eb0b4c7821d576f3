import CrossDriver.Traced

namespace CrossDriver.Config

def presets (cxx pieDefault : Bool) : List Assignment :=
  [.switch .cxx cxx, .switch .pieDefault pieDefault]

/-- Reports go to the engine that is given, be it empty or not, or else to a new one. -/
def parseWith (l : OptionLookup) (argv : List String) (cxx pieDefault : Bool)
    (given : Option Engine := none) (fresh : Engine := 0) : Traced Config :=
  let engine := given.getD fresh
  let items := l.scan argv
  let reports := items.filterMap ArgItem.diagnostic?
  let edits := (presets cxx pieDefault).map Edit.assign ++ items.filterMap ArgItem.edit?
  match items.findSome? ArgItem.missingValue? with
  | some option => ⟨reports.map (.reported engine), .error (.missingValue option)⟩
  | none =>
    ⟨reports.map (.reported engine) ++
        [.parsedArguments argv.length (edits.filterMap Edit.assignment?)],
      .ok (({} : Config).edits edits)⟩

def parse (argv : List String) (cxx pieDefault : Bool) (given : Option Engine := none)
    (fresh : Engine := 0) : Traced Config :=
  parseWith .standard argv cxx pieDefault given fresh

theorem diagnostics_parseWith (l : OptionLookup) (argv : List String) (cxx pieDefault : Bool)
    (given : Option Engine) (fresh : Engine) :
    (parseWith l argv cxx pieDefault given fresh).diagnostics =
      (l.scan argv).filterMap ArgItem.diagnostic? := by
  have h (e : Engine) (ds : Diagnostics) :
      ds.filterMap (Event.diagnostic? ∘ Event.reported e) = ds := by
    induction ds with
    | nil => rfl
    | cons d rest ih => simp [Event.diagnostic?, ih]
  simp only [parseWith]
  split <;> simp [Traced.diagnostics, List.filterMap_map, List.filterMap_append, h,
    Event.diagnostic?]

end CrossDriver.Config
