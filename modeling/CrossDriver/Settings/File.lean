import CrossDriver.FileTree
import CrossDriver.Json.Writer
import CrossDriver.Settings.Basic

namespace CrossDriver.Settings

def parseMembers (limits : Json.Limits) (path text : String) : Except Fault (Table Json) :=
  match Json.read (Text.unifyLineEnds text.toList) limits with
  | .ok (.object members) => .ok members
  | .ok _ => .error (.settingsNotAnObject path)
  | .error (.malformed problem offset line column) =>
    .error (.settingsUnreadable path (.malformed problem offset line column))
  | .error (.longInteger excess) => .error (.settingsLongInteger excess)
  | .error .tooDeep => .error .settingsTooDeep

def lookUp (files : FileView) (path : String) (limits : Json.Limits := {}) :
    Except Fault (Table Json) :=
  let p := Path.ofString path
  match files p with
  | .missing => .error (.settingsMissing p.text)
  | .directory => .error (.settingsUnreadable p.text .isADirectory)
  | .nameTooLong => .error (.file .nameTooLong)
  | .locked => .error (.settingsUnreadable p.text .notPermitted)
  | .hidden => .error (.settingsUnreadable p.text .hidden)
  | .file bytes =>
    match String.fromUTF8? bytes with
    | none => .error .settingsNotText
    | some text => parseMembers limits p.text text

def override? (environment : Table String) (key : Key) : Option (Key × String × String) := do
  let name ← key.variableName?
  let value ← nonEmpty? (environment.get? name)
  return (key, name, value)

def override (environment : Table String) (members : Table Json) : Traced (Table Json) :=
  let overrides := Key.all.filterMap (override? environment)
  ⟨overrides.map fun (_, name, value) => .overriddenSetting name value,
    .ok (overrides.foldl (fun t (key, _, value) => t.put key.name (.text value)) members)⟩

def loadMembers (files : FileView) (limits : Json.Limits) : Option String → Traced (Table Json)
  | none => pure []
  | some path => do
    let members ← Traced.ofExcept (lookUp files path limits)
    Traced.emit (.loadedSettings path)
    return members

def load (files : FileView) (path : Option String) (environment : Table String)
    (limits : Json.Limits := {}) : Traced Settings := do
  let members ← loadMembers files limits path
  let members ← override environment members
  ofTable members

def fileText (s : Settings) : String :=
  (Json.object s.toTable).write ++ "\n"

def save (s : Settings) (tree : FileTree) (path : String) : Except FileObstacle FileTree :=
  tree.write (.ofString path) s.fileText.toUTF8

end CrossDriver.Settings
