import CrossDriver.Path
import CrossDriver.Traced

namespace CrossDriver

structure Settings where
  installDir : Option String := some "/usr/bin"
  driverDir : Option String := none
  resourceDir : Option String := none
  clangVersion : Option String := some "17"
  linker : Option String := some "ld.lld"
  triple : Option String := some Triple.defaultText
  deriving DecidableEq, Repr

namespace Settings

inductive Key where
  | installDir
  | driverDir
  | resourceDir
  | clangVersion
  | linker
  | triple
  deriving DecidableEq, Repr

namespace Key

def all : List Key :=
  [.installDir, .driverDir, .resourceDir, .clangVersion, .linker, .triple]

def name : Key → String
  | .installDir => "install_dir"
  | .driverDir => "driver_dir"
  | .resourceDir => "resource_dir"
  | .clangVersion => "clang_version"
  | .linker => "linker"
  | .triple => "triple"

def ofName? (s : String) : Option Key :=
  all.find? (·.name = s)

def variableName? : Key → Option String
  | .installDir => some "KUSHTC_INSTALL_DIR"
  | .driverDir => some "KUSHTC_DRIVER_DIR"
  | .resourceDir => some "KUSHTC_RESOURCE_DIR"
  | .clangVersion => none
  | .linker => some "KUSHTC_LINKER"
  | .triple => some "KUSHTC_TRIPLE"

theorem ofName?_name (key : Key) : ofName? key.name = some key := by
  cases key <;> decide

end Key

def get (s : Settings) : Key → Option String
  | .installDir => s.installDir
  | .driverDir => s.driverDir
  | .resourceDir => s.resourceDir
  | .clangVersion => s.clangVersion
  | .linker => s.linker
  | .triple => s.triple

def put (s : Settings) (value : Option String) : Key → Settings
  | .installDir => { s with installDir := value }
  | .driverDir => { s with driverDir := value }
  | .resourceDir => { s with resourceDir := value }
  | .clangVersion => { s with clangVersion := value }
  | .linker => { s with linker := value }
  | .triple => { s with triple := value }

theorem get_put (s : Settings) (value : Option String) (key other : Key) :
    (s.put value key).get other = if key = other then value else s.get other := by
  cases key <;> cases other <;> rfl

def valueText : Json → Option String
  | .null => none
  | value => some value.asText

def putMember (s : Settings) (member : String × Json) : Settings :=
  match Key.ofName? member.1 with
  | some key => s.put (valueText member.2) key
  | none => s

def ofTable (members : Table Json) : Traced Settings :=
  ⟨(members.keys.filter fun key => (Key.ofName? key).isNone).map .ignoredSetting,
    .ok (members.foldl putMember {})⟩

def toTable (s : Settings) : Table Json :=
  Key.all.map fun key => (key.name, match s.get key with
    | some value => .text value
    | none => .null)

def nonEmpty? (value : Option String) : Option String :=
  value.filter (· ≠ "")

def driverDirectory (s : Settings) : Option String :=
  (nonEmpty? s.driverDir).or s.installDir

def besideInstallation (s : Settings) : Except Fault Path :=
  match s.installDir with
  | some dir => .ok (Path.ofString dir).parent
  | none => .error .absentPath

/-- The directory of the compiler's own headers and archives: the one named, or else the one of the
version beside the installation. -/
def resourceDirectory (s : Settings) : Except Fault String :=
  match nonEmpty? s.resourceDir with
  | some dir => .ok dir
  | none => do
    let base ← s.besideInstallation
    match s.clangVersion with
    | some version => return (((base.join "lib").join "clang").join version).text
    | none => .error .absentPath

end Settings

end CrossDriver
