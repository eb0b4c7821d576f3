import CrossDriver.CommandLine.Run

namespace CrossDriver

open CommandLine

/-- A path whose text has no form in bytes leads nowhere. -/
def lookAt (path : String) : IO Found := do
  if !Text.isProper path then return .missing
  let path := Text.plain path
  try
    discard <| IO.FS.realPath ⟨path⟩
  catch
    | .permissionDenied .. => return .hidden
    | _ => return .missing
  try
    return .file (← IO.FS.readBinFile ⟨path⟩)
  catch
    | .inappropriateType .. => return .directory
    | .permissionDenied .. => return .locked
    | _ => return .missing

def isFile (path : String) : IO Bool := do
  match ← lookAt path with
  | .file _ => return true
  | _ => return false

def settingVariables : IO (Table String) := do
  let mut found : Table String := []
  for name in Settings.Key.all.filterMap Settings.Key.variableName? do
    if let some value ← IO.getEnv name then
      found := found ++ [(name, Text.held value)]
  return found

def surroundings (args : List String) : IO World := do
  let environment ← settingVariables
  let unseen : World :=
    { files := fun _ => .missing, environment, present := fun _ => false, system := "Linux",
      encodes := Text.isProper }
  match Invocation.ofArgs args with
  | .run _ request =>
    let settings ← match request.config with
      | some (some path) => lookAt path
      | _ => pure .missing
    let world := { unseen with files := fun _ => settings }
    let present ← (programCandidates world request).filterM isFile
    return { world with present := present.contains }
  | _ => return unseen

/-- Makes a run and writes what it leaves; the answer is the exit code. -/
def execute (args : List String) : IO UInt32 := do
  let args := args.map Text.held
  let left := written (← surroundings args) args
  IO.print (Text.plain left.output)
  IO.eprint (Text.escaped left.log)
  match left.close with
  | .ended (.exit code) => return code.toUInt32
  | .ended (.uncaught fault) =>
    IO.eprintln (Text.escaped fault.message)
    return 1
  | .unencodable text =>
    IO.eprintln ("cannot be encoded: " ++ Text.escaped text)
    return 1

end CrossDriver

def main (args : List String) : IO UInt32 :=
  CrossDriver.execute args
