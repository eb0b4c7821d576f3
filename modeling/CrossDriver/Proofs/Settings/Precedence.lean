import CrossDriver.Proofs.Settings.Load
import CrossDriver.Proofs.Settings.LookUp

namespace CrossDriver.Settings

/-- The file holds an object that is written with these members; without a file there are none. -/
def Describes (files : FileView) (limits : Json.Limits) : Option String → List (String × Json) → Prop
  | none, entries => entries = []
  | some path, entries => ∃ cs members, Holds files path cs ∧
      Json.read cs limits = .ok (.object members) ∧ Json.writtenMembers? limits cs = some entries

def Key.overridable : List Key :=
  [.installDir, .driverDir, .resourceDir, .linker, .triple]

/-- What the variable for a setting holds; an empty variable counts as one that is not set. -/
def variableValue? (environment : Table String) (key : Key) : Option String :=
  if key ∈ Key.overridable then
    (environment.get? ("KUSHTC_" ++ key.name.toUpper)).filter (· ≠ "")
  else none

theorem variableName?_eq (key : Key) :
    key.variableName? =
      if key ∈ Key.overridable then some ("KUSHTC_" ++ key.name.toUpper) else none := by
  cases key <;> decide +kernel

theorem fromEnvironment?_eq (environment : Table String) (key : Key) :
    fromEnvironment? environment key = variableValue? environment key := by
  rw [fromEnvironment?, variableName?_eq, variableValue?]
  split <;> rfl

theorem result_load_of_describes {files : FileView} {limits : Json.Limits} {path : Option String}
    {entries : List (String × Json)} (described : Describes files limits path entries)
    (environment : Table String) :
    (load files path environment limits).result = .ok (settled environment (Table.ofList entries)) := by
  cases path with
  | none =>
    obtain rfl : entries = [] := described
    rw [result_load, result_loadMembers]
    rfl
  | some path =>
    obtain ⟨cs, members, holds, read, written⟩ := described
    obtain ⟨found, same, rfl⟩ := Json.exists_of_read_object read
    cases same.symm.trans written
    have members_found : lookUp files path limits = .ok (Table.ofList entries) := by
      rw [lookUp_of_holds holds, read]
    exact result_load_of_lookUp members_found environment

theorem get_settled_ofList (environment : Table String) (entries : List (String × Json))
    (key : Key) :
    (settled environment (Table.ofList entries)).get key =
      match variableValue? environment key, Table.last? entries key.name with
      | some value, _ => some value
      | none, some .null => none
      | none, some value => some value.asText
      | none, none => ({} : Settings).get key := by
  rw [get_settled environment (Table.nodup_keys_ofList entries), fromEnvironment?_eq,
    Table.get?_ofList]
  cases variableValue? environment key with
  | some value => rfl
  | none =>
    cases Table.last? entries key.name with
    | none => rfl
    | some value => cases value <;> rfl

/-- A setting is what its variable holds, or else what the last member of its name in the file
stands for, or else what is built in. Other members and other variables have no part in it. -/
theorem get_load {files : FileView} {limits : Json.Limits} {path : Option String}
    {entries : List (String × Json)} (described : Describes files limits path entries)
    (environment : Table String) :
    ∃ s, (load files path environment limits).result = .ok s ∧
      (∀ key, s.get key =
        match variableValue? environment key, Table.last? entries key.name with
        | some value, _ => some value
        | none, some .null => none
        | none, some value => some value.asText
        | none, none => ({} : Settings).get key) ∧
      ∀ view deep source others surroundings, Describes view deep source others →
        (∀ key : Key, Table.last? others key.name = Table.last? entries key.name) →
        (∀ key, variableValue? surroundings key = variableValue? environment key) →
        (load view source surroundings deep).result = .ok s := by
  refine ⟨_, result_load_of_describes described environment,
    get_settled_ofList environment entries, ?_⟩
  intro view deep source others surroundings also same_members same_overrides
  rw [result_load_of_describes also]
  apply congrArg Except.ok
  apply eq_of_get
  intro key
  rw [get_settled_ofList, get_settled_ofList, same_members, same_overrides]

theorem get_load_repeated_member :
    let text :=
      "\x7b\"linker\": 1, \"driver_dir\": null, \"triple\": null, \"linker\": [true], \"v\": 18\x7d"
    let environment : Table String := [("KUSHTC_DRIVER_DIR", "/env"), ("KUSHTC_LINKER", ""),
      ("KUSHTC_CLANG_VERSION", "19")]
    (load (fun _ => .file text.toUTF8) (some "s.json") environment).result =
      .ok { driverDir := some "/env", linker := some "[True]", triple := none } := by
  intro text environment
  -- The characters are taken from the literal, since decoding its bytes is slow.
  obtain ⟨cs, chars, readable, last⟩ : ∃ cs, Text.unifyLineEnds text.toList = cs ∧
      (Json.read cs).toOption.isSome ∧
      ∀ key : Key, (Json.writtenMembers? {} cs).map
        (fun entries => (Table.last? entries key.name).map valueText) =
        some (if key = .linker then some (some "[True]")
          else if key = .driverDir ∨ key = .triple then some none else none) :=
    ⟨_, congrArg Text.unifyLineEnds String.toList_ofList, by decide +kernel, fun key => by
      cases key <;> decide +kernel⟩
  have holds : Holds (fun _ => .file text.toUTF8) "s.json" cs :=
    ⟨_, _, rfl, fromUTF8?_toUTF8 text, chars⟩
  obtain ⟨entries, written, -⟩ := Option.map_eq_some_iff.mp (last .linker)
  obtain ⟨members, read⟩ : ∃ members, Json.read cs = .ok (.object members) := by
    cases read : Json.read cs with
    | error stop =>
      rw [read] at readable
      cases readable
    | ok value =>
      obtain ⟨members, rfl⟩ := Json.eq_object_of_writtenMembers? written read
      exact ⟨members, rfl⟩
  have described :
      Describes (fun _ => .file text.toUTF8) {} (some "s.json") entries :=
    ⟨cs, members, holds, read, written⟩
  obtain ⟨s, loaded, sources, -⟩ := get_load described environment
  have overrides (key : Key) :
      variableValue? environment key = if key = .driverDir then some "/env" else none := by
    cases key <;> decide +kernel
  refine loaded.trans (congrArg Except.ok (eq_of_get fun key => ?_))
  have own := last key
  rw [written, Option.map_some, Option.some.injEq] at own
  rw [sources, overrides]
  cases key with
  | driverDir => rfl
  | linker | triple =>
    obtain ⟨value, found, shown⟩ := Option.map_eq_some_iff.mp own
    rw [found]
    cases value <;> exact shown
  | installDir | resourceDir | clangVersion =>
    rw [Option.map_eq_none_iff.mp own]
    rfl

end CrossDriver.Settings
