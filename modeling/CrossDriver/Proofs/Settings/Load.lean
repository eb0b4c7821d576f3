import CrossDriver.Proofs.Json.Members
import CrossDriver.Settings.File

namespace CrossDriver

namespace Settings

def settled (environment : Table String) (members : Table Json) : Settings :=
  ((Key.all.filterMap (override? environment)).foldl
    (fun t (key, _, value) => t.put key.name (.text value)) members).foldl putMember {}

theorem result_loadMembers (files : FileView) (limits : Json.Limits) (path : Option String) :
    (loadMembers files limits path).result =
      match path with
      | none => .ok []
      | some path => lookUp files path limits := by
  cases path with
  | none => rfl
  | some path =>
    rw [loadMembers, Traced.result_bind, Traced.result_ofExcept]
    dsimp only
    cases lookUp files path limits <;> rfl

theorem diagnostics_loadMembers (files : FileView) (limits : Json.Limits) (path : Option String) :
    (loadMembers files limits path).diagnostics = [] := by
  cases path with
  | none => rfl
  | some path =>
    rw [loadMembers, Traced.diagnostics_bind, Traced.result_ofExcept]
    cases lookUp files path limits <;> rfl

theorem diagnostics_override (environment : Table String) (members : Table Json) :
    (override environment members).diagnostics = [] := by
  simp [override, Traced.diagnostics, List.filterMap_map, Function.comp_def, Event.diagnostic?]

theorem diagnostics_ofTable (members : Table Json) : (ofTable members).diagnostics = [] := by
  simp [ofTable, Traced.diagnostics, List.filterMap_map, Function.comp_def, Event.diagnostic?]

theorem result_load (files : FileView) (path : Option String) (environment : Table String)
    (limits : Json.Limits) :
    (load files path environment limits).result =
      (loadMembers files limits path).result.map (settled environment) := by
  rw [load, Traced.result_bind]
  cases (loadMembers files limits path).result <;> rfl

theorem result_load_of_lookUp {files : FileView} {limits : Json.Limits} {path : String}
    {members : Table Json} (found : lookUp files path limits = .ok members)
    (environment : Table String) :
    (load files (some path) environment limits).result = .ok (settled environment members) := by
  rw [result_load, result_loadMembers]
  dsimp only
  rw [found]
  rfl

theorem diagnostics_load (files : FileView) (path : Option String) (environment : Table String)
    (limits : Json.Limits) : (load files path environment limits).diagnostics = [] := by
  rw [load, Traced.diagnostics_bind, diagnostics_loadMembers]
  cases (loadMembers files limits path).result with
  | error fault => rfl
  | ok members =>
    dsimp only
    rw [Traced.diagnostics_bind, diagnostics_override]
    exact diagnostics_ofTable _

/-! ## Where a setting comes from -/

theorem eq_of_get {s t : Settings} (same : ∀ key, s.get key = t.get key) : s = t := by
  have installDir : s.installDir = t.installDir := same .installDir
  have driverDir : s.driverDir = t.driverDir := same .driverDir
  have resourceDir : s.resourceDir = t.resourceDir := same .resourceDir
  have clangVersion : s.clangVersion = t.clangVersion := same .clangVersion
  have linker : s.linker = t.linker := same .linker
  have triple : s.triple = t.triple := same .triple
  cases s
  cases t
  simp_all

theorem Key.eq_of_name {key other : Key} (same : key.name = other.name) : key = other := by
  have named := Key.ofName?_name key
  rw [same, Key.ofName?_name] at named
  exact (Option.some.inj named).symm

def fromEnvironment? (environment : Table String) (key : Key) : Option String :=
  key.variableName?.bind fun name => nonEmpty? (environment.get? name)

theorem override?_cases (environment : Table String) (key : Key) :
    (override? environment key = none ∧ fromEnvironment? environment key = none) ∨
      ∃ name value, override? environment key = some (key, name, value) ∧
        fromEnvironment? environment key = some value := by
  unfold override? fromEnvironment?
  cases key.variableName? with
  | none => exact .inl ⟨rfl, rfl⟩
  | some name =>
    cases given : nonEmpty? (environment.get? name) with
    | none => exact .inl (by simp [given])
    | some value => exact .inr ⟨name, value, by simp [given]⟩

theorem get?_overrides (environment : Table String) {keys : List Key} (distinct : keys.Nodup)
    (members : Table Json) (key : Key) :
    ((keys.filterMap (override? environment)).foldl
        (fun t (key, _, value) => t.put key.name (.text value)) members).get? key.name =
      if key ∈ keys then
        ((fromEnvironment? environment key).map Json.text).or (members.get? key.name)
      else members.get? key.name := by
  induction keys generalizing members with
  | nil => simp
  | cons first rest ih =>
    obtain ⟨fresh, distinct⟩ := List.nodup_cons.mp distinct
    rcases override?_cases environment first with ⟨unset, silent⟩ | ⟨name, value, set, tells⟩
    · rw [List.filterMap_cons_none unset, ih distinct]
      by_cases own : key = first
      · simp [own, fresh, silent]
      · simp [own]
    · rw [List.filterMap_cons_some set, List.foldl_cons, ih distinct, Table.get?_put]
      by_cases own : key = first
      · simp [own, fresh, tells]
      · have other : first.name ≠ key.name := fun same => own (Key.eq_of_name same).symm
        simp [own, other]

theorem get_putMember_of_ne {name : String} {key : Key} (other : name ≠ key.name) (s : Settings)
    (value : Json) : (s.putMember (name, value)).get key = s.get key := by
  rw [putMember]
  cases meant : Key.ofName? name with
  | none => rfl
  | some found =>
    have named : found.name = name := by simpa using List.find?_some meant
    have distinct : found ≠ key := fun same => other (by rw [← named, same])
    simp [get_put, distinct]

theorem get_foldl_putMember {members : Table Json} (unique : members.keys.Nodup) (s : Settings)
    (key : Key) :
    (members.foldl putMember s).get key =
      match members.get? key.name with
      | some value => valueText value
      | none => s.get key := by
  induction members generalizing s with
  | nil => rfl
  | cons member rest ih =>
    obtain ⟨name, value⟩ := member
    obtain ⟨fresh, unique⟩ := List.nodup_cons.mp unique
    rw [List.foldl_cons, ih unique, Table.get?]
    by_cases own : name = key.name
    · subst own
      have absent : Table.get? rest key.name = none := Table.get?_eq_none_iff.mpr fresh
      simp [absent, putMember, Key.ofName?_name, get_put]
    · simp [own, get_putMember_of_ne own]

theorem nodup_keys_overrides (environment : Table String) (keys : List Key) {members : Table Json}
    (unique : members.keys.Nodup) :
    ((keys.filterMap (override? environment)).foldl
      (fun t (key, _, value) => t.put key.name (.text value)) members).keys.Nodup := by
  induction keys.filterMap (override? environment) generalizing members with
  | nil => exact unique
  | cons first rest ih => exact ih (Table.nodup_keys_put unique _ _)

theorem get_settled (environment : Table String) {members : Table Json}
    (unique : members.keys.Nodup) (key : Key) :
    (settled environment members).get key =
      match fromEnvironment? environment key, members.get? key.name with
      | some value, _ => some value
      | none, some value => valueText value
      | none, none => ({} : Settings).get key := by
  have all_distinct : Key.all.Nodup := by decide
  have mem : key ∈ Key.all := by cases key <;> decide
  rw [settled, get_foldl_putMember (nodup_keys_overrides _ _ unique), get?_overrides _ all_distinct,
    if_pos mem]
  cases fromEnvironment? environment key with
  | some value => rfl
  | none => cases members.get? key.name <;> rfl

theorem valueText_eq_none_iff {value : Json} : valueText value = none ↔ value = .null := by
  cases value <;> simp [valueText]

/-- The file leaves the entry empty, and no variable takes its place. -/
def Vacant (environment : Table String) (members : Table Json) (key : Key) : Prop :=
  members.get? key.name = some .null ∧ fromEnvironment? environment key = none

theorem vacant_of_get_settled {environment : Table String} {members : Table Json}
    (unique : members.keys.Nodup) {key : Key} (built_in : ({} : Settings).get key ≠ none)
    (absent : (settled environment members).get key = none) : Vacant environment members key := by
  rw [get_settled environment unique] at absent
  split at absent
  · cases absent
  case h_2 unset given =>
    rw [valueText_eq_none_iff] at absent
    exact ⟨absent ▸ given, unset⟩
  · exact absurd absent built_in

end Settings

end CrossDriver
